import PropFormula.Formula.Walk

namespace PropFormula

def variableCollector : Walker Fault (List String) where
  handle formula :=
    match formula.label with
    | .var name => modify (fun names => names ++ [name])
    | _ => pure ()

-- Neighbours alone are compared, which is enough on a sorted list.
def dropRepeats : List String → List String
  | [] => []
  | [name] => [name]
  | name :: next :: rest =>
    if name = next then dropRepeats (next :: rest) else name :: dropRepeats (next :: rest)

theorem mem_dropRepeats (name : String) (names : List String) :
    name ∈ dropRepeats names ↔ name ∈ names := by
  fun_induction dropRepeats names with
  | case1 => simp
  | case2 => simp
  | case3 first rest ih => simp [ih]
  | case4 first next rest _ ih => simp [ih]

namespace Formula

def occurrences (formula : Formula) : List String :=
  match (variableCollector.traverse formula).run [] with
  | .ok _ names => names
  | .error _ names => names

def variableNames (formula : Formula) : List String :=
  dropRepeats (formula.occurrences.mergeSort (fun a b => decide (a ≤ b)))

theorem mem_variableNames (name : String) (formula : Formula) :
    name ∈ formula.variableNames ↔ name ∈ formula.occurrences := by
  rw [variableNames,mem_dropRepeats,List.mem_mergeSort]

end Formula
end PropFormula
