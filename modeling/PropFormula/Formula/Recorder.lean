import PropFormula.Formula.Walk

namespace PropFormula

structure Summary where
  kind : Kind
  name : String
  count : Nat
  deriving DecidableEq, Repr

def Formula.summary (formula : Formula) : Summary :=
  ⟨formula.kind,formula.name,formula.operands.length⟩

def Formula.nodes (formula : Formula) : List Summary := formula.preorder.map Formula.summary

-- Where to descend, and when to raise the stop flag. The flag stays raised, but it does not cut short the
-- descent that is under way.
structure Recorder where
  recurse : List Kind
  stopOn : List Kind
  stopAfter : Option Nat

structure Recording where
  seen : Array Summary
  stopped : Bool

def Recording.empty : Recording := ⟨#[],false⟩

namespace Recorder

-- The node is written down first, so the count that may stop the walk includes it.
def note (recorder : Recorder) (node : Summary) (recording : Recording) : Recording :=
  let seen := recording.seen.push node
  ⟨seen,recording.stopped || recorder.stopOn.contains node.kind || recorder.stopAfter == some seen.size⟩

mutual
def record (recorder : Recorder) : Formula → Recording → Recording
  | .node label operands, recording =>
    let noted := recorder.note ⟨label.kind,label.name,operands.length⟩ recording
    if recorder.recurse.contains label.kind then recorder.recordAll operands noted else noted
def recordAll (recorder : Recorder) : List Formula → Recording → Recording
  | [], recording => recording
  | formula :: rest, recording => recorder.recordAll rest (recorder.record formula recording)
end

def walker (recorder : Recorder) : Walker Fault Recording where
  handle formula := modify (recorder.record formula)
  stopped recording := recording.stopped

end Recorder
end PropFormula
