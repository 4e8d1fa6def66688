namespace PropFormula

theorem bind_ok {ε α β : Type} {first : Except ε α} {later : α → Except ε β} {result : β} :
    (first >>= later) = .ok result ↔ ∃ value, first = .ok value ∧ later value = .ok result := by
  cases first with
  | error cause => simp [bind,Except.bind]
  | ok value => simp [bind,Except.bind]

theorem guard_ok {ε α β : Type} {refuses : Prop} [Decidable refuses] {cause : ε} {never : β → Except ε α}
    {next : Except ε α} {result : α} :
    (if refuses then throw cause >>= never else next) = .ok result ↔ ¬ refuses ∧ next = .ok result := by
  by_cases refused : refuses
  · rw [if_pos refused]
    exact ⟨nofun,fun both => absurd refused both.1⟩
  · rw [if_neg refused]
    exact ⟨fun passed => ⟨refused,passed⟩,fun both => both.2⟩

theorem forM_ok {ε α : Type} {check : α → Except ε Unit} {items : List α} :
    items.forM check = .ok () ↔ ∀ item ∈ items, check item = .ok () := by
  induction items with
  | nil => exact ⟨fun _ => nofun,fun _ => rfl⟩
  | cons item rest ih =>
    rw [List.forall_mem_cons,← ih]
    refine bind_ok.trans ?_
    exact ⟨fun ⟨_,both⟩ => both,fun both => ⟨(),both⟩⟩

end PropFormula
