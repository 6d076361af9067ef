namespace BpnDirectory

/-!
Outcomes of parts that may fail, one after the other.

The whole succeeds if every part does, and fails as the first part that does not.
-/

@[simp] theorem ok_bind {ε α β : Type} (value : α) (rest : α → Except ε β) :
    (Except.ok value >>= rest) = rest value := rfl

@[simp] theorem error_bind {ε α β : Type} (failure : ε) (rest : α → Except ε β) :
    (Except.error failure >>= rest) = .error failure := rfl

theorem bind_eq_ok {ε α β : Type} {first : Except ε α} {rest : α → Except ε β} {value : β} :
    (first >>= rest) = .ok value ↔ ∃ middle, first = .ok middle ∧ rest middle = .ok value := by
  cases first with
  | error failure => simp [bind, Except.bind]
  | ok middle => simp [bind, Except.bind]

theorem bind_eq_error {ε α β : Type} {first : Except ε α} {rest : α → Except ε β} {failure : ε} :
    (first >>= rest) = .error failure ↔
      first = .error failure ∨ ∃ middle, first = .ok middle ∧ rest middle = .error failure := by
  cases first with
  | error other => simp [bind, Except.bind]
  | ok middle => simp [bind, Except.bind]

/-- A part that is only passed if a condition does not hold. -/
theorem ite_error_eq_ok_iff {ε α : Type} {condition : Prop} [Decidable condition] {failure : ε}
    {rest : Except ε α} {value : α} :
    (if condition then .error failure else rest) = .ok value ↔
      ¬ condition ∧ rest = .ok value := by
  by_cases holds : condition
  · simp [holds]
  · simp [holds]

theorem map_eq_ok_iff {ε α β : Type} {result : Except ε α} {f : α → β} {value : β} :
    result.map f = .ok value ↔ ∃ found, result = .ok found ∧ f found = value := by
  cases result with
  | error failure => simp [Except.map]
  | ok found => simp [Except.map]

theorem exists_map_eq_ok_iff {ε α β : Type} {result : Except ε α} {f : α → β} :
    (∃ value, result.map f = .ok value) ↔ ∃ value, result = .ok value := by
  cases result with
  | error failure => simp [Except.map]
  | ok found => simp [Except.map]

theorem mapError_eq_ok_iff {ε ε' α : Type} {result : Except ε α} {f : ε → ε'} {value : α} :
    result.mapError f = .ok value ↔ result = .ok value := by
  cases result with
  | error failure => exact ⟨nofun, nofun⟩
  | ok found =>
      constructor
      · rintro ⟨⟩
        rfl
      · rintro ⟨⟩
        rfl

theorem toOption_eq_some_iff {ε α : Type} {result : Except ε α} {value : α} :
    result.toOption = some value ↔ result = .ok value := by
  cases result with
  | error failure => simp [Except.toOption]
  | ok found => simp [Except.toOption]

/-- Every element is taken to a result, and every result comes from an element. -/
theorem mem_of_mapM_eq_ok {ε α β : Type} {f : α → Except ε β} {xs : List α} {ys : List β}
    (mapped : xs.mapM f = .ok ys) :
    (∀ x ∈ xs, ∃ y ∈ ys, f x = .ok y) ∧ ∀ y ∈ ys, ∃ x ∈ xs, f x = .ok y := by
  induction xs generalizing ys with
  | nil =>
      cases mapped
      simp
  | cons head rest ih =>
      rw [List.mapM_cons] at mapped
      rcases bind_eq_ok.mp mapped with ⟨first, mappedFirst, mapped⟩
      rcases bind_eq_ok.mp mapped with ⟨others, mappedRest, mapped⟩
      cases mapped
      rcases ih mappedRest with ⟨there, back⟩
      constructor
      · intro x member
        rcases List.mem_cons.mp member with rfl | later
        · exact ⟨first, List.mem_cons_self, mappedFirst⟩
        · rcases there x later with ⟨y, listed, same⟩
          exact ⟨y, List.mem_cons_of_mem first listed, same⟩
      · intro y member
        rcases List.mem_cons.mp member with rfl | later
        · exact ⟨head, List.mem_cons_self, mappedFirst⟩
        · rcases back y later with ⟨x, listed, same⟩
          exact ⟨x, List.mem_cons_of_mem head listed, same⟩

/-- If every element has a result, so has the whole list. -/
theorem exists_mapM_eq_ok {ε α β : Type} {f : α → Except ε β} {xs : List α}
    (each : ∀ x ∈ xs, ∃ y, f x = .ok y) : ∃ ys, xs.mapM f = .ok ys := by
  induction xs with
  | nil => exact ⟨[], rfl⟩
  | cons head rest ih =>
      rcases each head List.mem_cons_self with ⟨first, mappedFirst⟩
      rcases ih fun x later => each x (List.mem_cons_of_mem head later) with ⟨others, mappedRest⟩
      refine ⟨first :: others, ?_⟩
      rw [List.mapM_cons, mappedFirst, ok_bind, mappedRest]
      rfl

end BpnDirectory
