import BpnDirectory.Proofs.Json.Record
import Mathlib.Data.List.Perm.Basic
import Mathlib.Data.Option.Basic

namespace BpnDirectory
namespace Json
namespace Value

/-!
Values that agree but for what stands under one name.

Data with named fields is written as an object, or as an array of the fields in their order.
A reader goes through the fields of two such values side by side.  So if it reads related data
of what stands under the one name, and keeps related what it has read so far, then it reads
related data of the whole; it cannot fail at one value only.
-/

variable {φ α β : Type} {names : List String} {name : String} {related : Value → Value → Prop}

/-! ## Agreement -/

/-- Two fields that are the same, or related values under a name. -/
def FieldsAgree (name : String) (related : Value → Value → Prop)
    (first second : Option String × Value) : Prop :=
  first = second ∨ first.1 = some name ∧ second.1 = some name ∧ related first.2 second.2

/-- Two values that agree but for what stands under a name. -/
inductive AgreeBut (names : List String) (name : String) (related : Value → Value → Prop) :
    Value → Value → Prop
  | object {members others : List (Option String × Value)} {closed : Bool} :
    List.Forall₂ (FieldsAgree name related) members others →
      AgreeBut names name related (.object members closed) (.object others closed)
  /-- The items behind those that have a name are the same. -/
  | array {items others : List Value} {closed : Bool} :
    items.length = others.length → items.drop names.length = others.drop names.length →
      List.Forall₂ (FieldsAgree name related) (membersOf names items) (membersOf names others) →
      AgreeBut names name related (.array items closed) (.array others closed)

theorem FieldsAgree.symm (turns : ∀ v w, related v w → related w v)
    {first second : Option String × Value} (agree : FieldsAgree name related first second) :
    FieldsAgree name related second first := by
  rcases agree with same | ⟨firstName, secondName, values⟩
  · exact .inl same.symm
  · exact .inr ⟨secondName, firstName, turns _ _ values⟩

theorem AgreeBut.symm (turns : ∀ v w, related v w → related w v) {first second : Value}
    (agree : AgreeBut names name related first second) :
    AgreeBut names name related second first := by
  cases agree with
  | object fields => exact .object (fields.flip.imp fun _ _ => FieldsAgree.symm turns)
  | array length surplus fields =>
      exact .array length.symm surplus.symm (fields.flip.imp fun _ _ => FieldsAgree.symm turns)

/-- A reader that passes over the values passes over both or over neither. -/
theorem AgreeBut.skip_eq {first second : Value} (agree : AgreeBut names name related first second) :
    first.skip = second.skip := by
  cases agree <;> rfl

/-- Under every other name the values give the same. -/
theorem AgreeBut.given_eq {first second : Value} (agree : AgreeBut names name related first second)
    {other : String} (different : other ≠ name) : first.given other = second.given other := by
  cases agree with
  | array => rfl
  | object fields =>
      change givenIn _ other = givenIn _ other
      induction fields with
      | nil => rfl
      | @cons member another rest later agree _ ih =>
          have apart : ¬ some name = some other := fun same => different (Option.some.inj same).symm
          rcases agree with rfl | ⟨firstName, secondName, _⟩
          · rw [givenIn, List.filterMap_cons, ← givenIn, ih]
            rfl
          · simpa [givenIn, List.filterMap_cons, firstName, secondName, apart] using ih

/-! ## Readings -/

/-- Whether readings of two values come to related data, as far as the first succeeds. -/
def Follows (relation : α → β → Prop) (first : Reading α) (second : Reading β) : Prop :=
  ∀ data, first = .ok data → ∃ other, second = .ok other ∧ relation data other

/-- Whether what has been read stays related when the next field agrees. -/
structure Carries (assign : φ → String → Value → Reading φ) (name : String)
    (related : Value → Value → Prop) (relation : φ → φ → Prop) : Prop where
  same : ∀ {fields others}, relation fields others →
    ∀ key value, Follows relation (assign fields key value) (assign others key value)
  own : ∀ {fields others}, relation fields others →
    ∀ {first second}, related first second →
      Follows relation (assign fields name first) (assign others name second)

theorem Follows.ok {relation : α → β → Prop} {data : α} {other : β} (related : relation data other) :
    Follows relation (.ok data) (.ok other) := by
  rintro _ ⟨⟩
  exact ⟨other, rfl, related⟩

theorem Follows.refl {relation : α → α → Prop} (same : ∀ data, relation data data)
    (reading : Reading α) : Follows relation reading reading :=
  fun data found => ⟨data, found, same data⟩

variable {assign : φ → String → Value → Reading φ} {relation : φ → φ → Prop}

theorem Carries.assignMembers (carries : Carries assign name related relation)
    {fields others : φ} (start : relation fields others)
    {members further : List (Option String × Value)}
    (agree : List.Forall₂ (FieldsAgree name related) members further) :
    Follows relation (Value.assignMembers assign fields members)
      (Value.assignMembers assign others further) := by
  induction agree generalizing fields others with
  | nil =>
      exact .ok start
  | @cons member another rest later agree _ ih =>
      rcases member with ⟨_ | key, value⟩
      · rintro _ ⟨⟩
      · have one : ∃ partner, another = (some key, partner) ∧
            Follows relation (assign fields key value) (assign others key partner) := by
          rcases agree with rfl | ⟨firstName, secondName, values⟩
          · exact ⟨value, rfl, carries.same start key value⟩
          · cases firstName
            exact ⟨another.2, Prod.ext secondName rfl, carries.own start values⟩
        rcases one with ⟨partner, rfl, follows⟩
        intro _ assigned
        rcases bind_eq_ok.mp assigned with ⟨_, taken, assigned⟩
        rcases follows _ taken with ⟨_, takenToo, kept⟩
        rcases ih kept _ assigned with ⟨last, done, kept⟩
        exact ⟨last, bind_eq_ok.mpr ⟨_, takenToo, done⟩, kept⟩

/-- Values that agree but for related ones under a name are read as related data. -/
theorem Carries.record (carries : Carries assign name related relation) {start : φ}
    (initial : relation start start) {finish : φ → Reading α} {outcome : α → α → Prop}
    (finished : ∀ {fields others}, relation fields others →
      Follows outcome (finish fields) (finish others))
    {first second : Value} (agree : AgreeBut names name related first second) :
    Follows outcome (Value.record names start assign finish first)
      (Value.record names start assign finish second) := by
  intro data found
  cases agree with
  | @object _ _ closed fields =>
      rcases bind_eq_ok.mp found with ⟨_, assigned, found⟩
      rcases carries.assignMembers initial fields _ assigned with ⟨_, assignedToo, kept⟩
      cases closed with
      | false => cases found
      | true =>
          rcases finished kept _ found with ⟨other, done, alike⟩
          exact ⟨other, bind_eq_ok.mpr ⟨_, assignedToo, done⟩, alike⟩
  | @array items others closed length surplus fields =>
      rcases bind_eq_ok.mp found with ⟨_, mapped, found⟩
      rw [assignItems_eq] at mapped
      rcases map_eq_ok_iff.mp mapped with ⟨_, assigned, rfl⟩
      rcases carries.assignMembers initial fields _ assigned with ⟨last, assignedToo, kept⟩
      dsimp only at found
      rw [length, surplus] at found
      split at found
      · cases found
      · next enough =>
          rcases bind_eq_ok.mp found with ⟨_, done, found⟩
          split at found
          · next whole =>
              cases found
              rcases finished kept _ done with ⟨other, doneToo, alike⟩
              refine ⟨other, bind_eq_ok.mpr ⟨(last, others.drop names.length), ?_, ?_⟩, alike⟩
              · rw [assignItems_eq, assignedToo]
                rfl
              · dsimp only
                rw [if_neg enough, doneToo, ok_bind, if_pos whole]
          · cases found

/-- What goes into related slots is related if its readings are. -/
theorem Follows.once {slot other : Option α} {relation : α → α → Prop}
    {read : Value → Reading α} {first second : Value}
    (follows : Follows relation (read first) (read second)) (slots : Option.Rel relation slot other) :
    Follows (Option.Rel relation) (Value.once slot read first) (Value.once other read second) := by
  intro next taken
  rcases once_eq_ok_iff.mp taken with ⟨rfl, found, readFirst, rfl⟩
  cases slots
  rcases follows _ readFirst with ⟨partner, readSecond, alike⟩
  exact ⟨some partner, once_eq_ok_iff.mpr ⟨rfl, partner, readSecond, rfl⟩, .some alike⟩

/-! ## Arrays in another order -/

/-- Two arrays with the same items in one order or another. -/
def Permuted (first second : Value) : Prop :=
  ∃ items others closed,
    first = .array items closed ∧ second = .array others closed ∧ items.Perm others

theorem Permuted.symm (first second : Value) (permuted : Permuted first second) :
    Permuted second first := by
  rcases permuted with ⟨items, others, closed, rfl, rfl, perm⟩
  exact ⟨others, items, closed, rfl, rfl, perm.symm⟩

/-- The same items in another order are read as the same data in another order. -/
theorem Permuted.list {first second : Value} (permuted : Permuted first second)
    (read : Value → Reading α) :
    Follows List.Perm (Value.list read first) (Value.list read second) := by
  rcases permuted with ⟨items, others, closed, rfl, rfl, perm⟩
  intro data found
  rcases bind_eq_ok.mp found with ⟨_, each, found⟩
  cases closed with
  | false => cases found
  | true =>
      cases found
      rcases List.perm_comp_forall₂ perm.symm (mapM_eq_ok_iff_forall₂.mp each) with
        ⟨turned, eachToo, back⟩
      exact ⟨turned, bind_eq_ok.mpr ⟨turned, mapM_eq_ok_iff_forall₂.mpr eachToo, rfl⟩, back.symm⟩

end Value
end Json
end BpnDirectory
