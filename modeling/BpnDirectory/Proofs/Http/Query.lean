import BpnDirectory.Http.Query
import Mathlib.Data.List.Nodup

namespace BpnDirectory
namespace Http
namespace Query

/-!
Fields that a query repeats.

A reader of some fields goes through the query in its order and stops at the first name that it
has met before.  Whether it stops does not depend on the order: it does if a field is given more
than once.
-/

variable {query : Query} {names : List String}

theorem firstRepeat_eq_none_iff {seen given : List String} :
    firstRepeat seen given = none ↔ given.Nodup ∧ ∀ name ∈ given, name ∉ seen := by
  induction given generalizing seen with
  | nil => simp [firstRepeat]
  | cons name rest ih =>
      rw [firstRepeat, List.nodup_cons, List.forall_mem_cons]
      by_cases again : name ∈ seen
      · simp [again]
      · rw [if_neg again, ih]
        constructor
        · rintro ⟨distinct, fresh⟩
          exact ⟨⟨fun later => fresh name later List.mem_cons_self, distinct⟩, again,
            fun other later before => fresh other later (List.mem_cons_of_mem _ before)⟩
        · rintro ⟨⟨once, distinct⟩, _, fresh⟩
          refine ⟨distinct, fun other later before => ?_⟩
          rcases List.mem_cons.mp before with rfl | before
          · exact once later
          · exact fresh other later before

theorem length_all (query : Query) (name : String) :
    (query.all name).length = (query.fields.map Prod.fst).count name := by
  rw [all, List.length_map, List.count, List.countP_map, ← List.countP_eq_length_filter]
  rfl

theorem firstRepeat_among_eq_none_iff :
    firstRepeat [] ((query.fields.map Prod.fst).filter fun name => name ∈ names) = none ↔
      ∀ name ∈ names, (query.all name).length ≤ 1 := by
  have among (name : String) (listed : name ∈ names) :
      ((query.fields.map Prod.fst).filter fun name => name ∈ names).count name =
        (query.all name).length := by
    rw [length_all]
    exact List.count_filter (by simpa using listed)
  rw [firstRepeat_eq_none_iff, List.nodup_iff_count_le_one]
  constructor
  · rintro ⟨once, _⟩ name listed
    rw [← among name listed]
    exact once name
  · intro once
    refine ⟨fun name => ?_, fun _ _ => List.not_mem_nil⟩
    by_cases listed : name ∈ names
    · rw [among name listed]
      exact once name listed
    · have missing : name ∉ (query.fields.map Prod.fst).filter fun name => name ∈ names :=
        fun member => listed (by simpa using (List.mem_filter.mp member).2)
      rw [List.count_eq_zero.mpr missing]
      exact Nat.zero_le 1

/-- The reader stops exactly if the query repeats one of the fields. -/
theorem exists_values_eq_error_iff :
    (∃ name, query.values names = .error name) ↔ ∃ name ∈ names, 1 < (query.all name).length := by
  unfold values
  cases found : firstRepeat [] ((query.fields.map Prod.fst).filter fun name => name ∈ names) with
  | none =>
      have once := firstRepeat_among_eq_none_iff.mp found
      refine iff_of_false (fun ⟨_, failed⟩ => nomatch failed) ?_
      rintro ⟨name, listed, twice⟩
      exact Nat.not_lt.mpr (once name listed) twice
  | some name =>
      refine iff_of_true ⟨name, rfl⟩ (by_contra fun none => ?_)
      have once : ∀ name ∈ names, (query.all name).length ≤ 1 :=
        fun name listed => Nat.not_lt.mp fun twice => none ⟨name, listed, twice⟩
      cases found.symm.trans (firstRepeat_among_eq_none_iff.mpr once)

/-- A field that is given once, or not at all, is all that is read under its name. -/
theorem values_singleton {name : String} {value : Option String}
    (given : query.all name = value.toList) : query.values [name] = .ok [value] := by
  cases read : query.values [name] with
  | error other =>
      rcases exists_values_eq_error_iff.mp ⟨other, read⟩ with ⟨_, listed, twice⟩
      rw [List.mem_singleton.mp listed, given] at twice
      exact absurd twice (Nat.not_lt.mpr Option.length_toList_le)
  | ok fields =>
      unfold values at read
      split at read
      · cases read
      · cases read
        rw [List.map_singleton, given, Option.head?_toList]

end Query
end Http
end BpnDirectory
