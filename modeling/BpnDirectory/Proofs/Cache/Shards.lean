import BpnDirectory.Proofs.Cache.Evolution
import Mathlib.Data.List.Nodup

namespace BpnDirectory
namespace Cache

/-!
The entries of a shard.

A shard lists its entries from the one used last to the one not used for longest.  As long
as it is tidy, that is, has at most one entry for a key and no more entries than it may,
putting an entry in drops at most the one that the key had, or else the last one.
-/

namespace Shard

variable {capacity : Nat} {shard : Shard} {key : String} {entry added : Entry}

/-- Whether a shard keeps at most one entry for a key and no more entries than it may. -/
structure IsTidy (capacity : Nat) (shard : Shard) : Prop where
  distinct : (shard.entries.map Entry.key).Nodup
  bounded : shard.entries.length ≤ capacity

theorem find?_eq_none_iff :
    shard.find? key = none ↔ ∀ entry ∈ shard.entries, entry.key ≠ key := by
  simp [find?]

/-- A shard with distinct keys finds exactly its entries. -/
theorem find?_eq_some_iff (distinct : (shard.entries.map Entry.key).Nodup) :
    shard.find? key = some entry ↔ entry ∈ shard.entries ∧ entry.key = key := by
  constructor
  · exact mem_of_find?
  · rintro ⟨member, named⟩
    cases found : shard.find? key with
    | none => exact absurd named (find?_eq_none_iff.mp found entry member)
    | some other =>
        have ⟨listed, same⟩ := mem_of_find? found
        rw [List.inj_on_of_nodup_map distinct listed member (same.trans named.symm)]

theorem mem_without {entries : List Entry} :
    entry ∈ without key entries ↔ entry ∈ entries ∧ entry.key ≠ key := by
  simp [without]

/-- Without the entry of a key there is one entry less. -/
theorem length_without {entries : List Entry} (distinct : (entries.map Entry.key).Nodup)
    (member : entry ∈ entries) : (without entry.key entries).length + 1 = entries.length := by
  induction entries with
  | nil => cases member
  | cons head rest ih =>
      rw [List.map_cons, List.nodup_cons] at distinct
      rcases List.mem_cons.mp member with rfl | later
      · have others : without entry.key rest = rest := by
          refine List.filter_eq_self.mpr fun other listed => ?_
          rw [bne_iff_ne]
          exact fun same => distinct.1 (same ▸ List.mem_map_of_mem listed)
        have gone : without entry.key (entry :: rest) = without entry.key rest := by
          simp [without]
        rw [gone, others, List.length_cons]
      · have apart : head.key ≠ entry.key := fun same =>
          distinct.1 (same ▸ List.mem_map_of_mem later)
        have stays : without entry.key (head :: rest) = head :: without entry.key rest := by
          simp [without, apart]
        rw [stays, List.length_cons, List.length_cons, ih distinct.2 later]

/-- An entry that was found is kept with all others when it is used. -/
theorem mem_touch {held : Entry} (distinct : (shard.entries.map Entry.key).Nodup)
    (found : shard.find? key = some held) :
    entry ∈ (shard.touch held).entries ↔ entry ∈ shard.entries := by
  have ⟨member, _⟩ := mem_of_find? found
  rw [touch, List.mem_cons, mem_without]
  constructor
  · rintro (rfl | ⟨listed, _⟩)
    · exact member
    · exact listed
  · intro listed
    by_cases same : entry.key = held.key
    · exact Or.inl (List.inj_on_of_nodup_map distinct listed member same)
    · exact Or.inr ⟨listed, same⟩

/-- Without the entry of a key there is one entry less, if the key had one. -/
theorem length_drop (distinct : (shard.entries.map Entry.key).Nodup) (key : String) :
    (shard.drop key).entries.length + (if (shard.find? key).isSome then 1 else 0) =
      shard.entries.length := by
  cases found : shard.find? key with
  | none =>
      have others : without key shard.entries = shard.entries := by
        refine List.filter_eq_self.mpr fun entry member => ?_
        exact bne_iff_ne.mpr (find?_eq_none_iff.mp found entry member)
      simp [drop, others]
  | some entry =>
      have ⟨member, named⟩ := mem_of_find? found
      simp [drop, ← length_without distinct member, named]

/-- The entry that has to go when a value is put in for a key: none if the key has an
entry or there is room for one, and otherwise the last one. -/
def victim? (capacity : Nat) (shard : Shard) (key : String) : Option Entry :=
  if (shard.find? key).isSome ∨ shard.entries.length < capacity then none
  else shard.entries.getLast?

theorem victim?_eq_some_iff :
    shard.victim? capacity key = some entry ↔
      shard.find? key = none ∧ capacity ≤ shard.entries.length ∧
        shard.entries.getLast? = some entry := by
  unfold victim?
  split
  case isTrue room =>
    refine ⟨nofun, ?_⟩
    rintro ⟨absent, full, _⟩
    rcases room with held | room
    · rw [absent] at held
      cases held
    · exact absurd full (Nat.not_le_of_lt room)
  case isFalse crowded =>
    rw [not_or, Nat.not_lt, Option.not_isSome_iff_eq_none] at crowded
    exact ⟨fun last => ⟨crowded.1, crowded.2, last⟩, fun all => all.2.2⟩

theorem mem_of_victim? (victim : shard.victim? capacity key = some entry) :
    entry ∈ shard.entries :=
  List.mem_of_getLast? (victim?_eq_some_iff.mp victim).2.2

/-- Whether the entry of a key was put in front of others, of which some may have
gone. -/
def Fronts (key : String) (before after : List Entry) : Prop :=
  ∃ entry rest, after = entry :: rest ∧ entry.key = key ∧ rest.Sublist before ∧
    ∀ other ∈ rest, other.key ≠ key

theorem fronts_touch (shard : Shard) (entry : Entry) :
    Fronts entry.key shard.entries (shard.touch entry).entries :=
  ⟨entry, without entry.key shard.entries, rfl, rfl, List.filter_sublist,
    fun _ member => (mem_without.mp member).2⟩

theorem fronts_push (capacity : Nat) (shard : Shard) (added : Entry) :
    Fronts added.key shard.entries (push capacity shard added).2.entries := by
  unfold push
  split
  case isTrue => exact fronts_touch shard added
  case isFalse absent =>
    rw [Option.not_isSome_iff_eq_none, find?_eq_none_iff] at absent
    split
    case isTrue => exact ⟨added, shard.entries, rfl, rfl, .refl _, absent⟩
    case isFalse =>
      exact ⟨added, shard.entries.dropLast, rfl, rfl, List.dropLast_sublist _,
        fun other member => absent other (List.dropLast_subset _ member)⟩

/-- All entries but the last are those that are not the last. -/
theorem mem_dropLast {entries : List Entry} (distinct : (entries.map Entry.key).Nodup) :
    entry ∈ entries.dropLast ↔ entry ∈ entries ∧ entries.getLast? ≠ some entry := by
  rcases List.eq_nil_or_concat entries with rfl | ⟨others, last, rfl⟩
  · simp
  · have apart : last ∉ others := by
      have nodup := List.Nodup.of_map _ distinct
      rw [List.concat_eq_append, List.nodup_append] at nodup
      exact fun member => nodup.2.2 last member last List.mem_cons_self rfl
    rw [List.concat_eq_append, List.dropLast_concat, List.getLast?_concat, List.mem_append,
      List.mem_singleton, ne_eq, Option.some.injEq]
    constructor
    · intro member
      exact ⟨Or.inl member, fun same => apart (same ▸ member)⟩
    · rintro ⟨member | same, different⟩
      · exact member
      · exact absurd same.symm different

/-- After an entry was put in, the shard keeps it and what it kept before, except for
what it had for the same key and for the entry that had to go. -/
theorem mem_push (distinct : (shard.entries.map Entry.key).Nodup) :
    entry ∈ (push capacity shard added).2.entries ↔
      entry = added ∨ entry ∈ shard.entries ∧ entry.key ≠ added.key ∧
        shard.victim? capacity added.key ≠ some entry := by
  unfold push
  split
  case isTrue held =>
    have stays : shard.victim? capacity added.key = none := by simp [victim?, held]
    rw [stays]
    simp [touch, mem_without]
  case isFalse absent =>
    rw [Option.not_isSome_iff_eq_none] at absent
    have others := find?_eq_none_iff.mp absent
    split
    case isTrue room =>
      have stays : shard.victim? capacity added.key = none := by simp [victim?, room]
      rw [stays, List.mem_cons]
      exact or_congr_right ⟨fun member => ⟨member, others entry member, nofun⟩, And.left⟩
    case isFalse full =>
      have last : shard.victim? capacity added.key = shard.entries.getLast? := by
        simp [victim?, absent, full]
      rw [last, List.mem_cons, mem_dropLast distinct]
      exact or_congr_right
        ⟨fun kept => ⟨kept.1, others entry kept.1, kept.2⟩, fun kept => ⟨kept.1, kept.2.2⟩⟩

/-- An entry has to go exactly if putting one in says so. -/
theorem push_fst (positive : 0 < capacity) (shard : Shard) (added : Entry) :
    (push capacity shard added).1 = (shard.victim? capacity added.key).isSome := by
  unfold push victim?
  split
  case isTrue held => simp [held]
  case isFalse absent =>
    split
    case isTrue room => simp [room]
    case isFalse full =>
      have filled : shard.entries ≠ [] := by
        intro empty
        rw [empty] at full
        exact full positive
      rw [if_neg (not_or.mpr ⟨absent, full⟩), List.getLast?_eq_some_getLast filled]
      rfl

/-- An entry that takes the place of another one for its key leaves the number as it is. -/
theorem length_touch {held : Entry} (distinct : (shard.entries.map Entry.key).Nodup)
    (found : shard.find? entry.key = some held) :
    (shard.touch entry).entries.length = shard.entries.length := by
  have ⟨member, named⟩ := mem_of_find? found
  rw [← length_without distinct member, named]
  rfl

/-- How many entries there are after one was put in. -/
theorem length_push (tidy : shard.IsTidy capacity) (positive : 0 < capacity) (added : Entry) :
    (push capacity shard added).2.entries.length +
        (if (shard.victim? capacity added.key).isSome then 1 else 0) =
      shard.entries.length + if (shard.find? added.key).isNone then 1 else 0 := by
  rw [← push_fst positive]
  unfold push
  cases found : shard.find? added.key with
  | some held => simp [length_touch tidy.distinct found]
  | none =>
      by_cases room : shard.entries.length < capacity
      · simp [room]
      · have filled : 0 < shard.entries.length :=
          Nat.lt_of_lt_of_le positive (Nat.not_lt.mp room)
        simp only [Option.isSome_none, Bool.false_eq_true, if_false, if_neg room,
          List.length_cons, List.length_dropLast, if_true, Option.isNone_none]
        omega

/-- However often something is put in, there are no more entries than there may be. -/
theorem length_push_le (tidy : shard.IsTidy capacity) (positive : 0 < capacity) :
    (push capacity shard added).2.entries.length ≤ capacity := by
  unfold push
  split
  case isTrue held =>
    rcases Option.isSome_iff_exists.mp held with ⟨old, found⟩
    rw [length_touch tidy.distinct found]
    exact tidy.bounded
  case isFalse =>
    split
    case isTrue room => exact room
    case isFalse full =>
      have filled : 0 < shard.entries.length := Nat.lt_of_lt_of_le positive (Nat.not_lt.mp full)
      rw [List.length_cons, List.length_dropLast, Nat.sub_add_cancel filled]
      exact tidy.bounded

theorem Fronts.distinct {before after : List Entry} (fronts : Fronts key before after)
    (distinct : (before.map Entry.key).Nodup) : (after.map Entry.key).Nodup := by
  rcases fronts with ⟨entry, rest, rfl, named, sublist, apart⟩
  rw [List.map_cons, List.nodup_cons]
  refine ⟨?_, (sublist.map Entry.key).nodup distinct⟩
  intro member
  rcases List.mem_map.mp member with ⟨other, listed, same⟩
  exact apart other listed (same.trans named)

end Shard

end Cache
end BpnDirectory
