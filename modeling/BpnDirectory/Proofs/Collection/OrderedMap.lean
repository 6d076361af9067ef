import BpnDirectory.Collection.OrderedMap

namespace BpnDirectory
namespace OrderedMap

/-!
Look-ups in ordered maps.

What a map holds is what its look-ups find.  A look-up finds exactly the entries
of the map, since their keys differ, and every change is described by the
look-ups after it.
-/

variable {α β : Type}

/-! ## Finding and membership -/

theorem mem_of_findIn {key : String} {value : α} {entries : List (String × α)}
    (found : findIn key entries = some value) : (key, value) ∈ entries := by
  induction entries with
  | nil => cases found
  | cons head rest ih =>
      rcases head with ⟨k, old⟩
      by_cases same : k = key
      · subst k
        have equal : old = value := by simpa [findIn] using found
        exact equal ▸ List.mem_cons_self
      · have later : findIn key rest = some value := by simpa [findIn, same] using found
        exact List.mem_cons_of_mem _ (ih later)

theorem findIn_of_mem {key : String} {value : α} {entries : List (String × α)}
    (ascending : entries.Pairwise fun a b => a.1 < b.1) (member : (key, value) ∈ entries) :
    findIn key entries = some value := by
  induction entries with
  | nil => cases member
  | cons head rest ih =>
      rcases List.pairwise_cons.mp ascending with ⟨before, sorted⟩
      rcases List.mem_cons.mp member with same | later
      · subst same
        simp [findIn]
      · have different : head.1 ≠ key := fun same =>
          String.lt_irrefl key (same ▸ before (key, value) later)
        simpa [findIn, different] using ih sorted later

/-- A look-up finds exactly the entries. -/
theorem find?_eq_some_iff {map : OrderedMap α} {key : String} {value : α} :
    map.find? key = some value ↔ (key, value) ∈ map.entries :=
  ⟨mem_of_findIn, findIn_of_mem map.ascending⟩

theorem find?_eq_none_iff {map : OrderedMap α} {key : String} :
    map.find? key = none ↔ ∀ entry ∈ map.entries, entry.1 ≠ key := by
  constructor
  · intro absent entry member same
    have found : map.find? key = some entry.2 := find?_eq_some_iff.mpr (same ▸ member)
    rw [absent] at found
    cases found
  · intro different
    cases found : map.find? key with
    | none => rfl
    | some value => exact absurd rfl (different _ (find?_eq_some_iff.mp found))

theorem contains_eq_false_iff {map : OrderedMap α} {key : String} :
    map.contains key = false ↔ map.find? key = none := by
  simp [contains]

/-- Two maps with the same entries are the same map. -/
theorem eq_of_entries {left right : OrderedMap α} (same : left.entries = right.entries) :
    left = right := by
  cases left
  cases right
  cases same
  rfl

/-- Two maps in which every key finds the same are the same map. -/
theorem eq_of_find? {left right : OrderedMap α}
    (same : ∀ key, left.find? key = right.find? key) : left = right := by
  have nodup : ∀ map : OrderedMap α, map.entries.Nodup := by
    intro map
    refine map.ascending.imp ?_
    intro a b less equal
    exact String.lt_irrefl b.1 (equal ▸ less)
  have listed : ∀ entry, entry ∈ left.entries ↔ entry ∈ right.entries := by
    rintro ⟨key, value⟩
    rw [← find?_eq_some_iff, ← find?_eq_some_iff, same]
  have permuted := (List.perm_ext_iff_of_nodup (nodup left) (nodup right)).mpr listed
  apply eq_of_entries
  refine permuted.eq_of_pairwise ?_ left.ascending right.ascending
  intro a b _ _ less more
  exact absurd (String.lt_trans less more) (String.lt_irrefl a.1)

/-- The keys of a map are all different. -/
theorem nodup_keys (map : OrderedMap α) : (map.entries.map Prod.fst).Nodup := by
  refine List.pairwise_map.mpr (map.ascending.imp ?_)
  intro a b less same
  exact String.lt_irrefl b.1 (same ▸ less)

/-- The empty text comes before every other key. -/
theorem entriesAfter_empty {map : OrderedMap α} (filled : ∀ entry ∈ map.entries, entry.1 ≠ "") :
    map.entriesAfter "" = map.entries := by
  apply List.filter_eq_self.mpr
  intro entry member
  rw [decide_eq_true_iff, String.lt_iff]
  cases spelled : entry.1.toList with
  | nil => exact absurd (String.toList_inj.mp spelled) (filled entry member)
  | cons first rest => exact List.nil_lt_cons first rest

/-! ## Look-ups after a change -/

@[simp] theorem find?_empty (key : String) : (empty : OrderedMap α).find? key = none :=
  rfl

theorem findIn_insertIn_self (key : String) (value : α) (entries : List (String × α)) :
    findIn key (insertIn key value entries) = some value := by
  induction entries with
  | nil => simp [insertIn, findIn]
  | cons head rest ih =>
      simp only [insertIn]
      split
      · simp [findIn]
      · split
        · simp [findIn]
        · next different => simpa [findIn, different] using ih

theorem findIn_insertIn_of_ne {key other : String} (different : key ≠ other) (value : α)
    (entries : List (String × α)) :
    findIn other (insertIn key value entries) = findIn other entries := by
  induction entries with
  | nil => simp [insertIn, findIn, different]
  | cons head rest ih =>
      simp only [insertIn]
      split
      · simp [findIn, different]
      · split
        · next same => simp [findIn, same, different]
        · simp [findIn, ih]

/-- Insertion changes what one key finds and nothing else. -/
theorem find?_insert (map : OrderedMap α) (key other : String) (value : α) :
    (map.insert key value).find? other = if key = other then some value else map.find? other := by
  by_cases same : key = other
  · subst other
    simpa [find?, insert] using findIn_insertIn_self key value map.entries
  · simpa [find?, insert, same] using findIn_insertIn_of_ne same value map.entries

/-- The value of one key is changed where it has one. -/
theorem find?_modify (map : OrderedMap α) (key other : String) (change : α → α) :
    (map.modify key change).find? other =
      if key = other then (map.find? key).map change else map.find? other := by
  unfold modify
  split
  · next value found => rw [find?_insert, found, Option.map_some]
  · next absent =>
      split
      · next same => rw [← same, absent, Option.map_none]
      · rfl

theorem findIn_filter_of_ne {key other : String} (different : key ≠ other)
    (entries : List (String × α)) :
    findIn other (entries.filter fun entry => entry.1 ≠ key) = findIn other entries := by
  induction entries with
  | nil => rfl
  | cons head rest ih =>
      by_cases same : head.1 = key
      · have apart : head.1 ≠ other := same ▸ different
        simpa [findIn, same, apart, different] using ih
      · simp [findIn, same, ← ih]

/-- Erasure changes what one key finds and nothing else. -/
theorem find?_erase (map : OrderedMap α) (key other : String) :
    (map.erase key).find? other = if key = other then none else map.find? other := by
  by_cases same : key = other
  · subst other
    rw [if_pos rfl, find?_eq_none_iff]
    intro entry member
    simpa using (List.mem_filter.mp member).2
  · simpa [find?, erase, same] using findIn_filter_of_ne same map.entries

/-! ## Replacing all values -/

theorem findIn_mapValues (f : α → β) (key : String) (entries : List (String × α)) :
    findIn key (entries.map fun entry => (entry.1, f entry.2)) = (findIn key entries).map f := by
  induction entries with
  | nil => rfl
  | cons head rest ih =>
      by_cases same : head.1 = key
      · simp [findIn, same]
      · simpa [findIn, same] using ih

@[simp] theorem find?_mapValues (f : α → β) (map : OrderedMap α) (key : String) :
    (map.mapValues f).find? key = (map.find? key).map f :=
  findIn_mapValues f key map.entries

theorem mapValues_mapValues {γ : Type} (f : α → β) (g : β → γ) (map : OrderedMap α) :
    (map.mapValues f).mapValues g = map.mapValues fun value => g (f value) :=
  eq_of_entries (by simp [mapValues, Function.comp_def])

theorem contains_mapValues (f : α → β) (map : OrderedMap α) (key : String) :
    (map.mapValues f).contains key = map.contains key := by
  simp [contains]

theorem insertIn_mapValues (f : α → β) (key : String) (value : α) (entries : List (String × α)) :
    insertIn key (f value) (entries.map fun entry => (entry.1, f entry.2)) =
      (insertIn key value entries).map fun entry => (entry.1, f entry.2) := by
  induction entries with
  | nil => rfl
  | cons head rest ih =>
      simp only [List.map_cons, insertIn]
      split
      · rfl
      · split
        · rfl
        · simp [ih]

theorem mapValues_insert (f : α → β) (map : OrderedMap α) (key : String) (value : α) :
    (map.insert key value).mapValues f = (map.mapValues f).insert key (f value) :=
  eq_of_entries (insertIn_mapValues f key value map.entries).symm

theorem mapValues_erase (f : α → β) (map : OrderedMap α) (key : String) :
    (map.erase key).mapValues f = (map.mapValues f).erase key :=
  eq_of_entries (by simp [mapValues, erase, List.filter_map, Function.comp_def])

/-! ## Maps made of lists -/

theorem mem_of_find?_foldl_insert {key : String} {value : α} (entries : List (String × α))
    (map : OrderedMap α)
    (found : (entries.foldl (fun map entry => map.insert entry.1 entry.2) map).find? key =
      some value) :
    (key, value) ∈ entries ∨ map.find? key = some value := by
  induction entries generalizing map with
  | nil => exact Or.inr found
  | cons head rest ih =>
      rcases ih _ found with later | earlier
      · exact Or.inl (List.mem_cons_of_mem _ later)
      · rw [find?_insert] at earlier
        split at earlier
        · next same =>
            cases earlier
            exact Or.inl (same ▸ List.mem_cons_self)
        · exact Or.inr earlier

theorem isSome_find?_foldl_insert {key : String} (entries : List (String × α))
    (map : OrderedMap α)
    (listed : (map.find? key).isSome ∨ ∃ entry ∈ entries, entry.1 = key) :
    ((entries.foldl (fun map entry => map.insert entry.1 entry.2) map).find? key).isSome := by
  induction entries generalizing map with
  | nil => simpa using listed
  | cons head rest ih =>
      refine ih _ ?_
      rw [find?_insert]
      by_cases same : head.1 = key
      · simp [same]
      · simpa [same] using listed

/-- What a key finds in the map of a list stands in the list. -/
theorem mem_of_find?_ofList {entries : List (String × α)} {key : String} {value : α}
    (found : (ofList entries).find? key = some value) : (key, value) ∈ entries := by
  rcases mem_of_find?_foldl_insert entries empty found with member | absurdity
  · exact member
  · cases absurdity

/-- A key that finds nothing in the map of a list does not stand in the list. -/
theorem ne_of_find?_ofList_eq_none {entries : List (String × α)} {key : String}
    (absent : (ofList entries).find? key = none) : ∀ entry ∈ entries, entry.1 ≠ key := by
  intro entry member same
  have found := isSome_find?_foldl_insert entries empty (Or.inr ⟨entry, member, same⟩)
  change ((ofList entries).find? key).isSome at found
  rw [absent] at found
  cases found

/-- The map of what a function makes of keys finds it for exactly these keys. -/
theorem find?_ofList_map (f : String → α) (keys : List String) (key : String) :
    (ofList (keys.map fun key => (key, f key))).find? key = if key ∈ keys then some (f key) else none := by
  cases found : (ofList (keys.map fun key => (key, f key))).find? key with
  | some value =>
      rcases List.mem_map.mp (mem_of_find?_ofList found) with ⟨listed, member, same⟩
      cases same
      rw [if_pos member]
  | none =>
      rw [if_neg]
      intro member
      exact ne_of_find?_ofList_eq_none found (key, f key) (List.mem_map_of_mem member) rfl

/-- The map of the entries of a map is that map. -/
theorem ofList_entries (map : OrderedMap α) : ofList map.entries = map := by
  apply eq_of_find?
  intro key
  cases found : (ofList map.entries).find? key with
  | some value => exact (find?_eq_some_iff.mpr (mem_of_find?_ofList found)).symm
  | none =>
      refine (find?_eq_none_iff.mpr fun entry member => ?_).symm
      exact ne_of_find?_ofList_eq_none found entry member

end OrderedMap
end BpnDirectory
