namespace BpnDirectory

/-!
Finite maps from texts in the order of their keys.

The entries stand in strictly ascending order, which for texts is the order of
their octets in UTF-8.  A key therefore occurs at most once, and listing the map,
cutting a page out of it or writing it out needs no sorting.
-/

structure OrderedMap (α : Type) where
  entries : List (String × α)
  ascending : entries.Pairwise fun a b => a.1 < b.1
  deriving DecidableEq

namespace OrderedMap

variable {α β : Type}

def empty : OrderedMap α := ⟨[], .nil⟩

instance : Inhabited (OrderedMap α) := ⟨empty⟩

def findIn (key : String) : List (String × α) → Option α
  | [] => none
  | (k, value) :: rest => if k = key then some value else findIn key rest

/-- Entries with the value of one key set. -/
def insertIn (key : String) (value : α) : List (String × α) → List (String × α)
  | [] => [(key, value)]
  | entry :: rest =>
    if key < entry.1 then (key, value) :: entry :: rest
    else if entry.1 = key then (key, value) :: rest
    else entry :: insertIn key value rest

theorem key_mem_insertIn {key : String} {value : α} {entries : List (String × α)}
    {entry : String × α} (member : entry ∈ insertIn key value entries) :
    entry = (key, value) ∨ entry ∈ entries := by
  induction entries with
  | nil => exact Or.inl (by simpa [insertIn] using member)
  | cons head rest ih =>
    simp only [insertIn] at member
    split at member
    · exact (List.mem_cons.mp member).imp id id
    · split at member
      · exact (List.mem_cons.mp member).imp id (List.mem_cons_of_mem head)
      · rcases List.mem_cons.mp member with same | later
        · exact Or.inr (same ▸ List.mem_cons_self)
        · exact (ih later).imp id (List.mem_cons_of_mem head)

theorem insertIn_ascending (key : String) (value : α) {entries : List (String × α)}
    (ascending : entries.Pairwise fun a b => a.1 < b.1) :
    (insertIn key value entries).Pairwise fun a b => a.1 < b.1 := by
  induction entries with
  | nil => simp [insertIn]
  | cons head rest ih =>
    have ⟨before, sorted⟩ := List.pairwise_cons.mp ascending
    simp only [insertIn]
    split
    case isTrue less =>
      refine List.pairwise_cons.mpr ⟨?_, ascending⟩
      intro entry member
      rcases List.mem_cons.mp member with same | later
      · exact same ▸ less
      · exact String.lt_trans less (before entry later)
    case isFalse notLess =>
      split
      case isTrue same =>
        refine List.pairwise_cons.mpr ⟨?_, sorted⟩
        intro entry member
        exact same ▸ before entry member
      case isFalse different =>
        refine List.pairwise_cons.mpr ⟨?_, ih sorted⟩
        intro entry member
        rcases key_mem_insertIn member with same | later
        · subst same
          exact String.not_le.mp fun below =>
            different (String.le_antisymm (String.not_lt.mp notLess) below)
        · exact before entry later

def find? (map : OrderedMap α) (key : String) : Option α :=
  findIn key map.entries

def contains (map : OrderedMap α) (key : String) : Bool :=
  (map.find? key).isSome

def insert (map : OrderedMap α) (key : String) (value : α) : OrderedMap α :=
  ⟨insertIn key value map.entries, insertIn_ascending key value map.ascending⟩

def erase (map : OrderedMap α) (key : String) : OrderedMap α :=
  ⟨map.entries.filter fun entry => entry.1 ≠ key, map.ascending.filter _⟩

/-- The map with the value of one key changed, if it has one. -/
def modify (map : OrderedMap α) (key : String) (change : α → α) : OrderedMap α :=
  match map.find? key with
  | some value => map.insert key (change value)
  | none => map

def mapValues (f : α → β) (map : OrderedMap α) : OrderedMap β :=
  ⟨map.entries.map fun entry => (entry.1, f entry.2),
    List.pairwise_map.mpr (map.ascending.imp fun less => less)⟩

def values (map : OrderedMap α) : List α :=
  map.entries.map Prod.snd

def entriesAfter (map : OrderedMap α) (key : String) : List (String × α) :=
  map.entries.filter fun entry => key < entry.1

def size (map : OrderedMap α) : Nat :=
  map.entries.length

/-- The map of a list of entries, of which the last one with a key counts. -/
def ofList (entries : List (String × α)) : OrderedMap α :=
  entries.foldl (fun map entry => map.insert entry.1 entry.2) empty

end OrderedMap
end BpnDirectory
