import BpnDirectory.Json.Reading
import BpnDirectory.Proofs.Collection.Outcome
import Mathlib.Data.List.Forall2

namespace BpnDirectory
namespace Json
namespace Value

/-!
What a reader of data with named fields finds in an object.

The members are taken in one after the other, and a field must not be given twice.
So whatever the reader keeps of a field was read from the only value that the object
gives under its name, wherever that stands and whatever else the object holds.
-/

variable {φ α β : Type} {assign : φ → String → Value → Reading φ} {name : String}
  {slot : φ → Option β} {read : Value → Reading β}

def givenIn (members : List (Option String × Value)) (name : String) : List Value :=
  members.filterMap fun member => if member.1 = some name then some member.2 else none

def given (value : Value) (name : String) : List Value :=
  match value with
  | .object members _ => givenIn members name
  | _ => []

/-- The items of an array as members, each under the name that its place gives it. -/
def membersOf (names : List String) (items : List Value) : List (Option String × Value) :=
  (names.map some).zip items

/-- The members of data with named fields, whether it is written as an object or as an
array. -/
def entries (names : List String) : Value → List (Option String × Value)
  | .object members _ => members
  | .array items _ => membersOf names items
  | _ => []

/-- The values that data with named fields holds for one of the fields. -/
def field (names : List String) (value : Value) (name : String) : List Value :=
  givenIn (value.entries names) name

/-- Whether values give a text: they are that text and nothing else. -/
def Give (values : List Value) (content : String) : Prop :=
  values = [.string (.text content)]

/-- Whether values say nothing: there are none, or there is a null only. -/
def SayNothing (values : List Value) : Prop :=
  values = [] ∨ values = [.null]

/-- Whether values give texts: they are an array of them, or there are neither. -/
def GiveAll (values : List Value) (contents : List String) : Prop :=
  values = [] ∧ contents = [] ∨
    values = [.array (contents.map fun content => .string (.text content)) true]

/-- Whether a reader keeps the field of a name in a slot: what it reads goes into the
empty slot, and every other field leaves the slot alone. -/
structure Keeps (assign : φ → String → Value → Reading φ) (name : String)
    (slot : φ → Option β) (read : Value → Reading β) : Prop where
  own : ∀ {fields value next}, assign fields name value = .ok next →
    slot fields = none ∧ ∃ kept, read value = .ok kept ∧ slot next = some kept
  others : ∀ {fields other value next}, other ≠ name → assign fields other value = .ok next →
    slot next = slot fields

/-- What a slot holds after all of some values were read into it, of which there is one
at most. -/
def IsKept (read : Value → Reading β) (values : List Value) (kept : Option β) : Prop :=
  (values = [] ∧ kept = none) ∨
    ∃ value found, values = [value] ∧ read value = .ok found ∧ kept = some found

theorem Keeps.untouched_of_full (keeps : Keeps assign name slot read) {found : β}
    {start fields : φ} {members : List (Option String × Value)} (full : slot start = some found)
    (assigned : assignMembers assign start members = .ok fields) :
    givenIn members name = [] ∧ slot fields = some found := by
  induction members generalizing start with
  | nil =>
      cases assigned
      exact ⟨rfl, full⟩
  | cons member rest ih =>
      rcases member with ⟨_ | key, value⟩
      · cases assigned
      · rcases bind_eq_ok.mp assigned with ⟨next, taken, assigned⟩
        by_cases same : key = name
        · subst same
          rw [(keeps.own taken).1] at full
          cases full
        · have left := (keeps.others same taken).trans full
          rcases ih left assigned with ⟨none_given, kept⟩
          exact ⟨by simpa [givenIn, same] using none_given, kept⟩

theorem Keeps.isKept (keeps : Keeps assign name slot read) {start fields : φ}
    {members : List (Option String × Value)} (empty : slot start = none)
    (assigned : assignMembers assign start members = .ok fields) :
    IsKept read (givenIn members name) (slot fields) := by
  induction members generalizing start with
  | nil =>
      cases assigned
      exact .inl ⟨rfl, empty⟩
  | cons member rest ih =>
      rcases member with ⟨_ | key, value⟩
      · cases assigned
      · rcases bind_eq_ok.mp assigned with ⟨next, taken, assigned⟩
        by_cases same : key = name
        · subst same
          rcases keeps.own taken with ⟨_, found, readValue, full⟩
          rcases keeps.untouched_of_full full assigned with ⟨none_given, kept⟩
          exact .inr ⟨value, found, by simpa [givenIn] using none_given, readValue, kept⟩
        · have left := ih ((keeps.others same taken).trans empty) assigned
          simpa [givenIn, same] using left

theorem record_object {names : List String} {start : φ} {finish : φ → Reading α}
    {members : List (Option String × Value)} :
    record names start assign finish (.object members true) =
      assignMembers assign start members >>= finish := rfl

/-- The items of an array are taken in as members are. -/
theorem assignItems_eq (fields : φ) (names : List String) (items : List Value) :
    assignItems assign fields names items =
      (assignMembers assign fields (membersOf names items)).map fun last =>
        (last, items.drop names.length) := by
  induction names generalizing fields items with
  | nil => rfl
  | cons name later ih =>
      cases items with
      | nil => rfl
      | cons item rest =>
          rw [assignItems, membersOf, List.map_cons, List.zip_cons_cons, Value.assignMembers,
            ← membersOf]
          cases assign fields name item with
          | error fault => rfl
          | ok next => exact ih next rest

/-- Whatever is read of data with named fields comes from fields of which each slot keeps the
only value given for it. -/
theorem fields_of_record {names : List String} {start : φ}
    {finish : φ → Reading α} {value : Value} {data : α}
    (found : record names start assign finish value = .ok data) :
    ∃ fields, assignMembers assign start (value.entries names) = .ok fields ∧
      finish fields = .ok data := by
  unfold record at found
  split at found
  · next entries closed =>
      rcases bind_eq_ok.mp found with ⟨fields, assigned, found⟩
      split at found
      · exact ⟨fields, assigned, found⟩
      · cases found
  · next items closed =>
      rcases bind_eq_ok.mp found with ⟨_, mapped, found⟩
      rw [assignItems_eq] at mapped
      rcases map_eq_ok_iff.mp mapped with ⟨fields, assigned, rfl⟩
      dsimp only at found
      split at found
      · cases found
      · rcases bind_eq_ok.mp found with ⟨_, finished, found⟩
        split at found
        · cases found
          exact ⟨fields, assigned, finished⟩
        · cases found
  · cases found

theorem once_eq_ok_iff {previous : Option β} {value : Value} {next : Option β} :
    once previous read value = .ok next ↔
      previous = none ∧ ∃ found, read value = .ok found ∧ next = some found := by
  cases previous with
  | some kept => simp [once]
  | none =>
      rw [once, if_neg (by simp)]
      cases read value <;> simp [Except.map, eq_comm]

/-! ## Fields that are put into their slots -/

section

variable {put : Option β → φ} {previous : Option β} {fields next : φ} {value : Value}

/-- A field that is put into its slot found the slot empty. -/
theorem own_of_put {read : Value → Reading β} (lands : ∀ kept, slot (put kept) = kept)
    (taken : (do return put (← once previous read value)) = .ok next) :
    previous = none ∧ ∃ kept, read value = .ok kept ∧ slot next = some kept := by
  rcases bind_eq_ok.mp taken with ⟨kept, once, done⟩
  cases done
  rcases once_eq_ok_iff.mp once with ⟨empty, found, readValue, rfl⟩
  exact ⟨empty, found, readValue, lands _⟩

variable {γ : Type} {other : φ → Option γ}

theorem other_of_put {read : Value → Reading β}
    (taken : (do return put (← once previous read value)) = .ok next)
    (apart : ∀ kept, other (put kept) = other fields) : other next = other fields := by
  rcases bind_eq_ok.mp taken with ⟨kept, _, done⟩
  cases done
  exact apart kept

theorem other_of_skip (taken : (value.skip.map fun _ => fields) = .ok next) :
    other next = other fields := by
  rcases map_eq_ok_iff.mp taken with ⟨_, _, rfl⟩
  rfl

end

theorem text_eq_ok_iff {value : Value} {content : String} :
    text value = .ok content ↔ value = .string (.text content) := by
  unfold text
  split <;> simp_all

theorem optional_eq_ok_iff {value : Value} {found : Option β} :
    optional read value = .ok found ↔
      value = .null ∧ found = none ∨
        value ≠ .null ∧ ∃ content, read value = .ok content ∧ found = some content := by
  unfold optional
  split
  · simp [eq_comm]
  · next other => cases read value <;> simp_all [Except.map, eq_comm]

theorem mapM_eq_ok_iff_forall₂ {read : Value → Reading α} {items : List Value} {data : List α} :
    items.mapM read = .ok data ↔ List.Forall₂ (fun item one => read item = .ok one) items data := by
  induction items generalizing data with
  | nil =>
      rw [List.forall₂_nil_left_iff]
      exact ⟨fun done => (Except.ok.inj done).symm, fun none => none ▸ rfl⟩
  | cons item rest ih =>
      rw [List.mapM_cons, bind_eq_ok, List.forall₂_cons_left_iff]
      constructor
      · rintro ⟨one, readItem, later⟩
        rcases bind_eq_ok.mp later with ⟨others, readRest, done⟩
        exact ⟨one, others, readItem, ih.mp readRest, (Except.ok.inj done).symm⟩
      · rintro ⟨one, others, readItem, readRest, rfl⟩
        exact ⟨one, readItem, bind_eq_ok.mpr ⟨others, ih.mpr readRest, rfl⟩⟩

theorem list_text_eq_ok_iff {value : Value} {contents : List String} :
    list text value = .ok contents ↔
      value = .array (contents.map fun content => .string (.text content)) true := by
  have each (items : List Value) : items.mapM text = .ok contents ↔
      items = contents.map fun content => .string (.text content) := by
    rw [mapM_eq_ok_iff_forall₂, ← List.forall₂_eq_eq_eq, List.forall₂_map_right_iff]
    simp only [text_eq_ok_iff]
  unfold list
  split
  · next items closed =>
      rw [bind_eq_ok]
      cases closed with
      | false => simp
      | true => simpa [pure, Except.pure] using each items
  · next value other =>
      refine iff_of_false nofun ?_
      rintro rfl
      exact other _ _ rfl

/-! ## Texts that are kept -/

/-- A slot for a text that may be null holds the text that is given, if one is. -/
theorem IsKept.join_eq_some_iff {values : List Value} {kept : Option (Option String)}
    {content : String} (isKept : IsKept text? values kept) :
    kept.join = some content ↔ Give values content := by
  rcases isKept with ⟨rfl, rfl⟩ | ⟨value, found, rfl, readValue, rfl⟩
  · simp [Give]
  · rcases optional_eq_ok_iff.mp readValue with ⟨rfl, rfl⟩ | ⟨_, other, readText, rfl⟩
    · simp [Give]
    · cases text_eq_ok_iff.mp readText
      simp [Give]

theorem IsKept.join_eq_none_iff {values : List Value} {kept : Option (Option String)}
    (isKept : IsKept text? values kept) : kept.join = none ↔ SayNothing values := by
  rcases isKept with ⟨rfl, rfl⟩ | ⟨value, found, rfl, readValue, rfl⟩
  · simp [SayNothing]
  · rcases optional_eq_ok_iff.mp readValue with ⟨rfl, rfl⟩ | ⟨_, other, readText, rfl⟩
    · simp [SayNothing]
    · cases text_eq_ok_iff.mp readText
      simp [SayNothing]

theorem IsKept.giveAll {values : List Value} {kept : Option (List String)}
    (isKept : IsKept (list text) values kept) : GiveAll values (kept.getD []) := by
  rcases isKept with ⟨rfl, rfl⟩ | ⟨value, found, rfl, readValue, rfl⟩
  · exact .inl ⟨rfl, rfl⟩
  · exact .inr (by rw [list_text_eq_ok_iff.mp readValue, Option.getD_some])

end Value
end Json
end BpnDirectory
