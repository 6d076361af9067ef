import BpnDirectory.Json.Document
import BpnDirectory.Json.Number

namespace BpnDirectory
namespace Json

/-!
Reading data out of a document.

A reader goes through a value in the order of the text and stops at the first
fault.  A fault is either a mismatch, where the text has a value of another form
than the reader wants, or a place where the text is malformed; a text may hold
both, and then the one that stands first is reported.

Data with named fields may be written as an object, whose unknown fields are
ignored and whose known fields must not be repeated, or as an array of the
fields in their order.
-/

inductive Fault where
  /-- The text does not go on as JSON. -/
  | malformed
  /-- The text holds something else. -/
  | mismatch
  deriving DecidableEq, Repr

abbrev Reading (α : Type) := Except Fault α

namespace Value

/-- Passes over a value.  What stands inside it is not looked at, but the text
must be able to go on behind it. -/
def skip : Value → Reading Unit
  | .broken => .error .malformed
  | .array _ closed | .object _ closed => if closed then .ok () else .error .malformed
  | _ => .ok ()

/-- The fault of a value that is not of the wanted form.  A string or a number
has to be readable for itself before it can be of the wrong form. -/
def refuse : Value → Fault
  | .broken => .malformed
  | .string (.flawed _) => .malformed
  | .number literal => if literal.number?.isSome then .mismatch else .malformed
  | _ => .mismatch

def text : Value → Reading String
  | .string (.text content) => .ok content
  | value => .error value.refuse

def optional {α : Type} (read : Value → Reading α) : Value → Reading (Option α)
  | .null => .ok none
  | value => (read value).map some

/-- The text of a string that may be null instead. -/
def text? : Value → Reading (Option String) :=
  optional text

def signed : Value → Reading Int
  | .number literal =>
    match literal.number? with
    | some (.whole n) => if n ≤ Text.maxSigned64 then .ok n else .error .mismatch
    | some (.floating ..) => .error .mismatch
    | none => .error .malformed
  | value => .error value.refuse

/-- The items of an array, each read in turn. -/
def list {α : Type} (read : Value → Reading α) : Value → Reading (List α)
  | .array items closed => do
    let values ← items.mapM read
    if closed then .ok values else .error .malformed
  | value => .error value.refuse

/-- The members of an object, each key with the value that is read last for it. -/
def members {α : Type} (read : Value → Reading α) :
    Value → Reading (List (String × α))
  | .object entries closed => do
    let values ← entries.mapM fun entry =>
      match entry.1 with
      | some key => (read entry.2).map fun value => (key, value)
      | none => .error .malformed
    if closed then .ok values else .error .malformed
  | value => .error value.refuse

/-- The members of an object, taken into `fields` one after the other. -/
def assignMembers {φ : Type} (assign : φ → String → Value → Reading φ) :
    φ → List (Option String × Value) → Reading φ
  | fields, [] => .ok fields
  | _, (none, _) :: _ => .error .malformed
  | fields, (some key, value) :: rest => do
    assignMembers assign (← assign fields key value) rest

/-- The items of an array, taken into the fields that `names` lists.  Items that
are left over make the text malformed, since the array has to end there. -/
def assignItems {φ : Type} (assign : φ → String → Value → Reading φ) :
    φ → List String → List Value → Reading (φ × List Value)
  | fields, [], items => .ok (fields, items)
  | fields, _, [] => .ok (fields, [])
  | fields, name :: names, item :: items => do
    assignItems assign (← assign fields name item) names items

/-- Data with named fields.  `assign` takes the value of one field into what has
been read so far, and `finish` says what the data is or that a field is
missing. -/
def record {φ α : Type} (names : List String) (start : φ)
    (assign : φ → String → Value → Reading φ) (finish : φ → Reading α) :
    Value → Reading α
  | .object entries closed => do
    let fields ← assignMembers assign start entries
    if closed then finish fields else .error .malformed
  | .array items closed => do
    let (fields, surplus) ← assignItems assign start names items
    if items.length < names.length && !closed then .error .malformed
    else
      let data ← finish fields
      if closed && surplus.isEmpty then .ok data else .error .malformed
  | value => .error value.refuse

/-- A field that must not be given twice. -/
def once {α : Type} (previous : Option α) (read : Value → Reading α) (value : Value) :
    Reading (Option α) :=
  if previous.isSome then .error .mismatch else (read value).map some

mutual

/-- Whether a value can be kept as it is, with at most `depth` arrays and objects
nested in each other. -/
def isStorable (depth : Nat) : Value → Bool
  | .null | .bool _ => true
  | .number literal => literal.number?.isSome
  | .string content => content.text?.isSome
  | .array items closed => 0 < depth && closed && areItemsStorable (depth - 1) items
  | .object entries closed => 0 < depth && closed && areMembersStorable (depth - 1) entries
  | .broken => false

def areItemsStorable (depth : Nat) : List Value → Bool
  | [] => true
  | item :: rest => isStorable depth item && areItemsStorable depth rest

def areMembersStorable (depth : Nat) : List (Option String × Value) → Bool
  | [] => true
  | (key, value) :: rest =>
    key.isSome && isStorable depth value && areMembersStorable depth rest

end

end Value

/-- The data of a whole text, behind which nothing may follow. -/
def Document.read {α : Type} (document : Document) (read : Value → Reading α) : Reading α := do
  let data ← read document.value
  if document.trailing then .error .malformed else .ok data

end Json
end BpnDirectory
