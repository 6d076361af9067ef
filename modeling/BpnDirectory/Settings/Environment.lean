import BpnDirectory.Collection.OrderedMap
import BpnDirectory.Text.Blank
import BpnDirectory.Text.Decimal
import BpnDirectory.Text.Parts

namespace BpnDirectory

/-!
The variables that the service is set up with.

A variable that is not set has a usual value.  One that is set must be readable:
a value is never passed over because it makes no sense.  Blanks around numbers
and words do not matter, but a complaint shows the value as it was given.
-/

abbrev Environment := OrderedMap String

/-- A variable whose value could not be read. -/
structure BadValue where
  name : String
  value : String
  deriving DecidableEq, Repr

namespace Environment

variable {α : Type}

/-- The value of a variable as `read?` reads it without the blanks around it. -/
def parsed (environment : Environment) (name : String) (usual : α)
    (read? : String → Option α) : Except BadValue α :=
  match environment.find? name with
  | none => .ok usual
  | some value =>
    match read? (Text.trim value) with
    | some meaning => .ok meaning
    | none => .error ⟨name, value⟩

def port (environment : Environment) (name : String) (usual : UInt16) :
    Except BadValue UInt16 :=
  environment.parsed name usual fun text =>
    (Text.natural? 0xffff text).map UInt16.ofNat

def number32 (environment : Environment) (name : String) (usual : UInt32) :
    Except BadValue UInt32 :=
  environment.parsed name usual fun text =>
    (Text.natural? 0xffffffff text).map UInt32.ofNat

def number64 (environment : Environment) (name : String) (usual : UInt64) :
    Except BadValue UInt64 :=
  environment.parsed name usual fun text => (Text.unsigned64? text).map UInt64.ofNat

def flag (environment : Environment) (name : String) (usual : Bool) : Except BadValue Bool :=
  environment.parsed name usual fun text =>
    match text with
    | "true" => some true
    | "false" => some false
    | _ => none

def text (environment : Environment) (name usual : String) : String :=
  (environment.find? name).getD usual

/-- A text that is taken as it is, unless it is blank. -/
def filled? (environment : Environment) (name : String) : Option String :=
  (environment.find? name).filter Text.isFilled

/-- Texts with commas between them, without the blanks around each and without
empty ones. -/
def texts (environment : Environment) (name : String) : List String :=
  let parts := Text.parts ',' (environment.text name "").toList
  (parts.map fun part => Text.trim (String.ofList part)).filter fun part => part ≠ ""

end Environment
end BpnDirectory
