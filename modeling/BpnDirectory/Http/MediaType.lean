import BpnDirectory.Http.Headers
import BpnDirectory.Text.Parts

namespace BpnDirectory
namespace Http

/-!
Media types.

A media type has a main type and a subtype, which may end in a suffix that names a
format, and parameters.  A value with a malformed part is no media type, and no
blank may stand anywhere but around parameters.
-/

/-- A media type without its parameters, in lower case. -/
structure MediaType where
  main : String
  subtype : String
  suffix : Option String
  deriving DecidableEq, Repr

namespace MediaType

/-- Parameters under way. -/
inductive Parameters where
  /-- No parameter was begun, perhaps behind spaces. -/
  | between
  | name
  /-- The equals sign was read. -/
  | equals
  | value
  /-- Inside quotes, and whether something stands in them. -/
  | quoted (filled : Bool)
  /-- Behind a quoted value. -/
  | closed

namespace Parameters

def step? (c : Char) : Parameters → Option Parameters
  | .between => if c = ' ' then some .between else if isTokenChar c then some .name else none
  | .name => if c = '=' then some .equals else if isTokenChar c then some .name else none
  | .equals =>
    if c = '"' then some (.quoted false) else if isTokenChar c then some .value else none
  | .value => if c = ';' then some .between else if isTokenChar c then some .value else none
  | .quoted filled =>
    if c = '"' && filled then some .closed else if c = '\t' then none else some (.quoted true)
  | .closed => if c = ';' then some .between else if c = ' ' then some .closed else none

def mayEnd : Parameters → Bool
  | .between | .equals | .value | .closed => true
  | .name | .quoted _ => false

def accept (cs : List Char) : Bool :=
  match cs.foldlM (fun state c => step? c state) .between with
  | some state => state.mayEnd
  | none => false

end Parameters

def isName (cs : List Char) : Bool := !cs.isEmpty && cs.all isTokenChar

def lower (cs : List Char) : String := (String.ofList cs).toLower

/-- The media type of a main type and a subtype.  The last plus sign that does not
begin the subtype begins its suffix. -/
def ofNames (main subtype : List Char) : MediaType :=
  match Text.cutLast? '+' subtype with
  | some (stem, suffix) =>
    if stem.isEmpty then ⟨lower main, lower subtype, none⟩
    else ⟨lower main, lower stem, some (lower suffix)⟩
  | none => ⟨lower main, lower subtype, none⟩

def ofText? (text : String) : Option MediaType := do
  let (main, rest) ← Text.cut? '/' text.toList
  let (subtype, parameters) := (Text.cut? ';' rest).getD (rest, [])
  guard (isName main && isName subtype && Parameters.accept parameters)
  return ofNames main subtype

def isJson (type : MediaType) : Bool :=
  type.main == "application" && (type.subtype == "json" || type.suffix == some "json")

def ofHeaders? (headers : Headers) : Option MediaType :=
  (headers.text? "content-type").bind ofText?

end MediaType
end Http
end BpnDirectory
