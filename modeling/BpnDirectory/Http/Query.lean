import BpnDirectory.Text.Parts
import BpnDirectory.Text.Hexadecimal
import BpnDirectory.Text.Utf8

namespace BpnDirectory
namespace Http

/-!
Query strings.

A query is a list of fields as forms write them: ampersands between fields, an
equals sign between name and value, a plus sign for a space and percent signs for
other octets.  Octets that are no text become replacement characters.
-/

structure Query where
  fields : List (String × String)
  deriving DecidableEq, Repr

namespace Query

/-- The text that a part of a field stands for. -/
def decode (cs : List Char) : String :=
  let spaced := cs.map fun c => if c = '+' then ' ' else c
  Text.Utf8.readLossy (Text.Percent.decode (Text.Utf8.octets (String.ofList spaced)))

/-- The field that a part of a query stands for.  Without an equals sign it has an
empty value. -/
def field (cs : List Char) : String × String :=
  match Text.cut? '=' cs with
  | some (name, value) => (decode name, decode value)
  | none => (decode cs, "")

/-- The fields of a query string.  Empty parts are passed over. -/
def ofText (text : String) : Query :=
  ⟨((Text.parts '&' text.toList).filter fun part => !part.isEmpty).map field⟩

def all (query : Query) (name : String) : List String :=
  (query.fields.filter fun field => field.1 == name).map Prod.snd

/-- The first name that stands behind itself, or behind names that were seen before. -/
def firstRepeat (seen : List String) : List String → Option String
  | [] => none
  | name :: rest => if name ∈ seen then some name else firstRepeat (name :: seen) rest

/-- The values of some fields, or the name of the first of them that the query repeats. -/
def values (query : Query) (names : List String) : Except String (List (Option String)) :=
  match firstRepeat [] ((query.fields.map Prod.fst).filter fun name => name ∈ names) with
  | some name => .error name
  | none => .ok (names.map fun name => (query.all name).head?)

end Query
end Http
end BpnDirectory
