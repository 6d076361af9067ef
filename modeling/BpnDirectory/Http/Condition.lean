import BpnDirectory.Failure
import BpnDirectory.Http.Headers
import BpnDirectory.Text.Blank
import BpnDirectory.Text.Decimal

namespace BpnDirectory
namespace Http

/-!
The version that a request depends on.

A client that changes a record may name the version that it knows in the header
field for conditions, as an entity tag or as a bare number.
-/

/-- A text without the marks of a weak tag in front of it. -/
def dropWeak : List Char → List Char
  | 'W' :: '/' :: rest => dropWeak rest
  | cs => cs

def unquote (cs : List Char) : List Char :=
  let opened := cs.dropWhile (· == '"')
  (opened.reverse.dropWhile (· == '"')).reverse

/-- The version that an entity tag names. -/
def tagVersion? (text : String) : Option Int :=
  Text.signed64? (String.ofList (unquote (dropWeak (Text.trimChars text.toList))))

/-- The version that a request depends on, if it names one. -/
def expectedVersion (headers : Headers) : Except Failure (Option Int) :=
  match headers.find? "if-match" with
  | none => .ok none
  | some value =>
    match fieldText? value with
    | none => .error (.invalidInput "If-Match is not valid ASCII")
    | some text =>
      match tagVersion? text with
      | some version => .ok (some version)
      | none => .error (.invalidInput s!"If-Match must carry a version, got {text}")

end Http
end BpnDirectory
