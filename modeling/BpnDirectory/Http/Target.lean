import BpnDirectory.Text.Parts

namespace BpnDirectory
namespace Http

/-!
Request targets.

A target names what a request is about.  Most requests give a path and perhaps a
query; a target may also be a whole URI, a bare authority or an asterisk.  What
follows a number sign never reaches the service.
-/

/-- The path and the query of a target, as they were written. -/
structure Target where
  path : String
  query : String
  deriving DecidableEq, Repr

namespace Target

/-- Greatest number of octets of a target. -/
def greatestLength : Nat := 65534

/-- Whether a character may stand in a path. -/
def isPathChar (c : Char) : Bool :=
  '!' ≤ c && c != '\x7f' && !"#<>?`".toList.contains c

/-- Whether a character may stand in a query. -/
def isQueryChar (c : Char) : Bool :=
  '!' ≤ c && c != '\x7f' && !"\"#<>".toList.contains c

/-- The target of a path with its query.  An empty path is the root. -/
def ofPath? (cs : List Char) : Option Target :=
  let path := cs.takeWhile fun c => c != '?' && c != '#'
  let query :=
    match cs.drop path.length with
    | '?' :: rest => rest.takeWhile (· != '#')
    | _ => []
  if path.all isPathChar && query.all isQueryChar then
    some ⟨if path.isEmpty then "/" else String.ofList path, String.ofList query⟩
  else none

/-- What was seen of an authority.  Colons and percent signs are forgotten where
they turn out to belong to a user or to an address in brackets. -/
structure Authority where
  colons : Nat
  opened : Bool
  closed : Bool
  escaped : Bool
  /-- Whether the last character was the sign behind a user. -/
  bare : Bool

/-- Whether a character may stand in an authority. -/
def isAuthorityChar (c : Char) : Bool :=
  c.isAlphanum || "!$&'()*+,-.;=_~".toList.contains c

/-- Greatest number of colons inside brackets. -/
def greatestColons : Nat := 8

/-- Takes one more character of an authority. -/
def Authority.step? (seen : Authority) (c : Char) : Option Authority :=
  let seen := { seen with bare := false }
  match c with
  | ':' =>
    if seen.colons < greatestColons then some { seen with colons := seen.colons + 1 } else none
  | '[' => if seen.escaped || seen.opened then none else some { seen with opened := true }
  | ']' =>
    if seen.opened && !seen.closed then
      some { seen with closed := true, colons := 0, escaped := false }
    else none
  | '@' => some { seen with colons := 0, escaped := false, bare := true }
  | '%' => some { seen with escaped := true }
  | c => if isAuthorityChar c then some seen else none

def isAuthority (cs : List Char) : Bool :=
  match cs.foldlM Authority.step? ⟨0, false, false, false, false⟩ with
  | some seen => seen.opened == seen.closed && seen.colons ≤ 1 && !seen.bare && !seen.escaped
  | none => false

/-- Greatest number of characters of a scheme. -/
def greatestScheme : Nat := 64

/-- Whether a character may stand in a scheme. -/
def isSchemeChar (c : Char) : Bool :=
  c.isAlphanum || "+-.~".toList.contains c

/-- What stands before the authority of a URI and what stands behind the mark. -/
def cutScheme? (cs : List Char) : Option (List Char × List Char) :=
  (Text.cutAt? "://".toList cs).filter fun halves => halves.1.all isSchemeChar

/-- The target of a text that does not begin with a path. -/
def ofUri? (cs : List Char) : Option Target :=
  match cutScheme? cs with
  | none => if isAuthority cs then some ⟨"", ""⟩ else none
  | some (scheme, rest) =>
    let authority := rest.takeWhile fun c => c != '/' && c != '?' && c != '#'
    if scheme.length ≤ greatestScheme && !authority.isEmpty && isAuthority authority then
      ofPath? (rest.drop authority.length)
    else none

def ofText? (text : String) : Option Target :=
  if text.utf8ByteSize > greatestLength then none
  else
    match text.toList with
    | [] => none
    | ['*'] => some ⟨"*", ""⟩
    | '/' :: rest => ofPath? ('/' :: rest)
    | cs => ofUri? cs

end Target
end Http
end BpnDirectory
