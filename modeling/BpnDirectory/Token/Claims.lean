import BpnDirectory.Token.Basic

namespace BpnDirectory
namespace Token

/-!
The registered claims of a token.

Whatever else a payload says, some claims have a fixed meaning: until when the
token holds, who issued it and whom it is for.  They are read with patience: a
claim of another form counts as not given, as long as the text goes on behind
it.
-/

open Json (Value Reading)

/-- The registered claims that are checked.  A name claim that is not given, or of
another form, is not there. -/
structure Claims where
  expiry : Option Nat
  issuers : Option (List String)
  audiences : Option (List String)
  deriving DecidableEq, Repr

namespace Claims

/-- The greatest number of arrays and objects inside a claim. -/
def depth : Nat := 126

/-- The number of a time that a literal stands for.  It has 64 bits at most. -/
def timeOf? (literal : Json.Literal) : Option Nat :=
  match literal.number? with
  | some (.whole n) => if 0 ≤ n then some n.toNat else none
  | some (.floating negative magnitude) =>
    if (!negative || magnitude.units = 0) && magnitude.units < 0x10000000000000000 * Numeric.Binary64.one then
      some magnitude.round
    else none
  | none => none

/-- Whether a reader that wants a claim of another form stands behind a value that is
neither array nor object. -/
def isPassed : Value → Bool
  | .null | .bool _ => true
  | .number literal => !literal.isGivenUp
  | .string content => content.isPassed
  | _ => false

/-- Reads a time in seconds since the start of 1970.  An array or object with something
in it is not passed over. -/
def readTime (value : Value) : Reading (Option Nat) :=
  match value with
  | .array [] true | .object [] true => .ok none
  | .number literal => if isPassed value then .ok (timeOf? literal) else .error .malformed
  | _ => if isPassed value then .ok none else .error .malformed

/-- Reads a claim with one text, which is of no use here.  An array or object is not
passed over. -/
def readIdle (value : Value) : Reading Unit :=
  if isPassed value then .ok () else .error .malformed

def text? : Value → Option String
  | .string content => content.text?
  | _ => none

def namesOf? : Value → Option (List String)
  | .string (.text name) => some [name]
  | .array items true => items.mapM text?
  | _ => none

/-- Reads a claim with one name or several. -/
def readNames (value : Value) : Reading (Option (List String)) :=
  if value.isStorable depth then .ok (namesOf? value) else .error .malformed

structure Fields where
  seen : List String
  claims : Claims

/-- The names of the claims that are read. -/
def names : List String := ["exp", "nbf", "sub", "iss", "aud"]

/-- Takes one claim into what has been read. -/
def assign (fields : Fields) (name : String) (value : Value) : Reading Fields :=
  let ⟨seen, claims⟩ := fields
  if name ∉ names then value.skip.map fun _ => fields
  else if name ∈ seen then .error .mismatch
  else
    match name with
    | "exp" => return ⟨name :: seen, { claims with expiry := ← readTime value }⟩
    | "nbf" => (readTime value).map fun _ => ⟨name :: seen, claims⟩
    | "sub" => (readIdle value).map fun _ => ⟨name :: seen, claims⟩
    | "iss" => return ⟨name :: seen, { claims with issuers := ← readNames value }⟩
    | _ => return ⟨name :: seen, { claims with audiences := ← readNames value }⟩

/-- Reads the claims, which have to be the members of an object. -/
def read : Value → Reading Claims
  | .object members closed =>
    Value.record [] ⟨[], ⟨none, none, none⟩⟩ assign (fun fields => .ok fields.claims)
      (.object members closed)
  | _ => .error .mismatch

/-- How many seconds after its expiry a token is still accepted. -/
def leeway : Nat := 60

/-- Whether a name is among those of a claim, if the claim is given. -/
def allows (names : Option (List String)) (expected : String) : Bool :=
  names.all fun names => names.contains expected

/-- The check of claims at a time in seconds since the start of 1970. -/
def check (claims : Claims) (now : Int) (issuer : String) (audience : Option String) :
    Except Defect Unit :=
  match claims.expiry with
  | none => .error .noExpiry
  | some expiry =>
    if expiry < now - leeway then .error .expired
    else if !allows claims.issuers issuer then .error .wrongIssuer
    else if !audience.all (allows claims.audiences) then .error .wrongAudience
    else .ok ()

end Claims
end Token
end BpnDirectory
