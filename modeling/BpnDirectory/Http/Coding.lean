import BpnDirectory.Http.Headers
import BpnDirectory.Text.Blank
import BpnDirectory.Text.Parts

namespace BpnDirectory
namespace Http

/-!
Content codings that a client accepts.

A client lists codings with weights from zero to one.  Of those that the service
knows the one with the greatest weight is taken, and compression goes before
sending the content as it is; a weight of zero rules a coding out.  Codings that
the service does not know are passed over, and so are entries with a malformed
weight.
-/

inductive Coding where
  | identity
  | gzip
  deriving DecidableEq, Repr

namespace Coding

def ofName? (name : String) : Option Coding :=
  match name.toLower with
  | "gzip" | "x-gzip" => some .gzip
  | "identity" => some .identity
  | _ => none

def name : Coding → String
  | .identity => "identity"
  | .gzip => "gzip"

/-- The weight one, in thousandths. -/
def fullWeight : Nat := 1000

/-- The thousandths that at most three digits behind the point stand for. -/
def thousandths? (unit : Nat) : List Char → Option Nat
  | [] => some 0
  | c :: rest =>
    if unit = 0 || !c.isDigit then none
    else (thousandths? (unit / 10) rest).map fun later => (c.toNat - '0'.toNat) * unit + later

/-- A weight in thousandths. -/
def weight? : List Char → Option Nat
  | q :: '=' :: digit :: rest =>
    if (q = 'q' || q = 'Q') && (digit = '0' || digit = '1') then
      let whole := if digit = '1' then fullWeight else 0
      match rest with
      | [] => some whole
      | '.' :: digits =>
        ((thousandths? 100 digits).map (whole + ·)).filter (· ≤ fullWeight)
      | _ => none
    else none
  | _ => none

/-- A coding with its weight, as an entry of a list gives them. -/
def entry? (cs : List Char) : Option (Coding × Nat) := do
  match Text.cut? ';' cs with
  | none => return (← ofName? (Text.trim (String.ofList cs)), fullWeight)
  | some (name, weight) =>
    return (← ofName? (Text.trim (String.ofList name)), ← weight? (Text.trimChars weight))

/-- The codings that a client lists, with their weights. -/
def listed (headers : Headers) : List (Coding × Nat) :=
  ((headers.all "accept-encoding").filterMap fieldText?).flatMap fun text =>
    (Text.parts ',' text.toList).filterMap entry?

/-- The greatest weight with which a coding is listed; zero if it is not. -/
def weightOf (coding : Coding) (entries : List (Coding × Nat)) : Nat :=
  ((entries.filter fun entry => entry.1 == coding).map Prod.snd).foldl max 0

/-- Whether content is sent compressed to a client. -/
def isGzipPreferred (headers : Headers) : Bool :=
  let entries := listed headers
  let weight := Coding.gzip.weightOf entries
  0 < weight && Coding.identity.weightOf entries ≤ weight

end Coding
end Http
end BpnDirectory
