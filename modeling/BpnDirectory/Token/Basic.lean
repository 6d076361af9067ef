import BpnDirectory.Key.Algorithm
import BpnDirectory.Text.Base64
import BpnDirectory.Text.Parts
import BpnDirectory.Token.EmbeddedKey

namespace BpnDirectory

/-!
Signed tokens.

A token is a text of three parts with dots between them: a header that says how
the token is signed, a payload with claims, and the signature of both.  Header
and payload are JSON in URL-safe base 64.  The parts are told apart from the end,
so a text with more dots has a header that is no base 64.
-/

open Json (Value Reading)

structure Token where
  header : List Char
  payload : List Char
  signature : List Char
  deriving DecidableEq, Repr

namespace Token

/-- Why a token is not accepted. -/
inductive Defect where
  | notThreeParts
  | badBase64
  | badJson
  | wrongFamily
  | badSignature
  | noExpiry
  | expired
  | wrongIssuer
  | wrongAudience
  deriving DecidableEq, Repr

/-- The wording of a defect. -/
def Defect.message : Defect → String
  | .notThreeParts => "InvalidToken"
  | .badBase64 => "Base64 error: the part cannot be decoded"
  | .badJson => "JSON error: the part holds something else"
  | .wrongFamily => "InvalidAlgorithm"
  | .badSignature => "InvalidSignature"
  | .noExpiry => "Missing required claim: exp"
  | .expired => "ExpiredSignature"
  | .wrongIssuer => "InvalidIssuer"
  | .wrongAudience => "InvalidAudience"

def ofText (text : String) : Except Defect Token :=
  match Text.cutLast? '.' text.toList with
  | none => .error .notThreeParts
  | some (message, signature) =>
    match Text.cutLast? '.' message with
    | none => .error .notThreeParts
    | some (header, payload) => .ok ⟨header, payload, signature⟩

def message (token : Token) : List Char :=
  token.header ++ '.' :: token.payload

def document (part : List Char) : Except Defect Json.Document :=
  match Text.Base64Url.decodeOctets part with
  | some octets => .ok (.ofOctets octets)
  | none => .error .badBase64

/-- The names of the fields of a header, in their order. -/
def headerNames : List String :=
  ["typ", "alg", "cty", "jku", "jwk", "kid", "x5u", "x5c", "x5t", "x5t#S256"]

structure HeaderFields where
  seen : List String
  algorithm : Option Algorithm

/-- Takes one field of a header into what has been read. -/
def assignHeader (fields : HeaderFields) (name : String) (value : Value) :
    Reading HeaderFields :=
  if name ∉ headerNames then value.skip.map fun _ => fields
  else if name ∈ fields.seen then .error .mismatch
  else
    let fields := { fields with seen := name :: fields.seen }
    match name with
    | "alg" => (Algorithm.read value).map fun algorithm => { fields with algorithm }
    | "jwk" => (EmbeddedKey.read value).map fun _ => fields
    | "x5c" => (Value.optional (Value.list Value.text) value).map fun _ => fields
    | _ => value.text?.map fun _ => fields

def finishHeader (fields : HeaderFields) : Reading Algorithm :=
  match fields.algorithm with
  | some algorithm => .ok algorithm
  | none => .error .mismatch

/-- Reads a header, of which only the algorithm matters.  A header that is an array
has to give all fields. -/
def readHeader (value : Value) : Reading Algorithm := do
  let algorithm ← Value.record headerNames ⟨[], none⟩ assignHeader finishHeader value
  match value with
  | .array items _ => if items.length = headerNames.length then .ok algorithm else .error .mismatch
  | _ => .ok algorithm

/-- The algorithm that a token says it is signed with. -/
def algorithm (token : Token) : Except Defect Algorithm := do
  let document ← document token.header
  (document.read readHeader).mapError fun _ => .badJson

end Token
end BpnDirectory
