import BpnDirectory.Json.Reading

namespace BpnDirectory
namespace Token
namespace EmbeddedKey

/-!
Keys inside headers.

A header may carry the public key of its signer as an object.  The service looks
keys up by their owner and has no use for it, but a header whose key is no key is
refused.  The object has some fields that any key may have, and the fields of one
type of key.
-/

open Json (Value Reading)

/-- The greatest number of arrays and objects inside a field. -/
def depth : Nat := 125

abbrev Members := List (Option String × Value)

def valuesOf (name : String) (members : Members) : List Value :=
  (members.filter fun member => member.1 = some name).map Prod.snd

def isText : Value → Bool
  | .string content => content.text?.isSome
  | _ => false

def isTexts : Value → Bool
  | .array items _ => items.all isText
  | _ => false

/-- Whether a value is one of some names, or an object with nothing but such a name,
for which no data is given. -/
def isOneOf (names : List String) : Value → Bool
  | .string content => content.text?.any names.contains
  | .object [(some name, .null)] _ => names.contains name
  | _ => false

/-- The names of algorithms that a key may be for.  Some of them encrypt, and sign
nothing. -/
def algorithms : List String :=
  ["HS256", "HS384", "HS512", "ES256", "ES384", "RS256", "RS384", "RS512", "PS256", "PS384",
    "PS512", "EdDSA", "RSA1_5", "RSA-OAEP", "RSA-OAEP-256"]

/-- Whether a value names an algorithm.  Here the data for the name may also be an
object without members. -/
def isAlgorithm : Value → Bool
  | .object [(some name, .object [] _)] _ => algorithms.contains name
  | value => isOneOf algorithms value

/-- The fields that any key may have, and which values they may have. -/
def sharedFields : List (String × (Value → Bool)) :=
  [("use", isText), ("key_ops", isTexts), ("alg", isAlgorithm), ("kid", isText),
    ("x5u", isText), ("x5c", isTexts), ("x5t", isText), ("x5t#S256", isText)]

def curves : List String := ["P-256", "P-384", "P-521", "Ed25519"]

/-- The types of keys, with the fields that each of them must have. -/
def types : List (List (String × (Value → Bool))) :=
  [[("kty", isOneOf ["EC"]), ("crv", isOneOf curves), ("x", isText), ("y", isText)],
    [("kty", isOneOf ["RSA"]), ("n", isText), ("e", isText)],
    [("kty", isOneOf ["oct"]), ("k", isText)],
    [("kty", isOneOf ["OKP"]), ("crv", isOneOf curves), ("x", isText)]]

/-- Whether a field that may be left out, or be null, is fit. -/
def fitsShared (members : Members) (field : String × (Value → Bool)) : Bool :=
  match valuesOf field.1 members with
  | [] | [.null] => true
  | [value] => field.2 value
  | _ => false

def fitsRequired (members : Members) (field : String × (Value → Bool)) : Bool :=
  match valuesOf field.1 members with
  | [value] => field.2 value
  | _ => false

/-- Whether the members of an object make up a key. -/
def isKey (members : Members) : Bool :=
  sharedFields.all (fitsShared members) && types.any fun type => type.all (fitsRequired members)

/-- Reads a key, or null in its place. -/
def read : Value → Reading Unit
  | .null => .ok ()
  | .object members true =>
    if !Value.areMembersStorable depth members then .error .malformed
    else if isKey members then .ok ()
    else .error .mismatch
  | .object _ false => .error .malformed
  | value => .error value.refuse

end EmbeddedKey
end Token
end BpnDirectory
