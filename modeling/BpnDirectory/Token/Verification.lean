import BpnDirectory.Digest.Sha2
import BpnDirectory.Key.Basic
import BpnDirectory.Token.Claims

namespace BpnDirectory
namespace Token

/-!
Verification of tokens.

A token is accepted under a key if its signature is that of the key, its payload
holds the claims that the caller wants, and its registered claims allow it.  The
signature is looked at first, so nothing of an unsigned payload decides anything
here.
-/

open Json (Value Reading)

/-- A way to verify signatures with public keys: whether the signature is that of
the message under a key for an algorithm. -/
abbrev PublicKeyCheck :=
  Algorithm → (key message signature : List UInt8) → Bool

/-- The signature of a message under a secret, if the algorithm is one with shared
secrets. -/
def sharedSignature? (algorithm : Algorithm) (secret message : List UInt8) :
    Option (List UInt8) :=
  match algorithm with
  | .hs256 => some (Digest.hmac Digest.sha256 secret message)
  | .hs384 => some (Digest.hmac Digest.sha384 secret message)
  | .hs512 => some (Digest.hmac Digest.sha512 secret message)
  | _ => none

def messageOctets (token : Token) : List UInt8 :=
  Text.Utf8.octets (String.ofList token.message)

/-- The check of a signature.  A signature by a shared secret is compared as
written, so each has one form only. -/
def checkSignature (scheme : PublicKeyCheck) (key : Key) (token : Token) :
    Except Defect Unit :=
  if key.material.family ≠ key.algorithm.family then .error .wrongFamily
  else
    let message := token.messageOctets
    match sharedSignature? key.algorithm key.material.octets message with
    | some signature =>
      if token.signature = Text.Base64Url.encodeOctets signature then .ok ()
      else .error .badSignature
    | none =>
      match Text.Base64Url.decodeOctets token.signature with
      | none => .error .badBase64
      | some signature =>
        if scheme key.algorithm key.material.octets message signature then .ok ()
        else .error .badSignature

structure Expectation where
  key : Key
  /-- Seconds since the start of 1970. -/
  now : Int
  issuer : String
  audience : Option String

/-- The claims of a token that is accepted, as `read` reads them. -/
def accept {α : Type} (scheme : PublicKeyCheck) (expected : Expectation)
    (read : Value → Reading α) (token : Token) : Except Defect α := do
  checkSignature scheme expected.key token
  let document ← document token.payload
  let data ← (document.read read).mapError fun _ => .badJson
  let claims ← (document.read Claims.read).mapError fun _ => .badJson
  claims.check expected.now expected.issuer expected.audience
  pure data

end Token
end BpnDirectory
