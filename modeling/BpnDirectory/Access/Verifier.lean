import BpnDirectory.Access.Identity
import BpnDirectory.Access.Presentation
import BpnDirectory.Key.Ring
import BpnDirectory.Time.Instant
import BpnDirectory.Token.Verification

namespace BpnDirectory
namespace Access

/-!
Verification of presentations.

A caller shows a presentation signed by themselves.  It carries credentials
issued to that same caller by trusted issuers, one of them at least about the
caller's membership.  The key of a signer is found by the issuer that an unsigned
look at the payload shows; everything that counts is read again under the
signature.
-/

open Json (Value Reading)

/-- What presentations are verified against. -/
structure Verifier where
  keys : KeyRing
  /-- Issuers of credentials that are believed. -/
  trustedIssuers : List String
  audience : Option String
  membershipType : String
  scheme : Token.PublicKeyCheck

def unauthorized {α : Type} (reason : String) : Except Failure α :=
  .error (.unauthorized reason)

/-- What an unsigned look at a payload shows. -/
structure Glance where
  issuer : Option String
  audience : Option Value

namespace Glance

structure Fields where
  issuer : Option (Option String)
  audience : Option (Option Value)

def readKept (value : Value) : Reading Value :=
  if value.isStorable Token.Claims.depth then .ok value else .error .mismatch

/-- Takes one claim into what has been read. -/
def assign (fields : Fields) (name : String) (value : Value) : Reading Fields :=
  match name with
  | "iss" => return { fields with issuer := ← Value.once fields.issuer Value.text? value }
  | "aud" =>
    return { fields with
      audience := ← Value.once fields.audience (Value.optional readKept) value }
  | _ => value.skip.map fun _ => fields

def finish (fields : Fields) : Reading Glance :=
  .ok ⟨fields.issuer.join, fields.audience.join⟩

def read : Value → Reading Glance :=
  Value.record ["iss", "aud"] ⟨none, none⟩ assign finish

/-- An unsigned look at the second part of a text. -/
def ofText (text : String) : Except Failure Glance :=
  match (Text.parts '.' text.toList)[1]? with
  | none => unauthorized "Token is not a JWT"
  | some part =>
    match Text.Base64Url.decodeOctets part with
    | none => unauthorized "Token payload is not base64url"
    | some octets =>
      match (Json.Document.ofOctets octets).read read with
      | .ok glance => .ok glance
      | .error _ => unauthorized "Token payload is not a JSON object"

/-- The audience, if it is one text or an array of one text. -/
def singleAudience? (glance : Glance) : Option String :=
  match glance.audience with
  | some (.string (.text name)) | some (.array [.string (.text name)] _) => some name
  | _ => none

end Glance

/-- What the credentials of a presentation show together. -/
structure Evidence where
  types : List String
  bpn : Option String
  deriving DecidableEq, Repr

namespace Verifier

/-- The claims of a token of a signer. -/
def verifySigned {α : Type} (verifier : Verifier) (now : Time.Instant)
    (read : Value → Reading α) (text signer : String) (audience : Option String) :
    Except Failure α := do
  let malformed (defect : Token.Defect) : Failure :=
    .unauthorized s!"Malformed JWT header: {defect.message}"
  let rejected (defect : Token.Defect) : Failure :=
    .unauthorized s!"Token of {signer} rejected: {defect.message}"
  let token ← (Token.ofText text).mapError malformed
  let algorithm ← token.algorithm.mapError malformed
  let key ← KeyRing.resolve verifier.keys signer
  if key.algorithm ≠ algorithm then
    unauthorized
      s!"Token of {signer} is signed with {algorithm.name}, key expects {key.algorithm.name}"
  else
    (token.accept verifier.scheme ⟨key, now.unixSeconds, signer, audience⟩ read).mapError rejected

/-- The claims of a credential that was issued to a holder. -/
def verifyCredential (verifier : Verifier) (now : Time.Instant) (holder text : String) :
    Except Failure Attestation := do
  let glance ← Glance.ofText text
  match glance.issuer with
  | none => unauthorized "Credential has no issuer"
  | some issuer =>
    if issuer ∉ verifier.trustedIssuers then unauthorized s!"Issuer {issuer} is not trusted"
    else
      let attestation ← verifier.verifySigned now Attestation.read text issuer none
      if attestation.about = some holder then pure attestation
      else unauthorized "Credential was not issued to the presentation holder"

/-- The evidence with one more credential.  Of several memberships that state a BPN,
the last one counts. -/
def takeIn (verifier : Verifier) (evidence : Evidence) (attestation : Attestation) : Evidence where
  types := evidence.types ++ attestation.types
  bpn :=
    if verifier.membershipType ∈ attestation.types then
      attestation.bpn.orElse fun _ => evidence.bpn
    else evidence.bpn

/-- What credentials show together, if each of them holds. -/
def gather (verifier : Verifier) (now : Time.Instant) (holder : String) (evidence : Evidence) :
    List String → Except Failure Evidence
  | [] => .ok evidence
  | text :: rest => do
    let attestation ← verifier.verifyCredential now holder text
    verifier.gather now holder (verifier.takeIn evidence attestation) rest

/-- The caller who shows a presentation. -/
def verify (verifier : Verifier) (now : Time.Instant) (text : String) :
    Except Failure Identity := do
  let glance ← Glance.ofText text
  match glance.singleAudience? with
  | none => unauthorized "Token misses a single string audience claim"
  | some audience =>
    if verifier.audience.any (· ≠ audience) then unauthorized s!"Unexpected audience {audience}"
    else
      match glance.issuer with
      | none => unauthorized "Presentation has no issuer"
      | some holder =>
        let presentation ←
          verifier.verifySigned now Presentation.read text holder (some audience)
        if presentation.holder.any (· ≠ presentation.issuer) then
          unauthorized "Presentation holder does not match its signer"
        else if presentation.credentials.isEmpty then
          unauthorized "Presentation contains no credentials"
        else
          let evidence ← verifier.gather now holder ⟨[], none⟩ presentation.credentials
          if verifier.membershipType ∈ evidence.types then
            pure ⟨holder, evidence.bpn, evidence.types, .presentation⟩
          else unauthorized s!"Presentation carries no {verifier.membershipType}"

end Verifier
end Access
end BpnDirectory
