import BpnDirectory.Proofs.Access.Glance
import BpnDirectory.Proofs.Text.Utf8

namespace BpnDirectory

/-!
Tokens under a shared secret.

Whoever has the secret of a signer can make tokens of the signer.  Such a token is accepted
with whatever its claims hold, as long as the claims themselves permit it.
-/

open Json (Value Reading Document)
open Text (Base64Url.decodeOctets Base64Url.encodeOctets Utf8.octets)

namespace Token

variable {secret : List UInt8} {claims : List Char}

def toText (token : Token) : String :=
  String.ofList (token.header ++ '.' :: (token.payload ++ '.' :: token.signature))

theorem ofText_toText {token : Token} (payload : '.' ∉ token.payload)
    (signature : '.' ∉ token.signature) : ofText token.toText = .ok token :=
  ofText_eq_ok_iff.mpr ⟨String.toList_ofList, payload, signature⟩

/-- The token that says what a text of claims says, signed with a shared secret. -/
def ofSecret (secret : List UInt8) (claims : List Char) : Token :=
  let header := "eyJhbGciOiJIUzI1NiJ9".toList
  let payload := Base64Url.encodeOctets (Utf8.octets (String.ofList claims))
  let message := Utf8.octets (String.ofList (header ++ '.' :: payload))
  ⟨header, payload, Base64Url.encodeOctets (Digest.hmac Digest.sha256 secret message)⟩

theorem ofText_ofSecret : ofText (ofSecret secret claims).toText = .ok (ofSecret secret claims) := by
  have plain : ∀ octets, '.' ∉ Base64Url.encodeOctets octets := fun octets =>
    Text.Base64Url.not_mem_of_decodeOctets (by decide)
      (Text.Base64Url.decodeOctets_encodeOctets octets)
  exact ofText_toText (plain _) (plain _)

theorem algorithm_ofSecret : (ofSecret secret claims).algorithm = .ok .hs256 := by
  have named : ∀ payload signature, algorithm ⟨"eyJhbGciOiJIUzI1NiJ9".toList, payload, signature⟩ =
      algorithm ⟨"eyJhbGciOiJIUzI1NiJ9".toList, [], []⟩ := fun _ _ => rfl
  have shared : algorithm ⟨"eyJhbGciOiJIUzI1NiJ9".toList, [], []⟩ = .ok .hs256 :=
    toOption_eq_some_iff.mp (by decide +kernel)
  exact (named _ _).trans shared

theorem isSignedBy_ofSecret (scheme : PublicKeyCheck) :
    IsSignedBy scheme ⟨.hs256, .secret secret⟩ (ofSecret secret claims) :=
  ⟨rfl, rfl⟩

/-- The payload holds the document of the claims. -/
theorem exists_payload_ofSecret :
    ∃ octets, Base64Url.decodeOctets (ofSecret secret claims).payload = some octets ∧
      Document.ofOctets octets = .ofTokens (Json.lex (claims.map some)) := by
  refine ⟨_, Text.Base64Url.decodeOctets_encodeOctets _, ?_⟩
  rw [Document.ofOctets, Text.Utf8.read_octets, String.toList_ofList]

theorem payloadValue_ofSecret :
    (ofSecret secret claims).payloadValue = (Document.ofTokens (Json.lex (claims.map some))).value := by
  rcases @exists_payload_ofSecret secret claims with ⟨octets, decoded, same⟩
  rw [payloadValue_eq decoded, same]

end Token

namespace Access

/-- A token that was made with the secret of a signer, with claims that name the signer and
permit it, is a token of the signer. -/
theorem Verifier.isSigned_ofSecret {α : Type} {verifier : Verifier} {now : Time.Instant}
    {read : Value → Reading α} {signer : String} {audience : Option String} {data : α}
    {secret : List UInt8} {claims : List Char} {registered : Token.Claims} {document : Document}
    (known : verifier.keys.find? signer = some ⟨.hs256, .secret secret⟩)
    (holds : Document.ofTokens (Json.lex (claims.map some)) = document)
    (found : document.read read = .ok data)
    (claimed : document.read Token.Claims.read = .ok registered)
    (permit : registered.Permit now.unixSeconds signer audience)
    (named : Names document.value signer) :
    verifier.IsSigned now read (Token.ofSecret secret claims).toText signer audience data
      (Token.ofSecret secret claims) := by
  rcases @Token.exists_payload_ofSecret secret claims with ⟨octets, decoded, same⟩
  rw [holds] at same
  subst same
  refine ⟨⟨_, Token.ofText_ofSecret, known, Token.algorithm_ofSecret, {
    signed := Token.isSignedBy_ofSecret verifier.scheme
    holds := ⟨octets, decoded, found⟩
    permitted := ⟨registered, ⟨octets, decoded, claimed⟩, permit⟩ }⟩, ?_⟩
  rw [Token.payloadValue_ofSecret, holds]
  exact named

end Access
end BpnDirectory
