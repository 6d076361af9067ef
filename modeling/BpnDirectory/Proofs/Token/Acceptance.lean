import BpnDirectory.Proofs.Collection.Outcome
import BpnDirectory.Proofs.Text.Base64Url
import BpnDirectory.Proofs.Text.Parts
import BpnDirectory.Token.Verification

namespace BpnDirectory
namespace Token

/-!
What it takes for a token to be accepted.

Acceptance is a run of checks in a fixed order.  Here it is one proposition: the
signature is that of the key for header and payload, the payload holds the data
that the caller wants, and the claims in the same payload permit the use.
-/

open Json (Value Reading)

variable {α : Type} {scheme : PublicKeyCheck} {key : Key} {token : Token} {text : String}

/-- Whether a token carries the signature of a key for its message. -/
def IsSignedBy (scheme : PublicKeyCheck) (key : Key) (token : Token) : Prop :=
  key.material.family = key.algorithm.family ∧
    match sharedSignature? key.algorithm key.material.octets token.messageOctets with
    | some signature => token.signature = Text.Base64Url.encodeOctets signature
    | none => ∃ signature, Text.Base64Url.decodeOctets token.signature = some signature ∧
        scheme key.algorithm key.material.octets token.messageOctets signature = true

theorem checkSignature_eq_ok_iff :
    checkSignature scheme key token = .ok () ↔ IsSignedBy scheme key token := by
  unfold checkSignature IsSignedBy
  by_cases fits : key.material.family = key.algorithm.family
  · rw [if_neg (Decidable.not_not.mpr fits), and_iff_right fits]
    dsimp only
    cases sharedSignature? key.algorithm key.material.octets token.messageOctets with
    | some signature =>
        by_cases same : token.signature = Text.Base64Url.encodeOctets signature <;> simp [same]
    | none =>
        cases Text.Base64Url.decodeOctets token.signature with
        | none => simp
        | some signature => simp
  · simp [fits]

/-- Whether the payload of a token holds data as `read` reads it. -/
def Holds (token : Token) (read : Value → Reading α) (data : α) : Prop :=
  ∃ octets, Text.Base64Url.decodeOctets token.payload = some octets ∧
    (Json.Document.ofOctets octets).read read = .ok data

def payloadValue (token : Token) : Value :=
  match Text.Base64Url.decodeOctets token.payload with
  | some octets => (Json.Document.ofOctets octets).value
  | none => .broken

theorem payloadValue_eq {octets : List UInt8}
    (decoded : Text.Base64Url.decodeOctets token.payload = some octets) :
    token.payloadValue = (Json.Document.ofOctets octets).value := by
  rw [payloadValue, decoded]

theorem document_eq_ok_iff {part : List Char} {found : Json.Document} :
    document part = .ok found ↔
      ∃ octets, Text.Base64Url.decodeOctets part = some octets ∧ .ofOctets octets = found := by
  unfold document
  cases Text.Base64Url.decodeOctets part <;> simp

/-- Whether claims permit to take a token as one of an issuer, for an audience if one is
expected, at a time in seconds. -/
structure Claims.Permit (claims : Claims) (now : Int) (issuer : String)
    (audience : Option String) : Prop where
  unexpired : ∃ expiry, claims.expiry = some expiry ∧ now ≤ expiry + leeway
  issuer : ∀ names, claims.issuers = some names → issuer ∈ names
  audience : ∀ expected, audience = some expected →
    ∀ names, claims.audiences = some names → expected ∈ names

theorem Claims.allows_iff {names : Option (List String)} {expected : String} :
    allows names expected = true ↔ ∀ given, names = some given → expected ∈ given := by
  cases names <;> simp [allows]

theorem Claims.check_eq_ok_iff {claims : Claims} {now : Int} {issuer : String}
    {audience : Option String} :
    claims.check now issuer audience = .ok () ↔ claims.Permit now issuer audience := by
  have meant : audience.all (allows claims.audiences) = true ↔ ∀ expected,
      audience = some expected → ∀ names, claims.audiences = some names → expected ∈ names := by
    cases audience <;> simp [allows_iff]
  unfold check
  constructor
  · intro passed
    split at passed
    · cases passed
    · next expiry given =>
        split at passed
        · cases passed
        · next young =>
            split at passed
            · cases passed
            · next issued =>
                split at passed
                · cases passed
                · next aimed =>
                    simp only [Bool.not_eq_true, Bool.not_eq_false'] at issued aimed
                    exact ⟨⟨expiry, given, by omega⟩, allows_iff.mp issued, meant.mp aimed⟩
  · rintro ⟨⟨expiry, given, young⟩, issued, aimed⟩
    rw [given]
    dsimp only
    rw [if_neg (by omega), allows_iff.mpr issued, meant.mpr aimed]
    rfl

/-- Whether a token meets what is expected of it and holds data. -/
structure IsAccepted (scheme : PublicKeyCheck) (expected : Expectation)
    (read : Value → Reading α) (token : Token) (data : α) : Prop where
  signed : IsSignedBy scheme expected.key token
  holds : token.Holds read data
  permitted : ∃ claims, token.Holds Claims.read claims ∧
    claims.Permit expected.now expected.issuer expected.audience

theorem accept_eq_ok_iff {expected : Expectation} {read : Value → Reading α} {data : α} :
    accept scheme expected read token = .ok data ↔
      IsAccepted scheme expected read token data := by
  constructor
  · intro accepted
    rcases bind_eq_ok.mp accepted with ⟨_, signed, accepted⟩
    rcases bind_eq_ok.mp accepted with ⟨document, decoded, accepted⟩
    rcases bind_eq_ok.mp accepted with ⟨_, found, accepted⟩
    rcases bind_eq_ok.mp accepted with ⟨claims, claimed, accepted⟩
    rcases bind_eq_ok.mp accepted with ⟨_, permitted, accepted⟩
    cases accepted
    rcases document_eq_ok_iff.mp decoded with ⟨octets, digits, rfl⟩
    exact {
      signed := checkSignature_eq_ok_iff.mp signed
      holds := ⟨octets, digits, mapError_eq_ok_iff.mp found⟩
      permitted := ⟨claims, ⟨octets, digits, mapError_eq_ok_iff.mp claimed⟩,
        Claims.check_eq_ok_iff.mp permitted⟩ }
  · rintro ⟨signed, ⟨octets, digits, found⟩, claims, ⟨again, same, claimed⟩, permitted⟩
    cases digits.symm.trans same
    rw [accept, checkSignature_eq_ok_iff.mpr signed, ok_bind,
      document_eq_ok_iff.mpr ⟨octets, digits, rfl⟩, ok_bind, mapError_eq_ok_iff.mpr found, ok_bind,
      mapError_eq_ok_iff.mpr claimed, ok_bind, Claims.check_eq_ok_iff.mpr permitted]
    rfl

/-! ## The reading of claims -/

theorem Claims.object_of_read {value : Value} {claims : Claims} (found : read value = .ok claims) :
    ∃ members closed, value = .object members closed := by
  cases value with
  | object members closed => exact ⟨members, closed, rfl⟩
  | _ => cases found

theorem Claims.skip_of_isPassed {value : Value} (passed : isPassed value = true) :
    value.skip = .ok () := by
  cases value <;> first | rfl | cases passed

theorem Claims.skip_of_readTime {value : Value} {time : Option Nat}
    (taken : readTime value = .ok time) : value.skip = .ok () := by
  unfold readTime at taken
  split at taken
  · rfl
  · rfl
  · rfl
  · split at taken
    · next passed => exact skip_of_isPassed passed
    · cases taken

theorem Claims.skip_of_readIdle {value : Value} (taken : readIdle value = .ok ()) :
    value.skip = .ok () := by
  unfold readIdle at taken
  split at taken
  · next passed => exact skip_of_isPassed passed
  · cases taken

theorem Claims.isStorable_of_readNames {value : Value} {names : Option (List String)}
    (taken : readNames value = .ok names) : value.isStorable depth = true := by
  unfold readNames at taken
  split at taken
  · next storable => exact storable
  · cases taken

theorem Claims.mem_names_iff {name : String} :
    name ∈ names ↔
      name = "exp" ∨ name = "nbf" ∨ name = "sub" ∨ name = "iss" ∨ name = "aud" := by
  simp [names]

theorem Claims.assign_of_not_mem {fields : Claims.Fields} {name : String} {value : Value}
    (foreign : name ∉ names) : assign fields name value = value.skip.map fun _ => fields := by
  unfold assign
  dsimp only
  rw [if_pos foreign]

/-- What it takes to take in a claim: issuer and audience are new and can be kept, and
every other claim can be passed over. -/
structure Claims.IsTaken (start : Claims.Fields) (name : String) (value : Value)
    (next : Claims.Fields) : Prop where
  grows : ∀ other ∈ start.seen, other ∈ next.seen
  fresh : name = "iss" ∨ name = "aud" → name ∉ start.seen ∧ name ∈ next.seen
  storable : name = "iss" ∨ name = "aud" → value.isStorable depth = true
  passed : name ≠ "iss" → name ≠ "aud" → value.skip = .ok ()

theorem Claims.isTaken_of_assign {start next : Claims.Fields} {name : String} {value : Value}
    (taken : assign start name value = .ok next) : IsTaken start name value next := by
  rcases start with ⟨seen, claims⟩
  unfold assign at taken
  dsimp only at taken
  split at taken
  · next foreign =>
      rcases map_eq_ok_iff.mp taken with ⟨_, skipped, rfl⟩
      have unread : ¬(name = "iss" ∨ name = "aud") := by
        rintro (rfl | rfl) <;> exact foreign (by decide)
      exact ⟨fun _ => id, fun read => absurd read unread, fun read => absurd read unread,
        fun _ _ => skipped⟩
  · next known =>
    split at taken
    · cases taken
    · next fresh =>
        have listed : ∀ next : Claims.Fields, next.seen = name :: seen →
            (∀ other ∈ seen, other ∈ next.seen) ∧ (name ∉ seen ∧ name ∈ next.seen) := by
          rintro ⟨_, claims⟩ rfl
          exact ⟨fun other => List.mem_cons_of_mem name, fresh, List.mem_cons_self⟩
        split at taken
        · rcases bind_eq_ok.mp taken with ⟨_, time, rest⟩
          cases rest
          exact ⟨(listed _ rfl).1, by simp, by simp, fun _ _ => skip_of_readTime time⟩
        · rcases map_eq_ok_iff.mp taken with ⟨_, time, rfl⟩
          exact ⟨(listed _ rfl).1, by simp, by simp, fun _ _ => skip_of_readTime time⟩
        · rcases map_eq_ok_iff.mp taken with ⟨_, idle, rfl⟩
          exact ⟨(listed _ rfl).1, by simp, by simp, fun _ _ => skip_of_readIdle idle⟩
        · rcases bind_eq_ok.mp taken with ⟨_, names, rest⟩
          cases rest
          exact ⟨(listed _ rfl).1, fun _ => (listed _ rfl).2,
            fun _ => isStorable_of_readNames names, by simp⟩
        · next expiry start subject issuer =>
            rcases bind_eq_ok.mp taken with ⟨_, names, rest⟩
            cases rest
            have left : name = "aud" := by
              rcases mem_names_iff.mp (Decidable.not_not.mp known) with
                same | same | same | same | same
              · exact absurd same expiry
              · exact absurd same start
              · exact absurd same subject
              · exact absurd same issuer
              · exact same
            exact ⟨(listed _ rfl).1, fun _ => (listed _ rfl).2,
              fun _ => isStorable_of_readNames names, fun _ other => absurd left other⟩

/-! ## The parts of a token -/

theorem ofText_eq_ok_iff :
    ofText text = .ok token ↔
      text.toList = token.header ++ '.' :: (token.payload ++ '.' :: token.signature) ∧
        '.' ∉ token.payload ∧ '.' ∉ token.signature := by
  constructor
  · intro read
    unfold ofText at read
    split at read
    · cases read
    · next outer =>
        split at read
        · cases read
        · next inner =>
            cases read
            rcases Text.cutLast?_eq_some_iff.mp outer with ⟨whole, signature⟩
            rcases Text.cutLast?_eq_some_iff.mp inner with ⟨front, payload⟩
            exact ⟨by simp [whole, front], payload, signature⟩
  · rintro ⟨whole, payload, signature⟩
    have outer : Text.cutLast? '.' text.toList = some (token.message, token.signature) :=
      Text.cutLast?_eq_some_iff.mpr ⟨by simp [whole, message], signature⟩
    have inner : Text.cutLast? '.' token.message = some (token.header, token.payload) :=
      Text.cutLast?_eq_some_iff.mpr ⟨rfl, payload⟩
    simp only [ofText, outer, inner]

theorem not_mem_header_of_algorithm {algorithm : Algorithm}
    (named : token.algorithm = .ok algorithm) : '.' ∉ token.header := by
  rcases bind_eq_ok.mp named with ⟨_, decoded, _⟩
  rcases document_eq_ok_iff.mp decoded with ⟨octets, digits, _⟩
  exact Text.Base64Url.not_mem_of_decodeOctets (by decide) digits

/-- A token whose header can be read has three parts, from whichever end they are told
apart. -/
theorem parts_of_ofText {algorithm : Algorithm} (read : ofText text = .ok token)
    (named : token.algorithm = .ok algorithm) :
    Text.parts '.' text.toList = [token.header, token.payload, token.signature] := by
  rcases ofText_eq_ok_iff.mp read with ⟨whole, payload, signature⟩
  rw [whole, Text.parts_append (not_mem_header_of_algorithm named), Text.parts_append payload,
    Text.parts_of_not_mem signature]

end Token
end BpnDirectory
