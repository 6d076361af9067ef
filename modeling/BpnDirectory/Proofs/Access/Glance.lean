import BpnDirectory.Access.Verifier
import BpnDirectory.Proofs.Json.Record
import BpnDirectory.Proofs.Token.Acceptance

namespace BpnDirectory
namespace Access

/-!
What an unsigned look at a token shows, and what was signed.

The look takes the second part of a text from the left; the check of the signature
tells the parts apart from the right.  Three readers go through the payload, each in
its own way.  They agree on every text that is accepted: a header with a dot in it is
no base 64, a payload that is an array has no registered claims, and a claim that the
look or the reader of the data wants is given once.
-/

open Json (Value Reading Document)

variable {α : Type} {verifier : Verifier} {now : Time.Instant} {read : Value → Reading α}
  {text signer : String} {audience : Option String} {data : α} {glance : Glance}

/-! ## The look -/

/-- Whether a look at a text decodes octets and shows a glance of them. -/
def Glance.IsOf (glance : Glance) (text : String) (octets : List UInt8) : Prop :=
  (Text.parts '.' text.toList)[1]?.bind Text.Base64Url.decodeOctets = some octets ∧
    (Document.ofOctets octets).read Glance.read = .ok glance

theorem Glance.ofText_eq_ok_iff :
    Glance.ofText text = .ok glance ↔ ∃ octets, glance.IsOf text octets := by
  unfold Glance.ofText Glance.IsOf
  cases (Text.parts '.' text.toList)[1]? with
  | none => simp [unauthorized]
  | some part =>
      cases decoded : Text.Base64Url.decodeOctets part with
      | none => simp [decoded, unauthorized]
      | some octets =>
          cases found : (Document.ofOctets octets).read Glance.read with
          | error fault => simp [decoded, found, unauthorized]
          | ok shown => simp [decoded, found]

theorem Glance.keeps_issuer : Value.Keeps Glance.assign "iss" Glance.Fields.issuer Value.text? where
  own := Value.own_of_put fun _ => rfl
  others different taken := by
    unfold Glance.assign at taken
    split at taken
    · exact absurd rfl different
    · exact Value.other_of_put taken fun _ => rfl
    · exact Value.other_of_skip taken

theorem Glance.keeps_audience :
    Value.Keeps Glance.assign "aud" Glance.Fields.audience (Value.optional Glance.readKept) where
  own := Value.own_of_put fun _ => rfl
  others different taken := by
    unfold Glance.assign at taken
    split at taken
    · exact Value.other_of_put taken fun _ => rfl
    · exact absurd rfl different
    · exact Value.other_of_skip taken

theorem Glance.readKept_eq_ok_iff {value kept : Value} :
    Glance.readKept value = .ok kept ↔
      value.isStorable Token.Claims.depth = true ∧ value = kept := by
  unfold Glance.readKept
  split <;> simp [*]

/-- Whether a payload names one issuer, by a text. -/
def Names (payload : Value) (issuer : String) : Prop :=
  payload.given "iss" = [.string (.text issuer)]

/-- Whether a payload is for one audience, given by a text or by an array of one text. -/
def IsFor (payload : Value) (audience : String) : Prop :=
  payload.given "aud" = [.string (.text audience)] ∨
    payload.given "aud" = [.array [.string (.text audience)] true]

/-- Whether a glance shows issuer and audience of a payload. -/
structure Glance.Shows (glance : Glance) (payload : Value) : Prop where
  issuer : ∀ name, glance.issuer = some name ↔ Names payload name
  audience : ∀ name, glance.singleAudience? = some name ↔ IsFor payload name

theorem Glance.singleAudience?_eq_some_iff {fields : Fields} {issuer : Option String}
    {values : List Value} {name : String}
    (kept : Value.IsKept (Value.optional Glance.readKept) values fields.audience) :
    Glance.singleAudience? ⟨issuer, fields.audience.join⟩ = some name ↔
      values = [.string (.text name)] ∨ values = [.array [.string (.text name)] true] := by
  rcases kept with ⟨rfl, empty⟩ | ⟨value, found, rfl, readValue, full⟩
  · simp [empty, Glance.singleAudience?]
  · rcases Value.optional_eq_ok_iff.mp readValue with ⟨rfl, rfl⟩ | ⟨_, content, readKept, rfl⟩
    · simp [full, Glance.singleAudience?]
    · rcases Glance.readKept_eq_ok_iff.mp readKept with ⟨storable, rfl⟩
      rw [full, Option.join_some]
      unfold Glance.singleAudience?
      split
      · next shape => cases shape; simp
      · next closed shape =>
          cases shape
          have whole : closed = true := by simp_all [Value.isStorable]
          simp [whole]
      · next neither both =>
          simp only [List.cons.injEq, and_true, reduceCtorEq, false_iff, not_or]
          constructor
          · rintro rfl
            exact neither name rfl
          · rintro rfl
            exact both name true rfl

theorem Glance.shows_of_read {document : Document} {claims : Token.Claims}
    (claimed : document.read Token.Claims.read = .ok claims)
    (shown : document.read Glance.read = .ok glance) : glance.Shows document.value := by
  rcases bind_eq_ok.mp claimed with ⟨_, taken, _⟩
  rcases Token.Claims.object_of_read taken with ⟨members, closed, shape⟩
  rcases bind_eq_ok.mp shown with ⟨found, looked, shown⟩
  split at shown
  · cases shown
  · cases shown
    rw [shape] at looked ⊢
    rcases Value.fields_of_record looked with ⟨fields, assigned, finished⟩
    cases finished
    exact {
      issuer := fun _ => (Glance.keeps_issuer.isKept rfl assigned).join_eq_some_iff
      audience := fun _ =>
        Glance.singleAudience?_eq_some_iff (Glance.keeps_audience.isKept rfl assigned) }

/-! ## Looks that succeed -/

theorem Glance.optional_readKept {value : Value}
    (storable : value.isStorable Token.Claims.depth = true) :
    ∃ kept, Value.optional readKept value = .ok kept := by
  by_cases null : value = .null
  · exact ⟨none, Value.optional_eq_ok_iff.mpr (.inl ⟨null, rfl⟩)⟩
  · exact ⟨some value, Value.optional_eq_ok_iff.mpr
      (.inr ⟨null, value, readKept_eq_ok_iff.mpr ⟨storable, rfl⟩, rfl⟩)⟩

/-- Whether what a look has taken in is among the claims that were seen. -/
structure Glance.Fields.Among (fields : Glance.Fields) (seen : List String) : Prop where
  issuer : fields.issuer.isSome → "iss" ∈ seen
  audience : fields.audience.isSome → "aud" ∈ seen

theorem Glance.Fields.Among.mono {fields : Glance.Fields} {seen later : List String}
    (among : fields.Among seen) (grows : ∀ other ∈ seen, other ∈ later) : fields.Among later :=
  ⟨fun taken => grows _ (among.issuer taken), fun taken => grows _ (among.audience taken)⟩

/-- A look takes in every claim that the reader of the claims does, unless it is an issuer
of another form. -/
theorem Glance.assign_of_claims {claims next : Token.Claims.Fields} {fields : Glance.Fields}
    {name : String} {value : Value} (among : fields.Among claims.seen)
    (named : name = "iss" → ∃ content, value = .string (.text content))
    (taken : Token.Claims.assign claims name value = .ok next) :
    ∃ shown, Glance.assign fields name value = .ok shown ∧ shown.Among next.seen := by
  have claim := Token.Claims.isTaken_of_assign taken
  have further := among.mono claim.grows
  by_cases issuer : name = "iss"
  · subst issuer
    rcases named rfl with ⟨content, rfl⟩
    rcases claim.fresh (.inl rfl) with ⟨fresh, seen⟩
    have empty : fields.issuer = none :=
      Option.not_isSome_iff_eq_none.mp (mt among.issuer fresh)
    refine ⟨{ fields with issuer := some (some content) }, ?_, fun _ => seen, further.audience⟩
    unfold Glance.assign
    rw [Value.once_eq_ok_iff.mpr ⟨empty, some content, rfl, rfl⟩]
    rfl
  · by_cases audience : name = "aud"
    · subst audience
      rcases claim.fresh (.inr rfl) with ⟨fresh, seen⟩
      have empty : fields.audience = none :=
        Option.not_isSome_iff_eq_none.mp (mt among.audience fresh)
      rcases optional_readKept (claim.storable (.inr rfl)) with ⟨kept, readValue⟩
      refine ⟨{ fields with audience := some kept }, ?_, further.issuer, fun _ => seen⟩
      unfold Glance.assign
      rw [Value.once_eq_ok_iff.mpr ⟨empty, kept, readValue, rfl⟩]
      rfl
    · refine ⟨fields, ?_, further⟩
      unfold Glance.assign
      split
      · exact absurd rfl issuer
      · exact absurd rfl audience
      · rw [claim.passed issuer audience]
        rfl

theorem Glance.assignMembers_of_claims {members : List (Option String × Value)}
    {claims last : Token.Claims.Fields} {fields : Glance.Fields}
    (among : fields.Among claims.seen)
    (named : ∀ value ∈ Value.givenIn members "iss", ∃ content, value = .string (.text content))
    (taken : Value.assignMembers Token.Claims.assign claims members = .ok last) :
    ∃ shown, Value.assignMembers Glance.assign fields members = .ok shown := by
  induction members generalizing claims fields with
  | nil => exact ⟨fields, rfl⟩
  | cons member rest ih =>
      rcases member with ⟨_ | name, value⟩
      · cases taken
      · rcases bind_eq_ok.mp taken with ⟨next, takenOne, takenRest⟩
        have namedOne : name = "iss" → ∃ content, value = .string (.text content) :=
          fun same => named value (by simp [Value.givenIn, same])
        have namedRest : ∀ value ∈ Value.givenIn rest "iss",
            ∃ content, value = .string (.text content) := by
          intro other member
          apply named other
          rw [Value.givenIn, List.filterMap_cons]
          split
          · exact member
          · exact List.mem_cons_of_mem _ member
        rcases assign_of_claims among namedOne takenOne with ⟨shown, assigned, amongNext⟩
        rcases ih amongNext namedRest takenRest with ⟨all, assignedRest⟩
        exact ⟨all, by rw [Value.assignMembers, assigned]; exact assignedRest⟩

/-- A payload with registered claims, the issuer among them, shows something. -/
theorem Glance.exists_read {document : Document} {claims : Token.Claims} {name : String}
    (claimed : document.read Token.Claims.read = .ok claims)
    (issuer : Names document.value name) : ∃ glance, document.read Glance.read = .ok glance := by
  rcases bind_eq_ok.mp claimed with ⟨_, found, whole⟩
  rcases Token.Claims.object_of_read found with ⟨members, closed, shape⟩
  rw [shape] at found issuer
  rcases bind_eq_ok.mp found with ⟨last, taken, finished⟩
  have named : ∀ value ∈ Value.givenIn members "iss",
      ∃ content, value = .string (.text content) := by
    change Value.givenIn members "iss" = _ at issuer
    simp [issuer]
  have among : Glance.Fields.Among ⟨none, none⟩ [] := ⟨by simp, by simp⟩
  rcases assignMembers_of_claims among named taken with ⟨shown, assigned⟩
  cases closed with
  | false => cases finished
  | true =>
      refine ⟨⟨shown.issuer.join, shown.audience.join⟩, ?_⟩
      have looked : Glance.read document.value = .ok ⟨shown.issuer.join, shown.audience.join⟩ := by
        rw [shape, Glance.read, Value.record_object, assigned]
        rfl
      rw [Document.read, looked, ok_bind]
      split at whole
      · cases whole
      · next nothing => rw [if_neg nothing]

/-! ## Signed tokens -/

/-- Whether a text is a token of a signer: signed with the key of the signer, in the
algorithm of that key, and accepted with the data it holds. -/
structure Verifier.IsToken (verifier : Verifier) (now : Time.Instant)
    (read : Value → Reading α) (text signer : String) (audience : Option String) (data : α)
    (token : Token) (key : Key) : Prop where
  parts : Token.ofText text = .ok token
  known : verifier.keys.find? signer = some key
  algorithm : token.algorithm = .ok key.algorithm
  accepted : Token.IsAccepted verifier.scheme ⟨key, now.unixSeconds, signer, audience⟩ read
    token data

/-- Whether a text is accepted as a token of a signer that holds data. -/
def Verifier.Accepts (verifier : Verifier) (now : Time.Instant) (read : Value → Reading α)
    (text signer : String) (audience : Option String) (data : α) : Prop :=
  ∃ token key, verifier.IsToken now read text signer audience data token key

theorem Verifier.resolve_eq_ok_iff {key : Key} :
    verifier.keys.resolve signer = .ok key ↔ verifier.keys.find? signer = some key := by
  unfold KeyRing.resolve
  cases verifier.keys.find? signer <;> simp

theorem Verifier.verifySigned_eq_ok_iff :
    verifier.verifySigned now read text signer audience = .ok data ↔
      verifier.Accepts now read text signer audience data := by
  constructor
  · intro verified
    rcases bind_eq_ok.mp verified with ⟨token, parts, verified⟩
    rcases bind_eq_ok.mp verified with ⟨algorithm, named, verified⟩
    rcases bind_eq_ok.mp verified with ⟨key, known, verified⟩
    split at verified
    · cases verified
    · next same =>
        rw [mapError_eq_ok_iff, Token.accept_eq_ok_iff] at verified
        rw [mapError_eq_ok_iff] at parts named
        exact ⟨token, key, parts, resolve_eq_ok_iff.mp known,
          by rw [named, Decidable.not_not.mp same], verified⟩
  · rintro ⟨token, key, parts, known, named, accepted⟩
    refine bind_eq_ok.mpr ⟨token, mapError_eq_ok_iff.mpr parts, ?_⟩
    refine bind_eq_ok.mpr ⟨_, mapError_eq_ok_iff.mpr named, ?_⟩
    refine bind_eq_ok.mpr ⟨key, resolve_eq_ok_iff.mpr known, ?_⟩
    rw [if_neg (Decidable.not_not.mpr rfl)]
    exact mapError_eq_ok_iff.mpr (Token.accept_eq_ok_iff.mpr accepted)

/-- An accepted token has one payload, whichever way its parts are told apart, with an
object of claims in it. -/
theorem Verifier.IsToken.exists_payload {token : Token} {key : Key}
    (isToken : verifier.IsToken now read text signer audience data token key) :
    ∃ octets claims, Text.Base64Url.decodeOctets token.payload = some octets ∧
      (Text.parts '.' text.toList)[1]?.bind Text.Base64Url.decodeOctets = some octets ∧
      (Document.ofOctets octets).read Token.Claims.read = .ok claims ∧
      (Document.ofOctets octets).read read = .ok data := by
  rcases isToken.accepted.permitted with ⟨claims, ⟨octets, payload, claimed⟩, _⟩
  rcases isToken.accepted.holds with ⟨again, same, held⟩
  cases payload.symm.trans same
  have looked : (Text.parts '.' text.toList)[1]?.bind Text.Base64Url.decodeOctets =
      some octets := by
    rw [Token.parts_of_ofText isToken.parts isToken.algorithm]
    exact payload
  exact ⟨octets, claims, payload, looked, claimed, held⟩

theorem Verifier.IsToken.shows {token : Token} {key : Key}
    (isToken : verifier.IsToken now read text signer audience data token key)
    (seen : Glance.ofText text = .ok glance) : glance.Shows token.payloadValue := by
  rcases isToken.exists_payload with ⟨octets, claims, payload, looked, claimed, _⟩
  rcases Glance.ofText_eq_ok_iff.mp seen with ⟨again, decoded, shown⟩
  cases looked.symm.trans decoded
  rw [Token.payloadValue_eq payload]
  exact Glance.shows_of_read claimed shown

theorem Verifier.IsToken.exists_glance {token : Token} {key : Key} {issuer : String}
    (isToken : verifier.IsToken now read text signer audience data token key)
    (named : Names token.payloadValue issuer) : ∃ glance, Glance.ofText text = .ok glance := by
  rcases isToken.exists_payload with ⟨octets, claims, payload, looked, claimed, _⟩
  rw [Token.payloadValue_eq payload] at named
  rcases Glance.exists_read claimed named with ⟨glance, shown⟩
  exact ⟨glance, Glance.ofText_eq_ok_iff.mpr ⟨octets, looked, shown⟩⟩

/-- Whether a text is a token of a signer that names the signer and holds data. -/
def Verifier.IsSigned (verifier : Verifier) (now : Time.Instant) (read : Value → Reading α)
    (text signer : String) (audience : Option String) (data : α) (token : Token) : Prop :=
  (∃ key, verifier.IsToken now read text signer audience data token key) ∧
    Names token.payloadValue signer

/-- The data of a signed token is read of its payload. -/
theorem Verifier.IsSigned.read_eq {token : Token}
    (signed : verifier.IsSigned now read text signer audience data token) :
    read token.payloadValue = .ok data := by
  rcases signed with ⟨⟨key, isToken⟩, _⟩
  rcases isToken.exists_payload with ⟨octets, _, payload, _, _, held⟩
  rw [Token.payloadValue_eq payload]
  rcases bind_eq_ok.mp held with ⟨found, readPayload, held⟩
  split at held
  · cases held
  · cases held
    exact readPayload

/-- What a look at an accepted token shows was signed: the token has three parts, the look
decoded the payload that the signature of the signer's key covers, and issuer and audience
are those that the payload gives. -/
theorem Verifier.shows_signed (seen : Glance.ofText text = .ok glance)
    (named : glance.issuer = some signer)
    (accepted : verifier.verifySigned now read text signer audience = .ok data) :
    ∃ token key octets,
      Text.parts '.' text.toList = [token.header, token.payload, token.signature] ∧
      glance.IsOf text octets ∧
      Text.Base64Url.decodeOctets token.payload = some octets ∧
      verifier.keys.find? signer = some key ∧ Token.IsSignedBy verifier.scheme key token ∧
      Names (Document.ofOctets octets).value signer ∧ glance.Shows (Document.ofOctets octets).value := by
  rcases verifySigned_eq_ok_iff.mp accepted with ⟨token, key, isToken⟩
  have shows := isToken.shows seen
  rcases isToken.exists_payload with ⟨octets, claims, payload, looked, _⟩
  rcases Glance.ofText_eq_ok_iff.mp seen with ⟨again, decoded, shown⟩
  cases looked.symm.trans decoded
  rw [Token.payloadValue_eq payload] at shows
  exact ⟨token, key, octets, Token.parts_of_ofText isToken.parts isToken.algorithm,
    ⟨decoded, shown⟩, payload, isToken.known, isToken.accepted.signed,
    (shows.issuer signer).mp named, shows⟩

def barePresentation : String :=
  ".".intercalate ["eyJhbGciOiJIUzI1NiJ9",
    "eyJpc3MiOiJkaWQ6d2ViOmEiLCJhdWQiOiJiIiwiZXhwIjo5LCJ2cCI6e319",
    "Ed8wzVOiFbPXCZ46Zdvy3N-CZeDWMhIW1x0bM5nHFhQ"]

/-- A verifier that knows one shared secret. -/
def secretVerifier : Verifier where
  keys := KeyRing.withSecret .empty "did:web:a" (Text.Utf8.octets "secret")
  trustedIssuers := []
  audience := none
  membershipType := "MembershipCredential"
  scheme := fun _ _ _ _ => false

theorem Verifier.shows_signed_bare :
    ∃ glance, Glance.ofText barePresentation = .ok glance ∧ glance.issuer = some "did:web:a" ∧
      ∃ token key octets,
        Text.parts '.' barePresentation.toList = [token.header, token.payload, token.signature] ∧
        glance.IsOf barePresentation octets ∧
        Text.Base64Url.decodeOctets token.payload = some octets ∧
        secretVerifier.keys.find? "did:web:a" = some key ∧
        Token.IsSignedBy secretVerifier.scheme key token ∧
        Names (Document.ofOctets octets).value "did:web:a" ∧
        glance.Shows (Document.ofOctets octets).value := by
  have looked : (Glance.ofText barePresentation).map Glance.issuer = .ok (some "did:web:a") :=
    toOption_eq_some_iff.mp (by decide +kernel)
  rcases map_eq_ok_iff.mp looked with ⟨glance, seen, named⟩
  have accepted : secretVerifier.verifySigned ⟨⟨1970, 1, 1⟩, 0, 0⟩ Presentation.read
      barePresentation "did:web:a" (some "b") = .ok ⟨"did:web:a", none, []⟩ :=
    toOption_eq_some_iff.mp (by decide +kernel)
  exact ⟨glance, seen, named, Verifier.shows_signed seen named accepted⟩

end Access
end BpnDirectory
