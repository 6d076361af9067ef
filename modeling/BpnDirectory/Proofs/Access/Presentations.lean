import BpnDirectory.Proofs.Access.Payloads
import BpnDirectory.Proofs.Json.Written
import BpnDirectory.Proofs.Token.Issuance
import Mathlib.Data.List.Forall2
import Mathlib.Data.List.Induction

namespace BpnDirectory
namespace Access

/-!
Which presentations are taken, and for whom.

The verifier goes through the credentials of a presentation and stops at the first
one that does not hold, so what it takes is a presentation all of whose credentials
hold.  The identity then only depends on what the credentials state.
-/

open Json (Value Reading Document)

variable {α : Type} {verifier : Verifier} {now : Time.Instant} {holder text : String}

/-! ## Credentials -/

/-- A credential that a trusted issuer signed and whose payload is about a holder. -/
def Verifier.IsCredential (verifier : Verifier) (now : Time.Instant) (holder text : String)
    (attestation : Attestation) : Prop :=
  ∃ issuer ∈ verifier.trustedIssuers, ∃ token,
    verifier.IsSigned now Attestation.read text issuer none attestation token ∧
      Attestation.IsAbout token.payloadValue holder ∧ attestation.IsIn token.payloadValue

/-- A signed credential is as its payload says. -/
theorem Verifier.IsSigned.isCredential {issuer : String} {attestation : Attestation} {token : Token}
    (trusted : issuer ∈ verifier.trustedIssuers)
    (signed : verifier.IsSigned now Attestation.read text issuer none attestation token)
    (about : attestation.about = some holder) :
    verifier.IsCredential now holder text attestation :=
  ⟨issuer, trusted, token, signed, (Attestation.about_eq_some_iff signed.read_eq).mp about,
    Attestation.isIn_of_read signed.read_eq⟩

theorem Verifier.verifyCredential_eq_ok_iff {attestation : Attestation} :
    verifier.verifyCredential now holder text = .ok attestation ↔
      verifier.IsCredential now holder text attestation := by
  constructor
  · intro verified
    rcases bind_eq_ok.mp verified with ⟨glance, seen, verified⟩
    split at verified
    · cases verified
    · next issuer named =>
        split at verified
        · cases verified
        · next trusted =>
            rcases bind_eq_ok.mp verified with ⟨found, accepted, verified⟩
            split at verified
            · next about =>
                cases verified
                rcases verifySigned_eq_ok_iff.mp accepted with ⟨token, key, isToken⟩
                have own := ((isToken.shows seen).issuer issuer).mp named
                exact IsSigned.isCredential (Decidable.not_not.mp trusted)
                  ⟨⟨key, isToken⟩, own⟩ about
            · cases verified
  · rintro ⟨issuer, trusted, token, signed, isAbout, _⟩
    have about := (Attestation.about_eq_some_iff signed.read_eq).mpr isAbout
    rcases signed with ⟨⟨key, isToken⟩, own⟩
    rcases isToken.exists_glance own with ⟨glance, seen⟩
    have named := ((isToken.shows seen).issuer issuer).mpr own
    have accepted := verifySigned_eq_ok_iff.mpr ⟨token, key, isToken⟩
    rw [verifyCredential, seen, ok_bind]
    simp only [named]
    rw [if_neg (Decidable.not_not.mpr trusted), accepted, ok_bind, if_pos about]
    rfl

theorem Verifier.gather_eq_ok_iff {evidence gathered : Evidence} {texts : List String} :
    verifier.gather now holder evidence texts = .ok gathered ↔
      ∃ attestations, List.Forall₂ (verifier.IsCredential now holder) texts attestations ∧
        gathered = attestations.foldl verifier.takeIn evidence := by
  induction texts generalizing evidence with
  | nil => simp [gather, eq_comm]
  | cons text rest ih =>
      rw [gather, bind_eq_ok]
      constructor
      · rintro ⟨attestation, verified, later⟩
        rcases ih.mp later with ⟨attestations, each, same⟩
        exact ⟨attestation :: attestations,
          .cons (verifyCredential_eq_ok_iff.mp verified) each, same⟩
      · rintro ⟨_, each, same⟩
        cases each with
        | cons first others =>
            exact ⟨_, verifyCredential_eq_ok_iff.mpr first, ih.mpr ⟨_, others, same⟩⟩

/-! ## Identities -/

/-- The BPN that a credential states if it is a membership. -/
def Verifier.memberBpn? (verifier : Verifier) (attestation : Attestation) : Option String :=
  if verifier.membershipType ∈ attestation.types then attestation.bpn else none

/-- The identity of a holder by what the credentials state.  Of the memberships that state
a BPN, the last one counts. -/
def Verifier.identityOf (verifier : Verifier) (holder : String)
    (attestations : List Attestation) : Identity where
  subject := holder
  bpn := attestations.reverse.findSome? verifier.memberBpn?
  credentialTypes := attestations.flatMap Attestation.types
  method := .presentation

theorem Verifier.foldl_takeIn {attestations : List Attestation} :
    attestations.foldl verifier.takeIn ⟨[], none⟩ =
      ⟨attestations.flatMap Attestation.types,
        attestations.reverse.findSome? verifier.memberBpn?⟩ := by
  induction attestations using List.reverseRecOn with
  | nil => rfl
  | append_singleton earlier last ih =>
      rw [List.foldl_append, ih, List.foldl_cons, List.foldl_nil, List.reverse_append]
      unfold takeIn
      by_cases member : verifier.membershipType ∈ last.types
      · cases stated : last.bpn <;> simp [memberBpn?, member, stated]
      · simp [memberBpn?, member]

/-! ## Presentations -/

/-- A presentation that a holder signed for the audience that is expected, with credentials
that all hold and a membership among them. -/
structure Verifier.IsPresentation (verifier : Verifier) (now : Time.Instant)
    (holder text : String) (presentation : Presentation) (attestations : List Attestation) :
    Prop where
  signed : ∃ audience token,
    verifier.IsSigned now Presentation.read text holder (some audience) presentation token ∧
      presentation.IsIn token.payloadValue ∧ IsFor token.payloadValue audience ∧
      ∀ expected, verifier.audience = some expected → audience = expected
  declared : ∀ name, presentation.holder = some name → name = holder
  credentials : presentation.credentials ≠ []
  attested : List.Forall₂ (verifier.IsCredential now holder) presentation.credentials attestations
  member : ∃ attestation ∈ attestations, verifier.membershipType ∈ attestation.types

/-- The issuer of a presentation is the one that its payload names. -/
theorem Presentation.issuer_eq {payload : Value} {presentation : Presentation} {issuer : String}
    (found : Presentation.read payload = .ok presentation) (named : Names payload issuer) :
    presentation.issuer = issuer := by
  have isIn := isIn_of_read found
  cases payload with
  | object members closed =>
      have same : [Value.string (.text presentation.issuer)] = [.string (.text issuer)] :=
        isIn.issuer.symm.trans named
      cases same
      rfl
  | _ => cases named

theorem not_any_ne_iff {stated : Option String} {wanted : String} :
    ¬ stated.any (· ≠ wanted) = true ↔ ∀ name, stated = some name → name = wanted := by
  cases stated <;> simp

theorem Verifier.isPresentation_of_verify {identity : Identity}
    (verified : verifier.verify now text = .ok identity) :
    ∃ holder presentation attestations,
      verifier.IsPresentation now holder text presentation attestations ∧
        identity = verifier.identityOf holder attestations := by
  rcases bind_eq_ok.mp verified with ⟨glance, seen, verified⟩
  split at verified
  · cases verified
  · next audience aimed =>
      split at verified
      · cases verified
      · next expected =>
          split at verified
          · cases verified
          · next holder named =>
              rcases bind_eq_ok.mp verified with ⟨presentation, accepted, verified⟩
              rcases verifySigned_eq_ok_iff.mp accepted with ⟨token, key, isToken⟩
              have shows := isToken.shows seen
              have signed : verifier.IsSigned now Presentation.read text holder (some audience)
                  presentation token := ⟨⟨key, isToken⟩, (shows.issuer holder).mp named⟩
              split at verified
              · cases verified
              · next declared =>
                  split at verified
                  · cases verified
                  · next filled =>
                      rcases bind_eq_ok.mp verified with ⟨evidence, gathered, verified⟩
                      rcases gather_eq_ok_iff.mp gathered with ⟨attestations, attested, same⟩
                      rw [foldl_takeIn] at same
                      subst same
                      split at verified
                      · next member =>
                          cases verified
                          rw [Presentation.issuer_eq signed.read_eq signed.2] at declared
                          exact ⟨holder, presentation, attestations, {
                            signed := ⟨audience, token, signed,
                              Presentation.isIn_of_read signed.read_eq,
                              (shows.audience audience).mp aimed,
                              fun name given => (not_any_ne_iff.mp expected name given).symm⟩
                            declared := not_any_ne_iff.mp declared
                            credentials := by simpa using filled
                            attested := attested
                            member := List.mem_flatMap.mp member }, rfl⟩
                      · cases verified

theorem Verifier.verify_of_isPresentation {presentation : Presentation}
    {attestations : List Attestation}
    (isPresentation : verifier.IsPresentation now holder text presentation attestations) :
    verifier.verify now text = .ok (verifier.identityOf holder attestations) := by
  rcases isPresentation.signed with ⟨audience, token, signed, _, aimed, expected⟩
  have declared : ¬ presentation.holder.any (· ≠ presentation.issuer) = true := by
    rw [Presentation.issuer_eq signed.read_eq signed.2]
    exact not_any_ne_iff.mpr isPresentation.declared
  rcases signed with ⟨⟨key, isToken⟩, own⟩
  rcases isToken.exists_glance own with ⟨glance, seen⟩
  have named := ((isToken.shows seen).issuer holder).mpr own
  have single := ((isToken.shows seen).audience audience).mpr aimed
  have accepted := verifySigned_eq_ok_iff.mpr ⟨token, key, isToken⟩
  have gathered : verifier.gather now holder ⟨[], none⟩ presentation.credentials = .ok _ :=
    gather_eq_ok_iff.mpr ⟨attestations, isPresentation.attested, rfl⟩
  have member : verifier.membershipType ∈ attestations.flatMap Attestation.types :=
    List.mem_flatMap.mpr isPresentation.member
  have filled : ¬ presentation.credentials.isEmpty = true := by
    simpa using isPresentation.credentials
  rw [verify, seen, ok_bind]
  simp only [single, named]
  rw [if_neg (not_any_ne_iff.mpr fun name given => (expected name given).symm), accepted, ok_bind,
    if_neg declared, if_neg filled, gathered, ok_bind, foldl_takeIn, if_pos member]
  rfl

namespace TwoMemberships

/-- The claims of a membership that states a BPN. -/
def membershipData (bpn : String) : Json.Data :=
  .fields [("iss", .string "did:web:issuer"), ("exp", .int 9),
    ("vc", .fields [("type", .list [.string "MembershipCredential"]),
      ("credentialSubject", .fields [("id", .string "did:web:holder"), ("bpn", .string bpn)])])]

/-- The claims of a presentation with two credentials. -/
def presentationData (first second : String) : Json.Data :=
  .fields [("iss", .string "did:web:holder"), ("aud", .string "did:web:directory"),
    ("exp", .int 9),
    ("vp", .fields [("verifiableCredential", .list [.string first, .string second])])]

def membership (bpn : String) : Token :=
  .ofSecret (Text.Utf8.octets "issuer") (Json.write (membershipData bpn))

def presentation (first second : String) : Token :=
  .ofSecret (Text.Utf8.octets "holder")
    (Json.write (presentationData (membership first).toText (membership second).toText))

/-- The two memberships of one holder, who shows them in the one order. -/
abbrev forward : Token := presentation "BPNL00000000000A" "BPNL00000000000B"

/-- A verifier that knows the secrets of a holder and of an issuer. -/
def memberVerifier : Verifier where
  keys := (KeyRing.withSecret .empty "did:web:holder" (Text.Utf8.octets "holder")).withSecret
    "did:web:issuer" (Text.Utf8.octets "issuer")
  trustedIssuers := ["did:web:issuer"]
  audience := none
  membershipType := "MembershipCredential"
  scheme := fun _ _ _ _ => false

def origin : Time.Instant := ⟨⟨1970, 1, 1⟩, 0, 0⟩

def nine : Value := .number ⟨false, ['9'], [], none, false⟩

theorem lexFrom_nine (tokens : List Json.Token) (rest : List Json.Symbol) :
    Json.lexFrom .between tokens ((toString (9 : Int)).toList.map some ++ some ',' :: rest) =
      Json.lexFrom .between (.comma :: .number ⟨false, ['9'], [], none, false⟩ :: tokens) rest :=
  rfl

def membershipValue (bpn : String) : Value :=
  .object [(some "iss", .string (.text "did:web:issuer")), (some "exp", nine),
    (some "vc", .object [(some "type", .array [.string (.text "MembershipCredential")] true),
      (some "credentialSubject", .object [(some "id", .string (.text "did:web:holder")),
        (some "bpn", .string (.text bpn))] true)] true)] true

def presentationValue (first second : String) : Value :=
  .object [(some "iss", .string (.text "did:web:holder")),
    (some "aud", .string (.text "did:web:directory")), (some "exp", nine),
    (some "vp", .object [(some "verifiableCredential",
      .array [.string (.text first), .string (.text second)] true)] true)] true

theorem ofTokens_membershipData (bpn : String) :
    Document.ofTokens (Json.lex ((Json.write (membershipData bpn)).map some)) =
      ⟨membershipValue bpn, false⟩ := by
  simp only [Json.lex, membershipData, Json.write, Json.writeItems, Json.writeMembers,
    List.map_cons, List.map_append, List.append_assoc, List.cons_append, List.nil_append,
    List.append_nil, Json.lexFrom_quote, Json.lexFrom_comma, Json.lexFrom_colon,
    Json.lexFrom_objectOpen, Json.lexFrom_arrayOpen, Json.lexFrom_objectClose,
    Json.lexFrom_arrayClose, lexFrom_nine]
  rfl

theorem ofTokens_presentationData (first second : String) :
    Document.ofTokens (Json.lex ((Json.write (presentationData first second)).map some)) =
      ⟨presentationValue first second, false⟩ := by
  simp only [Json.lex, presentationData, Json.write, Json.writeItems, Json.writeMembers,
    List.map_cons, List.map_append, List.append_assoc, List.cons_append, List.nil_append,
    List.append_nil, Json.lexFrom_quote, Json.lexFrom_comma, Json.lexFrom_colon,
    Json.lexFrom_objectOpen, Json.lexFrom_arrayOpen, Json.lexFrom_objectClose,
    Json.lexFrom_arrayClose, lexFrom_nine]
  rfl

theorem isCredential (bpn : String) :
    memberVerifier.IsCredential origin "did:web:holder" (membership bpn).toText
      ⟨none, ["MembershipCredential"], ⟨some "did:web:holder", none, some bpn⟩⟩ :=
  Verifier.IsSigned.isCredential List.mem_cons_self (Verifier.isSigned_ofSecret (by decide)
    (ofTokens_membershipData bpn) rfl rfl ⟨⟨9, rfl, by decide⟩, by decide, nofun⟩ rfl) rfl

theorem isPresentation (first second : String) :
    memberVerifier.IsPresentation origin "did:web:holder" (presentation first second).toText
      ⟨"did:web:holder", none, [(membership first).toText, (membership second).toText]⟩
      [⟨none, ["MembershipCredential"], ⟨some "did:web:holder", none, some first⟩⟩,
        ⟨none, ["MembershipCredential"], ⟨some "did:web:holder", none, some second⟩⟩] where
  signed := by
    have signed : memberVerifier.IsSigned origin Presentation.read (presentation first second).toText
        "did:web:holder" (some "did:web:directory") ⟨"did:web:holder", none,
          [(membership first).toText, (membership second).toText]⟩ (presentation first second) :=
      Verifier.isSigned_ofSecret (by decide) (ofTokens_presentationData _ _) rfl rfl
        ⟨⟨9, rfl, by decide⟩, by decide, by decide⟩ rfl
    refine ⟨"did:web:directory", _, signed, Presentation.isIn_of_read signed.read_eq, ?_, nofun⟩
    · rw [presentation, Token.payloadValue_ofSecret, ofTokens_presentationData]
      exact .inl rfl
  declared := nofun
  credentials := nofun
  attested := .cons (isCredential first) (.cons (isCredential second) .nil)
  member := ⟨_, List.mem_cons_self, List.mem_cons_self⟩

end TwoMemberships

open TwoMemberships

end Access
end BpnDirectory
