import BpnDirectory.Proofs.Access.Authority
import BpnDirectory.Proofs.Access.Presentations
import BpnDirectory.Proofs.Json.Agreement

namespace BpnDirectory
namespace Access

/-!
Presentations that differ in the order of their credentials.

The order decides neither whether a presentation is taken nor whose it is or of which types
its credentials are.  It may decide the BPN of the caller: of several memberships that state
one, the last counts.  Since the rules look at the BPN, the order may then also decide what
the caller may do.
-/

open Json (Value Reading Document)

variable {verifier : Verifier} {gate : Gate} {now : Time.Instant} {holder one other : String}
  {first second : Token}

/-! ## What is read -/

namespace Presentation

/-- Two bodies that agree but for the order of the credentials in them. -/
def BodyReordered : Value → Value → Prop :=
  Value.AgreeBut ["holder", "verifiableCredential"] "verifiableCredential" Value.Permuted

/-- Two values that agree but for the order of the credentials in them. -/
def Reordered : Value → Value → Prop :=
  Value.AgreeBut ["iss", "vp"] "vp" BodyReordered

theorem BodyReordered.symm (first second : Value) (reordered : BodyReordered first second) :
    BodyReordered second first :=
  Value.AgreeBut.symm Value.Permuted.symm reordered

theorem Reordered.symm {first second : Value} (reordered : Reordered first second) :
    Reordered second first :=
  Value.AgreeBut.symm BodyReordered.symm reordered

/-- Bodies that are the same up to the order of the credentials. -/
structure Body.Alike (body other : Body) : Prop where
  holder : body.holder = other.holder
  credentials : Option.Rel List.Perm body.credentials other.credentials

/-- Claims that are the same up to the order of the credentials. -/
structure Fields.Alike (fields other : Fields) : Prop where
  issuer : fields.issuer = other.issuer
  body : Option.Rel Body.Alike fields.body other.body

/-- Presentations that are the same up to the order of the credentials. -/
structure Alike (presentation other : Presentation) : Prop where
  issuer : presentation.issuer = other.issuer
  holder : presentation.holder = other.holder
  credentials : presentation.credentials.Perm other.credentials

theorem Body.Alike.refl (body : Body) : body.Alike body :=
  ⟨rfl, by cases body.credentials <;> constructor; exact List.Perm.refl _⟩

theorem carries_body :
    Value.Carries assignBody "verifiableCredential" Value.Permuted Body.Alike where
  same {fields others} alike key value := by
    intro next taken
    unfold assignBody at taken ⊢
    split at taken
    · rcases bind_eq_ok.mp taken with ⟨slot, once, rest⟩
      cases rest
      exact ⟨_, bind_eq_ok.mpr ⟨slot, alike.holder ▸ once, rfl⟩, rfl, alike.credentials⟩
    · rcases bind_eq_ok.mp taken with ⟨slot, once, rest⟩
      cases rest
      rcases (Value.Follows.refl List.Perm.refl _).once alike.credentials _ once with
        ⟨partner, onceToo, related⟩
      exact ⟨_, bind_eq_ok.mpr ⟨partner, onceToo, rfl⟩, alike.holder, related⟩
    · rcases map_eq_ok_iff.mp taken with ⟨_, skipped, rfl⟩
      exact ⟨others, map_eq_ok_iff.mpr ⟨_, skipped, rfl⟩, alike⟩
  own alike _ _ permuted _ taken := by
    rcases bind_eq_ok.mp taken with ⟨slot, once, rest⟩
    cases rest
    rcases (permuted.list Value.text).once alike.credentials _ once with ⟨partner, onceToo, related⟩
    exact ⟨_, bind_eq_ok.mpr ⟨partner, onceToo, rfl⟩, alike.holder, related⟩

theorem follows_readBody {first second : Value} (reordered : BodyReordered first second) :
    Value.Follows Body.Alike (readBody first) (readBody second) :=
  carries_body.record (.refl _) (fun alike => Value.Follows.ok alike) reordered

theorem carries_fields : Value.Carries assign "vp" BodyReordered Fields.Alike where
  same {fields others} alike key value := by
    intro next taken
    unfold assign at taken ⊢
    split at taken
    · rcases bind_eq_ok.mp taken with ⟨slot, once, rest⟩
      cases rest
      exact ⟨_, bind_eq_ok.mpr ⟨slot, alike.issuer ▸ once, rfl⟩, rfl, alike.body⟩
    · rcases bind_eq_ok.mp taken with ⟨slot, once, rest⟩
      cases rest
      rcases (Value.Follows.refl Body.Alike.refl _).once alike.body _ once with
        ⟨partner, onceToo, related⟩
      exact ⟨_, bind_eq_ok.mpr ⟨partner, onceToo, rfl⟩, alike.issuer, related⟩
    · rcases map_eq_ok_iff.mp taken with ⟨_, skipped, rfl⟩
      exact ⟨others, map_eq_ok_iff.mpr ⟨_, skipped, rfl⟩, alike⟩
  own alike _ _ reordered _ taken := by
    rcases bind_eq_ok.mp taken with ⟨slot, once, rest⟩
    cases rest
    rcases (follows_readBody reordered).once alike.body _ once with ⟨partner, onceToo, related⟩
    exact ⟨_, bind_eq_ok.mpr ⟨partner, onceToo, rfl⟩, alike.issuer, related⟩

/-- The order of the credentials in what is read is all that the order in a text decides. -/
theorem follows_read {first second : Value} (reordered : Reordered first second) :
    Value.Follows Alike (read first) (read second) := by
  refine carries_fields.record ⟨rfl, .none⟩ ?_ reordered
  rintro ⟨issuer, body⟩ ⟨_, _⟩ ⟨rfl, bodies⟩ presentation finished
  cases bodies with
  | none => cases issuer <;> cases finished
  | @some body another alike =>
      cases issuer with
      | none => cases finished
      | some issuer =>
          cases finished
          refine ⟨_, rfl, rfl, congrArg Option.join alike.holder, ?_⟩
          rcases body with ⟨_, texts⟩
          rcases another with ⟨_, others⟩
          cases alike.credentials with
          | none => exact .refl _
          | some perm => exact perm

/-- The registered claims pass over the body of a presentation. -/
theorem carries_claims :
    Value.Carries Token.Claims.assign "vp" BodyReordered Eq where
  same {fields others} same key value := by
    cases same
    exact .refl (fun _ => rfl) _
  own {fields others} same {first second} reordered := by
    cases same
    have foreign : "vp" ∉ Token.Claims.names := by decide
    rw [Token.Claims.assign_of_not_mem foreign, Token.Claims.assign_of_not_mem foreign,
      reordered.skip_eq]
    exact .refl (fun _ => rfl) _

theorem follows_claims {first second : Value} (reordered : Reordered first second) :
    Value.Follows Eq (Token.Claims.read first) (Token.Claims.read second) := by
  cases reordered with
  | array => exact fun _ => nofun
  | @object members others closed fields =>
      have object : Value.AgreeBut [] "vp" BodyReordered (.object members closed)
          (.object others closed) := .object fields
      refine carries_claims.record rfl ?_ object
      rintro _ _ rfl
      exact .refl (fun _ => rfl) _

end Presentation

/-! ## Tokens -/

/-- Two tokens of presentations that differ only in the order of their credentials.  Their
holder signed both of them or neither. -/
structure Verifier.IsReordering (verifier : Verifier) (first second : Token) : Prop where
  header : first.header = second.header
  payload : ∃ octets others, Text.Base64Url.decodeOctets first.payload = some octets ∧
    Text.Base64Url.decodeOctets second.payload = some others ∧
    Presentation.Reordered (Document.ofOctets octets).value (Document.ofOctets others).value ∧
    (Document.ofOctets octets).trailing = (Document.ofOctets others).trailing
  signed : ∀ holder key, Names first.payloadValue holder → verifier.keys.find? holder = some key →
    (Token.IsSignedBy verifier.scheme key first ↔ Token.IsSignedBy verifier.scheme key second)

variable (reordering : verifier.IsReordering first second)

include reordering

theorem Verifier.IsReordering.given_eq {name : String} (different : name ≠ "vp") :
    first.payloadValue.given name = second.payloadValue.given name := by
  rcases reordering.payload with ⟨octets, others, decoded, decodedToo, reordered, _⟩
  rw [Token.payloadValue_eq decoded, Token.payloadValue_eq decodedToo]
  exact reordered.given_eq different

theorem Verifier.IsReordering.symm : verifier.IsReordering second first where
  header := reordering.header.symm
  payload := by
    rcases reordering.payload with ⟨octets, others, decoded, decodedToo, reordered, trailing⟩
    exact ⟨others, octets, decodedToo, decoded, reordered.symm, trailing.symm⟩
  signed holder key named known := by
    rw [Names, ← reordering.given_eq (by decide)] at named
    exact (reordering.signed holder key named known).symm

theorem Verifier.IsReordering.holds {α : Type} {read : Value → Reading α} {relation : α → α → Prop}
    (follows : ∀ {value other}, Presentation.Reordered value other →
      Value.Follows relation (read value) (read other))
    {data : α} (held : first.Holds read data) :
    ∃ partner, second.Holds read partner ∧ relation data partner := by
  rcases reordering.payload with ⟨octets, others, decoded, decodedToo, reordered, trailing⟩
  rcases held with ⟨again, decodedAgain, found⟩
  cases decoded.symm.trans decodedAgain
  rcases bind_eq_ok.mp found with ⟨_, readFirst, found⟩
  rcases follows reordered _ readFirst with ⟨partner, readSecond, related⟩
  split at found
  · cases found
  · next whole =>
      cases found
      refine ⟨partner, ⟨others, decodedToo, bind_eq_ok.mpr ⟨partner, readSecond, ?_⟩⟩, related⟩
      rw [if_neg (trailing ▸ whole)]

theorem Verifier.IsReordering.isSigned (parts : Token.ofText other = .ok second)
    {audience : Option String} {presentation : Presentation}
    (signed : verifier.IsSigned now Presentation.read one holder audience presentation first) :
    ∃ partner, verifier.IsSigned now Presentation.read other holder audience partner second ∧
      presentation.Alike partner := by
  rcases signed with ⟨⟨key, isToken⟩, named⟩
  rcases reordering.holds Presentation.follows_read isToken.accepted.holds with
    ⟨partner, held, alike⟩
  rcases isToken.accepted.permitted with ⟨claims, claimed, permit⟩
  rcases reordering.holds Presentation.follows_claims claimed with ⟨_, claimedToo, rfl⟩
  have algorithm : second.algorithm = .ok key.algorithm := by
    rw [← isToken.algorithm, Token.algorithm, Token.algorithm, reordering.header]
  refine ⟨partner, ⟨⟨key, parts, isToken.known, algorithm, ?_, held, claims, claimedToo, permit⟩, ?_⟩,
    alike⟩
  · exact (reordering.signed holder key named isToken.known).mp isToken.accepted.signed
  · rw [Names, ← reordering.given_eq (by decide)]
    exact named

/-! ## Presentations -/

theorem Verifier.IsReordering.isPresentation (parts : Token.ofText one = .ok first)
    (partsToo : Token.ofText other = .ok second) {presentation : Presentation}
    {attestations : List Attestation}
    (shown : verifier.IsPresentation now holder one presentation attestations) :
    ∃ partner others, verifier.IsPresentation now holder other partner others ∧
      attestations.Perm others := by
  rcases shown.signed with ⟨audience, token, signed, _, aimed, expected⟩
  have same : token = first := by
    rcases signed with ⟨⟨key, isToken⟩, _⟩
    exact Except.ok.inj (isToken.parts.symm.trans parts)
  subst same
  rcases reordering.isSigned partsToo signed with ⟨partner, signedToo, alike⟩
  rcases List.perm_comp_forall₂ alike.credentials.symm shown.attested with ⟨others, attested, perm⟩
  refine ⟨partner, others, {
    signed := ⟨audience, second, signedToo, Presentation.isIn_of_read signedToo.read_eq, ?_,
      expected⟩
    declared := fun name declared => shown.declared name (alike.holder.trans declared)
    credentials := fun none => shown.credentials ?_
    attested := attested
    member := ?_ }, perm.symm⟩
  · rw [IsFor, ← reordering.given_eq (by decide)]
    exact aimed
  · exact (none ▸ alike.credentials).eq_nil
  · rcases shown.member with ⟨attestation, listed, member⟩
    exact ⟨attestation, perm.mem_iff.mpr listed, member⟩

omit reordering

/-- The BPN of the last of the memberships that state one. -/
def Verifier.lastBpn? (verifier : Verifier) (attestations : List Attestation) : Option String :=
  attestations.reverse.findSome? verifier.memberBpn?

/-- Whether a text shows credentials of a holder that are all to be believed. -/
def Verifier.Shows (verifier : Verifier) (now : Time.Instant) (text holder : String)
    (attestations : List Attestation) : Prop :=
  ∃ presentation, verifier.IsPresentation now holder text presentation attestations

theorem Verifier.verify_eq_ok_iff_shows {caller : Identity} :
    verifier.verify now one = .ok caller ↔
      ∃ holder attestations, verifier.Shows now one holder attestations ∧
        caller = verifier.identityOf holder attestations := by
  constructor
  · intro verified
    rcases isPresentation_of_verify verified with
      ⟨holder, presentation, attestations, isPresentation, same⟩
    exact ⟨holder, attestations, ⟨presentation, isPresentation⟩, same⟩
  · rintro ⟨holder, attestations, ⟨presentation, isPresentation⟩, rfl⟩
    exact verify_of_isPresentation isPresentation

theorem Verifier.IsReordering.shows (reordering : verifier.IsReordering first second)
    (parts : Token.ofText one = .ok first) (partsToo : Token.ofText other = .ok second)
    {attestations : List Attestation} (shown : verifier.Shows now one holder attestations) :
    ∃ others, verifier.Shows now other holder others ∧ attestations.Perm others := by
  rcases shown with ⟨presentation, isPresentation⟩
  rcases reordering.isPresentation parts partsToo isPresentation with
    ⟨partner, others, isPresentationToo, perm⟩
  exact ⟨others, ⟨partner, isPresentationToo⟩, perm⟩

/-- Whoever is known by a presentation is known by it with its credentials in another order,
as the same subject with the same types of credentials. -/
theorem Verifier.IsReordering.exists_verify (reordering : verifier.IsReordering first second)
    (parts : Token.ofText one = .ok first) (partsToo : Token.ofText other = .ok second)
    {caller : Identity} (verified : verifier.verify now one = .ok caller) :
    ∃ another, verifier.verify now other = .ok another ∧ caller.subject = another.subject ∧
      caller.credentialTypes.Perm another.credentialTypes := by
  rcases verify_eq_ok_iff_shows.mp verified with ⟨holder, attestations, shown, rfl⟩
  rcases reordering.shows parts partsToo shown with ⟨others, shownToo, perm⟩
  exact ⟨verifier.identityOf holder others,
    verify_eq_ok_iff_shows.mpr ⟨holder, others, shownToo, rfl⟩, rfl, perm.flatMap_right _⟩

/-- Whether memberships do not contradict each other: all that state a BPN state the same. -/
def Verifier.Agree (verifier : Verifier) (attestations : List Attestation) : Prop :=
  ∀ first ∈ attestations, ∀ second ∈ attestations, ∀ bpn another,
    verifier.memberBpn? first = some bpn → verifier.memberBpn? second = some another → bpn = another

theorem Verifier.lastBpn?_eq_of_perm {attestations others : List Attestation}
    (perm : attestations.Perm others) (agree : verifier.Agree attestations) :
    verifier.lastBpn? attestations = verifier.lastBpn? others := by
  unfold lastBpn?
  cases found : attestations.reverse.findSome? verifier.memberBpn? with
  | none =>
      rw [List.findSome?_eq_none_iff] at found
      refine (List.findSome?_eq_none_iff.mpr fun attestation listed => found attestation ?_).symm
      exact List.mem_reverse.mpr (perm.mem_iff.mpr (List.mem_reverse.mp listed))
  | some bpn =>
      rcases List.exists_of_findSome?_eq_some found with ⟨first, listed, states⟩
      rw [List.mem_reverse] at listed
      cases foundToo : others.reverse.findSome? verifier.memberBpn? with
      | none =>
          have silent := List.findSome?_eq_none_iff.mp foundToo first
            (List.mem_reverse.mpr (perm.mem_iff.mp listed))
          cases silent.symm.trans states
      | some another =>
          rcases List.exists_of_findSome?_eq_some foundToo with ⟨second, listedToo, statesToo⟩
          have shared := perm.mem_iff.mpr (List.mem_reverse.mp listedToo)
          exact congrArg some (agree first listed second shared bpn another states statesToo)

/-! ## Decisions -/

/-- Whether two callers are let in alike: both of them, with the same scope and the same BPN,
or neither. -/
def LetInAlike : Except Failure Admission → Except Failure Admission → Prop
  | .ok first, .ok second => first.scope = second.scope ∧ first.identity.bpn = second.identity.bpn
  | .error _, .error _ => True
  | _, _ => False

/-- Whether the gate decides alike about two bearer tokens on every side of the service. -/
def Gate.DecidesAlike (gate : Gate) (now : Time.Instant) (one other : String) : Prop :=
  ∀ required surface, LetInAlike (gate.authorize now (some (.bearer one)) required surface).1
    (gate.authorize now (some (.bearer other)) required surface).1

/-- Callers of one subject, one way of proof, one BPN and the same types of credentials, in
whichever order, have the same scope. -/
theorem ScopeRules.scopeOf_eq {rules : ScopeRules} {caller another : Identity}
    (subject : caller.subject = another.subject) (method : caller.method = another.method)
    (types : caller.credentialTypes.Perm another.credentialTypes)
    (bpn : caller.bpn = another.bpn) : rules.scopeOf caller = rules.scopeOf another := by
  have named : rules.namesCaller caller = rules.namesCaller another := by
    rw [namesCaller, namesCaller, subject, bpn]
  have held : rules.namesCredential caller = rules.namesCredential another := by
    unfold namesCredential
    exact congrArg (Option.any · rules.managementType) (funext fun _ => types.contains_eq)
  rw [scopeOf, scopeOf, method, named, held]

theorem Gate.letInAlike_iff {caller another : Identity} (subject : caller.subject = another.subject)
    (method : caller.method = another.method)
    (types : caller.credentialTypes.Perm another.credentialTypes) :
    (∀ required surface, LetInAlike (gate.letIn required surface caller)
      (gate.letIn required surface another)) ↔ caller.bpn = another.bpn := by
  constructor
  · intro alike
    -- Everyone who is known may read, so here both are let in and their BPNs can be compared.
    have reads : ∀ identity, gate.letIn .readOnly "" identity =
        .ok ⟨identity, gate.rules.scopeOf identity⟩ := by
      intro identity
      unfold letIn
      cases gate.rules.scopeOf identity <;> rfl
    have both := alike .readOnly ""
    rw [reads, reads] at both
    exact both.2
  · intro bpn required surface
    have scope := gate.rules.scopeOf_eq subject method types bpn
    unfold letIn
    rw [scope]
    dsimp only
    split
    · exact ⟨rfl, bpn⟩
    · trivial

theorem Gate.decidesAlike_of_refused
    (refused : ∀ caller, gate.verifier.verify now one ≠ .ok caller)
    (refusedToo : ∀ caller, gate.verifier.verify now other ≠ .ok caller) :
    gate.DecidesAlike now one other := by
  intro required surface
  unfold authorize
  dsimp only [identify]
  cases verified : gate.verifier.verify now one with
  | ok caller => exact absurd verified (refused caller)
  | error failure =>
      cases verifiedToo : gate.verifier.verify now other with
      | ok caller => exact absurd verifiedToo (refusedToo caller)
      | error failure => trivial

theorem Gate.decidesAlike_iff {caller another : Identity}
    (verified : gate.verifier.verify now one = .ok caller)
    (verifiedToo : gate.verifier.verify now other = .ok another)
    (subject : caller.subject = another.subject)
    (types : caller.credentialTypes.Perm another.credentialTypes) :
    gate.DecidesAlike now one other ↔ caller.bpn = another.bpn := by
  have method : caller.method = another.method :=
    (Verifier.method_of_verify verified).trans (Verifier.method_of_verify verifiedToo).symm
  rw [← letInAlike_iff subject method types]
  unfold DecidesAlike authorize
  dsimp only [identify]
  rw [verified, verifiedToo]
  rfl

theorem Gate.decidesAlike_iff_of_shows {attestations others : List Attestation}
    (shown : gate.verifier.Shows now one holder attestations)
    (shownToo : gate.verifier.Shows now other holder others) (perm : attestations.Perm others) :
    gate.DecidesAlike now one other ↔
      gate.verifier.lastBpn? attestations = gate.verifier.lastBpn? others :=
  decidesAlike_iff (Verifier.verify_eq_ok_iff_shows.mpr ⟨holder, attestations, shown, rfl⟩)
    (Verifier.verify_eq_ok_iff_shows.mpr ⟨holder, others, shownToo, rfl⟩) rfl (perm.flatMap_right _)

/-- Whoever shows credentials has the last BPN among them. -/
theorem Verifier.Shows.bpn_eq {caller : Identity} {attestations : List Attestation}
    (shown : verifier.Shows now one holder attestations)
    (verified : verifier.verify now one = .ok caller) :
    caller.bpn = verifier.lastBpn? attestations := by
  have known := verify_eq_ok_iff_shows.mpr ⟨holder, attestations, shown, rfl⟩
  exact congrArg Identity.bpn (Except.ok.inj (verified.symm.trans known))

/-- A text shows credentials with one last BPN only. -/
theorem Verifier.Shows.lastBpn?_eq {another : String} {attestations others : List Attestation}
    (shown : verifier.Shows now one holder attestations)
    (again : verifier.Shows now one another others) :
    verifier.lastBpn? attestations = verifier.lastBpn? others := by
  have verified := verify_eq_ok_iff_shows.mpr ⟨holder, attestations, shown, rfl⟩
  exact (shown.bpn_eq verified).symm.trans (again.bpn_eq verified)

/-! ## Two memberships -/

/-- Whoever has the secret of a holder can make tokens of two orders. -/
theorem Verifier.isReordering_ofSecret {secret : List UInt8} {claims others : List Char}
    {document another : Document} (holds : Document.ofTokens (Json.lex (claims.map some)) = document)
    (holdsToo : Document.ofTokens (Json.lex (others.map some)) = another)
    (reordered : Presentation.Reordered document.value another.value)
    (trailing : document.trailing = another.trailing) (named : Names document.value holder)
    (known : verifier.keys.find? holder = some ⟨.hs256, .secret secret⟩) :
    verifier.IsReordering (Token.ofSecret secret claims) (Token.ofSecret secret others) where
  header := rfl
  payload := by
    rcases @Token.exists_payload_ofSecret secret claims with ⟨octets, decoded, same⟩
    rcases @Token.exists_payload_ofSecret secret others with ⟨further, decodedToo, sameToo⟩
    refine ⟨octets, further, decoded, decodedToo, ?_⟩
    rw [same, sameToo, holds, holdsToo]
    exact ⟨reordered, trailing⟩
  signed name key named' known' := by
    rw [Token.payloadValue_ofSecret, holds, Names, named, List.singleton_inj, Value.string.injEq,
      Json.Content.text.injEq] at named'
    subst named'
    cases known.symm.trans known'
    exact iff_of_true (Token.isSignedBy_ofSecret _) (Token.isSignedBy_ofSecret _)

namespace TwoMemberships

/-- The same memberships in the other order. -/
abbrev backward : Token := presentation "BPNL00000000000B" "BPNL00000000000A"

/-- A gate that lets one BPN change records. -/
def memberGate : Gate where
  verifier := memberVerifier
  rules := ⟨["BPNL00000000000A"], none⟩
  managementApiKey := none

/-- The two orders of two memberships. -/
theorem isReordering (first second : String) :
    memberGate.verifier.IsReordering (presentation first second) (presentation second first) := by
  have named : ∀ one other, Names (presentationValue one other) "did:web:holder" := fun _ _ => rfl
  have body (one other : String) : Presentation.BodyReordered
      (.object [(some "verifiableCredential",
        .array [.string (.text one), .string (.text other)] true)] true)
      (.object [(some "verifiableCredential",
        .array [.string (.text other), .string (.text one)] true)] true) :=
    .object (.cons (.inr ⟨rfl, rfl, _, _, true, rfl, rfl, .swap ..⟩) .nil)
  have values (one other : String) : Presentation.Reordered (presentationValue one other)
      (presentationValue other one) :=
    .object (.cons (.inl rfl) (.cons (.inl rfl) (.cons (.inl rfl)
      (.cons (.inr ⟨rfl, rfl, body one other⟩) .nil))))
  exact Verifier.isReordering_ofSecret (ofTokens_presentationData _ _)
    (ofTokens_presentationData _ _) (values _ _) rfl (named _ _) (by decide)

theorem verify_presentation (first second : String) :
    memberGate.verifier.verify origin (presentation first second).toText =
      .ok ⟨"did:web:holder", some second, ["MembershipCredential", "MembershipCredential"],
        .presentation⟩ :=
  Verifier.verify_of_isPresentation (isPresentation first second)

theorem authorize_presentation (first second : String) :
    (memberGate.authorize origin (some (.bearer (presentation first second).toText)) .readWrite
      Surface.management.name).1 = memberGate.letIn .readWrite Surface.management.name
        ⟨"did:web:holder", some second, ["MembershipCredential", "MembershipCredential"],
          .presentation⟩ := by
  unfold Gate.authorize
  dsimp only [Gate.identify]
  rw [verify_presentation]
  rfl

end TwoMemberships

/-! ## The order -/

/-- The gate decides alike exactly if the last BPN is the same in both orders. -/
theorem Gate.decidesAlike_iff_lastBpn? (parts : Token.ofText one = .ok first)
    (partsToo : Token.ofText other = .ok second)
    (reordering : gate.verifier.IsReordering first second) :
    gate.DecidesAlike now one other ↔
      ∀ holder attestations others, gate.verifier.Shows now one holder attestations →
        gate.verifier.Shows now other holder others →
          gate.verifier.lastBpn? attestations = gate.verifier.lastBpn? others := by
  by_cases known : ∃ holder attestations, gate.verifier.Shows now one holder attestations
  · rcases known with ⟨holder, attestations, shown⟩
    rcases reordering.shows parts partsToo shown with ⟨others, shownToo, perm⟩
    rw [decidesAlike_iff_of_shows shown shownToo perm]
    constructor
    · intro same _ _ _ again againToo
      exact (again.lastBpn?_eq shown).trans (same.trans (shownToo.lastBpn?_eq againToo))
    · intro same
      exact same _ _ _ shown shownToo
  · refine ⟨fun _ _ _ _ shown _ => absurd ⟨_, _, shown⟩ known, fun _ => ?_⟩
    apply decidesAlike_of_refused
    · intro caller verified
      rcases Verifier.verify_eq_ok_iff_shows.mp verified with ⟨holder, attestations, shown, _⟩
      exact known ⟨holder, attestations, shown⟩
    · intro caller verified
      rcases reordering.symm.exists_verify partsToo parts verified with ⟨another, taken, _⟩
      rcases Verifier.verify_eq_ok_iff_shows.mp taken with ⟨holder, attestations, shown, _⟩
      exact known ⟨holder, attestations, shown⟩

theorem Gate.decidesAlike_of_agree (parts : Token.ofText one = .ok first)
    (partsToo : Token.ofText other = .ok second)
    (reordering : gate.verifier.IsReordering first second)
    (agree : ∀ holder attestations, gate.verifier.Shows now one holder attestations →
      gate.verifier.Agree attestations) : gate.DecidesAlike now one other := by
  refine (decidesAlike_iff_lastBpn? parts partsToo reordering).mpr ?_
  intro holder attestations others shown shownToo
  rcases reordering.shows parts partsToo shown with ⟨turned, again, perm⟩
  exact (Verifier.lastBpn?_eq_of_perm perm (agree holder attestations shown)).trans
    (again.lastBpn?_eq shownToo)

open TwoMemberships

end Access
end BpnDirectory
