import BpnDirectory.Access.Presentation
import BpnDirectory.Proofs.Json.Record

namespace BpnDirectory
namespace Access

/-!
What the payloads of presentations and of credentials say.

The readers keep a few fields and pass over everything else.  What they keep is told here by
the values that stand under the names of these fields, so that whom a credential is about and
which BPN it states are facts about a payload.
-/

open Json (Value Reading)

variable {payload : Value}

/-- Whether values give a text, or say nothing and leave it to other values that give it. -/
def GiveFirst (values others : List Value) (content : String) : Prop :=
  Value.Give values content ∨ Value.SayNothing values ∧ Value.Give others content

theorem orElse_eq_some_iff {values others : List Value} {kept further : Option (Option String)}
    {content : String} (isKept : Value.IsKept Value.text? values kept)
    (isKeptToo : Value.IsKept Value.text? others further) :
    (kept.join.orElse fun _ => further.join) = some content ↔
      GiveFirst values others content := by
  rw [GiveFirst, ← isKept.join_eq_some_iff, ← isKept.join_eq_none_iff,
    ← isKeptToo.join_eq_some_iff]
  cases kept.join <;> simp

/-! ## Credentials -/

namespace Statement

theorem keeps_id : Value.Keeps assign "id" Fields.id Value.text? where
  own := Value.own_of_put fun _ => rfl
  others different taken := by
    unfold assign at taken
    split at taken
    · exact absurd rfl different
    · exact Value.other_of_put taken fun _ => rfl
    · exact Value.other_of_put taken fun _ => rfl
    · exact Value.other_of_skip taken

theorem keeps_holderIdentifier :
    Value.Keeps assign "holderIdentifier" Fields.holderIdentifier Value.text? where
  own := Value.own_of_put fun _ => rfl
  others different taken := by
    unfold assign at taken
    split at taken
    · exact Value.other_of_put taken fun _ => rfl
    · exact absurd rfl different
    · exact Value.other_of_put taken fun _ => rfl
    · exact Value.other_of_skip taken

theorem keeps_bpn : Value.Keeps assign "bpn" Fields.bpn Value.text? where
  own := Value.own_of_put fun _ => rfl
  others different taken := by
    unfold assign at taken
    split at taken
    · exact Value.other_of_put taken fun _ => rfl
    · exact Value.other_of_put taken fun _ => rfl
    · exact absurd rfl different
    · exact Value.other_of_skip taken

/-- Whether the fields of a statement are what is given for them by the value of the statement,
if there is one. -/
structure Fields.AreIn (fields : Fields) (values : List Value) : Prop where
  id : Value.IsKept Value.text?
    (values.flatMap fun value => value.field ["id", "holderIdentifier", "bpn"] "id") fields.id
  holderIdentifier : Value.IsKept Value.text?
    (values.flatMap fun value => value.field ["id", "holderIdentifier", "bpn"] "holderIdentifier")
    fields.holderIdentifier
  bpn : Value.IsKept Value.text?
    (values.flatMap fun value => value.field ["id", "holderIdentifier", "bpn"] "bpn") fields.bpn

theorem exists_fields_of_isKept {values : List Value} {kept : Option Statement}
    (isKept : Value.IsKept read values kept) :
    ∃ fields : Fields, finish fields = .ok (kept.getD .empty) ∧ fields.AreIn values := by
  rcases isKept with ⟨rfl, rfl⟩ | ⟨value, statement, rfl, found, rfl⟩
  · exact ⟨⟨none, none, none⟩, rfl, .inl ⟨rfl, rfl⟩, .inl ⟨rfl, rfl⟩, .inl ⟨rfl, rfl⟩⟩
  · rcases Value.fields_of_record found with ⟨fields, assigned, finished⟩
    refine ⟨fields, finished, ?_, ?_, ?_⟩
    · rw [List.flatMap_singleton]
      exact keeps_id.isKept rfl assigned
    · rw [List.flatMap_singleton]
      exact keeps_holderIdentifier.isKept rfl assigned
    · rw [List.flatMap_singleton]
      exact keeps_bpn.isKept rfl assigned

end Statement

namespace Attestation

/-- The values of a field in the body of a credential. -/
def inBody (payload : Value) (name : String) : List Value :=
  (payload.field ["sub", "vc"] "vc").flatMap fun body =>
    body.field ["type", "credentialSubject"] name

/-- The values of a field of what a credential states about its subject. -/
def inStatement (payload : Value) (name : String) : List Value :=
  (inBody payload "credentialSubject").flatMap fun statement =>
    statement.field ["id", "holderIdentifier", "bpn"] name

/-- Whether a payload is about someone: the subject that its body describes has their name, or
has none and the claim for the subject gives it. -/
def IsAbout (payload : Value) (name : String) : Prop :=
  GiveFirst (inStatement payload "id") (payload.field ["sub", "vc"] "sub") name

/-- Whether a payload states a BPN of its subject, as the identifier of a holder or else under
its own name. -/
def States (payload : Value) (bpn : String) : Prop :=
  GiveFirst (inStatement payload "holderIdentifier") (inStatement payload "bpn") bpn

/-- Whether the types and the BPN of a credential are those that a payload gives. -/
structure IsIn (attestation : Attestation) (payload : Value) : Prop where
  types : Value.GiveAll (inBody payload "type") attestation.types
  bpn : ∀ bpn, attestation.bpn = some bpn ↔ States payload bpn

theorem keeps_types : Value.Keeps assignBody "type" Body.types (Value.list Value.text) where
  own := Value.own_of_put fun _ => rfl
  others different taken := by
    unfold assignBody at taken
    split at taken
    · exact absurd rfl different
    · exact Value.other_of_put taken fun _ => rfl
    · exact Value.other_of_skip taken

theorem keeps_statement :
    Value.Keeps assignBody "credentialSubject" Body.statement Statement.read where
  own := Value.own_of_put fun _ => rfl
  others different taken := by
    unfold assignBody at taken
    split at taken
    · exact Value.other_of_put taken fun _ => rfl
    · exact absurd rfl different
    · exact Value.other_of_skip taken

theorem keeps_subject : Value.Keeps assign "sub" Fields.subject Value.text? where
  own := Value.own_of_put fun _ => rfl
  others different taken := by
    unfold assign at taken
    split at taken
    · exact absurd rfl different
    · exact Value.other_of_put taken fun _ => rfl
    · exact Value.other_of_skip taken

theorem keeps_body : Value.Keeps assign "vc" Fields.body readBody where
  own := Value.own_of_put fun _ => rfl
  others different taken := by
    unfold assign at taken
    split at taken
    · exact Value.other_of_put taken fun _ => rfl
    · exact absurd rfl different
    · exact Value.other_of_skip taken

/-- What is read of a credential comes from its own subject, the types in its body and what the
body states. -/
theorem fields_of_read {attestation : Attestation} (found : read payload = .ok attestation) :
    ∃ (subject : Option (Option String)) (types : Option (List String))
      (fields : Statement.Fields),
      attestation = ⟨subject.join, types.getD [], fields.id.join, fields.holderIdentifier.join,
        fields.bpn.join⟩ ∧
      Value.IsKept Value.text? (payload.field ["sub", "vc"] "sub") subject ∧
      Value.IsKept (Value.list Value.text) (inBody payload "type") types ∧
      fields.AreIn (inBody payload "credentialSubject") := by
  rcases Value.fields_of_record found with ⟨⟨subject, _ | body⟩, assigned, finished⟩
  · cases finished
  · rcases keeps_body.isKept rfl assigned with ⟨_, empty⟩ | ⟨value, kept, given, readBody, full⟩
    · cases empty
    · cases full
      rcases Value.fields_of_record readBody with ⟨last, assignedBody, done⟩
      cases done
      have inside (name : String) :
          inBody payload name = value.field ["type", "credentialSubject"] name := by
        rw [inBody, Value.field, given, List.flatMap_singleton]
      rcases Statement.exists_fields_of_isKept (keeps_statement.isKept rfl assignedBody) with
        ⟨fields, stated, areIn⟩
      cases finished
      refine ⟨subject, body.types, fields, ?_, keeps_subject.isKept rfl assigned, ?_, ?_⟩
      · rw [← Except.ok.inj stated]
      · rw [inside]
        exact keeps_types.isKept rfl assignedBody
      · rw [inside]
        exact areIn

/-- Whom a credential is about is what its payload says. -/
theorem about_eq_some_iff {attestation : Attestation} {name : String}
    (found : read payload = .ok attestation) :
    attestation.about = some name ↔ IsAbout payload name := by
  rcases fields_of_read found with ⟨subject, types, fields, rfl, isSubject, _, areIn⟩
  exact orElse_eq_some_iff areIn.id isSubject

theorem isIn_of_read {attestation : Attestation} (found : read payload = .ok attestation) :
    attestation.IsIn payload := by
  rcases fields_of_read found with ⟨subject, types, fields, rfl, _, areTypes, areIn⟩
  exact ⟨areTypes.giveAll, fun _ => orElse_eq_some_iff areIn.holderIdentifier areIn.bpn⟩

end Attestation

/-! ## Presentations -/

namespace Presentation

/-- The values of a field in the body of a presentation. -/
def inBody (payload : Value) (name : String) : List Value :=
  (payload.field ["iss", "vp"] "vp").flatMap fun body =>
    body.field ["holder", "verifiableCredential"] name

/-- Whether issuer, holder and credentials of a presentation are those that a payload gives. -/
structure IsIn (presentation : Presentation) (payload : Value) : Prop where
  issuer : Value.Give (payload.field ["iss", "vp"] "iss") presentation.issuer
  holder : ∀ name, presentation.holder = some name ↔ Value.Give (inBody payload "holder") name
  credentials : Value.GiveAll (inBody payload "verifiableCredential") presentation.credentials

theorem keeps_holder : Value.Keeps assignBody "holder" Body.holder Value.text? where
  own := Value.own_of_put fun _ => rfl
  others different taken := by
    unfold assignBody at taken
    split at taken
    · exact absurd rfl different
    · exact Value.other_of_put taken fun _ => rfl
    · exact Value.other_of_skip taken

theorem keeps_credentials :
    Value.Keeps assignBody "verifiableCredential" Body.credentials (Value.list Value.text) where
  own := Value.own_of_put fun _ => rfl
  others different taken := by
    unfold assignBody at taken
    split at taken
    · exact Value.other_of_put taken fun _ => rfl
    · exact absurd rfl different
    · exact Value.other_of_skip taken

theorem keeps_issuer : Value.Keeps assign "iss" Fields.issuer Value.text where
  own := Value.own_of_put fun _ => rfl
  others different taken := by
    unfold assign at taken
    split at taken
    · exact absurd rfl different
    · exact Value.other_of_put taken fun _ => rfl
    · exact Value.other_of_skip taken

theorem keeps_body : Value.Keeps assign "vp" Fields.body readBody where
  own := Value.own_of_put fun _ => rfl
  others different taken := by
    unfold assign at taken
    split at taken
    · exact Value.other_of_put taken fun _ => rfl
    · exact absurd rfl different
    · exact Value.other_of_skip taken

theorem isIn_of_read {presentation : Presentation} (found : read payload = .ok presentation) :
    presentation.IsIn payload := by
  rcases Value.fields_of_record found with ⟨fields, assigned, finished⟩
  unfold finish at finished
  split at finished
  · next issuer body =>
      cases finished
      rcases keeps_body.isKept rfl assigned with ⟨_, empty⟩ | ⟨value, kept, given, readBody, full⟩
      · cases empty
      · cases full
        rcases Value.fields_of_record readBody with ⟨last, assignedBody, done⟩
        cases done
        have inside (name : String) :
            inBody payload name = value.field ["holder", "verifiableCredential"] name := by
          rw [inBody, Value.field, given, List.flatMap_singleton]
        refine ⟨?_, ?_, ?_⟩
        · rcases keeps_issuer.isKept rfl assigned with ⟨_, empty⟩ | ⟨_, _, named, readText, full⟩
          · cases empty
          · cases full
            cases Value.text_eq_ok_iff.mp readText
            exact named
        · intro name
          rw [inside]
          exact (keeps_holder.isKept rfl assignedBody).join_eq_some_iff
        · rw [inside]
          exact (keeps_credentials.isKept rfl assignedBody).giveAll
  · cases finished

end Presentation
end Access
end BpnDirectory
