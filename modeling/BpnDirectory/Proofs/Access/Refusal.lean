import BpnDirectory.Access.Gate
import BpnDirectory.Proofs.Collection.Outcome

namespace BpnDirectory
namespace Access

/-!
How callers are refused.

Whatever is wrong with what a caller shows, the failure says that the caller is not known.
Somebody who is known is refused for one reason only, a scope that does not suffice, and the
failure says that they may not do this.
-/

open Time (Instant)

variable {α β ε : Type}

/-! ## Callers who are not known -/

/-- Whether an outcome that is a failure says that a caller is not known. -/
def OnlyUnknown (outcome : Except Failure α) : Prop :=
  ∀ failure, outcome = .error failure → ∃ reason, failure = .unauthorized reason

namespace OnlyUnknown

theorem ok (value : α) : OnlyUnknown (.ok value) := nofun

theorem unauthorized (reason : String) : OnlyUnknown (Access.unauthorized reason : Except Failure α) := by
  rintro _ ⟨⟩
  exact ⟨reason, rfl⟩

theorem bind {first : Except Failure α} {rest : α → Except Failure β} (head : OnlyUnknown first)
    (others : ∀ value, OnlyUnknown (rest value)) : OnlyUnknown (first >>= rest) := by
  intro failure failed
  rcases bind_eq_error.mp failed with early | ⟨value, _, late⟩
  · exact head failure early
  · exact others value failure late

theorem mapError {outcome : Except ε α} {f : ε → Failure}
    (worded : ∀ defect, ∃ reason, f defect = .unauthorized reason) :
    OnlyUnknown (outcome.mapError f) := by
  intro failure failed
  cases outcome with
  | ok value => cases failed
  | error defect =>
      cases failed
      exact worded defect

theorem ite {condition : Prop} [Decidable condition] {first second : Except Failure α}
    (holds : OnlyUnknown first) (fails : OnlyUnknown second) :
    OnlyUnknown (if condition then first else second) := by
  split
  · exact holds
  · exact fails

end OnlyUnknown

theorem Glance.onlyUnknown_ofText (text : String) : OnlyUnknown (ofText text) := by
  unfold ofText
  split
  · exact .unauthorized _
  · split
    · exact .unauthorized _
    · split
      · exact .ok _
      · exact .unauthorized _

theorem onlyUnknown_resolve (keys : KeyRing) (did : String) :
    OnlyUnknown (KeyRing.resolve keys did) := by
  unfold KeyRing.resolve
  split
  · exact .ok _
  · exact .unauthorized _

namespace Verifier

variable (verifier : Verifier) (now : Instant)

theorem onlyUnknown_verifySigned (read : Json.Value → Json.Reading α) (text signer : String)
    (audience : Option String) : OnlyUnknown (verifier.verifySigned now read text signer audience) := by
  refine .bind (.mapError fun _ => ⟨_, rfl⟩) fun token => ?_
  refine .bind (.mapError fun _ => ⟨_, rfl⟩) fun algorithm => ?_
  refine .bind (onlyUnknown_resolve _ _) fun key => ?_
  exact .ite (.unauthorized _) (.mapError fun _ => ⟨_, rfl⟩)

theorem onlyUnknown_verifyCredential (holder text : String) :
    OnlyUnknown (verifier.verifyCredential now holder text) := by
  refine .bind (Glance.onlyUnknown_ofText text) fun glance => ?_
  split
  · exact .unauthorized _
  · refine .ite (.unauthorized _) ?_
    refine .bind (onlyUnknown_verifySigned verifier now _ _ _ _) fun attestation => ?_
    exact .ite (.ok _) (.unauthorized _)

theorem onlyUnknown_gather (holder : String) (evidence : Evidence) (texts : List String) :
    OnlyUnknown (verifier.gather now holder evidence texts) := by
  induction texts generalizing evidence with
  | nil => exact .ok _
  | cons text rest ih =>
      exact .bind (onlyUnknown_verifyCredential verifier now holder text) fun _ => ih _

theorem onlyUnknown_verify (text : String) : OnlyUnknown (verifier.verify now text) := by
  refine .bind (Glance.onlyUnknown_ofText text) fun glance => ?_
  split
  · exact .unauthorized _
  · refine .ite (.unauthorized _) ?_
    split
    · exact .unauthorized _
    · refine .bind (onlyUnknown_verifySigned verifier now _ _ _ _) fun presentation => ?_
      refine .ite (.unauthorized _) (.ite (.unauthorized _) ?_)
      refine .bind (onlyUnknown_gather verifier now _ _ _) fun evidence => ?_
      exact .ite (.ok _) (.unauthorized _)

end Verifier

/-! ## The gate -/

namespace Gate

variable {gate : Gate} {now : Instant} {credential : Option Credential} {required : Scope}
  {surface : String} {failure : Failure}

theorem onlyUnknown_identify (gate : Gate) (now : Instant) (credential : Option Credential) :
    OnlyUnknown (gate.identify now credential) := by
  unfold identify
  split
  · exact .unauthorized _
  · exact Verifier.onlyUnknown_verify gate.verifier now _
  · exact .ite (.ok _) (.unauthorized _)

/-- Whoever is refused is not known, or is known and has not the scope that is asked for. -/
theorem authorize_eq_error
    (refused : (gate.authorize now credential required surface).1 = .error failure) :
    (gate.identify now credential = .error failure ∧ ∃ reason, failure = .unauthorized reason) ∨
      ∃ identity, gate.identify now credential = .ok identity ∧
        (gate.rules.scopeOf identity).satisfies required = false ∧
        ∃ reason, failure = .forbidden reason := by
  have whole : (gate.identify now credential >>= gate.letIn required surface) = .error failure :=
    refused
  rcases bind_eq_error.mp whole with unknown | ⟨identity, known, barred⟩
  · exact Or.inl ⟨unknown, onlyUnknown_identify gate now credential failure unknown⟩
  · right
    unfold letIn at barred
    dsimp only at barred
    split at barred
    · cases barred
    · next low =>
        cases barred
        exact ⟨identity, known, Bool.eq_false_iff.mpr low, _, rfl⟩

end Gate
end Access
end BpnDirectory
