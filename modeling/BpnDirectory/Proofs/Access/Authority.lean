import BpnDirectory.Access.Gate
import BpnDirectory.Proofs.Collection.Outcome

namespace BpnDirectory
namespace Access

/-!
Who may manage records.

The gate lets a request in for management exactly if its bearer token shows a
presentation of someone whom the rules grant that or, when it has no bearer token, if its
key is the one for management.
-/

open Time (Instant)

/-! ## Keys -/

theorem foldl_or_xor_eq_zero_iff {pairs : List (UInt8 × UInt8)} {seen : UInt8} :
    pairs.foldl (fun seen pair => seen ||| (pair.1 ^^^ pair.2)) seen = 0 ↔
      seen = 0 ∧ ∀ pair ∈ pairs, pair.1 = pair.2 := by
  induction pairs generalizing seen with
  | nil => simp
  | cons head rest ih =>
      rw [List.foldl_cons, ih, UInt8.or_eq_zero_iff, UInt8.xor_eq_zero_iff, List.forall_mem_cons,
        and_assoc]

theorem zip_same_iff {xs ys : List UInt8} (length : xs.length = ys.length) :
    (∀ pair ∈ xs.zip ys, pair.1 = pair.2) ↔ xs = ys := by
  induction xs generalizing ys with
  | nil =>
      cases ys with
      | nil => simp
      | cons y ys => cases length
  | cons x xs ih =>
      cases ys with
      | nil => cases length
      | cons y ys =>
          rw [List.zip_cons_cons, List.forall_mem_cons, ih (Nat.succ.inj length),
            List.cons.injEq]

theorem sameOctets_iff {xs ys : List UInt8} : sameOctets xs ys = true ↔ xs = ys := by
  unfold sameOctets
  rw [Bool.and_eq_true, beq_iff_eq, beq_iff_eq, foldl_or_xor_eq_zero_iff]
  constructor
  · rintro ⟨length, _, same⟩
    exact (zip_same_iff length).mp same
  · rintro rfl
    exact ⟨rfl, rfl, (zip_same_iff rfl).mpr rfl⟩

/-- Whether a key is, octet by octet, the one for management. -/
def Gate.IsKey (gate : Gate) (key : String) : Prop :=
  ∃ expected, gate.managementApiKey = some expected ∧
    Text.Utf8.octets key = Text.Utf8.octets expected

theorem Gate.holdsKey_iff {gate : Gate} {key : String} :
    gate.holdsKey key = true ↔ gate.IsKey key := by
  unfold holdsKey IsKey
  cases gate.managementApiKey with
  | none => simp
  | some expected => simp [sameOctets_iff]

/-! ## Callers -/

/-- A caller who showed a presentation is known by it. -/
theorem Verifier.method_of_verify {verifier : Verifier} {now : Instant} {text : String}
    {identity : Identity} (verified : verifier.verify now text = .ok identity) :
    identity.method = .presentation := by
  rcases bind_eq_ok.mp verified with ⟨glance, _, verified⟩
  split at verified
  · cases verified
  · split at verified
    · cases verified
    · split at verified
      · cases verified
      · rcases bind_eq_ok.mp verified with ⟨presentation, _, verified⟩
        split at verified
        · cases verified
        · split at verified
          · cases verified
          · rcases bind_eq_ok.mp verified with ⟨evidence, _, verified⟩
            split at verified
            · cases verified
              rfl
            · cases verified

/-- Whether rules grant a caller to change records. -/
def ScopeRules.Grants (rules : ScopeRules) (identity : Identity) : Prop :=
  identity.subject ∈ rules.principals ∨ (∃ bpn ∈ rules.principals, identity.bpn = some bpn) ∨
    ∃ kind ∈ identity.credentialTypes, rules.managementType = some kind

theorem ScopeRules.satisfies_readWrite_iff {rules : ScopeRules} {identity : Identity} :
    (rules.scopeOf identity).satisfies .readWrite = true ↔
      identity.method = .apiKey ∨ rules.Grants identity := by
  have named : rules.namesCaller identity = true ↔ identity.subject ∈ rules.principals ∨
      ∃ bpn ∈ rules.principals, identity.bpn = some bpn := by
    unfold namesCaller
    cases identity.bpn <;> simp
  have held : rules.namesCredential identity = true ↔
      ∃ kind ∈ identity.credentialTypes, rules.managementType = some kind := by
    unfold namesCredential
    cases rules.managementType <;> simp
  have granted : rules.Grants identity ↔
      rules.namesCaller identity = true ∨ rules.namesCredential identity = true := by
    rw [named, held, or_assoc]
    rfl
  rw [granted]
  unfold scopeOf
  split
  · next writes => simpa [Scope.satisfies, or_assoc] using writes
  · next reads => simpa [Scope.satisfies, or_assoc] using reads

/-- Whether a request comes from someone who may manage records.  Its key counts only if
it has no bearer token. -/
def Gate.MayManage (gate : Gate) (now : Instant) (headers : Http.Headers) : Prop :=
  match bearerToken? headers with
  | some token => ∃ identity, gate.verifier.verify now token = .ok identity ∧
      gate.rules.Grants identity
  | none => ∃ key, apiKey? headers = some key ∧ gate.IsKey key

theorem Gate.letIn_isOk {gate : Gate} {required : Scope} {surface : String} {identity : Identity} :
    (gate.letIn required surface identity).isOk = (gate.rules.scopeOf identity).satisfies required := by
  unfold letIn
  dsimp only
  split
  · next granted => exact granted.symm
  · next refused => exact (Bool.eq_false_iff.mpr refused).symm

/-- The gate lets exactly those in for management who may manage records. -/
theorem Gate.authorize_isOk_iff {gate : Gate} {now : Instant} {headers : Http.Headers}
    (surface : String) :
    (gate.authorize now (Credential.ofHeaders? headers) .readWrite surface).1.isOk = true ↔
      gate.MayManage now headers := by
  unfold authorize MayManage Credential.ofHeaders?
  cases bearerToken? headers with
  | some token =>
      dsimp only [identify]
      cases verified : gate.verifier.verify now token with
      | error failure => simp [Except.bind, Except.isOk, Except.toBool]
      | ok identity =>
          change (gate.letIn .readWrite surface identity).isOk = true ↔ _
          rw [letIn_isOk, ScopeRules.satisfies_readWrite_iff, Verifier.method_of_verify verified]
          simp
  | none =>
      cases apiKey? headers with
      | none => simp [identify, unauthorized, Except.bind, Except.isOk, Except.toBool]
      | some key =>
          dsimp only [identify, Option.map]
          by_cases holds : gate.holdsKey key = true
          · rw [if_pos holds]
            change (gate.letIn .readWrite surface .ofApiKey).isOk = true ↔ _
            rw [letIn_isOk, ScopeRules.satisfies_readWrite_iff]
            simpa [Identity.ofApiKey] using holdsKey_iff.mp holds
          · rw [if_neg holds]
            have other := mt holdsKey_iff.mpr holds
            simpa [unauthorized, Except.bind, Except.isOk, Except.toBool] using other

end Access
end BpnDirectory
