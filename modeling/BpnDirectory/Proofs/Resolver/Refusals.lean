import BpnDirectory.Proofs.Process.Rules
import BpnDirectory.Proofs.Resolver.Polls
import BpnDirectory.Proofs.Store.Atomic

namespace BpnDirectory
namespace Resolver

/-!
Changes that are refused.

A change that fails, for whatever reason, leaves the node as it was: the store keeps
what it kept, and cache, dump, waiting keys and known directory version are the same.
A change touches none of them before its commit, and after its commit nothing can fail
any more.
-/

open Program (FollowsUnless Yields)
open Store (AtomicStore Backend Call Link MappingStore)

variable {S α β : Type} [MappingStore S] [AtomicStore S]

/-- Whether a node is left as it was, the counts and clocks aside. -/
structure Node.Spares (before after : Node S) : Prop where
  kept : AtomicStore.kept after.store = AtomicStore.kept before.store
  cache : after.cache = before.cache
  shelf : after.shelf = before.shelf
  pending : after.pending = before.pending
  observed : after.observed = before.observed

namespace Node.Spares

theorem refl (node : Node S) : node.Spares node := ⟨rfl, rfl, rfl, rfl, rfl⟩

theorem trans {before between after : Node S} (first : before.Spares between)
    (second : between.Spares after) : before.Spares after where
  kept := second.kept.trans first.kept
  cache := second.cache.trans first.cache
  shelf := second.shelf.trans first.shelf
  pending := second.pending.trans first.pending
  observed := second.observed.trans first.observed

theorem record (event : Telemetry.Event) (node : Node S) : node.Spares (node.record event) :=
  ⟨rfl, rfl, rfl, rfl, rfl⟩

end Node.Spares

/-- Whether an operation spares the node unless it succeeds. -/
def Operation.IsAtomic (operation : Operation S α) : Prop :=
  FollowsUnless Node.Spares (fun outcome => ∃ value, outcome = .ok value) operation.run

namespace Operation

theorem isAtomic_check_bind {outcome : Except Failure α} {rest : α → Operation S β}
    (others : ∀ value, IsAtomic (rest value)) : IsAtomic (check outcome >>= rest) := by
  cases outcome with
  | ok value => exact others value
  | error failure => trivial

/-- What follows a commit must not fail. -/
theorem isAtomic_bind {operation : Operation S α} {rest : α → Operation S β}
    (first : IsAtomic operation) (others : ∀ value, Succeeds (rest value)) :
    IsAtomic (operation >>= rest) := by
  refine FollowsUnless.bind first ?_ ?_
  · rintro _ ⟨value, rfl⟩
    exact others value
  · intro outcome
    cases outcome with
    | ok value => exact (others value).followsUnless
    | error failure => trivial

end Operation

/-! ## Calls on the store -/

/-- Whether a call leaves what a store keeps unless it succeeds. -/
def IsAtomicCall (call : Time.Instant → Call S α) : Prop :=
  ∀ now store failure, (call now store).1 = .error failure →
    AtomicStore.kept (call now store).2 = AtomicStore.kept store

theorem isAtomicCall_of_request {make : α → Store.Reply} {call : Time.Instant → Call S α}
    (request : Time.Instant → Store.Request)
    (same : ∀ now store, (request now).perform store = Store.Request.answered make (call now) store) :
    IsAtomicCall call := by
  intro now store failure failed
  have refused : ((request now).perform store).1 = .failed failure := by
    rw [same]
    exact congrArg (Store.Reply.ofOutcome make) failed
  have kept := AtomicStore.kept_of_failed (request now) refused
  rw [same] at kept
  exact kept

variable {call : Time.Instant → Call S α}

theorem spares_callStore (atomic : IsAtomicCall call) (node : Node S) {failure : Failure}
    (failed : (node.callStore (call node.now)).1 = .error failure) :
    node.Spares (node.callStore (call node.now)).2 :=
  ⟨atomic node.now node.store failure failed, rfl, rfl, rfl, rfl⟩

theorem followsUnless_attempt (atomic : IsAtomicCall call) (operation : String) :
    FollowsUnless Node.Spares (fun outcome => ∃ value, outcome = .ok value)
      (attempt operation call) := by
  intro node
  refine ⟨?_, fun counted => ⟨Or.inl (.record _ counted), trivial⟩⟩
  cases outcome : (node.callStore (call node.now)).1 with
  | error failure => exact Or.inl (spares_callStore atomic node outcome)
  | ok value => exact Or.inr fun _ => ⟨value, rfl⟩

/-- However often a call is made again, none of its attempts did anything unless the
last one succeeded. -/
theorem followsUnless_retrying (atomic : IsAtomicCall call) (operation : String) (retries : Nat) :
    FollowsUnless Node.Spares (fun outcome => ∃ value, outcome = .ok value)
      (retrying operation call retries) := by
  induction retries with
  | zero => exact followsUnless_attempt atomic operation
  | succ retries ih =>
      refine (followsUnless_attempt atomic operation).bind ?_ ?_
      · rintro _ ⟨value, rfl⟩
        exact ⟨value, rfl⟩
      · intro outcome
        split
        · exact fun node => ⟨Or.inl (.record _ node), ih⟩
        · trivial

theorem isAtomic_request (atomic : IsAtomicCall call) (policy : Policy) (operation : String) :
    (request policy operation call).IsAtomic :=
  followsUnless_retrying atomic operation policy.retry.attempts

theorem isAtomic_noteConflict {operation : Operation S α} (atomic : operation.IsAtomic)
    (name : String) : (noteConflict name operation).IsAtomic := by
  refine FollowsUnless.bind atomic ?_ ?_
  · rintro _ ⟨value, rfl⟩
    exact ⟨value, rfl⟩
  · intro outcome
    dsimp only
    split
    · exact fun node => ⟨Or.inl (.record _ node), trivial⟩
    · trivial

/-! ## After a commit -/

section

omit [MappingStore S] [AtomicStore S]

theorem succeeds_forget (bpn : String) : (forget bpn : Operation S Unit).Succeeds := by
  refine Operation.succeeds_bind (Operation.succeeds_act _) fun outcome => ?_
  cases outcome with
  | ok _ => exact Operation.succeeds_change _
  | error failure =>
      refine Operation.succeeds_bind (Operation.succeeds_change _) fun _ => ?_
      exact Operation.succeeds_bind (Operation.succeeds_change _) fun _ => Operation.succeeds_change _

theorem succeeds_forgetAll (bpns : List String) : (forgetAll bpns : Operation S Unit).Succeeds := by
  induction bpns with
  | nil => exact Operation.succeeds_pure ()
  | cons bpn rest ih => exact Operation.succeeds_bind (succeeds_forget bpn) fun _ => ih

end

/-! ## Changes -/

variable (policy : Policy)

theorem isAtomic_register (bpn did : String) :
    (register policy bpn did : Operation S Record).IsAtomic := by
  refine Operation.isAtomic_check_bind fun _ => Operation.isAtomic_check_bind fun _ => ?_
  have atomic : IsAtomicCall fun now => (MappingStore.put now bpn did none : Call S _) :=
    isAtomicCall_of_request (.put · bpn did none) fun _ _ => rfl
  refine Operation.isAtomic_bind (isAtomic_request atomic policy "put") fun committed => ?_
  refine Operation.succeeds_bind (succeeds_forget bpn) fun _ => ?_
  exact Operation.succeeds_bind (Operation.succeeds_change _) fun _ => Operation.succeeds_pure _

theorem isAtomic_rotate (bpn did : String) (expected : Int) :
    (rotate policy bpn did expected : Operation S Record).IsAtomic := by
  refine Operation.isAtomic_check_bind fun _ => Operation.isAtomic_check_bind fun _ => ?_
  have atomic : IsAtomicCall fun now => (MappingStore.put now bpn did (some expected) : Call S _) :=
    isAtomicCall_of_request (.put · bpn did (some expected)) fun _ _ => rfl
  refine Operation.isAtomic_bind
    (isAtomic_noteConflict (isAtomic_request atomic policy "put") "rotate") fun committed => ?_
  refine Operation.succeeds_bind (succeeds_forget bpn) fun _ => ?_
  exact Operation.succeeds_bind (Operation.succeeds_change _) fun _ => Operation.succeeds_pure _

theorem isAtomic_remove (bpn : String) (expected : Int) :
    (remove policy bpn expected : Operation S Unit).IsAtomic := by
  refine Operation.isAtomic_check_bind fun _ => ?_
  have atomic : IsAtomicCall fun _ => (MappingStore.delete bpn expected : Call S _) :=
    isAtomicCall_of_request (fun _ => .delete bpn expected) fun _ _ => rfl
  refine Operation.isAtomic_bind
    (isAtomic_noteConflict (isAtomic_request atomic policy "delete") "remove") fun committed => ?_
  exact Operation.succeeds_bind (succeeds_forget bpn) fun _ => Operation.succeeds_change _

theorem isAtomic_registerBatch (batch : List NewMapping) :
    (registerBatch policy batch : Operation S (List Record)).IsAtomic := by
  refine Operation.isAtomic_check_bind fun _ => ?_
  have atomic : IsAtomicCall fun now => (MappingStore.putBatch now batch : Call S _) :=
    isAtomicCall_of_request (.putBatch · batch) fun _ _ => rfl
  refine Operation.isAtomic_bind (isAtomic_request atomic policy "put_batch") fun committed => ?_
  refine Operation.succeeds_bind (succeeds_forgetAll _) fun _ => ?_
  exact Operation.succeeds_bind (Operation.succeeds_change _) fun _ => Operation.succeeds_pure _

namespace Command

def isChange : Command → Bool
  | .register .. | .rotate .. | .remove .. | .registerBatch _ => true
  | _ => false

theorem followsUnless_answered {make : α → Answer} {operation : Operation S α}
    (atomic : operation.IsAtomic) (proper : ∀ value, (make value).isSuccess = true) :
    FollowsUnless Node.Spares (fun answer => answer.isSuccess = true) (answered make operation) := by
  refine FollowsUnless.bind atomic ?_ fun _ => trivial
  rintro _ ⟨value, rfl⟩
  exact proper value

theorem followsUnless {command : Command} (change : command.isChange = true) :
    FollowsUnless Node.Spares (fun answer => answer.isSuccess = true)
      (command.program policy : Program (Node S) Answer) := by
  cases command with
  | register bpn did => exact followsUnless_answered (isAtomic_register policy bpn did) fun _ => rfl
  | rotate bpn did expected =>
      exact followsUnless_answered (isAtomic_rotate policy bpn did expected) fun _ => rfl
  | remove bpn expected =>
      exact followsUnless_answered (isAtomic_remove policy bpn expected) fun _ => rfl
  | registerBatch batch =>
      exact followsUnless_answered (isAtomic_registerBatch policy batch) fun _ => rfl
  | _ => cases change

end Command

theorem spares_of_refused {command : Command} (change : command.isChange = true)
    (node : Node S) {failure : Failure}
    (refused : ((command.program policy).run node).1 = .failed failure) :
    node.Spares ((command.program policy).run node).2 := by
  refine (command.followsUnless policy change).run .refl .trans ?_
  rw [refused]
  exact Bool.false_ne_true

/-- Among other calls, no step of a change that is refused in the end did anything. -/
theorem Run.spares_of_refused {run : Run S} {index time answered : Nat} {command : Command}
    {failure : Failure} (change : command.isChange = true)
    (refused : (run.traffic answered).answer? index = some (command, .failed failure))
    (own : run.IsStepOf index time) : (run.node time).Spares (run.node (time + 1)) :=
  ruled_of_answered (command.followsUnless run.policy change) .refl refused Bool.false_ne_true own

/-- A change that fails, whatever the reason and whatever the state of the node and of
its store, leaves everything as it was. -/
theorem same_of_refused (command : Command) (change : command.isChange = true)
    (node : Node (Link Backend)) (failure : Failure)
    (refused : ((command.program policy).run node).1 = .failed failure) :
    ((command.program policy).run node).2.store.store = node.store.store ∧
      ((command.program policy).run node).2.cache = node.cache ∧
      ((command.program policy).run node).2.shelf = node.shelf ∧
      ((command.program policy).run node).2.pending = node.pending ∧
      ((command.program policy).run node).2.observed = node.observed := by
  have spares := spares_of_refused policy change node refused
  exact ⟨spares.kept, spares.cache, spares.shelf, spares.pending, spares.observed⟩

/-- A node on a database that others have spoiled: the instants of a row cannot be read,
and the row with the number of changes is missing. -/
def Node.onSpoiledTables : Node (Link Backend) :=
  let row : Store.Row := ⟨"did:web:other", 1, "yesterday", "today"⟩
  let tables : Store.Tables := ⟨some (OrderedMap.empty.insert "BPNL00000000000B" row), some none, true⟩
  .start (.up (.tables tables)) ⟨true, 4, 1, none⟩ Store.Request.noon

/-- The batch fails after both of its rows were written. -/
theorem same_of_refused_batch :
    let command : Command :=
      .registerBatch [⟨"BPNL00000000000A", "did:web:first"⟩, ⟨"BPNL00000000000C", "did:web:third"⟩]
    let done := (command.program ⟨10, 10, 10, ⟨1, 0, 0⟩⟩).run Node.onSpoiledTables
    done.1 = .failed (.database Store.DatabaseError.rowMissing.message) ∧
      done.2.store.store = Node.onSpoiledTables.store.store ∧
      done.2.cache = Node.onSpoiledTables.cache ∧ done.2.shelf = Node.onSpoiledTables.shelf ∧
      done.2.pending = Node.onSpoiledTables.pending ∧
      done.2.observed = Node.onSpoiledTables.observed := by
  intro command done
  have refused : done.1 = .failed (.database Store.DatabaseError.rowMissing.message) := by
    decide +kernel
  exact ⟨refused, same_of_refused _ command rfl _ _ refused⟩

end Resolver
end BpnDirectory
