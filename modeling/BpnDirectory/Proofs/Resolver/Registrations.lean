import BpnDirectory.Proofs.Resolver.Outcomes
import BpnDirectory.Proofs.Resolver.Retries
import BpnDirectory.Proofs.Store.OneByOne

namespace BpnDirectory
namespace Resolver

/-!
Registrations in a batch and one by one.

Both ways check the same mappings and create the same records.  They part where a database
has almost used up the numbers of its directory version: a batch needs one of them, however
long it is, and one by one every record needs one.
-/

open Operation (ComesTo)
open Store (Backend LawfulStore MappingStore SteadyStore)

variable {S : Type} {policy : Policy} {batch : List NewMapping}

/-- Creates records one after the other, until one of them cannot be created. -/
def registerEach [MappingStore S] (policy : Policy) : List NewMapping → Operation S (List Record)
  | [] => pure []
  | mapping :: rest => do
    let record ← register policy mapping.bpn mapping.did
    let records ← registerEach policy rest
    pure (record :: records)

/-! ## Keys that a node forgot -/

/-- Whether a node can find nothing in its cache about a key. -/
def Node.HasForgotten (node : Node S) (key : String) : Prop := ∀ said, ¬ Cached node key said

theorem Node.HasForgotten.of_cache {node other : Node S} {key : String}
    (forgotten : node.HasForgotten key) (same : other.cache = node.cache) :
    other.HasForgotten key := by
  intro said found
  refine forgotten said ?_
  unfold Cached at found ⊢
  rwa [same] at found

/-- A node that forgets keys has forgotten them, and what it had forgotten before. -/
theorem run_forgetAll (keys : List String) (node : Node S) :
    ∃ after, (forgetAll keys : Operation S Unit).run.run node = (.ok (), after) ∧
      ∀ key, key ∈ keys ∨ node.HasForgotten key → after.HasForgotten key := by
  induction keys generalizing node with
  | nil => exact ⟨node, rfl, fun key forgotten => forgotten.resolve_left List.not_mem_nil⟩
  | cons head rest ih =>
      rcases Operation.run_forget head node with ⟨between, forgot, _, same⟩
      rcases ih between with ⟨after, others, forgotten⟩
      refine ⟨after, ?_, ?_⟩
      · rw [forgetAll, Program.run_except_bind, forgot]
        exact others
      · intro key due
        apply forgotten
        rcases due with listed | before
        · rcases List.mem_cons.mp listed with rfl | later
          · exact Or.inr (Node.HasForgotten.of_cache (not_cached_invalidate node key) same)
          · exact Or.inl later
        · right
          have still : (node.invalidate head).2.HasForgotten key :=
            fun said found => before said (cached_of_invalidate found)
          exact Node.HasForgotten.of_cache still same

/-- What is done after a batch was committed makes the node forget its BPNs. -/
theorem hasForgotten_of_finishBatch (committed : Committed (List Record)) (node : Node S) :
    ∀ record ∈ committed.value,
      ((do
        forgetAll (committed.value.map Record.bpn)
        Operation.change (Node.followCommit committed.directoryVersion)
        pure committed.value : Operation S (List Record)).run.run node).2.HasForgotten record.bpn := by
  rcases run_forgetAll (committed.value.map Record.bpn) node with ⟨after, forgot, forgotten⟩
  rw [Program.run_except_bind, forgot]
  intro record member
  have named : record.bpn ∈ committed.value.map Record.bpn := List.mem_map_of_mem member
  exact (forgotten _ (Or.inl named)).of_cache
    (cache_followCommit committed.directoryVersion after)

/-- Once a batch is registered, nothing is found in the cache about its BPNs. -/
theorem hasForgotten_of_registerBatch [MappingStore S] [LawfulStore S] [SteadyStore S]
    {node : Node S} {records : List Record}
    (done : ((registerBatch policy batch).run.run node).1 = .ok records) :
    ∀ mapping ∈ batch, ((registerBatch policy batch).run.run node).2.HasForgotten mapping.bpn := by
  cases passed : checkBatch policy batch with
  | error failure =>
      rw [registerBatch, passed] at done
      cases done
  | ok _ =>
      have asked : ComesTo (request policy "put_batch" fun now => MappingStore.putBatch now batch)
          node (MappingStore.putBatch node.now batch node.store).1 _ :=
        Operation.comesTo_request policy "put_batch" (kept_of_putBatch node.store)
      rw [registerBatch, passed] at done ⊢
      change ((request policy "put_batch" _ >>= _ : Operation S _).run.run node).1 = _ at done
      change ∀ mapping ∈ batch,
        ((request policy "put_batch" _ >>= _ : Operation S _).run.run node).2.HasForgotten _
      rw [Program.run_except_bind, asked.ends] at done ⊢
      cases put : (MappingStore.putBatch node.now batch node.store).1 with
      | error failure =>
          rw [put] at done
          cases done
      | ok committed =>
          intro mapping member
          have named : mapping.bpn ∈ committed.value.map Record.bpn := by
            rw [LawfulStore.putBatch_bpns put]
            exact List.mem_map_of_mem member
          rcases List.mem_map.mp named with ⟨record, made, same⟩
          rw [← same]
          exact hasForgotten_of_finishBatch committed _ record made

/-- A registration takes no notice of how the wall clock goes on. -/
theorem now_register [MappingStore S] (policy : Policy) (bpn did : String) (node : Node S) :
    ((register policy bpn did).run.run node).2.now = node.now := by
  have follows := (Command.follows_now (S := S) policy (.register bpn did)).run (fun _ => rfl)
    (fun first second => second.trans first) node
  rw [Command.program, Command.answered, Program.run_bind] at follows
  exact follows

/-! ## One by one -/

theorem put_of_refused {bpn did : String} {failure : Failure}
    (refused : Store.requireMapping bpn did = .error failure) (now : Time.Instant) (store : Backend) :
    MappingStore.put now bpn did none store = (.error failure, store) := by
  cases store with
  | memory kept =>
      change Backend.call (Store.Memory.put now bpn did none) _ (.memory kept) = _
      simp only [Backend.call, Store.Memory.put, Store.transaction, refused, error_bind]
  | tables base =>
      change Backend.call _ (Store.Tables.put now bpn did none) (.tables base) = _
      simp only [Backend.call, Store.Tables.put, Store.transaction, refused, error_bind]

theorem run_register_of_refused [MappingStore S] {bpn did : String} {failure : Failure}
    (refused : Store.requireMapping bpn did = .error failure) (policy : Policy) (node : Node S) :
    (register policy bpn did).run.run node = (.error failure, node) := by
  unfold Store.requireMapping at refused
  unfold register
  cases named : requireBpn bpn with
  | error other =>
      rw [named] at refused
      cases refused
      rfl
  | ok _ =>
      rw [named] at refused
      cases shown : requireDid did with
      | error other =>
          rw [shown] at refused
          cases refused
          rfl
      | ok _ =>
          rw [shown] at refused
          cases refused

/-- A registration by itself comes to what the store makes of it, whatever is registered. -/
theorem comesTo_register_any (policy : Policy) (bpn did : String) (node : Node Backend) :
    ComesTo (register policy bpn did) node
      ((MappingStore.put node.now bpn did none node.store).1.map Committed.value)
      (MappingStore.put node.now bpn did none node.store).2 := by
  cases checked : Store.requireMapping bpn did with
  | ok _ =>
      rcases Store.requireMapping_eq_ok_iff.mp checked with ⟨validBpn, validDid⟩
      exact comesTo_register policy validBpn validDid node
  | error failure =>
      rw [put_of_refused checked]
      refine ⟨?_, ?_, ?_⟩
      all_goals rw [run_register_of_refused checked]
      · rfl
      · exact fun _ _ => ⟨node.ledger, rfl⟩

/-- Registrations one after the other come to what the store makes of them one after the
other. -/
theorem run_registerEach (policy : Policy) (batch : List NewMapping) (node : Node Backend) :
    ((registerEach policy batch).run.run node).1.map
        (fun records => (records, ((registerEach policy batch).run.run node).2.store)) =
      Store.putEach node.now batch node.store := by
  induction batch generalizing node with
  | nil => rfl
  | cons mapping rest ih =>
      have comes := comesTo_register_any policy mapping.bpn mapping.did node
      rw [registerEach, Program.run_except_bind, comes.ends, Store.putEach]
      cases put : MappingStore.put node.now mapping.bpn mapping.did none node.store with
      | mk outcome after =>
          cases outcome with
          | error failure => rfl
          | ok committed =>
              have others := ih ((register policy mapping.bpn mapping.did).run.run node).2
              rw [now_register, comes.leaves, put] at others
              dsimp only [Except.map]
              rw [Program.run_except_bind, ← others]
              cases (registerEach policy rest).run.run
                ((register policy mapping.bpn mapping.did).run.run node).2 with
              | mk told last => cases told <;> rfl

theorem registerEach_isOk_iff (policy : Policy) (batch : List NewMapping) (node : Node Backend) :
    (∃ records, ((registerEach policy batch).run.run node).1 = .ok records) ↔
      ∃ records after, Store.putEach node.now batch node.store = .ok (records, after) := by
  rw [← exists_map_eq_ok_iff
    (f := fun records => (records, ((registerEach policy batch).run.run node).2.store)),
    run_registerEach, Prod.exists]

/-! ## In a batch -/

theorem putBatch_of_refused {failure : Failure} (refused : Store.requireBatch batch = .error failure)
    (now : Time.Instant) (store : Backend) :
    MappingStore.putBatch now batch store = (.error failure, store) := by
  cases store with
  | memory kept =>
      change Backend.call (Store.Memory.putBatch now batch) _ (.memory kept) = _
      simp only [Backend.call, Store.Memory.putBatch, Store.transaction, refused, error_bind]
  | tables base =>
      change Backend.call _ (Store.Tables.putBatch now batch) (.tables base) = _
      simp only [Backend.call, Store.Tables.putBatch, Store.transaction, refused, error_bind]

/-- A batch that is neither empty nor too long comes to what the store makes of it. -/
theorem run_registerBatch (filled : batch ≠ []) (fits : batch.length ≤ policy.batchLimit)
    (node : Node Backend) :
    ((registerBatch policy batch).run.run node).1.map
        (fun records => (records, ((registerBatch policy batch).run.run node).2.store)) =
      (MappingStore.putBatch node.now batch node.store).1.map fun committed =>
        (committed.value, (MappingStore.putBatch node.now batch node.store).2) := by
  have checks : checkBatch policy batch =
      batch.forM fun mapping => Store.requireMapping mapping.bpn mapping.did := by
    rw [checkBatch, if_neg (by simpa using filled), if_neg (Nat.not_lt.mpr fits)]
  cases checked : batch.forM fun mapping => Store.requireMapping mapping.bpn mapping.did with
  | error failure =>
      have refused : Store.requireBatch batch = .error failure := by
        rw [Store.requireBatch, checked]
        rfl
      rw [putBatch_of_refused refused, registerBatch, checks, checked]
      rfl
  | ok _ =>
      have comes := comesTo_registerBatch (checks.trans checked) node
      rw [comes.ends, comes.leaves]
      cases (MappingStore.putBatch node.now batch node.store).1 <;> rfl

theorem registerBatch_isOk_iff (filled : batch ≠ []) (fits : batch.length ≤ policy.batchLimit)
    (node : Node Backend) :
    (∃ records, ((registerBatch policy batch).run.run node).1 = .ok records) ↔
      ∃ committed after, MappingStore.putBatch node.now batch node.store = (.ok committed, after) := by
  rw [← exists_map_eq_ok_iff
    (f := fun records => (records, ((registerBatch policy batch).run.run node).2.store)),
    run_registerBatch filled fits node, exists_map_eq_ok_iff]
  constructor
  · rintro ⟨committed, put⟩
    exact ⟨committed, _, Prod.ext put rfl⟩
  · rintro ⟨committed, _, put⟩
    exact ⟨committed, congrArg Prod.fst put⟩

/-- A node on a database that can count one more change. -/
def Node.worn : Node Backend :=
  .start (.tables { Store.Tables.migrated with metadata := some (some (Text.maxSigned64 - 1)) })
    ⟨true, 4, 1, none⟩ Store.Request.noon

def Node.inUse : Node Backend :=
  .start (.tables { Store.Tables.migrated with metadata := some (some 7) }) ⟨true, 4, 1, none⟩
    Store.Request.noon

def twoMappings : List NewMapping :=
  [⟨"BPNL00000000000A", "did:web:first"⟩, ⟨"BPNL00000000000B", "did:web:second"⟩]

end Resolver
end BpnDirectory
