import BpnDirectory.Proofs.Cache.Healing
import BpnDirectory.Proofs.Resolver.Batches

namespace BpnDirectory
namespace Resolver

/-!
Reconciliation.

A key waits for reconciliation if its entry could not be dropped after a change, since its shard
was poisoned.  Reconciliation takes all waiting keys away before it drops anything, so it must
leave none of them unhandled, whatever state their shards are in by then.  Where a shard is still
poisoned, clearing the whole cache makes up for it.
-/

open Store (MappingStore)

variable {S : Type} {node : Node S}

/-! ## What reconciliation comes to -/

theorem isOk_invalidate (cache : Cache) (key : String) :
    (cache.invalidate key).1.isOk = !(cache.shard (cache.shardOf key)).poisoned := by
  cases poisoned : (cache.shard (cache.shardOf key)).poisoned <;>
    simp [Cache.invalidate, poisoned, Except.isOk, Except.toBool]

theorem run_invalidateKeys (whole : node.cache.IsWhole) (keys : List String) :
    (invalidateKeys keys : Operation S Nat).run.run node =
      (.ok (keys.countP fun key => (node.cache.shard (node.cache.shardOf key)).poisoned),
        { node with cache := node.cache.invalidateEach keys }) := by
  induction keys generalizing node with
  | nil => rfl
  | cons key rest ih =>
      have evolves : Cache.Evolves (fun _ _ => False) node.cache (node.cache.invalidate key).2 :=
        Cache.invalidate_evolves key
      have marks : ∀ index, ((node.cache.invalidate key).2.shard index).poisoned =
          (node.cache.shard index).poisoned := by
        intro index
        rw [whole.shard_invalidate]
        split <;> rfl
      have counts : rest.countP (fun other => ((node.invalidate key).2.cache.shard
            ((node.invalidate key).2.cache.shardOf other)).poisoned) =
          rest.countP fun other => (node.cache.shard (node.cache.shardOf other)).poisoned := by
        refine List.countP_congr fun other _ => ?_
        change ((node.cache.invalidate key).2.shard
          ((node.cache.invalidate key).2.shardOf other)).poisoned = true ↔ _
        rw [evolves.shardOf_eq, marks]
      have others := @ih (node.invalidate key).2 (whole.of_evolves evolves)
      rw [counts] at others
      rw [invalidateKeys, Operation.run_act_bind, Program.run_except_bind, others]
      refine Prod.ext ?_ rfl
      change Except.ok (if (node.cache.invalidate key).1.isOk = true then _ else _) = _
      rw [isOk_invalidate, List.countP_cons]
      cases (node.cache.shard (node.cache.shardOf key)).poisoned <;> rfl

theorem run_clearShards (indices : List Nat) (node : Node S) :
    (clearShards indices : Operation S Unit).run.run node =
      (.ok (), { node with cache := indices.foldl Cache.clearShard node.cache }) := by
  induction indices generalizing node with
  | nil => rfl
  | cons index rest ih => exact ih { node with cache := node.cache.clearShard index }

theorem run_clearCache (node : Node S) :
    (clearCache : Operation S Unit).run.run node =
      (.ok (), { node with cache := node.cache.invalidateAll }) := by
  rw [clearCache, Operation.run_act_bind, Program.run_except_bind, run_clearShards]
  rfl

/-- Keys are handled and the dump is dropped, whether or not the whole cache has to be cleared. -/
theorem run_handle (whole : node.cache.IsWhole) (keys : List String) :
    (do
      let failed ← invalidateKeys keys
      if failed > 0 then clearCache
      Operation.change Node.dropDump
      pure keys.length : Operation S Nat).run.run node =
      (.ok keys.length,
        { node with cache := node.cache.heal keys, shelf := node.shelf.invalidate }) := by
  rw [Program.run_except_bind, run_invalidateKeys whole]
  dsimp only
  have failed : (keys.countP fun key => (node.cache.shard (node.cache.shardOf key)).poisoned) > 0 ↔
      (keys.any fun key => (node.cache.shard (node.cache.shardOf key)).poisoned) = true := by
    rw [gt_iff_lt, List.countP_pos_iff, List.any_eq_true]
  simp only [failed, Cache.heal]
  split
  case isTrue =>
    rw [Program.run_except_bind, run_clearCache]
    rfl
  case isFalse => rfl

/-- All waiting keys are handled, and the dump is dropped if there were any. -/
theorem run_reconcile (whole : node.cache.IsWhole) :
    (reconcile : Operation S Nat).run.run node =
      (.ok node.pending.length,
        if node.pending = [] then node
        else { node with
          pending := [], cache := node.cache.heal node.pending, shelf := node.shelf.invalidate }) := by
  rw [reconcile, Operation.run_act_bind]
  by_cases idle : node.pending = []
  · rcases node with ⟨_, _, _, pending⟩
    cases idle
    rfl
  · rw [if_neg idle, takePending, if_neg (by simpa using idle)]
    exact @run_handle S { node with pending := [] } whole node.pending

/-! ## What every step keeps -/

section

variable [MappingStore S] {before after : Node S}

/-- Whether a step lets the cache evolve, whatever it puts in, and lets no key wait twice. -/
structure Node.StepsTo (before after : Node S) : Prop where
  cache : Cache.Evolves (fun _ _ => True) before.cache after.cache
  distinct : before.pending.Nodup → after.pending.Nodup

omit [MappingStore S] in
theorem Node.StepsTo.of_same (cache : after.cache = before.cache)
    (pending : after.pending = before.pending) : before.StepsTo after :=
  ⟨cache ▸ .refl _, fun distinct => pending ▸ distinct⟩

theorem Node.Does.stepsTo {Asks : Store.Request → Prop} {command : Command}
    (does : before.Does Asks command.Also after) : before.StepsTo after := by
  cases does with
  | queues distinct => exact ⟨.refl _, distinct⟩
  | keeps evolves => exact ⟨evolves.mono fun _ _ _ => trivial, id⟩
  | does also =>
      cases command with
      | resolve | resolveBatch =>
          rcases also with ⟨key, did, ticket, rfl⟩
          exact ⟨Cache.populate_evolves fun _ => trivial, id⟩
      | register | rotate | remove | registerBatch =>
          rcases also with ⟨version, rfl⟩
          unfold Node.followCommit
          split <;> exact .of_same rfl rfl
      | dump =>
          rcases also with ⟨generation, dump, rfl⟩
          exact .of_same rfl rfl
      | poll =>
          rcases also with ⟨version, rfl⟩
          exact .of_same rfl rfl
      | _ => exact also.elim
  | _ => exact .of_same rfl rfl

namespace Run

variable {run : Run S} {earlier time : Nat}

theorem stepsTo_succ (run : Run S) (time : Nat) :
    (run.node time).StepsTo (run.node (time + 1)) := by
  have next := run.traffic_succ time
  have same : ∀ {traffic : Traffic S}, run.traffic (time + 1) = traffic →
      run.node (time + 1) = traffic.node := congrArg Traffic.node
  cases moved : run.moves[time]? with
  | none =>
      rw [moved] at next
      rw [same next]
      exact .of_same rfl rfl
  | some move =>
      rw [moved] at next
      rw [same next]
      cases move with
      | start | pass | foreign => exact .of_same rfl rfl
      | crash key => exact ⟨Cache.poison_evolves key, id⟩
      | advance index =>
          simp only [Traffic.move]
          split
          case h_2 => exact .of_same rfl rfl
          case h_1 task listed =>
            rcases becomes_of_listed listed with ⟨begun, _, _, became⟩
            have follows := (task.command.follows run.policy).becomes became
            cases program : task.program with
            | done answer => exact .of_same rfl rfl
            | step reach act rest =>
                rw [program] at follows
                exact (follows (run.node time)).1.stepsTo

theorem isWhole (run : Run S) (time : Nat) : (run.node time).cache.IsWhole := by
  induction time with
  | zero => exact Cache.size_new run.settings
  | succ time ih => exact ih.of_evolves (run.stepsTo_succ time).cache

/-- No key waits twice for reconciliation. -/
theorem nodup_pending (run : Run S) (time : Nat) : (run.node time).pending.Nodup := by
  induction time with
  | zero => exact List.nodup_nil
  | succ time ih => exact (run.stepsTo_succ time).distinct ih

theorem generation_mono (run : Run S) (before : earlier ≤ time) (index : Nat) :
    ((run.node earlier).cache.shard index).generation ≤
      ((run.node time).cache.shard index).generation := by
  induction before with
  | refl => exact Nat.le_refl _
  | step _ ih => exact Nat.le_trans ih ((run.stepsTo_succ _).cache.shards index).grown

end Run

end

/-! ## What reconciliation mends -/

/-- Whether a look-up of a key by some time handed out a ticket, or would have. -/
def Run.Issued [MappingStore S] (run : Run S) (time : Nat) (ticket : Cache.Ticket) : Prop :=
  ∃ earlier ≤ time, ∃ now key, ((run.node earlier).cache.lookup now key).1 = .miss ticket

/-- A ticket names no generation that its shard has not reached yet. -/
theorem Run.generation_le_of_issued [MappingStore S] {run : Run S} {time : Nat}
    {ticket : Cache.Ticket} (issued : run.Issued time ticket) (generation : Nat)
    (named : ticket.generation = some generation) :
    generation ≤ ((run.node time).cache.shard ticket.shard).generation := by
  rcases issued with ⟨earlier, before, now, key, missed⟩
  have ⟨beside, present⟩ := Cache.ticket_of_miss missed
  rw [present generation named, ← beside]
  exact run.generation_mono before ticket.shard

/-- Reconciliation succeeds in every state that a node can reach, whichever keys wait and in
whatever order, and leaves none of them unhandled. -/
theorem reconcile_mends [MappingStore S] (run : Run S) (time : Nat) :
    (run.node time).pending.Nodup ∧ ∀ waiting : List String,
      let node := { run.node time with pending := waiting }
      let ended := (reconcile : Operation S Nat).run.run node
      ended.1 = .ok waiting.length ∧ ended.2.pending = [] ∧
        (∀ key ∈ waiting, ended.2.cache.IsMended (run.Issued time) key) ∧
        (waiting ≠ [] → ended.2.shelf.kept = none) ∧
        ((∀ key ∈ waiting, (node.cache.shard (node.cache.shardOf key)).poisoned = false) →
          ∀ entry, node.cache.Holds entry → entry.key ∉ waiting → ended.2.cache.Holds entry) := by
  refine ⟨run.nodup_pending time, fun waiting => ?_⟩
  have whole : ({ run.node time with pending := waiting } : Node S).cache.IsWhole :=
    run.isWhole time
  dsimp only
  rw [run_reconcile whole]
  dsimp only
  refine ⟨rfl, ?_, fun key member => ?_, fun waits => ?_, fun usable entry holds other => ?_⟩
  · split
    case isTrue idle => exact idle
    case isFalse => rfl
  · rw [if_neg (List.ne_nil_of_mem member)]
    exact (run.isWhole time).isMended_heal member fun _ => Run.generation_le_of_issued
  · rw [if_neg waits]
    rfl
  · split
    case isTrue => exact holds
    case isFalse => exact (run.isWhole time).holds_heal usable holds other

/-- A run in which a BPN is registered and resolved; then a task crashes in its shard, and the BPN
is rotated. -/
def Run.stuck : Run Store.Memory where
  policy := ⟨10, 10, 10, ⟨1, 0, 0⟩⟩
  settings := ⟨true, 4, 1, none⟩
  store := .empty
  now := Store.Request.noon
  moves :=
    .start (.register "BPNL00000000000A" "did:web:first") :: List.replicate 5 (.advance 0) ++
    .start (.resolve "BPNL00000000000A") :: List.replicate 4 (.advance 1) ++
    .crash "BPNL00000000000A" ::
    .start (.rotate "BPNL00000000000A" "did:web:second" 1) :: List.replicate 7 (.advance 2)

theorem stuck_holds : (Run.stuck.node 11).cache.Holds ⟨"BPNL00000000000A", "did:web:first", 0⟩ := by
  unfold Cache.Holds
  decide +kernel

theorem stuck_mends :
    (Run.stuck.node 20).pending = ["BPNL00000000000A"] ∧
      ((Run.stuck.node 20).cache.shard 0).poisoned = true ∧
      (let ended := (reconcile : Operation Store.Memory Nat).run.run
        { Run.stuck.node 20 with pending := ["BPNL00000000000A"] }
      ended.1 = .ok 1 ∧ ended.2.cache.IsMended (Run.stuck.Issued 20) "BPNL00000000000A" ∧
        ended.2.shelf.kept = none) ∧
      ((reconcile : Operation Store.Memory Nat).run.run
        { Run.stuck.node 11 with pending := ["BPNL00000000000B"] }).2.cache.Holds
          ⟨"BPNL00000000000A", "did:web:first", 0⟩ := by
  have ⟨_, mends⟩ := reconcile_mends Run.stuck 20
  have ⟨done, _, mended, dumpless, _⟩ := mends ["BPNL00000000000A"]
  have ⟨_, others⟩ := reconcile_mends Run.stuck 11
  have ⟨_, _, _, _, keeps⟩ := others ["BPNL00000000000B"]
  refine ⟨by decide +kernel, by decide +kernel, ⟨done, mended _ List.mem_cons_self, ?_⟩, ?_⟩
  · exact dumpless (List.cons_ne_nil _ _)
  · refine keeps ?_ _ stuck_holds (by decide)
    decide +kernel

end Resolver
end BpnDirectory
