import BpnDirectory.Proofs.Cache.Evolution
import BpnDirectory.Proofs.Process.Course
import BpnDirectory.Proofs.Store.Lawful
import BpnDirectory.Resolver.Reads
import BpnDirectory.Resolver.Upkeep
import BpnDirectory.Resolver.Writes

namespace BpnDirectory
namespace Resolver

/-!
The conduct of a node's calls among each other.

A step of a node is fair if its cache evolves as caches do and its store changes at
most by one call.  An entry may be put into a shard only if its DID was held for its
BPN at a time since which the shard was not invalidated.  Every call upholds this,
whatever comes between its steps; for each there is a statement of what it saw or
did by the time it is done.
-/

open Cache (Entry Lookup Ticket)
open Store (Call Held LawfulStore MappingStore)

variable {S α β : Type}

def Node.generation (node : Node S) (index : Nat) : Nat :=
  (node.cache.shard index).generation

variable [MappingStore S]

/-- How a node may change in one step, if only certain entries may be put into each
shard. -/
structure Node.Evolves (May : Nat → Entry → Prop) (before after : Node S) : Prop where
  cache : Cache.Evolves May before.cache after.cache
  store : after.store = before.store ∨
    ∃ request : Store.Request, after.store = (request.perform before.store).2

/-- A change that puts no entry into the cache. -/
def Node.Plain : Node S → Node S → Prop := Node.Evolves fun _ _ => False

theorem Node.Plain.of_cache {before after : Node S}
    (cache : Cache.Evolves (fun _ _ => False) before.cache after.cache)
    (store : after.store = before.store) : before.Plain after :=
  ⟨cache, Or.inl store⟩

theorem Node.Plain.of_same {before after : Node S} (cache : after.cache = before.cache)
    (store : after.store = before.store) : before.Plain after :=
  .of_cache (cache ▸ .refl _) store

variable [LawfulStore S]

/-- The DID that the store of a node holds for a BPN. -/
def Node.heldDid (node : Node S) (bpn : String) : Option String :=
  (LawfulStore.held node.store bpn).map Held.did

/-- Whether a node has all the shards that it needs and a sound store. -/
structure Node.IsFit (node : Node S) : Prop where
  size : node.cache.shards.size = node.cache.settings.shardCount
  sound : LawfulStore.IsSound node.store

/-- The entries that may be put into a shard at a time: their DID was held since the
latest invalidation of the shard. -/
def MayEnter (state : Nat → Node S) (time index : Nat) (entry : Entry) : Prop :=
  ∃ seen ≤ time, (state seen).generation index = (state time).generation index ∧
    (state seen).heldDid entry.key = some entry.did

/-- The course of events on a node, with the steps of one call. -/
def course (state : Nat → Node S) (IsOwn : Nat → Prop) : Course (Node S) where
  state := state
  IsFair time := Node.Evolves (MayEnter state time) (state time) (state (time + 1))
  IsOwn := IsOwn

variable {state : Nat → Node S} {IsOwn : Nat → Prop} {time earlier : Nat}

/-! ## What fair steps keep -/

theorem settings_eq (fair : (course state IsOwn).IsFairUntil time) (before : earlier ≤ time) :
    (state time).cache.settings = (state earlier).cache.settings := by
  refine fair.carry (fun time => (state time).cache.settings = _) before rfl ?_
  intro step _ past same
  exact (past step (Nat.lt_succ_self step)).cache.settings.trans same

theorem shardOf_eq (fair : (course state IsOwn).IsFairUntil time) (before : earlier ≤ time)
    (key : String) : (state time).cache.shardOf key = (state earlier).cache.shardOf key := by
  unfold Cache.shardOf
  rw [settings_eq fair before]

theorem generation_le (fair : (course state IsOwn).IsFairUntil time) (before : earlier ≤ time)
    (index : Nat) : (state earlier).generation index ≤ (state time).generation index := by
  refine fair.carry (fun time => _ ≤ (state time).generation index) before (Nat.le_refl _) ?_
  intro step _ past grown
  exact Nat.le_trans grown ((past step (Nat.lt_succ_self step)).cache.shards index).grown

theorem isFit (fit : (state 0).IsFit) (fair : (course state IsOwn).IsFairUntil time) :
    (state time).IsFit := by
  refine fair.carry (fun time => (state time).IsFit) (Nat.zero_le time) fit ?_
  intro step _ past was
  have last := past step (Nat.lt_succ_self step)
  refine ⟨?_, ?_⟩
  · rw [last.cache.size, last.cache.settings]
    exact was.size
  · rcases last.store with same | ⟨request, performed⟩
    · exact same ▸ was.sound
    · exact performed ▸ LawfulStore.sound_perform request was.sound

/-- Whether nothing that was superseded before a time can be found in the cache for a
BPN: its shard is unusable, or every entry of the BPN was held later than that. -/
def Settled (state : Nat → Node S) (bpn : String) (since time : Nat) : Prop :=
  let index := (state time).cache.shardOf bpn
  let shard := (state time).cache.shard index
  shard.poisoned = true ∨
    (state since).generation index < shard.generation ∧
      ∀ entry ∈ shard.entries, entry.key = bpn →
        ∃ seen, since < seen ∧ seen ≤ time ∧ (state seen).heldDid bpn = some entry.did

/-- What is settled stays so.  A poisoned shard comes back empty, and an entry that
is put in later was held at the present generation, which is newer than the time
from which on everything is settled. -/
theorem Settled.succ {bpn : String} {since : Nat}
    (fair : (course state IsOwn).IsFairUntil (time + 1)) (before : since ≤ time)
    (settled : Settled state bpn since time) : Settled state bpn since (time + 1) := by
  have past := fair.mono (Nat.le_succ time)
  have evolves := (fair time (Nat.lt_succ_self time)).cache.shards ((state time).cache.shardOf bpn)
  have grown := generation_le past before ((state time).cache.shardOf bpn)
  unfold Settled at settled ⊢
  rw [shardOf_eq fair (Nat.le_succ time)]
  dsimp only at settled ⊢
  cases after : ((state (time + 1)).cache.shard ((state time).cache.shardOf bpn)).poisoned with
  | true => exact Or.inl rfl
  | false =>
      right
      cases was : ((state time).cache.shard ((state time).cache.shardOf bpn)).poisoned with
      | true =>
          rcases evolves.healed was after with ⟨cleared, newer⟩
          refine ⟨Nat.lt_of_le_of_lt grown newer, ?_⟩
          rw [cleared]
          intro entry member
          cases member
      | false =>
          rw [was] at settled
          rcases settled.resolve_left nofun with ⟨newer, held⟩
          refine ⟨Nat.lt_of_lt_of_le newer evolves.grown, ?_⟩
          intro entry member same
          rcases evolves.kept was after entry member with old | ⟨⟨seen, until_, level, shown⟩, _⟩
          · rcases held entry old same with ⟨seen, later, until_, shown⟩
            exact ⟨seen, later, Nat.le_succ_of_le until_, shown⟩
          · refine ⟨seen, ?_, Nat.le_succ_of_le until_, same ▸ shown⟩
            -- An earlier time would have had an older generation.
            apply Nat.lt_of_not_le
            intro notLater
            have older := generation_le (past.mono before) notLater
              ((state time).cache.shardOf bpn)
            rw [level] at older
            exact Nat.lt_irrefl _ (Nat.lt_of_lt_of_le newer older)

theorem Settled.carry {bpn : String} {since : Nat}
    (fair : (course state IsOwn).IsFairUntil time) (before : earlier ≤ time)
    (after : since ≤ earlier) (settled : Settled state bpn since earlier) :
    Settled state bpn since time := by
  refine fair.carry (Settled state bpn since) before settled ?_
  intro step from_ past held
  exact held.succ past (Nat.le_trans after from_)

end Resolver
end BpnDirectory
