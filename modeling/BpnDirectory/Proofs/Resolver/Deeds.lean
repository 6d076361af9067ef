import BpnDirectory.Proofs.Cache.Evolution
import BpnDirectory.Proofs.Process.Course
import BpnDirectory.Proofs.Store.Exchange
import BpnDirectory.Resolver.Reads
import BpnDirectory.Resolver.Upkeep
import BpnDirectory.Resolver.Writes

namespace BpnDirectory
namespace Resolver

/-!
What the steps of a node's operations do.

Every operation is known by the requests that it makes of the store and by the one
thing, if any, that it does besides what all of them do: a resolution puts DIDs in, a
dump is put on its shelf, a poll sets the version that the node knows, and a change
follows its own commit.  What holds of all such deeds holds of every step.
-/

open Program (Follows)
open Store (Call MappingStore Request)

variable {S α β : Type}

/-! ## Parts of operations -/

namespace Operation

variable {Rule : Node S → Node S → Prop}

theorem follows_bind {operation : Operation S α} {rest : α → Operation S β}
    (first : Follows Rule operation.run) (second : ∀ value, Follows Rule (rest value).run) :
    Follows Rule (operation >>= rest).run :=
  Follows.except_bind first second

theorem follows_change {f : Node S → Node S} (rule : ∀ node, Rule node (f node)) :
    Follows Rule (change f).run :=
  fun node => ⟨rule node, trivial⟩

theorem follows_act {f : Node S → α × Node S} (rule : ∀ node, Rule node (f node).2) :
    Follows Rule (act f).run :=
  fun node => ⟨rule node, trivial⟩

/-- A check takes no step. -/
theorem follows_check {outcome : Except Failure α} {rest : α → Operation S β}
    (passed : ∀ value, outcome = .ok value → Follows Rule (rest value).run) :
    Follows Rule (check outcome >>= rest).run := by
  cases outcome with
  | ok value => exact passed value rfl
  | error failure => trivial

end Operation

variable [MappingStore S]

/-- What a step may do to a node, given the requests that may be made of the store and
what else may be done. -/
inductive Node.Does (Asks : Request → Prop) (Also : Node S → Node S → Prop) (node : Node S) :
    Node S → Prop
  | looks : Does Asks Also node node
  /-- The number of requests that are under way is not counted here. -/
  | counts {ledger : Telemetry.Ledger} (active : ledger.activeRequests = node.ledger.activeRequests) :
      Does Asks Also node { node with ledger }
  | queues {pending : List String} (distinct : node.pending.Nodup → pending.Nodup) :
      Does Asks Also node { node with pending }
  | numbers (builds : Nat) : Does Asks Also node { node with builds }
  | keeps {cache : Cache} (evolves : Cache.Evolves (fun _ _ => False) node.cache cache) :
      Does Asks Also node { node with cache }
  | drops : Does Asks Also node node.dropDump
  | asks {request : Request} (asked : Asks request) :
      Does Asks Also node { node with store := (request.perform node.store).2 }
  | does {after : Node S} (also : Also node after) : Does Asks Also node after

/-- Whether a call on a store is one of certain requests. -/
def IsCallOf (Asks : Request → Prop) (call : Time.Instant → Call S α) : Prop :=
  ∀ now store, ∃ request : Request, Asks request ∧ (call now store).2 = (request.perform store).2

variable {Asks : Request → Prop} {Also : Node S → Node S → Prop}

theorem does_invalidate (key : String) (node : Node S) :
    node.Does Asks Also (node.invalidate key).2 :=
  .keeps (Cache.invalidate_evolves key)

/-- A key that waits already is not added again. -/
theorem does_addPending (key : String) (node : Node S) :
    node.Does Asks Also (node.addPending key) := by
  refine .queues fun distinct => ?_
  split
  · exact distinct
  case isFalse new =>
    refine List.nodup_append.mpr ⟨distinct, List.pairwise_singleton _ key, ?_⟩
    intro waiting member added same
    rw [List.mem_singleton.mp same]
    rintro rfl
    exact new member

theorem does_lookup (key : String) (node : Node S) : node.Does Asks Also (node.lookup key).2 :=
  .keeps (Cache.lookup_evolves node.ticks key)

theorem does_callStore {call : Time.Instant → Call S α} (isCall : IsCallOf Asks call)
    (now : Time.Instant) (node : Node S) : node.Does Asks Also (node.callStore (call now)).2 := by
  rcases isCall now node.store with ⟨request, asked, same⟩
  have asks : node.Does Asks Also { node with store := (request.perform node.store).2 } :=
    .asks asked
  rw [← same] at asks
  exact asks

/-! ## Calls on the store -/

section

variable {Rule : Node S → Node S → Prop} {call : Time.Instant → Call S α}

omit [MappingStore S] in
theorem follows_attempt (calls : ∀ node : Node S, Rule node (node.callStore (call node.now)).2)
    (counts : ∀ (node : Node S) (event : Telemetry.Event), Rule node (node.record event))
    (operation : String) : Follows Rule (attempt operation call) :=
  fun node => ⟨calls node, fun _ => ⟨counts _ _, trivial⟩⟩

omit [MappingStore S] in
/-- A call that is tried again follows every rule that its attempts follow. -/
theorem follows_retrying (calls : ∀ node : Node S, Rule node (node.callStore (call node.now)).2)
    (counts : ∀ (node : Node S) (event : Telemetry.Event), Rule node (node.record event))
    (operation : String) (retries : Nat) : Follows Rule (retrying operation call retries) := by
  induction retries with
  | zero => exact follows_attempt calls counts operation
  | succ retries ih =>
      refine (follows_attempt calls counts operation).bind ?_
      intro outcome
      split
      · exact fun _ => ⟨counts _ _, ih⟩
      · trivial

end

theorem follows_request {call : Time.Instant → Call S α} (isCall : IsCallOf Asks call)
    (policy : Policy) (operation : String) :
    Follows (Node.Does Asks Also) (request policy operation call).run :=
  follows_retrying (fun node => does_callStore isCall node.now node) (fun _ _ => .counts rfl)
    operation policy.retry.attempts

theorem follows_check_request {call : Time.Instant → Call S α} (isCall : IsCallOf Asks call)
    (outcome : Except Failure β) (policy : Policy) (operation : String) :
    Follows (Node.Does Asks Also)
      (do let _ ← Operation.check outcome; request policy operation call : Operation S α).run :=
  Operation.follows_check fun _ _ => follows_request isCall policy operation

/-! ## Upkeep -/

theorem follows_clearShards (indices : List Nat) :
    Follows (Node.Does Asks Also) (clearShards indices : Operation S Unit).run := by
  induction indices with
  | nil => trivial
  | cons index rest ih =>
      refine Operation.follows_bind (Operation.follows_change fun node => ?_) fun _ => ih
      exact .keeps (Cache.clearShard_evolves index)

theorem follows_clearCache :
    Follows (Node.Does Asks Also) (clearCache : Operation S Unit).run := by
  refine Operation.follows_bind (Operation.follows_act fun _ => .looks) fun count => ?_
  refine Operation.follows_bind (follows_clearShards _) fun _ => ?_
  exact Operation.follows_change fun _ => .keeps (.of_same rfl rfl)

theorem follows_invalidateKeys (keys : List String) :
    Follows (Node.Does Asks Also) (invalidateKeys keys : Operation S Nat).run := by
  induction keys with
  | nil => trivial
  | cons key rest ih =>
      refine Operation.follows_bind (Operation.follows_act (does_invalidate key)) fun outcome => ?_
      exact Operation.follows_bind ih fun failed => trivial

theorem follows_dropDump : Follows (Node.Does Asks Also) (Operation.change Node.dropDump).run :=
  Operation.follows_change fun _ => .drops

theorem follows_reconcile : Follows (Node.Does Asks Also) (reconcile : Operation S Nat).run := by
  refine Operation.follows_bind (Operation.follows_act fun _ => .queues fun _ => List.nodup_nil) fun keys => ?_
  split
  · trivial
  · refine Operation.follows_bind (follows_invalidateKeys keys) fun failed => ?_
    have drop : Follows (Node.Does Asks Also)
        (do Operation.change Node.dropDump; pure keys.length : Operation S Nat).run :=
      Operation.follows_bind follows_dropDump fun _ => trivial
    split
    · exact Operation.follows_bind follows_clearCache fun _ => drop
    · exact drop

theorem follows_shutdown : Follows (Node.Does Asks Also) (shutdown : Operation S Unit).run := by
  refine Operation.follows_bind follows_clearCache fun _ => ?_
  refine Operation.follows_bind (Operation.follows_change fun _ => ?_) fun _ => follows_dropDump
  exact .keeps (.of_same rfl rfl)

theorem follows_poll (policy : Policy) (asks : Asks .directoryVersion)
    (observes : ∀ version node, Also node (observe version node).2) :
    Follows (Node.Does Asks Also) (poll policy : Operation S Bool).run := by
  refine Operation.follows_bind
    (follows_request (fun _ _ => ⟨_, asks, rfl⟩) policy "directory_version") fun version => ?_
  refine Operation.follows_bind (Operation.follows_change fun _ => .counts rfl) fun _ => ?_
  refine Operation.follows_bind (Operation.follows_act fun node => .does (observes version node))
    fun previous => ?_
  split
  · trivial
  · refine Operation.follows_bind follows_clearCache fun _ => ?_
    exact Operation.follows_bind follows_dropDump fun _ => trivial

/-! ## Reads -/

theorem follows_record (policy : Policy) (bpn : String) (asks : Asks (.get bpn)) :
    Follows (Node.Does Asks Also) (record policy bpn : Operation S Record).run :=
  follows_check_request (fun _ _ => ⟨_, asks, rfl⟩) _ policy "get"

theorem follows_findByDid (policy : Policy) (did : String) (asks : Asks (.findByDid did)) :
    Follows (Node.Does Asks Also) (findByDid policy did : Operation S (List Record)).run :=
  follows_check_request (fun _ _ => ⟨_, asks, rfl⟩) _ policy "find_by_did"

theorem follows_list (policy : Policy) (token : Option String) (size : Option UInt64)
    (asks : ∀ size, Asks (.listAll token size)) :
    Follows (Node.Does Asks Also) (list policy token size : Operation S Page).run :=
  Operation.follows_check fun size _ =>
    follows_request (fun _ _ => ⟨_, asks size, rfl⟩) policy "list_all"

theorem follows_ping (asks : Asks .ping) :
    Follows (Node.Does Asks Also) (ping : Operation S Unit).run :=
  fun node => ⟨does_callStore (fun _ _ => ⟨_, asks, rfl⟩) node.now node, trivial⟩

theorem follows_dumpDirectory (policy : Policy) (asks : Asks .snapshot)
    (installs : ∀ generation dump node, Also node (installDump generation dump node)) :
    Follows (Node.Does Asks Also) (dumpDirectory policy : Operation S Dump).run := by
  refine Operation.follows_bind (Operation.follows_act fun _ => .looks) fun kept => ?_
  cases kept with
  | some dump => trivial
  | none =>
      refine Operation.follows_bind (Operation.follows_act fun _ => .looks) fun generation => ?_
      refine Operation.follows_bind
        (follows_request (fun _ _ => ⟨_, asks, rfl⟩) policy "snapshot") fun entries => ?_
      refine Operation.follows_bind (Operation.follows_act fun _ => .numbers _) fun dump => ?_
      refine Operation.follows_bind (Operation.follows_change ?_) fun _ => trivial
      exact fun node => .does (installs generation dump node)

theorem follows_resolve (policy : Policy) (bpn : String) (asks : Asks (.get bpn))
    (populates : ∀ did ticket node, Also node (node.populate bpn did ticket)) :
    Follows (Node.Does Asks Also) (resolve policy bpn : Operation S String).run := by
  refine Operation.follows_check fun _ _ => ?_
  refine Operation.follows_bind (Operation.follows_act (does_lookup bpn)) fun found => ?_
  cases found with
  | hit did => trivial
  | miss ticket =>
      refine Operation.follows_bind
        (follows_request (fun _ _ => ⟨_, asks, rfl⟩) policy "get") fun record => ?_
      refine Operation.follows_bind (Operation.follows_change ?_) fun _ => trivial
      exact fun node => .does (populates record.did ticket node)

theorem follows_lookupKeys (lookups : Lookups) (bpns : List String) :
    Follows (Node.Does Asks Also) (lookupKeys lookups bpns : Operation S Lookups).run := by
  induction bpns generalizing lookups with
  | nil => trivial
  | cons bpn rest ih =>
      refine Operation.follows_bind ?_ fun more => ih more
      unfold lookupKey
      split
      · trivial
      · refine Operation.follows_bind (Operation.follows_act (does_lookup bpn)) fun found => ?_
        cases found <;> trivial

theorem follows_settleMisses (found : OrderedMap String) (outcomes : OrderedMap BatchOutcome)
    (misses : List (String × Cache.Ticket))
    (populates : ∀ bpn did ticket node, Also node (node.populate bpn did ticket)) :
    Follows (Node.Does Asks Also)
      (settleMisses found outcomes misses : Operation S (OrderedMap BatchOutcome)).run := by
  induction misses generalizing outcomes with
  | nil => trivial
  | cons miss rest ih =>
      rcases miss with ⟨bpn, ticket⟩
      unfold settleMisses
      cases found.find? bpn with
      | none => exact ih _
      | some did => exact fun node => ⟨.does (populates bpn did ticket node), ih _⟩

theorem follows_resolveBatch (policy : Policy) (bpns : List String)
    (asks : ∀ keys, Asks (.getMany keys))
    (populates : ∀ bpn did ticket node, Also node (node.populate bpn did ticket)) :
    Follows (Node.Does Asks Also)
      (resolveBatch policy bpns : Operation S (OrderedMap BatchOutcome)).run := by
  unfold resolveBatch
  split
  · trivial
  · refine Operation.follows_bind (follows_lookupKeys _ _) fun lookups => ?_
    split
    · trivial
    · refine Operation.follows_bind
        (follows_request (fun _ _ => ⟨_, asks _, rfl⟩) policy "get_many") fun records => ?_
      exact follows_settleMisses _ _ _ populates

/-! ## Changes -/

theorem follows_forget (bpn : String) :
    Follows (Node.Does Asks Also) (forget bpn : Operation S Unit).run := by
  refine Operation.follows_bind (Operation.follows_act (does_invalidate bpn)) fun outcome => ?_
  cases outcome with
  | ok _ => exact follows_dropDump
  | error failure =>
      refine Operation.follows_bind (Operation.follows_change fun _ => .counts rfl) fun _ => ?_
      refine Operation.follows_bind (Operation.follows_change (does_addPending bpn)) fun _ => ?_
      exact follows_dropDump

theorem follows_forgetAll (bpns : List String) :
    Follows (Node.Does Asks Also) (forgetAll bpns : Operation S Unit).run := by
  induction bpns with
  | nil => trivial
  | cons bpn rest ih => exact Operation.follows_bind (follows_forget bpn) fun _ => ih

theorem follows_noteConflict (operation : String) {change : Operation S α}
    (follows : Follows (Node.Does Asks Also) change.run) :
    Follows (Node.Does Asks Also) (noteConflict operation change).run := by
  refine Follows.bind follows fun outcome => ?_
  dsimp only
  split
  · exact fun _ => ⟨.counts rfl, trivial⟩
  · trivial

section

variable (follow : ∀ version node, Also node (Node.followCommit version node))

include follow

theorem follows_register (policy : Policy) (bpn did : String)
    (asks : ∀ now, Asks (.put now bpn did none)) :
    Follows (Node.Does Asks Also) (register policy bpn did : Operation S Record).run := by
  refine Operation.follows_check fun _ _ => Operation.follows_check fun _ _ => ?_
  refine Operation.follows_bind
    (follows_request (fun now _ => ⟨_, asks now, rfl⟩) policy "put") fun committed => ?_
  refine Operation.follows_bind (follows_forget bpn) fun _ => ?_
  exact Operation.follows_bind (Operation.follows_change fun node => .does (follow _ node))
    fun _ => trivial

theorem follows_rotate (policy : Policy) (bpn did : String) (expected : Int)
    (asks : ∀ now, Asks (.put now bpn did (some expected))) :
    Follows (Node.Does Asks Also) (rotate policy bpn did expected : Operation S Record).run := by
  refine Operation.follows_check fun _ _ => Operation.follows_check fun _ _ => ?_
  refine Operation.follows_bind (follows_noteConflict "rotate"
    (follows_request (fun now _ => ⟨_, asks now, rfl⟩) policy "put")) fun committed => ?_
  refine Operation.follows_bind (follows_forget bpn) fun _ => ?_
  exact Operation.follows_bind (Operation.follows_change fun node => .does (follow _ node))
    fun _ => trivial

theorem follows_remove (policy : Policy) (bpn : String) (expected : Int)
    (asks : Asks (.delete bpn expected)) :
    Follows (Node.Does Asks Also) (remove policy bpn expected : Operation S Unit).run := by
  refine Operation.follows_check fun _ _ => ?_
  refine Operation.follows_bind (follows_noteConflict "remove"
    (follows_request (fun _ _ => ⟨_, asks, rfl⟩) policy "delete")) fun committed => ?_
  refine Operation.follows_bind (follows_forget bpn) fun _ => ?_
  exact Operation.follows_change fun node => .does (follow _ node)

theorem follows_registerBatch (policy : Policy) (batch : List NewMapping)
    (asks : ∀ now, Asks (.putBatch now batch)) :
    Follows (Node.Does Asks Also)
      (registerBatch policy batch : Operation S (List Record)).run := by
  refine Operation.follows_check fun _ _ => ?_
  refine Operation.follows_bind
    (follows_request (fun now _ => ⟨_, asks now, rfl⟩) policy "put_batch") fun committed => ?_
  refine Operation.follows_bind (follows_forgetAll _) fun _ => ?_
  exact Operation.follows_bind (Operation.follows_change fun node => .does (follow _ node))
    fun _ => trivial

end

end Resolver
end BpnDirectory
