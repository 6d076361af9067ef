import BpnDirectory.Proofs.Process.Alone
import BpnDirectory.Proofs.Resolver.Dumps
import BpnDirectory.Proofs.Resolver.Reference
import BpnDirectory.Proofs.Store.Steady

namespace BpnDirectory
namespace Resolver

/-!
Nodes that mirror a directory.

A node mirrors a directory if everything that it derived from the store is what the
store holds now.  While a change is being finished, this may fail for the keys that it
has still to forget.  Nothing that a node does alone spoils the mirror.
-/

open Program (Ensures)
open Store (Call Held LawfulStore MappingStore SteadyStore)

variable {S α β : Type}

/-! ## Calls on the store -/

section

variable {call : Time.Instant → Call S α} {node : Node S} {outcome : Except Failure α} {store : S}

theorem run_attempt (operation : String) (called : call node.now node.store = (outcome, store)) :
    ∃ ledger, (attempt operation call).run node = (outcome, { node with store, ledger }) := by
  cases congrArg Prod.fst called
  cases congrArg Prod.snd called
  exact ⟨_, rfl⟩

/-- A call that leaves the store when it fails is made again on the same store, so all
that comes of it is that of its first attempt and some events in the ledger. -/
theorem run_retrying (operation : String) (retries : Nat)
    (called : call node.now node.store = (outcome, store))
    (kept : ∀ failure, outcome = .error failure → store = node.store) :
    ∃ ledger, (retrying operation call retries).run node =
      (outcome, { node with store, ledger }) := by
  induction retries generalizing node with
  | zero => exact run_attempt operation called
  | succ retries ih =>
      rcases run_attempt operation called with ⟨ledger, attempted⟩
      rw [retrying, Program.run_bind, attempted]
      dsimp only
      cases outcome with
      | ok value => exact ⟨ledger, rfl⟩
      | error failure =>
          cases kept failure rfl
          rw [isWorthRetrying]
          split
          · exact @ih (Node.record (.storeRetry operation) { node with ledger }) called fun _ _ => rfl
          · exact ⟨ledger, rfl⟩

end

theorem ensures_request {call : Time.Instant → Call S α} {Before : Node S → Prop}
    {After : Except Failure α → Node S → Prop} (policy : Policy) (operation : String)
    (answers : ∀ node, Before node → ∃ outcome store,
      call node.now node.store = (outcome, store) ∧
        (∀ failure, outcome = .error failure → store = node.store) ∧
        ∀ ledger, After outcome { node with store, ledger }) :
    Ensures Before (request policy operation call).run After := by
  intro node before
  rcases answers node before with ⟨outcome, store, called, kept, after⟩
  rcases run_retrying operation policy.retry.attempts called kept with ⟨ledger, ran⟩
  have whole : (request policy operation call).run.run node = (outcome, { node with store, ledger }) :=
    ran
  rw [whole]
  exact after ledger

/-! ## Invalidations -/

/-- To drop the entry of a key makes nothing be found. -/
theorem cached_of_invalidate {node : Node S} {key bpn : String} {said : Option String}
    (found : Cached (node.invalidate key).2 bpn said) : Cached node bpn said := by
  have evolves : Cache.Evolves (fun _ _ => False) node.cache (node.invalidate key).2.cache :=
    Cache.invalidate_evolves key
  rcases found with ⟨usable, entry, member, named, same⟩
  rw [evolves.shardOf_eq] at usable member
  rcases evolves.entry_before usable member with ⟨was, old⟩
  exact ⟨was, entry, old, named, same⟩

/-- Nothing is found for a key that was invalidated: it is gone or its shard cannot be
used. -/
theorem not_cached_invalidate (node : Node S) (key : String) (said : Option String) :
    ¬ Cached (node.invalidate key).2 key said := by
  rintro ⟨usable, entry, member, named, _⟩
  have evolves : Cache.Evolves (fun _ _ => False) node.cache (node.invalidate key).2.cache :=
    Cache.invalidate_evolves key
  rw [evolves.shardOf_eq] at usable member
  by_cases bound : node.cache.shardOf key < node.cache.shards.size
  · rcases Cache.shard_invalidate key bound with poisoned | ⟨_, gone⟩
    · exact absurd (usable.symm.trans poisoned) nofun
    · exact gone entry member named
  · rw [Cache.shard_of_size_le (evolves.size.trans_le (Nat.not_lt.mp bound))] at member
    cases member

/-! ## Mirrors -/

variable [MappingStore S] [LawfulStore S]

def Directory.heldDid (directory : Directory S) (bpn : String) : Option String :=
  (LawfulStore.held directory.store bpn).map Held.did

theorem Directory.heldDid_of_get {directory : Directory S} {bpn : String} {record : Record}
    (found : (MappingStore.get bpn directory.store).1 = .ok record) :
    directory.heldDid bpn = some record.did := by
  rw [heldDid, LawfulStore.get_found found]
  rfl

/-- Whether what a look-up found is what a directory has. -/
def Directory.Agrees (directory : Directory S) (bpn : String) : Cache.Lookup → Prop
  | .hit did => directory.heldDid bpn = some did
  | .miss _ => True

/-- Whether a node keeps nothing but what a directory says, apart from what it has still
to forget about some keys. -/
structure Node.Mirrors (directory : Directory S) (now : Time.Instant) (stale : List String)
    (node : Node S) : Prop where
  store : node.store = directory.store
  observed : node.observed = directory.observed
  now : node.now = now
  size : node.cache.shards.size = node.cache.settings.shardCount
  cached : ∀ bpn said, bpn ∉ stale → Cached node bpn said → said = directory.heldDid bpn
  kept : stale = [] → ∀ dump, node.shelf.kept = some dump → IsDumpOf dump directory.store

namespace Node.Mirrors

variable {directory : Directory S} {now : Time.Instant} {stale : List String} {node : Node S}

/-- A node that starts has nothing to keep. -/
theorem start (store : S) (settings : Cache.Settings) (now : Time.Instant) :
    Mirrors (.start store) now [] (Node.start store settings now) where
  store := rfl
  observed := rfl
  now := rfl
  size := Cache.size_new settings
  cached := by
    rintro bpn said _ ⟨_, entry, member, _⟩
    change entry ∈ ((Cache.new settings).shard _).entries at member
    rw [Cache.shard_new] at member
    cases member
  kept := fun _ _ kept => nomatch kept

/-- The cache may lose entries and gain those that the directory has. -/
theorem cache_evolves (mirrors : Mirrors directory now stale node) {cache : Cache}
    (evolves : Cache.Evolves (fun _ entry => directory.heldDid entry.key = some entry.did)
      node.cache cache) :
    Mirrors directory now stale { node with cache } where
  store := mirrors.store
  observed := mirrors.observed
  now := mirrors.now
  size := by
    rw [evolves.size, evolves.settings]
    exact mirrors.size
  cached := by
    rintro bpn said fresh ⟨usable, entry, member, rfl, rfl⟩
    dsimp only at usable member
    rw [evolves.shardOf_eq] at usable member
    have shards := evolves.shards (node.cache.shardOf entry.key)
    -- A shard that became usable again came back empty.
    cases was : (node.cache.shard (node.cache.shardOf entry.key)).poisoned with
    | true =>
        rw [(shards.healed was usable).1] at member
        cases member
    | false =>
        rcases shards.kept was usable entry member with old | ⟨held, _⟩
        · exact mirrors.cached entry.key _ fresh ⟨was, entry, old, rfl, rfl⟩
        · exact held.symm
  kept := mirrors.kept

/-- What a node counts and when it does what says nothing about the directory. -/
theorem congr (mirrors : Mirrors directory now stale node) {other : Node S}
    (store : other.store = node.store) (observed : other.observed = node.observed)
    (clock : other.now = node.now) (cache : other.cache = node.cache)
    (shelf : other.shelf = node.shelf) : Mirrors directory now stale other where
  store := store.trans mirrors.store
  observed := observed.trans mirrors.observed
  now := clock.trans mirrors.now
  size := by
    rw [cache]
    exact mirrors.size
  cached := by
    intro bpn said fresh found
    refine mirrors.cached bpn said fresh ?_
    unfold Cached at found ⊢
    rwa [cache] at found
  kept := by
    rw [shelf]
    exact mirrors.kept

theorem installDump (mirrors : Mirrors directory now stale node) {dump : Dump}
    (isDump : IsDumpOf dump directory.store) (generation : Nat) :
    Mirrors directory now stale (Resolver.installDump generation dump node) := by
  refine { mirrors with kept := fun fresh other kept => ?_ }
  simp only [Resolver.installDump, Shelf.install] at kept
  split at kept
  · cases kept
    exact isDump
  · exact mirrors.kept fresh other kept

theorem dropDump (mirrors : Mirrors directory now stale node) :
    Mirrors directory now stale node.dropDump :=
  { mirrors with kept := fun _ _ kept => nomatch kept }

theorem lookup (mirrors : Mirrors directory now [] node) (bpn : String) :
    directory.Agrees bpn (node.lookup bpn).1 ∧ Mirrors directory now [] (node.lookup bpn).2 := by
  constructor
  · cases found : (node.lookup bpn).1 with
    | hit did => exact (mirrors.cached bpn (some did) List.not_mem_nil (cached_of_hit found)).symm
    | miss ticket => trivial
  · exact mirrors.cache_evolves (Cache.lookup_evolves node.ticks bpn)

theorem populate (mirrors : Mirrors directory now stale node) {bpn did : String}
    (held : directory.heldDid bpn = some did) (ticket : Cache.Ticket) :
    Mirrors directory now stale (node.populate bpn did ticket) :=
  mirrors.cache_evolves (Cache.populate_evolves fun _ => held)

theorem invalidate (mirrors : Mirrors directory now stale node) (key : String) :
    Mirrors directory now stale (node.invalidate key).2 :=
  mirrors.cache_evolves (Cache.invalidate_evolves key)

/-- Once nothing is found for a key any more and the dump was dropped, the key is
forgotten. -/
theorem dropDump_of_not_cached {key : String} (mirrors : Mirrors directory now (key :: stale) node)
    (gone : ∀ said, ¬ Cached node key said) : Mirrors directory now stale node.dropDump where
  store := mirrors.store
  observed := mirrors.observed
  now := mirrors.now
  size := mirrors.size
  cached := by
    intro bpn said fresh found
    by_cases same : bpn = key
    · subst same
      exact absurd found (gone said)
    · refine mirrors.cached bpn said ?_ found
      simp [same, fresh]
  kept := fun _ _ kept => nomatch kept

/-- A call on the store leaves what is kept about the keys that it did not change. -/
theorem perform (mirrors : Mirrors directory now [] node) (request : Store.Request)
    (ledger : Telemetry.Ledger) (changed : stale ≠ [])
    (others : ∀ bpn, bpn ∉ stale →
      Store.Exchange.write? bpn ⟨request, (request.perform directory.store).1⟩ = none) :
    Mirrors { directory with store := (request.perform directory.store).2 } now stale
      { node with store := (request.perform directory.store).2, ledger } where
  store := rfl
  observed := mirrors.observed
  now := mirrors.now
  size := mirrors.size
  cached := by
    intro bpn said fresh found
    rw [mirrors.cached bpn said List.not_mem_nil found]
    have becomes := LawfulStore.held_perform request directory.store bpn
    rw [others bpn fresh] at becomes
    exact congrArg (Option.map Held.did) becomes.eq_of_none.symm
  kept := fun none => absurd none changed

theorem followCommit (mirrors : Mirrors directory now stale node) (version : Int) :
    Mirrors (directory.commit version directory.store) now stale (node.followCommit version) := by
  have seen := mirrors.observed
  unfold Directory.commit Node.followCommit
  by_cases next : directory.observed = version - 1
  · rw [if_pos next, if_pos (seen.trans next)]
    exact { mirrors with observed := rfl }
  · rw [if_neg next, if_neg (seen ▸ next)]
    exact { mirrors with }

end Node.Mirrors

/-! ## Operations that leave a mirror -/

variable {directory : Directory S} {now : Time.Instant}

/-- Whether an operation that is alone leaves a mirror of a directory as one and has an
outcome as it should be.  The rules below take such an operation apart step by step. -/
def Operation.Conveys (directory : Directory S) (now : Time.Instant) (operation : Operation S α)
    (Told : Except Failure α → Prop) : Prop :=
  Ensures (Node.Mirrors directory now []) operation.run fun outcome after =>
    Told outcome ∧ after.Mirrors directory now []

namespace Operation

theorem conveys_pure {value : α} {Told : Except Failure α → Prop} (told : Told (.ok value)) :
    Conveys directory now (pure value : Operation S α) Told :=
  fun _ mirrors => ⟨told, mirrors⟩

theorem conveys_bind {Fact : α → Prop} {Told : Except Failure β → Prop}
    {operation : Operation S α} {rest : α → Operation S β}
    (first : Conveys directory now operation fun outcome => ∃ value, outcome = .ok value ∧ Fact value)
    (second : ∀ value, Fact value → Conveys directory now (rest value) Told) :
    Conveys directory now (operation >>= rest) Told := by
  refine Ensures.bind first ?_
  rintro _ node ⟨⟨value, rfl, fact⟩, mirrors⟩
  exact second value fact node mirrors

theorem conveys_isOk_bind {Told : Except Failure β → Prop} {operation : Operation S α}
    {rest : α → Operation S β} (first : Conveys directory now operation (·.isOk = true))
    (second : ∀ value, Conveys directory now (rest value) Told) :
    Conveys directory now (operation >>= rest) Told := by
  refine Ensures.bind first ?_
  rintro (failure | value) node ⟨done, mirrors⟩
  · cases done
  · exact second value node mirrors

theorem conveys_check_bind {outcome : Except Failure α} {rest : α → Operation S β}
    {Told : Except Failure β → Prop}
    (refused : ∀ failure, outcome = .error failure → Told (.error failure))
    (passed : ∀ value, outcome = .ok value → Conveys directory now (rest value) Told) :
    Conveys directory now (check outcome >>= rest) Told := by
  cases outcome with
  | ok value => exact passed value rfl
  | error failure => exact fun _ mirrors => ⟨refused failure rfl, mirrors⟩

theorem conveys_act_bind {f : Node S → α × Node S} {rest : α → Operation S β}
    {Told : Except Failure β → Prop} (Fact : α → Prop)
    (acts : ∀ node, node.Mirrors directory now [] →
      Fact (f node).1 ∧ (f node).2.Mirrors directory now [])
    (second : ∀ value, Fact value → Conveys directory now (rest value) Told) :
    Conveys directory now (act f >>= rest) Told := by
  intro node mirrors
  rcases acts node mirrors with ⟨fact, kept⟩
  exact second _ fact _ kept

theorem conveys_any_bind {f : Node S → α × Node S} {rest : α → Operation S β}
    {Told : Except Failure β → Prop}
    (keeps : ∀ node, node.Mirrors directory now [] → (f node).2.Mirrors directory now [])
    (second : ∀ value, Conveys directory now (rest value) Told) :
    Conveys directory now (act f >>= rest) Told :=
  fun node mirrors => second _ _ (keeps node mirrors)

theorem conveys_change_bind {f : Node S → Node S} {rest : Unit → Operation S β}
    {Told : Except Failure β → Prop}
    (keeps : ∀ node, node.Mirrors directory now [] → (f node).Mirrors directory now [])
    (second : Conveys directory now (rest ()) Told) :
    Conveys directory now (change f >>= rest) Told :=
  fun node mirrors => second _ (keeps node mirrors)

theorem Conveys.mono {operation : Operation S α} {Told Also : Except Failure α → Prop}
    (conveys : Conveys directory now operation Told)
    (weaker : ∀ outcome, Told outcome → Also outcome) : Conveys directory now operation Also :=
  Ensures.mono conveys fun outcome _ ⟨told, mirrors⟩ => ⟨weaker outcome told, mirrors⟩

end Operation

variable [SteadyStore S]

section

variable {make : α → Store.Reply} {call : Call S α} (request : Store.Request)
  (same : ∀ store, request.perform store = Store.Request.answered make call store)
  (isRead : request.isChange = false) (policy : Policy) (operation : String)

include same isRead

/-- A call that asks for no change tells what it would tell of the directory. -/
theorem conveys_request :
    Operation.Conveys directory now (Resolver.request policy operation fun _ => call)
      (· = (call directory.store).1) := by
  refine ensures_request policy operation fun node mirrors => ?_
  have left : (call directory.store).2 = directory.store := by
    have kept := SteadyStore.same_of_read isRead directory.store
    rwa [same] at kept
  have called : call node.store = ((call directory.store).1, node.store) := by
    rw [mirrors.store]
    exact Prod.ext rfl left
  refine ⟨_, _, called, fun _ _ => rfl, fun ledger => ⟨rfl, ?_⟩⟩
  exact mirrors.congr rfl rfl rfl rfl rfl

theorem conveys_request_bind {rest : α → Operation S β} {Told : Except Failure β → Prop}
    (refused : ∀ failure, (call directory.store).1 = .error failure → Told (.error failure))
    (answered : ∀ value, (call directory.store).1 = .ok value →
      Operation.Conveys directory now (rest value) Told) :
    Operation.Conveys directory now (Resolver.request policy operation (fun _ => call) >>= rest)
      Told := by
  refine Ensures.bind (conveys_request request same isRead policy operation) ?_
  rintro (failure | value) node ⟨told, mirrors⟩
  · exact ⟨refused failure told.symm, mirrors⟩
  · exact answered value told.symm node mirrors

end

end Resolver
end BpnDirectory
