import BpnDirectory.Proofs.Resolver.Resolving
import BpnDirectory.Proofs.Resolver.Retries

namespace BpnDirectory
namespace Resolver

/-!
Batches against single resolutions.

A node need not mirror its store for this: entries that are too old, and entries of
poisoned shards, are never served and may say anything.  A batch looks up all of its keys
before it puts anything into the cache, so what one key drives out of the cache was
already found for the others.
-/

open Store (Backend Call IsAvailable LawfulStore MappingStore SteadyStore)

variable {S α : Type}

/-! ## Entries that are served -/

/-- Whether a node may serve an entry of its cache: it stands in the shard of its key, the
shard can be used, and the entry is not too old. -/
def Node.Serves (node : Node S) (entry : Cache.Entry) : Prop :=
  let shard := node.cache.shard (node.cache.shardOf entry.key)
  shard.poisoned = false ∧ entry ∈ shard.entries ∧ node.cache.isExpired node.ticks entry = false

/-- A look-up makes no entry servable. -/
theorem serves_of_lookup {node : Node S} {bpn : String} {entry : Cache.Entry}
    (serves : (node.lookup bpn).2.Serves entry) : node.Serves entry := by
  have evolves : Cache.Evolves (fun _ _ => False) node.cache (node.lookup bpn).2.cache :=
    Cache.lookup_evolves node.ticks bpn
  rcases serves with ⟨usable, member, fresh⟩
  rw [evolves.shardOf_eq] at usable member
  rcases evolves.entry_before usable member with ⟨was, old⟩
  exact ⟨was, old, (Cache.isExpired_congr evolves.settings node.ticks entry).symm.trans fresh⟩

theorem serves_of_hit {node : Node S} {bpn did : String} (hit : (node.lookup bpn).1 = .hit did) :
    ∃ entry, node.Serves entry ∧ entry.key = bpn ∧ entry.did = did := by
  rcases Cache.fresh_of_hit hit with ⟨usable, entry, member, rfl, shown, fresh⟩
  exact ⟨entry, ⟨usable, member, fresh⟩, rfl, shown⟩

variable [MappingStore S]

/-- Whether every entry that a node may serve has the DID that a store yields. -/
def Node.IsCurrent (store : S) (node : Node S) : Prop :=
  ∀ entry, node.Serves entry →
    ∃ record, (MappingStore.get entry.key store).1 = .ok record ∧ record.did = entry.did

namespace Node.IsCurrent

variable {store : S} {node : Node S} {bpn : String}

theorem lookup (current : node.IsCurrent store) (bpn : String) :
    (node.lookup bpn).2.IsCurrent store :=
  fun entry serves => current entry (serves_of_lookup serves)

/-- What the cache has for a BPN is what a directory without a cache says of it. -/
theorem resolve_of_hit (current : node.IsCurrent store) (valid : requireBpn bpn = .ok ())
    {did : String} (hit : (node.lookup bpn).1 = .hit did) :
    (Directory.start store).resolve bpn = .ok did := by
  rcases serves_of_hit hit with ⟨entry, serves, rfl, rfl⟩
  rcases current entry serves with ⟨record, found, same⟩
  calc
    (Directory.start store).resolve entry.key
        = (MappingStore.get entry.key store).1.map Record.did := Directory.resolve_eq_of_ok valid
    _ = .ok entry.did := by rw [found, ← same]; rfl

end Node.IsCurrent

/-! ## A single key -/

section

omit [MappingStore S]

variable {β : Type}

theorem Operation.run_act_bind (f : Node S → α × Node S) (rest : α → Operation S β) (node : Node S) :
    (Operation.act f >>= rest).run.run node = (rest (f node).1).run.run (f node).2 := rfl

/-- A call that is not worth making again is made once. -/
theorem run_request_of_available (policy : Policy) (operation : String) {call : Call S α}
    (node : Node S) (available : ¬ IsUnavailable (call node.store).1) :
    ∃ ledger, (request policy operation fun _ => call).run.run node =
      ((call node.store).1, { node with store := (call node.store).2, ledger }) := by
  have settled : ¬ IsUnavailable (outcomesOf call node.store 0) := available
  exact ⟨_, (run_retrying_of_last operation (fun _ => call) policy.retry.attempts (Nat.zero_le _)
    nofun (Or.inr settled)).1⟩

end

/-- A node resolves a BPN by itself as a directory without a cache does. -/
theorem run_resolve {node : Node S} {bpn : String} (current : node.IsCurrent node.store)
    (available : ¬ IsUnavailable (MappingStore.get bpn node.store).1) (policy : Policy) :
    ((resolve policy bpn).run.run node).1 = (Directory.start node.store).resolve bpn := by
  cases valid : requireBpn bpn with
  | error failure =>
      rw [Directory.resolve_eq_of_error valid, resolve, valid]
      rfl
  | ok _ =>
      rw [resolve, valid]
      change ((Operation.act (Node.lookup bpn) >>= _ : Operation S String).run.run node).1 = _
      rw [Operation.run_act_bind]
      cases found : (node.lookup bpn).1 with
      | hit did => exact (current.resolve_of_hit valid found).symm
      | miss ticket =>
          rw [Directory.resolve_eq_of_ok valid]
          rcases run_request_of_available policy "get" (node.lookup bpn).2 available with
            ⟨ledger, ran⟩
          dsimp only
          rw [Program.run_except_bind, ran]
          dsimp only
          change _ = (MappingStore.get bpn (node.lookup bpn).2.store).1.map Record.did
          cases (MappingStore.get bpn (node.lookup bpn).2.store).1 with
          | ok record => rfl
          | error failure => rfl

/-! ## The keys of a batch -/

/-- A look-up of one key of a batch finds out what a directory without a cache says of it, or
that the cache does not have it. -/
theorem run_lookupKey {node : Node S} {lookups : Lookups} {seen : List String} {store : S}
    (current : node.IsCurrent store) (agree : lookups.Agree (Directory.start store) seen)
    (bpn : String) :
    ∃ after later, (lookupKey lookups bpn).run.run node = (.ok after, later) ∧
      after.Agree (Directory.start store) (seen ++ [bpn]) ∧ later.IsCurrent store ∧
      later.store = node.store := by
  unfold lookupKey
  cases valid : requireBpn bpn with
  | error failure =>
      refine ⟨_, node, rfl, agree.see ?_, current, rfl⟩
      rw [Directory.outcomeOf, valid]
  | ok _ =>
      dsimp only
      rw [Operation.run_act_bind]
      cases found : (node.lookup bpn).1 with
      | hit did =>
          refine ⟨_, _, rfl, agree.see ?_, current.lookup bpn, rfl⟩
          rw [Directory.outcomeOf, valid, current.resolve_of_hit valid found]
      | miss ticket => exact ⟨_, _, rfl, agree.miss valid, current.lookup bpn, rfl⟩

theorem run_lookupKeys {node : Node S} {lookups : Lookups} {seen : List String} {store : S}
    (current : node.IsCurrent store) (agree : lookups.Agree (Directory.start store) seen)
    (bpns : List String) :
    ∃ after later, (lookupKeys lookups bpns).run.run node = (.ok after, later) ∧
      after.Agree (Directory.start store) (seen ++ bpns) ∧ later.store = node.store := by
  induction bpns generalizing node lookups seen with
  | nil =>
      rw [List.append_nil]
      exact ⟨lookups, node, rfl, agree, rfl⟩
  | cons bpn rest ih =>
      rcases run_lookupKey current agree bpn with ⟨between, midway, first, agrees, still, same⟩
      rcases ih still agrees with ⟨after, later, others, agreed, kept⟩
      refine ⟨after, later, ?_, ?_, kept.trans same⟩
      · rw [lookupKeys, Program.run_except_bind, first]
        exact others
      · rwa [List.append_assoc, List.singleton_append] at agreed

/-- What the store said about the keys that were missed settles them. -/
theorem run_settleMisses {found : OrderedMap String} {outcomes : OrderedMap BatchOutcome}
    {misses : List (String × Cache.Ticket)} {seen : List String} {directory : Directory S}
    (agree : (⟨misses, outcomes⟩ : Lookups).Agree directory seen)
    (shown : ∀ miss ∈ misses,
      directory.outcomeOf miss.1 = (found.find? miss.1).elim .notFound .found)
    (node : Node S) :
    ∃ after later, (settleMisses found outcomes misses).run.run node = (.ok after, later) ∧
      (⟨[], after⟩ : Lookups).Agree directory seen := by
  induction misses generalizing outcomes node with
  | nil => exact ⟨outcomes, node, rfl, agree⟩
  | cons miss rest ih =>
      rcases miss with ⟨bpn, ticket⟩
      have right : directory.outcomeOf bpn = (found.find? bpn).elim .notFound .found :=
        shown (bpn, ticket) List.mem_cons_self
      have others := fun miss member => shown miss (List.mem_cons_of_mem (bpn, ticket) member)
      unfold settleMisses
      cases answered : found.find? bpn with
      | some did =>
          rw [answered] at right
          exact ih (agree.settle right.symm) others (node.populate bpn did ticket)
      | none =>
          rw [answered] at right
          exact ih (agree.settle right.symm) others node

variable [LawfulStore S]

/-- An available store finds a valid BPN or says that there is no record. -/
theorem outcomeOf_eq_of_isAvailable {store : S} {keys : List String} {bpn : String}
    (available : IsAvailable keys store) (member : bpn ∈ keys) (valid : requireBpn bpn = .ok ()) :
    (Directory.start store).outcomeOf bpn =
      ((LawfulStore.held store bpn).map Store.Held.did).elim .notFound .found := by
  have resolved : (Directory.start store).resolve bpn =
      (MappingStore.get bpn store).1.map Record.did := Directory.resolve_eq_of_ok valid
  unfold Directory.outcomeOf
  rw [valid, resolved]
  rcases available.get bpn member with ⟨record, found⟩ | ⟨text, missing⟩
  · rw [found, LawfulStore.get_found found]
    rfl
  · rw [missing, LawfulStore.get_missing available.sound missing]
    rfl

/-- A batch of a node whose store is available is answered as a directory without a cache
answers it. -/
theorem run_resolveBatch {node : Node S} {bpns : List String} {policy : Policy}
    (current : node.IsCurrent node.store) (available : IsAvailable bpns node.store)
    (fits : bpns.length ≤ policy.batchLimit) :
    ((resolveBatch policy bpns).run.run node).1 =
      .ok (.ofList (bpns.map fun bpn => (bpn, (Directory.start node.store).outcomeOf bpn))) := by
  rcases run_lookupKeys current .start (distinct bpns) with
    ⟨⟨misses, outcomes⟩, later, looked, agree, kept⟩
  rw [List.nil_append] at agree
  have missed : ∀ key ∈ misses.map Prod.fst, key ∈ bpns ∧ requireBpn key = .ok () := by
    intro key member
    exact (agree.missed key member).imp_left mem_distinct.mp
  unfold resolveBatch
  rw [if_neg (Nat.not_lt.mpr fits)]
  change ((lookupKeys ⟨[], .empty⟩ (distinct bpns) >>= _ : Operation S _).run.run node).1 = _
  rw [Program.run_except_bind, looked]
  dsimp only
  split
  · next none =>
      cases List.isEmpty_iff.mp none
      exact congrArg Except.ok agree.eq_ofList
  · rcases available.getMany (misses.map Prod.fst) fun key member => (missed key member).1 with
      ⟨records, read⟩
    rw [← kept] at read
    have answered : ¬ IsUnavailable (MappingStore.getMany (misses.map Prod.fst) later.store).1 := by
      rw [read]
      rintro ⟨_, failed⟩
      cases failed
    rcases run_request_of_available policy "get_many" later answered with ⟨ledger, ran⟩
    rw [Program.run_except_bind, ran, read]
    dsimp only
    rw [kept] at read
    have shown : ∀ miss ∈ misses, (Directory.start node.store).outcomeOf miss.1 =
        ((OrderedMap.ofList (records.map fun record => (record.bpn, record.did))).find? miss.1).elim
          .notFound .found := by
      intro miss member
      have asked : miss.1 ∈ misses.map Prod.fst := List.mem_map_of_mem member
      rw [outcomeOf_eq_of_isAvailable available (missed _ asked).1 (missed _ asked).2,
        Store.didOf_getMany available.sound read asked]
    rcases run_settleMisses agree shown _ with ⟨after, last, settled, agrees⟩
    rw [settled, agrees.eq_ofList]

/-! ## One key by itself and in a batch -/

/-- Whether the outcome of a key in a batch says what the resolution of the key by itself
comes to. -/
def BatchOutcome.Tells (alone : Except Failure String) : BatchOutcome → Prop
  | .found did => alone = .ok did
  | .notFound => ∃ detail, alone = .error (.notFound detail)
  | .invalidInput message =>
    ∃ detail, alone = .error (.invalidInput detail) ∧ message = (Failure.invalidInput detail).message

/-- A resolution has only one outcome in a batch. -/
theorem BatchOutcome.Tells.unique {alone : Except Failure String} {first second : BatchOutcome}
    (former : first.Tells alone) (latter : second.Tells alone) : first = second := by
  cases first with
  | found did =>
      cases former
      cases second with
      | found other => exact congrArg _ (Except.ok.inj latter)
      | notFound => rcases latter with ⟨_, absurdity⟩; cases absurdity
      | invalidInput => rcases latter with ⟨_, absurdity, _⟩; cases absurdity
  | notFound =>
      rcases former with ⟨_, rfl⟩
      cases second with
      | found => cases latter
      | notFound => rfl
      | invalidInput => rcases latter with ⟨_, absurdity, _⟩; cases absurdity
  | invalidInput =>
      rcases former with ⟨_, rfl, rfl⟩
      cases second with
      | found => cases latter
      | notFound => rcases latter with ⟨_, absurdity⟩; cases absurdity
      | invalidInput =>
          rcases latter with ⟨_, same, rfl⟩
          cases same
          rfl

omit [MappingStore S] [LawfulStore S] in
theorem exists_invalidInput_of_requireBpn {bpn : String} {failure : Failure}
    (refused : requireBpn bpn = .error failure) : ∃ detail, failure = .invalidInput detail := by
  unfold requireBpn at refused
  cases checked : Bpn.check bpn with
  | ok _ =>
      rw [checked] at refused
      cases refused
  | error defect =>
      rw [checked] at refused
      cases refused
      exact ⟨_, rfl⟩

theorem outcomeOf_tells {store : S} {keys : List String} {bpn : String}
    (available : IsAvailable keys store) (member : bpn ∈ keys) :
    ((Directory.start store).outcomeOf bpn).Tells ((Directory.start store).resolve bpn) := by
  unfold Directory.outcomeOf
  cases valid : requireBpn bpn with
  | error failure =>
      rcases exists_invalidInput_of_requireBpn valid with ⟨detail, rfl⟩
      exact ⟨detail, Directory.resolve_eq_of_error valid, rfl⟩
  | ok _ =>
      have resolved : (Directory.start store).resolve bpn =
          (MappingStore.get bpn store).1.map Record.did := Directory.resolve_eq_of_ok valid
      rw [resolved]
      rcases available.get bpn member with ⟨record, found⟩ | ⟨text, missing⟩
      · rw [found]
        rfl
      · rw [missing]
        exact ⟨text, rfl⟩

/-- A batch that is too long is refused at once.  Any other has an outcome for each of its
keys, and each outcome is the one that the key has by itself in the same state, provided
that the store is available and that the cache serves nothing else than the store. -/
theorem batch_agrees_with_single (policy : Policy) (bpns : List String) (node : Node S) :
    (policy.batchLimit < bpns.length →
      (resolveBatch policy bpns).run.run node = (.error (.invalidInput
        s!"Batch of {bpns.length} BPNs exceeds the maximum of {policy.batchLimit}"), node)) ∧
    (bpns.length ≤ policy.batchLimit → IsAvailable bpns node.store → node.IsCurrent node.store →
      ∃ outcomes, ((resolveBatch policy bpns).run.run node).1 = .ok outcomes ∧
        (∀ key, (∃ outcome, outcomes.find? key = some outcome) ↔ key ∈ bpns) ∧
        ∀ key ∈ bpns, ∀ outcome, outcomes.find? key = some outcome ↔
          outcome.Tells ((resolve policy key).run.run node).1) := by
  constructor
  · intro long
    unfold resolveBatch
    rw [if_pos long]
    rfl
  · intro fits available current
    refine ⟨_, run_resolveBatch current available fits, ?_, ?_⟩
    · intro key
      rw [OrderedMap.find?_ofList_map]
      by_cases member : key ∈ bpns <;> simp [member]
    · intro key member outcome
      have settled : ¬ IsUnavailable (MappingStore.get key node.store).1 := by
        rintro ⟨detail, failed⟩
        rcases available.get key member with ⟨record, found⟩ | ⟨text, missing⟩
        · cases failed.symm.trans found
        · cases failed.symm.trans missing
      have tells := outcomeOf_tells available member
      rw [OrderedMap.find?_ofList_map, if_pos member, run_resolve current settled policy]
      constructor
      · intro same
        exact Option.some.inj same ▸ tells
      · exact fun told => congrArg some (tells.unique told)

def twoRecords : Backend :=
  ((Store.Request.putBatch Store.Request.noon [⟨"BPNL00000000000A", "did:web:first"⟩,
    ⟨"BPNL00000000000B", "did:web:second"⟩]).perform (Backend.tables .migrated)).2

/-- A node whose cache has room for two entries.  One of them is right, and the other, which
is wrong, is too old. -/
def Node.crowded : Node Backend :=
  { Node.start twoRecords ⟨true, 2, 1, some 10⟩ Store.Request.noon with
    cache := ⟨⟨true, 2, 1, some 10⟩, #[⟨[⟨"BPNL00000000000B", "did:web:former", 3⟩,
      ⟨"BPNL00000000000A", "did:web:first", 95⟩], 0, false⟩], 0, 2, 0, 0, 0, 0⟩
    ticks := 100 }

theorem isCurrent_crowded : Node.crowded.IsCurrent Node.crowded.store := by
  rintro entry ⟨_, member, fresh⟩
  have first : Node.crowded.cache.shardOf entry.key = 0 := Nat.mod_one _
  rw [first] at member
  change entry ∈ [(⟨"BPNL00000000000B", "did:web:former", 3⟩ : Cache.Entry),
    ⟨"BPNL00000000000A", "did:web:first", 95⟩] at member
  simp only [List.mem_cons, List.not_mem_nil, or_false] at member
  rcases member with rfl | rfl
  · cases fresh
  · exact ⟨⟨"BPNL00000000000A", "did:web:first", 1, Store.Request.noon, Store.Request.noon⟩,
      by decide +kernel, rfl⟩

/-- What drives an entry out of the cache, what is named twice and what is no BPN are all in
one batch. -/
theorem crowded_batch_agrees_with_single :
    let policy : Policy := ⟨5, 10, 10, ⟨1, 0, 0⟩⟩
    let batch := ["BPNL00000000000A", "no BPN", "BPNL00000000000B", "BPNL00000000000A",
      "BPNL00000000000D"]
    ∃ outcomes, ((resolveBatch policy batch).run.run Node.crowded).1 = .ok outcomes ∧
      ∀ key ∈ batch, ∀ outcome, outcomes.find? key = some outcome ↔
        outcome.Tells ((resolve policy key).run.run Node.crowded).1 := by
  intro policy batch
  have fresh : SteadyStore.IsHealthy (Backend.tables .migrated) := Store.Tables.isHealthy_migrated
  have healthy : SteadyStore.IsHealthy twoRecords := SteadyStore.healthy_perform _ fresh
  rcases (batch_agrees_with_single policy batch Node.crowded).2 (by decide)
    (Backend.isAvailable healthy batch) isCurrent_crowded with ⟨outcomes, ran, _, tells⟩
  exact ⟨outcomes, ran, tells⟩

end Resolver
end BpnDirectory
