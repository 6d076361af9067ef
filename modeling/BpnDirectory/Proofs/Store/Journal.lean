import BpnDirectory.Proofs.Store.Agreement
import BpnDirectory.Store.Backend

namespace BpnDirectory
namespace Store

/-!
What a store keeps, read off the conversation that was held with it.

The transcript of a conversation shows which changes succeeded, so it gives the
history of every BPN.  A store keeps exactly what these histories say: a record
stands for the latest creation of its BPN and for the replacements since then, and
the directory version is the number of changes.
-/

open Time (Instant)

/-- A change to the record of one BPN that succeeded. -/
inductive Write where
  | created (now : Instant) (did : String)
  | replaced (now : Instant) (did : String)
  | deleted
  deriving DecidableEq, Repr

namespace Exchange

/-- The change that an exchange made to the record of a BPN. -/
def write? (bpn : String) : Exchange → Option Write
  | ⟨.put now key did none, .put _⟩ => if key = bpn then some (.created now did) else none
  | ⟨.put now key did (some _), .put _⟩ => if key = bpn then some (.replaced now did) else none
  | ⟨.putBatch now batch, .putBatch _⟩ =>
    (batch.find? fun mapping => mapping.bpn = bpn).map fun mapping => .created now mapping.did
  | ⟨.delete key _, .deleted _⟩ => if key = bpn then some .deleted else none
  | _ => none

/-- The directory version that an exchange reported for its change.  A batch
without mappings succeeds and is no change. -/
def version? : Exchange → Option Int
  | ⟨.put .., .put committed⟩ => some committed.directoryVersion
  | ⟨.putBatch _ (_ :: _), .putBatch committed⟩ => some committed.directoryVersion
  | ⟨.delete .., .deleted committed⟩ => some committed.directoryVersion
  | _ => none

end Exchange

/-- The changes to the record of a BPN in the order in which they were made. -/
def history (bpn : String) (transcript : List Exchange) : List Write :=
  transcript.filterMap (Exchange.write? bpn)

/-- The directory versions that were reported for changes. -/
def reported (transcript : List Exchange) : List Int :=
  transcript.filterMap Exchange.version?

/-- Whether a record is what a history of its BPN leaves: it was created, replaced
some number of times and not deleted since. -/
structure Account (bpn : String) (history : List Write) (record : Record) : Prop where
  bpn_eq : record.bpn = bpn
  validBpn : Bpn.check bpn = .ok ()
  validDid : Did.check record.did = .ok ()
  writes : ∃ (before : List Write) (created : Instant) (did : String)
      (replacements : List (Instant × String)),
    history = before ++ .created created did ::
      replacements.map (fun (now, did) => .replaced now did) ∧
    record.version = 1 + replacements.length ∧
    record.createdAt = created ∧
    (record.updatedAt, record.did) = replacements.getLast?.getD (created, did)

/-- Whether no record is left after a history. -/
def IsVacant (history : List Write) : Prop :=
  history = [] ∨ history.getLast? = some .deleted

/-- Whether the answer of a store about a BPN is what its history says. -/
def IsAccurate (bpn : String) (history : List Write) : Except Failure Record → Prop
  | .ok record => Account bpn history record
  | .error failure => failure = .noMapping bpn ∧ IsVacant history

/-- Whether a store is what a transcript says. -/
structure Journaled {S : Type} [MappingStore S] (transcript : List Exchange) (store : S) :
    Prop where
  accurate : ∀ bpn, IsAccurate bpn (history bpn transcript) (MappingStore.get bpn store).1
  version : (MappingStore.directoryVersion store).1 = .ok (reported transcript).length
  consecutive : reported transcript =
    (List.range (reported transcript).length).map fun n : Nat => (n : Int) + 1

/-! ## One more exchange -/

theorem history_concat (bpn : String) (transcript : List Exchange) (exchange : Exchange) :
    history bpn (transcript ++ [exchange]) =
      history bpn transcript ++ (exchange.write? bpn).toList := by
  unfold history
  rw [List.filterMap_append]
  cases written : exchange.write? bpn <;> simp [written]

theorem reported_concat (transcript : List Exchange) (exchange : Exchange) :
    reported (transcript ++ [exchange]) = reported transcript ++ exchange.version?.toList := by
  unfold reported
  rw [List.filterMap_append]
  cases versioned : exchange.version? <;> simp [versioned]

theorem requireBpn_eq_ok_iff {text : String} : requireBpn text = .ok () ↔ Bpn.check text = .ok () := by
  unfold requireBpn
  cases Bpn.check text <;> simp [Except.mapError]

theorem requireDid_eq_ok_iff {text : String} : requireDid text = .ok () ↔ Did.check text = .ok () := by
  unfold requireDid
  cases Did.check text <;> simp [Except.mapError]

/-- The account of a record that was just created. -/
theorem Account.create {mapping : NewMapping}
    (valid : requireMapping mapping.bpn mapping.did = .ok ()) (now : Instant)
    (before : List Write) :
    Account mapping.bpn (before ++ [.created now mapping.did]) (mapping.create now) := by
  rcases requireMapping_eq_ok_iff.mp valid with ⟨validBpn, validDid⟩
  exact ⟨rfl, requireBpn_eq_ok_iff.mp validBpn, requireDid_eq_ok_iff.mp validDid,
    before, now, mapping.did, [], rfl, rfl, rfl, rfl⟩

/-- The account of a record whose DID was just replaced. -/
theorem Account.replace {bpn did : String} {history : List Write} {record : Record}
    (account : Account bpn history record) (valid : requireMapping bpn did = .ok ())
    (now : Instant) : Account bpn (history ++ [.replaced now did]) (record.replace did now) := by
  rcases account with
    ⟨bpn_eq, validBpn, _, before, created, first, replacements, rfl, counted, at_, _⟩
  rcases requireMapping_eq_ok_iff.mp valid with ⟨_, validDid⟩
  refine ⟨bpn_eq, validBpn, requireDid_eq_ok_iff.mp validDid, before, created, first,
    replacements ++ [(now, did)], ?_, ?_, at_, ?_⟩
  · simp
  · simp only [Record.replace, counted, List.length_append, List.length_singleton]
    omega
  · simp [Record.replace]

@[simp] theorem write?_failed (bpn : String) (request : Request) (failure : Failure) :
    Exchange.write? bpn ⟨request, .failed failure⟩ = none := by
  cases request with
  | put now key did expected => cases expected <;> rfl
  | _ => rfl

@[simp] theorem version?_failed (request : Request) (failure : Failure) :
    Exchange.version? ⟨request, .failed failure⟩ = none := by
  cases request with
  | putBatch now batch => cases batch <;> rfl
  | _ => rfl

namespace Journaled

variable {S : Type} [MappingStore S] {transcript : List Exchange}

/-- An exchange that changed nothing may be added to a transcript. -/
theorem skip {store : S} (journaled : Journaled transcript store) {exchange : Exchange}
    (unwritten : ∀ bpn, exchange.write? bpn = none) (unversioned : exchange.version? = none) :
    Journaled (transcript ++ [exchange]) store where
  accurate := by
    intro bpn
    rw [history_concat, unwritten bpn]
    simpa using journaled.accurate bpn
  version := by
    rw [reported_concat, unversioned]
    simpa using journaled.version
  consecutive := by
    rw [reported_concat, unversioned]
    simpa using journaled.consecutive

/-- A transcript that fits a store fits every store that answers alike. -/
theorem congr {T : Type} [MappingStore T] {store : S} {other : T}
    (journaled : Journaled transcript store)
    (sameRecords : ∀ bpn, (MappingStore.get bpn other).1 = (MappingStore.get bpn store).1)
    (sameVersion : (MappingStore.directoryVersion other).1 =
      (MappingStore.directoryVersion store).1) :
    Journaled transcript other where
  accurate := by
    intro bpn
    rw [sameRecords]
    exact journaled.accurate bpn
  version := sameVersion.trans journaled.version
  consecutive := journaled.consecutive

end Journaled

/-! ## Records in memory -/

namespace Memory

theorem isAccurate_iff {memory : Memory} {bpn : String} {history : List Write} :
    IsAccurate bpn history (MappingStore.get bpn memory).1 ↔
      match memory.records.find? bpn with
      | some record => Account bpn history record
      | none => IsVacant history := by
  change IsAccurate bpn history (Memory.get bpn memory).1 ↔ _
  unfold Memory.get reading
  cases found : memory.records.find? bpn <;> simp [found, IsAccurate]

theorem journaled_empty : Journaled [] Memory.empty where
  accurate := fun _ => ⟨rfl, Or.inl rfl⟩
  version := rfl
  consecutive := rfl

variable {transcript : List Exchange} {memory : Memory}

/-- A change that kept every history accurate and reported the next directory
version. -/
theorem journaled_change (journaled : Journaled transcript memory) {exchange : Exchange}
    {records : OrderedMap Record} (versioned : exchange.version? = some (memory.version + 1))
    (accurate : ∀ bpn, match records.find? bpn with
      | some record => Account bpn (history bpn (transcript ++ [exchange])) record
      | none => IsVacant (history bpn (transcript ++ [exchange]))) :
    Journaled (transcript ++ [exchange]) (Memory.mk records (memory.version + 1)) := by
  have counted : memory.version = (reported transcript).length :=
    Except.ok.inj journaled.version
  have grown : reported (transcript ++ [exchange]) =
      reported transcript ++ [memory.version + 1] := by
    rw [reported_concat, versioned]
    rfl
  have length : (reported (transcript ++ [exchange])).length =
      (reported transcript).length + 1 := by
    rw [grown, List.length_append, List.length_singleton]
  constructor
  · exact fun bpn => isAccurate_iff.mpr (accurate bpn)
  · rw [length]
    change Except.ok (memory.version + 1) = _
    rw [counted]
    rfl
  · rw [length, List.range_succ, List.map_append, ← journaled.consecutive, grown, counted]
    rfl

theorem journaled_put (journaled : Journaled transcript memory) (now : Instant)
    (bpn did : String) (expected : Option Int) :
    Journaled (transcript ++
        [⟨.put now bpn did expected, ((Request.put now bpn did expected).perform memory).1⟩])
      ((Request.put now bpn did expected).perform memory).2 := by
  unfold Request.perform Request.answered
  change Journaled (transcript ++ [⟨.put now bpn did expected,
    .ofOutcome .put (Memory.put now bpn did expected memory).1⟩])
    (Memory.put now bpn did expected memory).2
  rcases Memory.put_cases now bpn did expected memory with
    ⟨failure, put⟩ | ⟨valid, record, put, change⟩
  · rw [put]
    exact journaled.skip (fun key => write?_failed key _ failure) (version?_failed _ failure)
  · rw [put]
    apply journaled_change journaled rfl
    intro key
    rw [OrderedMap.find?_insert, history_concat]
    by_cases same : bpn = key
    · subst same
      rw [if_pos rfl]
      rcases change with ⟨rfl, vacant, rfl⟩ | ⟨old, rfl, found, rfl⟩
      · simpa [Reply.ofOutcome, Exchange.write?] using
          @Account.create ⟨bpn, did⟩ valid now (history bpn transcript)
      · have account := isAccurate_iff.mp (journaled.accurate bpn)
        rw [found] at account
        simpa [Reply.ofOutcome, Exchange.write?] using account.replace valid now
    · have unwritten : Exchange.write? key
          ⟨.put now bpn did expected, .ofOutcome .put (.ok ⟨record, memory.version + 1⟩)⟩ = none := by
        cases expected <;> exact if_neg same
      rw [if_neg same, unwritten]
      simpa using isAccurate_iff.mp (journaled.accurate key)

theorem journaled_putBatch (journaled : Journaled transcript memory) (now : Instant)
    (batch : List NewMapping) :
    Journaled (transcript ++
        [⟨.putBatch now batch, ((Request.putBatch now batch).perform memory).1⟩])
      ((Request.putBatch now batch).perform memory).2 := by
  change Journaled (transcript ++ [⟨.putBatch now batch,
    .ofOutcome .putBatch (Memory.putBatch now batch memory).1⟩])
    (Memory.putBatch now batch memory).2
  rcases Memory.putBatch_cases now batch memory with
    ⟨failure, put⟩ | ⟨rfl, put⟩ | ⟨filled, valid, vacant, put⟩
  · rw [put]
    exact journaled.skip (fun key => write?_failed key _ failure) (version?_failed _ failure)
  · rw [put]
    exact journaled.skip (fun _ => rfl) rfl
  · rcases requireBatch_eq_ok_iff.mp valid with ⟨checked, distinct⟩
    rw [put]
    rcases List.exists_cons_of_ne_nil filled with ⟨head, rest, rfl⟩
    apply journaled_change journaled rfl
    intro key
    rw [history_concat]
    simp only [Reply.ofOutcome, Exchange.write?]
    rw [find?_withCreated_batch distinct]
    cases named : (head :: rest).find? fun mapping => mapping.bpn = key with
    | some mapping =>
        have member := List.mem_of_find?_eq_some named
        have same : mapping.bpn = key := by simpa using List.find?_some named
        subst same
        exact Account.create (checked mapping member) now (history mapping.bpn transcript)
    | none => simpa using isAccurate_iff.mp (journaled.accurate key)

theorem journaled_delete (journaled : Journaled transcript memory) (bpn : String)
    (expected : Int) :
    Journaled (transcript ++
        [⟨.delete bpn expected, ((Request.delete bpn expected).perform memory).1⟩])
      ((Request.delete bpn expected).perform memory).2 := by
  change Journaled (transcript ++ [⟨.delete bpn expected,
    .ofOutcome .deleted (Memory.delete bpn expected memory).1⟩])
    (Memory.delete bpn expected memory).2
  rcases Memory.delete_cases bpn expected memory with ⟨failure, deleted⟩ | ⟨old, _, _, deleted⟩
  · rw [deleted]
    exact journaled.skip (fun key => write?_failed key _ failure) (version?_failed _ failure)
  · rw [deleted]
    apply journaled_change journaled rfl
    intro key
    rw [OrderedMap.find?_erase, history_concat]
    by_cases same : bpn = key
    · subst same
      rw [if_pos rfl]
      simp [Reply.ofOutcome, Exchange.write?, IsVacant]
    · rw [if_neg same]
      simpa [Reply.ofOutcome, Exchange.write?, same] using
        isAccurate_iff.mp (journaled.accurate key)

/-- Every call leaves a store that the transcript accounts for. -/
theorem journaled_perform (journaled : Journaled transcript memory) (request : Request) :
    Journaled (transcript ++ [⟨request, (request.perform memory).1⟩])
      (request.perform memory).2 := by
  cases request with
  | put now bpn did expected => exact journaled_put journaled now bpn did expected
  | putBatch now batch => exact journaled_putBatch journaled now batch
  | delete bpn expected => exact journaled_delete journaled bpn expected
  | _ => exact journaled.skip (fun _ => rfl) rfl

theorem journaled_converse {requests : List Request} (journaled : Journaled transcript memory) :
    Journaled (transcript ++ (converse requests memory).1) (converse requests memory).2 := by
  induction requests generalizing transcript memory with
  | nil => simpa using journaled
  | cons request rest ih =>
      rw [converse_cons, List.append_cons]
      exact ih (journaled_perform journaled request)

end Memory

/-! ## Databases -/

theorem write?_read {request : Request} (isRead : request.isChange = false) (reply : Reply)
    (bpn : String) : Exchange.write? bpn ⟨request, reply⟩ = none := by
  cases request with
  | put | putBatch | delete => cases isRead
  | _ => rfl

theorem version?_read {request : Request} (isRead : request.isChange = false) (reply : Reply) :
    Exchange.version? ⟨request, reply⟩ = none := by
  cases request with
  | put | putBatch | delete => cases isRead
  | _ => rfl

theorem Tables.perform_read {request : Request} (isRead : request.isChange = false)
    (tables : Tables) : (request.perform tables).2 = tables := by
  cases request with
  | put | putBatch | delete => cases isRead
  | _ => rfl

namespace Mirrors

variable {memory : Memory} {tables : Tables} {transcript : List Exchange}

theorem journaled (mirrors : Mirrors memory tables) (journaled : Journaled transcript memory) :
    Journaled transcript tables :=
  journaled.congr (fun bpn => (mirrors.get bpn).symm) mirrors.readVersion_eq

/-- A conversation with a database leaves the mirror of some store in memory, for
which its transcript accounts. -/
theorem journaled_converse {requests : List Request} (mirrors : Mirrors memory tables)
    (journaled : Journaled transcript memory) (timely : ∀ request ∈ requests, request.IsTimely)
    (bounded : memory.version + requests.countP Request.isChange ≤ Text.maxSigned64) :
    ∃ after, Mirrors after (Store.converse requests tables).2 ∧
      Journaled (transcript ++ (Store.converse requests tables).1) after := by
  induction requests generalizing transcript memory tables with
  | nil => exact ⟨memory, mirrors, by simpa using journaled⟩
  | cons request rest ih =>
      have laterTimely : ∀ later ∈ rest, later.IsTimely :=
        fun later member => timely later (List.mem_cons_of_mem request member)
      rw [converse_cons, List.append_cons]
      rw [List.countP_cons, Int.natCast_add] at bounded
      cases changes : request.isChange with
      | false =>
          rw [changes] at bounded
          rw [Tables.perform_read changes]
          have skipped := journaled.skip (write?_read changes (request.perform tables).1)
            (version?_read changes (request.perform tables).1)
          exact ih mirrors skipped laterTimely (by simpa using bounded)
      | true =>
          have grown := Memory.version_perform_le request memory
          rw [changes] at bounded grown
          simp only [if_true, Nat.cast_one] at bounded grown
          rcases mirrors.perform_change (timely request List.mem_cons_self) changes
            (by omega) with
            ⟨same, after⟩
          rw [← same]
          exact ih after (Memory.journaled_perform journaled request) laterTimely (by omega)

end Mirrors

/-! ## Either store -/

namespace Backend

/-- A store that was just opened, with its tables if it has any. -/
def fresh : Kind → Backend
  | .memory => .memory .empty
  | .tables => .tables .migrated

theorem perform_memory (request : Request) (store : Memory) :
    request.perform (Backend.memory store) =
      ((request.perform store).1, .memory (request.perform store).2) := by
  cases request <;> rfl

theorem perform_tables (request : Request) (store : Tables) :
    request.perform (Backend.tables store) =
      ((request.perform store).1, .tables (request.perform store).2) := by
  cases request <;> rfl

theorem converse_memory (requests : List Request) (store : Memory) :
    converse requests (Backend.memory store) =
      ((converse requests store).1, .memory (converse requests store).2) := by
  induction requests generalizing store with
  | nil => rfl
  | cons request rest ih => rw [converse_cons, perform_memory, ih, converse_cons]

theorem converse_tables (requests : List Request) (store : Tables) :
    converse requests (Backend.tables store) =
      ((converse requests store).1, .tables (converse requests store).2) := by
  induction requests generalizing store with
  | nil => rfl
  | cons request rest ih => rw [converse_cons, perform_tables, ih, converse_cons]

end Backend

/-- Whatever is asked of a store of either kind, its records and its directory
version are what the transcript of the conversation says. -/
theorem converse_journaled (kind : Kind) (requests : List Request)
    (timely : ∀ request ∈ requests, request.IsTimely)
    (countable : requests.countP Request.isChange < 2 ^ 63) :
    Journaled (converse requests (Backend.fresh kind)).1
      (converse requests (Backend.fresh kind)).2 := by
  cases kind with
  | memory =>
      have journaled := @Memory.journaled_converse _ _ requests Memory.journaled_empty
      rw [Backend.fresh, Backend.converse_memory]
      exact journaled.congr (fun _ => rfl) rfl
  | tables =>
      have bounded : Memory.empty.version + requests.countP Request.isChange ≤
          Text.maxSigned64 := by
        change (0 : Int) + requests.countP Request.isChange ≤ 2 ^ 63 - 1
        omega
      rcases Mirrors.fresh.journaled_converse Memory.journaled_empty timely bounded with
        ⟨after, mirrors, journaled⟩
      rw [Backend.fresh, Backend.converse_tables]
      exact (mirrors.journaled journaled).congr (fun _ => rfl) rfl

/-- The account of a record that is created, replaced and deleted in a database. -/
theorem lifecycle_journaled :
    (∀ request ∈ Request.lifecycle, request.IsTimely) ∧
      Request.lifecycle.countP Request.isChange < 2 ^ 63 ∧
      Journaled (converse Request.lifecycle (Backend.fresh .tables)).1
        (converse Request.lifecycle (Backend.fresh .tables)).2 := by
  have timely : ∀ request ∈ Request.lifecycle, request.IsTimely := by decide
  have countable : Request.lifecycle.countP Request.isChange < 2 ^ 63 := by decide
  exact ⟨timely, countable, converse_journaled .tables _ timely countable⟩

end Store
end BpnDirectory
