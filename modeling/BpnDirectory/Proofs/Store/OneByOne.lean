import BpnDirectory.Proofs.Store.Memory
import BpnDirectory.Proofs.Store.Tables
import BpnDirectory.Store.Backend

namespace BpnDirectory
namespace Store

/-!
New records in a batch and one by one.

To create a record is to insert it and then to count a change.  A batch inserts all of its
records before it counts a single change; one by one, each record is counted as soon as it
was inserted.  Inserting takes no notice of the directory version and counting leaves the
records, so only the directory version tells afterwards how the records were created.

The directory version is a number of 64 bits, and there may be room in it for the one change and
not for the many.  Then a database does not count the many.  Nothing is said here of what the
number of changes in memory comes to without room.
-/

open Text (maxSigned64)

/-- Creates records one after the other, until one of them cannot be created. -/
def putEach {S : Type} [MappingStore S] (now : Time.Instant) :
    List NewMapping → S → Except Failure (List Record × S)
  | [], store => .ok ([], store)
  | mapping :: rest, store =>
    match MappingStore.put now mapping.bpn mapping.did none store with
    | (.error failure, _) => .error failure
    | (.ok committed, after) => do
      let (records, last) ← putEach now rest after
      .ok (committed.value :: records, last)

theorem transaction_eq_ok_iff {S α : Type} {run : S → Except Failure (α × S)} {store after : S}
    {value : α} : transaction run store = (.ok value, after) ↔ run store = .ok (value, after) := by
  unfold transaction
  cases run store with
  | error failure => simp
  | ok result => simp [Prod.ext_iff]

namespace Backend

variable {store inserted after : Backend} {now : Time.Instant} {mapping : NewMapping}
  {batch : List NewMapping} {record : Record} {records : List Record} {version : Int}

/-! ## The directory version -/

/-- A store at another directory version. -/
def atVersion (version : Int) : Backend → Backend
  | .memory kept => .memory { kept with version }
  | .tables base => .tables { base with metadata := some (some version) }

/-- The directory version of a store, if it has one. -/
def version? : Backend → Option Int
  | .memory kept => some kept.version
  | .tables base => base.metadata.join

/-- Whether 64 bits have room for the directory version after a number of changes. -/
def HasRoom (changes : Nat) (store : Backend) : Prop :=
  ∀ version, store.version? = some version → version + changes < 0x8000000000000000

/-- Whether a store counts a number of changes.  A database fails rather than count beyond 64
bits. -/
def Counts (changes : Nat) : Backend → Prop
  | .memory _ => True
  | .tables base => ∀ version, base.metadata.join = some version → version + changes ≤ maxSigned64

def count : Backend → Except Failure (Int × Backend)
  | .memory kept =>
    .ok (kept.version + 1, .memory { kept with version := kept.version + 1 })
  | .tables base => do
    match ← base.metadataRow with
    | some version =>
      let version ← Tables.countUp "version" version
      .ok (version, .tables { base with metadata := some (some version) })
    | none => .error DatabaseError.rowMissing.toFailure

@[simp] theorem version?_atVersion (version : Int) (store : Backend) :
    (store.atVersion version).version? = some version := by
  cases store <;> rfl

@[simp] theorem atVersion_atVersion (former latter : Int) (store : Backend) :
    (store.atVersion former).atVersion latter = store.atVersion latter := by
  cases store <;> rfl

theorem atVersion_self (known : store.version? = some version) : store.atVersion version = store := by
  cases store with
  | memory kept =>
      cases known
      rfl
  | tables base =>
      rw [atVersion, ← Option.join_eq_some_iff.mp known]

/-- What was counted leaves less room. -/
theorem counts_atVersion_succ (known : store.version? = some version) (changes : Nat) :
    (store.atVersion (version + 1)).Counts changes ↔ store.Counts (changes + 1) := by
  cases store with
  | memory kept => exact Iff.rfl
  | tables base =>
      change (∀ counted, some (version + 1) = some counted → _) ↔
        ∀ counted, base.metadata.join = some counted → _
      have same : base.metadata.join = some version := known
      rw [same]
      simp only [Option.some.injEq, forall_eq']
      push_cast
      rw [Int.add_assoc, Int.add_comm 1]

theorem Counts.mono {fewer changes : Nat} (room : store.Counts changes) (le : fewer ≤ changes) :
    store.Counts fewer := by
  cases store with
  | memory kept => trivial
  | tables base =>
      intro version known
      have enough := room version known
      omega

theorem HasRoom.counts {changes : Nat} (room : store.HasRoom changes) : store.Counts changes := by
  cases store with
  | memory kept => trivial
  | tables base =>
      intro version known
      have enough := room version known
      unfold maxSigned64
      omega

theorem Counts.hasRoom {changes : Nat} (counts : store.Counts changes)
    (isTables : store.kind = .tables) : store.HasRoom changes := by
  cases store with
  | memory kept => cases isTables
  | tables base =>
      intro version known
      have enough := counts version known
      unfold maxSigned64 at enough
      omega

/-- A change is counted where there is room for it. -/
theorem count_eq_ok_iff {counted : Int} : store.count = .ok (counted, after) ↔
    store.Counts 1 ∧ ∃ version, store.version? = some version ∧ counted = version + 1 ∧
      after = store.atVersion counted := by
  cases store with
  | memory kept =>
      constructor
      · rintro ⟨⟩
        exact ⟨trivial, _, rfl, rfl, rfl⟩
      · rintro ⟨_, _, ⟨⟩, rfl, rfl⟩
        rfl
  | tables base =>
      rcases base with ⟨mappings, _ | _ | version, isOpen⟩
      · exact ⟨nofun, nofun⟩
      · exact ⟨nofun, nofun⟩
      · by_cases room : version < maxSigned64
        · have counts : (tables ⟨mappings, some (some version), isOpen⟩).count =
              .ok (version + 1, .tables ⟨mappings, some (some (version + 1)), isOpen⟩) := by
            simp [count, Tables.metadataRow, Tables.countUp, room]
          rw [counts]
          constructor
          · rintro ⟨⟩
            exact ⟨fun _ known => Option.some.inj known ▸ Int.add_one_le_of_lt room,
              version, rfl, rfl, rfl⟩
          · rintro ⟨_, _, ⟨⟩, rfl, rfl⟩
            rfl
        · have fails : ∃ failure,
              (tables ⟨mappings, some (some version), isOpen⟩).count = .error failure := by
            simp [count, Tables.metadataRow, Tables.countUp, room]
          rcases fails with ⟨failure, fails⟩
          rw [fails]
          constructor
          · nofun
          · rintro ⟨enough, _⟩
            exact absurd (Int.lt_of_add_one_le (enough version rfl)) room

/-! ## Inserting -/

/-- Inserts a record without counting a change. -/
def insert (now : Time.Instant) (mapping : NewMapping) : Backend → Except Failure (Record × Backend)
  | .memory kept =>
    if kept.records.contains mapping.bpn then .error (.alreadyMapped mapping.bpn)
    else .ok (mapping.create now,
      .memory { kept with records := kept.records.insert mapping.bpn (mapping.create now) })
  | .tables base => do
    base.connect
    let (record, rows) ←
      Tables.insertRow (← base.mappingTable) mapping.bpn mapping.did now.toMicrosText
    .ok (record, .tables { base with mappings := some rows })

def insertAll (now : Time.Instant) :
    List NewMapping → Backend → Except Failure (List Record × Backend)
  | [], store => .ok ([], store)
  | mapping :: rest, store => do
    let (record, store) ← store.insert now mapping
    let (records, store) ← insertAll now rest store
    .ok (record :: records, store)

theorem insertAll_cons_eq_ok_iff {rest : List NewMapping} :
    insertAll now (mapping :: rest) store = .ok (records, inserted) ↔
      ∃ first one others, store.insert now mapping = .ok (first, one) ∧
        insertAll now rest one = .ok (others, inserted) ∧ records = first :: others := by
  rw [insertAll, bind_eq_ok]
  constructor
  · rintro ⟨⟨first, one⟩, insertedFirst, done⟩
    rcases bind_eq_ok.mp done with ⟨⟨others, last⟩, insertedRest, done⟩
    cases done
    exact ⟨first, one, others, insertedFirst, insertedRest, rfl⟩
  · rintro ⟨first, one, others, insertedFirst, insertedRest, rfl⟩
    exact ⟨(first, one), insertedFirst, bind_eq_ok.mpr ⟨(others, inserted), insertedRest, rfl⟩⟩

/-- Inserting takes no notice of the directory version. -/
theorem insert_atVersion (version : Int) (store : Backend) :
    (store.atVersion version).insert now mapping =
      (store.insert now mapping).map fun result => (result.1, result.2.atVersion version) := by
  cases store with
  | memory kept =>
      simp only [atVersion, insert]
      split <;> rfl
  | tables base =>
      change (base.connect >>= fun _ => base.mappingTable >>= fun table =>
        Tables.insertRow table mapping.bpn mapping.did now.toMicrosText >>= fun result => _) =
          (base.connect >>= fun _ => base.mappingTable >>= fun table =>
            Tables.insertRow table mapping.bpn mapping.did now.toMicrosText >>= fun result => _).map _
      cases base.connect with
      | error failure => rfl
      | ok _ =>
          cases base.mappingTable with
          | error failure => rfl
          | ok table =>
              rw [ok_bind, ok_bind, ok_bind, ok_bind]
              cases Tables.insertRow table mapping.bpn mapping.did now.toMicrosText <;> rfl

theorem insertAll_atVersion (version : Int) (batch : List NewMapping) (store : Backend) :
    insertAll now batch (store.atVersion version) =
      (insertAll now batch store).map fun result => (result.1, result.2.atVersion version) := by
  induction batch generalizing store with
  | nil => rfl
  | cons mapping rest ih =>
      rw [insertAll, insertAll, insert_atVersion]
      cases store.insert now mapping with
      | error failure => rfl
      | ok result =>
          change insertAll now rest (result.2.atVersion version) >>= _ =
            (insertAll now rest result.2 >>= _).map _
          rw [ih]
          cases insertAll now rest result.2 <;> rfl

/-- Inserting leaves the directory version. -/
theorem version?_of_insert (done : store.insert now mapping = .ok (record, inserted)) :
    inserted.version? = store.version? ∧
      ∀ changes, inserted.Counts changes ↔ store.Counts changes := by
  cases store with
  | memory kept =>
      simp only [insert] at done
      split at done
      · cases done
      · cases done
        exact ⟨rfl, fun _ => Iff.rfl⟩
  | tables base =>
      rcases bind_eq_ok.mp done with ⟨_, _, done⟩
      rcases bind_eq_ok.mp done with ⟨table, _, done⟩
      rcases bind_eq_ok.mp done with ⟨result, _, done⟩
      cases done
      exact ⟨rfl, fun _ => Iff.rfl⟩

theorem version?_of_insertAll (done : insertAll now batch store = .ok (records, inserted)) :
    inserted.version? = store.version? ∧
      ∀ changes, inserted.Counts changes ↔ store.Counts changes := by
  induction batch generalizing store records with
  | nil =>
      cases done
      exact ⟨rfl, fun _ => Iff.rfl⟩
  | cons mapping rest ih =>
      rcases insertAll_cons_eq_ok_iff.mp done with ⟨first, one, others, insertedFirst, insertedRest, _⟩
      rcases version?_of_insert insertedFirst with ⟨known, room⟩
      rcases ih insertedRest with ⟨same, still⟩
      exact ⟨same.trans known, fun changes => (still changes).trans (room changes)⟩

/-! ## Calls on either store -/

theorem call_memory_eq_ok_iff {α : Type} {onMemory : Call Memory α} {onTables : Call Tables α}
    {kept : Memory} {value : α} : call onMemory onTables (.memory kept) = (.ok value, after) ↔
      ∃ last, onMemory kept = (.ok value, last) ∧ after = .memory last := by
  change ((onMemory kept).1, memory (onMemory kept).2) = _ ↔ _
  constructor
  · intro called
    have ends : (onMemory kept).1 = .ok value := congrArg Prod.fst called
    cases congrArg Prod.snd called
    exact ⟨_, Prod.ext ends rfl, rfl⟩
  · rintro ⟨last, called, rfl⟩
    rw [called]

theorem call_tables_eq_ok_iff {α : Type} {onMemory : Call Memory α} {onTables : Call Tables α}
    {base : Tables} {value : α} : call onMemory onTables (.tables base) = (.ok value, after) ↔
      ∃ last, onTables base = (.ok value, last) ∧ after = .tables last := by
  change ((onTables base).1, tables (onTables base).2) = _ ↔ _
  constructor
  · intro called
    have ends : (onTables base).1 = .ok value := congrArg Prod.fst called
    cases congrArg Prod.snd called
    exact ⟨_, Prod.ext ends rfl, rfl⟩
  · rintro ⟨last, called, rfl⟩
    rw [called]

theorem insert_memory_eq_ok_iff {kept : Memory} :
    (memory kept).insert now mapping = .ok (record, inserted) ↔
      kept.records.find? mapping.bpn = none ∧ record = mapping.create now ∧
        inserted = .memory
          { kept with records := kept.records.insert mapping.bpn (mapping.create now) } := by
  cases found : kept.records.find? mapping.bpn with
  | some old => simp [insert, OrderedMap.contains, found]
  | none => simp [insert, OrderedMap.contains, found, eq_comm]

theorem insert_tables_eq_ok_iff {base : Tables} :
    (tables base).insert now mapping = .ok (record, inserted) ↔
      base.connect = .ok () ∧ ∃ table rows, base.mappingTable = .ok table ∧
        Tables.insertRow table mapping.bpn mapping.did now.toMicrosText = .ok (record, rows) ∧
        inserted = .tables { base with mappings := some rows } := by
  constructor
  · intro done
    rcases bind_eq_ok.mp done with ⟨_, reached, done⟩
    rcases bind_eq_ok.mp done with ⟨table, found, done⟩
    rcases bind_eq_ok.mp done with ⟨⟨record, rows⟩, row, done⟩
    cases done
    exact ⟨reached, table, rows, found, row, rfl⟩
  · rintro ⟨reached, table, rows, found, row, rfl⟩
    simp only [insert, reached, found, row, ok_bind]

/-- The transaction of a database ends by counting the change. -/
theorem commit_eq_ok_iff {α : Type} {base last : Tables} {table : OrderedMap Row} {value : α}
    {committed : Committed α} : base.commit table value = .ok (committed, last) ↔
      committed.value = value ∧ (tables { base with mappings := some table }).count =
        .ok (committed.directoryVersion, .tables last) := by
  rcases committed with ⟨told, version⟩
  rcases base with ⟨mappings, _ | _ | before, isOpen⟩
  · simp [Tables.commit, count, Tables.metadataRow]
  · simp [Tables.commit, count, Tables.metadataRow]
  · by_cases room : before < maxSigned64
    · simp [Tables.commit, count, Tables.metadataRow, Tables.countUp, room, eq_comm, and_assoc]
    · simp [Tables.commit, count, Tables.metadataRow, Tables.countUp, room]

/-- To create a record is to check its mapping, to insert it and to count the change. -/
theorem put_eq_ok_iff {committed : Committed Record} :
    MappingStore.put now mapping.bpn mapping.did none store = (.ok committed, after) ↔
      requireMapping mapping.bpn mapping.did = .ok () ∧
        ∃ inserted, store.insert now mapping = .ok (committed.value, inserted) ∧
          inserted.count = .ok (committed.directoryVersion, after) := by
  rcases committed with ⟨told, version⟩
  cases store with
  | memory kept =>
      refine call_memory_eq_ok_iff.trans ?_
      constructor
      · rintro ⟨last, put, rfl⟩
        rcases Memory.put_cases now mapping.bpn mapping.did none kept with
          ⟨failure, failed⟩ | ⟨valid, record, done, ⟨_, vacant, rfl⟩ | ⟨_, absurdity, _⟩⟩
        · cases failed.symm.trans put
        · cases done.symm.trans put
          exact ⟨valid, _, insert_memory_eq_ok_iff.mpr ⟨vacant, rfl, rfl⟩, rfl⟩
        · cases absurdity
      · rintro ⟨valid, inserted, done, counted⟩
        rcases insert_memory_eq_ok_iff.mp done with ⟨vacant, same, rfl⟩
        rcases count_eq_ok_iff.mp counted with ⟨_, before, known, rfl, rfl⟩
        obtain rfl : told = mapping.create now := same
        cases known
        refine ⟨_, ?_, rfl⟩
        change Memory.put now mapping.bpn mapping.did none kept = _
        simp only [Memory.put, transaction, valid, vacant, ok_bind]
        rfl
  | tables base =>
      refine call_tables_eq_ok_iff.trans ?_
      constructor
      · rintro ⟨last, put, rfl⟩
        have done := transaction_eq_ok_iff.mp
          (show Tables.put now mapping.bpn mapping.did none base = (.ok ⟨told, version⟩, last) from put)
        rcases bind_eq_ok.mp done with ⟨_, valid, done⟩
        rcases bind_eq_ok.mp done with ⟨_, reached, done⟩
        rcases bind_eq_ok.mp done with ⟨table, found, done⟩
        rcases bind_eq_ok.mp done with ⟨⟨record, rows⟩, row, done⟩
        rcases commit_eq_ok_iff.mp done with ⟨rfl, counted⟩
        exact ⟨valid, _, insert_tables_eq_ok_iff.mpr ⟨reached, table, rows, found, row, rfl⟩, counted⟩
      · rintro ⟨valid, inserted, done, counted⟩
        rcases insert_tables_eq_ok_iff.mp done with ⟨reached, table, rows, found, row, rfl⟩
        rcases count_eq_ok_iff.mp counted with ⟨_, _, _, _, rfl⟩
        refine ⟨_, ?_, rfl⟩
        change Tables.put now mapping.bpn mapping.did none base = _
        refine transaction_eq_ok_iff.mpr ?_
        simp only [valid, reached, found, row, ok_bind]
        exact commit_eq_ok_iff.mpr ⟨rfl, counted⟩

/-! ## Many records -/

/-- Records in memory are inserted one after the other where their BPNs are vacant and
different. -/
theorem insertAll_memory_eq_ok_iff {kept : Memory} :
    insertAll now batch (.memory kept) = .ok (records, inserted) ↔
      (batch.map NewMapping.bpn).Nodup ∧
        (∀ mapping ∈ batch, kept.records.find? mapping.bpn = none) ∧
        records = batch.map (fun mapping => mapping.create now) ∧
        inserted = .memory { kept with
          records :=
            Memory.withCreated kept.records (batch.map fun mapping => mapping.create now) } := by
  induction batch generalizing kept records with
  | nil => simp [insertAll, Memory.withCreated, eq_comm]
  | cons mapping rest ih =>
      rw [insertAll_cons_eq_ok_iff]
      constructor
      · rintro ⟨first, one, others, insertedFirst, insertedRest, rfl⟩
        rcases insert_memory_eq_ok_iff.mp insertedFirst with ⟨vacant, rfl, rfl⟩
        rcases ih.mp insertedRest with ⟨distinct, free, rfl, rfl⟩
        have apart : ∀ other ∈ rest, mapping.bpn ≠ other.bpn ∧ kept.records.find? other.bpn = none := by
          intro other member
          have clear := free other member
          rw [OrderedMap.find?_insert] at clear
          split at clear
          · cases clear
          · next different => exact ⟨different, clear⟩
        refine ⟨?_, ?_, rfl, rfl⟩
        · refine List.nodup_cons.mpr ⟨?_, distinct⟩
          intro repeated
          rcases List.mem_map.mp repeated with ⟨other, member, same⟩
          exact (apart other member).1 same.symm
        · intro other member
          rcases List.mem_cons.mp member with rfl | later
          · exact vacant
          · exact (apart other later).2
      · rintro ⟨distinct, free, rfl, rfl⟩
        rcases List.nodup_cons.mp distinct with ⟨apart, others⟩
        refine ⟨_, _, _, insert_memory_eq_ok_iff.mpr ⟨free mapping List.mem_cons_self, rfl, rfl⟩,
          ih.mpr ⟨others, ?_, rfl, rfl⟩, rfl⟩
        intro other member
        rw [OrderedMap.find?_insert, if_neg, free other (List.mem_cons_of_mem mapping member)]
        intro same
        exact apart (List.mem_map.mpr ⟨other, member, same.symm⟩)

/-- The rows of a database are inserted one after the other by the statements of a batch. -/
theorem insertAll_tables_eq_ok_iff {base : Tables} {table : OrderedMap Row}
    (reached : base.connect = .ok ()) (found : base.mappings = some table) :
    insertAll now batch (.tables base) = .ok (records, inserted) ↔
      ∃ rows, Tables.insertRows now.toMicrosText table batch = .ok (records, rows) ∧
        inserted = .tables { base with mappings := some rows } := by
  induction batch generalizing base table records with
  | nil =>
      have same : { base with mappings := some table } = base := by rw [← found]
      constructor
      · rintro ⟨⟩
        exact ⟨table, rfl, congrArg _ same.symm⟩
      · rintro ⟨_, ⟨⟩, rfl⟩
        rw [same]
        rfl
  | cons mapping rest ih =>
      have still : ∀ rows, ({ base with mappings := some rows } : Tables).connect = .ok () :=
        fun _ => reached
      rw [insertAll_cons_eq_ok_iff]
      constructor
      · rintro ⟨first, one, others, insertedFirst, insertedRest, rfl⟩
        rcases insert_tables_eq_ok_iff.mp insertedFirst with ⟨_, same, rows, there, row, rfl⟩
        cases found.symm.trans (Tables.mappingTable_eq_ok_iff.mp there)
        rcases (ih (still rows) rfl).mp insertedRest with ⟨last, following, rfl⟩
        exact ⟨last, bind_eq_ok.mpr ⟨_, row, bind_eq_ok.mpr ⟨_, following, rfl⟩⟩, rfl⟩
      · rintro ⟨rows, done, rfl⟩
        rcases bind_eq_ok.mp done with ⟨⟨first, one⟩, row, done⟩
        rcases bind_eq_ok.mp done with ⟨⟨others, last⟩, following, done⟩
        cases done
        have there := Tables.mappingTable_eq_ok_iff.mpr found
        exact ⟨first, _, others, insert_tables_eq_ok_iff.mpr ⟨reached, table, one, there, row, rfl⟩,
          (ih (still one) rfl).mpr ⟨_, following, rfl⟩, rfl⟩

def IsReached : Backend → Prop
  | .memory _ => True
  | .tables base => base.connect = .ok ()

/-- A database that rows were inserted into can be reached and has its table. -/
theorem exists_table_of_insertAll {base : Tables} (filled : batch ≠ [])
    (done : insertAll now batch (.tables base) = .ok (records, inserted)) :
    base.connect = .ok () ∧ ∃ table, base.mappings = some table := by
  cases batch with
  | nil => exact absurd rfl filled
  | cons mapping rest =>
      rcases insertAll_cons_eq_ok_iff.mp done with ⟨_, _, _, insertedFirst, _, _⟩
      rcases insert_tables_eq_ok_iff.mp insertedFirst with ⟨reached, table, _, found, _, _⟩
      exact ⟨reached, table, Tables.mappingTable_eq_ok_iff.mp found⟩

theorem isReached_of_insertAll (filled : batch ≠ [])
    (done : insertAll now batch store = .ok (records, inserted)) :
    store.IsReached ∧ inserted.IsReached := by
  cases store with
  | memory kept =>
      rcases insertAll_memory_eq_ok_iff.mp done with ⟨_, _, _, rfl⟩
      exact ⟨trivial, trivial⟩
  | tables base =>
      rcases exists_table_of_insertAll filled done with ⟨reached, table, found⟩
      rcases (insertAll_tables_eq_ok_iff reached found).mp done with ⟨_, _, rfl⟩
      exact ⟨reached, reached⟩

/-- To create the records of a batch is to check them, to insert them and to count a single
change. -/
theorem putBatch_eq_ok_iff (filled : batch ≠ []) {committed : Committed (List Record)} :
    MappingStore.putBatch now batch store = (.ok committed, after) ↔
      requireBatch batch = .ok () ∧
        ∃ inserted, insertAll now batch store = .ok (committed.value, inserted) ∧
          inserted.count = .ok (committed.directoryVersion, after) := by
  rcases committed with ⟨told, version⟩
  cases store with
  | memory kept =>
      refine call_memory_eq_ok_iff.trans ?_
      constructor
      · rintro ⟨last, put, rfl⟩
        rcases Memory.putBatch_cases now batch kept with
          ⟨failure, failed⟩ | ⟨isEmpty, _⟩ | ⟨_, valid, vacant, done⟩
        · cases failed.symm.trans put
        · exact absurd isEmpty filled
        · cases done.symm.trans put
          have distinct := (requireBatch_eq_ok_iff.mp valid).2
          exact ⟨valid, _, insertAll_memory_eq_ok_iff.mpr ⟨distinct, vacant, rfl, rfl⟩, rfl⟩
      · rintro ⟨valid, inserted, done, counted⟩
        rcases insertAll_memory_eq_ok_iff.mp done with ⟨_, vacant, same, rfl⟩
        rcases count_eq_ok_iff.mp counted with ⟨_, before, known, rfl, rfl⟩
        obtain rfl : told = batch.map fun mapping => mapping.create now := same
        cases known
        have clear : (batch.find? fun mapping => kept.records.contains mapping.bpn) = none := by
          refine List.find?_eq_none.mpr fun mapping member => ?_
          simp [OrderedMap.contains, vacant mapping member]
        refine ⟨_, ?_, rfl⟩
        change Memory.putBatch now batch kept = _
        simp only [Memory.putBatch, transaction, valid, clear, ok_bind]
        rw [if_neg (by simpa using filled)]
        rfl
  | tables base =>
      refine call_tables_eq_ok_iff.trans ?_
      constructor
      · rintro ⟨last, put, rfl⟩
        have done := transaction_eq_ok_iff.mp
          (show Tables.putBatch now batch base = (.ok ⟨told, version⟩, last) from put)
        rcases bind_eq_ok.mp done with ⟨_, valid, done⟩
        rw [if_neg (by simpa using filled)] at done
        rcases bind_eq_ok.mp done with ⟨_, reached, done⟩
        rcases bind_eq_ok.mp done with ⟨table, found, done⟩
        rcases bind_eq_ok.mp done with ⟨⟨records, rows⟩, row, done⟩
        rcases commit_eq_ok_iff.mp done with ⟨rfl, counted⟩
        have there := Tables.mappingTable_eq_ok_iff.mp found
        exact ⟨valid, _, (insertAll_tables_eq_ok_iff reached there).mpr ⟨rows, row, rfl⟩, counted⟩
      · rintro ⟨valid, inserted, done, counted⟩
        rcases exists_table_of_insertAll filled done with ⟨reached, table, there⟩
        have found := Tables.mappingTable_eq_ok_iff.mpr there
        rcases (insertAll_tables_eq_ok_iff reached there).mp done with ⟨rows, row, rfl⟩
        rcases count_eq_ok_iff.mp counted with ⟨_, _, _, _, rfl⟩
        refine ⟨_, ?_, rfl⟩
        change Tables.putBatch now batch base = _
        refine transaction_eq_ok_iff.mpr ?_
        simp only [valid, ok_bind]
        rw [if_neg (by simpa using filled)]
        simp only [reached, found, row, ok_bind]
        exact commit_eq_ok_iff.mpr ⟨rfl, counted⟩

theorem putEach_cons_eq_ok_iff {rest : List NewMapping} :
    putEach now (mapping :: rest) store = .ok (records, after) ↔
      ∃ committed one others,
        MappingStore.put now mapping.bpn mapping.did none store = (.ok committed, one) ∧
          putEach now rest one = .ok (others, after) ∧ records = committed.value :: others := by
  rw [putEach]
  split
  · next failed => simp [failed]
  · next committed one put =>
      rw [bind_eq_ok]
      constructor
      · rintro ⟨⟨others, last⟩, following, done⟩
        cases done
        exact ⟨committed, one, others, put, following, rfl⟩
      · rintro ⟨_, _, others, same, following, rfl⟩
        cases put.symm.trans same
        exact ⟨(others, after), following, rfl⟩

/-- One by one, the records are inserted and as many changes are counted as there are
records. -/
theorem putEach_eq_ok_iff (known : store.version? = some version) :
    putEach now batch store = .ok (records, after) ↔
      (∀ mapping ∈ batch, requireMapping mapping.bpn mapping.did = .ok ()) ∧
        (batch ≠ [] → store.Counts batch.length) ∧
        ∃ inserted, insertAll now batch store = .ok (records, inserted) ∧
          after = inserted.atVersion (version + batch.length) := by
  induction batch generalizing store version records with
  | nil =>
      have same : store.atVersion (version + ([] : List NewMapping).length) = store :=
        atVersion_self (known.trans (congrArg some (Int.add_zero version).symm))
      constructor
      · rintro ⟨⟩
        exact ⟨nofun, absurd rfl, _, rfl, same.symm⟩
      · rintro ⟨_, _, _, ⟨⟩, rfl⟩
        rw [same]
        rfl
  | cons mapping rest ih =>
      have total : version + 1 + rest.length = version + (mapping :: rest).length := by
        rw [List.length_cons]
        omega
      rw [putEach_cons_eq_ok_iff]
      constructor
      · rintro ⟨committed, one, others, put, following, rfl⟩
        rcases put_eq_ok_iff.mp put with ⟨valid, first, insertedFirst, counted⟩
        rcases version?_of_insert insertedFirst with ⟨still, room⟩
        rcases count_eq_ok_iff.mp counted with ⟨enough, before, same, counts, rfl⟩
        cases same.symm.trans (still.trans known)
        rw [counts] at following
        rcases (ih (version?_atVersion _ _)).mp following with ⟨others, roomy, last, insertedRest, rfl⟩
        rw [insertAll_atVersion] at insertedRest
        rcases map_eq_ok_iff.mp insertedRest with ⟨⟨_, inserted⟩, done, ⟨⟩⟩
        refine ⟨List.forall_mem_cons.mpr ⟨valid, others⟩, fun _ => ?_, inserted,
          insertAll_cons_eq_ok_iff.mpr ⟨_, first, _, insertedFirst, done, rfl⟩, ?_⟩
        · by_cases isLast : rest = []
          · subst isLast
            exact (room 1).mp enough
          · exact (room _).mp ((counts_atVersion_succ same rest.length).mp (roomy isLast))
        · rw [atVersion_atVersion, total]
      · rintro ⟨valid, roomy, inserted, done, rfl⟩
        rcases List.forall_mem_cons.mp valid with ⟨validFirst, validRest⟩
        rcases insertAll_cons_eq_ok_iff.mp done with
          ⟨first, one, others, insertedFirst, insertedRest, rfl⟩
        rcases version?_of_insert insertedFirst with ⟨still, room⟩
        have enough := (room _).mpr (roomy (List.cons_ne_nil mapping rest))
        have same := still.trans known
        have counted : one.count = .ok (version + 1, one.atVersion (version + 1)) :=
          count_eq_ok_iff.mpr
            ⟨enough.mono (Nat.succ_le_succ (Nat.zero_le _)), version, same, rfl, rfl⟩
        have put : MappingStore.put now mapping.bpn mapping.did none store =
            (.ok ⟨first, version + 1⟩, one.atVersion (version + 1)) :=
          put_eq_ok_iff.mpr ⟨validFirst, one, insertedFirst, counted⟩
        have following : putEach now rest (one.atVersion (version + 1)) =
            .ok (others, inserted.atVersion (version + (mapping :: rest).length)) := by
          apply (ih (version?_atVersion _ _)).mpr
          refine ⟨validRest, ?_, inserted.atVersion (version + 1), ?_, ?_⟩
          · exact fun _ => (counts_atVersion_succ same rest.length).mpr enough
          · rw [insertAll_atVersion, insertedRest]
            rfl
          · rw [atVersion_atVersion, total]
        exact ⟨_, _, others, put, following, rfl⟩

/-! ## The comparison -/

/-- The records of a store do not depend on its directory version. -/
theorem get_atVersion (bpn : String) (version : Int) (store : Backend) :
    (MappingStore.get bpn (store.atVersion version)).1 = (MappingStore.get bpn store).1 := by
  cases store <;> rfl

theorem directoryVersion_eq (reached : store.IsReached) (known : store.version? = some version) :
    (MappingStore.directoryVersion store).1 = .ok version := by
  cases store with
  | memory kept => exact congrArg Except.ok (Option.some.inj known)
  | tables base =>
      have opened : base.connect = .ok () := reached
      change base.readVersion = .ok version
      have row := Option.join_eq_some_iff.mp known
      simp only [Tables.readVersion, Tables.metadataRow, opened, row, ok_bind]
      rfl

/-- A batch is a single change of the directory version.  Where as many changes are counted as it
has records, these can be created one by one as well, and only the directory
version tells afterwards how they were created. -/
theorem diverge_of_putBatch (filled : batch ≠ []) {committed : Committed (List Record)}
    (put : MappingStore.putBatch now batch store = (.ok committed, after)) :
    ∃ version, (MappingStore.directoryVersion store).1 = .ok version ∧
      (MappingStore.directoryVersion after).1 = .ok (version + 1) ∧
      (store.Counts batch.length → ∃ last, putEach now batch store = .ok (committed.value, last) ∧
        (∀ bpn, (MappingStore.get bpn after).1 = (MappingStore.get bpn last).1) ∧
        (MappingStore.directoryVersion last).1 = .ok (version + batch.length)) := by
  rcases (putBatch_eq_ok_iff filled).mp put with ⟨valid, inserted, done, counted⟩
  rcases count_eq_ok_iff.mp counted with ⟨_, version, still, counts, rfl⟩
  have known : store.version? = some version := (version?_of_insertAll done).1.symm.trans still
  rcases isReached_of_insertAll filled done with ⟨before, afterwards⟩
  have reads : ∀ counted,
      (MappingStore.directoryVersion (inserted.atVersion counted)).1 = .ok counted := by
    intro counted
    apply directoryVersion_eq
    · cases inserted <;> exact afterwards
    · exact version?_atVersion counted inserted
  refine ⟨version, directoryVersion_eq before known, ?_, ?_⟩
  · rw [counts]
    exact reads (version + 1)
  · intro room
    refine ⟨inserted.atVersion (version + batch.length), ?_, ?_, reads _⟩
    · apply (putEach_eq_ok_iff known).mpr
      exact ⟨(requireBatch_eq_ok_iff.mp valid).1, fun _ => room, inserted, done, rfl⟩
    · intro bpn
      rw [get_atVersion, get_atVersion]

theorem exists_version?_of_putEach (filled : batch ≠ [])
    (done : putEach now batch store = .ok (records, after)) :
    ∃ version, store.version? = some version := by
  cases batch with
  | nil => exact absurd rfl filled
  | cons mapping rest =>
      rcases putEach_cons_eq_ok_iff.mp done with ⟨committed, one, _, put, _, _⟩
      rcases put_eq_ok_iff.mp put with ⟨_, inserted, insertedFirst, counted⟩
      rcases count_eq_ok_iff.mp counted with ⟨_, version, known, _, _⟩
      exact ⟨version, (version?_of_insert insertedFirst).1.symm.trans known⟩

theorem counts_of_putEach (filled : batch ≠ [])
    (done : putEach now batch store = .ok (records, after)) : store.Counts batch.length := by
  rcases exists_version?_of_putEach filled done with ⟨version, known⟩
  exact ((putEach_eq_ok_iff known).mp done).2.1 filled

theorem counts_of_putBatch (filled : batch ≠ []) {committed : Committed (List Record)}
    (put : MappingStore.putBatch now batch store = (.ok committed, after)) : store.Counts 1 := by
  rcases (putBatch_eq_ok_iff filled).mp put with ⟨_, inserted, done, counted⟩
  exact ((version?_of_insertAll done).2 1).mp (count_eq_ok_iff.mp counted).1

/-- The records of a batch can be created one by one, and their BPNs are different, if and
only if the batch succeeds and as many changes are counted as it has records. -/
theorem putBatch_iff_putEach (filled : batch ≠ []) :
    (∃ committed after, MappingStore.putBatch now batch store = (.ok committed, after)) ∧
        store.Counts batch.length ↔
      (batch.map NewMapping.bpn).Nodup ∧
        ∃ records after, putEach now batch store = .ok (records, after) := by
  constructor
  · rintro ⟨⟨committed, after, put⟩, room⟩
    rcases diverge_of_putBatch filled put with ⟨version, _, _, makes⟩
    rcases makes room with ⟨last, each, _⟩
    have valid := ((putBatch_eq_ok_iff filled).mp put).1
    exact ⟨(requireBatch_eq_ok_iff.mp valid).2, _, _, each⟩
  · rintro ⟨distinct, records, last, each⟩
    rcases exists_version?_of_putEach filled each with ⟨version, known⟩
    rcases (putEach_eq_ok_iff known).mp each with ⟨valid, roomy, inserted, done, _⟩
    rcases version?_of_insertAll done with ⟨still, same⟩
    have room : store.Counts batch.length := roomy filled
    have enough : inserted.Counts 1 :=
      ((same _).mpr room).mono (List.length_pos_iff.mpr filled)
    have counted : inserted.count = .ok (version + 1, inserted.atVersion (version + 1)) :=
      count_eq_ok_iff.mpr ⟨enough, version, still.trans known, rfl, rfl⟩
    have put : MappingStore.putBatch now batch store =
        (.ok ⟨records, version + 1⟩, inserted.atVersion (version + 1)) :=
      (putBatch_eq_ok_iff filled).mpr
        ⟨requireBatch_eq_ok_iff.mpr ⟨valid, distinct⟩, inserted, done, counted⟩
    exact ⟨⟨_, _, put⟩, room⟩

end Backend
end Store
end BpnDirectory
