import BpnDirectory.Proofs.Store.Exchange
import BpnDirectory.Proofs.Store.Memory
import BpnDirectory.Store.Tables
import Mathlib.Data.List.Find
import Mathlib.Data.List.Nodup

namespace BpnDirectory
namespace Store

/-!
A database that mirrors records in memory.

A database mirrors a store in memory if its table has one row for each record,
with the instants of the record as texts, and its counter shows the same number
of changes.  While it does, each of its statements yields what the records in
memory yield, so a call has the same reply on both and leaves a mirror behind.
-/

open Text (maxSigned64)

def Row.ofRecord (record : Record) : Row :=
  ⟨record.did, record.version, record.createdAt.toMicrosText, record.updatedAt.toMicrosText⟩

/-- Whether a store in memory could have come to keep a record for a BPN. -/
structure Memory.Sound (store : Memory) (bpn : String) (record : Record) : Prop where
  bpn_eq : record.bpn = bpn
  valid : requireBpn bpn = .ok ()
  created : record.createdAt.IsStamp
  updated : record.updatedAt.IsStamp
  version_le : record.version ≤ store.version

/-- A later store could have come to keep the record as well. -/
theorem Memory.Sound.mono {store later : Memory} {bpn : String} {record : Record}
    (sound : store.Sound bpn record) (grown : store.version ≤ later.version) :
    later.Sound bpn record :=
  { sound with version_le := Int.le_trans sound.version_le grown }

/-- A sound record is still sound after its DID was replaced. -/
theorem Memory.Sound.replace {store : Memory} {bpn : String} {record : Record}
    (sound : store.Sound bpn record) (did : String) {now : Time.Instant} (stamp : now.IsStamp)
    (records : OrderedMap Record) :
    Memory.Sound ⟨records, store.version + 1⟩ bpn (record.replace did now) where
  bpn_eq := sound.bpn_eq
  valid := sound.valid
  created := sound.created
  updated := stamp
  version_le := Int.add_le_add_right sound.version_le 1

/-- Whether a database mirrors a store in memory. -/
structure Mirrors (memory : Memory) (tables : Tables) : Prop where
  mappings : tables.mappings = some (memory.records.mapValues Row.ofRecord)
  metadata : tables.metadata = some (some memory.version)
  isOpen : tables.isOpen = true
  nonneg : 0 ≤ memory.version
  sound : ∀ bpn record, memory.records.find? bpn = some record → memory.Sound bpn record

namespace Tables

theorem readInstant_toMicrosText {instant : Time.Instant} (stamp : instant.IsStamp) :
    readInstant instant.toMicrosText = .ok instant := by
  simp [readInstant, stamp.ofText_toMicrosText]

/-- A row is read as the record that it was made for. -/
theorem readRow_ofRecord {record : Record} (created : record.createdAt.IsStamp)
    (updated : record.updatedAt.IsStamp) :
    readRow record.bpn (Row.ofRecord record) = .ok record := by
  simp [readRow, Row.ofRecord, readInstant_toMicrosText created, readInstant_toMicrosText updated,
    bind, Except.bind]

end Tables

namespace Mirrors

open Tables

variable {memory : Memory} {tables : Tables}

/-- The stores that were just opened. -/
theorem fresh : Mirrors .empty .migrated where
  mappings := rfl
  metadata := rfl
  isOpen := rfl
  nonneg := Int.le_refl 0
  sound := fun _ _ found => by cases found

theorem connect_eq (mirrors : Mirrors memory tables) : tables.connect = .ok () := by
  simp [connect, mirrors.isOpen]

theorem mappingTable_eq (mirrors : Mirrors memory tables) :
    tables.mappingTable = .ok (memory.records.mapValues Row.ofRecord) := by
  simp [mappingTable, mirrors.mappings]

theorem readRow_eq (mirrors : Mirrors memory tables) {bpn : String} {record : Record}
    (found : memory.records.find? bpn = some record) :
    readRow bpn (Row.ofRecord record) = .ok record := by
  have sound := mirrors.sound bpn record found
  rw [← sound.bpn_eq]
  exact readRow_ofRecord sound.created sound.updated

/-- Rows that belong to records are read as these records. -/
theorem readRows_eq (mirrors : Mirrors memory tables) {entries : List (String × Record)}
    (kept : ∀ entry ∈ entries, entry ∈ memory.records.entries) :
    readRows (entries.map fun entry => (entry.1, Row.ofRecord entry.2)) =
      .ok (entries.map Prod.snd) := by
  induction entries with
  | nil => rfl
  | cons head rest ih =>
      have found := OrderedMap.find?_eq_some_iff.mpr (kept head List.mem_cons_self)
      have first := mirrors.readRow_eq found
      have others := ih fun entry member => kept entry (List.mem_cons_of_mem head member)
      simp only [readRows, List.map_cons] at others ⊢
      simp [List.mapM_cons, first, others, bind, Except.bind, pure, Except.pure]

theorem mismatch_eq (memory : Memory) (bpn : String) (expected : Int) :
    Tables.mismatch (memory.records.mapValues Row.ofRecord) bpn expected =
      memory.mismatch bpn expected := by
  unfold Tables.mismatch Memory.mismatch
  rw [OrderedMap.find?_mapValues]
  cases memory.records.find? bpn <;> rfl

/-- Counting a change and keeping its records leaves a mirror behind. -/
theorem commit_eq (mirrors : Mirrors memory tables) (bounded : memory.version < maxSigned64)
    {α : Type} (records : OrderedMap Record) (value : α) :
    tables.commit (records.mapValues Row.ofRecord) value =
      .ok (⟨value, memory.version + 1⟩,
        { tables with
          mappings := some (records.mapValues Row.ofRecord)
          metadata := some (some (memory.version + 1)) }) := by
  simp [commit, metadataRow, mirrors.metadata, countUp, bounded, bind, Except.bind]

/-- The mirror after a change whose records are all sound. -/
theorem after_change (mirrors : Mirrors memory tables) (records : OrderedMap Record)
    (sound : ∀ bpn record, records.find? bpn = some record →
      Memory.Sound ⟨records, memory.version + 1⟩ bpn record) :
    Mirrors ⟨records, memory.version + 1⟩
      { tables with
        mappings := some (records.mapValues Row.ofRecord)
        metadata := some (some (memory.version + 1)) } where
  mappings := rfl
  metadata := rfl
  isOpen := mirrors.isOpen
  nonneg := by
    have nonneg := mirrors.nonneg
    change 0 ≤ memory.version + 1
    omega
  sound := sound

/-! ## Calls that change records -/

theorem insertRow_eq (records : OrderedMap Record) (bpn did : String) {now : Time.Instant}
    (stamp : now.IsStamp) :
    insertRow (records.mapValues Row.ofRecord) bpn did now.toMicrosText =
      match records.find? bpn with
      | some _ => .error (.alreadyMapped bpn)
      | none =>
        .ok (NewMapping.create ⟨bpn, did⟩ now,
          (records.insert bpn (NewMapping.create ⟨bpn, did⟩ now)).mapValues Row.ofRecord) := by
  unfold insertRow
  rw [OrderedMap.contains_mapValues, OrderedMap.contains]
  cases records.find? bpn with
  | some old => rfl
  | none =>
      have read : readRow bpn ⟨did, 1, now.toMicrosText, now.toMicrosText⟩ =
          .ok (NewMapping.create ⟨bpn, did⟩ now) :=
        @readRow_ofRecord (NewMapping.create ⟨bpn, did⟩ now) stamp stamp
      rw [OrderedMap.mapValues_insert]
      simp only [Option.isSome_none, Bool.false_eq_true, if_false, read, bind, Except.bind]
      rfl

theorem updateRow_eq (mirrors : Mirrors memory tables) (bounded : memory.version < maxSigned64)
    {bpn : String} (did : String) {now : Time.Instant} (stamp : now.IsStamp) {old : Record}
    (found : memory.records.find? bpn = some old) :
    updateRow (memory.records.mapValues Row.ofRecord) bpn did now.toMicrosText old.version =
      .ok (old.replace did now,
        (memory.records.insert bpn (old.replace did now)).mapValues Row.ofRecord) := by
  have sound := mirrors.sound bpn old found
  have below : old.version < maxSigned64 := Int.lt_of_le_of_lt sound.version_le bounded
  have read : readRow bpn ⟨did, old.version + 1, old.createdAt.toMicrosText, now.toMicrosText⟩ =
      .ok (old.replace did now) := by
    rw [← sound.bpn_eq]
    exact @readRow_ofRecord (old.replace did now) sound.created stamp
  unfold updateRow
  rw [OrderedMap.find?_mapValues, found, OrderedMap.mapValues_insert]
  simp only [Option.map_some, Row.ofRecord, if_true, countUp, if_pos below, read, bind, Except.bind]
  rfl

/-- A record that was just created is sound. -/
theorem sound_create (mirrors : Mirrors memory tables) (mapping : NewMapping)
    {now : Time.Instant} (valid : requireBpn mapping.bpn = .ok ()) (stamp : now.IsStamp)
    (records : OrderedMap Record) :
    Memory.Sound ⟨records, memory.version + 1⟩ mapping.bpn (mapping.create now) where
  bpn_eq := rfl
  valid := valid
  created := stamp
  updated := stamp
  version_le := by
    have nonneg := mirrors.nonneg
    change (1 : Int) ≤ memory.version + 1
    omega

theorem sound_insert (mirrors : Mirrors memory tables) {bpn : String} {record : Record}
    (inserted : Memory.Sound ⟨memory.records.insert bpn record, memory.version + 1⟩ bpn record) :
    ∀ key kept, (memory.records.insert bpn record).find? key = some kept →
      Memory.Sound ⟨memory.records.insert bpn record, memory.version + 1⟩ key kept := by
  intro key kept found
  rw [OrderedMap.find?_insert] at found
  by_cases same : bpn = key
  · rw [if_pos same] at found
    cases found
    exact same ▸ inserted
  · rw [if_neg same] at found
    exact (mirrors.sound key kept found).mono (Int.le_add_one (Int.le_refl _))

/-- Creating a record has the same outcome on a mirror. -/
theorem put_new (mirrors : Mirrors memory tables) (bounded : memory.version < maxSigned64)
    {now : Time.Instant} (stamp : now.IsStamp) {bpn did : String}
    (checked : requireMapping bpn did = .ok ()) :
    (Memory.put now bpn did none memory).1 = (Tables.put now bpn did none tables).1 ∧
      Mirrors (Memory.put now bpn did none memory).2 (Tables.put now bpn did none tables).2 := by
  have inserted := insertRow_eq memory.records bpn did stamp
  cases found : memory.records.find? bpn with
  | some old =>
      rw [found] at inserted
      simpa [Memory.put, Tables.put, transaction, checked, found, inserted, mirrors.connect_eq,
        mirrors.mappingTable_eq, bind, Except.bind] using mirrors
  | none =>
      rw [found] at inserted
      have valid : requireBpn bpn = .ok () := (requireMapping_eq_ok_iff.mp checked).1
      have committed := mirrors.commit_eq bounded
        (memory.records.insert bpn (NewMapping.create ⟨bpn, did⟩ now))
        (NewMapping.create ⟨bpn, did⟩ now)
      have sound := mirrors.sound_insert (mirrors.sound_create ⟨bpn, did⟩ valid stamp _)
      simpa [Memory.put, Tables.put, transaction, checked, found, inserted, committed,
        mirrors.connect_eq, mirrors.mappingTable_eq, bind, Except.bind, Memory.commit]
        using mirrors.after_change _ sound

/-- Replacing a record has the same outcome on a mirror. -/
theorem put_again (mirrors : Mirrors memory tables) (bounded : memory.version < maxSigned64)
    {now : Time.Instant} (stamp : now.IsStamp) {bpn did : String}
    (checked : requireMapping bpn did = .ok ()) (version : Int) :
    (Memory.put now bpn did (some version) memory).1 =
        (Tables.put now bpn did (some version) tables).1 ∧
      Mirrors (Memory.put now bpn did (some version) memory).2
        (Tables.put now bpn did (some version) tables).2 := by
  cases found : memory.records.find? bpn with
  | none =>
      have missing : updateRow (memory.records.mapValues Row.ofRecord) bpn did now.toMicrosText
          version = .error (memory.mismatch bpn version) := by
        simp [updateRow, found, mismatch_eq]
      simpa [Memory.put, Tables.put, transaction, checked, found, missing, mirrors.connect_eq,
        mirrors.mappingTable_eq, bind, Except.bind] using mirrors
  | some old =>
      by_cases same : old.version = version
      · subst same
        have updated := mirrors.updateRow_eq bounded did stamp found
        have committed := mirrors.commit_eq bounded
          (memory.records.insert bpn (old.replace did now)) (old.replace did now)
        have before := mirrors.sound bpn old found
        have sound := mirrors.sound_insert (before.replace did stamp _)
        simpa [Memory.put, Tables.put, transaction, checked, found, updated, committed,
          mirrors.connect_eq, mirrors.mappingTable_eq, bind, Except.bind, Memory.commit]
          using mirrors.after_change _ sound
      · have refused : updateRow (memory.records.mapValues Row.ofRecord) bpn did
            now.toMicrosText version = .error (memory.mismatch bpn version) := by
          simp [updateRow, found, mismatch_eq, Row.ofRecord, same]
        simpa [Memory.put, Tables.put, transaction, checked, found, same, refused,
          mirrors.connect_eq, mirrors.mappingTable_eq, bind, Except.bind] using mirrors

/-- Creating or replacing a record has the same outcome on a mirror. -/
theorem put (mirrors : Mirrors memory tables) (bounded : memory.version < maxSigned64)
    {now : Time.Instant} (stamp : now.IsStamp) (bpn did : String) (expected : Option Int) :
    (Memory.put now bpn did expected memory).1 = (Tables.put now bpn did expected tables).1 ∧
      Mirrors (Memory.put now bpn did expected memory).2
        (Tables.put now bpn did expected tables).2 := by
  cases checked : requireMapping bpn did with
  | error failure =>
      simpa [Memory.put, Tables.put, transaction, checked, bind, Except.bind] using mirrors
  | ok _ =>
      cases expected with
      | none => exact mirrors.put_new bounded stamp checked
      | some version => exact mirrors.put_again bounded stamp checked version

/-- Inserting the rows of a batch one after the other comes to what checking them
all at first comes to. -/
theorem insertRows_eq {now : Time.Instant} (stamp : now.IsStamp) {batch : List NewMapping}
    (distinct : (batch.map NewMapping.bpn).Nodup) (records : OrderedMap Record) :
    insertRows now.toMicrosText (records.mapValues Row.ofRecord) batch =
      match batch.find? fun mapping => records.contains mapping.bpn with
      | some mapping => .error (.alreadyMapped mapping.bpn)
      | none =>
        .ok (batch.map fun mapping => mapping.create now,
          (Memory.withCreated records
            (batch.map fun mapping => mapping.create now)).mapValues Row.ofRecord) := by
  induction batch generalizing records with
  | nil => rfl
  | cons head rest ih =>
      rcases List.nodup_cons.mp distinct with ⟨apart, others⟩
      have inserted := insertRow_eq records head.bpn head.did stamp
      rw [insertRows, inserted]
      cases found : records.find? head.bpn with
      | some old =>
          simp [OrderedMap.contains, found, bind, Except.bind]
      | none =>
          -- The BPNs of the rest differ from the first one, so its insertion hides none of them.
          have unseen : (rest.find? fun mapping =>
                (records.insert head.bpn (head.create now)).contains mapping.bpn) =
              rest.find? fun mapping => records.contains mapping.bpn := by
            apply List.find?_congr
            intro mapping member
            have different : head.bpn ≠ mapping.bpn := fun same =>
              apart (List.mem_map.mpr ⟨mapping, member, same.symm⟩)
            rw [OrderedMap.contains, OrderedMap.find?_insert, if_neg different, OrderedMap.contains]
          have later := ih others (records.insert head.bpn (head.create now))
          rw [unseen] at later
          have skipped : records.contains head.bpn = false := by
            rw [OrderedMap.contains_eq_false_iff]
            exact found
          rw [List.find?_cons, skipped]
          simp only [bind, Except.bind, later]
          cases rest.find? fun mapping => records.contains mapping.bpn <;> rfl

theorem sound_withCreated (mirrors : Mirrors memory tables) {now : Time.Instant}
    (stamp : now.IsStamp) {batch : List NewMapping}
    (valid : ∀ mapping ∈ batch, requireBpn mapping.bpn = .ok ())
    (distinct : (batch.map NewMapping.bpn).Nodup) (records : OrderedMap Record) :
    ∀ key kept,
      (Memory.withCreated memory.records (batch.map fun mapping => mapping.create now)).find? key =
        some kept →
      Memory.Sound ⟨records, memory.version + 1⟩ key kept := by
  intro key kept found
  rw [Memory.find?_withCreated_batch distinct] at found
  cases named : batch.find? fun mapping => mapping.bpn = key with
  | some mapping =>
      have member := List.mem_of_find?_eq_some named
      have same : mapping.bpn = key := by simpa using List.find?_some named
      rw [named] at found
      cases found
      subst same
      exact mirrors.sound_create mapping (valid mapping member) stamp _
  | none =>
      rw [named] at found
      exact (mirrors.sound key kept found).mono (Int.le_add_one (Int.le_refl _))

/-- Creating the records of a batch has the same outcome on a mirror. -/
theorem putBatch (mirrors : Mirrors memory tables) (bounded : memory.version < maxSigned64)
    {now : Time.Instant} (stamp : now.IsStamp) (batch : List NewMapping) :
    (Memory.putBatch now batch memory).1 = (Tables.putBatch now batch tables).1 ∧
      Mirrors (Memory.putBatch now batch memory).2 (Tables.putBatch now batch tables).2 := by
  cases checked : requireBatch batch with
  | error failure =>
      simpa [Memory.putBatch, Tables.putBatch, transaction, checked, bind, Except.bind]
        using mirrors
  | ok _ =>
      rcases requireBatch_eq_ok_iff.mp checked with ⟨valid, distinct⟩
      have inserted := insertRows_eq stamp distinct memory.records
      by_cases isEmpty : batch = []
      · subst isEmpty
        simpa [Memory.putBatch, Tables.putBatch, transaction, checked, readVersion, metadataRow,
          mirrors.connect_eq, mirrors.metadata, bind, Except.bind] using mirrors
      · cases clash : batch.find? fun mapping => memory.records.contains mapping.bpn with
        | some mapping =>
            rw [clash] at inserted
            simpa [Memory.putBatch, Tables.putBatch, transaction, checked, clash, isEmpty, inserted,
              mirrors.connect_eq, mirrors.mappingTable_eq, bind, Except.bind] using mirrors
        | none =>
            rw [clash] at inserted
            have committed := mirrors.commit_eq bounded
              (Memory.withCreated memory.records (batch.map fun mapping => mapping.create now))
              (batch.map fun mapping => mapping.create now)
            have sound := mirrors.sound_withCreated stamp
              (fun mapping member => (requireMapping_eq_ok_iff.mp (valid mapping member)).1)
              distinct
              (Memory.withCreated memory.records (batch.map fun mapping => mapping.create now))
            unfold Memory.withCreated at committed
            simpa [Memory.putBatch, Tables.putBatch, transaction, checked, clash, isEmpty, inserted,
              committed, mirrors.connect_eq, mirrors.mappingTable_eq, bind, Except.bind,
              Memory.commit, Memory.withCreated] using mirrors.after_change _ sound

/-- Deleting a record has the same outcome on a mirror. -/
theorem delete (mirrors : Mirrors memory tables) (bounded : memory.version < maxSigned64)
    (bpn : String) (expected : Int) :
    (Memory.delete bpn expected memory).1 = (Tables.delete bpn expected tables).1 ∧
      Mirrors (Memory.delete bpn expected memory).2 (Tables.delete bpn expected tables).2 := by
  cases found : memory.records.find? bpn with
  | none =>
      simpa [Memory.delete, Tables.delete, transaction, found, mirrors.connect_eq,
        mirrors.mappingTable_eq, mismatch_eq, bind, Except.bind] using mirrors
  | some old =>
      by_cases same : old.version = expected
      · have committed := mirrors.commit_eq bounded (memory.records.erase bpn) ()
        rw [OrderedMap.mapValues_erase] at committed
        have sound : ∀ key kept, (memory.records.erase bpn).find? key = some kept →
            Memory.Sound ⟨memory.records.erase bpn, memory.version + 1⟩ key kept := by
          intro key kept still
          rw [OrderedMap.find?_erase] at still
          split at still
          · cases still
          · exact (mirrors.sound key kept still).mono (Int.le_add_one (Int.le_refl _))
        have after := mirrors.after_change _ sound
        rw [OrderedMap.mapValues_erase] at after
        simpa [Memory.delete, Tables.delete, transaction, found, same, committed,
          mirrors.connect_eq, mirrors.mappingTable_eq, Row.ofRecord, bind, Except.bind,
          Memory.commit] using after
      · simpa [Memory.delete, Tables.delete, transaction, found, same, mirrors.connect_eq,
          mirrors.mappingTable_eq, mismatch_eq, Row.ofRecord, bind, Except.bind]
          using mirrors

end Mirrors
end Store
end BpnDirectory
