import BpnDirectory.Proofs.Store.Memory
import BpnDirectory.Proofs.Store.Tables

namespace BpnDirectory
namespace Store

/-!
Changes, statement by statement.

The calls of the stores are defined by what comes of them as a whole.  Here every
change is a script: statements that look at the store or write to it, one after the
other, until one of them fails.  What was written before stays written.  A database
takes it back, since the transaction of the script is dropped then.  Records in memory
know no transactions, so there every statement that can fail has to stand before the
first one that writes.
-/

/-- Statements one after the other, until one of them fails. -/
abbrev Script (S : Type) := ExceptT Failure (StateM S)

namespace Script

variable {S α β : Type}

/-- What comes of a script, with everything that it wrote. -/
def play (script : Script S α) : Call S α := fun store => script.run.run store

/-- What comes of a script in a transaction, which is dropped if the script fails. -/
def rollingBack (script : Script S α) : Call S α := fun store =>
  match script.play store with
  | (.ok value, after) => (.ok value, after)
  | (.error failure, _) => (.error failure, store)

def look (read : S → Except Failure α) : Script S α :=
  ExceptT.mk fun store => (read store, store)

def write (f : S → S) : Script S Unit :=
  ExceptT.mk fun store => (.ok (), f store)

/-! ## What a script comes to -/

/-- The value and the store with which a script ends unless it fails. -/
def outcome (script : Script S α) (store : S) : Except Failure (α × S) :=
  match script.play store with
  | (.ok value, after) => .ok (value, after)
  | (.error failure, _) => .error failure

theorem rollingBack_eq (script : Script S α) : script.rollingBack = transaction script.outcome := by
  funext store
  unfold rollingBack transaction outcome
  rcases script.play store with ⟨_ | _, _⟩ <;> rfl

theorem play_bind (first : Script S α) (rest : α → Script S β) (store : S) :
    (first >>= rest).play store = match first.play store with
      | (.ok value, after) => (rest value).play after
      | (.error failure, after) => (.error failure, after) := by
  change (ExceptT.bindCont rest (first.play store).1) (first.play store).2 = _
  rcases first.play store with ⟨_ | _, _⟩ <;> rfl

theorem play_look_bind (read : S → Except Failure α) (rest : α → Script S β) (store : S) :
    (look read >>= rest).play store = match read store with
      | .ok value => (rest value).play store
      | .error failure => (.error failure, store) := by
  rw [play_bind]
  change (match (read store, store) with
    | (Except.ok value, after) => (rest value).play after
    | (Except.error failure, after) => (Except.error failure, after)) = _
  cases read store <;> rfl

theorem outcome_bind (first : Script S α) (rest : α → Script S β) (store : S) :
    (first >>= rest).outcome store =
      first.outcome store >>= fun result => (rest result.1).outcome result.2 := by
  unfold outcome
  rw [play_bind]
  rcases first.play store with ⟨_ | _, _⟩ <;> rfl

@[simp] theorem outcome_pure (value : α) (store : S) :
    (pure value : Script S α).outcome store = .ok (value, store) := rfl

@[simp] theorem outcome_look_bind (read : S → Except Failure α) (rest : α → Script S β)
    (store : S) :
    (look read >>= rest).outcome store =
      read store >>= fun value => (rest value).outcome store := by
  unfold outcome
  rw [play_look_bind]
  cases read store <;> rfl

@[simp] theorem outcome_look (read : S → Except Failure α) (store : S) :
    (look read).outcome store = read store >>= fun value => .ok (value, store) := by
  change (match (read store, store) with
    | (Except.ok value, after) => Except.ok (value, after)
    | (Except.error failure, _) => Except.error failure) = _
  cases read store <;> rfl

@[simp] theorem outcome_write_bind (f : S → S) (rest : Unit → Script S β) (store : S) :
    (write f >>= rest).outcome store = (rest ()).outcome (f store) := rfl

/-! ## Scripts that look before they write -/

/-- Whether a script has written nothing when it fails. -/
def IsCareful (script : Script S α) : Prop :=
  ∀ store failure, (script.play store).1 = .error failure → (script.play store).2 = store

/-- Whether a script never fails. -/
def Succeeds (script : Script S α) : Prop :=
  ∀ store, ∃ value after, script.play store = (.ok value, after)

theorem Succeeds.bind {first : Script S α} {rest : α → Script S β} (before : Succeeds first)
    (others : ∀ value, Succeeds (rest value)) : Succeeds (first >>= rest) := by
  intro store
  rcases before store with ⟨value, after, played⟩
  rw [play_bind, played]
  exact others value after

theorem succeeds_pure (value : α) : Succeeds (pure value : Script S α) :=
  fun store => ⟨value, store, rfl⟩

theorem succeeds_write (f : S → S) : Succeeds (write f) := fun store => ⟨(), f store, rfl⟩

theorem succeeds_forM (items : List α) (f : α → S → S) :
    Succeeds (items.forM fun item => write (f item)) := by
  induction items with
  | nil => exact succeeds_pure ()
  | cons head rest ih => exact (succeeds_write (f head)).bind fun _ => ih

theorem Succeeds.isCareful {script : Script S α} (succeeds : Succeeds script) :
    IsCareful script := by
  intro store failure failed
  rcases succeeds store with ⟨value, after, played⟩
  rw [played] at failed
  cases failed

/-- After a look a script may still fail. -/
theorem IsCareful.look_bind {read : S → Except Failure α} {rest : α → Script S β}
    (others : ∀ value, IsCareful (rest value)) : IsCareful (look read >>= rest) := by
  intro store failure failed
  rw [play_look_bind] at failed ⊢
  generalize read store = seen at failed ⊢
  cases seen with
  | ok value => exact others value store failure failed
  | error refusal => rfl

/-- A careful script needs no transaction. -/
theorem IsCareful.play_eq {script : Script S α} (careful : IsCareful script) :
    script.play = transaction script.outcome := by
  rw [← rollingBack_eq]
  funext store
  have untouched := careful store
  unfold rollingBack
  generalize script.play store = played at untouched
  rcases played with ⟨failure | value, after⟩
  · exact congrArg _ (untouched failure rfl)
  · rfl

end Script

open Script (look write)

/-! ## Records in memory -/

namespace Memory

def countChange : Script Memory Int := do
  write fun store => { store with version := store.version + 1 }
  look fun store => .ok store.version

/-- The record that a change is to leave, if the change is allowed. -/
def proposed (now : Time.Instant) (bpn did : String) (expected : Option Int) (store : Memory) :
    Except Failure Record :=
  match expected, store.records.find? bpn with
  | none, some _ => .error (.alreadyMapped bpn)
  | none, none => .ok (NewMapping.create ⟨bpn, did⟩ now)
  | some version, some current =>
    if current.version = version then .ok (current.replace did now)
    else .error (store.mismatch bpn version)
  | some version, none => .error (store.mismatch bpn version)

/-- Creates a record or replaces its DID. -/
def putScript (now : Time.Instant) (bpn did : String) (expected : Option Int) :
    Script Memory (Committed Record) := do
  look fun _ => requireMapping bpn did
  let record ← look (proposed now bpn did expected)
  write fun store => { store with records := store.records.insert bpn record }
  let version ← countChange
  pure ⟨record, version⟩

def requireVacant (batch : List NewMapping) (store : Memory) : Except Failure Unit :=
  match batch.find? fun mapping => store.records.contains mapping.bpn with
  | some mapping => .error (.alreadyMapped mapping.bpn)
  | none => .ok ()

def keep (record : Record) (store : Memory) : Memory :=
  { store with records := store.records.insert record.bpn record }

/-- Creates the records of a batch. -/
def putBatchScript (now : Time.Instant) (batch : List NewMapping) :
    Script Memory (Committed (List Record)) := do
  look fun _ => requireBatch batch
  if batch.isEmpty then
    let version ← look fun store => .ok store.version
    pure ⟨[], version⟩
  else
    look (requireVacant batch)
    let created := batch.map fun mapping => mapping.create now
    created.forM fun record => write (keep record)
    let version ← countChange
    pure ⟨created, version⟩

/-- Refuses to delete what has not the expected version. -/
def requireVersion (bpn : String) (expected : Int) (store : Memory) : Except Failure Unit :=
  match store.records.find? bpn with
  | some current =>
    if current.version = expected then .ok () else .error (store.mismatch bpn expected)
  | none => .error (store.mismatch bpn expected)

def deleteScript (bpn : String) (expected : Int) : Script Memory (Committed Unit) := do
  look (requireVersion bpn expected)
  write fun store => { store with records := store.records.erase bpn }
  let version ← countChange
  pure ⟨(), version⟩

theorem succeeds_countChange : Script.Succeeds countChange :=
  fun store => ⟨store.version + 1, { store with version := store.version + 1 }, rfl⟩

theorem isCareful_putScript (now : Time.Instant) (bpn did : String) (expected : Option Int) :
    (putScript now bpn did expected).IsCareful := by
  refine .look_bind fun _ => .look_bind fun record => Script.Succeeds.isCareful ?_
  refine (Script.succeeds_write _).bind fun _ => ?_
  exact succeeds_countChange.bind fun version => Script.succeeds_pure _

theorem isCareful_putBatchScript (now : Time.Instant) (batch : List NewMapping) :
    (putBatchScript now batch).IsCareful := by
  refine .look_bind fun _ => ?_
  split
  · exact .look_bind fun version => (Script.succeeds_pure _).isCareful
  · refine .look_bind fun _ => Script.Succeeds.isCareful ?_
    refine (Script.succeeds_forM _ keep).bind fun _ => ?_
    exact succeeds_countChange.bind fun version => Script.succeeds_pure _

theorem isCareful_deleteScript (bpn : String) (expected : Int) :
    (deleteScript bpn expected).IsCareful := by
  refine .look_bind fun _ => Script.Succeeds.isCareful ?_
  refine (Script.succeeds_write _).bind fun _ => ?_
  exact succeeds_countChange.bind fun version => Script.succeeds_pure _

theorem outcome_countChange_bind {α : Type} (rest : Int → Script Memory α) (store : Memory) :
    (countChange >>= rest).outcome store =
      (rest (store.version + 1)).outcome { store with version := store.version + 1 } :=
  rfl

theorem outcome_forM_keep_bind {α : Type} (created : List Record) (rest : Unit → Script Memory α)
    (store : Memory) :
    ((created.forM fun record => write (keep record)) >>= rest).outcome store =
      (rest ()).outcome { store with records := withCreated store.records created } := by
  have kept : ∀ (created : List Record) (store : Memory),
      (created.forM fun record => write (keep record)).outcome store =
        .ok ((), { store with records := withCreated store.records created }) := by
    intro created
    induction created with
    | nil => exact fun _ => rfl
    | cons head others ih => exact fun store => ih (keep head store)
  rw [Script.outcome_bind, kept]
  rfl

/-- Creating or replacing a record is what its script comes to, though nothing is
taken back. -/
theorem put_eq_play (now : Time.Instant) (bpn did : String) (expected : Option Int) :
    Memory.put now bpn did expected = (putScript now bpn did expected).play := by
  rw [(isCareful_putScript now bpn did expected).play_eq]
  refine congrArg transaction (funext fun store => ?_)
  simp only [putScript, Script.outcome_look_bind, Script.outcome_write_bind, Script.outcome_pure,
    outcome_countChange_bind]
  refine bind_congr fun _ => ?_
  unfold proposed
  cases expected with
  | none => cases store.records.find? bpn <;> rfl
  | some version =>
      cases store.records.find? bpn with
      | none => rfl
      | some current =>
          dsimp only
          by_cases same : current.version = version
          · rw [if_pos same, if_pos same]
            rfl
          · rw [if_neg same, if_neg same]
            rfl

theorem putBatch_eq_play (now : Time.Instant) (batch : List NewMapping) :
    Memory.putBatch now batch = (putBatchScript now batch).play := by
  rw [(isCareful_putBatchScript now batch).play_eq]
  refine congrArg transaction (funext fun store => ?_)
  cases batch with
  | nil => rfl
  | cons head rest =>
      simp only [putBatchScript, Script.outcome_look_bind, List.isEmpty_cons, Bool.false_eq_true,
        if_false, outcome_forM_keep_bind, outcome_countChange_bind, Script.outcome_pure]
      refine bind_congr fun _ => ?_
      unfold requireVacant
      cases (head :: rest).find? fun mapping => store.records.contains mapping.bpn <;> rfl

theorem delete_eq_play (bpn : String) (expected : Int) :
    Memory.delete bpn expected = (deleteScript bpn expected).play := by
  rw [(isCareful_deleteScript bpn expected).play_eq]
  refine congrArg transaction (funext fun store => ?_)
  simp only [deleteScript, Script.outcome_look_bind, Script.outcome_write_bind,
    Script.outcome_pure, outcome_countChange_bind]
  unfold requireVersion
  cases store.records.find? bpn with
  | none => rfl
  | some current =>
      dsimp only
      by_cases same : current.version = expected
      · rw [if_pos same, if_pos same]
        rfl
      · rw [if_neg same, if_neg same]
        rfl

end Memory

/-! ## Tables -/

namespace Tables

def keepRow (table : OrderedMap Row) (bpn : String) (row : Row) : Script Tables Unit :=
  write fun tables => { tables with mappings := some (table.insert bpn row) }

def insertScript (bpn did now : String) : Script Tables Record := do
  let table ← look mappingTable
  if table.contains bpn then look fun _ => .error (.alreadyMapped bpn)
  else
    let row : Row := ⟨did, 1, now, now⟩
    keepRow table bpn row
    look fun _ => readRow bpn row

/-- Replaces the DID of the row with the expected version and reads it back. -/
def updateScript (bpn did now : String) (expected : Int) : Script Tables Record := do
  let table ← look mappingTable
  match table.find? bpn with
  | some row =>
    if row.version = expected then
      let version ← look fun _ => countUp "version" row.version
      let row := { row with did, version, updatedAt := now }
      keepRow table bpn row
      look fun _ => readRow bpn row
    else look fun _ => .error (mismatch table bpn expected)
  | none => look fun _ => .error (mismatch table bpn expected)

def insertAllScript (now : String) : List NewMapping → Script Tables (List Record)
  | [] => pure []
  | mapping :: rest => do
    let record ← insertScript mapping.bpn mapping.did now
    let records ← insertAllScript now rest
    pure (record :: records)

def countChange : Script Tables Int := do
  match ← look metadataRow with
  | some version =>
    let version ← look fun _ => countUp "version" version
    write fun tables => { tables with metadata := some (some version) }
    pure version
  | none => look fun _ => .error DatabaseError.rowMissing.toFailure

/-- Creates a row or replaces its DID. -/
def putScript (now : Time.Instant) (bpn did : String) (expected : Option Int) :
    Script Tables (Committed Record) := do
  look fun _ => requireMapping bpn did
  look connect
  let record ←
    match expected with
    | none => insertScript bpn did now.toMicrosText
    | some version => updateScript bpn did now.toMicrosText version
  let version ← countChange
  pure ⟨record, version⟩

/-- Creates the rows of a batch. -/
def putBatchScript (now : Time.Instant) (batch : List NewMapping) :
    Script Tables (Committed (List Record)) := do
  look fun _ => requireBatch batch
  if batch.isEmpty then
    let version ← look readVersion
    pure ⟨[], version⟩
  else
    look connect
    let records ← insertAllScript now.toMicrosText batch
    let version ← countChange
    pure ⟨records, version⟩

/-- Deletes a row. -/
def deleteScript (bpn : String) (expected : Int) : Script Tables (Committed Unit) := do
  look connect
  let table ← look mappingTable
  match table.find? bpn with
  | some row =>
    if row.version = expected then
      write fun tables => { tables with mappings := some (table.erase bpn) }
      let version ← countChange
      pure ⟨(), version⟩
    else look fun _ => .error (mismatch table bpn expected)
  | none => look fun _ => .error (mismatch table bpn expected)

variable {α : Type} {now bpn did : String}

theorem outcome_countChange (tables : Tables) :
    countChange.outcome tables = (do
      match ← tables.metadataRow with
      | some version =>
        let version ← countUp "version" version
        .ok (version, { tables with metadata := some (some version) })
      | none => .error DatabaseError.rowMissing.toFailure) := by
  unfold countChange
  rw [Script.outcome_look_bind]
  refine bind_congr fun row => ?_
  cases row with
  | none => simp
  | some version => simp [-bind_pure_comp]

theorem outcome_insertScript (tables : Tables) :
    (insertScript bpn did now).outcome tables = (do
      let table ← tables.mappingTable
      let (record, rows) ← insertRow table bpn did now
      .ok (record, { tables with mappings := some rows })) := by
  unfold insertScript
  rw [Script.outcome_look_bind]
  refine bind_congr fun table => ?_
  unfold insertRow
  by_cases present : table.contains bpn
  · simp [present]
  · simp [present, keepRow]

theorem outcome_updateScript (expected : Int) (tables : Tables) :
    (updateScript bpn did now expected).outcome tables = (do
      let table ← tables.mappingTable
      let (record, rows) ← updateRow table bpn did now expected
      .ok (record, { tables with mappings := some rows })) := by
  unfold updateScript
  rw [Script.outcome_look_bind]
  refine bind_congr fun table => ?_
  unfold updateRow
  cases table.find? bpn with
  | none => rfl
  | some row =>
      by_cases same : row.version = expected
      · simp [same, keepRow]
      · simp [same]

/-- The rows of a batch are there or not, all of them, as soon as the transaction ends. -/
theorem outcome_insertAllScript (batch : List NewMapping) {tables : Tables} {table : OrderedMap Row}
    (found : tables.mappings = some table) :
    (insertAllScript now batch).outcome tables = (do
      let (records, rows) ← insertRows now table batch
      .ok (records, { tables with mappings := some rows })) := by
  induction batch generalizing tables table with
  | nil =>
      cases tables
      cases found
      rfl
  | cons head rest ih =>
      have table_eq : tables.mappingTable = .ok table := mappingTable_eq_ok_iff.mpr found
      rw [insertAllScript, Script.outcome_bind, outcome_insertScript, table_eq, insertRows, ok_bind]
      cases insertRow table head.bpn head.did now with
      | error failure => rfl
      | ok inserted =>
          rcases inserted with ⟨record, rows⟩
          have others := @ih { tables with mappings := some rows } rows rfl
          simp only [ok_bind, Script.outcome_bind, others, bind_assoc, Script.outcome_pure]

/-- Ending a transaction with its rows is counting the change after they are written. -/
theorem commit_eq {value : α} (tables : Tables) (table : OrderedMap Row) :
    tables.commit table value = (do
      let (version, tables) ← countChange.outcome { tables with mappings := some table }
      .ok (⟨value, version⟩, tables)) := by
  rw [outcome_countChange, commit]
  change _ = (tables.metadataRow >>= _) >>= _
  rw [bind_assoc]
  refine bind_congr fun row => ?_
  cases row with
  | none => rfl
  | some version => simp

theorem put_eq_rollingBack (now : Time.Instant) (bpn did : String) (expected : Option Int) :
    Tables.put now bpn did expected = (putScript now bpn did expected).rollingBack := by
  rw [Script.rollingBack_eq]
  refine congrArg transaction (funext fun tables => ?_)
  unfold putScript
  rw [Script.outcome_look_bind]
  refine bind_congr fun _ => ?_
  rw [Script.outcome_look_bind]
  refine bind_congr fun _ => ?_
  cases expected with
  | none =>
      simp only [Script.outcome_bind, outcome_insertScript, bind_assoc, ok_bind, commit_eq,
        Script.outcome_pure]
  | some version =>
      simp only [Script.outcome_bind, outcome_updateScript, bind_assoc, ok_bind, commit_eq,
        Script.outcome_pure]

theorem putBatch_eq_rollingBack (now : Time.Instant) (batch : List NewMapping) :
    Tables.putBatch now batch = (putBatchScript now batch).rollingBack := by
  rw [Script.rollingBack_eq]
  refine congrArg transaction (funext fun tables => ?_)
  unfold putBatchScript
  rw [Script.outcome_look_bind]
  refine bind_congr fun _ => ?_
  cases batch with
  | nil => simp [-bind_pure_comp]
  | cons head rest =>
      simp only [List.isEmpty_cons, Bool.false_eq_true, if_false, Script.outcome_look_bind]
      refine bind_congr fun _ => ?_
      rw [Script.outcome_bind]
      cases found : tables.mappings with
      | none =>
          have missing : tables.mappingTable = .error (refused "no such table: bpn_mapping") := by
            rw [mappingTable, found]
          rw [missing, insertAllScript, Script.outcome_bind, outcome_insertScript, missing]
          rfl
      | some table =>
          rw [outcome_insertAllScript _ found, mappingTable_eq_ok_iff.mpr found]
          simp only [Script.outcome_bind, bind_assoc, ok_bind, commit_eq, Script.outcome_pure]

/-- A batch whose second row is refused has written its first one by then. -/
example :
    let tables : Tables := ⟨some (OrderedMap.empty.insert "BPNL00000000000B"
      ⟨"did:web:b", 1, "2024-01-01T00:00:00Z", "2024-01-01T00:00:00Z"⟩), some (some 1), true⟩
    let script := putBatchScript ⟨⟨2024, 2, 29⟩, 43200, 0⟩
      [⟨"BPNL00000000000A", "did:web:a"⟩, ⟨"BPNL00000000000B", "did:web:c"⟩]
    (script.play tables).1.isOk = false ∧
      (script.play tables).2.mappings ≠ tables.mappings ∧
      (script.rollingBack tables).2.mappings = tables.mappings := by
  intro tables script
  decide +kernel

theorem delete_eq_rollingBack (bpn : String) (expected : Int) :
    Tables.delete bpn expected = (deleteScript bpn expected).rollingBack := by
  rw [Script.rollingBack_eq]
  refine congrArg transaction (funext fun tables => ?_)
  unfold deleteScript
  rw [Script.outcome_look_bind]
  refine bind_congr fun _ => ?_
  rw [Script.outcome_look_bind]
  refine bind_congr fun table => ?_
  cases table.find? bpn with
  | none => rfl
  | some row =>
      by_cases same : row.version = expected
      · simp only [if_pos same]
        rw [Script.outcome_write_bind, Script.outcome_bind, commit_eq]
        rfl
      · simp [same]

end Tables
end Store
end BpnDirectory
