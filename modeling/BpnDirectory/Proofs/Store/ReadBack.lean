import BpnDirectory.Proofs.Store.Atomic
import BpnDirectory.Proofs.Time.Reading

namespace BpnDirectory
namespace Store

/-!
What a database says of a record that was written to it.

A record comes out of a row, and the instants of a row are texts.  The call that writes a row
returns the record that the row is read as, so whoever asks for the row later, in whatever way, is
shown the same record until the row is written again.  That record also carries the instant at which
it was written, as nothing of an instant is lost in a text.
-/

open Time (Instant)

/-- The records that a reply to a question shows. -/
def Reply.shown : Reply → List Record
  | .record one => [one]
  | .records several => several
  | .page part => part.records
  | _ => []

/-- The records that a reply to a change returns. -/
def Reply.written : Reply → List Record
  | .put committed => [committed.value]
  | .putBatch committed => committed.value
  | _ => []

theorem Reply.mem_ofOutcome {α : Type} {make : α → Reply} {outcome : Except Failure α}
    {record : Record} {pick : Reply → List Record} (silent : ∀ failure, pick (.failed failure) = [])
    (member : record ∈ pick (.ofOutcome make outcome)) :
    ∃ value, outcome = .ok value ∧ record ∈ pick (make value) := by
  cases outcome with
  | ok value => exact ⟨value, rfl, member⟩
  | error failure =>
      rw [Reply.ofOutcome, silent] at member
      cases member

/-- The clock reading that a request carries. -/
def Request.clock? : Request → Option Instant
  | .put now _ _ _ | .putBatch now _ => some now
  | _ => none

/-- Whether the records that a request writes are new. -/
def Request.creates : Request → Bool
  | .put _ _ _ none | .putBatch .. => true
  | _ => false

namespace Tables

variable {tables after : Tables} {table rows : OrderedMap Row} {bpn did now : String}
  {record : Record}

/-- Whether a record is what its row in a table is read as. -/
def Stands (table : OrderedMap Row) (record : Record) : Prop :=
  ∃ row, table.find? record.bpn = some row ∧ readRow record.bpn row = .ok record

/-- Whether a record can be read in a database. -/
structure Keeps (tables : Tables) (record : Record) : Prop where
  isOpen : tables.isOpen = true
  stands : ∃ table, tables.mappings = some table ∧ Stands table record

/-! ## Rows -/

theorem readRow_instants {row : Row} (read : readRow bpn row = .ok record) :
    readInstant row.createdAt = .ok record.createdAt ∧
      readInstant row.updatedAt = .ok record.updatedAt := by
  rcases bind_eq_ok.mp read with ⟨created, isCreated, read⟩
  rcases bind_eq_ok.mp read with ⟨updated, isUpdated, read⟩
  cases read
  exact ⟨isCreated, isUpdated⟩

/-- Only one record is read in a row. -/
theorem Stands.unique {other : Record} (stands : Stands table record) (others : Stands table other)
    (same : other.bpn = record.bpn) : other = record := by
  rcases stands with ⟨row, found, read⟩
  rcases others with ⟨row', found', read'⟩
  rw [same] at found' read'
  cases found.symm.trans found'
  exact Except.ok.inj (read'.symm.trans read)

theorem stands_insert {row : Row} (named : record.bpn = bpn)
    (read : readRow bpn row = .ok record) : Stands (table.insert bpn row) record := by
  subst named
  exact ⟨row, by rw [OrderedMap.find?_insert, if_pos rfl], read⟩

theorem insertRow_stands (done : insertRow table bpn did now = .ok (record, rows)) :
    Stands rows record ∧ readInstant now = .ok record.createdAt ∧
      readInstant now = .ok record.updatedAt := by
  unfold insertRow at done
  split at done
  case isTrue => cases done
  case isFalse =>
    rcases bind_eq_ok.mp done with ⟨_, read, done⟩
    cases done
    rcases readRow_instants read with ⟨created, updated⟩
    exact ⟨stands_insert (readRow_bpn read) read, created, updated⟩

theorem updateRow_stands {expected : Int}
    (done : updateRow table bpn did now expected = .ok (record, rows)) :
    Stands rows record ∧ readInstant now = .ok record.updatedAt := by
  unfold updateRow at done
  split at done
  case h_2 => cases done
  case h_1 =>
    split at done
    case isFalse => cases done
    case isTrue =>
      rcases bind_eq_ok.mp done with ⟨_, _, done⟩
      rcases bind_eq_ok.mp done with ⟨_, read, done⟩
      cases done
      exact ⟨stands_insert (readRow_bpn read) read, (readRow_instants read).2⟩

/-- Rows that are inserted do not replace those that were there. -/
theorem Stands.insertRows {batch : List NewMapping} {records : List Record}
    (stands : Stands table record) (done : insertRows now table batch = .ok (records, rows)) :
    Stands rows record := by
  rcases stands with ⟨row, found, read⟩
  have later := (insertRows_eq_ok done).2 record.bpn
  refine ⟨row, ?_, read⟩
  split at later
  · cases found.symm.trans later.1
  · rw [later, found]

theorem insertRows_stand {batch : List NewMapping} {records : List Record}
    (done : insertRows now table batch = .ok (records, rows)) (member : record ∈ records) :
    Stands rows record ∧ readInstant now = .ok record.createdAt ∧
      readInstant now = .ok record.updatedAt := by
  induction batch generalizing table records with
  | nil =>
      cases done
      cases member
  | cons head rest ih =>
      rcases bind_eq_ok.mp done with ⟨⟨first, inserted⟩, insertedFirst, done⟩
      rcases bind_eq_ok.mp done with ⟨⟨others, last⟩, insertedRest, done⟩
      cases done
      rcases List.mem_cons.mp member with rfl | member
      · rcases insertRow_stands insertedFirst with ⟨stands, instants⟩
        exact ⟨stands.insertRows insertedRest, instants⟩
      · exact ih insertedRest member

/-! ## Changes -/

theorem connect_eq_ok_iff : tables.connect = .ok () ↔ tables.isOpen = true := by
  unfold connect
  split <;> simp [*]

theorem isOpen_of_commit {α : Type} {value : α} {committed : Committed α}
    (done : tables.commit table value = .ok (committed, after)) : after.isOpen = tables.isOpen := by
  rcases bind_eq_ok.mp done with ⟨row, _, done⟩
  cases row with
  | none => cases done
  | some version =>
      rcases bind_eq_ok.mp done with ⟨counted, _, done⟩
      cases done
      rfl

theorem keeps_of_commit {α : Type} {value : α} {committed : Committed α}
    (connected : tables.connect = .ok ()) (stands : Stands table record)
    (done : tables.commit table value = .ok (committed, after)) : Keeps after record where
  isOpen := (isOpen_of_commit done).trans (connect_eq_ok_iff.mp connected)
  stands := ⟨table, (commit_eq_ok done).1, stands⟩

/-- The record that a change returns stands in its row, with the instant of the change. -/
theorem put_keeps {instant : Instant} {expected : Option Int} {committed : Committed Record}
    (done : (Tables.put instant bpn did expected tables).1 = .ok committed) :
    Keeps (Tables.put instant bpn did expected tables).2 committed.value ∧
      readInstant instant.toMicrosText = .ok committed.value.updatedAt ∧
      (expected = none → readInstant instant.toMicrosText = .ok committed.value.createdAt) := by
  rcases transaction_cases _ tables with ⟨_, failed⟩ | ⟨value, last, ran, put⟩
  · cases done.symm.trans (congrArg Prod.fst failed)
  · cases done.symm.trans (congrArg Prod.fst put)
    rw [Tables.put, put]
    rcases bind_eq_ok.mp ran with ⟨_, _, ran⟩
    rcases bind_eq_ok.mp ran with ⟨_, connected, ran⟩
    rcases bind_eq_ok.mp ran with ⟨table, _, ran⟩
    cases expected with
    | none =>
        rcases bind_eq_ok.mp ran with ⟨⟨record, rows⟩, inserted, ran⟩
        rcases insertRow_stands inserted with ⟨stands, created, updated⟩
        rw [(commit_eq_ok ran).2]
        exact ⟨keeps_of_commit connected stands ran, updated, fun _ => created⟩
    | some version =>
        rcases bind_eq_ok.mp ran with ⟨⟨record, rows⟩, replaced, ran⟩
        rcases updateRow_stands replaced with ⟨stands, updated⟩
        rw [(commit_eq_ok ran).2]
        refine ⟨keeps_of_commit connected stands ran, updated, fun creates => ?_⟩
        cases creates

theorem putBatch_keeps {instant : Instant} {batch : List NewMapping}
    {committed : Committed (List Record)}
    (done : (Tables.putBatch instant batch tables).1 = .ok committed)
    (member : record ∈ committed.value) :
    Keeps (Tables.putBatch instant batch tables).2 record ∧
      readInstant instant.toMicrosText = .ok record.updatedAt ∧
      readInstant instant.toMicrosText = .ok record.createdAt := by
  rcases transaction_cases _ tables with ⟨_, failed⟩ | ⟨value, last, ran, put⟩
  · cases done.symm.trans (congrArg Prod.fst failed)
  · cases done.symm.trans (congrArg Prod.fst put)
    rw [Tables.putBatch, put]
    rcases bind_eq_ok.mp ran with ⟨_, _, ran⟩
    split at ran
    case isTrue =>
      rcases bind_eq_ok.mp ran with ⟨_, _, ran⟩
      cases ran
      cases member
    case isFalse =>
      rcases bind_eq_ok.mp ran with ⟨_, connected, ran⟩
      rcases bind_eq_ok.mp ran with ⟨table, _, ran⟩
      rcases bind_eq_ok.mp ran with ⟨⟨records, rows⟩, inserted, ran⟩
      rw [(commit_eq_ok ran).2] at member
      rcases insertRows_stand inserted member with ⟨stands, created, updated⟩
      exact ⟨keeps_of_commit connected stands ran, updated, created⟩

/-- Whether the instants that a request wrote to a record are its clock reading. -/
def IsDated (write : Request) (record : Record) : Prop :=
  ∀ now, write.clock? = some now → readInstant now.toMicrosText = .ok record.updatedAt ∧
    (write.creates = true → readInstant now.toMicrosText = .ok record.createdAt)

/-- Every record that a request returns for a change stands in its row. -/
theorem keeps_of_written {write : Request}
    (written : record ∈ (write.perform tables).1.written) :
    Keeps (write.perform tables).2 record ∧ IsDated write record := by
  cases write with
  | put now bpn did expected =>
      rcases Reply.mem_ofOutcome (fun _ => rfl) written with ⟨committed, done, returned⟩
      rcases List.mem_singleton.mp returned with rfl
      rcases put_keeps done with ⟨keeps, updated, created⟩
      refine ⟨keeps, ?_⟩
      rintro _ ⟨⟩
      refine ⟨updated, fun creates => created ?_⟩
      cases expected with
      | none => rfl
      | some version => cases creates
  | putBatch now batch =>
      rcases Reply.mem_ofOutcome (fun _ => rfl) written with ⟨committed, done, returned⟩
      rcases putBatch_keeps done returned with ⟨keeps, updated, created⟩
      refine ⟨keeps, ?_⟩
      rintro _ ⟨⟩
      exact ⟨updated, fun _ => created⟩
  | _ =>
      rcases Reply.mem_ofOutcome (fun _ => rfl) written with ⟨_, _, returned⟩
      cases returned

/-! ## Other requests -/

theorem isOpen_transaction {α : Type} {run : Tables → Except Failure (α × Tables)}
    (same : ∀ {value after}, run tables = .ok (value, after) → after.isOpen = tables.isOpen) :
    (transaction run tables).2.isOpen = tables.isOpen := by
  rcases transaction_cases run tables with ⟨_, failed⟩ | ⟨_, _, done, kept⟩
  · rw [failed]
  · rw [kept]
    exact same done

/-- No request closes a database. -/
theorem isOpen_perform (request : Request) (tables : Tables) :
    (request.perform tables).2.isOpen = tables.isOpen := by
  cases request with
  | put now bpn did expected =>
      refine isOpen_transaction fun done => ?_
      rcases bind_eq_ok.mp done with ⟨_, _, done⟩
      rcases bind_eq_ok.mp done with ⟨_, _, done⟩
      rcases bind_eq_ok.mp done with ⟨table, _, done⟩
      cases expected with
      | none =>
          rcases bind_eq_ok.mp done with ⟨_, _, done⟩
          exact isOpen_of_commit done
      | some version =>
          rcases bind_eq_ok.mp done with ⟨_, _, done⟩
          exact isOpen_of_commit done
  | putBatch now batch =>
      refine isOpen_transaction fun done => ?_
      rcases bind_eq_ok.mp done with ⟨_, _, done⟩
      split at done
      case isTrue =>
        rcases bind_eq_ok.mp done with ⟨_, _, done⟩
        cases done
        rfl
      case isFalse =>
        rcases bind_eq_ok.mp done with ⟨_, _, done⟩
        rcases bind_eq_ok.mp done with ⟨table, _, done⟩
        rcases bind_eq_ok.mp done with ⟨_, _, done⟩
        exact isOpen_of_commit done
  | delete bpn expected =>
      refine isOpen_transaction fun done => ?_
      rcases bind_eq_ok.mp done with ⟨_, _, done⟩
      rcases bind_eq_ok.mp done with ⟨table, _, done⟩
      split at done
      · split at done
        · exact isOpen_of_commit done
        · cases done
      · cases done
  | _ => rfl

/-- A request that writes to other rows only leaves a record where it stands. -/
theorem Keeps.perform (keeps : Keeps tables record) {request : Request}
    (untouched : Exchange.write? record.bpn ⟨request, (request.perform tables).1⟩ = none) :
    Keeps (request.perform tables).2 record := by
  refine ⟨(isOpen_perform request tables).trans keeps.isOpen, ?_⟩
  rcases keeps.stands with ⟨table, mappings, row, found, read⟩
  cases request with
  | put now bpn did expected =>
      change ∃ table, (Tables.put now bpn did expected tables).2.mappings = some table ∧ _
      change Exchange.write? record.bpn ⟨.put now bpn did expected,
        .ofOutcome .put (Tables.put now bpn did expected tables).1⟩ = none at untouched
      rcases put_cases now bpn did expected tables with
        ⟨failure, failed⟩ | ⟨before, written, committed, after, stood, put, mapped, _⟩
      · rw [failed]
        exact ⟨table, mappings, row, found, read⟩
      · rw [put] at untouched ⊢
        cases mappings.symm.trans stood
        have apart : bpn ≠ record.bpn := by
          rintro rfl
          cases expected <;> simp [Reply.ofOutcome, Exchange.write?] at untouched
        refine ⟨_, mapped, row, ?_, read⟩
        rw [OrderedMap.find?_insert, if_neg apart, found]
  | putBatch now batch =>
      change ∃ table, (Tables.putBatch now batch tables).2.mappings = some table ∧ _
      change Exchange.write? record.bpn ⟨.putBatch now batch,
        .ofOutcome .putBatch (Tables.putBatch now batch tables).1⟩ = none at untouched
      rcases putBatch_cases now batch tables with ⟨failure, failed⟩ | ⟨_, version, empty⟩ |
        ⟨before, rows, records, committed, after, stood, inserted, put, mapped, _⟩
      · rw [failed]
        exact ⟨table, mappings, row, found, read⟩
      · rw [empty]
        exact ⟨table, mappings, row, found, read⟩
      · rw [put]
        cases mappings.symm.trans stood
        have stands : Stands table record := ⟨row, found, read⟩
        exact ⟨rows, mapped, stands.insertRows inserted⟩
  | delete bpn expected =>
      change ∃ table, (Tables.delete bpn expected tables).2.mappings = some table ∧ _
      change Exchange.write? record.bpn ⟨.delete bpn expected,
        .ofOutcome .deleted (Tables.delete bpn expected tables).1⟩ = none at untouched
      rcases delete_cases bpn expected tables with
        ⟨failure, failed⟩ | ⟨before, old, committed, after, stood, _, _, deleted, mapped⟩
      · rw [failed]
        exact ⟨table, mappings, row, found, read⟩
      · rw [deleted] at untouched ⊢
        cases mappings.symm.trans stood
        have apart : bpn ≠ record.bpn := by
          rintro rfl
          simp [Reply.ofOutcome, Exchange.write?] at untouched
        refine ⟨_, mapped, row, ?_, read⟩
        rw [OrderedMap.find?_erase, if_neg apart, found]
  | _ => exact ⟨table, mappings, row, found, read⟩

/-- A conversation without a change to the record leaves it where it stands. -/
theorem Keeps.converse (keeps : Keeps tables record) {requests : List Request}
    (untouched : ∀ exchange ∈ (Store.converse requests tables).1,
      exchange.write? record.bpn = none) :
    Keeps (Store.converse requests tables).2 record := by
  induction requests generalizing tables with
  | nil => exact keeps
  | cons request rest ih =>
      rw [converse_cons] at untouched ⊢
      rcases List.forall_mem_cons.mp untouched with ⟨first, others⟩
      exact ih (keeps.perform first) others

/-! ## Questions -/

theorem Keeps.get (keeps : Keeps tables record) :
    (Tables.get record.bpn tables).1 = .ok record := by
  rcases keeps.stands with ⟨table, mappings, row, found, read⟩
  simp only [Tables.get, reading, connect_eq_ok_iff.mpr keeps.isOpen, ok_bind,
    mappingTable_eq_ok_iff.mpr mappings, found, read]

theorem stands_of_readRows {entries : List (String × Row)} {records : List Record}
    (kept : ∀ entry ∈ entries, entry ∈ table.entries) (done : readRows entries = .ok records)
    (member : record ∈ records) : Stands table record := by
  rcases (mem_of_mapM_eq_ok done).2 record member with ⟨entry, listed, read⟩
  refine ⟨entry.2, ?_, ?_⟩
  · rw [readRow_bpn read]
    exact OrderedMap.find?_eq_some_iff.mpr (kept entry listed)
  · rw [readRow_bpn read, read]

theorem mem_of_mem_limitRows {α : Type} {limit : Int64} {items : List α} {item : α}
    (member : item ∈ limitRows limit items) : item ∈ items := by
  unfold limitRows at member
  split at member
  · exact member
  · exact List.mem_of_mem_take member

/-- Every record that is shown stands in its row. -/
theorem stands_of_shown {request : Request} (shown : record ∈ (request.perform tables).1.shown) :
    ∃ table, tables.mappings = some table ∧ Stands table record := by
  cases request with
  | get bpn =>
      rcases Reply.mem_ofOutcome (fun _ => rfl) shown with ⟨found, done, same⟩
      rcases List.mem_singleton.mp same with rfl
      rcases get_eq_ok done with ⟨table, row, mappings, stood, read⟩
      have named := readRow_bpn read
      subst named
      exact ⟨table, mappings, row, stood, read⟩
  | getMany bpns =>
      rcases Reply.mem_ofOutcome (fun _ => rfl) shown with ⟨records, done, listed⟩
      rcases bind_eq_ok.mp done with ⟨parts, selected, done⟩
      cases done
      rcases List.mem_flatten.mp listed with ⟨part, isPart, inPart⟩
      rcases (mem_of_mapM_eq_ok selected).2 part isPart with ⟨keys, _, done⟩
      rcases bind_eq_ok.mp done with ⟨_, _, done⟩
      rcases bind_eq_ok.mp done with ⟨table, found, done⟩
      exact ⟨table, mappingTable_eq_ok_iff.mp found,
        stands_of_readRows (fun entry member => (List.mem_filter.mp member).1) done inPart⟩
  | listAll token size =>
      rcases Reply.mem_ofOutcome (fun _ => rfl) shown with ⟨page, done, listed⟩
      cases token
      case none | some =>
        rcases bind_eq_ok.mp done with ⟨key, _, done⟩
        rcases bind_eq_ok.mp done with ⟨_, _, done⟩
        rcases bind_eq_ok.mp done with ⟨table, found, done⟩
        rcases bind_eq_ok.mp done with ⟨records, selected, done⟩
        have inRecords : record ∈ records := by
          split at done
          case isTrue =>
            cases done
            exact List.mem_of_mem_take listed
          case isFalse =>
            cases done
            exact listed
        have kept : ∀ entry ∈ limitRows (size.toInt64 + 1) (table.entriesAfter key),
            entry ∈ table.entries :=
          fun entry member => (List.mem_filter.mp (mem_of_mem_limitRows member)).1
        exact ⟨table, mappingTable_eq_ok_iff.mp found, stands_of_readRows kept selected inRecords⟩
  | findByDid did =>
      rcases Reply.mem_ofOutcome (fun _ => rfl) shown with ⟨records, done, listed⟩
      rcases bind_eq_ok.mp done with ⟨_, _, done⟩
      rcases bind_eq_ok.mp done with ⟨table, found, done⟩
      exact ⟨table, mappingTable_eq_ok_iff.mp found,
        stands_of_readRows (fun entry member => (List.mem_filter.mp member).1) done listed⟩
  | _ =>
      rcases Reply.mem_ofOutcome (fun _ => rfl) shown with ⟨_, _, listed⟩
      cases listed

theorem Keeps.shown (keeps : Keeps tables record) {request : Request} {other : Record}
    (shown : other ∈ (request.perform tables).1.shown) (same : other.bpn = record.bpn) :
    other = record := by
  rcases keeps.stands with ⟨table, mappings, stands⟩
  rcases stands_of_shown shown with ⟨table', mappings', others⟩
  cases mappings.symm.trans mappings'
  exact stands.unique others same

/-! ## Instants -/

theorem readInstant_eq_ok_iff {text : String} {instant : Instant} :
    readInstant text = .ok instant ↔ Instant.ofText text = .ok instant := by
  unfold readInstant
  cases Instant.ofText text <;> simp

/-- Instants that were read and are written again lose what is finer than a microsecond. -/
theorem readInstant_again {text : String} {instant : Instant}
    (read : readInstant text = .ok instant) (plain : instant.HasPlainYear) :
    readInstant instant.toMicrosText = .ok instant.truncateToMicros := by
  have proper : instant.IsProper := Instant.isProper_of_read (readInstant_eq_ok_iff.mp read)
  exact readInstant_eq_ok_iff.mpr (Instant.ofText_toMicrosText proper plain)

/-- Nothing of an instant is lost in the texts of a database, and so nothing of a record that was
written is.  Whoever asks for the record while nothing else was written under its BPN is shown the
record that the change returned, with the instant of the change. -/
theorem stored_losslessly :
    (∀ instant : Instant, instant.IsStamp → readInstant instant.toMicrosText = .ok instant) ∧
      (∀ (tables : Tables) (write : Request) (between : List Request) (record : Record),
        record ∈ (write.perform tables).1.written →
        (∀ exchange ∈ (converse between (write.perform tables).2).1,
          exchange.write? record.bpn = none) →
        (∀ now, write.clock? = some now → now.IsStamp →
          record.updatedAt = now ∧ (write.creates = true → record.createdAt = now)) ∧
        (Tables.get record.bpn (converse between (write.perform tables).2).2).1 = .ok record ∧
        ∀ (question : Request) (other : Record),
          other ∈ (question.perform (converse between (write.perform tables).2).2).1.shown →
          other.bpn = record.bpn → other = record) ∧
      ∀ (text : String) (instant : Instant), readInstant text = .ok instant →
        instant.HasPlainYear →
        readInstant instant.toMicrosText = .ok instant.truncateToMicros := by
  refine ⟨fun instant => readInstant_toMicrosText, ?_, fun text instant => readInstant_again⟩
  intro tables write between record written untouched
  rcases keeps_of_written written with ⟨keeps, dated⟩
  have later := keeps.converse untouched
  refine ⟨?_, later.get, fun question other shown same => later.shown shown same⟩
  intro now reads stamp
  have back := readInstant_toMicrosText stamp
  rcases dated now reads with ⟨updated, created⟩
  constructor
  · exact Except.ok.inj (updated.symm.trans back)
  · exact fun creates => Except.ok.inj ((created creates).symm.trans back)

/-- A leap second is kept; a record is shown as it was returned, although another one was written in
between; and a text in another time zone, with more digits than a database keeps, is read as an
instant that is kept but for these digits. -/
theorem stored_losslessly_at_noon :
    readInstant (Instant.toMicrosText ⟨⟨2016, 12, 31⟩, 86399, 1500000000⟩) =
        .ok ⟨⟨2016, 12, 31⟩, 86399, 1500000000⟩ ∧
      (Tables.get "BPNL00000000000A"
          (converse [.put Request.later "BPNS00000000000B" "did:web:first" none, .ping]
            (Request.perform (.put Request.noon "BPNL00000000000A" "did:web:first" none)
              migrated).2).2).1 =
        .ok ⟨"BPNL00000000000A", "did:web:first", 1, Request.noon, Request.noon⟩ ∧
      readInstant (Instant.toMicrosText ⟨⟨2016, 12, 31⟩, 86399, 1123456789⟩) =
        .ok ⟨⟨2016, 12, 31⟩, 86399, 1123456000⟩ := by
  rcases stored_losslessly with ⟨stamps, records, texts⟩
  refine ⟨stamps _ (by decide), ?_, ?_⟩
  · exact (records migrated (.put Request.noon "BPNL00000000000A" "did:web:first" none)
      [.put Request.later "BPNS00000000000B" "did:web:first" none, .ping]
      ⟨"BPNL00000000000A", "did:web:first", 1, Request.noon, Request.noon⟩
      (by decide +kernel) (by decide +kernel)).2.1
  · have read : Instant.ofText "2017-01-01t00:59:60.1234567891+01:00" =
        .ok ⟨⟨2016, 12, 31⟩, 86399, 1123456789⟩ := by rfl
    exact texts _ _ (readInstant_eq_ok_iff.mpr read) (by decide)

end Tables
end Store
end BpnDirectory
