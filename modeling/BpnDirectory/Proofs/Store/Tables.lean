import BpnDirectory.Proofs.Collection.Outcome
import BpnDirectory.Proofs.Collection.OrderedMap
import BpnDirectory.Store.Tables

namespace BpnDirectory
namespace Store

/-!
What a change to a database comes to.

Others can reach a database, so nothing is assumed about its tables.  A change that
succeeds found the table of mappings and left it with the rows that it was to make;
a change that fails left everything alone.
-/

theorem transaction_cases {S α : Type} (run : S → Except Failure (α × S)) (store : S) :
    (∃ failure, transaction run store = (.error failure, store)) ∨
      ∃ value after, run store = .ok (value, after) ∧
        transaction run store = (.ok value, after) := by
  unfold transaction
  cases outcome : run store with
  | error failure => exact Or.inl ⟨failure, rfl⟩
  | ok result => exact Or.inr ⟨result.1, result.2, rfl, rfl⟩

namespace Tables

variable {tables after : Tables} {table rows : OrderedMap Row} {bpn did now : String}
  {record : Record}

theorem mappingTable_eq_ok_iff : tables.mappingTable = .ok table ↔ tables.mappings = some table := by
  unfold mappingTable
  cases tables.mappings <;> simp

theorem readRow_bpn {row : Row} (read : readRow bpn row = .ok record) : record.bpn = bpn := by
  rcases bind_eq_ok.mp read with ⟨created, _, read⟩
  rcases bind_eq_ok.mp read with ⟨updated, _, read⟩
  cases read
  rfl

theorem readRow_did {row : Row} (read : readRow bpn row = .ok record) :
    record.did = row.did ∧ record.version = row.version := by
  rcases bind_eq_ok.mp read with ⟨created, _, read⟩
  rcases bind_eq_ok.mp read with ⟨updated, _, read⟩
  cases read
  exact ⟨rfl, rfl⟩

theorem commit_eq_ok {α : Type} {value : α} {committed : Committed α}
    (done : tables.commit table value = .ok (committed, after)) :
    after.mappings = some table ∧ committed.value = value := by
  rcases bind_eq_ok.mp done with ⟨row, _, done⟩
  cases row with
  | none => cases done
  | some version =>
      rcases bind_eq_ok.mp done with ⟨counted, _, done⟩
      cases done
      exact ⟨rfl, rfl⟩

theorem insertRow_eq_ok (done : insertRow table bpn did now = .ok (record, rows)) :
    table.find? bpn = none ∧ record.bpn = bpn ∧ rows = table.insert bpn ⟨did, 1, now, now⟩ := by
  unfold insertRow at done
  split at done
  case isTrue => cases done
  case isFalse absent =>
    rcases bind_eq_ok.mp done with ⟨read, isRead, done⟩
    cases done
    exact ⟨OrderedMap.contains_eq_false_iff.mp (by simpa using absent), readRow_bpn isRead, rfl⟩

theorem updateRow_eq_ok {expected : Int}
    (done : updateRow table bpn did now expected = .ok (record, rows)) :
    ∃ old row, table.find? bpn = some old ∧ old.version = expected ∧ row.did = did ∧
      row.version = old.version + 1 ∧ rows = table.insert bpn row := by
  unfold updateRow at done
  cases found : table.find? bpn with
  | none =>
      rw [found] at done
      cases done
  | some old =>
      rw [found] at done
      dsimp only at done
      split at done
      case isFalse => cases done
      case isTrue same =>
        rcases bind_eq_ok.mp done with ⟨version, counted, done⟩
        rcases bind_eq_ok.mp done with ⟨read, _, done⟩
        cases done
        unfold countUp at counted
        split at counted
        · cases counted
          exact ⟨old, _, rfl, same, rfl, rfl, rfl⟩
        · cases counted

/-- Rows that were inserted one after the other: none of them stood before, and all
of them stand afterwards. -/
theorem insertRows_eq_ok {batch : List NewMapping} {records : List Record}
    (done : insertRows now table batch = .ok (records, rows)) :
    records.map Record.bpn = batch.map NewMapping.bpn ∧
      ∀ key, match batch.find? fun mapping => mapping.bpn = key with
        | some mapping =>
          table.find? key = none ∧ rows.find? key = some ⟨mapping.did, 1, now, now⟩
        | none => rows.find? key = table.find? key := by
  induction batch generalizing table records rows with
  | nil =>
      cases done
      exact ⟨rfl, fun _ => rfl⟩
  | cons head rest ih =>
      rcases bind_eq_ok.mp done with ⟨⟨first, inserted⟩, insertedFirst, done⟩
      rcases bind_eq_ok.mp done with ⟨⟨others, last⟩, insertedRest, done⟩
      cases done
      rcases insertRow_eq_ok insertedFirst with ⟨vacant, named, rfl⟩
      rcases ih insertedRest with ⟨bpns, stand⟩
      refine ⟨by rw [List.map_cons, List.map_cons, named, bpns], ?_⟩
      intro key
      have later := stand key
      rw [OrderedMap.find?_insert] at later
      by_cases same : head.bpn = key
      · subst same
        rw [List.find?_cons_of_pos (by simp)]
        rw [if_pos rfl] at later
        cases again : rest.find? fun mapping => mapping.bpn = head.bpn with
        | some mapping =>
            rw [again] at later
            cases later.1
        | none =>
            rw [again] at later
            exact ⟨vacant, later⟩
      · rw [List.find?_cons_of_neg (by simpa using same)]
        rw [if_neg same] at later
        exact later

/-! ## Calls that read -/

/-- Cutting keys into parts loses none of them. -/
theorem flatten_chunksOf {fuel : Nat} {keys : List String} (enough : keys.length ≤ fuel) :
    (chunksOf fuel keys).flatten = keys := by
  induction fuel generalizing keys with
  | zero =>
      rw [List.eq_nil_of_length_eq_zero (Nat.le_zero.mp enough)]
      rfl
  | succ fuel ih =>
      cases keys with
      | nil => rfl
      | cons head rest =>
          have shorter : ((head :: rest).drop chunkSize).length ≤ fuel := by
            rw [List.length_drop]
            simp only [List.length_cons, chunkSize] at enough ⊢
            omega
          rw [chunksOf, List.flatten_cons, ih shorter, List.take_append_drop]
          exact List.cons_ne_nil head rest

/-- What the database reports is never that there is no record. -/
theorem toFailure_ne_notFound (error : DatabaseError) (text : String) :
    error.toFailure ≠ .notFound text := by
  unfold DatabaseError.toFailure
  split <;> nofun

theorem readRow_ne_notFound (bpn : String) (row : Row) (text : String) :
    readRow bpn row ≠ .error (.notFound text) := by
  unfold readRow readInstant
  cases Time.Instant.ofText row.createdAt with
  | error defect => nofun
  | ok created => cases Time.Instant.ofText row.updatedAt <;> nofun

theorem get_eq_ok (done : (Tables.get bpn tables).1 = .ok record) :
    ∃ table row, tables.mappings = some table ∧ table.find? bpn = some row ∧
      readRow bpn row = .ok record := by
  rcases bind_eq_ok.mp done with ⟨_, _, done⟩
  rcases bind_eq_ok.mp done with ⟨table, found, done⟩
  cases stood : table.find? bpn with
  | none =>
      rw [stood] at done
      cases done
  | some row =>
      rw [stood] at done
      exact ⟨table, row, mappingTable_eq_ok_iff.mp found, stood, done⟩

/-- No record is found only where no row stands. -/
theorem get_eq_notFound {text : String}
    (done : (Tables.get bpn tables).1 = .error (.notFound text)) :
    ∃ table, tables.mappings = some table ∧ table.find? bpn = none := by
  rcases bind_eq_error.mp done with closed | ⟨_, _, done⟩
  · unfold connect at closed
    split at closed
    · cases closed
    · exact absurd (Except.error.inj closed) (toFailure_ne_notFound _ text)
  · rcases bind_eq_error.mp done with missing | ⟨table, found, done⟩
    · unfold mappingTable at missing
      split at missing
      · cases missing
      · exact absurd (Except.error.inj missing) (toFailure_ne_notFound _ text)
    · cases stood : table.find? bpn with
      | none => exact ⟨table, mappingTable_eq_ok_iff.mp found, stood⟩
      | some row =>
          rw [stood] at done
          exact absurd done (readRow_ne_notFound bpn row text)

/-- A statement with a list of keys yields a record for every row with one of these
keys, and no others. -/
theorem selectIn_eq_ok {keys : List String} {records : List Record}
    (done : selectIn keys tables = .ok records) :
    ∃ table, tables.mappings = some table ∧
      (∀ key ∈ keys, ∀ row, table.find? key = some row →
        ∃ record ∈ records, readRow key row = .ok record) ∧
      ∀ record ∈ records, ∃ key row, table.find? key = some row ∧
        readRow key row = .ok record := by
  rcases bind_eq_ok.mp done with ⟨_, _, done⟩
  rcases bind_eq_ok.mp done with ⟨table, found, done⟩
  rcases mem_of_mapM_eq_ok done with ⟨there, back⟩
  refine ⟨table, mappingTable_eq_ok_iff.mp found, ?_, ?_⟩
  · intro key asked row stood
    have listed := OrderedMap.find?_eq_some_iff.mp stood
    exact there (key, row) (List.mem_filter.mpr ⟨listed, by simpa using asked⟩)
  · intro record member
    rcases back record member with ⟨entry, listed, read⟩
    exact ⟨entry.1, entry.2,
      OrderedMap.find?_eq_some_iff.mpr (List.mem_filter.mp listed).1, read⟩

theorem getMany_eq_ok {bpns : List String} {records : List Record}
    (done : (Tables.getMany bpns tables).1 = .ok records) :
    (∀ record ∈ records, ∃ table row, tables.mappings = some table ∧
      table.find? record.bpn = some row ∧ record.did = row.did ∧ record.version = row.version) ∧
    ∀ bpn ∈ bpns, ∀ table row, tables.mappings = some table → table.find? bpn = some row →
      ∃ record ∈ records, record.bpn = bpn := by
  rcases bind_eq_ok.mp done with ⟨parts, selected, done⟩
  cases done
  rcases mem_of_mapM_eq_ok selected with ⟨there, back⟩
  constructor
  · intro record member
    rcases List.mem_flatten.mp member with ⟨part, listed, inPart⟩
    rcases back part listed with ⟨keys, _, selectedPart⟩
    rcases selectIn_eq_ok selectedPart with ⟨table, mappings, _, stands⟩
    rcases stands record inPart with ⟨key, row, stood, read⟩
    rw [readRow_bpn read]
    exact ⟨table, row, mappings, stood, readRow_did read⟩
  · intro bpn asked table row mappings stood
    rw [← flatten_chunksOf (Nat.le_refl bpns.length)] at asked
    rcases List.mem_flatten.mp asked with ⟨keys, listed, inPart⟩
    rcases there keys listed with ⟨part, partListed, selectedPart⟩
    rcases selectIn_eq_ok selectedPart with ⟨same, sameMappings, stands, _⟩
    cases mappings.symm.trans sameMappings
    rcases stands bpn inPart row stood with ⟨record, inRecords, read⟩
    exact ⟨record, List.mem_flatten.mpr ⟨part, partListed, inRecords⟩, readRow_bpn read⟩

/-! ## Calls that change rows -/

/-- All that can come of creating or replacing one row. -/
theorem put_cases (now : Time.Instant) (bpn did : String) (expected : Option Int)
    (tables : Tables) :
    (∃ failure, Tables.put now bpn did expected tables = (.error failure, tables)) ∨
      ∃ table row committed after, tables.mappings = some table ∧
        Tables.put now bpn did expected tables = (.ok committed, after) ∧
        after.mappings = some (table.insert bpn row) ∧ row.did = did ∧
        (expected = none ∧ table.find? bpn = none ∧ row.version = 1 ∨
          ∃ old, expected = some old.version ∧ table.find? bpn = some old ∧
            row.version = old.version + 1) := by
  rcases transaction_cases _ tables with failed | ⟨committed, after, done, put⟩
  · exact Or.inl failed
  · right
    rcases bind_eq_ok.mp done with ⟨_, _, done⟩
    rcases bind_eq_ok.mp done with ⟨_, _, done⟩
    rcases bind_eq_ok.mp done with ⟨table, found, done⟩
    have mappings := mappingTable_eq_ok_iff.mp found
    cases expected with
    | none =>
        rcases bind_eq_ok.mp done with ⟨⟨record, rows⟩, inserted, done⟩
        rcases insertRow_eq_ok inserted with ⟨vacant, _, rfl⟩
        exact ⟨table, _, committed, after, mappings, put, (commit_eq_ok done).1, rfl,
          Or.inl ⟨rfl, vacant, rfl⟩⟩
    | some version =>
        rcases bind_eq_ok.mp done with ⟨⟨record, rows⟩, updated, done⟩
        rcases updateRow_eq_ok updated with ⟨old, row, stood, rfl, same, counted, rfl⟩
        exact ⟨table, row, committed, after, mappings, put, (commit_eq_ok done).1, same,
          Or.inr ⟨old, rfl, stood, counted⟩⟩

/-- All that can come of creating the rows of a batch. -/
theorem putBatch_cases (now : Time.Instant) (batch : List NewMapping) (tables : Tables) :
    (∃ failure, Tables.putBatch now batch tables = (.error failure, tables)) ∨
      (batch = [] ∧ ∃ version, Tables.putBatch now batch tables = (.ok ⟨[], version⟩, tables)) ∨
      ∃ table rows records committed after, tables.mappings = some table ∧
        insertRows now.toMicrosText table batch = .ok (records, rows) ∧
        Tables.putBatch now batch tables = (.ok committed, after) ∧
        after.mappings = some rows ∧ committed.value = records := by
  rcases transaction_cases _ tables with failed | ⟨committed, after, done, put⟩
  · exact Or.inl failed
  · right
    rcases bind_eq_ok.mp done with ⟨_, _, done⟩
    by_cases isEmpty : batch = []
    · left
      subst isEmpty
      rcases bind_eq_ok.mp done with ⟨version, _, done⟩
      cases done
      exact ⟨rfl, version, put⟩
    · right
      rw [if_neg (by simpa using isEmpty)] at done
      rcases bind_eq_ok.mp done with ⟨_, _, done⟩
      rcases bind_eq_ok.mp done with ⟨table, found, done⟩
      rcases bind_eq_ok.mp done with ⟨⟨records, rows⟩, inserted, done⟩
      rcases commit_eq_ok done with ⟨mappings, value⟩
      exact ⟨table, rows, records, committed, after, mappingTable_eq_ok_iff.mp found, inserted,
        put, mappings, value⟩

/-- A batch without mappings changes nothing. -/
theorem putBatch_nil (now : Time.Instant) (tables : Tables) :
    (Tables.putBatch now [] tables).2 = tables := by
  rcases transaction_cases _ tables with ⟨_, same⟩ | ⟨_, _, done, same⟩
  · exact congrArg Prod.snd same
  · rcases bind_eq_ok.mp done with ⟨_, _, done⟩
    rcases bind_eq_ok.mp done with ⟨_, _, done⟩
    cases done
    exact congrArg Prod.snd same

/-- All that can come of deleting a row. -/
theorem delete_cases (bpn : String) (expected : Int) (tables : Tables) :
    (∃ failure, Tables.delete bpn expected tables = (.error failure, tables)) ∨
      ∃ table old committed after, tables.mappings = some table ∧ table.find? bpn = some old ∧
        expected = old.version ∧ Tables.delete bpn expected tables = (.ok committed, after) ∧
        after.mappings = some (table.erase bpn) := by
  rcases transaction_cases _ tables with failed | ⟨committed, after, done, deleted⟩
  · exact Or.inl failed
  · right
    rcases bind_eq_ok.mp done with ⟨_, _, done⟩
    rcases bind_eq_ok.mp done with ⟨table, found, done⟩
    cases stood : table.find? bpn with
    | none =>
        rw [stood] at done
        cases done
    | some old =>
        rw [stood] at done
        dsimp only at done
        split at done
        case isFalse => cases done
        case isTrue same =>
          exact ⟨table, old, committed, after, mappingTable_eq_ok_iff.mp found, stood, same.symm,
            deleted, (commit_eq_ok done).1⟩

end Tables
end Store
end BpnDirectory
