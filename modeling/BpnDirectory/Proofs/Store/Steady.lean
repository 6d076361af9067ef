import BpnDirectory.Proofs.Store.Atomic

namespace BpnDirectory
namespace Store

/-!
Stores that only their own changes change.

A store in memory, and a database in which every row can be read, answer every lookup,
and stay as they are unless a change succeeds.  Nothing that goes through the store
spoils this; others with access to the database could.
-/

/-- A store that stays as it is when a call fails or asks for no change, and that answers
all lookups while it is healthy. -/
class SteadyStore (S : Type) [MappingStore S] [LawfulStore S] where
  IsHealthy : S → Prop
  sound_of_healthy : ∀ {store : S}, IsHealthy store → LawfulStore.IsSound store
  healthy_perform : ∀ (request : Request) {store : S}, IsHealthy store →
    IsHealthy (request.perform store).2
  same_of_failed : ∀ (request : Request) {store : S} {failure : Failure},
    (request.perform store).1 = .failed failure → (request.perform store).2 = store
  same_of_read : ∀ {request : Request}, request.isChange = false → ∀ store : S,
    (request.perform store).2 = store
  get_answers : ∀ {store : S} {bpn : String} {held : Held}, IsHealthy store →
    LawfulStore.held store bpn = some held → ∃ record, (MappingStore.get bpn store).1 = .ok record
  getMany_answers : ∀ {store : S}, IsHealthy store → ∀ bpns,
    ∃ records, (MappingStore.getMany bpns store).1 = .ok records

instance : SteadyStore Memory where
  IsHealthy := Memory.IsSound
  sound_of_healthy := id
  healthy_perform := LawfulStore.sound_perform
  same_of_failed := Memory.perform_of_failed
  same_of_read := Memory.perform_read
  get_answers := by
    intro memory bpn held _ holds
    rcases Option.map_eq_some_iff.mp holds with ⟨record, found, _⟩
    refine ⟨record, ?_⟩
    change (Memory.get bpn memory).1 = .ok record
    simp only [Memory.get, reading, found]
  getMany_answers := fun _ _ => ⟨_, rfl⟩

namespace Tables

variable {tables after : Tables} {table rows : OrderedMap Row} {bpn did now : String}

def IsReadable (table : OrderedMap Row) : Prop :=
  ∀ bpn row, table.find? bpn = some row → ∃ record, readRow bpn row = .ok record

/-- Whether a database can be reached and every mapping in it can be read. -/
def IsHealthy (tables : Tables) : Prop :=
  tables.isOpen = true ∧ ∃ table, tables.mappings = some table ∧ IsReadable table

theorem isHealthy_migrated : IsHealthy migrated :=
  ⟨rfl, .empty, rfl, fun _ _ found => nomatch found⟩

theorem IsReadable.insert (readable : IsReadable table) {row : Row} {record : Record}
    (read : readRow bpn row = .ok record) : IsReadable (table.insert bpn row) := by
  intro key kept found
  rw [OrderedMap.find?_insert] at found
  split at found
  · next same =>
      cases found
      exact ⟨record, same ▸ read⟩
  · exact readable key kept found

theorem IsReadable.erase (readable : IsReadable table) : IsReadable (table.erase bpn) := by
  intro key kept found
  rw [OrderedMap.find?_erase] at found
  split at found
  · cases found
  · exact readable key kept found

theorem isReadable_of_insertRow {record : Record} (readable : IsReadable table)
    (done : insertRow table bpn did now = .ok (record, rows)) : IsReadable rows := by
  unfold insertRow at done
  split at done
  · cases done
  · rcases bind_eq_ok.mp done with ⟨_, read, done⟩
    cases done
    exact readable.insert read

theorem isReadable_of_updateRow {record : Record} {expected : Int} (readable : IsReadable table)
    (done : updateRow table bpn did now expected = .ok (record, rows)) : IsReadable rows := by
  unfold updateRow at done
  split at done
  · split at done
    · rcases bind_eq_ok.mp done with ⟨_, _, done⟩
      rcases bind_eq_ok.mp done with ⟨_, read, done⟩
      cases done
      exact readable.insert read
    · cases done
  · cases done

theorem isReadable_of_insertRows {batch : List NewMapping} {records : List Record}
    (readable : IsReadable table) (done : insertRows now table batch = .ok (records, rows)) :
    IsReadable rows := by
  induction batch generalizing table records with
  | nil =>
      cases done
      exact readable
  | cons mapping rest ih =>
      rcases bind_eq_ok.mp done with ⟨⟨first, inserted⟩, insertedFirst, done⟩
      rcases bind_eq_ok.mp done with ⟨⟨others, last⟩, insertedRest, done⟩
      cases done
      exact ih (isReadable_of_insertRow readable insertedFirst) insertedRest

theorem isHealthy_of_commit {α : Type} {value : α} {committed : Committed α}
    (isOpen : tables.isOpen = true) (readable : IsReadable table)
    (done : tables.commit table value = .ok (committed, after)) : after.IsHealthy := by
  rcases bind_eq_ok.mp done with ⟨row, _, done⟩
  cases row with
  | none => cases done
  | some version =>
      rcases bind_eq_ok.mp done with ⟨counted, _, done⟩
      cases done
      exact ⟨isOpen, table, rfl, readable⟩

/-- The table of mappings of a healthy database can be read. -/
theorem IsHealthy.isReadable (healthy : tables.IsHealthy)
    (found : tables.mappingTable = .ok table) : IsReadable table := by
  rcases healthy with ⟨_, kept, mappings, readable⟩
  cases mappings.symm.trans (mappingTable_eq_ok_iff.mp found)
  exact readable

theorem isHealthy_transaction {α : Type} {run : Tables → Except Failure (α × Tables)}
    (healthy : tables.IsHealthy)
    (keeps : ∀ {value after}, run tables = .ok (value, after) → after.IsHealthy) :
    (transaction run tables).2.IsHealthy := by
  rcases transaction_cases run tables with ⟨_, failed⟩ | ⟨_, _, done, kept⟩
  · rw [failed]
    exact healthy
  · rw [kept]
    exact keeps done

theorem isHealthy_put (healthy : tables.IsHealthy) (now : Time.Instant) (bpn did : String)
    (expected : Option Int) : (Tables.put now bpn did expected tables).2.IsHealthy := by
  refine isHealthy_transaction healthy fun done => ?_
  rcases bind_eq_ok.mp done with ⟨_, _, done⟩
  rcases bind_eq_ok.mp done with ⟨_, _, done⟩
  rcases bind_eq_ok.mp done with ⟨table, found, done⟩
  have readable := healthy.isReadable found
  cases expected with
  | none =>
      rcases bind_eq_ok.mp done with ⟨⟨record, rows⟩, inserted, done⟩
      exact isHealthy_of_commit healthy.1 (isReadable_of_insertRow readable inserted) done
  | some version =>
      rcases bind_eq_ok.mp done with ⟨⟨record, rows⟩, updated, done⟩
      exact isHealthy_of_commit healthy.1 (isReadable_of_updateRow readable updated) done

theorem isHealthy_putBatch (healthy : tables.IsHealthy) (now : Time.Instant)
    (batch : List NewMapping) : (Tables.putBatch now batch tables).2.IsHealthy := by
  refine isHealthy_transaction healthy fun done => ?_
  rcases bind_eq_ok.mp done with ⟨_, _, done⟩
  split at done
  · rcases bind_eq_ok.mp done with ⟨_, _, done⟩
    cases done
    exact healthy
  · rcases bind_eq_ok.mp done with ⟨_, _, done⟩
    rcases bind_eq_ok.mp done with ⟨table, found, done⟩
    rcases bind_eq_ok.mp done with ⟨⟨records, rows⟩, inserted, done⟩
    have readable := isReadable_of_insertRows (healthy.isReadable found) inserted
    exact isHealthy_of_commit healthy.1 readable done

theorem isHealthy_delete (healthy : tables.IsHealthy) (bpn : String) (expected : Int) :
    (Tables.delete bpn expected tables).2.IsHealthy := by
  refine isHealthy_transaction healthy fun done => ?_
  rcases bind_eq_ok.mp done with ⟨_, _, done⟩
  rcases bind_eq_ok.mp done with ⟨table, found, done⟩
  split at done
  · split at done
    · exact isHealthy_of_commit healthy.1 (healthy.isReadable found).erase done
    · cases done
  · cases done

/-- A statement with a list of keys has records where every row can be read. -/
theorem exists_selectIn (healthy : tables.IsHealthy) (keys : List String) :
    ∃ records, selectIn keys tables = .ok records := by
  rcases healthy with ⟨isOpen, table, mappings, readable⟩
  rw [selectIn, connect, if_pos isOpen, ok_bind, mappingTable_eq_ok_iff.mpr mappings, ok_bind]
  refine exists_mapM_eq_ok fun entry member => readable entry.1 entry.2 ?_
  exact OrderedMap.find?_eq_some_iff.mpr (List.mem_filter.mp member).1

instance : SteadyStore Tables where
  IsHealthy := IsHealthy
  sound_of_healthy := fun _ => trivial
  healthy_perform := by
    intro request tables healthy
    cases request with
    | put now bpn did expected => exact isHealthy_put healthy now bpn did expected
    | putBatch now batch => exact isHealthy_putBatch healthy now batch
    | delete bpn expected => exact isHealthy_delete healthy bpn expected
    | _ => exact healthy
  same_of_failed := Tables.perform_of_failed
  same_of_read := Tables.perform_read
  get_answers := by
    rintro tables bpn held ⟨isOpen, table, mappings, readable⟩ holds
    change (tables.held bpn) = some held at holds
    rw [held_eq mappings] at holds
    rcases Option.map_eq_some_iff.mp holds with ⟨row, found, _⟩
    rcases readable bpn row found with ⟨record, read⟩
    refine ⟨record, ?_⟩
    change (Tables.get bpn tables).1 = .ok record
    simp only [Tables.get, reading, connect, isOpen, if_true, ok_bind,
      mappingTable_eq_ok_iff.mpr mappings, found, read]
  getMany_answers := by
    intro tables healthy bpns
    rcases exists_mapM_eq_ok fun keys (_ : keys ∈ chunksOf bpns.length bpns) =>
      exists_selectIn healthy keys with ⟨parts, selected⟩
    refine ⟨parts.flatten, ?_⟩
    change (Tables.getMany bpns tables).1 = .ok parts.flatten
    simp only [Tables.getMany, reading, selected, ok_bind]

end Tables

instance : SteadyStore Backend where
  IsHealthy
    | .memory store => SteadyStore.IsHealthy store
    | .tables store => SteadyStore.IsHealthy store
  sound_of_healthy := by
    intro store healthy
    cases store with
    | memory store => exact @SteadyStore.sound_of_healthy Memory _ _ _ store healthy
    | tables store => exact @SteadyStore.sound_of_healthy Tables _ _ _ store healthy
  healthy_perform := by
    intro request store healthy
    cases store with
    | memory store =>
        rw [Backend.perform_memory]
        exact SteadyStore.healthy_perform request healthy
    | tables store =>
        rw [Backend.perform_tables]
        exact SteadyStore.healthy_perform request healthy
  same_of_failed := AtomicStore.kept_of_failed
  same_of_read := AtomicStore.kept_of_read
  get_answers := by
    intro store bpn held healthy holds
    cases store with
    | memory store => exact @SteadyStore.get_answers Memory _ _ _ store bpn held healthy holds
    | tables store => exact @SteadyStore.get_answers Tables _ _ _ store bpn held healthy holds
  getMany_answers := by
    intro store healthy bpns
    cases store with
    | memory store => exact @SteadyStore.getMany_answers Memory _ _ _ store healthy bpns
    | tables store => exact @SteadyStore.getMany_answers Tables _ _ _ store healthy bpns

/-! ## Stores at hand -/

/-- Whether a store can be reached and has an answer to every look-up of certain keys. -/
structure IsAvailable {S : Type} [MappingStore S] [LawfulStore S] (keys : List String) (store : S) :
    Prop where
  sound : LawfulStore.IsSound store
  get : ∀ key ∈ keys, (∃ record, (MappingStore.get key store).1 = .ok record) ∨
    ∃ text, (MappingStore.get key store).1 = .error (.notFound text)
  getMany : ∀ asked ⊆ keys, ∃ records, (MappingStore.getMany asked store).1 = .ok records

/-- A healthy store is available if it says of every missing record that there is none. -/
theorem IsAvailable.of_healthy {S : Type} [MappingStore S] [LawfulStore S] [SteadyStore S] {store : S}
    (healthy : SteadyStore.IsHealthy store)
    (missing : ∀ key, LawfulStore.held store key = none →
      ∃ text, (MappingStore.get key store).1 = .error (.notFound text))
    (keys : List String) : IsAvailable keys store where
  sound := SteadyStore.sound_of_healthy healthy
  get := by
    intro key _
    cases holds : LawfulStore.held store key with
    | some held => exact Or.inl (SteadyStore.get_answers healthy holds)
    | none => exact Or.inr (missing key holds)
  getMany := fun asked _ => SteadyStore.getMany_answers healthy asked

theorem Memory.get_of_held_eq_none {memory : Memory} {bpn : String}
    (vacant : memory.held bpn = none) : (Memory.get bpn memory).1 = .error (.noMapping bpn) := by
  have absent : memory.records.find? bpn = none := Option.map_eq_none_iff.mp vacant
  simp only [Memory.get, reading, absent]

theorem Tables.get_of_held_eq_none {tables : Tables} {bpn : String} (healthy : tables.IsHealthy)
    (vacant : tables.held bpn = none) : (Tables.get bpn tables).1 = .error (.noMapping bpn) := by
  rcases healthy with ⟨isOpen, table, mappings, _⟩
  rw [held_eq mappings] at vacant
  have absent : table.find? bpn = none := Option.map_eq_none_iff.mp vacant
  simp only [Tables.get, reading, connect, isOpen, if_true, ok_bind,
    mappingTable_eq_ok_iff.mpr mappings, absent]

theorem Backend.isAvailable {store : Backend} (healthy : SteadyStore.IsHealthy store)
    (keys : List String) : IsAvailable keys store := by
  refine .of_healthy healthy ?_ keys
  intro key vacant
  cases store with
  | memory store => exact ⟨_, Memory.get_of_held_eq_none vacant⟩
  | tables store => exact ⟨_, Tables.get_of_held_eq_none healthy vacant⟩

end Store
end BpnDirectory
