import BpnDirectory.Proofs.Store.Pages

namespace BpnDirectory
namespace Store

/-!
Stores that are ready for a change.

A store that is ready, and has room for one more change, makes every change whose
arguments pass their checks and which finds the version that it expects.  It refuses a
change that finds another version or no record, and says which.
-/

open Text (maxSigned64)

/-- Why what is held for a BPN is not what a change expects. -/
def refusal (bpn : String) (expected : Int) : Option Held → Failure
  | some held => .versionConflict bpn expected held.version
  | none => .noMapping bpn

/-- Whether what is held, if anything, has a version. -/
def Held.IsAt (version : Int) (held : Option Held) : Prop := held.map Held.version = some version

instance {version : Int} {held : Option Held} : Decidable (Held.IsAt version held) :=
  inferInstanceAs (Decidable (held.map Held.version = some version))

theorem Held.IsAt.eq_some {version : Int} {held : Option Held} (isAt : IsAt version held) :
    ∃ did, held = some ⟨did, version⟩ := by
  rcases Option.map_eq_some_iff.mp isAt with ⟨⟨did, found⟩, rfl, rfl⟩
  exact ⟨did, rfl⟩

/-- Stores of which it is known when they are ready. -/
class ReadyStore (S : Type) [MappingStore S] [LawfulStore S] where
  /-- Whether a store is ready for a change at a reading of the clock. -/
  IsReady : Time.Instant → S → Prop
  /-- Whether a store can count one more change of a BPN. -/
  HasRoom : String → S → Prop
  replaces : ∀ {now : Time.Instant} {bpn did : String} {expected : Int} {store : S},
    IsReady now store → HasRoom bpn store → requireMapping bpn did = .ok () →
    Held.IsAt expected (LawfulStore.held store bpn) →
      ∃ committed, (MappingStore.put now bpn did (some expected) store).1 = .ok committed
  deletes : ∀ {now : Time.Instant} {bpn : String} {expected : Int} {store : S},
    IsReady now store → HasRoom bpn store → Held.IsAt expected (LawfulStore.held store bpn) →
      ∃ committed, (MappingStore.delete bpn expected store).1 = .ok committed
  refuses_put : ∀ {now : Time.Instant} {bpn did : String} {expected : Int} {store : S},
    IsReady now store → requireMapping bpn did = .ok () →
    ¬ Held.IsAt expected (LawfulStore.held store bpn) →
      (MappingStore.put now bpn did (some expected) store).1 =
        .error (refusal bpn expected (LawfulStore.held store bpn))
  refuses_delete : ∀ {now : Time.Instant} {bpn : String} {expected : Int} {store : S},
    IsReady now store → ¬ Held.IsAt expected (LawfulStore.held store bpn) →
      (MappingStore.delete bpn expected store).1 =
        .error (refusal bpn expected (LawfulStore.held store bpn))

namespace Memory

variable {memory : Memory} {bpn did : String} {expected : Int} {now : Time.Instant}

theorem mismatch_eq_refusal (memory : Memory) (bpn : String) (expected : Int) :
    memory.mismatch bpn expected = refusal bpn expected (memory.held bpn) := by
  unfold mismatch held
  cases memory.records.find? bpn <;> rfl

theorem isAt_held {record : Record} (found : memory.records.find? bpn = some record) :
    Held.IsAt expected (memory.held bpn) ↔ record.version = expected := by
  rw [Held.IsAt, held, found]
  exact Option.some_inj

theorem put_of_isAt (valid : requireMapping bpn did = .ok ())
    (isAt : Held.IsAt expected (memory.held bpn)) :
    ∃ committed, (Memory.put now bpn did (some expected) memory).1 = .ok committed := by
  cases found : memory.records.find? bpn with
  | none =>
      rw [Held.IsAt, held, found] at isAt
      cases isAt
  | some record =>
      have same := (isAt_held found).mp isAt
      simp only [Memory.put, transaction, valid, ok_bind, found, if_pos same]
      exact ⟨_, rfl⟩

theorem put_of_not_isAt (valid : requireMapping bpn did = .ok ())
    (other : ¬ Held.IsAt expected (memory.held bpn)) :
    (Memory.put now bpn did (some expected) memory).1 =
      .error (refusal bpn expected (memory.held bpn)) := by
  rw [← mismatch_eq_refusal]
  cases found : memory.records.find? bpn with
  | none => simp only [Memory.put, transaction, valid, ok_bind, found]
  | some record =>
      have apart := mt (isAt_held found).mpr other
      simp only [Memory.put, transaction, valid, ok_bind, found, if_neg apart]

theorem delete_of_isAt (isAt : Held.IsAt expected (memory.held bpn)) :
    ∃ committed, (Memory.delete bpn expected memory).1 = .ok committed := by
  cases found : memory.records.find? bpn with
  | none =>
      rw [Held.IsAt, held, found] at isAt
      cases isAt
  | some record =>
      have same := (isAt_held found).mp isAt
      simp only [Memory.delete, transaction, found, if_pos same]
      exact ⟨_, rfl⟩

theorem delete_of_not_isAt (other : ¬ Held.IsAt expected (memory.held bpn)) :
    (Memory.delete bpn expected memory).1 = .error (refusal bpn expected (memory.held bpn)) := by
  rw [← mismatch_eq_refusal]
  cases found : memory.records.find? bpn with
  | none => simp only [Memory.delete, transaction, found]
  | some record =>
      have apart := mt (isAt_held found).mpr other
      simp only [Memory.delete, transaction, found, if_neg apart]

instance : ReadyStore Memory where
  IsReady := fun _ _ => True
  HasRoom := fun _ _ => True
  replaces := fun _ _ => put_of_isAt
  deletes := fun _ _ => delete_of_isAt
  refuses_put := fun _ => put_of_not_isAt
  refuses_delete := fun _ => delete_of_not_isAt

end Memory

/-! ## Databases -/

namespace Tables

variable {tables : Tables} {table : OrderedMap Row} {bpn did : String} {expected : Int}
  {now : Time.Instant}

/-- Whether a database is ready: it is healthy, and the clock shows a year that a text can
tell. -/
structure IsReady (now : Time.Instant) (tables : Tables) : Prop where
  healthy : tables.IsHealthy
  proper : now.IsProper
  plain : now.HasPlainYear

/-- Whether neither the number of changes nor the version of a BPN has come to its greatest
value. -/
structure HasRoom (bpn : String) (tables : Tables) : Prop where
  counted : ∃ count < maxSigned64, tables.metadata = some (some count)
  version : ∀ held, tables.held bpn = some held → held.version < maxSigned64

theorem mismatch_eq_refusal (mappings : tables.mappings = some table) (bpn : String)
    (expected : Int) : mismatch table bpn expected = refusal bpn expected (tables.held bpn) := by
  rw [held_eq mappings, mismatch]
  cases table.find? bpn <;> rfl

theorem isAt_held (mappings : tables.mappings = some table) {row : Row}
    (found : table.find? bpn = some row) :
    Held.IsAt expected (tables.held bpn) ↔ row.version = expected := by
  rw [Held.IsAt, held_eq mappings, found]
  exact Option.some_inj

/-- A database with room counts a change. -/
theorem commit_of_room {α : Type} {count : Int} (less : count < maxSigned64)
    (counted : tables.metadata = some (some count)) (table : OrderedMap Row) (value : α) :
    ∃ committed after, tables.commit table value = .ok (committed, after) := by
  refine ⟨⟨value, count + 1⟩,
    { tables with mappings := some table, metadata := some (some (count + 1)) }, ?_⟩
  simp only [commit, metadataRow, counted, ok_bind, countUp, if_pos less]

/-- A row that can be read can be read after its DID was replaced. -/
theorem readRow_of_replaced {row : Row} {record : Record} (read : readRow bpn row = .ok record)
    (proper : now.IsProper) (plain : now.HasPlainYear) (did : String) (version : Int) :
    ∃ next, readRow bpn { row with did, version, updatedAt := now.toMicrosText } = .ok next := by
  rcases bind_eq_ok.mp read with ⟨created, readCreated, _⟩
  have readUpdated : readInstant now.toMicrosText = .ok now.truncateToMicros := by
    simp only [readInstant, Time.Instant.ofText_toMicrosText proper plain]
  refine ⟨⟨bpn, did, version, created, now.truncateToMicros⟩, ?_⟩
  simp only [readRow, readCreated, readUpdated, ok_bind]

theorem updateRow_of_version (did : String) {row : Row} {record : Record}
    (found : table.find? bpn = some row) (same : row.version = expected)
    (less : row.version < maxSigned64) (read : readRow bpn row = .ok record)
    (proper : now.IsProper) (plain : now.HasPlainYear) :
    ∃ next rows, updateRow table bpn did now.toMicrosText expected = .ok (next, rows) := by
  rcases readRow_of_replaced read proper plain did (row.version + 1) with ⟨next, readNext⟩
  refine ⟨next, table.insert bpn ⟨did, row.version + 1, row.createdAt, now.toMicrosText⟩, ?_⟩
  simp only [updateRow, found, if_pos same, countUp, if_pos less, ok_bind, readNext]

theorem put_of_isAt (ready : tables.IsReady now) (room : tables.HasRoom bpn)
    (valid : requireMapping bpn did = .ok ()) (isAt : Held.IsAt expected (tables.held bpn)) :
    ∃ committed, (Tables.put now bpn did (some expected) tables).1 = .ok committed := by
  rcases ready.healthy with ⟨isOpen, table, mappings, readable⟩
  rcases room.counted with ⟨count, less, counted⟩
  have holds := isAt
  rw [Held.IsAt, held_eq mappings, Option.map_map] at holds
  rcases Option.map_eq_some_iff.mp holds with ⟨row, found, same⟩
  rcases readable bpn row found with ⟨record, read⟩
  have small : row.version < maxSigned64 :=
    room.version (.ofRow row) (by rw [held_eq mappings, found]; rfl)
  rcases updateRow_of_version did found same small read ready.proper ready.plain with
    ⟨next, rows, updated⟩
  rcases commit_of_room less counted rows next with ⟨committed, after, commits⟩
  refine ⟨committed, ?_⟩
  simp only [Tables.put, transaction, valid, ok_bind, connect, isOpen, if_true,
    mappingTable_eq_ok_iff.mpr mappings, updated, commits]

theorem put_of_not_isAt (ready : tables.IsReady now) (valid : requireMapping bpn did = .ok ())
    (other : ¬ Held.IsAt expected (tables.held bpn)) :
    (Tables.put now bpn did (some expected) tables).1 =
      .error (refusal bpn expected (tables.held bpn)) := by
  rcases ready.healthy with ⟨isOpen, table, mappings, readable⟩
  rw [← mismatch_eq_refusal mappings]
  have refused : updateRow table bpn did now.toMicrosText expected =
      .error (mismatch table bpn expected) := by
    cases found : table.find? bpn with
    | none => simp only [updateRow, found]
    | some row =>
        have apart := mt (isAt_held mappings found).mpr other
        simp only [updateRow, found, if_neg apart]
  simp only [Tables.put, transaction, valid, ok_bind, connect, isOpen, if_true,
    mappingTable_eq_ok_iff.mpr mappings, refused, error_bind]

theorem delete_of_isAt (ready : tables.IsReady now) (room : tables.HasRoom bpn)
    (isAt : Held.IsAt expected (tables.held bpn)) :
    ∃ committed, (Tables.delete bpn expected tables).1 = .ok committed := by
  rcases ready.healthy with ⟨isOpen, table, mappings, readable⟩
  rcases room.counted with ⟨count, less, counted⟩
  rcases commit_of_room less counted (table.erase bpn) () with ⟨committed, after, commits⟩
  cases found : table.find? bpn with
  | none =>
      rw [Held.IsAt, held_eq mappings, found] at isAt
      cases isAt
  | some row =>
      have same := (isAt_held mappings found).mp isAt
      refine ⟨committed, ?_⟩
      simp only [Tables.delete, transaction, ok_bind, connect, isOpen, if_true,
        mappingTable_eq_ok_iff.mpr mappings, found, if_pos same, commits]

theorem delete_of_not_isAt (ready : tables.IsReady now)
    (other : ¬ Held.IsAt expected (tables.held bpn)) :
    (Tables.delete bpn expected tables).1 = .error (refusal bpn expected (tables.held bpn)) := by
  rcases ready.healthy with ⟨isOpen, table, mappings, readable⟩
  rw [← mismatch_eq_refusal mappings]
  cases found : table.find? bpn with
  | none =>
      simp only [Tables.delete, transaction, ok_bind, connect, isOpen, if_true,
        mappingTable_eq_ok_iff.mpr mappings, found]
  | some row =>
      have apart := mt (isAt_held mappings found).mpr other
      simp only [Tables.delete, transaction, ok_bind, connect, isOpen, if_true,
        mappingTable_eq_ok_iff.mpr mappings, found, if_neg apart]

instance : ReadyStore Tables where
  IsReady := IsReady
  HasRoom := HasRoom
  replaces := put_of_isAt
  deletes := delete_of_isAt
  refuses_put := put_of_not_isAt
  refuses_delete := delete_of_not_isAt

end Tables

/-! ## Stores made of others -/

instance : ReadyStore Backend where
  IsReady now
    | .memory store => ReadyStore.IsReady now store
    | .tables store => ReadyStore.IsReady now store
  HasRoom bpn
    | .memory store => ReadyStore.HasRoom bpn store
    | .tables store => ReadyStore.HasRoom bpn store
  replaces := by
    intro now bpn did expected store ready room valid isAt
    cases store with
    | memory store =>
        exact @ReadyStore.replaces Memory _ _ _ now bpn did expected store ready room valid isAt
    | tables store =>
        exact @ReadyStore.replaces Tables _ _ _ now bpn did expected store ready room valid isAt
  deletes := by
    intro now bpn expected store ready room isAt
    cases store with
    | memory store => exact @ReadyStore.deletes Memory _ _ _ now bpn expected store ready room isAt
    | tables store => exact @ReadyStore.deletes Tables _ _ _ now bpn expected store ready room isAt
  refuses_put := by
    intro now bpn did expected store ready valid other
    cases store with
    | memory store =>
        exact @ReadyStore.refuses_put Memory _ _ _ now bpn did expected store ready valid other
    | tables store =>
        exact @ReadyStore.refuses_put Tables _ _ _ now bpn did expected store ready valid other
  refuses_delete := by
    intro now bpn expected store ready other
    cases store with
    | memory store => exact @ReadyStore.refuses_delete Memory _ _ _ now bpn expected store ready other
    | tables store => exact @ReadyStore.refuses_delete Tables _ _ _ now bpn expected store ready other

instance {S : Type} [MappingStore S] [LawfulStore S] [ReadyStore S] : ReadyStore (Link S) where
  IsReady now link := link.down = 0 ∧ ReadyStore.IsReady now link.store
  HasRoom bpn link := ReadyStore.HasRoom bpn link.store
  replaces := by
    rintro now bpn did expected link ⟨isUp, ready⟩ room valid isAt
    change ∃ committed, (Link.relay _ link).1 = .ok committed
    rw [Link.relay_up isUp]
    exact ReadyStore.replaces ready room valid isAt
  deletes := by
    rintro now bpn expected link ⟨isUp, ready⟩ room isAt
    change ∃ committed, (Link.relay _ link).1 = .ok committed
    rw [Link.relay_up isUp]
    exact ReadyStore.deletes ready room isAt
  refuses_put := by
    rintro now bpn did expected link ⟨isUp, ready⟩ valid other
    change (Link.relay _ link).1 = _
    rw [Link.relay_up isUp]
    exact ReadyStore.refuses_put ready valid other
  refuses_delete := by
    rintro now bpn expected link ⟨isUp, ready⟩ other
    change (Link.relay _ link).1 = _
    rw [Link.relay_up isUp]
    exact ReadyStore.refuses_delete ready other

end Store
end BpnDirectory
