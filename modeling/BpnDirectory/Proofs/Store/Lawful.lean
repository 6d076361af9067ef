import BpnDirectory.Proofs.Store.Journal
import BpnDirectory.Proofs.Store.Tables
import BpnDirectory.Store.Link

namespace BpnDirectory
namespace Store

/-!
What every store does, whatever it was used for before.

A lawful store holds a DID and a version for some BPNs.  Its reads show what it
holds, and its changes change what it holds in the way that their replies say.
Nothing is assumed about its past, so the laws hold for a database that others have
written to as well as for a fresh one.
-/

structure Held where
  did : String
  version : Int
  deriving DecidableEq, Repr

/-- What a record says that a store holds. -/
def Held.ofRecord (record : Record) : Held := ⟨record.did, record.version⟩

/-- How a change, or none, takes what a store held for a BPN to what it holds
afterwards. -/
inductive Held.Becomes : Option Held → Option Write → Option Held → Prop
  | kept (held : Option Held) : Becomes held none held
  | created (now : Time.Instant) (did : String) :
      Becomes none (some (.created now did)) (some ⟨did, 1⟩)
  | replaced (now : Time.Instant) (did : String) (held : Held) :
      Becomes (some held) (some (.replaced now did)) (some ⟨did, held.version + 1⟩)
  | deleted (held : Held) : Becomes (some held) (some .deleted) none

namespace Held.Becomes

variable {before after : Option Held} {key : String}

/-- Without a change the same is held as before. -/
theorem eq_of_none (becomes : Held.Becomes before none after) : after = before := by
  cases becomes
  rfl

/-- A change of what was held removes it or makes its version greater by one. -/
theorem cases_of_some {held : Held} {write : Write}
    (becomes : Held.Becomes (some held) (some write) after) :
    write = .deleted ∧ after = none ∨
      ∃ did, write ≠ .deleted ∧ after = some ⟨did, held.version + 1⟩ := by
  cases becomes with
  | replaced now did => exact Or.inr ⟨did, nofun, rfl⟩
  | deleted => exact Or.inl ⟨rfl, rfl⟩

theorem of_failed (request : Request) (failure : Failure) :
    Held.Becomes before (Exchange.write? key ⟨request, .failed failure⟩) before := by
  rw [write?_failed]
  exact .kept _

theorem of_put {now : Time.Instant} {bpn did : String} {expected : Option Int}
    {committed : Committed Record}
    (named : bpn = key → expected = none ∧ before = none ∧ after = some ⟨did, 1⟩ ∨
      ∃ version old, expected = some version ∧ before = some old ∧
        after = some ⟨did, old.version + 1⟩)
    (other : bpn ≠ key → after = before) :
    Held.Becomes before (Exchange.write? key ⟨.put now bpn did expected, .put committed⟩)
      after := by
  by_cases same : bpn = key
  · rcases named same with ⟨rfl, rfl, rfl⟩ | ⟨version, old, rfl, rfl, rfl⟩
    · rw [Exchange.write?, if_pos same]
      exact .created now did
    · rw [Exchange.write?, if_pos same]
      exact .replaced now did old
  · have unwritten : Exchange.write? key ⟨.put now bpn did expected, .put committed⟩ = none := by
      cases expected <;> exact if_neg same
    rw [unwritten, other same]
    exact .kept _

theorem of_putBatch {now : Time.Instant} {batch : List NewMapping}
    {committed : Committed (List Record)}
    (named : ∀ mapping, (batch.find? fun mapping => mapping.bpn = key) = some mapping →
      before = none ∧ after = some ⟨mapping.did, 1⟩)
    (other : (batch.find? fun mapping => mapping.bpn = key) = none → after = before) :
    Held.Becomes before (Exchange.write? key ⟨.putBatch now batch, .putBatch committed⟩)
      after := by
  simp only [Exchange.write?]
  cases found : batch.find? fun mapping => mapping.bpn = key with
  | some mapping =>
      rcases named mapping found with ⟨rfl, rfl⟩
      exact .created now mapping.did
  | none =>
      rw [other found]
      exact .kept _

theorem of_delete {bpn : String} {expected : Int} {committed : Committed Unit}
    (named : bpn = key → after = none ∧ ∃ old, before = some old)
    (other : bpn ≠ key → after = before) :
    Held.Becomes before (Exchange.write? key ⟨.delete bpn expected, .deleted committed⟩)
      after := by
  unfold Exchange.write?
  by_cases same : bpn = key
  · rcases named same with ⟨rfl, old, rfl⟩
    simp only [if_pos same]
    exact .deleted old
  · simp only [if_neg same, other same]
    exact .kept _

end Held.Becomes

/-- The laws of stores. -/
class LawfulStore (S : Type) [MappingStore S] where
  /-- What a store holds for a BPN. -/
  held : S → String → Option Held
  /-- Whether a store is fit for use. -/
  IsSound : S → Prop
  sound_perform : ∀ (request : Request) {store : S}, IsSound store →
    IsSound (request.perform store).2
  held_perform : ∀ (request : Request) (store : S) (bpn : String),
    Held.Becomes (held store bpn) (Exchange.write? bpn ⟨request, (request.perform store).1⟩)
      (held (request.perform store).2 bpn)
  get_found : ∀ {bpn : String} {store : S} {record : Record},
    (MappingStore.get bpn store).1 = .ok record → held store bpn = some (.ofRecord record)
  get_missing : ∀ {bpn text : String} {store : S}, IsSound store →
    (MappingStore.get bpn store).1 = .error (.notFound text) → held store bpn = none
  getMany_found : ∀ {bpns : List String} {store : S} {records : List Record}, IsSound store →
    (MappingStore.getMany bpns store).1 = .ok records →
      ∀ record ∈ records, held store record.bpn = some (.ofRecord record)
  getMany_missing : ∀ {bpns : List String} {store : S} {records : List Record}, IsSound store →
    (MappingStore.getMany bpns store).1 = .ok records →
      ∀ bpn ∈ bpns, (∀ record ∈ records, record.bpn ≠ bpn) → held store bpn = none
  replaced_version : ∀ {now : Time.Instant} {bpn did : String} {expected : Int} {store : S}
    {committed : Committed Record},
    (MappingStore.put now bpn did (some expected) store).1 = .ok committed →
      ∃ old, held store bpn = some ⟨old, expected⟩
  deleted_version : ∀ {bpn : String} {expected : Int} {store : S} {committed : Committed Unit},
    (MappingStore.delete bpn expected store).1 = .ok committed →
      ∃ old, held store bpn = some ⟨old, expected⟩
  putBatch_bpns : ∀ {now : Time.Instant} {batch : List NewMapping} {store : S}
    {committed : Committed (List Record)},
    (MappingStore.putBatch now batch store).1 = .ok committed →
      committed.value.map Record.bpn = batch.map NewMapping.bpn

/-- Whether a call by which the record of a BPN is changed takes a store to another. -/
def Writes {S : Type} [MappingStore S] (bpn : String) (write : Write) (before after : S) : Prop :=
  ∃ request : Request, Exchange.write? bpn ⟨request, (request.perform before).1⟩ = some write ∧
    after = (request.perform before).2

section

variable {S : Type} [MappingStore S] [LawfulStore S] {bpn : String} {before after : S}

theorem Writes.becomes {write : Write} (writes : Writes bpn write before after) :
    Held.Becomes (LawfulStore.held before bpn) (some write) (LawfulStore.held after bpn) := by
  rcases writes with ⟨request, written, rfl⟩
  exact written ▸ LawfulStore.held_perform request before bpn

/-- The map of the records that a store yields for several keys shows what it holds
for them. -/
theorem didOf_getMany {store : S} {keys : List String} {records : List Record}
    (sound : LawfulStore.IsSound store) (read : (MappingStore.getMany keys store).1 = .ok records)
    {key : String} (asked : key ∈ keys) :
    (LawfulStore.held store key).map Held.did =
      (OrderedMap.ofList (records.map fun record => (record.bpn, record.did))).find? key := by
  cases found : (OrderedMap.ofList
      (records.map fun record => (record.bpn, record.did))).find? key with
  | some did =>
      rcases List.mem_map.mp (OrderedMap.mem_of_find?_ofList found) with ⟨record, member, same⟩
      cases same
      rw [LawfulStore.getMany_found sound read record member]
      rfl
  | none =>
      have absent := OrderedMap.ne_of_find?_ofList_eq_none found
      rw [LawfulStore.getMany_missing sound read key asked ?_]
      · rfl
      · intro record member
        exact absent (record.bpn, record.did) (List.mem_map_of_mem member)

/-- A call that does not change the record of a BPN leaves what is held for it. -/
theorem writes_or_held (request : Request) (store : S) (bpn : String) :
    (∃ write, Writes bpn write store (request.perform store).2) ∨
      LawfulStore.held (request.perform store).2 bpn = LawfulStore.held store bpn := by
  have becomes := LawfulStore.held_perform request store bpn
  cases written : Exchange.write? bpn ⟨request, (request.perform store).1⟩ with
  | some write => exact Or.inl ⟨write, request, written, rfl⟩
  | none =>
      rw [written] at becomes
      exact Or.inr becomes.eq_of_none

end

namespace Memory

/-- What a store in memory holds for a BPN. -/
def held (memory : Memory) (bpn : String) : Option Held :=
  (memory.records.find? bpn).map Held.ofRecord

/-- Whether every record is kept for its own BPN. -/
def IsSound (memory : Memory) : Prop :=
  ∀ bpn record, memory.records.find? bpn = some record → record.bpn = bpn

theorem isSound_empty : Memory.empty.IsSound :=
  fun _ _ found => nomatch found

theorem held_put (now : Time.Instant) (bpn did : String) (expected : Option Int)
    (memory : Memory) (key : String) :
    Held.Becomes (memory.held key)
      (Exchange.write? key ⟨.put now bpn did expected,
        .ofOutcome .put (Memory.put now bpn did expected memory).1⟩)
      ((Memory.put now bpn did expected memory).2.held key) := by
  rcases put_cases now bpn did expected memory with ⟨failure, put⟩ | ⟨_, record, put, change⟩
  · rw [put]
    exact .of_failed _ failure
  · rw [put]
    unfold held
    rw [OrderedMap.find?_insert]
    refine .of_put (fun same => ?_) (fun other => by rw [if_neg other])
    rw [if_pos same, ← same]
    rcases change with ⟨absent, vacant, rfl⟩ | ⟨old, present, found, rfl⟩
    · exact Or.inl ⟨absent, congrArg _ vacant, rfl⟩
    · exact Or.inr ⟨_, .ofRecord old, present, congrArg _ found, rfl⟩

theorem held_putBatch (now : Time.Instant) (batch : List NewMapping) (memory : Memory)
    (key : String) :
    Held.Becomes (memory.held key)
      (Exchange.write? key ⟨.putBatch now batch,
        .ofOutcome .putBatch (Memory.putBatch now batch memory).1⟩)
      ((Memory.putBatch now batch memory).2.held key) := by
  rcases putBatch_cases now batch memory with
    ⟨failure, put⟩ | ⟨rfl, put⟩ | ⟨_, valid, vacant, put⟩
  · rw [put]
    exact .of_failed _ failure
  · rw [put]
    exact .of_putBatch (fun _ found => nomatch found) fun _ => rfl
  · rw [put]
    unfold held
    rw [find?_withCreated_batch (requireBatch_eq_ok_iff.mp valid).2]
    refine .of_putBatch (fun mapping named => ?_) (fun named => by rw [named])
    have member := List.mem_of_find?_eq_some named
    have same : mapping.bpn = key := by simpa using List.find?_some named
    rw [named, ← same, vacant mapping member]
    exact ⟨rfl, rfl⟩

theorem held_delete (bpn : String) (expected : Int) (memory : Memory) (key : String) :
    Held.Becomes (memory.held key)
      (Exchange.write? key ⟨.delete bpn expected,
        .ofOutcome .deleted (Memory.delete bpn expected memory).1⟩)
      ((Memory.delete bpn expected memory).2.held key) := by
  rcases delete_cases bpn expected memory with ⟨failure, deleted⟩ | ⟨old, found, _, deleted⟩
  · rw [deleted]
    exact .of_failed _ failure
  · rw [deleted]
    unfold held
    rw [OrderedMap.find?_erase]
    refine .of_delete (fun same => ?_) (fun other => by rw [if_neg other])
    rw [if_pos same, ← same, found]
    exact ⟨rfl, .ofRecord old, rfl⟩

theorem isSound_put {memory : Memory} (sound : memory.IsSound) (now : Time.Instant)
    (bpn did : String) (expected : Option Int) :
    (Memory.put now bpn did expected memory).2.IsSound := by
  rcases put_cases now bpn did expected memory with ⟨failure, put⟩ | ⟨_, record, put, change⟩
  · rw [put]
    exact sound
  · rw [put]
    intro key kept found
    rw [OrderedMap.find?_insert] at found
    by_cases same : bpn = key
    · rw [if_pos same] at found
      cases found
      subst same
      rcases change with ⟨_, _, rfl⟩ | ⟨old, _, stood, rfl⟩
      · rfl
      · exact sound bpn old stood
    · rw [if_neg same] at found
      exact sound key kept found

theorem isSound_putBatch {memory : Memory} (sound : memory.IsSound) (now : Time.Instant)
    (batch : List NewMapping) : (Memory.putBatch now batch memory).2.IsSound := by
  rcases putBatch_cases now batch memory with ⟨failure, put⟩ | ⟨_, put⟩ | ⟨_, valid, _, put⟩
  · rw [put]
    exact sound
  · rw [put]
    exact sound
  · rw [put]
    intro key kept found
    rw [find?_withCreated_batch (requireBatch_eq_ok_iff.mp valid).2] at found
    cases named : batch.find? fun mapping => mapping.bpn = key with
    | some mapping =>
        rw [named] at found
        cases found
        have same : mapping.bpn = key := by simpa using List.find?_some named
        exact same
    | none =>
        rw [named] at found
        exact sound key kept found

theorem isSound_delete {memory : Memory} (sound : memory.IsSound) (bpn : String)
    (expected : Int) : (Memory.delete bpn expected memory).2.IsSound := by
  rcases delete_cases bpn expected memory with ⟨failure, deleted⟩ | ⟨_, _, _, deleted⟩
  · rw [deleted]
    exact sound
  · rw [deleted]
    intro key kept found
    rw [OrderedMap.find?_erase] at found
    split at found
    · cases found
    · exact sound key kept found

instance : LawfulStore Memory where
  held := held
  IsSound := IsSound
  sound_perform := by
    intro request memory sound
    cases request with
    | put now bpn did expected => exact isSound_put sound now bpn did expected
    | putBatch now batch => exact isSound_putBatch sound now batch
    | delete bpn expected => exact isSound_delete sound bpn expected
    | _ => exact sound
  held_perform := by
    intro request memory key
    cases request with
    | put now bpn did expected => exact held_put now bpn did expected memory key
    | putBatch now batch => exact held_putBatch now batch memory key
    | delete bpn expected => exact held_delete bpn expected memory key
    | _ => exact .kept _
  get_found := by
    intro bpn memory record found
    change (Memory.get bpn memory).1 = _ at found
    unfold Memory.get reading at found
    cases kept : memory.records.find? bpn <;> simp [kept] at found
    simp [held, kept, found]
  get_missing := by
    intro bpn text memory _ missing
    change (Memory.get bpn memory).1 = _ at missing
    unfold Memory.get reading at missing
    cases kept : memory.records.find? bpn <;> simp [kept] at missing
    simp [held, kept]
  getMany_found := by
    intro bpns memory records sound found record member
    cases found
    rcases List.mem_filterMap.mp member with ⟨bpn, _, kept⟩
    rw [sound bpn record kept]
    simp [held, kept]
  getMany_missing := by
    intro bpns memory records sound found bpn asked absent
    cases found
    cases kept : memory.records.find? bpn with
    | none => simp [held, kept]
    | some record =>
        exact absurd (sound bpn record kept)
          (absent record (List.mem_filterMap.mpr ⟨bpn, asked, kept⟩))
  replaced_version := by
    intro now bpn did expected memory committed put
    change (Memory.put now bpn did (some expected) memory).1 = _ at put
    rcases put_cases now bpn did (some expected) memory with
      ⟨failure, failed⟩ | ⟨_, record, _, ⟨absurdity, _⟩ | ⟨old, same, found, _⟩⟩
    · rw [failed] at put
      cases put
    · cases absurdity
    · cases same
      exact ⟨old.did, by simp [held, found, Held.ofRecord]⟩
  deleted_version := by
    intro bpn expected memory committed deleted
    change (Memory.delete bpn expected memory).1 = _ at deleted
    rcases delete_cases bpn expected memory with ⟨failure, failed⟩ | ⟨old, found, same, _⟩
    · rw [failed] at deleted
      cases deleted
    · exact ⟨old.did, by simp [held, found, same, Held.ofRecord]⟩
  putBatch_bpns := by
    intro now batch memory committed put
    change (Memory.putBatch now batch memory).1 = _ at put
    rcases putBatch_cases now batch memory with
      ⟨failure, failed⟩ | ⟨rfl, empty⟩ | ⟨_, _, _, whole⟩
    · rw [failed] at put
      cases put
    · rw [empty] at put
      cases put
      rfl
    · rw [whole] at put
      cases put
      rw [List.map_map]
      rfl

end Memory
/-! ## Databases -/

/-- What a row says that a database holds. -/
def Held.ofRow (row : Row) : Held := ⟨row.did, row.version⟩

namespace Tables

def held (tables : Tables) (bpn : String) : Option Held :=
  (tables.mappings.bind fun table => table.find? bpn).map Held.ofRow

theorem held_eq {tables : Tables} {table : OrderedMap Row} (mappings : tables.mappings = some table)
    (bpn : String) : tables.held bpn = (table.find? bpn).map Held.ofRow := by
  rw [held, mappings]
  rfl

theorem held_put (now : Time.Instant) (bpn did : String) (expected : Option Int)
    (tables : Tables) (key : String) :
    Held.Becomes (tables.held key)
      (Exchange.write? key ⟨.put now bpn did expected,
        .ofOutcome .put (Tables.put now bpn did expected tables).1⟩)
      ((Tables.put now bpn did expected tables).2.held key) := by
  rcases put_cases now bpn did expected tables with
    ⟨failure, put⟩ | ⟨table, row, committed, after, mappings, put, changed, same, change⟩
  · rw [put]
    exact .of_failed _ failure
  · rw [put, held_eq mappings, held_eq changed, OrderedMap.find?_insert]
    refine .of_put (fun named => ?_) (fun other => by rw [if_neg other])
    rw [if_pos named, ← named, ← same]
    rcases change with ⟨absent, vacant, first⟩ | ⟨old, present, found, next⟩
    · exact Or.inl ⟨absent, congrArg _ vacant, by rw [← first]; rfl⟩
    · exact Or.inr ⟨_, .ofRow old, present, congrArg _ found, by rw [Held.ofRow, ← next]; rfl⟩

theorem held_putBatch (now : Time.Instant) (batch : List NewMapping) (tables : Tables)
    (key : String) :
    Held.Becomes (tables.held key)
      (Exchange.write? key ⟨.putBatch now batch,
        .ofOutcome .putBatch (Tables.putBatch now batch tables).1⟩)
      ((Tables.putBatch now batch tables).2.held key) := by
  rcases putBatch_cases now batch tables with
    ⟨failure, put⟩ | ⟨rfl, version, put⟩ |
      ⟨table, rows, records, committed, after, mappings, inserted, put, changed, _⟩
  · rw [put]
    exact .of_failed _ failure
  · rw [put]
    exact .of_putBatch (fun _ found => nomatch found) fun _ => rfl
  · rw [put, held_eq mappings, held_eq changed]
    have stand := (insertRows_eq_ok inserted).2 key
    refine .of_putBatch (fun mapping named => ?_) (fun named => ?_)
    · rw [named] at stand
      rw [stand.1, stand.2]
      exact ⟨rfl, rfl⟩
    · rw [named] at stand
      rw [stand]

theorem held_delete (bpn : String) (expected : Int) (tables : Tables) (key : String) :
    Held.Becomes (tables.held key)
      (Exchange.write? key ⟨.delete bpn expected,
        .ofOutcome .deleted (Tables.delete bpn expected tables).1⟩)
      ((Tables.delete bpn expected tables).2.held key) := by
  rcases delete_cases bpn expected tables with
    ⟨failure, deleted⟩ | ⟨table, old, committed, after, mappings, found, _, deleted, changed⟩
  · rw [deleted]
    exact .of_failed _ failure
  · rw [deleted, held_eq mappings, held_eq changed, OrderedMap.find?_erase]
    refine .of_delete (fun same => ?_) (fun other => by rw [if_neg other])
    rw [if_pos same, ← same, found]
    exact ⟨rfl, .ofRow old, rfl⟩

instance : LawfulStore Tables where
  held := held
  IsSound := fun _ => True
  sound_perform := fun _ _ _ => trivial
  held_perform := by
    intro request tables key
    cases request with
    | put now bpn did expected => exact held_put now bpn did expected tables key
    | putBatch now batch => exact held_putBatch now batch tables key
    | delete bpn expected => exact held_delete bpn expected tables key
    | _ => exact .kept _
  get_found := by
    intro bpn tables record found
    rcases get_eq_ok found with ⟨table, row, mappings, stood, read⟩
    rcases readRow_did read with ⟨did, version⟩
    rw [held_eq mappings, stood, Held.ofRecord, did, version]
    rfl
  get_missing := by
    intro bpn text tables _ missing
    rcases get_eq_notFound missing with ⟨table, mappings, absent⟩
    rw [held_eq mappings, absent]
    rfl
  getMany_found := by
    intro bpns tables records _ found record member
    rcases (getMany_eq_ok found).1 record member with ⟨table, row, mappings, stood, did, version⟩
    rw [held_eq mappings, stood, Held.ofRecord, did, version]
    rfl
  getMany_missing := by
    intro bpns tables records _ found bpn asked absent
    cases mappings : tables.mappings with
    | none => rw [held, mappings]; rfl
    | some table =>
        rw [held_eq mappings]
        cases stood : table.find? bpn with
        | none => rfl
        | some row =>
            rcases (getMany_eq_ok found).2 bpn asked table row mappings stood with
              ⟨record, member, same⟩
            exact absurd same (absent record member)
  replaced_version := by
    intro now bpn did expected tables committed put
    change (Tables.put now bpn did (some expected) tables).1 = _ at put
    rcases put_cases now bpn did (some expected) tables with
      ⟨failure, failed⟩ | ⟨table, row, _, after, mappings, _, _, _, change⟩
    · rw [failed] at put
      cases put
    · rcases change with ⟨absurdity, _⟩ | ⟨old, same, found, _⟩
      · cases absurdity
      · cases same
        exact ⟨old.did, by rw [held_eq mappings, found]; rfl⟩
  deleted_version := by
    intro bpn expected tables committed deleted
    change (Tables.delete bpn expected tables).1 = _ at deleted
    rcases delete_cases bpn expected tables with
      ⟨failure, failed⟩ | ⟨table, old, _, after, mappings, found, same, _⟩
    · rw [failed] at deleted
      cases deleted
    · exact ⟨old.did, by rw [held_eq mappings, found, same]; rfl⟩
  putBatch_bpns := by
    intro now batch tables committed put
    change (Tables.putBatch now batch tables).1 = _ at put
    rcases putBatch_cases now batch tables with
      ⟨failure, failed⟩ | ⟨rfl, version, empty⟩ |
        ⟨table, rows, records, _, after, _, inserted, whole, _, value⟩
    · rw [failed] at put
      cases put
    · rw [empty] at put
      cases put
      rfl
    · rw [whole] at put
      cases put
      rw [value]
      exact (insertRows_eq_ok inserted).1

end Tables

/-! ## Stores made of others -/

namespace Backend

instance : LawfulStore Backend where
  held
    | .memory store => LawfulStore.held store
    | .tables store => LawfulStore.held store
  IsSound
    | .memory store => LawfulStore.IsSound store
    | .tables store => LawfulStore.IsSound store
  sound_perform := by
    intro request store sound
    cases store with
    | memory store =>
        rw [perform_memory]
        exact LawfulStore.sound_perform request sound
    | tables store =>
        rw [perform_tables]
        exact LawfulStore.sound_perform request sound
  held_perform := by
    intro request store bpn
    cases store with
    | memory store =>
        rw [perform_memory]
        exact LawfulStore.held_perform request store bpn
    | tables store =>
        rw [perform_tables]
        exact LawfulStore.held_perform request store bpn
  get_found := by
    intro bpn store record found
    cases store with
    | memory store => exact @LawfulStore.get_found Memory _ _ bpn store record found
    | tables store => exact @LawfulStore.get_found Tables _ _ bpn store record found
  get_missing := by
    intro bpn text store sound missing
    cases store with
    | memory store => exact @LawfulStore.get_missing Memory _ _ bpn text store sound missing
    | tables store => exact @LawfulStore.get_missing Tables _ _ bpn text store sound missing
  getMany_found := by
    intro bpns store records sound found
    cases store with
    | memory store => exact @LawfulStore.getMany_found Memory _ _ bpns store records sound found
    | tables store => exact @LawfulStore.getMany_found Tables _ _ bpns store records sound found
  getMany_missing := by
    intro bpns store records sound found
    cases store with
    | memory store => exact @LawfulStore.getMany_missing Memory _ _ bpns store records sound found
    | tables store => exact @LawfulStore.getMany_missing Tables _ _ bpns store records sound found
  replaced_version := by
    intro now bpn did expected store committed put
    cases store with
    | memory store =>
        exact @LawfulStore.replaced_version Memory _ _ now bpn did expected store committed put
    | tables store =>
        exact @LawfulStore.replaced_version Tables _ _ now bpn did expected store committed put
  deleted_version := by
    intro bpn expected store committed deleted
    cases store with
    | memory store =>
        exact @LawfulStore.deleted_version Memory _ _ bpn expected store committed deleted
    | tables store =>
        exact @LawfulStore.deleted_version Tables _ _ bpn expected store committed deleted
  putBatch_bpns := by
    intro now batch store committed put
    cases store with
    | memory store =>
        exact @LawfulStore.putBatch_bpns Memory _ _ now batch store committed put
    | tables store =>
        exact @LawfulStore.putBatch_bpns Tables _ _ now batch store committed put

end Backend

namespace Link

variable {S : Type} {link : Link S}

theorem relay_up {α : Type} (isUp : link.down = 0) (call : Call S α) :
    relay call link =
      ((call link.store).1, { link with store := (call link.store).2, calls := link.calls + 1 }) := by
  unfold relay
  simp [isUp]

theorem relay_down {α : Type} {rest : Nat} (isDown : link.down = rest + 1) (call : Call S α) :
    relay call link =
      (.error link.failure, { link with calls := link.calls + 1, down := rest }) := by
  unfold relay
  simp [isDown]

theorem answered_up {α : Type} (isUp : link.down = 0) (make : α → Reply) (call : Call S α) :
    Request.answered make (relay call) link =
      ((Request.answered make call link.store).1,
        { link with
          store := (Request.answered make call link.store).2, calls := link.calls + 1 }) := by
  rw [Request.answered, relay_up isUp]
  rfl

theorem answered_down {α : Type} {rest : Nat} (isDown : link.down = rest + 1) (make : α → Reply)
    (call : Call S α) :
    Request.answered make (relay call) link =
      (.failed link.failure, { link with calls := link.calls + 1, down := rest }) := by
  rw [Request.answered, relay_down isDown]
  rfl

/-- A call over a link has an outcome other than the failure of the link only if it
reached the store. -/
theorem relay_cases {α : Type} (call : Call S α) (link : Link S) :
    (relay call link).1 = .error link.failure ∨ (relay call link).1 = (call link.store).1 := by
  cases down : link.down with
  | zero => exact Or.inr (by rw [relay_up down])
  | succ rest => exact Or.inl (by rw [relay_down down])

theorem relay_eq_ok {α : Type} {call : Call S α} {value : α}
    (done : (relay call link).1 = .ok value) : (call link.store).1 = .ok value := by
  rcases relay_cases call link with failed | same
  · rw [failed] at done
    cases done
  · rw [← same, done]

variable [MappingStore S]

theorem perform_up (isUp : link.down = 0) (request : Request) :
    request.perform link = ((request.perform link.store).1,
      { link with store := (request.perform link.store).2, calls := link.calls + 1 }) := by
  cases request <;> exact answered_up isUp _ _

theorem perform_down {rest : Nat} (isDown : link.down = rest + 1) (request : Request) :
    request.perform link =
      (.failed link.failure, { link with calls := link.calls + 1, down := rest }) := by
  cases request <;> exact answered_down isDown _ _

instance [LawfulStore S] : LawfulStore (Link S) where
  held link := LawfulStore.held link.store
  IsSound link := LawfulStore.IsSound link.store ∧ ∀ text, link.failure ≠ .notFound text
  sound_perform := by
    rintro request link ⟨sound, failure⟩
    cases down : link.down with
    | zero =>
        rw [perform_up down]
        exact ⟨LawfulStore.sound_perform request sound, failure⟩
    | succ rest =>
        rw [perform_down down]
        exact ⟨sound, failure⟩
  held_perform := by
    intro request link bpn
    cases down : link.down with
    | zero =>
        rw [perform_up down]
        exact LawfulStore.held_perform request link.store bpn
    | succ rest =>
        rw [perform_down down]
        simp only [write?_failed]
        exact .kept _
  get_found := fun found => LawfulStore.get_found (relay_eq_ok found)
  get_missing := by
    rintro bpn text link ⟨sound, failure⟩ missing
    rcases relay_cases (MappingStore.get bpn) link with failed | same
    · exact absurd (Except.error.inj (failed.symm.trans missing)) (failure text)
    · exact LawfulStore.get_missing sound (same.symm.trans missing)
  getMany_found := fun sound found => LawfulStore.getMany_found sound.1 (relay_eq_ok found)
  getMany_missing := fun sound found => LawfulStore.getMany_missing sound.1 (relay_eq_ok found)
  replaced_version := fun put => LawfulStore.replaced_version (relay_eq_ok put)
  deleted_version := fun deleted => LawfulStore.deleted_version (relay_eq_ok deleted)
  putBatch_bpns := fun put => LawfulStore.putBatch_bpns (relay_eq_ok put)

end Link

end Store
end BpnDirectory
