import BpnDirectory.Proofs.Store.Counted
import BpnDirectory.Proofs.Store.Ready

namespace BpnDirectory
namespace Store

/-!
Stores as they come about.

A store that was opened fresh and then only asked is orderly, however much it was asked: it can
be read, its changes are counted, and no version of a record is greater than their number.  As
long as they can still be counted, an orderly store is ready for one change more.
-/

open Text (maxSigned64)

/-! ## Versions below the number of changes -/

/-- A change of a record is one that is counted. -/
theorem version?_of_write? {bpn : String} {exchange : Exchange} {write : Write}
    (written : exchange.write? bpn = some write) : ∃ version, exchange.version? = some version := by
  unfold Exchange.write? at written
  split at written
  · exact ⟨_, rfl⟩
  · exact ⟨_, rfl⟩
  · next now batch committed =>
      cases batch with
      | nil => cases written
      | cons head rest => exact ⟨_, rfl⟩
  · exact ⟨_, rfl⟩
  · cases written

section

variable {S : Type} [MappingStore S] [LawfulStore S] [CountedStore S] {store : S}

/-- Whether the number of changes is at least the version of every record. -/
structure IsTallied (store : S) : Prop where
  count : 0 ≤ CountedStore.count store
  version : ∀ bpn held, LawfulStore.held store bpn = some held →
    1 ≤ held.version ∧ held.version ≤ CountedStore.count store

/-- A change makes the number of changes greater by one, and a version at most by that. -/
theorem IsTallied.perform (tallied : IsTallied store) (request : Request) :
    IsTallied (request.perform store).2 where
  count := Int.le_trans tallied.count (count_le_perform request store)
  version := by
    intro bpn held holds
    have becomes := LawfulStore.held_perform request store bpn
    rw [holds] at becomes
    have positive := tallied.count
    cases written : Exchange.write? bpn ⟨request, (request.perform store).1⟩ with
    | none =>
        rw [written] at becomes
        have bounds := tallied.version bpn held becomes.eq_of_none.symm
        exact ⟨bounds.1, Int.le_trans bounds.2 (count_le_perform request store)⟩
    | some write =>
        rcases version?_of_write? written with ⟨version, reported⟩
        rcases count_reported reported with ⟨next, counted⟩
        rw [counted, next]
        rw [written] at becomes
        generalize before : LawfulStore.held store bpn = old at becomes
        cases becomes with
        | created now did =>
            dsimp only
            omega
        | replaced now did old =>
            have bounds := tallied.version bpn old before
            dsimp only
            omega

end

/-! ## The number of changes of a database -/

namespace Tables

variable {tables after : Tables}

/-- Whether a database has the number of its changes. -/
def IsCounted (tables : Tables) : Prop := ∃ count, tables.metadata = some (some count)

theorem isCounted_of_commit {α : Type} {table : OrderedMap Row} {value : α}
    {committed : Committed α} (done : tables.commit table value = .ok (committed, after)) :
    after.IsCounted := by
  rcases bind_eq_ok.mp done with ⟨row, _, done⟩
  cases row with
  | none => cases done
  | some version =>
      rcases bind_eq_ok.mp done with ⟨counted, _, done⟩
      cases done
      exact ⟨counted, rfl⟩

/-- The number of changes is still there after a change that ends with counting itself. -/
theorem EndsCounted.isCounted {α : Type} {result : Except Failure (Committed α) × Tables}
    (ends : EndsCounted tables result) (counted : tables.IsCounted) : result.2.IsCounted := by
  rcases ends with ⟨_, rfl⟩ | ⟨_, _, _, _, rfl, commits⟩
  · exact counted
  · exact isCounted_of_commit commits

theorem IsCounted.perform (counted : tables.IsCounted) (request : Request) :
    (request.perform tables).2.IsCounted := by
  cases request with
  | put now bpn did expected => exact (endsCounted_put now bpn did expected tables).isCounted counted
  | putBatch now batch =>
      change (Tables.putBatch now batch tables).2.IsCounted
      cases batch with
      | nil =>
          rw [putBatch_nil]
          exact counted
      | cons head rest => exact (endsCounted_putBatch now head rest tables).isCounted counted
  | delete bpn expected => exact (endsCounted_delete bpn expected tables).isCounted counted
  | _ => exact counted

end Tables

/-! ## Either store -/

namespace Backend

variable {store : Backend}

/-- Whether a store has the number of its changes, which one in memory always has. -/
def IsCounted : Backend → Prop
  | .memory _ => True
  | .tables store => store.IsCounted

/-- Whether a store is as one that was opened fresh and then only asked. -/
structure IsOrderly (store : Backend) : Prop where
  healthy : SteadyStore.IsHealthy store
  counted : store.IsCounted
  tallied : IsTallied store

theorem isOrderly_fresh (kind : Kind) : (fresh kind).IsOrderly := by
  cases kind with
  | memory => exact ⟨Memory.isSound_empty, trivial, ⟨Int.le_refl 0, fun _ _ holds => nomatch holds⟩⟩
  | tables =>
      exact ⟨Tables.isHealthy_migrated, ⟨0, rfl⟩, ⟨Int.le_refl 0, fun _ _ holds => nomatch holds⟩⟩

/-- Whatever is asked of an orderly store leaves it orderly. -/
theorem IsOrderly.perform (orderly : store.IsOrderly) (request : Request) :
    (request.perform store).2.IsOrderly where
  healthy := SteadyStore.healthy_perform request orderly.healthy
  counted := by
    cases store with
    | memory store =>
        rw [perform_memory]
        trivial
    | tables store =>
        rw [perform_tables]
        exact Tables.IsCounted.perform orderly.counted request
  tallied := orderly.tallied.perform request

/-- An orderly store is ready for a change whenever the clock can be told. -/
theorem IsOrderly.isReady (orderly : store.IsOrderly) {now : Time.Instant} (proper : now.IsProper)
    (plain : now.HasPlainYear) : ReadyStore.IsReady now store := by
  cases store with
  | memory store => trivial
  | tables store => exact ⟨orderly.healthy, proper, plain⟩

/-- An orderly store whose changes can still be counted has room for a change of any BPN. -/
theorem IsOrderly.hasRoom (orderly : store.IsOrderly) (less : CountedStore.count store < maxSigned64)
    (bpn : String) : ReadyStore.HasRoom bpn store := by
  cases store with
  | memory store => trivial
  | tables store =>
      rcases orderly.counted with ⟨count, stands⟩
      have same : CountedStore.count (Backend.tables store) = count := by
        change store.metadata.join.getD 0 = count
        rw [stands]
        rfl
      refine ⟨⟨count, same ▸ less, stands⟩, fun held holds => ?_⟩
      exact Int.lt_of_le_of_lt (orderly.tallied.version bpn held holds).2 less

end Backend

/-! ## What a change leaves and tells -/

section

variable {S : Type} [MappingStore S] [LawfulStore S] {store : S} {bpn did : String}
  {version : Int} {now : Time.Instant}

theorem held_of_replaced {committed : Committed Record}
    (put : (MappingStore.put now bpn did (some version) store).1 = .ok committed) :
    LawfulStore.held (MappingStore.put now bpn did (some version) store).2 bpn =
      some ⟨did, version + 1⟩ := by
  rcases LawfulStore.replaced_version put with ⟨old, holds⟩
  have becomes := LawfulStore.held_perform (.put now bpn did (some version)) store bpn
  have replied : ((Request.put now bpn did (some version)).perform store).1 = .put committed :=
    congrArg (Reply.ofOutcome .put) put
  rw [holds, replied, Exchange.write?, if_pos rfl] at becomes
  change LawfulStore.held ((Request.put now bpn did (some version)).perform store).2 bpn = _
  generalize LawfulStore.held ((Request.put now bpn did (some version)).perform store).2 bpn =
    after at becomes ⊢
  cases becomes
  rfl

theorem held_of_deleted {committed : Committed Unit}
    (deleted : (MappingStore.delete bpn version store).1 = .ok committed) :
    LawfulStore.held (MappingStore.delete bpn version store).2 bpn = none := by
  rcases LawfulStore.deleted_version deleted with ⟨old, holds⟩
  have becomes := LawfulStore.held_perform (.delete bpn version) store bpn
  have replied : ((Request.delete bpn version).perform store).1 = .deleted committed :=
    congrArg (Reply.ofOutcome .deleted) deleted
  rw [holds, replied, Exchange.write?, if_pos rfl] at becomes
  change LawfulStore.held ((Request.delete bpn version).perform store).2 bpn = _
  generalize LawfulStore.held ((Request.delete bpn version).perform store).2 bpn =
    after at becomes ⊢
  cases becomes
  rfl

end

namespace Memory

theorem held_of_put {now : Time.Instant} {bpn did : String} {expected : Option Int}
    {memory : Memory} {committed : Committed Record}
    (put : (Memory.put now bpn did expected memory).1 = .ok committed) :
    (Memory.put now bpn did expected memory).2.held bpn = some (.ofRecord committed.value) := by
  rcases put_cases now bpn did expected memory with ⟨failure, failed⟩ | ⟨_, record, done, _⟩
  · rw [failed] at put
    cases put
  · rw [done] at put ⊢
    cases put
    rw [held, OrderedMap.find?_insert, if_pos rfl]
    rfl

end Memory

namespace Tables

variable {tables after : Tables} {table rows : OrderedMap Row} {bpn did now : String}
  {record : Record}

theorem insertRow_tells (done : insertRow table bpn did now = .ok (record, rows)) :
    ∃ row, rows = table.insert bpn row ∧ readRow bpn row = .ok record := by
  unfold insertRow at done
  split at done
  · cases done
  · rcases bind_eq_ok.mp done with ⟨_, read, done⟩
    cases done
    exact ⟨_, rfl, read⟩

theorem updateRow_tells {expected : Int}
    (done : updateRow table bpn did now expected = .ok (record, rows)) :
    ∃ row, rows = table.insert bpn row ∧ readRow bpn row = .ok record := by
  unfold updateRow at done
  split at done
  · split at done
    · rcases bind_eq_ok.mp done with ⟨_, _, done⟩
      rcases bind_eq_ok.mp done with ⟨_, read, done⟩
      cases done
      exact ⟨_, rfl, read⟩
    · cases done
  · cases done

/-- A row that was written is read back as what is held from then on. -/
theorem held_of_commit {committed : Committed Record}
    (tells : ∃ row, rows = table.insert bpn row ∧ readRow bpn row = .ok record)
    (done : tables.commit rows record = .ok (committed, after)) :
    after.held bpn = some (.ofRecord committed.value) := by
  rcases tells with ⟨row, rfl, read⟩
  rcases commit_eq_ok done with ⟨mappings, told⟩
  rcases readRow_did read with ⟨sameDid, sameVersion⟩
  rw [held_eq mappings, OrderedMap.find?_insert, if_pos rfl, told, Held.ofRecord, sameDid,
    sameVersion]
  rfl

theorem held_of_put {now : Time.Instant} {expected : Option Int} {committed : Committed Record}
    (put : (Tables.put now bpn did expected tables).1 = .ok committed) :
    (Tables.put now bpn did expected tables).2.held bpn = some (.ofRecord committed.value) := by
  rcases transaction_cases _ tables with ⟨failure, failed⟩ | ⟨told, after, done, made⟩
  · cases (congrArg Prod.fst failed).symm.trans put
  · cases (congrArg Prod.fst made).symm.trans put
    rw [Tables.put, made]
    rcases bind_eq_ok.mp done with ⟨_, _, done⟩
    rcases bind_eq_ok.mp done with ⟨_, _, done⟩
    rcases bind_eq_ok.mp done with ⟨table, _, done⟩
    cases expected with
    | none =>
        rcases bind_eq_ok.mp done with ⟨⟨record, rows⟩, inserted, done⟩
        exact held_of_commit (insertRow_tells inserted) done
    | some version =>
        rcases bind_eq_ok.mp done with ⟨⟨record, rows⟩, updated, done⟩
        exact held_of_commit (updateRow_tells updated) done

end Tables

/-- The record that a change tells is the one that is held from then on. -/
theorem Backend.held_of_put {now : Time.Instant} {bpn did : String} {expected : Option Int}
    {store : Backend} {committed : Committed Record}
    (put : (MappingStore.put now bpn did expected store).1 = .ok committed) :
    LawfulStore.held (MappingStore.put now bpn did expected store).2 bpn =
      some (.ofRecord committed.value) := by
  cases store with
  | memory store => exact Memory.held_of_put put
  | tables store => exact Tables.held_of_put put

end Store
end BpnDirectory
