import BpnDirectory.Proofs.Store.Lawful

namespace BpnDirectory
namespace Store

/-!
Stores that count their changes.

The directory version is the number of changes so far.  Every change reports the
number that it is, so no two changes of a store report the same number, whoever
makes them.
-/

/-- How a change with the number that it reports, or none, takes the number of
changes on. -/
inductive Counts : Int → Option Int → Int → Prop
  | kept (count : Int) : Counts count none count
  | counted (count : Int) : Counts count (some (count + 1)) (count + 1)

theorem Counts.eq_of_none {before after : Int} (counts : Counts before none after) :
    after = before := by
  cases counts
  rfl

theorem Counts.eq_some_of_lt {before after : Int} {reported : Option Int}
    (counts : Counts before reported after) (less : before < after) : reported = some after := by
  cases counts with
  | kept => exact absurd less (Int.lt_irrefl _)
  | counted => rfl

theorem Counts.of_failed (count : Int) (request : Request) (failure : Failure) :
    Counts count (Exchange.version? ⟨request, .failed failure⟩) count := by
  rw [version?_failed]
  exact .kept count

/-- A store whose directory version counts its changes. -/
class CountedStore (S : Type) [MappingStore S] where
  /-- The number of changes so far. -/
  count : S → Int
  directoryVersion_eq : ∀ {store : S} {version : Int},
    (MappingStore.directoryVersion store).1 = .ok version → version = count store
  count_perform : ∀ (request : Request) (store : S),
    Counts (count store) (Exchange.version? ⟨request, (request.perform store).1⟩)
      (count (request.perform store).2)

section

variable {S : Type} [MappingStore S] [CountedStore S]

theorem count_reported {request : Request} {store : S} {version : Int}
    (reported : Exchange.version? ⟨request, (request.perform store).1⟩ = some version) :
    version = CountedStore.count store + 1 ∧
      CountedStore.count (request.perform store).2 = version := by
  have counts := CountedStore.count_perform request store
  rw [reported] at counts
  generalize CountedStore.count (request.perform store).2 = after at counts ⊢
  cases counts
  exact ⟨rfl, rfl⟩

/-- The number of changes never falls. -/
theorem count_le_perform (request : Request) (store : S) :
    CountedStore.count store ≤ CountedStore.count (request.perform store).2 := by
  have counts := CountedStore.count_perform request store
  generalize CountedStore.count (request.perform store).2 = after at counts ⊢
  generalize Exchange.version? ⟨request, (request.perform store).1⟩ = reported at counts
  cases counts with
  | kept => exact Int.le_refl _
  | counted => exact Int.le_of_lt (Int.lt_succ _)

end

namespace Memory

theorem count_putBatch (now : Time.Instant) (batch : List NewMapping) (memory : Memory) :
    Counts memory.version
      (Exchange.version? ⟨.putBatch now batch,
        .ofOutcome .putBatch (Memory.putBatch now batch memory).1⟩)
      (Memory.putBatch now batch memory).2.version := by
  rcases putBatch_cases now batch memory with
    ⟨failure, put⟩ | ⟨rfl, put⟩ | ⟨filled, _, _, put⟩
  · rw [put]
    exact .of_failed _ _ failure
  · rw [put]
    exact .kept _
  · cases batch with
    | nil => exact absurd rfl filled
    | cons head rest =>
        rw [put]
        exact .counted _

instance : CountedStore Memory where
  count := version
  directoryVersion_eq := fun read => (Except.ok.inj read).symm
  count_perform := by
    intro request memory
    cases request with
    | put now bpn did expected =>
        change Counts _ (Exchange.version? ⟨_, .ofOutcome .put
          (Memory.put now bpn did expected memory).1⟩) (Memory.put now bpn did expected memory).2.version
        rcases put_cases now bpn did expected memory with ⟨failure, put⟩ | ⟨_, record, put, _⟩
        · rw [put]
          exact .of_failed _ _ failure
        · rw [put]
          exact .counted _
    | putBatch now batch => exact count_putBatch now batch memory
    | delete bpn expected =>
        change Counts _ (Exchange.version? ⟨_, .ofOutcome .deleted
          (Memory.delete bpn expected memory).1⟩) (Memory.delete bpn expected memory).2.version
        rcases delete_cases bpn expected memory with ⟨failure, deleted⟩ | ⟨_, _, _, deleted⟩
        · rw [deleted]
          exact .of_failed _ _ failure
        · rw [deleted]
          exact .counted _
    | _ => exact .kept _

end Memory

namespace Tables

/-- The number of changes that a database says it went through.  While its row is
missing there is none, and no change can be made. -/
def count (tables : Tables) : Int := tables.metadata.join.getD 0

theorem readVersion_eq_ok {tables : Tables} {version : Int}
    (read : tables.readVersion = .ok version) : version = tables.count := by
  rcases bind_eq_ok.mp read with ⟨_, _, read⟩
  rcases bind_eq_ok.mp read with ⟨row, found, read⟩
  cases read
  unfold metadataRow at found
  unfold count
  split at found
  · next stood =>
      cases found
      rw [stood]
      rfl
  · cases found

theorem count_commit {tables after : Tables} {table : OrderedMap Row} {α : Type} {value : α}
    {committed : Committed α} (done : tables.commit table value = .ok (committed, after)) :
    committed.directoryVersion = tables.count + 1 ∧ after.count = tables.count + 1 := by
  rcases bind_eq_ok.mp done with ⟨row, found, done⟩
  unfold metadataRow at found
  split at found
  · next stood =>
      cases found
      cases row with
      | none => cases done
      | some version =>
          rcases bind_eq_ok.mp done with ⟨counted, isCounted, done⟩
          cases done
          have before : tables.count = version := by
            unfold count
            rw [stood]
            rfl
          unfold countUp at isCounted
          split at isCounted
          · cases isCounted
            rw [before]
            exact ⟨rfl, rfl⟩
          · cases isCounted
  · cases found

/-- Whether what came of a change is that it failed and left a database alone, or that it ended
with counting itself. -/
def EndsCounted {α : Type} (tables : Tables) (result : Except Failure (Committed α) × Tables) :
    Prop :=
  (∃ failure, result = (.error failure, tables)) ∨
    ∃ committed after table value, result = (.ok committed, after) ∧
      tables.commit table value = .ok (committed, after)

theorem endsCounted_transaction {α : Type} {run : Tables → Except Failure (Committed α × Tables)}
    {tables : Tables}
    (ends : ∀ committed after, run tables = .ok (committed, after) →
      ∃ table value, tables.commit table value = .ok (committed, after)) :
    EndsCounted tables (transaction run tables) := by
  rcases transaction_cases run tables with failed | ⟨committed, after, done, made⟩
  · exact Or.inl failed
  · rcases ends committed after done with ⟨table, value, commits⟩
    exact Or.inr ⟨committed, after, table, value, made, commits⟩

theorem endsCounted_put (now : Time.Instant) (bpn did : String) (expected : Option Int)
    (tables : Tables) : EndsCounted tables (Tables.put now bpn did expected tables) := by
  refine endsCounted_transaction ?_
  intro committed after done
  rcases bind_eq_ok.mp done with ⟨_, _, done⟩
  rcases bind_eq_ok.mp done with ⟨_, _, done⟩
  rcases bind_eq_ok.mp done with ⟨table, _, done⟩
  cases expected with
  | none =>
      rcases bind_eq_ok.mp done with ⟨⟨record, rows⟩, _, done⟩
      exact ⟨rows, record, done⟩
  | some version =>
      rcases bind_eq_ok.mp done with ⟨⟨record, rows⟩, _, done⟩
      exact ⟨rows, record, done⟩

theorem endsCounted_putBatch (now : Time.Instant) (head : NewMapping) (rest : List NewMapping)
    (tables : Tables) : EndsCounted tables (Tables.putBatch now (head :: rest) tables) := by
  refine endsCounted_transaction ?_
  intro committed after done
  rcases bind_eq_ok.mp done with ⟨_, _, done⟩
  rcases bind_eq_ok.mp done with ⟨_, _, done⟩
  rcases bind_eq_ok.mp done with ⟨table, _, done⟩
  rcases bind_eq_ok.mp done with ⟨⟨records, rows⟩, _, done⟩
  exact ⟨rows, records, done⟩

theorem endsCounted_delete (bpn : String) (expected : Int) (tables : Tables) :
    EndsCounted tables (Tables.delete bpn expected tables) := by
  refine endsCounted_transaction ?_
  intro committed after done
  rcases bind_eq_ok.mp done with ⟨_, _, done⟩
  rcases bind_eq_ok.mp done with ⟨table, _, done⟩
  split at done
  · split at done
    · exact ⟨_, _, done⟩
    · cases done
  · cases done

/-- A change that ends with counting itself counts as it reports. -/
theorem EndsCounted.counts {α : Type} {tables : Tables}
    {result : Except Failure (Committed α) × Tables} (ends : EndsCounted tables result)
    {make : Committed α → Reply} {request : Request}
    (reports : ∀ committed, Exchange.version? ⟨request, make committed⟩ =
      some committed.directoryVersion) :
    Counts tables.count (Exchange.version? ⟨request, .ofOutcome make result.1⟩)
      result.2.count := by
  rcases ends with ⟨failure, rfl⟩ | ⟨committed, after, table, value, rfl, commits⟩
  · exact .of_failed _ _ failure
  · rcases count_commit commits with ⟨reported, counted⟩
    rw [Reply.ofOutcome, reports, reported, counted]
    exact .counted _

theorem count_putBatch (now : Time.Instant) (batch : List NewMapping) (tables : Tables) :
    Counts tables.count
      (Exchange.version? ⟨.putBatch now batch,
        .ofOutcome .putBatch (Tables.putBatch now batch tables).1⟩)
      (Tables.putBatch now batch tables).2.count := by
  cases batch with
  | nil =>
      rw [putBatch_nil]
      cases (Tables.putBatch now [] tables).1 with
      | error failure => exact .of_failed _ _ failure
      | ok committed => exact .kept _
  | cons head rest => exact (endsCounted_putBatch now head rest tables).counts fun _ => rfl

instance : CountedStore Tables where
  count := count
  directoryVersion_eq := readVersion_eq_ok
  count_perform := by
    intro request tables
    cases request with
    | put now bpn did expected =>
        exact (endsCounted_put now bpn did expected tables).counts fun _ => by cases expected <;> rfl
    | putBatch now batch => exact count_putBatch now batch tables
    | delete bpn expected => exact (endsCounted_delete bpn expected tables).counts fun _ => rfl
    | _ => exact .kept _

end Tables

/-! ## Stores made of others -/

instance : CountedStore Backend where
  count
    | .memory store => CountedStore.count store
    | .tables store => CountedStore.count store
  directoryVersion_eq := by
    intro store version read
    cases store with
    | memory store => exact CountedStore.directoryVersion_eq (S := Memory) read
    | tables store => exact CountedStore.directoryVersion_eq (S := Tables) read
  count_perform := by
    intro request store
    cases store with
    | memory store =>
        rw [Backend.perform_memory]
        exact CountedStore.count_perform request store
    | tables store =>
        rw [Backend.perform_tables]
        exact CountedStore.count_perform request store

instance {S : Type} [MappingStore S] [CountedStore S] : CountedStore (Link S) where
  count link := CountedStore.count link.store
  directoryVersion_eq := fun read => CountedStore.directoryVersion_eq (Link.relay_eq_ok read)
  count_perform := by
    intro request link
    cases down : link.down with
    | zero =>
        rw [Link.perform_up down]
        exact CountedStore.count_perform request link.store
    | succ rest =>
        rw [Link.perform_down down]
        exact .of_failed _ request link.failure

end Store
end BpnDirectory
