import BpnDirectory.Proofs.Store.Steady
import BpnDirectory.Proofs.Mapping.PageToken

namespace BpnDirectory

/-!
Listing a store in pages.

A page holds the records whose BPNs come after the one that its token names, as many
as fit.  A statement asks for one record more, so a page has a token for the next one
if and only if something follows it, and that token names its own last BPN.
-/

/-- The records whose BPNs come after a key, or all of them. -/
def recordsAfter (start : Option String) (records : List Record) : List Record :=
  match start with
  | none => records
  | some key => records.filter fun record => key < record.bpn

def Page.cut (size : Nat) (records : List Record) : Page :=
  if size < records.length then
    ⟨records.take size,
      (records.take size).getLast?.map fun record => PageToken.encode record.bpn⟩
  else ⟨records, none⟩

/-- The key after which the page of a token starts, or none for the first page. -/
def PageToken.start : Option String → Except Failure (Option String)
  | none => .ok none
  | some token => (decode token).map some

/-- Records in strictly ascending order of their BPNs. -/
def IsAscending (records : List Record) : Prop :=
  records.Pairwise fun first second => first.bpn < second.bpn

/-! ## Pages of records -/

theorem isAscending_recordsAfter {records : List Record} (ascending : IsAscending records)
    (start : Option String) : IsAscending (recordsAfter start records) := by
  cases start with
  | none => exact ascending
  | some key => exact ascending.filter _

theorem mem_recordsAfter {records : List Record} {start : Option String} {record : Record} :
    record ∈ recordsAfter start records ↔
      record ∈ records ∧ ∀ key, start = some key → key < record.bpn := by
  cases start with
  | none => simp [recordsAfter]
  | some key => simp [recordsAfter]

/-- Behind a later key there is the same, whichever earlier key was passed before. -/
theorem recordsAfter_recordsAfter {start : Option String} {later : String} {records : List Record}
    (order : ∀ key, start = some key → key < later) :
    recordsAfter (some later) (recordsAfter start records) = recordsAfter (some later) records := by
  cases start with
  | none => rfl
  | some key =>
      rw [recordsAfter, recordsAfter, recordsAfter, List.filter_filter]
      apply List.filter_congr
      intro record _
      by_cases behind : later < record.bpn
      · simp [behind, String.lt_trans (order key rfl) behind]
      · simp [behind]

/-- What follows on the last record of a part is the rest. -/
theorem recordsAfter_last {front rest : List Record} {last : Record}
    (ascending : IsAscending (front ++ rest)) (ends : front.getLast? = some last) :
    recordsAfter (some last.bpn) (front ++ rest) = rest := by
  rcases List.pairwise_append.mp ascending with ⟨within, _, across⟩
  have member := List.mem_of_getLast? ends
  have passed : (front.filter fun record => last.bpn < record.bpn) = [] := by
    apply List.filter_eq_nil_iff.mpr
    intro record listed
    rw [← List.dropLast_append_getLast? last ends] at listed within
    rcases List.mem_append.mp listed with before | same
    · have less := (List.pairwise_append.mp within).2.2 record before last List.mem_cons_self
      exact fun later => String.lt_asymm less (of_decide_eq_true later)
    · rw [List.mem_singleton.mp same]
      exact fun later => String.lt_irrefl _ (of_decide_eq_true later)
  have left : (rest.filter fun record => last.bpn < record.bpn) = rest := by
    apply List.filter_eq_self.mpr
    intro record listed
    simpa using across last member record listed
  rw [recordsAfter, List.filter_append, passed, left, List.nil_append]

/-- One record more than a page holds shows whether another page follows, and so do several
more. -/
theorem Page.cut_take {size count : Nat} (more : size < count) (records : List Record) :
    Page.cut size (records.take count) = Page.cut size records := by
  unfold Page.cut
  rw [List.take_take, Nat.min_eq_left (Nat.le_of_lt more), List.length_take]
  by_cases follows : size < records.length
  · rw [if_pos (by omega), if_pos follows]
  · rw [if_neg (by omega), if_neg follows, List.take_of_length_le (by omega)]

/-- A page holds as many of the records as fit. -/
@[simp] theorem Page.records_cut (size : Nat) (records : List Record) :
    (Page.cut size records).records = records.take size := by
  unfold Page.cut
  split
  · rfl
  · next all => exact (List.take_of_length_le (Nat.le_of_not_lt all)).symm

/-- A page is the last one and has all records, or it is full, and its token leads on to
exactly the records that it does not have. -/
theorem Page.cut_cases {size : Nat} {records : List Record} (positive : 0 < size)
    (ascending : IsAscending records) :
    (Page.cut size records).next = none ∧ (Page.cut size records).records = records ∨
      ∃ last ∈ (Page.cut size records).records,
        (Page.cut size records).next = some (PageToken.encode last.bpn) ∧
        (Page.cut size records).records.length = size ∧
        (Page.cut size records).records ++ recordsAfter (some last.bpn) records = records := by
  unfold Page.cut
  split
  case isFalse => exact Or.inl ⟨rfl, rfl⟩
  case isTrue more =>
    right
    have length : (records.take size).length = size := List.length_take_of_le (Nat.le_of_lt more)
    cases kept : (records.take size).getLast? with
    | none =>
        rw [List.getLast?_eq_none_iff.mp kept] at length
        exact absurd length (Nat.ne_of_lt positive)
    | some last =>
        refine ⟨last, List.mem_of_getLast? kept, rfl, length, ?_⟩
        have whole := List.take_append_drop size records
        have follows : recordsAfter (some last.bpn) records = records.drop size := by
          rw [← whole] at ascending
          have rest := recordsAfter_last ascending kept
          rwa [whole] at rest
        rw [follows, whole]

namespace Store

/-! ## Stores that can be listed -/

/-- A store that shows its records in pages. -/
class PagedStore (S : Type) [MappingStore S] [LawfulStore S] where
  /-- The records of a store in the order of their BPNs. -/
  records : S → List Record
  /-- Whether a store can be listed. -/
  IsListable : S → Prop
  sound_of_listable : ∀ {store : S}, IsListable store → LawfulStore.IsSound store
  listable_perform : ∀ (request : Request) {store : S}, IsListable store →
    IsListable (request.perform store).2
  ascending : ∀ {store : S}, IsListable store → IsAscending (records store)
  held_of_mem : ∀ {store : S} {record : Record}, IsListable store → record ∈ records store →
    LawfulStore.held store record.bpn = some (.ofRecord record)
  mem_of_held : ∀ {store : S} {bpn : String} {held : Held}, IsListable store →
    LawfulStore.held store bpn = some held → ∃ record ∈ records store, record.bpn = bpn
  listAll_eq : ∀ {store : S} {token start : Option String} {size : UInt64}, IsListable store →
    PageToken.start token = .ok start → size.toNat < 2 ^ 63 - 1 →
      (MappingStore.listAll token size store).1 =
        .ok (.cut size.toNat (recordsAfter start (records store)))
  records_of_unwritten : ∀ {request : Request} {store : S},
    (∀ bpn, Exchange.write? bpn ⟨request, (request.perform store).1⟩ = none) →
      records (request.perform store).2 = records store

/-- A call that writes to no BPN leaves a store that only its own changes change. -/
theorem same_of_unwritten {S : Type} [MappingStore S] [LawfulStore S] [SteadyStore S]
    (nothing : ∀ now (store : S), (MappingStore.putBatch now [] store).2 = store)
    {request : Request} {store : S}
    (unwritten : ∀ bpn, Exchange.write? bpn ⟨request, (request.perform store).1⟩ = none) :
    (request.perform store).2 = store := by
  have failing : ∀ failure, (request.perform store).1 = .failed failure →
      (request.perform store).2 = store :=
    fun _ failed => SteadyStore.same_of_failed request failed
  cases request with
  | put now bpn did expected =>
      cases outcome : (MappingStore.put now bpn did expected store).1 with
      | error failure => exact failing failure (congrArg (Reply.ofOutcome .put) outcome)
      | ok committed =>
          have written := unwritten bpn
          simp only [Request.perform, Request.answered, outcome, Reply.ofOutcome] at written
          cases expected <;> simp [Exchange.write?] at written
  | putBatch now batch =>
      cases batch with
      | nil => exact nothing now store
      | cons head rest =>
          cases outcome : (MappingStore.putBatch now (head :: rest) store).1 with
          | error failure => exact failing failure (congrArg (Reply.ofOutcome .putBatch) outcome)
          | ok committed =>
              have written := unwritten head.bpn
              simp [Request.perform, Request.answered, outcome, Reply.ofOutcome,
                Exchange.write?] at written
  | delete bpn expected =>
      cases outcome : (MappingStore.delete bpn expected store).1 with
      | error failure => exact failing failure (congrArg (Reply.ofOutcome .deleted) outcome)
      | ok committed =>
          have written := unwritten bpn
          simp [Request.perform, Request.answered, outcome, Reply.ofOutcome,
            Exchange.write?] at written
  | _ => exact SteadyStore.same_of_read rfl store

namespace Memory

variable {memory : Memory}

theorem bpn_of_mem (sound : memory.IsSound) {entry : String × Record}
    (member : entry ∈ memory.records.entries) : entry.2.bpn = entry.1 :=
  sound entry.1 entry.2 (OrderedMap.find?_eq_some_iff.mpr member)

theorem startOfPage_eq (sound : memory.IsSound) {token start : Option String}
    (starts : PageToken.start token = .ok start) :
    memory.startOfPage token = .ok (recordsAfter start memory.records.values) := by
  cases token with
  | none =>
      cases starts
      rfl
  | some token =>
      rcases map_eq_ok_iff.mp starts with ⟨key, decoded, rfl⟩
      rw [startOfPage, decoded, ok_bind, recordsAfter, OrderedMap.values, OrderedMap.entriesAfter,
        List.filter_map]
      congr 2
      apply List.filter_congr
      intro entry member
      rw [Function.comp_apply, bpn_of_mem sound member]

/-- The page of a token. -/
theorem listAll_eq (sound : memory.IsSound) {token start : Option String} {size : UInt64}
    (starts : PageToken.start token = .ok start) (room : size.toNat < 2 ^ 64 - 1) :
    (Memory.listAll token size memory).1 =
      .ok (.cut size.toNat (recordsAfter start memory.records.values)) := by
  unfold Memory.listAll reading
  simp only [startOfPage_eq sound starts, ok_bind, toNat_add_one_iff.mpr room]
  rw [← Page.cut_take (Nat.lt_succ_self size.toNat)]
  unfold Page.cut
  split <;> rfl

/-- The sum that asks for one record more than the greatest page holds is zero. -/
theorem listAll_greatest (sound : memory.IsSound) {token start : Option String}
    (starts : PageToken.start token = .ok start) :
    (Memory.listAll token greatestSize memory).1 = .ok ⟨[], none⟩ := by
  unfold Memory.listAll reading
  simp only [startOfPage_eq sound starts, ok_bind]
  rfl

instance : PagedStore Memory where
  records memory := memory.records.values
  IsListable := IsSound
  sound_of_listable := fun sound => sound
  listable_perform := LawfulStore.sound_perform
  ascending := by
    intro memory sound
    refine List.pairwise_map.mpr (memory.records.ascending.imp_of_mem ?_)
    intro first second atFirst atSecond less
    rw [bpn_of_mem sound atFirst, bpn_of_mem sound atSecond]
    exact less
  held_of_mem := by
    intro memory record sound member
    rcases List.mem_map.mp member with ⟨⟨key, kept⟩, listed, rfl⟩
    have found := OrderedMap.find?_eq_some_iff.mpr listed
    change (memory.records.find? kept.bpn).map Held.ofRecord = _
    rw [sound key kept found, found]
    rfl
  mem_of_held := by
    intro memory bpn held sound holds
    rcases Option.map_eq_some_iff.mp holds with ⟨record, found, _⟩
    exact ⟨record, List.mem_map.mpr ⟨_, OrderedMap.find?_eq_some_iff.mp found, rfl⟩,
      sound bpn record found⟩
  listAll_eq := fun sound starts bounded => listAll_eq sound starts (by omega)
  records_of_unwritten := by
    intro request memory unwritten
    rw [same_of_unwritten (fun _ _ => rfl) unwritten]

end Memory

namespace Tables

variable {tables : Tables} {table : OrderedMap Row}

/-- The record that an entry of the table of mappings stands for, if it can be read. -/
def recordOf? (entry : String × Row) : Option Record :=
  (readRow entry.1 entry.2).toOption

theorem recordOf?_eq {entry : String × Row} {record : Record}
    (read : readRow entry.1 entry.2 = .ok record) : recordOf? entry = some record :=
  toOption_eq_some_iff.mpr read

/-- The records of a database in the order of their BPNs. -/
def records (tables : Tables) : List Record :=
  match tables.mappings with
  | some table => table.entries.filterMap recordOf?
  | none => []

/-- Whether a database can be listed: every mapping can be read, and the key of none is
the empty text, after which the first page starts. -/
def IsListable (tables : Tables) : Prop :=
  tables.IsHealthy ∧ tables.held "" = none

/-- Rows that can all be read are read as their records. -/
theorem readRows_eq {rows : List (String × Row)}
    (readable : ∀ entry ∈ rows, ∃ record, readRow entry.1 entry.2 = .ok record) :
    readRows rows = .ok (rows.filterMap recordOf?) := by
  induction rows with
  | nil => rfl
  | cons head rest ih =>
      rcases readable head List.mem_cons_self with ⟨record, read⟩
      have others := ih fun entry member => readable entry (List.mem_cons_of_mem head member)
      unfold readRows at others ⊢
      rw [List.mapM_cons, read, ok_bind, others, ok_bind, List.filterMap_cons_some (recordOf?_eq read)]
      rfl

theorem filterMap_take {rows : List (String × Row)}
    (readable : ∀ entry ∈ rows, ∃ record, readRow entry.1 entry.2 = .ok record) (count : Nat) :
    (rows.take count).filterMap recordOf? = (rows.filterMap recordOf?).take count := by
  induction rows generalizing count with
  | nil => simp
  | cons head rest ih =>
      rcases readable head List.mem_cons_self with ⟨record, read⟩
      cases count with
      | zero => rfl
      | succ count =>
          have first := recordOf?_eq read
          rw [List.take_succ_cons, List.filterMap_cons_some first, List.filterMap_cons_some first,
            List.take_succ_cons,
            ih fun entry member => readable entry (List.mem_cons_of_mem head member)]

theorem filterMap_entriesAfter (table : OrderedMap Row) (key : String) :
    (table.entriesAfter key).filterMap recordOf? =
      recordsAfter (some key) (table.entries.filterMap recordOf?) := by
  rw [OrderedMap.entriesAfter, recordsAfter, List.filterMap_filter, List.filter_filterMap]
  apply List.filterMap_congr
  intro entry _
  cases read : recordOf? entry with
  | none => simp
  | some record =>
      have named := readRow_bpn (toOption_eq_some_iff.mp read)
      by_cases after : key < entry.1 <;> simp [Option.filter, named, after]

theorem IsReadable.of_mem (readable : IsReadable table) {entry : String × Row}
    (member : entry ∈ table.entries) : ∃ record, readRow entry.1 entry.2 = .ok record :=
  readable entry.1 entry.2 (OrderedMap.find?_eq_some_iff.mpr member)

/-- The key after which the rows of a page start.  The first page starts after the empty
text. -/
def startKey : Option String → Except Failure String
  | some token => PageToken.decode token
  | none => .ok ""

/-- The entries after the key that a token names stand for the records after it. -/
theorem exists_startKey (listable : tables.IsListable) (mappings : tables.mappings = some table)
    {token start : Option String} (starts : PageToken.start token = .ok start) :
    ∃ key, startKey token = .ok key ∧
      (table.entriesAfter key).filterMap recordOf? = recordsAfter start tables.records := by
  cases token with
  | none =>
      cases starts
      refine ⟨"", rfl, ?_⟩
      rw [OrderedMap.entriesAfter_empty, records, mappings]
      · rfl
      · intro entry member same
        have filled := listable.2
        rw [held_eq mappings, ← same, OrderedMap.find?_eq_some_iff.mpr member] at filled
        cases filled
  | some token =>
      rcases map_eq_ok_iff.mp starts with ⟨key, decoded, rfl⟩
      refine ⟨key, decoded, ?_⟩
      rw [filterMap_entriesAfter, records, mappings]

/-- A page is cut from the rows that the statement takes. -/
theorem listAll_of_readRows (isOpen : tables.isOpen = true)
    (mappings : tables.mappings = some table) {token : Option String} {key : String}
    (starts : startKey token = .ok key) {size : UInt64} {records : List Record}
    (read : readRows (limitRows (size.toInt64 + 1) (table.entriesAfter key)) = .ok records) :
    (Tables.listAll token size tables).1 = .ok (.cut size.toNat records) := by
  unfold Tables.listAll reading Page.cut
  cases token with
  | none =>
      cases starts
      simp only [connect, isOpen, if_true, ok_bind, mappingTable_eq_ok_iff.mpr mappings, read]
      split <;> rfl
  | some token =>
      have decoded : PageToken.decode token = .ok key := starts
      simp only [connect, isOpen, if_true, ok_bind, mappingTable_eq_ok_iff.mpr mappings, decoded,
        read]
      split <;> rfl

/-- The page of a token in a database that can be listed. -/
theorem listAll_eq (listable : tables.IsListable) {token start : Option String} {size : UInt64}
    (starts : PageToken.start token = .ok start) (room : size.toNat < 2 ^ 64 - 1) :
    (Tables.listAll token size tables).1 =
      .ok (.cut size.toNat (recordsAfter start tables.records)) := by
  rcases listable.1 with ⟨isOpen, table, mappings, readable⟩
  rcases exists_startKey listable mappings starts with ⟨key, named, shown⟩
  rcases limitRows_eq_take room (table.entriesAfter key) with ⟨count, more, limited⟩
  have inside : ∀ entry ∈ table.entriesAfter key, ∃ record,
      readRow entry.1 entry.2 = .ok record :=
    fun entry member => readable.of_mem (List.mem_filter.mp member).1
  have read : readRows (limitRows (size.toInt64 + 1) (table.entriesAfter key)) =
      .ok ((recordsAfter start tables.records).take count) := by
    rw [limited, readRows_eq fun entry member => inside entry (List.mem_of_mem_take member),
      filterMap_take inside, shown]
  rw [listAll_of_readRows isOpen mappings named read, Page.cut_take more]

/-- For the greatest page the limit of the statement is zero. -/
theorem listAll_greatest (listable : tables.IsListable) {token start : Option String}
    (starts : PageToken.start token = .ok start) :
    (Tables.listAll token greatestSize tables).1 = .ok ⟨[], none⟩ := by
  rcases listable.1 with ⟨isOpen, table, mappings, _⟩
  rcases exists_startKey listable mappings starts with ⟨key, named, _⟩
  have read : readRows (limitRows (greatestSize.toInt64 + 1) (table.entriesAfter key)) = .ok [] := by
    rw [limitRows_greatest]
    rfl
  exact listAll_of_readRows isOpen mappings named read

theorem put_valid {now : Time.Instant} {bpn did : String} {expected : Option Int}
    {committed : Committed Record}
    (put : (Tables.put now bpn did expected tables).1 = .ok committed) :
    requireMapping bpn did = .ok () := by
  cases checked : requireMapping bpn did with
  | ok _ => rfl
  | error failure =>
      simp only [Tables.put, transaction, checked, error_bind] at put
      cases put

theorem putBatch_valid {now : Time.Instant} {batch : List NewMapping}
    {committed : Committed (List Record)}
    (put : (Tables.putBatch now batch tables).1 = .ok committed) :
    requireBatch batch = .ok () := by
  cases checked : requireBatch batch with
  | ok _ => rfl
  | error failure =>
      simp only [Tables.putBatch, transaction, checked, error_bind] at put
      cases put

/-- Only records of valid BPNs are created. -/
theorem valid_of_created {request : Request} {bpn did : String} {now : Time.Instant}
    (written : Exchange.write? bpn ⟨request, (request.perform tables).1⟩ = some (.created now did)) :
    requireBpn bpn = .ok () := by
  cases request with
  | put stamp key new expected =>
      simp only [Request.perform, Request.answered] at written
      cases outcome : (MappingStore.put stamp key new expected tables).1 with
      | error failure =>
          rw [outcome] at written
          cases expected <;> cases written
      | ok committed =>
          rw [outcome] at written
          have valid := (requireMapping_eq_ok_iff.mp (put_valid outcome)).1
          cases expected with
          | none =>
              simp only [Reply.ofOutcome, Exchange.write?] at written
              split at written
              · next same => exact same ▸ valid
              · cases written
          | some version =>
              simp only [Reply.ofOutcome, Exchange.write?] at written
              split at written <;> cases written
  | putBatch stamp batch =>
      simp only [Request.perform, Request.answered] at written
      cases outcome : (MappingStore.putBatch stamp batch tables).1 with
      | error failure =>
          rw [outcome] at written
          cases written
      | ok committed =>
          rw [outcome] at written
          rcases Option.map_eq_some_iff.mp written with ⟨mapping, found, _⟩
          have each := (requireBatch_eq_ok_iff.mp (putBatch_valid outcome)).1
          have valid := each mapping (List.mem_of_find?_eq_some found)
          have same : mapping.bpn = bpn := by simpa using List.find?_some found
          exact same ▸ (requireMapping_eq_ok_iff.mp valid).1
  | delete key expected =>
      simp only [Request.perform, Request.answered] at written
      cases outcome : (MappingStore.delete key expected tables).1 with
      | error failure =>
          rw [outcome] at written
          cases written
      | ok committed =>
          rw [outcome] at written
          simp only [Reply.ofOutcome, Exchange.write?] at written
          split at written <;> cases written
  | _ =>
      rw [write?_read rfl] at written
      cases written

/-- The empty text is no BPN, so it never becomes the key of a mapping. -/
theorem held_empty_perform (request : Request) (filled : tables.held "" = none) :
    (request.perform tables).2.held "" = none := by
  have becomes := LawfulStore.held_perform request tables ""
  change Held.Becomes (tables.held "") _ ((request.perform tables).2.held "") at becomes
  rw [filled] at becomes
  cases written : Exchange.write? "" ⟨request, (request.perform tables).1⟩ with
  | none =>
      rw [written] at becomes
      exact becomes.eq_of_none
  | some write =>
      rw [written] at becomes
      generalize (request.perform tables).2.held "" = after at becomes
      cases becomes
      cases valid_of_created written

instance : PagedStore Tables where
  records := records
  IsListable := IsListable
  sound_of_listable := fun _ => trivial
  listable_perform := by
    rintro request tables ⟨healthy, filled⟩
    exact ⟨SteadyStore.healthy_perform (S := Tables) request healthy, held_empty_perform request filled⟩
  ascending := by
    rintro tables ⟨⟨isOpen, table, mappings, readable⟩, filled⟩
    rw [records, mappings]
    refine List.pairwise_filterMap.mpr (table.ascending.imp ?_)
    intro first second less record read other readOther
    rw [readRow_bpn (toOption_eq_some_iff.mp read), readRow_bpn (toOption_eq_some_iff.mp readOther)]
    exact less
  held_of_mem := by
    rintro tables record ⟨⟨isOpen, table, mappings, readable⟩, filled⟩ member
    rw [records, mappings] at member
    rcases List.mem_filterMap.mp member with ⟨entry, listed, read⟩
    have shown := toOption_eq_some_iff.mp read
    rcases readRow_did shown with ⟨did, version⟩
    change tables.held record.bpn = _
    rw [held_eq mappings, readRow_bpn shown, OrderedMap.find?_eq_some_iff.mpr listed, Held.ofRecord,
      did, version]
    rfl
  mem_of_held := by
    rintro tables bpn held ⟨⟨isOpen, table, mappings, readable⟩, filled⟩ holds
    change tables.held bpn = some held at holds
    rw [held_eq mappings] at holds
    rcases Option.map_eq_some_iff.mp holds with ⟨row, found, _⟩
    rcases readable bpn row found with ⟨record, read⟩
    refine ⟨record, ?_, readRow_bpn read⟩
    rw [records, mappings]
    exact List.mem_filterMap.mpr ⟨_, OrderedMap.find?_eq_some_iff.mp found, recordOf?_eq read⟩
  listAll_eq := fun listable starts bounded => listAll_eq listable starts (by omega)
  records_of_unwritten := by
    intro request tables unwritten
    rw [same_of_unwritten putBatch_nil unwritten]

end Tables

instance : PagedStore Backend where
  records
    | .memory store => PagedStore.records store
    | .tables store => PagedStore.records store
  IsListable
    | .memory store => PagedStore.IsListable store
    | .tables store => PagedStore.IsListable store
  sound_of_listable := by
    intro store listable
    cases store with
    | memory store => exact @PagedStore.sound_of_listable Memory _ _ _ store listable
    | tables store => exact @PagedStore.sound_of_listable Tables _ _ _ store listable
  listable_perform := by
    intro request store listable
    cases store with
    | memory store =>
        rw [Backend.perform_memory]
        exact PagedStore.listable_perform request listable
    | tables store =>
        rw [Backend.perform_tables]
        exact PagedStore.listable_perform request listable
  ascending := by
    intro store listable
    cases store with
    | memory store => exact @PagedStore.ascending Memory _ _ _ store listable
    | tables store => exact @PagedStore.ascending Tables _ _ _ store listable
  held_of_mem := by
    intro store record listable member
    cases store with
    | memory store => exact @PagedStore.held_of_mem Memory _ _ _ store record listable member
    | tables store => exact @PagedStore.held_of_mem Tables _ _ _ store record listable member
  mem_of_held := by
    intro store bpn held listable holds
    cases store with
    | memory store => exact @PagedStore.mem_of_held Memory _ _ _ store bpn held listable holds
    | tables store => exact @PagedStore.mem_of_held Tables _ _ _ store bpn held listable holds
  listAll_eq := by
    intro store token start size listable starts bounded
    cases store with
    | memory store =>
        exact @PagedStore.listAll_eq Memory _ _ _ store token start size listable starts bounded
    | tables store =>
        exact @PagedStore.listAll_eq Tables _ _ _ store token start size listable starts bounded
  records_of_unwritten := by
    intro request store unwritten
    cases store with
    | memory store =>
        rw [Backend.perform_memory] at unwritten ⊢
        exact PagedStore.records_of_unwritten unwritten
    | tables store =>
        rw [Backend.perform_tables] at unwritten ⊢
        exact PagedStore.records_of_unwritten unwritten

namespace Backend

variable {store : Backend} {token start : Option String}

/-- The page of a token, whichever store was chosen. -/
theorem listAll_eq {size : UInt64} (listable : PagedStore.IsListable store)
    (starts : PageToken.start token = .ok start) (room : size.toNat < 2 ^ 64 - 1) :
    (MappingStore.listAll token size store).1 =
      .ok (.cut size.toNat (recordsAfter start (PagedStore.records store))) := by
  cases store with
  | memory store => exact Memory.listAll_eq listable starts room
  | tables store => exact Tables.listAll_eq listable starts room

/-- The greatest page is empty, whichever store was chosen. -/
theorem listAll_greatest (listable : PagedStore.IsListable store)
    (starts : PageToken.start token = .ok start) :
    (MappingStore.listAll token greatestSize store).1 = .ok ⟨[], none⟩ := by
  cases store with
  | memory store => exact Memory.listAll_greatest listable starts
  | tables store => exact Tables.listAll_greatest listable starts

end Backend
end Store
end BpnDirectory
