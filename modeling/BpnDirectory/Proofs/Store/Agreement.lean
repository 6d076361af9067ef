import BpnDirectory.Proofs.Store.Mirror
import BpnDirectory.Proofs.Store.Tables
import Mathlib.Data.List.Forall2
import Mathlib.Data.List.Perm.Basic

namespace BpnDirectory
namespace Store

/-!
The two stores say the same.

A conversation that is held with records in memory and with a database whose
tables were just created has the same replies on both.  A call on a mirror has
the same outcome as on the records that it mirrors; the conversation follows by
induction, because every call leaves a mirror behind.
-/

open Text (maxSigned64)

/-- Whether a request is one that the two stores answer alike.  A BPN that is named
twice is answered twice from memory and once by a database, and the limit of a
database statement is a number with sign. -/
def Request.IsComparable : Request → Prop
  | .getMany bpns => bpns.Nodup
  | .listAll _ size => size.toNat < 2 ^ 63 - 1
  | _ => True

instance : (request : Request) → Decidable request.IsComparable
  | .getMany bpns => inferInstanceAs (Decidable bpns.Nodup)
  | .listAll _ size => Nat.decLt size.toNat _
  | .get _ | .put .. | .putBatch .. | .delete .. | .findByDid _ | .snapshot | .directoryVersion |
    .ping => .isTrue trivial

/-- Whether two replies to a request agree.  They are the same, but the records of
several BPNs may stand in another order. -/
def Request.Agrees : Request → Reply → Reply → Prop
  | .getMany _, .records left, .records right => left.Perm right ∧ left.Nodup
  | _, left, right => left = right

/-- Whether two exchanges are one request with replies that agree. -/
def Exchange.Agrees (left right : Exchange) : Prop :=
  left.request = right.request ∧ left.request.Agrees left.reply right.reply

def greatestSize : UInt64 := 0xffffffffffffffff

theorem toNat_add_one_iff {size : UInt64} :
    (size + 1).toNat = size.toNat + 1 ↔ size.toNat < 2 ^ 64 - 1 := by
  have one : (1 : UInt64).toNat = 1 := rfl
  have bound := size.toNat_lt
  rw [UInt64.toNat_add, one]
  omega

theorem toInt64_add_one (size : UInt64) :
    (size.toInt64 + 1).toInt = Int.bmod (size.toNat + 1) (2 ^ 64) := by
  have one : (1 : Int64).toInt = 1 := rfl
  have whole : size.toInt64.toInt = Int.bmod size.toNat (2 ^ 64) := by
    rw [← Int64.toInt_toBitVec, UInt64.toBitVec_toInt64, BitVec.toInt_eq_toNat_bmod]
    rfl
  rw [Int64.toInt_add, whole, one, Int.bmod_add_bmod]

theorem toInt64_add_one_iff {size : UInt64} :
    (size.toInt64 + 1).toInt = size.toNat + 1 ↔ size.toNat < 2 ^ 63 - 1 := by
  have bound := size.toNat_lt
  rw [toInt64_add_one, Int.bmod_def]
  split <;> omega

namespace Tables

/-- The limit of a statement for a page of ordinary size. -/
theorem limitRows_eq {α : Type} {size : UInt64} (bounded : size.toNat < 2 ^ 63 - 1)
    (rows : List α) : limitRows (size.toInt64 + 1) rows = rows.take (size.toNat + 1) := by
  have limit := toInt64_add_one_iff.mpr bounded
  unfold limitRows
  rw [if_neg, limit]
  · rfl
  · rw [Int64.lt_iff_toInt_lt, limit]
    change ¬ (size.toNat + 1 : Int) < 0
    omega

/-- A statement takes more rows than the page holds, as long as their number has 64 bits.
Beyond the numbers with sign its limit is negative, and it takes all rows. -/
theorem limitRows_eq_take {α : Type} {size : UInt64} (room : size.toNat < 2 ^ 64 - 1)
    (rows : List α) :
    ∃ count, size.toNat < count ∧ limitRows (size.toInt64 + 1) rows = rows.take count := by
  by_cases bounded : size.toNat < 2 ^ 63 - 1
  · exact ⟨size.toNat + 1, Nat.lt_succ_self _, limitRows_eq bounded rows⟩
  · refine ⟨size.toNat + 1 + rows.length, by omega, ?_⟩
    have negative : (size.toInt64 + 1).toInt < 0 := by
      rw [toInt64_add_one, Int.bmod_def]
      split <;> omega
    unfold limitRows
    rw [if_pos (Int64.lt_iff_toInt_lt.mpr negative), List.take_of_length_le (by omega)]

/-- For a page of the greatest size the limit comes out as zero. -/
theorem limitRows_greatest {α : Type} (rows : List α) :
    limitRows (greatestSize.toInt64 + 1) rows = [] := by
  have zero : greatestSize.toInt64 + 1 = 0 := by decide
  rw [zero, limitRows, if_neg (by decide)]
  rfl

end Tables

namespace Mirrors

open Tables

variable {memory : Memory} {tables : Tables}

/-! ## Calls that read -/

theorem get (mirrors : Mirrors memory tables) (bpn : String) :
    (Memory.get bpn memory).1 = (Tables.get bpn tables).1 := by
  unfold Memory.get Tables.get reading
  simp only [mirrors.connect_eq, mirrors.mappingTable_eq, bind, Except.bind,
    OrderedMap.find?_mapValues]
  cases found : memory.records.find? bpn with
  | none => rfl
  | some record => exact (mirrors.readRow_eq found).symm

theorem bpn_eq_of_mem (mirrors : Mirrors memory tables) {entry : String × Record}
    (member : entry ∈ memory.records.entries) : entry.2.bpn = entry.1 :=
  (mirrors.sound entry.1 entry.2 (OrderedMap.find?_eq_some_iff.mpr member)).bpn_eq

/-- No record is kept for the empty text, since it is no BPN. -/
theorem filled (mirrors : Mirrors memory tables) :
    ∀ entry ∈ memory.records.entries, entry.1 ≠ "" := by
  intro entry member same
  have found := OrderedMap.find?_eq_some_iff.mpr member
  have valid := (mirrors.sound entry.1 entry.2 found).valid
  rw [same] at valid
  cases valid

/-- The rows that a condition on entries selects are read as the records whose
entries it selects. -/
theorem readRows_filter_eq (mirrors : Mirrors memory tables) (wanted : String × Row → Bool) :
    readRows ((memory.records.mapValues Row.ofRecord).entries.filter wanted) =
      .ok ((memory.records.entries.filter
        fun entry => wanted (entry.1, Row.ofRecord entry.2)).map Prod.snd) := by
  rw [OrderedMap.mapValues, List.filter_map]
  exact mirrors.readRows_eq fun entry member => (List.mem_filter.mp member).1

/-- The records in memory that a statement with a list of keys selects. -/
def recordsIn (memory : Memory) (keys : List String) : List Record :=
  (memory.records.entries.filter fun entry => keys.contains entry.1).map Prod.snd

theorem selectIn_eq (mirrors : Mirrors memory tables) (keys : List String) :
    selectIn keys tables = .ok (recordsIn memory keys) := by
  unfold selectIn
  simp only [mirrors.connect_eq, mirrors.mappingTable_eq, bind, Except.bind]
  exact mirrors.readRows_filter_eq fun entry => keys.contains entry.1

theorem nodup_recordsIn (mirrors : Mirrors memory tables) (keys : List String) :
    (recordsIn memory keys).Nodup := by
  apply List.Nodup.of_map Record.bpn
  have named : (recordsIn memory keys).map Record.bpn =
      (memory.records.entries.filter fun entry => keys.contains entry.1).map Prod.fst := by
    rw [recordsIn, List.map_map]
    apply List.map_congr_left
    intro entry member
    exact mirrors.bpn_eq_of_mem (List.mem_filter.mp member).1
  rw [named]
  exact memory.records.nodup_keys.sublist (List.filter_sublist.map Prod.fst)

theorem nodup_named (mirrors : Mirrors memory tables) {keys : List String}
    (distinct : keys.Nodup) : (keys.filterMap memory.records.find?).Nodup := by
  refine List.Nodup.filterMap ?_ distinct
  intro first second record atFirst atSecond
  rw [← (mirrors.sound first record atFirst).bpn_eq, (mirrors.sound second record atSecond).bpn_eq]

/-- A statement selects the records that are named, in the order of their keys. -/
theorem named_perm_recordsIn (mirrors : Mirrors memory tables) {keys : List String}
    (distinct : keys.Nodup) :
    (keys.filterMap memory.records.find?).Perm (recordsIn memory keys) := by
  rw [List.perm_ext_iff_of_nodup (mirrors.nodup_named distinct) (mirrors.nodup_recordsIn keys)]
  intro record
  simp only [recordsIn, List.mem_map, List.mem_filter, List.contains_iff_mem, List.mem_filterMap]
  constructor
  · rintro ⟨key, wanted, found⟩
    exact ⟨(key, record), ⟨OrderedMap.find?_eq_some_iff.mp found, wanted⟩, rfl⟩
  · rintro ⟨entry, ⟨member, wanted⟩, rfl⟩
    exact ⟨entry.1, wanted, OrderedMap.find?_eq_some_iff.mpr member⟩

theorem getMany_eq (mirrors : Mirrors memory tables) (bpns : List String) :
    (Tables.getMany bpns tables).1 =
      .ok ((chunksOf bpns.length bpns).flatMap (recordsIn memory)) := by
  have select : (fun keys => selectIn keys tables) = fun keys => pure (recordsIn memory keys) :=
    funext mirrors.selectIn_eq
  unfold Tables.getMany reading
  dsimp only
  rw [select, List.mapM_pure]
  rfl

/-- Parts of the list of keys select, one after the other, what the whole list
names. -/
theorem getMany_perm (mirrors : Mirrors memory tables) {bpns : List String}
    (distinct : bpns.Nodup) :
    (bpns.filterMap memory.records.find?).Perm
      ((chunksOf bpns.length bpns).flatMap (recordsIn memory)) := by
  have whole := flatten_chunksOf (Nat.le_refl bpns.length)
  have parts : ∀ keys ∈ chunksOf bpns.length bpns,
      (keys.filterMap memory.records.find?).Perm (recordsIn memory keys) := by
    intro keys member
    have part : keys.Nodup := (List.nodup_flatten.mp (whole.symm ▸ distinct)).1 keys member
    exact mirrors.named_perm_recordsIn part
  have joined := List.Perm.flatMap_left _ parts
  rw [List.flatMap_def, ← List.filterMap_flatten, whole] at joined
  exact joined

/-- The records from which a page is cut are the same on both stores. -/
theorem startOfPage_none (mirrors : Mirrors memory tables) :
    memory.startOfPage none = .ok ((memory.records.entriesAfter "").map Prod.snd) := by
  rw [OrderedMap.entriesAfter_empty mirrors.filled]
  rfl

theorem listAll (mirrors : Mirrors memory tables) (token : Option String) {size : UInt64}
    (bounded : size.toNat < 2 ^ 63 - 1) :
    (Memory.listAll token size memory).1 = (Tables.listAll token size tables).1 := by
  have read : ∀ key : String,
      readRows (limitRows (size.toInt64 + 1)
          ((memory.records.mapValues Row.ofRecord).entriesAfter key)) =
        .ok (((memory.records.entriesAfter key).map Prod.snd).take (size + 1).toNat) := by
    intro key
    rw [limitRows_eq bounded, toNat_add_one_iff.mpr (by omega), ← List.map_take,
      OrderedMap.entriesAfter, OrderedMap.mapValues, List.filter_map, ← List.map_take]
    apply mirrors.readRows_eq
    intro entry member
    exact (List.mem_filter.mp (List.mem_of_mem_take member)).1
  unfold Memory.listAll Tables.listAll reading
  cases token with
  | none =>
      simp only [mirrors.startOfPage_none, mirrors.connect_eq, mirrors.mappingTable_eq, read, bind,
        Except.bind]
  | some token =>
      unfold Memory.startOfPage
      cases decoded : PageToken.decode token with
      | error failure => simp only [decoded, bind, Except.bind]
      | ok key =>
          simp only [mirrors.connect_eq, mirrors.mappingTable_eq, decoded, read, bind, Except.bind]

theorem findByDid (mirrors : Mirrors memory tables) (did : String) :
    (Memory.findByDid did memory).1 = (Tables.findByDid did tables).1 := by
  unfold Memory.findByDid Tables.findByDid reading
  simp only [mirrors.connect_eq, mirrors.mappingTable_eq, bind, Except.bind]
  rw [mirrors.readRows_filter_eq, OrderedMap.values, List.filter_map]
  rfl

theorem snapshot (mirrors : Mirrors memory tables) :
    (Memory.snapshot memory).1 = (Tables.snapshot tables).1 := by
  unfold Memory.snapshot Tables.snapshot reading
  simp only [mirrors.connect_eq, mirrors.mappingTable_eq, bind, Except.bind]
  rw [OrderedMap.mapValues_mapValues]
  rfl

theorem readVersion_eq (mirrors : Mirrors memory tables) :
    tables.readVersion = .ok memory.version := by
  unfold readVersion
  simp [mirrors.connect_eq, metadataRow, mirrors.metadata, bind, Except.bind]

/-! ## Conversations -/

/-- A change has the same reply on a store and on its mirror, and leaves a mirror
behind. -/
theorem perform_change (mirrors : Mirrors memory tables) {request : Request}
    (timely : request.IsTimely) (isChange : request.isChange = true)
    (bounded : memory.version < maxSigned64) :
    (request.perform memory).1 = (request.perform tables).1 ∧
      Mirrors (request.perform memory).2 (request.perform tables).2 := by
  cases request with
  | put now bpn did expected =>
      rcases mirrors.put bounded timely bpn did expected with ⟨same, after⟩
      exact ⟨congrArg (Reply.ofOutcome .put) same, after⟩
  | putBatch now batch =>
      rcases mirrors.putBatch bounded timely batch with ⟨same, after⟩
      exact ⟨congrArg (Reply.ofOutcome .putBatch) same, after⟩
  | delete bpn expected =>
      rcases mirrors.delete bounded bpn expected with ⟨same, after⟩
      exact ⟨congrArg (Reply.ofOutcome .deleted) same, after⟩
  | _ => cases isChange

/-- A call has replies that agree on a store and on its mirror, and leaves a mirror
behind. -/
theorem perform (mirrors : Mirrors memory tables) {request : Request} (timely : request.IsTimely)
    (comparable : request.IsComparable)
    (bounded : request.isChange = true → memory.version < maxSigned64) :
    request.Agrees (request.perform memory).1 (request.perform tables).1 ∧
      Mirrors (request.perform memory).2 (request.perform tables).2 := by
  cases request with
  | get bpn => exact ⟨congrArg (Reply.ofOutcome .record) (mirrors.get bpn), mirrors⟩
  | getMany bpns =>
      refine ⟨?_, mirrors⟩
      change (Request.getMany bpns).Agrees _ (Reply.ofOutcome .records (Tables.getMany bpns tables).1)
      rw [mirrors.getMany_eq]
      exact ⟨mirrors.getMany_perm comparable, mirrors.nodup_named comparable⟩
  | put now bpn did expected => exact mirrors.perform_change timely rfl (bounded rfl)
  | putBatch now batch => exact mirrors.perform_change timely rfl (bounded rfl)
  | delete bpn expected => exact mirrors.perform_change trivial rfl (bounded rfl)
  | listAll token size =>
      exact ⟨congrArg (Reply.ofOutcome .page) (mirrors.listAll token comparable), mirrors⟩
  | findByDid did => exact ⟨congrArg (Reply.ofOutcome .records) (mirrors.findByDid did), mirrors⟩
  | snapshot => exact ⟨congrArg (Reply.ofOutcome .dids) mirrors.snapshot, mirrors⟩
  | directoryVersion =>
      exact ⟨congrArg (Reply.ofOutcome .version) mirrors.readVersion_eq.symm, mirrors⟩
  | ping =>
      exact ⟨congrArg (Reply.ofOutcome fun _ => .reached) mirrors.connect_eq.symm, mirrors⟩

end Mirrors

/-- One request makes at most one change. -/
theorem Memory.version_perform_le (request : Request) (memory : Memory) :
    (request.perform memory).2.version ≤
      memory.version + if request.isChange then 1 else 0 := by
  cases request with
  | put now bpn did expected =>
      change (Memory.put now bpn did expected memory).2.version ≤ memory.version + 1
      rcases Memory.put_cases now bpn did expected memory with ⟨_, put⟩ | ⟨_, _, put, _⟩ <;>
        simp only [put] <;> omega
  | putBatch now batch =>
      change (Memory.putBatch now batch memory).2.version ≤ memory.version + 1
      rcases Memory.putBatch_cases now batch memory with ⟨_, put⟩ | ⟨_, put⟩ | ⟨_, _, _, put⟩ <;>
        simp only [put] <;> omega
  | delete bpn expected =>
      change (Memory.delete bpn expected memory).2.version ≤ memory.version + 1
      rcases Memory.delete_cases bpn expected memory with ⟨_, deleted⟩ | ⟨_, _, _, deleted⟩ <;>
        simp only [deleted] <;> omega
  | _ => exact Int.le_add_of_nonneg_right (Int.le_refl 0)

/-- A conversation with a store and one with its mirror agree for as long as the
number of changes fits into 64 bits. -/
theorem Mirrors.converse {requests : List Request} {memory : Memory} {tables : Tables}
    (mirrors : Mirrors memory tables) (timely : ∀ request ∈ requests, request.IsTimely)
    (comparable : ∀ request ∈ requests, request.IsComparable)
    (bounded : memory.version + requests.countP Request.isChange ≤ maxSigned64) :
    List.Forall₂ Exchange.Agrees (Store.converse requests memory).1
        (Store.converse requests tables).1 ∧
      Mirrors (Store.converse requests memory).2 (Store.converse requests tables).2 := by
  induction requests generalizing memory tables with
  | nil => exact ⟨.nil, mirrors⟩
  | cons request rest ih =>
      have grown := Memory.version_perform_le request memory
      rw [List.countP_cons, Int.natCast_add] at bounded
      rcases mirrors.perform (timely request List.mem_cons_self)
        (comparable request List.mem_cons_self) fun isChange => by
          simp only [isChange, if_true] at bounded
          omega with
        ⟨agree, after⟩
      rcases ih after
        (fun later member => timely later (List.mem_cons_of_mem request member))
        (fun later member => comparable later (List.mem_cons_of_mem request member))
        (by cases changes : request.isChange <;> simp only [changes] at grown bounded ⊢ <;>
              simp at grown bounded <;> omega) with
        ⟨others, last⟩
      exact ⟨.cons ⟨rfl, agree⟩ others, last⟩

/-- Whatever is asked of records in memory and of a database whose tables were just
created, one call after the other and at the same times, both say the same.  The
counters of a database have 64 bits, so the changes must not outnumber them. -/
theorem converse_agrees (requests : List Request)
    (timely : ∀ request ∈ requests, request.IsTimely)
    (comparable : ∀ request ∈ requests, request.IsComparable)
    (countable : requests.countP Request.isChange < 2 ^ 63) :
    List.Forall₂ Exchange.Agrees (converse requests Memory.empty).1
      (converse requests Tables.migrated).1 := by
  have bounded : Memory.empty.version + requests.countP Request.isChange ≤ maxSigned64 := by
    change (0 : Int) + requests.countP Request.isChange ≤ 2 ^ 63 - 1
    omega
  exact (Mirrors.fresh.converse timely comparable bounded).1

/-- The two stores agree about a record that is created, found, replaced, not
replaced again with an old version, listed and deleted. -/
theorem lifecycle_agrees :
    (∀ request ∈ Request.lifecycle, request.IsTimely) ∧
      (∀ request ∈ Request.lifecycle, request.IsComparable) ∧
      Request.lifecycle.countP Request.isChange < 2 ^ 63 ∧
      List.Forall₂ Exchange.Agrees (converse Request.lifecycle Memory.empty).1
        (converse Request.lifecycle Tables.migrated).1 := by
  have timely : ∀ request ∈ Request.lifecycle, request.IsTimely := by decide
  have comparable : ∀ request ∈ Request.lifecycle, request.IsComparable := by decide
  have countable : Request.lifecycle.countP Request.isChange < 2 ^ 63 := by decide
  exact ⟨timely, comparable, countable, converse_agrees _ timely comparable countable⟩

end Store
end BpnDirectory
