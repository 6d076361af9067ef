import BpnDirectory.Proofs.Resolver.Detection
import BpnDirectory.Proofs.Store.Pages

namespace BpnDirectory
namespace Resolver

/-!
Listings of a directory that others write to.

A listing follows the tokens of its pages, and every page shows the store as it is when
the page is read.  Pages start behind a key and not at a position, so whatever is
written between two of them moves nothing into a page twice and nothing past it.
-/

open Program (Becomes)
open Store (LawfulStore MappingStore PagedStore Writes)

variable {S : Type}

def Answer.listed : Answer → List Record
  | .page shown => shown.records
  | _ => []

/-- The token of the page after an answer that is a page. -/
def Answer.nextToken? : Answer → Option String
  | .page shown => shown.next
  | _ => none

variable [MappingStore S]

/-- A call for a page with its token, its answer, and a time by which it is answered. -/
structure Fetch where
  index : Nat
  token : Option String
  answer : Answer
  returned : Nat

/-- Whether a page was fetched by a call that begins after a time. -/
structure Fetch.IsMade (fetch : Fetch) (run : Run S) (asked : Option UInt64) (since : Nat) :
    Prop where
  later : (run.traffic since).tasks.length ≤ fetch.index
  answered : (run.traffic fetch.returned).answer? fetch.index =
    some (.list fetch.token asked, fetch.answer)

/-- Whether pages were fetched one after the other, from a token on, each with the token
of the one before, until there was no token. -/
inductive Run.Traverses (run : Run S) (asked : Option UInt64) :
    Option String → Nat → List Fetch → Nat → Prop
  | last {fetch : Fetch} {since : Nat} (made : fetch.IsMade run asked since)
      (ended : fetch.answer.nextToken? = none) :
      Traverses run asked fetch.token since [fetch] fetch.returned
  | next {fetch : Fetch} {since until_ : Nat} {token : String} {rest : List Fetch}
      (made : fetch.IsMade run asked since) (more : fetch.answer.nextToken? = some token)
      (others : Traverses run asked (some token) fetch.returned rest until_) :
      Traverses run asked fetch.token since (fetch :: rest) until_

def listing (fetches : List Fetch) : List Record :=
  fetches.flatMap fun fetch => fetch.answer.listed

theorem Fetch.IsMade.lt {run : Run S} {fetch : Fetch} {asked : Option UInt64} {since : Nat}
    (made : fetch.IsMade run asked since) : since < fetch.returned :=
  Run.lt_of_absent made.later
    (List.getElem?_eq_some_iff.mp (Run.listed_of_answered made.answered)).1

namespace Run.Traverses

variable {run : Run S} {asked : Option UInt64} {token : Option String} {since until_ : Nat}
  {fetches : List Fetch}

theorem le (traverses : run.Traverses asked token since fetches until_) : since ≤ until_ := by
  induction traverses with
  | last made => exact Nat.le_of_lt made.lt
  | next made _ _ ih => exact Nat.le_trans (Nat.le_of_lt made.lt) ih

theorem ne_nil (traverses : run.Traverses asked token since fetches until_) : fetches ≠ [] := by
  cases traverses <;> exact List.cons_ne_nil _ _

end Run.Traverses

/-! ## One page -/

/-- A page that was asked for with a valid size is what the store yields. -/
theorem called_of_list {state : Nat → Node S} {IsOwn : Reach → Nat → Prop} {start time : Nat}
    {policy : Policy} {token : Option String} {asked : Option UInt64} {size : UInt64}
    {outcome : Except Failure Page} (sized : pageSize policy asked = .ok size)
    (becomes : Becomes state IsOwn (list policy token asked).run start (.done outcome) time) :
    Called state (IsOwn .store) (fun _ => MappingStore.listAll token size) outcome start time := by
  unfold list at becomes
  rw [sized] at becomes
  exact called_of_request becomes

variable [LawfulStore S] [PagedStore S] {run : Run S} {asked : Option UInt64} {size : UInt64}

/-- A store stays one that can be listed. -/
theorem Run.isListable (listable : PagedStore.IsListable run.store) (time : Nat) :
    PagedStore.IsListable (run.node time).store := by
  have sound := PagedStore.sound_of_listable listable
  have fair := run.isFairUntil sound (fun _ => True) time
  refine fair.carry (fun time => PagedStore.IsListable (run.node time).store) (Nat.zero_le time)
    listable ?_
  intro step _ past was
  have last : (course run.node fun _ => True).IsFair step := past step (Nat.lt_succ_self step)
  rcases last.store with same | ⟨request, performed⟩
  · exact same ▸ was
  · exact performed ▸ PagedStore.listable_perform request was

/-- While nothing is written the records stay the same. -/
theorem Run.records_eq (sound : LawfulStore.IsSound run.store) {earlier time : Nat}
    (before : earlier ≤ time)
    (unwritten : ∀ step, earlier ≤ step → step < time → ∀ bpn write,
      ¬ Writes bpn write (run.node step).store (run.node (step + 1)).store) :
    PagedStore.records (run.node time).store = PagedStore.records (run.node earlier).store := by
  induction before with
  | refl => rfl
  | @step time before ih =>
      have fair := run.isFairUntil sound (fun _ => True) (time + 1)
      have last : (course run.node fun _ => True).IsFair time := fair time (Nat.lt_succ_self time)
      rw [← ih fun step from_ until_ => unwritten step from_ (Nat.lt_succ_of_lt until_)]
      rcases last.store with same | ⟨request, performed⟩
      · rw [same]
      · rw [performed]
        apply PagedStore.records_of_unwritten
        intro bpn
        by_contra written
        rcases Option.ne_none_iff_exists'.mp written with ⟨write, writes⟩
        exact unwritten time before (Nat.lt_succ_self time) bpn write ⟨request, writes, performed⟩

/-- A page shows the records of the store at some time of its call. -/
theorem Fetch.IsMade.cut {fetch : Fetch} {since : Nat} {start : Option String}
    (made : fetch.IsMade run asked since) (listable : PagedStore.IsListable run.store)
    (sized : pageSize run.policy asked = .ok size) (bounded : size.toNat < 2 ^ 63 - 1)
    (starts : PageToken.start fetch.token = .ok start) :
    ∃ read, since < read ∧ read < fetch.returned ∧ fetch.answer =
      .page (.cut size.toNat (recordsAfter start (PagedStore.records (run.node read).store))) := by
  rcases Run.becomes_of_listed (Run.listed_of_answered made.answered) with
    ⟨begun, _, present, became⟩
  rcases Command.done_of_answered became with ⟨outcome, same, listed⟩
  rcases called_of_list sized listed with ⟨read, after, before, _, called⟩
  have shown := PagedStore.listAll_eq (run.isListable listable read) starts bounded
  refine ⟨read, Nat.lt_of_lt_of_le (Run.lt_of_absent made.later present) after, before, ?_⟩
  have paged : outcome = .ok (.cut size.toNat _) := (congrArg Prod.fst called).symm.trans shown
  rw [same, paged]
  rfl

/-! ## All pages -/

/-- What is to be said of the pages of a listing that were fetched between two times and
start behind a key. -/
structure Run.Lists (run : Run S) (size : Nat) (start : Option String) (since until_ : Nat)
    (fetches : List Fetch) : Prop where
  /-- Every answer is a page. -/
  paged : ∀ fetch ∈ fetches, ∃ page, fetch.answer = .page page
  ascending : IsAscending (listing fetches)
  /-- Every page but the last one is full. -/
  full : ∀ fetch ∈ fetches.dropLast, fetch.answer.listed.length = size
  /-- What is listed comes behind the key and was held in the meantime. -/
  shown : ∀ record ∈ listing fetches, (∀ key, start = some key → key < record.bpn) ∧
    ∃ time, since < time ∧ time < until_ ∧
      LawfulStore.held (run.node time).store record.bpn = some (.ofRecord record)
  /-- What is held all the time is listed. -/
  complete : ∀ bpn, (∀ key, start = some key → key < bpn) →
    (∀ time, since ≤ time → time < until_ →
      (LawfulStore.held (run.node time).store bpn).isSome = true) →
    ∃ record ∈ listing fetches, record.bpn = bpn
  /-- If nothing is written, all records behind the key are listed. -/
  whole : (∀ time, since ≤ time → time < until_ → ∀ bpn write,
      ¬ Writes bpn write (run.node time).store (run.node (time + 1)).store) →
    listing fetches = recordsAfter start (PagedStore.records (run.node since).store)

namespace Run

theorem exists_record_of_held (listable : PagedStore.IsListable run.store) {time : Nat}
    {start : Option String} {bpn : String} (behind : ∀ key, start = some key → key < bpn)
    (held : (LawfulStore.held (run.node time).store bpn).isSome = true) :
    ∃ record ∈ recordsAfter start (PagedStore.records (run.node time).store),
      record.bpn = bpn := by
  rcases Option.isSome_iff_exists.mp held with ⟨found, holds⟩
  rcases PagedStore.mem_of_held (run.isListable listable time) holds with ⟨record, listed, rfl⟩
  exact ⟨record, mem_recordsAfter.mpr ⟨listed, behind⟩, rfl⟩

theorem shown_of_mem (listable : PagedStore.IsListable run.store) {since read until_ : Nat}
    {start : Option String} {record : Record} (after : since < read) (before : read < until_)
    (listed : record ∈ recordsAfter start (PagedStore.records (run.node read).store)) :
    (∀ key, start = some key → key < record.bpn) ∧
      ∃ time, since < time ∧ time < until_ ∧
        LawfulStore.held (run.node time).store record.bpn = some (.ofRecord record) := by
  rcases mem_recordsAfter.mp listed with ⟨member, behind⟩
  exact ⟨behind, read, after, before,
    PagedStore.held_of_mem (run.isListable listable read) member⟩

namespace Lists

variable {fetch : Fetch} {since read until_ : Nat} {start : Option String}

/-- A page with all records behind a key is a listing. -/
theorem last (listable : PagedStore.IsListable run.store) (after : since < read)
    (before : read < fetch.returned) (paged : ∃ page, fetch.answer = .page page)
    (whole : fetch.answer.listed =
      recordsAfter start (PagedStore.records (run.node read).store)) :
    run.Lists size.toNat start since fetch.returned [fetch] := by
  have listed : listing [fetch] = _ := (List.flatMap_singleton _ _).trans whole
  constructor
  · simpa using paged
  · rw [listed]
    exact isAscending_recordsAfter (PagedStore.ascending (run.isListable listable read)) start
  · simp
  · rw [listed]
    exact fun record member => shown_of_mem listable after before member
  · intro bpn behind held
    rw [listed]
    exact exists_record_of_held listable behind (held read (Nat.le_of_lt after) before)
  · intro unwritten
    rw [listed, run.records_eq (PagedStore.sound_of_listable listable) (Nat.le_of_lt after)
      fun step from_ until_ => unwritten step from_ (Nat.lt_trans until_ before)]

/-- A page and a listing of what follows on it are a listing. -/
theorem cons {rest : List Fetch} {final : Record} (listable : PagedStore.IsListable run.store)
    (after : since < read) (before : read < fetch.returned) (order : fetch.returned ≤ until_)
    (paged : ∃ page, fetch.answer = .page page) (full : fetch.answer.listed.length = size.toNat)
    (member : final ∈ fetch.answer.listed)
    (whole : fetch.answer.listed ++ recordsAfter (some final.bpn)
        (recordsAfter start (PagedStore.records (run.node read).store)) =
      recordsAfter start (PagedStore.records (run.node read).store))
    (filled : rest ≠ [])
    (others : run.Lists size.toNat (some final.bpn) fetch.returned until_ rest) :
    run.Lists size.toNat start since until_ (fetch :: rest) := by
  have listed : listing (fetch :: rest) = fetch.answer.listed ++ listing rest := List.flatMap_cons
  have ascending := isAscending_recordsAfter
    (PagedStore.ascending (run.isListable listable read)) start
  have inside : ∀ record ∈ fetch.answer.listed, record ∈ recordsAfter start
      (PagedStore.records (run.node read).store) := by
    intro record inPage
    rw [← whole]
    exact List.mem_append_left _ inPage
  have behind : ∀ key, start = some key → key < final.bpn :=
    (mem_recordsAfter.mp (inside final member)).2
  rw [← whole] at ascending
  rcases List.pairwise_append.mp ascending with ⟨within, _, across⟩
  constructor
  · simpa using ⟨paged, others.paged⟩
  · rw [listed]
    refine List.pairwise_append.mpr ⟨within, others.ascending, ?_⟩
    intro record inPage other later
    have next := (others.shown other later).1 _ rfl
    -- Nothing of a page comes behind its last record, or the rest would have it as well.
    have upTo : record.bpn ≤ final.bpn := by
      apply String.not_lt.mp
      intro beyond
      have again : record ∈ recordsAfter (some final.bpn) _ :=
        mem_recordsAfter.mpr ⟨inside record inPage, fun _ same => Option.some.inj same ▸ beyond⟩
      exact String.lt_irrefl _ (across record inPage record again)
    exact String.not_le.mp fun below => String.not_le.mpr next (String.le_trans below upTo)
  · rw [List.dropLast_cons_of_ne_nil filled]
    simpa using ⟨full, others.full⟩
  · rw [listed]
    intro record member
    rcases List.mem_append.mp member with inPage | later
    · exact shown_of_mem listable after (Nat.lt_of_lt_of_le before order) (inside record inPage)
    · rcases others.shown record later with ⟨next, time, from_, until_, held⟩
      refine ⟨fun key same => String.lt_trans (behind key same) (next _ rfl), time, ?_, until_, held⟩
      exact Nat.lt_trans (Nat.lt_trans after before) from_
  · intro bpn beyond held
    rw [listed]
    have until' := Nat.lt_of_lt_of_le before order
    rcases exists_record_of_held listable beyond (held read (Nat.le_of_lt after) until') with
      ⟨record, there, rfl⟩
    rw [← whole] at there
    rcases List.mem_append.mp there with inPage | later
    · exact ⟨record, List.mem_append_left _ inPage, rfl⟩
    · have since' := Nat.le_of_lt (Nat.lt_trans after before)
      rcases others.complete record.bpn (mem_recordsAfter.mp later).2
        fun time from_ until_ => held time (Nat.le_trans since' from_) until_ with
        ⟨found, inRest, same⟩
      exact ⟨found, List.mem_append_right _ inRest, same⟩
  · intro unwritten
    have sound := PagedStore.sound_of_listable listable
    have toRead := run.records_eq sound (Nat.le_of_lt after)
      fun step from_ until_ => unwritten step from_
        (Nat.lt_trans until_ (Nat.lt_of_lt_of_le before order))
    have toReturned := run.records_eq sound (Nat.le_of_lt before)
      fun step from_ until_ => unwritten step (Nat.le_trans (Nat.le_of_lt after) from_)
        (Nat.lt_of_lt_of_le until_ order)
    have rest := others.whole fun time from_ until_ => unwritten time
      (Nat.le_trans (Nat.le_of_lt (Nat.lt_trans after before)) from_) until_
    rw [listed, rest, toReturned, ← recordsAfter_recordsAfter behind, whole, toRead]

end Lists

theorem Traverses.lists {token start : Option String} {since until_ : Nat}
    {fetches : List Fetch} (traverses : run.Traverses asked token since fetches until_)
    (listable : PagedStore.IsListable run.store) (sized : pageSize run.policy asked = .ok size)
    (positive : 0 < size.toNat) (bounded : size.toNat < 2 ^ 63 - 1)
    (starts : PageToken.start token = .ok start) :
    run.Lists size.toNat start since until_ fetches := by
  induction traverses generalizing start with
  | last made ended =>
      rcases made.cut listable sized bounded starts with ⟨read, after, before, paged⟩
      have ascending := isAscending_recordsAfter
        (PagedStore.ascending (run.isListable listable read)) start
      rw [paged] at ended
      rcases Page.cut_cases positive ascending with ⟨_, whole⟩ | ⟨_, _, more, _⟩
      · exact .last listable after before ⟨_, paged⟩ (paged ▸ whole)
      · cases ended.symm.trans more
  | next made more others ih =>
      rcases made.cut listable sized bounded starts with ⟨read, after, before, paged⟩
      have ascending := isAscending_recordsAfter
        (PagedStore.ascending (run.isListable listable read)) start
      rw [paged] at more
      rcases Page.cut_cases positive ascending with ⟨ended, _⟩ | ⟨final, member, next, full, whole⟩
      · cases more.symm.trans ended
      · cases more.symm.trans next
        have rest := ih (congrArg (Except.map some) (PageToken.decode_encode final.bpn))
        exact .cons listable after before others.le ⟨_, paged⟩ (paged ▸ full) (paged ▸ member)
          (paged ▸ whole) others.ne_nil rest

end Run

/-- Whoever follows the tokens of pages from the first page on until there is none gets
pages, with BPNs in strictly ascending order, every page but the last one full,
everything that is held all the time exactly once, and nothing that was not held in the
meantime, whatever is created, replaced or deleted in between.  If nothing is, the pages
together are all records of the store. -/
theorem listing_among_writes (run : Run S) (listable : PagedStore.IsListable run.store)
    {asked : Option UInt64} {size : UInt64} (sized : pageSize run.policy asked = .ok size)
    (positive : 1 ≤ size.toNat) (bounded : size.toNat < 2 ^ 63 - 1) {fetches : List Fetch}
    {since until_ : Nat} (traverses : run.Traverses asked none since fetches until_) :
    (∀ fetch ∈ fetches, ∃ page, fetch.answer = .page page) ∧
      ((listing fetches).map Record.bpn).Pairwise (· < ·) ∧
      (∀ fetch ∈ fetches.dropLast, fetch.answer.listed.length = size.toNat) ∧
      (∀ bpn, (∀ time, since ≤ time → time < until_ →
          (LawfulStore.held (run.node time).store bpn).isSome = true) →
        ((listing fetches).map Record.bpn).count bpn = 1) ∧
      (∀ record ∈ listing fetches, ∃ time, since < time ∧ time < until_ ∧
        LawfulStore.held (run.node time).store record.bpn = some (.ofRecord record)) ∧
      ((∀ time, since ≤ time → time < until_ → ∀ bpn write,
          ¬ Writes bpn write (run.node time).store (run.node (time + 1)).store) →
        listing fetches = PagedStore.records (run.node since).store) := by
  have lists := traverses.lists listable sized positive bounded rfl
  have ascending : ((listing fetches).map Record.bpn).Pairwise (· < ·) :=
    List.pairwise_map.mpr lists.ascending
  refine ⟨lists.paged, ascending, lists.full, ?_,
    fun record member => (lists.shown record member).2, lists.whole⟩
  intro bpn held
  rcases lists.complete bpn nofun held with ⟨record, member, rfl⟩
  have nodup : ((listing fetches).map Record.bpn).Nodup := by
    refine ascending.imp ?_
    intro first second less same
    exact String.lt_irrefl second (same ▸ less)
  exact List.count_eq_one_of_mem nodup (List.mem_map_of_mem member)

/-- A run in which two BPNs are registered and then listed, one on each page.  After the
first page its BPN is removed and another one registered behind it; after the second
page one is registered before both. -/
def Run.paging : Run Store.Memory where
  policy := ⟨10, 10, 10, ⟨1, 0, 0⟩⟩
  settings := ⟨true, 4, 1, none⟩
  store := .empty
  now := Store.Request.noon
  moves :=
    .start (.register "BPNL00000000000A" "did:web:first") :: List.replicate 5 (.advance 0) ++
    .start (.register "BPNL00000000000C" "did:web:third") :: List.replicate 5 (.advance 1) ++
    .start (.list none (some 1)) :: List.replicate 2 (.advance 2) ++
    .start (.remove "BPNL00000000000A" 1) :: List.replicate 5 (.advance 3) ++
    .start (.register "BPNL00000000000B" "did:web:second") :: List.replicate 5 (.advance 4) ++
    .start (.list (some "QlBOTDAwMDAwMDAwMDAwQQ") (some 1)) :: List.replicate 2 (.advance 5) ++
    .start (.register "BPNL000000000009" "did:web:early") :: List.replicate 5 (.advance 6) ++
    .start (.list (some "QlBOTDAwMDAwMDAwMDAwQg") (some 1)) :: List.replicate 2 (.advance 7)

def Run.pagingRecord (bpn did : String) : Record :=
  ⟨bpn, did, 1, Store.Request.noon, Store.Request.noon⟩

def Fetch.first : Fetch :=
  ⟨2, none, .page ⟨[Run.pagingRecord "BPNL00000000000A" "did:web:first"],
    some "QlBOTDAwMDAwMDAwMDAwQQ"⟩, 15⟩

def Fetch.second : Fetch :=
  ⟨5, some "QlBOTDAwMDAwMDAwMDAwQQ",
    .page ⟨[Run.pagingRecord "BPNL00000000000B" "did:web:second"],
      some "QlBOTDAwMDAwMDAwMDAwQg"⟩, 30⟩

def Fetch.third : Fetch :=
  ⟨7, some "QlBOTDAwMDAwMDAwMDAwQg",
    .page ⟨[Run.pagingRecord "BPNL00000000000C" "did:web:third"], none⟩, 39⟩

theorem Run.traverses_paging :
    Run.paging.Traverses (some 1) none 12 [.first, .second, .third] 39 := by
  have first : Fetch.first.IsMade Run.paging (some 1) 12 := ⟨by decide +kernel, by decide +kernel⟩
  have second : Fetch.second.IsMade Run.paging (some 1) 15 :=
    ⟨by decide +kernel, by decide +kernel⟩
  have third : Fetch.third.IsMade Run.paging (some 1) 30 := ⟨by decide +kernel, by decide +kernel⟩
  exact .next first rfl (.next second rfl (.last third rfl))

theorem listing_among_writes_paging :
    Run.paging.Traverses (some 1) none 12 [.first, .second, .third] 39 ∧
      (∀ time, 12 ≤ time → time < 39 →
        (LawfulStore.held (Run.paging.node time).store "BPNL00000000000C").isSome = true) ∧
      ((listing [.first, .second, .third]).map Record.bpn).count "BPNL00000000000C" = 1 := by
  have held : ∀ time, 12 ≤ time → time < 39 →
      (LawfulStore.held (Run.paging.node time).store "BPNL00000000000C").isSome = true := by
    have all : ∀ time < 39, 12 ≤ time →
        (LawfulStore.held (Run.paging.node time).store "BPNL00000000000C").isSome = true := by
      decide +kernel
    exact fun time from_ until_ => all time until_ from_
  rcases listing_among_writes Run.paging Store.Memory.isSound_empty
    (rfl : pageSize Run.paging.policy (some 1) = .ok 1) (by decide) (by decide)
    Run.traverses_paging with ⟨_, _, _, once, _, _⟩
  exact ⟨Run.traverses_paging, held, once _ held⟩

end Resolver
end BpnDirectory
