import BpnDirectory.Proofs.Resolver.Attempts

namespace BpnDirectory
namespace Resolver

/-!
A node's own changes between two polls.

A node follows its own changes so that the next poll does not drop everything for them.
It does so one number at a time: a change that comes to follow its commit before the one
with the number below it did is not followed, and neither is any after it.  So the next
poll keeps the cache if the changes are answered in the order of their commits, and only
then.  Calls that overlap need not keep to that order.
-/

open Program (Follows FollowsUnless Yields)
open Store (CountedStore Exchange LawfulStore MappingStore Reply Request)

variable {S : Type} [MappingStore S]

/-! ## The steps of a poll -/

/-- Whether a step leaves the cache. -/
def Node.KeepsCache (before after : Node S) : Prop := after.cache = before.cache

omit [MappingStore S] in
theorem followsUnless_conclude (version previous : Int) :
    FollowsUnless Node.KeepsCache (fun outcome => outcome = .ok true)
      (conclude version previous : Operation S Bool).run := by
  unfold conclude
  split
  · trivial
  · refine Yields.followsUnless (Yields.bind succeeds_clearCache ?_)
    rintro _ ⟨_, rfl⟩
    exact fun _ => rfl

/-- A poll leaves the cache unless it is to tell of a change. -/
theorem followsUnless_poll (policy : Policy) :
    FollowsUnless Node.KeepsCache (fun answer => answer = .changed true)
      (Command.program policy .poll : Program (Node S) Answer) := by
  have asks : Follows Node.KeepsCache
      (request policy "directory_version"
        (fun _ => MappingStore.directoryVersion) : Operation S Int).run :=
    follows_retrying (fun _ => rfl : ∀ node : Node S, node.KeepsCache _) (fun _ _ => rfl)
      "directory_version" policy.retry.attempts
  have polls : FollowsUnless Node.KeepsCache (fun outcome => outcome = .ok true)
      (poll policy : Operation S Bool).run := by
    have reads : FollowsUnless Node.KeepsCache (fun _ => False) _ := asks.followsUnless
    refine reads.bind (fun _ absurdity => absurdity.elim) ?_
    intro outcome
    cases outcome with
    | error failure => trivial
    | ok version =>
        exact fun _ => ⟨Or.inl rfl, fun _ => ⟨Or.inl rfl, followsUnless_conclude version _⟩⟩
  refine polls.bind ?_ fun _ => trivial
  rintro _ rfl
  rfl

/-! ## Changes from their commits to their answers -/

omit [MappingStore S] in
theorem observed_followCommit {version : Int} {node : Node S} (behind : node.observed = version - 1) :
    (node.followCommit version).observed = version := by
  unfold Node.followCommit
  rw [if_pos behind]

omit [MappingStore S] in
/-- What a call does besides what all of them do leaves the store. -/
theorem Command.Also.store_eq {command : Command} {before after : Node S}
    (also : command.Also before after) : after.store = before.store := by
  cases command with
  | resolve | resolveBatch =>
      rcases also with ⟨_, _, _, rfl⟩
      rfl
  | register | rotate | remove | registerBatch =>
      rcases also with ⟨version, rfl⟩
      exact store_followCommit version before
  | dump =>
      rcases also with ⟨_, _, rfl⟩
      rfl
  | poll =>
      rcases also with ⟨_, rfl⟩
      rfl
  | _ => exact also.elim

omit [MappingStore S] in
/-- How a change whose commit had a number goes on after it. -/
theorem Command.EndsAfter.followsUp {request : Request} {reply : Reply} {version : Int}
    {program : Program (Node S) Answer} (ends : Command.EndsAfter reply program)
    (reported : Exchange.version? ⟨request, reply⟩ = some version) :
    ∃ value, FollowsUp version value program := by
  generalize same : Exchange.mk request reply = exchange at reported
  unfold Exchange.version? at reported
  split at reported <;> cases reported <;> cases same <;> exact ⟨_, ends⟩

namespace Run

variable {run : Run S} {index time : Nat}

/-- Whether a call on the node makes a change at a time, and which number that has. -/
def IsOwnChange (run : Run S) (index committed : Nat) (version : Int) : Prop :=
  run.IsStepAt index .store committed ∧ Reports run.node committed version

def IsAnswered (run : Run S) (index time : Nat) : Prop :=
  ((run.traffic time).answer? index).isSome = true

/-- Whether a call follows a change with its last step. -/
structure FollowsAt (run : Run S) (index : Nat) (version : Int) (step : Nat) : Prop where
  own : run.IsStepAt index .node step
  moved : run.node (step + 1) = (run.node step).followCommit version
  answered : ∀ time, run.IsAnswered index time ↔ step < time

theorem IsAnswered.lt {step : Nat} {reach : Reach} (answered : run.IsAnswered index time)
    (own : run.IsStepAt index reach step) : step < time := by
  rcases Option.isSome_iff_exists.mp answered with ⟨⟨command, answer⟩, same⟩
  exact own.lt same

/-- A call follows its change with one step. -/
theorem FollowsAt.unique {version other : Int} {step again : Nat}
    (follows : run.FollowsAt index version step) (also : run.FollowsAt index other again) :
    step = again := by
  have first := (also.answered _).mp ((follows.answered _).mpr (Nat.lt_succ_self step))
  have second := (follows.answered _).mp ((also.answered _).mpr (Nat.lt_succ_self again))
  exact Nat.le_antisymm (Nat.le_of_lt_succ second) (Nat.le_of_lt_succ first)

theorem isAnswered_of_done {command : Command} {answer : Answer} {earlier : Nat}
    (listed : (run.traffic earlier).tasks[index]? = some ⟨command, .done answer⟩)
    (before : earlier ≤ time) : run.IsAnswered index time := by
  unfold IsAnswered Traffic.answer?
  rw [listed_of_done listed before]
  rfl

/-- A call that was answered stays so. -/
theorem IsAnswered.mono {earlier : Nat} (answered : run.IsAnswered index earlier)
    (before : earlier ≤ time) : run.IsAnswered index time := by
  rcases Option.isSome_iff_exists.mp answered with ⟨⟨command, answer⟩, same⟩
  exact isAnswered_of_done (listed_of_answered same) before

section

variable [CountedStore S] {committed : Nat} {version : Int}

/-- A call that only reads makes no change. -/
theorem count_of_reads {command : Command} {program : Program (Node S) Answer}
    (reads : ∀ request, command.Asks request → request.isChange = false)
    (own : run.IsStepOf index time)
    (listed : (run.traffic time).tasks[index]? = some ⟨command, program⟩) :
    CountedStore.count (run.node (time + 1)).store = CountedStore.count (run.node time).store := by
  rcases becomes_of_listed listed with ⟨begun, _, _, became⟩
  have follows := (command.follows run.policy).becomes became
  have does := ruled_of_follows follows (fun _ => .looks) listed (Nat.le_refl time) own
  generalize run.node (time + 1) = after at does
  cases does with
  | @asks request asked =>
      have counts := CountedStore.count_perform request (run.node time).store
      rw [Store.version?_read (reads request asked)] at counts
      exact counts.eq_of_none
  | does also => exact congrArg CountedStore.count also.store_eq
  | _ => rfl

theorem IsOwnChange.count (change : run.IsOwnChange index committed version) :
    version = CountedStore.count (run.node committed).store + 1 ∧
      CountedStore.count (run.node (committed + 1)).store = version :=
  change.2.count

/-- Later changes have greater numbers. -/
theorem IsOwnChange.lt_iff [LawfulStore S] (sound : LawfulStore.IsSound run.store)
    {other later : Nat} {next : Int} (change : run.IsOwnChange index committed version)
    (also : run.IsOwnChange other later next) : committed < later ↔ version < next := by
  have first := change.count
  have second := also.count
  constructor
  · intro before
    have grown := run.count_le sound (Nat.succ_le_of_lt before)
    simp only [Nat.succ_eq_add_one] at grown
    omega
  · intro less
    apply Nat.lt_of_not_le
    intro after
    have grown := run.count_le sound (Nat.succ_le_succ after)
    simp only [Nat.succ_eq_add_one] at grown
    omega

/-- No two calls make changes with the same number. -/
theorem IsOwnChange.index_eq [LawfulStore S] (sound : LawfulStore.IsSound run.store)
    {other later : Nat} (change : run.IsOwnChange index committed version)
    (also : run.IsOwnChange other later version) : index = other := by
  have first := change.lt_iff sound also
  have second := also.lt_iff sound change
  obtain rfl : committed = later := by omega
  have own : run.moves[committed]? = some (.advance index) := change.1.1
  rw [show run.moves[committed]? = some (.advance other) from also.1.1] at own
  cases own
  rfl

/-- A call that makes a change is one that is to. -/
theorem IsOwnChange.exists_request (change : run.IsOwnChange index committed version) :
    ∃ (command : Command) (program : Program (Node S) Answer)
      (request : Time.Instant → Request), (∀ now, command.request? now = some (request now)) ∧
      (run.traffic committed).tasks[index]? = some ⟨command, program⟩ := by
  rcases change.1 with ⟨step, ⟨command, program⟩, listed, _⟩
  rcases command.requests_or_reads with ⟨request, requests⟩ | reads
  · exact ⟨command, program, request, requests, listed⟩
  · -- What only reads does not count.
    have counted := change.count
    have kept := count_of_reads reads step listed
    omega

/-- Whenever there is one change more, someone else made it or a call on the node. -/
theorem changed_of_count_lt
    (grown : CountedStore.count (run.node time).store < CountedStore.count (run.node (time + 1)).store) :
    run.IsForeignChange time ∨
      ∃ index, run.IsOwnChange index time (CountedStore.count (run.node (time + 1)).store) := by
  have moves : (run.node (time + 1)).store ≠ (run.node time).store :=
    fun same => Int.ne_of_gt grown (congrArg CountedStore.count same)
  cases run.event time with
  | other moved => exact absurd (congrArg Node.store moved) moves
  | @foreign request move moved =>
      have counts := CountedStore.count_perform request (run.node time).store
      rw [moved] at grown
      exact Or.inl ⟨request, move, Option.isSome_of_eq_some (counts.eq_some_of_lt grown)⟩
  | @own index command _ _ _ _ _ own listed _ _ _ =>
      rcases command.requests_or_reads with ⟨request, requests⟩ | reads
      · rcases store_or_request requests own.1 listed with same | asks
        · exact absurd same moves
        · have performed := (request_step requests asks listed).2.1
          have counts := CountedStore.count_perform (request (run.node time).now) (run.node time).store
          rw [← performed] at counts
          exact Or.inr ⟨index, asks, _, counts.eq_some_of_lt grown, performed⟩
      · exact absurd (count_of_reads reads own.1 listed) (Int.ne_of_gt grown)

/-- After its commit a call with a change only follows it up. -/
theorem IsOwnChange.followsUp (change : run.IsOwnChange index committed version) :
    ∃ command value left, FollowsUp version value left ∧
      (run.traffic (committed + 1)).tasks[index]? = some ⟨command, left⟩ := by
  rcases change.exists_request with ⟨command, program, request, requests, listed⟩
  rcases request_step requests change.1 listed with ⟨_, performed, left, next, outcome⟩
  have counts := CountedStore.count_perform (request (run.node committed).now)
    (run.node committed).store
  have counted := change.count
  rw [← performed] at counts
  have reported := counts.eq_some_of_lt (by omega)
  rw [counted.2] at reported
  rcases outcome with ⟨failure, failed, _⟩ | ends
  · rw [failed, Store.version?_failed] at reported
    cases reported
  · rcases ends.followsUp reported with ⟨value, follows⟩
    exact ⟨command, value, left, follows, next⟩

/-- A call with a change that was answered has followed it, and touched the version that
the node knows in no other step since its commit. -/
theorem IsOwnChange.exists_followsAt (change : run.IsOwnChange index committed version)
    (answered : run.IsAnswered index time) :
    ∃ step, committed < step ∧ run.FollowsAt index version step ∧
      ∀ other, committed < other → other ≠ step → run.IsStepOf index other →
        (run.node other).KeepsObserved (run.node (other + 1)) := by
  have before := answered.lt change.1
  rcases change.followsUp with ⟨command, value, left, follows, listed⟩
  rcases Option.isSome_iff_exists.mp answered with ⟨⟨asked, answer⟩, same⟩
  rcases turnsAt_of_answered follows listed before same with ⟨step, until_, turned⟩
  refine ⟨step, turned.since, ⟨turned.own, turned.moved, ?_⟩, ?_⟩
  · exact fun time => ⟨fun answered => answered.lt turned.own, isAnswered_of_done turned.left⟩
  · intro other after apart own
    rcases Nat.lt_or_ge other step with earlier | later
    · exact (turned.ruled other after earlier own).1
    · -- A call that is done takes no step.
      rw [(advanced own (listed_of_done turned.left (Nat.lt_of_le_of_ne later apart.symm))).1]
      rfl

end

end Run

/-! ## Two polls and the changes in between -/

/-- Whether, after the reading of one poll, only calls on the node change records until the
next poll: they do so when the first poll is answered, and are answered when the second
one reads the version. -/
structure Run.EncloseOwnChanges (run : Run S) (first second : Poll) : Prop where
  apart : first.returned ≤ second.read
  alone : ∀ time, first.read < time → time < second.read → ¬ run.IsForeignChange time
  undisturbed : ∀ poll read version swap, run.Swaps poll read version swap → first.read < swap →
    swap < second.returned → poll = first.index ∨ poll = second.index
  later : ∀ index committed version, run.IsOwnChange index committed version →
    first.read < committed → first.returned ≤ committed
  settled : ∀ index committed version, run.IsOwnChange index committed version →
    first.read < committed → committed < second.returned → run.IsAnswered index second.read

/-- Whether a call makes a change between the readings of two polls, and which number that
has. -/
structure Run.IsChangeBetween (run : Run S) (first second : Poll) (index committed : Nat)
    (version : Int) : Prop where
  change : run.IsOwnChange index committed version
  after : first.read < committed
  before : committed < second.read

/-- Whether the changes between two polls are answered in the order of their commits. -/
def Run.AnswersInOrder (run : Run S) (first second : Poll) : Prop :=
  ∀ former latter earlier later number next,
    run.IsChangeBetween first second former earlier number →
    run.IsChangeBetween first second latter later next → earlier < later →
    ∀ time, run.IsAnswered latter time → run.IsAnswered former time

def Poll.LeavesCache (poll : Poll) (run : Run S) : Prop :=
  ∀ step, run.IsStepOf poll.index step → (run.node (step + 1)).cache = (run.node step).cache

/-! ### Telling them from the moves -/

namespace Run

instance {run : Run S} {index time : Nat} : Decidable (run.IsAnswered index time) :=
  inferInstanceAs (Decidable (_ = true))

variable [CountedStore S]

/-- The calls that make changes in a run, and when. -/
def ownChanges (run : Run S) : List (Nat × Nat) :=
  (List.range run.moves.length).filterMap fun time =>
    match (run.moves[time]? : Option Move) with
    | some (.advance index) =>
      if CountedStore.count (run.node time).store < CountedStore.count (run.node (time + 1)).store
      then some (index, time) else none
    | _ => none

variable {run : Run S}

theorem IsOwnChange.mem_ownChanges {index committed : Nat} {version : Int}
    (change : run.IsOwnChange index committed version) : (index, committed) ∈ run.ownChanges := by
  have moved : run.moves[committed]? = some (.advance index) := change.1.1
  have bound := (List.getElem?_eq_some_iff.mp moved).1
  have counted := change.count
  refine List.mem_filterMap.mpr ⟨committed, List.mem_range.mpr bound, ?_⟩
  simp only [moved]
  exact if_pos (by omega)

/-- Whether two polls enclose the changes on a node can be told from who reads and who
changes, if nobody else calls on the store. -/
theorem encloseOwnChanges_of_lists {first second : Poll} (apart : first.returned ≤ second.read)
    (alone : ∀ request, .foreign request ∉ run.moves)
    (readings : ∀ each ∈ run.readings, each.1 = first.index ∨ each.1 = second.index)
    (changes : ∀ each ∈ run.ownChanges,
      first.returned ≤ each.2 ∧ run.IsAnswered each.1 second.read) :
    run.EncloseOwnChanges first second where
  apart := apart
  alone := by
    rintro time _ _ ⟨request, move, _⟩
    exact alone request (List.mem_of_getElem? move)
  undisturbed := fun _ _ _ _ swaps _ _ => readings _ swaps.reads.mem_readings
  later := fun _ _ _ change _ => (changes _ change.mem_ownChanges).1
  settled := fun _ _ _ change _ _ => (changes _ change.mem_ownChanges).2

end Run

/-! ### What happens in between -/

/-- The steps by which two polls with changes in between take over what they read. -/
structure Run.Between (run : Run S) (first second : Poll) (swap taken : Nat) : Prop where
  encloses : run.EncloseOwnChanges first second
  swaps : run.SwapsOnce first.index first.read first.version swap
  swapped : swap < first.returned
  takes : run.SwapsOnce second.index second.read second.version taken
  takenBy : taken < second.returned

namespace Run.Between

variable {run : Run S} {first second : Poll} {swap taken index committed time later : Nat}
  {version : Int}

theorem swapped_lt (between : run.Between first second swap taken) : swap < second.read :=
  Nat.lt_of_lt_of_le between.swapped between.encloses.apart

variable [LawfulStore S] [CountedStore S]

/-- A change with a number that the first poll did not read is made after its reading, and
before that of the second one. -/
theorem isChangeBetween (between : run.Between first second swap taken)
    (sound : LawfulStore.IsSound run.store) (change : run.IsOwnChange index committed version)
    (new : first.version < version) (before : committed < taken) :
    run.IsChangeBetween first second index committed version := by
  have after : first.read < committed := by
    apply Nat.lt_of_not_le
    intro early
    rcases Nat.lt_or_eq_of_le early with earlier | rfl
    · have grown := run.count_le sound (Nat.succ_le_of_lt earlier)
      have known := between.swaps.version_eq
      have counted := change.count
      simp only [Nat.succ_eq_add_one] at grown
      omega
    · -- The first poll reads, so the step is not one with a change.
      rcases change.exists_request with ⟨command, _, request, requests, listed⟩
      rcases between.swaps.reads.isPoll with ⟨program, isPoll⟩
      have own : run.moves[first.read]? = some (.advance index) := change.1.1
      rw [show run.moves[first.read]? = some (.advance first.index) from
        between.swaps.reads.own.1] at own
      cases own
      cases listed.symm.trans isPoll
      cases requests Store.Request.noon
  have until_ : committed < second.returned := Nat.lt_trans before between.takenBy
  have answered := between.encloses.settled index committed version change after until_
  exact ⟨change, after, answered.lt change.1⟩

omit [LawfulStore S] in
/-- A call with a change between two polls follows it before the second one reads. -/
theorem exists_followsAt (between : run.Between first second swap taken)
    (change : run.IsChangeBetween first second index committed version) :
    ∃ step, swap < step ∧ step < second.read ∧ run.FollowsAt index version step := by
  have since := between.encloses.later index committed version change.change change.after
  have until_ : committed < second.returned :=
    Nat.lt_trans change.before (Nat.lt_trans between.takes.later between.takenBy)
  have answered := between.encloses.settled index committed version change.change change.after until_
  rcases change.change.exists_followsAt answered with ⟨step, after, follows, _⟩
  have swapped := between.swapped
  exact ⟨step, by omega, answered.lt follows.own, follows⟩

/-- The number of a change between two polls lies between what they read. -/
theorem version_bounds (between : run.Between first second swap taken)
    (sound : LawfulStore.IsSound run.store)
    (change : run.IsChangeBetween first second index committed version) :
    first.version < version ∧ version ≤ second.version := by
  have known := between.swaps.version_eq
  have read := between.takes.version_eq
  have counted := change.change.count
  have low := run.count_le sound (Nat.le_of_lt change.after)
  have high := run.count_le sound (Nat.succ_le_of_lt change.before)
  simp only [Nat.succ_eq_add_one] at high
  omega

/-- While two polls do not take over what they read, a step leaves the version that the node
knows, or takes it on by one as a call follows its change. -/
theorem follows_or_keeps (between : run.Between first second swap taken)
    (sound : LawfulStore.IsSound run.store) (after : swap < time) (before : time < taken)
    (low : first.version ≤ (run.node time).observed) :
    (run.node time).KeepsObserved (run.node (time + 1)) ∨ ∃ index committed version,
      run.IsChangeBetween first second index committed version ∧ run.FollowsAt index version time ∧
      (run.node time).observed = version - 1 ∧ (run.node (time + 1)).observed = version := by
  rcases run.observed_cases time with kept | ⟨index, step, follows⟩ | ⟨poll, read, version, swaps, _⟩
  · exact Or.inl kept
  · rcases follows with ⟨committed, version, since, own, reports, behind, reached⟩
    have new : first.version < version := by omega
    have change := between.isChangeBetween sound ⟨own, reports⟩ new (Nat.lt_trans since before)
    have until_ : committed < second.returned :=
      Nat.lt_trans since (Nat.lt_trans before between.takenBy)
    have answered := between.encloses.settled index committed version change.change change.after until_
    rcases change.change.exists_followsAt answered with ⟨last, _, followsAt, only⟩
    by_cases same : time = last
    · subst same
      exact Or.inr ⟨index, committed, version, change, followsAt, behind, reached⟩
    · exact Or.inl (only time since same step)
  · have disturbs := between.encloses.undisturbed poll read version time swaps
      (Nat.lt_trans between.swaps.later after) (Nat.lt_trans before between.takenBy)
    rcases disturbs with rfl | rfl
    · exact Or.inl (between.swaps.once time (Nat.lt_trans between.swaps.later after) (Nat.ne_of_gt after)
        swaps.own.1)
    · have since : second.read < time :=
        Nat.lt_of_le_of_lt (swaps.reads.le between.takes.reads) swaps.later
      exact Or.inl (between.takes.once time since (Nat.ne_of_lt before) swaps.own.1)

/-- While two polls do not take over what they read, the node knows a version between. -/
theorem bounds (between : run.Between first second swap taken)
    (sound : LawfulStore.IsSound run.store) (after : swap < time) (before : time ≤ taken) :
    first.version ≤ (run.node time).observed ∧ (run.node time).observed ≤ second.version := by
  induction after with
  | refl =>
      have known := between.swaps.version_eq
      have read := between.takes.version_eq
      have reading : first.read ≤ second.read :=
        Nat.le_of_lt (Nat.lt_trans between.swaps.later between.swapped_lt)
      have grown := run.count_le sound reading
      rw [between.swaps.observed_eq]
      omega
  | @step time after ih =>
      change _ ≤ (run.node (time + 1)).observed ∧ (run.node (time + 1)).observed ≤ _
      rcases ih (Nat.le_of_lt before) with ⟨low, high⟩
      rcases between.follows_or_keeps sound after before low with kept | follows
      · unfold Node.KeepsObserved at kept
        omega
      · rcases follows with ⟨_, _, version, change, _, behind, reached⟩
        have bounds := between.version_bounds sound change
        omega

theorem observed_mono (between : run.Between first second swap taken)
    (sound : LawfulStore.IsSound run.store) (after : swap < time) (order : time ≤ later)
    (before : later ≤ taken) : (run.node time).observed ≤ (run.node later).observed := by
  induction order with
  | refl => exact Int.le_refl _
  | @step later order ih =>
      have since : swap < later := Nat.lt_of_lt_of_le after order
      have low := (between.bounds sound since (Nat.le_of_lt before)).1
      have grown := ih (Nat.le_of_lt before)
      change _ ≤ (run.node (later + 1)).observed
      rcases between.follows_or_keeps sound since before low with kept | follows
      · unfold Node.KeepsObserved at kept
        omega
      · rcases follows with ⟨_, _, version, _, _, behind, reached⟩
        omega

/-- To get to a version a node follows the change with its number. -/
theorem exists_reaching (between : run.Between first second swap taken)
    (sound : LawfulStore.IsSound run.store) (after : swap < time) (order : time ≤ later)
    (before : later ≤ taken) (lacks : (run.node time).observed < version)
    (knows : version ≤ (run.node later).observed) :
    ∃ step index committed, time ≤ step ∧ step < later ∧
      run.IsChangeBetween first second index committed version ∧ run.FollowsAt index version step ∧
      (run.node step).observed = version - 1 ∧ (run.node (step + 1)).observed = version := by
  rcases Course.exists_crossing (fun step => version ≤ (run.node step).observed) order
    (Int.not_le.mpr lacks) knows with ⟨step, from_, until_, below, reached⟩
  have since : swap < step := Nat.lt_of_lt_of_le after from_
  have low := (between.bounds sound since (Nat.le_of_lt (Nat.lt_of_lt_of_le until_ before))).1
  rcases between.follows_or_keeps sound since (Nat.lt_of_lt_of_le until_ before) low with
    kept | ⟨index, committed, number, change, follows, behind, next⟩
  · unfold Node.KeepsObserved at kept
    omega
  · obtain rfl : number = version := by omega
    exact ⟨step, index, committed, from_, until_, change, follows, behind, next⟩

/-- Every number between what two polls read is that of a change on the node. -/
theorem exists_change (between : run.Between first second swap taken)
    (sound : LawfulStore.IsSound run.store) (new : first.version < version)
    (read : version ≤ second.version) :
    ∃ index committed, run.IsChangeBetween first second index committed version := by
  rw [between.swaps.version_eq] at new
  rw [between.takes.version_eq] at read
  have reading : first.read ≤ second.read :=
    Nat.le_of_lt (Nat.lt_trans between.swaps.later between.swapped_lt)
  rcases Course.exists_crossing (fun step => version ≤ CountedStore.count (run.node step).store)
    reading (Int.not_le.mpr new) read with ⟨committed, from_, until_, below, reached⟩
  rcases changed_of_count_lt (Int.lt_of_lt_of_le (Int.not_le.mp below) reached) with
    foreign | ⟨index, change⟩
  · rcases Nat.lt_or_eq_of_le from_ with after | rfl
    · exact absurd foreign (between.encloses.alone committed after until_)
    · -- The first poll reads at that time.
      rcases foreign with ⟨request, move, _⟩
      rw [show run.moves[first.read]? = some (.advance first.index) from
        between.swaps.reads.own.1] at move
      cases move
  · have counted := change.count
    obtain rfl : CountedStore.count (run.node (committed + 1)).store = version := by omega
    rw [← between.swaps.version_eq] at new
    exact ⟨index, committed, between.isChangeBetween sound change new
      (Nat.lt_trans until_ between.takes.later)⟩

/-! ### The order of the answers -/

/-- If the changes are answered in the order of their commits, the node knows all of them
when the second poll takes over. -/
theorem knows_of_answersInOrder (between : run.Between first second swap taken)
    (sound : LawfulStore.IsSound run.store) (ordered : run.AnswersInOrder first second) :
    (run.node taken).observed = second.version := by
  have swapped : swap < taken := Nat.lt_trans between.swapped_lt between.takes.later
  rcases between.bounds sound swapped (Nat.le_refl taken) with ⟨low, high⟩
  by_contra apart
  -- The change with the lowest number that the node does not know.
  obtain ⟨latter, later, change⟩ : ∃ index committed,
      run.IsChangeBetween first second index committed ((run.node taken).observed + 1) :=
    between.exists_change sound (by omega) (by omega)
  rcases between.exists_followsAt change with ⟨missed, after, before, follows⟩
  have until_ : missed < taken := Nat.lt_trans before between.takes.later
  have known := between.observed_mono sound after (Nat.le_of_lt until_) (Nat.le_refl taken)
  have next := between.observed_mono sound (Nat.lt_succ_of_lt after) until_ (Nat.le_refl taken)
  simp only [Nat.succ_eq_add_one] at next
  have moved := congrArg Node.observed follows.moved
  have behind : (run.node missed).observed < (run.node taken).observed := by
    refine Int.lt_iff_le_and_ne.mpr ⟨known, ?_⟩
    intro same
    rw [observed_followCommit (by omega)] at moved
    omega
  -- So the change before it is followed only later, though it was answered earlier.
  rcases between.exists_reaching sound after (Nat.le_of_lt until_) (Nat.le_refl taken) behind
    (Int.le_refl _) with ⟨step, former, earlier, from_, _, change', follows', below, reached⟩
  have order := (change'.change.lt_iff sound change.change).mpr (Int.lt_succ _)
  have answered := ordered former latter earlier later _ _ change' change order (missed + 1)
    ((follows.answered _).mpr (Nat.lt_succ_self missed))
  obtain rfl : step = missed :=
    Nat.le_antisymm (Nat.le_of_lt_succ ((follows'.answered _).mp answered)) from_
  rcases followCommit_cases ((run.node taken).observed + 1) (run.node step) with kept | ⟨same, _⟩
  · unfold Node.KeepsObserved at kept
    omega
  · omega

/-- If the node knows all changes when the second poll takes over, each was followed from the
number below it. -/
theorem observed_of_knows (between : run.Between first second swap taken)
    (sound : LawfulStore.IsSound run.store) (knows : (run.node taken).observed = second.version)
    (change : run.IsChangeBetween first second index committed version) {step : Nat}
    (follows : run.FollowsAt index version step) :
    (run.node step).observed = version - 1 ∧ (run.node (step + 1)).observed = version := by
  have swapped : swap < taken := Nat.lt_trans between.swapped_lt between.takes.later
  rcases between.version_bounds sound change with ⟨new, read⟩
  rcases between.exists_reaching sound (Nat.lt_succ_self swap) swapped (Nat.le_refl taken)
    (between.swaps.observed_eq ▸ new) (knows ▸ read) with
    ⟨_, other, _, _, _, also, follows', behind, reached⟩
  cases change.change.index_eq sound also.change
  cases follows.unique follows'
  exact ⟨behind, reached⟩

theorem answersInOrder_of_knows (between : run.Between first second swap taken)
    (sound : LawfulStore.IsSound run.store) (knows : (run.node taken).observed = second.version) :
    run.AnswersInOrder first second := by
  intro former latter earlier later number next change change' order time answered
  rcases between.exists_followsAt change with ⟨step, _, before, follows⟩
  rcases between.exists_followsAt change' with ⟨step', after, _, follows'⟩
  have reached := (between.observed_of_knows sound knows change follows).1
  have reached' := (between.observed_of_knows sound knows change' follows').2
  have less := (change.change.lt_iff sound change'.change).mp order
  refine (follows.answered time).mpr (Nat.lt_of_le_of_lt ?_ ((follows'.answered time).mp answered))
  apply Nat.le_of_not_lt
  intro overtaken
  have until_ : step ≤ taken := Nat.le_of_lt (Nat.lt_trans before between.takes.later)
  have grown := between.observed_mono sound (Nat.lt_succ_of_lt after) overtaken until_
  simp only [Nat.succ_eq_add_one] at grown
  omega

end Run.Between

/-! ## What the second poll does -/

theorem Poll.IsMade.between {run : Run S} {first second : Poll} (former : first.IsMade run)
    (latter : second.IsMade run) (encloses : run.EncloseOwnChanges first second) :
    ∃ swap taken, run.Between first second swap taken ∧
      run.IsToConclude second.index second.version taken := by
  rcases former.reads.exists_swap former.answered with ⟨swap, swapped, swaps, _⟩
  rcases latter.reads.exists_swap latter.answered with ⟨taken, takenBy, takes, left⟩
  exact ⟨swap, taken, ⟨encloses, swaps, swapped, takes, takenBy⟩, left⟩

/-- If between two polls only calls on the node change records, the second one leaves the
cache as it is if these calls are answered in the order of their commits.  Otherwise it makes
the node let go of everything. -/
theorem poll_keeps_in_order (run : Run S) [LawfulStore S] [CountedStore S]
    (sound : LawfulStore.IsSound run.store) (nonneg : 0 ≤ CountedStore.count run.store)
    {first second : Poll} (former : first.IsMade run) (latter : second.IsMade run)
    (encloses : run.EncloseOwnChanges first second) :
    (run.AnswersInOrder first second → second.answer = .changed false ∧ second.LeavesCache run) ∧
      (¬ run.AnswersInOrder first second → second.answer = .changed true ∧ second.LetsGo run) := by
  rcases former.between latter encloses with ⟨swap, taken, between, left⟩
  have observed := Run.observed_nonneg sound nonneg between.swaps.toSwaps
    (Nat.lt_trans between.swapped_lt between.takes.later)
  rcases left.concludes between.takenBy latter.answered with
    ⟨known, answer⟩ | ⟨_, unknown, answer, empties⟩
  · have knows : (run.node taken).observed = second.version := by
      refine known.resolve_left ?_
      unfold unobserved
      omega
    refine ⟨fun _ => ⟨answer, ?_⟩, fun disordered => ?_⟩
    · intro step own
      refine Run.ruled_of_answered (followsUnless_poll run.policy) (fun _ => rfl) latter.answered ?_ own
      rw [answer]
      exact nofun
    · exact absurd (between.answersInOrder_of_knows sound knows) disordered
  · refine ⟨fun ordered => ?_, fun _ => ⟨answer, ?_⟩⟩
    · exact absurd (between.knows_of_answersInOrder sound ordered) unknown
    · exact Poll.letsGo_of_empties sound (Nat.lt_succ_of_lt between.takes.later) empties

/-- A run with two registrations that overlap between two polls, and are answered in the order
of their commits. -/
def Run.abreast : Run Store.Memory where
  policy := ⟨10, 10, 10, ⟨1, 0, 0⟩⟩
  settings := ⟨true, 4, 1, none⟩
  store := .empty
  now := Store.Request.noon
  moves :=
    .start .poll :: List.replicate 4 (.advance 0) ++
    .start (.register "BPNL00000000000A" "did:web:first") :: .advance 1 ::
    .start (.register "BPNL00000000000B" "did:web:other") :: .advance 2 ::
    List.replicate 4 (.advance 1) ++ List.replicate 4 (.advance 2) ++
    .start .poll :: List.replicate 4 (.advance 3)

def Poll.abreast : Poll := ⟨3, 18, 2, .changed false, 22⟩

theorem abreast_kept :
    Poll.before.IsMade Run.abreast ∧ Poll.abreast.IsMade Run.abreast ∧
      Run.abreast.EncloseOwnChanges .before .abreast ∧
      Run.abreast.AnswersInOrder .before .abreast ∧
      Poll.abreast.answer = .changed false ∧ Poll.abreast.LeavesCache Run.abreast := by
  have former : Poll.before.IsMade Run.abreast := ⟨by decide +kernel, by decide +kernel⟩
  have latter : Poll.abreast.IsMade Run.abreast := ⟨by decide +kernel, by decide +kernel⟩
  have encloses : Run.abreast.EncloseOwnChanges .before .abreast :=
    Run.encloseOwnChanges_of_lists (by decide) (by simp [Run.abreast]) (by decide +kernel)
      (by decide +kernel)
  have changes : Run.abreast.ownChanges = [(1, 6), (2, 8)] := by decide +kernel
  have ordered : Run.abreast.AnswersInOrder .before .abreast := by
    intro former latter earlier later number next change change' order time answered
    have first := change.change.mem_ownChanges
    have second := change'.change.mem_ownChanges
    simp only [changes, List.mem_cons, Prod.mk.injEq, List.not_mem_nil, or_false] at first second
    obtain ⟨rfl, rfl⟩ : former = 1 ∧ latter = 2 := by omega
    have own : Run.abreast.IsStepAt 2 .node 16 := by decide +kernel
    have late : 16 < time := answered.lt own
    have done : Run.abreast.IsAnswered 1 13 := by decide +kernel
    exact done.mono (by omega)
  refine ⟨former, latter, encloses, ordered, ?_⟩
  exact (poll_keeps_in_order Run.abreast Store.Memory.isSound_empty (by decide) former latter
    encloses).1 ordered

/-- A run with two registrations that overlap between two polls.  The one that is committed
first is answered last. -/
def Run.crossed : Run Store.Memory where
  policy := ⟨10, 10, 10, ⟨1, 0, 0⟩⟩
  settings := ⟨true, 4, 1, none⟩
  store := .empty
  now := Store.Request.noon
  moves :=
    .start .poll :: List.replicate 4 (.advance 0) ++
    .start (.register "BPNL00000000000A" "did:web:first") :: .advance 1 ::
    .start (.register "BPNL00000000000B" "did:web:other") :: List.replicate 5 (.advance 2) ++
    List.replicate 4 (.advance 1) ++
    .start .poll :: List.replicate 8 (.advance 3)

def Poll.crossed : Poll := ⟨3, 18, 2, .changed true, 26⟩

/-- Without regard to the order of the answers a node may drop everything for changes of its
own, though nobody else writes to the store. -/
theorem not_poll_keeps :
    ¬ ∀ (run : Run Store.Memory) (first second : Poll), LawfulStore.IsSound run.store →
      0 ≤ CountedStore.count run.store → (∀ request, .foreign request ∉ run.moves) →
      first.IsMade run → second.IsMade run → run.EncloseOwnChanges first second →
      second.answer = .changed false ∧ second.LeavesCache run := by
  intro always
  have alone : ∀ request, Move.foreign request ∉ Run.crossed.moves := by
    simp [Run.crossed]
  have encloses : Run.crossed.EncloseOwnChanges .before .crossed :=
    Run.encloseOwnChanges_of_lists (by decide) alone (by decide +kernel) (by decide +kernel)
  have kept := always Run.crossed .before .crossed Store.Memory.isSound_empty (by decide) alone
    ⟨by decide +kernel, by decide +kernel⟩ ⟨by decide +kernel, by decide +kernel⟩ encloses
  exact absurd kept.1 (by decide)

end Resolver
end BpnDirectory
