import BpnDirectory.Proofs.Resolver.Polls
import BpnDirectory.Proofs.Store.Counted

namespace BpnDirectory
namespace Resolver

/-!
The directory version that a node knows.

It changes in two ways only: a poll sets it to what it read, and a change of the node's
own moves it on by one, to the number of that change.  So from below the number of a
change that someone else made it does not get past that number without a poll that
read the version afterwards.
-/

open Program (Becomes Follows)
open Store (Call CountedStore Exchange LawfulStore MappingStore)

variable {S α : Type} [MappingStore S]

/-- Whether a change was made at a time by a call on the store, and which number it
has. -/
def Reports (state : Nat → Node S) (time : Nat) (version : Int) : Prop :=
  ∃ request : Store.Request,
    Exchange.version? ⟨request, (request.perform (state time).store).1⟩ = some version ∧
    (state (time + 1)).store = (request.perform (state time).store).2

/-- Whether a node moves on in a step to the number of a change that was an own step
before. -/
def FollowsOwn (state : Nat → Node S) (IsOwn : Nat → Prop) (time : Nat) : Prop :=
  ∃ committed version, committed < time ∧ IsOwn committed ∧ Reports state committed version ∧
    (state time).observed = version - 1 ∧ (state (time + 1)).observed = version

/-! ## The steps of changes -/

omit [MappingStore S] in
theorem followCommit_cases (version : Int) (node : Node S) :
    node.KeepsObserved (node.followCommit version) ∨
      node.observed = version - 1 ∧ (node.followCommit version).observed = version := by
  unfold Node.followCommit Node.KeepsObserved
  split
  · next behind => exact Or.inr ⟨behind, rfl⟩
  · exact Or.inl rfl

section

variable {state : Nat → Node S} {IsOwn : Reach → Nat → Prop} {start time : Nat} {γ : Type}
  {reach : Reach} {act : Node S → γ × Node S}

/-- A call that changes records and what its success reports. -/
def ReportsItself (call : Time.Instant → Call S (Committed α)) : Prop :=
  ∀ now store committed, (call now store).1 = .ok committed → ∃ request : Store.Request,
    Exchange.version? ⟨request, (request.perform store).1⟩ = some committed.directoryVersion ∧
    (call now store).2 = (request.perform store).2

/-- A change moves the version that a node knows only after its commit, to follow it. -/
theorem step_of_made {call : Time.Instant → Call S (Committed α)}
    {commit : Operation S (Committed α)} {forgetting : Committed α → Operation S Unit}
    {finish : Committed α → Operation S α}
    {next : γ → Program (Node S) (Except Failure α)} (reports : ReportsItself call)
    (commits : Follows (Node.Does (fun _ => True) Node.KeepsObserved) commit.run)
    (called : ∀ {outcome later}, Becomes state IsOwn commit.run start (.done outcome) later →
      Called state (IsOwn .store) call outcome start later)
    (forgets : ∀ committed,
      Follows (Node.Does (fun _ => True) Node.KeepsObserved) (forgetting committed).run)
    (finishes : ∀ committed, Follows
      (fun before after => after = before.followCommit committed.directoryVersion)
      (finish committed).run)
    (becomes : Becomes state IsOwn
      (do
        let committed ← commit
        forgetting committed
        finish committed : Operation S α).run start (.step reach act next) time)
    (moved : state (time + 1) = (act (state time)).2) :
    (state time).KeepsObserved (state (time + 1)) ∨ FollowsOwn state (IsOwn .store) time := by
  rw [moved]
  rcases Operation.step_of_bind becomes with ⟨_, _, committing⟩ | ⟨committed, middle, made, becomes⟩
  · exact Or.inl ((commits.becomes committing _).1.keepsObserved id)
  · rcases Operation.step_of_bind becomes with ⟨_, _, forgetting⟩ | ⟨_, last, gone, becomes⟩
    · exact Or.inl (((forgets committed).becomes forgetting _).1.keepsObserved id)
    · have follows := ((finishes committed).becomes becomes (state time)).1
      rcases followCommit_cases committed.directoryVersion (state time) with kept | ⟨behind, reached⟩
      · exact Or.inl (follows ▸ kept)
      · right
        rcases called made with ⟨step, _, before, own, result⟩
        rcases reports _ _ _ (congrArg Prod.fst result) with ⟨request, reported, same⟩
        refine ⟨step, committed.directoryVersion, ?_, own, ⟨request, reported, ?_⟩, behind, ?_⟩
        · exact Nat.lt_of_lt_of_le before (Nat.le_trans gone.le becomes.le)
        · exact (congrArg Prod.snd result).symm.trans same
        · rw [moved, follows, reached]

omit [MappingStore S] in
theorem called_of_noteConflict {call : Time.Instant → Call S α} {change : Operation S α}
    {operation : String} {outcome : Except Failure α}
    (called : ∀ {outcome later}, Becomes state IsOwn change.run start (.done outcome) later →
      Called state (IsOwn .store) call outcome start later)
    (becomes : Becomes state IsOwn (noteConflict operation change).run start (.done outcome) time) :
    Called state (IsOwn .store) call outcome start time := by
  rcases Becomes.done_of_bind becomes with ⟨first, middle, changed, noting⟩
  have after := noting.le
  have same : outcome = first := by
    dsimp only at noting
    split at noting
    · rcases Becomes.done_of_step noting with ⟨_, _, _, _, _, last⟩
      cases last.of_done
      rfl
    · cases noting.of_done
      rfl
  exact same ▸ (called changed).mono (Nat.le_refl start) after

omit [MappingStore S] in
theorem follows_followCommit (version : Int) (value : α) :
    Follows (fun before after => after = before.followCommit version)
      (do Operation.change (Node.followCommit version); pure value : Operation S α).run :=
  fun _ => ⟨rfl, trivial⟩

theorem reports_put (bpn did : String) (expected : Option Int) :
    ReportsItself fun now => (MappingStore.put now bpn did expected : Call S _) := by
  intro now store committed put
  refine ⟨.put now bpn did expected, ?_, rfl⟩
  simp only [Store.Request.perform, Store.Request.answered, put, Store.Reply.ofOutcome]
  cases expected <;> rfl

theorem reports_delete (bpn : String) (expected : Int) :
    ReportsItself fun _ => (MappingStore.delete bpn expected : Call S _) := by
  intro now store committed deleted
  refine ⟨.delete bpn expected, ?_, rfl⟩
  simp only [Store.Request.perform, Store.Request.answered, deleted, Store.Reply.ofOutcome]
  rfl

theorem reports_putBatch {batch : List NewMapping} (filled : batch ≠ []) :
    ReportsItself fun now => (MappingStore.putBatch now batch : Call S _) := by
  intro now store committed put
  refine ⟨.putBatch now batch, ?_, rfl⟩
  simp only [Store.Request.perform, Store.Request.answered, put, Store.Reply.ofOutcome]
  cases batch with
  | nil => exact absurd rfl filled
  | cons head rest => rfl

theorem filled_of_checkBatch {policy : Policy} {batch : List NewMapping}
    (passed : checkBatch policy batch = .ok ()) : batch ≠ [] := by
  rintro rfl
  cases passed

/-- Whether a poll takes over in a step the version that it read before. -/
def TakesOver (state : Nat → Node S) (IsOwn : Reach → Nat → Prop) (reach : Reach)
    (left : Program (Node S) Answer) (time : Nat) : Prop :=
  reach = .node ∧ ∃ read version, read < time ∧ IsOwn .store read ∧
    (MappingStore.directoryVersion (state read).store).1 = .ok version ∧
    state (time + 1) = (observe version (state time)).2 ∧
    left = Command.answered .changed (conclude version (state time).observed)

namespace Command

/-- A call that does nothing besides that touches it leaves the version that a node
knows. -/
theorem keepsObserved {policy : Policy} {command : Command} {next : γ → Program (Node S) Answer}
    (becomes : Becomes state IsOwn (command.program policy) start (.step reach act next) time)
    (moved : state (time + 1) = (act (state time)).2)
    (also : ∀ before after : Node S, command.Also before after → before.KeepsObserved after) :
    (state time).KeepsObserved (state (time + 1)) := by
  rw [moved]
  exact ((command.follows policy).becomes becomes (state time)).1.keepsObserved (also _ _)

theorem observed_of_poll {policy : Policy} {next : γ → Program (Node S) Answer}
    (becomes : Becomes state IsOwn (program policy .poll) start (.step reach act next) time)
    (moved : state (time + 1) = (act (state time)).2) :
    (state time).KeepsObserved (state (time + 1)) ∨
      TakesOver state IsOwn reach (next (act (state time)).1) time := by
  rcases step_of_answered becomes with ⟨part, same, becomes⟩
  rcases step_of_poll becomes with keeps | ⟨inside, version, ⟨read, _, before, own, told⟩, takes⟩
  · exact Or.inl (moved ▸ keeps (state time))
  · rcases takes (state time) with ⟨observes, concludes⟩
    refine Or.inr ⟨inside, read, version, before, own, congrArg Prod.fst told, ?_, ?_⟩
    · rw [moved, observes]
    · rw [same, concludes]
      rfl

/-- All that a step of a call may do to the version that a node knows. -/
theorem observed_cases {policy : Policy} (command : Command)
    {next : γ → Program (Node S) Answer}
    (becomes : Becomes state IsOwn (command.program policy) start (.step reach act next) time)
    (moved : state (time + 1) = (act (state time)).2) :
    (state time).KeepsObserved (state (time + 1)) ∨ FollowsOwn state (IsOwn .store) time ∨
      command = .poll ∧ TakesOver state IsOwn reach (next (act (state time)).1) time := by
  cases command with
  | resolve _ | resolveBatch _ =>
      refine Or.inl (keepsObserved becomes moved ?_)
      rintro before _ ⟨key, did, ticket, rfl⟩
      rfl
  | dump =>
      refine Or.inl (keepsObserved becomes moved ?_)
      rintro before _ ⟨generation, dump, rfl⟩
      rfl
  | record | findByDid | list | ping | reconcile | shutdown =>
      exact Or.inl (keepsObserved becomes moved fun _ _ absurdity => absurdity.elim)
  | register bpn did =>
      rcases step_of_answered becomes with ⟨part, _, becomes⟩
      rcases Operation.step_of_check_bind becomes with ⟨_, _, becomes⟩
      rcases Operation.step_of_check_bind becomes with ⟨_, _, becomes⟩
      refine (step_of_made (reports_put bpn did none) ?_ called_of_request ?_ ?_ becomes moved).imp
        id Or.inl
      · exact follows_request (fun now _ => ⟨.put now bpn did none, trivial, rfl⟩) policy "put"
      · exact fun _ => follows_forget bpn
      · exact fun committed => follows_followCommit _ committed.value
  | rotate bpn did expected =>
      rcases step_of_answered becomes with ⟨part, _, becomes⟩
      rcases Operation.step_of_check_bind becomes with ⟨_, _, becomes⟩
      rcases Operation.step_of_check_bind becomes with ⟨_, _, becomes⟩
      refine (step_of_made (reports_put bpn did (some expected)) ?_
        (called_of_noteConflict called_of_request) ?_ ?_ becomes moved).imp id Or.inl
      · exact follows_noteConflict "rotate"
          (follows_request (fun now _ => ⟨.put now bpn did (some expected), trivial, rfl⟩) policy "put")
      · exact fun _ => follows_forget bpn
      · exact fun committed => follows_followCommit _ committed.value
  | remove bpn expected =>
      rcases step_of_answered becomes with ⟨part, _, becomes⟩
      rcases Operation.step_of_check_bind becomes with ⟨_, _, becomes⟩
      refine (step_of_made (reports_delete bpn expected) ?_
        (called_of_noteConflict called_of_request) ?_ ?_ becomes moved).imp id Or.inl
      · exact follows_noteConflict "remove"
          (follows_request (fun _ _ => ⟨.delete bpn expected, trivial, rfl⟩) policy "delete")
      · exact fun _ => follows_forget bpn
      · exact fun _ _ => ⟨rfl, trivial⟩
  | registerBatch batch =>
      rcases step_of_answered becomes with ⟨part, _, becomes⟩
      rcases Operation.step_of_check_bind becomes with ⟨_, passed, becomes⟩
      refine (step_of_made (reports_putBatch (filled_of_checkBatch passed)) ?_ called_of_request
        ?_ ?_ becomes moved).imp id Or.inl
      · exact follows_request (fun now _ => ⟨.putBatch now batch, trivial, rfl⟩) policy "put_batch"
      · exact fun committed => follows_forgetAll _
      · exact fun committed => follows_followCommit _ committed.value
  | poll =>
      rcases observed_of_poll becomes moved with keeps | takes
      · exact Or.inl keeps
      · exact Or.inr (Or.inr ⟨rfl, takes⟩)

end Command

end

/-! ## In a run -/

namespace Run

/-- Whether a poll reads a directory version at a time. -/
structure ReadsVersion (run : Run S) (poll time : Nat) (version : Int) : Prop where
  own : run.IsStepAt poll .store time
  isPoll : ∃ program, (run.traffic time).tasks[poll]? = some ⟨.poll, program⟩
  told : (MappingStore.directoryVersion (run.node time).store).1 = .ok version

theorem readsVersion_iff {run : Run S} {poll time : Nat} {version : Int} :
    run.ReadsVersion poll time version ↔ run.IsStepAt poll .store time ∧
      (run.traffic time).tasks[poll]?.map Task.command = some .poll ∧
      (MappingStore.directoryVersion (run.node time).store).1 = .ok version := by
  constructor
  · rintro ⟨own, ⟨program, listed⟩, told⟩
    exact ⟨own, by rw [listed]; rfl, told⟩
  · rintro ⟨own, named, told⟩
    rcases Option.map_eq_some_iff.mp named with ⟨⟨_, program⟩, listed, rfl⟩
    exact ⟨own, ⟨program, listed⟩, told⟩

instance {run : Run S} {poll time : Nat} {version : Int} :
    Decidable (run.ReadsVersion poll time version) :=
  decidable_of_iff _ readsVersion_iff.symm

/-- The calls that may read the directory version in a run, and when. -/
def readings (run : Run S) : List (Nat × Nat) :=
  (List.range run.moves.length).filterMap fun time =>
    match (run.moves[time]? : Option Move) with
    | some (.advance index) =>
      if run.IsStepAt index .store time ∧
        (run.traffic time).tasks[index]?.map Task.command = some .poll then some (index, time)
      else none
    | _ => none

theorem ReadsVersion.mem_readings {run : Run S} {poll time : Nat} {version : Int}
    (reads : run.ReadsVersion poll time version) : (poll, time) ∈ run.readings := by
  have moved : run.moves[time]? = some (.advance poll) := reads.own.1
  have bound := (List.getElem?_eq_some_iff.mp moved).1
  refine List.mem_filterMap.mpr ⟨time, List.mem_range.mpr bound, ?_⟩
  simp only [moved]
  exact if_pos ⟨reads.own, (readsVersion_iff.mp reads).2.1⟩

/-- Whether a poll takes over at a time the version that it read. -/
structure Swaps (run : Run S) (poll read : Nat) (version : Int) (time : Nat) : Prop where
  reads : run.ReadsVersion poll read version
  later : read < time
  own : run.IsStepAt poll .node time
  moved : run.node (time + 1) = (observe version (run.node time)).2

/-- Whether a poll is left to conclude once it took over a version at a time. -/
def IsToConclude (run : Run S) (poll : Nat) (version : Int) (time : Nat) : Prop :=
  (run.traffic (time + 1)).tasks[poll]? =
    some ⟨.poll, Command.answered .changed (conclude version (run.node time).observed)⟩

/-- Whether someone else changes records at a time. -/
def IsForeignChange (run : Run S) (time : Nat) : Prop :=
  ∃ request, run.moves[time]? = some (.foreign request) ∧
    (Exchange.version? ⟨request, (request.perform (run.node time).store).1⟩).isSome = true

variable {run : Run S} {time : Nat}

/-- All that can happen to the version that a node knows. -/
theorem observed_cases (run : Run S) (time : Nat) :
    (run.node time).KeepsObserved (run.node (time + 1)) ∨
      (∃ index, run.IsStepOf index time ∧ FollowsOwn run.node (run.IsStepAt index .store) time) ∨
      ∃ poll read version, run.Swaps poll read version time ∧ run.IsToConclude poll version time := by
  cases run.event time with
  | other moved => exact Or.inl (by rw [moved]; rfl)
  | foreign _ moved => exact Or.inl (by rw [moved]; rfl)
  | @own index command _ _ reach act next own listed becomes moved left =>
      rcases command.observed_cases becomes moved with kept | follows | ⟨rfl, taken⟩
      · exact Or.inl kept
      · exact Or.inr (Or.inl ⟨index, own.1, follows⟩)
      · rcases taken with ⟨rfl, read, version, before, asked, told, observes, concludes⟩
        rcases asked with ⟨step, task, present, reached⟩
        rcases Run.becomes present (Nat.le_of_lt before) with ⟨program, same, _⟩
        have isPoll : task.command = .poll :=
          congrArg Task.command (Option.some.inj (same.symm.trans listed))
        rw [concludes] at left
        have reads : run.ReadsVersion index read version :=
          ⟨⟨step, task, present, reached⟩, ⟨task.program, by rw [present, ← isPoll]⟩, told⟩
        exact Or.inr (Or.inr ⟨index, read, version, ⟨reads, before, own, observes⟩, left⟩)

end Run

section

variable [LawfulStore S] [CountedStore S] {run : Run S} {time earlier : Nat}

omit [LawfulStore S] in
theorem Reports.count {state : Nat → Node S} {version : Int} (reports : Reports state time version) :
    version = CountedStore.count (state time).store + 1 ∧
      CountedStore.count (state (time + 1)).store = version := by
  rcases reports with ⟨request, reported, same⟩
  rw [same]
  exact Store.count_reported reported

namespace Run

theorem count_le_succ (run : Run S) (sound : LawfulStore.IsSound run.store) (time : Nat) :
    CountedStore.count (run.node time).store ≤ CountedStore.count (run.node (time + 1)).store := by
  have fair := run.isFairUntil sound (fun _ => True) (time + 1) time (Nat.lt_succ_self time)
  rcases fair.store with same | ⟨request, performed⟩
  · exact Int.le_of_eq (congrArg CountedStore.count same).symm
  · have grown := Store.count_le_perform request (run.node time).store
    rw [← performed] at grown
    exact grown

/-- The number of changes never falls. -/
theorem count_le (run : Run S) (sound : LawfulStore.IsSound run.store) (before : earlier ≤ time) :
    CountedStore.count (run.node earlier).store ≤ CountedStore.count (run.node time).store := by
  induction before with
  | refl => exact Int.le_refl _
  | step _ ih => exact Int.le_trans ih (run.count_le_succ sound _)

omit [LawfulStore S] [CountedStore S] in
theorem IsForeignChange.reports (foreign : run.IsForeignChange time) :
    ∃ version, Reports run.node time version ∧
      (run.node time).KeepsObserved (run.node (time + 1)) := by
  rcases foreign with ⟨request, move, changes⟩
  rcases Option.isSome_iff_exists.mp changes with ⟨version, reported⟩
  have node : run.node (time + 1) =
      { run.node time with store := (request.perform (run.node time).store).2 } := by
    have next := run.traffic_succ time
    rw [move] at next
    exact congrArg Traffic.node next
  refine ⟨version, ⟨request, reported, ?_⟩, ?_⟩
  · rw [node]
  · rw [node]
    rfl

/-- The number of a change that someone else made. -/
def numberOf (run : Run S) (changed : Nat) : Int :=
  CountedStore.count (run.node (changed + 1)).store

/-- A change of the node's own never has the number of one that someone else made. -/
theorem ne_numberOf (sound : LawfulStore.IsSound run.store) {changed committed index : Nat}
    {version : Int} (foreign : run.IsForeignChange changed)
    (own : run.IsStepAt index .store committed) (reports : Reports run.node committed version) :
    version ≠ run.numberOf changed := by
  rcases foreign.reports with ⟨number, reported, _⟩
  have counted := reports.count
  have counted' := reported.count
  unfold numberOf
  rcases Nat.lt_trichotomy committed changed with before | rfl | after
  · have grown := run.count_le sound (Nat.succ_le_of_lt before)
    simp only [Nat.succ_eq_add_one] at grown
    omega
  · -- One move is not both.
    rcases foreign with ⟨request, move, _⟩
    have step : run.moves[committed]? = some (.advance index) := own.1
    rw [step] at move
    cases move
  · have grown := run.count_le sound (Nat.succ_le_of_lt after)
    simp only [Nat.succ_eq_add_one] at grown
    omega

omit [LawfulStore S] in
/-- The version that a poll takes over is the number of changes when it read it. -/
theorem Swaps.version_eq {poll read swap : Nat} {version : Int}
    (swaps : run.Swaps poll read version swap) :
    version = CountedStore.count (run.node read).store :=
  CountedStore.directoryVersion_eq swaps.reads.told

omit [LawfulStore S] [CountedStore S] in
theorem Swaps.observed_eq {poll read swap : Nat} {version : Int}
    (swaps : run.Swaps poll read version swap) : (run.node (swap + 1)).observed = version := by
  rw [swaps.moved]
  rfl

/-- A node knows no more changes than there are. -/
theorem observed_le_count (sound : LawfulStore.IsSound run.store)
    (nonneg : 0 ≤ CountedStore.count run.store) (time : Nat) :
    (run.node time).observed ≤ CountedStore.count (run.node time).store := by
  induction time with
  | zero => exact Int.le_trans (by decide : (unobserved : Int) ≤ 0) nonneg
  | succ time ih =>
      have grown := run.count_le_succ sound time
      rcases run.observed_cases time with kept | ⟨index, _, follows⟩ | ⟨poll, read, version, swaps, left⟩
      · unfold Node.KeepsObserved at kept
        omega
      · rcases follows with ⟨committed, version, before, _, reports, _, reached⟩
        have since := run.count_le sound (Nat.succ_le_of_lt before)
        have counted := reports.count
        simp only [Nat.succ_eq_add_one] at since
        omega
      · have since := run.count_le sound (Nat.le_of_lt swaps.later)
        have version := swaps.version_eq
        have reached := swaps.observed_eq
        omega

/-- After its first poll a node knows a version that a store can have. -/
theorem observed_nonneg (sound : LawfulStore.IsSound run.store)
    (nonneg : 0 ≤ CountedStore.count run.store) {poll read swap : Nat} {version : Int}
    (first : run.Swaps poll read version swap) (after : swap < time) :
    0 ≤ (run.node time).observed := by
  have counts : ∀ time, 0 ≤ CountedStore.count (run.node time).store :=
    fun time => Int.le_trans nonneg (run.count_le sound (Nat.zero_le time))
  induction after with
  | refl =>
      rw [first.observed_eq, first.version_eq]
      exact counts read
  | @step time after ih =>
      change 0 ≤ (run.node (time + 1)).observed
      rcases run.observed_cases time with kept | ⟨index, _, follows⟩ | ⟨poll, read, version, swaps, left⟩
      · unfold Node.KeepsObserved at kept
        omega
      · rcases follows with ⟨committed, version, _, _, _, behind, reached⟩
        omega
      · rw [swaps.observed_eq, swaps.version_eq]
        exact counts read

/-- Whether a node knows some version, but not yet a change that someone else made. -/
structure IsBehind (run : Run S) (changed time : Nat) : Prop where
  nonneg : 0 ≤ (run.node time).observed
  lt : (run.node time).observed < run.numberOf changed

/-- Whether a poll takes over a version, read after a change that someone else made,
from one that was behind that change. -/
structure Meets (run : Run S) (changed poll read : Nat) (version : Int) (swap : Nat) : Prop where
  swaps : run.Swaps poll read version swap
  left : run.IsToConclude poll version swap
  after : changed < read
  behind : run.IsBehind changed swap

/-- A version that was read after a change of someone else's is new to a node that is
behind that change. -/
theorem IsBehind.unknown {changed poll read swap : Nat} {version : Int}
    (sound : LawfulStore.IsSound run.store) (behind : run.IsBehind changed swap)
    (swaps : run.Swaps poll read version swap) (after : changed < read) :
    (run.node swap).observed ≠ unobserved ∧ (run.node swap).observed ≠ version := by
  have grown : run.numberOf changed ≤ CountedStore.count (run.node read).store :=
    run.count_le sound after
  have told := swaps.version_eq
  have nonneg := behind.nonneg
  have lt := behind.lt
  unfold unobserved
  omega

/-- From behind a change of someone else's a node does not get past it unless a poll
meets it: changes of its own have other numbers, and the node follows them one by
one. -/
theorem isBehind_succ (sound : LawfulStore.IsSound run.store)
    (nonneg : 0 ≤ CountedStore.count run.store) {changed : Nat}
    (foreign : run.IsForeignChange changed) (behind : run.IsBehind changed time) :
    run.IsBehind changed (time + 1) ∨ ∃ poll read version, run.Meets changed poll read version time := by
  have low := behind.nonneg
  have high := behind.lt
  rcases run.observed_cases time with kept | ⟨index, _, follows⟩ | ⟨poll, read, version, swaps, left⟩
  · unfold Node.KeepsObserved at kept
    exact Or.inl ⟨kept ▸ low, kept ▸ high⟩
  · rcases follows with ⟨committed, version, _, own, reports, before, reached⟩
    have apart := ne_numberOf sound foreign own reports
    refine Or.inl ⟨?_, ?_⟩ <;> omega
  · by_cases after : changed < read
    · exact Or.inr ⟨poll, read, version, swaps, left, after, behind⟩
    · left
      have reading := swaps.version_eq
      have reached := swaps.observed_eq
      have counts := run.count_le sound (Nat.zero_le read)
      have grown := run.count_le sound (Nat.le_of_not_lt after)
      rcases foreign.reports with ⟨number, reports, _⟩
      have counted := reports.count
      have start : CountedStore.count (run.node 0).store = CountedStore.count run.store := rfl
      refine ⟨?_, ?_⟩
      · omega
      · unfold numberOf
        omega

/-- Once a poll has taken over a version that it read before a change of someone
else's, the node stays behind that change until a poll meets it. -/
theorem isBehind_or_meets (sound : LawfulStore.IsSound run.store)
    (nonneg : 0 ≤ CountedStore.count run.store) {changed : Nat}
    (foreign : run.IsForeignChange changed) {poll read swap : Nat} {version : Int}
    (first : run.Swaps poll read version swap) (before : read < changed)
    (after : changed < time) (later : swap < time) :
    run.IsBehind changed time ∨
      ∃ poll read version swap, swap < time ∧ run.Meets changed poll read version swap := by
  rcases foreign.reports with ⟨number, reports, kept⟩
  have counted := reports.count
  induction time with
  | zero => exact absurd after (Nat.not_lt_zero _)
  | succ time ih =>
      by_cases begun : changed < time ∧ swap < time
      · rcases ih begun.1 begun.2 with behind | ⟨poll, read, version, swap, met, meets⟩
        · rcases isBehind_succ sound nonneg foreign behind with still | ⟨poll, read, version, meets⟩
          · exact Or.inl still
          · exact Or.inr ⟨poll, read, version, time, Nat.lt_succ_self time, meets⟩
        · exact Or.inr ⟨poll, read, version, swap, Nat.lt_succ_of_lt met, meets⟩
      · left
        have low := observed_nonneg sound nonneg first later
        refine ⟨low, ?_⟩
        by_cases last : time = swap
        · subst last
          have grown := run.count_le sound (Nat.le_of_lt before)
          rw [first.observed_eq, first.version_eq]
          unfold numberOf
          omega
        · have same : time = changed := by omega
          subst same
          have known := observed_le_count sound nonneg time
          unfold Node.KeepsObserved at kept
          unfold numberOf
          omega

end Run

end

end Resolver
end BpnDirectory
