import BpnDirectory.Proofs.Resolver.Observation

namespace BpnDirectory
namespace Resolver

/-!
Polls detect changes of others.

A node follows its own changes without a poll, so that it does not drop its cache for
them.  This never hides a change of someone else's: between two polls that read the
version before and after such a change, the node stays behind it, and the second poll
drops everything.
-/

open Program (Becomes StaysInside)
open Store (CountedStore LawfulStore MappingStore)

variable {S : Type} [MappingStore S]

/-- A poll with its reading, and its answer with a time by which it is given. -/
structure Poll where
  index : Nat
  read : Nat
  version : Int
  answer : Answer
  returned : Nat

/-- Whether a poll was made in a run. -/
structure Poll.IsMade (poll : Poll) (run : Run S) : Prop where
  reads : run.ReadsVersion poll.index poll.read poll.version
  answered : (run.traffic poll.returned).answer? poll.index = some (.poll, poll.answer)

namespace Run

variable {run : Run S} {time : Nat}

/-- Whether a poll, which took over a version at a time, is done with an answer, and has
dropped everything if the node had known another version. -/
def Concludes (run : Run S) (poll : Nat) (version : Int) (swap : Nat) (answer : Answer)
    (time : Nat) : Prop :=
  ((run.node swap).observed = unobserved ∨ (run.node swap).observed = version) ∧
      answer = .changed false ∨
    (run.node swap).observed ≠ unobserved ∧ (run.node swap).observed ≠ version ∧
      answer = .changed true ∧ Empties run.node (run.IsStepAt poll .node) (swap + 1) time

theorem concludes_of_becomes {poll swap : Nat} {version : Int} {outcome : Except Failure Bool}
    (becomes : Becomes run.node (run.IsStepAt poll)
      (conclude version (run.node swap).observed : Operation S Bool).run (swap + 1)
      (.done outcome) time) :
    run.Concludes poll version swap (.ofOutcome .changed outcome) time := by
  rcases conclude_cases becomes with ⟨known, rfl⟩ | ⟨observed, new, rfl, empties⟩
  · exact Or.inl ⟨known, rfl⟩
  · exact Or.inr ⟨observed, new, rfl, empties⟩

/-- A call that is done takes no step any more. -/
theorem IsStepAt.lt {index step : Nat} {reach : Reach} {command : Command} {answer : Answer}
    (own : run.IsStepAt index reach step)
    (answered : (run.traffic time).answer? index = some (command, answer)) : step < time := by
  apply Nat.lt_of_not_le
  intro ended
  rcases Run.becomes (listed_of_answered answered) ended with ⟨program, listed, became⟩
  rcases own.2 with ⟨task, present, reached⟩
  cases listed.symm.trans present
  rw [became.of_done] at reached
  cases reached

/-- A poll that took over a version concludes when it is answered. -/
theorem IsToConclude.concludes {poll swap : Nat} {version : Int} {command : Command}
    {answer : Answer} (left : run.IsToConclude poll version swap) (before : swap < time)
    (answered : (run.traffic time).answer? poll = some (command, answer)) :
    run.Concludes poll version swap answer time := by
  rcases Run.becomes left before with ⟨program, listed, became⟩
  cases listed.symm.trans (listed_of_answered answered)
  rcases Command.done_of_answered became with ⟨outcome, rfl, concluded⟩
  exact concludes_of_becomes concluded

/-- A poll that has read the version goes on with it. -/
theorem ReadsVersion.goesOn {poll read : Nat} {version : Int}
    (reads : run.ReadsVersion poll read version) :
    (run.traffic (read + 1)).tasks[poll]? = some ⟨.poll,
      afterReading version >>= fun outcome => pure (.ofOutcome .changed outcome)⟩ := by
  rcases reads.own with ⟨step, task, present, reached⟩
  rcases reads.isPoll with ⟨program, listed⟩
  cases present.symm.trans listed
  cases program with
  | done value => cases reached
  | step reach act next =>
      cases reached
      rcases becomes_of_listed listed with ⟨begun, _, _, became⟩
      rcases advanced step listed with ⟨_, left⟩
      rcases Command.step_of_answered became with ⟨part, same, became⟩
      rw [left]
      change some (Task.mk Command.poll (next _)) = _
      rw [same, store_step_of_poll became _ _ reads.told]

/-- A poll reads the version once. -/
theorem ReadsVersion.le {poll read again : Nat} {version other : Int}
    (reads : run.ReadsVersion poll read version) (rereads : run.ReadsVersion poll again other) :
    again ≤ read := by
  apply Nat.le_of_not_lt
  intro later
  rcases Run.becomes reads.goesOn later with ⟨program, listed, became⟩
  have whole : StaysInside (afterReading version >>= fun outcome =>
      pure (.ofOutcome .changed outcome) : Program (Node S) Answer) :=
    (staysInside_afterReading version).bind fun _ => trivial
  have inside := whole.becomes became
  rcases rereads.own.2 with ⟨task, present, reached⟩
  cases listed.symm.trans present
  cases program with
  | done value => cases reached
  | step reach act next =>
      cases reached
      cases inside.1

/-- Whether a poll takes over at a time what it read, and leaves the version that the node
knows in all other steps after its reading. -/
structure SwapsOnce (run : Run S) (poll read : Nat) (version : Int) (swap : Nat) : Prop
    extends run.Swaps poll read version swap where
  once : ∀ step, read < step → step ≠ swap → run.IsStepOf poll step →
    (run.node step).KeepsObserved (run.node (step + 1))

/-- A poll that was answered took over once what it read. -/
theorem ReadsVersion.exists_swap {poll read : Nat} {version : Int} {command : Command}
    {answer : Answer} (reads : run.ReadsVersion poll read version)
    (answered : (run.traffic time).answer? poll = some (command, answer)) :
    ∃ swap < time, run.SwapsOnce poll read version swap ∧ run.IsToConclude poll version swap := by
  rcases turnsAt_of_answered (turns_afterReading version) reads.goesOn (reads.own.lt answered)
    answered with ⟨swap, before, turned⟩
  refine ⟨swap, before, ⟨⟨reads, turned.since, turned.own, turned.moved⟩, ?_⟩, turned.left⟩
  intro step after other own
  rcases Nat.lt_or_ge step swap with earlier | later
  · exact turned.ruled step after earlier own
  · have follows := follows_conclude (S := S) version (run.node swap).observed
    have concludes := ruled_of_follows (Command.follows_answered follows) (fun _ => .looks) turned.left
      (Nat.lt_of_le_of_ne later other.symm) own
    exact concludes.keepsObserved id

/-- A poll that has read the version takes it over before it is answered. -/
theorem ReadsVersion.concludes {poll read : Nat} {version : Int} {command : Command}
    {answer : Answer} (reads : run.ReadsVersion poll read version)
    (answered : (run.traffic time).answer? poll = some (command, answer)) :
    ∃ swap, run.Swaps poll read version swap ∧ swap < time ∧
      run.Concludes poll version swap answer time := by
  rcases reads.exists_swap answered with ⟨swap, before, swaps, left⟩
  exact ⟨swap, swaps.toSwaps, before, left.concludes before answered⟩

/-- Whether two polls come one after the other: the first one is answered when the
second one reads the version, and every other poll that reads it between the first
reading and the second answer goes no further by then. -/
structure AreConsecutive (run : Run S) (first second : Poll) : Prop where
  apart : first.returned ≤ second.read
  alone : ∀ other read version, run.ReadsVersion other read version → first.read < read →
    other ≠ second.index → ∀ step, read < step → step < second.returned → ¬ run.IsStepOf other step

end Run

/-- Whether a poll makes a node let go of all that it derived from the store: by own
steps after its reading every shard of the cache is emptied, so that no ticket which a
look-up has handed out for it until then is good any more, and the dump is dropped. -/
structure Poll.LetsGo (poll : Poll) (run : Run S) : Prop where
  shards : ∀ index < run.settings.shardCount, ∃ cleared, poll.read < cleared ∧
    cleared < poll.returned ∧ run.IsStepOf poll.index cleared ∧
    ((run.node (cleared + 1)).cache.shard index).entries = [] ∧
    ∀ granted key ticket, granted ≤ cleared → ((run.node granted).lookup key).1 = .miss ticket →
      ticket.shard = index → ∀ later other, cleared < later →
        (run.node later).cache.permits ticket other = false
  dump : ∃ dropped, poll.read < dropped ∧ dropped < poll.returned ∧
    run.IsStepOf poll.index dropped ∧ (run.node (dropped + 1)).shelf.kept = none ∧
    (run.node dropped).shelf.generation < (run.node (dropped + 1)).shelf.generation

section

variable [LawfulStore S] {run : Run S} {time : Nat}

theorem Run.settings_eq (run : Run S) (sound : LawfulStore.IsSound run.store) (time : Nat) :
    (run.node time).cache.settings = run.settings :=
  Resolver.settings_eq (run.isFairUntil sound (fun _ => True) time) (Nat.zero_le time)

theorem Run.size_eq (run : Run S) (sound : LawfulStore.IsSound run.store) (time : Nat) :
    (run.node time).cache.shards.size = run.settings.shardCount := by
  have fit := isFit (run.isFit_start sound) (run.isFairUntil sound (fun _ => True) time)
  rw [fit.size, run.settings_eq sound]

theorem Run.shard_of_cleared (sound : LawfulStore.IsSound run.store) {index : Nat}
    (bound : index < run.settings.shardCount)
    (cleared : run.node (time + 1) =
      { run.node time with cache := (run.node time).cache.clearShard index }) :
    (run.node (time + 1)).cache.shard index = ((run.node time).cache.shard index).clear := by
  rw [← run.size_eq sound time] at bound
  rw [cleared]
  exact (Cache.shard_setShard _ index _ index).trans (if_pos ⟨rfl, bound⟩)

/-- A ticket is void once its shard was cleared after it was handed out. -/
theorem Run.permits_of_cleared (sound : LawfulStore.IsSound run.store) {index granted later : Nat}
    {key : String} {ticket : Cache.Ticket} (before : granted ≤ time) (after : time < later)
    (shard : (run.node (time + 1)).cache.shard index = ((run.node time).cache.shard index).clear)
    (miss : ((run.node granted).lookup key).1 = .miss ticket) (named : ticket.shard = index)
    (other : String) : (run.node later).cache.permits ticket other = false := by
  apply Bool.eq_false_iff.mpr
  intro permitted
  rcases Cache.permits_iff.mp permitted with ⟨_, _, good⟩
  have level := (isGranted_of_miss miss).2 _ good
  have fair := run.isFairUntil sound (fun _ => True) later
  -- Generations only grow, and clearing the shard made its own greater.
  have first := generation_le (fair.mono (Nat.le_of_lt after)) before ticket.shard
  have last := generation_le fair after ticket.shard
  have newer : (run.node (time + 1)).generation ticket.shard =
      (run.node time).generation ticket.shard + 1 := by
    unfold Node.generation
    rw [named, shard]
    rfl
  unfold Node.generation at level first last newer
  simp only [Nat.succ_eq_add_one] at last
  omega

theorem Poll.letsGo_of_empties {poll : Poll} (sound : LawfulStore.IsSound run.store) {start : Nat}
    (after : poll.read < start)
    (empties : Empties run.node (run.IsStepAt poll.index .node) start poll.returned) :
    poll.LetsGo run where
  shards := by
    intro index bound
    rcases empties.shards with ⟨counted, _, _, clears⟩
    rw [run.size_eq sound counted] at clears
    rcases clears index bound with ⟨cleared, since, until_, own, moved⟩
    have shard := Run.shard_of_cleared sound bound moved
    refine ⟨cleared, Nat.lt_of_lt_of_le after since, until_, own.1, ?_, ?_⟩
    · rw [shard]
      rfl
    · intro granted key ticket before miss named later other afterwards
      exact Run.permits_of_cleared sound before afterwards shard miss named other
  dump := by
    rcases empties.dump with ⟨dropped, since, until_, own, moved⟩
    refine ⟨dropped, Nat.lt_of_lt_of_le after since, until_, own.1, ?_, ?_⟩
    · rw [moved]
      rfl
    · rw [moved]
      exact Nat.lt_succ_self _

variable [CountedStore S]

/-- If someone else changes records between the readings of two consecutive polls, the
second one says so and makes the node let go of everything, whatever changes of the
node's own come before and in between, and wherever they stand. -/
theorem poll_detects_foreign_change (run : Run S) (sound : LawfulStore.IsSound run.store)
    (nonneg : 0 ≤ CountedStore.count run.store) {first second : Poll} (former : first.IsMade run)
    (latter : second.IsMade run) (consecutive : run.AreConsecutive first second) {changed : Nat}
    (foreign : run.IsForeignChange changed) (after : first.read < changed)
    (before : changed < second.read) :
    second.answer = .changed true ∧ second.LetsGo run := by
  rcases former.reads.concludes former.answered with ⟨swap, swaps, swapped, _⟩
  rcases latter.reads.concludes latter.answered with ⟨taken, takes, takenBy, concludes⟩
  have order : swap < taken := by
    have apart := consecutive.apart
    have later := takes.later
    omega
  have changedBefore : changed < taken := Nat.lt_trans before takes.later
  rcases Run.isBehind_or_meets sound nonneg foreign swaps after changedBefore order with
    behind | ⟨poll, read, version, met, until_, meets⟩
  · have unknown := behind.unknown sound takes before
    rcases concludes with ⟨known, _⟩ | ⟨_, _, answer, empties⟩
    · exact absurd known (not_or.mpr unknown)
    · exact ⟨answer, Poll.letsGo_of_empties sound (Nat.lt_succ_of_lt takes.later) empties⟩
  · have late : met < second.returned := Nat.lt_trans until_ takenBy
    have same : poll = second.index := by
      by_contra other
      have since : first.read < read := Nat.lt_trans after meets.after
      exact consecutive.alone poll read version meets.swaps.reads since other met meets.swaps.later
        late meets.swaps.own.1
    subst same
    have unknown := meets.behind.unknown sound meets.swaps meets.after
    rcases meets.left.concludes late latter.answered with ⟨known, _⟩ | ⟨_, _, answer, empties⟩
    · exact absurd known (not_or.mpr unknown)
    · have reading := meets.swaps.reads.le latter.reads
      refine ⟨answer, Poll.letsGo_of_empties sound ?_ empties⟩
      exact Nat.lt_succ_of_lt (Nat.lt_of_le_of_lt reading meets.swaps.later)

end

/-- A run with two polls.  In between the node registers a BPN, someone else registers
another one, and the node rotates its own. -/
def Run.replicas : Run Store.Memory where
  policy := ⟨10, 10, 10, ⟨1, 0, 0⟩⟩
  settings := ⟨true, 4, 1, none⟩
  store := .empty
  now := Store.Request.noon
  moves :=
    .start .poll :: List.replicate 4 (.advance 0) ++
    .start (.register "BPNL00000000000A" "did:web:first") :: List.replicate 5 (.advance 1) ++
    .foreign (.put Store.Request.noon "BPNL00000000000B" "did:web:other" none) ::
    .start (.rotate "BPNL00000000000A" "did:web:second" 1) :: List.replicate 5 (.advance 2) ++
    .start .poll :: List.replicate 8 (.advance 3)

def Poll.before : Poll := ⟨0, 1, 0, .changed false, 5⟩

def Poll.after : Poll := ⟨3, 19, 3, .changed true, 27⟩

theorem Run.readings_replicas : Run.replicas.readings = [(0, 1), (3, 19)] := by decide +kernel

theorem replicas_detected :
    Poll.before.IsMade Run.replicas ∧ Poll.after.IsMade Run.replicas ∧
      Run.replicas.AreConsecutive Poll.before Poll.after ∧ Run.replicas.IsForeignChange 11 ∧
      Poll.after.answer = .changed true ∧ Poll.after.LetsGo Run.replicas := by
  have former : Poll.before.IsMade Run.replicas := ⟨by decide +kernel, by decide +kernel⟩
  have latter : Poll.after.IsMade Run.replicas := ⟨by decide +kernel, by decide +kernel⟩
  have foreign : Run.replicas.IsForeignChange 11 := ⟨_, rfl, by decide +kernel⟩
  have consecutive : Run.replicas.AreConsecutive Poll.before Poll.after := {
    apart := by decide
    alone := by
      intro other read version reads since apart
      have listed := reads.mem_readings
      simp only [Run.readings_replicas, Poll.before, Poll.after, List.mem_cons, Prod.mk.injEq,
        List.not_mem_nil, or_false] at listed since apart
      omega
  }
  refine ⟨former, latter, consecutive, foreign, ?_⟩
  exact poll_detects_foreign_change Run.replicas Store.Memory.isSound_empty (by decide) former latter
    consecutive foreign (by decide) (by decide)

end Resolver
end BpnDirectory
