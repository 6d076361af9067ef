import BpnDirectory.Proofs.Process.Rules
import BpnDirectory.Proofs.Resolver.Traffic

namespace BpnDirectory
namespace Resolver

/-!
What happens to a node at a time.

In one move of a run either a call takes a step, to which its program had come by then,
or something else happens, which concerns the store, the clocks or a shard of the
cache and nothing besides.
-/

open Program (Becomes Follows FollowsUnless Turns)
open Store (LawfulStore MappingStore)

variable {S : Type} [MappingStore S]

namespace Run

/-- Whether a call takes a step at a time, and what the step works on. -/
def IsStepAt (run : Run S) (index : Nat) (reach : Reach) (time : Nat) : Prop :=
  run.IsStepOf index time ∧ ∃ task, (run.traffic time).tasks[index]? = some task ∧
    task.program.reach? = some reach

variable {run : Run S} {time : Nat}

theorem isStepAt_iff {index : Nat} {reach : Reach} :
    run.IsStepAt index reach time ↔ run.moves[time]? = some (.advance index) ∧
      ((run.traffic time).tasks[index]?.bind fun task => task.program.reach?) = some reach := by
  rw [IsStepAt, IsStepOf, Option.bind_eq_some_iff]

instance {index : Nat} {reach : Reach} : Decidable (run.IsStepAt index reach time) :=
  decidable_of_iff _ isStepAt_iff.symm

/-! ## The steps of a call -/

theorem advanced {index : Nat} {command : Command} {program : Program (Node S) Answer}
    (own : run.IsStepOf index time)
    (listed : (run.traffic time).tasks[index]? = some ⟨command, program⟩) :
    run.node (time + 1) = (Traffic.stepOf program (run.node time)).2 ∧
      (run.traffic (time + 1)).tasks[index]? =
        some ⟨command, (Traffic.stepOf program (run.node time)).1⟩ := by
  have bound := (List.getElem?_eq_some_iff.mp listed).1
  have next := run.traffic_succ time
  have moved : run.moves[time]? = some (.advance index) := own
  rw [moved] at next
  simp only [Traffic.move, listed] at next
  constructor
  · exact congrArg Traffic.node next
  · rw [next]
    exact List.getElem?_set_self bound

/-- A call that does not take a step stays as it is. -/
theorem listed_succ_of_not_own {index : Nat} {task : Task S}
    (other : ¬ run.IsStepOf index time)
    (listed : (run.traffic time).tasks[index]? = some task) :
    (run.traffic (time + 1)).tasks[index]? = some task := by
  have next := run.traffic_succ time
  cases moved : run.moves[time]? with
  | none =>
      rw [moved] at next
      rw [next]
      exact listed
  | some move =>
      rw [moved] at next
      cases move with
      | start command =>
          have bound := (List.getElem?_eq_some_iff.mp listed).1
          rw [next]
          exact (List.getElem?_append_left bound).trans listed
      | advance chosen =>
          have apart : chosen ≠ index := by
            intro same
            subst same
            exact other moved
          rw [next]
          simp only [Traffic.move]
          split
          · exact (List.getElem?_set_ne apart).trans listed
          · exact listed
      | pass | crash | foreign =>
          rw [next]
          exact listed

/-- A call that was begun is there at the next time, and what is left of its program
is what has become of it. -/
theorem becomes_succ {index : Nat} {task : Task S}
    (listed : (run.traffic time).tasks[index]? = some task) :
    ∃ program, (run.traffic (time + 1)).tasks[index]? = some { task with program } ∧
      Becomes run.node (run.IsStepAt index) task.program time program (time + 1) := by
  by_cases own : run.IsStepOf index time
  · rcases advanced own listed with ⟨moved, left⟩
    refine ⟨_, left, ?_⟩
    cases program : task.program with
    | done value => exact (Becomes.refl _ time).idle
    | step reach act rest =>
        rw [program] at moved
        refine (Becomes.refl _ time).step ⟨own, task, listed, ?_⟩ moved
        rw [program]
        rfl
  · exact ⟨task.program, listed_succ_of_not_own own listed, (Becomes.refl _ time).idle⟩

/-- What is left of a call at a later time is what has become of it. -/
theorem becomes {index earlier : Nat} {task : Task S}
    (listed : (run.traffic earlier).tasks[index]? = some task) (before : earlier ≤ time) :
    ∃ program, (run.traffic time).tasks[index]? = some { task with program } ∧
      Becomes run.node (run.IsStepAt index) task.program earlier program time := by
  induction before with
  | refl => exact ⟨task.program, listed, .refl _ _⟩
  | step _ ih =>
      rcases ih with ⟨program, between, became⟩
      rcases becomes_succ between with ⟨last, present, next⟩
      exact ⟨last, present, became.trans next⟩

/-- A call that is there was begun with its whole program. -/
theorem becomes_of_listed {index : Nat} {task : Task S}
    (listed : (run.traffic time).tasks[index]? = some task) :
    ∃ begun, begun ≤ time ∧ index < (run.traffic begun).tasks.length ∧
      Becomes run.node (run.IsStepAt index) (task.command.program run.policy) begun task.program
        time := by
  induction time generalizing task with
  | zero => cases listed
  | succ time ih =>
      cases before : (run.traffic time).tasks[index]? with
      | some old =>
          rcases ih before with ⟨begun, until_, there, became⟩
          rcases becomes_succ before with ⟨program, present, next⟩
          cases listed.symm.trans present
          exact ⟨begun, Nat.le_succ_of_le until_, there, became.trans next⟩
      | none =>
          have absent := List.getElem?_eq_none_iff.mp before
          refine ⟨time + 1, Nat.le_refl _, (List.getElem?_eq_some_iff.mp listed).1, ?_⟩
          -- Only the beginning of a call adds to the list.
          have next := run.traffic_succ time
          cases moved : run.moves[time]? with
          | none =>
              rw [moved] at next
              rw [next, before] at listed
              cases listed
          | some move =>
              rw [moved] at next
              cases move with
              | start command =>
                  rw [next] at listed
                  simp only [Traffic.move] at listed
                  have bound := (List.getElem?_eq_some_iff.mp listed).1
                  rw [List.length_append, List.length_singleton] at bound
                  have same : index = (run.traffic time).tasks.length := by omega
                  rw [same, List.getElem?_concat_length] at listed
                  cases listed
                  exact .refl _ _
              | advance other =>
                  rw [next] at listed
                  cases chosen : (run.traffic time).tasks[other]? with
                  | some task =>
                      simp only [Traffic.move, chosen] at listed
                      have bound := (List.getElem?_eq_some_iff.mp listed).1
                      rw [List.length_set] at bound
                      omega
                  | none =>
                      simp only [Traffic.move, chosen] at listed
                      rw [before] at listed
                      cases listed
              | pass | crash | foreign =>
                  rw [next] at listed
                  cases before.symm.trans listed

theorem listed_of_answered {index : Nat} {command : Command} {answer : Answer}
    (answered : (run.traffic time).answer? index = some (command, answer)) :
    (run.traffic time).tasks[index]? = some ⟨command, .done answer⟩ := by
  rcases Option.bind_eq_some_iff.mp answered with ⟨⟨asked, program⟩, listed, valued⟩
  cases program with
  | step reach act next => cases valued
  | done value =>
      cases valued
      exact listed

/-- A call that is done stays as it is. -/
theorem listed_of_done {index earlier : Nat} {command : Command} {answer : Answer}
    (listed : (run.traffic earlier).tasks[index]? = some ⟨command, .done answer⟩)
    (before : earlier ≤ time) :
    (run.traffic time).tasks[index]? = some ⟨command, .done answer⟩ := by
  rcases becomes listed before with ⟨program, present, became⟩
  cases became.of_done
  exact present

/-! ## Rules for the steps of a call -/

variable {Rule : Node S → Node S → Prop}

/-- Each step of a call follows a rule which the call follows from some time on. -/
theorem ruled_of_follows {index start : Nat} {task : Task S} (follows : Follows Rule task.program)
    (same : ∀ node, Rule node node)
    (listed : (run.traffic start).tasks[index]? = some task) (since : start ≤ time)
    (own : run.IsStepOf index time) : Rule (run.node time) (run.node (time + 1)) := by
  rcases becomes listed since with ⟨program, present, became⟩
  rw [(advanced own present).1]
  cases program with
  | done value => exact same _
  | step reach act next => exact (follows.becomes became _).1

/-- Each step of a call that was answered follows a rule which the call follows unless it
has another value. -/
theorem ruled_of_answered {Value : Answer → Prop} {index : Nat} {command : Command}
    {answer : Answer} {answered : Nat}
    (follows : FollowsUnless Rule Value (command.program run.policy))
    (same : ∀ node, Rule node node)
    (answers : (run.traffic answered).answer? index = some (command, answer))
    (other : ¬ Value answer) (own : run.IsStepOf index time) :
    Rule (run.node time) (run.node (time + 1)) := by
  have listed := listed_of_answered answers
  rcases Nat.lt_or_ge time answered with before | after
  · cases chosen : (run.traffic time).tasks[index]? with
    | none =>
        have next := run.traffic_succ time
        rw [show run.moves[time]? = some (.advance index) from own] at next
        simp only [Traffic.move, chosen] at next
        rw [show run.node (time + 1) = run.node time from congrArg Traffic.node next]
        exact same _
    | some task =>
        rcases task with ⟨asked, program⟩
        rcases advanced own chosen with ⟨moved, left⟩
        rcases becomes_of_listed chosen with ⟨begun, _, _, became⟩
        rcases becomes left before with ⟨last, present, later⟩
        cases present.symm.trans listed
        rw [moved]
        cases program with
        | done value => exact same _
        | step reach act rest =>
            rcases (follows.becomes became (run.node time)).1 with ruled | yields
            · exact ruled
            · -- The call would be bound to have another value from here on.
              exact absurd (yields.becomes later) other
  · rw [(advanced own (listed_of_done listed after)).1]
    exact same _

/-- Whether a call turns at a time, having followed a rule since another time. -/
structure TurnsAt (run : Run S) (index : Nat) (command : Command) (Rule : Node S → Node S → Prop)
    (turn : Node S → Node S) (after : Node S → Program (Node S) Answer) (start step : Nat) :
    Prop where
  since : start ≤ step
  own : run.IsStepAt index .node step
  moved : run.node (step + 1) = turn (run.node step)
  left : (run.traffic (step + 1)).tasks[index]? = some ⟨command, after (run.node step)⟩
  ruled : ∀ earlier, start ≤ earlier → earlier < step → run.IsStepOf index earlier →
    Rule (run.node earlier) (run.node (earlier + 1))

/-- A call that is to turn follows its rule until it turns. -/
theorem turns_or_turnsAt {turn : Node S → Node S} {after : Node S → Program (Node S) Answer}
    {index start : Nat} {command : Command} {first : Program (Node S) Answer}
    (turns : Turns Rule turn after first)
    (listed : (run.traffic start).tasks[index]? = some ⟨command, first⟩) (since : start ≤ time) :
    (∃ program, (run.traffic time).tasks[index]? = some ⟨command, program⟩ ∧
        Turns Rule turn after program ∧
        ∀ earlier, start ≤ earlier → earlier < time → run.IsStepOf index earlier →
          Rule (run.node earlier) (run.node (earlier + 1))) ∨
      ∃ step < time, run.TurnsAt index command Rule turn after start step := by
  induction since with
  | refl => exact Or.inl ⟨first, listed, turns, fun earlier from_ until_ => by omega⟩
  | @step time since ih =>
      rcases ih with ⟨program, present, still, ruled⟩ | ⟨step, before, turned⟩
      · by_cases own : run.IsStepOf index time
        · rcases advanced own present with ⟨moved, left⟩
          cases program with
          | done value => exact still.elim
          | step reach act next =>
              rcases still with ⟨rfl, turning | following⟩
              · rcases turning (run.node time) with ⟨turned, goesOn⟩
                refine Or.inr ⟨time, Nat.lt_succ_self time, since, ⟨own, _, present, rfl⟩,
                  moved.trans turned, ?_, ruled⟩
                rw [left]
                exact congrArg (fun program => some (Task.mk command program)) goesOn
              · rcases following (run.node time) with ⟨follows, goesOn⟩
                refine Or.inl ⟨_, left, goesOn, ?_⟩
                intro earlier from_ until_ step
                rcases Nat.lt_succ_iff_lt_or_eq.mp until_ with sooner | rfl
                · exact ruled earlier from_ sooner step
                · rw [moved]
                  exact follows
        · refine Or.inl ⟨program, listed_succ_of_not_own own present, still, ?_⟩
          intro earlier from_ until_ step
          rcases Nat.lt_succ_iff_lt_or_eq.mp until_ with sooner | rfl
          · exact ruled earlier from_ sooner step
          · exact absurd step own
      · exact Or.inr ⟨step, Nat.lt_succ_of_lt before, turned⟩

/-- A call that is to turn has done so when it is answered. -/
theorem turnsAt_of_answered {turn : Node S → Node S} {after : Node S → Program (Node S) Answer}
    {index start : Nat} {command asked : Command} {first : Program (Node S) Answer} {answer : Answer}
    (turns : Turns Rule turn after first)
    (listed : (run.traffic start).tasks[index]? = some ⟨command, first⟩) (since : start ≤ time)
    (answered : (run.traffic time).answer? index = some (asked, answer)) :
    ∃ step < time, run.TurnsAt index command Rule turn after start step := by
  rcases turns_or_turnsAt turns listed since with ⟨program, present, still, _⟩ | turned
  · cases present.symm.trans (listed_of_answered answered)
    exact still.elim
  · exact turned

end Run

/-! ## Moves -/

/-- All that can happen to a node in a move. -/
inductive Run.Event (run : Run S) (time : Nat) : Prop
  | own {index : Nat} {command : Command} {begun : Nat} {γ : Type} {reach : Reach}
      {act : Node S → γ × Node S} {next : γ → Program (Node S) Answer}
      (own : run.IsStepAt index reach time)
      (listed : (run.traffic time).tasks[index]? = some ⟨command, .step reach act next⟩)
      (becomes : Becomes run.node (run.IsStepAt index) (command.program run.policy) begun
        (.step reach act next) time)
      (moved : run.node (time + 1) = (act (run.node time)).2)
      (left : (run.traffic (time + 1)).tasks[index]? =
        some ⟨command, next (act (run.node time)).1⟩)
  | foreign {request : Store.Request} (move : run.moves[time]? = some (.foreign request))
      (moved : run.node (time + 1) =
        { run.node time with store := (request.perform (run.node time).store).2 })
  | other {cache : Cache} {ticks : Nat} {now : Time.Instant}
      (moved : run.node (time + 1) = { run.node time with cache, ticks, now })

theorem Run.event (run : Run S) (time : Nat) : run.Event time := by
  have idle : run.node (time + 1) = run.node time → run.Event time := fun same => .other same
  have next := run.traffic_succ time
  have node := congrArg Traffic.node next
  cases moved : run.moves[time]? with
  | none =>
      rw [moved] at node
      exact idle node
  | some move =>
      rw [moved] at next node
      cases move with
      | start command => exact idle node
      | pass ticks now => exact .other node
      | crash key => exact .other node
      | foreign request => exact .foreign moved node
      | advance index =>
          cases chosen : (run.traffic time).tasks[index]? with
          | none =>
              simp only [Traffic.move, chosen] at node
              exact idle node
          | some task =>
              rcases task with ⟨command, program⟩
              rcases advanced moved chosen with ⟨stepped, left⟩
              rcases becomes_of_listed chosen with ⟨begun, _, _, became⟩
              cases program with
              | done value => exact idle stepped
              | step reach act rest =>
                  exact .own ⟨moved, _, chosen, rfl⟩ chosen became stepped left

end Resolver
end BpnDirectory
