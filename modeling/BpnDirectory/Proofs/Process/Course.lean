import BpnDirectory.Process.Program

namespace BpnDirectory

/-!
What a program does in the course of events.

While a program is under way, others take steps in between.  The course of events
is the sequence of states that all of them lead through together.  Every step of
it is to be fair, in a sense that may refer to the whole past.  A program upholds
the course if each of its own steps is fair once all earlier steps were, and if
its value and the time at which it is done are as they should be.  Statements of this
kind are made for one program at a time, whatever the others are.
-/

/-- The course of events, seen from one program. -/
structure Course (σ : Type) where
  /-- The state at a time, which is a number of steps. -/
  state : Nat → σ
  /-- Whether the step that starts at a time is fair. -/
  IsFair : Nat → Prop
  /-- Whether the step that starts at a time is one of the program. -/
  IsOwn : Nat → Prop

namespace Course

variable {σ : Type} {course : Course σ}

def IsFairUntil (course : Course σ) (time : Nat) : Prop :=
  ∀ earlier < time, course.IsFair earlier

theorem IsFairUntil.mono {time earlier : Nat} (fair : course.IsFairUntil time)
    (before : earlier ≤ time) : course.IsFairUntil earlier :=
  fun step below => fair step (Nat.lt_of_lt_of_le below before)

theorem IsFairUntil.succ {time : Nat} (fair : course.IsFairUntil time)
    (last : course.IsFair time) : course.IsFairUntil (time + 1) := by
  intro step below
  rcases Nat.lt_succ_iff_lt_or_eq.mp below with before | same
  · exact fair step before
  · exact same ▸ last

/-- What every fair step keeps holds for as long as steps are fair. -/
theorem IsFairUntil.carry {start time : Nat} (fair : course.IsFairUntil time)
    (Holds : Nat → Prop) (before : start ≤ time) (first : Holds start)
    (keeps : ∀ step, start ≤ step → course.IsFairUntil (step + 1) → Holds step →
      Holds (step + 1)) :
    Holds time := by
  induction before with
  | refl => exact first
  | step before ih => exact keeps _ before fair (ih (fair.mono (Nat.le_succ _)))

/-! ## When something holds -/

/-- The first step from which on something holds. -/
theorem exists_crossing (Holds : Nat → Prop) {earlier time : Nat} (before : earlier ≤ time)
    (lacks : ¬ Holds earlier) (holds : Holds time) :
    ∃ step, earlier ≤ step ∧ step < time ∧ ¬ Holds step ∧ Holds (step + 1) := by
  induction before with
  | refl => exact absurd holds lacks
  | @step time before ih =>
      by_cases already : Holds time
      · rcases ih already with ⟨step, after, until_, crosses⟩
        exact ⟨step, after, Nat.lt_succ_of_lt until_, crosses⟩
      · exact ⟨time, before, Nat.lt_succ_self time, already, holds⟩

/-- Of the steps before a time at which something holds, one is the last. -/
theorem exists_last {Holds : Nat → Prop} {step : Nat} (before : step < time) (holds : Holds step) :
    ∃ last < time, Holds last ∧ ∀ later, last < later → later < time → ¬ Holds later := by
  induction time with
  | zero => exact absurd before (Nat.not_lt_zero _)
  | succ time ih =>
      by_cases here : Holds time
      · exact ⟨time, Nat.lt_succ_self time, here, fun later after until_ _ => by omega⟩
      · have earlier : step < time := by
          rcases Nat.lt_succ_iff_lt_or_eq.mp before with earlier | rfl
          · exact earlier
          · exact absurd holds here
        rcases ih earlier with ⟨last, until_, there, isLast⟩
        refine ⟨last, Nat.lt_succ_of_lt until_, there, ?_⟩
        intro later after upTo again
        rcases Nat.lt_succ_iff_lt_or_eq.mp upTo with sooner | rfl
        · exact isLast later after sooner again
        · exact here again

end Course

namespace Program

variable {σ α β : Type}

/-! ## Programs whose steps follow a rule -/

/-- Whether every step of a program follows a rule, whatever state it meets. -/
def Follows (Rule : σ → σ → Prop) : Program σ α → Prop
  | .done _ => True
  | .step _ act next =>
    ∀ state, Rule state (act state).2 ∧ Follows Rule (next (act state).1)

theorem Follows.bind {Rule : σ → σ → Prop} {program : Program σ α} {rest : α → Program σ β}
    (first : Follows Rule program) (second : ∀ value, Follows Rule (rest value)) :
    Follows Rule (program >>= rest) := by
  induction program with
  | done value => exact second value
  | step reach act next ih =>
      intro state
      exact ⟨(first state).1, ih _ (first state).2⟩

/-- A program that may fail follows a rule if its first part does and the rest does after every
value of the first. -/
theorem Follows.except_bind {ε : Type} {Rule : σ → σ → Prop} {first : ExceptT ε (Program σ) α}
    {rest : α → ExceptT ε (Program σ) β} (begun : Follows Rule first.run)
    (others : ∀ value, Follows Rule (rest value).run) : Follows Rule (first >>= rest).run := by
  refine Follows.bind begun ?_
  intro outcome
  cases outcome with
  | ok value => exact others value
  | error failure => trivial

/-- Whether a program is done with a certain value, whatever its steps yield. -/
def Yields (Value : α → Prop) : Program σ α → Prop
  | .done value => Value value
  | .step _ _ next => ∀ seen, Yields Value (next seen)

theorem Yields.bind {Value : α → Prop} {Also : β → Prop} {program : Program σ α}
    {rest : α → Program σ β} (first : Yields Value program)
    (second : ∀ value, Value value → Yields Also (rest value)) :
    Yields Also (program >>= rest) := by
  induction program with
  | done value => exact second value first
  | step reach act next ih => exact fun seen => ih seen (first seen)

/-! ## Programs that uphold a course of events -/

/-- Whether a program that goes on at a time upholds the course of events and is
done with a value and at a time that are as they should be. -/
def Upholds (course : Course σ) : Program σ α → (α → Nat → Prop) → Nat → Prop
  | .done value, Ends, time => Ends value time
  | .step _ act next, Ends, time =>
    ∀ step, time ≤ step → course.IsOwn step → course.IsFairUntil step →
      course.state (step + 1) = (act (course.state step)).2 →
      course.IsFair step ∧ Upholds course (next (act (course.state step)).1) Ends (step + 1)

variable {course : Course σ} {time : Nat}

/-- A program upholds the course of events if its first part does and, at any time
at which that may be done, the rest does. -/
theorem Upholds.bind {program : Program σ α} {rest : α → Program σ β} {Middle : α → Nat → Prop}
    {Ends : β → Nat → Prop} (fair : course.IsFairUntil time)
    (first : Upholds course program Middle time)
    (second : ∀ value later, time ≤ later → course.IsFairUntil later → Middle value later →
      Upholds course (rest value) Ends later) :
    Upholds course (program >>= rest) Ends time := by
  induction program generalizing time with
  | done value => exact second value time (Nat.le_refl time) fair first
  | step reach act next ih =>
      intro step after own past same
      rcases first step after own past same with ⟨last, others⟩
      refine ⟨last, ih _ (past.succ last) others ?_⟩
      intro value later below
      exact second value later (Nat.le_trans (Nat.le_succ_of_le after) below)

/-- What is known of the value in any case is known when a program is done. -/
theorem Upholds.yields {program : Program σ α} {Ends : α → Nat → Prop} {Value : α → Prop}
    (upholds : Upholds course program Ends time) (yields : Yields Value program) :
    Upholds course program (fun value later => Value value ∧ Ends value later) time := by
  induction program generalizing time with
  | done value => exact ⟨yields, upholds⟩
  | step reach act next ih =>
      intro step after own past same
      rcases upholds step after own past same with ⟨last, others⟩
      exact ⟨last, ih _ others (yields _)⟩

theorem Upholds.mono {program : Program σ α} {Ends Also : α → Nat → Prop}
    (upholds : Upholds course program Ends time)
    (fair : course.IsFairUntil time)
    (weaker : ∀ value later, time ≤ later → course.IsFairUntil later → Ends value later →
      Also value later) :
    Upholds course program Also time := by
  induction program generalizing time with
  | done value => exact weaker value time (Nat.le_refl time) fair upholds
  | step reach act next ih =>
      intro step after own past same
      rcases upholds step after own past same with ⟨last, others⟩
      refine ⟨last, ih _ others (past.succ last) ?_⟩
      intro value later below
      exact weaker value later (Nat.le_trans (Nat.le_succ_of_le after) below)

/-- A program whose steps follow a rule for fair steps upholds the course of
events.  Nothing is said about its value. -/
theorem Follows.upholds {Rule : σ → σ → Prop} {program : Program σ α}
    (follows : Follows Rule program)
    (fairly : ∀ step, course.IsFairUntil step →
      Rule (course.state step) (course.state (step + 1)) → course.IsFair step)
    {Ends : α → Nat → Prop} (fair : course.IsFairUntil time)
    (ends : ∀ value later, time ≤ later → course.IsFairUntil later → Ends value later) :
    Upholds course program Ends time := by
  induction program generalizing time with
  | done value => exact ends value time (Nat.le_refl time) fair
  | step reach act next ih =>
      intro step after own past same
      rcases follows (course.state step) with ⟨ruled, others⟩
      have last := fairly step past (same ▸ ruled)
      refine ⟨last, ih _ others (past.succ last) ?_⟩
      intro value later below
      exact ends value later (Nat.le_trans (Nat.le_succ_of_le after) below)

end Program
end BpnDirectory
