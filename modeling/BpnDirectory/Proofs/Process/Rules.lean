import BpnDirectory.Proofs.Process.Execution

namespace BpnDirectory
namespace Program

/-!
Rules with exceptions.

Some programs follow a rule unless they succeed, some follow it as long as what they meet
is of a certain kind, and some follow it but for one step.  When a program of the first two
kinds is alone, the rule leads from the state at its beginning to the state at its end.
-/

variable {σ τ α β : Type} {state : Nat → σ} {IsOwn : Reach → Nat → Prop} {start time : Nat}
  {Rule : σ → σ → Prop}

/-! ## Programs that follow a rule unless they succeed -/

theorem Yields.run {Value : α → Prop} {program : Program σ α} (yields : Yields Value program)
    (state : σ) : Value (program.run state).1 := by
  induction program generalizing state with
  | done value => exact yields
  | step reach act next ih => exact ih _ (yields _) _

/-- Whether every step of a program follows a rule, unless the program is bound to be
done with a certain value from then on. -/
def FollowsUnless (Rule : σ → σ → Prop) (Value : α → Prop) : Program σ α → Prop
  | .done _ => True
  | .step _ act next =>
    ∀ state, (Rule state (act state).2 ∨ Yields Value (next (act state).1)) ∧
      FollowsUnless Rule Value (next (act state).1)

variable {Value : α → Prop}

theorem Yields.followsUnless {program : Program σ α} (yields : Yields Value program) :
    FollowsUnless Rule Value program := by
  induction program with
  | done value => trivial
  | step reach act next ih => exact fun state => ⟨Or.inr (yields _), ih _ (yields _)⟩

theorem Follows.followsUnless {program : Program σ α} (follows : Follows Rule program) :
    FollowsUnless Rule Value program := by
  induction program with
  | done value => trivial
  | step reach act next ih =>
      exact fun state => ⟨Or.inl (follows state).1, ih _ (follows state).2⟩

namespace FollowsUnless

/-- After a first part with a certain value, the rest of a program is bound to be done
with such a value as well. -/
theorem bind {Also : β → Prop} {first : Program σ α} {rest : α → Program σ β}
    (before : FollowsUnless Rule Value first)
    (bound : ∀ value, Value value → Yields Also (rest value))
    (others : ∀ value, FollowsUnless Rule Also (rest value)) :
    FollowsUnless Rule Also (first >>= rest) := by
  induction first with
  | done value => exact others value
  | step reach act next ih =>
      intro state
      rcases before state with ⟨ruled | yields, later⟩
      · exact ⟨Or.inl ruled, ih _ later⟩
      · exact ⟨Or.inr (yields.bind bound), ih _ later⟩

theorem becomes {first program : Program σ α} (follows : FollowsUnless Rule Value first)
    (becomes : Becomes state IsOwn first start program time) :
    FollowsUnless Rule Value program := by
  induction becomes with
  | refl => exact follows
  | idle _ ih => exact ih
  | step _ _ _ ih => exact (ih _).2

/-- A program that is alone and is done with another value has followed the rule. -/
theorem run {program : Program σ α} (follows : FollowsUnless Rule Value program)
    (same : ∀ state, Rule state state)
    (trans : ∀ {before between after}, Rule before between → Rule between after → Rule before after)
    {state : σ} (other : ¬ Value (program.run state).1) : Rule state (program.run state).2 := by
  induction program generalizing state with
  | done value => exact same state
  | step reach act next ih =>
      rcases follows state with ⟨ruled | yields, later⟩
      · exact trans ruled (ih _ later other)
      · exact absurd (yields.run _) other

end FollowsUnless

/-! ## Programs that follow a rule but for one step -/

/-- Whether a program calls on nothing outside and follows a rule until a step that does a
certain thing to the state, after which it goes on in a certain way. -/
def Turns (Rule : σ → σ → Prop) (turn : σ → σ) (after : σ → Program σ α) : Program σ α → Prop
  | .done _ => False
  | .step reach act next =>
    reach = .node ∧
      ((∀ state, (act state).2 = turn state ∧ next (act state).1 = after state) ∨
        ∀ state, Rule state (act state).2 ∧ Turns Rule turn after (next (act state).1))

namespace Turns

variable {turn : σ → σ} {after : σ → Program σ α}

theorem bind {program : Program σ α} (turns : Turns Rule turn after program)
    (rest : α → Program σ β) :
    Turns Rule turn (fun state => after state >>= rest) (program >>= rest) := by
  induction program with
  | done value => exact turns.elim
  | step reach act next ih =>
      rcases turns with ⟨inside, turning | following⟩
      · refine ⟨inside, Or.inl fun state => ⟨(turning state).1, ?_⟩⟩
        exact congrArg (· >>= rest) (turning state).2
      · exact ⟨inside, Or.inr fun state => ⟨(following state).1, ih _ (following state).2⟩⟩

/-- A program that is to turn is yet to do so, or has done so and gone on. -/
theorem becomes {first program : Program σ α} (turns : Turns Rule turn after first)
    (becomes : Becomes state IsOwn first start program time) :
    Turns Rule turn after program ∨ ∃ step, start ≤ step ∧ step < time ∧ IsOwn .node step ∧
      state (step + 1) = turn (state step) ∧
      Becomes state IsOwn (after (state step)) (step + 1) program time := by
  induction becomes with
  | refl => exact Or.inl turns
  | idle _ ih =>
      rcases ih with still | ⟨step, since, before, own, turned, goesOn⟩
      · exact Or.inl still
      · exact Or.inr ⟨step, since, Nat.lt_succ_of_lt before, own, turned, goesOn.idle⟩
  | step earlier own moved ih =>
      rcases ih with ⟨rfl, turning | following⟩ | ⟨step, since, before, own', turned, goesOn⟩
      · exact Or.inr ⟨_, earlier.le, Nat.lt_succ_self _, own, moved.trans (turning _).1,
          (turning _).2 ▸ .refl _ _⟩
      · exact Or.inl (following _).2
      · exact Or.inr ⟨step, since, Nat.lt_succ_of_lt before, own', turned, goesOn.step own moved⟩

end Turns

/-! ## Programs that follow a rule under a condition -/

/-- Whether every step of a program follows a rule, as long as the states that the
program meets are of a certain kind. -/
def FollowsWhile (Holds : σ → Prop) (Rule : σ → σ → Prop) : Program σ α → Prop
  | .done _ => True
  | .step _ act next =>
    ∀ state, Holds state → Rule state (act state).2 ∧
      FollowsWhile Holds Rule (next (act state).1)

variable {Holds : σ → Prop}

theorem Follows.while {program : Program σ α} (follows : Follows Rule program) :
    FollowsWhile Holds Rule program := by
  induction program with
  | done value => trivial
  | step reach act next ih => exact fun state _ => ⟨(follows state).1, ih _ (follows state).2⟩

namespace FollowsWhile

theorem bind {first : Program σ α} {rest : α → Program σ β}
    (before : FollowsWhile Holds Rule first) (others : ∀ value, FollowsWhile Holds Rule (rest value)) :
    FollowsWhile Holds Rule (first >>= rest) := by
  induction first with
  | done value => exact others value
  | step reach act next ih =>
      intro state holds
      exact ⟨(before state holds).1, ih _ (before state holds).2⟩

/-- A rule that keeps states of that kind leads through a program that is alone. -/
theorem run {program : Program σ α} (follows : FollowsWhile Holds Rule program)
    (same : ∀ state, Rule state state)
    (trans : ∀ {before between after}, Rule before between → Rule between after → Rule before after)
    (keeps : ∀ {before after}, Rule before after → Holds before → Holds after)
    {state : σ} (holds : Holds state) : Rule state (program.run state).2 := by
  induction program generalizing state with
  | done value => exact same state
  | step reach act next ih =>
      rcases follows state holds with ⟨ruled, later⟩
      exact trans ruled (ih _ later (keeps ruled holds))

end FollowsWhile

/-- A program that follows a rule under a condition that always holds follows every weaker rule. -/
theorem FollowsWhile.follows {Also : σ → σ → Prop} {program : Program σ α}
    (follows : FollowsWhile (fun _ => True) Rule program)
    (weaker : ∀ before after, Rule before after → Also before after) : Follows Also program := by
  induction program with
  | done value => trivial
  | step reach act next ih =>
      intro state
      rcases follows state trivial with ⟨ruled, later⟩
      exact ⟨weaker _ _ ruled, ih _ later⟩

/-- A rule leads from the beginning of a program that is alone to its end. -/
theorem Follows.run {program : Program σ α} (follows : Follows Rule program)
    (same : ∀ state, Rule state state)
    (trans : ∀ {before between after}, Rule before between → Rule between after → Rule before after)
    (state : σ) : Rule state (program.run state).2 := by
  have always : FollowsWhile (fun _ => True) Rule program := follows.while
  exact always.run same trans (fun _ _ => trivial) trivial

/-- What holds of the steps of a program holds of its steps on a larger state. -/
theorem Follows.within {get : τ → σ} {set : τ → σ → τ} {Also : τ → τ → Prop}
    {program : Program σ α} (follows : Follows Rule program)
    (lifts : ∀ whole part, Rule (get whole) part → Also whole (set whole part)) :
    Follows Also (program.within get set) := by
  induction program with
  | done value => trivial
  | step reach act next ih =>
      intro whole
      rcases follows (get whole) with ⟨ruled, later⟩
      exact ⟨lifts whole _ ruled, ih _ later⟩

end Program
end BpnDirectory
