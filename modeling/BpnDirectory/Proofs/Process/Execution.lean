import BpnDirectory.Proofs.Process.Course

namespace BpnDirectory
namespace Program

/-!
What a program has come to.

A program that was at one point at some time is at another point at a later time,
by those of the steps in between that were its own.  The statements here take such a
stretch of its execution apart: at the first step of the program, or where its first
part was done and the rest began.  Unlike a program that upholds the course of
events, one that has come to some point need not be done, so this also tells what
led to a step that a program is about to take.
-/

variable {σ α β : Type}

/-- What the next step of a program works on. -/
def reach? : Program σ α → Option Reach
  | .done _ => none
  | .step reach _ _ => some reach

/-- Whether a program at one point at a time is at another point at a later time.
Its own steps are known by what they work on and when they are taken. -/
inductive Becomes (state : Nat → σ) (IsOwn : Reach → Nat → Prop) :
    Program σ α → Nat → Program σ α → Nat → Prop
  | refl (program : Program σ α) (time : Nat) : Becomes state IsOwn program time program time
  | idle {first program : Program σ α} {start time : Nat} :
      Becomes state IsOwn first start program time →
      Becomes state IsOwn first start program (time + 1)
  | step {first : Program σ α} {start time : Nat} {γ : Type} {reach : Reach} {act : σ → γ × σ}
      {next : γ → Program σ α} :
      Becomes state IsOwn first start (.step reach act next) time → IsOwn reach time →
      state (time + 1) = (act (state time)).2 →
      Becomes state IsOwn first start (next (act (state time)).1) (time + 1)

variable {state : Nat → σ} {IsOwn : Reach → Nat → Prop} {start time : Nat}

namespace Becomes

theorem le {first program : Program σ α} (becomes : Becomes state IsOwn first start program time) :
    start ≤ time := by
  induction becomes with
  | refl => exact Nat.le_refl _
  | idle _ ih => exact Nat.le_succ_of_le ih
  | step _ _ _ ih => exact Nat.le_succ_of_le ih

theorem trans {first between program : Program σ α} {middle : Nat}
    (becomes : Becomes state IsOwn first start between middle)
    (later : Becomes state IsOwn between middle program time) :
    Becomes state IsOwn first start program time := by
  induction later with
  | refl => exact becomes
  | idle _ ih => exact (ih becomes).idle
  | step _ own moved ih => exact (ih becomes).step own moved

/-- Whatever a program has come to, it may rest there. -/
theorem rest {first program : Program σ α} {later : Nat}
    (becomes : Becomes state IsOwn first start program time) (after : time ≤ later) :
    Becomes state IsOwn first start program later := by
  induction after with
  | refl => exact becomes
  | step _ ih => exact ih.idle

/-- A program that is done stays as it is. -/
theorem of_done {value : α} {program : Program σ α}
    (becomes : Becomes state IsOwn (.done value) start program time) :
    program = .done value := by
  induction becomes with
  | refl => rfl
  | idle _ ih => exact ih
  | step _ _ _ ih => cases ih

/-- A program is where it was, or it has taken its first step and gone on from there. -/
theorem of_step {γ : Type} {reach : Reach} {act : σ → γ × σ} {next : γ → Program σ α}
    {program : Program σ α}
    (becomes : Becomes state IsOwn (.step reach act next) start program time) :
    program = .step reach act next ∨
      ∃ first, start ≤ first ∧ first < time ∧ IsOwn reach first ∧
        state (first + 1) = (act (state first)).2 ∧
        Becomes state IsOwn (next (act (state first)).1) (first + 1) program time := by
  induction becomes with
  | refl => exact Or.inl rfl
  | idle _ ih =>
      rcases ih with unmoved | ⟨first, after, before, own, moved, rest⟩
      · exact Or.inl unmoved
      · exact Or.inr ⟨first, after, Nat.lt_succ_of_lt before, own, moved, rest.idle⟩
  | step earlier own moved ih =>
      right
      rcases ih with unmoved | ⟨first, after, before, own', moved', rest⟩
      · cases unmoved
        exact ⟨_, earlier.le, Nat.lt_succ_self _, own, moved, .refl _ _⟩
      · exact ⟨first, after, Nat.lt_succ_of_lt before, own', moved', rest.step own moved⟩

/-- A program that is done has taken its first step. -/
theorem done_of_step {γ : Type} {reach : Reach} {act : σ → γ × σ} {next : γ → Program σ α}
    {value : α}
    (becomes : Becomes state IsOwn (.step reach act next) start (.done value) time) :
    ∃ first, start ≤ first ∧ first < time ∧ IsOwn reach first ∧
      state (first + 1) = (act (state first)).2 ∧
      Becomes state IsOwn (next (act (state first)).1) (first + 1) (.done value) time := by
  rcases becomes.of_step with absurdity | taken
  · cases absurdity
  · exact taken

/-- Of two programs one after the other, the first one is under way, or it is done
and the second one has gone on from there. -/
theorem of_bind {first : Program σ α} {rest : α → Program σ β} {program : Program σ β}
    (becomes : Becomes state IsOwn (first >>= rest) start program time) :
    (∃ part, program = part >>= rest ∧ Becomes state IsOwn first start part time) ∨
      ∃ value middle, Becomes state IsOwn first start (.done value) middle ∧
        Becomes state IsOwn (rest value) middle program time := by
  induction becomes with
  | refl => exact Or.inl ⟨first, rfl, .refl _ _⟩
  | idle _ ih =>
      rcases ih with ⟨part, whole, under⟩ | ⟨value, middle, before, after⟩
      · exact Or.inl ⟨part, whole, under.idle⟩
      · exact Or.inr ⟨value, middle, before, after.idle⟩
  | step _ own moved ih =>
      rcases ih with ⟨part, whole, under⟩ | ⟨value, middle, before, after⟩
      · cases part with
        | done value =>
            -- The first program took no step any more, so this one is of the second.
            change _ = rest value at whole
            refine Or.inr ⟨value, _, under, ?_⟩
            rw [← whole]
            exact .step (.refl _ _) own moved
        | step reach act next =>
            change _ = Program.step reach act fun seen => next seen >>= rest at whole
            cases whole
            exact Or.inl ⟨_, rfl, under.step own moved⟩
      · exact Or.inr ⟨value, middle, before, after.step own moved⟩

/-- Two programs one after the other are done when the second one is. -/
theorem done_of_bind {first : Program σ α} {rest : α → Program σ β} {value : β}
    (becomes : Becomes state IsOwn (first >>= rest) start (.done value) time) :
    ∃ between middle, Becomes state IsOwn first start (.done between) middle ∧
      Becomes state IsOwn (rest between) middle (.done value) time := by
  rcases becomes.of_bind with ⟨part, whole, under⟩ | halves
  · cases part with
    | done between =>
        refine ⟨between, time, under, ?_⟩
        rw [whole]
        exact .refl _ _
    | step reach act next => cases whole
  · exact halves

/-- A step of two programs one after the other is one of the first, after which the
second one still follows, or one of the second. -/
theorem step_of_bind {γ : Type} {first : Program σ α} {rest : α → Program σ β} {reach : Reach}
    {act : σ → γ × σ} {next : γ → Program σ β}
    (becomes : Becomes state IsOwn (first >>= rest) start (.step reach act next) time) :
    (∃ part : γ → Program σ α, (∀ seen, next seen = part seen >>= rest) ∧
      Becomes state IsOwn first start (.step reach act part) time) ∨
      ∃ between middle, Becomes state IsOwn first start (.done between) middle ∧
        Becomes state IsOwn (rest between) middle (.step reach act next) time := by
  rcases becomes.of_bind with ⟨part, whole, under⟩ | halves
  · cases part with
    | done between =>
        refine Or.inr ⟨between, time, under, ?_⟩
        rw [whole]
        exact .refl _ _
    | step reach' act' next' =>
        change _ = Program.step reach' act' fun seen => next' seen >>= rest at whole
        cases whole
        exact Or.inl ⟨next', fun _ => rfl, under⟩
  · exact Or.inr halves

end Becomes

/-! ## What the rest of a program inherits -/

theorem Follows.becomes {Rule : σ → σ → Prop} {first program : Program σ α}
    (follows : Follows Rule first) (becomes : Becomes state IsOwn first start program time) :
    Follows Rule program := by
  induction becomes with
  | refl => exact follows
  | idle _ ih => exact ih
  | step _ _ _ ih => exact (ih _).2

/-- What is known of the value of a program in any case stays known. -/
theorem Yields.becomes {Value : α → Prop} {first program : Program σ α}
    (yields : Yields Value first) (becomes : Becomes state IsOwn first start program time) :
    Yields Value program := by
  induction becomes with
  | refl => exact yields
  | idle _ ih => exact ih
  | step _ _ _ ih => exact ih _

/-- Whether a program makes no call on the store any more. -/
def StaysInside : Program σ α → Prop
  | .done _ => True
  | .step reach _ next => reach = .node ∧ ∀ seen, StaysInside (next seen)

theorem StaysInside.bind {first : Program σ α} {rest : α → Program σ β}
    (inside : StaysInside first) (others : ∀ value, StaysInside (rest value)) :
    StaysInside (first >>= rest) := by
  induction first with
  | done value => exact others value
  | step reach act next ih => exact ⟨inside.1, fun seen => ih seen (inside.2 seen)⟩

theorem StaysInside.becomes {first program : Program σ α} (inside : StaysInside first)
    (becomes : Becomes state IsOwn first start program time) : StaysInside program := by
  induction becomes with
  | refl => exact inside
  | idle _ ih => exact ih
  | step _ _ _ ih => exact ih.2 _

end Program
end BpnDirectory
