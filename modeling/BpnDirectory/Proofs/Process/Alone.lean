import BpnDirectory.Process.Program

namespace BpnDirectory
namespace Program

/-!
Programs that are alone.

A program that nothing comes between leads from one state to another.  What it ensures
is what it makes of every state of a certain kind, and a program of parts ensures what
its parts do one after the other.
-/

variable {σ α β : Type}

theorem run_bind (first : Program σ α) (rest : α → Program σ β) (state : σ) :
    (first >>= rest).run state = (rest (first.run state).1).run (first.run state).2 := by
  induction first generalizing state with
  | done value => rfl
  | step reach act next ih => exact ih _ _

/-- A first part that fails is the end of a program that may fail. -/
theorem run_except_bind {ε : Type} (first : ExceptT ε (Program σ) α)
    (rest : α → ExceptT ε (Program σ) β) (state : σ) :
    (first >>= rest).run.run state =
      match (first.run.run state).1 with
      | .ok value => (rest value).run.run (first.run.run state).2
      | .error error => (.error error, (first.run.run state).2) := by
  change (first.run >>= ExceptT.bindCont rest : Program σ _).run state = _
  rw [run_bind]
  cases (first.run.run state).1 <;> rfl

/-- How many calls on the store a program makes that is alone. -/
def storeCalls : Program σ α → σ → Nat
  | .done _, _ => 0
  | .step reach act next, state =>
    (if reach = .store then 1 else 0) + (next (act state).1).storeCalls (act state).2

theorem storeCalls_bind (first : Program σ α) (rest : α → Program σ β) (state : σ) :
    (first >>= rest).storeCalls state =
      first.storeCalls state + (rest (first.run state).1).storeCalls (first.run state).2 := by
  induction first generalizing state with
  | done value => exact (Nat.zero_add _).symm
  | step reach act next ih =>
      calc
        (Program.step reach act next >>= rest).storeCalls state =
            (if reach = .store then 1 else 0) +
              (next (act state).1 >>= rest).storeCalls (act state).2 := rfl
        _ = _ := by rw [ih, ← Nat.add_assoc]; rfl

/-- Whether a program that is alone leads from every state of a kind to a value and a state
as they should be. -/
def Ensures (Before : σ → Prop) (program : Program σ α) (After : α → σ → Prop) : Prop :=
  ∀ state, Before state → After (program.run state).1 (program.run state).2

variable {Before : σ → Prop} {program : Program σ α}

theorem Ensures.bind {Middle : α → σ → Prop} {After : β → σ → Prop} {rest : α → Program σ β}
    (first : Ensures Before program Middle)
    (second : ∀ value, Ensures (Middle value) (rest value) After) :
    Ensures Before (program >>= rest) After := by
  intro state before
  rw [run_bind]
  exact second _ _ (first state before)

theorem Ensures.mono {After Also : α → σ → Prop} (ensures : Ensures Before program After)
    (weaker : ∀ value state, After value state → Also value state) :
    Ensures Before program Also :=
  fun state before => weaker _ _ (ensures state before)

end Program
end BpnDirectory
