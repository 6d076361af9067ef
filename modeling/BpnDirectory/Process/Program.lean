namespace BpnDirectory

/-!
Programs of atomic steps.

Several calls may be under way at the same time.  A program lists the steps of
one call: each step looks at the shared state and changes it without anything in
between, while other calls may take steps between two of them.  Running the steps
in one go gives the meaning of a call that is alone; running the steps of several
programs in some order gives the meaning of calls that overlap.
-/

inductive Reach where
  /-- The state of this node. -/
  | node
  /-- The store, by one call. -/
  | store
  deriving DecidableEq, Repr

/-- A call as a sequence of atomic steps on a state. -/
inductive Program (σ : Type) : Type → Type 1 where
  | done {α : Type} (value : α) : Program σ α
  | step {α β : Type} (reach : Reach) (act : σ → β × σ) (next : β → Program σ α) : Program σ α

namespace Program

variable {σ τ α β : Type}

def andThen : Program σ α → (α → Program σ β) → Program σ β
  | .done value, rest => rest value
  | .step reach act next, rest => .step reach act fun seen => (next seen).andThen rest

instance : Monad (Program σ) where
  pure := .done
  bind := andThen

/-- The outcome of a program that is alone, and the state afterwards. -/
def run : Program σ α → σ → α × σ
  | .done value, state => (value, state)
  | .step _ act next, state => (next (act state).1).run (act state).2

/-- A program on a part of a larger state. -/
def within (get : τ → σ) (set : τ → σ → τ) : Program σ α → Program τ α
  | .done value => .done value
  | .step reach act next =>
    .step reach (fun whole => let (seen, part) := act (get whole); (seen, set whole part))
      fun seen => (next seen).within get set

/-- The outcome of a program and of another action that comes in between: right
after the first step on the store before which `lets` holds.  The action has no
outcome if there is no such step. -/
def runInterrupted (lets : σ → Bool) (action : σ → β × σ) :
    Program σ α → σ → (α × Option β) × σ
  | .done value, state => ((value, none), state)
  | .step reach act next, state =>
    let (seen, after) := act state
    if reach = .store ∧ lets state then
      let (other, after) := action after
      let (value, after) := (next seen).run after
      ((value, some other), after)
    else (next seen).runInterrupted lets action after

def change (f : σ → σ) : Program σ Unit :=
  .step .node (fun state => ((), f state)) .done

def look (f : σ → α) : Program σ α :=
  .step .node (fun state => (f state, state)) .done

/-- A step that looks at the state of the node and changes it. -/
def act (f : σ → α × σ) : Program σ α :=
  .step .node f .done

end Program
end BpnDirectory
