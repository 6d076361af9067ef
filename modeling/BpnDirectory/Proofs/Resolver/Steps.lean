import BpnDirectory.Proofs.Resolver.Conduct
import BpnDirectory.Proofs.Resolver.Deeds

namespace BpnDirectory
namespace Resolver

/-!
The steps of a node's calls.

Most steps are plain: they put nothing into the cache and leave the store to the one
call that they make on it.  What a call on the store yields is known from the state
that it met, however often it was tried before.
-/

open Program (Follows Upholds)
open Store (Call LawfulStore MappingStore)

variable {S α β : Type}

/-! ## Parts of operations -/

namespace Operation

variable {events : Course (Node S)} {time : Nat}

/-- An operation upholds the course of events if its first part does and, once that
succeeded, the rest does. -/
theorem upholds_bind {operation : Operation S α} {rest : α → Operation S β}
    {Middle : Except Failure α → Nat → Prop} {Ends : Except Failure β → Nat → Prop}
    (fair : events.IsFairUntil time) (first : Upholds events operation.run Middle time)
    (second : ∀ value later, time ≤ later → events.IsFairUntil later →
      Middle (.ok value) later → Upholds events (rest value).run Ends later)
    (failed : ∀ failure later, time ≤ later → events.IsFairUntil later →
      Middle (.error failure) later → Ends (.error failure) later) :
    Upholds events (operation >>= rest).run Ends time := by
  refine Upholds.bind fair first ?_
  intro outcome later after past middle
  cases outcome with
  | ok value => exact second value later after past middle
  | error failure => exact failed failure later after past middle

theorem upholds_act {f : Node S → α × Node S} {Ends : Except Failure α → Nat → Prop}
    (step : ∀ step, time ≤ step → events.IsOwn step → events.IsFairUntil step →
      events.state (step + 1) = (f (events.state step)).2 →
      events.IsFair step ∧ Ends (.ok (f (events.state step)).1) (step + 1)) :
    Upholds events (act f).run Ends time :=
  step

/-- A check takes no step. -/
theorem upholds_check {outcome : Except Failure α} {rest : α → Operation S β}
    {Ends : Except Failure β → Nat → Prop}
    (passed : ∀ value, outcome = .ok value → Upholds events (rest value).run Ends time)
    (failed : ∀ failure, outcome = .error failure → Ends (.error failure) time) :
    Upholds events (check outcome >>= rest).run Ends time := by
  cases outcome with
  | ok value => exact passed value rfl
  | error failure => exact failed failure rfl

end Operation

/-- Whether a call on the store was made between two times as an own step and had an
outcome. -/
def Called (state : Nat → Node S) (IsOwn : Nat → Prop) (call : Time.Instant → Call S α)
    (outcome : Except Failure α) (time later : Nat) : Prop :=
  ∃ step, time ≤ step ∧ step < later ∧ IsOwn step ∧
    call (state step).now (state step).store = (outcome, (state (step + 1)).store)

theorem Called.mono {state : Nat → Node S} {IsOwn : Nat → Prop} {time later : Nat}
    {call : Time.Instant → Call S α} {outcome : Except Failure α}
    {earlier latest : Nat} (called : Called state IsOwn call outcome time later)
    (before : earlier ≤ time) (after : later ≤ latest) :
    Called state IsOwn call outcome earlier latest := by
  rcases called with ⟨step, from_, until_, own, same⟩
  exact ⟨step, Nat.le_trans before from_, Nat.lt_of_lt_of_le until_ after, own, same⟩

variable [MappingStore S]

/-! ## Plain steps -/

theorem plain_record (event : Telemetry.Event) (node : Node S) : node.Plain (node.record event) :=
  .of_same rfl rfl

theorem plain_followCommit (version : Int) (node : Node S) :
    node.Plain (node.followCommit version) := by
  unfold Node.followCommit
  split
  · exact .of_same rfl rfl
  · exact .of_same rfl rfl

theorem plain_invalidate (key : String) (node : Node S) :
    node.Plain (node.invalidate key).2 :=
  .of_cache (Cache.invalidate_evolves key) rfl

theorem plain_lookup (key : String) (node : Node S) : node.Plain (node.lookup key).2 :=
  .of_cache (Cache.lookup_evolves node.ticks key) rfl

/-- Whether a call on a store is one of those that a store offers. -/
def IsCall (call : Time.Instant → Call S α) : Prop :=
  ∀ now store, ∃ request : Store.Request, (call now store).2 = (request.perform store).2

theorem plain_callStore {call : Time.Instant → Call S α} (isCall : IsCall call) (now : Time.Instant)
    (node : Node S) : node.Plain (node.callStore (call now)).2 :=
  ⟨.refl _, Or.inr (isCall now node.store)⟩

/-- What any operation does is plain, if what it does besides is. -/
theorem Node.Does.plain {Asks : Store.Request → Prop} {before after : Node S}
    (does : before.Does Asks Node.Plain after) : before.Plain after := by
  cases does with
  | looks => exact .of_same rfl rfl
  | counts => exact .of_same rfl rfl
  | queues => exact .of_same rfl rfl
  | numbers => exact .of_same rfl rfl
  | keeps evolves => exact .of_cache evolves rfl
  | drops => exact .of_same rfl rfl
  | asks => exact ⟨.refl _, Or.inr ⟨_, rfl⟩⟩
  | does plain => exact plain

/-! ## The call on the store -/

variable [LawfulStore S] {state : Nat → Node S} {IsOwn : Nat → Prop} {time : Nat}

/-- Plain steps are fair. -/
theorem fair_of_plain {step : Nat} {after : Node S} (same : state (step + 1) = after)
    (plain : (state step).Plain after) : (course state IsOwn).IsFair step := by
  subst same
  exact ⟨plain.cache.mono fun _ _ => False.elim, plain.store⟩

theorem upholds_attempt {call : Time.Instant → Call S α} (isCall : IsCall call)
    (operation : String) :
    Upholds (course state IsOwn) (attempt operation call)
      (fun outcome later => Called state IsOwn call outcome time later) time := by
  intro step from_ own past same
  have called : Called state IsOwn call (call (state step).now (state step).store).1 time
      (step + 1) := by
    refine ⟨step, from_, Nat.lt_succ_self step, own, ?_⟩
    change state (step + 1) = _ at same
    rw [same]
    rfl
  refine ⟨fair_of_plain same (plain_callStore isCall _ _), ?_⟩
  intro next after _ _ again
  refine ⟨fair_of_plain again (plain_record _ _), ?_⟩
  exact called.mono (Nat.le_refl time) (Nat.le_succ_of_le after)

/-- The outcome of a call with retries is the one of its last attempt. -/
theorem upholds_retrying {call : Time.Instant → Call S α} (isCall : IsCall call)
    (operation : String) (retries : Nat) (fair : (course state IsOwn).IsFairUntil time) :
    Upholds (course state IsOwn) (retrying operation call retries)
      (fun outcome later => Called state IsOwn call outcome time later) time := by
  induction retries generalizing time with
  | zero => exact upholds_attempt isCall operation
  | succ retries ih =>
      refine Upholds.bind fair (upholds_attempt isCall operation) ?_
      intro outcome later after past called
      split
      · intro step from_ _ past same
        have last : (course state IsOwn).IsFair step := fair_of_plain same (plain_record _ _)
        refine ⟨last, (ih (past.succ last)).mono (past.succ last) ?_⟩
        intro outcome latest _ _ called
        exact called.mono (Nat.le_trans after (Nat.le_succ_of_le from_)) (Nat.le_refl latest)
      · exact called

theorem upholds_request {call : Time.Instant → Call S α} (isCall : IsCall call) (policy : Policy)
    (operation : String) (fair : (course state IsOwn).IsFairUntil time) :
    Upholds (course state IsOwn) (request policy operation call).run
      (fun outcome later => Called state IsOwn call outcome time later) time :=
  upholds_retrying isCall operation policy.retry.attempts fair

/-- An operation that does nothing besides, or what is plain, upholds the course of
events. -/
theorem upholds_plain {operation : Operation S α}
    (follows : Follows (Node.Does (fun _ => True) Node.Plain) operation.run)
    (fair : (course state IsOwn).IsFairUntil time) {Ends : Except Failure α → Nat → Prop}
    (ends : ∀ outcome later, time ≤ later → (course state IsOwn).IsFairUntil later →
      Ends outcome later) :
    Upholds (course state IsOwn) operation.run Ends time :=
  follows.upholds (fun _ _ does => fair_of_plain rfl does.plain) fair ends

end Resolver
end BpnDirectory
