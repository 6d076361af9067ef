import BpnDirectory.Proofs.Resolver.Events

namespace BpnDirectory
namespace Resolver

/-!
The stages of a node's operations.

An operation that has come to some step has been through the stages before: what it
was told by the store, and what it saw of the node, is known from its own earlier
steps.
-/

open Program (Becomes Follows StaysInside)
open Store (Call MappingStore)

variable {S α β γ : Type} {state : Nat → Node S} {IsOwn : Reach → Nat → Prop} {start time : Nat}
  {reach : Reach}

namespace Operation

/-- An operation that has succeeded went on after its first part had. -/
theorem ok_of_bind {operation : Operation S α} {rest : α → Operation S β} {value : β}
    (becomes : Becomes state IsOwn (operation >>= rest).run start (.done (.ok value)) time) :
    ∃ between middle, Becomes state IsOwn operation.run start (.done (.ok between)) middle ∧
      Becomes state IsOwn (rest between).run middle (.done (.ok value)) time := by
  rcases Becomes.done_of_bind becomes with ⟨outcome, middle, first, second⟩
  cases outcome with
  | ok between => exact ⟨between, middle, first, second⟩
  | error failure => cases second.of_done

/-- A step of an operation is one of its first part, or that part had succeeded. -/
theorem step_of_bind {operation : Operation S α} {rest : α → Operation S β}
    {act : Node S → γ × Node S} {next : γ → Program (Node S) (Except Failure β)}
    (becomes : Becomes state IsOwn (operation >>= rest).run start (.step reach act next) time) :
    (∃ part : γ → Program (Node S) (Except Failure α),
      (∀ seen, next seen = part seen >>= ExceptT.bindCont rest) ∧
      Becomes state IsOwn operation.run start (.step reach act part) time) ∨
      ∃ between middle, Becomes state IsOwn operation.run start (.done (.ok between)) middle ∧
        Becomes state IsOwn (rest between).run middle (.step reach act next) time := by
  rcases Becomes.step_of_bind becomes with first | ⟨outcome, middle, first, second⟩
  · exact Or.inl first
  · right
    cases outcome with
    | ok between => exact ⟨between, middle, first, second⟩
    | error failure => cases second.of_done

theorem done_of_act {f : Node S → α × Node S} {outcome : Except Failure α}
    (becomes : Becomes state IsOwn (act f).run start (.done outcome) time) :
    ∃ step, start ≤ step ∧ step < time ∧ IsOwn .node step ∧
      state (step + 1) = (f (state step)).2 ∧ outcome = .ok (f (state step)).1 := by
  rcases Becomes.done_of_step becomes with ⟨step, after, before, own, moved, rest⟩
  cases rest.of_done
  exact ⟨step, after, before, own, moved, rfl⟩

theorem done_of_change {f : Node S → Node S} {outcome : Except Failure Unit}
    (becomes : Becomes state IsOwn (change f).run start (.done outcome) time) :
    ∃ step, start ≤ step ∧ step < time ∧ IsOwn .node step ∧ state (step + 1) = f (state step) := by
  rcases Becomes.done_of_step becomes with ⟨step, after, before, own, moved, _⟩
  exact ⟨step, after, before, own, moved⟩

theorem step_of_act {f : Node S → α × Node S} {act' : Node S → γ × Node S}
    {next : γ → Program (Node S) (Except Failure α)}
    (becomes : Becomes state IsOwn (act f).run start (.step reach act' next) time) :
    Program.step reach act' next = .step .node f fun seen => .done (.ok seen) := by
  rcases Becomes.of_step becomes with same | ⟨_, _, _, _, _, rest⟩
  · exact same
  · cases rest.of_done

theorem step_of_change {f : Node S → Node S} {act : Node S → γ × Node S}
    {next : γ → Program (Node S) (Except Failure Unit)}
    (becomes : Becomes state IsOwn (change f).run start (.step reach act next) time) :
    Program.step reach act next = .step .node (fun node => ((), f node)) fun seen => .done (.ok seen) :=
  step_of_act becomes

theorem staysInside_bind {operation : Operation S α} {rest : α → Operation S β}
    (first : StaysInside operation.run) (second : ∀ value, StaysInside (rest value).run) :
    StaysInside (operation >>= rest).run := by
  refine StaysInside.bind first ?_
  intro outcome
  cases outcome with
  | ok value => exact second value
  | error failure => trivial

theorem staysInside_act (f : Node S → α × Node S) : StaysInside (act f).run :=
  ⟨rfl, fun _ => trivial⟩

theorem staysInside_change (f : Node S → Node S) : StaysInside (change f).run :=
  ⟨rfl, fun _ => trivial⟩

/-- A step of an operation that begins with a check is one of the rest. -/
theorem step_of_check_bind {outcome : Except Failure α} {rest : α → Operation S β}
    {act : Node S → γ × Node S} {next : γ → Program (Node S) (Except Failure β)}
    (becomes : Becomes state IsOwn (check outcome >>= rest).run start (.step reach act next) time) :
    ∃ value, outcome = .ok value ∧
      Becomes state IsOwn (rest value).run start (.step reach act next) time := by
  cases outcome with
  | ok value => exact ⟨value, rfl, becomes⟩
  | error failure => cases Becomes.of_done becomes

end Operation

namespace Command

theorem step_of_answered {make : α → Answer} {operation : Operation S α}
    {act : Node S → γ × Node S} {next : γ → Program (Node S) Answer}
    (becomes : Becomes state IsOwn (answered make operation) start (.step reach act next) time) :
    ∃ part, (∀ seen, next seen = part seen >>= fun outcome => pure (.ofOutcome make outcome)) ∧
      Becomes state IsOwn operation.run start (.step reach act part) time := by
  rcases becomes.step_of_bind with first | ⟨_, _, _, second⟩
  · exact first
  · cases second.of_done

theorem done_of_answered {make : α → Answer} {operation : Operation S α} {answer : Answer}
    (becomes : Becomes state IsOwn (answered make operation) start (.done answer) time) :
    ∃ outcome, answer = .ofOutcome make outcome ∧
      Becomes state IsOwn operation.run start (.done outcome) time := by
  rcases becomes.done_of_bind with ⟨outcome, middle, first, second⟩
  cases second.of_done
  exact ⟨outcome, rfl, first.rest second.le⟩

end Command

/-! ## What the steps of a call do -/

namespace Command

/-- The request of a change at a reading of the clock. -/
def request? : Command → Time.Instant → Option Store.Request
  | .register bpn did, now => some (.put now bpn did none)
  | .rotate bpn did expected, now => some (.put now bpn did (some expected))
  | .remove bpn expected, _ => some (.delete bpn expected)
  | .registerBatch batch, now => some (.putBatch now batch)
  | _, _ => none

/-- The requests that a call may make: those that only read, and its own. -/
def Asks (command : Command) (request : Store.Request) : Prop :=
  request.isChange = false ∨ ∃ now, command.request? now = some request

/-- A call is to change records, or it only reads. -/
theorem requests_or_reads (command : Command) :
    (∃ request : Time.Instant → Store.Request, ∀ now, command.request? now = some (request now)) ∨
      ∀ request, command.Asks request → request.isChange = false := by
  cases command with
  | register | rotate | remove | registerBatch => exact Or.inl ⟨_, fun _ => rfl⟩
  | _ => exact Or.inr fun _ asked => asked.resolve_right nofun

/-- What a call does besides what all of them do. -/
def Also : Command → Node S → Node S → Prop
  | .resolve _, before, after | .resolveBatch _, before, after =>
    ∃ key did ticket, after = before.populate key did ticket
  | .register .., before, after | .rotate .., before, after | .remove .., before, after
  | .registerBatch _, before, after => ∃ version, after = before.followCommit version
  | .dump, before, after => ∃ generation dump, after = installDump generation dump before
  | .poll, before, after => ∃ version, after = (observe version before).2
  | _, _, _ => False

theorem follows_answered {Rule : Node S → Node S → Prop} {make : α → Answer}
    {operation : Operation S α} (follows : Follows Rule operation.run) :
    Follows Rule (answered make operation) :=
  follows.bind fun _ => trivial

variable [MappingStore S]

theorem follows (policy : Policy) (command : Command) :
    Follows (Node.Does command.Asks command.Also) (command.program policy : Program (Node S) _) := by
  have reads : ∀ {request : Store.Request}, request.isChange = false → command.Asks request := Or.inl
  cases command with
  | resolve bpn =>
      exact follows_answered
        (follows_resolve policy bpn (reads rfl) fun did ticket _ => ⟨bpn, did, ticket, rfl⟩)
  | resolveBatch bpns =>
      exact follows_answered (follows_resolveBatch policy bpns (fun _ => reads rfl)
        fun bpn did ticket _ => ⟨bpn, did, ticket, rfl⟩)
  | register bpn did =>
      exact follows_answered (follows_register (fun version _ => ⟨version, rfl⟩) policy bpn did
        fun now => Or.inr ⟨now, rfl⟩)
  | rotate bpn did expected =>
      exact follows_answered (follows_rotate (fun version _ => ⟨version, rfl⟩) policy bpn did expected
        fun now => Or.inr ⟨now, rfl⟩)
  | remove bpn expected =>
      exact follows_answered (follows_remove (fun version _ => ⟨version, rfl⟩) policy bpn expected
        (Or.inr ⟨Store.Request.noon, rfl⟩))
  | registerBatch batch =>
      exact follows_answered (follows_registerBatch (fun version _ => ⟨version, rfl⟩) policy batch
        fun now => Or.inr ⟨now, rfl⟩)
  | record bpn => exact follows_answered (follows_record policy bpn (reads rfl))
  | findByDid did => exact follows_answered (follows_findByDid policy did (reads rfl))
  | list token size => exact follows_answered (follows_list policy token size fun _ => reads rfl)
  | dump =>
      exact follows_answered
        (follows_dumpDirectory policy (reads rfl) fun generation dump _ => ⟨generation, dump, rfl⟩)
  | ping => exact follows_answered (follows_ping (reads rfl))
  | poll => exact follows_answered (follows_poll policy (reads rfl) fun version _ => ⟨version, rfl⟩)
  | reconcile => exact follows_answered follows_reconcile
  | shutdown => exact follows_answered follows_shutdown

end Command

/-! ## Calls on the store -/

/-- Once it had an outcome, an attempt only counts it. -/
theorem store_step_of_attempt {operation : String} {call : Time.Instant → Call S α}
    {act : Node S → γ × Node S} {next : γ → Program (Node S) (Except Failure α)}
    (becomes : Becomes state IsOwn (attempt operation call) start (.step .store act next) time) :
    ∀ node, next (act node).1 =
      (Program.change (Node.record (.storeCall operation
        (outcomeLabel (call node.now node.store).1))) >>= fun _ =>
          pure (call node.now node.store).1) := by
  rcases Becomes.of_step becomes with same | ⟨_, _, _, _, _, rest⟩
  · cases same
    exact fun node => rfl
  · rcases Becomes.of_step rest with absurdity | ⟨_, _, _, _, _, last⟩
    · cases absurdity
    · cases last.of_done

theorem called_of_attempt {operation : String} {call : Time.Instant → Call S α}
    {outcome : Except Failure α}
    (becomes : Becomes state IsOwn (attempt operation call) start (.done outcome) time) :
    Called state (IsOwn .store) call outcome start time := by
  rcases Becomes.done_of_step becomes with ⟨step, after, before, own, moved, rest⟩
  rcases Becomes.done_of_step rest with ⟨_, _, _, _, _, rest⟩
  cases rest.of_done
  refine ⟨step, after, before, own, ?_⟩
  rw [moved]
  rfl

/-- A call that is tried again until it has an outcome had that outcome when it was
tried last. -/
theorem called_of_retrying {operation : String} {call : Time.Instant → Call S α} {retries : Nat}
    {outcome : Except Failure α}
    (becomes : Becomes state IsOwn (retrying operation call retries) start (.done outcome) time) :
    Called state (IsOwn .store) call outcome start time := by
  induction retries generalizing start with
  | zero => exact called_of_attempt becomes
  | succ retries ih =>
      rcases Becomes.done_of_bind becomes with ⟨first, middle, tried, rest⟩
      have called := called_of_attempt tried
      split at rest
      · rcases Becomes.done_of_step rest with ⟨step, after, _, _, _, again⟩
        exact (ih again).mono (Nat.le_trans tried.le (Nat.le_succ_of_le after)) (Nat.le_refl time)
      · cases rest.of_done
        exact called.mono (Nat.le_refl start) rest.le

theorem called_of_request {policy : Policy} {operation : String}
    {call : Time.Instant → Call S α} {outcome : Except Failure α}
    (becomes : Becomes state IsOwn (request policy operation call).run start (.done outcome) time) :
    Called state (IsOwn .store) call outcome start time :=
  called_of_retrying becomes

/-- Once it has succeeded, a call is not tried again. -/
theorem store_step_of_retrying {operation : String} {call : Time.Instant → Call S α}
    {retries : Nat} {act : Node S → γ × Node S}
    {next : γ → Program (Node S) (Except Failure α)}
    (becomes : Becomes state IsOwn (retrying operation call retries) start
      (.step .store act next) time) :
    ∀ node value, (call node.now node.store).1 = .ok value → next (act node).1 =
      (Program.change (Node.record (.storeCall operation
        (outcomeLabel (.ok value : Except Failure α)))) >>= fun _ => pure (.ok value)) := by
  induction retries generalizing start with
  | zero =>
      intro node value done
      have counts := store_step_of_attempt becomes node
      rw [done] at counts
      exact counts
  | succ retries ih =>
      rcases Becomes.step_of_bind becomes with ⟨part, same, tried⟩ | ⟨outcome, middle, _, rest⟩
      · intro node value done
        have counts := store_step_of_attempt tried node
        rw [done] at counts
        rw [same, counts]
        rfl
      · split at rest
        · rcases Becomes.of_step rest with unmoved | ⟨_, _, _, _, _, again⟩
          · cases unmoved
          · exact ih again
        · cases rest.of_done

end Resolver
end BpnDirectory
