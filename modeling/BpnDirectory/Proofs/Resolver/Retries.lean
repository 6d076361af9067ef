import BpnDirectory.Proofs.Process.Alone
import BpnDirectory.Proofs.Resolver.Attempts
import BpnDirectory.Proofs.Store.Atomic
import Mathlib.Data.ENat.Lattice

namespace BpnDirectory
namespace Resolver

/-!
Calls that are made again while the store is unavailable.

A call has a stream of outcomes: what it would yield if it were made again and again.
A request makes the call once more for each of the leading outcomes that say that the
store was unavailable, but not more often than its policy allows, and yields the outcome
of the last call.  A change makes a single request.  So if failed calls leave what a store
keeps, a change is applied once, or it fails and is not applied at all.
-/

open Program (Follows Turns)
open Store (AtomicStore Backend Call Link MappingStore Reply Request)
open Telemetry (Event Sample)

variable {S α K : Type}

/-! ## The outcomes of a call that is made again and again -/

/-- The store after a call was made a number of times. -/
def storeAfter (call : Call S α) (times : Nat) (store : S) : S :=
  (fun store => (call store).2)^[times] store

/-- What the calls yield one after the other, counted from zero. -/
def outcomesOf (call : Call S α) (store : S) (index : Nat) : Except Failure α :=
  (call (storeAfter call index store)).1

/-- Whether an outcome says that the store was unavailable. -/
def IsUnavailable (outcome : Except Failure α) : Prop :=
  ∃ detail, outcome = .error (.storeUnavailable detail)

/-- How many outcomes at the beginning of a stream say that the store was unavailable. -/
noncomputable def leadingUnavailable (outcomes : Nat → Except Failure α) : ℕ∞ :=
  ⨅ index ∈ {index | ¬ IsUnavailable (outcomes index)}, (index : ℕ∞)

/-- The text by which calls with an outcome are told apart where they are counted. -/
def outcomeText : Except Failure α → String
  | .ok _ => "ok"
  | .error (.invalidInput _) => "INVALID_INPUT"
  | .error (.notFound _) => "NOT_FOUND"
  | .error (.alreadyExists _) => "ALREADY_EXISTS"
  | .error (.versionConflict ..) => "VERSION_CONFLICT"
  | .error (.unauthorized _) => "UNAUTHORIZED"
  | .error (.forbidden _) => "FORBIDDEN"
  | .error (.storeUnavailable _) => "STORE_UNAVAILABLE"
  | .error (.cacheInconsistency _) | .error (.database _) | .error (.internal _)
  | .error (.io _) => "INTERNAL_ERROR"

theorem outcomeLabel_eq (outcome : Except Failure α) : outcomeLabel outcome = outcomeText outcome := by
  cases outcome with
  | ok value => rfl
  | error failure => cases failure <;> rfl

/-- What is counted of calls, the first of which is made again a number of times. -/
def attemptEvents (operation : String) (outcomes : Nat → Except Failure α) (retried : Nat) :
    List Event :=
  ((List.range retried).flatMap fun index =>
      [.storeCall operation (outcomeText (outcomes index)), .storeRetry operation]) ++
    [.storeCall operation (outcomeText (outcomes retried))]

/-- Of all outcomes exactly those that say that the store was unavailable are worth another
call. -/
theorem isWorthRetrying_iff {outcome : Except Failure α} :
    isWorthRetrying outcome = true ↔ IsUnavailable outcome := by
  cases outcome with
  | ok value => simp [isWorthRetrying, IsUnavailable]
  | error failure => cases failure <;> simp [isWorthRetrying, Failure.isTransient, IsUnavailable]

theorem le_leadingUnavailable_iff {outcomes : Nat → Except Failure α} {count : Nat} :
    (count : ℕ∞) ≤ leadingUnavailable outcomes ↔ ∀ index < count, IsUnavailable (outcomes index) := by
  simp only [leadingUnavailable, le_iInf_iff, Set.mem_ofPred_eq, Nat.cast_le]
  constructor
  · intro least index before
    by_contra available
    exact absurd (least index available) (Nat.not_le.mpr before)
  · intro unavailable index available
    by_contra before
    exact available (unavailable index (Nat.not_le.mp before))

/-- The retries that are made are the leading outcomes that ask for one, up to the limit. -/
theorem cast_eq_min_leadingUnavailable {outcomes : Nat → Except Failure α} {retried limit : Nat}
    (bounded : retried ≤ limit) (unavailable : ∀ index < retried, IsUnavailable (outcomes index))
    (last : retried = limit ∨ ¬ IsUnavailable (outcomes retried)) :
    (retried : ℕ∞) = min (leadingUnavailable outcomes) limit := by
  apply le_antisymm
  · exact le_min (le_leadingUnavailable_iff.mpr unavailable) (Nat.cast_le.mpr bounded)
  · rcases last with rfl | available
    · exact min_le_right _ _
    · exact (min_le_left _ _).trans (iInf₂_le retried available)

/-- The first outcome that asks for no other call, unless the limit is reached before. -/
theorem exists_retried (outcomes : Nat → Except Failure α) (limit : Nat) :
    ∃ retried ≤ limit, (∀ index < retried, IsUnavailable (outcomes index)) ∧
      (retried = limit ∨ ¬ IsUnavailable (outcomes retried)) := by
  induction limit with
  | zero => exact ⟨0, Nat.le_refl 0, nofun, Or.inl rfl⟩
  | succ limit ih =>
      rcases ih with ⟨retried, bounded, unavailable, last⟩
      by_cases again : IsUnavailable (outcomes retried)
      · -- The limit was reached, and it has been raised by one.
        obtain rfl := last.resolve_right (not_not_intro again)
        refine ⟨retried + 1, Nat.le_refl _, ?_, Or.inl rfl⟩
        intro index before
        rcases Nat.lt_succ_iff_lt_or_eq.mp before with earlier | rfl
        · exact unavailable index earlier
        · exact again
      · exact ⟨retried, Nat.le_succ_of_le bounded, unavailable, Or.inr again⟩

/-- The sample of the calls of an operation whose outcome has a text. -/
def outcomeSample (operation text : String) : Sample :=
  ⟨"store_operations_total", [("operation", operation), ("outcome", text)]⟩

theorem attemptEvents_succ (operation : String) (outcomes : Nat → Except Failure α) (retried : Nat) :
    attemptEvents operation outcomes (retried + 1) =
      .storeCall operation (outcomeText (outcomes 0)) :: .storeRetry operation ::
        attemptEvents operation (fun index => outcomes (index + 1)) retried := by
  simp [attemptEvents, List.range_succ_eq_map, List.flatMap_map]

section

variable (operation : String) (outcomes : Nat → Except Failure α) (retried : Nat)

/-- Of these events, calls are told apart by their outcomes, and all retries are alike. -/
theorem countP_attemptEvents (counts : Event → Bool) :
    (attemptEvents operation outcomes retried).countP counts =
      ((List.range (retried + 1)).countP fun index =>
          counts (.storeCall operation (outcomeText (outcomes index)))) +
        if counts (.storeRetry operation) then retried else 0 := by
  induction retried generalizing outcomes with
  | zero => simp [attemptEvents, List.countP_cons]
  | succ retried ih =>
      rw [attemptEvents_succ, List.range_succ_eq_map, List.countP_cons, List.countP_cons, ih,
        List.countP_cons, List.countP_map]
      simp only [Function.comp_def, Nat.succ_eq_add_one]
      split <;> omega

/-- As many retries are counted as are made. -/
theorem count_storeRetry_attemptEvents :
    (attemptEvents operation outcomes retried).count (.storeRetry operation) = retried := by
  rw [List.count, countP_attemptEvents]
  simp

/-- Every call is counted under the text of its own outcome. -/
theorem count_storeCall_attemptEvents (text : String) :
    (attemptEvents operation outcomes retried).count (.storeCall operation text) =
      (List.range (retried + 1)).countP fun index => outcomeText (outcomes index) = text := by
  rw [List.count, countP_attemptEvents, if_neg (by simp), Nat.add_zero]
  refine List.countP_congr fun index _ => ?_
  simp

/-- The sample of the retries rises by their number. -/
theorem count_retrySample_attemptEvents :
    Telemetry.count (attemptEvents operation outcomes retried)
      ⟨"store_retries_total", [("operation", operation)]⟩ = retried := by
  rw [Telemetry.count, countP_attemptEvents]
  simp [Event.samples, Sample.isSame]

/-- The samples of the calls with a text rise by the number of those that are counted as one with
them. -/
theorem count_outcomeSample_attemptEvents (text : String) :
    Telemetry.count (attemptEvents operation outcomes retried) (outcomeSample operation text) =
      (List.range (retried + 1)).countP fun index => (outcomeSample operation text).isSame
        (outcomeSample operation (outcomeText (outcomes index))) := by
  rw [Telemetry.count, countP_attemptEvents]
  simp [Event.samples, Sample.isSame, outcomeSample]

/-- The sample of the calls of an operation rises by their number. -/
theorem count_callSample_attemptEvents :
    Telemetry.count (attemptEvents operation outcomes retried)
      ⟨"store_operation_duration_seconds_count", [("operation", operation)]⟩ = retried + 1 := by
  rw [Telemetry.count, countP_attemptEvents]
  simp [Event.samples, Sample.isSame]

end

/-- What is counted on top of other events adds to what was counted of them. -/
theorem telemetryCount_reverse_append (latest events : List Event) (sample : Sample) :
    Telemetry.count (latest.reverse ++ events) sample =
      Telemetry.count events sample + Telemetry.count latest sample := by
  unfold Telemetry.count
  rw [List.countP_append, List.countP_reverse, Nat.add_comm]

theorem count_reverse_append (latest events : List Event) (event : Event) :
    (latest.reverse ++ events).count event = events.count event + latest.count event := by
  rw [List.count_append, List.count_reverse, Nat.add_comm]

/-! ## One request -/

section

variable {operation : String} {call : Time.Instant → Call S α}

/-- The node after a call was made a number of times, each of which was counted. -/
def Node.afterAttempts (operation : String) (call : Time.Instant → Call S α) (retried : Nat)
    (node : Node S) : Node S :=
  { node with
    store := storeAfter (call node.now) (retried + 1) node.store
    ledger := { node.ledger with
      events := (attemptEvents operation (outcomesOf (call node.now) node.store) retried).reverse ++
        node.ledger.events } }

theorem run_attempt_eq (node : Node S) :
    (attempt operation call).run node =
      (outcomesOf (call node.now) node.store 0, node.afterAttempts operation call 0) := by
  unfold Node.afterAttempts attemptEvents
  rw [← outcomeLabel_eq]
  rfl

/-- The first attempt and the count of a retry come before the other attempts. -/
theorem afterAttempts_succ (retried : Nat) (node : Node S) :
    node.afterAttempts operation call (retried + 1) =
      ((node.afterAttempts operation call 0).record (.storeRetry operation)).afterAttempts
        operation call retried := by
  simp only [Node.afterAttempts, attemptEvents_succ, List.reverse_cons, List.append_assoc]
  rfl

/-- A call is made until it is not worth making again or no retry is left. -/
theorem run_retrying_of_last (operation : String) (call : Time.Instant → Call S α) (retries : Nat)
    {retried : Nat} {node : Node S}
    (bounded : retried ≤ retries)
    (unavailable : ∀ index < retried, IsUnavailable (outcomesOf (call node.now) node.store index))
    (last : retried = retries ∨ ¬ IsUnavailable (outcomesOf (call node.now) node.store retried)) :
    (retrying operation call retries).run node =
        (outcomesOf (call node.now) node.store retried, node.afterAttempts operation call retried) ∧
      (retrying operation call retries).storeCalls node = retried + 1 := by
  induction retries generalizing retried node with
  | zero =>
      obtain rfl := Nat.le_zero.mp bounded
      exact ⟨run_attempt_eq node, rfl⟩
  | succ retries ih =>
      rw [retrying, Program.run_bind, Program.storeCalls_bind, run_attempt_eq]
      dsimp only
      cases retried with
      | zero =>
          have settled := last.resolve_left nofun
          rw [if_neg (mt isWorthRetrying_iff.mp settled)]
          exact ⟨rfl, rfl⟩
      | succ retried =>
          have again := unavailable 0 (Nat.succ_pos retried)
          rw [if_pos (isWorthRetrying_iff.mpr again), afterAttempts_succ]
          have others := @ih retried
            ((node.afterAttempts operation call 0).record (.storeRetry operation))
            (Nat.le_of_succ_le_succ bounded)
            (fun index before => unavailable (index + 1) (Nat.succ_lt_succ before))
            (last.imp_left Nat.succ.inj)
          constructor
          · exact others.1
          · change 1 + (0 + (retrying operation call retries).storeCalls _) = _
            rw [others.2]
            omega

end

/-! ## One change -/

theorem Settles.run {value : α} {program : Program (Node S) α} (settles : Settles value program)
    (node : Node S) :
    (program.run node).1 = value ∧ (program.run node).2.store = node.store := by
  induction program generalizing node with
  | done seen => exact ⟨settles, rfl⟩
  | step reach act next ih =>
      rcases settles.2 node with ⟨rests, later⟩
      rcases ih _ later (act node).2 with ⟨same, kept⟩
      exact ⟨same, kept.trans rests.2⟩

theorem FollowsUp.run {version : Int} {value : α} {program : Program (Node S) α}
    (follows : FollowsUp version value program) (node : Node S) :
    (program.run node).1 = value ∧ (program.run node).2.store = node.store := by
  induction program generalizing node with
  | done seen => exact follows.elim
  | step reach act next ih =>
      rcases follows.2 with lasts | goesOn
      · rcases lasts node with ⟨followed, ends⟩
        have ran : (Program.step reach act next).run node = (value, node.followCommit version) := by
          rw [Program.run, ends, followed]
          rfl
        rw [ran]
        exact ⟨rfl, store_followCommit version node⟩
      · rcases goesOn node with ⟨rests, later⟩
        rcases ih _ later (act node).2 with ⟨same, kept⟩
        exact ⟨same, kept.trans rests.2⟩

namespace Command

/-- A change that had the reply that counts answers accordingly and leaves the store. -/
theorem EndsAfter.run {reply : Reply} {program : Program (Node S) Answer}
    (ends : EndsAfter reply program) (node : Node S) :
    Answer.ofReply? reply = some (program.run node).1 ∧
      (program.run node).2.store = node.store := by
  cases reply with
  | failed failure => exact (Settles.run ends node).imp (fun same => congrArg some same.symm) id
  | put | putBatch | deleted =>
      exact (FollowsUp.run ends node).imp (fun same => congrArg some same.symm) id
  | _ => exact ends.elim

variable [MappingStore S]

theorem now_of_does {Asks : Request → Prop} {command : Command} {before after : Node S}
    (does : before.Does Asks command.Also after) : after.now = before.now := by
  cases does with
  | does also =>
      cases command with
      | resolve | resolveBatch =>
          rcases also with ⟨key, did, ticket, rfl⟩
          rfl
      | register | rotate | remove | registerBatch =>
          rcases also with ⟨version, rfl⟩
          unfold Node.followCommit
          split <;> rfl
      | dump =>
          rcases also with ⟨generation, dump, rfl⟩
          rfl
      | poll =>
          rcases also with ⟨version, rfl⟩
          rfl
      | _ => exact also.elim
  | _ => rfl

theorem follows_now (policy : Policy) (command : Command) :
    Follows (fun before after => after.now = before.now)
      (command.program policy : Program (Node S) Answer) :=
  (command.follows policy).while.follows fun _ _ => now_of_does

/-- Whatever a change met with before, its last request reaches a store that keeps what was
kept, and the change answers and leaves the store as this request does. -/
theorem run_of_tries {request : Time.Instant → Request} (kept : S → K) {now : Time.Instant}
    (spares : ∀ store failure, ((request now).perform store).1 = .failed failure →
      kept ((request now).perform store).2 = kept store)
    {program : Program (Node S) Answer} (tries : Tries request EndsAfter program)
    (follows : Follows (fun before after : Node S => after.now = before.now) program)
    {node : Node S} (present : node.now = now) :
    ∃ store, kept store = kept node.store ∧
      Answer.ofReply? ((request now).perform store).1 = some (program.run node).1 ∧
      (program.run node).2.store = ((request now).perform store).2 := by
  induction program generalizing node with
  | done answer => exact tries.elim
  | step reach act next ih =>
      rcases follows node with ⟨same, later⟩
      have still : (act node).2.now = now := same.trans present
      rcases tries node with ⟨_, rests, goesOn⟩ | ⟨_, asks, ⟨failure, failed, _, again⟩ | ends⟩
      · rw [← rests.2]
        exact ih _ goesOn later still
      · rcases ih _ again later still with ⟨store, keeps, answers, leaves⟩
        rw [present] at asks failed
        refine ⟨store, keeps.trans ?_, answers, leaves⟩
        rw [asks]
        exact spares node.store failure failed
      · rw [present] at asks ends
        rcases EndsAfter.run ends (act node).2 with ⟨answers, leaves⟩
        refine ⟨node.store, rfl, answers, leaves.trans ?_⟩
        rw [asks]

end Command

/-- A request makes its call again after each leading outcome that says that the store was
unavailable, up to the limit of its policy.  It counts every retry, and every call with the text of
its own outcome, and nothing else.  And if failed calls leave what a store keeps, a change leaves it
as one request leaves it, or it fails and leaves it altogether. -/
theorem retried_while_unavailable [MappingStore S] (policy : Policy) (node : Node S) :
    (∀ {α : Type} (operation : String) (call : Time.Instant → Call S α),
      let outcomes := outcomesOf (call node.now) node.store
      let program := (request policy operation call).run
      let before := node.ledger.events
      let events := (program.run node).2.ledger.events
      let retrySample : Sample := ⟨"store_retries_total", [("operation", operation)]⟩
      let callSample : Sample :=
        ⟨"store_operation_duration_seconds_count", [("operation", operation)]⟩
      ∃ retried : Nat,
        (retried : ℕ∞) = min (leadingUnavailable outcomes) policy.retry.attempts ∧
        (∀ index < retried, IsUnavailable (outcomes index)) ∧
        program.storeCalls node = retried + 1 ∧
        program.run node = (outcomes retried, { node with
          store := storeAfter (call node.now) (retried + 1) node.store
          ledger := { node.ledger with
            events := (attemptEvents operation outcomes retried).reverse ++ before } }) ∧
        events.count (.storeRetry operation) = before.count (.storeRetry operation) + retried ∧
        (∀ text, events.count (.storeCall operation text) =
          before.count (.storeCall operation text) +
            (List.range (retried + 1)).countP fun index => outcomeText (outcomes index) = text) ∧
        (∀ text, Telemetry.count events (outcomeSample operation text) =
          Telemetry.count before (outcomeSample operation text) +
            (List.range (retried + 1)).countP fun index => (outcomeSample operation text).isSame
              (outcomeSample operation (outcomeText (outcomes index)))) ∧
        Telemetry.count events retrySample = Telemetry.count before retrySample + retried ∧
        Telemetry.count events callSample = Telemetry.count before callSample + (retried + 1)) ∧
    ∀ {K : Type} (kept : S → K) (command : Command) (request : Time.Instant → Request),
      (∀ now, command.request? now = some (request now)) →
      (∀ store failure, ((request node.now).perform store).1 = .failed failure →
        kept ((request node.now).perform store).2 = kept store) →
      let ran := (command.program policy).run node
      (∃ failure, ran.1 = .failed failure) ∧ kept ran.2.store = kept node.store ∨
        (∀ failure, ran.1 ≠ .failed failure) ∧ ∃ store, kept store = kept node.store ∧
          Answer.ofReply? ((request node.now).perform store).1 = some ran.1 ∧
          ran.2.store = ((request node.now).perform store).2 := by
  constructor
  · intro α operation call outcomes program before events retrySample callSample
    rcases exists_retried outcomes policy.retry.attempts with ⟨retried, bounded, unavailable, last⟩
    rcases run_retrying_of_last operation call _ bounded unavailable last with ⟨ran, calls⟩
    have counted : events = (attemptEvents operation outcomes retried).reverse ++ before :=
      congrArg (fun result => result.2.ledger.events) ran
    refine ⟨retried, ?_, unavailable, calls, ran, ?_⟩
    · exact cast_eq_min_leadingUnavailable bounded unavailable last
    rw [counted, count_reverse_append, telemetryCount_reverse_append, telemetryCount_reverse_append,
      count_storeRetry_attemptEvents, count_retrySample_attemptEvents,
      count_callSample_attemptEvents]
    refine ⟨rfl, ?_, ?_, rfl, rfl⟩
    · intro text
      rw [count_reverse_append, count_storeCall_attemptEvents]
    · intro text
      rw [telemetryCount_reverse_append, count_outcomeSample_attemptEvents]
  · intro K kept command request requests spares ran
    rcases Command.refused_or_tries (S := S) policy requests with ⟨failure, _, refused⟩ | ⟨_, tries⟩
    · left
      have same : ran = (.failed failure, node) := congrArg (·.run node) refused
      rw [same]
      exact ⟨⟨failure, rfl⟩, rfl⟩
    · rcases Command.run_of_tries kept spares tries (Command.follows_now policy command) rfl with
        ⟨store, keeps, answers, leaves⟩
      cases reply : ((request node.now).perform store).1 with
      | failed failure =>
          left
          rw [reply] at answers
          refine ⟨⟨failure, (Option.some.inj answers).symm⟩, ?_⟩
          rw [leaves, spares store failure reply, keeps]
      | _ =>
          right
          refine ⟨?_, store, keeps, answers, leaves⟩
          intro failure failed
          rw [reply, failed] at answers
          cases answers

/-- A node whose link to an empty store is down for two calls. -/
def Node.cutOff : Node (Link Backend) :=
  .start ((Link.up (.memory .empty)).cut 2 (.storeUnavailable "connection refused"))
    ⟨true, 4, 1, none⟩ Request.noon

/-- The third call reaches the store, and the record is created once. -/
theorem registration_retried_while_unavailable :
    let command : Command := .register "BPNL00000000000A" "did:web:first"
    let ran := (command.program ⟨10, 10, 10, ⟨3, 0, 0⟩⟩).run Node.cutOff
    ran.2.store.calls = 3 ∧ (∀ failure, ran.1 ≠ .failed failure) ∧
      ∃ link : Link Backend, link.store = Node.cutOff.store.store ∧
        ran.2.store =
          ((Request.put Request.noon "BPNL00000000000A" "did:web:first" none).perform link).2 := by
  intro command ran
  have made : ran.1 = .record ⟨"BPNL00000000000A", "did:web:first", 1, Request.noon, Request.noon⟩ := by
    decide +kernel
  refine ⟨by decide +kernel, ?_⟩
  have outcome := (retried_while_unavailable ⟨10, 10, 10, ⟨3, 0, 0⟩⟩ Node.cutOff).2
    (fun link : Link Backend => link.store) command
    (fun now => .put now "BPNL00000000000A" "did:web:first" none) (fun _ => rfl)
    (fun _ _ failed => AtomicStore.kept_of_failed _ failed)
  rcases outcome with ⟨⟨failure, failed⟩, _⟩ | ⟨succeeded, link, keeps, _, leaves⟩
  · cases made.symm.trans failed
  · exact ⟨succeeded, link, keeps, leaves⟩

end Resolver
end BpnDirectory
