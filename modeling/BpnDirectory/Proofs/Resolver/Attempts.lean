import BpnDirectory.Proofs.Resolver.Detection

namespace BpnDirectory
namespace Resolver

/-!
Changes from their first attempt to their answer.

A change makes one request of the store, again and again while the store is out of
reach.  Once the request has a reply that counts, nothing is open any more: if it was
refused, the change is done with that failure, and if it was committed, the change
tidies up, follows its commit with its very last step, and succeeds.  No other step of
it touches the store or the version that the node knows.
-/

open Program (Becomes Turns)
open Store (Call Exchange MappingStore Reply Request)

variable {S α β : Type}

/-- Whether a step leaves the store and the version that a node knows. -/
def Node.Rests (before after : Node S) : Prop :=
  after.observed = before.observed ∧ after.store = before.store

/-! ## What is left to do after a reply -/

/-- Whether a program leaves the store and the version that the node knows, and is done
with a value. -/
def Settles (value : α) : Program (Node S) α → Prop
  | .done seen => seen = value
  | .step reach act next =>
    reach = .node ∧ ∀ node, node.Rests (act node).2 ∧ Settles value (next (act node).1)

/-- Whether a program settles what is left to do, follows a commit with its last step and
is done with a value. -/
def FollowsUp (version : Int) (value : α) : Program (Node S) α → Prop :=
  Turns Node.Rests (Node.followCommit version) fun _ => .done value

theorem store_followCommit (version : Int) (node : Node S) :
    (node.followCommit version).store = node.store := by
  unfold Node.followCommit
  split <;> rfl

theorem cache_followCommit (version : Int) (node : Node S) :
    (node.followCommit version).cache = node.cache := by
  unfold Node.followCommit
  split <;> rfl

theorem Settles.bind {value : α} {last : β} {program : Program (Node S) α}
    {rest : α → Program (Node S) β} (settles : Settles value program)
    (others : Settles last (rest value)) : Settles last (program >>= rest) := by
  induction program with
  | done seen =>
      have same : seen = value := settles
      exact same ▸ others
  | step reach act next ih =>
      exact ⟨settles.1, fun node => ⟨(settles.2 node).1, ih _ (settles.2 node).2⟩⟩

theorem Settles.followsUp {version : Int} {value : α} {last : β} {program : Program (Node S) α}
    {rest : α → Program (Node S) β} (settles : Settles value program)
    (follows : FollowsUp version last (rest value)) : FollowsUp version last (program >>= rest) := by
  induction program with
  | done seen =>
      have same : seen = value := settles
      exact same ▸ follows
  | step reach act next ih =>
      exact ⟨settles.1, Or.inr fun node => ⟨(settles.2 node).1, ih _ (settles.2 node).2⟩⟩

/-- A program that follows a commit may be followed by one that takes no step. -/
theorem FollowsUp.bind {version : Int} {value : α} {last : β} {program : Program (Node S) α}
    {rest : α → Program (Node S) β} (follows : FollowsUp version value program)
    (ends : rest value = .done last) : FollowsUp version last (program >>= rest) := by
  have turns := Turns.bind follows rest
  rw [show (fun _ : Node S => Program.done value >>= rest) = fun _ => .done last from
    funext fun _ => ends] at turns
  exact turns

section

variable {state : Nat → Node S} {IsOwn : Reach → Nat → Prop} {start time : Nat}

theorem Settles.becomes {value : α} {first program : Program (Node S) α}
    (settles : Settles value first) (becomes : Becomes state IsOwn first start program time) :
    Settles value program := by
  induction becomes with
  | refl => exact settles
  | idle _ ih => exact ih
  | step _ _ _ ih => exact (ih.2 _).2

/-- A program that follows a commit has yet to do so, or it is done. -/
theorem FollowsUp.becomes {version : Int} {value : α} {first program : Program (Node S) α}
    (follows : FollowsUp version value first)
    (becomes : Becomes state IsOwn first start program time) :
    FollowsUp version value program ∨ program = .done value :=
  (Turns.becomes follows becomes).imp id fun ⟨_, _, _, _, _, goesOn⟩ => goesOn.of_done

end

/-! ## Attempts -/

variable [MappingStore S]

/-- Whether a program makes a request of the store, again after each reply that the store is
out of reach, and goes on in a certain way after another reply. -/
def Tries (request : Time.Instant → Request) (After : Reply → Program (Node S) α → Prop) :
    Program (Node S) α → Prop
  | .done _ => False
  | .step reach act next =>
    ∀ node : Node S,
      reach = .node ∧ node.Rests (act node).2 ∧ Tries request After (next (act node).1) ∨
      reach = .store ∧
        (act node).2 = { node with store := ((request node.now).perform node.store).2 } ∧
        ((∃ failure, ((request node.now).perform node.store).1 = .failed failure ∧
            failure.isTransient = true ∧ Tries request After (next (act node).1)) ∨
          After ((request node.now).perform node.store).1 (next (act node).1))

variable {request : Time.Instant → Request}

theorem Tries.bind {After : Reply → Program (Node S) α → Prop}
    {Also : Reply → Program (Node S) β → Prop} {program : Program (Node S) α}
    {rest : α → Program (Node S) β} (tries : Tries request After program)
    (goesOn : ∀ reply left, After reply left → Also reply (left >>= rest)) :
    Tries request Also (program >>= rest) := by
  induction program with
  | done value => exact tries.elim
  | step reach act next ih =>
      intro node
      rcases tries node with ⟨inside, rests, again⟩ | ⟨outside, asks, again | after⟩
      · exact Or.inl ⟨inside, rests, ih _ again⟩
      · rcases again with ⟨failure, failed, transient, again⟩
        exact Or.inr ⟨outside, asks, Or.inl ⟨failure, failed, transient, ih _ again⟩⟩
      · exact Or.inr ⟨outside, asks, Or.inr (goesOn _ _ after)⟩

theorem Settles.tries {value : α} {After : Reply → Program (Node S) β → Prop}
    {program : Program (Node S) α} {rest : α → Program (Node S) β}
    (settles : Settles value program) (tries : Tries request After (rest value)) :
    Tries request After (program >>= rest) := by
  induction program with
  | done seen =>
      have same : seen = value := settles
      exact same ▸ tries
  | step reach act next ih =>
      exact fun node => Or.inl ⟨settles.1, (settles.2 node).1, ih _ (settles.2 node).2⟩

/-- A program that tries is still at it, or has had its reply and gone on. -/
theorem Tries.becomes {state : Nat → Node S} {IsOwn : Reach → Nat → Prop} {start time : Nat}
    {After : Reply → Program (Node S) α → Prop} {first program : Program (Node S) α}
    (tries : Tries request After first)
    (becomes : Becomes state IsOwn first start program time) :
    Tries request After program ∨ ∃ step left, start ≤ step ∧ step < time ∧ IsOwn .store step ∧
      After ((request (state step).now).perform (state step).store).1 left ∧
      Becomes state IsOwn left (step + 1) program time := by
  induction becomes with
  | refl => exact Or.inl tries
  | idle _ ih =>
      rcases ih with still | ⟨step, left, after, before, own, had, rest⟩
      · exact Or.inl still
      · exact Or.inr ⟨step, left, after, Nat.lt_succ_of_lt before, own, had, rest.idle⟩
  | step earlier own moved ih =>
      rcases ih with still | ⟨step, left, after, before, own', had, rest⟩
      · rcases still _ with ⟨_, _, again⟩ | ⟨rfl, _, ⟨_, _, _, again⟩ | had⟩
        · exact Or.inl again
        · exact Or.inl again
        · exact Or.inr ⟨_, _, earlier.le, Nat.lt_succ_self _, own, had, .refl _ _⟩
      · exact Or.inr ⟨step, left, after, Nat.lt_succ_of_lt before, own', had, rest.step own moved⟩

/-! ## The parts of a change -/

omit [MappingStore S] in
theorem settles_record (event : Telemetry.Event) (value : α) :
    Settles value (Program.change (Node.record event) >>= fun _ => pure value : Program (Node S) α) :=
  ⟨rfl, fun _ => ⟨⟨rfl, rfl⟩, rfl⟩⟩

omit [MappingStore S] in
/-- To forget a key takes no notice of the store. -/
theorem settles_forget (bpn : String) : Settles (.ok ()) (forget bpn : Operation S Unit).run := by
  refine ⟨rfl, fun node => ⟨⟨rfl, rfl⟩, ?_⟩⟩
  have drops : Settles (.ok ()) (Operation.change Node.dropDump : Operation S Unit).run :=
    ⟨rfl, fun _ => ⟨⟨rfl, rfl⟩, rfl⟩⟩
  cases outcome : (node.invalidate bpn).1 with
  | ok _ =>
      simp only
      exact drops
  | error failure =>
      simp only
      exact ⟨rfl, fun _ => ⟨⟨rfl, rfl⟩, rfl, fun _ => ⟨⟨rfl, rfl⟩, drops⟩⟩⟩

omit [MappingStore S] in
theorem settles_forgetAll (bpns : List String) :
    Settles (.ok ()) (forgetAll bpns : Operation S Unit).run := by
  induction bpns with
  | nil => rfl
  | cons bpn rest ih => exact Settles.bind (settles_forget bpn) ih

/-- How a program goes on after the outcome of the call by which a change is to be made. -/
def EndsWith : Except Failure (Committed α) → Program (Node S) (Except Failure α) → Prop
  | .ok committed => FollowsUp committed.directoryVersion (.ok committed.value)
  | .error failure => Settles (.error failure)

/-- Whether a program tries a call and is done with its outcome. -/
def TriesCall (request : Time.Instant → Request) (makeReply : α → Reply)
    (program : Program (Node S) (Except Failure α)) : Prop :=
  Tries request (fun reply left => ∃ outcome, reply = .ofOutcome makeReply outcome ∧
    Settles outcome left) program

theorem triesCall_retrying {makeReply : α → Reply} {call : Time.Instant → Call S α}
    (same : ∀ now store, (request now).perform store = Request.answered makeReply (call now) store)
    (operation : String) (retries : Nat) :
    TriesCall request makeReply (retrying operation call retries) := by
  induction retries with
  | zero =>
      intro node
      exact Or.inr ⟨rfl, by rw [same]; rfl, Or.inr ⟨_, by rw [same]; rfl, settles_record _ _⟩⟩
  | succ retries ih =>
      intro node
      refine Or.inr ⟨rfl, by rw [same]; rfl, ?_⟩
      rw [same]
      cases outcome : (node.callStore (call node.now)).1 with
      | ok value =>
          refine Or.inr ⟨_, congrArg (Reply.ofOutcome makeReply) outcome, ?_⟩
          exact (settles_record _ _).bind rfl
      | error failure =>
          by_cases transient : failure.isTransient = true
          · left
            refine ⟨failure, congrArg (Reply.ofOutcome makeReply) outcome, transient, ?_⟩
            refine (settles_record _ _).tries ?_
            rw [if_pos (show isWorthRetrying (.error failure) = true from transient)]
            exact fun node => Or.inl ⟨rfl, ⟨rfl, rfl⟩, ih⟩
          · refine Or.inr ⟨_, congrArg (Reply.ofOutcome makeReply) outcome, ?_⟩
            refine (settles_record _ _).bind ?_
            rw [if_neg (show ¬ isWorthRetrying (.error failure) = true from transient)]
            exact rfl

theorem triesCall_request {makeReply : α → Reply} {call : Time.Instant → Call S α}
    (same : ∀ now store, (request now).perform store = Request.answered makeReply (call now) store)
    (policy : Policy) (operation : String) :
    TriesCall request makeReply (Resolver.request policy operation call).run :=
  triesCall_retrying same operation policy.retry.attempts

theorem triesCall_noteConflict {makeReply : α → Reply} {change : Operation S α}
    (tries : TriesCall request makeReply change.run) (operation : String) :
    TriesCall request makeReply (noteConflict operation change).run := by
  refine Tries.bind tries ?_
  rintro reply left ⟨outcome, same, settles⟩
  refine ⟨outcome, same, settles.bind ?_⟩
  dsimp only
  split
  · exact settles_record _ _
  · exact rfl

/-- A change tries its call, and ends with the outcome. -/
theorem tries_made {makeReply : Committed α → Reply} {commit : Operation S (Committed α)}
    {forgetting : Committed α → Operation S Unit} {finish : Committed α → Operation S α}
    (tries : TriesCall request makeReply commit.run)
    (forgets : ∀ committed, Settles (.ok ()) (forgetting committed).run)
    (finishes : ∀ committed, EndsWith (.ok committed) (finish committed).run) :
    Tries request (fun reply left => ∃ outcome, reply = .ofOutcome makeReply outcome ∧
        EndsWith outcome left)
      (do
        let committed ← commit
        forgetting committed
        finish committed : Operation S α).run := by
  refine Tries.bind tries ?_
  rintro reply left ⟨outcome, same, settles⟩
  refine ⟨outcome, same, ?_⟩
  cases outcome with
  | ok committed => exact settles.followsUp ((forgets committed).followsUp (finishes committed))
  | error failure => exact settles.bind rfl

omit [MappingStore S] in
theorem endsWith_followCommit (committed : Committed α) :
    EndsWith (.ok committed) (do
      Operation.change (Node.followCommit committed.directoryVersion)
      pure committed.value : Operation S α).run :=
  ⟨rfl, Or.inl fun _ => ⟨rfl, rfl⟩⟩

/-- The answer of a change whose request had a reply. -/
def Answer.ofReply? : Reply → Option Answer
  | .failed failure => some (.failed failure)
  | .put committed => some (.record committed.value)
  | .putBatch committed => some (.records committed.value)
  | .deleted _ => some .done
  | _ => none

namespace Command

/-- How a change goes on after the reply to its request. -/
def EndsAfter : Reply → Program (Node S) Answer → Prop
  | .failed failure => Settles (.failed failure)
  | .put committed => FollowsUp committed.directoryVersion (.record committed.value)
  | .putBatch committed => FollowsUp committed.directoryVersion (.records committed.value)
  | .deleted committed => FollowsUp committed.directoryVersion .done
  | _ => fun _ => False

theorem tries_answered (makeReply : Committed α → Reply) {make : α → Answer}
    {operation : Operation S α}
    (tries : Tries request (fun reply left => ∃ outcome, reply = .ofOutcome makeReply outcome ∧
      EndsWith outcome left) operation.run)
    (ends : ∀ (committed : Committed α) (left : Program (Node S) Answer),
      FollowsUp committed.directoryVersion (make committed.value) left →
        EndsAfter (makeReply committed) left) :
    Tries request EndsAfter (answered make operation) := by
  refine Tries.bind tries ?_
  rintro reply left ⟨outcome, rfl, finishes⟩
  cases outcome with
  | ok committed => exact ends committed _ (finishes.bind rfl)
  | error failure => exact finishes.bind rfl

/-- What is checked of a change before the store sees it. -/
def checked (policy : Policy) : Command → Except Failure Unit
  | .register bpn did => Store.requireMapping bpn did
  | .rotate bpn did _ => Store.requireMapping bpn did
  | .remove bpn _ => requireBpn bpn
  | .registerBatch batch => checkBatch policy batch
  | _ => .ok ()

omit [MappingStore S] in
/-- An operation that begins with a check is done if the check fails. -/
theorem answered_check (make : α → Answer) (outcome : Except Failure Unit) (rest : Operation S α) :
    answered make (do Operation.check outcome; rest) =
      match outcome with
      | .ok () => answered make rest
      | .error failure => .done (.failed failure) := by
  cases outcome <;> rfl

omit [MappingStore S] in
theorem answered_checkMapping (make : α → Answer) (bpn did : String) (rest : Operation S α) :
    answered make (do Operation.check (requireBpn bpn); Operation.check (requireDid did); rest) =
      match Store.requireMapping bpn did with
      | .ok () => answered make rest
      | .error failure => .done (.failed failure) := by
  rw [answered_check]
  unfold Store.requireMapping
  cases requireBpn bpn with
  | ok _ => exact answered_check make _ rest
  | error failure => rfl

/-- A change fails its checks, or it tries its request. -/
theorem refused_or_tries (policy : Policy) {command : Command}
    (requests : ∀ now, command.request? now = some (request now)) :
    (∃ failure, command.checked policy = .error failure ∧
        command.program policy = (.done (.failed failure) : Program (Node S) Answer)) ∨
      command.checked policy = .ok () ∧
        Tries request EndsAfter (command.program policy : Program (Node S) Answer) := by
  cases command with
  | register bpn did =>
      obtain rfl : request = fun now => .put now bpn did none :=
        funext fun now => (Option.some.inj (requests now)).symm
      rw [program, Resolver.register, answered_checkMapping, checked]
      cases Store.requireMapping bpn did with
      | error failure => exact Or.inl ⟨failure, rfl, rfl⟩
      | ok _ =>
          refine Or.inr ⟨rfl, tries_answered .put (tries_made ?_ ?_ ?_) fun _ _ => id⟩
          · exact triesCall_request (fun _ _ => rfl) policy "put"
          · exact fun _ => settles_forget bpn
          · exact endsWith_followCommit
  | rotate bpn did expected =>
      obtain rfl : request = fun now => .put now bpn did (some expected) :=
        funext fun now => (Option.some.inj (requests now)).symm
      rw [program, Resolver.rotate, answered_checkMapping, checked]
      cases Store.requireMapping bpn did with
      | error failure => exact Or.inl ⟨failure, rfl, rfl⟩
      | ok _ =>
          refine Or.inr ⟨rfl, tries_answered .put (tries_made ?_ ?_ ?_) fun _ _ => id⟩
          · exact triesCall_noteConflict (triesCall_request (fun _ _ => rfl) policy "put") "rotate"
          · exact fun _ => settles_forget bpn
          · exact endsWith_followCommit
  | remove bpn expected =>
      obtain rfl : request = fun _ => .delete bpn expected :=
        funext fun now => (Option.some.inj (requests now)).symm
      rw [program, Resolver.remove, answered_check, checked]
      cases requireBpn bpn with
      | error failure => exact Or.inl ⟨failure, rfl, rfl⟩
      | ok _ =>
          refine Or.inr ⟨rfl, tries_answered .deleted (tries_made ?_ ?_ ?_) fun _ _ => id⟩
          · exact triesCall_noteConflict (triesCall_request (fun _ _ => rfl) policy "delete") "remove"
          · exact fun _ => settles_forget bpn
          · exact fun _ => ⟨rfl, Or.inl fun _ => ⟨rfl, rfl⟩⟩
  | registerBatch batch =>
      obtain rfl : request = fun now => .putBatch now batch :=
        funext fun now => (Option.some.inj (requests now)).symm
      rw [program, Resolver.registerBatch, answered_check, checked]
      cases checkBatch policy batch with
      | error failure => exact Or.inl ⟨failure, rfl, rfl⟩
      | ok _ =>
          refine Or.inr ⟨rfl, tries_answered .putBatch (tries_made ?_ ?_ ?_) fun _ _ => id⟩
          · exact triesCall_request (fun _ _ => rfl) policy "put_batch"
          · exact fun committed => settles_forgetAll (committed.value.map Record.bpn)
          · exact endsWith_followCommit
  | _ => cases requests Store.Request.noon

section

variable {state : Nat → Node S} {IsOwn : Reach → Nat → Prop} {start time : Nat} {reply : Reply}
  {first : Program (Node S) Answer}

omit [MappingStore S] in
/-- A change makes no request after the reply that counts. -/
theorem EndsAfter.inside {γ : Type} {reach : Reach} {act : Node S → γ × Node S}
    {next : γ → Program (Node S) Answer} (ends : EndsAfter reply first)
    (becomes : Becomes state IsOwn first start (.step reach act next) time) :
    reach = .node ∧ ∀ node, (act node).2.store = node.store := by
  have inside : ∀ {version value}, FollowsUp version value first →
      reach = .node ∧ ∀ node, (act node).2.store = node.store := by
    intro version value follows
    rcases follows.becomes becomes with ⟨inside, lasts | goesOn⟩ | absurdity
    · exact ⟨inside, fun node => (lasts node).1 ▸ store_followCommit version node⟩
    · exact ⟨inside, fun node => (goesOn node).1.2⟩
    · cases absurdity
  cases reply with
  | failed failure =>
      rcases Settles.becomes ends becomes with ⟨inside, goesOn⟩
      exact ⟨inside, fun node => (goesOn node).1.2⟩
  | put | putBatch | deleted => exact inside ends
  | _ => exact ends.elim

omit [MappingStore S] in
/-- A change that is done answers as its reply says. -/
theorem EndsAfter.answer {answer : Answer} (ends : EndsAfter reply first)
    (becomes : Becomes state IsOwn first start (.done answer) time) :
    Answer.ofReply? reply = some answer := by
  have done : ∀ {version value}, FollowsUp version value first → some value = some answer := by
    intro version value follows
    rcases follows.becomes becomes with absurdity | same
    · exact absurdity.elim
    · exact congrArg some (Program.done.inj same).symm
  cases reply with
  | failed failure => exact congrArg some (Settles.becomes ends becomes : answer = _).symm
  | put | putBatch | deleted => exact done ends
  | _ => exact ends.elim

end

end Command

/-! ## In a run -/

namespace Run

variable {run : Run S} {index time : Nat} {command : Command}

/-- Whether a call makes its last request of the store at a time. -/
structure IsLastRequest (run : Run S) (index time : Nat) : Prop where
  own : run.IsStepAt index .store time
  last : ∀ later, time < later → ¬ run.IsStepAt index .store later

/-- A call makes only one last request. -/
theorem IsLastRequest.unique {first second : Nat} (former : run.IsLastRequest index first)
    (latter : run.IsLastRequest index second) : first = second := by
  rcases Nat.lt_trichotomy first second with before | same | after
  · exact absurd latter.own (former.last second before)
  · exact same
  · exact absurd former.own (latter.last first after)

section

variable {program : Program (Node S) Answer}

/-- What a change asks the store for once it passed its checks, and how it goes on after the
reply. -/
theorem request_step (requests : ∀ now, command.request? now = some (request now))
    (own : run.IsStepAt index .store time)
    (listed : (run.traffic time).tasks[index]? = some ⟨command, program⟩) :
    command.checked run.policy = .ok () ∧
      (run.node (time + 1)).store = ((request (run.node time).now).perform (run.node time).store).2 ∧
      ∃ left, (run.traffic (time + 1)).tasks[index]? = some ⟨command, left⟩ ∧
        ((∃ failure, ((request (run.node time).now).perform (run.node time).store).1 =
            .failed failure ∧ failure.isTransient = true ∧
            Tries request Command.EndsAfter left) ∨
          Command.EndsAfter ((request (run.node time).now).perform (run.node time).store).1 left) := by
  rcases own with ⟨step, task, there, reached⟩
  cases there.symm.trans listed
  rcases becomes_of_listed listed with ⟨begun, _, _, became⟩
  rcases advanced step listed with ⟨moved, left⟩
  cases program with
  | done value => cases reached
  | step reach act next =>
      cases reached
      rcases Command.refused_or_tries (S := S) run.policy requests with ⟨_, _, refused⟩ | ⟨passed, tries⟩
      · rw [refused] at became
        cases became.of_done
      · rcases tries.becomes became with still | ⟨_, _, _, _, _, ends, goesOn⟩
        · rcases still (run.node time) with ⟨absurdity, _⟩ | ⟨_, asks, goesOn⟩
          · cases absurdity
          · refine ⟨passed, ?_, _, left, goesOn⟩
            rw [moved]
            exact congrArg Node.store asks
        · cases (ends.inside goesOn).1

/-- A step of a change other than a request leaves the store. -/
theorem store_or_request (requests : ∀ now, command.request? now = some (request now))
    (own : run.IsStepOf index time)
    (listed : (run.traffic time).tasks[index]? = some ⟨command, program⟩) :
    (run.node (time + 1)).store = (run.node time).store ∨ run.IsStepAt index .store time := by
  rcases becomes_of_listed listed with ⟨begun, _, _, became⟩
  rcases advanced own listed with ⟨moved, _⟩
  cases program with
  | done value => exact Or.inl (congrArg Node.store moved)
  | step reach act next =>
      cases reach with
      | store => exact Or.inr ⟨own, _, listed, rfl⟩
      | node =>
          left
          have stepped : run.node (time + 1) = (act (run.node time)).2 := moved
          rw [stepped]
          rcases Command.refused_or_tries (S := S) run.policy requests with ⟨_, _, refused⟩ | ⟨_, tries⟩
          · rw [refused] at became
            cases became.of_done
          · rcases tries.becomes became with still | ⟨_, _, _, _, _, ends, goesOn⟩
            · rcases still (run.node time) with ⟨_, rests, _⟩ | ⟨absurdity, _⟩
              · exact rests.2
              · cases absurdity
            · exact (ends.inside goesOn).2 _

/-- A change whose request had the reply that counts makes no other. -/
theorem isLastRequest_of_ends {reply : Reply} (own : run.IsStepAt index .store time)
    (listed : (run.traffic (time + 1)).tasks[index]? = some ⟨command, program⟩)
    (ends : Command.EndsAfter reply program) : run.IsLastRequest index time := by
  refine ⟨own, ?_⟩
  rintro later after ⟨_, ⟨_, left⟩, there, reached⟩
  rcases Run.becomes listed after with ⟨_, same, goesOn⟩
  cases there.symm.trans same
  cases left with
  | done value => cases reached
  | step reach act next =>
      cases reached
      cases (ends.inside goesOn).1

end

/-- A change that was answered has failed its checks, or it answers as its last request was
replied to. -/
theorem lastRequest_of_answered (requests : ∀ now, command.request? now = some (request now))
    {answer : Answer} (answered : (run.traffic time).answer? index = some (command, answer)) :
    (∃ failure, command.checked run.policy = .error failure ∧ answer = .failed failure) ∨
      command.checked run.policy = .ok () ∧ ∃ last < time, run.IsLastRequest index last ∧
        Answer.ofReply? ((request (run.node last).now).perform (run.node last).store).1 =
          some answer := by
  have listed := listed_of_answered answered
  rcases becomes_of_listed listed with ⟨begun, _, _, became⟩
  rcases Command.refused_or_tries (S := S) run.policy requests with
    ⟨failure, failed, refused⟩ | ⟨passed, tries⟩
  · rw [refused] at became
    cases became.of_done
    exact Or.inl ⟨failure, failed, rfl⟩
  · rcases tries.becomes became with absurdity | ⟨step, _, _, before, asked, _⟩
    · exact absurdity.elim
    · refine Or.inr ⟨passed, ?_⟩
      rcases Course.exists_last before asked with ⟨last, until_, own, isLast⟩
      rcases own.2 with ⟨⟨_, program⟩, there, _⟩
      rcases Run.becomes there (Nat.le_of_lt until_) with ⟨_, same, _⟩
      cases same.symm.trans listed
      rcases request_step requests own there with ⟨_, _, left, next, outcome⟩
      rcases Run.becomes next until_ with ⟨_, present, goesOn⟩
      cases present.symm.trans listed
      rcases outcome with ⟨_, _, _, again⟩ | ends
      · -- There would be a later request.
        rcases again.becomes goesOn with absurdity | ⟨later, _, after, upTo, more, _⟩
        · exact absurdity.elim
        · exact absurd more (isLast later after upTo)
      · exact ⟨last, until_, isLastRequest_of_ends own next ends, ends.answer goesOn⟩

end Run

end Resolver
end BpnDirectory
