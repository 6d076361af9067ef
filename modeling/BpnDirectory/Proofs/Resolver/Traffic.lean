import BpnDirectory.Proofs.Resolver.Changes
import BpnDirectory.Proofs.Resolver.Resolution

namespace BpnDirectory
namespace Resolver

/-!
Traffic on a node.

Any number of calls may be under way on a node at the same time.  A run is a list of
moves: a call begins, a call that was begun takes its next step, the clocks go on, a
task crashes inside the cache, or someone else makes a call on the store.  Whatever
the order of the moves, every step of a run is fair, and every call that is done has
done and seen what it says.
-/

open Program (Upholds)
open Store (Held LawfulStore MappingStore)

/-! ## Calls and their answers -/

/-- A call on a node with everything that it is given. -/
inductive Command where
  | resolve (bpn : String)
  | resolveBatch (bpns : List String)
  | register (bpn did : String)
  | rotate (bpn did : String) (expected : Int)
  | remove (bpn : String) (expected : Int)
  | registerBatch (batch : List NewMapping)
  | record (bpn : String)
  | findByDid (did : String)
  | list (token : Option String) (size : Option UInt64)
  | dump
  | ping
  | poll
  | reconcile
  | shutdown
  deriving DecidableEq, Repr

/-- What comes of a call on a node. -/
inductive Answer where
  | failed (failure : Failure)
  | did (did : String)
  | outcomes (outcomes : OrderedMap BatchOutcome)
  | record (record : Record)
  | records (records : List Record)
  | page (page : Page)
  | dump (dump : Dump)
  | changed (changed : Bool)
  | reconciled (keys : Nat)
  | done
  deriving DecidableEq

namespace Answer

def ofOutcome {α : Type} (make : α → Answer) : Except Failure α → Answer
  | .ok value => make value
  | .error failure => .failed failure

def isSuccess : Answer → Bool
  | .failed _ => false
  | _ => true

/-- What an answer to a call says about a BPN: its DID, or that it has none. -/
def said? : Command → Answer → String → Option (Option String)
  | .resolve key, .did text, bpn => if key = bpn then some (some text) else none
  | .resolve key, .failed (.notFound _), bpn => if key = bpn then some none else none
  | .resolveBatch _, .outcomes each, bpn => (each.find? bpn).bind BatchOutcome.said?
  | _, _, _ => none

end Answer

namespace Command

variable {S α : Type}

def answered (make : α → Answer) (operation : Operation S α) : Program (Node S) Answer :=
  operation.run >>= fun outcome => pure (.ofOutcome make outcome)

/-- Whether a call changes the record of a BPN, if it succeeds. -/
def Changes : Command → String → Prop
  | .register key _, bpn | .rotate key _ _, bpn | .remove key _, bpn => key = bpn
  | .registerBatch batch, bpn => bpn ∈ batch.map NewMapping.bpn
  | _, _ => False

instance (command : Command) (bpn : String) : Decidable (command.Changes bpn) := by
  cases command <;> unfold Changes <;> infer_instance

variable [MappingStore S]

/-- The program of a call. -/
def program (policy : Policy) : Command → Program (Node S) Answer
  | .resolve bpn => answered .did (Resolver.resolve policy bpn)
  | .resolveBatch bpns => answered .outcomes (Resolver.resolveBatch policy bpns)
  | .register bpn did => answered .record (Resolver.register policy bpn did)
  | .rotate bpn did expected => answered .record (Resolver.rotate policy bpn did expected)
  | .remove bpn expected => answered (fun _ => .done) (Resolver.remove policy bpn expected)
  | .registerBatch batch => answered .records (Resolver.registerBatch policy batch)
  | .record bpn => answered .record (Resolver.record policy bpn)
  | .findByDid did => answered .records (Resolver.findByDid policy did)
  | .list token size => answered .page (Resolver.list policy token size)
  | .dump => answered .dump (Resolver.dumpDirectory policy)
  | .ping => answered (fun _ => .done) Resolver.ping
  | .poll => answered .changed (Resolver.poll policy)
  | .reconcile => answered .reconciled Resolver.reconcile
  | .shutdown => answered (fun _ => .done) Resolver.shutdown

/-- Whether a call on a store at a time is the one by which a change, with its answer,
is committed. -/
def Commits : Command → Answer → Time.Instant → S → S → Prop
  | .register bpn did, .record kept, now, before, after =>
    ∃ version, MappingStore.put now bpn did none before = (.ok ⟨kept, version⟩, after)
  | .rotate bpn did expected, .record kept, now, before, after =>
    ∃ version, MappingStore.put now bpn did (some expected) before = (.ok ⟨kept, version⟩, after)
  | .remove bpn expected, .done, _, before, after =>
    ∃ version, MappingStore.delete bpn expected before = (.ok ⟨(), version⟩, after)
  | .registerBatch batch, .records kept, now, before, after =>
    ∃ version, MappingStore.putBatch now batch before = (.ok ⟨kept, version⟩, after)
  | _, _, _, _, _ => False

end Command

/-! ## Runs -/

variable {S : Type}

/-- A call that was begun, and what is left of its program. -/
structure Task (S : Type) where
  command : Command
  program : Program (Node S) Answer

/-- A node and the calls that were begun on it. -/
structure Traffic (S : Type) where
  node : Node S
  tasks : List (Task S)

/-- One thing that happens on a node. -/
inductive Move where
  /-- A call begins. -/
  | start (command : Command)
  /-- A call takes its next step. -/
  | advance (task : Nat)
  /-- The clocks go on; the wall clock may be set to any time. -/
  | pass (ticks : Nat) (now : Time.Instant)
  /-- A task crashes while it holds the lock of the shard of a key. -/
  | crash (key : String)
  /-- Someone else makes a call on the store. -/
  | foreign (request : Store.Request)
  deriving DecidableEq, Repr

namespace Traffic

/-- The node after one step of a call, and what is left of its program. -/
def stepOf {σ α : Type} : Program σ α → σ → Program σ α × σ
  | .done value, state => (.done value, state)
  | .step _ act next, state => (next (act state).1, (act state).2)

def value? {σ α : Type} : Program σ α → Option α
  | .done value => some value
  | .step .. => none

/-- A call and its answer, if it is done. -/
def answer? (traffic : Traffic S) (index : Nat) : Option (Command × Answer) :=
  traffic.tasks[index]?.bind fun task => (value? task.program).map fun answer => (task.command, answer)

variable [MappingStore S]

/-- The traffic after a move. -/
def move (policy : Policy) (traffic : Traffic S) : Move → Traffic S
  | .start command =>
    { traffic with tasks := traffic.tasks ++ [⟨command, command.program policy⟩] }
  | .advance index =>
    match traffic.tasks[index]? with
    | some task =>
      let (program, node) := stepOf task.program traffic.node
      ⟨node, traffic.tasks.set index { task with program }⟩
    | none => traffic
  | .pass ticks now =>
    { traffic with node := { traffic.node with ticks := traffic.node.ticks + ticks, now } }
  | .crash key =>
    { traffic with node := { traffic.node with cache := traffic.node.cache.poison key } }
  | .foreign request =>
    { traffic with node := { traffic.node with store := (request.perform traffic.node.store).2 } }

end Traffic

structure Run (S : Type) where
  policy : Policy
  settings : Cache.Settings
  store : S
  now : Time.Instant
  moves : List Move

namespace Run

variable [MappingStore S]

/-- The traffic at a time, which is a number of moves. -/
def traffic (run : Run S) (time : Nat) : Traffic S :=
  (run.moves.take time).foldl (Traffic.move run.policy) ⟨.start run.store run.settings run.now, []⟩

def node (run : Run S) (time : Nat) : Node S :=
  (run.traffic time).node

def IsStepOf (run : Run S) (index time : Nat) : Prop :=
  run.moves[time]? = some (.advance index)

theorem traffic_succ (run : Run S) (time : Nat) :
    run.traffic (time + 1) =
      match run.moves[time]? with
      | some move => (run.traffic time).move run.policy move
      | none => run.traffic time := by
  unfold traffic
  rw [List.take_add_one, List.foldl_append]
  cases run.moves[time]? <;> rfl

/-- After its last move nothing happens in a run any more. -/
theorem traffic_of_length_le {run : Run S} {time : Nat} (ended : run.moves.length ≤ time) :
    run.traffic time = run.traffic run.moves.length := by
  unfold traffic
  rw [List.take_of_length_le ended, List.take_length]

theorem length_tasks_le_succ (run : Run S) (time : Nat) :
    (run.traffic time).tasks.length ≤ (run.traffic (time + 1)).tasks.length := by
  rw [traffic_succ]
  cases run.moves[time]? with
  | none => exact Nat.le_refl _
  | some move =>
      cases move with
      | start command => simp [Traffic.move]
      | advance index =>
          simp only [Traffic.move]
          split <;> simp
      | _ => exact Nat.le_refl _

/-- Calls that were begun stay in the list. -/
theorem length_tasks_mono (run : Run S) {earlier time : Nat} (before : earlier ≤ time) :
    (run.traffic earlier).tasks.length ≤ (run.traffic time).tasks.length := by
  induction before with
  | refl => exact Nat.le_refl _
  | step _ ih => exact Nat.le_trans ih (length_tasks_le_succ run _)

/-- A call that is not in the list at a time begins at that time or later. -/
theorem le_begun {run : Run S} {index earlier begun : Nat}
    (absent : (run.traffic earlier).tasks.length ≤ index)
    (present : index < (run.traffic (begun + 1)).tasks.length) : earlier ≤ begun := by
  apply Nat.le_of_not_lt
  intro before
  have grown := run.length_tasks_mono before
  exact Nat.lt_irrefl _ (Nat.lt_of_lt_of_le present (Nat.le_trans grown absent))

/-- A call that is not in the list at a time is in it only later. -/
theorem lt_of_absent {run : Run S} {index earlier time : Nat}
    (absent : (run.traffic earlier).tasks.length ≤ index)
    (present : index < (run.traffic time).tasks.length) : earlier < time := by
  apply Nat.lt_of_not_le
  intro early
  exact Nat.lt_irrefl _
    (Nat.lt_of_lt_of_le present (Nat.le_trans (run.length_tasks_mono early) absent))

end Run

/-! ## What calls that are done have done and seen -/

variable [MappingStore S] [LawfulStore S]

/-- What is known of a call once it is done. -/
structure Command.IsFulfilled (command : Command) (state : Nat → Node S) (IsOwn : Nat → Prop)
    (begun : Nat) (answer : Answer) (ended : Nat) : Prop where
  /-- What it says was held by the store or found in the cache. -/
  heard : ∀ bpn said, Answer.said? command answer bpn = some said →
    Heard state bpn said begun ended
  /-- A change was committed, and what it superseded is settled. -/
  committed : ∀ bpn, command.Changes bpn → answer.isSuccess = true →
    ∃ step, begun ≤ step ∧ step < ended ∧ IsOwn step ∧
      command.Commits answer (state step).now (state step).store (state (step + 1)).store ∧
      Settled state bpn step ended
  /-- A record was shown by the store. -/
  shown : ∀ bpn kept, command = .record bpn → answer = .record kept →
    ∃ step, begun ≤ step ∧ step < ended ∧ IsOwn step ∧
      (MappingStore.get bpn (state step).store).1 = .ok kept

namespace Command

variable {state : Nat → Node S} {IsOwn : Nat → Prop} {time : Nat}

namespace IsFulfilled

variable {command : Command} {answer : Answer} {begun ended : Nat}

/-- A call that changes nothing and shows no record is fulfilled by what it heard. -/
theorem of_heard
    (heard : ∀ bpn said, Answer.said? command answer bpn = some said →
      Heard state bpn said begun ended)
    (harmless : ∀ bpn, ¬ command.Changes bpn) (blind : ∀ bpn, command ≠ .record bpn) :
    command.IsFulfilled state IsOwn begun answer ended where
  heard := heard
  committed := fun bpn changes => absurd changes (harmless bpn)
  shown := fun bpn _ same => absurd same (blind bpn)

/-- A call that gives no DIDs and shows no record is fulfilled by what it changed. -/
theorem of_committed
    (committed : ∀ bpn, command.Changes bpn → answer.isSuccess = true →
      ∃ step, begun ≤ step ∧ step < ended ∧ IsOwn step ∧
        command.Commits answer (state step).now (state step).store (state (step + 1)).store ∧
        Settled state bpn step ended)
    (silent : ∀ bpn, Answer.said? command answer bpn = none)
    (blind : ∀ bpn, command ≠ .record bpn) :
    command.IsFulfilled state IsOwn begun answer ended where
  heard := fun bpn _ meant => nomatch (silent bpn).symm.trans meant
  committed := committed
  shown := fun bpn _ same => absurd same (blind bpn)

end IsFulfilled

/-- What the answer to a resolution means is what its outcome means. -/
theorem said?_resolve {key bpn : String} {outcome : Except Failure String} {said : Option String}
    (meant : Answer.said? (.resolve key) (.ofOutcome .did outcome) bpn = some said) :
    key = bpn ∧ saidBy outcome = some said := by
  cases outcome with
  | ok did =>
      simp only [Answer.ofOutcome, Answer.said?] at meant
      split at meant
      case isTrue same => exact ⟨same, meant⟩
      case isFalse => cases meant
  | error failure =>
      cases failure with
      | notFound text =>
          simp only [Answer.ofOutcome, Answer.said?] at meant
          split at meant
          case isTrue same => exact ⟨same, meant⟩
          case isFalse => cases meant
      | _ => cases meant

theorem upholds_answered {α : Type} {make : α → Answer} {operation : Operation S α}
    {Also : Answer → Nat → Prop} (fair : (course state IsOwn).IsFairUntil time)
    (Ends : Except Failure α → Nat → Prop)
    (upholds : Upholds (course state IsOwn) operation.run Ends time)
    (ends : ∀ outcome later, Ends outcome later → Also (.ofOutcome make outcome) later) :
    Upholds (course state IsOwn) (answered make operation) Also time :=
  Upholds.bind fair upholds fun outcome later _ _ ended => ends outcome later ended

/-- A call with plain steps that says nothing about a BPN, changes nothing and shows
no record. -/
theorem upholds_plainly {α : Type} {make : α → Answer} {operation : Operation S α}
    {command : Command} {begun : Nat} (fair : (course state IsOwn).IsFairUntil time)
    (follows : Program.Follows (Node.Does (fun _ => True) Node.Plain) operation.run)
    (silent : ∀ answer bpn, Answer.said? command answer bpn = none)
    (harmless : ∀ bpn, ¬ command.Changes bpn) (blind : ∀ bpn, command ≠ .record bpn) :
    Upholds (course state IsOwn) (answered make operation)
      (command.IsFulfilled state IsOwn begun) time := by
  refine upholds_answered fair (fun _ _ => True)
    (upholds_plain follows fair fun _ _ _ _ => trivial) ?_
  intro outcome later _
  exact .of_heard (fun bpn _ meant => nomatch (silent _ bpn).symm.trans meant) harmless blind

/-- A change of one BPN or several that says nothing about a BPN and shows no
record. -/
theorem upholds_change {α : Type} {make : α → Answer} {operation : Operation S α}
    {command : Command} {call : Time.Instant → Store.Call S (Committed α)}
    {bpns : Committed α → List String} (fair : (course state IsOwn).IsFairUntil time)
    (upholds : Upholds (course state IsOwn) operation.run
      (Acknowledges state IsOwn call bpns time) time)
    (commits : ∀ (committed : Committed α) (now : Time.Instant) (before after : S),
      call now before = (.ok committed, after) →
        command.Commits (make committed.value) now before after ∧
        ∀ bpn, command.Changes bpn → bpn ∈ bpns committed)
    (silent : ∀ answer bpn, Answer.said? command answer bpn = none)
    (blind : ∀ bpn, command ≠ .record bpn) :
    Upholds (course state IsOwn) (answered make operation)
      (command.IsFulfilled state IsOwn time) time := by
  refine upholds_answered fair _ upholds ?_
  intro outcome later acknowledged
  refine .of_committed ?_ (silent _) blind
  intro bpn changes success
  cases outcome with
  | error failure => cases success
  | ok value =>
      rcases acknowledged value rfl with ⟨committed, rfl, step, from_, until_, own, called, settled⟩
      rcases commits committed _ _ _ called with ⟨commit, covered⟩
      exact ⟨step, from_, until_, own, commit, settled bpn (covered bpn changes)⟩

/-- A change of one BPN. -/
theorem upholds_change_one {α : Type} {make : α → Answer} {operation : Operation S α}
    {command : Command} {call : Time.Instant → Store.Call S (Committed α)} {key : String}
    (fair : (course state IsOwn).IsFairUntil time)
    (upholds : Upholds (course state IsOwn) operation.run
      (Acknowledges state IsOwn call (fun _ => [key]) time) time)
    (commits : ∀ (committed : Committed α) (now : Time.Instant) (before after : S),
      call now before = (.ok committed, after) →
        command.Commits (make committed.value) now before after)
    (only : ∀ bpn, command.Changes bpn → key = bpn)
    (silent : ∀ answer bpn, Answer.said? command answer bpn = none)
    (blind : ∀ bpn, command ≠ .record bpn) :
    Upholds (course state IsOwn) (answered make operation)
      (command.IsFulfilled state IsOwn time) time := by
  refine upholds_change fair upholds ?_ silent blind
  intro committed now before after called
  exact ⟨commits committed now before after called, fun bpn changes =>
    List.mem_singleton.mpr (only bpn changes).symm⟩

section

variable (policy : Policy)

theorem fulfills_resolve (key : String) (fit : (state 0).IsFit)
    (fair : (course state IsOwn).IsFairUntil time) :
    Upholds (course state IsOwn) (program policy (.resolve key))
      ((resolve key).IsFulfilled state IsOwn time) time := by
  refine upholds_answered fair _ (upholds_resolve policy key fit fair) ?_
  intro outcome later heard
  refine .of_heard ?_ (fun _ => id) (fun _ => nofun)
  intro bpn said meant
  rcases said?_resolve meant with ⟨rfl, answer⟩
  exact heard said answer

theorem fulfills_resolveBatch (bpns : List String) (fit : (state 0).IsFit)
    (fair : (course state IsOwn).IsFairUntil time) :
    Upholds (course state IsOwn) (program policy (.resolveBatch bpns))
      ((resolveBatch bpns).IsFulfilled state IsOwn time) time := by
  refine upholds_answered fair _ (upholds_resolveBatch policy bpns fit fair) ?_
  intro outcome later tells
  refine .of_heard ?_ (fun _ => id) (fun _ => nofun)
  intro bpn said meant
  cases outcome with
  | error failure => cases meant
  | ok outcomes =>
      rcases Option.bind_eq_some_iff.mp meant with ⟨each, found, same⟩
      exact tells outcomes rfl bpn each said found same

theorem fulfills_registerBatch (batch : List NewMapping) (fit : (state 0).IsFit)
    (fair : (course state IsOwn).IsFairUntil time) :
    Upholds (course state IsOwn) (program policy (.registerBatch batch))
      ((registerBatch batch).IsFulfilled state IsOwn time) time := by
  refine upholds_change fair (upholds_registerBatch policy batch fit fair) ?_
    (fun _ _ => rfl) (fun _ => nofun)
  intro committed now before after called
  refine ⟨⟨committed.directoryVersion, called⟩, fun bpn named => ?_⟩
  rw [LawfulStore.putBatch_bpns (congrArg Prod.fst called)]
  exact named

theorem fulfills_record (key : String) (fair : (course state IsOwn).IsFairUntil time) :
    Upholds (course state IsOwn) (program policy (.record key))
      ((record key).IsFulfilled state IsOwn time) time := by
  refine upholds_answered fair _ (upholds_record policy key fair) ?_
  intro outcome later shown
  constructor
  · exact fun _ _ meant => nomatch meant
  · exact fun _ changes => changes.elim
  · intro bpn kept same answer
    cases same
    cases outcome with
    | error failure => cases answer
    | ok found =>
        cases answer
        rcases shown kept rfl with ⟨step, from_, until_, own, called⟩
        exact ⟨step, from_, until_, own, congrArg Prod.fst called⟩

end

/-- Every call upholds the course of events and is fulfilled when it is done. -/
theorem upholds (policy : Policy) (command : Command) (fit : (state 0).IsFit)
    (fair : (course state IsOwn).IsFairUntil time) :
    Upholds (course state IsOwn) (command.program policy)
      (command.IsFulfilled state IsOwn time) time := by
  cases command with
  | resolve key => exact fulfills_resolve policy key fit fair
  | resolveBatch bpns => exact fulfills_resolveBatch policy bpns fit fair
  | register key did =>
      exact upholds_change_one fair (upholds_register policy key did fit fair)
        (fun committed _ _ _ called => ⟨committed.directoryVersion, called⟩) (fun _ => id)
        (fun _ _ => rfl) (fun _ => nofun)
  | rotate key did expected =>
      exact upholds_change_one fair (upholds_rotate policy key did expected fit fair)
        (fun committed _ _ _ called => ⟨committed.directoryVersion, called⟩) (fun _ => id)
        (fun _ _ => rfl) (fun _ => nofun)
  | remove key expected =>
      exact upholds_change_one fair (upholds_remove policy key expected fit fair)
        (fun committed _ _ _ called => ⟨committed.directoryVersion, called⟩) (fun _ => id)
        (fun _ _ => rfl) (fun _ => nofun)
  | registerBatch batch => exact fulfills_registerBatch policy batch fit fair
  | record key => exact fulfills_record policy key fair
  | findByDid did =>
      exact upholds_plainly fair (follows_findByDid policy did trivial) (fun _ _ => rfl) (fun _ => id)
        (fun _ => nofun)
  | list token size =>
      exact upholds_plainly fair (follows_list policy token size fun _ => trivial)
        (fun _ _ => rfl) (fun _ => id) (fun _ => nofun)
  | dump =>
      exact upholds_plainly fair (follows_dumpDirectory policy trivial fun _ _ _ => .of_same rfl rfl)
        (fun _ _ => rfl) (fun _ => id) (fun _ => nofun)
  | ping =>
      exact upholds_plainly fair (follows_ping trivial) (fun _ _ => rfl) (fun _ => id)
        (fun _ => nofun)
  | poll =>
      exact upholds_plainly fair (follows_poll policy trivial fun _ _ => .of_same rfl rfl)
        (fun _ _ => rfl) (fun _ => id) (fun _ => nofun)
  | reconcile =>
      exact upholds_plainly fair follows_reconcile (fun _ _ => rfl) (fun _ => id) (fun _ => nofun)
  | shutdown =>
      exact upholds_plainly fair follows_shutdown (fun _ _ => rfl) (fun _ => id) (fun _ => nofun)

end Command

/-! ## Runs are fair -/

namespace Run

/-- What is known of the calls that were begun by a time: each was begun at some time
before, and what is left of it upholds the course of events. -/
def IsOrderly (run : Run S) (time : Nat) : Prop :=
  ∀ index task, (run.traffic time).tasks[index]? = some task →
    ∃ begun reached, begun ≤ reached ∧ reached ≤ time ∧
      index < (run.traffic (begun + 1)).tasks.length ∧
      Upholds (course run.node (run.IsStepOf index)) task.program
        (task.command.IsFulfilled run.node (run.IsStepOf index) begun) reached

theorem isFit_start (run : Run S) (sound : LawfulStore.IsSound run.store) :
    (run.node 0).IsFit where
  size := Cache.size_new run.settings
  sound := sound

variable {run : Run S} {time : Nat}

/-- Calls that were begun earlier and are as they were stay in order. -/
theorem IsOrderly.keep (orderly : run.IsOrderly time) {index : Nat} {task : Task S}
    (listed : (run.traffic time).tasks[index]? = some task) :
    ∃ begun reached, begun ≤ reached ∧ reached ≤ time + 1 ∧
      index < (run.traffic (begun + 1)).tasks.length ∧
      Upholds (course run.node (run.IsStepOf index)) task.program
        (task.command.IsFulfilled run.node (run.IsStepOf index) begun) reached := by
  rcases orderly index task listed with ⟨begun, reached, first, until_, rest⟩
  exact ⟨begun, reached, first, Nat.le_succ_of_le until_, rest⟩

/-- Moves that leave the calls alone and change the node plainly. -/
theorem orderly_of_plain {IsOwn : Nat → Prop} {node : Node S} (orderly : run.IsOrderly time)
    (next : run.traffic (time + 1) = ⟨node, (run.traffic time).tasks⟩)
    (plain : (run.node time).Plain node) :
    (course run.node IsOwn).IsFair time ∧ run.IsOrderly (time + 1) := by
  refine ⟨fair_of_plain (congrArg Traffic.node next) plain, ?_⟩
  intro index task listed
  rw [next] at listed
  exact orderly.keep listed

/-- A call that begins upholds the course of events from then on. -/
theorem orderly_start {IsOwn : Nat → Prop} {command : Command}
    (sound : LawfulStore.IsSound run.store) (fair : (course run.node IsOwn).IsFairUntil time)
    (orderly : run.IsOrderly time)
    (next : run.traffic (time + 1) =
      ⟨run.node time, (run.traffic time).tasks ++ [⟨command, command.program run.policy⟩]⟩) :
    (course run.node IsOwn).IsFair time ∧ run.IsOrderly (time + 1) := by
  refine ⟨fair_of_plain (congrArg Traffic.node next) (.of_same rfl rfl), ?_⟩
  intro index task listed
  rw [next] at listed
  by_cases old : index < (run.traffic time).tasks.length
  · rw [List.getElem?_append_left old] at listed
    exact orderly.keep listed
  · have bound := (List.getElem?_eq_some_iff.mp listed).1
    rw [List.length_append, List.length_singleton] at bound
    have same : index = (run.traffic time).tasks.length := by omega
    subst same
    rw [List.getElem?_concat_length] at listed
    cases listed
    have present : (run.traffic time).tasks.length < (run.traffic (time + 1)).tasks.length := by
      rw [next, List.length_append]
      exact bound
    exact ⟨time, time, Nat.le_refl time, Nat.le_succ time, present,
      Command.upholds run.policy command (run.isFit_start sound) fair⟩

/-- A step of a call is fair, and what is left of the call upholds the course of
events. -/
theorem upholds_stepOf {IsOwn : Nat → Prop} {index reached : Nat} {program : Program (Node S) Answer}
    {Ends : Answer → Nat → Prop}
    (upholds : Upholds (course run.node (run.IsStepOf index)) program Ends reached)
    (before : reached ≤ time) (own : run.IsStepOf index time)
    (fair : (course run.node IsOwn).IsFairUntil time)
    (same : run.node (time + 1) = (Traffic.stepOf program (run.node time)).2) :
    (course run.node IsOwn).IsFair time ∧ ∃ later, reached ≤ later ∧ later ≤ time + 1 ∧
      Upholds (course run.node (run.IsStepOf index)) (Traffic.stepOf program (run.node time)).1
        Ends later := by
  cases program with
  | done value =>
      exact ⟨fair_of_plain same (.of_same rfl rfl), reached, Nat.le_refl reached,
        Nat.le_succ_of_le before, upholds⟩
  | step reach act next =>
      rcases upholds time before own fair same with ⟨last, rest⟩
      exact ⟨last, time + 1, Nat.le_succ_of_le before, Nat.le_refl _, rest⟩

/-- A call that takes a step upholds the course of events with what is left of it. -/
theorem orderly_advance {IsOwn : Nat → Prop} {index : Nat} {task : Task S}
    (fair : (course run.node IsOwn).IsFairUntil time) (orderly : run.IsOrderly time)
    (own : run.IsStepOf index time) (chosen : (run.traffic time).tasks[index]? = some task)
    (next : run.traffic (time + 1) =
      ⟨(Traffic.stepOf task.program (run.node time)).2, (run.traffic time).tasks.set index
        { task with program := (Traffic.stepOf task.program (run.node time)).1 }⟩) :
    (course run.node IsOwn).IsFair time ∧ run.IsOrderly (time + 1) := by
  rcases orderly index task chosen with ⟨begun, reached, first, until_, since, upholds⟩
  rcases upholds_stepOf upholds until_ own fair
    (congrArg Traffic.node next) with
    ⟨last, later, after, before, rest⟩
  refine ⟨last, ?_⟩
  intro other listedTask listed
  rw [next] at listed
  by_cases same : index = other
  · subst same
    have below := (List.getElem?_eq_some_iff.mp chosen).1
    rw [List.getElem?_set_self below] at listed
    cases listed
    exact ⟨begun, later, Nat.le_trans first after, before, since, rest⟩
  · rw [List.getElem?_set_ne same] at listed
    exact orderly.keep listed

/-- A move keeps a run orderly, and is fair if all moves before it were. -/
theorem orderly_succ {IsOwn : Nat → Prop} (sound : LawfulStore.IsSound run.store)
    (fair : (course run.node IsOwn).IsFairUntil time) (orderly : run.IsOrderly time) :
    (course run.node IsOwn).IsFair time ∧ run.IsOrderly (time + 1) := by
  have next := run.traffic_succ time
  cases moved : run.moves[time]? with
  | none =>
      rw [moved] at next
      exact orderly_of_plain orderly next (.of_same rfl rfl)
  | some move =>
      rw [moved] at next
      cases move with
      | pass ticks now => exact orderly_of_plain orderly next (.of_same rfl rfl)
      | crash key => exact orderly_of_plain orderly next (.of_cache (Cache.poison_evolves key) rfl)
      | foreign request =>
          exact orderly_of_plain orderly next ⟨.refl _, Or.inr ⟨request, rfl⟩⟩
      | start command => exact orderly_start sound fair orderly next
      | advance index =>
          cases chosen : (run.traffic time).tasks[index]? with
          | none =>
              have same : run.traffic (time + 1) = run.traffic time := by
                rw [next]
                simp only [Traffic.move, chosen]
              exact orderly_of_plain orderly same (.of_same rfl rfl)
          | some task =>
              apply orderly_advance fair orderly moved chosen
              rw [next]
              simp only [Traffic.move, chosen]
              rfl

theorem orderly (run : Run S) (sound : LawfulStore.IsSound run.store) (time : Nat) :
    (course run.node (run.IsStepOf 0)).IsFairUntil time ∧ run.IsOrderly time := by
  induction time with
  | zero =>
      refine ⟨fun _ below => absurd below (Nat.not_lt_zero _), ?_⟩
      intro index task listed
      cases listed
  | succ time ih =>
      rcases orderly_succ sound ih.1 ih.2 with ⟨last, next⟩
      exact ⟨ih.1.succ last, next⟩

/-- Every step of a run is fair. -/
theorem isFairUntil (run : Run S) (sound : LawfulStore.IsSound run.store)
    (IsOwn : Nat → Prop) (time : Nat) : (course run.node IsOwn).IsFairUntil time :=
  (orderly run sound time).1

/-- A call that is done was begun at some time and is fulfilled. -/
theorem fulfilled (sound : LawfulStore.IsSound run.store) {index : Nat} {command : Command}
    {answer : Answer} (answered : (run.traffic time).answer? index = some (command, answer)) :
    ∃ begun ended, begun ≤ ended ∧ ended ≤ time ∧
      index < (run.traffic (begun + 1)).tasks.length ∧
      command.IsFulfilled run.node (run.IsStepOf index) begun answer ended := by
  rcases Option.bind_eq_some_iff.mp answered with ⟨⟨asked, program⟩, listed, valued⟩
  rcases (orderly run sound time).2 index _ listed with
    ⟨begun, reached, first, until_, since, upholds⟩
  cases program with
  | step reach act next => cases valued
  | done value =>
      cases valued
      exact ⟨begun, reached, first, until_, since, upholds⟩

end Run

end Resolver
end BpnDirectory
