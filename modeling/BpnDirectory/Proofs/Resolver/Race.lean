import BpnDirectory.Proofs.Resolver.Attempts
import BpnDirectory.Proofs.Resolver.Updates
import BpnDirectory.Proofs.Store.Ready

namespace BpnDirectory
namespace Resolver

/-!
Races for one version of a record.

Any number of rotations and removals of one BPN may expect the same version.  Each makes
one last request of the store, whatever comes between its attempts, and the store takes
these requests one after the other.  The first of them finds the version, and takes it
away from all others, which are told what they find instead.
-/

open Store (CountedStore Exchange Held LawfulStore MappingStore ReadyStore Reply Request Write Writes)

variable {S : Type}

/-! ## What a contender asks for -/

/-- What is held for the BPN of a rotation or a removal once it was made. -/
def Command.leaves : Command → Option Held
  | .rotate _ did expected => some ⟨did, expected + 1⟩
  | _ => none

/-- Why a contender fails when something else is held for its BPN by then: its checks fail, or
it is refused. -/
def Command.failureAfter (policy : Policy) (bpn : String) (version : Int) (held : Option Held)
    (command : Command) : Failure :=
  match command.checked policy with
  | .ok () => Store.refusal bpn version held
  | .error failure => failure

section

variable [MappingStore S] [LawfulStore S] {store : S} {bpn : String} {command : Command}

/-- What comes of the request of a contender that is made. -/
structure Command.IsMadeBy (command : Command) (bpn : String) (request : Request) (store : S) :
    Prop where
  answers : ∃ answer, Answer.ofReply? (request.perform store).1 = some answer ∧
    answer.isSuccess = true
  writes : ∃ write, Writes bpn write store (request.perform store).2
  reports : ∃ number, Exchange.version? ⟨request, (request.perform store).1⟩ = some number
  leaves : LawfulStore.held (request.perform store).2 bpn = command.leaves

theorem Command.isMadeBy_of_replied {request : Request} {reply : Reply} {answer : Answer}
    {write : Write} {number : Int} (replied : (request.perform store).1 = reply)
    (answers : Answer.ofReply? reply = some answer) (success : answer.isSuccess = true)
    (written : Exchange.write? bpn ⟨request, reply⟩ = some write)
    (reported : Exchange.version? ⟨request, reply⟩ = some number)
    (leads : ∀ left, Held.Becomes (LawfulStore.held store bpn) (some write) left →
      left = command.leaves) : command.IsMadeBy bpn request store := by
  have becomes := LawfulStore.held_perform request store bpn
  rw [← replied] at answers written reported
  rw [written] at becomes
  exact ⟨⟨answer, answers, success⟩, ⟨write, request, written, rfl⟩, ⟨number, reported⟩,
    leads _ becomes⟩

end

namespace Command.Expects

variable {command : Command} {bpn : String} {version : Int} {request : Time.Instant → Request}

theorem exists_request (expects : command.Expects bpn version) :
    ∃ request : Time.Instant → Request, ∀ now, command.request? now = some (request now) := by
  cases command with
  | rotate key did expected => exact ⟨_, fun _ => rfl⟩
  | remove key expected => exact ⟨_, fun _ => rfl⟩
  | _ => exact expects.elim

/-- A contender that was made leaves another version or none. -/
theorem not_isAt_leaves (expects : command.Expects bpn version) :
    ¬ Held.IsAt version command.leaves := by
  cases command with
  | rotate key did expected =>
      rcases expects with ⟨rfl, rfl⟩
      intro isAt
      have same := Option.some.inj isAt
      dsimp only at same
      omega
  | remove key expected => exact nofun
  | _ => exact expects.elim

variable [MappingStore S] [LawfulStore S] [ReadyStore S] {store : S} {now : Time.Instant}

/-- A contender that finds the version that it expects is made. -/
theorem wins (expects : command.Expects bpn version)
    (requests : ∀ now, command.request? now = some (request now)) {policy : Policy}
    (passed : command.checked policy = .ok ()) (ready : ReadyStore.IsReady now store)
    (room : ReadyStore.HasRoom bpn store) (isAt : Held.IsAt version (LawfulStore.held store bpn)) :
    command.IsMadeBy bpn (request now) store := by
  rcases isAt.eq_some with ⟨old, held⟩
  cases command with
  | rotate key did expected =>
      rcases expects with ⟨rfl, rfl⟩
      rw [← Option.some.inj (requests now)]
      rcases ReadyStore.replaces ready room passed isAt with ⟨committed, put⟩
      refine isMadeBy_of_replied (congrArg (Reply.ofOutcome .put) put) rfl rfl (if_pos rfl) rfl ?_
      rw [held]
      rintro _ ⟨⟩
      rfl
  | remove key expected =>
      rcases expects with ⟨rfl, rfl⟩
      rw [← Option.some.inj (requests now)]
      rcases ReadyStore.deletes ready room isAt with ⟨committed, deleted⟩
      refine isMadeBy_of_replied (congrArg (Reply.ofOutcome .deleted) deleted) rfl rfl (if_pos rfl)
        rfl ?_
      rw [held]
      rintro _ ⟨⟩
      rfl
  | _ => exact expects.elim

/-- A contender that finds another version or no record is refused. -/
theorem loses (expects : command.Expects bpn version)
    (requests : ∀ now, command.request? now = some (request now)) {policy : Policy}
    (passed : command.checked policy = .ok ()) (ready : ReadyStore.IsReady now store)
    (other : ¬ Held.IsAt version (LawfulStore.held store bpn)) :
    ((request now).perform store).1 =
      .failed (Store.refusal bpn version (LawfulStore.held store bpn)) := by
  cases command with
  | rotate key did expected =>
      rcases expects with ⟨rfl, rfl⟩
      rw [← Option.some.inj (requests now)]
      exact congrArg (Reply.ofOutcome .put) (ReadyStore.refuses_put ready passed other)
  | remove key expected =>
      rcases expects with ⟨rfl, rfl⟩
      rw [← Option.some.inj (requests now)]
      exact congrArg (Reply.ofOutcome .deleted) (ReadyStore.refuses_delete ready other)
  | _ => exact expects.elim

end Command.Expects

/-! ## Races -/

/-- Rotations and removals of a BPN that expect the same version, in a period of a run. -/
structure Race where
  bpn : String
  version : Int
  /-- The calls that take part. -/
  contenders : List Nat
  since : Nat
  ended : Nat

namespace Race

variable [MappingStore S]

/-- Whether a call of a race was answered by its end. -/
def Answers (race : Race) (run : Run S) (index : Nat) (change : Command) (answer : Answer) : Prop :=
  index ∈ race.contenders ∧ (run.traffic race.ended).answer? index = some (change, answer)

variable [LawfulStore S]

def held (race : Race) (run : Run S) (time : Nat) : Option Held :=
  LawfulStore.held (run.node time).store race.bpn

/-- Whether something is written to the BPN of a race at a time. -/
def IsWritten (race : Race) (run : Run S) (time : Nat) : Prop :=
  ∃ write, Writes race.bpn write (run.node time).store (run.node (time + 1)).store

/-- Whether a race is run: its contenders begin when the BPN is at the version that all of
them expect, and are answered by the end, nobody else writes to the BPN in between, and
the store is ready for the last request of each contender. -/
structure IsRun [ReadyStore S] (race : Race) (run : Run S) : Prop where
  start : Held.IsAt race.version (race.held run race.since)
  later : ∀ index ∈ race.contenders, (run.traffic race.since).tasks.length ≤ index
  answered : ∀ index ∈ race.contenders, ∃ change answer, change.Expects race.bpn race.version ∧
    race.Answers run index change answer
  alone : ∀ time, race.since ≤ time → time < race.ended → race.IsWritten run time →
    ∃ index ∈ race.contenders, run.IsStepOf index time
  ready : ∀ index ∈ race.contenders, ∀ time, run.IsLastRequest index time →
    ReadyStore.IsReady (run.node time).now (run.node time).store

/-- Whether the store has room for one more change of the BPN as long as it is at the version
of a race. -/
def HasRoom [ReadyStore S] (race : Race) (run : Run S) : Prop :=
  ∀ time, race.since ≤ time → time < race.ended → Held.IsAt race.version (race.held run time) →
    ReadyStore.HasRoom race.bpn (run.node time).store

/-- Whether some contender of a race passes its checks. -/
def HasValid (race : Race) (run : Run S) : Prop :=
  ∃ index change answer, race.Answers run index change answer ∧ change.checked run.policy = .ok ()

/-- Whether a contender makes its change at a time. -/
structure IsMadeAt (race : Race) (run : Run S) (index : Nat) (change : Command)
    (committed : Nat) : Prop where
  expects : change.Expects race.bpn race.version
  last : run.IsLastRequest index committed
  success : ∃ answer, race.Answers run index change answer ∧ answer.isSuccess = true
  found : Held.IsAt race.version (race.held run committed)
  written : race.IsWritten run committed
  reports : ∃ number, Reports run.node committed number
  leaves : race.held run (committed + 1) = change.leaves

/-- Whether a contender is refused at a time. -/
structure IsRefusedAt (race : Race) (run : Run S) (index : Nat) (answer : Answer)
    (refused : Nat) : Prop where
  last : run.IsLastRequest index refused
  missed : ¬ Held.IsAt race.version (race.held run refused)
  kept : race.held run (refused + 1) = race.held run refused
  failed : answer = .failed (Store.refusal race.bpn race.version (race.held run refused))

variable {race : Race} {run : Run S} {index time : Nat}

/-- What is written changes what is held. -/
theorem IsWritten.held_ne (written : race.IsWritten run time) :
    race.held run (time + 1) ≠ race.held run time := by
  rcases written with ⟨write, writes⟩
  have becomes := writes.becomes
  unfold held
  generalize LawfulStore.held (run.node time).store race.bpn = before at becomes ⊢
  generalize LawfulStore.held (run.node (time + 1)).store race.bpn = after at becomes ⊢
  cases becomes with
  | created | deleted => exact nofun
  | replaced now did held =>
      intro same
      have grown := congrArg Held.version (Option.some.inj same)
      dsimp only at grown
      omega

/-- In each step something is written to the BPN, or the same is held as before. -/
theorem written_or_held (sound : LawfulStore.IsSound run.store) (race : Race) (time : Nat) :
    race.IsWritten run time ∨ race.held run (time + 1) = race.held run time := by
  rcases (run.isFairUntil sound (fun _ => True) (time + 1) time (Nat.lt_succ_self time)).store with
    same | ⟨request, performed⟩
  · exact Or.inr (congrArg (LawfulStore.held · race.bpn) same)
  · rcases Store.writes_or_held request (run.node time).store race.bpn with ⟨write, writes⟩ | same
    · rw [← performed] at writes
      exact Or.inl ⟨write, writes⟩
    · rw [← performed] at same
      exact Or.inr same

section

variable [ReadyStore S]

theorem IsRun.expects (isRun : race.IsRun run) {change : Command} {answer : Answer}
    (answers : race.Answers run index change answer) : change.Expects race.bpn race.version := by
  rcases isRun.answered index answers.1 with ⟨named, given, expects, same⟩
  cases same.2.symm.trans answers.2
  exact expects

/-- A contender that passes its checks is made or refused by its last request, which falls
into the race. -/
theorem IsRun.decided (isRun : race.IsRun run) (roomy : race.HasRoom run) {change : Command}
    {answer : Answer} (expects : change.Expects race.bpn race.version)
    (answers : race.Answers run index change answer)
    (passed : change.checked run.policy = .ok ()) :
    ∃ last, race.since ≤ last ∧ last < race.ended ∧
      (race.IsMadeAt run index change last ∨ race.IsRefusedAt run index answer last) := by
  rcases expects.exists_request with ⟨request, requests⟩
  rcases Run.lastRequest_of_answered requests answers.2 with
    ⟨_, failed, _⟩ | ⟨_, last, before, isLast, replied⟩
  · rw [passed] at failed
    cases failed
  · have ready := isRun.ready index answers.1 last isLast
    rcases isLast.own.2 with ⟨⟨_, program⟩, there, _⟩
    rcases Run.becomes there (Nat.le_of_lt before) with ⟨_, same, _⟩
    cases same.symm.trans (Run.listed_of_answered answers.2)
    have since : race.since < last :=
      Run.lt_of_absent (isRun.later index answers.1) (List.getElem?_eq_some_iff.mp there).1
    have moved := (Run.request_step requests isLast.own there).2.1
    refine ⟨last, Nat.le_of_lt since, before, ?_⟩
    by_cases found : Held.IsAt race.version (race.held run last)
    · left
      rcases expects.wins requests passed ready
          (roomy last (Nat.le_of_lt since) before found) found with
        ⟨⟨given, told, success⟩, ⟨write, writes⟩, ⟨number, reports⟩, leaves⟩
      cases told.symm.trans replied
      rw [← moved] at writes leaves
      exact ⟨expects, isLast, ⟨answer, answers, success⟩, found, ⟨write, writes⟩,
        ⟨number, _, reports, moved⟩, leaves⟩
    · right
      have refused := expects.loses requests passed ready found
      have becomes := LawfulStore.held_perform (request (run.node last).now) (run.node last).store
        race.bpn
      rw [refused, Store.write?_failed, ← moved] at becomes
      rw [refused] at replied
      exact ⟨isLast, found, becomes.eq_of_none, (Option.some.inj replied).symm⟩

/-- Whoever writes to the BPN in the race is a contender that is made. -/
theorem IsRun.made_of_written (isRun : race.IsRun run) (roomy : race.HasRoom run)
    (after : race.since ≤ time) (before : time < race.ended) (written : race.IsWritten run time) :
    ∃ index change, race.IsMadeAt run index change time := by
  have moved := written.held_ne
  have stays : (run.node (time + 1)).store ≠ (run.node time).store :=
    fun same => moved (congrArg (LawfulStore.held · race.bpn) same)
  rcases isRun.alone time after before written with ⟨index, member, step⟩
  rcases isRun.answered index member with ⟨change, answer, expects, answers⟩
  rcases expects.exists_request with ⟨request, requests⟩
  have move : run.moves[time]? = some (.advance index) := step
  cases run.event time with
  | other idle => exact absurd (congrArg Node.store idle) stays
  | foreign foreign _ =>
      rw [move] at foreign
      cases foreign
  | @own other command _ _ _ _ _ own listed _ _ _ =>
      have same : index = other := by
        have advance : run.moves[time]? = some (.advance other) := own.1
        rw [move] at advance
        cases advance
        rfl
      subst same
      rcases Run.becomes listed (Nat.le_of_lt before) with ⟨_, present, _⟩
      cases present.symm.trans (Run.listed_of_answered answers.2)
      rcases Run.store_or_request requests step listed with same | asks
      · exact absurd same stays
      · rcases Run.request_step requests asks listed with ⟨passed, performed, left, next, outcome⟩
        rcases outcome with ⟨failure, failed, _⟩ | ends
        · have becomes := LawfulStore.held_perform (request (run.node time).now) (run.node time).store
            race.bpn
          rw [failed, Store.write?_failed, ← performed] at becomes
          exact absurd becomes.eq_of_none moved
        · rcases isRun.decided roomy expects answers passed with ⟨last, _, _, made | refused⟩
          · cases made.last.unique (Run.isLastRequest_of_ends asks next ends)
            exact ⟨index, _, made⟩
          · cases refused.last.unique (Run.isLastRequest_of_ends asks next ends)
            exact absurd refused.kept moved

/-! ## The first request that finds the version -/

/-- Whether nothing was written to the BPN of a race until a time. -/
structure IsOpen (race : Race) (run : Run S) (time : Nat) : Prop where
  unwritten : ∀ step, race.since ≤ step → step < time → ¬ race.IsWritten run step
  held : ∀ step, race.since ≤ step → step ≤ time → Held.IsAt race.version (race.held run step)

/-- Whether a race was decided for one contender before a time, and what it left is held
since then. -/
structure IsDecided (race : Race) (run : Run S) (winner : Nat) (change : Command)
    (committed time : Nat) : Prop where
  made : race.IsMadeAt run winner change committed
  after : race.since ≤ committed
  before : committed < time
  unwritten : ∀ step, race.since ≤ step → step < time → step ≠ committed →
    ¬ race.IsWritten run step
  held : ∀ step, race.since ≤ step → step ≤ committed → Held.IsAt race.version (race.held run step)
  left : ∀ step, committed < step → step ≤ time → race.held run step = change.leaves

theorem IsRun.isOpen_succ (isRun : race.IsRun run) (roomy : race.HasRoom run)
    (sound : LawfulStore.IsSound run.store) (after : race.since ≤ time)
    (before : time < race.ended) (isOpen : race.IsOpen run time) :
    race.IsOpen run (time + 1) ∨
      ∃ winner change, race.IsDecided run winner change time (time + 1) := by
  rcases race.written_or_held sound time with written | same
  · rcases isRun.made_of_written roomy after before written with ⟨winner, change, made⟩
    refine Or.inr ⟨winner, change, made, after, Nat.lt_succ_self time, ?_, isOpen.held, ?_⟩
    · exact fun step from_ until_ other => isOpen.unwritten step from_ (by omega)
    · intro step from_ until_
      cases Nat.le_antisymm until_ from_
      exact made.leaves
  · have unwritten : ¬ race.IsWritten run time := fun written => written.held_ne same
    refine Or.inl ⟨?_, ?_⟩
    · intro step from_ until_
      rcases Nat.lt_succ_iff_lt_or_eq.mp until_ with earlier | rfl
      · exact isOpen.unwritten step from_ earlier
      · exact unwritten
    · intro step from_ until_
      rcases Nat.le_succ_iff.mp until_ with earlier | rfl
      · exact isOpen.held step from_ earlier
      · exact same ▸ isOpen.held time after (Nat.le_refl time)

/-- Nobody finds the version any more after it was taken. -/
theorem IsRun.isDecided_succ (isRun : race.IsRun run) (roomy : race.HasRoom run)
    (sound : LawfulStore.IsSound run.store) {winner committed : Nat} {change : Command}
    (before : time < race.ended)
    (decided : race.IsDecided run winner change committed time) :
    race.IsDecided run winner change committed (time + 1) := by
  have after : race.since ≤ time := Nat.le_trans decided.after (Nat.le_of_lt decided.before)
  have gone : ¬ Held.IsAt race.version (race.held run time) := by
    rw [decided.left time decided.before (Nat.le_refl time)]
    exact decided.made.expects.not_isAt_leaves
  have unwritten : ¬ race.IsWritten run time := by
    intro written
    rcases isRun.made_of_written roomy after before written with ⟨_, _, made⟩
    exact gone made.found
  have same := (race.written_or_held sound time).resolve_left unwritten
  refine ⟨decided.made, decided.after, Nat.lt_succ_of_lt decided.before, ?_, decided.held, ?_⟩
  · intro step from_ until_ other
    rcases Nat.lt_succ_iff_lt_or_eq.mp until_ with earlier | rfl
    · exact decided.unwritten step from_ earlier other
    · exact unwritten
  · intro step from_ until_
    rcases Nat.le_succ_iff.mp until_ with earlier | rfl
    · exact decided.left step from_ earlier
    · exact same.trans (decided.left time decided.before (Nat.le_refl time))

theorem IsRun.isOpen_or_isDecided (isRun : race.IsRun run) (roomy : race.HasRoom run)
    (sound : LawfulStore.IsSound run.store) (after : race.since ≤ time) (before : time ≤ race.ended) :
    race.IsOpen run time ∨
      ∃ winner change committed, race.IsDecided run winner change committed time := by
  induction after with
  | refl =>
      refine Or.inl ⟨fun step from_ until_ => by omega, ?_⟩
      intro step from_ until_
      cases Nat.le_antisymm until_ from_
      exact isRun.start
  | @step time after ih =>
      rcases ih (Nat.le_of_lt before) with isOpen | ⟨winner, change, committed, decided⟩
      · rcases isRun.isOpen_succ roomy sound after before isOpen with still | ⟨winner, change, decided⟩
        · exact Or.inl still
        · exact Or.inr ⟨winner, change, time, decided⟩
      · exact Or.inr ⟨winner, change, committed, isRun.isDecided_succ roomy sound before decided⟩

/-- If some contender passes its checks, a race is decided by its end. -/
theorem IsRun.isDecided (isRun : race.IsRun run) (roomy : race.HasRoom run)
    (sound : LawfulStore.IsSound run.store) (valid : race.HasValid run) :
    ∃ winner change committed, race.IsDecided run winner change committed race.ended := by
  rcases valid with ⟨index, change, answer, answers, passed⟩
  have expects := isRun.expects answers
  rcases isRun.decided roomy expects answers passed with ⟨last, after, before, outcome⟩
  rcases isRun.isOpen_or_isDecided roomy sound (Nat.le_trans after (Nat.le_of_lt before))
    (Nat.le_refl _) with isOpen | decided
  · rcases outcome with made | refused
    · exact absurd made.written (isOpen.unwritten last after before)
    · exact absurd (isOpen.held last after (Nat.le_of_lt before)) refused.missed
  · exact decided

/-- A contender other than the one for which a race was decided fails its checks, or finds
what that one left. -/
theorem IsDecided.failed {winner committed : Nat} {taken : Command}
    (decided : race.IsDecided run winner taken committed race.ended) (isRun : race.IsRun run)
    (roomy : race.HasRoom run) {change : Command} {answer : Answer}
    (answers : race.Answers run index change answer) (other : index ≠ winner) :
    answer = .failed (change.failureAfter run.policy race.bpn race.version taken.leaves) := by
  have expects := isRun.expects answers
  unfold Command.failureAfter
  cases checked : change.checked run.policy with
  | error failure =>
      rcases expects.exists_request with ⟨request, requests⟩
      rcases Run.lastRequest_of_answered requests answers.2 with ⟨_, failed, same⟩ | ⟨passed, _⟩
      · cases checked.symm.trans failed
        exact same
      · cases checked.symm.trans passed
  | ok _ =>
      rcases isRun.decided roomy expects answers checked with ⟨last, after, before, made | refused⟩
      · -- Only one step writes to the BPN, and it is a step of the winner.
        have same : last = committed := by
          by_contra apart
          exact decided.unwritten last after before apart made.written
        subst same
        have own : run.moves[last]? = some (.advance index) := made.last.own.1
        have wins : run.moves[last]? = some (.advance winner) := decided.made.last.own.1
        rw [own] at wins
        cases wins
        exact absurd rfl other
      · have late : committed < last := by
          apply Nat.lt_of_not_le
          intro early
          exact refused.missed (decided.held last after early)
        rw [refused.failed, decided.left last late (Nat.le_of_lt before)]

variable [CountedStore S]

/-- Whether one contender of a race succeeds: what it leaves is held at the end, all others
fail, and its commit is the only one for the BPN and counts as one change. -/
structure IsWonBy (race : Race) (run : Run S) (winner : Nat) (change : Command) : Prop where
  succeeds : ∃ answer, race.Answers run winner change answer ∧ answer.isSuccess = true
  leaves : race.held run race.ended = change.leaves
  others : ∀ index other answer, race.Answers run index other answer → index ≠ winner →
    answer = .failed (other.failureAfter run.policy race.bpn race.version change.leaves)
  commit : ∃ committed, race.since ≤ committed ∧ committed < race.ended ∧
    run.IsStepOf winner committed ∧ race.IsWritten run committed ∧
    CountedStore.count (run.node (committed + 1)).store =
      CountedStore.count (run.node committed).store + 1 ∧
    ∀ step, race.since ≤ step → step < race.ended → step ≠ committed → ¬ race.IsWritten run step

theorem IsDecided.isWonBy {winner committed : Nat} {change : Command}
    (decided : race.IsDecided run winner change committed race.ended) (isRun : race.IsRun run)
    (roomy : race.HasRoom run) : race.IsWonBy run winner change where
  succeeds := decided.made.success
  leaves := decided.left race.ended decided.before (Nat.le_refl _)
  others := fun _ _ _ answers other => decided.failed isRun roomy answers other
  commit := by
    rcases decided.made.reports with ⟨number, reports⟩
    have counted := reports.count
    refine ⟨committed, decided.after, decided.before, decided.made.last.own.1, decided.made.written,
      ?_, decided.unwritten⟩
    exact counted.2.trans counted.1

omit [ReadyStore S] in
/-- No two contenders win a race. -/
theorem IsWonBy.unique {winner other : Nat} {change also : Command}
    (first : race.IsWonBy run winner change) (second : race.IsWonBy run other also) :
    other = winner := by
  by_contra apart
  rcases second.succeeds with ⟨answer, answers, success⟩
  rw [first.others other also answer answers apart] at success
  cases success

end

end Race

/-- Of any number of rotations and removals of a BPN that expect the version which it has,
exactly one succeeds, in whatever order they take their steps, and however often some of them
have to try again: the BPN is left as that one leaves it, with one change counted for it, and
every other one is told so unless it fails its checks. -/
theorem exactly_one_wins {S : Type} [MappingStore S] [LawfulStore S] [CountedStore S]
    [ReadyStore S] (run : Run S) (sound : LawfulStore.IsSound run.store) {race : Race}
    (isRun : race.IsRun run) (roomy : race.HasRoom run) (valid : race.HasValid run) :
    ∃! winner, ∃ change, race.IsWonBy run winner change := by
  rcases isRun.isDecided roomy sound valid with ⟨winner, change, committed, decided⟩
  have won := decided.isWonBy isRun roomy
  refine ⟨winner, ⟨change, won⟩, ?_⟩
  rintro other ⟨also, again⟩
  exact won.unique again

/-- A run over a link that fails once.  A rotation, a removal and a rotation to a text that is
no DID expect the version at which a BPN stands; the first one has to try again, and comes
too late. -/
def Run.contest : Run (Store.Link Store.Memory) where
  policy := ⟨10, 10, 10, ⟨1, 0, 0⟩⟩
  settings := ⟨true, 4, 1, none⟩
  store := (Store.Link.up (Store.Memory.put Store.Request.noon "BPNL00000000000A" "did:web:first"
    none .empty).2).cut 1 (.storeUnavailable "")
  now := Store.Request.noon
  moves :=
    .start (.rotate "BPNL00000000000A" "did:web:second" 1) ::
    .start (.remove "BPNL00000000000A" 1) ::
    .start (.rotate "BPNL00000000000A" "second" 1) ::
    .advance 0 :: .advance 0 :: List.replicate 5 (.advance 1) ++ List.replicate 3 (.advance 0)

def Race.ofThree : Race := ⟨"BPNL00000000000A", 1, [0, 1, 2], 0, 13⟩

theorem contest_won_once :
    LawfulStore.IsSound Run.contest.store ∧ Race.ofThree.IsRun Run.contest ∧
      Race.ofThree.HasRoom Run.contest ∧ Race.ofThree.HasValid Run.contest ∧
      ∃! winner, ∃ change, Race.ofThree.IsWonBy Run.contest winner change := by
  have sound : LawfulStore.IsSound Run.contest.store :=
    ⟨LawfulStore.sound_perform (.put Store.Request.noon "BPNL00000000000A" "did:web:first" none)
      Store.Memory.isSound_empty, nofun⟩
  have isRun : Race.ofThree.IsRun Run.contest := {
    start := by decide +kernel
    later := fun _ _ => Nat.zero_le _
    answered := by
      intro index member
      simp only [Race.ofThree, List.mem_cons, List.not_mem_nil, or_false] at member
      rcases member with rfl | rfl | rfl
      · exact ⟨.rotate "BPNL00000000000A" "did:web:second" 1, .failed (.noMapping "BPNL00000000000A"),
          ⟨rfl, rfl⟩, by decide, by decide +kernel⟩
      · exact ⟨.remove "BPNL00000000000A" 1, .done, ⟨rfl, rfl⟩, by decide, by decide +kernel⟩
      · exact ⟨.rotate "BPNL00000000000A" "second" 1,
          .failed (.invalidInput "DID must start with 'did:': second"), ⟨rfl, rfl⟩, by decide,
          by decide +kernel⟩
    alone := by
      intro time _ before written
      have held := written.held_ne
      have steps : ∀ time < 13, Race.ofThree.held Run.contest (time + 1) =
          Race.ofThree.held Run.contest time ∨
            ∃ index ∈ Race.ofThree.contenders, Run.contest.moves[time]? = some (.advance index) := by
        decide +kernel
      exact (steps time before).resolve_left held
    ready := by
      intro index member time isLast
      refine ⟨?_, trivial⟩
      have own : Run.contest.moves[time]? = some (.advance index) := isLast.own.1
      have before : time < 13 := (List.getElem?_eq_some_iff.mp own).1
      have attempts : ∀ time < 13, ∀ index ∈ Race.ofThree.contenders,
          Run.contest.IsStepAt index .store time → (Run.contest.node time).store.down = 0 ∨
            ∃ later < 13, time < later ∧ Run.contest.IsStepAt index .store later := by
        decide +kernel
      rcases attempts time before index member isLast.own with up | ⟨later, _, after, again⟩
      · exact up
      · exact absurd again (isLast.last later after)
  }
  have roomy : Race.ofThree.HasRoom Run.contest := fun _ _ _ _ => trivial
  have valid : Race.ofThree.HasValid Run.contest :=
    ⟨1, .remove "BPNL00000000000A" 1, .done, ⟨by decide, by decide +kernel⟩, by decide +kernel⟩
  exact ⟨sound, isRun, roomy, valid, exactly_one_wins Run.contest sound isRun roomy valid⟩

/-- A run with one rotation, to a text that is no DID. -/
def Run.mistake : Run Store.Memory where
  policy := ⟨10, 10, 10, ⟨1, 0, 0⟩⟩
  settings := ⟨true, 4, 1, none⟩
  store := (Store.Memory.put Store.Request.noon "BPNL00000000000A" "did:web:first" none .empty).2
  now := Store.Request.noon
  moves := [.start (.rotate "BPNL00000000000A" "second" 1)]

/-- A run with one rotation on a database that cannot count any further. -/
def Run.overflow : Run Store.Tables where
  policy := ⟨10, 10, 10, ⟨1, 0, 0⟩⟩
  settings := ⟨true, 4, 1, none⟩
  store :=
    { Store.Tables.migrated with
      mappings := some (OrderedMap.empty.insert "BPNL00000000000A"
        ⟨"did:web:first", 1, "2024-02-29T12:00:00Z", "2024-02-29T12:00:00Z"⟩)
      metadata := some (some Text.maxSigned64) }
  now := Store.Request.noon
  moves := .start (.rotate "BPNL00000000000A" "did:web:second" 1) :: List.replicate 2 (.advance 0)

theorem Run.isReady_overflow :
    ReadyStore.IsReady (Run.overflow.node 1).now (Run.overflow.node 1).store where
  healthy := by
    have empty : Store.Tables.IsReadable .empty := by
      intro bpn row found
      cases found
    have read : Store.Tables.readRow "BPNL00000000000A"
        ⟨"did:web:first", 1, "2024-02-29T12:00:00Z", "2024-02-29T12:00:00Z"⟩ =
          .ok ⟨"BPNL00000000000A", "did:web:first", 1, ⟨⟨2024, 2, 29⟩, 43200, 0⟩,
            ⟨⟨2024, 2, 29⟩, 43200, 0⟩⟩ := by
      decide +kernel
    exact ⟨rfl, _, rfl, empty.insert read⟩
  proper := by decide
  plain := by decide

/-- A race of one contender, in which nothing is written. -/
theorem Race.isRun_alone {S : Type} [MappingStore S] [LawfulStore S] [ReadyStore S] {race : Race}
    {run : Run S} {change : Command} {answer : Answer} (one : race.contenders = [0])
    (zero : race.since = 0) (start : Held.IsAt race.version (race.held run 0))
    (expects : change.Expects race.bpn race.version)
    (answered : (run.traffic race.ended).answer? 0 = some (change, answer))
    (kept : ∀ time < race.ended, race.held run (time + 1) = race.held run time)
    (ready : ∀ time, run.IsLastRequest 0 time →
      ReadyStore.IsReady (run.node time).now (run.node time).store) : race.IsRun run where
  start := zero ▸ start
  later := fun _ _ => zero ▸ Nat.zero_le _
  answered := by
    intro index member
    rw [one] at member
    cases List.mem_singleton.mp member
    exact ⟨change, answer, expects, one ▸ List.mem_singleton_self 0, answered⟩
  alone := fun time _ before written => absurd (kept time before) written.held_ne
  ready := by
    intro index member
    rw [one] at member
    cases List.mem_singleton.mp member
    exact ready

/-- A race of one contender that fails has no winner. -/
theorem Race.not_isWonBy_alone {S : Type} [MappingStore S] [LawfulStore S] [CountedStore S]
    {race : Race} {run : Run S} {change : Command} {failure : Failure} (one : race.contenders = [0])
    (answered : (run.traffic race.ended).answer? 0 = some (change, .failed failure)) :
    ¬ ∃! winner, ∃ change, race.IsWonBy run winner change := by
  rintro ⟨winner, ⟨also, won⟩, _⟩
  rcases won.succeeds with ⟨answer, ⟨member, same⟩, success⟩
  rw [one] at member
  cases List.mem_singleton.mp member
  cases answered.symm.trans same
  cases success

/-- No contender may win if none passes its checks, or if the store has no room for one more
change. -/
theorem not_exactly_one_wins :
    (¬ ∀ (run : Run Store.Memory) (race : Race), LawfulStore.IsSound run.store →
      race.IsRun run → race.contenders ≠ [] → race.HasRoom run →
      ∃! winner, ∃ change, race.IsWonBy run winner change) ∧
    ¬ ∀ (run : Run Store.Tables) (race : Race), LawfulStore.IsSound run.store →
      race.IsRun run → race.contenders ≠ [] → race.HasValid run →
      ∃! winner, ∃ change, race.IsWonBy run winner change := by
  constructor
  · intro always
    let race : Race := ⟨"BPNL00000000000A", 1, [0], 0, 1⟩
    have answered : (Run.mistake.traffic 1).answer? 0 =
        some (.rotate "BPNL00000000000A" "second" 1,
          .failed (.invalidInput "DID must start with 'did:': second")) := by
      decide +kernel
    have sound : LawfulStore.IsSound Run.mistake.store :=
      LawfulStore.sound_perform (.put Store.Request.noon "BPNL00000000000A" "did:web:first" none)
        Store.Memory.isSound_empty
    have expects : Command.Expects (.rotate "BPNL00000000000A" "second" 1) race.bpn race.version :=
      ⟨rfl, rfl⟩
    have isRun : race.IsRun Run.mistake :=
      Race.isRun_alone rfl rfl (by decide +kernel) expects answered (by decide +kernel)
        fun _ _ => trivial
    exact Race.not_isWonBy_alone rfl answered
      (always Run.mistake race sound isRun (List.cons_ne_nil _ _) fun _ _ _ _ => trivial)
  · intro always
    let race : Race := ⟨"BPNL00000000000A", 1, [0], 0, 3⟩
    have answered : (Run.overflow.traffic 3).answer? 0 =
        some (.rotate "BPNL00000000000A" "did:web:second" 1,
          .failed (.database "error occurred while decoding column version")) := by
      decide +kernel
    have expects : Command.Expects (.rotate "BPNL00000000000A" "did:web:second" 1) race.bpn
        race.version :=
      ⟨rfl, rfl⟩
    have isRun : race.IsRun Run.overflow := by
      refine Race.isRun_alone rfl rfl (by decide +kernel) expects answered (by decide +kernel) ?_
      intro time isLast
      have own : Run.overflow.moves[time]? = some (.advance 0) := isLast.own.1
      have before : time < 3 := (List.getElem?_eq_some_iff.mp own).1
      have first : ∀ time < 3, Run.overflow.IsStepAt 0 .store time → time = 1 := by decide +kernel
      cases first time before isLast.own
      exact Run.isReady_overflow
    exact Race.not_isWonBy_alone rfl answered
      (always Run.overflow race trivial isRun (List.cons_ne_nil _ _)
        ⟨0, _, _, ⟨by decide, answered⟩, by decide +kernel⟩)

end Resolver
end BpnDirectory
