import BpnDirectory.Proofs.Resolver.Dumps
import BpnDirectory.Proofs.Resolver.Observation
import BpnDirectory.Proofs.Resolver.Refusals
import BpnDirectory.Proofs.Store.Snapshots

namespace BpnDirectory
namespace Resolver

/-!
Dumps after acknowledged changes.

A change drops the dump after its commit and before its acknowledgement, which takes
the shelf to a new generation.  A dump that is still kept later was therefore taken
from the store after that commit, even if others began to build theirs before it and
finish long after.
-/

open Program (Becomes)
open Store (Call LawfulStore MappingStore SnapshotStore)

variable {S α : Type}

/-! ## Changes drop the dump -/

section

variable {state : Nat → Node S} {IsOwn : Reach → Nat → Prop} {start time : Nat}

/-- Whether the dump was dropped between two times. -/
def Drops (state : Nat → Node S) (start time : Nat) : Prop :=
  ∃ step, start ≤ step ∧ step < time ∧ state (step + 1) = (state step).dropDump

theorem Drops.mono {earlier later : Nat} (drops : Drops state start time)
    (before : earlier ≤ start) (after : time ≤ later) : Drops state earlier later := by
  rcases drops with ⟨step, from_, until_, dropped⟩
  exact ⟨step, Nat.le_trans before from_, Nat.lt_of_lt_of_le until_ after, dropped⟩

theorem drops_of_dropDump {value : Unit}
    (becomes : Becomes state IsOwn (Operation.change Node.dropDump : Operation S Unit).run start
      (.done (.ok value)) time) : Drops state start time := by
  rcases Operation.done_of_change becomes with ⟨step, from_, until_, _, dropped⟩
  exact ⟨step, from_, until_, dropped⟩

theorem drops_of_forget {bpn : String} {value : Unit}
    (becomes : Becomes state IsOwn (forget bpn : Operation S Unit).run start
      (.done (.ok value)) time) : Drops state start time := by
  rcases Operation.ok_of_bind becomes with ⟨invalidated, middle, invalidating, becomes⟩
  have reached := invalidating.le
  cases invalidated with
  | ok _ => exact (drops_of_dropDump becomes).mono reached (Nat.le_refl time)
  | error failure =>
      rcases Operation.ok_of_bind becomes with ⟨_, counted, counting, becomes⟩
      rcases Operation.ok_of_bind becomes with ⟨_, queued, queuing, becomes⟩
      have later := Nat.le_trans reached (Nat.le_trans counting.le queuing.le)
      exact (drops_of_dropDump becomes).mono later (Nat.le_refl time)

theorem drops_of_forgetAll {bpns : List String} {value : Unit} (named : bpns ≠ [])
    (becomes : Becomes state IsOwn (forgetAll bpns : Operation S Unit).run start
      (.done (.ok value)) time) : Drops state start time := by
  cases bpns with
  | nil => exact absurd rfl named
  | cons bpn rest =>
      rcases Operation.ok_of_bind becomes with ⟨_, middle, forgetting, becomes⟩
      exact (drops_of_forget forgetting).mono (Nat.le_refl start) becomes.le

/-- Whether a change was committed by an own step since a time and the dump was dropped
after that, by another time. -/
def DropsAfter (state : Nat → Node S) (IsOwn : Reach → Nat → Prop)
    (Commits : Time.Instant → S → S → Prop) (start time : Nat) : Prop :=
  ∃ step, start ≤ step ∧ IsOwn .store step ∧
    Commits (state step).now (state step).store (state (step + 1)).store ∧
    Drops state (step + 1) time

theorem DropsAfter.mono {Commits : Time.Instant → S → S → Prop} {earlier : Nat}
    (drops : DropsAfter state IsOwn Commits start time) (before : earlier ≤ start) :
    DropsAfter state IsOwn Commits earlier time := by
  rcases drops with ⟨step, from_, rest⟩
  exact ⟨step, Nat.le_trans before from_, rest⟩

/-- A change that was committed, forgotten and acknowledged has dropped the dump in
between. -/
theorem dropsAfter_of_change {call : Time.Instant → Call S (Committed α)}
    {commit : Operation S (Committed α)} {forgetting : Committed α → Operation S Unit}
    {finish : Committed α → Operation S α} {value : α}
    (committing : ∀ {outcome later}, Becomes state IsOwn commit.run start (.done outcome) later →
      Called state (IsOwn .store) call outcome start later)
    (forgets : ∀ {committed now store after middle later},
      call now store = (.ok committed, after) →
      Becomes state IsOwn (forgetting committed).run middle (.done (.ok ())) later →
      Drops state middle later)
    (finishes : ∀ committed, Program.Yields (· = .ok committed.value) (finish committed).run)
    (becomes : Becomes state IsOwn
      (do
        let committed ← commit
        forgetting committed
        finish committed : Operation S α).run start (.done (.ok value)) time) :
    DropsAfter state IsOwn
      (fun now before after => ∃ version, call now before = (.ok ⟨value, version⟩, after))
      start time := by
  rcases Operation.ok_of_bind becomes with ⟨committed, middle, made, becomes⟩
  rcases Operation.ok_of_bind becomes with ⟨_, later, forgot, becomes⟩
  have same := (finishes committed).becomes becomes
  cases same
  rcases committing made with ⟨step, from_, until_, own, called⟩
  have drops := (forgets called forgot).mono until_ becomes.le
  exact ⟨step, from_, own, ⟨committed.directoryVersion, called⟩, drops⟩

theorem yields_followCommit (version : Int) (value : α) :
    Program.Yields (· = .ok value)
      (do Operation.change (Node.followCommit version); pure value : Operation S α).run :=
  fun _ => rfl

variable [MappingStore S]

theorem dropsAfter_of_register {policy : Policy} {bpn did : String} {kept : Record}
    (becomes : Becomes state IsOwn (register policy bpn did : Operation S Record).run start
      (.done (.ok kept)) time) :
    DropsAfter state IsOwn (Command.Commits (.register bpn did) (.record kept)) start time := by
  rcases Operation.ok_of_bind becomes with ⟨_, first, checkedBpn, becomes⟩
  rcases Operation.ok_of_bind becomes with ⟨_, second, checkedDid, becomes⟩
  refine (dropsAfter_of_change ?_ ?_ ?_ becomes).mono (Nat.le_trans checkedBpn.le checkedDid.le)
  · exact called_of_request
  · exact fun _ => drops_of_forget
  · exact fun committed => yields_followCommit _ committed.value

theorem dropsAfter_of_rotate {policy : Policy} {bpn did : String} {expected : Int} {kept : Record}
    (becomes : Becomes state IsOwn (rotate policy bpn did expected : Operation S Record).run start
      (.done (.ok kept)) time) :
    DropsAfter state IsOwn (Command.Commits (.rotate bpn did expected) (.record kept)) start
      time := by
  rcases Operation.ok_of_bind becomes with ⟨_, first, checkedBpn, becomes⟩
  rcases Operation.ok_of_bind becomes with ⟨_, second, checkedDid, becomes⟩
  refine (dropsAfter_of_change ?_ ?_ ?_ becomes).mono (Nat.le_trans checkedBpn.le checkedDid.le)
  · exact called_of_noteConflict called_of_request
  · exact fun _ => drops_of_forget
  · exact fun committed => yields_followCommit _ committed.value

theorem dropsAfter_of_remove {policy : Policy} {bpn : String} {expected : Int} {value : Unit}
    (becomes : Becomes state IsOwn (remove policy bpn expected : Operation S Unit).run start
      (.done (.ok value)) time) :
    DropsAfter state IsOwn (Command.Commits (.remove bpn expected) .done) start time := by
  rcases Operation.ok_of_bind becomes with ⟨_, first, checkedBpn, becomes⟩
  refine (dropsAfter_of_change ?_ ?_ ?_ becomes).mono checkedBpn.le
  · exact called_of_noteConflict called_of_request
  · exact fun _ => drops_of_forget
  · exact fun _ _ => rfl

theorem dropsAfter_of_registerBatch [LawfulStore S] {policy : Policy} {batch : List NewMapping}
    {kept : List Record}
    (becomes : Becomes state IsOwn (registerBatch policy batch : Operation S (List Record)).run
      start (.done (.ok kept)) time) :
    DropsAfter state IsOwn (Command.Commits (.registerBatch batch) (.records kept)) start
      time := by
  rcases Operation.ok_of_bind becomes with ⟨_, first, checked, becomes⟩
  have passed : checkBatch policy batch = .ok () :=
    (Program.done.inj (Becomes.of_done checked)).symm
  refine (dropsAfter_of_change ?_ ?_ ?_ becomes).mono checked.le
  · exact called_of_request
  · intro committed now store after middle later called forgot
    refine drops_of_forgetAll ?_ forgot
    rw [LawfulStore.putBatch_bpns (congrArg Prod.fst called)]
    simpa using filled_of_checkBatch passed
  · exact fun committed => yields_followCommit _ committed.value

/-- Every change that succeeds has dropped the dump after it was committed. -/
theorem Command.dropsAfter [LawfulStore S] {policy : Policy} {command : Command} {answer : Answer}
    (change : command.isChange = true) (success : answer.isSuccess = true)
    (becomes : Becomes state IsOwn (command.program policy : Program (Node S) Answer) start
      (.done answer) time) :
    DropsAfter state IsOwn (command.Commits answer) start time := by
  cases command with
  | register bpn did =>
      rcases Command.done_of_answered becomes with ⟨outcome, rfl, done⟩
      cases outcome with
      | error failure => cases success
      | ok kept => exact dropsAfter_of_register done
  | rotate bpn did expected =>
      rcases Command.done_of_answered becomes with ⟨outcome, rfl, done⟩
      cases outcome with
      | error failure => cases success
      | ok kept => exact dropsAfter_of_rotate done
  | remove bpn expected =>
      rcases Command.done_of_answered becomes with ⟨outcome, rfl, done⟩
      cases outcome with
      | error failure => cases success
      | ok value => exact dropsAfter_of_remove done
  | registerBatch batch =>
      rcases Command.done_of_answered becomes with ⟨outcome, rfl, done⟩
      cases outcome with
      | error failure => cases success
      | ok kept => exact dropsAfter_of_registerBatch done
  | _ => cases change

end

/-! ## In a run -/

namespace Run

variable [MappingStore S] {run : Run S}

/-- A dump that is kept after it was dropped was taken after that. -/
theorem lt_of_dropped {dropped looked seen : Nat}
    (drops : run.node (dropped + 1) = (run.node dropped).dropDump) (before : dropped < looked)
    (level : (run.node seen).shelf.generation = (run.node looked).shelf.generation) :
    dropped < seen := by
  apply Nat.lt_of_not_le
  intro earlier
  have risen : (run.node (dropped + 1)).shelf.generation =
      (run.node dropped).shelf.generation + 1 := by
    rw [drops]
    rfl
  have upTo := run.shelf_generation_le earlier
  have onwards : (run.node (dropped + 1)).shelf.generation ≤ _ := run.shelf_generation_le before
  omega

/-- The dump that a call yields is one of what the store held at some time after every drop
that came before the call. -/
theorem isDumpOf_of_done {policy : Policy} {IsOwn : Reach → Nat → Prop} {begun returned : Nat}
    {dump : Dump}
    (becomes : Becomes run.node IsOwn (dumpDirectory policy : Operation S Dump).run begun
      (.done (.ok dump)) returned) :
    ∃ seen < returned, IsDumpOf dump (run.node seen).store ∧
      ∀ time ≤ begun, ∀ start, Drops run.node start time → start < seen := by
  rcases done_of_dumpDirectory becomes with ⟨looked, since, before, kept | isDump⟩
  · rcases run.isDumpOf_of_kept kept with ⟨seen, earlier, isDump, level⟩
    refine ⟨seen, Nat.lt_trans earlier before, isDump, ?_⟩
    rintro time begins start ⟨dropped, from_, until_, drops⟩
    have order : dropped < looked := Nat.lt_of_lt_of_le until_ (Nat.le_trans begins since)
    exact Nat.lt_of_le_of_lt from_ (lt_of_dropped drops order level)
  · refine ⟨looked, before, isDump, ?_⟩
    rintro time begins start ⟨dropped, from_, until_, _⟩
    exact Nat.lt_of_le_of_lt from_ (Nat.lt_of_lt_of_le until_ (Nat.le_trans begins since))

variable [LawfulStore S]

/-- Whether a dump is the map of what the store of a node holds, from BPNs to DIDs. -/
def Shows (run : Run S) (dump : Dump) (time : Nat) : Prop :=
  ∃ entries, dump.text = Dump.write entries ∧
    ∀ bpn, entries.find? bpn = (run.node time).heldDid bpn

theorem shows_of_isDumpOf [SnapshotStore S] {dump : Dump} {time : Nat}
    (isDump : IsDumpOf dump (run.node time).store) : run.Shows dump time := by
  rcases isDump with ⟨entries, shown, text⟩
  exact ⟨entries, text, SnapshotStore.find?_snapshot shown⟩

end Run

/-- The dump that a call yields shows what the store held at some time before the call was
answered and after the commit of every change that was acknowledged when the call
began.  Any calls may overlap with it, changes and other dumps among them. -/
theorem dump_reflects_acknowledged [MappingStore S] [LawfulStore S] [SnapshotStore S]
    (run : Run S) {reader started returned : Nat}
    {dump : Dump} (begins : (run.traffic started).tasks.length ≤ reader)
    (answers : (run.traffic returned).answer? reader = some (.dump, .dump dump)) :
    ∃ seen < returned, run.Shows dump seen ∧
      ∀ writer change acknowledgement,
        (run.traffic started).answer? writer = some (change, acknowledgement) →
        change.isChange = true → acknowledgement.isSuccess = true →
          ∃ committed < seen, run.IsStepOf writer committed ∧
            change.Commits acknowledgement (run.node committed).now (run.node committed).store
              (run.node (committed + 1)).store := by
  rcases Run.becomes_of_listed (Run.listed_of_answered answers) with ⟨begun, _, present, becomes⟩
  have order : started ≤ begun := by
    apply Nat.le_of_lt
    apply Nat.lt_of_not_le
    intro earlier
    have grown := run.length_tasks_mono earlier
    exact Nat.lt_irrefl _ (Nat.lt_of_lt_of_le present (Nat.le_trans grown begins))
  rcases Command.done_of_answered becomes with ⟨outcome, same, becomes⟩
  cases outcome with
  | error failure => cases same
  | ok built =>
      cases same
      rcases Run.isDumpOf_of_done becomes with ⟨seen, before, isDump, after⟩
      refine ⟨seen, before, Run.shows_of_isDumpOf isDump, ?_⟩
      intro writer change acknowledgement acknowledges isChange success
      rcases Run.becomes_of_listed (Run.listed_of_answered acknowledges) with ⟨_, _, _, made⟩
      rcases Command.dropsAfter isChange success made with
        ⟨committed, _, own, commits, drops⟩
      exact ⟨committed, Nat.lt_of_succ_lt (after started order _ drops), own.1, commits⟩

/-- A run in which a BPN is rotated while a dump is being built, which has read the old
DID; the directory is dumped again when both are done. -/
def Run.overtaken : Run Store.Memory where
  policy := ⟨10, 10, 10, ⟨1, 0, 0⟩⟩
  settings := ⟨true, 4, 1, none⟩
  store := .empty
  now := Store.Request.noon
  moves :=
    .start (.register "BPNL00000000000A" "did:web:first") :: List.replicate 5 (.advance 0) ++
    .start .dump :: List.replicate 3 (.advance 1) ++
    .start (.rotate "BPNL00000000000A" "did:web:second" 1) :: List.replicate 5 (.advance 2) ++
    List.replicate 3 (.advance 1) ++ .start .dump :: List.replicate 6 (.advance 3)

def Run.secondDump : Dump := ⟨"\x7b\"BPNL00000000000A\":\"did:web:second\"\x7d", 1⟩

theorem dump_reflects_rotation :
    (Run.overtaken.traffic 19).tasks.length ≤ 3 ∧
      (Run.overtaken.traffic 26).answer? 3 = some (.dump, .dump Run.secondDump) ∧
      ∃ seen < 26, Run.overtaken.Shows Run.secondDump seen ∧
        ∀ writer change acknowledgement,
          (Run.overtaken.traffic 19).answer? writer = some (change, acknowledgement) →
          change.isChange = true → acknowledgement.isSuccess = true →
            ∃ committed < seen, Run.overtaken.IsStepOf writer committed ∧
              change.Commits acknowledgement (Run.overtaken.node committed).now
                (Run.overtaken.node committed).store
                (Run.overtaken.node (committed + 1)).store := by
  have begins : (Run.overtaken.traffic 19).tasks.length ≤ 3 := by decide +kernel
  have answers : (Run.overtaken.traffic 26).answer? 3 =
      some (.dump, .dump Run.secondDump) := by
    decide +kernel
  exact ⟨begins, answers, dump_reflects_acknowledged Run.overtaken begins answers⟩

end Resolver
end BpnDirectory
