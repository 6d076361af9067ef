import BpnDirectory.Proofs.Resolver.Traffic

namespace BpnDirectory
namespace Resolver

/-!
Changes that name the version of a record that was read.

The version of a record grows with each of its changes, so a change that expects the
version that was read finds the record that was read, and nothing was written to its
BPN in between.  The versions of a BPN start anew once it is removed.  If it is then
registered again, the version that is expected may be that of another record.
-/

open Store (Held LawfulStore MappingStore Write Writes)

variable {S : Type} [MappingStore S]

/-- Whether a call changes the record of a BPN at a version and not otherwise. -/
def Command.Expects : Command → String → Int → Prop
  | .rotate key _ expected, bpn, version | .remove key expected, bpn, version =>
    key = bpn ∧ expected = version
  | _, _, _ => False

theorem Command.Expects.changes {change : Command} {bpn : String} {version : Int}
    (expects : change.Expects bpn version) : change.Changes bpn := by
  cases change with
  | rotate | remove => exact expects.1
  | _ => exact expects.elim

/-! ## Updates -/

/-- A call that showed a record, and a later change of the same BPN. -/
structure Update where
  bpn : String
  kept : Record
  reader : Nat
  /-- A time by which the record was shown. -/
  shownAt : Nat
  writer : Nat
  change : Command
  answer : Answer
  /-- A time by which the change was answered. -/
  answeredAt : Nat

namespace Update

/-- Whether an update was made in a run: the change began when the record had been
shown, expected the version of the record, and succeeded. -/
structure IsMade (update : Update) (run : Run S) : Prop where
  shown : (run.traffic update.shownAt).answer? update.reader =
    some (.record update.bpn, .record update.kept)
  later : (run.traffic update.shownAt).tasks.length ≤ update.writer
  expects : update.change.Expects update.bpn update.kept.version
  answered : (run.traffic update.answeredAt).answer? update.writer =
    some (update.change, update.answer)
  success : update.answer.isSuccess = true

/-- Whether the record of an update was read at one time and its change was committed
at another. -/
structure Spans (update : Update) (run : Run S) (read committed : Nat) : Prop where
  reads : run.IsStepOf update.reader read
  found : (MappingStore.get update.bpn (run.node read).store).1 = .ok update.kept
  readBefore : read < update.shownAt
  commits : run.IsStepOf update.writer committed
  commit : update.change.Commits update.answer (run.node committed).now
    (run.node committed).store (run.node (committed + 1)).store
  committedAfter : update.shownAt ≤ committed
  committedBefore : committed < update.answeredAt

end Update

/-- Whether a BPN was removed between two times of a run. -/
def Run.Removes (run : Run S) (bpn : String) (earlier time : Nat) : Prop :=
  ∃ step, earlier ≤ step ∧ step < time ∧
    Writes bpn .deleted (run.node step).store (run.node (step + 1)).store

variable [LawfulStore S]

/-- Whether a record stayed in the store between two times of a run, and nothing was
written to its BPN. -/
structure Run.LeavesAlone (run : Run S) (bpn : String) (record : Record) (earlier time : Nat) :
    Prop where
  held : ∀ step, earlier ≤ step → step ≤ time →
    LawfulStore.held (run.node step).store bpn = some (.ofRecord record)
  unwritten : ∀ step, earlier ≤ step → step < time →
    ∀ write, ¬ Writes bpn write (run.node step).store (run.node (step + 1)).store

/-! ## Versions -/

/-- A change that expects a version finds it. -/
theorem Command.Commits.held {change : Command} {answer : Answer} {now : Time.Instant}
    {before after : S} {bpn : String} {version : Int}
    (commit : change.Commits answer now before after) (expects : change.Expects bpn version) :
    ∃ did, LawfulStore.held before bpn = some ⟨did, version⟩ := by
  cases change with
  | rotate key did expected =>
      rcases expects with ⟨rfl, rfl⟩
      cases answer with
      | record kept =>
          rcases commit with ⟨_, put⟩
          exact LawfulStore.replaced_version (congrArg Prod.fst put)
      | _ => exact commit.elim
  | remove key expected =>
      rcases expects with ⟨rfl, rfl⟩
      cases answer with
      | done =>
          rcases commit with ⟨_, deleted⟩
          exact LawfulStore.deleted_version (congrArg Prod.fst deleted)
      | _ => exact commit.elim
  | _ => exact expects.elim

section

variable {state : Nat → Node S} {IsOwn : Nat → Prop} {bpn : String} {earlier time : Nat}

/-- In a fair step in which a BPN is not removed, what is held for it stays or gets the
next version. -/
theorem held_succ {step : Nat} (fair : (course state IsOwn).IsFair step) {held : Held}
    (holds : LawfulStore.held (state step).store bpn = some held)
    (stays : ¬ Writes bpn .deleted (state step).store (state (step + 1)).store) :
    ∃ next, LawfulStore.held (state (step + 1)).store bpn = some next ∧
      (next = held ∨ next.version = held.version + 1) := by
  rcases fair.store with same | ⟨request, performed⟩
  · exact ⟨held, same ▸ holds, Or.inl rfl⟩
  · rw [performed] at stays ⊢
    rcases Store.writes_or_held request (state step).store bpn with ⟨write, writes⟩ | same
    · have becomes := writes.becomes
      rw [holds] at becomes
      rcases becomes.cases_of_some with ⟨rfl, _⟩ | ⟨did, _, next⟩
      · exact absurd writes stays
      · exact ⟨_, next, Or.inr rfl⟩
    · exact ⟨held, same.trans holds, Or.inl rfl⟩

/-- While a BPN is not removed, what is held for it stays or gets a greater version. -/
theorem held_or_grown (fair : (course state IsOwn).IsFairUntil time) (before : earlier ≤ time)
    {first : Held} (holds : LawfulStore.held (state earlier).store bpn = some first)
    (stays : ∀ step, earlier ≤ step → step < time →
      ¬ Writes bpn .deleted (state step).store (state (step + 1)).store) :
    ∃ last, LawfulStore.held (state time).store bpn = some last ∧
      (last = first ∨ first.version < last.version) := by
  induction before with
  | refl => exact ⟨first, holds, Or.inl rfl⟩
  | @step time before ih =>
      rcases ih (fair.mono (Nat.le_succ time))
        fun step from_ until_ => stays step from_ (Nat.lt_succ_of_lt until_) with
        ⟨middle, between, grown⟩
      rcases held_succ (fair time (Nat.lt_succ_self time)) between
        (stays time before (Nat.lt_succ_self time)) with
        ⟨last, next, more⟩
      refine ⟨last, next, ?_⟩
      rcases more with rfl | more
      · exact grown
      · right
        have greater : middle.version < last.version := more ▸ Int.lt_succ middle.version
        rcases grown with rfl | grown
        · exact greater
        · exact Int.lt_trans grown greater

end

/-- A record whose version is found again, while its BPN was not removed, was left
alone all the time. -/
theorem Run.leavesAlone_of_version {run : Run S} (sound : LawfulStore.IsSound run.store)
    {bpn did : String} {record : Record} {earlier time : Nat}
    (first : LawfulStore.held (run.node earlier).store bpn = some (.ofRecord record))
    (last : LawfulStore.held (run.node time).store bpn = some ⟨did, record.version⟩)
    (stays : ¬ run.Removes bpn earlier time) : run.LeavesAlone bpn record earlier time := by
  have fair := run.isFairUntil sound (fun _ => True) time
  have remains : ∀ step, earlier ≤ step → step < time →
      ¬ Writes bpn .deleted (run.node step).store (run.node (step + 1)).store :=
    fun step from_ until_ writes => stays ⟨step, from_, until_, writes⟩
  have held : ∀ step, earlier ≤ step → step ≤ time →
      LawfulStore.held (run.node step).store bpn = some (.ofRecord record) := by
    intro step from_ until_
    rcases held_or_grown (fair.mono until_) from_ first
      fun inner after until_' => remains inner after (Nat.lt_of_lt_of_le until_' until_) with
      ⟨middle, between, grown⟩
    rcases held_or_grown fair until_ between
      fun inner after until_' => remains inner (Nat.le_trans from_ after) until_' with
      ⟨final, found, more⟩
    -- A version that had grown would not have come back.
    rw [last] at found
    cases found
    rw [between]
    rcases grown with rfl | grown
    · rfl
    · rcases more with rfl | more
      · exact absurd grown (Int.lt_irrefl _)
      · exact absurd (Int.lt_trans grown more) (Int.lt_irrefl _)
  refine ⟨held, ?_⟩
  intro step from_ until_ write writes
  have becomes := writes.becomes
  rw [held step from_ (Nat.le_of_lt until_)] at becomes
  have after := held (step + 1) (Nat.le_succ_of_le from_) until_
  rcases becomes.cases_of_some with ⟨_, gone⟩ | ⟨did, _, next⟩
  · rw [after] at gone
    cases gone
  · rw [after] at next
    have same := congrArg Held.version (Option.some.inj next)
    simp only [Held.ofRecord] at same
    omega

/-- A change that expects the version of a record that was shown before finds that very
record, and nothing was written to the BPN since it was read, if and only if the BPN
was not removed since then. -/
theorem update_leavesAlone_iff (run : Run S) (sound : LawfulStore.IsSound run.store)
    {update : Update} (made : update.IsMade run) :
    ∃ read committed, update.Spans run read committed ∧
      (run.LeavesAlone update.bpn update.kept read committed ↔
        ¬ run.Removes update.bpn read committed) := by
  rcases Run.fulfilled sound made.shown with ⟨_, _, _, shownBefore, _, asked⟩
  rcases asked.shown _ _ rfl rfl with ⟨read, _, readBefore, reads, found⟩
  rcases Run.fulfilled sound made.answered with ⟨begun, _, _, answeredBefore, present, changed⟩
  rcases changed.committed _ made.expects.changes made.success with
    ⟨committed, begunBefore, committedBefore, commits, commit, _⟩
  have order : update.shownAt ≤ begun := Run.le_begun made.later present
  have spans : update.Spans run read committed := {
    reads := reads
    found := found
    readBefore := Nat.lt_of_lt_of_le readBefore shownBefore
    commits := commits
    commit := commit
    committedAfter := Nat.le_trans order begunBefore
    committedBefore := Nat.lt_of_lt_of_le committedBefore answeredBefore
  }
  refine ⟨read, committed, spans, ?_⟩
  constructor
  · rintro alone ⟨step, from_, until_, writes⟩
    exact alone.unwritten step from_ until_ _ writes
  · intro stays
    rcases commit.held made.expects with ⟨did, last⟩
    exact Run.leavesAlone_of_version sound (LawfulStore.get_found found) last stays

/-- A run in which a BPN is registered and its record shown, after which the BPN is
removed, registered again and rotated at version one. -/
def Run.recreation : Run Store.Memory where
  policy := ⟨10, 10, 10, ⟨1, 0, 0⟩⟩
  settings := ⟨true, 4, 1, none⟩
  store := .empty
  now := Store.Request.noon
  moves :=
    .start (.register "BPNL00000000000A" "did:web:first") :: List.replicate 5 (.advance 0) ++
    .start (.record "BPNL00000000000A") :: List.replicate 2 (.advance 1) ++
    .start (.remove "BPNL00000000000A" 1) :: List.replicate 5 (.advance 2) ++
    .start (.register "BPNL00000000000A" "did:web:second") :: List.replicate 5 (.advance 3) ++
    .start (.rotate "BPNL00000000000A" "did:web:third" 1) :: List.replicate 5 (.advance 4)

/-- The removal of the run, which follows on the record that is shown. -/
def Update.removal : Update where
  bpn := "BPNL00000000000A"
  kept := ⟨"BPNL00000000000A", "did:web:first", 1, Store.Request.noon, Store.Request.noon⟩
  reader := 1
  shownAt := 9
  writer := 2
  change := .remove "BPNL00000000000A" 1
  answer := .done
  answeredAt := 15

theorem removal_leavesAlone_iff :
    Update.removal.IsMade Run.recreation ∧
      ∃ read committed, Update.removal.Spans Run.recreation read committed ∧
        (Run.recreation.LeavesAlone Update.removal.bpn Update.removal.kept read committed ↔
          ¬ Run.recreation.Removes Update.removal.bpn read committed) := by
  have made : Update.removal.IsMade Run.recreation := {
    shown := by decide +kernel
    later := by decide +kernel
    expects := ⟨rfl, rfl⟩
    answered := by decide +kernel
    success := rfl
  }
  exact ⟨made, update_leavesAlone_iff Run.recreation Store.Memory.isSound_empty made⟩

/-- The rotation of the run.  It expects the version of the record that was shown, and
finds the one that was registered after that one was removed. -/
def Update.afterRecreation : Update where
  bpn := "BPNL00000000000A"
  kept := ⟨"BPNL00000000000A", "did:web:first", 1, Store.Request.noon, Store.Request.noon⟩
  reader := 1
  shownAt := 9
  writer := 4
  change := .rotate "BPNL00000000000A" "did:web:third" 1
  answer := .record ⟨"BPNL00000000000A", "did:web:third", 2, Store.Request.noon, Store.Request.noon⟩
  answeredAt := 27

/-- Without regard to removals the change may find another record. -/
theorem update_not_leavesAlone :
    ¬ ∀ (run : Run Store.Memory) (update : Update), LawfulStore.IsSound run.store →
      update.IsMade run → ∃ read committed, update.Spans run read committed ∧
        run.LeavesAlone update.bpn update.kept read committed := by
  intro always
  have made : Update.afterRecreation.IsMade Run.recreation := {
    shown := by decide +kernel
    later := by decide +kernel
    expects := ⟨rfl, rfl⟩
    answered := by decide +kernel
    success := rfl
  }
  rcases always Run.recreation Update.afterRecreation Store.Memory.isSound_empty made with
    ⟨read, committed, spans, alone⟩
  -- After the removal the store holds nothing, and the rotation has not begun.
  have missing : LawfulStore.held (Run.recreation.node 15).store "BPNL00000000000A" = none := by
    decide +kernel
  have idle : ∀ time < 15, Run.recreation.moves[time]? ≠ some (.advance 4) := by decide +kernel
  have readBefore : read < 9 := spans.readBefore
  have committedAfter : 15 ≤ committed :=
    Nat.le_of_not_lt fun early => idle committed early spans.commits
  have held := alone.held 15 (by omega) committedAfter
  rw [Update.afterRecreation, missing] at held
  cases held

end Resolver
end BpnDirectory
