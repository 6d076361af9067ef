import BpnDirectory.Proofs.Resolver.Detection
import BpnDirectory.Proofs.Resolver.Dumps
import BpnDirectory.Proofs.Resolver.Freshness

namespace BpnDirectory
namespace Resolver

/-!
Answers after polls.

A poll that says that records changed has dropped all that is older than its reading.
A poll that says that they did not bounds how old answers are as well, if an earlier poll
had read the version already, and no other poll is still dropping things when it is
answered.  The first poll of a node has nothing to compare the version with and drops
nothing, so what was cached before it may be of any age.
-/

open Store (CountedStore LawfulStore MappingStore)

variable {S : Type} [MappingStore S]

/-- Whether no other poll is under way after its reading when a poll is answered: each
has been answered as well, or went no further than its reading. -/
def Run.IsAlone (run : Run S) (poll : Poll) : Prop :=
  ∀ other read version, run.ReadsVersion other read version → other ≠ poll.index →
    (∃ answer, (run.traffic poll.returned).answer? other = some (.poll, answer)) ∨
      ∀ step, read < step → step < poll.returned → ¬ run.IsStepOf other step

/-- Whether another poll was answered before a poll reads the version, and had read it
before a change. -/
def Run.HasBaseline (run : Run S) (poll : Poll) (changed : Nat) : Prop :=
  ∃ earlier : Poll, earlier.IsMade run ∧ earlier.read < changed ∧ earlier.returned ≤ poll.read

variable [LawfulStore S] {run : Run S}

/-- Whether everything that calls say or show which begin at a time or later was so
after a change. -/
structure Run.SpeaksSince (run : Run S) (changed returned : Nat) : Prop where
  said : ∀ index question answer answered bpn said,
    (run.traffic returned).tasks.length ≤ index →
    (run.traffic answered).answer? index = some (question, answer) →
    Answer.said? question answer bpn = some said →
    ∃ seen, changed < seen ∧ seen < answered ∧ (run.node seen).heldDid bpn = said
  dumped : ∀ index dump answered,
    (run.traffic returned).tasks.length ≤ index →
    (run.traffic answered).answer? index = some (.dump, .dump dump) →
    ∃ seen, changed < seen ∧ seen < answered ∧ IsDumpOf dump (run.node seen).store

/-- When every shard was cleared after a time, everything is settled that was superseded
before it. -/
theorem Empties.settled {IsOwn : Nat → Prop} {since start time : Nat}
    (sound : LawfulStore.IsSound run.store) (after : since ≤ start)
    (empties : Empties run.node IsOwn start time) (bpn : String) :
    Settled run.node bpn since time := by
  rcases empties.shards with ⟨counted, _, _, clears⟩
  rw [run.size_eq sound counted] at clears
  have bound : (run.node 0).cache.shardOf bpn < run.settings.shardCount :=
    Cache.shardOf_lt (run.node 0).cache bpn
  rcases clears _ bound with ⟨cleared, from_, until_, _, moved⟩
  have fair := run.isFairUntil sound (fun _ => True) time
  have shard := Run.shard_of_cleared sound bound moved
  have settled : Settled run.node bpn since (cleared + 1) := by
    unfold Settled
    rw [shardOf_eq (fair.mono until_) (Nat.zero_le (cleared + 1))]
    dsimp only
    rw [shard]
    refine Or.inr ⟨?_, fun entry member => absurd member List.not_mem_nil⟩
    have grown := generation_le (fair.mono (Nat.le_of_lt until_)) (Nat.le_trans after from_)
      ((run.node 0).cache.shardOf bpn)
    exact Nat.lt_succ_of_le grown
  exact settled.carry fair until_ (Nat.le_succ_of_le (Nat.le_trans after from_))

omit [LawfulStore S] in
/-- When the shelf was emptied after a time, its generation is a later one. -/
theorem Empties.shelf_generation_lt {IsOwn : Nat → Prop} {since start time : Nat}
    (after : since ≤ start) (empties : Empties run.node IsOwn start time) :
    (run.node since).shelf.generation < (run.node time).shelf.generation := by
  rcases empties.dump with ⟨dropped, from_, until_, _, moved⟩
  have first := run.shelf_generation_le (Nat.le_trans after from_)
  have last := run.shelf_generation_le until_
  have newer : (run.node (dropped + 1)).shelf.generation =
      (run.node dropped).shelf.generation + 1 := by
    rw [moved]
    rfl
  simp only [Nat.succ_eq_add_one] at last
  omega

/-- Calls that begin when everything was dropped after a time say and show only what was
so later than that. -/
theorem Empties.speaksSince {IsOwn : Nat → Prop} {since start returned : Nat}
    (sound : LawfulStore.IsSound run.store) (after : since ≤ start) (before : since < returned)
    (empties : Empties run.node IsOwn start returned) : run.SpeaksSince since returned where
  said := by
    intro index question answer answered bpn said later answers meant
    rcases Run.fulfilled sound answers with ⟨begun, ended, _, endedBy, present, asked⟩
    have heard := asked.heard bpn said meant
    obtain ⟨seen, newer, notLater, held⟩ :=
      heard.held_since (run.isFairUntil sound (run.IsStepOf index) ended)
        (empties.settled sound after bpn) before (Run.le_begun later present)
    exact ⟨seen, newer, Nat.lt_of_lt_of_le notLater endedBy, held⟩
  dumped := by
    intro index dump answered later answers
    rcases Run.becomes_of_listed (Run.listed_of_answered answers) with ⟨begun, _, present, became⟩
    have order : returned < begun := by
      apply Nat.lt_of_not_le
      intro early
      have grown := run.length_tasks_mono early
      omega
    rcases Command.done_of_answered became with ⟨outcome, same, built⟩
    cases outcome with
    | error failure => cases same
    | ok shown =>
        cases same
        rcases done_of_dumpDirectory built with ⟨seen, from_, until_, kept | shows_⟩
        · rcases run.isDumpOf_of_kept kept with ⟨held, earlier, shows_, level⟩
          refine ⟨held, ?_, Nat.lt_trans earlier until_, shows_⟩
          -- A dump from before has not stayed on the shelf, whose generation grew since.
          apply Nat.lt_of_not_le
          intro old
          have emptied := empties.shelf_generation_lt after
          have first := run.shelf_generation_le old
          have last := run.shelf_generation_le (Nat.le_trans (Nat.le_of_lt order) from_)
          omega
        · exact ⟨seen, Nat.lt_trans before (Nat.lt_of_lt_of_le order from_), until_, shows_⟩

variable [CountedStore S]

/-- The node lets go of everything after a change of someone else's, by the time that a
poll which reads the version after the change is answered, if the poll says that records
changed, or if it has a baseline from before the change and is alone. -/
theorem exists_empties (sound : LawfulStore.IsSound run.store)
    (nonneg : 0 ≤ CountedStore.count run.store) {poll : Poll} (made : poll.IsMade run)
    {changed : Nat} (foreign : run.IsForeignChange changed) (before : changed < poll.read)
    (bounds : poll.answer = .changed true ∨
      run.IsAlone poll ∧ run.HasBaseline poll changed) :
    ∃ index start, changed ≤ start ∧
      Empties run.node (run.IsStepAt index .node) start poll.returned := by
  rcases made.reads.concludes made.answered with ⟨taken, takes, takenBy, concludes⟩
  have since : changed ≤ taken + 1 := by
    have later := takes.later
    omega
  rcases bounds with changes | ⟨alone, earlier, former, after, apart⟩
  · rcases concludes with ⟨_, same⟩ | ⟨_, _, _, empties⟩
    · cases changes.symm.trans same
    · exact ⟨poll.index, taken + 1, since, empties⟩
  · rcases former.reads.concludes former.answered with ⟨swap, swaps, swapped, _⟩
    have order : swap < taken :=
      Nat.lt_of_lt_of_le swapped (Nat.le_trans apart (Nat.le_of_lt takes.later))
    have changedBefore : changed < taken := Nat.lt_trans before takes.later
    rcases Run.isBehind_or_meets sound nonneg foreign swaps after changedBefore order with
      behind | ⟨other, read, version, met, until_, meets⟩
    · rcases concludes with ⟨known, _⟩ | ⟨_, _, _, empties⟩
      · exact absurd known (not_or.mpr (behind.unknown sound takes before))
      · exact ⟨poll.index, taken + 1, since, empties⟩
    · have late : met < poll.returned := Nat.lt_trans until_ takenBy
      have unknown := meets.behind.unknown sound meets.swaps meets.after
      have metAfter : changed ≤ met + 1 := by
        have later := meets.swaps.later
        have reading := meets.after
        omega
      -- The poll that met the change is this one, or it has been answered by now.
      have answered : ∃ answer, (run.traffic poll.returned).answer? other = some (.poll, answer) := by
        by_cases same : other = poll.index
        · exact ⟨poll.answer, same ▸ made.answered⟩
        · rcases alone other read version meets.swaps.reads same with answered | idle
          · exact answered
          · exact absurd meets.swaps.own.1 (idle met meets.swaps.later late)
      rcases answered with ⟨answer, answered⟩
      rcases meets.left.concludes late answered with ⟨known, _⟩ | ⟨_, _, _, empties⟩
      · exact absurd known (not_or.mpr unknown)
      · exact ⟨other, met + 1, metAfter, empties⟩

/-- After a poll was answered, no call that begins says or shows what someone else had
replaced or deleted before the poll read the version, if the poll says that records
changed, or if it has a baseline from before that change and is alone. -/
theorem speaksSince_of_poll (run : Run S) (sound : LawfulStore.IsSound run.store)
    (nonneg : 0 ≤ CountedStore.count run.store) {poll : Poll} (made : poll.IsMade run)
    {changed : Nat} (foreign : run.IsForeignChange changed) (before : changed < poll.read)
    (bounds : poll.answer = .changed true ∨
      run.IsAlone poll ∧ run.HasBaseline poll changed) :
    run.SpeaksSince changed poll.returned := by
  rcases exists_empties sound nonneg made foreign before bounds with ⟨_, start, since, empties⟩
  have returned : changed < poll.returned :=
    Nat.lt_trans before (made.reads.own.lt made.answered)
  exact empties.speaksSince sound since returned

/-- A run in which a BPN is cached after a poll and then rotated by someone else; the BPN is
resolved again when the next poll is done. -/
def Run.caughtUp : Run Store.Memory where
  policy := ⟨10, 10, 10, ⟨1, 0, 0⟩⟩
  settings := ⟨true, 4, 1, none⟩
  store := .empty
  now := Store.Request.noon
  moves :=
    .start .poll :: List.replicate 4 (.advance 0) ++
    .start (.register "BPNL00000000000A" "did:web:first") :: List.replicate 5 (.advance 1) ++
    .start (.resolve "BPNL00000000000A") :: List.replicate 4 (.advance 2) ++
    .foreign (.put Store.Request.noon "BPNL00000000000A" "did:web:second" (some 1)) ::
    .start .poll :: List.replicate 8 (.advance 3) ++
    .start (.resolve "BPNL00000000000A") :: List.replicate 4 (.advance 4)

def Poll.finding : Poll := ⟨3, 18, 2, .changed true, 26⟩

/-- The DID that was cached before the poll is not the answer after it. -/
theorem replicas_speaksSince :
    Poll.finding.IsMade Run.caughtUp ∧ Run.caughtUp.IsForeignChange 16 ∧
      Run.caughtUp.IsAlone Poll.finding ∧ Run.caughtUp.HasBaseline Poll.finding 16 ∧
      Run.caughtUp.SpeaksSince 16 26 ∧
      (Run.caughtUp.traffic 16).answer? 2 =
        some (.resolve "BPNL00000000000A", .did "did:web:first") ∧
      (Run.caughtUp.traffic 31).answer? 4 =
        some (.resolve "BPNL00000000000A", .did "did:web:second") ∧
      ∃ seen, 16 < seen ∧ seen < 31 ∧
        (Run.caughtUp.node seen).heldDid "BPNL00000000000A" = some "did:web:second" := by
  have made : Poll.finding.IsMade Run.caughtUp := ⟨by decide +kernel, by decide +kernel⟩
  have foreign : Run.caughtUp.IsForeignChange 16 := ⟨_, rfl, by decide +kernel⟩
  have baseline : Run.caughtUp.HasBaseline Poll.finding 16 :=
    ⟨⟨0, 1, 0, .changed false, 5⟩, ⟨by decide +kernel, by decide +kernel⟩, by decide, by decide⟩
  have readings : Run.caughtUp.readings = [(0, 1), (3, 18)] := by decide +kernel
  have alone : Run.caughtUp.IsAlone Poll.finding := by
    intro other read version reads apart
    have listed := reads.mem_readings
    simp only [readings, Poll.finding, List.mem_cons, Prod.mk.injEq, List.not_mem_nil,
      or_false] at listed apart
    have first : other = 0 := by omega
    subst first
    exact Or.inl ⟨.changed false, by decide +kernel⟩
  have speaks : Run.caughtUp.SpeaksSince 16 26 :=
    speaksSince_of_poll Run.caughtUp Store.Memory.isSound_empty (by decide) made foreign (by decide)
      (Or.inr ⟨alone, baseline⟩)
  have later : (Run.caughtUp.traffic 26).tasks.length ≤ 4 := by decide +kernel
  have answers : (Run.caughtUp.traffic 31).answer? 4 =
      some (.resolve "BPNL00000000000A", .did "did:web:second") := by
    decide +kernel
  exact ⟨made, foreign, alone, baseline, speaks, by decide +kernel, answers,
    speaks.said 4 _ _ 31 _ _ later answers rfl⟩

/-! ## Without a baseline, and among other polls -/

/-- A run in which a BPN is cached and then rotated by someone else, before the node
polls for the first time; the BPN is resolved again when the poll is done. -/
def Run.startUp : Run Store.Memory where
  policy := ⟨10, 10, 10, ⟨1, 0, 0⟩⟩
  settings := ⟨true, 4, 1, none⟩
  store := .empty
  now := Store.Request.noon
  moves :=
    .start (.register "BPNL00000000000A" "did:web:first") :: List.replicate 5 (.advance 0) ++
    .start (.resolve "BPNL00000000000A") :: List.replicate 4 (.advance 1) ++
    .foreign (.put Store.Request.noon "BPNL00000000000A" "did:web:second" (some 1)) ::
    .start .poll :: List.replicate 4 (.advance 2) ++
    .start (.resolve "BPNL00000000000A") :: [.advance 3]

/-- A run in which a BPN is cached after a poll and then rotated by someone else.  One
poll has taken over the version that followed, but has dropped nothing yet, when another
one begins; the BPN is resolved again when that one is done. -/
def Run.overlap : Run Store.Memory where
  policy := ⟨10, 10, 10, ⟨1, 0, 0⟩⟩
  settings := ⟨true, 4, 1, none⟩
  store := .empty
  now := Store.Request.noon
  moves :=
    .start (.register "BPNL00000000000A" "did:web:first") :: List.replicate 5 (.advance 0) ++
    .start .poll :: List.replicate 4 (.advance 1) ++
    .start (.resolve "BPNL00000000000A") :: List.replicate 4 (.advance 2) ++
    .foreign (.put Store.Request.noon "BPNL00000000000A" "did:web:second" (some 1)) ::
    .start .poll :: List.replicate 4 (.advance 3) ++
    .start .poll :: List.replicate 4 (.advance 4) ++
    .start (.resolve "BPNL00000000000A") :: [.advance 5]

omit [CountedStore S] in
/-- A node that answers with a DID which its store has not held since a change does not
speak since that change. -/
theorem Run.not_speaksSince {run : Run S} {changed returned index answered : Nat}
    {bpn did : String} (later : (run.traffic returned).tasks.length ≤ index)
    (answers : (run.traffic answered).answer? index = some (.resolve bpn, .did did))
    (gone : ∀ seen < answered, changed < seen → (run.node seen).heldDid bpn ≠ some did) :
    ¬ run.SpeaksSince changed returned := by
  intro speaks
  rcases speaks.said index _ _ answered bpn (some did) later answers (if_pos rfl) with
    ⟨seen, after, before, held⟩
  exact gone seen before after held

/-- A poll without a baseline does not bound how old answers are, though it is alone; nor
does a poll with a baseline if it is not alone. -/
theorem poll_not_speaksSince :
    (¬ ∀ (run : Run Store.Memory) (poll : Poll) (changed : Nat) (cleared : Bool),
      LawfulStore.IsSound run.store → 0 ≤ CountedStore.count run.store → poll.IsMade run →
      poll.answer = .changed cleared → run.IsForeignChange changed → changed < poll.read →
      run.IsAlone poll → run.SpeaksSince changed poll.returned) ∧
    ¬ ∀ (run : Run Store.Memory) (poll : Poll) (changed : Nat) (cleared : Bool),
      LawfulStore.IsSound run.store → 0 ≤ CountedStore.count run.store → poll.IsMade run →
      poll.answer = .changed cleared → run.IsForeignChange changed → changed < poll.read →
      run.HasBaseline poll changed → run.SpeaksSince changed poll.returned := by
  constructor
  · intro always
    have made : Poll.IsMade ⟨2, 13, 2, .changed false, 17⟩ Run.startUp :=
      ⟨by decide +kernel, by decide +kernel⟩
    have readings : Run.startUp.readings = [(2, 13)] := by decide +kernel
    have alone : Run.startUp.IsAlone ⟨2, 13, 2, .changed false, 17⟩ := by
      intro other read version reads apart
      have listed := reads.mem_readings
      simp only [readings, List.mem_cons, Prod.mk.injEq, List.not_mem_nil, or_false] at listed
      exact absurd listed.1 apart
    have speaks := always Run.startUp _ 11 false Store.Memory.isSound_empty (by decide) made rfl
      ⟨_, rfl, by decide +kernel⟩ (by decide) alone
    have later : (Run.startUp.traffic 17).tasks.length ≤ 3 := by decide +kernel
    have answers : (Run.startUp.traffic 19).answer? 3 =
        some (.resolve "BPNL00000000000A", .did "did:web:first") := by
      decide +kernel
    have gone : ∀ seen < 19, 11 < seen →
        (Run.startUp.node seen).heldDid "BPNL00000000000A" ≠ some "did:web:first" := by
      decide +kernel
    exact Run.not_speaksSince later answers gone speaks
  · intro always
    have earlier : Poll.IsMade ⟨1, 7, 1, .changed false, 11⟩ Run.overlap :=
      ⟨by decide +kernel, by decide +kernel⟩
    have made : Poll.IsMade ⟨4, 23, 2, .changed false, 27⟩ Run.overlap :=
      ⟨by decide +kernel, by decide +kernel⟩
    have baseline : Run.overlap.HasBaseline ⟨4, 23, 2, .changed false, 27⟩ 16 :=
      ⟨_, earlier, by decide, by decide⟩
    have speaks := always Run.overlap _ 16 false Store.Memory.isSound_empty (by decide) made rfl
      ⟨_, rfl, by decide +kernel⟩ (by decide) baseline
    have later : (Run.overlap.traffic 27).tasks.length ≤ 5 := by decide +kernel
    have answers : (Run.overlap.traffic 29).answer? 5 =
        some (.resolve "BPNL00000000000A", .did "did:web:first") := by
      decide +kernel
    have gone : ∀ seen < 29, 16 < seen →
        (Run.overlap.node seen).heldDid "BPNL00000000000A" ≠ some "did:web:first" := by
      decide +kernel
    exact Run.not_speaksSince later answers gone speaks

end Resolver
end BpnDirectory
