import BpnDirectory.Proofs.Resolver.Traffic

namespace BpnDirectory
namespace Resolver

/-!
Answers after acknowledged changes.

Once a change was acknowledged, no call that begins afterwards says what the change
superseded.  Entries of the cache may be as old as they like; what settles the matter
is that the shard of the key got a new generation, or became unusable, between the
commit and the acknowledgement.
-/

open Store (LawfulStore MappingStore)

variable {S : Type} [MappingStore S] [LawfulStore S]

/-- What was heard once a BPN was settled was held after the time from which on it is
settled. -/
theorem Heard.held_since {state : Nat → Node S} {IsOwn : Nat → Prop} {bpn : String}
    {said : Option String} {since settledAt time later : Nat}
    (heard : Heard state bpn said time later) (fair : (course state IsOwn).IsFairUntil later)
    (settled : Settled state bpn since settledAt) (before : since < settledAt)
    (after : settledAt ≤ time) :
    ∃ seen, since < seen ∧ seen < later ∧ (state seen).heldDid bpn = said := by
  rcases heard with ⟨seen, from_, until_, source⟩
  have reached := Nat.le_trans after from_
  rcases source with held | ⟨usable, entry, member, named, rfl⟩
  · exact ⟨seen, Nat.lt_of_lt_of_le before reached, until_, held⟩
  · have still := settled.carry (fair.mono (Nat.le_of_lt until_)) reached (Nat.le_of_lt before)
    rcases still with poisoned | ⟨_, held⟩
    · rw [usable] at poisoned
      cases poisoned
    · rcases held entry member named with ⟨shown, newer, notLater, same⟩
      exact ⟨shown, newer, Nat.lt_of_le_of_lt notLater until_, same⟩

/-- A resolution that begins after a change was acknowledged says what the store held
at some time after the change was committed.  This holds for a single BPN and for
each BPN of a batch, and whatever else happens on the node: other calls, expiry and
eviction, crashes in the cache, and changes made by others. -/
theorem said_after_acknowledgement (run : Run S) (sound : LawfulStore.IsSound run.store)
    {writer reader acknowledged answered : Nat} {change question : Command}
    {acknowledgement answer : Answer} {bpn : String} {said : Option String}
    (changes : change.Changes bpn) (success : acknowledgement.isSuccess = true)
    (acknowledges : (run.traffic acknowledged).answer? writer = some (change, acknowledgement))
    (later : (run.traffic acknowledged).tasks.length ≤ reader)
    (answers : (run.traffic answered).answer? reader = some (question, answer))
    (meant : Answer.said? question answer bpn = some said) :
    ∃ committed seen, committed < acknowledged ∧ run.IsStepOf writer committed ∧
      change.Commits acknowledgement (run.node committed).now (run.node committed).store
        (run.node (committed + 1)).store ∧
      committed < seen ∧ seen < answered ∧ (run.node seen).heldDid bpn = said := by
  rcases Run.fulfilled sound acknowledges with
    ⟨begunChange, endedChange, _, endedBefore, _, changed⟩
  rcases changed.committed bpn changes success with ⟨committed, _, untilEnd, own, commits, settled⟩
  rcases Run.fulfilled sound answers with ⟨begun, ended, _, endedBy, present, asked⟩
  have heard := asked.heard bpn said meant
  have order : endedChange ≤ begun := Nat.le_trans endedBefore (Run.le_begun later present)
  obtain ⟨seen, newer, notLater, held⟩ :=
    heard.held_since (run.isFairUntil sound (run.IsStepOf reader) ended) settled untilEnd order
  exact ⟨committed, seen, Nat.lt_of_lt_of_le untilEnd endedBefore, own, commits, newer,
    Nat.lt_of_lt_of_le notLater endedBy, held⟩

/-- A run in which a BPN is rotated while a resolution, which has read the old DID, is
under way; the BPN is resolved again when both are done. -/
def Run.rotation : Run Store.Memory where
  policy := ⟨10, 10, 10, ⟨1, 0, 0⟩⟩
  settings := ⟨true, 4, 1, none⟩
  store := .empty
  now := Store.Request.noon
  moves :=
    .start (.register "BPNL00000000000A" "did:web:first") :: List.replicate 5 (.advance 0) ++
    .start (.resolve "BPNL00000000000A") :: List.replicate 3 (.advance 1) ++
    .start (.rotate "BPNL00000000000A" "did:web:second" 1) :: List.replicate 5 (.advance 2) ++
    .advance 1 :: .start (.resolve "BPNL00000000000A") :: List.replicate 4 (.advance 3)

/-- The record that the rotation of the run leaves. -/
def Run.rotated : Record :=
  ⟨"BPNL00000000000A", "did:web:second", 2, Store.Request.noon, Store.Request.noon⟩

theorem said_after_rotation :
    (Run.rotation.traffic 16).answer? 2 =
        some (.rotate "BPNL00000000000A" "did:web:second" 1, .record Run.rotated) ∧
      (Run.rotation.traffic 22).answer? 3 =
        some (.resolve "BPNL00000000000A", .did "did:web:second") ∧
      ∃ committed seen, committed < 16 ∧ Run.rotation.IsStepOf 2 committed ∧
        Command.Commits (.rotate "BPNL00000000000A" "did:web:second" 1) (.record Run.rotated)
          (Run.rotation.node committed).now (Run.rotation.node committed).store
          (Run.rotation.node (committed + 1)).store ∧
        committed < seen ∧ seen < 22 ∧
        (Run.rotation.node seen).heldDid "BPNL00000000000A" = some "did:web:second" := by
  have acknowledged : (Run.rotation.traffic 16).answer? 2 =
      some (.rotate "BPNL00000000000A" "did:web:second" 1, .record Run.rotated) := by
    decide +kernel
  have later : (Run.rotation.traffic 16).tasks.length ≤ 3 := by decide +kernel
  have answered : (Run.rotation.traffic 22).answer? 3 =
      some (.resolve "BPNL00000000000A", .did "did:web:second") := by
    decide +kernel
  refine ⟨acknowledged, answered, ?_⟩
  exact said_after_acknowledgement Run.rotation Store.Memory.isSound_empty rfl rfl
    acknowledged later answered (by decide)

end Resolver
end BpnDirectory
