import BpnDirectory.Proofs.Resolver.Stages

namespace BpnDirectory
namespace Resolver

/-!
Dumps among other calls.

A dump stays on its shelf only if nothing was dropped since its building began.  So
the dump that is kept shows what the store held at some time since the shelf was last
emptied, however long its building took.
-/

open Program (Becomes Follows)
open Store (MappingStore)

variable {S : Type} [MappingStore S]

def IsDumpOf (dump : Dump) (store : S) : Prop :=
  ∃ entries, (MappingStore.snapshot store).1 = .ok entries ∧ dump.text = Dump.write entries

/-- Whether a dump was built by a time from what the store held after the shelf was seen
at a generation. -/
def IsBuilt (state : Nat → Node S) (dump : Dump) (generation time : Nat) : Prop :=
  ∃ taken seen, taken < seen ∧ seen < time ∧ (state taken).shelf.generation = generation ∧
    IsDumpOf dump (state seen).store

/-- Whether a step leaves the shelf of a node or empties it. -/
def Node.PutsNothing (before after : Node S) : Prop :=
  after.shelf = before.shelf ∨ after.shelf = before.shelf.invalidate

theorem Node.Does.putsNothing {Asks : Store.Request → Prop} {Also : Node S → Node S → Prop}
    {before after : Node S} (does : before.Does Asks Also after)
    (also : Also before after → before.PutsNothing after) : before.PutsNothing after := by
  cases does with
  | does more => exact also more
  | drops => exact Or.inr rfl
  | _ => exact Or.inl rfl

/-! ## The steps of a building -/

section

variable {state : Nat → Node S} {IsOwn : Reach → Nat → Prop} {start time : Nat} {γ : Type}
  {reach : Reach} {act : Node S → γ × Node S}

/-- What a call puts on the shelf was built after it took the generation that it hands
back. -/
theorem step_of_dumpDirectory {policy : Policy} {next : γ → Program (Node S) (Except Failure Dump)}
    (becomes : Becomes state IsOwn (dumpDirectory policy : Operation S Dump).run start
      (.step reach act next) time) :
    (∀ node : Node S, node.PutsNothing (act node).2) ∨
      ∃ generation dump, IsBuilt state dump generation time ∧
        ∀ node, (act node).2 = installDump generation dump node := by
  rcases Operation.step_of_bind becomes with ⟨_, _, looking⟩ | ⟨kept, _, _, becomes⟩
  · cases Operation.step_of_act looking
    exact Or.inl fun _ => Or.inl rfl
  cases kept with
  | some dump => cases Becomes.of_done becomes
  | none =>
      rcases Operation.step_of_bind becomes with ⟨_, _, taking⟩ | ⟨generation, _, took, becomes⟩
      · cases Operation.step_of_act taking
        exact Or.inl fun _ => Or.inl rfl
      rcases Operation.done_of_act took with ⟨taken, _, takenBefore, _, _, same⟩
      cases same
      rcases Operation.step_of_bind becomes with ⟨_, _, reading⟩ | ⟨entries, _, read, becomes⟩
      · have asks : Follows (Node.Does (fun _ => True) Node.PutsNothing)
            (request policy "snapshot" fun _ => MappingStore.snapshot : Operation S _).run :=
          follows_request (fun _ _ => ⟨.snapshot, trivial, rfl⟩) policy "snapshot"
        exact Or.inl fun node => (asks.becomes reading node).1.putsNothing id
      rcases called_of_request read with ⟨seen, since, seenBefore, _, told⟩
      rcases Operation.step_of_bind becomes with ⟨_, _, building⟩ | ⟨dump, _, built, becomes⟩
      · cases Operation.step_of_act building
        exact Or.inl fun _ => Or.inl rfl
      rcases Operation.done_of_act built with ⟨_, _, _, _, _, same⟩
      cases same
      have order : seen < time :=
        Nat.lt_of_lt_of_le seenBefore (Nat.le_trans built.le becomes.le)
      rcases Operation.step_of_bind becomes with ⟨_, _, putting⟩ | ⟨_, _, _, becomes⟩
      · cases Operation.step_of_change putting
        refine Or.inr ⟨_, _, ⟨taken, seen, ?_, order, rfl, ?_⟩, fun _ => rfl⟩
        · exact Nat.lt_of_lt_of_le takenBefore since
        · exact ⟨entries, congrArg Prod.fst told, rfl⟩
      · cases Becomes.of_done becomes

/-- The dump that a call yields was kept, or is one of what the store held meanwhile. -/
theorem done_of_dumpDirectory {policy : Policy} {dump : Dump}
    (becomes : Becomes state IsOwn (dumpDirectory policy : Operation S Dump).run start
      (.done (.ok dump)) time) :
    ∃ seen, start ≤ seen ∧ seen < time ∧
      ((state seen).shelf.kept = some dump ∨ IsDumpOf dump (state seen).store) := by
  rcases Operation.ok_of_bind becomes with ⟨kept, _, looking, becomes⟩
  rcases Operation.done_of_act looking with ⟨looked, since, before, _, _, same⟩
  cases same
  cases found : (state looked).shelf.kept with
  | some old =>
      rw [found] at becomes
      cases Becomes.of_done becomes
      exact ⟨looked, since, Nat.lt_of_lt_of_le before becomes.le, Or.inl found⟩
  | none =>
      rw [found] at becomes
      rcases Operation.ok_of_bind becomes with ⟨generation, _, took, becomes⟩
      rcases Operation.ok_of_bind becomes with ⟨entries, _, read, becomes⟩
      rcases Operation.ok_of_bind becomes with ⟨built, _, building, becomes⟩
      rcases Operation.ok_of_bind becomes with ⟨_, _, putting, becomes⟩
      rcases called_of_request read with ⟨seen, after, until_, _, told⟩
      rcases Operation.done_of_act building with ⟨_, _, _, _, _, same⟩
      cases same
      refine ⟨seen, Nat.le_trans looking.le (Nat.le_trans took.le after), ?_, Or.inr ?_⟩
      · exact Nat.lt_of_lt_of_le until_
          (Nat.le_trans building.le (Nat.le_trans putting.le becomes.le))
      · cases Becomes.of_done becomes
        exact ⟨entries, congrArg Prod.fst told, rfl⟩

end

/-! ## In a run -/

namespace Run

variable {run : Run S} {time earlier : Nat}

/-- All that can happen to the shelf of a node. -/
theorem shelf_cases (run : Run S) (time : Nat) :
    (run.node time).PutsNothing (run.node (time + 1)) ∨
      ∃ generation dump, IsBuilt run.node dump generation time ∧
        run.node (time + 1) = installDump generation dump (run.node time) := by
  cases run.event time with
  | other moved => exact Or.inl (Or.inl (by rw [moved]))
  | foreign _ moved => exact Or.inl (Or.inl (by rw [moved]))
  | @own index command _ _ reach act next own listed becomes moved left =>
      have does := ((command.follows run.policy).becomes becomes (run.node time)).1
      rw [moved]
      cases command with
      | dump =>
          rcases Command.step_of_answered becomes with ⟨part, _, becomes⟩
          rcases step_of_dumpDirectory becomes with nothing | ⟨generation, dump, built, installs⟩
          · exact Or.inl (nothing _)
          · exact Or.inr ⟨generation, dump, built, installs _⟩
      | resolve _ | resolveBatch _ =>
          refine Or.inl (does.putsNothing ?_)
          rintro ⟨key, did, ticket, same⟩
          exact Or.inl (same ▸ rfl)
      | register | rotate | remove | registerBatch =>
          refine Or.inl (does.putsNothing ?_)
          rintro ⟨version, same⟩
          rw [same]
          unfold Node.followCommit
          split <;> exact Or.inl rfl
      | poll =>
          refine Or.inl (does.putsNothing ?_)
          rintro ⟨version, same⟩
          exact Or.inl (same ▸ rfl)
      | record | findByDid | list | ping | reconcile | shutdown =>
          exact Or.inl (does.putsNothing fun absurdity => absurdity.elim)

/-- The generation of the shelf never falls. -/
theorem shelf_generation_le (run : Run S) (before : earlier ≤ time) :
    (run.node earlier).shelf.generation ≤ (run.node time).shelf.generation := by
  induction before with
  | refl => exact Nat.le_refl _
  | @step time _ ih =>
      refine Nat.le_trans ih ?_
      change _ ≤ (run.node (time + 1)).shelf.generation
      rcases run.shelf_cases time with (same | emptied) | ⟨generation, dump, _, installed⟩
      · exact Nat.le_of_eq (congrArg Shelf.generation same).symm
      · rw [emptied]
        exact Nat.le_succ _
      · rw [installed]
        unfold installDump Shelf.install
        split <;> exact Nat.le_refl _

/-- The dump that is kept is one of what the store held since the shelf was last
emptied. -/
theorem isDumpOf_of_kept (run : Run S) {dump : Dump}
    (kept : (run.node time).shelf.kept = some dump) :
    ∃ seen < time, IsDumpOf dump (run.node seen).store ∧
      (run.node seen).shelf.generation = (run.node time).shelf.generation := by
  induction time with
  | zero => cases kept
  | succ time ih =>
      rcases run.shelf_cases time with (same | emptied) | ⟨generation, built, isBuilt, installed⟩
      · rw [same] at kept ⊢
        rcases ih kept with ⟨seen, before, shows_, level⟩
        exact ⟨seen, Nat.lt_succ_of_lt before, shows_, level⟩
      · rw [emptied] at kept
        cases kept
      · rw [installed] at kept ⊢
        unfold installDump Shelf.install at kept ⊢
        split at kept
        · next current =>
            cases kept
            rcases isBuilt with ⟨taken, seen, after, before, level, shows_⟩
            refine ⟨seen, Nat.lt_succ_of_lt before, shows_, ?_⟩
            rw [if_pos current]
            -- The shelf was at this generation when it was seen, and still is.
            have first := run.shelf_generation_le (Nat.le_of_lt after)
            have last := run.shelf_generation_le (Nat.le_of_lt before)
            dsimp only
            omega
        · next outdated =>
            rw [if_neg outdated]
            rcases ih kept with ⟨seen, before, shows_, level⟩
            exact ⟨seen, Nat.lt_succ_of_lt before, shows_, level⟩

end Run

end Resolver
end BpnDirectory
