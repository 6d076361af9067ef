import BpnDirectory.Proofs.Resolver.Stages

namespace BpnDirectory
namespace Resolver

/-!
Polls among other calls.

A poll reads the directory version, takes it over, and, unless it knew it or had known
none, drops everything.  What it does after its reading never fails.
-/

open Program (Becomes Follows StaysInside Turns Yields)
open Store (Call LawfulStore MappingStore)

variable {S α β : Type}

/-! ## Operations that never fail -/

/-- Whether an operation never fails. -/
def Operation.Succeeds (operation : Operation S α) : Prop :=
  Yields (fun outcome => ∃ value, outcome = .ok value) operation.run

namespace Operation

theorem succeeds_bind {operation : Operation S α} {rest : α → Operation S β}
    (first : Succeeds operation) (second : ∀ value, Succeeds (rest value)) :
    Succeeds (operation >>= rest) := by
  refine Yields.bind first ?_
  rintro _ ⟨value, rfl⟩
  exact second value

theorem succeeds_change (f : Node S → Node S) : Succeeds (change f) := fun _ => ⟨(), rfl⟩

theorem succeeds_act (f : Node S → α × Node S) : Succeeds (act f) := fun value => ⟨value, rfl⟩

theorem succeeds_pure (value : α) : Succeeds (pure value : Operation S α) := ⟨value, rfl⟩

end Operation

theorem succeeds_clearShards (indices : List Nat) :
    (clearShards indices : Operation S Unit).Succeeds := by
  induction indices with
  | nil => exact Operation.succeeds_pure ()
  | cons index rest ih =>
      exact Operation.succeeds_bind (Operation.succeeds_change _) fun _ => ih

theorem succeeds_clearCache : (clearCache : Operation S Unit).Succeeds := by
  refine Operation.succeeds_bind (Operation.succeeds_act _) fun count => ?_
  refine Operation.succeeds_bind (succeeds_clearShards _) fun _ => ?_
  exact Operation.succeeds_change _

/-! ## The parts of a poll -/

/-- The end of a poll, once the version is taken over. -/
def conclude (version previous : Int) : Operation S Bool :=
  if previous = unobserved ∨ previous = version then pure false
  else do
    clearCache
    Operation.change Node.dropDump
    pure true

def takeOver (version : Int) : Operation S Bool := do
  Operation.change fun node =>
    { node with ledger := { node.ledger with directoryVersion := version } }
  let previous ← Operation.act (observe version)
  conclude version previous

theorem succeeds_conclude (version previous : Int) :
    (conclude version previous : Operation S Bool).Succeeds := by
  unfold conclude
  split
  · exact Operation.succeeds_pure false
  · refine Operation.succeeds_bind succeeds_clearCache fun _ => ?_
    exact Operation.succeeds_bind (Operation.succeeds_change _) fun _ =>
      Operation.succeeds_pure true

/-! ## What a poll drops -/

variable {state : Nat → Node S} {IsOwn : Reach → Nat → Prop} {start time : Nat}

/-- Whether every shard of the cache was cleared and the dump dropped between two
times, all as own steps. -/
structure Empties (state : Nat → Node S) (IsOwn : Nat → Prop) (time later : Nat) : Prop where
  shards : ∃ counted, time ≤ counted ∧ counted < later ∧
    ∀ index < (state counted).cache.shards.size, ∃ step, time ≤ step ∧ step < later ∧ IsOwn step ∧
      state (step + 1) = { state step with cache := (state step).cache.clearShard index }
  dump : ∃ step, time ≤ step ∧ step < later ∧ IsOwn step ∧
    state (step + 1) = (state step).dropDump

theorem cleared_of_clearShards {indices : List Nat}
    (becomes : Becomes state IsOwn (clearShards indices : Operation S Unit).run start
      (.done (.ok ())) time) :
    ∀ index ∈ indices, ∃ step, start ≤ step ∧ step < time ∧ IsOwn .node step ∧
      state (step + 1) = { state step with cache := (state step).cache.clearShard index } := by
  induction indices generalizing start with
  | nil => exact fun _ member => absurd member List.not_mem_nil
  | cons head rest ih =>
      rcases Operation.ok_of_bind becomes with ⟨_, middle, first, others⟩
      intro index member
      rcases List.mem_cons.mp member with rfl | listed
      · rcases Operation.done_of_change first with ⟨step, after, before, own, cleared⟩
        exact ⟨step, after, Nat.lt_of_lt_of_le before others.le, own, cleared⟩
      · rcases ih others index listed with ⟨step, after, before, own, cleared⟩
        exact ⟨step, Nat.le_trans first.le after, before, own, cleared⟩

/-- A poll that is done has said whether it took over another version than it knew, and
has dropped everything if so. -/
theorem conclude_cases {version previous : Int} {outcome : Except Failure Bool}
    (becomes : Becomes state IsOwn (conclude version previous : Operation S Bool).run start
      (.done outcome) time) :
    (previous = unobserved ∨ previous = version) ∧ outcome = .ok false ∨
      previous ≠ unobserved ∧ previous ≠ version ∧ outcome = .ok true ∧
        Empties state (IsOwn .node) start time := by
  rcases (succeeds_conclude version previous).becomes becomes with ⟨changed, rfl⟩
  unfold conclude at becomes
  split at becomes
  · next known =>
      cases becomes.of_done
      exact Or.inl ⟨known, rfl⟩
  · next unknown =>
      right
      rcases not_or.mp unknown with ⟨observed, new⟩
      rcases Operation.ok_of_bind becomes with ⟨_, cleared, clearing, becomes⟩
      rcases Operation.ok_of_bind becomes with ⟨_, dropped, dropping, becomes⟩
      have until_ : cleared ≤ time := Nat.le_trans dropping.le becomes.le
      cases becomes.of_done
      refine ⟨observed, new, rfl, ?_, ?_⟩
      · rcases Operation.ok_of_bind clearing with ⟨size, counted, counting, sweeping⟩
        rcases Operation.ok_of_bind sweeping with ⟨_, swept, shards, finishing⟩
        rcases Operation.done_of_act counting with ⟨looked, after, before, _, same, sized⟩
        cases sized
        have sweptBy : swept ≤ time := Nat.le_trans finishing.le until_
        refine ⟨looked, after, Nat.lt_of_lt_of_le before (Nat.le_trans shards.le sweptBy), ?_⟩
        intro index bound
        rcases cleared_of_clearShards shards index (List.mem_range.mpr bound) with
          ⟨step, since, ended, own, cleared⟩
        exact ⟨step, Nat.le_trans counting.le since, Nat.lt_of_lt_of_le ended sweptBy, own, cleared⟩
      · rcases Operation.done_of_change dropping with ⟨step, since, until_, own, dropped⟩
        exact ⟨step, Nat.le_trans clearing.le since, Nat.lt_of_lt_of_le until_ becomes.le, own,
          dropped⟩

/-! ## The steps of a poll -/

variable [MappingStore S]

/-- Whether a step leaves the version that a node knows. -/
def Node.KeepsObserved (before after : Node S) : Prop := after.observed = before.observed

theorem Node.Does.keepsObserved {Asks : Store.Request → Prop} {Also : Node S → Node S → Prop}
    {before after : Node S} (does : before.Does Asks Also after)
    (also : Also before after → before.KeepsObserved after) : before.KeepsObserved after := by
  cases does with
  | does more => exact also more
  | _ => rfl

theorem poll_eq (policy : Policy) :
    (poll policy : Operation S Bool) =
      request policy "directory_version" (fun _ => MappingStore.directoryVersion) >>= takeOver :=
  rfl

variable {γ : Type} {reach : Reach} {act : Node S → γ × Node S}
  {next : γ → Program (Node S) (Except Failure Bool)}

theorem follows_conclude (version previous : Int) :
    Follows (Node.Does (fun _ => True) Node.KeepsObserved)
      (conclude version previous : Operation S Bool).run := by
  unfold conclude
  split
  · trivial
  · refine Operation.follows_bind follows_clearCache fun _ => ?_
    exact Operation.follows_bind follows_dropDump fun _ => trivial

omit [MappingStore S] in
theorem staysInside_clearShards (indices : List Nat) :
    StaysInside (clearShards indices : Operation S Unit).run := by
  induction indices with
  | nil => trivial
  | cons index rest ih => exact ⟨rfl, fun _ => ih⟩

omit [MappingStore S] in
theorem staysInside_clearCache : StaysInside (clearCache : Operation S Unit).run := by
  refine Operation.staysInside_bind (Operation.staysInside_act _) fun count => ?_
  refine Operation.staysInside_bind (staysInside_clearShards _) fun _ => ?_
  exact Operation.staysInside_change _

omit [MappingStore S] in
theorem staysInside_conclude (version previous : Int) :
    StaysInside (conclude version previous : Operation S Bool).run := by
  unfold conclude
  split
  · trivial
  · refine Operation.staysInside_bind staysInside_clearCache fun _ => ?_
    exact Operation.staysInside_bind (Operation.staysInside_change _) fun _ => trivial

/-- After its reading a poll changes the version that the node knows in one step. -/
theorem step_of_takeOver {version : Int}
    (becomes : Becomes state IsOwn (takeOver version : Operation S Bool).run start
      (.step reach act next) time) :
    reach = .node ∧ ((∀ node : Node S, node.KeepsObserved (act node).2) ∨
      ∀ node, (act node).2 = (observe version node).2 ∧
        next (act node).1 = (conclude version node.observed : Operation S Bool).run) := by
  rcases Operation.step_of_bind becomes with ⟨part, _, counting⟩ | ⟨_, _, _, becomes⟩
  · cases Operation.step_of_change counting
    exact ⟨rfl, Or.inl fun node => rfl⟩
  · rcases Operation.step_of_bind becomes with ⟨part, same, observing⟩ | ⟨previous, _, _, becomes⟩
    · cases Operation.step_of_act observing
      refine ⟨rfl, Or.inr fun node => ⟨rfl, ?_⟩⟩
      rw [same]
      rfl
    · have keeps := (follows_conclude version previous).becomes becomes
      have inside := (staysInside_conclude version previous).becomes becomes
      exact ⟨inside.1, Or.inl fun node => (keeps node).1.keepsObserved id⟩

/-- What is left of a poll once it was told the directory version. -/
def afterReading (version : Int) : Program (Node S) (Except Failure Bool) :=
  Program.change (Node.record (.storeCall "directory_version"
    (outcomeLabel (.ok version : Except Failure Int)))) >>= fun _ => (takeOver version).run

omit [MappingStore S] in
theorem staysInside_afterReading (version : Int) :
    StaysInside (afterReading version : Program (Node S) _) := by
  refine ⟨rfl, fun _ => ?_⟩
  refine Operation.staysInside_bind (Operation.staysInside_change _) fun _ => ?_
  exact Operation.staysInside_bind (Operation.staysInside_act _) (staysInside_conclude version)

/-- A poll changes the version that the node knows only in order to take over the one
that it read. -/
theorem step_of_poll {policy : Policy}
    (becomes : Becomes state IsOwn (poll policy : Operation S Bool).run start
      (.step reach act next) time) :
    (∀ node : Node S, node.KeepsObserved (act node).2) ∨
      reach = .node ∧ ∃ version,
        Called state (IsOwn .store) (fun _ => MappingStore.directoryVersion) (.ok version) start time ∧
        ∀ node, (act node).2 = (observe version node).2 ∧
          next (act node).1 = (conclude version node.observed : Operation S Bool).run := by
  rw [poll_eq] at becomes
  rcases Operation.step_of_bind becomes with ⟨part, _, reading⟩ | ⟨version, middle, told, becomes⟩
  · have asks : Follows (Node.Does (fun _ => True) Node.KeepsObserved)
        (request policy "directory_version"
          (fun _ => MappingStore.directoryVersion) : Operation S Int).run :=
      follows_request (fun _ _ => ⟨.directoryVersion, trivial, rfl⟩) policy "directory_version"
    have keeps := asks.becomes reading
    exact Or.inl fun node => (keeps node).1.keepsObserved id
  · rcases step_of_takeOver becomes with ⟨inside, keeps | takes⟩
    · exact Or.inl keeps
    · exact Or.inr ⟨inside, version,
        (called_of_request told).mono (Nat.le_refl start) becomes.le, takes⟩

/-- A poll that reads the directory version goes on with it. -/
theorem store_step_of_poll {policy : Policy}
    (becomes : Becomes state IsOwn (poll policy : Operation S Bool).run start
      (.step .store act next) time) :
    ∀ node version, (MappingStore.directoryVersion node.store).1 = .ok version →
      next (act node).1 = afterReading version := by
  rw [poll_eq] at becomes
  rcases Operation.step_of_bind becomes with ⟨part, same, reading⟩ | ⟨_, _, _, becomes⟩
  · intro node version told
    have counts := store_step_of_retrying reading node version told
    rw [same, counts]
    rfl
  · cases (step_of_takeOver becomes).1

omit [MappingStore S] in
/-- After its reading a poll takes over what it read, and leaves the version that the node
knows before. -/
theorem turns_afterReading (version : Int) :
    Turns Node.KeepsObserved (fun node => (observe version node).2)
      (fun node => Command.answered .changed (conclude version node.observed))
      (afterReading version >>= fun outcome => pure (.ofOutcome .changed outcome) :
        Program (Node S) Answer) :=
  ⟨rfl, Or.inr fun _ => ⟨rfl, rfl, Or.inr fun _ => ⟨rfl, rfl, Or.inl fun _ => ⟨rfl, rfl⟩⟩⟩⟩

end Resolver
end BpnDirectory
