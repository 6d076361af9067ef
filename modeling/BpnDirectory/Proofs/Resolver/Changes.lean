import BpnDirectory.Proofs.Resolver.Steps

namespace BpnDirectory
namespace Resolver

/-!
Changes among other calls.

A change is acknowledged after its key was forgotten.  By then everything that the
change superseded is settled, because forgetting came after the commit.
-/

open Program (Follows Upholds)
open Store (Call LawfulStore MappingStore)

variable {S α : Type}

/-- To forget a key never fails. -/
theorem yields_forget (bpn : String) :
    Program.Yields (· = .ok ()) (forget bpn : Operation S Unit).run := by
  intro outcome
  cases outcome with
  | ok _ => exact fun _ => rfl
  | error failure => exact fun _ _ _ => rfl

variable [MappingStore S] [LawfulStore S] {state : Nat → Node S} {IsOwn : Nat → Prop} {time : Nat}

/-- Once the key of a BPN is invalidated, everything is settled that was superseded
before. -/
theorem settled_of_invalidate {bpn : String} {since step : Nat} (fit : (state 0).IsFit)
    (fair : (course state IsOwn).IsFairUntil (step + 1)) (before : since ≤ step)
    (same : state (step + 1) = ((state step).invalidate bpn).2) :
    Settled state bpn since (step + 1) := by
  have past := fair.mono (Nat.le_succ step)
  have bound : (state step).cache.shardOf bpn < (state step).cache.shards.size := by
    rw [(isFit fit past).size]
    exact Cache.shardOf_lt _ bpn
  have cache : (state (step + 1)).cache = ((state step).cache.invalidate bpn).2 := by
    rw [same]
    rfl
  unfold Settled
  rw [shardOf_eq fair (Nat.le_succ step), cache]
  rcases Cache.shard_invalidate bpn bound with poisoned | ⟨newer, gone⟩
  · exact Or.inl poisoned
  · right
    refine ⟨Nat.lt_of_le_of_lt (generation_le past before _) newer, ?_⟩
    intro entry member named
    exact absurd named (gone entry member)

/-- After a BPN was forgotten, everything is settled that was superseded before. -/
theorem upholds_forget {bpn : String} {since : Nat} (fit : (state 0).IsFit) (before : since ≤ time)
    (fair : (course state IsOwn).IsFairUntil time) :
    Upholds (course state IsOwn) (forget bpn : Operation S Unit).run
      (fun outcome later => outcome = .ok () ∧ Settled state bpn since later) time := by
  refine Upholds.yields ?_ (yields_forget bpn)
  refine @Operation.upholds_bind _ _ _ _ _ _ _
    (fun _ later => Settled state bpn since later ∧ since ≤ later) _ fair ?_ ?_ ?_
  · apply Operation.upholds_act
    intro step from_ _ past same
    have last : (course state IsOwn).IsFair step := fair_of_plain same (plain_invalidate bpn _)
    have reached : since ≤ step := Nat.le_trans before from_
    exact ⟨last, settled_of_invalidate fit (past.succ last) reached same,
      Nat.le_succ_of_le reached⟩
  · rintro outcome later _ past ⟨settled, reached⟩
    -- Whether the invalidation failed or not, the steps that are left are plain.
    have stays : ∀ (_ : Except Failure Unit) (latest : Nat), later ≤ latest →
        (course state IsOwn).IsFairUntil latest → Settled state bpn since latest :=
      fun _ latest after lastly => settled.carry lastly after reached
    cases outcome with
    | ok _ => exact upholds_plain follows_dropDump past stays
    | error failure =>
        refine upholds_plain ?_ past stays
        refine Operation.follows_bind (Operation.follows_change fun _ => .counts rfl) fun _ => ?_
        refine Operation.follows_bind (Operation.follows_change (does_addPending bpn)) fun _ => ?_
        exact follows_dropDump
  · exact fun _ _ _ _ ends => ends.1

theorem upholds_forget_one {bpn : String} {since : Nat} (fit : (state 0).IsFit)
    (before : since ≤ time) (fair : (course state IsOwn).IsFairUntil time) :
    Upholds (course state IsOwn) (forget bpn : Operation S Unit).run
      (fun outcome later => outcome = .ok () ∧ ∀ key ∈ [bpn], Settled state key since later)
      time := by
  refine (upholds_forget fit before fair).mono fair ?_
  rintro _ _ _ _ ⟨done, settled⟩
  refine ⟨done, ?_⟩
  intro key member
  exact List.mem_singleton.mp member ▸ settled

theorem upholds_forgetAll {bpns : List String} {since : Nat} (fit : (state 0).IsFit)
    (before : since ≤ time) (fair : (course state IsOwn).IsFairUntil time) :
    Upholds (course state IsOwn) (forgetAll bpns : Operation S Unit).run
      (fun outcome later => outcome = .ok () ∧ ∀ bpn ∈ bpns, Settled state bpn since later)
      time := by
  induction bpns generalizing time with
  | nil => exact ⟨rfl, fun bpn member => absurd member List.not_mem_nil⟩
  | cons head rest ih =>
      refine Operation.upholds_bind fair (upholds_forget fit before fair) ?_ ?_
      · rintro _ later after past ⟨_, settled⟩
        have reached := Nat.le_trans before after
        refine (ih reached past).mono past ?_
        rintro outcome latest lastly fair ⟨done, others⟩
        refine ⟨done, ?_⟩
        intro bpn member
        rcases List.mem_cons.mp member with rfl | listed
        · exact settled.carry fair lastly reached
        · exact others bpn listed
      · rintro failure later _ _ ⟨absurdity, _⟩
        cases absurdity

/-- Whether a change was committed between two times as an own step, and everything
that it superseded is settled by then. -/
def Made (state : Nat → Node S) (IsOwn : Nat → Prop) (call : Time.Instant → Call S (Committed α))
    (bpns : List String) (committed : Committed α) (time later : Nat) : Prop :=
  ∃ step, time ≤ step ∧ step < later ∧ IsOwn step ∧
    call (state step).now (state step).store = (.ok committed, (state (step + 1)).store) ∧
    ∀ bpn ∈ bpns, Settled state bpn step later

/-- What is to be said of a change that was acknowledged. -/
def Acknowledges (state : Nat → Node S) (IsOwn : Nat → Prop)
    (call : Time.Instant → Call S (Committed α)) (bpns : Committed α → List String)
    (time : Nat) (outcome : Except Failure α) (later : Nat) : Prop :=
  ∀ value, outcome = .ok value → ∃ committed, committed.value = value ∧
    Made state IsOwn call (bpns committed) committed time later

/-- A change that is committed, forgotten and followed is made by the time it is
acknowledged. -/
theorem upholds_made {call : Time.Instant → Call S (Committed α)}
    {commit : Operation S (Committed α)} {forgetting : Committed α → Operation S Unit}
    {finish : Committed α → Operation S α} {bpns : Committed α → List String}
    (fair : (course state IsOwn).IsFairUntil time)
    (committing : Upholds (course state IsOwn) commit.run
      (fun outcome later => Called state IsOwn call outcome time later) time)
    (forgets : ∀ committed since later, since ≤ later → (course state IsOwn).IsFairUntil later →
      Upholds (course state IsOwn) (forgetting committed).run
        (fun outcome latest => outcome = .ok () ∧
          ∀ bpn ∈ bpns committed, Settled state bpn since latest) later)
    (finishes : ∀ committed later, (course state IsOwn).IsFairUntil later →
      Upholds (course state IsOwn) (finish committed).run
        (fun outcome _ => outcome = .ok committed.value) later) :
    Upholds (course state IsOwn)
      (do
        let committed ← commit
        forgetting committed
        finish committed : Operation S α).run
      (Acknowledges state IsOwn call bpns time) time := by
  refine Operation.upholds_bind fair committing ?_ ?_
  · rintro committed later after past ⟨step, from_, until_, own, called⟩
    have reached := Nat.le_of_lt until_
    refine Operation.upholds_bind past (forgets committed step later reached past) ?_ ?_
    · rintro _ last between lately ⟨_, settled⟩
      refine (finishes committed last lately).mono lately ?_
      intro outcome latest lastly finally_ done value same
      -- What is settled when the keys are forgotten stays so until the call is done.
      refine ⟨committed, Except.ok.inj (done.symm.trans same), step, from_,
        Nat.lt_of_lt_of_le until_ (Nat.le_trans between lastly), own, called, ?_⟩
      intro bpn member
      exact (settled bpn member).carry finally_ lastly (Nat.le_trans reached between)
    · rintro failure last _ _ ⟨absurdity, _⟩
      cases absurdity
  · intro failure later _ _ _ value absurdity
    cases absurdity

theorem upholds_followCommit (version : Int) (value : α) :
    Upholds (course state IsOwn)
      (do Operation.change (Node.followCommit version); pure value : Operation S α).run
      (fun outcome _ => outcome = .ok value) time :=
  fun _ _ _ _ same => ⟨fair_of_plain same (plain_followCommit version _), rfl⟩

theorem upholds_noteConflict {call : Time.Instant → Call S α} {change : Operation S α}
    (operation : String) (fair : (course state IsOwn).IsFairUntil time)
    (changing : Upholds (course state IsOwn) change.run
      (fun outcome later => Called state IsOwn call outcome time later) time) :
    Upholds (course state IsOwn) (noteConflict operation change).run
      (fun outcome later => Called state IsOwn call outcome time later) time := by
  refine Upholds.bind fair changing ?_
  intro outcome later after past called
  dsimp only
  split
  · intro step from_ _ _ same
    refine ⟨fair_of_plain same (plain_record _ _), ?_⟩
    exact called.mono (Nat.le_refl time) (Nat.le_succ_of_le from_)
  · exact called

theorem upholds_register (policy : Policy) (bpn did : String) (fit : (state 0).IsFit)
    (fair : (course state IsOwn).IsFairUntil time) :
    Upholds (course state IsOwn) (register policy bpn did).run
      (Acknowledges state IsOwn (fun now => MappingStore.put now bpn did none) (fun _ => [bpn])
        time) time := by
  refine Operation.upholds_check (fun _ _ => ?_) (fun _ _ _ => nofun)
  refine Operation.upholds_check (fun _ _ => ?_) (fun _ _ _ => nofun)
  refine upholds_made fair ?_ ?_ ?_
  · exact upholds_request (fun now _ => ⟨.put now bpn did none, rfl⟩) policy "put" fair
  · exact fun _ since later before past => upholds_forget_one fit before past
  · exact fun committed later _ => upholds_followCommit _ committed.value

theorem upholds_rotate (policy : Policy) (bpn did : String) (expected : Int)
    (fit : (state 0).IsFit) (fair : (course state IsOwn).IsFairUntil time) :
    Upholds (course state IsOwn) (rotate policy bpn did expected).run
      (Acknowledges state IsOwn (fun now => MappingStore.put now bpn did (some expected))
        (fun _ => [bpn]) time) time := by
  refine Operation.upholds_check (fun _ _ => ?_) (fun _ _ _ => nofun)
  refine Operation.upholds_check (fun _ _ => ?_) (fun _ _ _ => nofun)
  refine upholds_made fair ?_ ?_ ?_
  · apply upholds_noteConflict "rotate" fair
    exact upholds_request (fun now _ => ⟨.put now bpn did (some expected), rfl⟩) policy "put" fair
  · exact fun _ since later before past => upholds_forget_one fit before past
  · exact fun committed later _ => upholds_followCommit _ committed.value

theorem upholds_remove (policy : Policy) (bpn : String) (expected : Int)
    (fit : (state 0).IsFit) (fair : (course state IsOwn).IsFairUntil time) :
    Upholds (course state IsOwn) (remove policy bpn expected).run
      (Acknowledges state IsOwn (fun _ => MappingStore.delete bpn expected) (fun _ => [bpn]) time)
      time := by
  refine Operation.upholds_check (fun _ _ => ?_) (fun _ _ _ => nofun)
  refine upholds_made fair ?_ ?_ ?_
  · apply upholds_noteConflict "remove" fair
    exact upholds_request (fun _ _ => ⟨.delete bpn expected, rfl⟩) policy "delete" fair
  · exact fun _ since later before past => upholds_forget_one fit before past
  · exact fun committed later _ step _ _ _ same =>
      ⟨fair_of_plain same (plain_followCommit _ _), rfl⟩

theorem upholds_registerBatch (policy : Policy) (batch : List NewMapping) (fit : (state 0).IsFit)
    (fair : (course state IsOwn).IsFairUntil time) :
    Upholds (course state IsOwn) (registerBatch policy batch).run
      (Acknowledges state IsOwn (fun now => MappingStore.putBatch now batch)
        (fun committed => committed.value.map Record.bpn) time) time := by
  refine Operation.upholds_check (fun _ _ => ?_) (fun _ _ _ => nofun)
  refine upholds_made fair ?_ ?_ ?_
  · exact upholds_request (fun now _ => ⟨.putBatch now batch, rfl⟩) policy "put_batch" fair
  · exact fun _ since later before past => upholds_forgetAll fit before past
  · exact fun committed later _ => upholds_followCommit _ committed.value

end Resolver
end BpnDirectory
