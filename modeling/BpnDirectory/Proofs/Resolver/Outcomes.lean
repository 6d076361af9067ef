import BpnDirectory.Proofs.Resolver.Mirroring

namespace BpnDirectory
namespace Resolver

/-!
What operations on one record come to.

An operation on one record that is alone comes to what the store says to the one call that it
makes.  What the node forgets after a change, and in which state its cache is, makes no
difference to that.  An operation that fails changes nothing but what was counted.
-/

open Store (Call MappingStore SteadyStore)

variable {S α β : Type} {node : Node S} {store : S}

namespace Operation

/-- Whether an operation that is alone ends in an outcome and leaves a store.  If it fails, it
changes nothing but what was counted. -/
structure ComesTo (operation : Operation S α) (node : Node S) (outcome : Except Failure α)
    (store : S) : Prop where
  ends : (operation.run.run node).1 = outcome
  leaves : (operation.run.run node).2.store = store
  counts : ∀ failure, outcome = .error failure →
    ∃ ledger, (operation.run.run node).2 = { node with ledger }

/-! ## Parts of operations -/

theorem comesTo_pure (value : α) (node : Node S) :
    ComesTo (pure value) node (.ok value) node.store :=
  ⟨rfl, rfl, nofun⟩

theorem comesTo_check_bind {checked : Except Failure β} {value : β} {rest : β → Operation S α}
    {outcome : Except Failure α} (passed : checked = .ok value)
    (comes : ComesTo (rest value) node outcome store) :
    ComesTo (check checked >>= rest) node outcome store := by
  subst passed
  exact comes

/-- What comes after a part that succeeds goes on with the store that the part leaves. -/
theorem comesTo_bind {first : Operation S β} {rest : β → Operation S α} {value : β} {result : α}
    {last : S} (begun : ComesTo first node (.ok value) store)
    (goesOn : ∀ after : Node S, after.store = store → ComesTo (rest value) after (.ok result) last) :
    ComesTo (first >>= rest) node (.ok result) last := by
  have others := goesOn (first.run.run node).2 begun.leaves
  have ran : (first >>= rest).run.run node = (rest value).run.run (first.run.run node).2 := by
    rw [Program.run_except_bind, begun.ends]
  exact ⟨ran ▸ others.ends, ran ▸ others.leaves, nofun⟩

/-- A part that fails is the end. -/
theorem comesTo_error_bind {first : Operation S β} {rest : β → Operation S α} {failure : Failure}
    (begun : ComesTo first node (.error failure) store) :
    ComesTo (first >>= rest) node (.error failure) store := by
  have ran : (first >>= rest).run.run node = (.error failure, (first.run.run node).2) := by
    rw [Program.run_except_bind, begun.ends]
  exact ⟨by rw [ran], by rw [ran, begun.leaves], fun _ _ => ran ▸ begun.counts failure rfl⟩

/-- Where all that comes after a part succeeds and leaves the store, the part decides. -/
theorem comesTo_settle {first : Operation S β} {rest : β → Operation S α}
    {outcome : Except Failure β} (tell : β → α) (begun : ComesTo first node outcome store)
    (settles : ∀ value after, ComesTo (rest value) after (.ok (tell value)) after.store) :
    ComesTo (first >>= rest) node (outcome.map tell) store := by
  cases outcome with
  | error failure => exact comesTo_error_bind begun
  | ok value => exact comesTo_bind begun fun after same => same ▸ settles value after

/-- A call that leaves the store when it fails comes to its own outcome, however often it may be
made again. -/
theorem comesTo_request {call : Time.Instant → Call S α} (policy : Policy) (operation : String)
    (kept : ∀ failure, (call node.now node.store).1 = .error failure →
      (call node.now node.store).2 = node.store) :
    ComesTo (request policy operation call) node (call node.now node.store).1
      (call node.now node.store).2 := by
  rcases run_retrying operation policy.retry.attempts (Prod.eta (call node.now node.store)).symm kept
    with ⟨ledger, ran⟩
  have whole : (request policy operation call).run.run node =
      ((call node.now node.store).1, { node with store := (call node.now node.store).2, ledger }) :=
    ran
  refine ⟨by rw [whole], by rw [whole], fun failure failed => ⟨ledger, ?_⟩⟩
  rw [whole, kept failure failed]

/-- Counting a conflict changes nothing else. -/
theorem comesTo_noteConflict {change : Operation S α} {outcome : Except Failure α}
    (name : String) (comes : ComesTo change node outcome store) :
    ComesTo (noteConflict name change) node outcome store := by
  have ran : ∃ ledger, (noteConflict name change).run.run node =
      ((change.run.run node).1, { (change.run.run node).2 with ledger }) := by
    unfold noteConflict
    change ∃ ledger, (change.run >>= _ : Program (Node S) _).run node = _
    rw [Program.run_bind]
    generalize change.run.run node = result
    rcases result with ⟨failure | value, after⟩
    · cases failure <;> exact ⟨_, rfl⟩
    · exact ⟨_, rfl⟩
  rcases ran with ⟨ledger, ran⟩
  refine ⟨by rw [ran, comes.ends], by rw [ran, comes.leaves], fun failure failed => ⟨ledger, ?_⟩⟩
  rcases comes.counts failure failed with ⟨_, counted⟩
  rw [ran, counted]

/-- A node forgets a key whether or not it can drop its entry. -/
theorem run_forget (key : String) (node : Node S) :
    ∃ after, (forget key : Operation S Unit).run.run node = (.ok (), after) ∧
      after.store = node.store ∧ after.cache = (node.invalidate key).2.cache := by
  have dropped : (Operation.act (Node.invalidate key) : Operation S _).run.run node =
      (.ok (node.invalidate key).1, (node.invalidate key).2) := rfl
  rw [forget, Program.run_except_bind, dropped]
  dsimp only
  cases (node.invalidate key).1 with
  | ok _ => exact ⟨_, rfl, rfl, rfl⟩
  | error failure => exact ⟨_, rfl, rfl, rfl⟩

theorem comesTo_forget (key : String) (node : Node S) :
    ComesTo (forget key) node (.ok ()) node.store := by
  rcases run_forget key node with ⟨after, ran, same, _⟩
  exact ⟨by rw [ran], by rw [ran, same], nofun⟩

theorem comesTo_forgetAll (keys : List String) (node : Node S) :
    ComesTo (forgetAll keys) node (.ok ()) node.store := by
  induction keys generalizing node with
  | nil => exact comesTo_pure () node
  | cons key rest ih =>
      refine comesTo_bind (comesTo_forget key node) fun forgot same => ?_
      exact same ▸ ih forgot

theorem comesTo_followCommit (version : Int) (node : Node S) :
    ComesTo (change (Node.followCommit version)) node (.ok ()) node.store := by
  refine ⟨rfl, ?_, nofun⟩
  change (node.followCommit version).store = node.store
  unfold Node.followCommit
  split <;> rfl

end Operation

/-! ## Operations on one record -/

/-- What is done after a change that was committed succeeds and leaves the store. -/
theorem comesTo_finish (bpn : String) (version : Int) (value : α) (node : Node S) :
    Operation.ComesTo (do forget bpn; Operation.change (Node.followCommit version); pure value) node
      (.ok value) node.store := by
  refine Operation.comesTo_bind (Operation.comesTo_forget bpn node) fun forgot same => ?_
  rw [← same]
  refine Operation.comesTo_bind (Operation.comesTo_followCommit version forgot) fun after kept => ?_
  exact kept ▸ Operation.comesTo_pure value after

section

variable [MappingStore S] [Store.LawfulStore S] [SteadyStore S]

open Operation (ComesTo)

theorem kept_of_put {now : Time.Instant} {bpn did : String} {expected : Option Int} (store : S)
    (failure : Failure) (failed : (MappingStore.put now bpn did expected store).1 = .error failure) :
    (MappingStore.put now bpn did expected store).2 = store := by
  have replied : ((Store.Request.put now bpn did expected).perform store).1 = .failed failure :=
    congrArg (Store.Reply.ofOutcome .put) failed
  exact SteadyStore.same_of_failed _ replied

theorem kept_of_putBatch {now : Time.Instant} {batch : List NewMapping} (store : S)
    (failure : Failure) (failed : (MappingStore.putBatch now batch store).1 = .error failure) :
    (MappingStore.putBatch now batch store).2 = store := by
  have replied : ((Store.Request.putBatch now batch).perform store).1 = .failed failure :=
    congrArg (Store.Reply.ofOutcome .putBatch) failed
  exact SteadyStore.same_of_failed _ replied

theorem kept_of_delete {bpn : String} {expected : Int} (store : S) (failure : Failure)
    (failed : (MappingStore.delete bpn expected store).1 = .error failure) :
    (MappingStore.delete bpn expected store).2 = store := by
  have replied : ((Store.Request.delete bpn expected).perform store).1 = .failed failure :=
    congrArg (Store.Reply.ofOutcome .deleted) failed
  exact SteadyStore.same_of_failed _ replied

theorem kept_of_get (bpn : String) (store : S) : (MappingStore.get bpn store).2 = store := by
  have isRead : (Store.Request.get bpn).isChange = false := rfl
  exact SteadyStore.same_of_read isRead store

variable {bpn did : String}

/-- To look at a record comes to what the store has. -/
theorem comesTo_record (policy : Policy) (valid : requireBpn bpn = .ok ()) (node : Node S) :
    ComesTo (record policy bpn) node (MappingStore.get bpn node.store).1 node.store := by
  have asked : ComesTo (request policy "get" fun _ => MappingStore.get bpn) node
      (MappingStore.get bpn node.store).1 (MappingStore.get bpn node.store).2 :=
    Operation.comesTo_request policy "get" fun _ _ => kept_of_get bpn node.store
  rw [kept_of_get] at asked
  exact Operation.comesTo_check_bind valid asked

/-- A change of a mapping that passes its checks comes to what the store makes of it. -/
theorem comesTo_register (policy : Policy) (validBpn : requireBpn bpn = .ok ())
    (validDid : requireDid did = .ok ()) (node : Node S) :
    ComesTo (register policy bpn did) node
      ((MappingStore.put node.now bpn did none node.store).1.map Committed.value)
      (MappingStore.put node.now bpn did none node.store).2 := by
  refine Operation.comesTo_check_bind validBpn (Operation.comesTo_check_bind validDid ?_)
  refine Operation.comesTo_settle _ (Operation.comesTo_request policy "put" (kept_of_put node.store))
    fun committed after => ?_
  exact comesTo_finish bpn committed.directoryVersion committed.value after

theorem comesTo_rotate (policy : Policy) (validBpn : requireBpn bpn = .ok ())
    (validDid : requireDid did = .ok ()) (expected : Int) (node : Node S) :
    ComesTo (rotate policy bpn did expected) node
      ((MappingStore.put node.now bpn did (some expected) node.store).1.map Committed.value)
      (MappingStore.put node.now bpn did (some expected) node.store).2 := by
  refine Operation.comesTo_check_bind validBpn (Operation.comesTo_check_bind validDid ?_)
  refine Operation.comesTo_settle _ (Operation.comesTo_noteConflict "rotate"
    (Operation.comesTo_request policy "put" (kept_of_put node.store))) fun committed after => ?_
  exact comesTo_finish bpn committed.directoryVersion committed.value after

theorem comesTo_remove (policy : Policy) (valid : requireBpn bpn = .ok ()) (expected : Int)
    (node : Node S) :
    ComesTo (remove policy bpn expected) node
      ((MappingStore.delete bpn expected node.store).1.map fun _ => ())
      (MappingStore.delete bpn expected node.store).2 := by
  refine Operation.comesTo_check_bind valid ?_
  refine Operation.comesTo_settle _ (Operation.comesTo_noteConflict "remove"
    (Operation.comesTo_request policy "delete" (kept_of_delete node.store)))
    fun committed after => ?_
  refine Operation.comesTo_bind (Operation.comesTo_forget bpn after) fun forgot same => ?_
  exact same ▸ Operation.comesTo_followCommit committed.directoryVersion forgot

theorem comesTo_registerBatch {batch : List NewMapping} {policy : Policy}
    (passed : checkBatch policy batch = .ok ()) (node : Node S) :
    ComesTo (registerBatch policy batch) node
      ((MappingStore.putBatch node.now batch node.store).1.map Committed.value)
      (MappingStore.putBatch node.now batch node.store).2 := by
  refine Operation.comesTo_check_bind passed ?_
  refine Operation.comesTo_settle _
    (Operation.comesTo_request policy "put_batch" (kept_of_putBatch node.store)) fun committed after => ?_
  refine Operation.comesTo_bind (Operation.comesTo_forgetAll _ after) fun forgot same => ?_
  rw [← same]
  refine Operation.comesTo_bind (Operation.comesTo_followCommit committed.directoryVersion forgot)
    fun last kept => ?_
  exact kept ▸ Operation.comesTo_pure committed.value last

end

end Resolver
end BpnDirectory
