import BpnDirectory.Proofs.Resolver.Mirroring
import BpnDirectory.Proofs.Resolver.Observation

namespace BpnDirectory
namespace Resolver

/-!
Dumps, polls and changes that are alone.

A node that mirrors a directory shows, polls and changes what the directory does, and
mirrors it again afterwards.  A change drops what its keys had, so nothing old is left by
the time it is done, even if a shard of the cache cannot be used.
-/

open Operation (Conveys)
open Program (Ensures)
open Store (Call Exchange LawfulStore MappingStore Reply Request SteadyStore)

variable {S α β : Type} [MappingStore S] [LawfulStore S] {directory : Directory S}
  {now : Time.Instant} {stale : List String}

/-! ## Upkeep -/

theorem conveys_clearShards (indices : List Nat) :
    Conveys directory now (clearShards indices : Operation S Unit) (·.isOk = true) := by
  induction indices with
  | nil => exact Operation.conveys_pure rfl
  | cons index rest ih =>
      refine Operation.conveys_change_bind ?_ ih
      exact fun node mirrors => mirrors.cache_evolves (Cache.clearShard_evolves index)

theorem conveys_clearCache :
    Conveys directory now (clearCache : Operation S Unit) (·.isOk = true) := by
  refine Operation.conveys_any_bind (fun _ mirrors => mirrors) fun count => ?_
  refine Operation.conveys_isOk_bind (conveys_clearShards _) fun _ => ?_
  exact fun node mirrors => ⟨rfl, mirrors.cache_evolves (.of_same rfl rfl)⟩

theorem conveys_dropDump :
    Conveys directory now (Operation.change Node.dropDump : Operation S Unit) (·.isOk = true) :=
  fun _ mirrors => ⟨rfl, mirrors.dropDump⟩

theorem conveys_invalidateKeys (keys : List String) :
    Conveys directory now (invalidateKeys keys : Operation S Nat) (·.isOk = true) := by
  induction keys with
  | nil => exact Operation.conveys_pure rfl
  | cons key rest ih =>
      refine Operation.conveys_any_bind (fun _ mirrors => mirrors.invalidate key) fun outcome => ?_
      exact Operation.conveys_isOk_bind ih fun failed => Operation.conveys_pure rfl

theorem conveys_reconcile :
    Conveys directory now (reconcile : Operation S Nat) (·.isOk = true) := by
  refine Operation.conveys_any_bind (fun _ mirrors => mirrors.congr rfl rfl rfl rfl rfl)
    fun keys => ?_
  split
  · exact Operation.conveys_pure rfl
  refine Operation.conveys_isOk_bind (conveys_invalidateKeys keys) fun failed => ?_
  have ending : Conveys directory now
      (Operation.change Node.dropDump >>= fun _ => pure keys.length : Operation S Nat)
      (·.isOk = true) :=
    Operation.conveys_isOk_bind conveys_dropDump fun _ => Operation.conveys_pure rfl
  split
  · exact Operation.conveys_isOk_bind conveys_clearCache fun _ => ending
  · exact ending

theorem conveys_shutdown :
    Conveys directory now (shutdown : Operation S Unit) (·.isOk = true) := by
  refine Operation.conveys_isOk_bind conveys_clearCache fun _ => ?_
  refine Operation.conveys_change_bind ?_ conveys_dropDump
  exact fun node mirrors => mirrors.cache_evolves (.of_same rfl rfl)

/-! ## Reads -/

section

variable [SteadyStore S]

/-- Whole records are asked of the store at once, after a check. -/
theorem conveys_check_request {γ : Type} {make : α → Reply} {call : γ → Call S α}
    (checked : Except Failure γ) (request : γ → Request)
    (same : ∀ value store, (request value).perform store = Request.answered make (call value) store)
    (isRead : ∀ value, (request value).isChange = false) (policy : Policy) (operation : String) :
    Conveys directory now
      (Operation.check checked >>= fun value =>
        Resolver.request policy operation fun _ => call value)
      (· = checked >>= fun value => (call value directory.store).1) := by
  refine Operation.conveys_check_bind ?_ ?_
  · rintro failure rfl
    rfl
  · rintro value rfl
    exact conveys_request (request value) (same value) (isRead value) policy operation

theorem conveys_record (policy : Policy) (bpn : String) :
    Conveys directory now (record policy bpn : Operation S Record) (· = directory.record bpn) :=
  conveys_check_request _ (fun _ => .get bpn) (fun _ _ => rfl) (fun _ => rfl) policy "get"

theorem conveys_findByDid (policy : Policy) (did : String) :
    Conveys directory now (findByDid policy did : Operation S (List Record))
      (· = directory.findByDid did) :=
  conveys_check_request _ (fun _ => .findByDid did) (fun _ _ => rfl) (fun _ => rfl) policy
    "find_by_did"

theorem conveys_list (policy : Policy) (token : Option String) (size : Option UInt64) :
    Conveys directory now (list policy token size : Operation S Page)
      (· = directory.list policy token size) :=
  conveys_check_request _ (.listAll token) (fun _ _ => rfl) (fun _ => rfl) policy "list_all"

theorem conveys_ping :
    Conveys directory now (ping : Operation S Unit)
      (· = (MappingStore.ping directory.store).1) := by
  intro node mirrors
  have left : (MappingStore.ping node.store).2 = node.store :=
    @SteadyStore.same_of_read S _ _ _ .ping rfl node.store
  refine ⟨?_, mirrors.congr left rfl rfl rfl rfl⟩
  rw [← mirrors.store]
  rfl

omit [LawfulStore S] [SteadyStore S] in
theorem Directory.dump_eq_of_isDumpOf {dump : Dump} (isDump : IsDumpOf dump directory.store) :
    directory.dump = .ok { dump with build := 0 } := by
  rcases isDump with ⟨entries, shown, written⟩
  rw [Directory.dump, shown, written]
  rfl

/-- The dump that is kept has the text that a new one would have. -/
theorem conveys_dumpDirectory (policy : Policy) :
    Conveys directory now (dumpDirectory policy : Operation S Dump)
      fun outcome => outcome.map (fun built => { built with build := 0 }) = directory.dump := by
  refine Operation.conveys_act_bind (fun kept => ∀ dump, kept = some dump → IsDumpOf dump directory.store)
    (fun node mirrors => ⟨mirrors.kept rfl, mirrors⟩) ?_
  rintro (_ | dump) known
  · refine Operation.conveys_any_bind (fun _ mirrors => mirrors) fun generation => ?_
    refine conveys_request_bind .snapshot (fun _ => rfl) rfl policy "snapshot" ?_ ?_
    · intro failure failed
      rw [Directory.dump, failed]
      rfl
    · intro entries shown
      refine Operation.conveys_act_bind (fun built => IsDumpOf built directory.store) ?_ ?_
      · exact fun node mirrors => ⟨⟨entries, shown, rfl⟩, mirrors.congr rfl rfl rfl rfl rfl⟩
      intro built isDump
      refine Operation.conveys_change_bind (fun node mirrors => mirrors.installDump isDump _) ?_
      exact Operation.conveys_pure (Directory.dump_eq_of_isDumpOf isDump).symm
  · exact Operation.conveys_pure (Directory.dump_eq_of_isDumpOf (known dump rfl)).symm

theorem ensures_poll (policy : Policy) :
    Ensures (Node.Mirrors directory now []) (poll policy : Operation S Bool).run
      fun outcome after => outcome = directory.poll.1 ∧ after.Mirrors directory.poll.2 now [] := by
  refine Ensures.bind (conveys_request .directoryVersion (fun _ => rfl) rfl policy
    "directory_version") ?_
  rintro (failure | version) node ⟨told, mirrors⟩
  · rw [Directory.poll, ← told]
    exact ⟨rfl, mirrors⟩
  rw [Directory.poll, ← told]
  -- The new version is taken in first, so the rest works for the directory that has it.
  have ending : ∀ previous, previous = directory.observed →
      Conveys { directory with observed := version } now
        (if previous = unobserved ∨ previous = version then pure false else do
          clearCache
          Operation.change Node.dropDump
          pure true : Operation S Bool)
        (· = .ok (decide (directory.observed ≠ unobserved ∧ directory.observed ≠ version))) := by
    rintro previous rfl
    split
    · next same =>
        refine Operation.conveys_pure (congrArg Except.ok ?_)
        symm
        simpa [imp_iff_not_or] using same
    · next moved =>
        refine Operation.conveys_isOk_bind conveys_clearCache fun _ => ?_
        refine Operation.conveys_isOk_bind conveys_dropDump fun _ => ?_
        refine Operation.conveys_pure (congrArg Except.ok ?_)
        symm
        simpa using moved
  exact ending node.observed mirrors.observed _ { mirrors with observed := rfl }

end

/-! ## Changes -/

/-- A change forgets its keys one after the other. -/
theorem ensures_forget (key : String) :
    Ensures (Node.Mirrors directory now (key :: stale)) (forget key : Operation S Unit).run
      fun outcome after => outcome = .ok () ∧ after.Mirrors directory now stale := by
  have invalidates : Ensures (Node.Mirrors directory now (key :: stale))
      (Operation.act (Node.invalidate key) : Operation S _).run fun outcome after =>
        (∃ invalidated, outcome = .ok invalidated) ∧
          after.Mirrors directory now (key :: stale) ∧ ∀ said, ¬ Cached after key said :=
    fun _ mirrors => ⟨⟨_, rfl⟩, mirrors.invalidate key, not_cached_invalidate _ key⟩
  refine invalidates.bind ?_
  rintro _ node ⟨⟨invalidated, rfl⟩, mirrors, gone⟩
  cases invalidated with
  | ok _ => exact ⟨rfl, mirrors.dropDump_of_not_cached gone⟩
  | error failure =>
      have queued : Node.Mirrors directory now (key :: stale)
          ((node.record (.failure failure.code "cache")).addPending key) :=
        mirrors.congr rfl rfl rfl rfl rfl
      exact ⟨rfl, queued.dropDump_of_not_cached gone⟩

theorem ensures_forgetAll (keys : List String) :
    Ensures (Node.Mirrors directory now keys) (forgetAll keys : Operation S Unit).run
      fun outcome after => outcome = .ok () ∧ after.Mirrors directory now [] := by
  induction keys with
  | nil => exact fun node mirrors => ⟨rfl, mirrors⟩
  | cons key rest ih =>
      refine Ensures.bind (ensures_forget key) ?_
      rintro _ node ⟨rfl, mirrors⟩
      exact ih node mirrors

/-- Whether an operation makes a change of a directory and leaves the keys that it
concerns to be forgotten. -/
def Commits (directory : Directory S) (now : Time.Instant) (operation : Operation S (Committed α))
    (call : Call S (Committed α)) (keys : Committed α → List String) : Prop :=
  Ensures (Node.Mirrors directory now []) operation.run fun outcome after =>
    outcome = (call directory.store).1 ∧
      after.Mirrors { directory with store := (call directory.store).2 } now
        (outcome.toOption.elim [] keys)

/-- Whether an operation changes a directory and has the outcome that it has there. -/
def Changes (directory : Directory S) (now : Time.Instant) (operation : Operation S α)
    (reply : Except Failure α × Directory S) : Prop :=
  Ensures (Node.Mirrors directory now []) operation.run fun outcome after =>
    outcome = reply.1 ∧ after.Mirrors reply.2 now []

theorem commits_request [SteadyStore S] {make : Committed α → Reply}
    {call : Time.Instant → Call S (Committed α)} {keys : Committed α → List String}
    (request : Request)
    (same : ∀ store, request.perform store = Request.answered make (call now) store)
    (changed : ∀ committed, (call now directory.store).1 = .ok committed → keys committed ≠ [] ∧
      ∀ bpn, bpn ∉ keys committed → Exchange.write? bpn ⟨request, make committed⟩ = none)
    (policy : Policy) (operation : String) :
    Commits directory now (Resolver.request policy operation call) (call now) keys := by
  refine ensures_request policy operation fun node mirrors => ?_
  have performed := same directory.store
  have called : call node.now node.store = call now directory.store := by
    rw [mirrors.now, mirrors.store]
  have kept : ∀ failure, (call now directory.store).1 = .error failure →
      (call now directory.store).2 = node.store := by
    intro failure failed
    have refused : (request.perform directory.store).1 = .failed failure := by
      rw [performed]
      exact congrArg (Reply.ofOutcome make) failed
    have left := SteadyStore.same_of_failed request refused
    rw [performed] at left
    exact left.trans mirrors.store.symm
  refine ⟨_, _, called, kept, fun ledger => ⟨rfl, ?_⟩⟩
  cases outcome : (call now directory.store).1 with
  | error failure =>
      rw [(kept failure outcome).trans mirrors.store]
      exact mirrors.congr mirrors.store.symm rfl rfl rfl rfl
  | ok committed =>
      rcases changed committed outcome with ⟨concerned, others⟩
      have replied : (request.perform directory.store).1 = make committed := by
        rw [performed, Request.answered, outcome]
        rfl
      rw [← replied] at others
      have after := mirrors.perform request ledger concerned others
      rw [performed] at after
      exact after

theorem commits_noteConflict {operation : Operation S (Committed α)}
    {call : Call S (Committed α)} {keys : Committed α → List String}
    (commits : Commits directory now operation call keys) (name : String) :
    Commits directory now (noteConflict name operation) call keys := by
  refine Ensures.bind commits ?_
  rintro outcome node ⟨same, mirrors⟩
  dsimp only
  split
  · exact ⟨same, mirrors.congr rfl rfl rfl rfl rfl⟩
  · exact ⟨same, mirrors⟩

/-- What follows a commit forgets the keys of the change and does not fail. -/
theorem changes_of_commits {operation : Operation S (Committed α)} {call : Call S (Committed α)}
    {keys : Committed α → List String} {rest : Committed α → Operation S α}
    (commits : Commits directory now operation call keys)
    (finishes : ∀ (committed : Committed α) (directory : Directory S),
      Ensures (Node.Mirrors directory now (keys committed)) (rest committed).run
        fun outcome after => outcome = .ok committed.value ∧
          after.Mirrors (directory.commit committed.directoryVersion directory.store) now []) :
    Changes directory now (operation >>= rest) (directory.change (.ok ()) call) := by
  refine Ensures.bind commits ?_
  rintro outcome node ⟨same, mirrors⟩
  have told : call directory.store = (outcome, (call directory.store).2) := Prod.ext same.symm rfl
  rw [Directory.change, told]
  cases outcome with
  | error failure => exact ⟨rfl, mirrors⟩
  | ok committed => exact finishes committed _ node mirrors

theorem ensures_finish {forgetting : Operation S Unit} {ending : Operation S α} {value : α}
    (forgets : Ensures (Node.Mirrors directory now stale) forgetting.run fun outcome after =>
      outcome = .ok () ∧ after.Mirrors directory now [])
    {version : Int} (ends : ∀ node, ending.run.run node = (.ok value, node.followCommit version)) :
    Ensures (Node.Mirrors directory now stale) (forgetting >>= fun _ => ending).run
      fun outcome after => outcome = .ok value ∧
        after.Mirrors (directory.commit version directory.store) now [] := by
  refine Ensures.bind forgets ?_
  rintro _ node ⟨rfl, mirrors⟩
  change (ending.run.run node).1 = _ ∧ (ending.run.run node).2.Mirrors _ _ _
  rw [ends]
  exact ⟨rfl, mirrors.followCommit version⟩

theorem changes_check_bind {checked others : Except Failure Unit} {operation : Operation S α}
    {call : Call S (Committed α)}
    (passed : checked = .ok () → Changes directory now operation (directory.change others call)) :
    Changes directory now (Operation.check checked >>= fun _ => operation)
      (directory.change (checked >>= fun _ => others) call) := by
  cases checked with
  | ok _ => exact passed rfl
  | error failure => exact fun _ mirrors => ⟨rfl, mirrors⟩

theorem changes_check {checked : Except Failure Unit} {operation : Operation S α}
    {call : Call S (Committed α)}
    (passed : checked = .ok () → Changes directory now operation (directory.change (.ok ()) call)) :
    Changes directory now (Operation.check checked >>= fun _ => operation)
      (directory.change checked call) := by
  have whole := changes_check_bind passed
  rwa [show (checked >>= fun _ => .ok ()) = checked from bind_pure_unit] at whole

section

variable [SteadyStore S] (policy : Policy)

theorem write?_put {now : Time.Instant} {bpn did key : String} {expected : Option Int}
    {committed : Committed Record} (other : key ∉ [bpn]) :
    Exchange.write? key ⟨.put now bpn did expected, .put committed⟩ = none := by
  have apart : bpn ≠ key := fun same => other (same ▸ List.mem_singleton_self key)
  cases expected <;> exact if_neg apart

theorem changes_register (bpn did : String) :
    Changes directory now (register policy bpn did : Operation S Record)
      (directory.change (Store.requireMapping bpn did) (MappingStore.put now bpn did none)) := by
  refine changes_check_bind fun _ => changes_check fun _ => ?_
  refine changes_of_commits ?_ fun committed directory =>
    ensures_finish (ensures_forget bpn) fun _ => rfl
  refine commits_request (.put now bpn did none) (fun _ => rfl) ?_ policy "put"
  exact fun committed _ => ⟨List.cons_ne_nil bpn [], fun key other => write?_put other⟩

theorem changes_rotate (bpn did : String) (expected : Int) :
    Changes directory now (rotate policy bpn did expected : Operation S Record)
      (directory.change (Store.requireMapping bpn did)
        (MappingStore.put now bpn did (some expected))) := by
  refine changes_check_bind fun _ => changes_check fun _ => ?_
  refine changes_of_commits (commits_noteConflict ?_ "rotate") fun committed directory =>
    ensures_finish (ensures_forget bpn) fun _ => rfl
  refine commits_request (.put now bpn did (some expected)) (fun _ => rfl) ?_ policy "put"
  exact fun committed _ => ⟨List.cons_ne_nil bpn [], fun key other => write?_put other⟩

theorem changes_remove (bpn : String) (expected : Int) :
    Changes directory now (remove policy bpn expected : Operation S Unit)
      (directory.change (requireBpn bpn) (MappingStore.delete bpn expected)) := by
  refine changes_check fun _ => ?_
  refine changes_of_commits (commits_noteConflict ?_ "remove") fun committed directory =>
    ensures_finish (ensures_forget bpn) fun _ => rfl
  refine commits_request (.delete bpn expected) (fun _ => rfl) ?_ policy "delete"
  refine fun committed _ => ⟨List.cons_ne_nil bpn [], fun key other => ?_⟩
  exact if_neg fun same : bpn = key => other (same ▸ List.mem_singleton_self key)

theorem changes_registerBatch (batch : List NewMapping) :
    Changes directory now (registerBatch policy batch : Operation S (List Record))
      (directory.change (checkBatch policy batch) (MappingStore.putBatch now batch)) := by
  refine changes_check fun valid => ?_
  refine changes_of_commits ?_ fun committed directory =>
    ensures_finish (ensures_forgetAll (committed.value.map Record.bpn)) fun _ => rfl
  refine commits_request (.putBatch now batch) (fun _ => rfl) ?_ policy "put_batch"
  intro committed put
  have keys := LawfulStore.putBatch_bpns put
  rw [keys]
  refine ⟨by simpa using filled_of_checkBatch valid, fun key other => ?_⟩
  have unnamed : (batch.find? fun mapping => mapping.bpn = key) = none := by
    rw [List.find?_eq_none]
    intro mapping member
    simpa using fun same => other (List.mem_map.mpr ⟨mapping, member, same⟩)
  rw [Exchange.write?, unnamed]
  rfl

end

end Resolver
end BpnDirectory
