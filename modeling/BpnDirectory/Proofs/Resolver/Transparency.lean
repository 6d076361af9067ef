import BpnDirectory.Proofs.Resolver.Keeping
import BpnDirectory.Proofs.Resolver.Resolving

namespace BpnDirectory
namespace Resolver

/-!
A node answers as if it had no cache.

Calls that come one after the other leave a node a mirror of the directory that makes the
same calls without a cache and without keeping dumps.  Whatever the cache is set up with,
whenever its entries grow old and wherever it crashes, the answers are therefore those of
the directory.  Only what a node says about itself may differ: how many keys it
reconciled, and how many dumps it had built.
-/

open Operation (Conveys)
open Program (Ensures)
open Store (Call LawfulStore MappingStore Reply Request SteadyStore)

variable {S α : Type} [MappingStore S] [LawfulStore S] {directory : Directory S}
  {now : Time.Instant}

/-! ## One call -/

/-- Whether a program answers as a directory would and leaves a mirror of what the
directory is then. -/
def Replies (directory : Directory S) (now : Time.Instant) (program : Program (Node S) Answer)
    (reply : Answer × Directory S) : Prop :=
  Ensures (Node.Mirrors directory now []) program fun answer after =>
    answer.shown = reply.1 ∧ after.Mirrors reply.2 now []

theorem replies_of_changes {make : α → Answer} {operation : Operation S α}
    {reply : Except Failure α × Directory S} (changes : Changes directory now operation reply)
    (plain : ∀ value, (make value).shown = make value) :
    Replies directory now (Command.answered make operation) (Directory.told make reply) := by
  refine Ensures.bind changes ?_
  rintro (failure | value) node ⟨same, mirrors⟩
  · exact ⟨congrArg (Answer.ofOutcome make) same, mirrors⟩
  · refine ⟨?_, mirrors⟩
    exact (plain value).trans (congrArg (Answer.ofOutcome make) same)

theorem replies_of_conveys {make : α → Answer} {operation : Operation S α}
    {Told : Except Failure α → Prop} {answer : Answer}
    (conveys : Conveys directory now operation Told)
    (shows : ∀ outcome, Told outcome → (Answer.ofOutcome make outcome).shown = answer) :
    Replies directory now (Command.answered make operation) (answer, directory) := by
  refine Ensures.bind conveys ?_
  rintro outcome node ⟨told, mirrors⟩
  exact ⟨shows outcome told, mirrors⟩

variable [SteadyStore S]

theorem replies (healthy : SteadyStore.IsHealthy directory.store) (policy : Policy)
    (command : Command) :
    Replies directory now (command.program policy) (directory.answer policy now command) := by
  cases command with
  | resolve bpn => exact replies_of_changes (conveys_resolve policy bpn healthy) fun _ => rfl
  | resolveBatch bpns =>
      exact replies_of_changes (conveys_resolveBatch policy bpns healthy) fun _ => rfl
  | register bpn did => exact replies_of_changes (changes_register policy bpn did) fun _ => rfl
  | rotate bpn did expected =>
      exact replies_of_changes (changes_rotate policy bpn did expected) fun _ => rfl
  | remove bpn expected =>
      exact replies_of_changes (changes_remove policy bpn expected) fun _ => rfl
  | registerBatch batch => exact replies_of_changes (changes_registerBatch policy batch) fun _ => rfl
  | record bpn => exact replies_of_changes (conveys_record policy bpn) fun _ => rfl
  | findByDid did => exact replies_of_changes (conveys_findByDid policy did) fun _ => rfl
  | list token size => exact replies_of_changes (conveys_list policy token size) fun _ => rfl
  | dump =>
      refine replies_of_conveys (conveys_dumpDirectory policy) fun outcome told => ?_
      rw [← told]
      cases outcome <;> rfl
  | ping => exact replies_of_changes conveys_ping fun _ => rfl
  | poll => exact replies_of_changes (ensures_poll policy) fun _ => rfl
  | reconcile =>
      refine replies_of_conveys conveys_reconcile fun outcome done => ?_
      cases outcome with
      | ok keys => rfl
      | error failure => cases done
  | shutdown =>
      refine replies_of_conveys conveys_shutdown fun outcome done => ?_
      cases outcome with
      | ok _ => rfl
      | error failure => cases done

/-! ## A session -/

theorem healthy_change {make : Committed α → Reply} {call : Call S (Committed α)}
    (healthy : SteadyStore.IsHealthy directory.store) (checked : Except Failure Unit)
    (request : Request)
    (same : ∀ store, request.perform store = Request.answered make call store) :
    SteadyStore.IsHealthy (directory.change checked call).2.store := by
  have after : SteadyStore.IsHealthy (call directory.store).2 := by
    have kept := SteadyStore.healthy_perform request healthy
    rwa [same] at kept
  unfold Directory.change
  split
  · exact healthy
  · split
    · next called => rwa [called] at after
    · next called => rwa [called] at after

theorem healthy_answer (healthy : SteadyStore.IsHealthy directory.store) (policy : Policy)
    (command : Command) :
    SteadyStore.IsHealthy (directory.answer policy now command).2.store := by
  cases command with
  | register bpn did => exact healthy_change healthy _ (.put now bpn did none) fun _ => rfl
  | rotate bpn did expected =>
      exact healthy_change healthy _ (.put now bpn did (some expected)) fun _ => rfl
  | remove bpn expected => exact healthy_change healthy _ (.delete bpn expected) fun _ => rfl
  | registerBatch batch => exact healthy_change healthy _ (.putBatch now batch) fun _ => rfl
  | poll =>
      change SteadyStore.IsHealthy directory.poll.2.store
      unfold Directory.poll
      split <;> exact healthy
  | _ => exact healthy

omit [SteadyStore S] in
/-- Left to itself, a node loses entries but gains none. -/
theorem Node.Mirrors.wait {node : Node S} (mirrors : node.Mirrors directory now [])
    (lull : Lull) (later : Time.Instant) :
    (node.wait lull later).Mirrors directory later [] := by
  have crashed : ∀ (keys : List String) (cache : Cache),
      Node.Mirrors directory now [] { node with cache } →
        Node.Mirrors directory now [] { node with cache := keys.foldl Cache.poison cache } := by
    intro keys
    induction keys with
    | nil => exact fun _ kept => kept
    | cons key rest ih => exact fun _ kept => ih _ (kept.cache_evolves (Cache.poison_evolves key))
  exact { crashed lull.crashes node.cache mirrors with now := rfl }

/-- The answers of a mirror are those of the directory. -/
theorem shown_answers {node : Node S} (mirrors : node.Mirrors directory now [])
    (healthy : SteadyStore.IsHealthy directory.store) (policy : Policy) (lulls : Nat → Lull)
    (turns : List Turn) :
    (node.answers policy lulls turns).map Answer.shown = directory.answers policy turns := by
  induction turns generalizing node directory now lulls with
  | nil => rfl
  | cons turn rest ih =>
      have waited := mirrors.wait (lulls 0) turn.now
      rcases replies healthy policy turn.command _ waited with ⟨shown, after⟩
      rw [Node.answers, Directory.answers, List.map_cons, shown]
      exact congrArg _ (ih after (healthy_answer healthy policy turn.command) _)

/-- Two nodes with caches of any kind give the same answers to the same calls at the same
times, and these are the answers of the directory without a cache.  A fresh store is
healthy, and so is every store that only such calls have changed. -/
theorem answers_without_cache {store : S} (healthy : SteadyStore.IsHealthy store)
    (policy : Policy) (turns : List Turn) (one other : Setup) :
    (one.answers policy store turns).map Answer.shown =
        (other.answers policy store turns).map Answer.shown ∧
      (one.answers policy store turns).map Answer.shown =
        (Directory.start store).answers policy turns := by
  have each : ∀ setup : Setup, (setup.answers policy store turns).map Answer.shown =
      (Directory.start store).answers policy turns :=
    fun setup => shown_answers (.start store setup.settings setup.begun) healthy policy _ turns
  exact ⟨(each one).trans (each other).symm, each one⟩

/-- A record is resolved, replaced and resolved again. -/
def replacement : List Turn :=
  [⟨Request.noon, .register "BPNL00000000000A" "did:web:first"⟩,
    ⟨Request.noon, .resolve "BPNL00000000000A"⟩,
    ⟨Request.later, .rotate "BPNL00000000000A" "did:web:second" 1⟩,
    ⟨Request.later, .resolve "BPNL00000000000A"⟩,
    ⟨Request.later, .dump⟩,
    ⟨Request.later, .reconcile⟩]

/-- A node in whose cache a task crashes right before the record is replaced. -/
def Setup.crashing : Setup where
  settings := ⟨true, 4, 2, some 10⟩
  begun := Request.noon
  lulls index := if index = 2 then ⟨5, ["BPNL00000000000A"]⟩ else ⟨1, []⟩

def Setup.uncached : Setup where
  settings := .disabled
  begun := Request.later
  lulls _ := ⟨0, []⟩

/-- The replaced DID is gone, though the crash kept it from being dropped. -/
theorem answers_without_cache_crashing :
    let policy : Policy := ⟨10, 10, 100, ⟨1, 10, 10⟩⟩
    let answers := (Setup.crashing.answers policy Store.Memory.empty replacement).map Answer.shown
    SteadyStore.IsHealthy Store.Memory.empty ∧
      answers =
        (Setup.uncached.answers policy Store.Memory.empty replacement).map Answer.shown ∧
      answers =
        [.record ⟨"BPNL00000000000A", "did:web:first", 1, Request.noon, Request.noon⟩,
          .did "did:web:first",
          .record ⟨"BPNL00000000000A", "did:web:second", 2, Request.noon, Request.later⟩,
          .did "did:web:second",
          .dump ⟨"\x7b\"BPNL00000000000A\":\"did:web:second\"\x7d", 0⟩,
          .reconciled 0] := by
  have healthy : SteadyStore.IsHealthy Store.Memory.empty := Store.Memory.isSound_empty
  have both := answers_without_cache healthy ⟨10, 10, 100, ⟨1, 10, 10⟩⟩ replacement .crashing .uncached
  exact ⟨healthy, both.1, both.2.trans (by decide +kernel)⟩

end Resolver
end BpnDirectory
