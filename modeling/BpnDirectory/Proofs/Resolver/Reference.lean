import BpnDirectory.Proofs.Resolver.Traffic

namespace BpnDirectory
namespace Resolver

/-!
The directory behind a node.

A directory answers the calls of a node from its store alone.  It keeps neither DIDs nor
a dump, so there is nothing to drop after a change and nothing to reconcile.  All that it
has besides its store is the directory version that a poll compares.

A session is a list of calls that are made one after the other, each at a time of the
wall clock.  Between two calls a node is left to itself: its other clock goes on, and
tasks may crash in its cache.
-/

open Store (Call MappingStore)

/-- A store and the directory version up to which all its changes are known. -/
structure Directory (S : Type) where
  store : S
  observed : Int

namespace Directory

variable {S α : Type}

def start (store : S) : Directory S := ⟨store, unobserved⟩

/-- The directory after a change of its own. -/
def commit (version : Int) (store : S) (directory : Directory S) : Directory S :=
  ⟨store, if directory.observed = version - 1 then version else directory.observed⟩

/-- Makes a change unless a check failed. -/
def change (checked : Except Failure Unit) (call : Call S (Committed α))
    (directory : Directory S) : Except Failure α × Directory S :=
  match checked with
  | .error failure => (.error failure, directory)
  | .ok () =>
    match call directory.store with
    | (.error failure, store) => (.error failure, { directory with store })
    | (.ok committed, store) => (.ok committed.value, directory.commit committed.directoryVersion store)

variable [MappingStore S]

def record (directory : Directory S) (bpn : String) : Except Failure Record := do
  requireBpn bpn
  (MappingStore.get bpn directory.store).1

def resolve (directory : Directory S) (bpn : String) : Except Failure String :=
  (directory.record bpn).map Record.did

theorem resolve_eq_of_ok {directory : Directory S} {bpn : String}
    (valid : requireBpn bpn = .ok ()) :
    directory.resolve bpn = (MappingStore.get bpn directory.store).1.map Record.did := by
  rw [resolve, record, valid, ok_bind]

theorem resolve_eq_of_error {directory : Directory S} {bpn : String} {failure : Failure}
    (refused : requireBpn bpn = .error failure) : directory.resolve bpn = .error failure := by
  rw [resolve, record, refused]
  rfl

def outcomeOf (directory : Directory S) (bpn : String) : BatchOutcome :=
  match requireBpn bpn with
  | .error failure => .invalidInput failure.message
  | .ok () =>
    match directory.resolve bpn with
    | .ok did => .found did
    | .error _ => .notFound

def resolveBatch (policy : Policy) (directory : Directory S) (bpns : List String) :
    Except Failure (OrderedMap BatchOutcome) :=
  if bpns.length > policy.batchLimit then
    .error (.invalidInput
      s!"Batch of {bpns.length} BPNs exceeds the maximum of {policy.batchLimit}")
  else .ok (.ofList (bpns.map fun bpn => (bpn, directory.outcomeOf bpn)))

def findByDid (directory : Directory S) (did : String) : Except Failure (List Record) := do
  requireDid did
  (MappingStore.findByDid did directory.store).1

def list (policy : Policy) (directory : Directory S) (token : Option String)
    (size : Option UInt64) : Except Failure Page := do
  let size ← pageSize policy size
  (MappingStore.listAll token size directory.store).1

/-- The dump of the directory, which counts as its first build. -/
def dump (directory : Directory S) : Except Failure Dump :=
  (MappingStore.snapshot directory.store).1.map fun entries => ⟨Dump.write entries, 0⟩

/-- Says whether the store changed without the directory's knowledge since the last
poll. -/
def poll (directory : Directory S) : Except Failure Bool × Directory S :=
  match (MappingStore.directoryVersion directory.store).1 with
  | .error failure => (.error failure, directory)
  | .ok version =>
    (.ok (decide (directory.observed ≠ unobserved ∧ directory.observed ≠ version)),
      { directory with observed := version })

def told (make : α → Answer) (reply : Except Failure α × Directory S) : Answer × Directory S :=
  (.ofOutcome make reply.1, reply.2)

/-- What comes of a call at a time, and the directory afterwards. -/
def answer (policy : Policy) (now : Time.Instant) (directory : Directory S) :
    Command → Answer × Directory S
  | .resolve bpn => told .did (directory.resolve bpn, directory)
  | .resolveBatch bpns => told .outcomes (directory.resolveBatch policy bpns, directory)
  | .register bpn did =>
    told .record (directory.change (Store.requireMapping bpn did) (MappingStore.put now bpn did none))
  | .rotate bpn did expected =>
    told .record (directory.change (Store.requireMapping bpn did)
      (MappingStore.put now bpn did (some expected)))
  | .remove bpn expected =>
    told (fun _ => .done) (directory.change (requireBpn bpn) (MappingStore.delete bpn expected))
  | .registerBatch batch =>
    told .records (directory.change (checkBatch policy batch) (MappingStore.putBatch now batch))
  | .record bpn => told .record (directory.record bpn, directory)
  | .findByDid did => told .records (directory.findByDid did, directory)
  | .list token size => told .page (directory.list policy token size, directory)
  | .dump => told .dump (directory.dump, directory)
  | .ping => told (fun _ => .done) ((MappingStore.ping directory.store).1, directory)
  | .poll => told .changed directory.poll
  | .reconcile => (.reconciled 0, directory)
  | .shutdown => (.done, directory)

end Directory

/-! ## Sessions -/

/-- A call and what the wall clock shows when it is made. -/
structure Turn where
  now : Time.Instant
  command : Command

/-- What happens to a node before a call: how far its clock goes on, and the keys in
whose shards tasks crash. -/
structure Lull where
  ticks : Nat
  crashes : List String

variable {S : Type}

def Node.wait (lull : Lull) (now : Time.Instant) (node : Node S) : Node S :=
  { node with
    cache := lull.crashes.foldl Cache.poison node.cache
    ticks := node.ticks + lull.ticks
    now }

variable [MappingStore S]

def Node.answers (policy : Policy) (lulls : Nat → Lull) : List Turn → Node S → List Answer
  | [], _ => []
  | turn :: rest, node =>
    let (answer, after) := (turn.command.program policy).run (node.wait (lulls 0) turn.now)
    answer :: answers policy (fun index => lulls (index + 1)) rest after

/-- What a node is set up with, and what happens to it between calls. -/
structure Setup where
  settings : Cache.Settings
  begun : Time.Instant
  lulls : Nat → Lull

/-- What a node of a set-up answers in a session. -/
def Setup.answers (setup : Setup) (policy : Policy) (store : S) (turns : List Turn) :
    List Answer :=
  (Node.start store setup.settings setup.begun).answers policy setup.lulls turns

def Directory.answers (policy : Policy) : List Turn → Directory S → List Answer
  | [], _ => []
  | turn :: rest, directory =>
    let (answer, after) := directory.answer policy turn.now turn.command
    answer :: answers policy rest after

/-- An answer without what the cache and the building of dumps decide: the number of keys
that were reconciled, and the number of the build. -/
def Answer.shown : Answer → Answer
  | .reconciled _ => .reconciled 0
  | .dump built => .dump { built with build := 0 }
  | answer => answer

end Resolver
end BpnDirectory
