import BpnDirectory.Cache.Basic
import BpnDirectory.Collection.Shelf
import BpnDirectory.Directory.Dump
import BpnDirectory.Process.Program
import BpnDirectory.Store.Contract
import BpnDirectory.Telemetry

namespace BpnDirectory
namespace Resolver

/-!
The state of a node.

A node answers lookups from its cache and its store, and keeps what it derived
from the store: cached DIDs, a dump of the directory, the keys whose cached DID
it failed to drop after a change, and the directory version up to which it knows
all changes.  The store is shared with other nodes, so it may change between any
two steps of this one.
-/

open Cache (Lookup Ticket)
open Store (Call MappingStore)
open Telemetry (Event Ledger)

/-- The directory version of a node that has not polled yet.  Versions count
changes, so no store is at it. -/
def unobserved : Int := -1

/-- A node with its store. -/
structure Node (S : Type) where
  store : S
  cache : Cache
  /-- The dump of the directory. -/
  shelf : Shelf Dump
  /-- Keys whose entry could not be dropped after a change. -/
  pending : List String
  /-- The directory version up to which the node knows all changes. -/
  observed : Int
  /-- Number of dumps built so far. -/
  builds : Nat
  ledger : Ledger
  /-- Reading of the clock that never goes back, in nanoseconds. -/
  ticks : Nat
  /-- Reading of the wall clock. -/
  now : Time.Instant

namespace Node

variable {S : Type}

/-- A node that has not done anything yet. -/
def start (store : S) (settings : Cache.Settings) (now : Time.Instant) : Node S :=
  ⟨store, .new settings, .empty, [], unobserved, 0, .empty, 0, now⟩

/-- The directory version that the last poll saw, if there was one. -/
def observedVersion? (node : Node S) : Option Int :=
  if node.observed = unobserved then none else some node.observed

def samples (node : Node S) : List (Telemetry.Sample × Int) :=
  node.ledger.samples ++ node.cache.samples

def record (event : Event) (node : Node S) : Node S :=
  { node with ledger := node.ledger.record event }

/-- The node with a key added to those that wait for reconciliation. -/
def addPending (key : String) (node : Node S) : Node S :=
  { node with pending := if key ∈ node.pending then node.pending else node.pending ++ [key] }

/-- Follows the directory version past a change of this node's own.  A gap before
the change stays visible, since someone else filled it. -/
def followCommit (version : Int) (node : Node S) : Node S :=
  if node.observed = version - 1 then { node with observed := version } else node

def lookup (key : String) (node : Node S) : Lookup × Node S :=
  let (found, cache) := node.cache.lookup node.ticks key
  (found, { node with cache })

def populate (key did : String) (ticket : Ticket) (node : Node S) : Node S :=
  { node with cache := (node.cache.populate node.ticks key did ticket).2 }

/-- Drops the entry of a key from the cache. -/
def invalidate (key : String) (node : Node S) : Except Failure Unit × Node S :=
  let (outcome, cache) := node.cache.invalidate key
  (outcome, { node with cache })

def dropDump (node : Node S) : Node S :=
  { node with shelf := node.shelf.invalidate }

def callStore {α : Type} (call : Call S α) (node : Node S) : Except Failure α × Node S :=
  let (outcome, store) := call node.store
  (outcome, { node with store })

end Node

/-- A call of a resolver, which may fail. -/
abbrev Operation (S α : Type) := ExceptT Failure (Program (Node S)) α

namespace Operation

variable {S α : Type}

def change (f : Node S → Node S) : Operation S Unit :=
  ExceptT.lift (Program.change f)

/-- A step of an operation that looks at the node and changes it. -/
def act (f : Node S → α × Node S) : Operation S α :=
  ExceptT.lift (Program.act f)

/-- A check, which takes no step. -/
def check (outcome : Except Failure α) : Operation S α :=
  ExceptT.mk (pure outcome)

def record (event : Event) : Operation S Unit :=
  change (Node.record event)

end Operation
end Resolver
end BpnDirectory
