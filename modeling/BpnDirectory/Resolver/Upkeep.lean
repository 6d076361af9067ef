import BpnDirectory.Resolver.Attempt

namespace BpnDirectory
namespace Resolver

/-!
Operations that keep a node in line with its store.

A poll compares the directory version of the store with the one that the node
knows and drops everything when changes came from elsewhere.  Reconciliation
takes up the keys whose cached DID could not be dropped; if it still cannot, it
clears the whole cache, which always works.
-/

open Store (MappingStore)

variable {S : Type}

def clearShards : List Nat → Operation S Unit
  | [] => pure ()
  | index :: rest => do
    Operation.change fun node => { node with cache := node.cache.clearShard index }
    clearShards rest

/-- Clears the cache, shard by shard. -/
def clearCache : Operation S Unit := do
  let count ← Operation.act fun node => (node.cache.shards.size, node)
  clearShards (List.range count)
  Operation.change fun node => { node with cache := node.cache.countClearing }

/-- Drops the entries of keys and says how many could not be dropped. -/
def invalidateKeys : List String → Operation S Nat
  | [] => pure 0
  | key :: rest => do
    let outcome ← Operation.act (Node.invalidate key)
    let failed ← invalidateKeys rest
    pure (if outcome.isOk then failed else failed + 1)

/-- Takes the keys that wait for reconciliation. -/
def takePending (node : Node S) : List String × Node S :=
  (node.pending, { node with pending := [] })

/-- Drops the cached DIDs of the keys that wait for it.  Says how many keys
waited. -/
def reconcile : Operation S Nat := do
  let keys ← Operation.act takePending
  if keys.isEmpty then pure 0
  else
    let failed ← invalidateKeys keys
    if failed > 0 then clearCache
    Operation.change Node.dropDump
    pure keys.length

/-- Sets the directory version that the node knows.  Yields the one before. -/
def observe (version : Int) (node : Node S) : Int × Node S :=
  (node.observed, { node with observed := version })

/-- Drops everything if the store changed without this node's knowledge since the
last poll.  Says whether it did. -/
def poll [MappingStore S] (policy : Policy) : Operation S Bool := do
  let version ← request policy "directory_version" fun _ => MappingStore.directoryVersion
  Operation.change fun node =>
    { node with ledger := { node.ledger with directoryVersion := version } }
  let previous ← Operation.act (observe version)
  if previous = unobserved ∨ previous = version then pure false
  else
    clearCache
    Operation.change Node.dropDump
    pure true

/-- Lets go of everything that was derived from the store. -/
def shutdown : Operation S Unit := do
  clearCache
  Operation.change fun node => { node with cache := { node.cache with reportedSize := 0 } }
  Operation.change Node.dropDump

end Resolver
end BpnDirectory
