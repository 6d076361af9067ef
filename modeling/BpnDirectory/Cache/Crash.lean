import BpnDirectory.Cache.Basic

namespace BpnDirectory
namespace Cache

/-!
A crash inside the cache.

A task that crashes while it holds the lock of a shard leaves the shard poisoned.
-/

/-- The cache after a task crashed that held the lock of the shard of a key. -/
def poison (cache : Cache) (key : String) : Cache :=
  let index := cache.shardOf key
  cache.setShard index { cache.shard index with poisoned := true }

/-- The cache after a task crashed while it wanted to put in a value for a key
that was invalidated since the task had missed it.  Says whether the task got as
far as the lock: it does not on a hit, nor with a ticket that permits nothing. -/
def crashInPopulate (cache : Cache) (now : Nat) (key : String) : Bool × Cache :=
  match cache.lookup now key with
  | (.hit _, cache) => (false, cache)
  | (.miss ticket, cache) =>
    let (_, cache) := cache.invalidate key
    if ticket.generation.isSome then (true, cache.poison key) else (false, cache)

end Cache
end BpnDirectory
