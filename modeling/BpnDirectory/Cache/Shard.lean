namespace BpnDirectory
namespace Cache

/-!
Shards of the resolution cache.

A shard keeps a bounded number of entries in the order of their latest use.  It
counts its invalidations, so whoever looked something up can tell later whether
an invalidation came since.  A shard whose lock was held by a task that crashed
is poisoned: what it keeps can no longer be trusted.
-/

/-- The DID of a key, with the time at which it was put in. -/
structure Entry where
  key : String
  did : String
  insertedAt : Nat
  deriving DecidableEq, Repr

/-- A part of the cache with a lock of its own. -/
structure Shard where
  /-- Entries, the one used latest first. -/
  entries : List Entry
  /-- Number of invalidations so far. -/
  generation : Nat
  poisoned : Bool
  deriving DecidableEq, Repr

instance : Inhabited Shard := ⟨⟨[], 0, false⟩⟩

namespace Shard

def empty : Shard := ⟨[], 0, false⟩

def find? (shard : Shard) (key : String) : Option Entry :=
  shard.entries.find? fun entry => entry.key == key

def without (key : String) (entries : List Entry) : List Entry :=
  entries.filter fun entry => entry.key != key

def drop (shard : Shard) (key : String) : Shard :=
  { shard with entries := without key shard.entries }

def touch (shard : Shard) (entry : Entry) : Shard :=
  { shard with entries := entry :: without entry.key shard.entries }

/-- The shard with an entry put in, and whether another entry had to go.  Only an
entry for a new key in a full shard drives one out, the one whose latest use is
longest ago. -/
def push (capacity : Nat) (shard : Shard) (entry : Entry) : Bool × Shard :=
  if (shard.find? entry.key).isSome then (false, shard.touch entry)
  else if shard.entries.length < capacity then
    (false, { shard with entries := entry :: shard.entries })
  else (true, { shard with entries := entry :: shard.entries.dropLast })

/-- The shard after the entry of a key was invalidated. -/
def invalidate (shard : Shard) (key : String) : Shard :=
  { shard.drop key with generation := shard.generation + 1 }

/-- The shard after all of it was invalidated, which also makes it usable again
if it was poisoned. -/
def clear (shard : Shard) : Shard :=
  ⟨[], shard.generation + 1, false⟩

end Shard
end Cache
end BpnDirectory
