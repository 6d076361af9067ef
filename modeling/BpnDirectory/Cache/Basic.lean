import BpnDirectory.Cache.Shard
import BpnDirectory.Digest.Hash
import BpnDirectory.Failure
import BpnDirectory.Numeric.Binary64
import BpnDirectory.Telemetry
import BpnDirectory.Text.Utf8

namespace BpnDirectory

/-!
The resolution cache.

Keys are spread over shards by their hash.  A lookup that finds nothing hands out
a ticket with the generation of its shard, and a value fetched from the store is
taken in only with a ticket of the present generation.  A reader that fetched
before a change can therefore not put the old value back after the invalidation
that followed the change.
-/

open Cache (Shard Entry)
open Telemetry (Sample)

namespace Cache

/-- What a cache is set up with. -/
structure Settings where
  enabled : Bool
  /-- Number of entries in all shards together. -/
  capacity : Nat
  shards : Nat
  /-- Nanoseconds for which an entry is served; without it, entries do not
  age. -/
  ttl : Option Nat
  deriving DecidableEq, Repr

/-- The settings of a cache that never keeps anything. -/
def Settings.disabled : Settings := ⟨false, 1, 1, none⟩

/-- Number of shards, at least one. -/
def Settings.shardCount (settings : Settings) : Nat := max settings.shards 1

/-- Number of entries that one shard may keep: an equal part of the capacity,
rounded up, and at least one. -/
def Settings.shardCapacity (settings : Settings) : Nat :=
  max ((settings.capacity + settings.shardCount - 1) / settings.shardCount) 1

/-- Permission to put in the value of a key after a miss.  A ticket without
generation permits nothing. -/
structure Ticket where
  shard : Nat
  generation : Option Nat
  deriving DecidableEq, Repr

inductive Lookup where
  | hit (did : String)
  | miss (ticket : Ticket)
  deriving DecidableEq, Repr

end Cache

/-- A cache of the DIDs of BPNs. -/
structure Cache where
  settings : Cache.Settings
  shards : Array Shard
  hits : Nat
  misses : Nat
  evictions : Nat
  /-- Invalidations of one key. -/
  keyInvalidations : Nat
  /-- Invalidations of everything. -/
  clearings : Nat
  /-- Number of entries when it was last reported. -/
  reportedSize : Nat

namespace Cache

def new (settings : Settings) : Cache :=
  ⟨settings, .replicate settings.shardCount .empty, 0, 0, 0, 0, 0, 0⟩

/-- The number that decides the shard of a key. -/
def hashKey (key : String) : Nat :=
  (Digest.SipHash.hash (Text.Utf8.octets key ++ [0xff])).toNat

def shardOf (cache : Cache) (key : String) : Nat :=
  hashKey key % cache.settings.shardCount

def shard (cache : Cache) (index : Nat) : Shard :=
  cache.shards.getD index .empty

def setShard (cache : Cache) (index : Nat) (shard : Shard) : Cache :=
  { cache with shards := cache.shards.setIfInBounds index shard }

/-- Whether an entry is too old to be served. -/
def isExpired (cache : Cache) (now : Nat) (entry : Entry) : Bool :=
  match cache.settings.ttl with
  | some ttl => ttl ≤ now - entry.insertedAt
  | none => false

/-- The outcome of a lookup that finds nothing. -/
def countMiss (cache : Cache) (ticket : Ticket) : Lookup × Cache :=
  (.miss ticket, { cache with misses := cache.misses + 1 })

/-- Looks up the DID of a key.  An entry that is too old is dropped. -/
def lookup (cache : Cache) (now : Nat) (key : String) : Lookup × Cache :=
  let index := cache.shardOf key
  if !cache.settings.enabled then (.miss ⟨index, none⟩, cache)
  else
    let shard := cache.shard index
    if shard.poisoned then cache.countMiss ⟨index, none⟩
    else
      match shard.find? key with
      | some entry =>
        if cache.isExpired now entry then
          (cache.setShard index (shard.drop key)).countMiss ⟨index, some shard.generation⟩
        else
          (.hit entry.did, { cache.setShard index (shard.touch entry) with hits := cache.hits + 1 })
      | none => cache.countMiss ⟨index, some shard.generation⟩

/-- Whether a ticket permits to put in a value of a key. -/
def permits (cache : Cache) (ticket : Ticket) (key : String) : Bool :=
  ticket.shard == cache.shardOf key &&
    !(cache.shard ticket.shard).poisoned &&
    ticket.generation == some (cache.shard ticket.shard).generation

/-- Puts in a value that was fetched after a miss.  Says whether it was taken. -/
def populate (cache : Cache) (now : Nat) (key did : String) (ticket : Ticket) : Bool × Cache :=
  if cache.permits ticket key then
    let (evicts, shard) :=
      Shard.push cache.settings.shardCapacity (cache.shard ticket.shard) ⟨key, did, now⟩
    (true, { cache.setShard ticket.shard shard with
      evictions := cache.evictions + if evicts then 1 else 0 })
  else (false, cache)

def poisonedShard (index : Nat) : Failure :=
  .cacheInconsistency s!"cache shard {index} is poisoned"

/-- Drops the entry of a key and makes the tickets of its shard void. -/
def invalidate (cache : Cache) (key : String) : Except Failure Unit × Cache :=
  let index := cache.shardOf key
  let shard := cache.shard index
  if shard.poisoned then (.error (poisonedShard index), cache)
  else
    (.ok (), { cache.setShard index (shard.invalidate key) with
      keyInvalidations := cache.keyInvalidations + 1 })

def clearShard (cache : Cache) (index : Nat) : Cache :=
  cache.setShard index (cache.shard index).clear

/-- Counts an invalidation of everything. -/
def countClearing (cache : Cache) : Cache :=
  { cache with clearings := cache.clearings + 1 }

/-- Drops every entry, makes every ticket void and every shard usable. -/
def invalidateAll (cache : Cache) : Cache :=
  ((List.range cache.shards.size).foldl clearShard cache).countClearing

/-- Lets go of everything, for the end of the service. -/
def close (cache : Cache) : Cache :=
  { cache.invalidateAll with reportedSize := 0 }

/-- Number of entries that can be trusted. -/
def size (cache : Cache) : Nat :=
  cache.shards.toList.foldr
    (fun shard others => (if shard.poisoned then 0 else shard.entries.length) + others) 0

/-- Number of invalidations of either kind. -/
def invalidations (cache : Cache) : Nat :=
  cache.keyInvalidations + cache.clearings

/-- Number of digits behind the point that a hit rate shows. -/
def ratePlaces : Nat := 6

/-- The share of lookups that were hits, in double precision. -/
def hitRate (cache : Cache) : Numeric.Binary64 :=
  let lookups := cache.hits + cache.misses
  if lookups = 0 then ⟨0⟩ else (Numeric.Binary64.ofQuotient? cache.hits lookups).getD ⟨0⟩

/-- The share of lookups that were hits, as it is shown: in millionths. -/
def shownHitRate (cache : Cache) : Nat :=
  cache.hitRate.toFixed ratePlaces

def report (cache : Cache) : Cache :=
  { cache with reportedSize := cache.size }

def samples (cache : Cache) : List (Sample × Int) :=
  [(⟨"cache_hits_total", []⟩, cache.hits),
    (⟨"cache_misses_total", []⟩, cache.misses),
    (⟨"cache_evictions_total", []⟩, cache.evictions),
    (⟨"cache_invalidations_total", [("scope", "key")]⟩, cache.keyInvalidations),
    (⟨"cache_invalidations_total", [("scope", "all")]⟩, cache.clearings),
    (⟨"cache_size", []⟩, cache.reportedSize)]

end Cache
end BpnDirectory
