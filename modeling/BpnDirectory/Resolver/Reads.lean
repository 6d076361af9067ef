import BpnDirectory.Resolver.Attempt

namespace BpnDirectory
namespace Resolver

/-!
Operations that only read.

Resolution goes through the cache and asks the store for what the cache does not
have.  Everything that shows whole records asks the store at once.
-/

open Cache (Lookup Ticket)
open Store (MappingStore)

variable {S : Type} [MappingStore S]

def resolve (policy : Policy) (bpn : String) : Operation S String := do
  Operation.check (requireBpn bpn)
  match ← Operation.act (Node.lookup bpn) with
  | .hit did => pure did
  | .miss ticket =>
    let record ← request policy "get" fun _ => MappingStore.get bpn
    Operation.change (Node.populate bpn record.did ticket)
    pure record.did

inductive BatchOutcome where
  | found (did : String)
  | notFound
  | invalidInput (message : String)
  deriving DecidableEq, Repr

/-- The keys of a batch that the cache does not have, each with its ticket, and
the outcomes of the others. -/
structure Lookups where
  misses : List (String × Ticket)
  outcomes : OrderedMap BatchOutcome

def lookupKey (lookups : Lookups) (bpn : String) : Operation S Lookups :=
  match requireBpn bpn with
  | .error failure =>
    pure { lookups with
      outcomes := lookups.outcomes.insert bpn (.invalidInput failure.message) }
  | .ok () => do
    match ← Operation.act (Node.lookup bpn) with
    | .hit did => pure { lookups with outcomes := lookups.outcomes.insert bpn (.found did) }
    | .miss ticket => pure { lookups with misses := lookups.misses ++ [(bpn, ticket)] }

/-- Looks up the keys of a batch one after the other. -/
def lookupKeys (lookups : Lookups) : List String → Operation S Lookups
  | [] => pure lookups
  | bpn :: rest => do lookupKeys (← lookupKey lookups bpn) rest

/-- Takes over what the store said about the keys that the cache did not have. -/
def settleMisses (found : OrderedMap String) (outcomes : OrderedMap BatchOutcome) :
    List (String × Ticket) → Operation S (OrderedMap BatchOutcome)
  | [] => pure outcomes
  | (bpn, ticket) :: rest =>
    match found.find? bpn with
    | some did => do
      Operation.change (Node.populate bpn did ticket)
      settleMisses found (outcomes.insert bpn (.found did)) rest
    | none => settleMisses found (outcomes.insert bpn .notFound) rest

/-- Keys without repetitions, in the order of their first occurrence. -/
def distinct (keys : List String) : List String :=
  keys.foldl (fun kept key => if key ∈ kept then kept else kept ++ [key]) []

/-- The DIDs of several BPNs.  A key that is no BPN or has no record does not
keep the others from being resolved. -/
def resolveBatch (policy : Policy) (bpns : List String) :
    Operation S (OrderedMap BatchOutcome) := do
  if bpns.length > policy.batchLimit then
    throw (.invalidInput
      s!"Batch of {bpns.length} BPNs exceeds the maximum of {policy.batchLimit}")
  let lookups ← lookupKeys ⟨[], .empty⟩ (distinct bpns)
  if lookups.misses.isEmpty then pure lookups.outcomes
  else
    let keys := lookups.misses.map Prod.fst
    let records ← request policy "get_many" fun _ => MappingStore.getMany keys
    let found := OrderedMap.ofList (records.map fun record => (record.bpn, record.did))
    settleMisses found lookups.outcomes lookups.misses

def record (policy : Policy) (bpn : String) : Operation S Record := do
  Operation.check (requireBpn bpn)
  request policy "get" fun _ => MappingStore.get bpn

def findByDid (policy : Policy) (did : String) : Operation S (List Record) := do
  Operation.check (requireDid did)
  request policy "find_by_did" fun _ => MappingStore.findByDid did

/-- The size of a page for which a size was asked or none. -/
def pageSize (policy : Policy) : Option UInt64 → Except Failure UInt64
  | none => .ok policy.pageSize
  | some size =>
    if size = 0 then .error (.invalidInput "pageSize must be positive")
    else .ok (min size policy.pageLimit)

def list (policy : Policy) (token : Option String) (size : Option UInt64) :
    Operation S Page := do
  let size ← Operation.check (pageSize policy size)
  request policy "list_all" fun _ => MappingStore.listAll token size

/-- The node with a dump built, which the shelf does not hold yet. -/
def buildDump (entries : OrderedMap String) (node : Node S) : Dump × Node S :=
  (⟨Dump.write entries, node.builds⟩, { node with builds := node.builds + 1 })

/-- Puts a dump on the shelf, unless a change came since it was begun. -/
def installDump (generation : Nat) (dump : Dump) (node : Node S) : Node S :=
  { node with shelf := (node.shelf.install generation dump).2 }

/-- The dump of the directory, built anew if there is none on the shelf. -/
def dumpDirectory (policy : Policy) : Operation S Dump := do
  match ← Operation.act fun node => (node.shelf.kept, node) with
  | some dump => pure dump
  | none =>
    let generation ← Operation.act fun node => (node.shelf.generation, node)
    let entries ← request policy "snapshot" fun _ => MappingStore.snapshot
    let dump ← Operation.act (buildDump entries)
    Operation.change (installDump generation dump)
    pure dump

/-- Whether the store can be reached.  This is asked once and not counted. -/
def ping : Operation S Unit :=
  ExceptT.mk (Program.step .store (fun node => node.callStore MappingStore.ping) .done)

end Resolver
end BpnDirectory
