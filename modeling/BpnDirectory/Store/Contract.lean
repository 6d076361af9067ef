import BpnDirectory.Collection.OrderedMap
import BpnDirectory.Failure
import BpnDirectory.Mapping.Record

namespace BpnDirectory
namespace Store

/-!
What a mapping store has to offer.

A store is a value, and a call takes it to the outcome and the store afterwards.
Each call is one transaction: other calls see the store before it or after it.
Calls that change records take the instant at which they are made, so a run with
given clock readings has one outcome.
-/

abbrev Call (S α : Type) := S → Except Failure α × S

/-- The contract of mapping stores. -/
class MappingStore (S : Type) where
  /-- The record of a BPN. -/
  get : String → Call S Record
  /-- The records of several BPNs; a BPN without record is left out. -/
  getMany : List String → Call S (List Record)
  /-- Creates a record, or replaces the DID of one that has the expected
  version. -/
  put : Time.Instant → (bpn did : String) → (expected : Option Int) →
    Call S (Committed Record)
  /-- Creates all records of a batch or none. -/
  putBatch : Time.Instant → List NewMapping → Call S (Committed (List Record))
  /-- Deletes a record that has the expected version. -/
  delete : (bpn : String) → (expected : Int) → Call S (Committed Unit)
  /-- A page of all records in the order of their BPNs. -/
  listAll : (token : Option String) → (size : UInt64) → Call S Page
  /-- The records with a DID. -/
  findByDid : String → Call S (List Record)
  /-- The DIDs of all BPNs. -/
  snapshot : Call S (OrderedMap String)
  /-- The number of changes made so far. -/
  directoryVersion : Call S Int
  /-- Whether the store can be reached. -/
  ping : Call S Unit

def reading {S α : Type} (look : S → Except Failure α) : Call S α :=
  fun store => (look store, store)

/-- A call that changes the store if it succeeds and leaves it alone if it
fails. -/
def transaction {S α : Type} (run : S → Except Failure (α × S)) : Call S α :=
  fun store =>
    match run store with
    | .ok (value, after) => (.ok value, after)
    | .error failure => (.error failure, store)

/-- The checks of a mapping before it is written. -/
def requireMapping (bpn did : String) : Except Failure Unit := do
  requireBpn bpn
  requireDid did

/-- The first BPN of a batch that was seen already, in the batch or before it. -/
def repeatedBpn (seen : List String) : List NewMapping → Option String
  | [] => none
  | mapping :: rest =>
    if mapping.bpn ∈ seen then some mapping.bpn
    else repeatedBpn (mapping.bpn :: seen) rest

/-- The checks of a batch before it is written: every mapping by itself, and then
that no BPN stands in it twice. -/
def requireBatch (batch : List NewMapping) : Except Failure Unit := do
  batch.forM fun mapping => requireMapping mapping.bpn mapping.did
  match repeatedBpn [] batch with
  | some bpn => .error (.invalidInput s!"Duplicate BPN in batch: {bpn}")
  | none => .ok ()

end Store
end BpnDirectory
