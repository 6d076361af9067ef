import BpnDirectory.Store.Contract

namespace BpnDirectory
namespace Store

/-!
A store behind a link that may be down.

The link counts the calls that are made over it.  While it is down, calls fail
before they reach the store and leave it alone; after a given number of them it
is up again.
-/

/-- A store with the state of the link to it. -/
structure Link (S : Type) where
  store : S
  /-- Number of calls made so far. -/
  calls : Nat
  /-- Number of calls that will still fail. -/
  down : Nat
  /-- The failure of calls while the link is down. -/
  failure : Failure

namespace Link

variable {S α : Type}

def up (store : S) : Link S := ⟨store, 0, 0, .storeUnavailable ""⟩

/-- Whether the next call reaches the store. -/
def isUp (link : Link S) : Bool := link.down == 0

/-- The link after it broke for a number of calls. -/
def cut (link : Link S) (calls : Nat) (failure : Failure) : Link S :=
  { link with down := calls, failure }

def relay (call : Call S α) : Call (Link S) α := fun link =>
  let link := { link with calls := link.calls + 1 }
  match link.down with
  | 0 => let (outcome, store) := call link.store; (outcome, { link with store })
  | rest + 1 => (.error link.failure, { link with down := rest })

instance [MappingStore S] : MappingStore (Link S) where
  get bpn := relay (MappingStore.get bpn)
  getMany bpns := relay (MappingStore.getMany bpns)
  put now bpn did expected := relay (MappingStore.put now bpn did expected)
  putBatch now batch := relay (MappingStore.putBatch now batch)
  delete bpn expected := relay (MappingStore.delete bpn expected)
  listAll token size := relay (MappingStore.listAll token size)
  findByDid did := relay (MappingStore.findByDid did)
  snapshot := relay MappingStore.snapshot
  directoryVersion := relay MappingStore.directoryVersion
  ping := relay MappingStore.ping

end Link
end Store
end BpnDirectory
