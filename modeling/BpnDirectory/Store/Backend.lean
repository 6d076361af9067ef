import BpnDirectory.Store.Damage
import BpnDirectory.Store.Memory

namespace BpnDirectory
namespace Store

/-!
The store that was chosen at startup.
-/

inductive Kind where
  | memory
  | tables
  deriving DecidableEq, Repr

namespace Kind

def name : Kind → String
  | .memory => "memory"
  | .tables => "sqlite"

/-- The kind with a name, in which the case of letters does not matter. -/
def ofName? (name : String) : Option Kind :=
  match name.toLower with
  | "memory" => some .memory
  | "sqlite" => some .tables
  | _ => none

end Kind

inductive Backend where
  | memory (store : Memory)
  | tables (store : Tables)

namespace Backend

def kind : Backend → Kind
  | .memory _ => .memory
  | .tables _ => .tables

/-- A call on whichever store was chosen. -/
def call {α : Type} (onMemory : Call Memory α) (onTables : Call Tables α) : Call Backend α
  | .memory store => let (outcome, after) := onMemory store; (outcome, .memory after)
  | .tables store => let (outcome, after) := onTables store; (outcome, .tables after)

instance : MappingStore Backend where
  get bpn := call (MappingStore.get bpn) (MappingStore.get bpn)
  getMany bpns := call (MappingStore.getMany bpns) (MappingStore.getMany bpns)
  put now bpn did expected :=
    call (MappingStore.put now bpn did expected) (MappingStore.put now bpn did expected)
  putBatch now batch := call (MappingStore.putBatch now batch) (MappingStore.putBatch now batch)
  delete bpn expected := call (MappingStore.delete bpn expected) (MappingStore.delete bpn expected)
  listAll token size := call (MappingStore.listAll token size) (MappingStore.listAll token size)
  findByDid did := call (MappingStore.findByDid did) (MappingStore.findByDid did)
  snapshot := call MappingStore.snapshot MappingStore.snapshot
  directoryVersion := call MappingStore.directoryVersion MappingStore.directoryVersion
  ping := call MappingStore.ping MappingStore.ping

/-- The store after a damage.  Records in memory are out of reach for it. -/
def damage? (backend : Backend) (damage : Damage) : Option Backend :=
  match backend with
  | .memory _ => none
  | .tables store => (store.damage? damage).map .tables

end Backend
end Store
end BpnDirectory
