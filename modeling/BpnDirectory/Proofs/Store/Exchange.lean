import BpnDirectory.Proofs.Time.MicrosText
import BpnDirectory.Store.Contract

namespace BpnDirectory
namespace Store

/-!
Conversations with a store.

A call with what it is given is a request, and what comes of it is a reply.  A
conversation is a list of requests that are made one after the other; its
transcript pairs each request with its reply.  Calls that take the clock carry
its reading, so two stores can be asked the same at the same times.
-/

/-- A call on a store with everything that it is given. -/
inductive Request where
  | get (bpn : String)
  | getMany (bpns : List String)
  | put (now : Time.Instant) (bpn did : String) (expected : Option Int)
  | putBatch (now : Time.Instant) (batch : List NewMapping)
  | delete (bpn : String) (expected : Int)
  | listAll (token : Option String) (size : UInt64)
  | findByDid (did : String)
  | snapshot
  | directoryVersion
  | ping
  deriving DecidableEq, Repr

/-- What comes of a call. -/
inductive Reply where
  | failed (failure : Failure)
  | record (record : Record)
  | records (records : List Record)
  | put (committed : Committed Record)
  | putBatch (committed : Committed (List Record))
  | deleted (committed : Committed Unit)
  | page (page : Page)
  | dids (dids : OrderedMap String)
  | version (version : Int)
  | reached

namespace Reply

variable {α : Type}

def ofOutcome (make : α → Reply) : Except Failure α → Reply
  | .ok value => make value
  | .error failure => .failed failure

end Reply

namespace Request

variable {S : Type}

def answered {α : Type} (make : α → Reply) (call : Call S α) : S → Reply × S :=
  fun store => (.ofOutcome make (call store).1, (call store).2)

variable [MappingStore S]

/-- Makes the call that a request stands for. -/
def perform : Request → S → Reply × S
  | .get bpn => answered .record (MappingStore.get bpn)
  | .getMany bpns => answered .records (MappingStore.getMany bpns)
  | .put now bpn did expected => answered .put (MappingStore.put now bpn did expected)
  | .putBatch now batch => answered .putBatch (MappingStore.putBatch now batch)
  | .delete bpn expected => answered .deleted (MappingStore.delete bpn expected)
  | .listAll token size => answered .page (MappingStore.listAll token size)
  | .findByDid did => answered .records (MappingStore.findByDid did)
  | .snapshot => answered .dids MappingStore.snapshot
  | .directoryVersion => answered .version MappingStore.directoryVersion
  | .ping => answered (fun _ => .reached) MappingStore.ping

def isChange : Request → Bool
  | .put .. | .putBatch .. | .delete .. => true
  | _ => false

/-- Whether the clock reading of a request, if it has one, is one that a store
takes from its clock. -/
def IsTimely : Request → Prop
  | .put now _ _ _ | .putBatch now _ => now.IsStamp
  | _ => True

instance (request : Request) : Decidable request.IsTimely := by
  cases request <;> unfold IsTimely <;> infer_instance

/-- A noon, to the microsecond. -/
def noon : Time.Instant := ⟨⟨2024, 2, 29⟩, 43200, 250000⟩

def later : Time.Instant := ⟨⟨2024, 2, 29⟩, 43260, 0⟩

/-- Requests that take two records through all that can happen to a record. -/
def lifecycle : List Request :=
  [.put noon "BPNL00000000000A" "did:web:first" none,
    .get "BPNL00000000000A",
    .putBatch noon [⟨"BPNS00000000000B", "did:web:first"⟩, ⟨"BPNL00000000000A", "did:web:x"⟩],
    .putBatch later [⟨"BPNS00000000000B", "did:web:first"⟩],
    .put later "BPNL00000000000A" "did:web:second" (some 1),
    .put later "BPNL00000000000A" "did:web:third" (some 1),
    .getMany ["BPNS00000000000B", "BPNA00000000000C", "BPNL00000000000A"],
    .listAll none 1,
    .findByDid "did:web:first",
    .delete "BPNL00000000000A" 2,
    .snapshot,
    .directoryVersion]

end Request

structure Exchange where
  request : Request
  reply : Reply

section

variable {S : Type} [MappingStore S]

/-- Makes the calls of a list one after the other.  Yields the transcript and the
store afterwards. -/
def converse : List Request → S → List Exchange × S
  | [], store => ([], store)
  | request :: rest, store =>
    let (reply, after) := request.perform store
    let (exchanges, last) := converse rest after
    (⟨request, reply⟩ :: exchanges, last)

@[simp] theorem converse_nil (store : S) : converse [] store = ([], store) := rfl

theorem converse_cons (request : Request) (rest : List Request) (store : S) :
    converse (request :: rest) store =
      (⟨request, (request.perform store).1⟩ :: (converse rest (request.perform store).2).1,
        (converse rest (request.perform store).2).2) := rfl

end

end Store
end BpnDirectory
