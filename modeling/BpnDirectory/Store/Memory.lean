import BpnDirectory.Mapping.PageToken
import BpnDirectory.Store.Contract

namespace BpnDirectory
namespace Store

/-!
The store that keeps its records in memory.

Records stand in the order of their BPNs, beside the number of changes made so
far.  A batch is checked as a whole before its first record is kept.

Neither this number nor a version is bounded here.  Where they would exceed 64 bits, what is
counted does not stand for anything.
-/

/-- Records by BPN and the number of changes. -/
structure Memory where
  records : OrderedMap Record
  version : Int

namespace Memory

def empty : Memory := ⟨.empty, 0⟩

def mismatch (store : Memory) (bpn : String) (expected : Int) : Failure :=
  match store.records.find? bpn with
  | some current => .versionConflict bpn expected current.version
  | none => .noMapping bpn

/-- The store after one more change, with its outcome. -/
def commit {α : Type} (store : Memory) (records : OrderedMap Record) (value : α) :
    Committed α × Memory :=
  (⟨value, store.version + 1⟩, ⟨records, store.version + 1⟩)

def get (bpn : String) : Call Memory Record :=
  reading fun store =>
    match store.records.find? bpn with
    | some record => .ok record
    | none => .error (.noMapping bpn)

/-- The records of several BPNs, as often and in the order in which they are
named. -/
def getMany (bpns : List String) : Call Memory (List Record) :=
  reading fun store => .ok (bpns.filterMap store.records.find?)

/-- Creates a record or replaces its DID. -/
def put (now : Time.Instant) (bpn did : String) (expected : Option Int) :
    Call Memory (Committed Record) :=
  transaction fun store => do
    requireMapping bpn did
    match expected, store.records.find? bpn with
    | none, some _ => .error (.alreadyMapped bpn)
    | none, none =>
      let record := NewMapping.create ⟨bpn, did⟩ now
      .ok (store.commit (store.records.insert bpn record) record)
    | some version, some current =>
      if current.version = version then
        let record := current.replace did now
        .ok (store.commit (store.records.insert bpn record) record)
      else .error (store.mismatch bpn version)
    | some version, none => .error (store.mismatch bpn version)

/-- Creates the records of a batch. -/
def putBatch (now : Time.Instant) (batch : List NewMapping) :
    Call Memory (Committed (List Record)) :=
  transaction fun store => do
    requireBatch batch
    match batch.find? fun mapping => store.records.contains mapping.bpn with
    | some mapping => .error (.alreadyMapped mapping.bpn)
    | none =>
      let created := batch.map fun mapping => mapping.create now
      if created.isEmpty then .ok (⟨created, store.version⟩, store)
      else
        let records := created.foldl (fun map record => map.insert record.bpn record) store.records
        .ok (store.commit records created)

def delete (bpn : String) (expected : Int) : Call Memory (Committed Unit) :=
  transaction fun store =>
    match store.records.find? bpn with
    | some current =>
      if current.version = expected then .ok (store.commit (store.records.erase bpn) ())
      else .error (store.mismatch bpn expected)
    | none => .error (store.mismatch bpn expected)

/-- The entries from which a page is cut: those whose keys come after the one
that a token names. -/
def startOfPage (store : Memory) : Option String → Except Failure (List Record)
  | none => .ok store.records.values
  | some token => do
    let key ← PageToken.decode token
    .ok ((store.records.entriesAfter key).map Prod.snd)

/-- A page of records.  One record more than the page holds shows that another
page follows. -/
def listAll (token : Option String) (size : UInt64) : Call Memory Page :=
  reading fun store => do
    let records := (← store.startOfPage token).take (size + 1).toNat
    if records.length > size.toNat then
      let page := records.take size.toNat
      .ok ⟨page, page.getLast?.map fun record => PageToken.encode record.bpn⟩
    else .ok ⟨records, none⟩

def findByDid (did : String) : Call Memory (List Record) :=
  reading fun store => .ok (store.records.values.filter fun record => record.did = did)

def snapshot : Call Memory (OrderedMap String) :=
  reading fun store => .ok (store.records.mapValues Record.did)

instance : MappingStore Memory where
  get := get
  getMany := getMany
  put := put
  putBatch := putBatch
  delete := delete
  listAll := listAll
  findByDid := findByDid
  snapshot := snapshot
  directoryVersion := reading fun store => .ok store.version
  ping := reading fun _ => .ok ()

end Memory
end Store
end BpnDirectory
