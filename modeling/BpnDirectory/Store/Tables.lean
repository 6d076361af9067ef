import BpnDirectory.Mapping.PageToken
import BpnDirectory.Store.Contract
import BpnDirectory.Store.DatabaseError
import BpnDirectory.Time.Reading

namespace BpnDirectory
namespace Store

/-!
The store that keeps its records in a relational database.

One table holds the mappings, with the instants of a record as texts, and one
table holds the number of changes in its only row.  The statements of a change
run in one transaction, which is dropped as a whole when one of them fails.  The
tables may be in any state, since others can reach the database too: a table or
the row may be missing, and a text may be no instant.
-/

open Text (minSigned64 maxSigned64)

/-- A row of the table of mappings, its key left out. -/
structure Row where
  did : String
  version : Int
  createdAt : String
  updatedAt : String
  deriving DecidableEq, Repr

/-- The state of a database. -/
structure Tables where
  /-- The table of mappings, if it exists. -/
  mappings : Option (OrderedMap Row)
  /-- The table with the number of changes, if it exists, and its row, if that
  exists. -/
  metadata : Option (Option Int)
  /-- Whether connections can be had. -/
  isOpen : Bool

namespace Tables

/-- A database as it stands after its tables were created. -/
def migrated : Tables := ⟨some .empty, some (some 0), true⟩

/-- A database in which no table was created. -/
def bare : Tables := ⟨none, none, true⟩

/-- What a statement yields.  It fails with an error of the database or, once its
rows are read, with a failure of the service. -/
abbrev Statement (α : Type) := Except Failure α

/-- The failure of a statement that the database refuses. -/
def refused (text : String) : Failure :=
  (DatabaseError.reported (some "1") text).toFailure

def connect (tables : Tables) : Statement Unit :=
  if tables.isOpen then .ok () else .error DatabaseError.poolClosed.toFailure

def mappingTable (tables : Tables) : Statement (OrderedMap Row) :=
  match tables.mappings with
  | some table => .ok table
  | none => .error (refused "no such table: bpn_mapping")

def metadataRow (tables : Tables) : Statement (Option Int) :=
  match tables.metadata with
  | some row => .ok row
  | none => .error (refused "no such table: directory_metadata")

/-- A number that the database has counted up.  Beyond 64 bits it is no whole
number any more and cannot be read as one. -/
def countUp (column : String) (n : Int) : Statement Int :=
  if n < maxSigned64 then .ok (n + 1)
  else .error (DatabaseError.columnUnreadable column).toFailure

/-- The instant that a text in a row stands for. -/
def readInstant (text : String) : Statement Time.Instant :=
  match Time.Instant.ofText text with
  | .ok instant => .ok instant
  | .error defect => .error (.internal s!"Invalid timestamp: {defect.message}")

def readRow (bpn : String) (row : Row) : Statement Record := do
  let createdAt ← readInstant row.createdAt
  let updatedAt ← readInstant row.updatedAt
  .ok ⟨bpn, row.did, row.version, createdAt, updatedAt⟩

def readRows (rows : List (String × Row)) : Statement (List Record) :=
  rows.mapM fun entry => readRow entry.1 entry.2

def mismatch (table : OrderedMap Row) (bpn : String) (expected : Int) : Failure :=
  match table.find? bpn with
  | some row => .versionConflict bpn expected row.version
  | none => .noMapping bpn

def insertRow (table : OrderedMap Row) (bpn did now : String) :
    Statement (Record × OrderedMap Row) :=
  if table.contains bpn then .error (.alreadyMapped bpn)
  else do
    let row : Row := ⟨did, 1, now, now⟩
    let record ← readRow bpn row
    .ok (record, table.insert bpn row)

def insertRows (now : String) : OrderedMap Row → List NewMapping →
    Statement (List Record × OrderedMap Row)
  | table, [] => .ok ([], table)
  | table, mapping :: rest => do
    let (record, table) ← insertRow table mapping.bpn mapping.did now
    let (records, table) ← insertRows now table rest
    .ok (record :: records, table)

/-- Replaces the DID of the row with the expected version and reads it back. -/
def updateRow (table : OrderedMap Row) (bpn did now : String) (expected : Int) :
    Statement (Record × OrderedMap Row) :=
  match table.find? bpn with
  | some row =>
    if row.version = expected then do
      let version ← countUp "version" row.version
      let row := { row with did, version, updatedAt := now }
      let record ← readRow bpn row
      .ok (record, table.insert bpn row)
    else .error (mismatch table bpn expected)
  | none => .error (mismatch table bpn expected)

/-- Counts a change and ends its transaction with the table of mappings as it is
to be. -/
def commit {α : Type} (tables : Tables) (table : OrderedMap Row) (value : α) :
    Statement (Committed α × Tables) := do
  match ← tables.metadataRow with
  | some version =>
    let version ← countUp "version" version
    .ok (⟨value, version⟩, { tables with mappings := some table, metadata := some (some version) })
  | none => .error DatabaseError.rowMissing.toFailure

/-- The number of changes; it is none while no row holds it. -/
def readVersion (tables : Tables) : Statement Int := do
  tables.connect
  .ok ((← tables.metadataRow).getD 0)

def get (bpn : String) : Call Tables Record :=
  reading fun tables => do
    tables.connect
    match (← tables.mappingTable).find? bpn with
    | some row => readRow bpn row
    | none => .error (.noMapping bpn)

/-- Greatest number of keys in one statement. -/
def chunkSize : Nat := 500

/-- The rows of the table whose keys are named. -/
def selectIn (bpns : List String) (tables : Tables) : Statement (List Record) := do
  tables.connect
  readRows ((← tables.mappingTable).entries.filter fun entry => bpns.contains entry.1)

/-- Parts of at most `chunkSize` keys, `fuel` bounding their number. -/
def chunksOf : (fuel : Nat) → List String → List (List String)
  | 0, _ => []
  | _ + 1, [] => []
  | fuel + 1, keys => keys.take chunkSize :: chunksOf fuel (keys.drop chunkSize)

/-- The records of several BPNs, one statement for each part of the list. -/
def getMany (bpns : List String) : Call Tables (List Record) :=
  reading fun tables => do
    let parts ← (chunksOf bpns.length bpns).mapM fun keys => selectIn keys tables
    .ok parts.flatten

/-- Creates a row or replaces its DID. -/
def put (now : Time.Instant) (bpn did : String) (expected : Option Int) :
    Call Tables (Committed Record) :=
  transaction fun tables => do
    requireMapping bpn did
    tables.connect
    let table ← tables.mappingTable
    let (record, table) ←
      match expected with
      | none => insertRow table bpn did now.toMicrosText
      | some version => updateRow table bpn did now.toMicrosText version
    tables.commit table record

/-- Creates the rows of a batch.  An empty batch changes nothing and only reads
the number of changes. -/
def putBatch (now : Time.Instant) (batch : List NewMapping) :
    Call Tables (Committed (List Record)) :=
  transaction fun tables => do
    requireBatch batch
    if batch.isEmpty then .ok (⟨[], ← tables.readVersion⟩, tables)
    else
      tables.connect
      let (records, table) ← insertRows now.toMicrosText (← tables.mappingTable) batch
      tables.commit table records

def delete (bpn : String) (expected : Int) : Call Tables (Committed Unit) :=
  transaction fun tables => do
    tables.connect
    let table ← tables.mappingTable
    match table.find? bpn with
    | some row =>
      if row.version = expected then tables.commit (table.erase bpn) ()
      else .error (mismatch table bpn expected)
    | none => .error (mismatch table bpn expected)

/-- The first rows up to a limit.  A negative limit is none. -/
def limitRows {α : Type} (limit : Int64) (rows : List α) : List α :=
  if limit < 0 then rows else rows.take limit.toInt.toNat

/-- A page of records.  The statement asks for one row more than the page holds;
its limit is a number with sign. -/
def listAll (token : Option String) (size : UInt64) : Call Tables Page :=
  reading fun tables => do
    let key ←
      match token with
      | some token => PageToken.decode token
      | none => .ok ""
    tables.connect
    let rows := limitRows (size.toInt64 + 1) ((← tables.mappingTable).entriesAfter key)
    let records ← readRows rows
    if records.length > size.toNat then
      let page := records.take size.toNat
      .ok ⟨page, page.getLast?.map fun record => PageToken.encode record.bpn⟩
    else .ok ⟨records, none⟩

def findByDid (did : String) : Call Tables (List Record) :=
  reading fun tables => do
    tables.connect
    readRows ((← tables.mappingTable).entries.filter fun entry => entry.2.did = did)

/-- The DIDs of all BPNs; the instants of the rows are not looked at. -/
def snapshot : Call Tables (OrderedMap String) :=
  reading fun tables => do
    tables.connect
    .ok ((← tables.mappingTable).mapValues Row.did)

instance : MappingStore Tables where
  get := get
  getMany := getMany
  put := put
  putBatch := putBatch
  delete := delete
  listAll := listAll
  findByDid := findByDid
  snapshot := snapshot
  directoryVersion := reading readVersion
  ping := reading connect

end Tables
end Store
end BpnDirectory
