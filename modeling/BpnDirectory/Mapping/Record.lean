import BpnDirectory.Json.Writer
import BpnDirectory.Time.Instant

namespace BpnDirectory

/-!
Mapping records.

A record says which DID belongs to a BPN.  Its version starts at one and grows
by one with every change, so a caller who names a version names one state of the
record.
-/

open Time (Instant)

/-- The DID of a BPN, with its history in brief. -/
structure Record where
  bpn : String
  did : String
  version : Int
  createdAt : Instant
  updatedAt : Instant
  deriving DecidableEq, Repr

structure NewMapping where
  bpn : String
  did : String
  deriving DecidableEq, Repr

/-- A part of the listing of all records, with the token of the next part if
there is one. -/
structure Page where
  records : List Record
  next : Option String
  deriving DecidableEq, Repr

/-- The outcome of a change that was made, with the directory version that it
led to. -/
structure Committed (α : Type) where
  value : α
  directoryVersion : Int
  deriving DecidableEq, Repr

def NewMapping.create (mapping : NewMapping) (now : Instant) : Record :=
  ⟨mapping.bpn, mapping.did, 1, now, now⟩

def Record.replace (record : Record) (did : String) (now : Instant) : Record :=
  { record with did, version := record.version + 1, updatedAt := now }

def Record.toData (record : Record) : Json.Data :=
  .fields [("bpn", .string record.bpn), ("did", .string record.did),
    ("version", .int record.version), ("createdAt", .string record.createdAt.toText),
    ("updatedAt", .string record.updatedAt.toText)]

/-- A page as data.  The last page has no token. -/
def Page.toData (page : Page) : Json.Data :=
  .fields (("records", .list (page.records.map Record.toData)) ::
    (page.next.toList.map fun token => ("nextPageToken", Json.Data.string token)))

end BpnDirectory
