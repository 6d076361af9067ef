import BpnDirectory.Failure
import BpnDirectory.Text.Decimal

namespace BpnDirectory
namespace Store

/-!
Errors of the database behind a store.

An error is worth another try when the database was out of reach or busy; any
other error will come again.  The database reports its own errors with a code
whose low octet names the error and whose other octets refine it.
-/

/-- What can go wrong between the store and its database. -/
inductive DatabaseError where
  | poolTimedOut
  | poolClosed
  | workerCrashed
  /-- The connection broke. -/
  | disconnected (text : String)
  /-- The database answered with an error of its own. -/
  | reported (code : Option String) (text : String)
  /-- A row that has to be there is missing. -/
  | rowMissing
  | columnMissing (name : String)
  /-- A column holds a value of another type than its readers expect. -/
  | columnUnreadable (name : String)
  | protocolBroken (text : String)
  deriving DecidableEq, Repr

namespace DatabaseError

/-- The wording of an error. -/
def message : DatabaseError → String
  | .poolTimedOut => "pool timed out while waiting for an open connection"
  | .poolClosed => "attempted to acquire a connection on a closed pool"
  | .workerCrashed => "attempted to communicate with a crashed background worker"
  | .disconnected text => s!"error communicating with database: {text}"
  | .reported _ text => s!"error returned from database: {text}"
  | .rowMissing => "no rows returned by a query that expected to return at least one row"
  | .columnMissing name => s!"no column found for name: {name}"
  | .columnUnreadable name => s!"error occurred while decoding column {name}"
  | .protocolBroken text => s!"encountered unexpected or invalid data: {text}"

/-- The codes of a database that is busy and of a table that is locked. -/
def isBusyCode (code : Int) : Bool :=
  code % 256 == 5 || code % 256 == 6

/-- Whether the code that the database reported says that it was busy.  A code
is a 32-bit number; anything else says nothing. -/
def reportsBusy (code : Option String) : Bool :=
  match code.bind (Text.integer? (-0x80000000) 0x7fffffff) with
  | some n => isBusyCode n
  | none => false

/-- Whether the same call may succeed later. -/
def isTransient : DatabaseError → Bool
  | .poolTimedOut | .poolClosed | .workerCrashed | .disconnected _ => true
  | .reported code _ => reportsBusy code
  | _ => false

/-- The failure that the service makes of a database error. -/
def toFailure (error : DatabaseError) : Failure :=
  if error.isTransient then .storeUnavailable error.message else .database error.message

end DatabaseError
end Store
end BpnDirectory
