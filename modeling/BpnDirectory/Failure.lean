import BpnDirectory.Identifier.Bpn
import BpnDirectory.Identifier.Did

namespace BpnDirectory

/-!
Failures of the directory service.

Every operation that can fail ends in one of these failures.  The constructor
says which kind of failure it is; the kind alone decides the code and the status
that a caller sees and whether the operation may be tried again.  The detail is
the wording of a cause, which the module that found the cause supplies.
-/

/-- The kinds of failure, each with the wording of its cause. -/
inductive Failure where
  /-- Input refused before it had any effect. -/
  | invalidInput (detail : String)
  /-- No record for the key. -/
  | notFound (detail : String)
  /-- A record for the key is there already. -/
  | alreadyExists (detail : String)
  /-- The record has another version than the caller expects. -/
  | versionConflict (bpn : String) (expected current : Int)
  /-- The caller did not show who they are. -/
  | unauthorized (detail : String)
  /-- The caller is known and may not do this. -/
  | forbidden (detail : String)
  /-- The store cannot be reached at the moment. -/
  | storeUnavailable (detail : String)
  /-- The cache could not be brought in line with the store. -/
  | cacheInconsistency (detail : String)
  /-- The database refused a statement for good. -/
  | database (detail : String)
  /-- Something that should not happen. -/
  | internal (detail : String)
  /-- A file could not be read. -/
  | io (detail : String)
  deriving DecidableEq, Repr

namespace Failure

/-- The text of a failure. -/
def message : Failure → String
  | .invalidInput detail => s!"Invalid input: {detail}"
  | .notFound detail => s!"Not found: {detail}"
  | .alreadyExists detail => s!"Already exists: {detail}"
  | .versionConflict bpn expected current =>
    s!"Version conflict for {bpn}: expected version {expected}, current version {current}"
  | .unauthorized detail => s!"Authentication failed: {detail}"
  | .forbidden detail => s!"Not authorized: {detail}"
  | .storeUnavailable detail => s!"Store unavailable: {detail}"
  | .cacheInconsistency detail => s!"Cache inconsistency: {detail}"
  | .database detail => s!"Database error: {detail}"
  | .internal detail => s!"Internal error: {detail}"
  | .io detail => s!"IO error: {detail}"

/-- The code that callers and metrics see. -/
def code : Failure → String
  | .invalidInput _ => "INVALID_INPUT"
  | .notFound _ => "NOT_FOUND"
  | .alreadyExists _ => "ALREADY_EXISTS"
  | .versionConflict .. => "VERSION_CONFLICT"
  | .unauthorized _ => "UNAUTHORIZED"
  | .forbidden _ => "FORBIDDEN"
  | .storeUnavailable _ => "STORE_UNAVAILABLE"
  | .cacheInconsistency _ | .database _ | .internal _ | .io _ => "INTERNAL_ERROR"

/-- The HTTP status of a response that reports the failure. -/
def status : Failure → Nat
  | .invalidInput _ => 400
  | .notFound _ => 404
  | .alreadyExists _ | .versionConflict .. => 409
  | .unauthorized _ => 401
  | .forbidden _ => 403
  | .storeUnavailable _ => 503
  | .cacheInconsistency _ | .database _ | .internal _ | .io _ => 500

/-- Only an unreachable store may answer when it is asked again. -/
def isTransient : Failure → Bool
  | .storeUnavailable _ => true
  | _ => false

/-- The text that a response shows.  A failure of the server itself keeps its
cause to itself; an unreachable store does not. -/
def publicMessage (failure : Failure) : String :=
  if failure.status == 500 then "Internal server error" else failure.message

def noMapping (bpn : String) : Failure :=
  .notFound s!"No mapping registered for {bpn}"

def alreadyMapped (bpn : String) : Failure :=
  .alreadyExists s!"A mapping for {bpn} already exists"

end Failure

/-- The check of a BPN as a step of an operation. -/
def requireBpn (text : String) : Except Failure Unit :=
  (Bpn.check text).mapError fun defect => .invalidInput defect.message

/-- The check of a DID as a step of an operation. -/
def requireDid (text : String) : Except Failure Unit :=
  (Did.check text).mapError fun defect => .invalidInput defect.message

end BpnDirectory
