import BpnDirectory.Access.Credential
import BpnDirectory.Access.Verifier
import BpnDirectory.Telemetry
import BpnDirectory.Text.Utf8

namespace BpnDirectory
namespace Access

/-!
The gate in front of the service.

Who shows no credential, or one that does not hold, is not known; who is known
and asks for more than their scope is turned away.  An attempt counts as a
success once the caller is known, whatever their scope.
-/

/-- A side of the service with the scope that it asks for. -/
inductive Surface where
  | directory
  | management
  deriving DecidableEq, Repr

namespace Surface

def name : Surface → String
  | .directory => "directory"
  | .management => "management"

def required : Surface → Scope
  | .directory => .readOnly
  | .management => .readWrite

end Surface

structure Gate where
  verifier : Verifier
  rules : ScopeRules
  managementApiKey : Option String

/-- A caller who was let in, and with which scope. -/
structure Admission where
  identity : Identity
  scope : Scope
  deriving DecidableEq, Repr

/-- Whether two lists of octets are the same.  All octets are looked at, so the time that
this takes does not tell where the lists differ. -/
def sameOctets (xs ys : List UInt8) : Bool :=
  xs.length == ys.length &&
    (xs.zip ys).foldl (fun seen pair => seen ||| (pair.1 ^^^ pair.2)) 0 == 0

namespace Gate

/-- Whether a key is the one for management, if there is one. -/
def holdsKey (gate : Gate) (key : String) : Bool :=
  gate.managementApiKey.any fun expected =>
    sameOctets (Text.Utf8.octets key) (Text.Utf8.octets expected)

def identify (gate : Gate) (now : Time.Instant) : Option Credential → Except Failure Identity
  | none => unauthorized "Missing authorization header"
  | some (.bearer token) => gate.verifier.verify now token
  | some (.apiKey key) =>
    if gate.holdsKey key then .ok .ofApiKey else unauthorized "Invalid API key"

/-- Lets a known caller in if their scope suffices. -/
def letIn (gate : Gate) (required : Scope) (surface : String) (identity : Identity) :
    Except Failure Admission :=
  let scope := gate.rules.scopeOf identity
  if scope.satisfies required then .ok ⟨identity, scope⟩
  else .error (.forbidden s!"{identity.subject} may not use the {surface} API")

/-- Decides about a credential, and says what is to be counted. -/
def authorize (gate : Gate) (now : Time.Instant) (credential : Option Credential)
    (required : Scope) (surface : String) : Except Failure Admission × Telemetry.Event :=
  let identity := gate.identify now credential
  (identity.bind (gate.letIn required surface), .authAttempt surface identity.isOk)

end Gate
end Access
end BpnDirectory
