import BpnDirectory.Key.Ring
import BpnDirectory.Service.Server
import BpnDirectory.Settings.Check

namespace BpnDirectory
namespace Service

/-!
The start of the service.

The service reads its settings, checks them, opens its store and reads its keys.
It does not start unless all of that succeeds; the first failure is reported.
-/

open Resolver (Node)
open Store (Backend)

/-- What the service finds around it when it starts. -/
structure Surroundings where
  environment : Environment
  /-- The text of the file at a path, if it can be read. -/
  file? : String → Option String
  /-- The way to verify signatures with public keys. -/
  scheme : Token.PublicKeyCheck
  now : Time.Instant

/-- A store that was just opened.  A database without migrations has no tables. -/
def openStore (settings : StorageSettings) : Backend :=
  match settings.kind with
  | .memory => .memory .empty
  | .tables => .tables (if settings.migrates then .migrated else .bare)

/-- The keys that settings name.  Without a file there are none. -/
def readKeys (settings : AccessSettings) (file? : String → Option String) :
    Except Failure KeyRing :=
  match settings.keysFile with
  | none => .ok .empty
  | some path =>
    match file? path with
    | some text => KeyRing.ofText text
    | none => .error (.io s!"{path} cannot be read")

def gate (settings : AccessSettings) (keys : KeyRing) (scheme : Token.PublicKeyCheck) :
    Access.Gate where
  verifier :=
    { keys, scheme
      trustedIssuers := settings.trustedIssuers
      audience := settings.audience
      membershipType := settings.membershipType }
  rules := ⟨settings.managementPrincipals, settings.managementType⟩
  managementApiKey := settings.managementApiKey

/-- The settings of an environment, which have to pass the check. -/
def readSettings (environment : Environment) : Except Failure Settings :=
  Except.mapError Settings.Defect.toFailure do
    let settings ← Settings.read environment
    settings.check
    return settings

/-- A server that has not done anything yet. -/
def newServer (settings : Settings) (now : Time.Instant) : Server where
  node := .start (openStore settings.storage) settings.cache now
  beats := .empty
  timetable := .empty

def start (surroundings : Surroundings) : Except Failure (Setup × Server) := do
  let settings ← readSettings surroundings.environment
  let keys ← readKeys settings.access surroundings.file?
  let gate := gate settings.access keys surroundings.scheme
  return (⟨settings, gate⟩, newServer settings surroundings.now)

end Service
end BpnDirectory
