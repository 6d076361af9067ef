import BpnDirectory.Access.Credential
import BpnDirectory.Http.Message
import BpnDirectory.Http.Query
import BpnDirectory.Service.Server
import BpnDirectory.Text.Hexadecimal

namespace BpnDirectory
namespace Service

/-!
Handlers of requests.

A handler takes steps on the server and ends with a response.  It may end early:
whoever finds that the request cannot be served says with which response.
-/

open Http (Query Request Response)
open Store (Backend)

abbrev Handler (α : Type) := ExceptT Response (Program Server) α

namespace Handler

variable {α : Type}

def require (outcome : Except Failure α) : Handler α :=
  ExceptT.mk (pure (outcome.mapError Response.ofFailure))

def perform (operation : Resolver.Operation Backend α) : Handler α :=
  ExceptT.mk do
    let outcome ← Server.onNode operation.run
    pure (outcome.mapError Response.ofFailure)

/-- The response of a handler, however it ended. -/
def response (handler : Handler Response) : Program Server Response := do
  match ← handler.run with
  | .ok response => pure response
  | .error response => pure response

/-- Lets a request go on only if its caller may use a surface. -/
def checkCaller (setup : Setup) (surface : Access.Surface) (request : Request) :
    Handler Unit :=
  ExceptT.mk <| Program.act fun server =>
    let credential := Access.Credential.ofHeaders? request.headers
    let (outcome, event) :=
      setup.gate.authorize server.node.now credential surface.required surface.name
    ((outcome.map fun _ => ()).mapError Response.ofFailure,
      server.withNode (server.node.record event))

def pathText (name : String) (captures : List String) : Handler String :=
  let octets := Text.Percent.decode (Text.Utf8.octets (captures.headD ""))
  match Text.Utf8.read? octets with
  | some text => pure text
  | none => require (.error (.invalidInput s!"Invalid URL: Invalid UTF-8 in `{name}`"))

/-- The response to a query that gives a field twice. -/
def repeatedField (name : String) : Response :=
  Response.text 400 "text/plain; charset=utf-8"
    s!"Failed to deserialize query string: duplicate field `{name}`"

/-- The values of fields of the query of a request.  None of them may be given
twice. -/
def queryFields (request : Request) (names : List String) : Handler (List (Option String)) :=
  let query := Query.ofText request.target.query
  ExceptT.mk (pure ((query.values names).mapError repeatedField))

/-- The value of a field of the query, which has to be a number. -/
def numberField (name : String) (read? : String → Option α) (value : Option String) :
    Handler (Option α) :=
  match value with
  | none => pure none
  | some text =>
    match read? (Text.trim text) with
    | some number => pure (some number)
    | none => require (.error (.invalidInput s!"{name} must be a number, got {text}"))

end Handler
end Service
end BpnDirectory
