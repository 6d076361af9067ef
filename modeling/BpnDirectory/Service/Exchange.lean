import BpnDirectory.Http.Coding
import BpnDirectory.Service.Health
import BpnDirectory.Service.Management
import BpnDirectory.Service.Resolution
import BpnDirectory.Service.Route

namespace BpnDirectory
namespace Service

/-!
From a request to its response.

Requests to a route and a method that it takes are counted; all others are
answered without looking at anything but the path.  Every response may be read by
scripts of any origin, carries the number of its request, and is compressed if the
client prefers that and it is worth the effort.
-/

open Access (Surface)
open Http (Body Coding Method Request Response)

/-- Handles a request to an endpoint. -/
def handle (setup : Setup) (surface : Surface) (found : Match) (request : Request) :
    Endpoint → Handler Response
  | .resolve => resolve setup found.captures request
  | .resolveBatch => resolveBatch setup request
  | .dump => dumpDirectory setup surface request
  | .create => create setup request
  | .list => list setup request
  | .show => showRecord setup found.captures request
  | .replace => replace setup found.captures request
  | .delete => delete setup found.captures request
  | .createBatch => createBatch setup request
  | .findByDid => findByDid setup found.captures request
  | .version => pure (shortAnswer "ok")
  | .liveness => pure (shortAnswer "alive")
  | .readiness => ExceptT.lift readiness
  | .health => ExceptT.lift health
  | .metrics => ExceptT.lift metrics

/-- What is left to do for a request whose handler is done.  Where the handler broke down, it
never comes to that. -/
def conclude (method : Method) (route : Route) (response : Response) :
    Program Server Response := do
  if response.isMissing then pure response
  else
    Program.change (Server.countActive (-1))
    Server.record (.httpRequest method.name route.template.text response.status)
    pure response

/-- Counts a request, from when it is begun until it is answered. -/
def counted (method : Method) (route : Route) (answer : Program Server Response) :
    Program Server Response := do
  Program.change (Server.countActive 1)
  let response ← answer
  conclude method route response

/-- The response where there is no route. -/
def notFound : Response := .problem 404 "NOT_FOUND" "Endpoint not found"

/-- The response where a route does not take a method. -/
def methodNotAllowed : Response :=
  .problem 405 "METHOD_NOT_ALLOWED" "Method not allowed for this endpoint"

/-- The content of the answer to a request. -/
def content (setup : Setup) (surface : Surface) (request : Request) :
    Program Server Response :=
  match route? surface request.target.path with
  | none => pure notFound
  | some found =>
    match found.route.endpoint? request.method with
    | none => pure methodNotAllowed
    | some endpoint =>
      counted request.method found.route
        (Handler.response (handle setup surface found request endpoint))

/-- The methods that scripts of other origins may use on a surface. -/
def sharedMethods : Surface → List Method
  | .directory => [.get, .post]
  | .management => [.get, .post, .put, .delete]

/-- A response that scripts of any origin may read. -/
def shared (response : Response) : Response :=
  response.withHeader "access-control-allow-origin" "*"

/-- The answer to a question about what scripts of other origins may send. -/
def preflight (surface : Surface) : Response :=
  ((shared (.bare 200)).withHeader "access-control-allow-methods"
    (",".intercalate ((sharedMethods surface).map Method.name))).withHeader
    "access-control-allow-headers" "content-type,authorization,if-match,x-api-key"

/-- Least number of octets that are worth compressing. -/
def leastCompressed : Nat := 32

/-- A response compressed if the client prefers that, unless it is already or is too
short. -/
def compressed (request : Request) (response : Response) : Response :=
  if Coding.isGzipPreferred request.headers &&
      (response.headers.find? "content-encoding").isNone &&
      leastCompressed ≤ response.body.size then
    response.withHeader "content-encoding" Coding.gzip.name
  else response

/-- A response that says which methods are taken, if there is a route and it does not
take that of the request. -/
def withAllowance (surface : Surface) (request : Request) (response : Response) : Response :=
  match route? surface request.target.path with
  | some ⟨route, _⟩ =>
    if (route.endpoint? request.method).isNone then
      response.withHeader "allow" route.allowed
    else response
  | none => response

/-- A response without the content that its request does not want. -/
def withoutUnwanted (request : Request) (response : Response) : Response :=
  if request.method = .head then { response with body := .empty } else response

/-- The header field that numbers requests. -/
def requestIdField : String := "x-request-id"

/-- A response with the number of its request: the one that the client gave, or else
a fresh one. -/
def withRequestId (freshId : String) (request : Request) (response : Response) : Response :=
  match request.headers.find? requestIdField with
  | some given => { response with headers := response.headers.add requestIdField given }
  | none => response.withHeader requestIdField freshId

/-- What every response goes through before it is sent. -/
def finish (surface : Surface) (freshId : String) (request : Request) (response : Response) :
    Response :=
  withRequestId freshId request
    (withoutUnwanted request (withAllowance surface request response))

def answer (setup : Setup) (surface : Surface) (freshId : String) (request : Request) :
    Program Server Response :=
  if request.method = .options then
    pure (finish surface freshId request (preflight surface))
  else do
    let response ← content setup surface request
    pure (finish surface freshId request (shared (compressed request response)))

end Service
end BpnDirectory
