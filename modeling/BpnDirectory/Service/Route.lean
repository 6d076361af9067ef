import BpnDirectory.Access.Gate
import BpnDirectory.Http.Message
import BpnDirectory.Http.Template

namespace BpnDirectory
namespace Service

/-!
What the service answers to.

Each surface has its routes, and each route the methods that it takes.  A route
that takes GET takes HEAD as well.  The operational endpoints, which tell how the
service is, are the same on both surfaces and open to everyone.
-/

open Access (Surface)
open Http (Method Template)

/-- What a request may ask for. -/
inductive Endpoint where
  | resolve
  | resolveBatch
  | dump
  | create
  | list
  | show
  | replace
  | delete
  | createBatch
  | findByDid
  | version
  | liveness
  | readiness
  | health
  | metrics
  deriving DecidableEq, Repr

/-- A template of paths with the methods that are taken there. -/
structure Route where
  template : Template
  endpoints : List (Method × Endpoint)
  deriving DecidableEq, Repr

namespace Route

def endpoint? (route : Route) (method : Method) : Option Endpoint :=
  route.endpoints.lookup (if method = .head then .get else method)

def methodNames (route : Route) : List String :=
  route.endpoints.flatMap fun entry =>
    if entry.1 = .get then [Method.get.name, Method.head.name] else [entry.1.name]

/-- The methods that a route takes, as a header field lists them. -/
def allowed (route : Route) : String :=
  ",".intercalate route.methodNames

end Route

def operationalRoutes : List Route :=
  [⟨[.literal "health"], [(.get, .version)]⟩,
    ⟨[.literal "health", .literal "live"], [(.get, .liveness)]⟩,
    ⟨[.literal "health", .literal "ready"], [(.get, .readiness)]⟩,
    ⟨[.literal "health", .literal "detailed"], [(.get, .health)]⟩,
    ⟨[.literal "metrics"], [(.get, .metrics)]⟩]

def directoryRoutes : List Route :=
  [⟨[.literal "bpn", .capture "bpn"], [(.get, .resolve)]⟩,
    ⟨[.literal "bpn:batchResolve"], [(.post, .resolveBatch)]⟩,
    ⟨[.literal "bpn-directory"], [(.get, .dump)]⟩]

/-- The routes of those who manage records. -/
def managementRoutes : List Route :=
  [⟨[.literal "bpn"], [(.post, .create), (.get, .list)]⟩,
    ⟨[.literal "bpn", .capture "bpn"],
      [(.get, .show), (.put, .replace), (.delete, .delete)]⟩,
    ⟨[.literal "bpn:batchRegister"], [(.post, .createBatch)]⟩,
    ⟨[.literal "did", .capture "did"], [(.get, .findByDid)]⟩,
    ⟨[.literal "bpn-directory"], [(.get, .dump)]⟩]

def routes : Surface → List Route
  | .directory => directoryRoutes ++ operationalRoutes
  | .management => managementRoutes ++ operationalRoutes

/-- A route that takes a path, with the texts that it takes from it. -/
structure Match where
  route : Route
  captures : List String
  deriving DecidableEq, Repr

def route? (surface : Surface) (path : String) : Option Match :=
  (routes surface).findSome? fun route =>
    (route.template.captures? path).map fun captures => ⟨route, captures⟩

end Service
end BpnDirectory
