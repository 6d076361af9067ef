import BpnDirectory.Proofs.Process.Alone
import BpnDirectory.Service.Exchange

namespace BpnDirectory
namespace Service

/-!
How a request comes to its answer.

A request that asks for something is counted, goes through the handler of what it asks for,
and what comes of that is sent.  Apart from the operational endpoints, every handler looks at
the caller first and ends there if the caller is refused.
-/

open Access (Surface)
open Http (Request Response)

variable {α β : Type} {setup : Setup} {surface : Surface} {request : Request} {found : Match}
  {endpoint : Endpoint}

/-! ## Counting -/

namespace Server

/-- Whether two states of a server differ in nothing but what was counted. -/
def OnlyCounts (before after : Server) : Prop :=
  ∃ ledger, after = before.withNode { before.node with ledger }

theorem OnlyCounts.refl (server : Server) : OnlyCounts server server := ⟨server.node.ledger, rfl⟩

theorem OnlyCounts.trans {before between after : Server} (first : OnlyCounts before between)
    (second : OnlyCounts between after) : OnlyCounts before after := by
  rcases first with ⟨_, rfl⟩
  rcases second with ⟨ledger, rfl⟩
  exact ⟨ledger, rfl⟩

theorem onlyCounts_countActive (change : Int) (server : Server) :
    OnlyCounts server (server.countActive change) := ⟨_, rfl⟩

theorem onlyCounts_record (event : Telemetry.Event) (server : Server) :
    OnlyCounts server (server.withNode (server.node.record event)) := ⟨_, rfl⟩

end Server

open Server (OnlyCounts)

/-! ## What is asked for -/

/-- Whether a request asks a surface for an endpoint, by a route that takes its path. -/
structure Asks (surface : Surface) (request : Request) (found : Match) (endpoint : Endpoint) :
    Prop where
  matched : route? surface request.target.path = some found
  taken : found.route.endpoint? request.method = some endpoint

/-- The text that stands in the captured segment of a path, if it is text. -/
def captured? (captures : List String) : Option String :=
  Text.Utf8.read? (Text.Percent.decode (Text.Utf8.octets (captures.headD "")))

/-- Whether an endpoint is one of a surface that is not open to everyone. -/
def Endpoint.isGuarded : Surface → Endpoint → Bool
  | .directory, .resolve | .directory, .resolveBatch | .directory, .dump => true
  | .management, .create | .management, .list | .management, .show | .management, .replace => true
  | .management, .delete | .management, .createBatch | .management, .findByDid => true
  | .management, .dump => true
  | _, _ => false

namespace Asks

theorem mem_routes (matched : route? surface request.target.path = some found) :
    found.route ∈ routes surface := by
  rcases List.exists_of_findSome?_eq_some matched with ⟨route, listed, captured⟩
  rcases Option.map_eq_some_iff.mp captured with ⟨captures, _, rfl⟩
  exact listed

theorem mem_endpoints (asks : Asks surface request found endpoint) :
    (if request.method = .head then .get else request.method, endpoint) ∈
      found.route.endpoints := by
  rcases List.lookup_eq_some_iff.mp asks.taken with ⟨before, after, endpoints, _⟩
  exact endpoints ▸ List.mem_append_cons_self

/-- Every route that is not an operational one leads to guarded endpoints. -/
theorem isGuarded (asks : Asks surface request found endpoint)
    (inner : found.route ∉ operationalRoutes) : endpoint.isGuarded surface = true := by
  have all : ∀ surface, ∀ route ∈ routes surface, route ∉ operationalRoutes →
      ∀ entry ∈ route.endpoints, entry.2.isGuarded surface = true := by
    intro surface
    cases surface <;> decide
  exact all surface found.route (mem_routes asks.matched) inner _ asks.mem_endpoints

/-- Questions about what may be sent are not for endpoints. -/
theorem method_ne_options (asks : Asks surface request found endpoint) :
    request.method ≠ .options := by
  intro same
  have none : ∀ surface, ∀ route ∈ routes surface, ∀ entry ∈ route.endpoints,
      entry.1 ≠ .options := by
    intro surface
    cases surface <;> decide
  have entry := asks.mem_endpoints
  rw [same] at entry
  exact none surface found.route (mem_routes asks.matched) _ entry rfl

end Asks

/-! ## The caller -/

/-- The decision about the caller of a request. -/
def decision (setup : Setup) (surface : Surface) (request : Request) (server : Server) :
    Except Failure Access.Admission :=
  (setup.gate.authorize server.node.now (Access.Credential.ofHeaders? request.headers)
    surface.required surface.name).1

theorem decision_of_onlyCounts {before after : Server} (counts : OnlyCounts before after) :
    decision setup surface request after = decision setup surface request before := by
  rcases counts with ⟨_, rfl⟩
  rfl

/-- A caller who is refused gets to know why, and one who is let in goes on. -/
theorem run_checkCaller (setup : Setup) (surface : Surface) (request : Request)
    (rest : Unit → Handler α) (server : Server) : ∃ between, OnlyCounts server between ∧
      (Handler.checkCaller setup surface request >>= rest).run.run server =
        match decision setup surface request server with
        | .ok _ => (rest ()).run.run between
        | .error failure => (.error (.ofFailure failure), between) := by
  refine ⟨_, Server.onlyCounts_record (setup.gate.authorize server.node.now
    (Access.Credential.ofHeaders? request.headers) surface.required surface.name).2 server, ?_⟩
  rw [Program.run_except_bind]
  have looked : (Handler.checkCaller setup surface request).run.run server =
      (((decision setup surface request server).map fun _ => ()).mapError Response.ofFailure,
        server.withNode (server.node.record (setup.gate.authorize server.node.now
          (Access.Credential.ofHeaders? request.headers) surface.required surface.name).2)) := rfl
  rw [looked]
  cases decision setup surface request server <;> rfl

/-- The handler of a guarded endpoint looks at the caller before anything else. -/
theorem handle_eq_bind (setup : Setup) (found : Match) (request : Request)
    (inside : endpoint.isGuarded surface = true) : ∃ rest : Unit → Handler Response,
      handle setup surface found request endpoint =
        Handler.checkCaller setup surface request >>= rest := by
  cases surface with
  | directory =>
      cases endpoint with
      | resolve | resolveBatch | dump => exact ⟨_, rfl⟩
      | _ => cases inside
  | management =>
      cases endpoint with
      | create | list | «show» | replace | delete | createBatch | findByDid | dump =>
          exact ⟨_, rfl⟩
      | _ => cases inside

/-! ## Answers -/

/-- A response as it is sent, but for the number of its request. -/
def dressed (surface : Surface) (request : Request) (response : Response) : Response :=
  withoutUnwanted request
    (withAllowance surface request (shared (compressed request response)))

def sent (surface : Surface) (freshId : String) (request : Request) (response : Response) :
    Response :=
  withRequestId freshId request (dressed surface request response)

/-- Header fields that a response gets while it is sent. -/
def sendingFields : List String :=
  ["content-encoding", "access-control-allow-origin", "allow", requestIdField]

/-- Whether a response is another one, perhaps with more header fields of those that are added
while it is sent. -/
structure IsDressedAs (response dressed : Response) : Prop where
  status : dressed.status = response.status
  body : dressed.body = response.body
  find? : ∀ name, name ∉ sendingFields → dressed.headers.find? name = response.headers.find? name

namespace IsDressedAs

theorem refl (response : Response) : IsDressedAs response response := ⟨rfl, rfl, fun _ _ => rfl⟩

theorem trans {first second third : Response} (before : IsDressedAs first second)
    (after : IsDressedAs second third) : IsDressedAs first third where
  status := after.status.trans before.status
  body := after.body.trans before.body
  find? name outside := (after.find? name outside).trans (before.find? name outside)

theorem add (response : Response) {name : String} (listed : name ∈ sendingFields)
    (value : List UInt8) :
    IsDressedAs response { response with headers := response.headers.add name value } where
  status := rfl
  body := rfl
  find? other outside := by
    have apart : other ≠ name := fun same => outside (same ▸ listed)
    unfold Http.Headers.find? Http.Headers.add
    rw [List.lookup_append, List.lookup_cons, beq_false_of_ne apart]
    simp

theorem shared (response : Response) : IsDressedAs response (shared response) :=
  add response (by decide) _

theorem compressed (request : Request) (response : Response) :
    IsDressedAs response (compressed request response) := by
  unfold Service.compressed
  split
  · exact add response (by decide) _
  · exact refl response

theorem withAllowance (surface : Surface) (request : Request) (response : Response) :
    IsDressedAs response (withAllowance surface request response) := by
  unfold Service.withAllowance
  split
  · split
    · exact add response (by decide) _
    · exact refl response
  · exact refl response

theorem withRequestId (freshId : String) (request : Request) (response : Response) :
    IsDressedAs response (withRequestId freshId request response) := by
  unfold Service.withRequestId
  split
  · exact add response (by decide) _
  · exact add response (by decide) _

theorem withoutUnwanted (request : Request) {first second : Response}
    (same : IsDressedAs first second) :
    IsDressedAs (withoutUnwanted request first) (withoutUnwanted request second) := by
  unfold Service.withoutUnwanted
  split
  · exact ⟨same.status, rfl, same.find?⟩
  · exact same

theorem dressed (surface : Surface) (request : Request) (response : Response) :
    IsDressedAs (Service.withoutUnwanted request response) (dressed surface request response) :=
  withoutUnwanted request (((compressed request response).trans (shared _)).trans
    (withAllowance surface request _))

/-- A request that wants the content of a response is sent it, with some more header fields. -/
theorem sent {request : Request} (wanted : request.method ≠ .head) (surface : Surface)
    (freshId : String) (response : Response) :
    IsDressedAs response (sent surface freshId request response) := by
  have dresses := dressed surface request response
  rw [Service.withoutUnwanted, if_neg wanted] at dresses
  exact dresses.trans (withRequestId freshId request _)

end IsDressedAs

/-- A header field that is not added while a response is sent comes through as it is. -/
theorem find?_sent {surface : Surface} {freshId name : String} (outside : name ∉ sendingFields)
    (request : Request) (response : Response) :
    (sent surface freshId request response).headers.find? name = response.headers.find? name := by
  have dresses := (IsDressedAs.dressed surface request response).trans
    (IsDressedAs.withRequestId freshId request _)
  refine (dresses.find? name outside).trans ?_
  unfold withoutUnwanted
  split <;> rfl

theorem status_sent (surface : Surface) (freshId : String) (request : Request)
    (response : Response) : (sent surface freshId request response).status = response.status := by
  have dresses := (IsDressedAs.dressed surface request response).trans
    (IsDressedAs.withRequestId freshId request _)
  refine dresses.status.trans ?_
  unfold withoutUnwanted
  split <;> rfl

/-! ## Reports -/

/-- Whether a response reports a problem by a status and a code.  Requests for the head of a
response only get no content. -/
def Reports (request : Request) (status : Nat) (code : String) (response : Response) : Prop :=
  response.status = status ∧
    if request.method = .head then response.body = .empty
    else ∃ message,
      response.body = .data (.fields [("error", .string code), ("message", .string message)])

theorem reports_dressed (surface : Surface) (request : Request) (failure : Failure) :
    Reports request failure.status failure.code (dressed surface request (.ofFailure failure)) := by
  have dresses := IsDressedAs.dressed surface request (.ofFailure failure)
  unfold withoutUnwanted at dresses
  refine ⟨dresses.status.trans (by split <;> rfl), ?_⟩
  split
  · next head => exact dresses.body.trans (by rw [if_pos head])
  · next wanted =>
      rw [if_neg wanted] at dresses
      exact ⟨failure.publicMessage, dresses.body⟩

/-- A failure is reported to everyone who wants more than the head of a response. -/
theorem reports_sent (wanted : request.method ≠ .head) (surface : Surface) (freshId : String)
    (failure : Failure) : Reports request failure.status failure.code
      (sent surface freshId request (.ofFailure failure)) := by
  have sends := IsDressedAs.sent wanted surface freshId (.ofFailure failure)
  refine ⟨sends.status, ?_⟩
  rw [if_neg wanted]
  exact ⟨failure.publicMessage, sends.body⟩

/-! ## Runs -/

/-- The response with which a handler ended, be it early or not. -/
def ending : Except Response Response → Response
  | .ok response => response
  | .error response => response

theorem run_response (handler : Handler Response) (server : Server) :
    handler.response.run server =
      (ending (handler.run.run server).1, (handler.run.run server).2) := by
  unfold Handler.response
  rw [Program.run_bind]
  cases (handler.run.run server).1 <;> rfl

theorem run_conclude (method : Http.Method) (route : Route) (response : Response)
    (server : Server) : ∃ finished, OnlyCounts server finished ∧
      (conclude method route response).run server = (response, finished) := by
  unfold conclude
  split
  · exact ⟨server, .refl server, rfl⟩
  · exact ⟨_, (Server.onlyCounts_countActive (-1) _).trans (Server.onlyCounts_record _ _), rfl⟩

theorem run_counted (method : Http.Method) (route : Route) (program : Program Server Response)
    (server : Server) : ∃ finished,
      OnlyCounts (program.run (server.countActive 1)).2 finished ∧
        (counted method route program).run server =
          ((program.run (server.countActive 1)).1, finished) := by
  unfold counted
  rw [Program.run_bind]
  change ∃ finished, _ ∧ Program.run _ (server.countActive 1) = _
  rw [Program.run_bind]
  exact run_conclude method route _ _

/-- A request for an endpoint is answered with what its handler ends with. -/
theorem run_answer (setup : Setup) (freshId : String) (asks : Asks surface request found endpoint)
    (server : Server) : ∃ started finished, OnlyCounts server started ∧
      OnlyCounts ((handle setup surface found request endpoint).run.run started).2 finished ∧
      (answer setup surface freshId request).run server =
        (sent surface freshId request
          (ending ((handle setup surface found request endpoint).run.run started).1), finished) := by
  have asked : content setup surface request = counted request.method found.route
      (handle setup surface found request endpoint).response := by
    unfold content
    simp only [asks.matched, asks.taken]
  rcases run_counted request.method found.route
    (handle setup surface found request endpoint).response server with ⟨finished, counts, ran⟩
  rw [run_response] at counts ran
  refine ⟨_, finished, Server.onlyCounts_countActive 1 server, counts, ?_⟩
  unfold answer
  rw [if_neg asks.method_ne_options, asked, Program.run_bind, ran]
  rfl

/-- What is answered to a request for nothing, but for the number of the request.  Questions about
what may be sent are answered all the same. -/
def turnedAway (surface : Surface) (request : Request) (response : Response) : Response :=
  if request.method = .options then
    withoutUnwanted request (withAllowance surface request (preflight surface))
  else dressed surface request response

/-- Where nothing is asked for, nothing is looked at. -/
theorem run_answer_of_unasked (freshId : String) {response : Response}
    (unasked : content setup surface request = pure response) (server : Server) :
    (answer setup surface freshId request).run server =
      (withRequestId freshId request (turnedAway surface request response), server) := by
  unfold answer turnedAway
  split
  · rfl
  · rw [unasked]
    rfl

theorem content_of_unmatched (unmatched : route? surface request.target.path = none) :
    content setup surface request = pure notFound := by
  unfold content
  simp only [unmatched]

theorem content_of_untaken (matched : route? surface request.target.path = some found)
    (untaken : found.route.endpoint? request.method = none) :
    content setup surface request = pure methodNotAllowed := by
  unfold content
  simp only [matched, untaken]

/-- A caller who is refused is told why, and nothing else happens. -/
theorem run_answer_of_refused (freshId : String) (asks : Asks surface request found endpoint)
    (inner : found.route ∉ operationalRoutes) {server : Server} {failure : Failure}
    (refused : decision setup surface request server = .error failure) :
    ∃ finished, OnlyCounts server finished ∧
      (answer setup surface freshId request).run server =
        (sent surface freshId request (.ofFailure failure), finished) := by
  rcases run_answer setup freshId asks server with ⟨started, finished, begun, counts, answered⟩
  rcases handle_eq_bind setup found request (asks.isGuarded inner) with ⟨rest, handled⟩
  rcases run_checkCaller setup surface request rest started with ⟨between, looked, ran⟩
  rw [decision_of_onlyCounts begun, refused] at ran
  rw [handled, ran] at counts answered
  exact ⟨finished, begun.trans (looked.trans counts), answered⟩

end Service
end BpnDirectory
