import BpnDirectory.Proofs.Access.Refusal
import BpnDirectory.Proofs.Service.Answers
import BpnDirectory.Proofs.Service.Writes
import BpnDirectory.Service.Startup

namespace BpnDirectory
namespace Service

/-!
What refused callers learn.

Two runs are compared: two servers whose gates and clocks are the same and that may differ in
all else, and two requests that go to one route by the same method and with the same header
fields, whatever stands in their paths, queries and bodies.  If the caller is refused, both are
answered alike, and neither server changes but for what it counts.
-/

open Access (Credential Identity Surface)
open Http (Request Response)
open Server (OnlyCounts)

variable {setup : Setup} {surface : Surface} {route : Route} {request other : Request}

/-- Whether two requests go to one route of a surface, by the same method and with the same
header fields. -/
structure Resembles (surface : Surface) (route : Route) (request other : Request) : Prop where
  matched : ∃ captures, route? surface request.target.path = some ⟨route, captures⟩
  otherMatched : ∃ captures, route? surface other.target.path = some ⟨route, captures⟩
  method : other.method = request.method
  headers : other.headers = request.headers

namespace Resembles

theorem withAllowance_eq (resembles : Resembles surface route request other)
    (response : Response) :
    withAllowance surface other response = withAllowance surface request response := by
  rcases resembles.matched with ⟨captures, matched⟩
  rcases resembles.otherMatched with ⟨otherCaptures, otherMatched⟩
  simp only [withAllowance, matched, otherMatched, resembles.method]

/-- Requests that resemble each other have the same response sent in the same way. -/
theorem dressed_eq (resembles : Resembles surface route request other) (response : Response) :
    dressed surface other response = dressed surface request response := by
  simp only [dressed, compressed, withoutUnwanted, resembles.withAllowance_eq, resembles.method,
    resembles.headers]

theorem turnedAway_eq (resembles : Resembles surface route request other) (response : Response) :
    turnedAway surface other response = turnedAway surface request response := by
  simp only [turnedAway, withoutUnwanted, resembles.withAllowance_eq, resembles.dressed_eq,
    resembles.method]

theorem withRequestId_eq (resembles : Resembles surface route request other) (freshId : String)
    (response : Response) :
    withRequestId freshId other response = withRequestId freshId request response := by
  simp only [withRequestId, resembles.headers]

end Resembles

/-! ## Refusals -/

/-- Whether a response is the one for a caller who is refused: one who is not known, or one who
is known and has too low a scope. -/
def IsRefusal (identity : Except Failure Identity) (request : Request) (response : Response) :
    Prop :=
  match identity with
  | .error _ => Reports request 401 "UNAUTHORIZED" response
  | .ok _ => Reports request 403 "FORBIDDEN" response

/-- The caller of a request, as far as the gate knows them. -/
def caller (setup : Setup) (request : Request) (server : Server) : Except Failure Identity :=
  setup.gate.identify server.node.now (Credential.ofHeaders? request.headers)

theorem isRefusal_dressed {server : Server} {failure : Failure}
    (refused : decision setup surface request server = .error failure) :
    IsRefusal (caller setup request server) request
      (dressed surface request (.ofFailure failure)) := by
  unfold IsRefusal caller
  rcases Access.Gate.authorize_eq_error refused with
    ⟨unknown, reason, rfl⟩ | ⟨identity, known, _, reason, rfl⟩
  · rw [unknown]
    exact reports_dressed surface request (.unauthorized reason)
  · rw [known]
    exact reports_dressed surface request (.forbidden reason)

/-- Refused callers learn nothing and change nothing.  What they are answered says only whether
they are known, and follows from the gate, the time, the method, the route and the header fields.
A method that the route does not take is turned away in the same manner. -/
theorem refused_learn_nothing {elsewhere : Setup} (gates : elsewhere.gate = setup.gate)
    (resembles : Resembles surface route request other) (inner : route ∉ operationalRoutes)
    {server another : Server} (times : another.node.now = server.node.now) {failure : Failure}
    (refused : decision setup surface request server = .error failure)
    (freshId otherId : String) :
    let first := (answer setup surface freshId request).run server
    let second := (answer elsewhere surface otherId other).run another
    OnlyCounts server first.2 ∧ OnlyCounts another second.2 ∧
      ∃ response, first.1 = withRequestId freshId request response ∧
        second.1 = withRequestId otherId request response ∧
        ∀ endpoint, route.endpoint? request.method = some endpoint →
          IsRefusal (caller setup request server) request response := by
  rcases resembles.matched with ⟨captures, matched⟩
  rcases resembles.otherMatched with ⟨otherCaptures, otherMatched⟩
  have refusedThere : decision elsewhere surface other another = .error failure := by
    unfold decision at refused ⊢
    rw [gates, times, resembles.headers]
    exact refused
  cases taken : route.endpoint? request.method with
  | none =>
      have untaken : route.endpoint? other.method = none := resembles.method ▸ taken
      rw [run_answer_of_unasked freshId (content_of_untaken matched taken) server,
        run_answer_of_unasked otherId (content_of_untaken otherMatched untaken) another]
      refine ⟨.refl server, .refl another, turnedAway surface request methodNotAllowed, rfl, ?_,
        nofun⟩
      rw [resembles.turnedAway_eq, resembles.withRequestId_eq]
  | some endpoint =>
      have takenThere : route.endpoint? other.method = some endpoint := resembles.method ▸ taken
      rcases run_answer_of_refused freshId ⟨matched, taken⟩ inner refused with
        ⟨finished, counts, answered⟩
      rcases run_answer_of_refused otherId ⟨otherMatched, takenThere⟩ inner refusedThere with
        ⟨otherFinished, otherCounts, alsoAnswered⟩
      rw [answered, alsoAnswered]
      refine ⟨counts, otherCounts, dressed surface request (.ofFailure failure), rfl, ?_, ?_⟩
      · rw [sent, resembles.dressed_eq, resembles.withRequestId_eq]
      · exact fun _ _ => isRefusal_dressed refused

/-- A request without a key to delete a record of which it says next to nothing. -/
def blindDeletion : Request where
  method := .delete
  target := ⟨"/bpn/%ff", ""⟩
  headers := .none
  body := []

/-- Somebody without a key who asks for a record to be deleted is not told that it is there. -/
theorem keyless_deletion_learns_nothing :
    let keyless := { deletion with headers := .none }
    let empty : Server := newServer Setup.withKey.settings Store.Request.noon
    let first := (answer Setup.withKey .management "1" keyless).run Server.withRecord
    let second := (answer Setup.withKey .management "2" blindDeletion).run empty
    OnlyCounts Server.withRecord first.2 ∧ OnlyCounts empty second.2 ∧
      ∃ response, first.1 = withRequestId "1" keyless response ∧
        second.1 = withRequestId "2" keyless response ∧ response.status = 401 := by
  have resembles : Resembles .management
      ⟨[.literal "bpn", .capture "bpn"], [(.get, .show), (.put, .replace), (.delete, .delete)]⟩
      { deletion with headers := .none } blindDeletion :=
    ⟨⟨["BPNL00000000000A"], by decide +kernel⟩, ⟨["%ff"], by decide +kernel⟩, rfl, rfl⟩
  have refused : decision Setup.withKey .management { deletion with headers := .none }
      Server.withRecord = .error (.unauthorized "Missing authorization header") := rfl
  have gates : Setup.withKey.gate = Setup.withKey.gate := rfl
  have times : (newServer Setup.withKey.settings Store.Request.noon).node.now =
      Server.withRecord.node.now := rfl
  rcases refused_learn_nothing gates resembles (by decide) times refused "1" "2" with
    ⟨counts, otherCounts, response, answered, alsoAnswered, refusal⟩
  exact ⟨counts, otherCounts, response, answered, alsoAnswered, (refusal .delete rfl).1⟩

end Service
end BpnDirectory
