import BpnDirectory.Proofs.Resolver.Outcomes
import BpnDirectory.Proofs.Service.Problems
import BpnDirectory.Proofs.Service.Reached

namespace BpnDirectory
namespace Service

/-!
Changes that depend on a version.

A request to replace or delete a record says which version it means.  If the record has that
version, the change is made; otherwise the request is told why not, and nothing changes.  No
third thing can come of it while the caller is let in and the store is orderly.
-/

open Access (Surface)
open Http (Query Request Response)
open Resolver (Node Operation)
open Store (Backend Held LawfulStore MappingStore ReadyStore)

variable {α : Type} {setup : Setup} {request : Request} {bpn : String} {version : Int}

/-! ## Operations of the resolver in handlers -/

/-- An operation that is alone on the node of a server does there what it does on the node. -/
theorem run_onNode (program : Program (Node Backend) α) (server : Server) :
    (Server.onNode program).run server =
      ((program.run server.node).1, server.withNode (program.run server.node).2) := by
  unfold Server.onNode
  induction program generalizing server with
  | done value => rfl
  | step reach act next ih => exact ih _ _

theorem run_perform (operation : Operation Backend α) (server : Server) :
    (Handler.perform operation).run.run server =
      ((operation.run.run server.node).1.mapError Response.ofFailure,
        server.withNode (operation.run.run server.node).2) := by
  change (Server.onNode operation.run >>= fun outcome =>
    pure (outcome.mapError Response.ofFailure) : Program Server _).run server = _
  rw [Program.run_bind, run_onNode]
  rfl

section

variable {server : Server} {operation : Operation Backend α} {store : Backend}

/-- A handler goes on after an operation that succeeds. -/
theorem run_perform_of_ok {value : α} (rest : α → Handler Response)
    (comes : Operation.ComesTo operation server.node (.ok value) store) :
    ∃ after : Server, after.node.store = store ∧
      (Handler.perform operation >>= rest).run.run server = (rest value).run.run after := by
  refine ⟨server.withNode (operation.run.run server.node).2, comes.leaves, ?_⟩
  rw [Program.run_except_bind, run_perform, comes.ends]
  rfl

/-- A handler ends with the report of an operation that fails. -/
theorem run_perform_of_error {failure : Failure} (rest : α → Handler Response)
    (comes : Operation.ComesTo operation server.node (.error failure) store) :
    ∃ after, server.OnlyCounts after ∧
      (Handler.perform operation >>= rest).run.run server =
        (.error (.ofFailure failure), after) := by
  rcases comes.counts failure rfl with ⟨ledger, counted⟩
  refine ⟨server.withNode (operation.run.run server.node).2, ⟨ledger, by rw [counted]⟩, ?_⟩
  rw [Program.run_except_bind, run_perform, comes.ends]
  rfl

end

/-! ## Changes -/

def Server.held (server : Server) (bpn : String) : Option Held :=
  LawfulStore.held server.node.store bpn

/-- Whether a server can make one more change: its clock shows a time that a text can tell, and
the number of changes has not come to its greatest value. -/
structure Server.HasRoom (server : Server) : Prop where
  proper : server.node.now.IsProper
  plain : server.node.now.HasPlainYear
  count : Store.CountedStore.count server.node.store < Text.maxSigned64

inductive Change where
  | replace (did : String)
  | delete
  deriving DecidableEq

namespace Change

/-- The handling of a change of a record with a version, once it is known what to do. -/
def handler (policy : Resolver.Policy) (bpn : String) (version : Int) : Change → Handler Response
  | .replace did => do
    let record ← Handler.perform (Resolver.rotate policy bpn did version)
    return recordResponse 200 record
  | .delete => do
    Handler.perform (Resolver.remove policy bpn version)
    return .bare 204

/-- Whether a change can be asked for: a DID that is to be put in has to be one. -/
def IsValid : Change → Prop
  | .replace did => requireDid did = .ok ()
  | .delete => True

/-- The status of the response after a change was made. -/
def status : Change → Nat
  | .replace _ => 200
  | .delete => 204

def leaves (version : Int) : Change → Option Held
  | .replace did => some ⟨did, version + 1⟩
  | .delete => none

end Change

variable {server : Server} {change : Change}

/-- A change of a record that has the expected version is made. -/
theorem run_change_of_isAt (orderly : server.node.store.IsOrderly) (room : server.HasRoom)
    (valid : requireBpn bpn = .ok ()) (sound : change.IsValid) (policy : Resolver.Policy)
    (isAt : Held.IsAt version (server.held bpn)) :
    ∃ response after, (change.handler policy bpn version).run.run server = (.ok response, after) ∧
      response.status = change.status ∧ after.held bpn = change.leaves version := by
  have ready := orderly.isReady room.proper room.plain
  have place := orderly.hasRoom room.count bpn
  cases change with
  | replace did =>
      have checked := Store.requireMapping_eq_ok_iff.mpr ⟨valid, sound⟩
      rcases ReadyStore.replaces ready place checked isAt with ⟨committed, put⟩
      have comes := Resolver.comesTo_rotate policy valid sound version server.node
      rw [put] at comes
      rcases run_perform_of_ok (fun record => pure (recordResponse 200 record)) comes with
        ⟨after, left, ran⟩
      refine ⟨recordResponse 200 committed.value, after, ran, rfl, ?_⟩
      rw [Server.held, left]
      exact Store.held_of_replaced put
  | delete =>
      rcases ReadyStore.deletes ready place isAt with ⟨committed, deleted⟩
      have comes := Resolver.comesTo_remove policy valid version server.node
      rw [deleted] at comes
      rcases run_perform_of_ok (fun _ => pure (.bare 204)) comes with ⟨after, left, ran⟩
      refine ⟨.bare 204, after, ran, rfl, ?_⟩
      rw [Server.held, left]
      exact Store.held_of_deleted deleted

/-- A change of a record that has another version, or is not there, is refused. -/
theorem run_change_of_not_isAt (orderly : server.node.store.IsOrderly) (room : server.HasRoom)
    (valid : requireBpn bpn = .ok ()) (sound : change.IsValid) (policy : Resolver.Policy)
    (other : ¬ Held.IsAt version (server.held bpn)) :
    ∃ after, server.OnlyCounts after ∧ (change.handler policy bpn version).run.run server =
      (.error (.ofFailure (Store.refusal bpn version (server.held bpn))), after) := by
  have ready := orderly.isReady room.proper room.plain
  cases change with
  | replace did =>
      have checked := Store.requireMapping_eq_ok_iff.mpr ⟨valid, sound⟩
      have comes := Resolver.comesTo_rotate policy valid sound version server.node
      rw [ReadyStore.refuses_put ready checked other] at comes
      exact run_perform_of_error _ comes
  | delete =>
      have comes := Resolver.comesTo_remove policy valid version server.node
      rw [ReadyStore.refuses_delete ready other] at comes
      exact run_perform_of_error _ comes

/-! ## Requests for changes -/

/-- Whether a request asks management for a change of the record of a BPN, with the version that
it names outside of its header, if any. -/
inductive AsksToChange (request : Request) (bpn : String) : Change → Option Int → Prop
  | replace {found : Match} {replacement : Payload.Replacement}
      (asks : Asks .management request found .replace) (named : captured? found.captures = some bpn)
      (read : Payload.ofRequest Payload.readReplacement request = .ok replacement) :
      AsksToChange request bpn (.replace replacement.did) replacement.expected
  | delete {found : Match} (asks : Asks .management request found .delete)
      (named : captured? found.captures = some bpn)
      (given : (Query.ofText request.target.query).all "expectedVersion" = []) :
      AsksToChange request bpn .delete none
  | deleteAt {found : Match} {text : String} {stated : Int}
      (asks : Asks .management request found .delete) (named : captured? found.captures = some bpn)
      (given : (Query.ofText request.target.query).all "expectedVersion" = [text])
      (read : Text.signed64? (Text.trim text) = some stated) :
      AsksToChange request bpn .delete (some stated)

theorem pathText_of_captured {captures : List String} {text : String}
    (captured : captured? captures = some text) (name : String) :
    Handler.pathText name captures = pure text := by
  unfold captured? at captured
  unfold Handler.pathText
  dsimp only
  rw [captured]

theorem queryFields_of_all {name : String} {value : Option String}
    (given : (Query.ofText request.target.query).all name = value.toList) :
    Handler.queryFields request [name] = pure [value] := by
  unfold Handler.queryFields
  dsimp only
  rw [Query.values_singleton given]
  rfl

theorem pure_bind_handler {β : Type} (value : α) (rest : α → Handler β) :
    (pure value >>= rest : Handler β) = rest value := rfl

theorem require_ok (value : α) : Handler.require (.ok value) = pure value := rfl

/-- Handlers that go on alike after the same beginning come to the same. -/
theorem run_bind_congr {β : Type} (handler : Handler α) {rest other : α → Handler β}
    (same : ∀ value after, (rest value).run.run after = (other value).run.run after)
    (server : Server) : (handler >>= rest).run.run server = (handler >>= other).run.run server := by
  rw [Program.run_except_bind, Program.run_except_bind]
  cases (handler.run.run server).1 with
  | ok value => exact same value _
  | error response => rfl

/-- Requests for changes want more than the head of a response. -/
theorem wanted_of_isChange {found : Match} {endpoint : Endpoint}
    (asks : Asks .management request found endpoint) (isChange : endpoint.isChange = true) :
    request.method ≠ .head := by
  intro same
  have reads : ∀ route ∈ routes .management, ∀ entry ∈ route.endpoints, entry.1 = .get →
      entry.2.isChange = false := by decide
  have entry := asks.mem_endpoints
  rw [if_pos same] at entry
  rw [reads _ (Asks.mem_routes asks.matched) _ entry rfl] at isChange
  cases isChange

namespace AsksToChange

variable {explicit : Option Int}

/-- A request for a change goes to a handler that looks at the caller and makes the change. -/
theorem exists_asks (asks : AsksToChange request bpn change explicit) : ∃ found endpoint,
    Asks .management request found endpoint ∧ endpoint.isChange = true ∧
      ∀ setup version, expectedVersion explicit request = .ok version → ∀ server,
        (handle setup .management found request endpoint).run.run server =
          (Handler.checkCaller setup .management request >>= fun _ =>
            change.handler setup.policy bpn version).run.run server := by
  cases asks with
  | @replace found replacement asks named read =>
      refine ⟨found, .replace, asks, rfl, fun setup version expects => ?_⟩
      refine run_bind_congr _ fun _ after => ?_
      simp only [pathText_of_captured named, read, expects, pure_bind_handler, require_ok]
      rfl
  | @delete found asks named given =>
      refine ⟨found, .delete, asks, rfl, fun setup version expects => ?_⟩
      refine run_bind_congr _ fun _ after => ?_
      have fields := @queryFields_of_all request "expectedVersion" none given
      simp only [pathText_of_captured named, fields, List.headD_cons,
        Handler.numberField, expects, pure_bind_handler, require_ok]
      rfl
  | @deleteAt found text stated asks named given read =>
      refine ⟨found, .delete, asks, rfl, fun setup version expects => ?_⟩
      refine run_bind_congr _ fun _ after => ?_
      have fields := @queryFields_of_all request "expectedVersion" (some text) given
      simp only [pathText_of_captured named, fields, List.headD_cons,
        Handler.numberField, read, expects, pure_bind_handler, require_ok]
      rfl

end AsksToChange

/-! ## Answers -/

/-- A request for a change whose caller is let in is answered with what comes of the change. -/
theorem run_answer_of_change {found : Match} {endpoint : Endpoint} {handler : Handler Response}
    (asks : Asks .management request found endpoint)
    (handled : ∀ server, (handle setup .management found request endpoint).run.run server =
      (Handler.checkCaller setup .management request >>= fun _ => handler).run.run server)
    (mayManage : setup.gate.MayManage server.node.now request.headers) (freshId : String) :
    ∃ between finished, server.OnlyCounts between ∧
      (handler.run.run between).2.OnlyCounts finished ∧
      (answer setup .management freshId request).run server =
        (sent .management freshId request (ending (handler.run.run between).1), finished) := by
  rcases run_answer setup freshId asks server with ⟨started, finished, begun, counts, answered⟩
  rcases run_checkCaller setup .management request (fun _ => handler) started with
    ⟨between, looked, ran⟩
  have letIn : (decision setup .management request started).isOk = true := by
    rw [decision_of_onlyCounts begun]
    exact decision_isOk_iff.mpr mayManage
  have goesOn : (Handler.checkCaller setup .management request >>= fun _ => handler).run.run started =
      handler.run.run between := by
    rw [ran]
    cases decided : decision setup .management request started with
    | ok admission => rfl
    | error failure =>
        rw [decided] at letIn
        cases letIn
  rw [handled, goesOn] at counts answered
  exact ⟨between, finished, begun.trans looked, counts, answered⟩

/-- Whether a request to change the record of a BPN was answered as one that depends on a version
of that record. -/
structure IsLockedBy (version : Int) (change : Change) (bpn : String) (request : Request)
    (before : Server) (answered : Response × Server) : Prop where
  succeeds : IsSuccess answered.1 ↔ Held.IsAt version (before.held bpn)
  made : Held.IsAt version (before.held bpn) →
    answered.1.status = change.status ∧ answered.2.held bpn = change.leaves version
  conflict : ∀ held, before.held bpn = some held → held.version ≠ version →
    Reports request 409 "VERSION_CONFLICT" answered.1 ∧ before.OnlyCounts answered.2
  missing : before.held bpn = none →
    Reports request 404 "NOT_FOUND" answered.1 ∧ before.OnlyCounts answered.2

theorem Server.OnlyCounts.held_eq {before after : Server} (counts : before.OnlyCounts after)
    (bpn : String) : after.held bpn = before.held bpn := by
  rcases counts with ⟨_, rfl⟩
  rfl

theorem Server.OnlyCounts.hasRoom {before after : Server} (counts : before.OnlyCounts after)
    (room : before.HasRoom) : after.HasRoom := by
  rcases counts with ⟨_, rfl⟩
  exact ⟨room.proper, room.plain, room.count⟩

theorem le_status_refusal (bpn : String) (version : Int) (held : Option Held) :
    300 ≤ (Store.refusal bpn version held).status := by
  cases held <;> simp [Store.refusal, Failure.noMapping, Failure.status]

/-- A request for a change depends on the version that it expects and on nothing else. -/
theorem isLockedBy (orderly : server.node.store.IsOrderly) (room : server.HasRoom)
    (valid : requireBpn bpn = .ok ()) (sound : change.IsValid) {explicit : Option Int}
    (asks : AsksToChange request bpn change explicit)
    (expects : expectedVersion explicit request = .ok version)
    (mayManage : setup.gate.MayManage server.node.now request.headers) (freshId : String) :
    IsLockedBy version change bpn request server
      ((answer setup .management freshId request).run server) := by
  rcases asks.exists_asks with ⟨found, endpoint, asked, isChange, handled⟩
  have wanted := wanted_of_isChange asked isChange
  rcases run_answer_of_change asked (handled setup version expects) mayManage freshId with
    ⟨between, finished, begun, counts, answered⟩
  have sends := IsDressedAs.sent wanted .management freshId
  rw [answered]
  by_cases isAt : Held.IsAt version (server.held bpn)
  · have meets : Held.IsAt version (between.held bpn) := (begun.held_eq bpn).symm ▸ isAt
    rcases run_change_of_isAt (begun.grows.orderly orderly) (begun.hasRoom room) valid sound
      setup.policy meets with ⟨response, after, ran, status, leaves⟩
    rw [ran] at counts ⊢
    have shown : (sent .management freshId request response).status = change.status :=
      (sends response).status.trans status
    have success : IsSuccess (sent .management freshId request response) := by
      unfold IsSuccess
      rw [shown]
      cases change <;> simp [Change.status]
    refine ⟨iff_of_true success isAt, fun _ => ⟨shown, (counts.held_eq bpn).trans leaves⟩, ?_, ?_⟩
    · intro held holds apart
      rw [Held.IsAt, holds] at isAt
      exact absurd (Option.some.inj isAt) apart
    · intro none
      rw [Held.IsAt, none] at isAt
      cases isAt
  · have meets : ¬ Held.IsAt version (between.held bpn) := (begun.held_eq bpn).symm ▸ isAt
    rcases run_change_of_not_isAt (begun.grows.orderly orderly) (begun.hasRoom room) valid sound
      setup.policy meets with ⟨after, refused, ran⟩
    rw [ran] at counts ⊢
    rw [begun.held_eq bpn] at *
    have reports := reports_sent wanted .management freshId
      (Store.refusal bpn version (server.held bpn))
    have unchanged := begun.trans (refused.trans counts)
    have failed : ¬ IsSuccess (sent .management freshId request
        (.ofFailure (Store.refusal bpn version (server.held bpn)))) := by
      rintro ⟨_, less⟩
      rw [(sends _).status] at less
      exact absurd less (Nat.not_lt_of_le (le_status_refusal bpn version (server.held bpn)))
    refine ⟨iff_of_false failed isAt, fun meets => absurd meets isAt, ?_, ?_⟩
    · intro held holds _
      rw [holds] at reports ⊢
      exact ⟨reports, unchanged⟩
    · intro none
      rw [none] at reports ⊢
      exact ⟨reports, unchanged⟩

end Service
end BpnDirectory
