import BpnDirectory.Proofs.Process.Execution
import BpnDirectory.Proofs.Service.Reached

namespace BpnDirectory
namespace Service

/-!
The gauge of active requests.

A request is counted when it is begun, and no longer when its response is there.  In between, its
handler takes steps, and so do the handlers of other requests.  What is left of a request whose
client goes away or whose handler breaks down is dropped before it is run, and with it what would
have ended the counting.  So the gauge shows the requests under way, and besides them all that were
ever dropped.
-/

open Access (Surface)
open Http (Method Request Response)
open Program (Follows)
open Resolver (Node)
open Store (Backend)

variable {setup : Setup}

/-! ## Steps that leave the gauge -/

namespace Server

def active (server : Server) : Int := server.node.ledger.activeRequests

/-- Whether a step leaves the gauge of active requests. -/
def Rests (before after : Server) : Prop := after.active = before.active

theorem Rests.refl (server : Server) : server.Rests server := rfl

theorem Rests.trans {before between after : Server} (first : before.Rests between)
    (second : between.Rests after) : before.Rests after := Eq.trans second first

theorem active_countActive (change : Int) (server : Server) :
    (server.countActive change).active = server.active + change := rfl

theorem rests_of_acts (server : Server) (node : Node Backend) (acts : NodeActs server.node node) :
    server.Rests (server.withNode node) := by
  cases acts with
  | counts same => exact same
  | drops => exact .refl server
  | does leaves => exact leaves.2.2
  | _ => exact .refl server

theorem rests_of_same (before after : Server) (same : after.node = before.node) :
    before.Rests after :=
  congrArg (fun node : Node Backend => node.ledger.activeRequests) same

end Server

/-- No handler touches the gauge of active requests. -/
theorem rests_response (setup : Setup) (surface : Surface) (found : Match) (request : Request)
    (endpoint : Endpoint) :
    Follows Server.Rests (handle setup surface found request endpoint).response := by
  refine Follows.bind (follows_handle Server.rests_of_acts setup surface found request endpoint)
    fun outcome => ?_
  cases outcome <;> trivial

/-! ## Requests from their beginning to their end -/

theorem active_conclude (method : Method) (route : Route) {response : Response}
    (answered : response.isMissing = false) (server : Server) :
    ((conclude method route response).run server).2.active = server.active - 1 := by
  unfold conclude
  rw [if_neg (by simp [answered])]
  rfl

/-- A request that is alone leaves the gauge as it was, unless its handler breaks down. -/
theorem rests_counted (method : Method) (route : Route) {program : Program Server Response}
    (follows : Follows Server.Rests program) {server : Server}
    (answered : ((counted method route program).run server).1.isMissing = false) :
    server.Rests ((counted method route program).run server).2 := by
  have handled : (program.run (server.countActive 1)).2.active = server.active + 1 :=
    follows.run .refl .trans (server.countActive 1)
  rcases run_counted method route program server with ⟨_, _, ran⟩
  rw [ran] at answered
  have concluded : ((counted method route program).run server).2.active =
      (program.run (server.countActive 1)).2.active - 1 := by
    unfold counted
    rw [Program.run_bind]
    change (Program.run _ (server.countActive 1)).2.active = _
    rw [Program.run_bind, active_conclude method route answered]
  unfold Server.Rests
  omega

theorem rests_content (setup : Setup) (surface : Surface) (request : Request) {server : Server}
    (answered : ((content setup surface request).run server).1.isMissing = false) :
    server.Rests ((content setup surface request).run server).2 := by
  unfold content at answered ⊢
  split
  · exact .refl server
  · next matched =>
      simp only [matched] at answered
      split
      · exact .refl server
      · next taken =>
          simp only [taken] at answered
          exact rests_counted _ _ (rests_response setup surface _ request _) answered

theorem rests_answer (setup : Setup) (surface : Surface) (freshId : String) (request : Request)
    {server : Server}
    (answered : ((answer setup surface freshId request).run server).1.isMissing = false) :
    server.Rests ((answer setup surface freshId request).run server).2 := by
  unfold answer at answered ⊢
  split
  · exact .refl server
  · next asks =>
      rw [if_neg asks, Program.run_bind] at answered
      rw [Program.run_bind]
      refine rests_content setup surface request ?_
      rw [← answered]
      exact congrArg (· == 0) (status_sent surface freshId request _).symm

/-- Whether a server is one that is left when a request which is alone breaks down. -/
def Server.BreaksDown (setup : Setup) (server after : Server) : Prop :=
  ∃ surface freshId request, ((answer setup surface freshId request).run server).2 = after ∧
    ((answer setup surface freshId request).run server).1.isMissing = true

/-- Whatever else happens to a server, it leaves the gauge. -/
theorem Server.Happens.rests {server after : Server} (happens : server.Happens setup after)
    (sound : ¬ server.BreaksDown setup after) : server.Rests after := by
  cases happens with
  | answers surface freshId request =>
      refine rests_answer setup surface freshId request ?_
      exact Bool.eq_false_iff.mpr fun missing => sound ⟨surface, freshId, request, rfl, missing⟩
  | starts randomSeconds =>
      exact (follows_startJobs rests_of_acts rests_of_same setup randomSeconds).run .refl .trans
        server
  | advances span =>
      exact (follows_advance rests_of_acts rests_of_same setup span).run .refl .trans server
  | stops => exact .refl server
  | passes ticks now => exact .refl server
  | shares request => exact .refl server

/-! ## Requests that overlap -/

/-- A request that is under way, with what its handler has left to do. -/
structure Call where
  method : Method
  route : Route
  rest : Program Server Response

/-- A server and the requests that are under way there. -/
structure Traffic where
  server : Server
  underWay : List Call

/-- What happens to requests. -/
inductive Move where
  | begins
  | goesOn
  | ends
  | drops
  | other
  deriving DecidableEq, Repr

namespace Traffic

/-- How one thing happens at a time: a request is begun, a handler takes its next step, a
request of which the response is there comes to its end, a request is dropped because its client
goes away or its handler breaks down, or something happens to the server that has nothing to do with
the requests under way. -/
inductive Moves (setup : Setup) : Traffic → Move → Traffic → Prop
  | begins {server : Server} {calls : List Call} {surface : Surface} {request : Request}
      {found : Match} {endpoint : Endpoint} (asks : Asks surface request found endpoint) :
      Moves setup ⟨server, calls⟩ .begins
        ⟨server.countActive 1, ⟨request.method, found.route,
          (handle setup surface found request endpoint).response⟩ :: calls⟩
  | goesOn {server : Server} {first last : List Call} {method : Method} {route : Route} {α : Type}
      {reach : Reach} {act : Server → α × Server} {next : α → Program Server Response} :
      Moves setup ⟨server, first ++ ⟨method, route, .step reach act next⟩ :: last⟩ .goesOn
        ⟨(act server).2, first ++ ⟨method, route, next (act server).1⟩ :: last⟩
  | ends {server : Server} {first last : List Call} {method : Method} {route : Route}
      {response : Response} (answered : response.isMissing = false) :
      Moves setup ⟨server, first ++ ⟨method, route, .done response⟩ :: last⟩ .ends
        ⟨((conclude method route response).run server).2, first ++ last⟩
  | drops {server : Server} {first last : List Call} {call : Call} :
      Moves setup ⟨server, first ++ call :: last⟩ .drops ⟨server, first ++ last⟩
  | other {server after : Server} {calls : List Call} (happens : server.Happens setup after)
      (sound : ¬ server.BreaksDown setup after) :
      Moves setup ⟨server, calls⟩ .other ⟨after, calls⟩

/-- What has come of a beginning.  The latest move stands first. -/
inductive Runs (setup : Setup) (start : Traffic) : List Move → Traffic → Prop
  | nil : Runs setup start [] start
  | cons {moves : List Move} {move : Move} {before after : Traffic}
      (runs : Runs setup start moves before) (moved : before.Moves setup move after) :
      Runs setup start (move :: moves) after

/-- How many more requests the gauge shows than are under way. -/
def surplus (traffic : Traffic) : Int := traffic.server.active - traffic.underWay.length

/-- Whether no handler is left with a step that touches the gauge. -/
def IsSteady (traffic : Traffic) : Prop :=
  ∀ call ∈ traffic.underWay, Follows Server.Rests call.rest

variable {start traffic after : Traffic} {move : Move} {moves : List Move}

/-! ## One move -/

theorem Moves.isSteady (moved : traffic.Moves setup move after) (steady : traffic.IsSteady) :
    after.IsSteady := by
  cases moved with
  | @begins server calls surface request found endpoint asks =>
      rintro call (_ | ⟨_, listed⟩)
      · exact rests_response setup surface found request endpoint
      · exact steady call listed
  | @goesOn server first last method route _ reach act next =>
      have follows : Follows Server.Rests (.step reach act next) :=
        steady _ List.mem_append_cons_self
      intro call listed
      rcases List.mem_append.mp listed with before | _ | ⟨_, behind⟩
      · exact steady call (List.mem_append_left _ before)
      · exact (follows server).2
      · exact steady call (List.mem_append_right _ (.tail _ behind))
  | ends | drops =>
      intro call listed
      rcases List.mem_append.mp listed with before | behind
      · exact steady call (List.mem_append_left _ before)
      · exact steady call (List.mem_append_right _ (.tail _ behind))
  | other => exact steady

/-- A move changes the number of requests under way by those that it begins, ends and drops. -/
theorem Moves.length_underWay (moved : traffic.Moves setup move after) :
    after.underWay.length + [move].count .ends + [move].count .drops =
      traffic.underWay.length + [move].count .begins := by
  cases moved <;> simp <;> omega

/-- Only where a request is dropped, the gauge and the number of requests part. -/
theorem Moves.surplus_eq (moved : traffic.Moves setup move after) (steady : traffic.IsSteady) :
    after.surplus = traffic.surplus + [move].count .drops := by
  cases moved with
  | begins =>
      simp only [surplus, Server.active_countActive, List.length_cons]
      simp
  | @goesOn server first last method route _ reach act next =>
      have follows : Follows Server.Rests (.step reach act next) :=
        steady _ List.mem_append_cons_self
      have rests : (act server).2.active = server.active := (follows server).1
      simp [surplus, rests]
  | ends answered =>
      simp only [surplus, active_conclude _ _ answered, List.length_append, List.length_cons]
      simp
      omega
  | drops =>
      simp [surplus]
      omega
  | other happens sound =>
      have rests : _ = _ := happens.rests sound
      simp [surplus, rests]

/-! ## All that happens -/

theorem Runs.isSteady (runs : start.Runs setup moves after) (steady : start.IsSteady) :
    after.IsSteady := by
  induction runs with
  | nil => exact steady
  | cons _ moved ih => exact moved.isSteady ih

theorem count_cons_move (kind : Move) :
    (move :: moves).count kind = moves.count kind + [move].count kind := by
  rw [List.count_cons, List.count_singleton]

/-- Under way are the requests that were begun and neither ended nor dropped. -/
theorem Runs.length_underWay (runs : start.Runs setup moves after) :
    after.underWay.length + moves.count .ends + moves.count .drops =
      start.underWay.length + moves.count .begins := by
  induction runs with
  | nil => rfl
  | cons _ moved ih =>
      have last := moved.length_underWay
      rw [count_cons_move .ends, count_cons_move .drops, count_cons_move .begins]
      omega

theorem Runs.surplus_eq (runs : start.Runs setup moves after) (steady : start.IsSteady) :
    after.surplus = start.surplus + moves.count .drops := by
  induction runs with
  | nil => exact (Int.add_zero _).symm
  | cons earlier moved ih =>
      have last := moved.surplus_eq (earlier.isSteady steady)
      rw [count_cons_move]
      omega

/-- A server where no request is under way. -/
def idle (server : Server) : Traffic := ⟨server, []⟩

theorem isSteady_idle (server : Server) : (idle server).IsSteady := nofun

variable {server : Server}

/-- However requests overlap, the gauge shows those that are under way, and besides them all
that were ever dropped. -/
theorem Runs.active_eq (runs : (idle server).Runs setup moves after) :
    after.server.active =
      server.active + after.underWay.length + moves.count .drops := by
  have surplus := runs.surplus_eq (isSteady_idle server)
  have begun : (idle server).surplus = server.active := Int.sub_zero _
  have now : after.surplus = after.server.active - after.underWay.length := rfl
  omega

/-- The gauge is the number of requests under way exactly as long as none is dropped. -/
theorem Runs.active_eq_length_iff (runs : (idle server).Runs setup moves after)
    (unused : server.active = 0) :
    after.server.active = after.underWay.length ↔ Move.drops ∉ moves := by
  have shown := runs.active_eq
  rw [← List.count_eq_zero]
  omega

/-- A question whether the service is ready may be dropped while it waits for the store.  It
stays counted, although nothing is under way any more. -/
theorem exists_active_of_dropped {surface : Surface} {request : Request} {found : Match}
    (asks : Asks surface request found .readiness) (server : Server) :
    ∃ waiting after, (idle server).Moves setup .begins waiting ∧
      (∀ call ∈ waiting.underWay, call.rest.reach? = some .store) ∧
      waiting.Moves setup .drops after ∧
      after.underWay = [] ∧ after.server.active = server.active + 1 := by
  refine ⟨_, idle (server.countActive 1), .begins asks, ?_,
    @Moves.drops setup _ [] [] _, rfl, rfl⟩
  rintro call (_ | ⟨_, listed⟩)
  · rfl
  · cases listed

end Traffic

end Service
end BpnDirectory
