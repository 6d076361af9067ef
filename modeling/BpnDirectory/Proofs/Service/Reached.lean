import BpnDirectory.Proofs.Service.Answers
import BpnDirectory.Proofs.Service.Steps
import BpnDirectory.Proofs.Store.Orderly
import Mathlib.Logic.Relation

namespace BpnDirectory
namespace Service

/-!
What becomes of a server.

A server answers requests and runs its jobs, time goes by, and others who share the store make
calls on it.  However much of that happens to a server whose store was opened fresh, the store
stays orderly, and the number of its changes never falls.
-/

open Access (Surface)
open Http (Request Response)
open Program (Follows)
open Resolver (Node)
open Store (Backend CountedStore)

variable {setup : Setup}

/-! ## Stores that grow -/

/-- Whether a store stays orderly if it is, and counts no fewer changes than before. -/
structure Grows (before after : Backend) : Prop where
  orderly : before.IsOrderly → after.IsOrderly
  count : CountedStore.count before ≤ CountedStore.count after

theorem Grows.refl (store : Backend) : Grows store store := ⟨id, Int.le_refl _⟩

theorem Grows.trans {before between after : Backend} (first : Grows before between)
    (second : Grows between after) : Grows before after :=
  ⟨second.orderly ∘ first.orderly, Int.le_trans first.count second.count⟩

theorem grows_perform (request : Store.Request) (store : Backend) :
    Grows store (request.perform store).2 :=
  ⟨fun orderly => orderly.perform request, Store.count_le_perform request store⟩

def Server.Grows (before after : Server) : Prop := Service.Grows before.node.store after.node.store

theorem Server.Grows.refl (server : Server) : server.Grows server := Service.Grows.refl _

theorem Server.Grows.trans {before between after : Server} (first : before.Grows between)
    (second : between.Grows after) : before.Grows after := Service.Grows.trans first second

theorem Server.Grows.of_same {before after : Server} (same : after.node.store = before.node.store) :
    before.Grows after := by
  unfold Server.Grows
  rw [same]
  exact Service.Grows.refl _

theorem Server.OnlyCounts.grows {before after : Server} (counts : OnlyCounts before after) :
    before.Grows after := by
  rcases counts with ⟨_, rfl⟩
  exact .refl before

/-! ## Handlers -/

theorem NodeActs.grows {before after : Node Backend} (acts : NodeActs before after) :
    Grows before.store after.store := by
  cases acts with
  | @asks request asked => exact grows_perform request before.store
  | does leaves => exact leaves.1 ▸ Grows.refl before.store
  | _ => exact .refl before.store

/-- Every step of a handler is such that the store grows. -/
theorem grows_handle (setup : Setup) (surface : Surface) (found : Match) (request : Request)
    (endpoint : Endpoint) :
    Follows Server.Grows (handle setup surface found request endpoint).run :=
  follows_handle (fun _ _ acts => acts.grows) setup surface found request endpoint

/-- Whatever is asked of a server, its store grows. -/
theorem grows_answer (setup : Setup) (surface : Surface) (freshId : String) (request : Request)
    (server : Server) : server.Grows ((answer setup surface freshId request).run server).2 := by
  cases matched : route? surface request.target.path with
  | none =>
      rw [run_answer_of_unasked freshId (content_of_unmatched matched) server]
      exact .refl server
  | some found =>
      cases taken : found.route.endpoint? request.method with
      | none =>
          rw [run_answer_of_unasked freshId (content_of_untaken matched taken) server]
          exact .refl server
      | some endpoint =>
          rcases run_answer setup freshId ⟨matched, taken⟩ server with
            ⟨started, finished, begun, counts, answered⟩
          rw [answered]
          have handled := (grows_handle setup surface found request endpoint).run .refl .trans started
          exact (begun.grows.trans handled).trans counts.grows

/-! ## What becomes of a server -/

namespace Server

/-- What can happen to a server: it answers a request, it starts, runs or stops its jobs, its
clocks go on, or someone else who shares the store makes a call on it. -/
inductive Happens (setup : Setup) (server : Server) : Server → Prop
  | answers (surface : Surface) (freshId : String) (request : Request) :
      Happens setup server ((answer setup surface freshId request).run server).2
  | starts (randomSeconds : Nat) :
      Happens setup server ((startJobs setup randomSeconds).run server).2
  | advances (span : Time.Span) : Happens setup server ((advance setup span).run server).2
  | stops : Happens setup server (stopJobs server)
  | passes (ticks : Nat) (now : Time.Instant) :
      Happens setup server (server.withNode { server.node with ticks, now })
  | shares (request : Store.Request) : Happens setup server
      (server.withNode { server.node with store := (request.perform server.node.store).2 })

/-- Whether one server becomes another as things happen to it. -/
def Becomes (setup : Setup) : Server → Server → Prop := Relation.ReflTransGen (Happens setup)

/-- Whether a server is one whose store was opened fresh, after whatever happened to it. -/
def IsReached (setup : Setup) (server : Server) : Prop :=
  ∃ kind first, first.node.store = Backend.fresh kind ∧ Becomes setup first server

variable {server after : Server}

theorem Happens.grows (happens : server.Happens setup after) : server.Grows after := by
  have acts : ∀ (server : Server) (node : Node Backend), NodeActs server.node node →
      server.Grows (server.withNode node) := fun _ _ acts => acts.grows
  have idles : ∀ before after : Server, after.node = before.node → before.Grows after :=
    fun _ _ same => .of_same (congrArg Node.store same)
  cases happens with
  | answers surface freshId request => exact grows_answer setup surface freshId request server
  | starts randomSeconds =>
      exact (follows_startJobs acts idles setup randomSeconds).run .refl .trans server
  | advances span => exact (follows_advance acts idles setup span).run .refl .trans server
  | stops => exact .refl server
  | passes ticks now => exact .refl server
  | shares request => exact grows_perform request server.node.store

theorem Becomes.grows (becomes : server.Becomes setup after) : server.Grows after := by
  induction becomes with
  | refl => exact .refl server
  | tail _ happens ih => exact ih.trans happens.grows

theorem IsReached.becomes (reached : server.IsReached setup) (becomes : server.Becomes setup after) :
    after.IsReached setup := by
  rcases reached with ⟨kind, first, fresh, before⟩
  exact ⟨kind, first, fresh, before.trans becomes⟩

theorem IsReached.isOrderly (reached : server.IsReached setup) : server.node.store.IsOrderly := by
  rcases reached with ⟨kind, first, fresh, becomes⟩
  refine becomes.grows.orderly ?_
  rw [fresh]
  exact Backend.isOrderly_fresh kind

end Server

end Service
end BpnDirectory
