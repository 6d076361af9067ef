import BpnDirectory.Proofs.Process.Rules
import BpnDirectory.Proofs.Resolver.Deeds
import BpnDirectory.Service.Background
import BpnDirectory.Service.Exchange
import BpnDirectory.Store.Backend

namespace BpnDirectory
namespace Service

/-!
What the steps of handlers and jobs may do.

Whatever a request asks for, a step of its handler is one that an operation of the node may take,
and the same holds of a job, except that it also sets timers and leaves heartbeats.  So a rule that
such steps of the node follow is followed by the handlers of all endpoints and by all jobs.
-/

open Access (Surface)
open Http (Request Response)
open Program (Follows)
open Resolver (Node Operation)
open Store (Backend)

variable {α β : Type} {Rule : Server → Server → Prop}

/-! ## Parts without steps -/

namespace Handler

theorem follows_require (outcome : Except Failure α) : Follows Rule (require outcome).run := trivial

theorem follows_queryFields (request : Request) (names : List String) :
    Follows Rule (queryFields request names).run := trivial

theorem follows_pathText (name : String) (captures : List String) :
    Follows Rule (pathText name captures).run := by
  unfold pathText
  dsimp only
  split <;> trivial

theorem follows_numberField (name : String) (read? : String → Option α) (value : Option String) :
    Follows Rule (numberField name read? value).run := by
  unfold numberField
  split
  · trivial
  · split <;> trivial

end Handler

/-! ## Steps of the node -/

/-- Whether a step of a node leaves the store, the time and the number of requests under way. -/
def NodeLeaves (before after : Node Backend) : Prop :=
  after.store = before.store ∧ after.now = before.now ∧
    after.ledger.activeRequests = before.ledger.activeRequests

/-- What a step of an operation may do to a node. -/
abbrev NodeActs : Node Backend → Node Backend → Prop := Node.Does (fun _ => True) NodeLeaves

theorem nodeLeaves_followCommit (version : Int) (node : Node Backend) :
    NodeLeaves node (node.followCommit version) := by
  unfold Node.followCommit
  split <;> exact ⟨rfl, rfl, rfl⟩

theorem Server.node_of_track? {server tracked : Server} {name : String} {period delay : Time.Span}
    (tracks : server.track? name period delay = some tracked) : tracked.node = server.node := by
  rcases Option.bind_eq_some_iff.mp tracks with ⟨beats, _, same⟩
  cases same
  rfl

/-- To start a job takes no step of the node, whether or not the clock can show its first run. -/
theorem node_startJob (settings : JobSettings) (randomSeconds : Nat) (server : Server) (job : Job) :
    (startJob settings randomSeconds server job).node = server.node := by
  unfold startJob
  dsimp only
  split
  · rfl
  · next tracked tracks =>
      have same := Server.node_of_track? tracks
      split <;> exact same

theorem node_startJobs (settings : JobSettings) (randomSeconds : Nat) (jobs : List Job)
    (server : Server) : (jobs.foldl (startJob settings randomSeconds) server).node = server.node := by
  induction jobs generalizing server with
  | nil => rfl
  | cons job rest ih => exact (ih _).trans (node_startJob settings randomSeconds server job)

section

variable (acts : ∀ (server : Server) (node : Node Backend), NodeActs server.node node →
  Rule server (server.withNode node))

include acts

theorem follows_onNode_of_acts {operation : Operation Backend α}
    (follows : Follows NodeActs operation.run) : Follows Rule (Server.onNode operation.run) :=
  Follows.within follows fun server node => acts server node

theorem follows_perform_of_acts {operation : Operation Backend α} {respond : α → Handler β}
    (follows : Follows NodeActs operation.run) (rest : ∀ value, Follows Rule (respond value).run) :
    Follows Rule (Handler.perform operation >>= respond).run :=
  Follows.except_bind (Follows.bind (follows_onNode_of_acts acts follows) fun _ => trivial) rest

theorem follows_checkCaller_of_acts (setup : Setup) (surface : Surface) (request : Request) :
    Follows Rule (Handler.checkCaller setup surface request).run :=
  fun server => ⟨acts server _ (.counts rfl), trivial⟩

theorem follows_look_of_acts (f : Server → α) : Follows Rule (Program.look f) :=
  fun server => ⟨acts server server.node .looks, trivial⟩

theorem follows_ping_of_acts :
    Follows Rule (Server.onNode (Resolver.ping (S := Backend)).run) :=
  follows_onNode_of_acts acts (Resolver.follows_ping trivial)

theorem follows_health_of_acts : Follows Rule health := by
  have looks {α : Type} (f : Server → α) : Follows Rule (Program.look f) :=
    follows_look_of_acts acts f
  have store : Follows Rule checkStore := by
    refine Follows.bind (looks _) fun kind => ?_
    refine Follows.bind (looks _) fun before => ?_
    refine Follows.bind (follows_ping_of_acts acts) fun outcome => ?_
    refine Follows.bind (looks _) fun after => ?_
    cases outcome <;> trivial
  have cache : Follows Rule (Program.act checkCache) :=
    fun server => ⟨acts server _ (.does ⟨rfl, rfl, rfl⟩), trivial⟩
  refine Follows.bind store fun _ => Follows.bind cache fun _ => ?_
  refine Follows.bind (looks _) fun _ => ?_
  refine Follows.bind (looks _) fun jobs? => Follows.bind (looks _) fun _ => ?_
  cases jobs? <;> trivial

/-- Every step of a handler is one that an operation of the node may take. -/
theorem follows_handle (setup : Setup) (surface : Surface) (found : Match) (request : Request)
    (endpoint : Endpoint) : Follows Rule (handle setup surface found request endpoint).run := by
  have caller := follows_checkCaller_of_acts acts setup
  cases endpoint with
  | resolve =>
      refine Follows.except_bind (caller _ request) fun _ => ?_
      refine Follows.except_bind (Handler.follows_pathText _ _) fun bpn => ?_
      exact follows_perform_of_acts acts
        (Resolver.follows_resolve _ bpn trivial fun _ _ _ => ⟨rfl, rfl, rfl⟩) fun _ => trivial
  | resolveBatch =>
      refine Follows.except_bind (caller _ request) fun _ => ?_
      refine Follows.except_bind (Handler.follows_require _) fun bpns => ?_
      exact follows_perform_of_acts acts (Resolver.follows_resolveBatch _ bpns (fun _ => trivial)
        fun _ _ _ _ => ⟨rfl, rfl, rfl⟩) fun _ => trivial
  | dump =>
      refine Follows.except_bind (caller _ request) fun _ => ?_
      exact follows_perform_of_acts acts
        (Resolver.follows_dumpDirectory _ trivial fun _ _ _ => ⟨rfl, rfl, rfl⟩) fun _ => trivial
  | create =>
      refine Follows.except_bind (caller _ request) fun _ => ?_
      refine Follows.except_bind (Handler.follows_require _) fun mapping => ?_
      exact follows_perform_of_acts acts (Resolver.follows_register nodeLeaves_followCommit _ _ _
        fun _ => trivial) fun _ => trivial
  | list =>
      refine Follows.except_bind (caller _ request) fun _ => ?_
      refine Follows.except_bind (Handler.follows_queryFields _ _) fun fields => ?_
      refine Follows.except_bind (Handler.follows_numberField _ _ _) fun size => ?_
      exact follows_perform_of_acts acts (Resolver.follows_list _ _ _ fun _ => trivial)
        fun _ => trivial
  | «show» =>
      refine Follows.except_bind (caller _ request) fun _ => ?_
      refine Follows.except_bind (Handler.follows_pathText _ _) fun bpn => ?_
      exact follows_perform_of_acts acts (Resolver.follows_record _ bpn trivial) fun _ => trivial
  | replace =>
      refine Follows.except_bind (caller _ request) fun _ => ?_
      refine Follows.except_bind (Handler.follows_pathText _ _) fun bpn => ?_
      refine Follows.except_bind (Handler.follows_require _) fun replacement => ?_
      refine Follows.except_bind (Handler.follows_require _) fun expected => ?_
      exact follows_perform_of_acts acts (Resolver.follows_rotate nodeLeaves_followCommit _ _ _ _
        fun _ => trivial) fun _ => trivial
  | delete =>
      refine Follows.except_bind (caller _ request) fun _ => ?_
      refine Follows.except_bind (Handler.follows_pathText _ _) fun bpn => ?_
      refine Follows.except_bind (Handler.follows_queryFields _ _) fun fields => ?_
      refine Follows.except_bind (Handler.follows_numberField _ _ _) fun explicit => ?_
      refine Follows.except_bind (Handler.follows_require _) fun expected => ?_
      exact follows_perform_of_acts acts (Resolver.follows_remove nodeLeaves_followCommit _ _ _
        trivial) fun _ => trivial
  | createBatch =>
      refine Follows.except_bind (caller _ request) fun _ => ?_
      refine Follows.except_bind (Handler.follows_require _) fun batch => ?_
      exact follows_perform_of_acts acts (Resolver.follows_registerBatch nodeLeaves_followCommit _ _
        fun _ => trivial) fun _ => trivial
  | findByDid =>
      refine Follows.except_bind (caller _ request) fun _ => ?_
      refine Follows.except_bind (Handler.follows_pathText _ _) fun did => ?_
      exact follows_perform_of_acts acts (Resolver.follows_findByDid _ did trivial) fun _ => trivial
  | version => trivial
  | liveness => trivial
  | readiness =>
      refine Follows.bind (Follows.bind (follows_ping_of_acts acts) fun outcome => ?_) fun _ => trivial
      cases outcome <;> trivial
  | health => exact Follows.bind (follows_health_of_acts acts) fun _ => trivial
  | metrics =>
      exact Follows.bind (Follows.bind (follows_look_of_acts acts _) fun _ => trivial)
        fun _ => trivial

/-! ## Jobs -/

variable (idles : ∀ before after : Server, after.node = before.node → Rule before after)

include idles

theorem follows_conclude_of_acts (job : Job) (outcome : Except Failure α) :
    Follows Rule (job.conclude outcome) :=
  fun server => ⟨acts server _ (.counts rfl), fun _ => ⟨idles _ _ rfl, trivial⟩⟩

theorem follows_run_of_acts (policy : Resolver.Policy) (job : Job) :
    Follows Rule (job.run policy) := by
  have concludes {β : Type} (outcome : Except Failure β) : Follows Rule (job.conclude outcome) :=
    follows_conclude_of_acts acts idles job outcome
  cases job with
  | directoryPoll =>
      have polls := follows_onNode_of_acts acts
        (Resolver.follows_poll policy trivial fun _ _ => ⟨rfl, rfl, rfl⟩)
      exact Follows.bind polls concludes
  | healthCheck => exact Follows.bind (follows_ping_of_acts acts) concludes
  | reconcile =>
      refine Follows.bind (follows_look_of_acts acts _) fun pending => ?_
      split
      · exact fun _ => ⟨idles _ _ rfl, trivial⟩
      · exact Follows.bind (follows_onNode_of_acts acts Resolver.follows_reconcile) concludes

theorem follows_runAll_of_acts (policy : Resolver.Policy) (jobs : List Job) :
    Follows Rule (Job.runAll policy jobs) := by
  induction jobs with
  | nil => trivial
  | cons job rest ih => exact Follows.bind (follows_run_of_acts acts idles policy job) fun _ => ih

/-- Every step of the jobs that come due is one of the node, or leaves the node as it is. -/
theorem follows_advance (setup : Setup) (span : Time.Span) : Follows Rule (advance setup span) := by
  refine Follows.bind (fun _ => ⟨idles _ _ rfl, trivial⟩) fun due => ?_
  exact follows_runAll_of_acts acts idles setup.policy due

theorem follows_startJobs (setup : Setup) (randomSeconds : Nat) :
    Follows Rule (startJobs setup randomSeconds) := by
  refine Follows.bind (fun _ => ⟨idles _ _ (node_startJobs _ _ _ _), trivial⟩) fun _ => ?_
  exact follows_advance acts idles setup 0

end

end Service
end BpnDirectory
