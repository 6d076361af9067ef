import BpnDirectory.Proofs.Access.Authority
import BpnDirectory.Proofs.Service.Steps
import BpnDirectory.Proofs.Store.Atomic

namespace BpnDirectory
namespace Service

/-!
Requests that write.

No request to the directory changes a record.  A request to the management side may do
so only if it comes from someone who may manage records: every handler that changes
records looks at the caller first, and whoever is refused gets no further.
-/

open Access (Surface)
open Http (Request Response)
open Program (Follows FollowsWhile)
open Resolver (Node Operation)
open Store (Backend)

variable {α β : Type}

/-! ## Steps that spare the store -/

/-- Whether a step leaves the store, and the time. -/
def Spares (before after : Server) : Prop :=
  after.node.store = before.node.store ∧ after.node.now = before.node.now

theorem Spares.refl (server : Server) : Spares server server := ⟨rfl, rfl⟩

theorem Spares.trans {before between after : Server} (first : Spares before between)
    (second : Spares between after) : Spares before after :=
  ⟨second.1.trans first.1, second.2.trans first.2⟩

/-- Whether a step of a node leaves the store, and the time. -/
def NodeSpares (before after : Node Backend) : Prop :=
  after.store = before.store ∧ after.now = before.now

abbrev Reads (operation : Operation Backend α) : Prop :=
  Follows (Node.Does (fun request => request.isChange = false) NodeSpares) operation.run

theorem spares_of_does {before after : Node Backend}
    (does : before.Does (fun request => request.isChange = false) NodeSpares after) :
    NodeSpares before after := by
  cases does with
  | asks isRead => exact ⟨Store.AtomicStore.kept_of_read isRead before.store, rfl⟩
  | does also => exact also
  | _ => exact ⟨rfl, rfl⟩

theorem follows_onNode {operation : Operation Backend α} (reads : Reads operation) :
    Follows Spares (Server.onNode operation.run) := by
  refine Follows.within reads ?_
  intro server node does
  exact spares_of_does does

namespace Handler

variable (Holds : Server → Prop)

/-- Whether a handler leaves the store, as long as what it meets is of a certain kind. -/
def SparesWhile (handler : Handler α) : Prop :=
  FollowsWhile Holds Spares handler.run

variable {Holds}

theorem sparesWhile_bind {handler : Handler α} {rest : α → Handler β}
    (first : handler.SparesWhile Holds) (others : ∀ value, (rest value).SparesWhile Holds) :
    (handler >>= rest).SparesWhile Holds := by
  refine FollowsWhile.bind first ?_
  intro outcome
  cases outcome with
  | ok value => exact others value
  | error response => trivial

theorem sparesWhile_require (outcome : Except Failure α) :
    (require outcome).SparesWhile Holds := trivial

theorem sparesWhile_queryFields (request : Request) (names : List String) :
    (queryFields request names).SparesWhile Holds := trivial

theorem sparesWhile_pathText (name : String) (captures : List String) :
    (pathText name captures).SparesWhile Holds :=
  (follows_pathText name captures).while

theorem sparesWhile_numberField (name : String) (read? : String → Option α)
    (value : Option String) : (numberField name read? value).SparesWhile Holds :=
  (follows_numberField name read? value).while

theorem sparesWhile_perform {operation : Operation Backend α} (reads : Reads operation) :
    (perform operation).SparesWhile Holds :=
  FollowsWhile.bind (follows_onNode reads).while fun _ => trivial

theorem sparesWhile_checkCaller (setup : Setup) (request : Request) (surface : Surface) :
    (checkCaller setup surface request).SparesWhile Holds :=
  fun _ _ => ⟨⟨rfl, rfl⟩, trivial⟩

/-- Whatever comes after a look at the caller is never reached by those who may not
manage records. -/
theorem sparesWhile_of_refused {setup : Setup} {request : Request} {rest : Unit → Handler β}
    (refused : ∀ server, Holds server →
      ¬ setup.gate.MayManage server.node.now request.headers) :
    (checkCaller setup .management request >>= rest).SparesWhile Holds := by
  intro server holds
  refine ⟨⟨rfl, rfl⟩, ?_⟩
  have outside := mt (Access.Gate.authorize_isOk_iff Surface.management.name).mp
    (refused server holds)
  change FollowsWhile Holds Spares (ExceptT.bindCont rest
    (((setup.gate.authorize server.node.now (Access.Credential.ofHeaders? request.headers)
      .readWrite Surface.management.name).1.map fun _ => ()).mapError Response.ofFailure))
  generalize (setup.gate.authorize server.node.now (Access.Credential.ofHeaders? request.headers)
    .readWrite Surface.management.name).1 = decision at outside
  cases decision with
  | ok admission => exact absurd rfl outside
  | error failure => trivial

end Handler

/-! ## Operations that read -/

theorem reads_resolve (policy : Resolver.Policy) (bpn : String) :
    Reads (Resolver.resolve policy bpn) :=
  Resolver.follows_resolve policy bpn rfl fun _ _ _ => ⟨rfl, rfl⟩

theorem reads_resolveBatch (policy : Resolver.Policy) (bpns : List String) :
    Reads (Resolver.resolveBatch policy bpns) :=
  Resolver.follows_resolveBatch policy bpns (fun _ => rfl) fun _ _ _ _ => ⟨rfl, rfl⟩

theorem reads_dumpDirectory (policy : Resolver.Policy) : Reads (Resolver.dumpDirectory policy) :=
  Resolver.follows_dumpDirectory policy rfl fun _ _ _ => ⟨rfl, rfl⟩

theorem reads_record (policy : Resolver.Policy) (bpn : String) :
    Reads (Resolver.record policy bpn) :=
  Resolver.follows_record policy bpn rfl

theorem reads_list (policy : Resolver.Policy) (token : Option String) (size : Option UInt64) :
    Reads (Resolver.list policy token size) :=
  Resolver.follows_list policy token size fun _ => rfl

theorem reads_findByDid (policy : Resolver.Policy) (did : String) :
    Reads (Resolver.findByDid policy did) :=
  Resolver.follows_findByDid policy did rfl

theorem reads_ping : Reads Resolver.ping := Resolver.follows_ping rfl

/-! ## Handlers -/

/-- Whether requests to an endpoint are to change records. -/
def Endpoint.isChange : Endpoint → Bool
  | .create | .replace | .delete | .createBatch => true
  | _ => false

variable {Holds : Server → Prop} (setup : Setup)

/-- An answer of the health checks, which nobody has to be known for. -/
theorem follows_health : Follows Spares health := by
  refine Follows.bind ?_ fun store => ?_
  · refine Follows.bind (fun server => ⟨.refl server, trivial⟩) fun kind => ?_
    refine Follows.bind (fun server => ⟨.refl server, trivial⟩) fun before => ?_
    refine Follows.bind (follows_onNode reads_ping) fun outcome => ?_
    refine Follows.bind (fun server => ⟨.refl server, trivial⟩) fun after => ?_
    cases outcome <;> trivial
  · refine Follows.bind (fun server => ⟨⟨rfl, rfl⟩, trivial⟩) fun cache => ?_
    refine Follows.bind (fun server => ⟨.refl server, trivial⟩) fun directory => ?_
    refine Follows.bind (fun server => ⟨.refl server, trivial⟩) fun jobs? => ?_
    refine Follows.bind (fun server => ⟨.refl server, trivial⟩) fun uptime => ?_
    cases jobs? <;> trivial

theorem follows_readiness : Follows Spares readiness := by
  refine Follows.bind (follows_onNode reads_ping) fun outcome => ?_
  cases outcome <;> trivial

theorem follows_metrics : Follows Spares metrics :=
  Follows.bind (fun server => ⟨.refl server, trivial⟩) fun _ => trivial

/-- Requests to other endpoints leave the store, whoever makes them. -/
theorem sparesWhile_of_read (surface : Surface) (found : Match) (request : Request)
    {endpoint : Endpoint} (isRead : endpoint.isChange = false) :
    (handle setup surface found request endpoint).SparesWhile Holds := by
  have caller := @Handler.sparesWhile_checkCaller Holds setup request
  cases endpoint with
  | create | replace | delete | createBatch => cases isRead
  | resolve =>
      refine Handler.sparesWhile_bind (caller _) fun _ => ?_
      refine Handler.sparesWhile_bind (Handler.sparesWhile_pathText _ _) fun bpn => ?_
      exact Handler.sparesWhile_bind (Handler.sparesWhile_perform (reads_resolve _ bpn))
        fun _ => trivial
  | resolveBatch =>
      refine Handler.sparesWhile_bind (caller _) fun _ => ?_
      refine Handler.sparesWhile_bind (Handler.sparesWhile_require _) fun bpns => ?_
      exact Handler.sparesWhile_bind (Handler.sparesWhile_perform (reads_resolveBatch _ bpns))
        fun _ => trivial
  | dump =>
      refine Handler.sparesWhile_bind (caller _) fun _ => ?_
      exact Handler.sparesWhile_bind (Handler.sparesWhile_perform (reads_dumpDirectory _))
        fun _ => trivial
  | list =>
      refine Handler.sparesWhile_bind (caller _) fun _ => ?_
      refine Handler.sparesWhile_bind (Handler.sparesWhile_queryFields _ _) fun fields => ?_
      refine Handler.sparesWhile_bind (Handler.sparesWhile_numberField _ _ _) fun size => ?_
      exact Handler.sparesWhile_bind (Handler.sparesWhile_perform (reads_list _ _ _))
        fun _ => trivial
  | «show» =>
      refine Handler.sparesWhile_bind (caller _) fun _ => ?_
      refine Handler.sparesWhile_bind (Handler.sparesWhile_pathText _ _) fun bpn => ?_
      exact Handler.sparesWhile_bind (Handler.sparesWhile_perform (reads_record _ bpn))
        fun _ => trivial
  | findByDid =>
      refine Handler.sparesWhile_bind (caller _) fun _ => ?_
      refine Handler.sparesWhile_bind (Handler.sparesWhile_pathText _ _) fun did => ?_
      exact Handler.sparesWhile_bind (Handler.sparesWhile_perform (reads_findByDid _ did))
        fun _ => trivial
  | version => trivial
  | liveness => trivial
  | readiness => exact FollowsWhile.bind follows_readiness.while fun _ => trivial
  | health => exact FollowsWhile.bind follows_health.while fun _ => trivial
  | metrics => exact FollowsWhile.bind follows_metrics.while fun _ => trivial

/-- Requests that are to change records leave the store if whoever makes them may not
manage records. -/
theorem sparesWhile_of_change (surface : Surface) (found : Match) (request : Request)
    {endpoint : Endpoint} (isChange : endpoint.isChange = true)
    (refused : ∀ server, Holds server →
      ¬ setup.gate.MayManage server.node.now request.headers) :
    (handle setup surface found request endpoint).SparesWhile Holds := by
  cases endpoint with
  | create | replace | delete | createBatch => exact Handler.sparesWhile_of_refused refused
  | _ => cases isChange

/-! ## Requests -/

/-- No route of the directory leads to a change. -/
theorem isChange_of_directory {path : String} {found : Match} {method : Http.Method}
    {endpoint : Endpoint} (matched : route? .directory path = some found)
    (taken : found.route.endpoint? method = some endpoint) : endpoint.isChange = false := by
  rcases List.exists_of_findSome?_eq_some matched with ⟨route, listed, captured⟩
  rcases Option.map_eq_some_iff.mp captured with ⟨captures, _, rfl⟩
  rcases List.lookup_eq_some_iff.mp taken with ⟨before, after, endpoints, _⟩
  have entry : (_, endpoint) ∈ route.endpoints := endpoints ▸ List.mem_append_cons_self
  have reads : ∀ route ∈ routes .directory, ∀ entry ∈ route.endpoints,
      entry.2.isChange = false := by decide
  exact reads route listed _ entry

theorem followsWhile_counted (method : Http.Method) (route : Route)
    {response : Program Server Response} (follows : FollowsWhile Holds Spares response) :
    FollowsWhile Holds Spares (counted method route response) := by
  refine FollowsWhile.bind (fun _ _ => ⟨⟨rfl, rfl⟩, trivial⟩) fun _ => ?_
  refine FollowsWhile.bind follows fun response => ?_
  unfold conclude
  split
  · trivial
  · refine FollowsWhile.bind (fun _ _ => ⟨⟨rfl, rfl⟩, trivial⟩) fun _ => ?_
    exact FollowsWhile.bind (fun _ _ => ⟨⟨rfl, rfl⟩, trivial⟩) fun _ => trivial

theorem followsWhile_response {handler : Handler Response} (spares : handler.SparesWhile Holds) :
    FollowsWhile Holds Spares handler.response := by
  refine FollowsWhile.bind spares fun outcome => ?_
  cases outcome <;> trivial

/-- A request leaves the store with every step if it is one to the directory, or comes from
someone who may not manage records whenever one of its steps is taken. -/
theorem followsWhile_answer (surface : Surface) (freshId : String) (request : Request)
    (refused : surface = .management → ∀ server, Holds server →
      ¬ setup.gate.MayManage server.node.now request.headers) :
    FollowsWhile Holds Spares (answer setup surface freshId request) := by
  unfold answer
  split
  · trivial
  · refine FollowsWhile.bind ?_ fun _ => trivial
    unfold content
    split
    · trivial
    · next found matched =>
        split
        · trivial
        · next endpoint taken =>
            refine followsWhile_counted _ _ (followsWhile_response ?_)
            cases change : endpoint.isChange with
            | false => exact sparesWhile_of_read setup surface found request change
            | true =>
                cases surface with
                | directory =>
                    rw [isChange_of_directory matched taken] at change
                    cases change
                | management =>
                    exact sparesWhile_of_change setup _ found request change (refused rfl)

/-- No request to the directory changes the store, and a request to the management side
changes it only if it comes from someone who may manage records. -/
theorem write_is_authorised (freshId : String) (request : Request) (server : Server) :
    ((answer setup .directory freshId request).run server).2.node.store = server.node.store ∧
      (((answer setup .management freshId request).run server).2.node.store ≠ server.node.store →
        setup.gate.MayManage server.node.now request.headers) := by
  constructor
  · have follows : FollowsWhile (fun _ => True) Spares (answer setup .directory freshId request) :=
      followsWhile_answer setup .directory freshId request nofun
    exact (follows.run .refl .trans (fun _ _ => trivial) trivial).1
  · intro written
    by_contra refused
    have follows : FollowsWhile (fun other => other.node.now = server.node.now) Spares
        (answer setup .management freshId request) :=
      followsWhile_answer setup .management freshId request fun _ other same => same ▸ refused
    have spared := follows.run .refl .trans (fun spares same => spares.2.trans same) rfl
    exact written spared.1

/-- A service with a key for management and nobody else who may manage records. -/
def Setup.withKey : Setup where
  settings :=
    { service := ⟨"localhost", 8080, 8081, "did:web:service"⟩
      storage := ⟨.memory, "", 1, true, 1, 1⟩
      caching := ⟨true, 4, 1, 300⟩
      limits := ⟨10, 10, 10⟩
      jobs := ⟨30, none, 10⟩
      access := ⟨[], none, none, "Membership", none, [], some "0123456789abcdef"⟩
      log := ⟨"info", .text⟩ }
  gate := ⟨⟨.empty, [], none, "Membership", fun _ _ _ _ => false⟩, ⟨[], none⟩,
    some "0123456789abcdef"⟩

def Server.withRecord : Server where
  node :=
    let store : Store.Memory := (Store.Memory.put Store.Request.noon "BPNL00000000000A"
      "did:web:first" none .empty).2
    .start (.memory store) ⟨true, 4, 1, none⟩ Store.Request.noon
  beats := .empty
  timetable := .empty

def deletion : Request where
  method := .delete
  target := ⟨"/bpn/BPNL00000000000A", "expectedVersion=1"⟩
  headers := .addText .none "x-api-key" "0123456789abcdef"
  body := []

theorem deletion_is_authorised :
    ((answer Setup.withKey .management "1" deletion).run Server.withRecord).2.node.store ≠
        Server.withRecord.node.store ∧
      Setup.withKey.gate.MayManage Server.withRecord.node.now deletion.headers := by
  have counted : (Store.MappingStore.directoryVersion ((answer Setup.withKey .management "1"
      deletion).run Server.withRecord).2.node.store).1.toOption = some 2 := by decide +kernel
  have written : ((answer Setup.withKey .management "1" deletion).run
      Server.withRecord).2.node.store ≠ Server.withRecord.node.store := by
    intro same
    rw [same] at counted
    exact absurd counted (by decide +kernel)
  exact ⟨written, (write_is_authorised Setup.withKey "1" deletion Server.withRecord).2 written⟩

end Service
end BpnDirectory
