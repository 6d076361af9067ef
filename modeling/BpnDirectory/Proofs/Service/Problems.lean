import BpnDirectory.Proofs.Access.Authority
import BpnDirectory.Proofs.Http.Query
import BpnDirectory.Proofs.Service.Answers
import BpnDirectory.Proofs.Service.Writes

namespace BpnDirectory
namespace Service

/-!
How problems are reported.

Whatever keeps a request from being served is reported as an object of a code and a message,
and the code is one that the interface has for the status.  One thing is reported otherwise: a
query that gives a field twice, which is answered with plain text before any handler could put
it into words.
-/

open Access (Surface)
open Http (Query Request Response)
open Store (Backend)

variable {α β : Type} {setup : Setup} {surface : Surface} {request : Request} {found : Match}
  {endpoint : Endpoint}

/-! ## Reports -/

/-- The codes that the interface has for a status. -/
def codesOf : Nat → List String
  | 400 => ["INVALID_INPUT"]
  | 401 => ["UNAUTHORIZED"]
  | 403 => ["FORBIDDEN"]
  | 404 => ["NOT_FOUND"]
  | 405 => ["METHOD_NOT_ALLOWED"]
  | 409 => ["ALREADY_EXISTS", "VERSION_CONFLICT"]
  | 500 => ["INTERNAL_ERROR"]
  | 503 => ["STORE_UNAVAILABLE"]
  | _ => []

/-- Whether a response is a report of a problem: an object of a code, which fits the status, and
a message. -/
def IsReport (response : Response) : Prop :=
  response.headers.find? "content-type" = some (Text.Utf8.octets "application/json") ∧
    ∃ code ∈ codesOf response.status, ∃ message,
      response.body = .data (.fields [("error", .string code), ("message", .string message)])

/-- Whether a response says that the request was served. -/
def IsSuccess (response : Response) : Prop := 200 ≤ response.status ∧ response.status < 300

theorem isReport_problem {status : Nat} {code : String} (listed : code ∈ codesOf status)
    (message : String) : IsReport (.problem status code message) :=
  ⟨rfl, code, listed, message, rfl⟩

theorem isReport_ofFailure (failure : Failure) : IsReport (.ofFailure failure) := by
  refine isReport_problem ?_ failure.publicMessage
  cases failure <;> simp [Failure.status, Failure.code, codesOf]

theorem IsDressedAs.isReport {response dressed : Response} (same : IsDressedAs response dressed)
    (report : IsReport response) : IsReport dressed := by
  unfold IsReport
  rw [same.find? "content-type" (by decide), same.status, same.body]
  exact report

theorem IsDressedAs.isSuccess {response dressed : Response} (same : IsDressedAs response dressed)
    (success : IsSuccess response) : IsSuccess dressed := by
  unfold IsSuccess
  rw [same.status]
  exact success

/-- A response about a repeated field is neither a success nor a report. -/
theorem plain_of_repeatedField {name : String} {dressed : Response}
    (same : IsDressedAs (Handler.repeatedField name) dressed) :
    ¬ IsSuccess dressed ∧ ¬ IsReport dressed := by
  constructor
  · rintro ⟨_, less⟩
    rw [same.status] at less
    exact absurd less (by decide : ¬ 400 < 300)
  · rintro ⟨_, code, _, message, body⟩
    cases same.body.symm.trans body

/-! ## Handlers that report what keeps them from going on -/

/-- Whether what a handler came to is a value of some kind or the report of a failure. -/
def Sound (After : α → Prop) : Except Response α → Prop
  | .ok value => After value
  | .error response => ∃ failure, response = .ofFailure failure

namespace Handler

/-- Whether a handler ends in a value of some kind or with the report of a failure, whatever it
meets. -/
def Reports (After : α → Prop) (handler : Handler α) : Prop :=
  ∀ server, Sound After (handler.run.run server).1

variable {After : β → Prop}

theorem reports_success {response : Response} (status : Nat) (same : response.status = status)
    (success : 200 ≤ status ∧ status < 300) :
    Reports IsSuccess (pure response : Handler Response) := by
  intro server
  change 200 ≤ response.status ∧ response.status < 300
  rw [same]
  exact success

theorem reports_bind {handler : Handler α} {rest : α → Handler β}
    (first : Reports (fun _ => True) handler) (others : ∀ value, Reports After (rest value)) :
    Reports After (handler >>= rest) := by
  intro server
  have head := first server
  rw [Program.run_except_bind]
  cases ended : (handler.run.run server).1 with
  | ok value => exact others value _
  | error response =>
      rw [ended] at head
      exact head

theorem sound_mapError (outcome : Except Failure α) :
    Sound (fun _ => True) (outcome.mapError Response.ofFailure) := by
  cases outcome with
  | ok value => trivial
  | error failure => exact ⟨failure, rfl⟩

theorem reports_require (outcome : Except Failure α) :
    Reports (fun _ => True) (require outcome) :=
  fun _ => sound_mapError outcome

theorem reports_perform (operation : Resolver.Operation Backend α) :
    Reports (fun _ => True) (perform operation) := by
  intro server
  change Sound _ ((Server.onNode operation.run >>= fun outcome =>
    pure (outcome.mapError Response.ofFailure) : Program Server _).run server).1
  rw [Program.run_bind]
  exact sound_mapError _

/-- A handler that ends by performing an operation and showing what came of it. -/
theorem reports_performed {operation : Resolver.Operation Backend α} {respond : α → Response}
    (status : Nat) (same : ∀ value, (respond value).status = status)
    (success : 200 ≤ status ∧ status < 300) :
    Reports IsSuccess (perform operation >>= fun value => pure (respond value)) :=
  reports_bind (reports_perform operation) fun value => reports_success status (same value) success

theorem reports_pathText (name : String) (captures : List String) :
    Reports (fun _ => True) (pathText name captures) := by
  unfold pathText
  dsimp only
  split
  · exact fun _ => trivial
  · exact reports_require _

theorem reports_numberField (name : String) (read? : String → Option α) (value : Option String) :
    Reports (fun _ => True) (numberField name read? value) := by
  unfold numberField
  split
  · exact fun _ => trivial
  · split
    · exact fun _ => trivial
    · exact reports_require _

theorem reports_checkCaller (setup : Setup) (surface : Surface) (request : Request) :
    Reports (fun _ => True) (checkCaller setup surface request) :=
  fun _ => sound_mapError _

/-- A handler that comes upon a repeated field ends there. -/
theorem run_queryFields (request : Request) (names : List String)
    (rest : List (Option String) → Handler β) (server : Server) :
    (queryFields request names >>= rest).run.run server =
      match (Query.ofText request.target.query).values names with
      | .ok fields => (rest fields).run.run server
      | .error name => (.error (repeatedField name), server) := by
  rw [Program.run_except_bind]
  have looked : (queryFields request names).run.run server =
      (((Query.ofText request.target.query).values names).mapError repeatedField, server) := rfl
  rw [looked]
  cases (Query.ofText request.target.query).values names <;> rfl

end Handler

/-! ## Repeated fields -/

/-- Whether the query of a request gives one of some fields more than once. -/
def Repeats (request : Request) (names : List String) : Prop :=
  ∃ name ∈ names, 1 < ((Query.ofText request.target.query).all name).length

instance (request : Request) (names : List String) : Decidable (Repeats request names) :=
  inferInstanceAs (Decidable (∃ name ∈ names, _))

/-- A query repeats one of some fields exactly if a reader of the fields comes upon it. -/
theorem repeats_iff {names : List String} : Repeats request names ↔
    ∃ name, (Query.ofText request.target.query).values names = .error name := by
  rw [Query.exists_values_eq_error_iff]
  rfl

/-- Whether the captured segment of a path is text. -/
def IsText (captures : List String) : Prop := (captured? captures).isSome = true

instance (captures : List String) : Decidable (IsText captures) :=
  inferInstanceAs (Decidable (_ = true))

/-- Whether a request comes upon a repeated field at an endpoint, once its caller is let in. -/
def Endpoint.StumblesOver (found : Match) (request : Request) : Endpoint → Prop
  | .list => Repeats request ["pageToken", "pageSize"]
  | .delete => IsText found.captures ∧ Repeats request ["expectedVersion"]
  | _ => False

/-- Whether a request is let in and then comes upon a repeated field. -/
def Stumbles (setup : Setup) (surface : Surface) (request : Request) (server : Server) : Prop :=
  setup.gate.MayManage server.node.now request.headers ∧ ∃ found endpoint,
    Asks surface request found endpoint ∧ endpoint.StumblesOver found request

/-! ## What handlers end with -/

/-- The handlers that do not read a query end in success or with the report of a failure. -/
theorem reports_handle (setup : Setup) (found : Match) (request : Request)
    (inside : endpoint.isGuarded surface = true) (lists : endpoint ≠ .list)
    (deletes : endpoint ≠ .delete) :
    Handler.Reports IsSuccess (handle setup surface found request endpoint) := by
  have caller := @Handler.reports_checkCaller setup
  cases endpoint with
  | list => exact absurd rfl lists
  | delete => exact absurd rfl deletes
  | resolve =>
      refine Handler.reports_bind (caller _ _) fun _ => ?_
      refine Handler.reports_bind (Handler.reports_pathText _ _) fun bpn => ?_
      exact Handler.reports_performed 200 (fun _ => rfl) (by decide)
  | resolveBatch =>
      refine Handler.reports_bind (caller _ _) fun _ => ?_
      refine Handler.reports_bind (Handler.reports_require _) fun bpns => ?_
      exact Handler.reports_performed 200 (fun _ => rfl) (by decide)
  | dump =>
      refine Handler.reports_bind (caller _ _) fun _ => ?_
      exact Handler.reports_performed 200 (fun _ => rfl) (by decide)
  | create =>
      refine Handler.reports_bind (caller _ _) fun _ => ?_
      refine Handler.reports_bind (Handler.reports_require _) fun mapping => ?_
      exact Handler.reports_performed 201 (fun _ => rfl) (by decide)
  | createBatch =>
      refine Handler.reports_bind (caller _ _) fun _ => ?_
      refine Handler.reports_bind (Handler.reports_require _) fun batch => ?_
      exact Handler.reports_performed 201 (fun _ => rfl) (by decide)
  | «show» | findByDid =>
      refine Handler.reports_bind (caller _ _) fun _ => ?_
      refine Handler.reports_bind (Handler.reports_pathText _ _) fun text => ?_
      exact Handler.reports_performed 200 (fun _ => rfl) (by decide)
  | replace =>
      refine Handler.reports_bind (caller _ _) fun _ => ?_
      refine Handler.reports_bind (Handler.reports_pathText _ _) fun bpn => ?_
      refine Handler.reports_bind (Handler.reports_require _) fun replacement => ?_
      refine Handler.reports_bind (Handler.reports_require _) fun expected => ?_
      exact Handler.reports_performed 200 (fun _ => rfl) (by decide)
  | version | liveness | readiness | health | metrics => cases surface <;> cases inside

/-- Whether what a handler came to is a response about a repeated field if that is what a request
stumbles over, and otherwise success or the report of a failure. -/
def Ends (stumbles : Prop) (outcome : Except Response Response) : Prop :=
  (stumbles ∧ ∃ name, outcome = .error (Handler.repeatedField name)) ∨
    (¬ stumbles ∧ Sound IsSuccess outcome)

theorem Ends.and {stumbles also : Prop} {outcome : Except Response Response} (holds : also)
    (ends : Ends stumbles outcome) : Ends (also ∧ stumbles) outcome := by
  rw [Ends, and_iff_right holds]
  exact ends

theorem ends_queryFields {names : List String} {rest : List (Option String) → Handler Response}
    (reports : ∀ fields, Handler.Reports IsSuccess (rest fields)) (server : Server) :
    Ends (Repeats request names)
      ((Handler.queryFields request names >>= rest).run.run server).1 := by
  rw [Handler.run_queryFields]
  cases read : (Query.ofText request.target.query).values names with
  | error name => exact Or.inl ⟨repeats_iff.mpr ⟨name, read⟩, name, rfl⟩
  | ok fields =>
      refine Or.inr ⟨fun repeats => ?_, reports fields server⟩
      rcases repeats_iff.mp repeats with ⟨name, failed⟩
      rw [read] at failed
      cases failed

theorem ends_pathText {stumbles : Prop} {name : String} {captures : List String}
    {rest : String → Handler Response} {server : Server}
    (ends : ∀ text, Ends stumbles ((rest text).run.run server).1) :
    Ends (IsText captures ∧ stumbles)
      ((Handler.pathText name captures >>= rest).run.run server).1 := by
  unfold Handler.pathText IsText captured?
  dsimp only
  cases Text.Utf8.read? (Text.Percent.decode (Text.Utf8.octets (captures.headD ""))) with
  | none => exact Or.inr ⟨fun both => (nomatch both.1), _, rfl⟩
  | some text => exact (ends text).and rfl

theorem ends_checkCaller {stumbles : Prop} {rest : Unit → Handler Response} {server : Server}
    (ends : ∀ between, Ends stumbles ((rest ()).run.run between).1) :
    Ends ((decision setup surface request server).isOk = true ∧ stumbles)
      ((Handler.checkCaller setup surface request >>= rest).run.run server).1 := by
  rcases run_checkCaller setup surface request rest server with ⟨between, _, ran⟩
  rw [ran]
  cases decision setup surface request server with
  | error failure => exact Or.inr ⟨fun both => (nomatch both.1), failure, rfl⟩
  | ok admission => exact (ends between).and rfl

/-- The handler of a guarded endpoint ends as it should, whatever it meets. -/
theorem handle_ends (setup : Setup) (found : Match) (request : Request)
    (inside : endpoint.isGuarded surface = true) (server : Server) :
    Ends ((decision setup surface request server).isOk = true ∧
        endpoint.StumblesOver found request)
      ((handle setup surface found request endpoint).run.run server).1 := by
  have others (lists : endpoint ≠ .list) (deletes : endpoint ≠ .delete)
      (never : ¬ endpoint.StumblesOver found request) :
      Ends ((decision setup surface request server).isOk = true ∧
          endpoint.StumblesOver found request)
        ((handle setup surface found request endpoint).run.run server).1 :=
    Or.inr ⟨fun both => never both.2,
      reports_handle setup found request inside lists deletes server⟩
  cases endpoint with
  | list =>
      cases surface with
      | directory => cases inside
      | management =>
          refine ends_checkCaller fun between => ends_queryFields (fun fields => ?_) between
          refine Handler.reports_bind (Handler.reports_numberField _ _ _) fun size => ?_
          exact Handler.reports_performed 200 (fun _ => rfl) (by decide)
  | delete =>
      cases surface with
      | directory => cases inside
      | management =>
          refine ends_checkCaller fun between => ends_pathText fun bpn => ?_
          refine ends_queryFields (fun fields => ?_) between
          refine Handler.reports_bind (Handler.reports_numberField _ _ _) fun explicit => ?_
          refine Handler.reports_bind (Handler.reports_require _) fun expected => ?_
          exact Handler.reports_performed 204 (fun _ => rfl) (by decide)
  | _ => exact others nofun nofun id

/-! ## Answers -/

theorem decision_isOk_iff {server : Server} :
    (decision setup .management request server).isOk = true ↔
      setup.gate.MayManage server.node.now request.headers :=
  Access.Gate.authorize_isOk_iff Surface.management.name

theorem stumbles_iff (asks : Asks surface request found endpoint)
    (inside : endpoint.isGuarded surface = true) {server : Server} :
    Stumbles setup surface request server ↔
      (decision setup surface request server).isOk = true ∧
        endpoint.StumblesOver found request := by
  have only : (∃ other also, Asks surface request other also ∧ also.StumblesOver other request) ↔
      endpoint.StumblesOver found request := by
    constructor
    · rintro ⟨other, also, asksAlso, stumbles⟩
      cases asks.matched.symm.trans asksAlso.matched
      cases asks.taken.symm.trans asksAlso.taken
      exact stumbles
    · exact fun stumbles => ⟨found, endpoint, asks, stumbles⟩
  rw [Stumbles, only]
  cases surface with
  | management => rw [decision_isOk_iff]
  | directory =>
      have never : ¬ endpoint.StumblesOver found request := by
        cases endpoint with
        | list | delete => cases inside
        | _ => exact id
      simp [never]

theorem isSuccess_preflight (surface : Surface) : IsSuccess (preflight surface) := by
  unfold IsSuccess
  cases surface <;> decide

/-- A response to a request for nothing is a report, unless it answers a question about what may
be sent. -/
theorem isReport_of_unasked (freshId : String) (wanted : request.method ≠ .head)
    {response : Response} (unasked : content setup surface request = pure response)
    (report : IsReport response) (server : Server)
    (failed : ¬ IsSuccess ((answer setup surface freshId request).run server).1) :
    IsReport ((answer setup surface freshId request).run server).1 := by
  rw [run_answer_of_unasked freshId unasked] at failed ⊢
  unfold turnedAway at failed ⊢
  split
  · next options =>
      rw [if_pos options, withoutUnwanted, if_neg wanted] at failed
      have answered := (IsDressedAs.withAllowance surface request (preflight surface)).trans
        (IsDressedAs.withRequestId freshId request _)
      exact absurd (answered.isSuccess (isSuccess_preflight surface)) failed
  · exact (IsDressedAs.sent wanted surface freshId response).isReport report

/-- A request for a guarded endpoint is sent what its handler ended with. -/
theorem answer_ends (setup : Setup) (freshId : String) (asks : Asks surface request found endpoint)
    (inside : endpoint.isGuarded surface = true) (server : Server) : ∃ outcome,
      ((answer setup surface freshId request).run server).1 =
          sent surface freshId request (ending outcome) ∧
        Ends (Stumbles setup surface request server) outcome := by
  rcases run_answer setup freshId asks server with ⟨started, _, begun, _, answered⟩
  have ends := handle_ends setup found request inside started
  rw [decision_of_onlyCounts begun, ← stumbles_iff asks inside] at ends
  exact ⟨_, congrArg Prod.fst answered, ends⟩

/-- Whatever is not served is reported as an object of a code that fits the status and a
message, unless the caller was let in and repeats a field of the query. -/
theorem isReport_iff (freshId : String) (wanted : request.method ≠ .head)
    (inner : ∀ found, route? surface request.target.path = some found →
      found.route ∉ operationalRoutes) (server : Server)
    (failed : ¬ IsSuccess ((answer setup surface freshId request).run server).1) :
    IsReport ((answer setup surface freshId request).run server).1 ↔
      ¬ Stumbles setup surface request server := by
  cases matched : route? surface request.target.path with
  | none =>
      have unasked := @content_of_unmatched setup surface request matched
      refine iff_of_true (isReport_of_unasked freshId wanted unasked
        (isReport_problem (by decide) _) server failed) ?_
      rintro ⟨_, found, endpoint, asks, _⟩
      exact absurd (matched.symm.trans asks.matched) nofun
  | some found =>
      cases taken : found.route.endpoint? request.method with
      | none =>
          have unasked := @content_of_untaken setup surface request found matched taken
          refine iff_of_true (isReport_of_unasked freshId wanted unasked
            (isReport_problem (by decide) _) server failed) ?_
          rintro ⟨_, other, endpoint, asks, _⟩
          cases matched.symm.trans asks.matched
          exact absurd (taken.symm.trans asks.taken) nofun
      | some endpoint =>
          have asks : Asks surface request found endpoint := ⟨matched, taken⟩
          rcases answer_ends setup freshId asks (asks.isGuarded (inner found matched)) server with
            ⟨outcome, answered, ends⟩
          rw [answered] at failed ⊢
          have dresses := IsDressedAs.sent wanted surface freshId (ending outcome)
          rcases ends with ⟨stumbles, name, rfl⟩ | ⟨goesOn, sound⟩
          · exact iff_of_false (plain_of_repeatedField dresses).2 (not_not_intro stumbles)
          · refine iff_of_true ?_ goesOn
            cases outcome with
            | ok response => exact absurd (dresses.isSuccess sound) failed
            | error response =>
                rcases sound with ⟨failure, rfl⟩
                exact dresses.isReport (isReport_ofFailure failure)

/-- A request with the key for management to delete a record at a version that it has not. -/
def staleDeletion : Request := { deletion with target := ⟨"/bpn/BPNL00000000000A", "expectedVersion=7"⟩ }

theorem stale_deletion_isReport :
    IsReport ((answer Setup.withKey .management "1" staleDeletion).run Server.withRecord).1 := by
  have asks : Asks .management staleDeletion
      ⟨⟨[.literal "bpn", .capture "bpn"], [(.get, .show), (.put, .replace), (.delete, .delete)]⟩,
        ["BPNL00000000000A"]⟩ .delete := ⟨by decide +kernel, rfl⟩
  have inner : ∀ found, route? .management staleDeletion.target.path = some found →
      found.route ∉ operationalRoutes := by
    intro found matched
    cases asks.matched.symm.trans matched
    decide
  have failed : ¬ IsSuccess
      ((answer Setup.withKey .management "1" staleDeletion).run Server.withRecord).1 := by
    unfold IsSuccess
    decide +kernel
  have wanted : staleDeletion.method ≠ .head := by decide
  refine (isReport_iff "1" wanted inner Server.withRecord failed).mpr fun stumbles => ?_
  have repeats := ((stumbles_iff asks rfl).mp stumbles).2.2
  exact absurd repeats (by decide +kernel)

/-- A request with the key for management for records, of which it gives the number twice. -/
def doubleListing : Request where
  method := .get
  target := ⟨"/bpn", "pageSize=1&pageSize=2"⟩
  headers := .addText .none "x-api-key" "0123456789abcdef"
  body := []

/-- Not every problem is reported: a list of records whose size is given twice is refused in plain
text. -/
theorem not_every_problem_isReport :
    ¬ ∀ (setup : Setup) (surface : Surface) (freshId : String) (request : Request)
      (server : Server), request.method ≠ .head →
      (∀ found, route? surface request.target.path = some found →
        found.route ∉ operationalRoutes) →
      ¬ IsSuccess ((answer setup surface freshId request).run server).1 →
      IsReport ((answer setup surface freshId request).run server).1 := by
  intro uniform
  have wanted : doubleListing.method ≠ .head := by decide
  have asks : Asks .management doubleListing
      ⟨⟨[.literal "bpn"], [(.post, .create), (.get, .list)]⟩, []⟩ .list := ⟨by decide +kernel, rfl⟩
  have inner : ∀ found, route? .management doubleListing.target.path = some found →
      found.route ∉ operationalRoutes := by
    intro found matched
    cases asks.matched.symm.trans matched
    decide
  have repeats : Repeats doubleListing ["pageToken", "pageSize"] := by decide +kernel
  have stumbles : Stumbles Setup.withKey .management doubleListing Server.withRecord :=
    (stumbles_iff asks rfl).mpr ⟨by decide +kernel, repeats⟩
  rcases answer_ends Setup.withKey "1" asks rfl Server.withRecord with ⟨outcome, answered, ends⟩
  rcases ends with ⟨_, name, rfl⟩ | ⟨goesOn, _⟩
  · have plain := plain_of_repeatedField
      (IsDressedAs.sent wanted .management "1" (Handler.repeatedField name))
    have report := uniform Setup.withKey .management "1" doubleListing Server.withRecord wanted inner
    rw [answered] at report
    exact plain.2 (report plain.1)
  · exact absurd stumbles goesOn

end Service
end BpnDirectory
