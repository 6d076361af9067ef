import BpnDirectory.Proofs.Http.Condition
import BpnDirectory.Proofs.Service.Locks

namespace BpnDirectory
namespace Service

/-!
Entity tags as locks.

A response that shows a record carries an entity tag.  A later request may depend on it, be it
written as it came, as a weak tag or as a bare number: the change that the request asks for is
made exactly if the record still has the version of the tag.  A version that a request names
outside of its header goes before any tag.
-/

open Http (Request Response)
open Resolver (Node Operation)
open Store (Backend Held LawfulStore MappingStore)

variable {setup : Setup} {request : Request} {bpn did : String} {server : Server}

/-! ## What operations tell -/

/-- Whether an operation that succeeds tells the record of a BPN as it is held from then on. -/
def Tells (bpn : String) (operation : Operation Backend Record) : Prop :=
  ∀ node record, (operation.run.run node).1 = .ok record →
    LawfulStore.held (operation.run.run node).2.store bpn = some (.ofRecord record)

theorem tells_check_bind {outcome : Except Failure Unit} {rest : Unit → Operation Backend Record}
    (passed : outcome = .ok () → Tells bpn (rest ())) :
    Tells bpn (Operation.check outcome >>= rest) := by
  cases outcome with
  | ok _ => exact passed rfl
  | error failure => exact fun _ _ told => nomatch told

theorem tells_of_comesTo {operation : Operation Backend Record}
    {outcome : Node Backend → Except Failure Record} {store : Node Backend → Backend}
    (comes : ∀ node, Operation.ComesTo operation node (outcome node) (store node))
    (tells : ∀ node record, outcome node = .ok record →
      LawfulStore.held (store node) bpn = some (.ofRecord record)) : Tells bpn operation := by
  intro node record told
  rw [(comes node).ends] at told
  rw [(comes node).leaves]
  exact tells node record told

/-- A change of a mapping tells the record that it commits. -/
theorem held_of_told {now : Time.Instant} {expected : Option Int} {store : Backend} {record : Record}
    (told : (MappingStore.put now bpn did expected store).1.map Committed.value = .ok record) :
    LawfulStore.held (MappingStore.put now bpn did expected store).2 bpn =
      some (.ofRecord record) := by
  cases put : (MappingStore.put now bpn did expected store).1 with
  | error failure =>
      rw [put] at told
      cases told
  | ok committed =>
      rw [put] at told
      cases told
      exact Backend.held_of_put put

theorem tells_register (policy : Resolver.Policy) (bpn did : String) :
    Tells bpn (Resolver.register policy bpn did) := by
  refine tells_check_bind fun validBpn => tells_check_bind fun validDid => ?_
  have comes := Resolver.comesTo_register (S := Backend) policy validBpn validDid
  rw [Resolver.register, validBpn, validDid] at comes
  exact tells_of_comesTo comes fun _ _ => held_of_told

theorem tells_rotate (policy : Resolver.Policy) (bpn did : String) (expected : Int) :
    Tells bpn (Resolver.rotate policy bpn did expected) := by
  refine tells_check_bind fun validBpn => tells_check_bind fun validDid => ?_
  have comes := Resolver.comesTo_rotate (S := Backend) policy validBpn validDid expected
  rw [Resolver.rotate, validBpn, validDid] at comes
  exact tells_of_comesTo comes fun _ _ => held_of_told

theorem tells_record (policy : Resolver.Policy) (bpn : String) :
    Tells bpn (Resolver.record policy bpn) := by
  refine tells_check_bind fun valid => ?_
  have comes := Resolver.comesTo_record (S := Backend) policy valid
  rw [Resolver.record, valid] at comes
  exact tells_of_comesTo comes fun _ _ => LawfulStore.get_found

/-! ## What responses show -/

/-- Whether what a handler came to is a response that shows the record of a BPN as it is held
then, or the report of a failure. -/
def Shows (bpn : String) (result : Except Response Response × Server) : Prop :=
  match result.1 with
  | .ok response => ∃ status record, response = recordResponse status record ∧
      result.2.held bpn = some (.ofRecord record)
  | .error response => ∃ failure, response = .ofFailure failure

theorem shows_perform {operation : Operation Backend Record} (tells : Tells bpn operation)
    (status : Nat) (server : Server) :
    Shows bpn ((Handler.perform operation >>= fun record =>
      pure (recordResponse status record) : Handler Response).run.run server) := by
  rw [Program.run_except_bind, run_perform]
  cases told : (operation.run.run server.node).1 with
  | ok record => exact ⟨status, record, rfl, tells server.node record told⟩
  | error failure => exact ⟨failure, rfl⟩

theorem shows_bind {α : Type} {handler : Handler α} {rest : α → Handler Response}
    (reports : Handler.Reports (fun _ => True) handler)
    (others : ∀ value after, Shows bpn ((rest value).run.run after)) (server : Server) :
    Shows bpn ((handler >>= rest).run.run server) := by
  have head := reports server
  rw [Program.run_except_bind]
  cases ended : (handler.run.run server).1 with
  | ok value => exact others value _
  | error response =>
      rw [ended] at head
      exact head

/-- Whether a request asks management for something that is answered with the record of a BPN. -/
inductive AsksForRecord (request : Request) (bpn : String) : Prop
  | create {found : Match} {mapping : NewMapping} (asks : Asks .management request found .create)
      (read : Payload.ofRequest Payload.readMapping request = .ok mapping)
      (named : mapping.bpn = bpn)
  | «show» {found : Match} (asks : Asks .management request found .show)
      (named : captured? found.captures = some bpn)
  | replace {found : Match} (asks : Asks .management request found .replace)
      (named : captured? found.captures = some bpn)

theorem AsksForRecord.exists_asks (asks : AsksForRecord request bpn) : ∃ found endpoint,
    Asks .management request found endpoint ∧ ∀ setup server,
      Shows bpn ((handle setup .management found request endpoint).run.run server) := by
  cases asks with
  | @create found mapping asks read named =>
      refine ⟨found, .create, asks, fun setup server => ?_⟩
      refine shows_bind (Handler.reports_checkCaller _ _ _) (fun _ after => ?_) server
      simp only [read, require_ok, pure_bind_handler]
      subst named
      exact shows_perform (tells_register setup.policy mapping.bpn mapping.did) 201 after
  | @«show» found asks named =>
      refine ⟨found, .show, asks, fun setup server => ?_⟩
      refine shows_bind (Handler.reports_checkCaller _ _ _) (fun _ after => ?_) server
      simp only [pathText_of_captured named, pure_bind_handler]
      exact shows_perform (tells_record setup.policy bpn) 200 after
  | @replace found asks named =>
      refine ⟨found, .replace, asks, fun setup server => ?_⟩
      refine shows_bind (Handler.reports_checkCaller _ _ _) (fun _ after => ?_) server
      simp only [pathText_of_captured named, pure_bind_handler]
      refine shows_bind (Handler.reports_require _) (fun replacement after => ?_) after
      refine shows_bind (Handler.reports_require _) (fun expected after => ?_) after
      exact shows_perform (tells_rotate setup.policy bpn replacement.did expected) 200 after

/-- A tag that comes with a response is that of the version that is held then. -/
theorem exists_version_of_tagged (asks : AsksForRecord request bpn) (freshId : String)
    (server : Server) {tag : String}
    (tagged : ((answer setup .management freshId request).run server).1.headers.find? "etag" =
      some (Text.Utf8.octets tag)) :
    ∃ version, tag = entityTag version ∧
      Held.IsAt version (((answer setup .management freshId request).run server).2.held bpn) := by
  rcases asks.exists_asks with ⟨found, endpoint, asked, shows⟩
  rcases run_answer setup freshId asked server with ⟨started, finished, _, counts, answered⟩
  have shown := shows setup started
  rw [answered] at tagged ⊢
  rw [find?_sent (by decide)] at tagged
  rw [counts.held_eq bpn]
  generalize (handle setup .management found request endpoint).run.run started = result at *
  rcases result with ⟨response | response, after⟩
  · rcases shown with ⟨failure, rfl⟩
    cases tagged
  · rcases shown with ⟨status, record, rfl, holds⟩
    refine ⟨record.version, ?_, congrArg (Option.map Held.version) holds⟩
    exact (Text.Utf8.octets_inj.mp (Option.some.inj tagged)).symm

/-! ## Tags as locks -/

/-- A condition that is made of the tag of a version, as it came, as a weak tag, or as the bare
number, is read as that version. -/
theorem expectedVersion_of_condition {version : Int} {condition : String}
    (made : condition ∈ [entityTag version, "W/" ++ entityTag version, toString version])
    (above : Text.minSigned64 ≤ version) (below : version ≤ Text.maxSigned64)
    (given : request.headers.find? "if-match" = some (Text.Utf8.octets condition)) :
    expectedVersion none request = .ok version := by
  have spelled : condition ∈ Http.spellings version := made
  simp only [expectedVersion, Http.expectedVersion_of_spelling spelled above below given]
  rfl

/-- A request with the key for management for a record. -/
def showing : Request where
  method := .get
  target := ⟨"/bpn/BPNL00000000000A", ""⟩
  headers := .addText .none "x-api-key" "0123456789abcdef"
  body := []

/-- A request with the key for management to delete a record if it has a weak tag. -/
def weakDeletion : Request where
  method := .delete
  target := ⟨"/bpn/BPNL00000000000A", ""⟩
  headers := (Http.Headers.none.addText "x-api-key" "0123456789abcdef").addText "if-match" "W/\"1\""
  body := []

theorem isReached_withRecord : Server.withRecord.IsReached Setup.withKey := by
  refine ⟨.memory, ⟨.start (Backend.fresh .memory) ⟨true, 4, 1, none⟩ Store.Request.noon, .empty,
    .empty⟩, rfl, .single ?_⟩
  exact .shares (.put Store.Request.noon "BPNL00000000000A" "did:web:first" none)

end Service
end BpnDirectory
