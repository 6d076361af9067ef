import BpnDirectory.Http.Condition
import BpnDirectory.Resolver.Reads
import BpnDirectory.Resolver.Writes
import BpnDirectory.Service.Handler
import BpnDirectory.Service.Payload

namespace BpnDirectory
namespace Service

/-!
What those who manage records ask for.

A response that shows one record carries its version as entity tag.  A request
that replaces or deletes a record has to say which version it means; what it says
in its body or query goes before the header field for conditions.  Every handler looks
at the caller before anything else of the request.
-/

open Http (Request Response)

def entityTag (version : Int) : String := s!"\"{version}\""

def recordResponse (status : Nat) (record : Record) : Response :=
  (Response.data status record.toData).withHeader "etag" (entityTag record.version)

def recordsData (records : List Record) : Json.Data :=
  .list (records.map Record.toData)

/-- The version that a request expects, with the one that it names outside of the
header. -/
def expectedVersion (explicit : Option Int) (request : Request) : Except Failure Int :=
  match explicit with
  | some version => .ok version
  | none => do
    match ← Http.expectedVersion request.headers with
    | some version => .ok version
    | none => .error (.invalidInput "expectedVersion is required (body, query or If-Match)")

def create (setup : Setup) (request : Request) : Handler Response := do
  Handler.checkCaller setup .management request
  let mapping ← Handler.require (Payload.ofRequest Payload.readMapping request)
  let record ← Handler.perform (Resolver.register setup.policy mapping.bpn mapping.did)
  return recordResponse 201 record

def createBatch (setup : Setup) (request : Request) : Handler Response := do
  Handler.checkCaller setup .management request
  let batch ← Handler.require (Payload.ofRequest Payload.readMappings request)
  let records ← Handler.perform (Resolver.registerBatch setup.policy batch)
  return .data 201 (.fields [("records", recordsData records)])

def showRecord (setup : Setup) (captures : List String) (request : Request) :
    Handler Response := do
  Handler.checkCaller setup .management request
  let bpn ← Handler.pathText "bpn" captures
  let record ← Handler.perform (Resolver.record setup.policy bpn)
  return recordResponse 200 record

def replace (setup : Setup) (captures : List String) (request : Request) :
    Handler Response := do
  Handler.checkCaller setup .management request
  let bpn ← Handler.pathText "bpn" captures
  let replacement ← Handler.require (Payload.ofRequest Payload.readReplacement request)
  let expected ← Handler.require (expectedVersion replacement.expected request)
  let record ← Handler.perform (Resolver.rotate setup.policy bpn replacement.did expected)
  return recordResponse 200 record

def delete (setup : Setup) (captures : List String) (request : Request) :
    Handler Response := do
  Handler.checkCaller setup .management request
  let bpn ← Handler.pathText "bpn" captures
  let fields ← Handler.queryFields request ["expectedVersion"]
  let explicit ← Handler.numberField "expectedVersion" Text.signed64? (fields.headD none)
  let expected ← Handler.require (expectedVersion explicit request)
  Handler.perform (Resolver.remove setup.policy bpn expected)
  return .bare 204

def list (setup : Setup) (request : Request) : Handler Response := do
  Handler.checkCaller setup .management request
  let fields ← Handler.queryFields request ["pageToken", "pageSize"]
  let size ← Handler.numberField "pageSize" Text.unsigned64? (fields.getD 1 none)
  let token := (fields.headD none).filter fun text => !text.isEmpty
  let page ← Handler.perform (Resolver.list setup.policy token (size.map UInt64.ofNat))
  return .data 200 page.toData

def findByDid (setup : Setup) (captures : List String) (request : Request) :
    Handler Response := do
  Handler.checkCaller setup .management request
  let did ← Handler.pathText "did" captures
  let records ← Handler.perform (Resolver.findByDid setup.policy did)
  return .data 200 (.fields [("did", .string did), ("records", recordsData records)])

end Service
end BpnDirectory
