import BpnDirectory.Resolver.Reads
import BpnDirectory.Service.Handler
import BpnDirectory.Service.Payload

namespace BpnDirectory
namespace Service

/-!
What members ask for: the DIDs of BPNs, one by one, in batches or all of them.  Every
handler looks at the caller before anything else of the request.
-/

open Http (Request Response)
open Resolver (BatchOutcome)

def outcomeData : BatchOutcome → Json.Data
  | .found did => .fields [("status", .string "FOUND"), ("did", .string did)]
  | .notFound => .fields [("status", .string "NOT_FOUND")]
  | .invalidInput message =>
    .fields [("status", .string "INVALID_INPUT"), ("message", .string message)]

def resolve (setup : Setup) (captures : List String) (request : Request) :
    Handler Response := do
  Handler.checkCaller setup .directory request
  let bpn ← Handler.pathText "bpn" captures
  let did ← Handler.perform (Resolver.resolve setup.policy bpn)
  return .data 200 (.fields [("bpn", .string bpn), ("did", .string did)])

/-- Answers with the DIDs of several BPNs. -/
def resolveBatch (setup : Setup) (request : Request) : Handler Response := do
  Handler.checkCaller setup .directory request
  let bpns ← Handler.require (Payload.ofRequest Payload.readBpns request)
  let outcomes ← Handler.perform (Resolver.resolveBatch setup.policy bpns)
  let results := outcomes.entries.map fun entry => (entry.1, outcomeData entry.2)
  return .data 200 (.fields [("results", .fields results)])

/-- Answers with the dump of the directory, which is kept in compressed form. -/
def dumpDirectory (setup : Setup) (surface : Access.Surface) (request : Request) :
    Handler Response := do
  Handler.checkCaller setup surface request
  let dump ← Handler.perform (Resolver.dumpDirectory setup.policy)
  return (Response.text 200 "application/json" dump.text).withHeader "content-encoding" "gzip"

end Service
end BpnDirectory
