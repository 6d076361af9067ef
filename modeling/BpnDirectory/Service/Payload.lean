import BpnDirectory.Http.MediaType
import BpnDirectory.Http.Message
import BpnDirectory.Json.Reading
import BpnDirectory.Mapping.Record

namespace BpnDirectory
namespace Service
namespace Payload

/-!
What clients send in the body of a request.

A body has to be announced as JSON, must not be too large and has to hold the data
that the endpoint wants.  The three are looked at in this order.
-/

open Http (MediaType Request)
open Json (Fault Value Reading)

def greatestSize : Nat := 2 * 1024 * 1024

def faultMessage : Fault → String
  | .malformed => "Failed to parse the request body as JSON: it is malformed"
  | .mismatch =>
    "Failed to deserialize the JSON body into the target type: it is of another form"

def ofRequest {α : Type} (read : Value → Reading α) (request : Request) : Except Failure α :=
  if !(MediaType.ofHeaders? request.headers).any MediaType.isJson then
    .error (.invalidInput "Expected request with `Content-Type: application/json`")
  else if request.body.length > greatestSize then
    .error (.invalidInput "Failed to buffer the request body: length limit exceeded")
  else
    ((Json.Document.ofOctets request.body).read read).mapError fun fault =>
      .invalidInput (faultMessage fault)

/-- The fields of a mapping as far as they have been read. -/
structure MappingFields where
  bpn : Option String
  did : Option String

/-- Reads a mapping that is to be created. -/
def readMapping : Value → Reading NewMapping :=
  let assign (fields : MappingFields) (name : String) (value : Value) :
      Reading MappingFields :=
    match name with
    | "bpn" => return { fields with bpn := ← Value.once fields.bpn Value.text value }
    | "did" => return { fields with did := ← Value.once fields.did Value.text value }
    | _ => value.skip.map fun _ => fields
  let finish : MappingFields → Reading NewMapping
    | ⟨some bpn, some did⟩ => .ok ⟨bpn, did⟩
    | _ => .error .mismatch
  Value.record ["bpn", "did"] ⟨none, none⟩ assign finish

/-- A new DID for a record, perhaps with the version that the record must have. -/
structure Replacement where
  did : String
  expected : Option Int
  deriving DecidableEq, Repr

/-- The fields of a replacement as far as they have been read. -/
structure ReplacementFields where
  did : Option String
  expected : Option (Option Int)

/-- Reads a replacement. -/
def readReplacement : Value → Reading Replacement :=
  let assign (fields : ReplacementFields) (name : String) (value : Value) :
      Reading ReplacementFields :=
    match name with
    | "did" => return { fields with did := ← Value.once fields.did Value.text value }
    | "expectedVersion" =>
      return { fields with
        expected := ← Value.once fields.expected (Value.optional Value.signed) value }
    | _ => value.skip.map fun _ => fields
  let finish (fields : ReplacementFields) : Reading Replacement :=
    match fields.did with
    | some did => .ok ⟨did, fields.expected.join⟩
    | none => .error .mismatch
  Value.record ["did", "expectedVersion"] ⟨none, none⟩ assign finish

/-- Reads a list under a name. -/
def readListed {α : Type} (name : String) (read : Value → Reading α) :
    Value → Reading (List α) :=
  let assign (items : Option (List α)) (field : String) (value : Value) :
      Reading (Option (List α)) :=
    if field = name then Value.once items (Value.list read) value
    else value.skip.map fun _ => items
  let finish : Option (List α) → Reading (List α)
    | some items => .ok items
    | none => .error .mismatch
  Value.record [name] none assign finish

def readBpns : Value → Reading (List String) := readListed "bpns" Value.text

def readMappings : Value → Reading (List NewMapping) := readListed "entries" readMapping

end Payload
end Service
end BpnDirectory
