import BpnDirectory.Failure
import BpnDirectory.Http.Headers
import BpnDirectory.Http.Target
import BpnDirectory.Json.Writer

namespace BpnDirectory
namespace Http

/-!
Requests and responses.

A response keeps its content as data as long as it can.  A content coding is a
header field only: compression loses nothing, so the content stands for its
compressed form.
-/

/-- Request methods.  Their names are written exactly. -/
inductive Method where
  | get
  | head
  | post
  | put
  | delete
  | options
  | other (name : String)
  deriving DecidableEq, Repr

namespace Method

def name : Method → String
  | .get => "GET"
  | .head => "HEAD"
  | .post => "POST"
  | .put => "PUT"
  | .delete => "DELETE"
  | .options => "OPTIONS"
  | .other name => name

/-- The method with a name, which has to be a token. -/
def ofName? (name : String) : Option Method :=
  match name with
  | "GET" => some .get
  | "HEAD" => some .head
  | "POST" => some .post
  | "PUT" => some .put
  | "DELETE" => some .delete
  | "OPTIONS" => some .options
  | _ => if isToken name then some (.other name) else none

end Method

structure Request where
  method : Method
  target : Target
  headers : Headers
  body : List UInt8

inductive Body where
  | empty
  | data (content : Json.Data)
  | text (content : String)

namespace Body

def toText : Body → String
  | .empty => ""
  | .data content => content.toText
  | .text content => content

def size (body : Body) : Nat := body.toText.utf8ByteSize

end Body

structure Response where
  status : Nat
  headers : Headers
  body : Body

namespace Response

def bare (status : Nat) : Response := ⟨status, .none, .empty⟩

/-- Stands for no response at all: whoever was to make it broke down. -/
def missing : Response := bare 0

def isMissing (response : Response) : Bool := response.status == 0

def withHeader (response : Response) (name text : String) : Response :=
  { response with headers := response.headers.addText name text }

def data (status : Nat) (content : Json.Data) : Response :=
  { (bare status).withHeader "content-type" "application/json" with body := .data content }

def text (status : Nat) (type content : String) : Response :=
  { (bare status).withHeader "content-type" type with body := .text content }

/-- What callers see of a problem: a code and a message. -/
def problem (status : Nat) (code message : String) : Response :=
  data status (.fields [("error", .string code), ("message", .string message)])

def ofFailure (failure : Failure) : Response :=
  problem failure.status failure.code failure.publicMessage

end Response
end Http
end BpnDirectory
