import BpnDirectory.Http.Headers
import BpnDirectory.Text.Blank
import BpnDirectory.Text.Parts

namespace BpnDirectory
namespace Access

/-!
Credentials of a request.

A request carries at most one credential that counts.  A bearer token goes before
an API key; an authorization header of another scheme, or one without a token, is
as good as none, so that the API key is still looked at.
-/

inductive Credential where
  | bearer (token : String)
  | apiKey (key : String)
  deriving DecidableEq, Repr

/-- A text without the blanks around it, unless nothing else is left. -/
def filledText? (text : String) : Option String :=
  let trimmed := Text.trim text
  if trimmed.isEmpty then none else some trimmed

def bearerToken? (headers : Http.Headers) : Option String := do
  let value ← headers.text? "authorization"
  let (scheme, token) ← Text.cut? ' ' value.toList
  if (String.ofList scheme).toLower = "bearer" then filledText? (String.ofList token) else none

def apiKey? (headers : Http.Headers) : Option String :=
  (headers.text? "x-api-key").bind filledText?

def Credential.ofHeaders? (headers : Http.Headers) : Option Credential :=
  match bearerToken? headers with
  | some token => some (.bearer token)
  | none => (apiKey? headers).map .apiKey

end Access
end BpnDirectory
