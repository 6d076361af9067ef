import BpnDirectory.Failure
import BpnDirectory.Text.Base64

namespace BpnDirectory
namespace PageToken

/-!
Page tokens.

A token names the last key of a page.  Clients hand it back as they got it, so
it is written in characters that no query string alters.
-/

/-- The token of a page that ends with a key. -/
def encode (lastKey : String) : String :=
  Text.Base64Url.encode lastKey

def decode (token : String) : Except Failure String :=
  match Text.Base64Url.decodeText token with
  | some key => .ok key
  | none => .error (.invalidInput "Malformed page token")

end PageToken
end BpnDirectory
