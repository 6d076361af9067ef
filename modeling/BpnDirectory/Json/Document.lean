import BpnDirectory.Json.Token
import BpnDirectory.Text.Utf8

namespace BpnDirectory
namespace Json

/-!
The document that a text holds.

The reader keeps the arrays and objects that are still open on a stack, so a
text may nest them as deeply as it likes.
-/

/-- An array or object that is still open, its parts last to first. -/
inductive Frame where
  | array (items : List Value)
  /-- An object, with the key whose value is being read. -/
  | object (members : List (Option String × Value)) (key : Option (Option String))

/-- What may come next inside the innermost frame. -/
inductive Expected where
  | item
  | itemOrEnd
  | key
  | keyOrEnd
  | colon
  | separator

inductive Progress where
  | reading (frames : List Frame) (expected : Expected)
  | finished (document : Document)

/-- The value that stands when a text breaks off inside frames, `inner` being
what was read inside the innermost one. -/
def abandon : List Frame → Option Value → Value
  | [], inner => inner.getD .broken
  | .array items :: rest, inner =>
    abandon rest (some (.array (inner.toList ++ items).reverse false))
  | .object members none :: rest, _ =>
    abandon rest (some (.object members.reverse false))
  | .object members (some key) :: rest, inner =>
    abandon rest (some (.object ((key, inner.getD .broken) :: members).reverse false))

def Progress.breakOff (frames : List Frame) : Progress :=
  .finished ⟨abandon frames none, false⟩

def Progress.complete (frames : List Frame) (value : Value) : Progress :=
  match frames with
  | [] => .finished ⟨value, false⟩
  | .array items :: rest => .reading (.array (value :: items) :: rest) .separator
  | .object members (some key) :: rest =>
    .reading (.object ((key, value) :: members) none :: rest) .separator
  | .object _ none :: _ => .breakOff frames

/-- The progress after a token where a value may stand. -/
def Progress.item (frames : List Frame) (mayEnd : Bool) : Token → Progress
  | .null => .complete frames .null
  | .bool value => .complete frames (.bool value)
  | .number literal => .complete frames (.number literal)
  | .string content => .complete frames (.string content)
  | .arrayOpen => .reading (.array [] :: frames) .itemOrEnd
  | .objectOpen => .reading (.object [] none :: frames) .keyOrEnd
  | .arrayClose =>
    match mayEnd, frames with
    | true, .array items :: rest => .complete rest (.array items.reverse true)
    | _, _ => .breakOff frames
  | _ => .breakOff frames

/-- The progress after a token where a key may stand. -/
def Progress.key (frames : List Frame) (mayEnd : Bool) : Token → Progress
  | .string content =>
    match frames with
    | .object members none :: rest =>
      .reading (.object members (some content.text?) :: rest) .colon
    | _ => .breakOff frames
  | .objectClose =>
    match mayEnd, frames with
    | true, .object members none :: rest => .complete rest (.object members.reverse true)
    | _, _ => .breakOff frames
  | _ => .breakOff frames

/-- The progress after a token that stands behind a complete part. -/
def Progress.separator (frames : List Frame) : Token → Progress
  | .comma =>
    match frames with
    | .array _ :: _ => .reading frames .item
    | .object .. :: _ => .reading frames .key
    | [] => .breakOff frames
  | .arrayClose =>
    match frames with
    | .array items :: rest => .complete rest (.array items.reverse true)
    | _ => .breakOff frames
  | .objectClose =>
    match frames with
    | .object members none :: rest => .complete rest (.object members.reverse true)
    | _ => .breakOff frames
  | _ => .breakOff frames

/-- The progress after one more token. -/
def Progress.step (progress : Progress) (token : Token) : Progress :=
  match progress with
  | .finished document => .finished { document with trailing := true }
  | .reading frames .item => .item frames false token
  | .reading frames .itemOrEnd => .item frames true token
  | .reading frames .key => .key frames false token
  | .reading frames .keyOrEnd => .key frames true token
  | .reading frames .colon =>
    match token with
    | .colon => .reading frames .item
    | _ => .breakOff frames
  | .reading frames .separator => .separator frames token

/-- The document of a text that ends here. -/
def Progress.document : Progress → Document
  | .finished document => document
  | .reading frames _ => ⟨abandon frames none, false⟩

def Document.ofTokens (tokens : List Token) : Document :=
  (tokens.foldl Progress.step (.reading [] .item)).document

def Document.ofText (text : String) : Document :=
  .ofTokens (lex (text.toList.map some))

def Document.ofOctets (octets : List UInt8) : Document :=
  .ofTokens (lex (Text.Utf8.read octets))

end Json
end BpnDirectory
