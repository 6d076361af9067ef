import BpnDirectory.Text.Parts

namespace BpnDirectory
namespace Http

/-!
Path templates.

A template is a sequence of segments, one of which may take any text that is not
empty.  Paths are compared as they were written, before any decoding, so a slash
that is percent-encoded does not part segments, and a slash too many is no match.
-/

inductive Segment where
  | literal (text : String)
  /-- Takes the text of a segment under a name. -/
  | capture (name : String)
  deriving DecidableEq, Repr

abbrev Template := List Segment

namespace Template

def segmentText : Segment → String
  | .literal text => text
  | .capture name => "\x7b" ++ name ++ "\x7d"

def text (template : Template) : String :=
  "".intercalate (template.map fun segment => "/" ++ segmentText segment)

/-- The texts that a template takes from segments, if it takes them all. -/
def takeIn? : Template → List String → Option (List String)
  | [], [] => some []
  | .literal text :: later, part :: parts =>
    if part = text then takeIn? later parts else none
  | .capture _ :: later, part :: parts =>
    if part.isEmpty then none else (takeIn? later parts).map (part :: ·)
  | _, _ => none

/-- The segments of a path that begins at the root. -/
def segments? (path : String) : Option (List String) :=
  match path.toList with
  | '/' :: rest => some ((Text.parts '/' rest).map String.ofList)
  | _ => none

/-- The texts that a template takes from a path, if the path is of its form. -/
def captures? (template : Template) (path : String) : Option (List String) :=
  (segments? path).bind template.takeIn?

end Template
end Http
end BpnDirectory
