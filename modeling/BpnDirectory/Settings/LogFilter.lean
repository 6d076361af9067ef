import BpnDirectory.Pattern.Support
import BpnDirectory.Text.Excerpt
import BpnDirectory.Text.Real

namespace BpnDirectory
namespace LogFilter

/-!
Filters for log records.

A filter is a list of directives with commas between them.  A directive is a
level, the name of a target, or a target with the level for it behind an equals
sign; without a level, a target is logged at every level.  In place of the target
or behind it, brackets may name a span, and braces in them fields of the span.
Only whether a text is a filter matters here, since the log itself goes nowhere
that a caller could see.

The parts of a directive are told apart without the blanks around it, but each of
them is then read from the text with the blanks, as far from its start.  So a level
allows no blanks, and blanks in front move the field that is looked at.
-/

def levels : List String := ["off", "error", "warn", "info", "debug", "trace"]

/-- Whether a text names a level.  Levels have names, in which the case of
letters does not matter, and the numbers from zero to five. -/
def isLevel (text : String) : Bool :=
  levels.contains text.toLower || (Text.natural? 5 text).isSome

/-- Whether a directive without a span may start with a character. -/
def isTargetStart (c : Char) : Bool :=
  Text.isAlphanumeric c || c == '-' || c == ':' || c == '_'

/-- Whether a field may be asked to have a value: a number or a regular expression. -/
def isValue (value : List Char) : Bool :=
  Text.isReal value || Pattern.accepts value

/-- Whether a text names a field, perhaps with the value that it has to have behind an
equals sign.  What stands behind a second equals sign is not looked at. -/
def isField (text : List Char) : Bool :=
  !text.isEmpty &&
    match Text.parts '=' text with
    | _ :: value :: _ => isValue value
    | _ => true

/-- The part of a directive that is being read. -/
inductive Part where
  | start
  /-- A target, or a level alone. -/
  | target
  | span
  /-- The field of a span, and where it starts. -/
  | field (first : Nat)
  /-- Behind the field, where the span has to end. -/
  | fieldEnd
  /-- Behind the span. -/
  | spanEnd
  /-- The level for what was named, and where it starts. -/
  | level (first : Nat)
  deriving DecidableEq, Repr

/-- The part of a directive behind a character at some place. -/
def Part.step? (text : List Char) (place : Nat) : Part → Char → Option Part
  | .start, '[' => some .span
  | .start, c => if isTargetStart c then some .target else none
  | .target, '=' => some (.level (place + 1))
  | .target, '[' => some .span
  | .target, _ => some .target
  | .span, ']' => some .spanEnd
  | .span, '\x7b' => some (.field (place + 1))
  | .span, _ => some .span
  | .field first, '\x7d' =>
    if isField (Text.excerpt first place text) then some .fieldEnd else none
  | .field first, _ => some (.field first)
  | .fieldEnd, ']' => some .spanEnd
  | .fieldEnd, _ => none
  | .spanEnd, '=' => some (.level (place + 1))
  | .spanEnd, _ => none
  | .level first, _ => some (.level first)

/-- The part of a directive behind characters that start at some place. -/
def Part.run? (text : List Char) (place : Nat) (part : Part) : List Char → Option Part
  | [] => some part
  | c :: rest => (part.step? text place c).bind fun part => part.run? text (place + c.utf8Size) rest

def isDirective (text : List Char) : Bool :=
  match Part.start.run? text 0 (Text.trimChars text) with
  | some .target | some .spanEnd => true
  | some (.level first) =>
    let level := Text.excerpt first (Text.octetLength text) text
    level.isEmpty || isLevel (String.ofList level)
  | _ => false

/-- Whether a text is a filter.  What stands between two commas may be empty. -/
def isFilter (text : String) : Bool :=
  (Text.parts ',' text.toList).all fun part => part.isEmpty || isDirective part

end LogFilter
end BpnDirectory
