namespace BpnDirectory
namespace Json

/-!
JSON values as they stand in a text.

A text is read in two moves: first its shape, into the values of this module,
and then its meaning, by the reader of the data that the text is to hold.  The
text may break off or go wrong at some place, and a reader may find another
fault before it gets there; so the shape keeps what stands before that place and
marks every array and object that was not closed.
-/

/-- A number as written.  The digits of each part are kept last to first. -/
structure Literal where
  negative : Bool
  whole : List Char
  fraction : List Char
  /-- The sign of the exponent and its digits. -/
  exponent : Option (Bool × List Char)
  /-- Whether a decimal point was written. -/
  pointed : Bool
  deriving Repr

/-- What may be wrong with a string. -/
inductive Flaw where
  /-- Some octets are no UTF-8. -/
  | octets
  /-- An escape gives one half of a surrogate pair.  `atEnd` says that it is the first
  half and that the string ends where the second should be. -/
  | half (atEnd : Bool)
  deriving DecidableEq, Repr

/-- What stands between the quotes of a string. -/
inductive Content where
  | text (characters : String)
  | flawed (flaw : Flaw)
  deriving DecidableEq, Repr

def Content.text? : Content → Option String
  | .text characters => some characters
  | .flawed _ => none

/-- Whether a reader that wants the text of a content stands behind the string in any
case.  It looks at the octets of a string when it has all of them, but takes every
escape as it comes, and stops behind the character that it finds in the place of a
missing half. -/
def Content.isPassed : Content → Bool
  | .flawed (.half atEnd) => atEnd
  | _ => true

/-- A value as it stands in a text.  A flaw in a string matters only to a reader
that wants its text. -/
inductive Value where
  | null
  | bool (value : Bool)
  | number (literal : Literal)
  | string (content : Content)
  | array (items : List Value) (closed : Bool)
  | object (members : List (Option String × Value)) (closed : Bool)
  /-- The place of a value where none can be read. -/
  | broken

/-- What a text holds: a value, and whether something follows it. -/
structure Document where
  value : Value
  trailing : Bool

end Json
end BpnDirectory
