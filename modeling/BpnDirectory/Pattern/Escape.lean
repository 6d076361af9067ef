import BpnDirectory.Pattern.Basic
import BpnDirectory.Text.Blank
import BpnDirectory.Text.Decimal
import BpnDirectory.Text.Hexadecimal

namespace BpnDirectory
namespace Pattern

/-!
What stands behind a backslash in an expression.

In loose notation blanks and comments may stand nearly everywhere, also between the
digits of a character's number.  A comment goes from a number sign to the end of the
line.
-/

def passOver (comment : Bool) : List Char → List Char
  | [] => []
  | c :: rest =>
    if comment then passOver (c != '\n') rest
    else if Text.isBlank c then passOver false rest
    else if c = '#' then passOver true rest
    else c :: rest

/-- What follows blanks and comments, which are only passed over in loose notation. -/
def skip (loose : Bool) (cs : List Char) : List Char :=
  if loose then passOver false cs else cs

theorem length_passOver_le (comment : Bool) (cs : List Char) :
    (passOver comment cs).length ≤ cs.length := by
  induction cs generalizing comment with
  | nil => simp [passOver]
  | cons c rest ih =>
    simp only [passOver]
    split
    · exact Nat.le_succ_of_le (ih _)
    · split
      · exact Nat.le_succ_of_le (ih _)
      · split
        · exact Nat.le_succ_of_le (ih _)
        · exact Nat.le_refl _

/-- Passing over leaves no more than there was. -/
theorem length_skip_le (loose : Bool) (cs : List Char) : (skip loose cs).length ≤ cs.length := by
  simp only [skip]
  split
  · exact length_passOver_le false cs
  · exact Nat.le_refl _

/-- The characters of a kind at the front and what follows them, with blanks and
comments passed over behind each of them. -/
def takeAll (loose : Bool) (isKind : Char → Bool) : List Char → List Char × List Char
  | [] => ([], [])
  | c :: rest =>
    if isKind c then
      let (taken, later) := takeAll loose isKind (skip loose rest)
      (c :: taken, later)
    else ([], c :: rest)
termination_by cs => cs.length
decreasing_by
  have := length_skip_le loose rest
  simp only [List.length_cons]
  omega

inductive Escape where
  | literal (literal : Literal)
  /-- Digits, blanks, or the characters of words. -/
  | shorthand (negated : Bool)
  /-- A place between characters, and whether it is told by where words begin and end. -/
  | place (word : Bool)

def charOf? (number : Nat) : Option Char :=
  if number.isValidChar then some (Char.ofNat number) else none

/-- The number that hexadecimal digits stand for. -/
def hexNumber (digits : List Char) : Nat :=
  digits.foldl (fun number c => 16 * number + (Text.hexValue? c).getD 0) 0

/-- A number of exactly so many hexadecimal digits, and what follows it. -/
def fixedHex? (loose : Bool) (value : Nat) : Nat → List Char → Option (Nat × List Char)
  | 0, cs => some (value, cs)
  | _ + 1, [] => none
  | count + 1, c :: rest =>
    match Text.hexValue? c with
    | some digit => fixedHex? loose (16 * value + digit) count (skip loose rest)
    | none => none

/-- A character by its number, which has so many hexadecimal digits or stands in
braces. -/
def numbered? (loose : Bool) (count : Nat) (cs : List Char) : Option (Escape × List Char) :=
  match skip loose cs with
  | '\x7b' :: rest =>
    let (digits, later) := takeAll loose (fun c => (Text.hexValue? c).isSome) (skip loose rest)
    match later with
    | '\x7d' :: later =>
      if digits.isEmpty then none
      else (charOf? (hexNumber digits)).map fun c => (.literal ⟨c, false⟩, skip loose later)
    | _ => none
  | cs =>
    match fixedHex? loose 0 count cs with
    | some (number, later) =>
      (charOf? number).map fun c => (.literal ⟨c, count == 2⟩, later)
    | none => none

/-- The names in braces of places where words begin or end. -/
def wordPlaces : List String := ["start", "end", "start-half", "end-half"]

/-- Whether a character may stand in the name of a place. -/
def isPlaceChar (c : Char) : Bool := c.isAlpha || c == '-'

/-- The place where a word begins or ends.  Behind it may stand a name in braces; what
does not begin like a name is left alone. -/
def wordPlace? (loose : Bool) (cs : List Char) : Option (Escape × List Char) :=
  match cs with
  | '\x7b' :: rest =>
    match skip loose rest with
    | [] => none
    | c :: later =>
      if !isPlaceChar c then some (.place true, cs)
      else
        match takeAll loose isPlaceChar (c :: later) with
        | (name, '\x7d' :: later) =>
          if wordPlaces.contains (String.ofList name) then some (.place true, later) else none
        | _ => none
  | _ => some (.place true, cs)

/-- Whether a character stands for itself behind a backslash.  Letters and digits do
not, nor do the signs that mean a place. -/
def isOwnEscape (c : Char) : Bool :=
  c.toNat < 128 && !c.isAlphanum && c != '<' && c != '>'

/-- The letters that mean a control character. -/
def controls : List (Char × Char) :=
  [('a', '\x07'), ('f', '\x0c'), ('t', '\t'), ('n', '\n'), ('r', '\r'), ('v', '\x0b')]

/-- What the characters behind a backslash stand for, and what follows them.  There
are no properties of characters, and nothing refers back to a group. -/
def escape? (loose : Bool) : List Char → Option (Escape × List Char)
  | [] => none
  | c :: rest =>
    match c with
    | 'x' => numbered? loose 2 rest
    | 'u' => numbered? loose 4 rest
    | 'U' => numbered? loose 8 rest
    | 'd' | 's' | 'w' => some (.shorthand false, rest)
    | 'D' | 'S' | 'W' => some (.shorthand true, rest)
    | 'A' | 'z' => some (.place false, rest)
    | 'B' | '<' | '>' => some (.place true, rest)
    | 'b' => wordPlace? loose rest
    | c =>
      if isOwnEscape c then some (.literal ⟨c, false⟩, rest)
      else (controls.lookup c).map fun control => (.literal ⟨control, false⟩, rest)

end Pattern
end BpnDirectory
