import BpnDirectory.Pattern.Escape
import BpnDirectory.Text.Parts

namespace BpnDirectory
namespace Pattern

/-!
Brackets, which match one character of a set.

A bracket holds characters, ranges of them, classes with names and other brackets,
and can be combined with what follows in it.  Brackets that are not closed yet are
kept, the innermost first.
-/

def classNames : List String :=
  ["alnum", "alpha", "ascii", "blank", "cntrl", "digit", "graph", "lower", "print", "punct",
    "space", "upper", "word", "xdigit"]

/-- Whether the class whose name stands behind a bracket is negated, and what follows
it. -/
def namedClass? : List Char → Option (Bool × List Char)
  | ':' :: rest =>
    let (negated, rest) :=
      match rest with
      | '^' :: later => (true, later)
      | _ => (false, rest)
    match Text.cut? ':' rest with
    | some (name, ']' :: later) =>
      if classNames.contains (String.ofList name) then some (negated, later) else none
    | _ => none
  | _ => none

structure OpenBracket where
  negated : Bool
  /-- What its elements are to be combined with. -/
  left : Option Content
  /-- Its elements, the last one first. -/
  reversed : List Member

namespace OpenBracket

def content (bracket : OpenBracket) : Content :=
  let right := .members bracket.reversed.reverse
  match bracket.left with
  | some left => .combination left right
  | none => right

def add (bracket : OpenBracket) (member : Member) : OpenBracket :=
  { bracket with reversed := member :: bracket.reversed }

/-- A bracket whose content is to be combined with what follows. -/
def combine (bracket : OpenBracket) : OpenBracket :=
  { bracket with left := some bracket.content, reversed := [] }

end OpenBracket

/-- The bracket that begins here, and what follows.  Hyphens at its front are
characters, and so is a closing bracket there, unless a hyphen goes before. -/
def openBracket? (loose : Bool) (cs : List Char) : Option (OpenBracket × List Char) :=
  let (negated, cs) :=
    match skip loose cs with
    | '^' :: rest => (true, skip loose rest)
    | cs => (false, cs)
  let (hyphens, cs) := takeAll loose (· == '-') cs
  let bracket : OpenBracket := ⟨negated, none, hyphens.map fun c => .literal ⟨c, false⟩⟩
  let (bracket, cs) :=
    match cs with
    | ']' :: rest =>
      if hyphens.isEmpty then (bracket.add (.literal ⟨']', false⟩), skip loose rest)
      else (bracket, cs)
    | _ => (bracket, cs)
  if cs.isEmpty then none else some (bracket, cs)

/-- What stands for a character, and what follows it. -/
def bracketItem? (loose : Bool) : List Char → Option (Escape × List Char)
  | [] => none
  | '\\' :: rest => escape? loose rest
  | c :: rest => some (.literal ⟨c, false⟩, rest)

/-- The character that decides whether a hyphen means a range: the one behind it, or
in loose notation the one behind blanks and the sign of a comment. -/
def behindHyphen? (loose : Bool) (cs : List Char) : Option Char :=
  if !loose then cs.head?
  else
    match cs.dropWhile Text.isBlank with
    | '#' :: comment => (comment.dropWhile Text.isBlank).head?
    | c :: _ => some c
    | [] => none

/-- The element that an escape stands for.  A place is no element. -/
def Escape.member? : Escape → Option Member
  | .literal written => some (.literal written)
  | .shorthand negated => some (.shorthand negated)
  | .place _ => none

/-- The element that begins here, which may be a range, and what follows it. -/
def member? (loose : Bool) (cs : List Char) : Option (Member × List Char) := do
  let (first, cs) ← bracketItem? loose cs
  let single := first.member?.map fun member => (member, skip loose cs)
  match skip loose cs with
  | '-' :: rest =>
    let next := behindHyphen? loose rest
    if next == some ']' || next == some '-' then single
    else
      match first, ← bracketItem? loose (skip loose rest) with
      | .literal first, (.literal last, later) =>
        if first.char ≤ last.char then some (.range first last, later) else none
      | _, _ => none
  | _ => single

/-- Reads on in a bracket and the brackets around it until the outermost is closed;
what it is and what follows it. -/
def bracket? (loose : Bool) (bracket : OpenBracket) (outer : List OpenBracket) (cs : List Char) :
    Option (Pattern × List Char) :=
  let go (bracket : OpenBracket) (outer : List OpenBracket) (later : List Char) :=
    if later.length < cs.length then bracket? loose bracket outer later else none
  match skip loose cs with
  | [] => none
  | c :: rest =>
    match c, rest with
    | '[', rest =>
      match namedClass? rest with
      | some (negated, later) => go (bracket.add (.named negated)) outer later
      | none =>
        match openBracket? loose rest with
        | some (inner, later) => go inner (bracket :: outer) later
        | none => none
    | ']', rest =>
      match outer with
      | [] => some (.bracket bracket.negated bracket.content, rest)
      | parent :: outer =>
        go (parent.add (.bracket bracket.negated bracket.content)) outer rest
    | '&', '&' :: later | '-', '-' :: later | '~', '~' :: later => go bracket.combine outer later
    | c, rest =>
      match member? loose (c :: rest) with
      | some (member, later) => go (bracket.add member) outer later
      | none => none
termination_by cs.length

end Pattern
end BpnDirectory
