namespace BpnDirectory

/-!
Regular expressions as they are written.

An expression is kept with just as much detail as it takes to tell whether a matcher
can be built for it: which characters it names and how, where it depends on letters
and digits of all scripts, and how deep its parts are nested.
-/

structure Pattern.Literal where
  char : Char
  /-- Whether it is written with two hexadecimal digits, and so may mean an octet. -/
  octet : Bool
  deriving DecidableEq, Repr

/-- What can be switched on and off inside an expression. -/
inductive Pattern.Flag where
  /-- The case of letters does not matter. -/
  | caseless
  /-- Lines have beginnings and ends of their own. -/
  | lines
  /-- A full stop matches the ends of lines too. -/
  | fullStop
  /-- Repetitions match as little as possible. -/
  | lazy
  /-- Characters are those of all scripts; otherwise they are octets. -/
  | unicode
  /-- A line may end in two characters. -/
  | pairedEnds
  /-- Blanks and comments are passed over. -/
  | loose
  deriving DecidableEq, Repr

/-- Flags with what each of them is set to. -/
abbrev Pattern.Settings := List (Pattern.Flag × Bool)

mutual

/-- An element of a bracket. -/
inductive Pattern.Member where
  | literal (literal : Pattern.Literal)
  | range (first last : Pattern.Literal)
  /-- A class with a name, all of whose characters are in ASCII. -/
  | named (negated : Bool)
  /-- Digits, blanks, or the characters of words. -/
  | shorthand (negated : Bool)
  | bracket (negated : Bool) (content : Pattern.Content)

inductive Pattern.Content where
  | members (items : List Pattern.Member)
  /-- What two contents have in common, or what only one of them has. -/
  | combination (left right : Pattern.Content)

end

structure Pattern.Count where
  least : Nat
  greatest : Option Nat
  deriving DecidableEq, Repr

/-- A regular expression. -/
inductive Pattern where
  | literal (literal : Pattern.Literal)
  /-- Any character. -/
  | any
  /-- A place between characters, and whether it is told by where words begin and end. -/
  | place (word : Bool)
  /-- Digits, blanks, or the characters of words. -/
  | shorthand (negated : Bool)
  | bracket (negated : Bool) (content : Pattern.Content)
  /-- Sets flags for what follows in the same group. -/
  | switch (settings : Pattern.Settings)
  | group (settings : Pattern.Settings) (body : Pattern)
  | repeated (count : Pattern.Count) (body : Pattern)
  | sequence (items : List Pattern)
  | choice (items : List Pattern)

namespace Pattern

/-- The expression of expressions one behind the other. -/
def ofItems : List Pattern → Pattern
  | [item] => item
  | items => .sequence items

/-- Whether an expression can be repeated. -/
def isRepeatable : Pattern → Bool
  | .switch _ => false
  | _ => true

def Flag.ofChar? : Char → Option Flag
  | 'i' => some .caseless
  | 'm' => some .lines
  | 's' => some .fullStop
  | 'U' => some .lazy
  | 'u' => some .unicode
  | 'R' => some .pairedEnds
  | 'x' => some .loose
  | _ => none

/-- What settings set a flag to, or what it was if they leave it alone. -/
def Settings.value (settings : Settings) (flag : Flag) (before : Bool) : Bool :=
  (settings.lookup flag).getD before

mutual

/-- How deep brackets are nested in an element. -/
def Member.depth : Member → Nat
  | .bracket _ content => content.depth + 1
  | _ => 0

/-- How deep brackets are nested in a content.  Several elements count as one level,
and so does a combination. -/
def Content.depth : Content → Nat
  | .members items => Member.greatestDepth items + (if items.length ≤ 1 then 0 else 1)
  | .combination left right => max left.depth right.depth + 1

def Member.greatestDepth : List Member → Nat
  | [] => 0
  | item :: later => max item.depth (Member.greatestDepth later)

end

mutual

/-- How deep the parts of an expression are nested.  Characters and places are no
level of their own. -/
def depth : Pattern → Nat
  | .literal _ | .any | .place _ | .shorthand _ | .switch _ | .sequence [] => 0
  | .bracket _ content => content.depth + 1
  | .group _ body | .repeated _ body => body.depth + 1
  | .sequence items | .choice items => greatestDepth items + 1

def greatestDepth : List Pattern → Nat
  | [] => 0
  | item :: later => max item.depth (greatestDepth later)

end

end Pattern
end BpnDirectory
