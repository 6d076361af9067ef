import BpnDirectory.Pattern.Reading

namespace BpnDirectory
namespace Pattern

/-!
Expressions for which a matcher can be built.

A matcher works on octets and has no tables of the characters of all scripts.  So
where characters are those of all scripts, nothing may depend on their case or on
what is a letter or a digit; and where they are octets, nothing may match one that is
no character by itself.
-/

/-- How characters are taken at a place of an expression. -/
structure Mode where
  /-- Whether their case does not matter. -/
  caseless : Bool
  /-- Whether they are those of all scripts, and not octets. -/
  unicode : Bool
  deriving DecidableEq, Repr

/-- How characters are taken at the front of an expression. -/
def Mode.start : Mode := ⟨false, true⟩

/-- How characters are taken behind settings. -/
def Mode.set (mode : Mode) (settings : Settings) : Mode :=
  ⟨settings.value .caseless mode.caseless, settings.value .unicode mode.unicode⟩

def Literal.isSupported (mode : Mode) (literal : Literal) : Bool :=
  if mode.unicode then !mode.caseless else !literal.octet || literal.char.toNat < 128

/-- Whether a character can be matched as part of a bracket. -/
def Literal.isSupportedIn (mode : Mode) (literal : Literal) : Bool :=
  if mode.unicode then !mode.caseless else literal.char.toNat < 128

/-- Whether one of digits, blanks, or the characters of words can be matched. -/
def isShorthandSupported (mode : Mode) (negated : Bool) : Bool :=
  !mode.unicode && !negated

/-- Whether one of a set, or one that is not in it, can be matched.  Octets that are
not in a set of characters need not be characters. -/
def isNegationSupported (mode : Mode) (negated : Bool) : Bool :=
  mode.unicode || !negated

mutual

/-- Whether an element of a bracket can be matched. -/
def Member.isSupported (mode : Mode) : Member → Bool
  | .literal written => written.isSupportedIn mode
  | .range first last => first.isSupportedIn mode && last.isSupportedIn mode
  | .named negated => if mode.unicode then !mode.caseless else !negated
  | .shorthand negated => isShorthandSupported mode negated
  | .bracket negated content => isNegationSupported mode negated && content.isSupported mode

/-- Whether the content of a bracket can be matched. -/
def Content.isSupported (mode : Mode) : Content → Bool
  | .members items => Member.areSupported mode items
  | .combination left right => left.isSupported mode && right.isSupported mode

/-- Whether elements of a bracket can be matched. -/
def Member.areSupported (mode : Mode) : List Member → Bool
  | [] => true
  | item :: later => item.isSupported mode && Member.areSupported mode later

end

/-- What an expression leaves behind: how characters are taken then, and whether it
asks for places where words of any script begin or end. -/
structure Finding where
  mode : Mode
  words : Bool
  deriving DecidableEq, Repr

mutual

/-- What is found in an expression all of whose characters can be matched.  What is
never repeated asks for nothing. -/
def find? (mode : Mode) : Pattern → Option Finding
  | .literal written => if written.isSupported mode then some ⟨mode, false⟩ else none
  | .any => if mode.unicode then some ⟨mode, false⟩ else none
  | .place word => some ⟨mode, word && mode.unicode⟩
  | .shorthand negated => if isShorthandSupported mode negated then some ⟨mode, false⟩ else none
  | .bracket negated content =>
    if isNegationSupported mode negated && content.isSupported mode then some ⟨mode, false⟩
    else none
  | .switch settings => some ⟨mode.set settings, false⟩
  | .group settings body =>
    (find? (mode.set settings) body).map fun finding => ⟨mode, finding.words⟩
  | .repeated count body =>
    (find? mode body).map fun finding =>
      { finding with words := finding.words && count.greatest != some 0 }
  | .sequence items | .choice items => findAll? mode items

/-- What is found in expressions one behind the other. -/
def findAll? (mode : Mode) : List Pattern → Option Finding
  | [] => some ⟨mode, false⟩
  | item :: later => do
    let first ← find? mode item
    let last ← findAll? first.mode later
    return { last with words := first.words || last.words }

end

/-- Greatest number of levels of an expression. -/
def greatestLevels : Nat := 250

/-- Whether a matcher can be built for an expression. -/
def isSupported (pattern : Pattern) : Bool :=
  pattern.depth ≤ greatestLevels && (find? .start pattern).any (!·.words)

/-- Whether characters are an expression for which a matcher can be built. -/
def accepts (cs : List Char) : Bool :=
  (ofChars? cs).any isSupported

end Pattern
end BpnDirectory
