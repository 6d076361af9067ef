import BpnDirectory.Json.Value
import BpnDirectory.Text.Hexadecimal

namespace BpnDirectory
namespace Json

/-!
Tokens of a JSON text.

The lexer walks over the text once, one symbol at a time.  A symbol is a
character, or a gap where the octets of the text are no UTF-8.  Between tokens
only space, tab, carriage return and line feed are skipped.  At the first symbol
that cannot go on as JSON the lexer says so and stops.

Escapes give code units of UTF-16.  A character above U+FFFF takes two units, a lead and a
trail, which stand for nothing alone.
-/

namespace Utf16

/-- Whether a unit is the first half of a pair. -/
def isLead (unit : Nat) : Bool := 0xd800 ≤ unit && unit ≤ 0xdbff

/-- Whether a unit is the second half of a pair. -/
def isTrail (unit : Nat) : Bool := 0xdc00 ≤ unit && unit ≤ 0xdfff

def ofPair (lead trail : Nat) : Char :=
  Char.ofNat (0x10000 + (lead - 0xd800) * 0x400 + (trail - 0xdc00))

end Utf16

/-- A character of a text, or octets that are none. -/
abbrev Symbol := Option Char

/-- The tokens of a text. -/
inductive Token where
  | objectOpen
  | objectClose
  | arrayOpen
  | arrayClose
  | colon
  | comma
  | null
  | bool (value : Bool)
  | number (literal : Literal)
  | string (content : Content)
  /-- The text does not go on as JSON. -/
  | malformed

/-- The part of a number that is being read. -/
inductive NumberPart where
  /-- Nothing but perhaps a sign. -/
  | start
  /-- A leading zero, which no digit may follow. -/
  | zero
  | whole
  /-- The decimal point, which a digit has to follow. -/
  | point
  | fraction
  /-- The exponent mark, which a sign or a digit has to follow. -/
  | mark
  /-- The sign of the exponent, which a digit has to follow. -/
  | sign
  | exponent

/-- A string under way: its characters, last to first, and what is wrong with
it. -/
structure Draft where
  reversed : List Char
  flaw : Option Flaw

/-- What the lexer is in the middle of. -/
inductive Mode where
  | between
  | text (draft : Draft)
  /-- A backslash was read. -/
  | escape (draft : Draft)
  /-- Digits of a code unit are being read.  A leading surrogate may stand
  before it. -/
  | code (draft : Draft) (lead : Option Nat) (digits : Nat) (value : Nat)
  /-- A leading surrogate was read. -/
  | led (draft : Draft) (lead : Nat)
  /-- A leading surrogate and a backslash were read. -/
  | ledEscape (draft : Draft) (lead : Nat)
  | number (part : NumberPart) (literal : Literal)
  /-- A letter of a word has to follow, and then the rest of it. -/
  | word (letter : Char) (rest : List Char) (token : Token)
  | stopped

namespace Draft

def push (draft : Draft) (c : Char) : Draft :=
  { draft with reversed := c :: draft.reversed }

/-- A string in which a flaw was found.  A reader that wants the text stops at the
first half of a surrogate pair, so that flaw stays. -/
def spoil (draft : Draft) (flaw : Flaw) : Draft :=
  match draft.flaw with
  | some (.half _) => draft
  | _ => { draft with flaw := some flaw }

def token (draft : Draft) : Token :=
  .string
    (match draft.flaw with
    | none => .text (String.ofList draft.reversed.reverse)
    | some flaw => .flawed flaw)

end Draft

def isSpace (c : Char) : Bool :=
  c == ' ' || c == '\t' || c == '\n' || c == '\r'

/-- The character that a one-letter escape stands for. -/
def escapeChar? : Char → Option Char
  | '"' => some '"'
  | '\\' => some '\\'
  | '/' => some '/'
  | 'b' => some '\x08'
  | 'f' => some '\x0c'
  | 'n' => some '\n'
  | 'r' => some '\r'
  | 't' => some '\t'
  | _ => none

def Draft.unit (draft : Draft) (lead : Option Nat) (unit : Nat) : Mode :=
  match lead with
  | some first =>
    if Utf16.isTrail unit then .text (draft.push (Utf16.ofPair first unit))
    else .text (draft.spoil (.half false))
  | none =>
    if Utf16.isLead unit then .led draft unit
    else if Utf16.isTrail unit then .text (draft.spoil (.half false))
    else .text (draft.push (Char.ofNat unit))

/-- The mode and the tokens after one symbol, where a string is under way and no
escape. -/
def textStep (draft : Draft) : Symbol → Mode × List Token
  | none => (.text (draft.spoil .octets), [])
  | some c =>
    if c = '"' then (.between, [draft.token])
    else if c = '\\' then (.escape draft, [])
    else if c < ' ' then (.stopped, [.malformed])
    else (.text (draft.push c), [])

def escapeStep (draft : Draft) : Symbol → Mode × List Token
  | some 'u' => (.code draft none 0 0, [])
  | some c =>
    match escapeChar? c with
    | some meant => (.text (draft.push meant), [])
    | none => (.stopped, [.malformed])
  | none => (.stopped, [.malformed])

/-- The mode and the tokens after one symbol between two tokens. -/
def betweenStep : Symbol → Mode × List Token
  | none => (.stopped, [.malformed])
  | some c =>
    if isSpace c then (.between, [])
    else
      match c with
      | '\x7b' => (.between, [.objectOpen])
      | '\x7d' => (.between, [.objectClose])
      | '[' => (.between, [.arrayOpen])
      | ']' => (.between, [.arrayClose])
      | ':' => (.between, [.colon])
      | ',' => (.between, [.comma])
      | '"' => (.text ⟨[], none⟩, [])
      | 'n' => (.word 'u' ['l', 'l'] .null, [])
      | 't' => (.word 'r' ['u', 'e'] (.bool true), [])
      | 'f' => (.word 'a' ['l', 's', 'e'] (.bool false), [])
      | '-' => (.number .start ⟨true, [], [], none, false⟩, [])
      | _ =>
        if c = '0' then (.number .zero ⟨false, ['0'], [], none, false⟩, [])
        else if c.isDigit then (.number .whole ⟨false, [c], [], none, false⟩, [])
        else (.stopped, [.malformed])

/-- How a number goes on with a character: a longer number, or none. -/
def NumberPart.extend (literal : Literal) (c : Char) :
    NumberPart → Option (NumberPart × Literal)
  | .start =>
    if c = '0' then some (.zero, { literal with whole := ['0'] })
    else if c.isDigit then some (.whole, { literal with whole := [c] })
    else none
  | .zero =>
    if c = '.' then some (.point, { literal with pointed := true })
    else if c = 'e' ∨ c = 'E' then some (.mark, { literal with exponent := some (false, []) })
    else none
  | .whole =>
    if c.isDigit then some (.whole, { literal with whole := c :: literal.whole })
    else if c = '.' then some (.point, { literal with pointed := true })
    else if c = 'e' ∨ c = 'E' then some (.mark, { literal with exponent := some (false, []) })
    else none
  | .point =>
    if c.isDigit then some (.fraction, { literal with fraction := [c] }) else none
  | .fraction =>
    if c.isDigit then some (.fraction, { literal with fraction := c :: literal.fraction })
    else if c = 'e' ∨ c = 'E' then some (.mark, { literal with exponent := some (false, []) })
    else none
  | .mark =>
    if c = '+' then some (.sign, literal)
    else if c = '-' then some (.sign, { literal with exponent := some (true, []) })
    else if c.isDigit then
      some (.exponent, { literal with exponent := literal.exponent.map fun e => (e.1, [c]) })
    else none
  | .sign =>
    if c.isDigit then
      some (.exponent, { literal with exponent := literal.exponent.map fun e => (e.1, [c]) })
    else none
  | .exponent =>
    if c.isDigit then
      some (.exponent,
        { literal with exponent := literal.exponent.map fun e => (e.1, c :: e.2) })
    else none

/-- Whether a number may end with this part, given that the symbol after it does
not extend it.  A digit after a leading zero makes the number malformed. -/
def NumberPart.mayEnd (next : Symbol) : NumberPart → Bool
  | .zero => !(next.any Char.isDigit)
  | .whole | .fraction | .exponent => true
  | .start | .point | .mark | .sign => false

/-- The mode and the tokens after one symbol of a number, or after the one that
follows it. -/
def numberStep (part : NumberPart) (literal : Literal) (symbol : Symbol) :
    Mode × List Token :=
  match symbol.bind fun c => part.extend literal c with
  | some (next, longer) => (.number next longer, [])
  | none =>
    if part.mayEnd symbol then
      let (mode, tokens) := betweenStep symbol
      (mode, .number literal :: tokens)
    else (.stopped, [.malformed])

/-- The mode and the tokens after one symbol. -/
def Mode.step (mode : Mode) (symbol : Symbol) : Mode × List Token :=
  match mode with
  | .between => betweenStep symbol
  | .text draft => textStep draft symbol
  | .escape draft => escapeStep draft symbol
  | .code draft lead digits value =>
    match symbol.bind Text.hexValue? with
    | some d =>
      let value := value * 16 + d
      (if digits = 3 then draft.unit lead value else .code draft lead (digits + 1) value, [])
    | none => (.stopped, [.malformed])
  | .led draft lead =>
    match symbol with
    | some '\\' => (.ledEscape draft lead, [])
    | some '"' => textStep (draft.spoil (.half true)) symbol
    | _ => textStep (draft.spoil (.half false)) symbol
  | .ledEscape draft lead =>
    match symbol with
    | some 'u' => (.code draft (some lead) 0 0, [])
    | _ => escapeStep (draft.spoil (.half false)) symbol
  | .number part literal => numberStep part literal symbol
  | .word letter rest token =>
    if symbol = some letter then
      match rest with
      | [] => (.between, [token])
      | next :: rest => (.word next rest token, [])
    else (.stopped, [.malformed])
  | .stopped => (.stopped, [])

/-- The tokens that remain when the text ends in a mode. -/
def Mode.finish : Mode → List Token
  | .between | .stopped => []
  | .number part literal =>
    if part.mayEnd none then [.number literal] else [.malformed]
  | _ => [.malformed]

/-- The mode after a text, with the tokens read so far in reverse. -/
def lexFrom : Mode → List Token → List Symbol → List Token
  | mode, reversed, [] => (mode.finish.reverse ++ reversed).reverse
  | mode, reversed, symbol :: rest =>
    match mode.step symbol with
    | (next, tokens) => lexFrom next (tokens.reverse ++ reversed) rest

def lex (symbols : List Symbol) : List Token :=
  lexFrom .between [] symbols

end Json
end BpnDirectory
