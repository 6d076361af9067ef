import BpnDirectory.Text.Decimal

namespace BpnDirectory
namespace Text

/-!
Real numbers in decimal notation.

A number may start with one sign.  There are digits with at most one point before,
among or behind them, and perhaps an exponent; infinity and what is no number have
names, in which the case of letters does not matter.
-/

/-- Whether characters are an exponent behind its mark. -/
def isExponent : List Char → Bool
  | '+' :: digits | '-' :: digits | digits => (digits? digits).isSome

/-- Whether characters are digits with at most one point, perhaps with an exponent. -/
def isMagnitude (cs : List Char) : Bool :=
  let whole := cs.takeWhile Char.isDigit
  let rest := cs.dropWhile Char.isDigit
  let (fraction, rest) :=
    match rest with
    | '.' :: later => (later.takeWhile Char.isDigit, later.dropWhile Char.isDigit)
    | _ => ([], rest)
  let isEnd :=
    match rest with
    | [] => true
    | mark :: exponent => (mark == 'e' || mark == 'E') && isExponent exponent
  (!whole.isEmpty || !fraction.isEmpty) && isEnd

/-- Whether characters are the name of a value that has no digits. -/
def isLimitName (cs : List Char) : Bool :=
  ["inf", "infinity", "nan"].contains (String.ofList cs).toLower

/-- Whether characters are a real number, with a sign or without. -/
def isReal : List Char → Bool
  | '+' :: cs | '-' :: cs | cs => isMagnitude cs || isLimitName cs

end Text
end BpnDirectory
