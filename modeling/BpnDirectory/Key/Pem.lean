import BpnDirectory.Text.Base64
import BpnDirectory.Text.Blank
import BpnDirectory.Text.Parts

namespace BpnDirectory

/-!
Data in an envelope of text.

A line with a label opens the envelope and one with the same label closes it.
The data stands between them in base 64, spread over lines; lines for a mail
program may go before it, with an empty line behind them.  What stands outside
of the envelope does not matter.

Marks are looked for from left to right without turning back: where a character
does not go on with a mark, the next try begins behind it.
-/

structure Pem where
  label : String
  octets : List UInt8
  deriving DecidableEq, Repr

namespace Pem

/-- What is passed over until a mark is complete, the mark included, and what
follows it.  `owed` is what the mark still lacks. -/
def passThrough? (mark owed : List Char) : List Char → Option (List Char × List Char)
  | [] => none
  | c :: rest =>
    let owed := if owed.head? = some c then owed.tail else mark
    if owed.isEmpty then some ([c], rest)
    else (passThrough? mark owed rest).map fun halves => (c :: halves.1, halves.2)

/-- What stands before a mark and what stands behind it. -/
def cut? (mark : String) (cs : List Char) : Option (List Char × List Char) :=
  (passThrough? mark.toList mark.toList cs).map fun halves =>
    (halves.1.take (halves.1.length - mark.length), halves.2)

/-- A text without the blanks at its start that may follow the opening line. -/
def dropBlanks (cs : List Char) : List Char :=
  cs.dropWhile fun c => c == ' ' || c == '\t' || c == '\n' || c == '\r'

/-- The lines for a mail program and the data of an envelope. -/
def splitBody (body : List Char) : List Char × List Char :=
  ((cut? "\n\n" body).orElse fun _ => cut? "\r\n\r\n" body).getD ([], body)

/-- The lines of a text.  Nothing follows the end of the last line. -/
def lines (cs : List Char) : List (List Char) :=
  let parts := Text.parts '\n' cs
  if parts.getLast? = some [] then parts.dropLast else parts

/-- Whether lines are fit for a mail program. -/
def areHeaders (cs : List Char) : Bool :=
  (lines cs).all fun line => line.contains ':'

/-- The first envelope in a text.  Blanks may stand anywhere in its data. -/
def ofText? (text : String) : Option Pem := do
  let (_, rest) ← cut? "-----BEGIN " text.toList
  let (label, rest) ← cut? "-----" rest
  let (body, rest) ← cut? "-----END " (dropBlanks rest)
  let (closing, _) ← cut? "-----" rest
  let (headers, data) := splitBody body
  if label.isEmpty || label ≠ closing || !areHeaders headers then none
  else
    let octets ← Text.Base64.decode (data.filter fun c => !Text.isBlank c)
    some ⟨String.ofList label, octets⟩

end Pem
end BpnDirectory
