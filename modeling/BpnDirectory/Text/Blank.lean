namespace BpnDirectory
namespace Text

/-!
Blank characters and trimming.

Settings, headers and query values may be written with blanks around them.  The
blanks are the characters with the Unicode property White_Space, so a value that
was pasted with a no-break space around it still reads as intended.
-/

def isBlank (c : Char) : Bool :=
  ('\x09' ≤ c && c ≤ '\x0d') || c == ' ' || c == '\x85' || c == '\xa0' ||
    c == '\u1680' || ('\u2000' ≤ c && c ≤ '\u200a') || c == '\u2028' ||
    c == '\u2029' || c == '\u202f' || c == '\u205f' || c == '\u3000'

/-- What remains after the blanks at the end are dropped. -/
def trimRight (cs : List Char) : List Char :=
  (cs.reverse.dropWhile isBlank).reverse

/-- What remains after the blanks on both sides are dropped. -/
def trimChars (cs : List Char) : List Char :=
  trimRight (cs.dropWhile isBlank)

def trim (text : String) : String :=
  String.ofList (trimChars text.toList)

/-- A text holds something if it is more than blanks. -/
def isFilled (text : String) : Bool :=
  text.toList.any fun c => !isBlank c

end Text
end BpnDirectory
