namespace BpnDirectory
namespace Text

/-!
The parts of a text between separators.

A text with `n` separators has `n + 1` parts, some of which may be empty; joining
them with the separator yields the text again.
-/

/-- The parts between occurrences of a separator. -/
def parts (separator : Char) : List Char → List (List Char)
  | [] => [[]]
  | c :: rest =>
    if c = separator then [] :: parts separator rest
    else
      match parts separator rest with
      | [] => [[c]]
      | part :: later => (c :: part) :: later

/-- What stands before the first occurrence of a separator and what stands behind
it, if it occurs. -/
def cut? (separator : Char) : List Char → Option (List Char × List Char)
  | [] => none
  | c :: rest =>
    if c = separator then some ([], rest)
    else (cut? separator rest).map fun halves => (c :: halves.1, halves.2)

/-- What stands before the last occurrence of a separator and what stands behind
it, if it occurs. -/
def cutLast? (separator : Char) (cs : List Char) : Option (List Char × List Char) :=
  (cut? separator cs.reverse).map fun halves => (halves.2.reverse, halves.1.reverse)

/-- What stands before the first occurrence of a mark and what stands behind it, if
it occurs. -/
def cutAt? (mark : List Char) : List Char → Option (List Char × List Char)
  | [] => if mark.isEmpty then some ([], []) else none
  | c :: rest =>
    if mark.isPrefixOf (c :: rest) then some ([], (c :: rest).drop mark.length)
    else (cutAt? mark rest).map fun halves => (c :: halves.1, halves.2)

end Text
end BpnDirectory
