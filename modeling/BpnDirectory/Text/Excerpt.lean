namespace BpnDirectory
namespace Text

/-!
Excerpts of a text.

Places in a text are counted in octets of UTF-8.
-/

def octetLength (cs : List Char) : Nat := cs.foldr (fun c later => c.utf8Size + later) 0

/-- The characters of a text from one place up to another. -/
def excerpt (start stop : Nat) : List Char → List Char
  | [] => []
  | c :: rest =>
    let later := excerpt (start - c.utf8Size) (stop - c.utf8Size) rest
    if start = 0 && 0 < stop then c :: later else later

end Text
end BpnDirectory
