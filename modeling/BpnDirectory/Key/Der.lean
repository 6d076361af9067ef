import BpnDirectory.Text.Utf8
import BpnDirectory.Time.Compact

namespace BpnDirectory

/-!
The distinguished encoding of structured data.

Each item starts with a tag for its type and the number of octets of its
content.  Of the many types only those matter here that lead to a public key:
sequences, object identifiers and the strings that hold the key itself.  The
content of all standard types is looked at nevertheless, since data with a fault
in it is not taken apart at all.
-/

inductive Der where
  | sequence (items : List Der)
  | objectId (arcs : List Nat)
  /-- A string of bits or octets. -/
  | string (octets : List UInt8)
  | other

namespace Der

/-- The standard types whose content can be at fault, and those that matter. -/
inductive Kind where
  | boolean
  | bits
  | octets
  | objectId
  /-- Text, which is in UTF-8 whatever its type says. -/
  | text
  | sequence
  | set
  /-- Text of a few plain characters. -/
  | plainText
  | shortTime
  | longTime
  | other
  deriving DecidableEq, Repr

/-- The type with a tag number. -/
def Kind.ofTag : Nat → Kind
  | 1 => .boolean
  | 3 => .bits
  | 4 => .octets
  | 6 => .objectId
  | 12 | 20 | 28 | 30 => .text
  | 16 => .sequence
  | 17 => .set
  | 19 => .plainText
  | 23 => .shortTime
  | 24 => .longTime
  | _ => .other

/-- A whole number from octets, the highest first. -/
def number (octets : List UInt8) : Nat :=
  octets.foldl (fun n octet => n * 256 + octet.toNat) 0

/-- A number that octets give seven bits at a time, and what follows.  The last
octet of the number is below 128. -/
def takeNumber? (value : Nat) : List UInt8 → Option (Nat × List UInt8)
  | [] => none
  | octet :: rest =>
    let value := value * 128 + octet.toNat % 128
    if octet < 128 then some (value, rest) else takeNumber? value rest

/-- The numbers that octets give seven bits at a time. -/
def numbers? (value : Nat) : List UInt8 → Option (List Nat)
  | [] => some []
  | [octet] => if octet < 128 then some [value * 128 + octet.toNat] else none
  | octet :: rest =>
    let value := value * 128 + octet.toNat % 128
    if octet < 128 then (numbers? 0 rest).map (value :: ·) else numbers? value rest

/-- The arcs of an object identifier.  The first octet gives two of them. -/
def arcs? : List UInt8 → Option (List Nat)
  | [] => none
  | octet :: rest =>
    let n := octet.toNat
    let first := if n < 40 then [0, n] else if n < 80 then [1, n - 40] else [2, n - 80]
    (numbers? 0 rest).map (first ++ ·)

/-- The bits of a string of bits, whose first octet counts those of them that do
not belong to it.  A string without any octet has no bits. -/
def bits? : List UInt8 → Option (List UInt8)
  | [] => some []
  | unused :: octets => if unused.toNat ≤ 8 * octets.length then some octets else none

/-- Whether an octet is a character of plain text. -/
def isPlain (octet : UInt8) : Bool :=
  let c := Char.ofNat octet.toNat
  c.isAlphanum || " '()+,-./:=?".toList.contains c

def ascii? (octets : List UInt8) : Option (List Char) :=
  if octets.all (· < 128) then some (octets.map fun octet => Char.ofNat octet.toNat) else none

/-- Whether octets can be the content of a type that holds no other items. -/
def Kind.isContent (octets : List UInt8) : Kind → Bool
  | .boolean => octets.length == 1
  | .text => (Text.Utf8.read? octets).isSome
  | .plainText => octets.all isPlain
  | .shortTime => (ascii? octets).any Time.Compact.isShort
  | .longTime => (ascii? octets).any Time.Compact.isLong
  | _ => true

/-- Greatest number of octets for the length of a content. -/
def greatestLengthOctets : Nat := 8

/-- The number of octets of the content that starts behind, and what stands
there. -/
def takeLength? : List UInt8 → Option (Nat × List UInt8)
  | [] => none
  | octet :: rest =>
    let count := octet.toNat - 128
    if octet < 128 then some (octet.toNat, rest)
    else if greatestLengthOctets < count || rest.length < count then none
    else some (number (rest.take count), rest.drop count)

/-- One item as it stands among octets. -/
structure Frame where
  /-- Whether the type is one of the standard ones. -/
  standard : Bool
  tag : Nat
  content : List UInt8
  /-- What follows the item. -/
  rest : List UInt8

/-- The number of a tag and what follows.  A number above thirty stands behind the
first octet. -/
def takeTag? (octet : UInt8) (rest : List UInt8) : Option (Nat × List UInt8) :=
  if octet.toNat % 32 = 31 then takeNumber? 0 rest else some (octet.toNat % 32, rest)

/-- The item that octets start with. -/
def takeFrame? : List UInt8 → Option Frame
  | [] => none
  | octet :: rest =>
    match takeTag? octet rest with
    | none => none
    | some (tag, rest) =>
      match takeLength? rest with
      | none => none
      | some (count, rest) =>
        if rest.length < count then none
        else some ⟨octet.toNat / 64 = 0, tag, rest.take count, rest.drop count⟩

theorem length_of_takeNumber? {octets rest : List UInt8} {value found : Nat}
    (taken : takeNumber? value octets = some (found, rest)) : rest.length < octets.length := by
  induction octets generalizing value with
  | nil => simp [takeNumber?] at taken
  | cons octet octets ih =>
    simp only [takeNumber?] at taken
    split at taken
    · simp only [Option.some.injEq, Prod.mk.injEq] at taken
      simp [← taken.2]
    · have := ih taken
      simp only [List.length_cons]
      omega

theorem length_of_takeTag? {octet : UInt8} {octets rest : List UInt8} {tag : Nat}
    (taken : takeTag? octet octets = some (tag, rest)) : rest.length ≤ octets.length := by
  simp only [takeTag?] at taken
  split at taken
  · exact Nat.le_of_lt (length_of_takeNumber? taken)
  · simp only [Option.some.injEq, Prod.mk.injEq] at taken
    simp [← taken.2]

theorem length_of_takeLength? {octets rest : List UInt8} {count : Nat}
    (taken : takeLength? octets = some (count, rest)) : rest.length < octets.length := by
  cases octets with
  | nil => simp [takeLength?] at taken
  | cons octet octets =>
    simp only [takeLength?] at taken
    split at taken
    · simp only [Option.some.injEq, Prod.mk.injEq] at taken
      simp [← taken.2]
    · split at taken
      · simp at taken
      · simp only [Option.some.injEq, Prod.mk.injEq] at taken
        simp only [← taken.2, List.length_drop, List.length_cons]
        omega

/-- An item and what follows it are shorter than the octets they were taken
from. -/
theorem length_of_takeFrame? {octets : List UInt8} {frame : Frame}
    (taken : takeFrame? octets = some frame) :
    frame.content.length < octets.length ∧ frame.rest.length < octets.length := by
  cases octets with
  | nil => simp [takeFrame?] at taken
  | cons octet octets =>
    simp only [takeFrame?] at taken
    split at taken
    · simp at taken
    · next tag body foundTag =>
      have tagLength := length_of_takeTag? foundTag
      split at taken
      · simp at taken
      · next count content foundLength =>
        have countLength := length_of_takeLength? foundLength
        split at taken
        · simp at taken
        · simp only [Option.some.injEq] at taken
          simp only [← taken, List.length_take, List.length_drop, List.length_cons]
          omega

/-- The items that octets hold one after the other.  Items in a sequence or a set
are read as well, and there has to be one; what has a type of its own is left
alone. -/
def items? (octets : List UInt8) : Option (List Der) :=
  if octets.isEmpty then some []
  else
    match found : takeFrame? octets with
    | none => none
    | some frame => do
      have := length_of_takeFrame? found
      let later ← items? frame.rest
      let item ←
        if !frame.standard then some .other
        else
          match Kind.ofTag frame.tag with
          | .sequence =>
            if frame.content.isEmpty then none else (items? frame.content).map .sequence
          | .set =>
            if frame.content.isEmpty then none else (items? frame.content).map fun _ => .other
          | .bits => (bits? frame.content).map .string
          | .octets => some (.string frame.content)
          | .objectId => (arcs? frame.content).map .objectId
          | kind => if kind.isContent frame.content then some .other else none
      some (item :: later)
termination_by octets.length
decreasing_by all_goals omega

/-- The items that octets hold, if they hold any. -/
def ofOctets? (octets : List UInt8) : Option (List Der) :=
  if octets.isEmpty then none else items? octets

mutual

/-- What `find` finds first in an item or in the items of a sequence. -/
def search {α : Type} (find : Der → Option α) : Der → Option α
  | .sequence items => searchItems find items
  | item => find item

def searchItems {α : Type} (find : Der → Option α) : List Der → Option α
  | [] => none
  | item :: rest =>
    match search find item with
    | some found => some found
    | none => searchItems find rest

end

end Der
end BpnDirectory
