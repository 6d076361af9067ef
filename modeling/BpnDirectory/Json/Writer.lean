namespace BpnDirectory
namespace Json

/-!
JSON texts that the service writes.

A text is written without any space.  In a string only the quote, the backslash
and the control characters below the space are escaped; everything else stands
for itself.  Fields are written in the order in which they are given.
-/

/-- Data to be written. -/
inductive Data where
  | null
  | bool (value : Bool)
  | int (value : Int)
  /-- A number with a fixed count of digits behind the point. -/
  | fixed (scaled places : Nat)
  | string (text : String)
  | list (items : List Data)
  | fields (members : List (String × Data))

def hexDigit (n : Nat) : Char :=
  if n < 10 then Char.ofNat ('0'.toNat + n) else Char.ofNat ('a'.toNat + (n - 10))

/-- The written form of a character inside a string. -/
def escapeChar (c : Char) : List Char :=
  match c with
  | '"' => ['\\', '"']
  | '\\' => ['\\', '\\']
  | '\x08' => ['\\', 'b']
  | '\x0c' => ['\\', 'f']
  | '\n' => ['\\', 'n']
  | '\r' => ['\\', 'r']
  | '\t' => ['\\', 't']
  | c =>
    if c < ' ' then
      ['\\', 'u', '0', '0', hexDigit (c.toNat / 16), hexDigit (c.toNat % 16)]
    else [c]

def quote (text : String) : List Char :=
  '"' :: text.toList.flatMap escapeChar ++ ['"']

/-- The written form of a number with `places` digits behind the point. -/
def writeFixed (scaled places : Nat) : List Char :=
  let digits := (toString (scaled % Nat.pow 10 places)).toList
  (toString (scaled / Nat.pow 10 places)).toList ++
    '.' :: (List.replicate (places - digits.length) '0' ++ digits)

mutual

/-- The written form of data. -/
def write : Data → List Char
  | .null => "null".toList
  | .bool value => (if value then "true" else "false").toList
  | .int value => (toString value).toList
  | .fixed scaled places => writeFixed scaled places
  | .string text => quote text
  | .list [] => ['[', ']']
  | .list (item :: items) => '[' :: write item ++ writeItems items ++ [']']
  | .fields [] => ['\x7b', '\x7d']
  | .fields ((name, value) :: members) =>
    '\x7b' :: quote name ++ ':' :: write value ++ writeMembers members ++ ['\x7d']

/-- The written form of the items behind the first one. -/
def writeItems : List Data → List Char
  | [] => []
  | item :: items => ',' :: write item ++ writeItems items

/-- The written form of the fields behind the first one. -/
def writeMembers : List (String × Data) → List Char
  | [] => []
  | (name, value) :: members => ',' :: quote name ++ ':' :: write value ++ writeMembers members

end

def Data.toText (data : Data) : String :=
  String.ofList (write data)

end Json
end BpnDirectory
