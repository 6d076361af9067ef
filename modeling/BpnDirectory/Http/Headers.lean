import BpnDirectory.Text.Utf8

namespace BpnDirectory
namespace Http

/-!
Header fields of messages.

The name of a field is a token and its value a line of octets.  Names are the same
whatever the case of their letters, so they are kept in lower case.  A field may
be given several times; where one value is wanted, the first one counts.
-/

/-- Whether a character may stand in a token. -/
def isTokenChar (c : Char) : Bool :=
  c.isAlphanum || "!#$%&'*+-.^_`|~".toList.contains c

def isToken (text : String) : Bool :=
  !text.isEmpty && text.toList.all isTokenChar

/-- Whether an octet may stand in the value of a field: no control character but
the tab. -/
def isFieldOctet (octet : UInt8) : Bool :=
  octet == 9 || (32 ≤ octet && octet ≠ 127)

/-- Whether an octet of a value is a readable character. -/
def isReadableOctet (octet : UInt8) : Bool :=
  octet == 9 || (32 ≤ octet && octet < 127)

/-- The octets of a value as text, if all of them are readable. -/
def fieldText? (value : List UInt8) : Option String :=
  if value.all isReadableOctet then
    some (String.ofList (value.map fun octet => Char.ofNat octet.toNat))
  else none

/-- The header fields of a message, their names in lower case. -/
structure Headers where
  fields : List (String × List UInt8)

namespace Headers

def none : Headers := ⟨[]⟩

/-- Header fields by their names and values, if they are well-formed. -/
def ofFields? (fields : List (String × List UInt8)) : Option Headers :=
  if fields.all fun field => isToken field.1 && field.2.all isFieldOctet then
    some ⟨fields.map fun field => (field.1.toLower, field.2)⟩
  else Option.none

def add (headers : Headers) (name : String) (value : List UInt8) : Headers :=
  ⟨headers.fields ++ [(name, value)]⟩

/-- Header fields with one more behind them, whose value is text. -/
def addText (headers : Headers) (name text : String) : Headers :=
  headers.add name (Text.Utf8.octets text)

def find? (headers : Headers) (name : String) : Option (List UInt8) :=
  headers.fields.lookup name

/-- The first value of a field as text, if it is readable. -/
def text? (headers : Headers) (name : String) : Option String :=
  (headers.find? name).bind fieldText?

def all (headers : Headers) (name : String) : List (List UInt8) :=
  (headers.fields.filter fun field => field.1 == name).map Prod.snd

end Headers
end Http
end BpnDirectory
