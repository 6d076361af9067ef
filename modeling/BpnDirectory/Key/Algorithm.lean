import BpnDirectory.Json.Reading

namespace BpnDirectory

/-!
Signature algorithms.

An algorithm belongs to a family, and a key serves the algorithms of one family.
-/

/-- Families of keys. -/
inductive KeyFamily where
  /-- One secret signs and verifies. -/
  | shared
  /-- Keys on the NIST curves. -/
  | elliptic
  /-- Keys on the Edwards curve. -/
  | edwards
  | rsa
  deriving DecidableEq, Repr

/-- Signature algorithms. -/
inductive Algorithm where
  | hs256 | hs384 | hs512
  | es256 | es384
  | rs256 | rs384 | rs512
  | ps256 | ps384 | ps512
  | edDsa
  deriving DecidableEq, Repr

namespace Algorithm

def all : List Algorithm :=
  [.hs256, .hs384, .hs512, .es256, .es384, .rs256, .rs384, .rs512, .ps256, .ps384, .ps512,
    .edDsa]

/-- The name of an algorithm. -/
def name : Algorithm → String
  | .hs256 => "HS256"
  | .hs384 => "HS384"
  | .hs512 => "HS512"
  | .es256 => "ES256"
  | .es384 => "ES384"
  | .rs256 => "RS256"
  | .rs384 => "RS384"
  | .rs512 => "RS512"
  | .ps256 => "PS256"
  | .ps384 => "PS384"
  | .ps512 => "PS512"
  | .edDsa => "EdDSA"

def ofName? (name : String) : Option Algorithm :=
  all.find? fun algorithm => algorithm.name == name

def family : Algorithm → KeyFamily
  | .hs256 | .hs384 | .hs512 => .shared
  | .es256 | .es384 => .elliptic
  | .edDsa => .edwards
  | .rs256 | .rs384 | .rs512 | .ps256 | .ps384 | .ps512 => .rsa

/-- Reads an algorithm: its name, or an object with nothing but its name, for
which no data is given. -/
def read : Json.Value → Json.Reading Algorithm
  | .string (.text name) | .object [(some name, .null)] true =>
    match ofName? name with
    | some algorithm => .ok algorithm
    | none => .error .mismatch
  | value => .error value.refuse

end Algorithm
end BpnDirectory
