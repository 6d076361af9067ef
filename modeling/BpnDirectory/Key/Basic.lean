import BpnDirectory.Key.Algorithm
import BpnDirectory.Key.Der
import BpnDirectory.Key.Pem

namespace BpnDirectory

/-!
Verification keys.

A key has the algorithm that its owner signs with and material of some family.
Shared secrets are given as they are; public keys come in an envelope whose data
names the family.
-/

structure KeyMaterial where
  family : KeyFamily
  octets : List UInt8
  deriving DecidableEq, Repr

structure Key where
  algorithm : Algorithm
  material : KeyMaterial
  deriving DecidableEq, Repr

namespace KeyMaterial

inductive Defect where
  /-- It does not hold a key of the wanted family. -/
  | unfit
  /-- It names the wanted family and holds nothing else. -/
  | hollow
  deriving DecidableEq, Repr

def Defect.message : Defect → String
  | .unfit => "InvalidKeyFormat"
  | .hollow => "InvalidEcdsaKey"

def secret (text : List UInt8) : KeyMaterial := ⟨.shared, text⟩

/-- The identifiers of the families of public keys. -/
def identifiers : List (KeyFamily × List Nat) :=
  [(.elliptic, [1, 2, 840, 10045, 2, 1]),
    (.rsa, [1, 2, 840, 113549, 1, 1, 1]),
    (.edwards, [1, 3, 101, 112])]

def familyOf? : Der → Option KeyFamily
  | .objectId arcs => (identifiers.find? fun entry => entry.2 == arcs).map Prod.fst
  | _ => none

/-- The octets of an item that may hold a key. -/
def octetsOf? : Der → Option (List UInt8)
  | .string octets => some octets
  | _ => none

/-- What the label of an envelope says about its data. -/
inductive Label where
  /-- The data names the family of the key. -/
  | named
  /-- The data names the family and holds a private key. -/
  | namedPrivate
  /-- The data is an RSA key. -/
  | rsa
  deriving DecidableEq, Repr

def Label.ofText? : String → Option Label
  | "PUBLIC KEY" | "CERTIFICATE" => some .named
  | "PRIVATE KEY" => some .namedPrivate
  | "RSA PUBLIC KEY" | "RSA PRIVATE KEY" => some .rsa
  | _ => none

/-- Whether data under a label may serve as a key of a family.  A private key is
taken only for RSA. -/
def Label.fits (label : Label) (items : List Der) (family : KeyFamily) : Bool :=
  match label with
  | .named => Der.searchItems familyOf? items == some family
  | .namedPrivate => family == .rsa && Der.searchItems familyOf? items == some .rsa
  | .rsa => family == .rsa

/-- The label and the data of an envelope that a text holds. -/
def openPem? (text : String) : Option (Label × Pem × List Der) := do
  let pem ← Pem.ofText? text
  let items ← Der.ofOctets? pem.octets
  let label ← Label.ofText? pem.label
  some (label, pem, items)

/-- The public key of a family that an envelope holds. -/
def ofPem (family : KeyFamily) (text : String) : Except Defect KeyMaterial :=
  match openPem? text with
  | none => .error .unfit
  | some (label, pem, items) =>
    if !label.fits items family then .error .unfit
    else
      match label, Der.searchItems octetsOf? items with
      | .rsa, _ => .ok ⟨family, pem.octets⟩
      | _, some octets => .ok ⟨family, octets⟩
      | _, none => .error .hollow

end KeyMaterial
end BpnDirectory
