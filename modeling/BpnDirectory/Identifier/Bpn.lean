namespace BpnDirectory
namespace Bpn

/-!
Business Partner Numbers.

A BPN is the text `BPN`, one letter for the kind of partner (`L` for a legal
entity, `S` for a site, `A` for an address) and twelve characters out of the
digits and the upper-case letters.  The directory uses BPNs as keys and never
alters their spelling.
-/

def size : Nat := 16

/-- The letters that may stand for the kind of partner. -/
def isKind (c : Char) : Bool :=
  c == 'L' || c == 'S' || c == 'A'

/-- The characters that may follow the kind. -/
def isSerial (c : Char) : Bool :=
  ('0' ≤ c && c ≤ '9') || ('A' ≤ c && c ≤ 'Z')

/-- Why a text is no BPN. -/
inductive Defect where
  | empty
  | wrongSize (octets : Nat)
  | wrongStart (text : String)
  | unknownKind (octet : UInt8) (text : String)
  | wrongSerial (text : String)
  deriving DecidableEq, Repr

/-- The wording of a defect.  An unknown kind is shown as the character whose
code is the octet that stands in its place. -/
def Defect.message : Defect → String
  | .empty => "BPN cannot be empty"
  | .wrongSize octets => s!"BPN must be {size} characters, got {octets}"
  | .wrongStart text => s!"BPN must start with 'BPN': {text}"
  | .unknownKind octet text =>
    s!"Unknown BPN type '{Char.ofNat octet.toNat}' in {text}"
  | .wrongSerial text => s!"BPN contains invalid characters: {text}"

/-- The first octet of a character in UTF-8. -/
def leadOctet (c : Char) : UInt8 :=
  (String.utf8EncodeChar c).headD 0

/-- Accepts exactly the BPNs.  The size is checked first and counted in octets,
so a text that is short in characters may still pass it. -/
def check (text : String) : Except Defect Unit :=
  if text.isEmpty then
    .error .empty
  else if text.utf8ByteSize ≠ size then
    .error (.wrongSize text.utf8ByteSize)
  else
    match text.toList with
    | 'B' :: 'P' :: 'N' :: kind :: serial =>
      if !isKind kind then
        .error (.unknownKind (leadOctet kind) text)
      else if !serial.all isSerial then
        .error (.wrongSerial text)
      else
        .ok ()
    | _ => .error (.wrongStart text)

/-- A text is a BPN if it consists of the three fixed letters, a kind and
twelve serial characters. -/
def IsBpn (text : String) : Prop :=
  ∃ kind serial, text = String.ofList ('B' :: 'P' :: 'N' :: kind :: serial) ∧
    isKind kind ∧ serial.length = 12 ∧ ∀ c ∈ serial, isSerial c

end Bpn
end BpnDirectory
