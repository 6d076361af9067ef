import BpnDirectory.Collection.OrderedMap
import BpnDirectory.Failure
import BpnDirectory.Key.Basic

namespace BpnDirectory

/-!
The keys of DIDs.

The keys are read from a file when the service starts: an object that gives the
algorithm of each DID with a shared secret or a public key.  A key that cannot
be used keeps the service from starting.
-/

open Json (Value Reading)

abbrev KeyRing := OrderedMap Key

structure KeyEntry where
  algorithm : Algorithm
  pem : Option String
  secret : Option String
  deriving DecidableEq, Repr

namespace KeyEntry

/-- The fields of an entry as far as they have been read. -/
structure Fields where
  algorithm : Option Algorithm
  pem : Option (Option String)
  secret : Option (Option String)

/-- Takes one field of an entry into what has been read. -/
def assign (fields : Fields) (name : String) (value : Value) : Reading Fields :=
  match name with
  | "alg" => return { fields with algorithm := ← Value.once fields.algorithm Algorithm.read value }
  | "pem" => return { fields with pem := ← Value.once fields.pem Value.text? value }
  | "secret" => return { fields with secret := ← Value.once fields.secret Value.text? value }
  | _ => value.skip.map fun _ => fields

def finish (fields : Fields) : Reading KeyEntry :=
  match fields.algorithm with
  | some algorithm => .ok ⟨algorithm, fields.pem.join, fields.secret.join⟩
  | none => .error .mismatch

def read : Value → Reading KeyEntry :=
  Value.record ["alg", "pem", "secret"] ⟨none, none, none⟩ assign finish

def publicKey (did : String) (algorithm : Algorithm) (family : KeyFamily) (pem : String) :
    Except Failure Key :=
  match KeyMaterial.ofPem family pem with
  | .ok material => .ok ⟨algorithm, material⟩
  | .error defect => .error (.internal s!"Invalid key for {did}: {defect.message}")

/-- The key of an entry.  A secret serves only an algorithm with shared secrets;
for these algorithms, and for every other but those on curves, an envelope is
taken to hold an RSA key. -/
def toKey (did : String) (entry : KeyEntry) : Except Failure Key :=
  match entry.algorithm.family, entry.pem, entry.secret with
  | .shared, _, some secret =>
    .ok ⟨entry.algorithm, .secret (Text.Utf8.octets secret)⟩
  | .elliptic, some pem, _ => publicKey did entry.algorithm .elliptic pem
  | .edwards, some pem, _ => publicKey did entry.algorithm .edwards pem
  | .rsa, some pem, _ | .shared, some pem, none => publicKey did entry.algorithm .rsa pem
  | _, _, _ =>
    .error (.internal s!"Key for {did} has no material matching {entry.algorithm.name}")

end KeyEntry

namespace KeyRing

def ofEntries (entries : OrderedMap KeyEntry) : Except Failure KeyRing :=
  entries.entries.foldlM (fun ring entry =>
    return ring.insert entry.1 (← KeyEntry.toKey entry.1 entry.2)) .empty

def ofText (text : String) : Except Failure KeyRing :=
  match (Json.Document.ofText text).read (Value.members KeyEntry.read) with
  | .ok entries => ofEntries (.ofList entries)
  | .error _ => .error (.internal "Invalid DID key file: it is no object of keys")

def withSecret (ring : KeyRing) (did : String) (secret : List UInt8) : KeyRing :=
  ring.insert did ⟨.hs256, .secret secret⟩

def resolve (ring : KeyRing) (did : String) : Except Failure Key :=
  match ring.find? did with
  | some key => .ok key
  | none => .error (.unauthorized s!"No verification key known for {did}")

end KeyRing
end BpnDirectory
