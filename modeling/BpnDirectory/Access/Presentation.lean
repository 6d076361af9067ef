import BpnDirectory.Json.Reading

namespace BpnDirectory
namespace Access

/-!
Claims of presentations and of the credentials in them.

A presentation is a token of a holder and carries credentials, which are tokens
of issuers.  A credential says of which types it is and what it states about its
subject.
-/

open Json (Value Reading)

/-- The claims of a presentation. -/
structure Presentation where
  issuer : String
  /-- The holder that the presentation names. -/
  holder : Option String
  /-- The tokens of the credentials. -/
  credentials : List String
  deriving DecidableEq, Repr

/-- What a credential states about its subject. -/
structure Statement where
  id : Option String
  holderIdentifier : Option String
  bpn : Option String
  deriving DecidableEq, Repr

structure Attestation where
  subject : Option String
  types : List String
  statement : Statement
  deriving DecidableEq, Repr

namespace Presentation

/-- The body of a presentation as far as it has been read. -/
structure Body where
  holder : Option (Option String)
  credentials : Option (List String)

/-- Takes one field of the body into what has been read. -/
def assignBody (body : Body) (name : String) (value : Value) : Reading Body :=
  match name with
  | "holder" => return { body with holder := ← Value.once body.holder Value.text? value }
  | "verifiableCredential" =>
    return { body with
      credentials := ← Value.once body.credentials (Value.list Value.text) value }
  | _ => value.skip.map fun _ => body

def readBody : Value → Reading Body :=
  Value.record ["holder", "verifiableCredential"] ⟨none, none⟩ assignBody .ok

/-- The claims of a presentation as far as they have been read. -/
structure Fields where
  issuer : Option String
  body : Option Body

/-- Takes one claim into what has been read. -/
def assign (fields : Fields) (name : String) (value : Value) : Reading Fields :=
  match name with
  | "iss" => return { fields with issuer := ← Value.once fields.issuer Value.text value }
  | "vp" => return { fields with body := ← Value.once fields.body readBody value }
  | _ => value.skip.map fun _ => fields

def finish (fields : Fields) : Reading Presentation :=
  match fields with
  | ⟨some issuer, some body⟩ => .ok ⟨issuer, body.holder.join, body.credentials.getD []⟩
  | _ => .error .mismatch

def read : Value → Reading Presentation :=
  Value.record ["iss", "vp"] ⟨none, none⟩ assign finish

end Presentation

namespace Statement

structure Fields where
  id : Option (Option String)
  holderIdentifier : Option (Option String)
  bpn : Option (Option String)

/-- Takes one field of a statement into what has been read. -/
def assign (fields : Fields) (name : String) (value : Value) : Reading Fields :=
  match name with
  | "id" => return { fields with id := ← Value.once fields.id Value.text? value }
  | "holderIdentifier" =>
    return { fields with
      holderIdentifier := ← Value.once fields.holderIdentifier Value.text? value }
  | "bpn" => return { fields with bpn := ← Value.once fields.bpn Value.text? value }
  | _ => value.skip.map fun _ => fields

def finish (fields : Fields) : Reading Statement :=
  .ok ⟨fields.id.join, fields.holderIdentifier.join, fields.bpn.join⟩

def read : Value → Reading Statement :=
  Value.record ["id", "holderIdentifier", "bpn"] ⟨none, none, none⟩ assign finish

def empty : Statement := ⟨none, none, none⟩

end Statement

namespace Attestation

/-- The body of a credential as far as it has been read. -/
structure Body where
  types : Option (List String)
  statement : Option Statement

/-- Takes one field of the body into what has been read. -/
def assignBody (body : Body) (name : String) (value : Value) : Reading Body :=
  match name with
  | "type" => return { body with types := ← Value.once body.types (Value.list Value.text) value }
  | "credentialSubject" =>
    return { body with statement := ← Value.once body.statement Statement.read value }
  | _ => value.skip.map fun _ => body

def readBody : Value → Reading Body :=
  Value.record ["type", "credentialSubject"] ⟨none, none⟩ assignBody .ok

/-- The claims of a credential as far as they have been read. -/
structure Fields where
  subject : Option (Option String)
  body : Option Body

/-- Takes one claim into what has been read. -/
def assign (fields : Fields) (name : String) (value : Value) : Reading Fields :=
  match name with
  | "sub" => return { fields with subject := ← Value.once fields.subject Value.text? value }
  | "vc" => return { fields with body := ← Value.once fields.body readBody value }
  | _ => value.skip.map fun _ => fields

def finish (fields : Fields) : Reading Attestation :=
  match fields.body with
  | some body =>
    .ok ⟨fields.subject.join, body.types.getD [], body.statement.getD .empty⟩
  | none => .error .mismatch

def read : Value → Reading Attestation :=
  Value.record ["sub", "vc"] ⟨none, none⟩ assign finish

def about (attestation : Attestation) : Option String :=
  attestation.statement.id.orElse fun _ => attestation.subject

def bpn (attestation : Attestation) : Option String :=
  attestation.statement.holderIdentifier.orElse fun _ => attestation.statement.bpn

end Attestation
end Access
end BpnDirectory
