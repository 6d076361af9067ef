namespace BpnDirectory
namespace Did

/-!
Decentralized identifiers.

A DID is `did:`, a method name, a colon and a method-specific identifier.  Only
bare identifiers are directory values: a path, a query or a fragment turns a DID
into a DID URL, which is refused with a reason of its own.
-/

def maxSize : Nat := 2048

def isMethodChar (c : Char) : Bool :=
  ('a' ≤ c && c ≤ 'z') || ('0' ≤ c && c ≤ '9')

/-- The characters of an identifier segment, percent-escapes apart. -/
def isIdChar (c : Char) : Bool :=
  ('a' ≤ c && c ≤ 'z') || ('A' ≤ c && c ≤ 'Z') || ('0' ≤ c && c ≤ '9') ||
    c == '.' || c == '-' || c == '_'

def isHexDigit (c : Char) : Bool :=
  ('0' ≤ c && c ≤ '9') || ('a' ≤ c && c ≤ 'f') || ('A' ≤ c && c ≤ 'F')

/-- What is wrong with a method-specific identifier. -/
inductive IdDefect where
  | empty
  | endsWithColon
  | truncatedEscape
  | invalidEscape
  | url
  | invalidCharacter
  deriving DecidableEq, Repr

/-- The wording of a defect of the method-specific identifier. -/
def IdDefect.message : IdDefect → String
  | .empty => "method-specific id is empty"
  | .endsWithColon => "method-specific id must not end with ':'"
  | .truncatedEscape => "truncated percent-encoding"
  | .invalidEscape => "invalid percent-encoding"
  | .url => "DID URLs are not accepted"
  | .invalidCharacter => "invalid character"

/-- Why a text is no DID. -/
inductive Defect where
  | empty
  | tooLong
  | wrongStart (text : String)
  | missingId (text : String)
  | invalidMethod (method : String)
  | invalidId (text : String) (reason : IdDefect)
  deriving DecidableEq, Repr

def Defect.message : Defect → String
  | .empty => "DID cannot be empty"
  | .tooLong => s!"DID too long (max {maxSize} characters)"
  | .wrongStart text => s!"DID must start with 'did:': {text}"
  | .missingId text => s!"DID is missing a method-specific id: {text}"
  | .invalidMethod method => s!"Invalid DID method name '{method}'"
  | .invalidId text reason => s!"Invalid DID {text}: {reason.message}"

/-- Finds the first character of an identifier that may not stand there.  An
escape is cut short when fewer than two octets follow its percent sign; one
character of more than one octet therefore makes it invalid and not short. -/
def scanId : List Char → Except IdDefect Unit
  | [] => .ok ()
  | ['%'] => .error .truncatedEscape
  | ['%', c] => .error (if c.utf8Size < 2 then .truncatedEscape else .invalidEscape)
  | '%' :: high :: low :: rest =>
    if isHexDigit high && isHexDigit low then scanId rest else .error .invalidEscape
  | c :: rest =>
    if isIdChar c || c == ':' then scanId rest
    else if c == '/' || c == '?' || c == '#' then .error .url
    else .error .invalidCharacter

/-- Accepts exactly the method-specific identifiers. -/
def checkId (id : List Char) : Except IdDefect Unit :=
  if id.isEmpty then .error .empty
  else if id.getLast? == some ':' then .error .endsWithColon
  else scanId id

/-- Accepts exactly the DIDs. -/
def check (text : String) : Except Defect Unit :=
  if text.isEmpty then .error .empty
  else if text.utf8ByteSize > maxSize then .error .tooLong
  else
    match text.toList with
    | 'd' :: 'i' :: 'd' :: ':' :: rest =>
      let method := rest.takeWhile (· != ':')
      match rest.dropWhile (· != ':') with
      | [] => .error (.missingId text)
      | _ :: id =>
        if method.isEmpty || !method.all isMethodChar then
          .error (.invalidMethod (String.ofList method))
        else
          match checkId id with
          | .ok () => .ok ()
          | .error reason => .error (.invalidId text reason)
    | _ => .error (.wrongStart text)

/-- One character of an identifier segment, or one percent-escape. -/
inductive IdUnit : List Char → Prop where
  | plain {c : Char} : isIdChar c → IdUnit [c]
  | escape {high low : Char} : isHexDigit high → isHexDigit low →
      IdUnit ['%', high, low]

/-- Identifier units, one after the other. -/
inductive IdUnits : List Char → Prop where
  | nil : IdUnits []
  | cons {one rest : List Char} : IdUnit one → IdUnits rest → IdUnits (one ++ rest)

/-- The grammar of a method-specific identifier: segments separated by colons,
of which the last must not be empty. -/
inductive IsId : List Char → Prop where
  | last {segment : List Char} : segment ≠ [] → IdUnits segment → IsId segment
  | more {segment rest : List Char} : IdUnits segment → IsId rest →
      IsId (segment ++ ':' :: rest)

def IsDid (text : String) : Prop :=
  text.utf8ByteSize ≤ maxSize ∧
    ∃ method id, text = String.ofList ("did:".toList ++ method ++ ':' :: id) ∧
      method ≠ [] ∧ (∀ c ∈ method, isMethodChar c) ∧ IsId id

end Did
end BpnDirectory
