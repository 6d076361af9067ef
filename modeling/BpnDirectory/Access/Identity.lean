namespace BpnDirectory
namespace Access

/-!
Callers and what they may do.

A caller is known by a subject and by what was shown to prove it.  Reading is for
every known caller; writing is for the holder of the management key and for
callers that the rules name, by themselves or by a credential they hold.
-/

inductive Method where
  | presentation
  | apiKey
  deriving DecidableEq, Repr

def Method.name : Method → String
  | .presentation => "presentation"
  | .apiKey => "api_key"

structure Identity where
  subject : String
  bpn : Option String
  credentialTypes : List String
  method : Method
  deriving DecidableEq, Repr

def apiKeySubject : String := "management-api-key"

def Identity.ofApiKey : Identity := ⟨apiKeySubject, none, [], .apiKey⟩

inductive Scope where
  | readOnly
  | readWrite
  deriving DecidableEq, Repr

namespace Scope

def name : Scope → String
  | .readOnly => "read_only"
  | .readWrite => "read_write"

/-- Whether a scope includes another one. -/
def satisfies : Scope → Scope → Bool
  | .readWrite, _ => true
  | .readOnly, required => required == .readOnly

end Scope

structure ScopeRules where
  /-- DIDs and BPNs of callers who may write. -/
  principals : List String
  /-- Type of a credential whose holders may write. -/
  managementType : Option String
  deriving DecidableEq, Repr

namespace ScopeRules

def namesCaller (rules : ScopeRules) (identity : Identity) : Bool :=
  rules.principals.contains identity.subject ||
    identity.bpn.any fun bpn => rules.principals.contains bpn

/-- Whether a caller holds a credential that the rules name. -/
def namesCredential (rules : ScopeRules) (identity : Identity) : Bool :=
  rules.managementType.any fun kind => identity.credentialTypes.contains kind

def scopeOf (rules : ScopeRules) (identity : Identity) : Scope :=
  if identity.method = .apiKey || rules.namesCaller identity || rules.namesCredential identity
  then .readWrite
  else .readOnly

end ScopeRules
end Access
end BpnDirectory
