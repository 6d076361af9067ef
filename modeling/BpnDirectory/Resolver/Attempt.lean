import BpnDirectory.Resolver.Node
import BpnDirectory.Resolver.Policy

namespace BpnDirectory
namespace Resolver

/-!
Calls on the store, made again while the store is out of reach.

Every attempt is counted with its outcome.  A call that succeeded or failed for
good is never made again.
-/

open Store (Call)

variable {S α : Type}

/-- The outcome of a call as it is counted. -/
def outcomeLabel : Except Failure α → String
  | .ok _ => "ok"
  | .error failure => failure.code

def attempt (operation : String) (call : Time.Instant → Call S α) :
    Program (Node S) (Except Failure α) := do
  let outcome ← Program.step .store (fun node => node.callStore (call node.now)) .done
  Program.change (Node.record (.storeCall operation (outcomeLabel outcome)))
  pure outcome

/-- Whether a call is worth making again. -/
def isWorthRetrying : Except Failure α → Bool
  | .ok _ => false
  | .error failure => failure.isTransient

/-- A call with a number of retries left. -/
def retrying (operation : String) (call : Time.Instant → Call S α) :
    Nat → Program (Node S) (Except Failure α)
  | 0 => attempt operation call
  | retries + 1 => do
    let outcome ← attempt operation call
    if isWorthRetrying outcome then
      Program.change (Node.record (.storeRetry operation))
      retrying operation call retries
    else pure outcome

def request (policy : Policy) (operation : String) (call : Time.Instant → Call S α) :
    Operation S α :=
  ExceptT.mk (retrying operation call policy.retry.attempts)

end Resolver
end BpnDirectory
