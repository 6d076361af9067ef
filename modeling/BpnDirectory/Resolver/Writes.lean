import BpnDirectory.Resolver.Attempt

namespace BpnDirectory
namespace Resolver

/-!
Operations that change records.

A change is acknowledged only after the cached DID of its key was dropped or, if
that failed, the key was put aside for reconciliation.  A failure to drop it
never fails the change, which was committed by then.
-/

open Store (MappingStore)

variable {S α : Type}

/-- Drops what the node derived from the record of a key. -/
def forget (key : String) : Operation S Unit := do
  match ← Operation.act (Node.invalidate key) with
  | .ok () => pure ()
  | .error failure =>
    Operation.record (.failure failure.code "cache")
    Operation.change (Node.addPending key)
  Operation.change Node.dropDump

/-- Drops what the node derived from the records of several keys. -/
def forgetAll : List String → Operation S Unit
  | [] => pure ()
  | key :: rest => do
    forget key
    forgetAll rest

/-- Counts a change that was refused because of the version of its record. -/
def noteConflict (operation : String) (change : Operation S α) : Operation S α :=
  ExceptT.mk do
    let outcome ← change.run
    match outcome with
    | .error (.versionConflict ..) =>
      Program.change (Node.record (.versionConflict operation))
    | _ => pure ()
    pure outcome

variable [MappingStore S]

def register (policy : Policy) (bpn did : String) : Operation S Record := do
  Operation.check (requireBpn bpn)
  Operation.check (requireDid did)
  let committed ← request policy "put" fun now => MappingStore.put now bpn did none
  forget bpn
  Operation.change (Node.followCommit committed.directoryVersion)
  pure committed.value

/-- Replaces the DID of a BPN whose record has the expected version. -/
def rotate (policy : Policy) (bpn did : String) (expected : Int) : Operation S Record := do
  Operation.check (requireBpn bpn)
  Operation.check (requireDid did)
  let committed ← noteConflict "rotate" <|
    request policy "put" fun now => MappingStore.put now bpn did (some expected)
  forget bpn
  Operation.change (Node.followCommit committed.directoryVersion)
  pure committed.value

/-- Deletes the record of a BPN if it has the expected version. -/
def remove (policy : Policy) (bpn : String) (expected : Int) : Operation S Unit := do
  Operation.check (requireBpn bpn)
  let committed ← noteConflict "remove" <|
    request policy "delete" fun _ => MappingStore.delete bpn expected
  forget bpn
  Operation.change (Node.followCommit committed.directoryVersion)

def checkBatch (policy : Policy) (batch : List NewMapping) : Except Failure Unit :=
  if batch.isEmpty then .error (.invalidInput "Batch cannot be empty")
  else if batch.length > policy.batchLimit then
    .error (.invalidInput
      s!"Batch of {batch.length} entries exceeds the maximum of {policy.batchLimit}")
  else batch.forM fun mapping => Store.requireMapping mapping.bpn mapping.did

/-- Creates the records of a batch in one transaction. -/
def registerBatch (policy : Policy) (batch : List NewMapping) :
    Operation S (List Record) := do
  Operation.check (checkBatch policy batch)
  let committed ← request policy "put_batch" fun now => MappingStore.putBatch now batch
  forgetAll (committed.value.map Record.bpn)
  Operation.change (Node.followCommit committed.directoryVersion)
  pure committed.value

end Resolver
end BpnDirectory
