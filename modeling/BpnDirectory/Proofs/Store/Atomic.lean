import BpnDirectory.Proofs.Store.Lawful
import BpnDirectory.Proofs.Store.Statements

namespace BpnDirectory
namespace Store

/-!
Stores that keep what they kept.

A call that fails, and a call that asks for no change, leaves the records and the
directory version as they were.  This holds in any state of a store, so it holds for a
database whose tables others have spoiled.
-/

/-- Stores that keep what they kept when a call fails or asks for no change. -/
class AtomicStore (S : Type) [MappingStore S] where
  /-- What is kept in a store. -/
  Kept : Type
  /-- The records and the directory version of a store. -/
  kept : S → Kept
  kept_of_failed : ∀ (request : Request) {store : S} {failure : Failure},
    (request.perform store).1 = .failed failure → kept (request.perform store).2 = kept store
  kept_of_read : ∀ {request : Request}, request.isChange = false → ∀ store : S,
    kept (request.perform store).2 = kept store

/-- A call that fails leaves its store if its reply is not a failure otherwise. -/
theorem perform_answered {S α : Type} {make : α → Reply} {call : Call S α}
    (proper : ∀ value failure, make value ≠ .failed failure)
    (atomic : ∀ store failure, (call store).1 = .error failure → (call store).2 = store)
    {store : S} {failure : Failure}
    (failed : (Request.answered make call store).1 = .failed failure) :
    (Request.answered make call store).2 = store := by
  change Reply.ofOutcome make (call store).1 = .failed failure at failed
  cases outcome : (call store).1 with
  | error refusal => exact atomic store refusal outcome
  | ok value =>
      rw [outcome] at failed
      exact absurd failed (proper value failure)

theorem Script.rollingBack_of_failed {S α : Type} {script : Script S α} (store : S)
    (failure : Failure) (failed : (script.rollingBack store).1 = .error failure) :
    (script.rollingBack store).2 = store := by
  rw [rollingBack_eq] at failed ⊢
  rcases transaction_cases script.outcome store with ⟨_, refused⟩ | ⟨_, _, _, done⟩
  · rw [refused]
  · rw [done] at failed
    cases failed

theorem Memory.perform_read {request : Request} (isRead : request.isChange = false)
    (memory : Memory) : (request.perform memory).2 = memory := by
  cases request with
  | put | putBatch | delete => cases isRead
  | _ => rfl

/-- Records in memory are looked at before they are written to. -/
theorem Memory.perform_of_failed (request : Request) {memory : Memory} {failure : Failure}
    (failed : (request.perform memory).1 = .failed failure) : (request.perform memory).2 = memory := by
  cases request with
  | put now bpn did expected =>
      refine perform_answered nofun (fun store refusal => ?_) failed
      change (Memory.put now bpn did expected store).1 = _ →
        (Memory.put now bpn did expected store).2 = _
      rw [put_eq_play]
      exact isCareful_putScript now bpn did expected store refusal
  | putBatch now batch =>
      refine perform_answered nofun (fun store refusal => ?_) failed
      change (Memory.putBatch now batch store).1 = _ → (Memory.putBatch now batch store).2 = _
      rw [putBatch_eq_play]
      exact isCareful_putBatchScript now batch store refusal
  | delete bpn expected =>
      refine perform_answered nofun (fun store refusal => ?_) failed
      change (Memory.delete bpn expected store).1 = _ → (Memory.delete bpn expected store).2 = _
      rw [delete_eq_play]
      exact isCareful_deleteScript bpn expected store refusal
  | _ => exact perform_read rfl memory

/-- A database takes back what the statements of a change wrote before one of them
failed. -/
theorem Tables.perform_of_failed (request : Request) {tables : Tables} {failure : Failure}
    (failed : (request.perform tables).1 = .failed failure) : (request.perform tables).2 = tables := by
  cases request with
  | put now bpn did expected =>
      refine perform_answered nofun (fun store refusal => ?_) failed
      change (Tables.put now bpn did expected store).1 = _ →
        (Tables.put now bpn did expected store).2 = _
      rw [put_eq_rollingBack]
      exact Script.rollingBack_of_failed store refusal
  | putBatch now batch =>
      refine perform_answered nofun (fun store refusal => ?_) failed
      change (Tables.putBatch now batch store).1 = _ → (Tables.putBatch now batch store).2 = _
      rw [putBatch_eq_rollingBack]
      exact Script.rollingBack_of_failed store refusal
  | delete bpn expected =>
      refine perform_answered nofun (fun store refusal => ?_) failed
      change (Tables.delete bpn expected store).1 = _ → (Tables.delete bpn expected store).2 = _
      rw [delete_eq_rollingBack]
      exact Script.rollingBack_of_failed store refusal
  | _ => exact perform_read rfl tables

instance : AtomicStore Memory where
  Kept := Memory
  kept := id
  kept_of_failed := Memory.perform_of_failed
  kept_of_read := Memory.perform_read

instance : AtomicStore Tables where
  Kept := Tables
  kept := id
  kept_of_failed := Tables.perform_of_failed
  kept_of_read := Tables.perform_read

instance : AtomicStore Backend where
  Kept := Backend
  kept := id
  kept_of_failed := by
    intro request store failure failed
    cases store with
    | memory store =>
        rw [Backend.perform_memory] at failed ⊢
        exact congrArg Backend.memory (Memory.perform_of_failed request failed)
    | tables store =>
        rw [Backend.perform_tables] at failed ⊢
        exact congrArg Backend.tables (Tables.perform_of_failed request failed)
  kept_of_read := by
    intro request isRead store
    cases store with
    | memory store =>
        rw [Backend.perform_memory]
        exact congrArg Backend.memory (Memory.perform_read isRead store)
    | tables store =>
        rw [Backend.perform_tables]
        exact congrArg Backend.tables (Tables.perform_read isRead store)

/-- Calls that do not reach a store leave it. -/
instance {S : Type} [MappingStore S] [AtomicStore S] : AtomicStore (Link S) where
  Kept := AtomicStore.Kept S
  kept link := AtomicStore.kept link.store
  kept_of_failed := by
    intro request link failure failed
    cases down : link.down with
    | zero =>
        rw [Link.perform_up down] at failed ⊢
        exact AtomicStore.kept_of_failed request failed
    | succ rest => rw [Link.perform_down down]
  kept_of_read := by
    intro request isRead link
    cases down : link.down with
    | zero =>
        rw [Link.perform_up down]
        exact AtomicStore.kept_of_read isRead link.store
    | succ rest => rw [Link.perform_down down]

end Store
end BpnDirectory
