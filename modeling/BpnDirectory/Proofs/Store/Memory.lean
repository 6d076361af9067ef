import BpnDirectory.Proofs.Collection.OrderedMap
import BpnDirectory.Store.Memory

namespace BpnDirectory
namespace Store

/-!
What a change to records in memory comes to.

Each kind of change has one statement with all that can come of it: either it
fails and leaves the store alone, or its checks held and the store afterwards is
given in full.
-/

/-- A mapping that passes its checks has a valid BPN and a valid DID. -/
theorem requireMapping_eq_ok_iff {bpn did : String} :
    requireMapping bpn did = .ok () ↔ requireBpn bpn = .ok () ∧ requireDid did = .ok () := by
  cases bpnCheck : requireBpn bpn with
  | error failure => simp [requireMapping, bpnCheck, bind, Except.bind]
  | ok _ => simp [requireMapping, bpnCheck, bind, Except.bind]

theorem forM_requireMapping_eq_ok_iff {batch : List NewMapping} :
    (batch.forM fun mapping => requireMapping mapping.bpn mapping.did) = .ok () ↔
      ∀ mapping ∈ batch, requireMapping mapping.bpn mapping.did = .ok () := by
  induction batch with
  | nil => simp [pure, Except.pure]
  | cons head rest ih =>
      cases first : requireMapping head.bpn head.did with
      | error failure => simp [first, bind, Except.bind]
      | ok _ =>
          simp only [List.forM_eq_forM] at ih
          simp [first, bind, Except.bind, ih]

theorem repeatedBpn_eq_none_iff {seen : List String} {batch : List NewMapping} :
    repeatedBpn seen batch = none ↔
      (batch.map NewMapping.bpn).Nodup ∧ ∀ mapping ∈ batch, mapping.bpn ∉ seen := by
  induction batch generalizing seen with
  | nil => simp [repeatedBpn]
  | cons head rest ih =>
      by_cases known : head.bpn ∈ seen
      · simp [repeatedBpn, known]
      · simp only [repeatedBpn, if_neg known, ih, List.map_cons, List.nodup_cons, List.mem_map,
          List.mem_cons, not_or, forall_eq_or_imp]
        constructor
        · rintro ⟨distinct, fresh⟩
          refine ⟨⟨?_, distinct⟩, known, fun mapping member => (fresh mapping member).2⟩
          rintro ⟨mapping, member, same⟩
          exact (fresh mapping member).1 same
        · rintro ⟨⟨apart, distinct⟩, _, fresh⟩
          exact ⟨distinct, fun mapping member =>
            ⟨fun same => apart ⟨mapping, member, same⟩, fresh mapping member⟩⟩

/-- A batch passes its checks if every mapping does and no BPN stands twice. -/
theorem requireBatch_eq_ok_iff {batch : List NewMapping} :
    requireBatch batch = .ok () ↔
      (∀ mapping ∈ batch, requireMapping mapping.bpn mapping.did = .ok ()) ∧
        (batch.map NewMapping.bpn).Nodup := by
  unfold requireBatch
  rw [← forM_requireMapping_eq_ok_iff]
  cases each : batch.forM fun mapping => requireMapping mapping.bpn mapping.did with
  | error failure => simp [bind, Except.bind]
  | ok _ =>
      have distinct := @repeatedBpn_eq_none_iff [] batch
      cases repetition : repeatedBpn [] batch <;>
        simp [bind, Except.bind, repetition] at distinct ⊢ <;> exact distinct

namespace Memory

/-- The records after those of a batch were put in. -/
def withCreated (records : OrderedMap Record) (created : List Record) : OrderedMap Record :=
  created.foldl (fun map record => map.insert record.bpn record) records

theorem withCreated_cons (records : OrderedMap Record) (head : Record) (rest : List Record) :
    withCreated records (head :: rest) = withCreated (records.insert head.bpn head) rest := rfl

theorem find?_withCreated_of_ne {created : List Record} {bpn : String}
    (apart : ∀ record ∈ created, record.bpn ≠ bpn) (records : OrderedMap Record) :
    (withCreated records created).find? bpn = records.find? bpn := by
  induction created generalizing records with
  | nil => rfl
  | cons head rest ih =>
      have first := apart head List.mem_cons_self
      have others := ih fun record member => apart record (List.mem_cons_of_mem head member)
      rw [withCreated_cons, others, OrderedMap.find?_insert, if_neg first]

theorem find?_withCreated_of_mem {created : List Record}
    (distinct : (created.map Record.bpn).Nodup) {record : Record} (member : record ∈ created)
    (records : OrderedMap Record) :
    (withCreated records created).find? record.bpn = some record := by
  induction created generalizing records with
  | nil => cases member
  | cons head rest ih =>
      rcases List.nodup_cons.mp distinct with ⟨apart, others⟩
      rw [withCreated_cons]
      rcases List.mem_cons.mp member with same | later
      · subst same
        have below : ∀ other ∈ rest, other.bpn ≠ record.bpn := fun other listed same =>
          apart (List.mem_map.mpr ⟨other, listed, same⟩)
        rw [find?_withCreated_of_ne below, OrderedMap.find?_insert, if_pos rfl]
      · exact ih others later _

/-- The record of a BPN after a batch was put in is the one that the batch names, if
it names one. -/
theorem find?_withCreated_batch {batch : List NewMapping}
    (distinct : (batch.map NewMapping.bpn).Nodup) (now : Time.Instant) (bpn : String)
    (records : OrderedMap Record) :
    (withCreated records (batch.map fun mapping => mapping.create now)).find? bpn =
      match batch.find? fun mapping => mapping.bpn = bpn with
      | some mapping => some (mapping.create now)
      | none => records.find? bpn := by
  cases named : batch.find? fun mapping => mapping.bpn = bpn with
  | some mapping =>
      have member := List.mem_of_find?_eq_some named
      have same : mapping.bpn = bpn := by simpa using List.find?_some named
      have apart : ((batch.map fun mapping => mapping.create now).map Record.bpn).Nodup := by
        rw [List.map_map]
        exact distinct
      subst same
      exact find?_withCreated_of_mem apart (List.mem_map_of_mem member) records
  | none =>
      apply find?_withCreated_of_ne
      intro record member same
      rcases List.mem_map.mp member with ⟨mapping, listed, rfl⟩
      exact List.find?_eq_none.mp named mapping listed (decide_eq_true same)

/-- All that can come of creating or replacing one record. -/
theorem put_cases (now : Time.Instant) (bpn did : String) (expected : Option Int)
    (store : Memory) :
    (∃ failure, Memory.put now bpn did expected store = (.error failure, store)) ∨
      requireMapping bpn did = .ok () ∧ ∃ record,
        Memory.put now bpn did expected store =
          (.ok ⟨record, store.version + 1⟩,
            ⟨store.records.insert bpn record, store.version + 1⟩) ∧
        (expected = none ∧ store.records.find? bpn = none ∧
            record = NewMapping.create ⟨bpn, did⟩ now ∨
          ∃ old, expected = some old.version ∧ store.records.find? bpn = some old ∧
            record = old.replace did now) := by
  cases checked : requireMapping bpn did with
  | error failure =>
      exact Or.inl ⟨failure, by simp [Memory.put, transaction, checked, bind, Except.bind]⟩
  | ok _ =>
      cases expected with
      | none =>
          cases found : store.records.find? bpn with
          | some old =>
              exact Or.inl ⟨.alreadyMapped bpn, by
                simp [Memory.put, transaction, checked, found, bind, Except.bind]⟩
          | none =>
              exact Or.inr ⟨rfl, _, by
                simp [Memory.put, transaction, checked, found, bind, Except.bind, commit],
                Or.inl ⟨rfl, rfl, rfl⟩⟩
      | some version =>
          cases found : store.records.find? bpn with
          | none =>
              exact Or.inl ⟨store.mismatch bpn version, by
                simp [Memory.put, transaction, checked, found, bind, Except.bind]⟩
          | some old =>
              by_cases same : old.version = version
              · exact Or.inr ⟨rfl, _, by
                  simp [Memory.put, transaction, checked, found, same, bind, Except.bind, commit],
                  Or.inr ⟨old, by rw [same], rfl, rfl⟩⟩
              · exact Or.inl ⟨store.mismatch bpn version, by
                  simp [Memory.put, transaction, checked, found, same, bind, Except.bind]⟩

/-- All that can come of creating the records of a batch.  An empty batch is no
change, though it succeeds. -/
theorem putBatch_cases (now : Time.Instant) (batch : List NewMapping) (store : Memory) :
    (∃ failure, Memory.putBatch now batch store = (.error failure, store)) ∨
      (batch = [] ∧ Memory.putBatch now batch store = (.ok ⟨[], store.version⟩, store)) ∨
      (batch ≠ [] ∧ requireBatch batch = .ok () ∧
        (∀ mapping ∈ batch, store.records.find? mapping.bpn = none) ∧
        Memory.putBatch now batch store =
          (.ok ⟨batch.map fun mapping => mapping.create now, store.version + 1⟩,
            ⟨withCreated store.records (batch.map fun mapping => mapping.create now),
              store.version + 1⟩)) := by
  cases checked : requireBatch batch with
  | error failure =>
      exact Or.inl ⟨failure, by simp [Memory.putBatch, transaction, checked, bind, Except.bind]⟩
  | ok _ =>
      cases clash : batch.find? fun mapping => store.records.contains mapping.bpn with
      | some mapping =>
          exact Or.inl ⟨.alreadyMapped mapping.bpn, by
            simp [Memory.putBatch, transaction, checked, clash, bind, Except.bind]⟩
      | none =>
          by_cases isEmpty : batch = []
          · subst isEmpty
            exact Or.inr (Or.inl ⟨rfl, by
              simp [Memory.putBatch, transaction, checked, bind, Except.bind]⟩)
          · refine Or.inr (Or.inr ⟨isEmpty, rfl, ?_, ?_⟩)
            · intro mapping member
              have fresh := List.find?_eq_none.mp clash mapping member
              exact OrderedMap.contains_eq_false_iff.mp (by simpa using fresh)
            · simp [Memory.putBatch, transaction, checked, clash, isEmpty, bind, Except.bind,
                commit, withCreated]

/-- All that can come of deleting a record. -/
theorem delete_cases (bpn : String) (expected : Int) (store : Memory) :
    (∃ failure, Memory.delete bpn expected store = (.error failure, store)) ∨
      ∃ old, store.records.find? bpn = some old ∧ expected = old.version ∧
        Memory.delete bpn expected store =
          (.ok ⟨(), store.version + 1⟩, ⟨store.records.erase bpn, store.version + 1⟩) := by
  cases found : store.records.find? bpn with
  | none =>
      exact Or.inl ⟨store.mismatch bpn expected, by simp [Memory.delete, transaction, found]⟩
  | some old =>
      by_cases same : old.version = expected
      · exact Or.inr ⟨old, rfl, same.symm, by
          simp [Memory.delete, transaction, found, same, commit]⟩
      · exact Or.inl ⟨store.mismatch bpn expected, by
          simp [Memory.delete, transaction, found, same]⟩

end Memory
end Store
end BpnDirectory
