import BpnDirectory.Proofs.Resolver.Mirroring

namespace BpnDirectory
namespace Resolver

/-!
Resolution that is alone.

A node that mirrors a directory resolves BPNs as the directory does: what its cache has
is what the store would have answered at that moment, and what it puts into the cache
the store has just answered.  A batch may be answered in part from the cache and in part
from the store, and no one can tell which part is which.
-/

open Operation (Conveys)
open Store (LawfulStore MappingStore SteadyStore)

variable {S : Type} [MappingStore S] {directory : Directory S}

/-! ## The outcomes of a batch -/

theorem mem_distinct {keys : List String} {key : String} : key ∈ distinct keys ↔ key ∈ keys := by
  have folded : ∀ kept : List String,
      key ∈ keys.foldl (fun kept key => if key ∈ kept then kept else kept ++ [key]) kept ↔
        key ∈ kept ∨ key ∈ keys := by
    induction keys with
    | nil => simp
    | cons head rest ih =>
        intro kept
        rw [List.foldl_cons, ih, List.mem_cons, ← or_assoc]
        split
        · next known =>
            constructor
            · exact fun listed => listed.imp_left Or.inl
            · rintro ((listed | rfl) | listed)
              · exact Or.inl listed
              · exact Or.inl known
              · exact Or.inr listed
        · rw [List.mem_append, List.mem_singleton]
  unfold distinct
  simpa using folded []

/-- Whether the outcomes of the keys seen so far are what a directory has for them, apart
from the keys that were missed. -/
structure Lookups.Agree (directory : Directory S) (seen : List String) (lookups : Lookups) :
    Prop where
  settled : ∀ key ∈ seen, key ∉ lookups.misses.map Prod.fst →
    lookups.outcomes.find? key = some (directory.outcomeOf key)
  known : ∀ key outcome, lookups.outcomes.find? key = some outcome →
    key ∈ seen ∧ outcome = directory.outcomeOf key
  missed : ∀ key ∈ lookups.misses.map Prod.fst, key ∈ seen ∧ requireBpn key = .ok ()

namespace Lookups.Agree

variable {seen : List String} {lookups : Lookups} {bpn : String}
  {misses : List (String × Cache.Ticket)} {outcomes : OrderedMap BatchOutcome}
  {ticket : Cache.Ticket}

theorem start : (⟨[], .empty⟩ : Lookups).Agree directory [] where
  settled := nofun
  known := nofun
  missed := nofun

/-- One more key is seen, and its outcome is known. -/
theorem see (agree : lookups.Agree directory seen) {outcome : BatchOutcome}
    (right : outcome = directory.outcomeOf bpn) :
    ({ lookups with outcomes := lookups.outcomes.insert bpn outcome } : Lookups).Agree directory
      (seen ++ [bpn]) where
  settled := by
    intro key member fresh
    rw [OrderedMap.find?_insert]
    split
    · next same => rw [right, same]
    · next other =>
        refine agree.settled key ?_ fresh
        simpa [Ne.symm other] using member
  known := by
    intro key other found
    rw [OrderedMap.find?_insert] at found
    split at found
    · next same =>
        cases found
        exact ⟨by simp [same], same ▸ right⟩
    · rcases agree.known key other found with ⟨member, same⟩
      exact ⟨List.mem_append_left _ member, same⟩
  missed := fun key member =>
    (agree.missed key member).imp_left (List.mem_append_left _)

/-- One more key is seen, and is missed. -/
theorem miss (agree : lookups.Agree directory seen) (valid : requireBpn bpn = .ok ()) :
    ({ lookups with misses := lookups.misses ++ [(bpn, ticket)] } : Lookups).Agree directory
      (seen ++ [bpn]) where
  settled := by
    intro key member fresh
    simp only [List.map_append, List.mem_append, List.map_cons, List.map_nil,
      List.mem_singleton, not_or] at member fresh
    exact agree.settled key (member.resolve_right fresh.2) fresh.1
  known := by
    intro key outcome found
    rcases agree.known key outcome found with ⟨member, same⟩
    exact ⟨List.mem_append_left _ member, same⟩
  missed := by
    intro key member
    simp only [List.map_append, List.mem_append, List.map_cons, List.map_nil,
      List.mem_singleton] at member ⊢
    rcases member with old | rfl
    · exact (agree.missed key old).imp_left Or.inl
    · exact ⟨Or.inr rfl, valid⟩

/-- A key that was missed is settled. -/
theorem settle (agree : (⟨(bpn, ticket) :: misses, outcomes⟩ : Lookups).Agree directory seen)
    {outcome : BatchOutcome} (right : outcome = directory.outcomeOf bpn) :
    (⟨misses, outcomes.insert bpn outcome⟩ : Lookups).Agree directory seen where
  settled := by
    intro key member fresh
    dsimp only
    rw [OrderedMap.find?_insert]
    split
    · next same => rw [right, same]
    · next other =>
        refine agree.settled key member ?_
        simpa [Ne.symm other] using fresh
  known := by
    intro key other found
    dsimp only at found
    rw [OrderedMap.find?_insert] at found
    split at found
    · next same =>
        cases found
        exact same ▸ ⟨(agree.missed bpn (by simp)).1, right⟩
    · exact agree.known key other found
  missed := fun key member => agree.missed key (List.mem_cons_of_mem bpn member)

/-- When nothing is missed any more, the outcomes are those that the directory has. -/
theorem eq_ofList {bpns : List String}
    (agree : (⟨[], outcomes⟩ : Lookups).Agree directory (distinct bpns)) :
    outcomes = .ofList (bpns.map fun bpn => (bpn, directory.outcomeOf bpn)) := by
  apply OrderedMap.eq_of_find?
  intro key
  rw [OrderedMap.find?_ofList_map]
  split
  · next member => exact agree.settled key (mem_distinct.mpr member) List.not_mem_nil
  · next other =>
      cases found : outcomes.find? key with
      | none => rfl
      | some outcome => exact absurd (mem_distinct.mp (agree.known key outcome found).1) other

end Lookups.Agree

/-! ## Resolution -/

variable [LawfulStore S] [SteadyStore S] {now : Time.Instant}

theorem Directory.resolve_of_heldDid {bpn did : String} (valid : requireBpn bpn = .ok ())
    (healthy : SteadyStore.IsHealthy directory.store) (held : directory.heldDid bpn = some did) :
    directory.resolve bpn = .ok did := by
  rcases Option.map_eq_some_iff.mp held with ⟨kept, holds, rfl⟩
  rcases SteadyStore.get_answers healthy holds with ⟨record, found⟩
  rw [resolve_eq_of_ok valid, found]
  cases holds.symm.trans (LawfulStore.get_found found)
  rfl

/-- A batch finds out about a BPN what the directory has for it. -/
theorem Directory.outcomeOf_eq {bpn : String} (valid : requireBpn bpn = .ok ())
    (healthy : SteadyStore.IsHealthy directory.store) :
    directory.outcomeOf bpn = (directory.heldDid bpn).elim .notFound .found := by
  unfold outcomeOf
  rw [valid]
  dsimp only
  cases held : directory.heldDid bpn with
  | some did => rw [resolve_of_heldDid valid healthy held, Option.elim]
  | none =>
      rw [resolve_eq_of_ok valid]
      cases found : (MappingStore.get bpn directory.store).1 with
      | error failure => rfl
      | ok record => cases held.symm.trans (heldDid_of_get found)

theorem conveys_resolve (policy : Policy) (bpn : String)
    (healthy : SteadyStore.IsHealthy directory.store) :
    Conveys directory now (resolve policy bpn : Operation S String)
      (· = directory.resolve bpn) := by
  unfold resolve
  refine Operation.conveys_check_bind ?_ ?_
  · intro failure refused
    exact (Directory.resolve_eq_of_error refused).symm
  rintro ⟨⟩ valid
  refine Operation.conveys_act_bind (directory.Agrees bpn) (fun _ mirrors => mirrors.lookup bpn) ?_
  intro found known
  cases found with
  | hit did =>
      exact Operation.conveys_pure (Directory.resolve_of_heldDid valid healthy (known)).symm
  | miss ticket =>
      rw [Directory.resolve_eq_of_ok valid]
      refine conveys_request_bind (.get bpn) (fun _ => rfl) rfl policy "get" ?_ ?_
      · intro failure missing
        rw [missing]
        rfl
      · intro record found
        rw [found]
        refine Operation.conveys_change_bind
          (fun node mirrors => mirrors.populate (Directory.heldDid_of_get found) ticket) ?_
        exact Operation.conveys_pure rfl

theorem conveys_lookupKey {lookups : Lookups} {seen : List String}
    (agree : lookups.Agree directory seen) (bpn : String)
    (healthy : SteadyStore.IsHealthy directory.store) :
    Conveys directory now (lookupKey lookups bpn : Operation S Lookups)
      fun outcome => ∃ after, outcome = .ok after ∧ after.Agree directory (seen ++ [bpn]) := by
  unfold lookupKey
  split
  · next failure refused =>
      refine Operation.conveys_pure ⟨_, rfl, agree.see ?_⟩
      rw [Directory.outcomeOf, refused]
  · next valid =>
      refine Operation.conveys_act_bind (directory.Agrees bpn) (fun _ mirrors => mirrors.lookup bpn) ?_
      intro found known
      cases found with
      | hit did =>
          refine Operation.conveys_pure ⟨_, rfl, agree.see ?_⟩
          have held : directory.heldDid bpn = some did := known
          rw [Directory.outcomeOf_eq valid healthy, held, Option.elim]
      | miss ticket => exact Operation.conveys_pure ⟨_, rfl, agree.miss valid⟩

theorem conveys_lookupKeys {lookups : Lookups} {seen : List String}
    (agree : lookups.Agree directory seen) (bpns : List String)
    (healthy : SteadyStore.IsHealthy directory.store) :
    Conveys directory now (lookupKeys lookups bpns : Operation S Lookups)
      fun outcome => ∃ after, outcome = .ok after ∧ after.Agree directory (seen ++ bpns) := by
  induction bpns generalizing lookups seen with
  | nil =>
      rw [List.append_nil]
      exact Operation.conveys_pure ⟨lookups, rfl, agree⟩
  | cons bpn rest ih =>
      refine Operation.conveys_bind (conveys_lookupKey agree bpn healthy) ?_
      intro after agrees
      rw [← List.singleton_append, ← List.append_assoc]
      exact ih agrees

theorem conveys_settleMisses {found : OrderedMap String} {outcomes : OrderedMap BatchOutcome}
    {misses : List (String × Cache.Ticket)} {seen : List String}
    (agree : (⟨misses, outcomes⟩ : Lookups).Agree directory seen)
    (shown : ∀ miss ∈ misses, directory.heldDid miss.1 = found.find? miss.1)
    (healthy : SteadyStore.IsHealthy directory.store) :
    Conveys directory now
      (settleMisses found outcomes misses : Operation S (OrderedMap BatchOutcome))
      fun outcome => ∃ after, outcome = .ok after ∧
        (⟨[], after⟩ : Lookups).Agree directory seen := by
  induction misses generalizing outcomes with
  | nil => exact Operation.conveys_pure ⟨outcomes, rfl, agree⟩
  | cons miss rest ih =>
      rcases miss with ⟨bpn, ticket⟩
      have held : directory.heldDid bpn = found.find? bpn := shown (bpn, ticket) List.mem_cons_self
      have right := Directory.outcomeOf_eq (agree.missed bpn (by simp)).2 healthy
      have others : ∀ miss ∈ rest, directory.heldDid miss.1 = found.find? miss.1 :=
        fun miss member => shown miss (List.mem_cons_of_mem _ member)
      rw [held] at right
      unfold settleMisses
      split
      · next did present =>
          rw [present] at held right
          refine Operation.conveys_change_bind (fun node mirrors => mirrors.populate held ticket) ?_
          exact ih (agree.settle right.symm) others
      · next absent =>
          rw [absent] at right
          exact ih (agree.settle right.symm) others

theorem conveys_resolveBatch (policy : Policy) (bpns : List String)
    (healthy : SteadyStore.IsHealthy directory.store) :
    Conveys directory now (resolveBatch policy bpns : Operation S (OrderedMap BatchOutcome))
      (· = directory.resolveBatch policy bpns) := by
  unfold resolveBatch Directory.resolveBatch
  split
  · exact fun _ mirrors => ⟨rfl, mirrors⟩
  refine Operation.conveys_bind (conveys_lookupKeys .start (distinct bpns) healthy) ?_
  rintro ⟨misses, outcomes⟩ agree
  rw [List.nil_append] at agree
  split
  · next none =>
      cases List.isEmpty_iff.mp none
      exact Operation.conveys_pure (congrArg Except.ok agree.eq_ofList)
  · rcases SteadyStore.getMany_answers healthy (misses.map Prod.fst) with ⟨records, read⟩
    refine conveys_request_bind (.getMany (misses.map Prod.fst)) (fun _ => rfl) rfl policy
      "get_many" ?_ ?_
    · intro failure failed
      cases read.symm.trans failed
    · intro answered same
      cases read.symm.trans same
      have shown : ∀ miss ∈ misses, directory.heldDid miss.1 = _ := fun miss member =>
        Store.didOf_getMany (SteadyStore.sound_of_healthy healthy) read (List.mem_map_of_mem member)
      refine (conveys_settleMisses agree shown healthy).mono ?_
      rintro _ ⟨after, rfl, settled⟩
      exact congrArg Except.ok settled.eq_ofList

end Resolver
end BpnDirectory
