import BpnDirectory.Proofs.Cache.Kept

namespace BpnDirectory
namespace Cache

/-!
Healing a cache.

To heal a cache of some keys is to invalidate them one after the other, and to clear the cache if
a shard of one of them is poisoned.  Either way no entry of the keys is left, their shards can be
used, and the tickets that were handed out for these shards are void.
-/

variable {cache : Cache} {key : String} {keys : List String} {entry : Entry}

/-! ## Several invalidations -/

/-- The shard after the entries of keys were invalidated one after the other. -/
def Shard.invalidateEach (shard : Shard) (keys : List String) : Shard :=
  keys.foldl Shard.invalidate shard

theorem Shard.generation_invalidateEach (shard : Shard) (keys : List String) :
    (shard.invalidateEach keys).generation = shard.generation + keys.length := by
  induction keys generalizing shard with
  | nil => rfl
  | cons key rest ih =>
      rw [invalidateEach, List.foldl_cons]
      refine (ih (shard.invalidate key)).trans ?_
      rw [List.length_cons, Nat.add_comm rest.length, ← Nat.add_assoc]
      rfl

theorem Shard.poisoned_invalidateEach (shard : Shard) (keys : List String) :
    (shard.invalidateEach keys).poisoned = shard.poisoned := by
  induction keys generalizing shard with
  | nil => rfl
  | cons key rest ih => exact ih (shard.invalidate key)

theorem Shard.mem_invalidateEach (shard : Shard) (keys : List String) (entry : Entry) :
    entry ∈ (shard.invalidateEach keys).entries ↔ entry ∈ shard.entries ∧ entry.key ∉ keys := by
  induction keys generalizing shard with
  | nil => simp [invalidateEach]
  | cons key rest ih =>
      rw [invalidateEach, List.foldl_cons]
      refine (ih (shard.invalidate key)).trans ?_
      change entry ∈ without key shard.entries ∧ _ ↔ _
      rw [mem_without, List.mem_cons, not_or, and_assoc]

/-- The cache after the entries of keys were invalidated one after the other, as far as their
shards could be used. -/
def invalidateEach (cache : Cache) (keys : List String) : Cache :=
  keys.foldl (fun cache key => (cache.invalidate key).2) cache

def IsWhole (cache : Cache) : Prop :=
  cache.shards.size = cache.settings.shardCount

theorem IsWhole.shard_invalidate (whole : cache.IsWhole) (key : String) (index : Nat) :
    (cache.invalidate key).2.shard index =
      if cache.shardOf key = index ∧ (cache.shard index).poisoned = false then
        (cache.shard index).invalidate key
      else cache.shard index := by
  cases poisoned : (cache.shard (cache.shardOf key)).poisoned with
  | true =>
      rw [invalidate_of_poisoned poisoned, if_neg]
      rintro ⟨rfl, usable⟩
      exact Bool.false_ne_true (usable.symm.trans poisoned)
  | false =>
      have bound : cache.shardOf key < cache.shards.size := whole ▸ cache.shardOf_lt key
      rw [shard_congr (shards_invalidate poisoned), shard_setShard]
      by_cases same : cache.shardOf key = index
      · subst same
        rw [if_pos ⟨rfl, bound⟩, if_pos ⟨rfl, poisoned⟩]
      · rw [if_neg fun both => same both.1, if_neg fun both => same both.1]

theorem IsWhole.of_evolves {May : Nat → Entry → Prop} {after : Cache} (whole : cache.IsWhole)
    (evolves : Evolves May cache after) : after.IsWhole := by
  rw [IsWhole, evolves.size, evolves.settings]
  exact whole

/-- A shard that can be used loses the entries of its own keys, and gets a new generation with
each of them. -/
theorem IsWhole.shard_invalidateEach (whole : cache.IsWhole) (keys : List String) (index : Nat) :
    (cache.invalidateEach keys).shard index =
      if (cache.shard index).poisoned then cache.shard index
      else (cache.shard index).invalidateEach (keys.filter fun key => cache.shardOf key = index) := by
  induction keys generalizing cache with
  | nil => exact (ite_self _).symm
  | cons key rest ih =>
      have evolves : Evolves (fun _ _ => False) cache (cache.invalidate key).2 :=
        invalidate_evolves key
      have others := ih (whole.of_evolves evolves)
      simp only [evolves.shardOf_eq] at others
      refine others.trans ?_
      rw [whole.shard_invalidate]
      by_cases own : cache.shardOf key = index ∧ (cache.shard index).poisoned = false
      · have still : ((cache.shard index).invalidate key).poisoned = false := own.2
        rw [if_pos own, still, own.2, List.filter_cons_of_pos (by simpa using own.1)]
        rfl
      · rw [if_neg own]
        split
        case isTrue => rfl
        case isFalse usable =>
          have different : cache.shardOf key ≠ index := fun same =>
            own ⟨same, Bool.eq_false_iff.mpr usable⟩
          rw [List.filter_cons_of_neg (by simpa using different)]

theorem invalidateEach_evolves (cache : Cache) (keys : List String) :
    Evolves (fun _ _ => False) cache (cache.invalidateEach keys) := by
  induction keys generalizing cache with
  | nil => exact .refl cache
  | cons key rest ih => exact (invalidate_evolves key).trans (ih (cache.invalidate key).2)

/-! ## Healing -/

/-- The cache after it was tried to invalidate keys, and it was cleared if that failed for one of
them. -/
def heal (cache : Cache) (keys : List String) : Cache :=
  if keys.any fun key => (cache.shard (cache.shardOf key)).poisoned then
    (cache.invalidateEach keys).invalidateAll
  else cache.invalidateEach keys

theorem heal_evolves (cache : Cache) (keys : List String) :
    Evolves (fun _ _ => False) cache (cache.heal keys) := by
  unfold heal
  split
  · exact (invalidateEach_evolves cache keys).trans (invalidateAll_evolves _)
  · exact invalidateEach_evolves cache keys

/-- A key that was handled has a shard that can be used, which has a new generation and no entry
of the key. -/
theorem IsWhole.shard_heal (whole : cache.IsWhole) (member : key ∈ keys) :
    ((cache.heal keys).shard (cache.shardOf key)).poisoned = false ∧
      (cache.shard (cache.shardOf key)).generation <
        ((cache.heal keys).shard (cache.shardOf key)).generation ∧
      ∀ entry ∈ ((cache.heal keys).shard (cache.shardOf key)).entries, entry.key ≠ key := by
  have own : key ∈ keys.filter fun other => cache.shardOf other = cache.shardOf key := by
    simpa using member
  unfold heal
  split
  case isTrue =>
    have evolves := invalidateEach_evolves cache keys
    have bound : cache.shardOf key < (cache.invalidateEach keys).shards.size := by
      rw [evolves.size, whole]
      exact cache.shardOf_lt key
    rw [shard_invalidateAll, if_pos bound]
    exact ⟨rfl, Nat.lt_succ_of_le (evolves.shards _).grown,
      fun _ kept => absurd kept List.not_mem_nil⟩
  case isFalse unharmed =>
    have usable : (cache.shard (cache.shardOf key)).poisoned = false := by
      simp only [List.any_eq_true, not_exists, not_and, Bool.not_eq_true] at unharmed
      exact unharmed key member
    rw [whole.shard_invalidateEach, usable, if_neg Bool.false_ne_true]
    refine ⟨(Shard.poisoned_invalidateEach _ _).trans usable, ?_, ?_⟩
    · rw [Shard.generation_invalidateEach]
      exact Nat.lt_add_of_pos_right (List.length_pos_of_mem own)
    · rintro entry kept rfl
      exact ((Shard.mem_invalidateEach _ _ _).mp kept).2 own

/-- If no key has a poisoned shard, the entries of other keys are kept. -/
theorem IsWhole.holds_heal (whole : cache.IsWhole)
    (usable : ∀ key ∈ keys, (cache.shard (cache.shardOf key)).poisoned = false)
    (holds : cache.Holds entry) (other : entry.key ∉ keys) : (cache.heal keys).Holds entry := by
  have unharmed : ¬ (keys.any fun key => (cache.shard (cache.shardOf key)).poisoned) = true := by
    simpa using usable
  rw [Holds, (heal_evolves cache keys).shardOf_eq, heal, if_neg unharmed,
    whole.shard_invalidateEach]
  split
  · exact holds
  · exact (Shard.mem_invalidateEach _ _ _).mpr ⟨holds, fun own => other (List.mem_filter.mp own).1⟩

/-- What is known of a cache and a key that was handled, if certain tickets were handed out
before. -/
structure IsMended (Past : Ticket → Prop) (cache : Cache) (key : String) : Prop where
  usable : (cache.shard (cache.shardOf key)).poisoned = false
  dropped : ∀ entry, cache.Holds entry → entry.key ≠ key
  /-- If the cache is in use, the key is missed, and its value is taken with the ticket. -/
  takes : cache.settings.enabled = true → ∀ now, ∃ ticket,
    (cache.lookup now key).1 = .miss ticket ∧
      ∀ later did, ((cache.lookup now key).2.populate later key did ticket).1 = true
  /-- With a ticket from before no value is taken for any key. -/
  refuses : ∀ ticket, Past ticket → ticket.shard = cache.shardOf key →
    ∀ later other did, (cache.populate later other did ticket).1 = false

theorem IsWhole.isMended_heal {Past : Ticket → Prop} (whole : cache.IsWhole) (member : key ∈ keys)
    (past : ∀ ticket, Past ticket → ∀ generation, ticket.generation = some generation →
      generation ≤ (cache.shard ticket.shard).generation) : (cache.heal keys).IsMended Past key := by
  have ⟨usable, grown, dropped⟩ := whole.shard_heal member
  have beside := (heal_evolves cache keys).shardOf_eq key
  rw [← beside] at usable dropped
  refine ⟨usable, ?_, fun enabled now => ?_, fun ticket issued same later other did => ?_⟩
  · rintro entry holds rfl
    exact dropped entry holds rfl
  · rcases lookup_of_absent ⟨enabled, usable⟩ (Shard.find?_eq_none_iff.mpr dropped) now with
      ⟨ticket, missed, permitted, _⟩
    exact ⟨ticket, missed, fun later did => populate_fst.trans permitted⟩
  · rw [populate_fst, Bool.eq_false_iff]
    intro permitted
    -- The ticket would have to name the new generation.
    have old := past ticket issued _ (permits_iff.mp permitted).2.2
    rw [same, beside] at old
    exact absurd old (Nat.not_le_of_lt grown)

end Cache
end BpnDirectory
