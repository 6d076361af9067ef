import BpnDirectory.Cache.Crash

namespace BpnDirectory
namespace Cache

/-!
How a cache may change in one step.

Whatever happens to a shard, its generation never falls, and a shard that was
poisoned comes back empty and with a new generation.  Entries that stand in a
usable shard were there before, except for one that a ticket of the present
generation put in.
-/

/-- How a shard may change in one step, if only certain entries may be put in. -/
structure Shard.Evolves (May : Entry → Prop) (before after : Shard) : Prop where
  grown : before.generation ≤ after.generation
  healed : before.poisoned = true → after.poisoned = false →
    after.entries = [] ∧ before.generation < after.generation
  kept : before.poisoned = false → after.poisoned = false → ∀ entry ∈ after.entries,
    entry ∈ before.entries ∨ May entry ∧ after.generation = before.generation

namespace Shard

variable {May : Entry → Prop} {shard : Shard}

/-- A shard that only lost entries, for whatever reason, while its generation did
not fall. -/
theorem Evolves.of_subset {after : Shard} (subset : ∀ entry ∈ after.entries, entry ∈ shard.entries)
    (grown : shard.generation ≤ after.generation) (same : after.poisoned = shard.poisoned) :
    Evolves May shard after where
  grown := grown
  healed := by
    intro poisoned usable
    rw [same, poisoned] at usable
    cases usable
  kept := fun _ _ entry member => Or.inl (subset entry member)

theorem Evolves.refl (shard : Shard) : Evolves May shard shard :=
  .of_subset (fun _ member => member) (Nat.le_refl _) rfl

theorem Evolves.mono {Also : Entry → Prop} {after : Shard} (evolves : Evolves May shard after)
    (wider : ∀ entry, May entry → Also entry) : Evolves Also shard after :=
  { evolves with
    kept := fun was is entry member =>
      (evolves.kept was is entry member).imp id fun ⟨may, same⟩ => ⟨wider entry may, same⟩ }

/-- One change after another is a change, as long as nothing is put in. -/
theorem Evolves.trans {middle after : Shard} (first : Evolves (fun _ => False) shard middle)
    (second : Evolves (fun _ => False) middle after) : Evolves (fun _ => False) shard after := by
  refine ⟨Nat.le_trans first.grown second.grown, ?_, ?_⟩
  · intro poisoned usable
    cases between : middle.poisoned with
    | true =>
        have ⟨empty, renewed⟩ := second.healed between usable
        exact ⟨empty, Nat.lt_of_le_of_lt first.grown renewed⟩
    | false =>
        have ⟨empty, renewed⟩ := first.healed poisoned between
        refine ⟨List.eq_nil_iff_forall_not_mem.mpr fun entry member => ?_,
          Nat.lt_of_lt_of_le renewed second.grown⟩
        rcases second.kept between usable entry member with old | ⟨absurdity, _⟩
        · rw [empty] at old
          cases old
        · exact absurdity
  · intro was is entry member
    cases between : middle.poisoned with
    | true =>
        rw [(second.healed between is).1] at member
        cases member
    | false =>
        rcases second.kept between is entry member with old | ⟨absurdity, _⟩
        · exact (first.kept was between entry old).imp id fun ⟨absurdity, _⟩ => absurdity.elim
        · exact absurdity.elim

theorem mem_of_mem_without {key : String} {entries : List Entry} {entry : Entry}
    (member : entry ∈ without key entries) : entry ∈ entries :=
  (List.mem_filter.mp member).1

theorem mem_of_find? {key : String} {entry : Entry} (found : shard.find? key = some entry) :
    entry ∈ shard.entries ∧ entry.key = key :=
  ⟨List.mem_of_find?_eq_some found, by simpa using List.find?_some found⟩

theorem drop_evolves (shard : Shard) (key : String) : Evolves May shard (shard.drop key) :=
  .of_subset (fun _ => mem_of_mem_without) (Nat.le_refl _) rfl

theorem touch_evolves {key : String} {entry : Entry} (found : shard.find? key = some entry) :
    Evolves May shard (shard.touch entry) := by
  refine .of_subset ?_ (Nat.le_refl _) rfl
  intro other member
  rcases List.mem_cons.mp member with same | kept
  · exact same ▸ (mem_of_find? found).1
  · exact mem_of_mem_without kept

theorem invalidate_evolves (shard : Shard) (key : String) :
    Evolves May shard (shard.invalidate key) :=
  .of_subset (fun _ => mem_of_mem_without) (Nat.le_succ _) rfl

theorem clear_evolves (shard : Shard) : Evolves May shard shard.clear where
  grown := Nat.le_succ _
  healed := fun _ _ => ⟨rfl, Nat.lt_succ_self _⟩
  kept := fun _ _ _ member => absurd member List.not_mem_nil

theorem poison_evolves (shard : Shard) : Evolves May shard { shard with poisoned := true } where
  grown := Nat.le_refl _
  healed := fun _ usable => by cases usable
  kept := fun _ usable => by cases usable

/-- The entries after one was put in are this one and entries from before. -/
theorem mem_of_mem_push {capacity : Nat} {added entry : Entry}
    (member : entry ∈ (push capacity shard added).2.entries) :
    entry = added ∨ entry ∈ shard.entries := by
  unfold push at member
  split at member
  · exact (List.mem_cons.mp member).imp id mem_of_mem_without
  · split at member
    · exact List.mem_cons.mp member
    · exact (List.mem_cons.mp member).imp id fun kept => List.dropLast_subset _ kept

theorem push_generation (capacity : Nat) (shard : Shard) (added : Entry) :
    (push capacity shard added).2.generation = shard.generation := by
  unfold push touch
  split
  · rfl
  · split <;> rfl

theorem push_poisoned (capacity : Nat) (shard : Shard) (added : Entry) :
    (push capacity shard added).2.poisoned = shard.poisoned := by
  unfold push touch
  split
  · rfl
  · split <;> rfl

theorem push_evolves {capacity : Nat} {added : Entry} (may : May added) :
    Evolves May shard (push capacity shard added).2 where
  grown := Nat.le_of_eq (push_generation capacity shard added).symm
  healed := by
    intro poisoned usable
    rw [push_poisoned, poisoned] at usable
    cases usable
  kept := by
    intro _ _ entry member
    rcases mem_of_mem_push member with same | old
    · exact Or.inr ⟨same ▸ may, push_generation capacity shard added⟩
    · exact Or.inl old

end Shard

/-- How a cache may change in one step, if only certain entries may be put into
each shard. -/
structure Evolves (May : Nat → Entry → Prop) (before after : Cache) : Prop where
  settings : after.settings = before.settings
  size : after.shards.size = before.shards.size
  shards : ∀ index, Shard.Evolves (May index) (before.shard index) (after.shard index)

variable {May : Nat → Entry → Prop} {cache : Cache}

theorem shard_congr {before after : Cache} (shards : after.shards = before.shards) (index : Nat) :
    after.shard index = before.shard index := by
  rw [shard, shards]
  rfl

/-- A change that leaves the shards alone. -/
theorem Evolves.of_same {before after : Cache} (settings : after.settings = before.settings)
    (shards : after.shards = before.shards) : Evolves May before after where
  settings := settings
  size := by rw [shards]
  shards := by
    intro index
    rw [shard_congr shards]
    exact Shard.Evolves.refl _

theorem Evolves.refl (cache : Cache) : Evolves May cache cache := .of_same rfl rfl

theorem Evolves.mono {Also : Nat → Entry → Prop} {before after : Cache}
    (evolves : Evolves May before after) (wider : ∀ index entry, May index entry → Also index entry) :
    Evolves Also before after :=
  { evolves with shards := fun index => (evolves.shards index).mono (wider index) }

theorem Evolves.trans {first second third : Cache} (before : Evolves (fun _ _ => False) first second)
    (after : Evolves (fun _ _ => False) second third) : Evolves (fun _ _ => False) first third where
  settings := after.settings.trans before.settings
  size := after.size.trans before.size
  shards := fun index => (before.shards index).trans (after.shards index)

theorem shard_setShard (cache : Cache) (index : Nat) (shard : Shard) (other : Nat) :
    (cache.setShard index shard).shard other =
      if index = other ∧ index < cache.shards.size then shard else cache.shard other := by
  unfold setShard Cache.shard
  rw [Array.getD_eq_getD_getElem?, Array.getD_eq_getD_getElem?, Array.getElem?_setIfInBounds]
  by_cases same : index = other
  · subst same
    by_cases bound : index < cache.shards.size
    · simp [bound]
    · simp [bound]
  · simp [same]

/-- Replacing a shard by one that evolved from it. -/
theorem setShard_evolves {index : Nat} {shard : Shard}
    (evolves : Shard.Evolves (May index) (cache.shard index) shard) {after : Cache}
    (settings : after.settings = cache.settings)
    (shards : after.shards = (cache.setShard index shard).shards) : Evolves May cache after where
  settings := settings
  size := by rw [shards]; exact Array.size_setIfInBounds
  shards := by
    intro other
    rw [shard_congr shards, shard_setShard]
    by_cases replaced : index = other ∧ index < cache.shards.size
    · rw [if_pos replaced]
      exact replaced.1 ▸ evolves
    · rw [if_neg replaced]
      exact Shard.Evolves.refl _

/-- Where nothing is put in, a usable shard was usable and had all of its entries before. -/
theorem Evolves.entry_before {before after : Cache} {index : Nat} {entry : Entry}
    (evolves : Evolves (fun _ _ => False) before after)
    (usable : (after.shard index).poisoned = false) (member : entry ∈ (after.shard index).entries) :
    (before.shard index).poisoned = false ∧ entry ∈ (before.shard index).entries := by
  have shards := evolves.shards index
  cases was : (before.shard index).poisoned with
  | true =>
      -- A shard that became usable again came back empty.
      rw [(shards.healed was usable).1] at member
      cases member
  | false =>
      rcases shards.kept was usable entry member with old | ⟨absurdity, _⟩
      · exact ⟨rfl, old⟩
      · exact absurdity.elim

/-! ## What the calls on a cache do -/

theorem lookup_evolves (now : Nat) (key : String) :
    Evolves May cache (cache.lookup now key).2 := by
  unfold lookup
  split
  · exact .refl cache
  · dsimp only
    split
    · exact .of_same rfl rfl
    · split
      case h_1 entry found =>
        split
        · exact setShard_evolves (Shard.drop_evolves _ key) rfl rfl
        · exact setShard_evolves (Shard.touch_evolves found) rfl rfl
      case h_2 => exact .of_same rfl rfl

theorem isExpired_congr {before after : Cache} (settings : after.settings = before.settings)
    (now : Nat) (entry : Entry) : after.isExpired now entry = before.isExpired now entry := by
  unfold isExpired
  rw [settings]

/-- The entry that a hit shows is not too old. -/
theorem fresh_of_hit {now : Nat} {key did : String} (hit : (cache.lookup now key).1 = .hit did) :
    (cache.shard (cache.shardOf key)).poisoned = false ∧
      ∃ entry ∈ (cache.shard (cache.shardOf key)).entries, entry.key = key ∧ entry.did = did ∧
        cache.isExpired now entry = false := by
  unfold lookup at hit
  split at hit
  · cases hit
  · dsimp only at hit
    split at hit
    case isTrue => cases hit
    case isFalse usable =>
      split at hit
      case h_1 entry found =>
        split at hit
        case isTrue => cases hit
        case isFalse fresh =>
          rcases Shard.mem_of_find? found with ⟨member, same⟩
          exact ⟨by simpa using usable, entry, member, same, Lookup.hit.inj hit, by simpa using fresh⟩
      case h_2 => cases hit

/-- A hit shows an entry of a usable shard. -/
theorem entry_of_hit {now : Nat} {key did : String} (hit : (cache.lookup now key).1 = .hit did) :
    (cache.shard (cache.shardOf key)).poisoned = false ∧
      ∃ entry ∈ (cache.shard (cache.shardOf key)).entries, entry.key = key ∧ entry.did = did := by
  rcases fresh_of_hit hit with ⟨usable, entry, member, same, shown, _⟩
  exact ⟨usable, entry, member, same, shown⟩

/-- The ticket of a miss names the shard of the key, and the generation that the
shard has if it names one. -/
theorem ticket_of_miss {now : Nat} {key : String} {ticket : Ticket}
    (miss : (cache.lookup now key).1 = .miss ticket) :
    ticket.shard = cache.shardOf key ∧ ∀ generation, ticket.generation = some generation →
      generation = (cache.shard (cache.shardOf key)).generation := by
  unfold lookup at miss
  split at miss
  · cases miss
    exact ⟨rfl, fun _ named => by cases named⟩
  · dsimp only at miss
    split at miss
    · cases miss
      exact ⟨rfl, fun _ named => by cases named⟩
    · split at miss
      · split at miss
        · cases miss
          exact ⟨rfl, fun _ named => (Option.some.inj named).symm⟩
        · cases miss
      · cases miss
        exact ⟨rfl, fun _ named => (Option.some.inj named).symm⟩

/-- Nothing is found in a cache that is not in use. -/
theorem enabled_of_hit {now : Nat} {key did : String}
    (hit : (cache.lookup now key).1 = .hit did) : cache.settings.enabled = true := by
  unfold lookup at hit
  split at hit
  case isTrue => cases hit
  case isFalse enabled => simpa using enabled

/-- After a look-up a usable shard has no entry of the key but one with the DID that was
found. -/
theorem hit_of_mem_lookup {now : Nat} {key : String} {entry : Entry}
    (enabled : cache.settings.enabled = true) (bound : cache.shardOf key < cache.shards.size)
    (usable : ((cache.lookup now key).2.shard (cache.shardOf key)).poisoned = false)
    (member : entry ∈ ((cache.lookup now key).2.shard (cache.shardOf key)).entries)
    (named : entry.key = key) : (cache.lookup now key).1 = .hit entry.did := by
  cases poisoned : (cache.shard (cache.shardOf key)).poisoned with
  | true =>
      simp only [lookup, enabled, poisoned, countMiss] at usable
      exact absurd (poisoned.symm.trans usable) nofun
  | false =>
      cases found : (cache.shard (cache.shardOf key)).find? key with
      | none =>
          simp only [lookup, enabled, poisoned, found, countMiss] at member
          exact absurd (beq_iff_eq.mpr named) (List.find?_eq_none.mp found entry member)
      | some kept =>
          unfold lookup at member ⊢
          simp only [enabled, poisoned, found, Bool.not_true, Bool.false_eq_true, if_false] at member ⊢
          split
          case isTrue expired =>
              rw [if_pos expired] at member
              change entry ∈ ((cache.setShard _ _).shard _).entries at member
              rw [shard_setShard, if_pos ⟨rfl, bound⟩] at member
              exact absurd named (by simpa using (List.mem_filter.mp member).2)
          case isFalse fresh =>
              rw [if_neg fresh] at member
              change entry ∈ ((cache.setShard _ _).shard _).entries at member
              rw [shard_setShard, if_pos ⟨rfl, bound⟩] at member
              -- Whatever else was kept for the key made way for the entry that was found.
              rcases List.mem_cons.mp member with rfl | others
              · rfl
              · have same := (Shard.mem_of_find? found).2
                exact absurd (named.trans same.symm) (by simpa using (List.mem_filter.mp others).2)

/-- A ticket permits to put in a value while its shard is usable and of its
generation. -/
theorem permits_iff {ticket : Ticket} {key : String} :
    cache.permits ticket key = true ↔
      ticket.shard = cache.shardOf key ∧ (cache.shard ticket.shard).poisoned = false ∧
        ticket.generation = some (cache.shard ticket.shard).generation := by
  simp [permits, and_assoc]

theorem populate_evolves {now : Nat} {key did : String} {ticket : Ticket}
    (may : cache.permits ticket key = true → May ticket.shard ⟨key, did, now⟩) :
    Evolves May cache (cache.populate now key did ticket).2 := by
  unfold populate
  split
  case isTrue permitted => exact setShard_evolves (Shard.push_evolves (may permitted)) rfl rfl
  case isFalse => exact .refl cache

theorem invalidate_evolves (key : String) : Evolves May cache (cache.invalidate key).2 := by
  unfold invalidate
  dsimp only
  split
  · exact .refl cache
  · exact setShard_evolves (Shard.invalidate_evolves _ key) rfl rfl

/-- After an invalidation the shard of the key is poisoned, as it was before, or it
has a new generation and no entry of the key. -/
theorem shard_invalidate (key : String) (bound : cache.shardOf key < cache.shards.size) :
    let before := cache.shard (cache.shardOf key)
    let after := (cache.invalidate key).2.shard (cache.shardOf key)
    after.poisoned = true ∨
      before.generation < after.generation ∧ ∀ entry ∈ after.entries, entry.key ≠ key := by
  dsimp only
  cases poisoned : (cache.shard (cache.shardOf key)).poisoned with
  | true =>
      left
      simp [invalidate, poisoned]
  | false =>
      right
      have shards : (cache.invalidate key).2.shards = (cache.setShard (cache.shardOf key)
          ((cache.shard (cache.shardOf key)).invalidate key)).shards := by
        simp [invalidate, poisoned]
      rw [shard_congr shards, shard_setShard, if_pos ⟨rfl, bound⟩]
      refine ⟨Nat.lt_succ_self _, ?_⟩
      intro entry member
      simpa using (List.mem_filter.mp member).2

theorem clearShard_evolves (index : Nat) : Evolves May cache (cache.clearShard index) :=
  setShard_evolves (Shard.clear_evolves _) rfl rfl

theorem poison_evolves (key : String) : Evolves May cache (cache.poison key) :=
  setShard_evolves (Shard.poison_evolves _) rfl rfl

theorem size_new (settings : Settings) : (new settings).shards.size = settings.shardCount := by
  simp [new]

theorem shard_new (settings : Settings) (index : Nat) : (new settings).shard index = .empty := by
  unfold shard new
  rw [Array.getD_eq_getD_getElem?, Array.getElem?_replicate]
  split <;> rfl

/-- A shard that is not there is empty. -/
theorem shard_of_size_le {index : Nat} (beyond : cache.shards.size ≤ index) :
    cache.shard index = .empty := by
  rw [shard, Array.getD_eq_getD_getElem?, Array.getElem?_eq_none beyond, Option.getD_none]

theorem Evolves.shardOf_eq {before after : Cache} (evolves : Evolves May before after)
    (key : String) : after.shardOf key = before.shardOf key := by
  rw [shardOf, evolves.settings]
  rfl

theorem shardOf_lt (cache : Cache) (key : String) :
    cache.shardOf key < cache.settings.shardCount :=
  Nat.mod_lt _ (Nat.lt_of_lt_of_le Nat.zero_lt_one (Nat.le_max_right _ _))

end Cache
end BpnDirectory
