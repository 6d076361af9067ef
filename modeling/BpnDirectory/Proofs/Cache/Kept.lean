import BpnDirectory.Proofs.Cache.History

namespace BpnDirectory
namespace Cache

/-!
What a cache keeps.

An entry comes in when a value is taken for its key.  It goes when another value is taken for
the key, when the key or everything is invalidated, when a look-up finds it too old, or when it
is driven out: a value is taken for a new key of a full shard, in which no other key was left
untouched for longer.
-/

def Holds (cache : Cache) (entry : Entry) : Prop :=
  entry ∈ (cache.shard (cache.shardOf entry.key)).entries

/-- The entry that comes in with an act, if it puts in a value that is taken. -/
def taken? (cache : Cache) : Act → Option Entry
  | .populate now key did ticket =>
      if (cache.populate now key did ticket).1 then some ⟨key, did, now⟩ else none
  | _ => none

/-- Whether an act drops an entry, other than by driving it out. -/
def Drops (cache : Cache) (entry : Entry) : Act → Prop
  | .lookup now key => key = entry.key ∧ cache.IsOpen key ∧ cache.isExpired now entry = true
  | .populate now key did ticket => key = entry.key ∧ (cache.populate now key did ticket).1 = true
  | .invalidate key => key = entry.key ∧ (cache.shard (cache.shardOf key)).poisoned = false
  | .invalidateAll | .close => True
  | .crash _ => False

/-- The entry that an act drives out, if it does. -/
def evicted? (cache : Cache) (act : Act) : Option Entry :=
  (cache.taken? act).bind fun added =>
    (cache.shard (cache.shardOf added.key)).victim? cache.settings.shardCapacity added.key

variable {cache after : Cache} {entry : Entry} {key : String} {shard : Shard}

theorem holds_congr (settings : after.settings = cache.settings)
    (shards : after.shards = cache.shards) : after.Holds entry ↔ cache.Holds entry := by
  unfold Holds shardOf
  rw [shard_congr shards, settings]

/-- What a cache keeps after the shard of a key was replaced. -/
theorem IsTidy.holds_of_replaced (tidy : cache.IsTidy) (settings : after.settings = cache.settings)
    (replaced : after.shards = (cache.setShard (cache.shardOf key) shard).shards) :
    after.Holds entry ↔
      if cache.shardOf key = cache.shardOf entry.key then entry ∈ shard.entries
      else cache.Holds entry := by
  have same : after.shardOf entry.key = cache.shardOf entry.key := by
    rw [shardOf, settings]
    rfl
  unfold Holds
  rw [same, tidy.shard_of_replaced replaced]
  split <;> rfl

/-- Without the entry of a key the other entries of its shard are still kept. -/
theorem IsTidy.holds_of_dropped (tidy : cache.IsTidy) (settings : after.settings = cache.settings)
    (replaced : after.shards = (cache.setShard (cache.shardOf key) shard).shards)
    (entries : shard.entries = Shard.without key (cache.shard (cache.shardOf key)).entries) :
    after.Holds entry ↔ cache.Holds entry ∧ key ≠ entry.key := by
  rw [tidy.holds_of_replaced settings replaced, entries, Shard.mem_without]
  split
  case isTrue same => rw [same, ne_comm, Holds]
  case isFalse different =>
    refine (and_iff_left ?_).symm
    rintro rfl
    exact different rfl

theorem not_holds_invalidateAll (tidy : cache.IsTidy) : ¬ cache.invalidateAll.Holds entry := by
  have same := shardOf_perform cache .invalidateAll entry.key
  change cache.invalidateAll.shardOf entry.key = _ at same
  unfold Holds
  rw [same, shard_invalidateAll, if_pos (tidy.shardOf_lt entry.key)]
  exact List.not_mem_nil

/-- An act with which an entry comes in drops the one that its key had. -/
theorem drops_of_taken {act : Act} {added : Entry} (taken : cache.taken? act = some added) :
    cache.Drops entry act ↔ added.key = entry.key := by
  cases act with
  | populate now key did ticket =>
      rw [taken?] at taken
      split at taken
      case isTrue accepted =>
        cases taken
        simp [Drops, accepted]
      case isFalse => cases taken
  | _ => cases taken

/-- A look-up drops the entry that it finds too old. -/
theorem IsTidy.holds_lookup (tidy : cache.IsTidy) (now : Nat) (key : String) (entry : Entry) :
    (cache.perform (.lookup now key)).Holds entry ↔
      cache.Holds entry ∧ ¬ cache.Drops entry (.lookup now key) := by
  have settings := settings_perform cache (.lookup now key)
  have apart := tidy.shards (cache.shardOf key)
  unfold Drops
  cases cache.looks now key with
  | closed shut _ same =>
      rw [holds_congr settings same]
      exact (and_iff_left fun drops => shut drops.2.1).symm
  | absent _ absent _ same =>
      rw [holds_congr settings same]
      refine ⟨fun holds => ⟨holds, ?_⟩, And.left⟩
      rintro ⟨rfl, _⟩
      exact Shard.find?_eq_none_iff.mp absent entry holds rfl
  | @expired held opened found old _ dropped =>
      rw [tidy.holds_of_dropped settings dropped rfl]
      refine and_congr_right fun holds => not_congr ⟨fun named => ⟨named, opened, ?_⟩, And.left⟩
      rw [named, Shard.find?_eq_some_iff (named ▸ apart.distinct)] at found
      subst named
      rwa [List.inj_on_of_nodup_map apart.distinct holds found.1 found.2.symm]
  | @fresh held opened found fresh _ touched =>
      rw [tidy.holds_of_replaced settings touched, Shard.mem_touch apart.distinct found]
      rw [Shard.find?_eq_some_iff apart.distinct] at found
      split
      case isTrue same =>
        rw [same]
        refine (and_iff_left_of_imp fun holds => ?_).symm
        rintro ⟨rfl, _, old⟩
        rw [List.inj_on_of_nodup_map apart.distinct holds found.1 found.2.symm, fresh] at old
        cases old
      case isFalse different =>
        refine (and_iff_left ?_).symm
        rintro ⟨rfl, _⟩
        exact different rfl

/-- A value that is taken replaces the one of its key and may drive out another one. -/
theorem IsTidy.holds_populate (tidy : cache.IsTidy) {now : Nat} {did : String} {ticket : Ticket}
    (permitted : cache.permits ticket key = true) (entry : Entry) :
    (cache.perform (.populate now key did ticket)).Holds entry ↔
      ⟨key, did, now⟩ = entry ∨ cache.Holds entry ∧ key ≠ entry.key ∧
        (cache.shard (cache.shardOf key)).victim? cache.settings.shardCapacity key ≠ some entry := by
  have settings := settings_perform cache (.populate now key did ticket)
  have apart := tidy.shards (cache.shardOf key)
  rw [tidy.holds_of_replaced settings (shards_populate permitted), Shard.mem_push apart.distinct]
  split
  case isTrue same =>
    rw [same, Holds, eq_comm, ne_comm]
  case isFalse different =>
    -- What comes in, is replaced or is driven out belongs to the shard of the key.
    have added : (⟨key, did, now⟩ : Entry) ≠ entry := by
      rintro rfl
      exact different rfl
    have named : key ≠ entry.key := by
      rintro rfl
      exact different rfl
    have elsewhere : (cache.shard (cache.shardOf key)).victim?
        cache.settings.shardCapacity key ≠ some entry := fun victim =>
      different (tidy.placed _ entry (Shard.mem_of_victim? victim)).symm
    simp [added, named, elsewhere]

theorem IsTidy.holds_invalidate (tidy : cache.IsTidy) (key : String) (entry : Entry) :
    (cache.perform (.invalidate key)).Holds entry ↔
      cache.Holds entry ∧ ¬ cache.Drops entry (.invalidate key) := by
  have settings := settings_perform cache (.invalidate key)
  unfold Drops
  cases poisoned : (cache.shard (cache.shardOf key)).poisoned with
  | true =>
      have same : cache.perform (.invalidate key) = cache := invalidate_of_poisoned poisoned
      simp [same, poisoned]
  | false =>
      rw [tidy.holds_of_dropped settings (shards_invalidate poisoned) rfl]
      simp [poisoned]

theorem IsTidy.holds_crash (tidy : cache.IsTidy) (key : String) (entry : Entry) :
    (cache.perform (.crash key)).Holds entry ↔ cache.Holds entry := by
  have settings := settings_perform cache (.crash key)
  rw [tidy.holds_of_replaced settings shards_poison]
  split
  case isTrue same => rw [same, Holds]
  case isFalse => rfl

/-- After an act a cache keeps what came in and what it kept before, except for what was dropped
or driven out. -/
theorem IsTidy.holds_perform (tidy : cache.IsTidy) (act : Act) (entry : Entry) :
    (cache.perform act).Holds entry ↔
      cache.taken? act = some entry ∨
        cache.Holds entry ∧ ¬ cache.Drops entry act ∧ cache.evicted? act ≠ some entry := by
  cases act with
  | lookup now key =>
      rw [tidy.holds_lookup]
      simp [taken?, evicted?]
  | populate now key did ticket =>
      simp only [taken?, evicted?, Drops, populate_fst]
      cases permitted : cache.permits ticket key with
      | false =>
          have same : cache.perform (.populate now key did ticket) = cache :=
            populate_of_not_permits permitted
          simp [same]
      | true =>
          rw [tidy.holds_populate permitted]
          simp
  | invalidate key =>
      rw [tidy.holds_invalidate]
      simp [taken?, evicted?]
  | invalidateAll | close =>
      simp only [taken?, Drops, reduceCtorEq, not_true, false_and, and_false, or_false, iff_false]
      exact not_holds_invalidateAll tidy
  | crash key =>
      rw [tidy.holds_crash]
      simp [taken?, evicted?, Drops]

/-! ## Histories -/

namespace History

variable {history : History} {time : Nat}

def Takes (history : History) (time : Nat) (entry : Entry) : Prop :=
  ∃ act, history.acts[time]? = some act ∧ (history.cache time).taken? act = some entry

/-- Whether an entry is driven out at a time. -/
structure Evicts (history : History) (time : Nat) (entry : Entry) : Prop where
  held : (history.cache time).Holds entry
  /-- A value is taken for a new key of the same shard. -/
  taken : ∃ added, history.Takes time added ∧
    history.shardOf added.key = history.shardOf entry.key ∧
    ∀ other, (history.cache time).Holds other → other.key ≠ added.key
  full : history.settings.shardCapacity ≤
    ((history.cache time).shard (history.shardOf entry.key)).entries.length
  /-- No other key of the shard was left untouched for longer. -/
  oldest : ∀ other, (history.cache time).Holds other →
    history.shardOf other.key = history.shardOf entry.key → other ≠ entry →
    history.lastTouch entry.key time < history.lastTouch other.key time

/-- The entries of a shard are those that are kept and have a key of the shard. -/
theorem mem_shard_iff {index : Nat} :
    entry ∈ ((history.cache time).shard index).entries ↔
      (history.cache time).Holds entry ∧ history.shardOf entry.key = index := by
  rw [Holds, shardOf_cache]
  constructor
  · intro member
    have placed := (history.isTidy time).placed index entry member
    rw [shardOf_cache] at placed
    exact ⟨placed ▸ member, placed⟩
  · rintro ⟨holds, rfl⟩
    exact holds

/-- What an act drives out is what is kept and was left untouched for longest. -/
theorem evicts_iff : history.Evicts time entry ↔
    ∃ act, history.acts[time]? = some act ∧ (history.cache time).evicted? act = some entry := by
  simp only [evicted?, Option.bind_eq_some_iff, Shard.victim?_eq_some_iff,
    Shard.find?_eq_none_iff, getLast?_eq_some_iff, mem_shard_iff, shardOf_cache, settings_cache]
  constructor
  · rintro ⟨held, ⟨added, ⟨act, done, taken⟩, same, absent⟩, full, oldest⟩
    rw [← same] at full
    refine ⟨act, done, added, taken, ?_, full, ⟨held, same.symm⟩, ?_⟩
    · exact fun other kept => absent other kept.1
    · exact fun other kept => oldest other kept.1 (kept.2.trans same)
  · rintro ⟨act, done, added, taken, absent, full, ⟨held, same⟩, oldest⟩
    rw [← same] at full
    refine ⟨held, ⟨added, ⟨act, done, taken⟩, same.symm, ?_⟩, full, ?_⟩
    · intro other kept named
      exact absent other ⟨kept, by rw [named]⟩ named
    · exact fun other kept beside => oldest other ⟨kept, beside.trans same⟩

theorem evicts_of_act {act : Act} (done : history.acts[time]? = some act) :
    history.Evicts time entry ↔ (history.cache time).evicted? act = some entry := by
  rw [evicts_iff, done]
  simp

/-- In one time step an entry comes in, or it stays. -/
theorem holds_succ : (history.cache (time + 1)).Holds entry ↔
    history.Takes time entry ∨ (history.cache time).Holds entry ∧
      (∀ act, history.acts[time]? = some act → ¬ (history.cache time).Drops entry act) ∧
      ¬ history.Evicts time entry := by
  rw [evicts_iff]
  unfold Takes
  cases done : history.acts[time]? with
  | none => simp [cache_of_idle done]
  | some act => simp [cache_of_act done, (history.isTidy time).holds_perform act entry]

end History
end Cache
end BpnDirectory
