import BpnDirectory.Proofs.Cache.Kept
import Mathlib.Algebra.Order.BigOperators.Group.List
import Mathlib.Algebra.Order.Floor.Div

namespace BpnDirectory
namespace Cache

/-!
Which entries are driven out, and how many.

An entry is driven out only by a value for a new key of its shard, only if the shard is full, and
only if no other key of the shard was left untouched for longer.  With each entry that is driven
out the counter of evictions rises by one, and it never rises otherwise, so the entries that are
still there can be counted: they are those that came in for a new key, less those that were driven
out, found too old or invalidated.
-/

/-! ## Numbers of entries -/

/-- Number of entries in all shards, poisoned ones included. -/
def held (cache : Cache) : Nat :=
  (cache.shards.toList.map fun shard => shard.entries.length).sum

variable {cache after : Cache} {key : String} {shard : Shard} {entry : Entry}

theorem sum_map_set {α : Type} (weigh : α → Nat) (items : List α) (index : Nat) (item : α)
    (bound : index < items.length) :
    ((items.set index item).map weigh).sum + weigh items[index] =
      (items.map weigh).sum + weigh item := by
  induction items generalizing index with
  | nil => cases bound
  | cons head rest ih =>
      cases index with
      | zero =>
          simp only [List.set_cons_zero, List.map_cons, List.sum_cons, List.getElem_cons_zero]
          omega
      | succ index =>
          have later := ih index (Nat.lt_of_succ_lt_succ bound)
          simp only [List.set_cons_succ, List.map_cons, List.sum_cons, List.getElem_cons_succ]
          omega

/-- The number of entries changes with that of the shard that is replaced. -/
theorem IsTidy.held_of_replaced (tidy : cache.IsTidy)
    (replaced : after.shards = (cache.setShard (cache.shardOf key) shard).shards) :
    after.held + (cache.shard (cache.shardOf key)).entries.length =
      cache.held + shard.entries.length := by
  have bound := tidy.shardOf_lt key
  have here : cache.shard (cache.shardOf key) = cache.shards.toList[cache.shardOf key] := by
    simp [Cache.shard, bound]
  rw [held, replaced, here, setShard, Array.toList_setIfInBounds]
  exact sum_map_set (fun shard => shard.entries.length) _ _ _ bound

theorem held_congr (same : after.shards = cache.shards) : after.held = cache.held := by
  rw [held, same, held]

/-- The shards of a cache are those that have a number. -/
theorem exists_of_mem_shards (member : shard ∈ cache.shards.toList) :
    ∃ index, cache.shard index = shard := by
  rcases List.mem_iff_getElem.mp member with ⟨index, bound, rfl⟩
  exact ⟨index, by simp [Cache.shard, Array.length_toList ▸ bound]⟩

theorem held_le {bound : Nat} (bounded : ∀ index, (cache.shard index).entries.length ≤ bound) :
    cache.held ≤ cache.shards.size * bound := by
  have each : ∀ number ∈ cache.shards.toList.map fun shard => shard.entries.length,
      number ≤ bound := by
    intro number member
    rcases List.mem_map.mp member with ⟨shard, listed, rfl⟩
    rcases exists_of_mem_shards listed with ⟨index, rfl⟩
    exact bounded index
  simpa [held] using List.sum_le_card_nsmul _ _ each

theorem size_eq (cache : Cache) :
    cache.size =
      (cache.shards.toList.map fun shard =>
        if shard.poisoned then 0 else shard.entries.length).sum := by
  rw [List.sum, List.foldr_map, size]

theorem held_of_empty (empty : ∀ index, (cache.shard index).entries = []) : cache.held = 0 := by
  have noneLeft : cache.held ≤ cache.shards.size * 0 :=
    held_le fun index => by rw [empty index, List.length_nil]
  exact Nat.eq_zero_of_le_zero noneLeft

/-- As long as no shard is poisoned, all entries are counted. -/
theorem size_eq_held (usable : ∀ index, (cache.shard index).poisoned = false) :
    cache.size = cache.held := by
  rw [size_eq, held]
  refine congrArg List.sum (List.map_congr_left ?_)
  intro shard member
  rcases exists_of_mem_shards member with ⟨index, rfl⟩
  rw [usable, if_neg Bool.false_ne_true]

/-! ## What an act does to the numbers -/

instance (cache : Cache) (key : String) : Decidable (cache.IsOpen key) :=
  inferInstanceAs (Decidable (_ ∧ _))

/-- Number of entries that come in with an act for a key that had none. -/
def admitted (cache : Cache) (act : Act) : Nat :=
  match cache.taken? act with
  | some added =>
      if ((cache.shard (cache.shardOf added.key)).find? added.key).isNone then 1 else 0
  | none => 0

/-- Number of entries that an act drives out. -/
def evicted (cache : Cache) (act : Act) : Nat :=
  if (cache.evicted? act).isSome then 1 else 0

/-- Number of entries that an act finds too old. -/
def expired (cache : Cache) : Act → Nat
  | .lookup now key =>
      if cache.IsOpen key ∧
        ((cache.shard (cache.shardOf key)).find? key).any (cache.isExpired now) then 1 else 0
  | _ => 0

/-- Number of entries that an act invalidates. -/
def removed (cache : Cache) : Act → Nat
  | .invalidate key =>
      if (cache.shard (cache.shardOf key)).poisoned = false ∧
        ((cache.shard (cache.shardOf key)).find? key).isSome then 1 else 0
  | .invalidateAll | .close => cache.held
  | _ => 0

theorem IsTidy.held_of_dropped (tidy : cache.IsTidy)
    (replaced : after.shards = (cache.setShard (cache.shardOf key) shard).shards)
    (entries : shard.entries = ((cache.shard (cache.shardOf key)).drop key).entries) :
    after.held + (if ((cache.shard (cache.shardOf key)).find? key).isSome then 1 else 0) =
      cache.held := by
  have number := tidy.held_of_replaced replaced
  have less := Shard.length_drop (tidy.shards (cache.shardOf key)).distinct key
  rw [entries] at number
  omega

theorem held_invalidateAll (cache : Cache) : cache.invalidateAll.held = 0 := by
  refine held_of_empty fun index => ?_
  rw [shard_invalidateAll]
  split
  case isTrue => rfl
  case isFalse beyond => rw [shard_of_size_le (Nat.not_lt.mp beyond), Shard.empty]

/-- No entry is lost or doubled: what was there or came in is still there or went. -/
theorem IsTidy.held_perform (tidy : cache.IsTidy) (act : Act) :
    (cache.perform act).held + cache.evicted act + cache.expired act + cache.removed act =
      cache.held + cache.admitted act := by
  cases act with
  | lookup now key =>
      simp only [evicted, evicted?, expired, removed, admitted, taken?, Cache.perform]
      cases cache.looks now key with
      | closed shut _ same => simp [held_congr same, shut]
      | absent _ absent _ same => simp [held_congr same, absent]
      | @expired held opened found old _ dropped =>
          have number := tidy.held_of_dropped dropped rfl
          simpa [opened, found, old] using number
      | @fresh held _ found fresh _ touched =>
          have number := tidy.held_of_replaced touched
          have kept : (cache.shard (cache.shardOf key)).find? held.key = some held := by
            rw [(Shard.mem_of_find? found).2, found]
          rw [Shard.length_touch (tidy.shards (cache.shardOf key)).distinct kept] at number
          simpa [found, fresh] using number
  | populate now key did ticket =>
      simp only [evicted, evicted?, expired, removed, admitted, taken?, populate_fst, Cache.perform]
      cases permitted : cache.permits ticket key with
      | false => simp [populate_of_not_permits permitted]
      | true =>
          have number : ((cache.populate now key did ticket).2.held + _ = _) :=
            tidy.held_of_replaced (shards_populate permitted)
          have pushed := Shard.length_push (tidy.shards (cache.shardOf key)) (shardCapacity_pos _)
            ⟨key, did, now⟩
          dsimp only at pushed
          simp only [if_true, Option.bind_some]
          omega
  | invalidate key =>
      simp only [evicted, evicted?, expired, removed, admitted, taken?, Cache.perform]
      cases poisoned : (cache.shard (cache.shardOf key)).poisoned with
      | true => simp [invalidate_of_poisoned poisoned]
      | false =>
          have number := tidy.held_of_dropped (shards_invalidate poisoned) rfl
          simpa using number
  | invalidateAll =>
      simp only [evicted, evicted?, expired, removed, admitted, taken?, Cache.perform]
      simpa using cache.held_invalidateAll
  | close =>
      have gone : cache.close.held = 0 := cache.held_invalidateAll
      simp only [evicted, evicted?, expired, removed, admitted, taken?, Cache.perform]
      simpa using gone
  | crash key =>
      have number : (cache.poison key).held + _ = _ := tidy.held_of_replaced shards_poison
      simp only [evicted, evicted?, expired, removed, admitted, taken?, Cache.perform]
      simpa using number

/-- The counter of evictions counts the entries that are driven out. -/
theorem evictions_perform (cache : Cache) (act : Act) :
    (cache.perform act).evictions = cache.evictions + cache.evicted act := by
  cases act with
  | lookup now key =>
      change (cache.lookup now key).2.evictions = cache.evictions
      unfold lookup
      split
      · rfl
      · dsimp only
        split
        · rfl
        · split
          · split <;> rfl
          · rfl
  | populate now key did ticket =>
      simp only [evicted, evicted?, taken?, populate_fst, perform]
      cases permitted : cache.permits ticket key with
      | false => simp [populate_of_not_permits permitted]
      | true =>
          have same := (permits_iff.mp permitted).1
          have evicts := Shard.push_fst (shardCapacity_pos cache.settings)
            (cache.shard (cache.shardOf key)) ⟨key, did, now⟩
          dsimp only at evicts
          simp [populate, permitted, same, evicts]
  | invalidate key =>
      change (cache.invalidate key).2.evictions = cache.evictions
      unfold invalidate
      dsimp only
      split <;> rfl
  | invalidateAll | close =>
      rcases cache.invalidateAll_eq with ⟨shards, _, same⟩
      simp only [evicted, evicted?, taken?, perform, close, same]
      rfl
  | crash key => rfl

namespace History

variable {history : History} {time : Nat}

/-- The sum of a number over all acts before a time. -/
def total (history : History) (count : Cache → Act → Nat) : Nat → Nat
  | 0 => 0
  | time + 1 => history.total count time +
      match history.acts[time]? with
      | some act => count (history.cache time) act
      | none => 0

/-- At any time the entries that came in are there or were driven out, found too old or
invalidated. -/
theorem held_add (history : History) (time : Nat) :
    (history.cache time).held + (history.cache time).evictions + history.total expired time +
      history.total removed time = history.total admitted time := by
  induction time with
  | zero =>
      exact held_of_empty fun index => by rw [cache, List.take_zero, List.foldl_nil, shard_new]; rfl
  | succ time ih =>
      simp only [total]
      cases done : history.acts[time]? with
      | none => simpa [cache_of_idle done] using ih
      | some act =>
          have step := (history.isTidy time).held_perform act
          have counted := (history.cache time).evictions_perform act
          rw [cache_of_act done]
          dsimp only
          omega

/-- What becomes of the entries when one comes in. -/
structure Admits (history : History) (time : Nat) (added : Entry) : Prop where
  /-- All others stay as they are, except for one of the same key and for one that is driven
  out. -/
  kept : ∀ entry, (history.cache (time + 1)).Holds entry ↔
    entry = added ∨ (history.cache time).Holds entry ∧ entry.key ≠ added.key ∧
      ¬ history.Evicts time entry
  /-- One is driven out exactly if the key is new and its shard is full. -/
  needed : (∃ entry, history.Evicts time entry) ↔
    (∀ entry, (history.cache time).Holds entry → entry.key ≠ added.key) ∧
      history.settings.shardCapacity ≤
        ((history.cache time).shard (history.shardOf added.key)).entries.length
  one : ∀ first second, history.Evicts time first → history.Evicts time second → first = second
  counted : (∃ entry, history.Evicts time entry) →
    (history.cache (time + 1)).evictions = (history.cache time).evictions + 1
  uncounted : (¬ ∃ entry, history.Evicts time entry) →
    (history.cache (time + 1)).evictions = (history.cache time).evictions

theorem evictions_succ (history : History) (time : Nat) :
    ((∃ entry, history.Evicts time entry) →
      (history.cache (time + 1)).evictions = (history.cache time).evictions + 1) ∧
    ((¬ ∃ entry, history.Evicts time entry) →
      (history.cache (time + 1)).evictions = (history.cache time).evictions) := by
  cases done : history.acts[time]? with
  | none =>
      rw [cache_of_idle done]
      refine ⟨?_, fun _ => rfl⟩
      rintro ⟨entry, evicts⟩
      rcases evicts_iff.mp evicts with ⟨act, same, _⟩
      cases done.symm.trans same
  | some act =>
      simp only [evicts_of_act done, ← Option.isSome_iff_exists]
      rw [cache_of_act done, evictions_perform, evicted]
      exact ⟨fun evicts => by rw [if_pos evicts], fun stays => by rw [if_neg stays]; rfl⟩

theorem admits_of_takes {added : Entry} (taken : history.Takes time added) :
    history.Admits time added := by
  rcases taken with ⟨act, done, taken⟩
  have evicted : ∀ entry, history.Evicts time entry ↔
      ((history.cache time).shard (history.shardOf added.key)).victim?
        history.settings.shardCapacity added.key = some entry := by
    intro entry
    rw [evicts_of_act done, evicted?, taken, Option.bind_some, settings_cache, shardOf_cache]
  refine ⟨fun entry => ?_, ?_, fun first second gone other => ?_, ?_, ?_⟩
  · rw [holds_succ, Takes]
    simp only [done, Option.some.injEq, exists_eq_left', forall_eq', taken, drops_of_taken taken]
    rw [eq_comm, ne_comm]
  · have absent : ((history.cache time).shard (history.shardOf added.key)).find? added.key = none ↔
        ∀ entry, (history.cache time).Holds entry → entry.key ≠ added.key := by
      simp only [Shard.find?_eq_none_iff, mem_shard_iff, and_imp]
      refine forall₂_congr fun entry _ => ⟨fun apart named => ?_, fun apart _ => apart⟩
      exact apart (by rw [named]) named
    simp only [evicted, Shard.victim?_eq_some_iff, exists_and_left, absent]
    refine and_congr_right fun _ => and_iff_left_of_imp fun full => ?_
    -- A full shard has an entry to drive out.
    have filled := Nat.lt_of_lt_of_le (shardCapacity_pos history.settings) full
    exact ⟨_, List.getLast?_eq_some_getLast (List.ne_nil_of_length_pos filled)⟩
  · exact Option.some.inj (((evicted first).mp gone).symm.trans ((evicted second).mp other))
  · exact (history.evictions_succ time).1
  · exact (history.evictions_succ time).2

theorem shardCapacity_eq (settings : Settings) :
    settings.shardCapacity = max 1 (settings.capacity ⌈/⌉ max 1 settings.shards) := by
  rw [Settings.shardCapacity, Settings.shardCount, max_comm 1, max_comm 1,
    Nat.ceilDiv_eq_add_pred_div]

/-- Three keys in a cache for two entries, of which the first is looked up again before the last
one comes. -/
def threeKeys : History where
  settings := ⟨true, 2, 1, none⟩
  acts := [.lookup 0 "first", .populate 1 "first" "one" ⟨0, some 0⟩,
    .lookup 2 "second", .populate 3 "second" "two" ⟨0, some 0⟩, .lookup 4 "first",
    .lookup 5 "third", .populate 6 "third" "three" ⟨0, some 0⟩]

theorem threeKeys_takes : threeKeys.Takes 6 ⟨"third", "three", 6⟩ :=
  ⟨_, rfl, by decide +kernel⟩

theorem threeKeys_not_takes (added : Entry) : ¬ threeKeys.Takes 5 added := by
  rintro ⟨act, done, taken⟩
  cases done
  cases taken

theorem threeKeys_poisoned (index : Nat) : ((threeKeys.cache 7).shard index).poisoned = false := by
  have size : (threeKeys.cache 7).shards.size = 1 := (threeKeys.isTidy 7).size.trans (by simp; rfl)
  cases index with
  | zero => decide +kernel
  | succ index => rw [shard_of_size_le (by omega), Shard.empty]

end History
end Cache
end BpnDirectory
