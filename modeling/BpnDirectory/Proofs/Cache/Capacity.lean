import BpnDirectory.Proofs.Cache.Eviction
import Mathlib.Data.List.Perm.Subperm

namespace BpnDirectory
namespace Cache

/-!
How many entries a cache can have.

The capacity is dealt out to the shards in equal parts that are rounded up, and each shard minds
its own part only.  All entries together are therefore bounded by the capacity if it can be
divided evenly.  In general they are as many as there can be different keys of which no shard gets
more than its part, and that may be more than the capacity.
-/

variable {cache after : Cache} {settings : Settings} {keys : List String} {key did : String}
  {now : Nat} {ticket : Ticket}

/-! ## Keys that find room -/

/-- Whether different keys find room together: no shard gets more of them than its part. -/
structure Settings.Fits (settings : Settings) (keys : List String) : Prop where
  distinct : keys.Nodup
  bounded : ∀ index,
    keys.countP (fun key => (Cache.new settings).shardOf key = index) ≤ settings.shardCapacity

theorem size_le_held (cache : Cache) : cache.size ≤ cache.held := by
  rw [size_eq, held]
  refine List.sum_le_sum fun shard _ => ?_
  split
  · exact Nat.zero_le _
  · exact Nat.le_refl _

theorem IsTidy.size_le (tidy : cache.IsTidy) :
    cache.size ≤ cache.settings.shardCount * cache.settings.shardCapacity :=
  tidy.size ▸ Nat.le_trans cache.size_le_held (held_le fun index => (tidy.shards index).bounded)

/-- The shards of a cache by their numbers. -/
theorem toList_shards (cache : Cache) :
    cache.shards.toList = (List.range cache.shards.size).map cache.shard := by
  refine List.ext_getElem (by simp) fun index bound _ => ?_
  simp [Cache.shard, Array.length_toList ▸ bound]

def Shard.visibleKeys (shard : Shard) : List String :=
  if shard.poisoned then [] else shard.entries.map Entry.key

def visibleKeys (cache : Cache) : List String :=
  (List.range cache.shards.size).flatMap fun index => (cache.shard index).visibleKeys

theorem length_visibleKeys (cache : Cache) : cache.visibleKeys.length = cache.size := by
  rw [visibleKeys, size_eq, toList_shards, List.length_flatMap, List.map_map]
  refine congrArg List.sum (List.map_congr_left fun index _ => ?_)
  rw [Shard.visibleKeys, Function.comp_apply]
  split
  · rfl
  · rw [List.length_map]

theorem IsTidy.shardOf_of_visible (tidy : cache.IsTidy) {index : Nat}
    (member : key ∈ (cache.shard index).visibleKeys) : cache.shardOf key = index := by
  rw [Shard.visibleKeys] at member
  split at member
  case isTrue => cases member
  case isFalse =>
    rcases List.mem_map.mp member with ⟨entry, listed, rfl⟩
    exact tidy.placed index entry listed

/-- The keys that a tidy cache counts found room together. -/
theorem IsTidy.fits (tidy : cache.IsTidy) : cache.settings.Fits cache.visibleKeys := by
  have distinct : cache.visibleKeys.Nodup := by
    refine List.nodup_flatMap.mpr ⟨fun index _ => ?_, ?_⟩
    · rw [Shard.visibleKeys]
      split
      · exact List.nodup_nil
      · exact (tidy.shards index).distinct
    · refine List.nodup_range.imp fun {first second} different => ?_
      intro key here there
      exact different ((tidy.shardOf_of_visible here).symm.trans (tidy.shardOf_of_visible there))
  refine ⟨distinct, fun index => ?_⟩
  have within : cache.visibleKeys.filter
      (fun key => (Cache.new cache.settings).shardOf key = index) ⊆
        (cache.shard index).entries.map Entry.key := by
    intro key member
    have ⟨visible, beside⟩ := List.mem_filter.mp member
    rcases List.mem_flatMap.mp visible with ⟨other, _, here⟩
    have same : other = index :=
      (tidy.shardOf_of_visible here).symm.trans (of_decide_eq_true beside)
    rw [same, Shard.visibleKeys] at here
    split at here
    · cases here
    · exact here
  rw [List.countP_eq_length_filter]
  refine Nat.le_trans (List.subperm_of_subset (distinct.filter _) within).length_le ?_
  rw [List.length_map]
  exact (tidy.shards index).bounded

/-! ## Filling a cache -/

/-- Whether a cache is in use and has one entry for each of some keys. -/
structure IsFilled (cache : Cache) (keys : List String) : Prop where
  enabled : cache.settings.enabled = true
  usable : ∀ index, (cache.shard index).poisoned = false
  named : ∀ entry, cache.Holds entry → entry.key ∈ keys
  number : cache.held = keys.length

theorem isFilled_new (enabled : settings.enabled = true) : (Cache.new settings).IsFilled [] := by
  refine ⟨enabled, fun index => ?_, fun entry holds => ?_, ?_⟩
  · rw [shard_new]
    rfl
  · rw [Holds, shard_new] at holds
    cases holds
  · exact held_of_empty fun index => by rw [shard_new]; rfl

theorem IsFilled.congr (filled : cache.IsFilled keys) (settings : after.settings = cache.settings)
    (shards : after.shards = cache.shards) : after.IsFilled keys := by
  refine ⟨settings ▸ filled.enabled, fun index => ?_, fun entry holds => ?_,
    (held_congr shards).trans filled.number⟩
  · rw [shard_congr shards]
    exact filled.usable index
  · exact filled.named entry ((holds_congr settings shards).mp holds)

theorem IsFilled.find?_eq_none (filled : cache.IsFilled keys) (new : key ∉ keys) :
    (cache.shard (cache.shardOf key)).find? key = none := by
  refine Shard.find?_eq_none_iff.mpr ?_
  rintro entry member rfl
  exact new (filled.named entry member)

/-- A new key is missed, with a ticket that permits to put in its value. -/
theorem IsFilled.lookup (filled : cache.IsFilled keys) (new : key ∉ keys) (now : Nat) :
    ∃ ticket, (cache.lookup now key).1 = .miss ticket ∧
      (cache.perform (.lookup now key)).permits ticket key = true ∧
      (cache.perform (.lookup now key)).IsFilled keys := by
  have opened : cache.IsOpen key := ⟨filled.enabled, filled.usable _⟩
  rcases lookup_of_absent opened (filled.find?_eq_none new) now with
    ⟨ticket, missed, permitted, same⟩
  exact ⟨ticket, missed, permitted, filled.congr (settings_perform cache _) same⟩

/-- A value of a new key of a shard with room drives nothing out. -/
theorem IsTidy.isFilled_populate (tidy : cache.IsTidy) (filled : cache.IsFilled keys)
    (new : key ∉ keys) (permitted : cache.permits ticket key = true)
    (room : (cache.shard (cache.shardOf key)).entries.length < cache.settings.shardCapacity) :
    (cache.perform (.populate now key did ticket)).IsFilled (keys ++ [key]) := by
  have absent := filled.find?_eq_none new
  have taken : cache.taken? (.populate now key did ticket) = some ⟨key, did, now⟩ := by
    rw [taken?, populate_fst, permitted, if_pos rfl]
  have stays : cache.evicted? (.populate now key did ticket) = none := by
    rw [evicted?, taken, Option.bind_some, Shard.victim?, if_pos (Or.inr room)]
  refine ⟨settings_perform cache _ ▸ filled.enabled, fun index => ?_, fun entry holds => ?_, ?_⟩
  · exact (tidy.marks_populate now key did ticket index).2.trans (filled.usable index)
  · rcases (tidy.holds_perform _ entry).mp holds with same | ⟨before, _⟩
    · cases Option.some.inj (taken.symm.trans same)
      exact List.mem_append_right keys List.mem_cons_self
    · exact List.mem_append_left [key] (filled.named entry before)
  · have number := tidy.held_perform (.populate now key did ticket)
    simp only [evicted, stays, expired, removed, admitted, taken, absent, filled.number] at number
    simpa using number

/-- The entries of a shard are no more than the keys of the shard. -/
theorem IsTidy.length_le (tidy : cache.IsTidy) (filled : cache.IsFilled keys) (index : Nat) :
    (cache.shard index).entries.length ≤ keys.countP (fun key => cache.shardOf key = index) := by
  have within : (cache.shard index).entries.map Entry.key ⊆
      keys.filter (fun key => cache.shardOf key = index) := by
    intro key member
    rcases List.mem_map.mp member with ⟨entry, listed, rfl⟩
    have beside := tidy.placed index entry listed
    refine List.mem_filter.mpr ⟨filled.named entry ?_, decide_eq_true beside⟩
    rw [Holds, beside]
    exact listed
  have most := (List.subperm_of_subset (tidy.shards index).distinct within).length_le
  rw [List.length_map] at most
  rw [List.countP_eq_length_filter]
  exact most

namespace History

/-- Whether no task crashes and nobody makes up a ticket: each value that is put in comes with a
ticket that an earlier look-up of its key handed out. -/
structure IsHonest (history : History) : Prop where
  calm : ∀ key, Act.crash key ∉ history.acts
  issued : ∀ time now key did ticket,
    history.acts[time]? = some (.populate now key did ticket) →
      ∃ issued < time, history.Issues issued key ticket

def extend (history : History) (more : List Act) : History :=
  { history with acts := history.acts ++ more }

def last (history : History) : Cache :=
  history.cache history.acts.length

variable {history : History} {time : Nat} {more : List Act}

theorem cache_extend (within : time ≤ history.acts.length) :
    (history.extend more).cache time = history.cache time := by
  rw [cache, cache, extend, List.take_append_of_le_length within]

theorem last_extend (history : History) (more : List Act) :
    (history.extend more).last = more.foldl perform history.last := by
  rw [last, last, cache, cache, extend, List.take_length, List.take_length, List.foldl_append]

theorem issues_extend {ticket : Ticket} {key : String} (issues : history.Issues time key ticket) :
    (history.extend more).Issues time key ticket := by
  rcases issues with ⟨now, asked, missed⟩
  have within := (List.getElem?_eq_some_iff.mp asked).1
  refine ⟨now, ?_, ?_⟩
  · rw [extend, List.getElem?_append_left within, asked]
  · rw [cache_extend (Nat.le_of_lt within), missed]

/-- An honest history stays honest with a look-up and a value that is put in with its ticket. -/
theorem IsHonest.extend (honest : history.IsHonest)
    (missed : (history.last.lookup now key).1 = .miss ticket) :
    (history.extend [.lookup now key, .populate now key did ticket]).IsHonest := by
  refine ⟨fun other member => ?_, fun time moment other value shown asked => ?_⟩
  · rcases List.mem_append.mp member with before | added
    · exact honest.calm other before
    · simp at added
  rw [History.extend, List.getElem?_append] at asked
  split at asked
  case isTrue =>
    rcases honest.issued time moment other value shown asked with ⟨issued, before, issues⟩
    exact ⟨issued, before, issues_extend issues⟩
  case isFalse beyond =>
    -- Of the two new acts only the second one puts something in.
    cases place : time - history.acts.length with
    | zero =>
        rw [place] at asked
        cases asked
    | succ offset =>
        rw [place, List.getElem?_cons_succ] at asked
        cases offset with
        | zero =>
            cases asked
            refine ⟨history.acts.length, by omega, now, ?_, ?_⟩
            · rw [History.extend, List.getElem?_append_right (Nat.le_refl _), Nat.sub_self]
              rfl
            · rw [cache_extend (Nat.le_refl _)]
              exact missed
        | succ => cases asked

/-- Keys that find room can all have an entry after an honest history. -/
theorem exists_isFilled (enabled : settings.enabled = true) (fits : settings.Fits keys) :
    ∃ history : History, history.settings = settings ∧ history.IsHonest ∧
      history.last.IsFilled keys := by
  induction keys using List.reverseRecOn with
  | nil =>
      refine ⟨⟨settings, []⟩, rfl, ⟨fun _ => List.not_mem_nil, ?_⟩, isFilled_new enabled⟩
      intro _ _ _ _ _ asked
      cases asked
  | append_singleton keys key ih =>
      have ⟨distinct, bounded⟩ := fits
      rw [List.nodup_append] at distinct
      have earlier : settings.Fits keys := by
        refine ⟨distinct.1, fun index => Nat.le_trans ?_ (bounded index)⟩
        rw [List.countP_append]
        exact Nat.le_add_right _ _
      rcases ih earlier with ⟨history, rfl, honest, filled⟩
      have new : key ∉ keys := fun member =>
        distinct.2.2 key member key List.mem_cons_self rfl
      have tidy : (history.last.perform (.lookup 0 key)).IsTidy :=
        (history.isTidy history.acts.length).perform _
      rcases filled.lookup new 0 with ⟨ticket, missed, permitted, still⟩
      refine ⟨history.extend [.lookup 0 key, .populate 0 key "" ticket], rfl, honest.extend missed,
        ?_⟩
      rw [last_extend]
      refine tidy.isFilled_populate still new permitted ?_
      have most := bounded (history.shardOf key)
      have least := tidy.length_le still (history.shardOf key)
      have one : [key].countP (fun other =>
          (Cache.new history.settings).shardOf other = history.shardOf key) = 1 := by
        simp [History.shardOf]
      rw [List.countP_append, one] at most
      simp only [last, shardOf_perform, settings_perform, shardOf_cache, settings_cache] at least ⊢
      exact Nat.lt_of_le_of_lt least most

/-- The numbers of entries that a cache can have. -/
theorem sizes_iff_fits (settings : Settings) :
    (∀ history : History, history.settings = settings → ∀ time,
      (history.cache time).size ≤
          max 1 settings.shards * max 1 (settings.capacity ⌈/⌉ max 1 settings.shards) ∧
        (0 < settings.capacity → max 1 settings.shards ∣ settings.capacity →
          (history.cache time).size ≤ settings.capacity)) ∧
    (settings.enabled = true → ∀ count,
      (∃ history : History, history.settings = settings ∧ history.IsHonest ∧
          ∃ time, (history.cache time).size = count) ↔
        ∃ keys, settings.Fits keys ∧ keys.length = count) := by
  refine ⟨?_, fun enabled count => ⟨?_, ?_⟩⟩
  · rintro history rfl time
    have bound := (history.isTidy time).size_le
    rw [settings_cache, Settings.shardCount, shardCapacity_eq, max_comm] at bound
    refine ⟨bound, fun positive divides => ?_⟩
    -- Equal parts that need no rounding make up the capacity.
    rcases divides with ⟨part, whole⟩
    have shards : 0 < max 1 history.settings.shards := by omega
    have parts : history.settings.capacity ⌈/⌉ max 1 history.settings.shards = part := by
      rw [whole, ← smul_eq_mul, smul_ceilDiv shards]
    have positivePart : 1 ≤ part := by
      rw [whole] at positive
      exact Nat.pos_of_mul_pos_left positive
    rwa [parts, max_eq_right positivePart, ← whole] at bound
  · rintro ⟨history, rfl, _, time, rfl⟩
    refine ⟨(history.cache time).visibleKeys, ?_, length_visibleKeys _⟩
    simpa using (history.isTidy time).fits
  · rintro ⟨keys, fits, rfl⟩
    rcases exists_isFilled enabled fits with ⟨history, same, honest, filled⟩
    refine ⟨history, same, honest, history.acts.length, ?_⟩
    exact (size_eq_held filled.usable).trans filled.number

/-- Two keys in a cache for one entry, whose hashes lead to different shards. -/
def twoShards : History where
  settings := ⟨true, 1, 2, none⟩
  acts := [.lookup 0 "BPNL00000000000A",
    .populate 0 "BPNL00000000000A" "did:web:first" ⟨0, some 0⟩,
    .lookup 0 "BPNL00000000000B",
    .populate 0 "BPNL00000000000B" "did:web:second" ⟨1, some 0⟩]

theorem twoShards_isHonest : twoShards.IsHonest where
  calm := by
    intro key member
    simp [twoShards] at member
  issued := by
    intro time now key did ticket asked
    match time with
    | 0 | 2 => cases asked
    | 1 =>
        cases asked
        exact ⟨0, by decide, 0, rfl, by decide +kernel⟩
    | 3 =>
        cases asked
        exact ⟨2, by decide, 0, rfl, by decide +kernel⟩
    | _ + 4 => cases asked

theorem twoShards_size : (twoShards.cache 4).size = 2 := by decide +kernel

theorem twoShards_sizes :
    twoShards.settings.enabled = true ∧ (twoShards.cache 4).size ≤ 2 ∧
      (∃ keys, twoShards.settings.Fits keys ∧ keys.length = 2) ∧
      (History.cache ⟨⟨true, 2, 2, none⟩, twoShards.acts⟩ 4).size ≤ 2 := by
  have ⟨most, reached⟩ := sizes_iff_fits twoShards.settings
  have ⟨evenly, _⟩ := sizes_iff_fits ⟨true, 2, 2, none⟩
  exact ⟨rfl, (most twoShards rfl 4).1,
    (reached rfl 2).mp ⟨twoShards, rfl, twoShards_isHonest, 4, twoShards_size⟩,
    (evenly ⟨_, twoShards.acts⟩ rfl 4).2 (by decide) (by decide)⟩

/-- The capacity does not bound the number of entries. -/
theorem not_size_le_capacity :
    ¬ ∀ history : History, 1 ≤ history.settings.capacity → 1 ≤ history.settings.shards →
      history.IsHonest → ∀ time, (history.cache time).size ≤ history.settings.capacity := by
  intro bounded
  have most := bounded twoShards (by decide) (by decide) twoShards_isHonest 4
  rw [twoShards_size] at most
  exact absurd most (by decide)

end History
end Cache
end BpnDirectory
