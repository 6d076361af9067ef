import BpnDirectory.Proofs.Cache.Shards

namespace BpnDirectory
namespace Cache

/-!
What is done with a cache.

Keys are looked up, values are put in, and one key or all of them are invalidated;
besides, a task may crash inside the cache.  Each of these acts is described by what
becomes of the entries: some of them go, and at most one comes to the front of its
shard.  Whatever is done, the shards stay tidy and keep entries of their own keys only.
-/

/-! ## Acts on a cache -/

/-- Something that is done with a cache, or that happens to it. -/
inductive Act where
  | lookup (now : Nat) (key : String)
  | populate (now : Nat) (key did : String) (ticket : Ticket)
  | invalidate (key : String)
  | invalidateAll
  | close
  /-- A task crashes while it holds the lock of the shard of a key. -/
  | crash (key : String)
  deriving DecidableEq, Repr

def perform (cache : Cache) : Act → Cache
  | .lookup now key => (cache.lookup now key).2
  | .populate now key did ticket => (cache.populate now key did ticket).2
  | .invalidate key => (cache.invalidate key).2
  | .invalidateAll => cache.invalidateAll
  | .close => cache.close
  | .crash key => cache.poison key

variable {cache : Cache} {now : Nat} {key did : String} {ticket : Ticket} {entry : Entry}

/-- Whether a look-up of a key gets to see what its shard keeps. -/
def IsOpen (cache : Cache) (key : String) : Prop :=
  cache.settings.enabled = true ∧ (cache.shard (cache.shardOf key)).poisoned = false

/-- All that can come of looking up a key. -/
inductive Looks (cache : Cache) (now : Nat) (key : String) (found : Lookup) (after : Cache) : Prop
  | closed (shut : ¬ cache.IsOpen key) (missed : found = .miss ⟨cache.shardOf key, none⟩)
      (same : after.shards = cache.shards)
  | absent (opened : cache.IsOpen key) (absent : (cache.shard (cache.shardOf key)).find? key = none)
      (missed : found = .miss ⟨cache.shardOf key, some (cache.shard (cache.shardOf key)).generation⟩)
      (same : after.shards = cache.shards)
  | expired {entry : Entry} (opened : cache.IsOpen key)
      (held : (cache.shard (cache.shardOf key)).find? key = some entry)
      (old : cache.isExpired now entry = true)
      (missed : found = .miss ⟨cache.shardOf key, some (cache.shard (cache.shardOf key)).generation⟩)
      (dropped : after.shards = (cache.setShard (cache.shardOf key)
        ((cache.shard (cache.shardOf key)).drop key)).shards)
  | fresh {entry : Entry} (opened : cache.IsOpen key)
      (held : (cache.shard (cache.shardOf key)).find? key = some entry)
      (fresh : cache.isExpired now entry = false) (hit : found = .hit entry.did)
      (touched : after.shards = (cache.setShard (cache.shardOf key)
        ((cache.shard (cache.shardOf key)).touch entry)).shards)

theorem looks (cache : Cache) (now : Nat) (key : String) :
    cache.Looks now key (cache.lookup now key).1 (cache.lookup now key).2 := by
  unfold lookup
  split
  case isTrue disabled => exact .closed (fun opened => by simp [opened.1] at disabled) rfl rfl
  case isFalse enabled =>
    dsimp only
    split
    case isTrue poisoned =>
      exact .closed (fun opened => Bool.false_ne_true (opened.2.symm.trans poisoned)) rfl rfl
    case isFalse usable =>
      have opened : cache.IsOpen key := ⟨by simpa using enabled, by simpa using usable⟩
      split
      case h_1 held found =>
        split
        case isTrue old => exact .expired opened found old rfl rfl
        case isFalse fresh => exact .fresh opened found (by simpa using fresh) rfl rfl
      case h_2 absent => exact .absent opened absent rfl rfl

/-- An open shard without an entry of a key hands out a ticket that permits to put one in. -/
theorem lookup_of_absent (opened : cache.IsOpen key)
    (absent : (cache.shard (cache.shardOf key)).find? key = none) (now : Nat) :
    ∃ ticket, (cache.lookup now key).1 = .miss ticket ∧
      (cache.lookup now key).2.permits ticket key = true ∧
      (cache.lookup now key).2.shards = cache.shards := by
  have evolves : Evolves (fun _ _ => False) cache (cache.lookup now key).2 := lookup_evolves now key
  cases cache.looks now key with
  | closed shut => exact absurd opened shut
  | expired _ held | fresh _ held => cases absent.symm.trans held
  | absent _ _ missed same =>
      refine ⟨_, missed, permits_iff.mpr ⟨(evolves.shardOf_eq key).symm, ?_, ?_⟩, same⟩
      · exact (congrArg Shard.poisoned (shard_congr same _)).trans opened.2
      · exact congrArg (some ∘ Shard.generation) (shard_congr same _).symm

theorem populate_fst : (cache.populate now key did ticket).1 = cache.permits ticket key := by
  unfold populate
  split
  case isTrue permitted => exact permitted.symm
  case isFalse refused => exact (Bool.eq_false_iff.mpr refused).symm

theorem shards_populate (permitted : cache.permits ticket key = true) :
    (cache.populate now key did ticket).2.shards = (cache.setShard (cache.shardOf key)
      (Shard.push cache.settings.shardCapacity (cache.shard (cache.shardOf key))
        ⟨key, did, now⟩).2).shards := by
  unfold populate
  rw [if_pos permitted, (permits_iff.mp permitted).1]

theorem populate_of_not_permits (refused : cache.permits ticket key = false) :
    (cache.populate now key did ticket).2 = cache := by
  unfold populate
  rw [if_neg (Bool.eq_false_iff.mp refused)]

/-- Clearing one shard after the other changes the shards only. -/
theorem foldl_clearShard (cache : Cache) (count : Nat) :
    ∃ shards : Array Shard,
      (List.range count).foldl clearShard cache = { cache with shards } ∧
      shards.size = cache.shards.size ∧ ∀ index, ({ cache with shards } : Cache).shard index =
        if index < count ∧ index < cache.shards.size then (cache.shard index).clear
        else cache.shard index := by
  induction count with
  | zero => exact ⟨cache.shards, rfl, rfl, fun index => by simp⟩
  | succ count ih =>
      rcases ih with ⟨shards, cleared, size, each⟩
      refine ⟨shards.setIfInBounds count (({ cache with shards } : Cache).shard count).clear, ?_, ?_,
        ?_⟩
      · rw [List.range_succ, List.foldl_append, cleared]
        rfl
      · rw [Array.size_setIfInBounds, size]
      · intro index
        have last := shard_setShard { cache with shards } count
          (({ cache with shards } : Cache).shard count).clear index
        refine last.trans ?_
        rw [each index, each count, size]
        by_cases same : count = index
        · subst same
          simp
        · have split : index < count + 1 ↔ index < count := by omega
          simp [same, split]

theorem shard_invalidateAll (cache : Cache) (index : Nat) :
    cache.invalidateAll.shard index =
      if index < cache.shards.size then (cache.shard index).clear else cache.shard index := by
  rcases foldl_clearShard cache cache.shards.size with ⟨shards, cleared, _, each⟩
  unfold invalidateAll
  rw [cleared]
  exact (each index).trans (by simp)

/-- A clearing leaves everything but the shards and the number of clearings. -/
theorem invalidateAll_eq (cache : Cache) :
    ∃ shards : Array Shard, shards.size = cache.shards.size ∧
      cache.invalidateAll = { cache with shards, clearings := cache.clearings + 1 } := by
  rcases foldl_clearShard cache cache.shards.size with ⟨shards, cleared, size, _⟩
  refine ⟨shards, size, ?_⟩
  rw [invalidateAll, cleared, countClearing]

theorem invalidateAll_evolves {May : Nat → Entry → Prop} (cache : Cache) :
    Evolves May cache cache.invalidateAll := by
  rcases cache.invalidateAll_eq with ⟨shards, size, same⟩
  refine ⟨by rw [same], by rw [same, size], fun index => ?_⟩
  rw [shard_invalidateAll]
  split
  · exact Shard.clear_evolves _
  · exact Shard.Evolves.refl _

/-! ## What an act does to the shards -/

theorem invalidate_of_poisoned (poisoned : (cache.shard (cache.shardOf key)).poisoned = true) :
    (cache.invalidate key).2 = cache := by
  simp [invalidate, poisoned]

theorem shards_invalidate (usable : (cache.shard (cache.shardOf key)).poisoned = false) :
    (cache.invalidate key).2.shards = (cache.setShard (cache.shardOf key)
      ((cache.shard (cache.shardOf key)).invalidate key)).shards := by
  simp [invalidate, usable]

theorem shards_poison : (cache.poison key).shards = (cache.setShard (cache.shardOf key)
    { cache.shard (cache.shardOf key) with poisoned := true }).shards :=
  rfl

/-- Every act lets the shards evolve, whatever is put into them. -/
theorem perform_evolves (cache : Cache) (act : Act) :
    Evolves (fun _ _ => True) cache (cache.perform act) := by
  cases act with
  | lookup now key => exact lookup_evolves now key
  | populate now key did ticket => exact populate_evolves fun _ => trivial
  | invalidate key => exact invalidate_evolves key
  | crash key => exact poison_evolves key
  | invalidateAll => exact invalidateAll_evolves cache
  | close =>
      have evolves : Evolves (fun _ _ => True) cache cache.invalidateAll :=
        cache.invalidateAll_evolves
      exact ⟨evolves.settings, evolves.size, evolves.shards⟩

theorem settings_perform (cache : Cache) (act : Act) :
    (cache.perform act).settings = cache.settings :=
  (cache.perform_evolves act).settings

theorem shardOf_perform (cache : Cache) (act : Act) (key : String) :
    (cache.perform act).shardOf key = cache.shardOf key :=
  (cache.perform_evolves act).shardOf_eq key

def Lookup.did? : Lookup → Option String
  | .hit did => some did
  | .miss _ => none

/-- The key that an act touches, if it finds a value for a key or takes one. -/
def touched? (cache : Cache) : Act → Option String
  | .lookup now key => (cache.lookup now key).1.did?.map fun _ => key
  | .populate now key did ticket => if (cache.populate now key did ticket).1 then some key else none
  | _ => none

/-- Whether every shard of a cache is tidy and keeps entries of its own keys only. -/
structure IsTidy (cache : Cache) : Prop where
  size : cache.shards.size = cache.settings.shardCount
  shards : ∀ index, (cache.shard index).IsTidy cache.settings.shardCapacity
  placed : ∀ index, ∀ entry ∈ (cache.shard index).entries, cache.shardOf entry.key = index

theorem shardCapacity_pos (settings : Settings) : 0 < settings.shardCapacity :=
  Nat.lt_of_lt_of_le Nat.zero_lt_one (Nat.le_max_right _ _)

/-- Whether a shard of another cache keeps what the same shard of this one does, except that
the entry of a touched key is put in front and others may have gone. -/
structure Reorders (cache : Cache) (touched : Option String) (after : Cache) (index : Nat) :
    Prop where
  order : (∃ key, touched = some key ∧ cache.shardOf key = index ∧
      Shard.Fronts key (cache.shard index).entries (after.shard index).entries) ∨
    (∀ key, touched = some key → cache.shardOf key ≠ index) ∧
      (after.shard index).entries.Sublist (cache.shard index).entries
  bounded : (after.shard index).entries.length ≤ cache.settings.shardCapacity

namespace IsTidy

variable {after : Cache} {shard : Shard}

theorem shardOf_lt (tidy : cache.IsTidy) (key : String) : cache.shardOf key < cache.shards.size := by
  rw [tidy.size]
  exact cache.shardOf_lt key

/-- What a shard is after the one of a key was replaced. -/
theorem shard_of_replaced (tidy : cache.IsTidy)
    (replaced : after.shards = (cache.setShard (cache.shardOf key) shard).shards) (index : Nat) :
    after.shard index = if cache.shardOf key = index then shard else cache.shard index := by
  rw [shard_congr replaced, shard_setShard]
  simp [tidy.shardOf_lt key]

/-- A shard that was replaced by one of the same generation, poisoned or not as before. -/
theorem marks_of_replaced (tidy : cache.IsTidy) {after : Cache} {shard : Shard}
    (replaced : after.shards = (cache.setShard (cache.shardOf key) shard).shards)
    (generation : shard.generation = (cache.shard (cache.shardOf key)).generation)
    (poisoned : shard.poisoned = (cache.shard (cache.shardOf key)).poisoned) (index : Nat) :
    (after.shard index).generation = (cache.shard index).generation ∧
      (after.shard index).poisoned = (cache.shard index).poisoned := by
  rw [tidy.shard_of_replaced replaced]
  split
  case isTrue same => exact same ▸ ⟨generation, poisoned⟩
  case isFalse => exact ⟨rfl, rfl⟩

theorem marks_lookup (tidy : cache.IsTidy) (now : Nat) (key : String) (index : Nat) :
    ((cache.lookup now key).2.shard index).generation = (cache.shard index).generation ∧
      ((cache.lookup now key).2.shard index).poisoned = (cache.shard index).poisoned := by
  cases cache.looks now key with
  | closed _ _ same | absent _ _ _ same =>
      rw [shard_congr same]
      exact ⟨rfl, rfl⟩
  | expired _ _ _ _ replaced | fresh _ _ _ _ replaced =>
      exact tidy.marks_of_replaced replaced rfl rfl index

theorem marks_populate (tidy : cache.IsTidy) (now : Nat) (key did : String)
    (ticket : Ticket) (index : Nat) :
    ((cache.populate now key did ticket).2.shard index).generation = (cache.shard index).generation ∧
      ((cache.populate now key did ticket).2.shard index).poisoned =
        (cache.shard index).poisoned := by
  cases permitted : cache.permits ticket key with
  | false =>
      rw [populate_of_not_permits permitted]
      exact ⟨rfl, rfl⟩
  | true =>
      exact tidy.marks_of_replaced (shards_populate permitted) (Shard.push_generation _ _ _)
        (Shard.push_poisoned _ _ _) index

theorem reorders_of_sublist (tidy : cache.IsTidy) {index : Nat}
    (sublist : (after.shard index).entries.Sublist (cache.shard index).entries) :
    cache.Reorders none after index where
  order := Or.inr ⟨nofun, sublist⟩
  bounded := Nat.le_trans sublist.length_le (tidy.shards index).bounded

theorem reorders_of_dropped (tidy : cache.IsTidy)
    (replaced : after.shards = (cache.setShard (cache.shardOf key) shard).shards)
    (sublist : shard.entries.Sublist (cache.shard (cache.shardOf key)).entries) (index : Nat) :
    cache.Reorders none after index := by
  refine tidy.reorders_of_sublist ?_
  rw [tidy.shard_of_replaced replaced]
  split
  case isTrue same => exact same ▸ sublist
  case isFalse => exact .refl _

theorem reorders_of_fronts (tidy : cache.IsTidy)
    (replaced : after.shards = (cache.setShard (cache.shardOf key) shard).shards)
    (fronts : Shard.Fronts key (cache.shard (cache.shardOf key)).entries shard.entries)
    (bounded : shard.entries.length ≤ cache.settings.shardCapacity) (index : Nat) :
    cache.Reorders (some key) after index := by
  by_cases same : cache.shardOf key = index
  · subst same
    have present := tidy.shard_of_replaced replaced (cache.shardOf key)
    rw [if_pos rfl] at present
    exact ⟨Or.inl ⟨key, rfl, rfl, present ▸ fronts⟩, present ▸ bounded⟩
  · have kept := tidy.shard_of_replaced replaced index
    rw [if_neg same] at kept
    refine ⟨Or.inr ⟨?_, kept ▸ .refl _⟩, kept ▸ (tidy.shards index).bounded⟩
    rintro _ ⟨⟩
    exact same

/-- An act brings the key that it touches to the front of its shard.  Otherwise entries only
go. -/
theorem reorders_perform (tidy : cache.IsTidy) (act : Act) (index : Nat) :
    cache.Reorders (cache.touched? act) (cache.perform act) index := by
  have unchanged : ∀ {after : Cache}, after.shards = cache.shards → cache.Reorders none after index :=
    fun same => tidy.reorders_of_sublist (by rw [shard_congr same])
  cases act with
  | lookup now key =>
      simp only [touched?, perform]
      cases cache.looks now key with
      | closed _ missed same | absent _ _ missed same =>
          rw [missed]
          exact unchanged same
      | expired _ _ _ missed dropped =>
          rw [missed]
          exact tidy.reorders_of_dropped dropped List.filter_sublist index
      | @fresh entry _ held _ hit touched =>
          rw [hit]
          have kept := tidy.shards (cache.shardOf key)
          have named := (Shard.mem_of_find? held).2
          have found : (cache.shard (cache.shardOf key)).find? entry.key = some entry := by
            rw [named, held]
          have fronts := Shard.fronts_touch (cache.shard (cache.shardOf key)) entry
          rw [named] at fronts
          refine tidy.reorders_of_fronts touched fronts ?_ index
          rw [Shard.length_touch kept.distinct found]
          exact kept.bounded
  | populate now key did ticket =>
      simp only [touched?, perform, populate_fst]
      cases permitted : cache.permits ticket key with
      | true =>
          exact tidy.reorders_of_fronts (shards_populate permitted) (Shard.fronts_push _ _ _)
            (Shard.length_push_le (tidy.shards _) (shardCapacity_pos _)) index
      | false =>
          rw [populate_of_not_permits permitted]
          exact unchanged rfl
  | invalidate key =>
      simp only [touched?, perform]
      cases poisoned : (cache.shard (cache.shardOf key)).poisoned with
      | true =>
          rw [invalidate_of_poisoned poisoned]
          exact unchanged rfl
      | false => exact tidy.reorders_of_dropped (shards_invalidate poisoned) List.filter_sublist index
  | invalidateAll | close =>
      refine tidy.reorders_of_sublist ?_
      change (cache.invalidateAll.shard index).entries.Sublist _
      rw [shard_invalidateAll]
      split
      · exact List.nil_sublist _
      · exact .refl _
  | crash key =>
      exact tidy.reorders_of_dropped shards_poison (.refl _) index

/-- Whatever is done with a tidy cache leaves it tidy. -/
theorem perform (tidy : cache.IsTidy) (act : Act) : (cache.perform act).IsTidy where
  size := by
    rw [(cache.perform_evolves act).size, settings_perform]
    exact tidy.size
  shards := by
    intro index
    have reorders := tidy.reorders_perform act index
    refine ⟨?_, (settings_perform cache act).symm ▸ reorders.bounded⟩
    rcases reorders.order with ⟨_, _, _, fronts⟩ | ⟨_, sublist⟩
    · exact fronts.distinct (tidy.shards index).distinct
    · exact (sublist.map Entry.key).nodup (tidy.shards index).distinct
  placed := by
    intro index entry member
    rw [shardOf_perform]
    rcases (tidy.reorders_perform act index).order with ⟨key, _, rfl, fronts⟩ | ⟨_, sublist⟩
    · rcases fronts with ⟨first, rest, whole, named, sublist, _⟩
      rw [whole] at member
      rcases List.mem_cons.mp member with rfl | later
      · rw [named]
      · exact tidy.placed _ entry (sublist.subset later)
    · exact tidy.placed index entry (sublist.subset member)

end IsTidy

theorem isTidy_new (settings : Settings) : (new settings).IsTidy where
  size := size_new settings
  shards := by
    intro index
    rw [shard_new]
    exact ⟨List.nodup_nil, Nat.zero_le _⟩
  placed := by
    intro index entry member
    rw [shard_new] at member
    cases member

end Cache
end BpnDirectory
