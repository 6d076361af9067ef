import BpnDirectory.Proofs.Resolver.Detection
import BpnDirectory.Proofs.Resolver.Freshness
import BpnDirectory.Proofs.Resolver.Updates

namespace BpnDirectory
namespace Resolver

/-!
Resolutions one after the other.

A resolution that begins when another one was answered says the same or something
newer, with one exception.  While a rotation is committed and its BPN not invalidated yet,
a resolution may read the new DID from the store although the tickets of those before
it are still good.  So the old DID may come into the cache once more, and then it is
found there.
-/

open Program (Becomes)
open Store (Held LawfulStore MappingStore)

variable {S : Type}

/-- Once a BPN was looked up in a cache that is in use, the cache has no DID for it but the
one that was found. -/
theorem hit_of_cached_lookup {node : Node S} {bpn did : String}
    (enabled : node.cache.settings.enabled = true)
    (bound : node.cache.shardOf bpn < node.cache.shards.size)
    (cached : Cached (node.lookup bpn).2 bpn (some did)) : (node.lookup bpn).1 = .hit did := by
  rcases cached with ⟨usable, entry, member, named, same⟩
  have evolves : Cache.Evolves (fun _ _ => False) node.cache (node.lookup bpn).2.cache :=
    Cache.lookup_evolves node.ticks bpn
  have index := evolves.shardOf_eq bpn
  rw [index] at usable member
  cases same
  exact Cache.hit_of_mem_lookup enabled bound usable member named

variable [MappingStore S] [LawfulStore S]

section

variable {state : Nat → Node S} {IsOwn : Nat → Prop} {bpn did : String} {time later : Nat}

/-- What stands in a usable shard was held at some time before. -/
theorem held_of_cached (empty : ∀ index, ((state 0).cache.shard index).entries = [])
    (fair : (course state IsOwn).IsFairUntil time) (cached : Cached (state time) bpn (some did)) :
    ∃ seen ≤ time, (state seen).heldDid bpn = some did := by
  rcases cached with ⟨usable, entry, member, rfl, same⟩
  cases same
  have invariant : ∀ index, ((state time).cache.shard index).poisoned = false →
      ∀ entry ∈ ((state time).cache.shard index).entries,
        ∃ seen ≤ time, (state seen).heldDid entry.key = some entry.did := by
    refine fair.carry (fun time => ∀ index, ((state time).cache.shard index).poisoned = false →
      ∀ entry ∈ ((state time).cache.shard index).entries,
        ∃ seen ≤ time, (state seen).heldDid entry.key = some entry.did) (Nat.zero_le time) ?_ ?_
    · intro index _ entry member
      rw [empty index] at member
      cases member
    · intro step _ past ih index usable entry member
      have evolves := (past step (Nat.lt_succ_self step)).cache.shards index
      cases was : ((state step).cache.shard index).poisoned with
      | true =>
          rw [(evolves.healed was usable).1] at member
          cases member
      | false =>
          rcases evolves.kept was usable entry member with old | ⟨⟨seen, before, _, held⟩, _⟩
          · rcases ih index was entry old with ⟨seen, before, held⟩
            exact ⟨seen, Nat.le_succ_of_le before, held⟩
          · exact ⟨seen, Nat.le_succ_of_le before, held⟩
  exact invariant _ usable entry member

/-- A DID that comes into the cache for a BPN was held at some time before, since which
its shard was not invalidated. -/
theorem mayEnter_of_cached (fair : (course state IsOwn).IsFair time)
    (same : (state (time + 1)).cache.shardOf bpn = (state time).cache.shardOf bpn)
    (absent : ¬ Cached (state time) bpn (some did))
    (present : Cached (state (time + 1)) bpn (some did)) :
    ∃ read ≤ time, (state read).generation ((state time).cache.shardOf bpn) =
        (state time).generation ((state time).cache.shardOf bpn) ∧
      (state read).heldDid bpn = some did := by
  rcases present with ⟨usable, entry, member, rfl, named⟩
  cases named
  rw [same] at usable member
  have evolves := fair.cache.shards ((state time).cache.shardOf entry.key)
  cases was : ((state time).cache.shard ((state time).cache.shardOf entry.key)).poisoned with
  | true =>
      rw [(evolves.healed was usable).1] at member
      cases member
  | false =>
      rcases evolves.kept was usable entry member with old | ⟨may, _⟩
      · exact absurd ⟨was, entry, old, rfl, rfl⟩ absent
      · exact may

end

/-! ## Versions of a BPN -/

/-- Whether something was held for a BPN at some time of a run. -/
def Run.HasHeld (run : Run S) (bpn : String) (held : Held) : Prop :=
  ∃ time, LawfulStore.held (run.node time).store bpn = some held

/-- Whether a BPN stays registered in a run once it is, and has another DID in each
version. -/
structure Run.OnlyRotates (run : Run S) (bpn : String) : Prop where
  stays : ∀ time, (LawfulStore.held (run.node time).store bpn).isSome = true →
    (LawfulStore.held (run.node (time + 1)).store bpn).isSome = true
  distinct : ∀ first second, run.HasHeld bpn first → run.HasHeld bpn second →
    first.did = second.did → first = second

/-- Whether a version of a BPN is committed at a time, on top of the one before. -/
def Run.CommitsVersion (run : Run S) (bpn : String) (version : Int) (time : Nat) : Prop :=
  (LawfulStore.held (run.node time).store bpn).map Held.version = some (version - 1) ∧
    (LawfulStore.held (run.node (time + 1)).store bpn).map Held.version = some version

/-- What is held in a run at all is held by the time of its last move. -/
theorem Run.HasHeld.within {run : Run S} {bpn : String} {held : Held}
    (known : run.HasHeld bpn held) :
    ∃ time ≤ run.moves.length, LawfulStore.held (run.node time).store bpn = some held := by
  rcases known with ⟨time, holds⟩
  rcases Nat.le_total time run.moves.length with before | after
  · exact ⟨time, before, holds⟩
  · refine ⟨run.moves.length, Nat.le_refl _, ?_⟩
    unfold Run.node at holds ⊢
    rw [Run.traffic_of_length_le after] at holds
    exact holds

/-- A BPN stays registered if it does so in each move. -/
theorem Run.stays_of_moves {run : Run S} {bpn : String}
    (stays : ∀ time < run.moves.length,
      (LawfulStore.held (run.node time).store bpn).isSome = true →
        (LawfulStore.held (run.node (time + 1)).store bpn).isSome = true) (time : Nat) :
    (LawfulStore.held (run.node time).store bpn).isSome = true →
      (LawfulStore.held (run.node (time + 1)).store bpn).isSome = true := by
  rcases Nat.lt_or_ge time run.moves.length with before | after
  · exact stays time before
  · unfold Run.node
    rw [Run.traffic_of_length_le after, Run.traffic_of_length_le (Nat.le_succ_of_le after)]
    exact id

namespace Run.OnlyRotates

variable {run : Run S} {bpn : String} {earlier time : Nat} {older newer : Held}

theorem not_deleted (rotates : run.OnlyRotates bpn) (step : Nat) :
    ¬ Store.Writes bpn .deleted (run.node step).store (run.node (step + 1)).store := by
  intro writes
  have stays := rotates.stays step
  have becomes := writes.becomes
  generalize LawfulStore.held (run.node step).store bpn = before at stays becomes
  generalize LawfulStore.held (run.node (step + 1)).store bpn = after at stays becomes
  cases becomes
  exact absurd (stays rfl) nofun

theorem version_le (rotates : run.OnlyRotates bpn) (sound : LawfulStore.IsSound run.store)
    (before : earlier ≤ time) (first : LawfulStore.held (run.node earlier).store bpn = some older)
    (last : LawfulStore.held (run.node time).store bpn = some newer) :
    older.version ≤ newer.version := by
  rcases held_or_grown (run.isFairUntil sound (fun _ => True) time) before first
    fun step _ _ => rotates.not_deleted step with ⟨found, held, grown⟩
  cases last.symm.trans held
  rcases grown with rfl | less
  · exact Int.le_refl _
  · exact Int.le_of_lt less

theorem held_of_heldDid (rotates : run.OnlyRotates bpn) (held : run.HasHeld bpn older)
    (same : (run.node time).heldDid bpn = some older.did) :
    LawfulStore.held (run.node time).store bpn = some older := by
  rcases Option.map_eq_some_iff.mp same with ⟨found, holds, did⟩
  exact rotates.distinct found older ⟨time, holds⟩ held did ▸ holds

/-- What has an older version is held earlier. -/
theorem lt_of_version_lt (rotates : run.OnlyRotates bpn) (sound : LawfulStore.IsSound run.store)
    (first : LawfulStore.held (run.node earlier).store bpn = some older)
    (last : LawfulStore.held (run.node time).store bpn = some newer)
    (less : older.version < newer.version) : earlier < time := by
  apply Nat.lt_of_not_le
  intro after
  exact Int.not_le.mpr less (rotates.version_le sound after last first)

/-- Every version between two that are held is committed in between. -/
theorem exists_commitsVersion (rotates : run.OnlyRotates bpn)
    (sound : LawfulStore.IsSound run.store) (before : earlier ≤ time)
    (first : LawfulStore.held (run.node earlier).store bpn = some older)
    (last : LawfulStore.held (run.node time).store bpn = some newer) {version : Int}
    (above : older.version < version) (upTo : version ≤ newer.version) :
    ∃ committed, earlier ≤ committed ∧ committed < time ∧
      run.CommitsVersion bpn version committed := by
  have fair := run.isFairUntil sound (fun _ => True) time
  rcases Course.exists_crossing (fun step => ∀ held,
      LawfulStore.held (run.node step).store bpn = some held → version ≤ held.version) before
    (fun reached => Int.not_le.mpr above (reached older first))
    (fun held found => Option.some.inj (last.symm.trans found) ▸ upTo) with
    ⟨committed, after, until_, below, reached⟩
  rcases held_or_grown (fair.mono (Nat.le_of_lt until_)) after first
    fun step _ _ => rotates.not_deleted step with ⟨old, found, _⟩
  rcases held_succ (fair committed until_) found (rotates.not_deleted committed) with
    ⟨new, next, grown⟩
  have less : old.version < version := by
    apply Int.lt_of_not_ge
    intro notLess
    exact below fun held same => Option.some.inj (found.symm.trans same) ▸ notLess
  have enough := reached new next
  rcases grown with rfl | grown
  · exact absurd enough (Int.not_le.mpr less)
  · refine ⟨committed, after, until_, ?_, ?_⟩
    · rw [found]
      exact congrArg some (by omega)
    · rw [next]
      exact congrArg some (by omega)

end Run.OnlyRotates

/-! ## What a resolution finds -/

/-- Whether a resolution looked up a BPN between two times, and found a DID in the cache or,
later, in the store. -/
structure Finds (state : Nat → Node S) (IsOwn : Reach → Nat → Prop) (bpn did : String)
    (looked start time : Nat) : Prop where
  after : start ≤ looked
  before : looked < time
  own : IsOwn .node looked
  moved : state (looked + 1) = ((state looked).lookup bpn).2
  found : ((state looked).lookup bpn).1 = .hit did ∨
    (∃ ticket, ((state looked).lookup bpn).1 = .miss ticket) ∧
      ∃ seen, looked < seen ∧ seen < time ∧ (state seen).heldDid bpn = some did

theorem finds_of_resolve {state : Nat → Node S} {IsOwn : Reach → Nat → Prop} {start time : Nat}
    {policy : Policy} {bpn did : String}
    (becomes : Becomes state IsOwn (resolve policy bpn).run start (.done (.ok did)) time) :
    ∃ looked, Finds state IsOwn bpn did looked start time := by
  rcases Operation.ok_of_bind becomes with ⟨_, checked, passed, becomes⟩
  rcases Operation.ok_of_bind becomes with ⟨found, middle, looking, becomes⟩
  rcases Operation.done_of_act looking with ⟨looked, after, before, own, moved, same⟩
  have from_ : start ≤ looked := Nat.le_trans passed.le after
  have order : middle ≤ time := becomes.le
  have until_ : looked < time := Nat.lt_of_lt_of_le before order
  cases Except.ok.inj same
  refine ⟨looked, from_, until_, own, moved, ?_⟩
  cases outcome : ((state looked).lookup bpn).1 with
  | hit kept =>
      rw [outcome] at becomes
      cases becomes.of_done
      exact Or.inl rfl
  | miss ticket =>
      rw [outcome] at becomes
      rcases Operation.ok_of_bind becomes with ⟨record, last, asking, becomes⟩
      rcases called_of_request asking with ⟨seen, since, upTo, _, called⟩
      have lastly : last ≤ time := becomes.le
      rcases Operation.ok_of_bind becomes with ⟨_, _, _, becomes⟩
      cases becomes.of_done
      have read : (state seen).heldDid bpn = some record.did := by
        unfold Node.heldDid
        rw [LawfulStore.get_found (congrArg Prod.fst called)]
        rfl
      exact Or.inr ⟨⟨ticket, rfl⟩, seen, Nat.lt_of_lt_of_le before since,
        Nat.lt_of_lt_of_le upTo lastly, read⟩

/-! ## Two resolutions -/

/-- A resolution with the DID that it answers, the version which that has, and a time by
which it is answered. -/
structure Resolution where
  index : Nat
  held : Held
  returned : Nat

/-- Whether a resolution of a BPN was made in a run. -/
structure Resolution.IsMade (resolution : Resolution) (bpn : String) (run : Run S) : Prop where
  answered : (run.traffic resolution.returned).answer? resolution.index =
    some (.resolve bpn, .did resolution.held.did)
  versioned : run.HasHeld bpn resolution.held

/-- Whether a BPN is not invalidated any more after a change was committed and before a
later call begins. -/
def Run.IsPending (run : Run S) (bpn : String) (committed later : Nat) : Prop :=
  ∀ dropped, committed ≤ dropped → (run.traffic (dropped + 1)).tasks.length ≤ later →
    run.node (dropped + 1) ≠ ((run.node dropped).invalidate bpn).2

/-- Whether a DID that was held for a BPN at one time comes into the cache at another, and
the shard of the BPN was not invalidated in between. -/
structure Run.PutsIn (run : Run S) (bpn did : String) (read put : Nat) : Prop where
  held : (run.node read).heldDid bpn = some did
  before : read ≤ put
  good : (run.node read).generation ((run.node put).cache.shardOf bpn) =
    (run.node put).generation ((run.node put).cache.shardOf bpn)
  absent : ¬ Cached (run.node put) bpn (some did)
  present : Cached (run.node (put + 1)) bpn (some did)

variable {run : Run S} {bpn : String}

omit [LawfulStore S] in
theorem Run.entries_start (run : Run S) (index : Nat) :
    ((run.node 0).cache.shard index).entries = [] :=
  congrArg Cache.Shard.entries (Cache.shard_new run.settings index)

/-- A resolution that was made looked its BPN up and found what it says. -/
theorem Resolution.IsMade.finds {resolution : Resolution} (made : resolution.IsMade bpn run) :
    ∃ begun looked, resolution.index < (run.traffic begun).tasks.length ∧
      Finds run.node (run.IsStepAt resolution.index) bpn resolution.held.did looked begun
        resolution.returned := by
  rcases Run.becomes_of_listed (Run.listed_of_answered made.answered) with
    ⟨begun, _, present, became⟩
  rcases Command.done_of_answered became with ⟨outcome, same, resolved⟩
  cases outcome with
  | error failure => cases same
  | ok did =>
      rcases finds_of_resolve resolved with ⟨looked, finds⟩
      exact ⟨begun, looked, present, (Answer.did.inj same) ▸ finds⟩

/-- The store held what a resolution found before it was answered. -/
theorem Finds.held (sound : LawfulStore.IsSound run.store) (rotates : run.OnlyRotates bpn)
    {index looked start time : Nat} {held : Held} (known : run.HasHeld bpn held)
    (finds : Finds run.node (run.IsStepAt index) bpn held.did looked start time) :
    ∃ seen < time, LawfulStore.held (run.node seen).store bpn = some held := by
  rcases finds.found with hit | ⟨_, seen, _, until_, same⟩
  · rcases held_of_cached run.entries_start
      (run.isFairUntil sound (fun _ => True) looked) (cached_of_hit hit) with ⟨seen, before, same⟩
    exact ⟨seen, Nat.lt_of_le_of_lt before finds.before, rotates.held_of_heldDid known same⟩
  · exact ⟨seen, until_, rotates.held_of_heldDid known same⟩

/-- What is older than a version that was committed is not found after the BPN was
invalidated. -/
theorem isPending_of_cached (sound : LawfulStore.IsSound run.store) (rotates : run.OnlyRotates bpn)
    {committed begun looked later : Nat} {version : Int} {held : Held}
    (commits : run.CommitsVersion bpn version committed) (less : held.version < version)
    (known : run.HasHeld bpn held) (present : later < (run.traffic begun).tasks.length)
    (after : begun ≤ looked) (cached : Cached (run.node looked) bpn (some held.did)) :
    run.IsPending bpn committed later := by
  intro dropped since absent drops
  have order : dropped + 1 ≤ begun := Nat.le_of_lt (Run.lt_of_absent absent present)
  have fair := run.isFairUntil sound (fun _ => True) (looked + 1)
  have settled := settled_of_invalidate (run.isFit_start sound)
    (fair.mono (Nat.le_succ_of_le (Nat.le_trans order after))) since drops
  have heard : Heard run.node bpn (some held.did) begun (looked + 1) :=
    ⟨looked, after, Nat.lt_succ_self looked, Or.inr cached⟩
  obtain ⟨seen, newer, _, same⟩ := heard.held_since fair settled (Nat.lt_succ_of_le since) order
  have holds := rotates.held_of_heldDid known same
  rcases Option.map_eq_some_iff.mp commits.2 with ⟨next, after, rfl⟩
  exact absurd (rotates.version_le sound newer after holds) (Int.not_le.mpr less)

/-- A DID that a resolution did not find, and that another one finds in the cache later,
comes into the cache in between. -/
theorem exists_putsIn (sound : LawfulStore.IsSound run.store) {index looked again start time : Nat}
    {did other : String} (finds : Finds run.node (run.IsStepAt index) bpn other looked start time)
    (apart : other ≠ did) (order : looked < again)
    (hit : ((run.node again).lookup bpn).1 = .hit did) :
    ∃ read put, run.PutsIn bpn did read put ∧ looked < put ∧ put < again := by
  have fair := run.isFairUntil sound (fun _ => True) again
  have enabled : (run.node looked).cache.settings.enabled = true := by
    rw [← settings_eq fair (Nat.le_of_lt order)]
    exact Cache.enabled_of_hit hit
  have absent : ¬ Cached (run.node (looked + 1)) bpn (some did) := by
    intro cached
    rw [finds.moved] at cached
    have bound : (run.node looked).cache.shardOf bpn < (run.node looked).cache.shards.size := by
      rw [(isFit (run.isFit_start sound) (fair.mono (Nat.le_of_lt order))).size]
      exact Cache.shardOf_lt _ bpn
    have shown := hit_of_cached_lookup enabled bound cached
    rcases finds.found with found | ⟨⟨ticket, missed⟩, _⟩
    · exact apart (Cache.Lookup.hit.inj (found.symm.trans shown))
    · cases missed.symm.trans shown
  rcases Course.exists_crossing (fun step => Cached (run.node step) bpn (some did)) order absent
    (cached_of_hit hit) with ⟨put, after, before, lacks, present⟩
  rcases mayEnter_of_cached (fair put before)
    (shardOf_eq (fair.mono before) (Nat.le_succ put) bpn) lacks present with
    ⟨read, until_, good, held⟩
  exact ⟨read, put, ⟨held, until_, good, lacks, present⟩, after, before⟩

/-- If a BPN is only rotated, a resolution that begins when another one was answered does
not answer with the DID of an older version, except in one way: each of the rotations in
between is committed by the time of the earlier answer, but the BPN is not invalidated
since then when the later resolution begins; and the old DID, which the store held
before, was put into the cache after the earlier resolution looked there. -/
theorem resolves_older_before_invalidation (run : Run S) (sound : LawfulStore.IsSound run.store)
    {bpn : String} (rotates : run.OnlyRotates bpn) {former latter : Resolution}
    (first : former.IsMade bpn run) (second : latter.IsMade bpn run)
    (apart : (run.traffic former.returned).tasks.length ≤ latter.index)
    (older : latter.held.version < former.held.version) :
    (∀ version, latter.held.version < version → version ≤ former.held.version →
      ∃ committed < former.returned, run.CommitsVersion bpn version committed ∧
        run.IsPending bpn committed latter.index) ∧
    ∃ looked read put, run.IsStepAt former.index .node looked ∧
      run.PutsIn bpn latter.held.did read put ∧ looked < put ∧ put < latter.returned := by
  rcases first.finds with ⟨_, looked, _, finds⟩
  rcases second.finds with ⟨begun, again, present, finds'⟩
  have order : former.returned < begun := Run.lt_of_absent apart present
  rcases finds.held sound rotates first.versioned with ⟨seen, shown, new⟩
  -- The store held the new version already, so the old one was found in the cache.
  have hit : ((run.node again).lookup bpn).1 = .hit latter.held.did := by
    rcases finds'.found with hit | ⟨_, late, after, _, same⟩
    · exact hit
    · have old := rotates.held_of_heldDid second.versioned same
      have early := rotates.lt_of_version_lt sound old new older
      have from_ := finds'.after
      omega
  refine ⟨?_, ?_⟩
  · intro version above upTo
    rcases second.versioned with ⟨earlier, old⟩
    have before := rotates.lt_of_version_lt sound old new older
    rcases rotates.exists_commitsVersion sound (Nat.le_of_lt before) old new above upTo with
      ⟨committed, _, until_, commits⟩
    exact ⟨committed, Nat.lt_trans until_ shown, commits, isPending_of_cached sound rotates commits
      above second.versioned present finds'.after (cached_of_hit hit)⟩
  · have others : former.held.did ≠ latter.held.did := by
      intro same
      have equal := rotates.distinct _ _ first.versioned second.versioned same
      exact absurd (equal ▸ older) (Int.lt_irrefl _)
    have later : looked < again :=
      Nat.lt_of_lt_of_le (Nat.lt_trans finds.before order) finds'.after
    rcases exists_putsIn sound finds others later hit with ⟨read, put, puts, after, before⟩
    exact ⟨looked, read, put, finds.own, puts, after, Nat.lt_trans before finds'.before⟩

/-! ## While a rotation is pending -/

/-- A run in which a resolution has read a DID when its BPN is rotated.  Before the
rotation invalidates the BPN, another resolution answers with the new DID, the first one
puts the old DID into the cache, and a third one begins. -/
def Run.relapse : Run Store.Memory where
  policy := ⟨10, 10, 10, ⟨1, 0, 0⟩⟩
  settings := ⟨true, 4, 1, none⟩
  store := .empty
  now := Store.Request.noon
  moves :=
    .start (.register "BPNL00000000000A" "did:web:first") :: List.replicate 5 (.advance 0) ++
    .start (.resolve "BPNL00000000000A") :: List.replicate 2 (.advance 1) ++
    .start (.rotate "BPNL00000000000A" "did:web:second" 1) :: .advance 2 ::
    .start (.resolve "BPNL00000000000A") :: List.replicate 4 (.advance 3) ++
    List.replicate 2 (.advance 1) ++
    .start (.resolve "BPNL00000000000A") :: .advance 4 :: List.replicate 4 (.advance 2)

/-- The resolutions of the run that come one after the other. -/
def Resolution.before : Resolution := ⟨3, ⟨"did:web:second", 2⟩, 16⟩

def Resolution.after : Resolution := ⟨4, ⟨"did:web:first", 1⟩, 20⟩

theorem Resolution.before_isMade : Resolution.before.IsMade "BPNL00000000000A" Run.relapse :=
  ⟨by decide +kernel, 11, by decide +kernel⟩

theorem Resolution.after_isMade : Resolution.after.IsMade "BPNL00000000000A" Run.relapse :=
  ⟨by decide +kernel, 6, by decide +kernel⟩

theorem Run.relapse_apart :
    (Run.relapse.traffic Resolution.before.returned).tasks.length ≤ Resolution.after.index := by
  decide +kernel

theorem Run.relapse_onlyRotates : Run.relapse.OnlyRotates "BPNL00000000000A" := by
  have helds : ∀ time ≤ Run.relapse.moves.length,
      LawfulStore.held (Run.relapse.node time).store "BPNL00000000000A" ∈
        [none, some ⟨"did:web:first", 1⟩, some ⟨"did:web:second", 2⟩] := by
    decide +kernel
  have known : ∀ each, Run.relapse.HasHeld "BPNL00000000000A" each →
      each = ⟨"did:web:first", 1⟩ ∨ each = ⟨"did:web:second", 2⟩ := by
    intro each held
    rcases held.within with ⟨time, before, same⟩
    have listed := helds time before
    rw [same] at listed
    simpa using listed
  constructor
  · apply Run.stays_of_moves
    decide +kernel
  · intro first second held held' same
    rcases known first held with rfl | rfl <;> rcases known second held' with rfl | rfl <;>
      first | rfl | exact absurd same (by decide)

theorem relapse_before_invalidation :
    Run.relapse.OnlyRotates "BPNL00000000000A" ∧
      Resolution.before.IsMade "BPNL00000000000A" Run.relapse ∧
      Resolution.after.IsMade "BPNL00000000000A" Run.relapse ∧
      (∀ version : Int, 1 < version → version ≤ 2 →
        ∃ committed < 16, Run.relapse.CommitsVersion "BPNL00000000000A" version committed ∧
          Run.relapse.IsPending "BPNL00000000000A" committed 4) ∧
      ∃ looked read put, Run.relapse.IsStepAt 3 .node looked ∧
        Run.relapse.PutsIn "BPNL00000000000A" "did:web:first" read put ∧ looked < put ∧ put < 20 := by
  refine ⟨Run.relapse_onlyRotates, Resolution.before_isMade, Resolution.after_isMade, ?_⟩
  exact resolves_older_before_invalidation Run.relapse Store.Memory.isSound_empty
    Run.relapse_onlyRotates Resolution.before_isMade Resolution.after_isMade Run.relapse_apart
    (by decide)

/-- Without regard to pending rotations a later resolution may answer with an older DID,
though nobody else writes to the store. -/
theorem not_resolves_in_order :
    ¬ ∀ (run : Run Store.Memory) (bpn : String) (former latter : Resolution),
      LawfulStore.IsSound run.store → (∀ request, .foreign request ∉ run.moves) →
      run.OnlyRotates bpn → former.IsMade bpn run → latter.IsMade bpn run →
      (run.traffic former.returned).tasks.length ≤ latter.index →
      former.held.version ≤ latter.held.version := by
  intro always
  have alone : ∀ request, Move.foreign request ∉ Run.relapse.moves := by
    intro request
    simp [Run.relapse]
  have ordered := always Run.relapse "BPNL00000000000A" .before .after Store.Memory.isSound_empty
    alone Run.relapse_onlyRotates Resolution.before_isMade Resolution.after_isMade
    Run.relapse_apart
  exact absurd ordered (by decide)

end Resolver
end BpnDirectory
