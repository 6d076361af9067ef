import BpnDirectory.Proofs.Cache.Kept

namespace BpnDirectory
namespace Cache

/-!
What a look-up finds, and which values are taken.

A look-up finds the value that came in last for its key, as long as that is kept and not too
old; being found makes a value neither younger nor older.  A value is taken with a ticket that
was handed out by the shard of its key, unless the shard was poisoned or had something
invalidated since.
-/

/-- Whether a value that came in at one clock reading is still served at another. -/
def Settings.Serves (settings : Settings) (insertedAt now : Nat) : Prop :=
  ∀ ttl, settings.ttl = some ttl → now - insertedAt < ttl

/-- Whether an act makes every entry go. -/
def Act.Clears (act : Act) : Prop := act = .invalidateAll ∨ act = .close

/-- Whether an act makes the tickets of the shard of a key void. -/
def Voids (cache : Cache) (key : String) : Act → Prop
  | .invalidate other =>
      cache.shardOf other = cache.shardOf key ∧ (cache.shard (cache.shardOf other)).poisoned = false
  | .invalidateAll | .close => True
  | _ => False

variable {cache : Cache} {now : Nat} {key did : String} {ticket : Ticket} {act : Act} {entry : Entry}

theorem isExpired_eq_false_iff :
    cache.isExpired now entry = false ↔ cache.settings.Serves entry.insertedAt now := by
  unfold isExpired Settings.Serves
  cases cache.settings.ttl <;> simp

/-- A look-up finds what an open shard keeps for the key and still serves. -/
theorem IsTidy.lookup_eq_hit_iff (tidy : cache.IsTidy) : (cache.lookup now key).1 = .hit did ↔
    cache.IsOpen key ∧
      ∃ insertedAt, cache.Holds ⟨key, did, insertedAt⟩ ∧ cache.settings.Serves insertedAt now := by
  have finds : ∀ insertedAt, cache.Holds ⟨key, did, insertedAt⟩ →
      (cache.shard (cache.shardOf key)).find? key = some ⟨key, did, insertedAt⟩ :=
    fun _ holds => (Shard.find?_eq_some_iff (tidy.shards _).distinct).mpr ⟨holds, rfl⟩
  have looks := cache.looks now key
  constructor
  · intro hit
    rw [hit] at looks
    cases looks with
    | closed _ missed | absent _ _ missed | expired _ _ _ missed => cases missed
    | @fresh held opened found fresh same _ =>
        have ⟨member, named⟩ := Shard.mem_of_find? found
        cases Lookup.hit.inj same
        subst named
        exact ⟨opened, held.insertedAt, member, isExpired_eq_false_iff.mp fresh⟩
  · rintro ⟨opened, insertedAt, holds, serves⟩
    have found := finds insertedAt holds
    have fresh : cache.isExpired now ⟨key, did, insertedAt⟩ = false :=
      isExpired_eq_false_iff.mpr serves
    cases looks with
    | closed shut => exact absurd opened shut
    | absent _ absent => cases absent.symm.trans found
    | expired _ held old =>
        cases Option.some.inj (held.symm.trans found)
        cases fresh.symm.trans old
    | fresh _ held _ hit =>
        cases Option.some.inj (held.symm.trans found)
        exact hit

/-- A miss hands out a ticket of the shard of the key, with the present generation if the shard
is open and with none otherwise. -/
theorem ticket_of_lookup (miss : (cache.lookup now key).1 = .miss ticket) :
    ticket.shard = cache.shardOf key ∧ ∀ generation, ticket.generation = some generation ↔
      cache.IsOpen key ∧ (cache.shard (cache.shardOf key)).generation = generation := by
  have looks := cache.looks now key
  rw [miss] at looks
  cases looks with
  | closed shut same =>
      cases Lookup.miss.inj same
      exact ⟨rfl, fun generation => iff_of_false nofun fun named => shut named.1⟩
  | absent opened _ same | expired opened _ _ same =>
      cases Lookup.miss.inj same
      exact ⟨rfl, fun generation => by simp [opened]⟩
  | fresh _ _ _ hit => cases hit

theorem IsTidy.shard_of_clears (tidy : cache.IsTidy) (clears : act.Clears) :
    (cache.perform act).shard (cache.shardOf key) = (cache.shard (cache.shardOf key)).clear := by
  have cleared : cache.invalidateAll.shard (cache.shardOf key) =
      (cache.shard (cache.shardOf key)).clear := by
    rw [shard_invalidateAll, if_pos (tidy.shardOf_lt key)]
  rcases clears with rfl | rfl <;> exact cleared

/-- A shard is poisoned after an act if the act was a crash in it, or if it was before and the act
was no clearing.  It gets a new generation with the acts that make its tickets void. -/
theorem IsTidy.marks_perform (tidy : cache.IsTidy) (key : String) (act : Act) :
    (((cache.perform act).shard (cache.shardOf key)).poisoned = true ↔
      (∃ other, act = .crash other ∧ cache.shardOf other = cache.shardOf key) ∨
        (cache.shard (cache.shardOf key)).poisoned = true ∧ ¬ act.Clears) ∧
    (cache.Voids key act → ((cache.perform act).shard (cache.shardOf key)).generation =
      (cache.shard (cache.shardOf key)).generation + 1) ∧
    (¬ cache.Voids key act → ((cache.perform act).shard (cache.shardOf key)).generation =
      (cache.shard (cache.shardOf key)).generation) := by
  cases act with
  | lookup now other => simp [Cache.perform, Act.Clears, Voids, tidy.marks_lookup]
  | populate now other did ticket =>
      simp [Cache.perform, Act.Clears, Voids, tidy.marks_populate]
  | invalidate other =>
      cases poisoned : (cache.shard (cache.shardOf other)).poisoned with
      | true => simp [Cache.perform, Act.Clears, Voids, poisoned, invalidate_of_poisoned poisoned]
      | false =>
          rw [Cache.perform, tidy.shard_of_replaced (shards_invalidate poisoned)]
          split
          case isTrue same =>
            simp [← same, Act.Clears, Voids, poisoned, Shard.invalidate, Shard.drop]
          case isFalse different => simp [different, Act.Clears, Voids]
  | invalidateAll | close =>
      rw [tidy.shard_of_clears (by simp [Act.Clears])]
      simp [Act.Clears, Voids, Shard.clear]
  | crash other =>
      rw [Cache.perform, tidy.shard_of_replaced shards_poison]
      split
      case isTrue same => simp [same, Voids]
      case isFalse different => simp [different, Act.Clears, Voids]

namespace History

variable {history : History} {time issued put : Nat} {other : String}

/-- Something that is so after a time step if it came about in the step, or was so before and did
not come to an end, is so exactly if it came about at some time and did not come to an end since. -/
theorem since_iff (Now Comes Ends : Nat → Prop) (first : ¬ Now 0)
    (step : ∀ time, Now (time + 1) ↔ Comes time ∨ Now time ∧ ¬ Ends time) (time : Nat) :
    Now time ↔
      ∃ start < time, Comes start ∧ ∀ later, start < later → later < time → ¬ Ends later := by
  induction time with
  | zero => exact iff_of_false first fun ⟨_, before, _⟩ => Nat.not_lt_zero _ before
  | succ time ih =>
      rw [step, ih]
      constructor
      · rintro (comes | ⟨⟨start, before, comes, lasts⟩, goesOn⟩)
        · exact ⟨time, Nat.lt_succ_self time, comes, fun later after before =>
            absurd after (Nat.not_lt.mpr (Nat.le_of_lt_succ before))⟩
        · refine ⟨start, Nat.lt_succ_of_lt before, comes, fun later after stop => ?_⟩
          rcases Nat.lt_succ_iff_lt_or_eq.mp stop with earlier | rfl
          · exact lasts later after earlier
          · exact goesOn
      · rintro ⟨start, before, comes, lasts⟩
        rcases Nat.lt_succ_iff_lt_or_eq.mp before with earlier | rfl
        · refine Or.inr ⟨⟨start, earlier, comes, fun later after stop => ?_⟩, ?_⟩
          · exact lasts later after (Nat.lt_succ_of_lt stop)
          · exact lasts time earlier (Nat.lt_succ_self time)
        · exact Or.inl comes

/-! ## Poisoned shards and void tickets -/

/-- Whether the shard of a key is poisoned by what was done: a task crashed in it, and nothing was
cleared since. -/
def IsPoisoned (history : History) (time : Nat) (key : String) : Prop :=
  ∃ crash < time, (∃ other, history.acts[crash]? = some (.crash other) ∧
      history.shardOf other = history.shardOf key) ∧
    ∀ later, crash < later → later < time → ∀ act, history.acts[later]? = some act → ¬ act.Clears

theorem poisoned_iff :
    ((history.cache time).shard (history.shardOf key)).poisoned = true ↔
      history.IsPoisoned time key := by
  refine (since_iff
    (fun time => ((history.cache time).shard (history.shardOf key)).poisoned = true)
    (fun time => ∃ other, history.acts[time]? = some (.crash other) ∧
      history.shardOf other = history.shardOf key)
    (fun time => ∃ act, history.acts[time]? = some act ∧ act.Clears) ?_ ?_ time).trans ?_
  · change ¬ ((Cache.new history.settings).shard _).poisoned = true
    rw [shard_new]
    exact nofun
  · intro time
    cases done : history.acts[time]? with
    | none => simp [cache_of_idle done]
    | some act =>
        have step := ((history.isTidy time).marks_perform key act).1
        rw [shardOf_cache] at step
        simpa [cache_of_act done] using step
  · simp [IsPoisoned]

/-- Whether the tickets of the shard of a key become void at a time: a key of the shard is
invalidated, or everything is. -/
def Voids (history : History) (time : Nat) (key : String) : Prop :=
  ∃ act, history.acts[time]? = some act ∧ (history.cache time).Voids key act

theorem generation_succ (history : History) (time : Nat) (key : String) :
    (history.Voids time key →
      ((history.cache (time + 1)).shard (history.shardOf key)).generation =
        ((history.cache time).shard (history.shardOf key)).generation + 1) ∧
    (¬ history.Voids time key →
      ((history.cache (time + 1)).shard (history.shardOf key)).generation =
        ((history.cache time).shard (history.shardOf key)).generation) := by
  cases done : history.acts[time]? with
  | none => simp [Voids, done, cache_of_idle done]
  | some act =>
      have step := ((history.isTidy time).marks_perform key act).2
      rw [shardOf_cache] at step
      simpa [Voids, done, cache_of_act done] using step

/-- A shard has the generation that it had before exactly if no ticket of it became void. -/
theorem generation_eq_iff (earlier : issued ≤ time) :
    ((history.cache time).shard (history.shardOf key)).generation =
        ((history.cache issued).shard (history.shardOf key)).generation ↔
      ∀ later, issued ≤ later → later < time → ¬ history.Voids later key := by
  have grown : ∀ {stop}, issued ≤ stop →
      ((history.cache issued).shard (history.shardOf key)).generation ≤
        ((history.cache stop).shard (history.shardOf key)).generation := by
    intro stop since
    induction since with
    | refl => exact Nat.le_refl _
    | @step stop _ ih =>
        have ⟨renewed, same⟩ := history.generation_succ stop key
        by_cases voids : history.Voids stop key
        · exact renewed voids ▸ Nat.le_succ_of_le ih
        · exact same voids ▸ ih
  induction earlier with
  | refl => exact iff_of_true rfl fun later since before => absurd before (Nat.not_lt.mpr since)
  | @step time since ih =>
      have ⟨renewed, same⟩ := history.generation_succ time key
      by_cases voids : history.Voids time key
      · refine iff_of_false ?_ fun lasts => lasts time since (Nat.lt_succ_self time) voids
        rw [renewed voids]
        exact Nat.ne_of_gt (Nat.lt_succ_of_le (grown since))
      · rw [same voids]
        refine Iff.trans ih (forall₂_congr fun later after => ?_)
        rw [Nat.lt_succ_iff_lt_or_eq, or_imp]
        refine (and_iff_left ?_).symm
        rintro rfl
        exact voids

/-! ## Values that are kept -/

/-- Whether an entry that came in at a time is kept until another one: since then no other value
came in for its key, it was neither invalidated nor cleared nor found too old, and it was not
driven out. -/
structure Keeps (history : History) (put : Nat) (entry : Entry) (time : Nat) : Prop where
  before : put < time
  taken : history.Takes put entry
  stays : ∀ later, put < later → later < time →
    (∀ act, history.acts[later]? = some act → ¬ (history.cache later).Drops entry act) ∧
      ¬ history.Evicts later entry

/-- A cache holds exactly what came in and was kept since. -/
theorem holds_iff : (history.cache time).Holds entry ↔ ∃ put, history.Keeps put entry time := by
  refine (since_iff (fun time => (history.cache time).Holds entry) (history.Takes · entry)
    (fun time => (∃ act, history.acts[time]? = some act ∧ (history.cache time).Drops entry act) ∨
      history.Evicts time entry) ?_ ?_ time).trans ?_
  · change ¬ entry ∈ ((Cache.new history.settings).shard _).entries
    rw [shard_new]
    exact List.not_mem_nil
  · intro time
    rw [holds_succ]
    simp
  · refine exists_congr fun put => ?_
    constructor
    · rintro ⟨before, taken, stays⟩
      exact ⟨before, taken, by simpa using stays⟩
    · rintro ⟨before, taken, stays⟩
      exact ⟨before, taken, by simpa using stays⟩

/-- What a look-up finds and what is taken, by what was done before. -/
theorem hit_iff_and_taken_iff (history : History) (time now : Nat) (key did : String) :
    (((history.cache time).lookup now key).1 = .hit did ↔
      history.settings.enabled = true ∧ ¬ history.IsPoisoned time key ∧
        ∃ put insertedAt, history.Keeps put ⟨key, did, insertedAt⟩ time ∧
          history.settings.Serves insertedAt now) ∧
    ∀ issued other ticket, issued < time → history.Issues issued other ticket →
      (((history.cache time).populate now key did ticket).1 = true ↔
        history.settings.enabled = true ∧ history.shardOf other = history.shardOf key ∧
          ¬ history.IsPoisoned issued key ∧ ¬ history.IsPoisoned time key ∧
          ∀ later, issued < later → later < time → ¬ history.Voids later key) := by
  have tidy := history.isTidy time
  refine ⟨?_, ?_⟩
  · rw [tidy.lookup_eq_hit_iff, settings_cache, IsOpen, settings_cache, shardOf_cache,
      ← Bool.not_eq_true, poisoned_iff, and_assoc]
    refine and_congr_right fun _ => and_congr_right fun _ => ?_
    simp only [holds_iff, ← exists_and_right]
    exact exists_comm
  · rintro issued other ticket earlier ⟨asked, done, missed⟩
    have ⟨beside, generation⟩ := ticket_of_lookup missed
    rw [shardOf_cache] at beside
    rw [populate_fst, permits_iff, shardOf_cache, beside, generation]
    refine (and_congr_right fun same => ?_).trans and_left_comm
    -- The look-up itself makes no ticket void.
    have unbroken : ((history.cache issued).shard (history.shardOf key)).generation =
          ((history.cache time).shard (history.shardOf key)).generation ↔
        ∀ later, issued < later → later < time → ¬ history.Voids later key := by
      rw [eq_comm, generation_eq_iff (Nat.le_of_lt earlier)]
      refine forall_congr' fun later => ⟨fun lasts after => lasts (Nat.le_of_lt after), ?_⟩
      intro lasts since before
      rcases Nat.eq_or_lt_of_le since with rfl | after
      · rintro ⟨act, same, voids⟩
        cases Option.some.inj (done.symm.trans same)
        exact voids
      · exact lasts after before
    rw [IsOpen, settings_cache, shardOf_cache, same, unbroken, ← Bool.not_eq_true,
      ← Bool.not_eq_true, poisoned_iff, poisoned_iff, and_left_comm, and_assoc]

/-- A cache for one entry, in which the ticket of one key is used for another one as well. -/
def sharedTicket : History where
  settings := ⟨true, 1, 1, some 10⟩
  acts := [.lookup 0 "first", .populate 1 "first" "early" ⟨0, some 0⟩,
    .populate 2 "second" "late" ⟨0, some 0⟩]

theorem sharedTicket_issues : sharedTicket.Issues 0 "first" ⟨0, some 0⟩ :=
  ⟨0, rfl, by decide +kernel⟩

theorem sharedTicket_hit_and_taken :
    0 < 3 ∧ sharedTicket.Issues 0 "first" ⟨0, some 0⟩ ∧
      (∃ put insertedAt, sharedTicket.Keeps put ⟨"second", "late", insertedAt⟩ 3 ∧
        sharedTicket.settings.Serves insertedAt 11) ∧
      ¬ sharedTicket.IsPoisoned 0 "second" ∧
      ∀ later, 0 < later → later < 3 → ¬ sharedTicket.Voids later "second" := by
  have ⟨found, taken⟩ := hit_iff_and_taken_iff sharedTicket 3 11 "second" "late"
  have hit : ((sharedTicket.cache 3).lookup 11 "second").1 = .hit "late" := by decide +kernel
  have again : ((sharedTicket.cache 3).populate 11 "second" "late" ⟨0, some 0⟩).1 = true := by
    decide +kernel
  have ⟨_, _, usable, _, lasts⟩ :=
    (taken 0 "first" ⟨0, some 0⟩ (by decide) sharedTicket_issues).mp again
  exact ⟨by decide, sharedTicket_issues, (found.mp hit).2.2, usable, lasts⟩

end History
end Cache
end BpnDirectory
