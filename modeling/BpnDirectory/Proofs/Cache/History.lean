import BpnDirectory.Proofs.Cache.Acts

namespace BpnDirectory
namespace Cache

/-!
Histories of a cache.

A history is the list of everything that was done with a cache since it was new.  The
entries of a shard stand in the order in which their keys were last touched, so the last
one is the entry whose latest touch is longest ago.
-/

/-- Everything that is done with a cache from its first use on. -/
structure History where
  settings : Settings
  acts : List Act

namespace History

/-- The cache at a time, which is a number of acts. -/
def cache (history : History) (time : Nat) : Cache :=
  (history.acts.take time).foldl perform (.new history.settings)

theorem cache_succ (history : History) (time : Nat) :
    history.cache (time + 1) =
      match history.acts[time]? with
      | some act => (history.cache time).perform act
      | none => history.cache time := by
  unfold cache
  rw [List.take_add_one, List.foldl_append]
  cases history.acts[time]? <;> rfl

variable {history : History} {time : Nat} {act : Act} {key : String}

theorem cache_of_act (done : history.acts[time]? = some act) :
    history.cache (time + 1) = (history.cache time).perform act := by
  rw [cache_succ, done]

theorem cache_of_idle (idle : history.acts[time]? = none) :
    history.cache (time + 1) = history.cache time := by
  rw [cache_succ, idle]

/-- What a new cache is and every act keeps holds at all times. -/
theorem always (Holds : Cache → Prop) (first : Holds (.new history.settings))
    (keeps : ∀ cache act, Holds cache → Holds (cache.perform act)) (time : Nat) :
    Holds (history.cache time) := by
  induction time with
  | zero => exact first
  | succ time ih =>
      cases done : history.acts[time]? with
      | none => exact cache_of_idle done ▸ ih
      | some act => exact cache_of_act done ▸ keeps _ act ih

theorem isTidy (history : History) (time : Nat) : (history.cache time).IsTidy :=
  always IsTidy (isTidy_new history.settings) (fun _ act tidy => tidy.perform act) time

@[simp] theorem settings_cache (history : History) (time : Nat) :
    (history.cache time).settings = history.settings :=
  always (fun cache => cache.settings = history.settings) rfl
    (fun cache act same => (settings_perform cache act).trans same) time

/-- The shard of a key, which is the same at all times. -/
def shardOf (history : History) (key : String) : Nat :=
  (Cache.new history.settings).shardOf key

@[simp] theorem shardOf_cache (history : History) (time : Nat) (key : String) :
    (history.cache time).shardOf key = history.shardOf key := by
  rw [Cache.shardOf, settings_cache]
  rfl

/-- Whether a look-up of a key hands out a ticket at a time. -/
def Issues (history : History) (time : Nat) (key : String) (ticket : Ticket) : Prop :=
  ∃ now, history.acts[time]? = some (.lookup now key) ∧
    ((history.cache time).lookup now key).1 = .miss ticket

/-! ## Touches -/

/-- The key that is touched at a time, if there is one. -/
def touched? (history : History) (time : Nat) : Option String :=
  history.acts[time]?.bind (history.cache time).touched?

/-- The time right after the latest touch of a key before a time, or zero if the key was not
touched before. -/
def lastTouch (history : History) (key : String) : Nat → Nat
  | 0 => 0
  | time + 1 => if history.touched? time = some key then time + 1 else history.lastTouch key time

theorem lastTouch_of_touched (touched : history.touched? time = some key) :
    history.lastTouch key (time + 1) = time + 1 := by
  rw [lastTouch, if_pos touched]

theorem lastTouch_of_not_touched (other : history.touched? time ≠ some key) :
    history.lastTouch key (time + 1) = history.lastTouch key time := by
  rw [lastTouch, if_neg other]

theorem lastTouch_le (history : History) (key : String) (time : Nat) :
    history.lastTouch key time ≤ time := by
  induction time with
  | zero => exact Nat.le_refl 0
  | succ time ih =>
      rw [lastTouch]
      split
      · exact Nat.le_refl _
      · exact Nat.le_succ_of_le ih

/-- In one time step the entry of the touched key comes to the front of its shard. -/
theorem reorders (history : History) (time index : Nat) :
    (history.cache time).Reorders (history.touched? time) (history.cache (time + 1)) index := by
  have tidy := history.isTidy time
  cases done : history.acts[time]? with
  | none =>
      rw [cache_of_idle done, touched?, done]
      exact tidy.reorders_of_sublist (.refl _)
  | some act =>
      rw [cache_of_act done, touched?, done]
      exact tidy.reorders_perform act index

/-- The entries of a shard stand in the order in which their keys were last touched. -/
theorem recent (history : History) (time index : Nat) :
    ((history.cache time).shard index).entries.Pairwise fun first second =>
      history.lastTouch second.key time < history.lastTouch first.key time := by
  induction time with
  | zero =>
      change ((Cache.new history.settings).shard index).entries.Pairwise _
      rw [shard_new]
      exact .nil
  | succ time ih =>
      -- Entries that keep their place were not touched, and all touches before were earlier.
      have stays : ∀ {rest : List Entry},
          rest.Sublist ((history.cache time).shard index).entries →
          (∀ entry ∈ rest, history.touched? time ≠ some entry.key) →
          rest.Pairwise fun first second =>
            history.lastTouch second.key (time + 1) < history.lastTouch first.key (time + 1) := by
        intro rest sublist untouched
        refine (ih.sublist sublist).imp_of_mem ?_
        intro first second memberFirst memberSecond earlier
        rw [lastTouch_of_not_touched (untouched first memberFirst),
          lastTouch_of_not_touched (untouched second memberSecond)]
        exact earlier
      rcases (history.reorders time index).order with
        ⟨key, touched, _, entry, rest, whole, rfl, sublist, apart⟩ | ⟨elsewhere, sublist⟩
      · have untouched : ∀ other ∈ rest, history.touched? time ≠ some other.key := by
          intro other member same
          exact apart other member (Option.some.inj (same.symm.trans touched))
        rw [whole]
        refine List.pairwise_cons.mpr ⟨?_, stays sublist untouched⟩
        intro other member
        rw [lastTouch_of_touched touched, lastTouch_of_not_touched (untouched other member)]
        exact Nat.lt_succ_of_le (history.lastTouch_le other.key time)
      · refine stays sublist ?_
        intro entry member touched
        refine elsewhere entry.key touched ?_
        exact (history.isTidy time).placed index entry (sublist.subset member)

/-- The last entry of a shard is the one whose key was not touched for longest. -/
theorem getLast?_eq_some_iff (history : History) (time index : Nat) (entry : Entry) :
    ((history.cache time).shard index).entries.getLast? = some entry ↔
      entry ∈ ((history.cache time).shard index).entries ∧
        ∀ other ∈ ((history.cache time).shard index).entries, other ≠ entry →
          history.lastTouch entry.key time < history.lastTouch other.key time := by
  have recent := history.recent time index
  have last : ∀ {entry}, ((history.cache time).shard index).entries.getLast? = some entry →
      entry ∈ ((history.cache time).shard index).entries ∧
        ∀ other ∈ ((history.cache time).shard index).entries, other ≠ entry →
          history.lastTouch entry.key time < history.lastTouch other.key time := by
    intro entry last
    rcases List.getLast?_eq_some_iff.mp last with ⟨others, whole⟩
    rw [whole] at recent ⊢
    refine ⟨List.mem_append_right _ List.mem_cons_self, ?_⟩
    intro other member different
    rcases List.mem_append.mp member with earlier | same
    · exact (List.pairwise_append.mp recent).2.2 other earlier entry List.mem_cons_self
    · exact absurd (List.mem_singleton.mp same) different
  refine ⟨last, ?_⟩
  rintro ⟨member, oldest⟩
  cases found : ((history.cache time).shard index).entries.getLast? with
  | none => exact absurd member (List.getLast?_eq_none_iff.mp found ▸ List.not_mem_nil)
  | some other =>
      by_cases same : other = entry
      · rw [same]
      · have ⟨listed, older⟩ := last found
        exact absurd (oldest other listed same)
          (Nat.not_lt_of_lt (older entry member (Ne.symm same)))

end History
end Cache
end BpnDirectory
