import BpnDirectory.Proofs.Resolver.Steps

namespace BpnDirectory
namespace Resolver

/-!
Resolution among other calls.

An answer comes from an entry of a usable shard or from the store, and in either
case it was there at some time after the resolution had begun.  What the store
answered may be put in with the ticket of the miss, since a ticket is good only for
as long as its shard is not invalidated.
-/

open Cache (Ticket)
open Program (Upholds)
open Store (LawfulStore MappingStore)

variable {S : Type}

/-- Whether a usable shard has an entry that says something about a BPN. -/
def Cached (node : Node S) (bpn : String) (said : Option String) : Prop :=
  let shard := node.cache.shard (node.cache.shardOf bpn)
  shard.poisoned = false ∧ ∃ entry ∈ shard.entries, entry.key = bpn ∧ some entry.did = said

/-- Whether a ticket is one that a look-up of a BPN hands out at a time. -/
def IsGranted (node : Node S) (bpn : String) (ticket : Ticket) : Prop :=
  ticket.shard = node.cache.shardOf bpn ∧
    ∀ generation, ticket.generation = some generation → generation = node.generation ticket.shard

theorem cached_of_hit {node : Node S} {bpn did : String}
    (hit : (node.lookup bpn).1 = .hit did) : Cached node bpn (some did) := by
  rcases Cache.entry_of_hit hit with ⟨usable, entry, member, named, same⟩
  exact ⟨usable, entry, member, named, congrArg some same⟩

theorem isGranted_of_miss {node : Node S} {bpn : String} {ticket : Ticket}
    (miss : (node.lookup bpn).1 = .miss ticket) : IsGranted node bpn ticket := by
  rcases Cache.ticket_of_miss miss with ⟨named, level⟩
  refine ⟨named, ?_⟩
  intro generation same
  rw [named]
  exact level generation same

variable [MappingStore S] [LawfulStore S] {state : Nat → Node S} {IsOwn : Nat → Prop}
  {time later : Nat}

/-- Whether what is said about a BPN was held by the store or found in the cache
between two times. -/
def Heard (state : Nat → Node S) (bpn : String) (said : Option String) (time later : Nat) : Prop :=
  ∃ seen, time ≤ seen ∧ seen < later ∧
    ((state seen).heldDid bpn = said ∨ Cached (state seen) bpn said)

theorem Heard.mono {bpn : String} {said : Option String} {earlier latest : Nat}
    (heard : Heard state bpn said time later) (before : earlier ≤ time) (after : later ≤ latest) :
    Heard state bpn said earlier latest := by
  rcases heard with ⟨seen, from_, until_, source⟩
  exact ⟨seen, Nat.le_trans before from_, Nat.lt_of_lt_of_le until_ after, source⟩

/-- A DID that was read after a miss may be put in with the ticket of the miss: if
the ticket is still good, its shard was not invalidated in between. -/
theorem fair_populate {bpn did : String} {ticket : Ticket} {looked seen step : Nat}
    (past : (course state IsOwn).IsFairUntil step) (granted : IsGranted (state looked) bpn ticket)
    (after : looked ≤ seen) (before : seen ≤ step) (shown : (state seen).heldDid bpn = some did)
    (same : state (step + 1) = (state step).populate bpn did ticket) :
    (course state IsOwn).IsFair step := by
  have evolves : Node.Evolves (MayEnter state step) (state step)
      ((state step).populate bpn did ticket) := by
    refine ⟨Cache.populate_evolves ?_, Or.inl rfl⟩
    intro permitted
    rcases Cache.permits_iff.mp permitted with ⟨_, _, good⟩
    -- Generations only grow, so the one of the ticket was in force all the time.
    have level := granted.2 _ good
    have first := generation_le (past.mono before) after ticket.shard
    have second := generation_le past before ticket.shard
    refine ⟨seen, before, ?_, shown⟩
    change (state step).generation ticket.shard = _ at level
    omega
  change Node.Evolves _ _ (state (step + 1))
  rw [same]
  exact evolves

/-- What the outcome of a resolution says about its BPN, if it is an answer. -/
def saidBy : Except Failure String → Option (Option String)
  | .ok did => some (some did)
  | .error (.notFound _) => some none
  | .error _ => none

theorem saidBy_requireBpn {bpn : String} {failure : Failure}
    (refused : requireBpn bpn = .error failure) : saidBy (.error failure) = none := by
  unfold requireBpn at refused
  cases checked : Bpn.check bpn <;> rw [checked] at refused <;> cases refused
  rfl

theorem upholds_lookup {bpn : String} :
    Upholds (course state IsOwn) (Operation.act (Node.lookup bpn)).run
      (fun outcome later => ∃ looked, time ≤ looked ∧ looked < later ∧
        outcome = .ok ((state looked).lookup bpn).1) time := by
  apply Operation.upholds_act
  intro step from_ _ _ same
  exact ⟨fair_of_plain same (plain_lookup bpn _), step, from_, Nat.lt_succ_self step, rfl⟩

/-- What a resolution answers was held by the store or found in the cache since it
began. -/
theorem upholds_resolve (policy : Policy) (bpn : String) (fit : (state 0).IsFit)
    (fair : (course state IsOwn).IsFairUntil time) :
    Upholds (course state IsOwn) (resolve policy bpn).run
      (fun outcome later => ∀ said, saidBy outcome = some said → Heard state bpn said time later)
      time := by
  refine Operation.upholds_check (fun _ _ => ?_) ?_
  · refine Operation.upholds_bind fair upholds_lookup ?_ ?_
    · rintro found later _ past ⟨looked, from_, until_, same⟩
      cases Except.ok.inj same
      cases outcome : ((state looked).lookup bpn).1 with
      | hit did =>
          intro said same
          cases same
          exact ⟨looked, from_, until_, Or.inr (cached_of_hit outcome)⟩
      | miss ticket =>
          have granted := isGranted_of_miss outcome
          -- The ticket is of the look-up, the answer of a later reading.
          refine Operation.upholds_bind past
            (upholds_request (fun _ _ => ⟨.get bpn, rfl⟩) policy "get" past) ?_ ?_
          · rintro record latest after lately ⟨seen, since, before, _, called⟩
            have shown : (state seen).heldDid bpn = some record.did := by
              unfold Node.heldDid
              rw [LawfulStore.get_found (congrArg Prod.fst called)]
              rfl
            have order : looked ≤ seen := Nat.le_trans (Nat.le_of_lt until_) since
            intro step reached _ past same
            refine ⟨fair_populate past granted order
              (Nat.le_trans (Nat.le_of_lt before) reached) shown same, ?_⟩
            intro said answer
            cases answer
            exact ⟨seen, Nat.le_trans from_ order,
              Nat.lt_of_lt_of_le before (Nat.le_succ_of_le reached), Or.inl shown⟩
          · rintro failure latest _ lately ⟨seen, since, before, _, called⟩ said answer
            have order : looked ≤ seen := Nat.le_trans (Nat.le_of_lt until_) since
            cases failure <;> cases answer
            have sound := (isFit fit (lately.mono (Nat.le_of_lt before))).sound
            refine ⟨seen, Nat.le_trans from_ order, before, Or.inl ?_⟩
            unfold Node.heldDid
            rw [LawfulStore.get_missing sound (congrArg Prod.fst called)]
            rfl
    · rintro failure later _ _ ⟨_, _, _, absurdity⟩
      cases absurdity
  · intro failure refused said answer
    rw [saidBy_requireBpn refused] at answer
    cases answer

/-! ## Resolution of batches -/

/-- What the outcome of a batch for one key says about it, if it is an answer. -/
def BatchOutcome.said? : BatchOutcome → Option (Option String)
  | .found did => some (some did)
  | .notFound => some none
  | .invalidInput _ => none

/-- Whether everything that outcomes say was heard between two times. -/
def Tells (state : Nat → Node S) (outcomes : OrderedMap BatchOutcome) (time later : Nat) : Prop :=
  ∀ bpn outcome said, outcomes.find? bpn = some outcome → outcome.said? = some said →
    Heard state bpn said time later

theorem Tells.mono {outcomes : OrderedMap BatchOutcome} {latest : Nat}
    (tells : Tells state outcomes time later) (after : later ≤ latest) :
    Tells state outcomes time latest :=
  fun bpn outcome said found meant =>
    (tells bpn outcome said found meant).mono (Nat.le_refl time) after

theorem Tells.insert {outcomes : OrderedMap BatchOutcome} {bpn : String} {outcome : BatchOutcome}
    (tells : Tells state outcomes time later)
    (heard : ∀ said, outcome.said? = some said → Heard state bpn said time later) :
    Tells state (outcomes.insert bpn outcome) time later := by
  intro key other said found meant
  rw [OrderedMap.find?_insert] at found
  by_cases same : bpn = key
  · rw [if_pos same] at found
    cases found
    exact same ▸ heard said meant
  · rw [if_neg same] at found
    exact tells key other said found meant

/-- Whether a miss has a ticket that was handed out between two times. -/
def WasGranted (state : Nat → Node S) (miss : String × Ticket) (time later : Nat) : Prop :=
  ∃ looked, time ≤ looked ∧ looked < later ∧ IsGranted (state looked) miss.1 miss.2

/-- Whether the look-ups of a batch are what was seen between two times. -/
structure Lookups.AreTrue (lookups : Lookups) (state : Nat → Node S) (time later : Nat) :
    Prop where
  told : Tells state lookups.outcomes time later
  granted : ∀ miss ∈ lookups.misses, WasGranted state miss time later

theorem Lookups.AreTrue.mono {lookups : Lookups} {latest : Nat}
    (areTrue : lookups.AreTrue state time later) (after : later ≤ latest) :
    lookups.AreTrue state time latest where
  told := areTrue.told.mono after
  granted := by
    intro miss member
    rcases areTrue.granted miss member with ⟨looked, from_, until_, granted⟩
    exact ⟨looked, from_, Nat.lt_of_lt_of_le until_ after, granted⟩

theorem upholds_lookupKey {lookups : Lookups} {bpn : String} {begun : Nat} (since : begun ≤ time)
    (fair : (course state IsOwn).IsFairUntil time) (areTrue : lookups.AreTrue state begun time) :
    Upholds (course state IsOwn) (lookupKey lookups bpn).run
      (fun outcome later => ∃ more : Lookups, outcome = .ok more ∧ more.AreTrue state begun later)
      time := by
  unfold lookupKey
  cases checked : requireBpn bpn with
  | error failure =>
      refine ⟨_, rfl, ?_, areTrue.granted⟩
      exact areTrue.told.insert fun _ meant => by cases meant
  | ok _ =>
      refine Operation.upholds_bind fair upholds_lookup ?_ ?_
      · rintro found later after _ ⟨looked, from_, until_, same⟩
        cases Except.ok.inj same
        have known := areTrue.mono after
        have reached := Nat.le_trans since from_
        cases outcome : ((state looked).lookup bpn).1 with
        | hit did =>
            refine ⟨_, rfl, ?_, known.granted⟩
            refine known.told.insert ?_
            intro said meant
            cases meant
            exact ⟨looked, reached, until_, Or.inr (cached_of_hit outcome)⟩
        | miss ticket =>
            refine ⟨_, rfl, known.told, ?_⟩
            intro miss member
            rcases List.mem_append.mp member with old | added
            · exact known.granted miss old
            · cases List.mem_singleton.mp added
              exact ⟨looked, reached, until_, isGranted_of_miss outcome⟩
      · rintro failure later _ _ ⟨_, _, _, absurdity⟩
        cases absurdity

theorem upholds_lookupKeys {lookups : Lookups} {bpns : List String} {begun : Nat}
    (since : begun ≤ time) (fair : (course state IsOwn).IsFairUntil time)
    (areTrue : lookups.AreTrue state begun time) :
    Upholds (course state IsOwn) (lookupKeys lookups bpns).run
      (fun outcome later => ∃ more : Lookups, outcome = .ok more ∧ more.AreTrue state begun later)
      time := by
  induction bpns generalizing lookups time with
  | nil => exact ⟨lookups, rfl, areTrue⟩
  | cons bpn rest ih =>
      refine Operation.upholds_bind fair (upholds_lookupKey since fair areTrue) ?_ ?_
      · rintro more later after past ⟨_, same, known⟩
        cases same
        exact ih (Nat.le_trans since after) past known
      · rintro failure later _ _ ⟨_, absurdity, _⟩
        cases absurdity

/-- Taking over what the store said: it was said at one time after all look-ups. -/
theorem upholds_settleMisses {found : OrderedMap String} {outcomes : OrderedMap BatchOutcome}
    {misses : List (String × Ticket)} {begun seen : Nat} (since : begun ≤ seen)
    (before : seen < time) (fair : (course state IsOwn).IsFairUntil time)
    (granted : ∀ miss ∈ misses, WasGranted state miss begun (seen + 1))
    (shown : ∀ miss ∈ misses, (state seen).heldDid miss.1 = found.find? miss.1)
    (tells : Tells state outcomes begun time) :
    Upholds (course state IsOwn) (settleMisses found outcomes misses : Operation S _).run
      (fun outcome later => ∀ settled, outcome = .ok settled → Tells state settled begun later)
      time := by
  induction misses generalizing outcomes time with
  | nil =>
      intro settled same
      cases same
      exact tells
  | cons miss rest ih =>
      rcases miss with ⟨bpn, ticket⟩
      have held := shown (bpn, ticket) List.mem_cons_self
      have heard : Heard state bpn (found.find? bpn) begun time :=
        ⟨seen, since, before, Or.inl held⟩
      have grantedRest := fun miss member => granted miss (List.mem_cons_of_mem (bpn, ticket) member)
      have shownRest := fun miss member => shown miss (List.mem_cons_of_mem (bpn, ticket) member)
      unfold settleMisses
      cases read : found.find? bpn with
      | none =>
          rw [read] at heard
          refine ih before fair grantedRest shownRest (tells.insert ?_)
          intro said meant
          cases meant
          exact heard
      | some did =>
          -- The only step of its own is the one that puts the DID in.
          rcases granted (bpn, ticket) List.mem_cons_self with ⟨looked, _, until_, ticketed⟩
          rw [read] at heard held
          intro step reached _ past same
          have last : (course state IsOwn).IsFair step :=
            fair_populate past ticketed (Nat.le_of_lt_succ until_)
              (Nat.le_trans (Nat.le_of_lt before) reached) held same
          have after := Nat.le_succ_of_le reached
          refine ⟨last, ih (Nat.lt_of_lt_of_le before after) (past.succ last) grantedRest shownRest
            ((tells.mono after).insert ?_)⟩
          intro said meant
          cases meant
          exact heard.mono (Nat.le_refl begun) after

/-- What the resolution of a batch answers was held by the store or found in the
cache since it began. -/
theorem upholds_resolveBatch (policy : Policy) (bpns : List String) (fit : (state 0).IsFit)
    (fair : (course state IsOwn).IsFairUntil time) :
    Upholds (course state IsOwn) (resolveBatch policy bpns).run
      (fun outcome later => ∀ outcomes, outcome = .ok outcomes → Tells state outcomes time later)
      time := by
  unfold resolveBatch
  split
  · intro outcomes absurdity
    cases absurdity
  · have nothing : (⟨[], .empty⟩ : Lookups).AreTrue state time time :=
      ⟨fun _ _ _ found => (by cases found), fun _ member => absurd member List.not_mem_nil⟩
    refine Operation.upholds_bind fair
      (upholds_lookupKeys (Nat.le_refl time) fair nothing) ?_ ?_
    · rintro lookups later after past ⟨_, same, known⟩
      cases same
      split
      · intro outcomes same
        cases same
        exact known.told
      · refine Operation.upholds_bind past
          (upholds_request (fun _ _ => ⟨.getMany (lookups.misses.map Prod.fst), rfl⟩) policy
            "get_many" past) ?_ ?_
        · rintro records latest _ lately ⟨seen, since, before, _, called⟩
          have sound := (isFit fit (lately.mono (Nat.le_of_lt before))).sound
          refine upholds_settleMisses (Nat.le_trans after since) before lately ?_ ?_ ?_
          · exact (known.mono (Nat.le_succ_of_le since)).granted
          · intro miss member
            exact Store.didOf_getMany sound (congrArg Prod.fst called) (List.mem_map_of_mem member)
          · exact known.told.mono (Nat.le_trans since (Nat.le_of_lt before))
        · intro failure latest _ _ _ outcomes absurdity
          cases absurdity
    · rintro failure later _ _ ⟨_, absurdity, _⟩
      cases absurdity

/-! ## Whole records -/

/-- What is shown of a record was held by the store after it was asked for. -/
theorem upholds_record (policy : Policy) (bpn : String)
    (fair : (course state IsOwn).IsFairUntil time) :
    Upholds (course state IsOwn) (record policy bpn).run
      (fun outcome later => ∀ record, outcome = .ok record →
        Called state IsOwn (fun _ => MappingStore.get bpn) (.ok record) time later) time := by
  refine Operation.upholds_check (fun _ _ => ?_) (fun _ _ _ => nofun)
  refine (upholds_request (fun _ _ => ⟨.get bpn, rfl⟩) policy "get" fair).mono fair ?_
  intro outcome later _ _ called record same
  exact same ▸ called

end Resolver
end BpnDirectory
