import BpnDirectory.Proofs.Collection.OrderedMap
import BpnDirectory.Proofs.Collection.Outcome
import BpnDirectory.Service.Background
import BpnDirectory.Service.Startup
import Mathlib.Logic.Function.Iterate

namespace BpnDirectory
namespace Schedule

/-!
Jobs that run steadily and jobs that stall.

What is reported about a job depends on nothing but its own signals since it was
registered last.  A job that is started on every tick of its timer and is done before the
next one has always left a heartbeat, or was registered, less than two periods before the
next heartbeat comes, so there is a period to spare.  A job that leaves none is reported
as soon as this time is over.

All of this holds as far as the clock goes.  A job is not tracked if the clock will never show
its first tick, and as long as there is one tracked job whose deadline the clock will never show,
nothing is reported of any.
-/

open Time (Span)

/-- Whether the clock can show a time, that is, whether a signed number of 64 bits has room for
its seconds. -/
def IsShown (time : Nat) : Prop := time / 1000000000 < 0x8000000000000000

instance (time : Nat) : Decidable (IsShown time) :=
  inferInstanceAs (Decidable (time / 1000000000 < 0x8000000000000000))

theorem isShown_iff {time : Nat} : IsShown time ↔ time ≤ Time.Clock.latest := by
  unfold IsShown Time.Clock.latest Span.perSecond
  omega

theorem IsShown.mono {earlier later : Nat} (shown : IsShown later) (le : earlier ≤ later) :
    IsShown earlier :=
  Nat.lt_of_le_of_lt (Nat.div_le_div_right le) shown

theorem after?_of_isShown {time : Nat} {span : Span} (shown : IsShown (time + span)) :
    Time.Clock.after? time span = some (time + span) :=
  Time.Clock.after?_eq_some_iff.mpr ⟨isShown_iff.mp shown, rfl⟩

theorem after?_of_not_isShown {time : Nat} {span : Span} (beyond : ¬ IsShown (time + span)) :
    Time.Clock.after? time span = none :=
  Time.Clock.after?_eq_none_iff.mpr (Nat.not_le.mp (mt isShown_iff.mpr beyond))

/-! ## Signals -/

/-- A call by which a job is tracked or leaves a heartbeat. -/
inductive Signal where
  | register (name : String) (period delay : Span)
  | record (name : String) (succeeded : Bool)
  deriving DecidableEq, Repr

def Signal.name : Signal → String
  | .register name .. => name
  | .record name _ => name

/-- Signals in the order in which they were given, each with its time. -/
abbrev History := List (Nat × Signal)

/-- Whether a signal has an effect.  A registration has none if the clock cannot show when the
first run is due. -/
def Signal.IsHeard (now : Nat) : Signal → Prop
  | .register _ _ delay => IsShown (now + delay)
  | .record .. => True

instance (now : Nat) (signal : Signal) : Decidable (signal.IsHeard now) :=
  match signal with
  | .register _ _ delay => inferInstanceAs (Decidable (IsShown (now + delay)))
  | .record .. => .isTrue trivial

/-- The signals of one job that have an effect. -/
def History.own (history : History) (name : String) : History :=
  history.filter fun given => given.2.name = name ∧ given.2.IsHeard given.1

/-- When a job is overdue, if it leaves no more heartbeats. -/
def Heartbeat.deadline (beat : Heartbeat) : Nat :=
  match beat.lastRun with
  | some run => run + beat.period + beat.period
  | none => beat.firstDue + beat.period

/-- A job is overdue once its deadline is over. -/
theorem Heartbeat.isOverdue?_of_isShown {beat : Heartbeat} (shown : IsShown beat.deadline)
    (now : Nat) : beat.isOverdue? now = some (decide (beat.deadline < now)) := by
  rcases beat with ⟨period, firstDue, _ | run, succeeded⟩
  · simp only [isOverdue?, nextDue?, Option.bind_eq_bind, Option.bind_some]
    rw [after?_of_isShown shown]
    rfl
  · have next : IsShown (run + period) := shown.mono (Nat.le_add_right _ _)
    simp only [isOverdue?, nextDue?, Option.bind_eq_bind]
    rw [after?_of_isShown next, Option.bind_some, after?_of_isShown shown]
    rfl

theorem Heartbeat.isOverdue?_of_not_isShown {beat : Heartbeat} (beyond : ¬ IsShown beat.deadline)
    (now : Nat) : beat.isOverdue? now = none := by
  rcases beat with ⟨period, firstDue, _ | run, succeeded⟩
  · simp only [isOverdue?, nextDue?, Option.bind_eq_bind, Option.bind_some]
    rw [after?_of_not_isShown beyond]
    rfl
  · simp only [isOverdue?, nextDue?, Option.bind_eq_bind]
    by_cases next : IsShown (run + period)
    · rw [after?_of_isShown next, Option.bind_some, after?_of_not_isShown beyond]
      rfl
    · rw [after?_of_not_isShown next]
      rfl

namespace Heartbeats

/-- The heartbeats after a signal.  A registration that fails leaves them as they are. -/
def receive (beats : Heartbeats) : Nat × Signal → Heartbeats
  | (now, .register name period delay) => (beats.register? now name period delay).getD beats
  | (now, .record name succeeded) => beats.record now name succeeded

/-- The heartbeats after signals, if no job was tracked before. -/
def after (history : History) : Heartbeats := history.foldl receive .empty

/-- What is reported of a job at a time, if it is tracked and if there is a report. -/
def reportedOverdue? (beats : Heartbeats) (name : String) (now : Nat) : Option (Option Bool) :=
  (beats.status? now).map fun report =>
    (report.find? fun status => status.name = name).map JobStatus.overdue

/-- Whether the clock can show the deadlines of all tracked jobs. -/
def IsTellable (beats : Heartbeats) : Prop :=
  ∀ name beat, beats.find? name = some beat → IsShown beat.deadline

/-- There is no report if some deadline lies beyond the clock. -/
theorem status?_eq_none_iff (beats : Heartbeats) (now : Nat) :
    beats.status? now = none ↔ ¬ beats.IsTellable := by
  have unknown : ∀ entries : List (String × Heartbeat),
      entries.mapM (fun entry => entry.2.status? entry.1 now) = none ↔
        ∃ entry ∈ entries, ¬ IsShown entry.2.deadline := by
    intro entries
    induction entries with
    | nil => simp
    | cons entry rest ih =>
        have first : entry.2.status? entry.1 now = none ↔ ¬ IsShown entry.2.deadline := by
          unfold Heartbeat.status?
          by_cases shown : IsShown entry.2.deadline
          · simp [Heartbeat.isOverdue?_of_isShown shown, shown]
          · simp [Heartbeat.isOverdue?_of_not_isShown shown, shown]
        simp only [List.mapM_cons, List.mem_cons, exists_eq_or_imp, ← first, ← ih]
        cases entry.2.status? entry.1 now <;>
          cases rest.mapM (fun entry => entry.2.status? entry.1 now) <;> simp
  refine (unknown beats.entries).trans ?_
  simp only [IsTellable, not_forall]
  constructor
  · rintro ⟨entry, listed, beyond⟩
    exact ⟨entry.1, entry.2, OrderedMap.find?_eq_some_iff.mpr listed, beyond⟩
  · rintro ⟨name, beat, found, beyond⟩
    exact ⟨(name, beat), OrderedMap.find?_eq_some_iff.mp found, beyond⟩

/-- A report shows of every tracked job whether its deadline is over. -/
theorem reportedOverdue?_eq {beats : Heartbeats} (tellable : beats.IsTellable) (name : String)
    (now : Nat) : beats.reportedOverdue? name now =
      some ((beats.find? name).map fun beat => decide (beat.deadline < now)) := by
  have listed : ∀ entries : List (String × Heartbeat),
      (∀ entry ∈ entries, IsShown entry.2.deadline) →
        (entries.mapM fun entry : String × Heartbeat => entry.2.status? entry.1 now).map
            (fun report => (report.find? fun status => status.name = name).map JobStatus.overdue) =
          some ((OrderedMap.findIn name entries).map fun beat => decide (beat.deadline < now)) := by
    intro entries shown
    induction entries with
    | nil => rfl
    | cons entry rest ih =>
        rcases List.forall_mem_cons.mp shown with ⟨first, others⟩
        rcases Option.map_eq_some_iff.mp (ih others) with ⟨report, made, said⟩
        have told : entry.2.status? entry.1 now = some ⟨entry.1, Span.seconds entry.2.period,
            entry.2.sinceLastRun now, entry.2.lastSucceeded, decide (entry.2.deadline < now)⟩ := by
          simp [Heartbeat.status?, Heartbeat.isOverdue?_of_isShown first]
        rw [List.mapM_cons, told, made, OrderedMap.findIn]
        by_cases same : entry.1 = name
        · simp [same]
        · simpa [same] using said
  refine listed beats.entries fun entry member => tellable entry.1 entry.2 ?_
  exact OrderedMap.find?_eq_some_iff.mpr member

end Heartbeats

/-! ## What a job's own signals decide -/

namespace Heartbeat

/-- The heartbeat of a job, if it is tracked, after one of its own signals. -/
def follow (beat : Option Heartbeat) : Nat × Signal → Option Heartbeat
  | (now, .register _ period delay) => some ⟨period, now + delay, none, none⟩
  | (now, .record _ succeeded) =>
    beat.map fun beat => { beat with lastRun := some now, lastSucceeded := some succeeded }

end Heartbeat

/-- A signal changes the heartbeat of its own job only, and only if it has an effect. -/
theorem find?_receive (beats : Heartbeats) (given : Nat × Signal) (name : String) :
    (beats.receive given).find? name =
      if given.2.name = name ∧ given.2.IsHeard given.1 then
        Heartbeat.follow (beats.find? name) given
      else beats.find? name := by
  rcases given with ⟨now, ⟨job, period, delay⟩ | ⟨job, succeeded⟩⟩
  · by_cases heard : IsShown (now + delay)
    · have received : beats.receive (now, .register job period delay) =
          beats.insert job ⟨period, now + delay, none, none⟩ := by
        simp [Heartbeats.receive, Heartbeats.register?, after?_of_isShown heard]
      rw [received, OrderedMap.find?_insert]
      simp [Signal.name, Signal.IsHeard, heard, Heartbeat.follow]
    · have received : beats.receive (now, .register job period delay) = beats := by
        simp [Heartbeats.receive, Heartbeats.register?, after?_of_not_isShown heard]
      rw [received, if_neg fun effective => heard effective.2]
  · refine (OrderedMap.find?_modify _ _ _ _).trans ?_
    by_cases same : job = name
    · simp [Signal.name, Signal.IsHeard, same, Heartbeat.follow]
    · simp [Signal.name, same]

/-- The heartbeat of a job is what its own signals make of it. -/
theorem find?_after (history : History) (name : String) :
    (Heartbeats.after history).find? name =
      (history.own name).foldl Heartbeat.follow none := by
  have followed : ∀ beats : Heartbeats, (history.foldl Heartbeats.receive beats).find? name =
      (history.own name).foldl Heartbeat.follow (beats.find? name) := by
    induction history with
    | nil => exact fun _ => rfl
    | cons given rest ih =>
        intro beats
        rw [List.foldl_cons, ih, find?_receive]
        unfold History.own
        by_cases effective : given.2.name = name ∧ given.2.IsHeard given.1
        · rw [if_pos effective, List.filter_cons_of_pos (by simpa using effective), List.foldl_cons]
        · rw [if_neg effective, List.filter_cons_of_neg (by simpa using effective)]
  exact followed .empty

/-- Of several runs only the last is kept. -/
theorem foldl_follow_records (name : String) (runs : List (Nat × Bool)) (beat : Heartbeat) :
    (runs.map fun run => (run.1, Signal.record name run.2)).foldl Heartbeat.follow (some beat) =
      some { beat with
        lastRun := (runs.getLast?.map Prod.fst).or beat.lastRun
        lastSucceeded := (runs.getLast?.map Prod.snd).or beat.lastSucceeded } := by
  induction runs generalizing beat with
  | nil => rfl
  | cons run rest ih =>
      refine (ih { beat with lastRun := some run.1, lastSucceeded := some run.2 }).trans ?_
      rw [List.getLast?_cons]
      cases rest.getLast? <;> rfl

/-- Whether a job was registered last at a time, and has left the heartbeats of certain runs
since then. -/
def History.Tracks (history : History) (name : String) (registered : Nat) (period delay : Span)
    (runs : List (Nat × Bool)) : Prop :=
  ∃ before, history.own name = before ++ (registered, .register name period delay) ::
    runs.map fun run => (run.1, .record name run.2)

/-- When a job is reported, given its period, when its first run was due and its runs. -/
def deadline (period : Span) (firstDue : Nat) (runs : List (Nat × Bool)) : Nat :=
  match runs.getLast? with
  | some (ended, _) => ended + 2 * period
  | none => firstDue + period

/-- Whether the clock can show the deadlines of all jobs that were registered. -/
def History.IsTellable (history : History) : Prop :=
  ∀ name registered period delay runs, history.Tracks name registered period delay runs →
    IsShown (deadline period (registered + delay) runs)

theorem History.Tracks.find? {history : History} {name : String} {registered : Nat}
    {period delay : Span} {runs : List (Nat × Bool)}
    (tracks : history.Tracks name registered period delay runs) :
    ∃ beat, (Heartbeats.after history).find? name = some beat ∧
      beat.deadline = deadline period (registered + delay) runs := by
  rcases tracks with ⟨before, own⟩
  refine ⟨⟨period, registered + delay, runs.getLast?.map Prod.fst, runs.getLast?.map Prod.snd⟩,
    ?_, ?_⟩
  · rw [find?_after, own, List.foldl_append, List.foldl_cons]
    refine (foldl_follow_records name runs ⟨period, registered + delay, none, none⟩).trans ?_
    simp
  · unfold Heartbeat.deadline deadline
    cases runs.getLast? with
    | none => rfl
    | some run =>
        change run.1 + period + period = run.1 + 2 * period
        rw [Nat.two_mul, Nat.add_assoc]

/-- The signals of a job begin with runs that no one tracks, and if it was ever registered,
they end with its runs since it was registered last. -/
theorem exists_registration {own : History} {name : String}
    (named : ∀ given ∈ own, given.2.name = name) :
    (∃ runs : List (Nat × Bool), own = runs.map fun run => (run.1, .record name run.2)) ∨
      ∃ before registered period delay, ∃ runs : List (Nat × Bool),
        own = before ++ (registered, .register name period delay) ::
          runs.map fun run => (run.1, .record name run.2) := by
  induction own with
  | nil => exact Or.inl ⟨[], rfl⟩
  | cons given rest ih =>
      rcases given with ⟨now, signal⟩
      obtain rfl : signal.name = name := named _ List.mem_cons_self
      rcases ih fun other member => named other (List.mem_cons_of_mem _ member) with
        ⟨runs, rfl⟩ | ⟨before, registered, period, delay, runs, rfl⟩
      · cases signal with
        | register name period delay => exact Or.inr ⟨[], now, period, delay, runs, rfl⟩
        | record name succeeded => exact Or.inl ⟨(now, succeeded) :: runs, rfl⟩
      · exact Or.inr ⟨(now, signal) :: before, registered, period, delay, runs, rfl⟩

/-- A job that was never registered is not tracked, whatever heartbeats it left. -/
theorem find?_eq_none_or_tracks (history : History) (name : String) :
    (Heartbeats.after history).find? name = none ∨
      ∃ registered period delay runs, history.Tracks name registered period delay runs := by
  have named : ∀ given ∈ history.own name, given.2.name = name :=
    fun given member => (of_decide_eq_true (List.mem_filter.mp member).2).1
  rcases exists_registration named with ⟨runs, own⟩ | ⟨before, registered, period, delay, runs, own⟩
  · left
    have unknown : ∀ runs : List (Nat × Bool),
        (runs.map fun run => (run.1, Signal.record name run.2)).foldl Heartbeat.follow none =
          none := by
      intro runs
      induction runs with
      | nil => rfl
      | cons _ _ ih => exact ih
    rw [find?_after, own, unknown]
  · exact Or.inr ⟨registered, period, delay, runs, before, own⟩

theorem isTellable_after_iff (history : History) :
    (Heartbeats.after history).IsTellable ↔ history.IsTellable := by
  constructor
  · intro tellable name registered period delay runs tracks
    rcases tracks.find? with ⟨beat, found, due⟩
    exact due ▸ tellable name beat found
  · intro tellable name beat found
    rcases find?_eq_none_or_tracks history name with
      unknown | ⟨registered, period, delay, runs, tracks⟩
    · cases unknown.symm.trans found
    · rcases tracks.find? with ⟨_, same, due⟩
      cases same.symm.trans found
      exact due ▸ tellable name registered period delay runs tracks

/-- A job is reported once its deadline is over. -/
theorem History.Tracks.reportedOverdue? {history : History} {name : String} {registered : Nat}
    {period delay : Span} {runs : List (Nat × Bool)}
    (tracks : history.Tracks name registered period delay runs) (tellable : history.IsTellable)
    (now : Nat) : (Heartbeats.after history).reportedOverdue? name now =
      some (some (decide (deadline period (registered + delay) runs < now))) := by
  rcases tracks.find? with ⟨beat, found, due⟩
  rw [Heartbeats.reportedOverdue?_eq ((isTellable_after_iff history).mpr tellable), found, ← due]
  rfl

/-! ## Runs on the ticks of a timer -/

namespace Timer

variable {α : Type}

theorem due_iterate_next (timer : Timer α) (ticks : Nat) :
    (next^[ticks] timer).due = timer.due + ticks * timer.period ∧
      (next^[ticks] timer).period = timer.period := by
  induction ticks with
  | zero => simp
  | succ ticks ih =>
      rw [Function.iterate_succ_apply']
      constructor
      · simp only [next, ih]
        rw [Nat.succ_mul, Nat.add_assoc]
      · exact ih.2

/-- When a run begins that waits for its tick and for the run before it, if the runs take
certain times. -/
def begins (timer : Timer α) (busy : Nat → Nat) : Nat → Nat
  | 0 => timer.due
  | run + 1 => max (next^[run + 1] timer).due (timer.begins busy run + busy run)

def ends (timer : Timer α) (busy : Nat → Nat) (run : Nat) : Nat :=
  timer.begins busy run + busy run

/-- Runs that are over before the next tick begin on their ticks. -/
theorem begins_eq (timer : Timer α) {busy : Nat → Nat} (short : ∀ run, busy run < timer.period)
    (run : Nat) :
    timer.begins busy run = timer.due + run * timer.period := by
  induction run with
  | zero => simp [begins]
  | succ run ih =>
      rw [begins, (due_iterate_next timer (run + 1)).1, ih]
      apply Nat.max_eq_left
      calc
        timer.due + run * timer.period + busy run
            ≤ timer.due + run * timer.period + timer.period :=
          Nat.add_le_add_left (Nat.le_of_lt (short run)) _
        _ = timer.due + (run + 1) * timer.period := by rw [Nat.succ_mul, Nat.add_assoc]

end Timer

/-- While no more time has gone by than the end of the next run, the deadline of a job that
runs on its ticks lies ahead. -/
theorem le_deadline_of_steady {α : Type} (timer : Timer α) {busy : Nat → Nat}
    (short : ∀ run, busy run < timer.period) (succeeded : Nat → Bool) {runs now : Nat}
    (awaited : ∀ run, timer.ends busy run < now → run < runs) :
    now ≤ deadline timer.period timer.due
      ((List.range runs).map fun run => (timer.ends busy run, succeeded run)) := by
  have ahead : now ≤ timer.due + runs * timer.period + busy runs := by
    by_contra late
    refine absurd (awaited runs ?_) (Nat.lt_irrefl runs)
    rw [Timer.ends, Timer.begins_eq timer short]
    exact Nat.not_le.mp late
  have next := short runs
  cases runs with
  | zero =>
      change now ≤ timer.due + timer.period
      omega
  | succ last =>
      rw [Nat.succ_mul] at ahead
      have ended : deadline timer.period timer.due
          ((List.range (last + 1)).map fun run => (timer.ends busy run, succeeded run)) =
            timer.ends busy last + 2 * timer.period := by
        simp [deadline, List.range_succ]
      rw [ended, Timer.ends, Timer.begins_eq timer short]
      omega

theorem register?_eq_none_iff (beats : Heartbeats) (now : Nat) (name : String)
    (period delay : Span) :
    beats.register? now name period delay = none ↔ ¬ IsShown (now + delay) := by
  unfold Heartbeats.register?
  by_cases shown : IsShown (now + delay)
  · simp [after?_of_isShown shown, shown]
  · simp [after?_of_not_isShown shown, shown]

theorem after_append_of_not_isShown (history : History) (name : String) {registered : Nat}
    (period : Span) {delay : Span} (beyond : ¬ IsShown (registered + delay)) :
    Heartbeats.after (history ++ [(registered, .register name period delay)]) =
      Heartbeats.after history := by
  unfold Heartbeats.after
  rw [List.foldl_append, List.foldl_cons, List.foldl_nil, Heartbeats.receive,
    (register?_eq_none_iff _ _ _ _ _).mpr beyond, Option.getD_none]

/-- As far as the clock goes: a job whose runs are all over before their next ticks is not
reported at any time.  And whatever has become of a job that was registered, it is reported once
two periods have gone by since its last run was over, or one since its first run was due, until it
leaves another heartbeat or is registered again.  Nothing is ever reported of any other job.

Beyond the clock: there is no report at all as long as it cannot show one of the deadlines, and to
register a job of which it cannot show the first tick fails and has no effect. -/
theorem overdue_once_stalled (history : History) (name : String) :
    (∀ {α : Type} (work : α) (registered : Nat) (period delay : Span) (busy : Nat → Nat)
      (succeeded : Nat → Bool), (∀ run, busy run < period) →
      let timer : Timer α := ⟨work, registered + delay, period⟩
      (∀ run, timer.begins busy run = registered + delay + run * period) ∧
        ∀ runs now : Nat,
          history.Tracks name registered period delay
            ((List.range runs).map fun run => (timer.ends busy run, succeeded run)) →
          (∀ run, timer.ends busy run < now → run < runs) → history.IsTellable →
          (Heartbeats.after history).reportedOverdue? name now = some (some false)) ∧
    (∀ (registered : Nat) (period delay : Span) (runs : List (Nat × Bool)),
      history.Tracks name registered period delay runs → history.IsTellable →
      ∀ now, (Heartbeats.after history).reportedOverdue? name now =
        some (some (decide (deadline period (registered + delay) runs < now)))) ∧
    (history.IsTellable →
      (∀ now, (Heartbeats.after history).reportedOverdue? name now = some none) ∨
        ∃ registered period delay runs, history.Tracks name registered period delay runs) ∧
    (∀ now, (Heartbeats.after history).status? now = none ↔ ¬ history.IsTellable) ∧
    ∀ (registered : Nat) (period delay : Span),
      ((Heartbeats.after history).register? registered name period delay = none ↔
        ¬ IsShown (registered + delay)) ∧
      (¬ IsShown (registered + delay) →
        Heartbeats.after (history ++ [(registered, .register name period delay)]) =
          Heartbeats.after history) := by
  refine ⟨?_, ?_, ?_, ?_, ?_⟩
  · intro α work registered period delay busy succeeded short timer
    refine ⟨timer.begins_eq short, ?_⟩
    intro runs now tracks awaited tellable
    have early := le_deadline_of_steady timer short succeeded awaited
    rw [tracks.reportedOverdue? tellable now, decide_eq_false (Nat.not_lt.mpr early)]
  · intro registered period delay runs tracks tellable now
    exact tracks.reportedOverdue? tellable now
  · intro tellable
    refine (find?_eq_none_or_tracks history name).imp ?_ id
    intro unknown now
    rw [Heartbeats.reportedOverdue?_eq ((isTellable_after_iff history).mpr tellable), unknown]
    rfl
  · intro now
    rw [Heartbeats.status?_eq_none_iff, isTellable_after_iff]
  · intro registered period delay
    exact ⟨register?_eq_none_iff _ _ _ _ _, after_append_of_not_isShown history name period⟩

/-- A job with a period of ten left its heartbeat three units after its first tick, and then
no more. -/
def stallingHistory : History :=
  [(100, .register "directory_poll" 10 4), (100, .register "reconcile" 5 0),
    (107, .record "directory_poll" true), (108, .record "reconcile" true)]

theorem isTellable_stallingHistory : stallingHistory.IsTellable := by
  refine (isTellable_after_iff stallingHistory).mp fun name beat found => ?_
  have listed := OrderedMap.find?_eq_some_iff.mp found
  have each : ∀ entry ∈ (Heartbeats.after stallingHistory).entries, IsShown entry.2.deadline := by
    decide
  exact each (name, beat) listed

/-- While its second run may still be on its way, nothing is wrong. -/
theorem stallingHistory_overdue_once_stalled :
    (Heartbeats.after stallingHistory).reportedOverdue? "directory_poll" 117 = some (some false) ∧
      (Heartbeats.after stallingHistory).reportedOverdue? "directory_poll" 128 =
        some (some true) := by
  have tracks : stallingHistory.Tracks "directory_poll" 100 10 4 [(107, true)] := ⟨[], by decide⟩
  rcases overdue_once_stalled stallingHistory "directory_poll" with ⟨whileSteady, onceStalled, -⟩
  constructor
  · have steady := whileSteady () 100 10 4 (fun _ => 3) (fun _ => true) (fun _ => by decide)
    refine steady.2 1 117 tracks ?_ isTellable_stallingHistory
    intro run ended
    rw [Timer.ends, steady.1] at ended
    omega
  · exact onceStalled 100 10 4 _ tracks isTellable_stallingHistory 128

/-! ## Settings beyond the clock -/

/-- Settings whose first poll comes as late as they can say. -/
def latestPoll : Environment :=
  .ofList [("BDRS_STORE_BACKEND", "memory"),
    ("BDRS_DIRECTORY_POLL_INITIAL_DELAY_SECS", "18446744073709551615")]

/-- Settings whose polls come as rarely as they can say. -/
def rarestPolls : Environment :=
  .ofList [("BDRS_STORE_BACKEND", "memory"),
    ("BDRS_DIRECTORY_POLL_PERIOD_SECS", "18446744073709551615")]

/-- The signal by which a job is registered that settings describe. -/
def registration (settings : Settings) (randomSeconds : Nat) (job : Service.Job) : Signal :=
  .register job.name (job.period settings.jobs) (job.delay settings.jobs randomSeconds)

/-- Settings that pass the check may keep a job from being tracked, although it would not be
overdue yet, or keep all jobs from being reported. -/
theorem not_every_job_reported :
    (¬ ∀ (environment : Environment) (settings : Settings),
      Service.readSettings environment = .ok settings →
        ∀ (job : Service.Job) (randomSeconds now : Nat), IsShown now →
          (Heartbeats.after [(now, registration settings randomSeconds job)]).reportedOverdue?
            job.name now = some (some false)) ∧
    ∃ settings, Service.readSettings rarestPolls = .ok settings ∧
      (Heartbeats.after (Service.Job.all.map fun job => (0, registration settings 2 job))).status?
        0 = none := by
  constructor
  · intro reported
    have late : (Service.readSettings latestPoll).map (fun settings => settings.jobs) =
        .ok ⟨60, some 18446744073709551615, 30⟩ := toOption_eq_some_iff.mp (by decide +kernel)
    rcases map_eq_ok_iff.mp late with ⟨settings, read, jobs⟩
    have absent := reported latestPoll settings read .directoryPoll 2 0 (by decide)
    unfold registration at absent
    rw [jobs] at absent
    exact absurd absent (by decide +kernel)
  · have rare : (Service.readSettings rarestPolls).map (fun settings => settings.jobs) =
        .ok ⟨18446744073709551615, none, 30⟩ := toOption_eq_some_iff.mp (by decide +kernel)
    rcases map_eq_ok_iff.mp rare with ⟨settings, read, jobs⟩
    refine ⟨settings, read, ?_⟩
    unfold registration
    rw [jobs]
    decide +kernel

end Schedule
end BpnDirectory
