import BpnDirectory.Proofs.Collection.Outcome
import BpnDirectory.Proofs.Time.MicrosText

namespace BpnDirectory
namespace Time

/-!
What is read is an instant of the calendar.

The reader bounds each part of a text by itself, and an offset may then move the time of day across
midnight and the day across the end of a month or a year.  The outcome is a day of the calendar with
a time of day all the same, and a leap second is still the last second of its minute, since offsets
are whole minutes.  So whatever was read can be written again.
-/

/-! ## Days -/

namespace Date

variable {date : Date}

theorem le_daysInMonth (year : Int) (month : Nat) : 28 ≤ daysInMonth year month := by
  unfold daysInMonth
  repeat' split
  all_goals decide

theorem isValid_next (valid : date.IsValid) : date.next.IsValid := by
  rcases valid with ⟨firstMonth, lastMonth, firstDay, lastDay⟩
  unfold next
  split
  case isTrue inside => exact ⟨firstMonth, lastMonth, Nat.succ_pos _, inside⟩
  split
  case isTrue inside =>
    have days := le_daysInMonth date.year (date.month + 1)
    exact ⟨Nat.succ_pos _, inside, Nat.le_refl 1, Nat.le_trans (Nat.le_add_left 1 27) days⟩
  case isFalse => simp [IsValid, daysInMonth]

theorem isValid_previous (valid : date.IsValid) : date.previous.IsValid := by
  rcases valid with ⟨firstMonth, lastMonth, firstDay, lastDay⟩
  unfold previous
  split
  case isTrue later =>
    exact ⟨firstMonth, lastMonth, Nat.le_sub_one_of_lt later, Nat.le_trans (Nat.sub_le _ 1) lastDay⟩
  split
  case isTrue later =>
    have days := le_daysInMonth date.year (date.month - 1)
    exact ⟨Nat.le_sub_one_of_lt later, Nat.le_trans (Nat.sub_le _ 1) lastMonth,
      Nat.le_trans (by decide) days, Nat.le_refl _⟩
  case isFalse => simp [IsValid, daysInMonth]

end Date

/-! ## Parts of a text -/

variable {cs rest : List Char} {n : Nat}

theorem takePair_le {least greatest : Nat}
    (taken : takePair least greatest cs = .ok (n, rest)) : n ≤ greatest := by
  rcases bind_eq_ok.mp taken with ⟨⟨m, others⟩, _, taken⟩
  dsimp only at taken
  split at taken
  case isTrue inside =>
    cases taken
    exact inside.2
  case isFalse => cases taken

theorem digitValue?_getD_le (c : Char) : (Text.digitValue? c).getD 0 ≤ 9 := by
  unfold Text.digitValue?
  split
  case isTrue inside =>
    have upper : c.toNat ≤ '9'.toNat := UInt32.le_iff_toNat_le.mp (Char.le_def.mp inside.2)
    exact Nat.sub_le_sub_right upper _
  case isFalse => exact Nat.zero_le 9

theorem nanosOfDigits_lt (scale : Nat) (digits : List Char) :
    nanosOfDigits scale digits < 10 ^ scale := by
  induction scale generalizing digits with
  | zero => exact Nat.one_pos
  | succ scale ih =>
      cases digits with
      | nil => exact Nat.pow_pos (by decide)
      | cons c others =>
          have first := Nat.mul_le_mul_right (10 ^ scale) (digitValue?_getD_le c)
          have later := ih others
          rw [nanosOfDigits, Nat.pow_eq, Nat.pow_succ]
          omega

theorem takeFraction_lt (taken : takeFraction cs = .ok (n, rest)) : n < 1000000000 := by
  unfold takeFraction at taken
  split at taken
  case h_1 =>
    dsimp only at taken
    split at taken
    case isTrue => cases taken
    case isFalse =>
      cases taken
      exact nanosOfDigits_lt 9 _
  case h_2 =>
    cases taken
    decide

/-- An offset is shorter than a day. -/
theorem takeOffset_lt {offset : Int} (taken : takeOffset cs = .ok (offset, rest)) :
    -1440 < offset ∧ offset < 1440 := by
  unfold takeOffset at taken
  split at taken
  case h_1 | h_2 =>
    cases taken
    decide
  case h_3 =>
    split at taken
    case isFalse => cases taken
    case isTrue =>
      rcases bind_eq_ok.mp taken with ⟨⟨hours, _⟩, _, taken⟩
      rcases bind_eq_ok.mp taken with ⟨_, _, taken⟩
      rcases bind_eq_ok.mp taken with ⟨⟨minutes, _⟩, isPair, taken⟩
      have pair := takePair_le isPair
      dsimp only at taken
      split at taken
      case isFalse => cases taken
      case isTrue short =>
        cases taken
        split <;> omega
  case h_4 => cases taken

/-! ## Instants -/

namespace Instant

/-- A time of day that is given with an offset is a proper instant in UTC. -/
theorem isProper_ofLocal {date : Date} {second nanos : Nat} {offset : Int}
    (valid : date.IsValid) (inDay : second < 86400) (inSecond : nanos < 2000000000)
    (leap : 1000000000 ≤ nanos → second % 60 = 59) (short : -1440 < offset ∧ offset < 1440) :
    (ofLocal date second nanos offset).IsProper := by
  unfold ofLocal
  dsimp only
  split
  case isTrue before =>
    refine ⟨Date.isValid_previous valid, ?_, inSecond, fun isLeap => ?_⟩
    · dsimp only
      omega
    · have last := leap isLeap
      dsimp only
      omega
  split
  case isTrue same =>
    refine ⟨valid, ?_, inSecond, fun isLeap => ?_⟩
    · dsimp only
      omega
    · have last := leap isLeap
      dsimp only
      omega
  case isFalse after =>
    refine ⟨Date.isValid_next valid, ?_, inSecond, fun isLeap => ?_⟩
    · dsimp only
      omega
    · have last := leap isLeap
      dsimp only
      omega

/-- Whatever is read is a proper instant. -/
theorem isProper_of_read {instant : Instant} (isRead : read cs = .ok instant) :
    instant.IsProper := by
  rcases bind_eq_ok.mp isRead with ⟨⟨year, _⟩, _, isRead⟩
  rcases bind_eq_ok.mp isRead with ⟨_, _, isRead⟩
  rcases bind_eq_ok.mp isRead with ⟨⟨month, _⟩, _, isRead⟩
  rcases bind_eq_ok.mp isRead with ⟨_, _, isRead⟩
  rcases bind_eq_ok.mp isRead with ⟨⟨day, _⟩, _, isRead⟩
  rcases bind_eq_ok.mp isRead with ⟨_, _, isRead⟩
  rcases bind_eq_ok.mp isRead with ⟨⟨hour, _⟩, isHour, isRead⟩
  rcases bind_eq_ok.mp isRead with ⟨_, _, isRead⟩
  rcases bind_eq_ok.mp isRead with ⟨⟨minute, _⟩, isMinute, isRead⟩
  rcases bind_eq_ok.mp isRead with ⟨_, _, isRead⟩
  rcases bind_eq_ok.mp isRead with ⟨⟨second, _⟩, isSecond, isRead⟩
  rcases bind_eq_ok.mp isRead with ⟨⟨nanos, _⟩, isFraction, isRead⟩
  rcases bind_eq_ok.mp isRead with ⟨⟨offset, _⟩, isOffset, isRead⟩
  have hours := takePair_le isHour
  have minutes := takePair_le isMinute
  have seconds := takePair_le isSecond
  have fraction := takeFraction_lt isFraction
  dsimp only at isRead
  split at isRead
  case isTrue => cases isRead
  split at isRead
  case isFalse => cases isRead
  case isTrue valid =>
    cases isRead
    apply isProper_ofLocal valid _ _ _ (takeOffset_lt isOffset)
    · omega
    · split <;> omega
    · split <;> omega

end Instant
end Time
end BpnDirectory
