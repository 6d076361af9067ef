import BpnDirectory.Proofs.Text.Decimal
import BpnDirectory.Time.Reading
import Mathlib.Tactic.Ring

namespace BpnDirectory
namespace Time

/-!
The form that the database keeps reads back.

An instant of the years 0 to 9999 is written with a fixed number of digits for
each of its parts.  Reading takes the same digits off again, so what comes back
is the instant itself, cut to microseconds.
-/

/-! ## Numbers of fixed width -/

theorem takeDigits_append {digits : List Char} (allDigits : ∀ c ∈ digits, c.isDigit = true)
    (value : Nat) (rest : List Char) :
    takeDigits value digits.length (digits ++ rest) =
      .ok (Nat.ofDigitChars 10 digits value, rest) := by
  induction digits generalizing value with
  | nil => simp [takeDigits]
  | cons c digits ih =>
      have first := Text.digitValue?_of_isDigit (allDigits c List.mem_cons_self)
      have others := ih (fun d member => allDigits d (List.mem_cons_of_mem c member))
        (value * 10 + (c.toNat - '0'.toNat))
      simp only [List.length_cons, List.cons_append, takeDigits, first, others,
        Nat.ofDigitChars_cons, Nat.mul_comm 10]

theorem nanosOfDigits_append {digits : List Char} (allDigits : ∀ c ∈ digits, c.isDigit = true)
    (scale : Nat) :
    nanosOfDigits (scale + digits.length) digits =
      Nat.ofDigitChars 10 digits 0 * 10 ^ scale := by
  induction digits with
  | nil => cases scale <;> simp [nanosOfDigits]
  | cons c digits ih =>
      have first := Text.digitValue?_of_isDigit (allDigits c List.mem_cons_self)
      have others := ih fun d member => allDigits d (List.mem_cons_of_mem c member)
      simp only [List.length_cons, ← Nat.add_assoc, nanosOfDigits, first, others, Option.getD_some,
        Nat.ofDigitChars_cons, Nat.pow_eq]
      have shifted := @Nat.ofDigitChars_eq_ofDigitChars_zero digits
        (10 * 0 + (c.toNat - '0'.toNat))
      rw [shifted]
      ring

namespace Instant

theorem padded_isDigit {width n : Nat} : ∀ c ∈ padded width n, c.isDigit = true := by
  intro c member
  simp only [padded, Nat.toString_eq_repr, Nat.toList_repr, List.mem_append,
    List.mem_replicate] at member
  rcases member with ⟨_, zero⟩ | digit
  · subst zero
    rfl
  · exact Nat.isDigit_of_mem_toDigits (by decide) (by decide) digit

theorem length_padded {width n : Nat} (positive : 0 < width) (fits : n < 10 ^ width) :
    (padded width n).length = width := by
  have short := (Nat.length_toDigits_le_iff (by decide) positive).mpr fits
  simp only [padded, Nat.toString_eq_repr, Nat.toList_repr, List.length_append,
    List.length_replicate]
  omega

theorem ofDigitChars_padded (width n : Nat) : Nat.ofDigitChars 10 (padded width n) 0 = n := by
  simp [padded, Nat.ofDigitChars_append]

end Instant

open Instant

/-- Every character has an octet. -/
theorem length_le_octetLength (cs : List Char) : cs.length ≤ Text.octetLength cs := by
  induction cs with
  | nil => exact Nat.le_refl 0
  | cons c rest ih =>
      have some : 0 < c.utf8Size := Char.utf8Size_pos c
      simp only [Text.octetLength, List.foldr_cons, List.length_cons] at ih ⊢
      omega

theorem isShort_eq_false {count : Nat} {cs : List Char} (enough : count ≤ cs.length) :
    isShort count cs = false := by
  have octets := length_le_octetLength (cs.take count)
  rw [List.length_take, Nat.min_eq_left enough] at octets
  exact decide_eq_false (Nat.not_lt.mpr octets)

/-- A number of fixed width is read back with what stands behind it. -/
theorem takeNumber_padded {width n : Nat} (positive : 0 < width) (fits : n < 10 ^ width)
    (rest : List Char) : takeNumber width (padded width n ++ rest) = .ok (n, rest) := by
  have digits : ∀ c ∈ padded width n, c.isDigit = true := padded_isDigit
  have length := length_padded positive fits
  have taken := takeDigits_append digits 0 rest
  rw [length, ofDigitChars_padded] at taken
  have enough : width ≤ (padded width n ++ rest).length := by
    rw [List.length_append, length]
    exact Nat.le_add_right ..
  rw [takeNumber, isShort_eq_false enough]
  exact taken

theorem takePair_padded {least greatest n : Nat} (fits : n < 100) (above : least ≤ n)
    (below : n ≤ greatest) (rest : List Char) :
    takePair least greatest (padded 2 n ++ rest) = .ok (n, rest) := by
  simp [takePair, takeNumber_padded (by decide : 0 < 2) fits, above, below, bind, Except.bind]

/-- Six digits of a fraction count microseconds. -/
theorem takeFraction_padded {n : Nat} (fits : n < 1000000) :
    takeFraction ('.' :: (padded 6 n ++ ['Z'])) = .ok (n * 1000, ['Z']) := by
  have digits : ∀ c ∈ padded 6 n, c.isDigit = true := padded_isDigit
  have length := length_padded (by decide : 0 < 6) fits
  have nonempty : (padded 6 n).isEmpty = false := by
    cases shape : padded 6 n with
    | nil => simp [shape] at length
    | cons c rest => rfl
  have taken : (padded 6 n ++ ['Z']).takeWhile Char.isDigit = padded 6 n := by
    rw [List.takeWhile_append_of_pos digits]
    simp
  have left : (padded 6 n ++ ['Z']).dropWhile Char.isDigit = ['Z'] := by
    rw [List.dropWhile_append_of_pos digits]
    rfl
  have nanos : nanosOfDigits 9 (padded 6 n) = n * 1000 := by
    have scaled := nanosOfDigits_append digits 3
    rwa [length, ofDigitChars_padded] at scaled
  simp [takeFraction, taken, left, nonempty, nanos]

/-! ## Instants -/

namespace Instant

/-- Whether an instant is a day of the calendar with a time of day.  Only the
last second of a minute may be a leap second. -/
def IsProper (instant : Instant) : Prop :=
  instant.date.IsValid ∧ instant.second < 86400 ∧ instant.nanos < 2000000000 ∧
    (1000000000 ≤ instant.nanos → instant.second % 60 = 59)

instance (instant : Instant) : Decidable instant.IsProper := by
  unfold IsProper
  infer_instance

/-- Whether the year of an instant has at most four digits and no sign. -/
def HasPlainYear (instant : Instant) : Prop :=
  0 ≤ instant.date.year ∧ instant.date.year ≤ 9999

instance (instant : Instant) : Decidable instant.HasPlainYear := by
  unfold HasPlainYear
  infer_instance

theorem ofLocal_utc (date : Date) {second : Nat} (nanos : Nat) (bound : second < 86400) :
    ofLocal date second nanos 0 = ⟨date, second, nanos⟩ := by
  have positive : ¬ ((second : Int) - 0 * 60 < 0) := by omega
  have below : (second : Int) - 0 * 60 < 86400 := by omega
  simp only [ofLocal, if_neg positive, if_pos below]
  simp

/-- The sixtieth second stands for the second before it and a whole second of
nanoseconds. -/
private theorem nanos_of_shown {second nanos : Nat} (inSecond : nanos < 2000000000)
    (leap : 1000000000 ≤ nanos → second % 60 = 59) :
    nanos % 1000000000 / 1000 * 1000 +
      (if second % 60 + nanos / 1000000000 = 60 then 1000000000 else 0) =
        nanos - nanos % 1000 := by
  by_cases isLeap : 1000000000 ≤ nanos
  · have last := leap isLeap
    have one : nanos / 1000000000 = 1 := by omega
    rw [last, one, if_pos rfl]
    omega
  · have zero : nanos / 1000000000 = 0 := by omega
    have notLast : ¬ (second % 60 + 0 = 60) := by omega
    rw [zero, if_neg notLast]
    omega

/-- Reading the form that the database keeps yields the instant, cut to
microseconds. -/
theorem ofText_toMicrosText {instant : Instant} (proper : instant.IsProper)
    (plain : instant.HasPlainYear) :
    ofText instant.toMicrosText = .ok instant.truncateToMicros := by
  rcases instant with ⟨date, second, nanos⟩
  rcases proper with ⟨valid, inDay, inSecond, leap⟩
  rcases plain with ⟨notNegative, fourDigits⟩
  simp only at valid inDay inSecond leap notNegative fourDigits
  have months := valid.2.1
  have days : date.day ≤ 31 := by
    refine Nat.le_trans valid.2.2.2 ?_
    unfold daysInMonth
    repeat' split
    all_goals omega
  have year : writeYear date.year = padded 4 date.year.toNat := by
    simp [writeYear, notNegative, fourDigits]
  have shown : second % 60 + nanos / 1000000000 ≤ 60 := by omega
  have micros : nanos % 1000000000 / 1000 < 1000000 := by omega
  have sameYear : ((date.year.toNat : Nat) : Int) = date.year := Int.toNat_of_nonneg notNegative
  have sameDate : (⟨date.year, date.month, date.day⟩ : Date) = date := rfl
  simp only [ofText, toMicrosText, String.toList_ofList, writeWith, year, shownSecond,
    List.append_assoc, List.cons_append]
  simp only [read, bind, Except.bind, takeChar, takeSeparator, if_true,
    takeNumber_padded (by decide : 0 < 4) (by omega : date.year.toNat < 10 ^ 4),
    takePair_padded (by omega : date.month < 100) valid.1 months,
    takePair_padded (by omega : date.day < 100) valid.2.2.1 days,
    takePair_padded (by omega : second / 3600 < 100) (Nat.zero_le _)
      (by omega : second / 3600 ≤ 23),
    takePair_padded (by omega : second / 60 % 60 < 100) (Nat.zero_le _)
      (by omega : second / 60 % 60 ≤ 59),
    takePair_padded (by omega : second % 60 + nanos / 1000000000 < 100) (Nat.zero_le _) shown,
    takeFraction_padded micros, takeOffset, sameYear, sameDate, List.isEmpty_nil, Bool.not_true,
    Bool.false_eq_true, if_false, if_pos valid]
  have seconds : second / 3600 * 3600 + second / 60 % 60 * 60 +
      min (second % 60 + nanos / 1000000000) 59 = second := by
    omega
  simp only [seconds, nanos_of_shown inSecond leap, ofLocal_utc date _ inDay, truncateToMicros]

/-- Whether an instant is one that a store takes from its clock: a proper one of
the years 0 to 9999, cut to microseconds. -/
def IsStamp (instant : Instant) : Prop :=
  instant.IsProper ∧ instant.HasPlainYear ∧ instant.truncateToMicros = instant

instance (instant : Instant) : Decidable instant.IsStamp := by
  unfold IsStamp
  infer_instance

/-- A store loses nothing of what it takes from its clock. -/
theorem IsStamp.ofText_toMicrosText {instant : Instant} (stamp : instant.IsStamp) :
    ofText instant.toMicrosText = .ok instant := by
  rw [Instant.ofText_toMicrosText stamp.1 stamp.2.1, stamp.2.2]

end Instant
end Time
end BpnDirectory
