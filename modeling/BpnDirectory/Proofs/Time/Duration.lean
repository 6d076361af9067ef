import BpnDirectory.Time.Duration
import Mathlib.Order.Basic

namespace BpnDirectory
namespace Time
namespace Duration

/-!
Durations read as spans.

Products and sums of durations are exact, and there is one whenever its span is in range.
-/

/-! ## Parts -/

variable {first second sum product duration : Duration}

theorem seconds?_eq_some_iff {n : Nat} {seconds : UInt64} :
    seconds? n = some seconds ↔ seconds.toNat = n := by
  unfold seconds?
  split
  · next fits =>
      rw [Option.some.injEq, ← UInt64.toNat_inj, UInt64.toNat_ofNatLT, eq_comm]
  · next overflows =>
      refine iff_of_false nofun ?_
      rintro rfl
      exact overflows seconds.toNat_lt_size

theorem span_le_longest (duration : Duration) : duration.span ≤ Span.longest := by
  have seconds := duration.seconds.toNat_lt
  have nanos := duration.nanos_lt
  simp only [span, Span.ofSeconds, Span.longest, Span.perSecond, Span] at *
  omega

theorem span_longest : longest.span = Span.longest := rfl

/-- A duration is known by its span. -/
theorem span_inj : first.span = second.span ↔ first = second := by
  refine ⟨fun same => ?_, congrArg span⟩
  rcases first with ⟨seconds, nanos, nanos_lt⟩
  rcases second with ⟨otherSeconds, otherNanos, otherNanos_lt⟩
  simp only [span, Span.ofSeconds, Span.perSecond, Span] at same nanos_lt otherNanos_lt
  have sameSeconds : seconds = otherSeconds := UInt64.toNat_inj.mp (by omega)
  have sameNanos : nanos = otherNanos := UInt32.toNat_inj.mp (by omega)
  simp only [sameSeconds, sameNanos]

theorem span_ofParts (seconds : UInt64) (nanos : Nat) :
    (ofParts seconds nanos).span = Span.ofSeconds seconds.toNat + nanos % Span.perSecond := by
  have small : nanos % Span.perSecond < 2 ^ 32 :=
    Nat.lt_trans (Nat.mod_lt nanos (by decide)) (by decide)
  simp only [span, ofParts, UInt32.toNat_ofNat', Nat.mod_eq_of_lt small]

theorem span_ofSeconds (seconds : UInt64) :
    (ofSeconds seconds).span = Span.ofSeconds seconds.toNat := by
  rw [ofSeconds, span_ofParts, Nat.zero_mod, Nat.add_zero]

theorem span_ofMillis (millis : UInt64) : (ofMillis millis).span = Span.ofMillis millis.toNat := by
  have thousand : (1000 : UInt64).toNat = 1000 := rfl
  rw [ofMillis, span_ofParts, UInt64.toNat_div, UInt64.toNat_mod, thousand]
  simp only [Span.ofSeconds, Span.ofMillis, Span.perSecond, Span.perMilli, Span]
  omega

theorem millis_eq (duration : Duration) : duration.millis = duration.span / Span.perMilli := by
  simp only [millis, span, Span.ofSeconds, Span.perSecond, Span.perMilli]
  omega

/-- The order by seconds first is that of spans. -/
theorem le_iff_span_le : first ≤ second ↔ first.span ≤ second.span := by
  change (first.seconds < second.seconds ∨
    first.seconds = second.seconds ∧ first.nanos ≤ second.nanos) ↔ _
  rw [UInt64.lt_iff_toNat_lt, UInt32.le_iff_toNat_le, ← UInt64.toNat_inj]
  have nanos := first.nanos_lt
  have others := second.nanos_lt
  simp only [span, Span.ofSeconds, Span.perSecond, Span] at *
  omega

theorem span_min (first second : Duration) :
    (min first second).span = min first.span second.span := by
  change (if first ≤ second then first else second).span = _
  rw [Nat.min_def]
  simp only [le_iff_span_le]
  split <;> rfl

/-! ## Products and sums -/

/-- The seconds overflow exactly if there is no duration of that span. -/
theorem carried?_eq_some_iff {seconds nanos : Nat} :
    carried? seconds nanos = some duration ↔
      duration.span = Span.ofSeconds seconds + nanos := by
  simp only [carried?, Option.bind_eq_bind, Option.bind_eq_some_iff, seconds?_eq_some_iff,
    Option.pure_def, Option.some.injEq]
  constructor
  · rintro ⟨_, rfl, all, carried, rfl⟩
    rw [span_ofParts, carried]
    simp only [Span.ofSeconds, Span.perSecond, Span]
    omega
  · intro same
    -- The seconds of the result bound those before the carry, so neither step overflows.
    have below := duration.nanos_lt
    have all : duration.seconds.toNat = seconds + nanos / Span.perSecond := by
      simp only [span, Span.ofSeconds, Span.perSecond, Span] at *
      omega
    have fits : seconds < UInt64.size :=
      Nat.lt_of_le_of_lt (Nat.le_add_right seconds _) (all ▸ duration.seconds.toNat_lt_size)
    refine ⟨UInt64.ofNatLT seconds fits, UInt64.toNat_ofNatLT, duration.seconds, ?_, ?_⟩
    · rw [all, UInt64.toNat_ofNatLT]
    · apply span_inj.mp
      rw [span_ofParts, all, same]
      simp only [Span.ofSeconds, Span.perSecond, Span]
      omega

/-- The nanoseconds of a product have at most 62 bits. -/
theorem toNat_nanos_mul (duration : Duration) (n : UInt32) :
    (duration.nanos.toUInt64 * n.toUInt64).toNat = duration.nanos.toNat * n.toNat := by
  rw [UInt64.toNat_mul, UInt32.toNat_toUInt64, UInt32.toNat_toUInt64]
  apply Nat.mod_eq_of_lt
  calc duration.nanos.toNat * n.toNat
      < 2 ^ 32 * 2 ^ 32 := Nat.mul_lt_mul'' duration.nanos.toNat_lt n.toNat_lt
    _ = 2 ^ 64 := by decide

/-- The nanoseconds of a sum have at most 31 bits. -/
theorem toNat_nanos_add (first second : Duration) :
    (first.nanos + second.nanos).toNat = first.nanos.toNat + second.nanos.toNat := by
  rw [UInt32.toNat_add]
  apply Nat.mod_eq_of_lt
  calc first.nanos.toNat + second.nanos.toNat
      < Span.perSecond + Span.perSecond := Nat.add_lt_add first.nanos_lt second.nanos_lt
    _ < 2 ^ 32 := by decide

theorem times?_eq_some_iff {n : UInt32} :
    duration.times? n = some product ↔ product.span = duration.span * n.toNat := by
  have parts : Span.ofSeconds (duration.seconds.toNat * n.toNat) +
      duration.nanos.toNat * n.toNat = duration.span * n.toNat := by
    rw [span, Span.ofSeconds, Span.ofSeconds, Nat.add_mul, Nat.mul_right_comm]
  rw [times?, carried?_eq_some_iff, toNat_nanos_mul, parts]

theorem plus?_eq_some_iff :
    first.plus? second = some sum ↔ sum.span = first.span + second.span := by
  have parts : Span.ofSeconds (first.seconds.toNat + second.seconds.toNat) +
      (first.nanos.toNat + second.nanos.toNat) = first.span + second.span := by
    simp only [span, Span.ofSeconds, Nat.add_mul, Nat.add_add_add_comm]
  rw [plus?, carried?_eq_some_iff, toNat_nanos_add, parts]

/-- Every span up to the longest one is that of a duration. -/
theorem exists_span_eq {length : Span} (bounded : length ≤ Span.longest) :
    ∃ duration : Duration, duration.span = length := by
  have fits : length / Span.perSecond < UInt64.size := by
    apply Nat.div_lt_of_lt_mul
    exact Nat.lt_of_le_of_lt bounded (by decide)
  refine ⟨ofParts (UInt64.ofNatLT (length / Span.perSecond) fits) length, ?_⟩
  rw [span_ofParts, UInt64.toNat_ofNatLT]
  exact Nat.div_add_mod' length Span.perSecond

/-- A product beyond the longest duration becomes that one, and never wraps. -/
theorem span_times (duration : Duration) (n : UInt32) :
    (duration.times n).span = Span.times duration.span n.toNat := by
  unfold times Span.times
  cases taken : duration.times? n with
  | some product =>
      have same := times?_eq_some_iff.mp taken
      rw [Option.getD_some, same, Nat.min_eq_left (same ▸ span_le_longest product)]
  | none =>
      have beyond : ¬ duration.span * n.toNat ≤ Span.longest := by
        intro bounded
        rcases exists_span_eq bounded with ⟨product, same⟩
        rw [times?_eq_some_iff.mpr same] at taken
        cases taken
      rw [Option.getD_none, span_longest, Nat.min_eq_right (Nat.le_of_not_le beyond)]

end Duration
end Time
end BpnDirectory
