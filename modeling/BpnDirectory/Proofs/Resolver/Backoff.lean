import BpnDirectory.Proofs.Time.Duration
import BpnDirectory.Resolver.Backoff
import Mathlib.Algebra.Order.Group.Nat

namespace BpnDirectory
namespace Resolver

/-!
Delays before retries.

A product out of range becomes the longest duration, and the longest delay, which is
no longer than that, cuts it all the same.  A sum out of range is no delay at all.  What rules it
out is a bound on the longest delay, whatever the base: 64 bits of milliseconds are much less
than 64 bits of seconds.
-/

open Time (Duration Span)

/-! ## Delays as spans -/

namespace Retry

variable {retry : Retry}

/-- A product that is cut at the longest span is cut at the longest delay afterwards. -/
theorem exponential_eq (bounded : retry.longest ≤ Span.longest) (attempt : Nat) :
    retry.exponential attempt = min (retry.base * 2 ^ min attempt 16) retry.longest := by
  change min (min _ Span.longest) retry.longest = _
  rw [Nat.min_assoc, Nat.min_eq_right bounded]
  rfl

theorem exponential_le_longest (retry : Retry) (attempt : Nat) :
    retry.exponential attempt ≤ retry.longest :=
  Nat.min_le_right _ _

theorem exponential_mono (bounded : retry.longest ≤ Span.longest) :
    Monotone retry.exponential := by
  intro attempt later before
  have doublings : min attempt 16 ≤ min later 16 := by omega
  have product : retry.base * 2 ^ min attempt 16 ≤ retry.base * 2 ^ min later 16 :=
    Nat.mul_le_mul_left _ (Nat.pow_le_pow_right (by decide) doublings)
  rw [exponential_eq bounded, exponential_eq bounded]
  exact min_le_min_right retry.longest product

/-- A base that is no shorter than the longest delay makes that the only one. -/
theorem exponential_eq_longest (bounded : retry.longest ≤ Span.longest)
    (short : retry.longest ≤ retry.base) (attempt : Nat) :
    retry.exponential attempt = retry.longest := by
  rw [exponential_eq bounded]
  apply Nat.min_eq_right
  calc retry.longest
      ≤ retry.base := short
    _ ≤ retry.base * 2 ^ min attempt 16 := Nat.le_mul_of_pos_right _ (Nat.two_pow_pos _)

theorem jitterLimit_le (retry : Retry) : retry.jitterLimit ≤ retry.base / Span.perMilli :=
  Nat.mod_le _ _

theorem le_delay (retry : Retry) (attempt jitter : Nat) :
    retry.exponential attempt ≤ retry.delay attempt jitter :=
  Nat.le_add_right _ _

theorem delay_le (retry : Retry) (attempt jitter : Nat) :
    retry.delay attempt jitter ≤
      retry.exponential attempt + Span.ofMillis (retry.base / Span.perMilli) := by
  apply Nat.add_le_add_left
  apply Nat.mul_le_mul_right
  exact Nat.le_trans (Nat.min_le_right _ _) retry.jitterLimit_le

/-- A base of less than a millisecond leaves nothing to chance. -/
theorem delay_of_base_lt (short : retry.base < Span.perMilli) (attempt jitter : Nat) :
    retry.delay attempt jitter = retry.exponential attempt := by
  apply Nat.le_antisymm _ (retry.le_delay attempt jitter)
  have bounded := retry.delay_le attempt jitter
  rwa [Nat.div_eq_of_lt short, Span.ofMillis, Nat.zero_mul, Nat.add_zero] at bounded

/-- The random part has less than half of the longest span, and leaves the other half. -/
theorem delay_le_longest (room : retry.longest ≤ Span.ofSeconds (2 ^ 63))
    (attempt jitter : Nat) : retry.delay attempt jitter ≤ Span.longest := by
  have fixed := Nat.le_trans (retry.exponential_le_longest attempt) room
  have drawn : min jitter retry.jitterLimit < 2 ^ 64 :=
    Nat.lt_of_le_of_lt (Nat.min_le_right _ _) (Nat.mod_lt _ (by decide))
  simp only [delay, Span.ofSeconds, Span.ofMillis, Span.longest, Span.perSecond, Span.perMilli,
    Span] at *
  omega

end Retry

/-! ## Delays as durations -/

namespace Backoff

variable {backoff : Backoff} {attempt : UInt32} {draw : Draw} {delay : Duration}

theorem toNat_min (first second : UInt32) :
    (min first second).toNat = min first.toNat second.toNat := by
  change (if first ≤ second then first else second).toNat = _
  rw [Nat.min_def]
  simp only [UInt32.le_iff_toNat_le]
  split <;> rfl

/-- A shift by at most sixteen places loses none of 32 bits. -/
theorem toNat_factor (attempt : UInt32) : (factor attempt).toNat = 2 ^ min attempt.toNat 16 := by
  have places : (min attempt 16).toNat = min attempt.toNat 16 := toNat_min attempt 16
  have few : min attempt.toNat 16 < 32 := Nat.lt_of_le_of_lt (Nat.min_le_right _ _) (by decide)
  have kept : 2 ^ min attempt.toNat 16 < 2 ^ 32 := Nat.pow_lt_pow_right (by decide) few
  have one : (1 : UInt32).toNat = 1 := rfl
  rw [factor, UInt32.toNat_shiftLeft, places, Nat.mod_eq_of_lt few, Nat.shiftLeft_eq, one,
    Nat.one_mul, Nat.mod_eq_of_lt kept]

/-- The product is exact as long as it is in range, and does not wrap where it is not. -/
theorem span_times_factor (backoff : Backoff) (attempt : UInt32) :
    (backoff.base.times (factor attempt)).span =
      min (backoff.base.span * 2 ^ min attempt.toNat 16) Span.longest := by
  rw [Duration.span_times, toNat_factor]
  rfl

theorem span_exponential (backoff : Backoff) (attempt : UInt32) :
    (backoff.exponential attempt).span = backoff.toRetry.exponential attempt.toNat := by
  rw [exponential, Duration.span_min, span_times_factor]
  rfl

theorem toNat_jitterLimit (backoff : Backoff) :
    backoff.jitterLimit.toNat = backoff.toRetry.jitterLimit := by
  rw [jitterLimit, UInt64.toNat_ofNat', Duration.millis_eq]
  rfl

theorem jitter_le (backoff : Backoff) (draw : Draw) :
    (backoff.jitter draw).toNat ≤ backoff.toRetry.jitterLimit := by
  rw [← toNat_jitterLimit, ← UInt64.le_iff_toNat_le]
  unfold jitter
  split
  · exact draw.upTo_le _
  · exact UInt64.zero_le

/-- A delay is what has the span of a delay. -/
theorem delay?_eq_some_iff :
    backoff.delay? attempt draw = some delay ↔
      delay.span = backoff.toRetry.delay attempt.toNat (backoff.jitter draw).toNat := by
  rw [delay?, Duration.plus?_eq_some_iff, span_exponential, Duration.span_ofMillis, Retry.delay,
    Nat.min_eq_left (backoff.jitter_le draw)]

/-- Where nothing bounds the longest delay, the sum may be out of range. -/
example : delay? ⟨0, .longest, .longest⟩ 0 .greatest = none := by decide +kernel

theorem toRetry_ofSettings (settings : Settings) :
    (ofSettings settings).toRetry = settings.policy.retry := by
  rw [toRetry, ofSettings, Duration.span_ofMillis, Duration.span_ofSeconds]
  rfl

/-- Delays double up to their cap without any overflow, and the random part never takes them out
of range. -/
theorem backs_off_in_range :
    (∀ settings : Settings, (ofSettings settings).toRetry = settings.policy.retry ∧
      (ofSettings settings).longest.span ≤ Span.ofSeconds (2 ^ 63)) ∧
    ∀ backoff : Backoff, backoff.longest.span ≤ Span.ofSeconds (2 ^ 63) →
      let retry := backoff.toRetry
      Monotone retry.exponential ∧
      (retry.longest ≤ retry.base → ∀ attempt, retry.exponential attempt = retry.longest) ∧
      ∀ attempt : UInt32,
        retry.exponential attempt.toNat =
          min (retry.base * 2 ^ min attempt.toNat 16) retry.longest ∧
        (backoff.base.times (factor attempt)).span =
          min (retry.base * 2 ^ min attempt.toNat 16) Span.longest ∧
        ∀ draw, ∃ delay, backoff.delay? attempt draw = some delay ∧
          delay.span = retry.delay attempt.toNat (backoff.jitter draw).toNat ∧
          retry.exponential attempt.toNat ≤ delay.span ∧
          delay.span ≤
            retry.exponential attempt.toNat + Span.ofMillis (retry.base / Span.perMilli) ∧
          (retry.base < Span.perMilli → delay.span = retry.exponential attempt.toNat) := by
  constructor
  · intro settings
    refine ⟨toRetry_ofSettings settings, ?_⟩
    rw [ofSettings, Duration.span_ofSeconds]
    decide
  · intro backoff room retry
    have bounded : retry.longest ≤ Span.longest := backoff.longest.span_le_longest
    refine ⟨Retry.exponential_mono bounded, Retry.exponential_eq_longest bounded, ?_⟩
    intro attempt
    refine ⟨Retry.exponential_eq bounded _, backoff.span_times_factor attempt, ?_⟩
    intro draw
    -- Only here the bound on the longest delay matters: it leaves room for the random part.
    have inRange := retry.delay_le_longest room attempt.toNat (backoff.jitter draw).toNat
    rcases Duration.exists_span_eq inRange with ⟨delay, same⟩
    refine ⟨delay, delay?_eq_some_iff.mpr same, same, ?_, ?_, ?_⟩
    · rw [same]
      exact retry.le_delay _ _
    · rw [same]
      exact retry.delay_le _ _
    · intro short
      rw [same]
      exact Retry.delay_of_base_lt short _ _

/-- A policy whose product overflows at once, and of whose base the milliseconds do. -/
def utmost : Backoff := ⟨3, .longest, .ofSeconds 0x8000000000000000⟩

/-- A policy whose base has no whole millisecond. -/
def slight : Backoff := ⟨3, ⟨0, 999999, by decide⟩, .ofSeconds 2⟩

/-- The greatest random part goes on top of the longest delay that leaves room for it, and none
on top of multiples of less than a millisecond. -/
theorem utmost_backs_off_in_range :
    (utmost.longest.span ≤ Span.ofSeconds (2 ^ 63) ∧
      utmost.toRetry.longest ≤ utmost.toRetry.base ∧
      utmost.toRetry.exponential 4294967295 = Span.ofSeconds (2 ^ 63) ∧
      ∃ delay, utmost.delay? 4294967295 .greatest = some delay ∧
        delay.span = Span.ofSeconds (2 ^ 63) + Span.ofMillis (2 ^ 64 - 1)) ∧
    slight.longest.span ≤ Span.ofSeconds (2 ^ 63) ∧
      slight.toRetry.base < Span.perMilli ∧
      ∃ delay, slight.delay? 3 .greatest = some delay ∧ delay.span = 8 * 999999 := by
  have room : utmost.longest.span ≤ Span.ofSeconds (2 ^ 63) := by decide +kernel
  have capped : utmost.toRetry.longest ≤ utmost.toRetry.base := by decide +kernel
  have slightRoom : slight.longest.span ≤ Span.ofSeconds (2 ^ 63) := by decide +kernel
  have short : slight.toRetry.base < Span.perMilli := by decide +kernel
  have utmostInRange := backs_off_in_range.2 utmost room
  have slightInRange := backs_off_in_range.2 slight slightRoom
  refine ⟨⟨room, capped, ?_, ?_⟩, slightRoom, short, ?_⟩
  · refine (utmostInRange.2.1 capped _).trans ?_
    decide +kernel
  · rcases (utmostInRange.2.2 4294967295).2.2 .greatest with ⟨delay, delayed, same, _⟩
    refine ⟨delay, delayed, same.trans ?_⟩
    decide +kernel
  · rcases (slightInRange.2.2 3).2.2 .greatest with ⟨delay, delayed, _, _, _, unchanged⟩
    refine ⟨delay, delayed, (unchanged short).trans ?_⟩
    decide +kernel

end Backoff

end Resolver
end BpnDirectory
