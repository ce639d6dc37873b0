import SupplierSwitch.Outbox.Policy
import Mathlib.Algebra.Group.Nat.Defs

namespace SupplierSwitch

/-!
# Backoff

After a failed attempt a command waits for a multiple of the base delay of its policy, up to the
cap. Doubling is done in a number of 32 bits, which is full before the greatest duration is
reached, so that the delay stops growing after the thirty-third attempt whatever the cap allows.

* `BackoffStrategy.multiple` — the multiple that a strategy stands for, as an exact number;
* `RetryPolicy.nanos_uncappedDelay` — what is computed of it;
* `RetryPolicy.backoff_exact_iff` — the delay of every attempt, and when it is the exact one;
* `RetryPolicy.doubling_stops` — the attempt at which it is not.
-/

namespace BackoffStrategy

/-- How many base delays follow the failed attempt of the given number. -/
def multiple : BackoffStrategy → (attempt : Nat) → Nat
  | fixed, _ => 1
  | exponential, attempt => 2 ^ (attempt - 1)
  | linear, attempt => attempt

/-- The greatest multiple that is computed. -/
abbrev greatestMultiple : Nat := 4294967295

/-- Only doubling leaves the multiples that are computed, and only after 32 attempts. -/
theorem multiple_le_iff {strategy : BackoffStrategy} {attempt : Nat}
    (few : attempt ≤ greatestMultiple) :
    strategy.multiple attempt ≤ greatestMultiple ↔ (strategy = exponential → attempt ≤ 32) := by
  cases strategy with
  | fixed => simp [multiple, greatestMultiple]
  | linear => simp [multiple, few]
  | exponential =>
    have power : 2 ^ (attempt - 1) < 2 ^ 32 ↔ attempt - 1 < 32 :=
      Nat.pow_lt_pow_iff_right (by decide)
    simp only [multiple, greatestMultiple, true_implies]
    omega

end BackoffStrategy

namespace RetryPolicy

open BackoffStrategy

variable (p : RetryPolicy) (attempt : UInt32)

theorem doublingFactor_eq (exponent : Nat) :
    doublingFactor exponent = min (2 ^ exponent) greatestMultiple := by
  unfold doublingFactor
  split
  · rename_i small
    have bound : 2 ^ exponent < 2 ^ 32 := Nat.pow_lt_pow_right (by decide) small
    exact (Nat.min_eq_left (Nat.le_of_lt_succ bound)).symm
  · rename_i large
    have bound : 2 ^ 32 ≤ 2 ^ exponent := Nat.pow_le_pow_right (by decide) (Nat.le_of_not_lt large)
    exact (Nat.min_eq_right (Nat.le_trans (by decide) bound)).symm

/-- The multiple stops at the greatest one that is computed, and the delay at the greatest
duration. -/
theorem nanos_uncappedDelay : (p.uncappedDelay attempt).nanos
    = min (p.baseDelay.nanos * min (p.strategy.multiple attempt.toNat) greatestMultiple)
        Duration.greatestNanos := by
  have few : attempt.toNat ≤ greatestMultiple := Nat.le_of_lt_succ attempt.toNat_lt
  unfold uncappedDelay
  cases p.strategy with
  | fixed =>
    simp only [multiple]
    rw [Nat.min_eq_left (by decide : 1 ≤ greatestMultiple), Nat.mul_one,
      Nat.min_eq_left p.baseDelay.nanos_le]
  | exponential => simp only [multiple, Duration.nanos_scale, doublingFactor_eq]
  | linear => simp only [multiple, Duration.nanos_scale, Nat.min_eq_left few]

/-- Cutting a factor changes a capped product only if the product is neither nothing nor beyond the
cap. -/
theorem min_mul_min_eq_iff {cap base factor bound : Nat} :
    min cap (base * min factor bound) = min cap (base * factor)
      ↔ factor ≤ bound ∨ base = 0 ∨ cap ≤ base * bound := by
  obtain within | beyond := Nat.lt_or_ge bound factor |>.symm
  · simp [within]
  · rw [Nat.min_eq_right (Nat.le_of_lt beyond)]
    obtain rfl | positive := Nat.eq_zero_or_pos base
    · simp
    · have grows : base * bound < base * factor := Nat.mul_lt_mul_of_pos_left beyond positive
      omega

/-- The delay after a failed attempt is the multiple of the base delay that the strategy stands for,
as far as it is computed and up to the cap. It is the exact one unless delays have doubled beyond
what is computed before the cap was reached. -/
theorem backoff_exact_iff (counted : 1 ≤ attempt.toNat) :
    (p.delayForAttempt attempt).nanos = min p.maxDelay.nanos
      (p.baseDelay.nanos * min (p.strategy.multiple attempt.toNat) greatestMultiple) ∧
    ((p.delayForAttempt attempt).nanos
        = min p.maxDelay.nanos (p.baseDelay.nanos * p.strategy.multiple attempt.toNat)
      ↔ (p.strategy = .exponential → attempt.toNat ≤ 32) ∨ p.baseDelay.nanos = 0 ∨
        p.maxDelay.nanos ≤ p.baseDelay.nanos * greatestMultiple) := by
  have later : attempt ≠ 0 := by
    rintro rfl
    exact absurd counted (by decide)
  have delay : (p.delayForAttempt attempt).nanos = min p.maxDelay.nanos
      (p.baseDelay.nanos * min (p.strategy.multiple attempt.toNat) greatestMultiple) := by
    -- The cap is no greater than the greatest duration, which is therefore no bound of its own.
    have bounded := p.maxDelay.nanos_le
    rw [delayForAttempt, if_neg later, Duration.nanos_min, nanos_uncappedDelay]
    omega
  refine ⟨delay, ?_⟩
  rw [delay, min_mul_min_eq_iff,
    multiple_le_iff (Nat.le_of_lt_succ attempt.toNat_lt : attempt.toNat ≤ greatestMultiple)]

/-- A nanosecond at first, then twice as long each time up to an hour. -/
def steep : RetryPolicy :=
  .exponential 40 (.ofNanos 1) (.ofSeconds 3600)

/-- The thirty-second delay is the last one that has doubled. -/
theorem backoff_exact_iff_steep : 1 ≤ (32 : UInt32).toNat ∧
    (steep.delayForAttempt 32).nanos = min steep.maxDelay.nanos (steep.baseDelay.nanos * 2 ^ 31) :=
  have counted : 1 ≤ (32 : UInt32).toNat := by decide
  ⟨counted, (steep.backoff_exact_iff 32 counted).2.mpr (.inl fun _ => Nat.le_refl 32)⟩

/-- The next one is a nanosecond short, and far from the cap. -/
theorem doubling_stops :
    (steep.delayForAttempt 33).nanos = 4294967295 ∧
      min steep.maxDelay.nanos (steep.baseDelay.nanos * 2 ^ (33 - 1)) = 4294967296 := by
  decide

end RetryPolicy

end SupplierSwitch
