import SupplierSwitch.Proofs.Calendar.LaterInstants
import SupplierSwitch.Proofs.Memory.Lookup
import SupplierSwitch.Proofs.Outbox.Backoff

namespace SupplierSwitch

/-!
# Waiting

A failed command waits for the delay of its policy and a claim lasts as long as its lease. Delays
grow with the attempts up to the cap, stop at the greatest duration on the way, and end with the
calendar. None of these bounds turns a later instant into an earlier one.

* `RetryPolicy.delayForAttempt_mono`, `RetryPolicy.delayForAttempt_le_maxDelay` — the delays;
* `RetryPolicy.waits_are_ordered` — the instants of retries and the ends of leases;
* `RetryPolicy.due_in_the_past` — the leap second that the calendar has no instant after.
-/

open BackoffStrategy

theorem BackoffStrategy.multiple_mono (strategy : BackoffStrategy) {a b : Nat} (le : a ≤ b) :
    strategy.multiple a ≤ strategy.multiple b := by
  unfold multiple
  cases strategy with
  | fixed => exact Nat.le_refl 1
  | exponential => exact Nat.pow_le_pow_right (by decide) (Nat.sub_le_sub_right le 1)
  | linear => exact le

namespace RetryPolicy

variable (p : RetryPolicy) {a b : UInt32}

/-! ### Delays -/

theorem uncappedDelay_mono (le : a ≤ b) : p.uncappedDelay a ≤ p.uncappedDelay b := by
  show (p.uncappedDelay a).nanos ≤ (p.uncappedDelay b).nanos
  have grows := p.strategy.multiple_mono (UInt32.le_iff_toNat_le.mp le)
  have multiplied : p.baseDelay.nanos * min (p.strategy.multiple a.toNat) greatestMultiple
      ≤ p.baseDelay.nanos * min (p.strategy.multiple b.toNat) greatestMultiple :=
    Nat.mul_le_mul_left _ (by omega)
  rw [nanos_uncappedDelay, nanos_uncappedDelay]
  omega

theorem nanos_delayForAttempt (attempt : UInt32) : (p.delayForAttempt attempt).nanos
    = if attempt = 0 then 0 else min (p.uncappedDelay attempt).nanos p.maxDelay.nanos := by
  unfold delayForAttempt
  split
  · rfl
  · exact Duration.nanos_min _ _

/-- The delay never gets shorter with another attempt. -/
theorem delayForAttempt_mono (le : a ≤ b) : p.delayForAttempt a ≤ p.delayForAttempt b := by
  show (p.delayForAttempt a).nanos ≤ (p.delayForAttempt b).nanos
  rw [nanos_delayForAttempt, nanos_delayForAttempt]
  by_cases first : a = 0
  · rw [if_pos first]
    exact Nat.zero_le _
  · have later : b ≠ 0 := by
      rintro rfl
      exact first (UInt32.le_antisymm le (UInt32.zero_le))
    rw [if_neg first, if_neg later]
    have uncapped : (p.uncappedDelay a).nanos ≤ (p.uncappedDelay b).nanos :=
      p.uncappedDelay_mono le
    omega

theorem delayForAttempt_le_maxDelay (attempt : UInt32) :
    p.delayForAttempt attempt ≤ p.maxDelay := by
  show (p.delayForAttempt attempt).nanos ≤ p.maxDelay.nanos
  rw [nanos_delayForAttempt]
  split
  · exact Nat.zero_le _
  · exact Nat.min_le_right _ _

end RetryPolicy

namespace Tables

variable {t t' : Tables} {id : CommandId} {token : ClaimToken} {error : String} {p : RetryPolicy}
  {now due : Timestamp} {attempts : UInt32}

/-! ### Instants -/

theorem due_of_failed {c : InternalCommand} (h : (failed c error p now).2 = .retry attempts due) :
    now.Due (p.delayForAttempt attempts) due ∧ (failed c error p now).1.attempts = attempts ∧
      (failed c error p now).1.notBefore = some due := by
  cases again : p.shouldRetry (c.attempts + 1) with
  | false =>
    rw [failed_of_last again] at h
    cases h
  | true =>
    rw [failed_of_retry again] at h ⊢
    cases h
    exact ⟨now.due_offsetBy _, rfl, rfl⟩

/-- What is reported of a retry is stored, and is due after the delay of the counted attempt. -/
theorem due_of_recordFailure
    (h : t.recordFailure id token error p now = .ok (.retry attempts due, t')) :
    now.Due (p.delayForAttempt attempts) due ∧
      ∃ row, t'.row? id = some row ∧ row.command.attempts = attempts ∧
        row.command.notBefore = some due := by
  obtain ⟨row, runsOut, found, held, reported, rfl⟩ := recordFailure_ok_iff.mp h
  have same : row.command.id = id := id_of_row? found
  have look := row?_updateRow t id id (fun _ => ⟨(failed row.command error p now).1, none⟩)
    fun _ _ => (id_failed row.command error p now).trans same
  rw [if_pos rfl, found] at look
  obtain ⟨waits, counted, stored⟩ := due_of_failed reported.symm
  exact ⟨waits, _, look, counted, stored⟩

/-- A claim runs out when its lease is over. -/
theorem due_of_claim {row : CommandRow} (found : t.row? id = some row) (token : ClaimToken)
    (lease : Duration) (now : Timestamp) : ∃ runsOut, now.Due lease runsOut ∧
      (t.claim id token lease now).row? id = some { row with claim := some (token, runsOut) } := by
  refine ⟨now.offsetBy lease, now.due_offsetBy lease, ?_⟩
  rw [row?_claim, if_pos rfl, found]
  rfl

end Tables

namespace RetryPolicy

open Timestamp

/-- Delays never get shorter from attempt to attempt, and never exceed the cap. The instant of a
retry and the end of a lease are exactly as much later as the delay says, or the last instant of the
calendar if it has none that late. Unless the failure or the claim is in a leap second after the
last second of the calendar, the instant is not in the past, and not earlier than after a shorter
delay. -/
theorem waits_are_ordered (p : RetryPolicy) :
    (∀ a b : UInt32, a ≤ b →
      p.delayForAttempt a ≤ p.delayForAttempt b ∧ p.delayForAttempt b ≤ p.maxDelay) ∧
    ∀ now : Timestamp,
      (∀ delay due, now.offsetBy delay = due ↔ now.Due delay due) ∧
      (∀ t id token error attempts due t',
        Tables.recordFailure t id token error p now = .ok (.retry attempts due, t') →
        now.Due (p.delayForAttempt attempts) due ∧
          ∃ row, t'.row? id = some row ∧ row.command.attempts = attempts ∧
            row.command.notBefore = some due) ∧
      (∀ (t : Tables) id row, t.row? id = some row → ∀ token lease, ∃ runsOut,
        now.Due lease runsOut ∧
          (t.claim id token lease now).row? id
            = some { row with claim := some (token, runsOut) }) ∧
      ((now.IsLeap → now.second < lastSecond) →
        (∀ delay due, now.Due delay due → now ≤ due ∧ due ≤ greatest) ∧
        (∀ delay longer due later, delay ≤ longer → now.Due delay due → now.Due longer later →
          due ≤ later)) := by
  refine ⟨fun a b le => ⟨p.delayForAttempt_mono le, p.delayForAttempt_le_maxDelay b⟩, ?_⟩
  intro now
  refine ⟨fun _ _ => offsetBy_eq_iff, fun _ _ _ _ _ _ _ => Tables.due_of_recordFailure,
    fun _ _ _ found token lease => Tables.due_of_claim found token lease now, ?_⟩
  intro inside
  have before : now ≤ greatest := le_greatest_iff.mpr inside
  exact ⟨fun _ _ due => ⟨due.le before, due.le_greatest before⟩,
    fun _ _ _ _ le due later => due.mono later before le⟩

/-- Half a leap second after the last second of the calendar. -/
def afterTheLast : Timestamp :=
  { greatest with nano := 1500000000, nano_lt := by decide }

/-- A command that fails then and waits for a second is due before it failed. -/
theorem due_in_the_past :
    (Tables.failed (.fresh default "Script" .null epoch) "boom" (.fixed 2 (.ofSeconds 1))
        afterTheLast).2 = .retry 1 greatest ∧
      greatest < afterTheLast ∧ afterTheLast.offsetBy .zero = afterTheLast ∧
      ¬ afterTheLast.offsetBy .zero ≤ afterTheLast.offsetBy (.ofSeconds 1) := by
  decide

end RetryPolicy

end SupplierSwitch
