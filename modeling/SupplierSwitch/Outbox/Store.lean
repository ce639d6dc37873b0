import SupplierSwitch.Outbox.Handling
import SupplierSwitch.Outbox.World

namespace SupplierSwitch

/-!
# Command stores

What a drain needs of the place where commands and aggregates are kept. A store is any state with
these operations; nothing is assumed of what they answer.
-/

/-- A store with state `σ` whose open units of work have state `υ`. -/
structure CommandStore (σ υ : Type) where
  /-- Open a unit of work. -/
  begin : Service σ (Except StoreError υ)
  /-- Answer a question put to a unit of work. -/
  answer : (call : UnitCall) → υ → Service σ (call.Answer × υ)
  /-- Make everything that a unit has staged visible, or nothing. -/
  commit : υ → Service σ (Except StoreError Unit)
  /-- Hand out the next ready command under a claim. -/
  claimNext : ClaimFilter → Service σ (Except StoreError (Option ClaimedCommand))
  /-- Record that a claimed command failed, and release the claim. -/
  recordFailure : CommandId → ClaimToken → String → RetryPolicy → Timestamp →
    Service σ (Except StoreError FailureDisposition)
  get : CommandId → Service σ (Except StoreError (Option InternalCommand))
  /-- The last place in the order of commits. -/
  highWaterMark : Service σ (Except StoreError (Option Nat))
  /-- The first commands that were given up. -/
  deadLetters : Nat → Service σ (Except StoreError (List InternalCommand))
  /-- Revive a command that was given up. -/
  retryDeadLetter : CommandId → Service σ (Except StoreError InternalCommand)
  stats : Service σ (Except StoreError CommandStats)

namespace CommandStore

variable {σ υ α : Type}

/-- A computation within an open unit of work. -/
abbrev InUnit (σ υ : Type) := StateT υ (Service σ)

/-- What the steps of a program mean in a unit of a store. -/
def meaning (store : CommandStore σ υ) : (action : Action) → InUnit σ υ action.Answer
  | .ask call => fun unit => store.answer call unit
  | .now => StateT.lift Service.now
  | .freshId => StateT.lift Service.freshId
  | .report notice => StateT.lift (Service.report notice)

/-- Run a program in a unit of a store. -/
def runIn (store : CommandStore σ υ) (program : Handling α) : InUnit σ υ α :=
  program.run store.meaning

/-- A store with another state beside its own, which it leaves alone. -/
def beside (store : CommandStore σ υ) (τ : Type) : CommandStore (σ × τ) υ where
  begin := Service.onFirst store.begin
  answer call unit := Service.onFirst (store.answer call unit)
  commit unit := Service.onFirst (store.commit unit)
  claimNext filter := Service.onFirst (store.claimNext filter)
  recordFailure id claim error policy now :=
    Service.onFirst (store.recordFailure id claim error policy now)
  get id := Service.onFirst (store.get id)
  highWaterMark := Service.onFirst store.highWaterMark
  deadLetters limit := Service.onFirst (store.deadLetters limit)
  retryDeadLetter id := Service.onFirst (store.retryDeadLetter id)
  stats := Service.onFirst store.stats

end CommandStore

end SupplierSwitch
