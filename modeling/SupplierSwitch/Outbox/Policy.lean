import SupplierSwitch.Json.Reader
import SupplierSwitch.Text.Lowercase

namespace SupplierSwitch

/-!
# Policies of the outbox

Which commands a drain runs, and how often and how soon a failed command is tried again.
-/

/-- Whether a drain runs commands that are committed after it started. -/
inductive DrainPolicy where
  | includeNewlyEnqueued
  | snapshotAtStart
  deriving DecidableEq, Repr

namespace DrainPolicy

instance : Inhabited DrainPolicy := ⟨includeNewlyEnqueued⟩

/-- The setting that selects a policy, in any case and with blanks around it. -/
def parse (s : String) : Except String DrainPolicy :=
  let word := Text.lowercase (Text.trim s)
  if word = "include-new" ∨ word = "include-newly-enqueued" then .ok includeNewlyEnqueued
  else if word = "snapshot" ∨ word = "snapshot-at-start" then .ok snapshotAtStart
  else .error ("unknown drain policy '" ++ word ++ "' (expected 'include-new' or 'snapshot')")

/-- The stored name of a policy. -/
def name : DrainPolicy → String
  | includeNewlyEnqueued => "include-newly-enqueued"
  | snapshotAtStart => "snapshot-at-start"

/-- A policy in diagnostics. -/
def describe : DrainPolicy → String
  | includeNewlyEnqueued => "IncludeNewlyEnqueued"
  | snapshotAtStart => "SnapshotAtStart"

end DrainPolicy

/-- How the delay between attempts grows. -/
inductive BackoffStrategy where
  | fixed
  | exponential
  | linear
  deriving DecidableEq, Repr

namespace BackoffStrategy

/-- The stored name of a strategy. -/
def name : BackoffStrategy → String
  | fixed => "fixed"
  | exponential => "exponential"
  | linear => "linear"

/-- A strategy in diagnostics. -/
def describe : BackoffStrategy → String
  | fixed => "Fixed"
  | exponential => "Exponential"
  | linear => "Linear"

/-- Read the stored name of a strategy. -/
def ofJson : Reader BackoffStrategy :=
  Json.readVariant ([fixed, exponential, linear].map fun strategy => (strategy.name, strategy))

end BackoffStrategy

/-- How often and how soon a failed command is tried again. -/
structure RetryPolicy where
  maxAttempts : UInt32
  baseDelay : Duration
  maxDelay : Duration
  strategy : BackoffStrategy
  deriving DecidableEq

namespace RetryPolicy

/-- Five attempts, half a second apart at first, then twice as long each time up to a minute. -/
def standard : RetryPolicy :=
  ⟨5, .ofMillis 500, .ofSeconds 60, .exponential⟩

instance : Inhabited RetryPolicy := ⟨standard⟩

/-- No second attempt. -/
def noRetry : RetryPolicy :=
  { standard with maxAttempts := 0 }

/-- The same delay before each attempt. -/
def fixed (maxAttempts : UInt32) (delay : Duration) : RetryPolicy :=
  ⟨maxAttempts, delay, delay, .fixed⟩

/-- The delay doubles from attempt to attempt. -/
def exponential (maxAttempts : UInt32) (baseDelay maxDelay : Duration) : RetryPolicy :=
  ⟨maxAttempts, baseDelay, maxDelay, .exponential⟩

/-- A power of two, or the greatest number of 32 bits if the power is greater. -/
def doublingFactor (exponent : Nat) : Nat :=
  if exponent < 32 then Nat.pow 2 exponent else Text.greatest32

/-- The delay after a failed attempt, before the cap. -/
def uncappedDelay (p : RetryPolicy) (attempt : UInt32) : Duration :=
  match p.strategy with
  | .fixed => p.baseDelay
  | .exponential => p.baseDelay.scale (doublingFactor (attempt.toNat - 1))
  | .linear => p.baseDelay.scale attempt.toNat

/-- The delay after the failed attempt of the given number, counted from one. Number zero, which a
count that has gone round shows, waits for nothing. -/
def delayForAttempt (p : RetryPolicy) (attempt : UInt32) : Duration :=
  if attempt = 0 then .zero else min (p.uncappedDelay attempt) p.maxDelay

/-- Another attempt is allowed after so many. -/
def shouldRetry (p : RetryPolicy) (attempts : UInt32) : Bool :=
  attempts < p.maxAttempts

/-- Read the stored form of a policy. -/
def ofJson : Reader RetryPolicy :=
  Json.readRecord "RetryPolicy" <| RetryPolicy.mk
    <$> .required "max_attempts" Json.readUInt32
    <*> .required "base_delay" Duration.ofJson
    <*> .required "max_delay" Duration.ofJson
    <*> .required "strategy" BackoffStrategy.ofJson

/-- The stored form of a policy. -/
def toJson (p : RetryPolicy) : Json :=
  .object [("base_delay", p.baseDelay.toJson), ("max_attempts", .nat p.maxAttempts.toNat),
    ("max_delay", p.maxDelay.toJson), ("strategy", .string p.strategy.name)]

/-- A policy in diagnostics. -/
def describe (p : RetryPolicy) : String :=
  "RetryPolicy \x7b max_attempts: " ++ toString p.maxAttempts.toNat ++
    ", base_delay: " ++ p.baseDelay.render ++ ", max_delay: " ++ p.maxDelay.render ++
    ", strategy: " ++ p.strategy.describe ++ " \x7d"

end RetryPolicy

end SupplierSwitch
