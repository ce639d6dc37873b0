import SupplierSwitch.Outbox.Router
import SupplierSwitch.Outbox.Store
import SupplierSwitch.Settings

namespace SupplierSwitch

/-!
# Drains

A drain claims ready commands one after another and hands each to its handler within a unit of work,
which also marks the command as processed. A failure that concerns one command is recorded on it and
the drain goes on; a failure of the store ends the drain.
Main definitions:

* `Processor.process`: one claimed command, from the opening of its unit to the report.
* `Processor.drain`: commands until none is ready, or the limit of one drain is reached.
-/

/-- A command that failed in a drain. -/
structure CommandFailure where
  commandId : CommandId
  kind : String
  attempt : UInt32
  error : String
  deadLettered : Bool
  deriving DecidableEq

/-- A failure as it is reported. -/
def CommandFailure.toJson (f : CommandFailure) : Json :=
  .object [("attempt", .nat f.attempt.toNat), ("command_id", f.commandId.toJson),
    ("dead_lettered", .bool f.deadLettered), ("error", .string f.error), ("kind", .string f.kind)]

/-- What a drain did. -/
structure DrainReport where
  processed : Nat
  completed : Nat
  rejected : Nat
  /-- Failures in order of dispatch. -/
  failures : List CommandFailure
  deadLettered : Nat
  /-- The drain stopped at its limit. -/
  truncated : Bool
  deriving DecidableEq

namespace DrainReport

/-- Nothing was done. -/
def empty : DrainReport := ⟨0, 0, 0, [], 0, false⟩

instance : Inhabited DrainReport := ⟨empty⟩

/-- The number of commands that were dispatched. -/
def attempted (r : DrainReport) : Nat :=
  r.processed + r.failures.length

/-- No command failed. -/
def isClean (r : DrainReport) : Bool :=
  r.failures.isEmpty

/-- One more processed command. -/
def addOutcome (r : DrainReport) : CommandOutcome → DrainReport
  | .completed => { r with processed := r.processed + 1, completed := r.completed + 1 }
  | .rejected _ => { r with processed := r.processed + 1, rejected := r.rejected + 1 }

/-- One more failure. -/
def addFailure (r : DrainReport) (f : CommandFailure) : DrainReport :=
  { r with
    failures := r.failures ++ [f]
    deadLettered := if f.deadLettered then r.deadLettered + 1 else r.deadLettered }

/-- A report in its written form. -/
def toJson (r : DrainReport) : Json :=
  .object [("completed", .nat r.completed), ("dead_lettered", .nat r.deadLettered),
    ("failures", .ofList CommandFailure.toJson r.failures), ("processed", .nat r.processed),
    ("rejected", .nat r.rejected), ("truncated", .bool r.truncated)]

end DrainReport

/-- A processor: a store, the handlers, and how to run drains. -/
structure Processor (σ υ : Type) where
  store : CommandStore σ υ
  router : Router (CommandStore.InUnit σ υ)
  config : ProcessorConfig

namespace Processor

variable {σ υ : Type}

/-- The failure of the store that a dispatch ran into, if it did. -/
def storageFailure : DispatchError → Option StoreError
  | .handler (.store (.storage detail)) => some (.storage detail)
  | .handler (.repository (.storage detail)) => some (.storage detail)
  | _ => none

/-- Record a failed attempt on its command, and in the report whether or not that worked. -/
def fail (p : Processor σ υ) (claimed : ClaimedCommand) (error : String) (now : Timestamp)
    (report : DrainReport) : Service σ (Except StoreError DrainReport) := do
  let command := claimed.command
  let recorded (attempt : UInt32) (deadLettered : Bool) : Except StoreError DrainReport :=
    .ok (report.addFailure ⟨command.id, command.kind, attempt, error, deadLettered⟩)
  match ← p.store.recordFailure command.id claimed.claim error p.config.retryPolicy now with
  | .ok (.retry attempts notBefore) =>
    Service.report (.retryScheduled error attempts notBefore)
    pure (recorded attempts false)
  | .ok (.deadLettered attempts) =>
    Service.report (.commandDeadLettered error attempts)
    pure (recorded attempts true)
  | .error e =>
    if e.isCommandLocal then do
      Service.report (.failureNotRecorded error e.message)
      pure (recorded (command.attempts + 1) false)
    else do
      Service.report (.recordStorageFailure e.message)
      pure (.error e)

/-- Mark a handled command as processed and commit its unit. -/
def complete (p : Processor σ υ) (claimed : ClaimedCommand) (unit : υ) :
    Service σ (Except StoreError Unit) := do
  let (marked, unit) ← p.store.answer (.markProcessed claimed.command.id claimed.claim) unit
  match marked with
  | .error e => pure (.error e)
  | .ok () => p.store.commit unit

/-- What follows a dispatch: commit and count the outcome, or record the failure. -/
def conclude (p : Processor σ υ) (claimed : ClaimedCommand) (now : Timestamp) (report : DrainReport)
    (dispatched : Except DispatchError CommandOutcome) (unit : υ) :
    Service σ (Except StoreError DrainReport) := do
  let command := claimed.command
  match dispatched with
  | .error e =>
    match storageFailure e with
    | some storage => do
      Service.report (.handlerStorageFailure storage.message)
      pure (.error storage)
    | none => p.fail claimed e.message now report
  | .ok outcome =>
    match ← p.complete claimed unit with
    | .ok () => do
      match outcome with
      | .completed => Service.report .commandProcessed
      | .rejected codes => Service.report (.commandRejected codes)
      pure (.ok (report.addOutcome outcome))
    | .error (.claimLost _) => do
      Service.report .claimLost
      pure (.ok (report.addFailure ⟨command.id, command.kind, command.attempts + 1,
        (StoreError.claimLost command.id).message, false⟩))
    | .error e =>
      if e.isCommandLocal then p.fail claimed ("commit failed: " ++ e.message) now report
      else do
        Service.report (.commitStorageFailure e.message)
        pure (.error e)

/-- The span of a command's processing. -/
def span (command : InternalCommand) : Span :=
  ⟨"command", [("command_id", .text (toString command.id)), ("kind", .text command.kind),
    ("attempt", .number (command.attempts + 1).toNat)]⟩

/-- Process a claimed command. -/
def process (p : Processor σ υ) (claimed : ClaimedCommand) (report : DrainReport) :
    Service σ (Except StoreError DrainReport) :=
  Service.inSpan (span claimed.command) do
    let now ← Service.now
    match ← p.store.begin with
    | .error e => pure (.error e)
    | .ok unit =>
      let (dispatched, unit) ← (p.router.dispatch claimed.command now).run unit
      p.conclude claimed now report dispatched unit

/-- Claim and process commands, at most so many more. -/
def drainLoop (p : Processor σ υ) (ceiling : Option Nat) :
    (remaining : Nat) → (visited : List CommandId) → DrainReport →
      Service σ (Except StoreError DrainReport)
  | 0, _, report => do
    Service.report (.drainLimitReached p.config.name p.config.maxCommandsPerDrain)
    pure (.ok { report with truncated := true })
  | remaining + 1, visited, report => do
    match ← p.store.claimNext ⟨visited, ceiling, p.config.claimLease⟩ with
    | .error e =>
      Service.report (.claimFailed p.config.name e.message)
      pure (.error e)
    | .ok none => pure (.ok report)
    | .ok (some claimed) =>
      match ← p.process claimed report with
      | .error e => pure (.error e)
      | .ok report =>
        drainLoop p ceiling remaining (visited.insert claimed.command.id) report

/-- Run commands up to a place in the order of commits, if one is given. -/
def drainUpTo (p : Processor σ υ) (ceiling : Option Nat) :
    Service σ (Except StoreError DrainReport) := do
  Service.report (.drainStarted p.config.name p.config.drainPolicy.describe ceiling)
  match ← p.drainLoop ceiling p.config.maxCommandsPerDrain [] .empty with
  | .error e => pure (.error e)
  | .ok report =>
    Service.report (.drainFinished p.config.name report.processed report.rejected
      report.failures.length report.deadLettered report.truncated)
    pure (.ok report)

/-- Drain the store. A snapshot of an empty store is done at once. -/
def drain (p : Processor σ υ) : Service σ (Except StoreError DrainReport) := do
  match p.config.drainPolicy with
  | .includeNewlyEnqueued => p.drainUpTo none
  | .snapshotAtStart =>
    match ← p.store.highWaterMark with
    | .error e => pure (.error e)
    | .ok none => pure (.ok .empty)
    | .ok (some mark) => p.drainUpTo (some mark)

/-- What went wrong with a drain, in words. -/
def failureMessage (e : StoreError) : String :=
  "command store failure: " ++ e.message

/-- A processor in diagnostics. -/
def describe (p : Processor σ υ) : String :=
  "CommandProcessor \x7b router: " ++ p.router.describe ++ ", config: " ++ p.config.describe ++
    " \x7d"

end Processor

end SupplierSwitch
