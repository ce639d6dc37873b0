import SupplierSwitch.Market.Identifier

namespace SupplierSwitch

/-!
# The journal

What the service reports about its own work. A notice is a fact with its particulars; level, wording
and fields are determined by it. Notices are written down together with the spans that were open.
Main definitions:

* `Notice`, with `Notice.level`, `Notice.message?` and `Notice.fields`.
* `Noted`: a result with the notices that arose on the way to it.
-/

/-- The weight of a notice. -/
inductive Level where
  | trace
  | debug
  | info
  | warn
  | error
  deriving DecidableEq, Repr

/-- The written name of a level. -/
def Level.name : Level → String
  | trace => "TRACE"
  | debug => "DEBUG"
  | info => "INFO"
  | warn => "WARN"
  | error => "ERROR"

/-- The value of a field. -/
inductive FieldValue where
  | number (n : Nat)
  | flag (b : Bool)
  | text (s : String)
  deriving DecidableEq, Repr

/-- A field value as it is written. -/
def FieldValue.toJson : FieldValue → Json
  | number n => .nat n
  | flag b => .bool b
  | text s => .string s

/-- A stretch of work that notices may fall into. -/
structure Span where
  name : String
  fields : List (String × FieldValue)
  deriving DecidableEq, Repr

/-- What the service may report. -/
inductive Notice where
  | rulesEvaluated (rules broken : Nat)
  | converterMissing (kind code violation : String)
  | actorAuthenticated (actor : GlnNumber)
  | authenticationFailed (error : String)
  | commandEnqueued (command : CommandId) (kind : String)
  | moveInReceived (transaction : TransactionId) (command : CommandId)
  | changeOfSupplierReceived (transaction : TransactionId) (command : CommandId)
  | requestRejected (transaction : TransactionId) (process : String) (codes : List String)
  | requestConfirmed (transaction : TransactionId) (process : String) (processId : ProcessId)
  | effectuationRejected (accountingPoint process : String) (processId : ProcessId)
      (codes : List String)
  | processEffectuated (accountingPoint : String) (processId : ProcessId) (version : Nat)
  | resultForwarded (transaction : TransactionId) (recipient : String)
  | resultAlreadyForwarded (transaction : TransactionId)
  | processorReady (processor : String) (kinds : List String) (administrator : GlnNumber)
  | drainStarted (processor policy : String) (ceiling : Option Nat)
  | drainLimitReached (processor : String) (limit : Nat)
  | drainFinished (processor : String) (processed rejected failed deadLettered : Nat)
      (truncated : Bool)
  | claimFailed (processor error : String)
  | handlerStorageFailure (error : String)
  | commandProcessed
  | commandRejected (codes : List String)
  | claimLost
  | commitStorageFailure (error : String)
  | retryScheduled (error : String) (attempt : UInt32) (notBefore : Timestamp)
  | commandDeadLettered (error : String) (attempt : UInt32)
  | failureNotRecorded (error recordError : String)
  | recordStorageFailure (error : String)
  /-- An operation on the database that returned an error. -/
  | operationFailed (error : String)
  deriving DecidableEq

namespace Notice

/-- The weight of a notice. -/
def level : Notice → Level
  | rulesEvaluated .. => .trace
  | commandEnqueued .. | actorAuthenticated .. | resultAlreadyForwarded .. | commandProcessed
  | commandRejected .. => .debug
  | moveInReceived .. | changeOfSupplierReceived .. | requestRejected .. | requestConfirmed ..
  | processEffectuated .. | resultForwarded .. | processorReady .. | drainStarted ..
  | drainFinished .. => .info
  | authenticationFailed .. | effectuationRejected .. | drainLimitReached .. | claimLost
  | retryScheduled .. | commandDeadLettered .. | failureNotRecorded .. => .warn
  | converterMissing .. | claimFailed .. | handlerStorageFailure .. | commitStorageFailure ..
  | recordStorageFailure .. | operationFailed .. => .error

/-- The wording of a notice, if it has one. -/
def message? : Notice → Option String
  | rulesEvaluated .. => "evaluated business rules"
  | converterMissing .. => "no error converter registered for violation kind"
  | actorAuthenticated .. => "actor authenticated"
  | authenticationFailed .. => "authentication failed"
  | commandEnqueued .. => "command enqueued"
  | moveInReceived .. => "move-in request received"
  | changeOfSupplierReceived .. => "change of supplier request received"
  | requestRejected .. => "request rejected"
  | requestConfirmed .. => "request confirmed"
  | effectuationRejected .. => "effectuation rejected"
  | processEffectuated .. => "process effectuated"
  | resultForwarded .. => "aggregation result forwarded"
  | resultAlreadyForwarded .. => "aggregation result already forwarded"
  | processorReady .. => "command processor ready"
  | drainStarted .. => "drain started"
  | drainLimitReached .. => "drain stopped at max commands per drain"
  | drainFinished .. => "drain finished"
  | claimFailed .. => "claiming next command failed"
  | handlerStorageFailure .. => "handler hit a storage failure"
  | commandProcessed => "command processed"
  | commandRejected .. => "command processed with rejection"
  | claimLost => "claim lost before commit; leaving the command to its new owner"
  | commitStorageFailure .. => "commit failed with a storage error"
  | retryScheduled .. => "command failed; will retry"
  | commandDeadLettered .. => "command dead-lettered"
  | failureNotRecorded .. => "command failed; failure not recorded"
  | recordStorageFailure .. => "recording command failure hit a storage error"
  | operationFailed .. => none

/-- An optional number in diagnostics. -/
def describeOption (write : α → String) : Option α → String
  | none => "None"
  | some a => "Some(" ++ write a ++ ")"

/-- The particulars of a notice. -/
def fields : Notice → List (String × FieldValue)
  | rulesEvaluated rules broken => [("rules", .number rules), ("broken", .number broken)]
  | converterMissing kind code violation =>
    [("kind", .text kind), ("code", .text code), ("violation", .text violation)]
  | actorAuthenticated actor => [("actor", .text actor.text)]
  | authenticationFailed error => [("error", .text error)]
  | commandEnqueued command kind =>
    [("command_id", .text (toString command)), ("kind", .text kind)]
  | moveInReceived transaction command | changeOfSupplierReceived transaction command =>
    [("transaction_id", .text transaction.text), ("command_id", .text (toString command))]
  | requestRejected transaction process codes =>
    [("transaction_id", .text transaction.text), ("process", .text process),
      ("codes", .text (Text.quotedList codes))]
  | requestConfirmed transaction process processId =>
    [("transaction_id", .text transaction.text), ("process", .text process),
      ("process_id", .text processId.text)]
  | effectuationRejected accountingPoint process processId codes =>
    [("accounting_point_id", .text accountingPoint), ("process", .text process),
      ("process_id", .text processId.text), ("codes", .text (Text.quotedList codes))]
  | processEffectuated accountingPoint processId version =>
    [("accounting_point_id", .text accountingPoint), ("process_id", .text processId.text),
      ("version", .number version)]
  | resultForwarded transaction recipient =>
    [("transaction_id", .text transaction.text), ("recipient", .text recipient)]
  | resultAlreadyForwarded transaction => [("transaction_id", .text transaction.text)]
  | processorReady processor kinds administrator =>
    [("processor", .text processor), ("kinds", .text (Text.quotedList kinds)),
      ("administrator_gln", .text administrator.text)]
  | drainStarted processor policy ceiling =>
    [("processor", .text processor), ("policy", .text policy),
      ("ceiling", .text (describeOption toString ceiling))]
  | drainLimitReached processor limit =>
    [("processor", .text processor), ("limit", .number limit)]
  | drainFinished processor processed rejected failed deadLettered truncated =>
    [("processor", .text processor), ("processed", .number processed),
      ("rejected", .number rejected), ("failed", .number failed),
      ("dead_lettered", .number deadLettered), ("truncated", .flag truncated)]
  | claimFailed processor error => [("processor", .text processor), ("error", .text error)]
  | handlerStorageFailure error | commitStorageFailure error | recordStorageFailure error
  | operationFailed error => [("error", .text error)]
  | commandProcessed | claimLost => []
  | commandRejected codes => [("codes", .text (Text.quotedList codes))]
  | retryScheduled error attempt notBefore =>
    [("error", .text error), ("attempt", .number attempt.toNat),
      ("not_before", .text notBefore.render)]
  | commandDeadLettered error attempt =>
    [("error", .text error), ("attempt", .number attempt.toNat)]
  | failureNotRecorded error recordError =>
    [("error", .text error), ("record_error", .text recordError)]

end Notice

/-- A notice as it was written down: with the spans it fell into, outermost first. -/
structure JournalEntry where
  notice : Notice
  spans : List Span
  deriving DecidableEq

/-- An entry as it is written: level, wording, fields, and the spans with their fields. -/
def JournalEntry.toJson (e : JournalEntry) : Json :=
  let members (fields : List (String × FieldValue)) : List (String × Json) :=
    fields.map fun (name, value) => (name, value.toJson)
  .object [("fields", .ofMembers (members e.notice.fields)),
    ("level", .string e.notice.level.name), ("message", .ofOption .string e.notice.message?),
    ("spans", .ofList (fun span => .ofMembers (("name", .string span.name) :: members span.fields))
      e.spans)]

/-- A result and the notices that arose on the way, in order. -/
structure Noted (α : Type) where
  value : α
  notices : List Notice

namespace Noted

instance : Monad Noted where
  pure a := ⟨a, []⟩
  bind x f := ⟨(f x.value).value, x.notices ++ (f x.value).notices⟩

@[simp] theorem value_pure {α : Type} (a : α) : (pure a : Noted α).value = a :=
  rfl

@[simp] theorem value_bind {α β : Type} (x : Noted α) (f : α → Noted β) :
    (x >>= f).value = (f x.value).value :=
  rfl

/-- A notice and no result. -/
def note (notice : Notice) : Noted Unit :=
  ⟨(), [notice]⟩

end Noted

end SupplierSwitch
