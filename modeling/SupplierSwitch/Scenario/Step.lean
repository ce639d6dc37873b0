import SupplierSwitch.Market.Handlers
import SupplierSwitch.Scenario.Bench

namespace SupplierSwitch

/-!
# Steps of a unit

What a scenario may do within a unit of work, and how such steps are written. A malformed step fails
when its turn comes, and a malformed change of a point once the point is found.
Main definitions:

* `UnitStep` and `UnitStep.work`: a step and the program it stands for.
* `UnitStep.ofJson`: read a step.
-/

/-- A scripted command: a name to note, steps to take, and how to end. -/
structure Script where
  label : String
  steps : List Json
  outcome : Json

namespace Script

/-- The kind of scripted commands. -/
def kind : String := "Script"

/-- Read the stored form of a script. -/
def ofJson : Reader Script :=
  Json.readRecord "Script" <| Script.mk
    <$> .required "label" Json.readString
    <*> .withDefault "steps" (Json.readList Json.readAny) []
    <*> .withDefault "outcome" Json.readAny .null

/-- The stored form of a script. -/
def toJson (s : Script) : Json :=
  .object [("label", .string s.label), ("outcome", s.outcome), ("steps", .array s.steps)]

end Script

/-- A step of work within a unit. A save without an expected version expects the version of what is
saved, as it was before any change. -/
inductive UnitStep where
  | enqueue (id : Option CommandId) (kind : String) (payload : Json)
  /-- Enqueue a command whose payload cannot be written down. -/
  | enqueueUnwritable (kind reason : String)
  | stage (command : InternalCommand)
  | mark (command : CommandId) (claim : ClaimToken)
  | receive (process : ProcessKind) (request : SupplyRequest)
  | addTransaction (t : Transaction)
  | getTransaction (id : TransactionId)
  | saveTransaction (t : Transaction) (expected : Option ExpectedVersion)
  | attach (id : TransactionId) (message : OutboundMessage) (expected : Option ExpectedVersion)
  | findPoint (gsrn : String)
  | savePoint (p : AccountingPoint) (expected : Option ExpectedVersion)
  /-- Register a process at a point, effectuate one, or just save the point again. Each change is
  given as it reads, or why it does not. -/
  | editPoint (gsrn : String) (registration : Option (Except String BusinessProcess))
      (effectuated : Option (Except String ProcessId)) (expected : Option ExpectedVersion)

namespace UnitStep

/-! ### Taking steps -/

/-- Make a change that is given, unless it is malformed. -/
def change (make : α → β → Except DomainError β) : Option (Except String α) → β → Work β
  | none, b => pure b
  | some (.error reason), _ => throw (.failed reason)
  | some (.ok a), b => Work.ofDomain (make a b)

/-- Change a point as a step says. -/
def edit (registration : Option (Except String BusinessProcess))
    (effectuated : Option (Except String ProcessId)) (p : AccountingPoint) :
    Work AccountingPoint := do
  let p ← change (fun r p => p.registerProcess r.processId r.kind r.energySupplier r.effectiveDate)
    registration p
  change (fun id p => p.effectuate id) effectuated p

/-- The program of a step. -/
def work : UnitStep → Work StepAnswer
  | enqueue none kind payload => return .enqueued (← Work.enqueue kind payload) true
  | enqueue (some id) kind payload => return .enqueued (← Work.enqueueWithId id kind payload) false
  | enqueueUnwritable kind reason => throw (.store (.serialization (kind ++ ": " ++ reason)))
  | stage command => do
    Work.stageCommand command
    pure .done
  | mark command claim => do
    Work.markProcessed command claim
    pure .done
  | receive process request => return .enqueued (← Market.receive process request) true
  | addTransaction t => do
    Work.addTransaction t
    pure .done
  | getTransaction id => return .transaction (← Work.getTransaction id)
  | saveTransaction t expected => do
    Work.saveTransaction t (expected.getD (.exact t.version))
    pure .done
  | attach id message expected => do
    let t ← Work.getTransaction id
    Work.saveTransaction (← Work.ofDomain (t.attach message)) (expected.getD (.exact t.version))
    pure .done
  | findPoint gsrn => return .point (← Work.findPoint gsrn)
  | savePoint p expected => do
    Work.savePoint p (expected.getD (.exact p.version))
    pure .done
  | editPoint gsrn registration effectuated expected => do
    let some p ← Work.findPoint gsrn | throw (.failed ("no point " ++ gsrn))
    Work.savePoint (← edit registration effectuated p) (expected.getD (.exact p.version))
    pure .done

/-- The messages that a step brings in. -/
def messages : UnitStep → List MessageId
  | addTransaction t | saveTransaction t _ => t.messages.map (·.id)
  | attach _ message _ => [message.id]
  | _ => []

/-! ### Reading steps -/

/-- What the names in a step stand for. -/
structure Names where
  command : Json → Except String CommandId
  claim : String → ClaimToken

/-- Read the member of a key, which may be missing only if null can be read. -/
def read (j : Json) (key : String) (reader : Reader α) : Except String α :=
  (reader (j.member key)).mapError (·.message)

/-- Read the member of a key unless it is missing or null. -/
def readOptional (j : Json) (key : String) (reader : Reader α) : Except String (Option α) :=
  read j key (Json.readOptional reader)

/-- A value of the domain from the text at a key. -/
def parse (j : Json) (key : String) (f : String → Except DomainError α) : Except String α :=
  (f (j.textAt key)).mapError (·.message)

/-- The expected version of a step: none is given, any will do, or exactly one. -/
def expectedOf (j : Json) : Except String (Option ExpectedVersion) :=
  match j.member? "expected" with
  | none => pure none
  | some .null => pure (some .any)
  | some _ => (fun n => some (.exact n)) <$> read j "expected" Json.readNat64

/-- The step that enqueues a command of a kind: its payload is read into the type of the kind. -/
def enqueueOf (j : Json) : Except String UnitStep := do
  let kind := j.textAt "kind"
  let enqueueIt (payload : Json) : Except String UnitStep := do
    match j.given? "id" with
    | some _ => return enqueue (some (← parse j "id" CommandId.ofText)) kind payload
    | none => return enqueue none kind payload
  if kind = Script.kind then enqueueIt (← read j "payload" Script.ofJson).toJson
  else if kind = "Unserializable" then pure (enqueueUnwritable kind "refused")
  else match MarketCommand.reader? kind with
    | some reader => enqueueIt (← read j "payload" reader).toJson
    | none => throw ("unknown command kind " ++ kind)

/-- A transaction as it is to be written. -/
def transactionOf (j : Json) : Except String Transaction := do
  let id ← parse j "tx" TransactionId.ofText
  let messages ← readOptional j "messages" (Json.readList OutboundMessage.ofJson)
  let version ← readOptional j "version" Json.readNat64
  pure ⟨id, messages.getD [], version.getD 0⟩

/-- A process that is to be registered. -/
def registrationOf (j : Json) : Except String BusinessProcess := do
  let id ← parse j "process_id" ProcessId.ofText
  let kind ← read j "kind" ProcessKind.ofJson
  let supplier ← parse j "energy_supplier" GlnNumber.parse
  pure ⟨id, kind, supplier, ← read j "effective_date" Date.ofJson, .pending⟩

/-- Read a step. -/
def ofJson (names : Names) (j : Json) : Except String UnitStep := do
  match j.textAt "do" with
  | "enqueue" => enqueueOf j
  | "stage" => return stage (← read j "command" InternalCommand.ofJson)
  | "stage_new" => do
    let id ← parse j "id" CommandId.ofText
    let createdAt ← read j "created_at" Timestamp.ofJson
    pure (stage (.fresh id (j.textAt "kind") (j.member "payload") createdAt))
  | "mark" => return mark (← names.command (j.member "command")) (names.claim (j.textAt "claim"))
  | "receive_move_in" => return receive .moveIn (← read j "request" (SupplyRequest.ofJson .moveIn))
  | "receive_change_of_supplier" =>
    return receive .changeOfSupplier (← read j "request" (SupplyRequest.ofJson .changeOfSupplier))
  | "add_tx" => return addTransaction (← transactionOf j)
  | "get_tx" => return getTransaction (← parse j "tx" TransactionId.ofText)
  | "save_tx" => return saveTransaction (← transactionOf j) (← expectedOf j)
  | "attach" => do
    let id ← parse j "tx" TransactionId.ofText
    pure (attach id (← read j "message" OutboundMessage.ofJson) (← expectedOf j))
  | "find_point" => pure (findPoint (j.textAt "gsrn"))
  | "new_point" => do
    let gsrn ← parse j "gsrn" Gsrn.parse
    let supplier ← readOptional j "supplier" GlnNumber.ofJson
    let point := { AccountingPoint.fresh gsrn with energySupplier := supplier }
    pure (savePoint point (← expectedOf j))
  | "save_point" => return savePoint (← read j "point" AccountingPoint.ofJson) (← expectedOf j)
  | "edit_point" =>
    let registration := (j.given? "register").map registrationOf
    let effectuated := (j.given? "effectuate").map fun _ => parse j "effectuate" ProcessId.ofText
    return editPoint (j.textAt "gsrn") registration effectuated (← expectedOf j)
  | other => throw ("unknown step " ++ other)

end UnitStep

end SupplierSwitch
