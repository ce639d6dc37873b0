import SupplierSwitch.Answer.Document
import SupplierSwitch.Market.RuleBook
import SupplierSwitch.Outbox.Router
import SupplierSwitch.Settings

namespace SupplierSwitch

/-!
# Market handlers

What happens to the commands of the market processes. A request is checked against its rules and then
answered in its transaction: with a rejection that gives the reasons, or with a confirmation, in which
case the process is registered and its effectuation enqueued, all in one unit of work.
Main definitions:

* `Market.receive`: take in a request.
* `Market.handleRequest`, `Market.handleEffectuation`, `Market.handleResult`: one handler for each
  sort of command.
* `Market.router`: all of them by kind.
-/

/-- What the handlers need: how to tell violations to participants, and who tells them. -/
structure Market where
  converters : ConverterRegistry
  administratorGln : GlnNumber

namespace Market

/-- The market with its own converters. -/
def ofConfig (config : MarketConfig) : Market :=
  ⟨.market, config.administratorGln⟩

/-! ### Intake -/

/-- Take in a request: open its transaction and enqueue it. -/
def receive (process : ProcessKind) (request : SupplyRequest) : Work CommandId := do
  Work.addTransaction (.fresh request.transactionId)
  let command ← Work.enqueue process.requestKind request.toJson
  Work.report <| match process with
    | .moveIn => .moveInReceived request.transactionId command
    | .changeOfSupplier => .changeOfSupplierReceived request.transactionId command
  pure command

/-! ### Requests -/

/-- The answer to a request: a rejection if there are reasons. -/
def document (header : DocumentHeader) : Option (List Reason) → MarketDocument × DocumentKind
  | some reasons => (.reject header reasons, .reject)
  | none => (.confirm header, .confirm)

/-- Attach the answer to the request's transaction. -/
def answer (market : Market) (process : ProcessKind) (request : SupplyRequest) (now : Timestamp)
    (reasons : Option (List Reason)) : Work Unit := do
  let messageId : MessageId := ⟨← Work.freshId⟩
  let activityId : MessageId := ⟨← Work.freshId⟩
  let header : DocumentHeader :=
    { messageId := messageId
      activityId := activityId
      process := process
      sender := market.administratorGln.text
      receiver := request.senderGln
      transactionId := request.transactionId
      accountingPointId := request.accountingPointId
      createdAt := now }
  let (document, kind) := document header reasons
  let transaction ← Work.getTransaction request.transactionId
  let answered ← Work.ofDomain (transaction.attach
    ⟨document.id, kind, request.senderGln, document.toJson, now⟩)
  Work.saveTransaction answered (.exact transaction.version)

/-- Turn a request down for the given violations. -/
def reject (market : Market) (process : ProcessKind) (request : SupplyRequest) (now : Timestamp)
    (violations : List MarketViolation) : Work CommandOutcome := do
  let reasons ← Work.ofConversion (market.converters.convertAll violations)
  let codes := reasons.map (·.code)
  market.answer process request now (some reasons)
  Work.report (.requestRejected request.transactionId process.render codes)
  pure (.rejected codes)

/-- Grant a request: register the process, confirm, and enqueue the effectuation. -/
def confirm (market : Market) (process : ProcessKind) (request : SupplyRequest) (now : Timestamp)
    (point : AccountingPoint) : Work CommandOutcome := do
  let supplier ← Work.ofDomain (GlnNumber.parse request.energySupplierGln)
  let registered ← Work.ofDomain
    (point.registerProcess request.processId process supplier request.effectiveDate)
  Work.savePoint registered (.exact point.version)
  market.answer process request now none
  let effectuation : Effectuation := ⟨request.accountingPointId, request.processId⟩
  let _ ← Work.enqueue process.effectuationKind effectuation.toJson
  Work.report (.requestConfirmed request.transactionId process.render request.processId)
  pure .completed

/-- Judge a request and answer it. -/
def handleRequest (market : Market) (process : ProcessKind) (request : SupplyRequest)
    (now : Timestamp) : Work CommandOutcome := do
  let point ← Work.findPoint request.accountingPointId
  let checked := Rule.evaluate (RuleBook.ofRequest process request point)
  checked.notices.forM Work.report
  match checked.value.errors, point with
  | [], some point => market.confirm process request now point
  | [], none =>
    throw (.failed ("accounting point " ++ request.accountingPointId ++
      " vanished after validation"))
  | violations, _ => market.reject process request now violations

/-! ### Effectuation and results -/

/-- Effectuate a process, unless its rules forbid that. -/
def handleEffectuation (process : ProcessKind) (effectuation : Effectuation) :
    Work CommandOutcome := do
  let id := effectuation.accountingPointId
  let point ← Work.findPoint id
  let checked := Rule.evaluate (RuleBook.ofEffectuation process id point effectuation.processId)
  checked.notices.forM Work.report
  match checked.value.errors, point with
  | [], some point =>
    let effectuated ← Work.ofDomain (point.effectuate effectuation.processId)
    Work.report (.processEffectuated id effectuation.processId point.version)
    Work.savePoint effectuated (.exact point.version)
    pure .completed
  | [], none => throw (.failed ("accounting point " ++ id ++ " vanished after validation"))
  | _, _ =>
    let codes := checked.value.codes
    Work.report (.effectuationRejected id process.render effectuation.processId codes)
    pure (.rejected codes)

/-- The payload of a forwarded result. -/
def resultPayload (result : AggregationResult) : Json :=
  .object [("gridArea", .string result.gridArea), ("result", result.result)]

/-- Forward a result in a transaction of its own. If the transaction is there already, so is the
result. -/
def handleResult (result : AggregationResult) (now : Timestamp) : Work CommandOutcome := do
  let messageId : MessageId := ⟨← Work.freshId⟩
  let transaction ← Work.ofDomain ((Transaction.fresh result.transactionId).attach
    ⟨messageId, .aggregationResult, result.recipientGln, resultPayload result, now⟩)
  let added ← ExceptT.lift (Work.addTransaction transaction).run
  match added with
  | .ok () =>
    Work.report (.resultForwarded result.transactionId result.recipientGln)
    pure .completed
  | .error (.repository (.alreadyExists _)) =>
    Work.report (.resultAlreadyForwarded result.transactionId)
    pure .completed
  | .error e => throw e

/-! ### Routing -/

/-- Handle a market command. -/
def handle (market : Market) (command : MarketCommand) (now : Timestamp) : Work CommandOutcome :=
  match command with
  | .request process request => market.handleRequest process request now
  | .effectuate process effectuation => handleEffectuation process effectuation
  | .forwardResult result => handleResult result now

/-- The route of a kind of market command. -/
def route? (market : Market) (kind : String) : Option (Route Handling) :=
  (MarketCommand.reader? kind).map fun read =>
    .ofHandler kind read fun context command => (market.handle command context.now).run

/-- The routes of all market commands. -/
def router (market : Market) : Router Handling :=
  ⟨MarketCommand.kinds.filterMap market.route?⟩

end Market

end SupplierSwitch
