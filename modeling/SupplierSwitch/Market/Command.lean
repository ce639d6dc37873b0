import SupplierSwitch.Market.AccountingPoint

namespace SupplierSwitch

/-!
# Market commands

What the service is asked to do: requests by participants, the effectuation of registered processes,
and the forwarding of aggregation results. Each command has a kind, by which it is routed, and a
stored payload.
-/

/-- A participant's request to become the supplier of an accounting point. The identifiers of point
and participants are kept as they were sent; the rules judge them. -/
structure SupplyRequest where
  transactionId : TransactionId
  processId : ProcessId
  accountingPointId : String
  energySupplierGln : String
  senderGln : String
  effectiveDate : Date
  deriving DecidableEq

/-- The completion of a registered process. -/
structure Effectuation where
  accountingPointId : String
  processId : ProcessId
  deriving DecidableEq

/-- An aggregation result on its way to a participant. -/
structure AggregationResult where
  transactionId : TransactionId
  recipientGln : String
  gridArea : String
  result : Json
  deriving DecidableEq

/-- A command of the market processes. -/
inductive MarketCommand where
  | request (process : ProcessKind) (request : SupplyRequest)
  | effectuate (process : ProcessKind) (effectuation : Effectuation)
  | forwardResult (result : AggregationResult)
  deriving DecidableEq

/-! ### Kinds -/

/-- The kind of a request command. -/
def ProcessKind.requestKind : ProcessKind → String
  | moveIn => "RequestMoveIn"
  | changeOfSupplier => "RequestChangeOfSupplier"

/-- The kind of an effectuation command. -/
def ProcessKind.effectuationKind : ProcessKind → String
  | moveIn => "EffectuateMoveIn"
  | changeOfSupplier => "EffectuateChangeOfSupplier"

/-- The kind of a forwarding command. -/
def AggregationResult.kind : String := "ForwardAggregationResult"

namespace MarketCommand

/-- The kind of a command. -/
def kind : MarketCommand → String
  | request process _ => process.requestKind
  | effectuate process _ => process.effectuationKind
  | forwardResult _ => AggregationResult.kind

/-- The kinds of all market commands. -/
def kinds : List String :=
  [ProcessKind.moveIn.requestKind, ProcessKind.moveIn.effectuationKind,
    ProcessKind.changeOfSupplier.requestKind, ProcessKind.changeOfSupplier.effectuationKind,
    AggregationResult.kind]

theorem kind_mem_kinds (command : MarketCommand) : command.kind ∈ kinds := by
  cases command with
  | request process _ => cases process <;> simp [kind, kinds]
  | effectuate process _ => cases process <;> simp [kind, kinds]
  | forwardResult _ => simp [kind, kinds]

end MarketCommand

/-! ### Stored payloads -/

/-- Read the payload of a request of the given process. -/
def SupplyRequest.ofJson (process : ProcessKind) : Reader SupplyRequest :=
  Json.readRecord process.requestKind <| SupplyRequest.mk
    <$> .required "transactionId" TransactionId.ofJson
    <*> .required "processId" ProcessId.ofJson
    <*> .required "accountingPointId" Json.readString
    <*> .required "energySupplierGln" Json.readString
    <*> .required "senderGln" Json.readString
    <*> .required "effectiveDate" Date.ofJson

/-- The payload of a request. -/
def SupplyRequest.toJson (r : SupplyRequest) : Json :=
  .object [("accountingPointId", .string r.accountingPointId),
    ("effectiveDate", r.effectiveDate.toJson), ("energySupplierGln", .string r.energySupplierGln),
    ("processId", r.processId.toJson), ("senderGln", .string r.senderGln),
    ("transactionId", r.transactionId.toJson)]

/-- Read the payload of the effectuation of the given process. -/
def Effectuation.ofJson (process : ProcessKind) : Reader Effectuation :=
  Json.readRecord process.effectuationKind <| Effectuation.mk
    <$> .required "accountingPointId" Json.readString
    <*> .required "processId" ProcessId.ofJson

/-- The payload of an effectuation. -/
def Effectuation.toJson (e : Effectuation) : Json :=
  .object [("accountingPointId", .string e.accountingPointId), ("processId", e.processId.toJson)]

/-- Read the payload of an aggregation result. -/
def AggregationResult.ofJson : Reader AggregationResult :=
  Json.readRecord AggregationResult.kind <| AggregationResult.mk
    <$> .required "transactionId" TransactionId.ofJson
    <*> .required "recipientGln" Json.readString
    <*> .required "gridArea" Json.readString
    <*> .required "result" Json.readAny

/-- The payload of an aggregation result. -/
def AggregationResult.toJson (r : AggregationResult) : Json :=
  .object [("gridArea", .string r.gridArea), ("recipientGln", .string r.recipientGln),
    ("result", r.result), ("transactionId", r.transactionId.toJson)]

namespace MarketCommand

/-- The payload of a command. -/
def toJson : MarketCommand → Json
  | request _ r => r.toJson
  | effectuate _ e => e.toJson
  | forwardResult r => r.toJson

/-- The reader of the payloads of a kind, if it is a kind of market command. -/
def reader? (kind : String) : Option (Reader MarketCommand) :=
  if kind = ProcessKind.moveIn.requestKind then
    some fun j => request .moveIn <$> SupplyRequest.ofJson .moveIn j
  else if kind = ProcessKind.moveIn.effectuationKind then
    some fun j => effectuate .moveIn <$> Effectuation.ofJson .moveIn j
  else if kind = ProcessKind.changeOfSupplier.requestKind then
    some fun j => request .changeOfSupplier <$> SupplyRequest.ofJson .changeOfSupplier j
  else if kind = ProcessKind.changeOfSupplier.effectuationKind then
    some fun j => effectuate .changeOfSupplier <$> Effectuation.ofJson .changeOfSupplier j
  else if kind = AggregationResult.kind then
    some fun j => forwardResult <$> AggregationResult.ofJson j
  else none

end MarketCommand

end SupplierSwitch
