import SupplierSwitch.Answer.Reason
import SupplierSwitch.Market.AccountingPoint

namespace SupplierSwitch

/-!
# Market documents

The documents that confirm or reject a request. A confirmation carries no reasons.
-/

/-- A participant as a document names it. -/
structure Participant where
  id : String
  codingScheme : String
  role : String
  deriving DecidableEq

namespace Participant

/-- A participant named by its GLN, in the given role. -/
def ofGln (gln role : String) : Participant :=
  ⟨gln, "A10", role⟩

/-- Read the stored form of a participant. -/
def ofJson : Reader Participant :=
  Json.readRecord "MarketParticipant" <| Participant.mk
    <$> .required "id" Json.readString
    <*> .required "codingScheme" Json.readString
    <*> .required "role" Json.readString

/-- The stored form of a participant. -/
def toJson (p : Participant) : Json :=
  .object [("codingScheme", .string p.codingScheme), ("id", .string p.id),
    ("role", .string p.role)]

end Participant

/-- What a document is about. -/
structure ActivityRecord where
  id : MessageId
  originalTransaction : TransactionId
  marketEvaluationPoint : String
  reasons : List Reason
  deriving DecidableEq

namespace ActivityRecord

/-- Read the stored form of an activity record; missing reasons are no reasons. -/
def ofJson : Reader ActivityRecord :=
  Json.readRecord "ActivityRecord" <| ActivityRecord.mk
    <$> .required "id" MessageId.ofJson
    <*> .required "originalTransaction" TransactionId.ofJson
    <*> .required "marketEvaluationPoint" Json.readString
    <*> .withDefault "reasons" (Json.readList Reason.ofJson) []

/-- The stored form of an activity record; an empty list of reasons is left out. -/
def toJson (a : ActivityRecord) : Json :=
  .object ([("id", a.id.toJson), ("marketEvaluationPoint", .string a.marketEvaluationPoint),
    ("originalTransaction", a.originalTransaction.toJson)] ++
    if a.reasons.isEmpty then [] else [("reasons", .ofList Reason.toJson a.reasons)])

end ActivityRecord

/-- The code of a process in documents. -/
def ProcessKind.documentCode : ProcessKind → String
  | moveIn => "E65"
  | changeOfSupplier => "E03"

/-- Read the code of a process. -/
def ProcessKind.ofDocumentCode : Reader ProcessKind :=
  Json.readVariant ([moveIn, changeOfSupplier].map fun kind => (kind.documentCode, kind))

/-- A confirmation or rejection. -/
structure MarketDocument where
  documentName : String
  id : MessageId
  documentType : String
  process : ProcessKind
  businessSectorType : String
  sender : Participant
  receiver : Participant
  createdDateTime : Timestamp
  reasonCode : String
  activityRecord : ActivityRecord
  deriving DecidableEq

/-- Who answers whom about which request. -/
structure DocumentHeader where
  messageId : MessageId
  activityId : MessageId
  process : ProcessKind
  /-- The administrator that answers. -/
  sender : String
  /-- The supplier that asked. -/
  receiver : String
  transactionId : TransactionId
  accountingPointId : String
  createdAt : Timestamp

namespace MarketDocument

/-- The code of a request that was accepted. -/
def acceptedCode : String := "A01"

/-- The code of a request that was rejected. -/
def rejectedCode : String := "A02"

/-- The request that a document of a process answers. -/
def requestName : ProcessKind → String
  | .moveIn => "RequestMoveIn"
  | .changeOfSupplier => "RequestChangeOfSupplier"

/-- A document from its header, its verdict and its reasons. -/
def build (h : DocumentHeader) (verdict reasonCode : String) (reasons : List Reason) :
    MarketDocument where
  documentName := verdict ++ requestName h.process
  id := h.messageId
  documentType := "414"
  process := h.process
  businessSectorType := "23"
  sender := .ofGln h.sender "DDZ"
  receiver := .ofGln h.receiver "DDQ"
  createdDateTime := h.createdAt
  reasonCode := reasonCode
  activityRecord := ⟨h.activityId, h.transactionId, h.accountingPointId, reasons⟩

/-- A confirmation. -/
def confirm (h : DocumentHeader) : MarketDocument :=
  build h "Confirm" acceptedCode []

/-- A rejection for the given reasons. -/
def reject (h : DocumentHeader) (reasons : List Reason) : MarketDocument :=
  build h "Reject" rejectedCode reasons

/-- The document rejects a request. -/
def isRejection (d : MarketDocument) : Bool :=
  d.reasonCode = rejectedCode

/-- Read the stored form of a document. -/
def ofJson : Reader MarketDocument :=
  Json.readRecord "MarketDocument" <| MarketDocument.mk
    <$> .required "documentName" Json.readString
    <*> .required "id" MessageId.ofJson
    <*> .required "type" Json.readString
    <*> .required "processType" ProcessKind.ofDocumentCode
    <*> .required "businessSectorType" Json.readString
    <*> .required "sender" Participant.ofJson
    <*> .required "receiver" Participant.ofJson
    <*> .required "createdDateTime" Timestamp.ofJson
    <*> .required "reasonCode" Json.readString
    <*> .required "activityRecord" ActivityRecord.ofJson

/-- The stored form of a document. -/
def toJson (d : MarketDocument) : Json :=
  .object [("activityRecord", d.activityRecord.toJson),
    ("businessSectorType", .string d.businessSectorType),
    ("createdDateTime", d.createdDateTime.toJson), ("documentName", .string d.documentName),
    ("id", d.id.toJson), ("processType", .string d.process.documentCode),
    ("reasonCode", .string d.reasonCode), ("receiver", d.receiver.toJson),
    ("sender", d.sender.toJson), ("type", .string d.documentType)]

end MarketDocument

end SupplierSwitch
