import SupplierSwitch.Market.Identifier

namespace SupplierSwitch

/-!
# Transactions

A transaction collects the messages that go out in answer to a participant. Messages are only ever
added, each with an identifier of its own.
-/

/-- What an outbound message is. -/
inductive DocumentKind where
  | confirm
  | reject
  | aggregationResult
  deriving DecidableEq, Repr

namespace DocumentKind

/-- The stored name of a document kind. -/
def name : DocumentKind → String
  | confirm => "confirm"
  | reject => "reject"
  | aggregationResult => "aggregation_result"

/-- Read the stored name of a document kind. -/
def ofJson : Reader DocumentKind :=
  Json.readVariant ([confirm, reject, aggregationResult].map fun kind => (kind.name, kind))

/-- The stored name of a document kind. -/
def toJson (kind : DocumentKind) : Json :=
  .string kind.name

end DocumentKind

/-- A message to a market participant. -/
structure OutboundMessage where
  id : MessageId
  document : DocumentKind
  recipient : String
  payload : Json
  createdAt : Timestamp
  deriving DecidableEq

namespace OutboundMessage

/-- Read the stored form of a message. -/
def ofJson : Reader OutboundMessage :=
  Json.readRecord "OutboundMessage" <| OutboundMessage.mk
    <$> .required "id" MessageId.ofJson
    <*> .required "document" DocumentKind.ofJson
    <*> .required "recipient" Json.readString
    <*> .required "payload" Json.readAny
    <*> .required "created_at" Timestamp.ofJson

/-- The stored form of a message. -/
def toJson (m : OutboundMessage) : Json :=
  .object [("created_at", m.createdAt.toJson), ("document", m.document.toJson),
    ("id", m.id.toJson), ("payload", m.payload), ("recipient", .string m.recipient)]

end OutboundMessage

/-- A transaction with the messages sent in it. -/
structure Transaction where
  id : TransactionId
  messages : List OutboundMessage
  version : Nat
  deriving DecidableEq

namespace Transaction

/-- A transaction without messages, not stored yet. -/
def fresh (id : TransactionId) : Transaction :=
  ⟨id, [], 0⟩

/-- Some message of the transaction is of the kind. -/
def hasDocument (t : Transaction) (kind : DocumentKind) : Bool :=
  t.messages.any (·.document = kind)

/-- Add a message whose identifier is new to the transaction. -/
def attach (t : Transaction) (m : OutboundMessage) : Except DomainError Transaction :=
  if t.messages.any (·.id = m.id) then
    .error (.conflict ("message " ++ toString m.id ++ " already attached to transaction " ++
      t.id.text))
  else
    .ok { t with messages := t.messages ++ [m] }

/-- Read the stored form of a transaction. -/
def ofJson : Reader Transaction :=
  Json.readRecord "Transaction" <| Transaction.mk
    <$> .required "id" TransactionId.ofJson
    <*> .required "messages" (Json.readList OutboundMessage.ofJson)
    <*> .required "version" Json.readNat64

/-- The stored form of a transaction. -/
def toJson (t : Transaction) : Json :=
  .object [("id", t.id.toJson), ("messages", .ofList OutboundMessage.toJson t.messages),
    ("version", .nat t.version)]

end Transaction

end SupplierSwitch
