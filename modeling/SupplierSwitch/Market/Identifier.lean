import SupplierSwitch.Json.Reader
import SupplierSwitch.Market.Gs1

namespace SupplierSwitch

/-!
# Identifiers

Transactions and business processes are named by texts that participants choose; commands and
messages carry universally unique identifiers. A chosen name is kept without the blanks around it and
is never empty.
-/

/-- A text without blanks around it that is not empty. -/
def IsName (text : String) : Prop :=
  Text.trim text = text ∧ text ≠ ""

/-- The name that a text gives, with the name of its type for the error. -/
def nameOf (type s : String) : Except DomainError { text : String // IsName text } :=
  if h : Text.trim s ≠ "" then .ok ⟨Text.trim s, Text.trim_trim s, h⟩
  else .error (.invalidId (type ++ ": empty"))

/-- The name of a transaction: one request and the answers to it. -/
structure TransactionId where
  text : String
  isName : IsName text
  deriving DecidableEq

instance : ToString TransactionId := ⟨TransactionId.text⟩

/-- The transaction that a text names. -/
def TransactionId.ofText (s : String) : Except DomainError TransactionId :=
  (nameOf "TransactionId" s).map fun name => ⟨name.1, name.2⟩

/-- The name of a business process on an accounting point. -/
structure ProcessId where
  text : String
  isName : IsName text
  deriving DecidableEq

instance : ToString ProcessId := ⟨ProcessId.text⟩

/-- The process that a text names. -/
def ProcessId.ofText (s : String) : Except DomainError ProcessId :=
  (nameOf "ProcessId" s).map fun name => ⟨name.1, name.2⟩

/-- The identifier of a command. -/
structure CommandId where
  uuid : Uuid
  deriving DecidableEq, Inhabited

instance : ToString CommandId := ⟨fun id => id.uuid.render⟩

/-- The identifier of a message to a market participant. -/
structure MessageId where
  uuid : Uuid
  deriving DecidableEq, Inhabited

instance : ToString MessageId := ⟨fun id => id.uuid.render⟩

/-- Read the identifier of a command. -/
def CommandId.ofText (s : String) : Except DomainError CommandId :=
  match Uuid.parse? s with
  | some uuid => .ok ⟨uuid⟩
  | none => .error (.invalidId "CommandId")

/-- Read the identifier of a message. -/
def MessageId.ofText (s : String) : Except DomainError MessageId :=
  match Uuid.parse? s with
  | some uuid => .ok ⟨uuid⟩
  | none => .error (.invalidId "MessageId")

/-! ### Stored forms -/

/-- Read a text that the domain checks. -/
def Json.readDomain (parse : String → Except DomainError α) : Reader α :=
  Json.readText "a string" fun s => (parse s).mapError DomainError.message

/-- Read the name of a transaction. -/
def TransactionId.ofJson : Reader TransactionId :=
  Json.readDomain TransactionId.ofText

/-- The name of a transaction as a text. -/
def TransactionId.toJson (id : TransactionId) : Json :=
  .string id.text

/-- Read the name of a process. -/
def ProcessId.ofJson : Reader ProcessId :=
  Json.readDomain ProcessId.ofText

/-- The name of a process as a text. -/
def ProcessId.toJson (id : ProcessId) : Json :=
  .string id.text

/-- Read the number of an accounting point. -/
def Gsrn.ofJson : Reader Gsrn :=
  Json.readDomain Gsrn.parse

/-- Read the number of a market participant. -/
def GlnNumber.ofJson : Reader GlnNumber :=
  Json.readDomain GlnNumber.parse

/-- A GS1 number as a text. -/
def Gs1Number.toJson (n : Gs1Number length) : Json :=
  .string n.text

/-- Read the identifier of a command. -/
def CommandId.ofJson : Reader CommandId :=
  fun j => CommandId.mk <$> Uuid.ofJson j

/-- The identifier of a command as a text. -/
def CommandId.toJson (id : CommandId) : Json :=
  id.uuid.toJson

/-- Read the identifier of a message. -/
def MessageId.ofJson : Reader MessageId :=
  fun j => MessageId.mk <$> Uuid.ofJson j

/-- The identifier of a message as a text. -/
def MessageId.toJson (id : MessageId) : Json :=
  id.uuid.toJson

end SupplierSwitch
