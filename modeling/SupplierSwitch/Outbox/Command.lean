import SupplierSwitch.Outbox.Error
import SupplierSwitch.Outbox.Policy

namespace SupplierSwitch

/-!
# Commands in the outbox

A stored command with its history: whether it was processed, how often it failed, when it may be
tried again, and whether it was given up.
-/

/-- A command of the outbox. -/
structure InternalCommand where
  id : CommandId
  kind : String
  payload : Json
  createdAt : Timestamp
  processed : Bool
  processedAt : Option Timestamp
  /-- The place in the order of commits, given when the command is committed. -/
  sequence : Option Nat
  /-- Failures since the command was enqueued or last revived. The count goes round after the
  greatest number of 32 bits. -/
  attempts : UInt32
  lastError : Option String
  /-- The instant before which the command is not tried again. -/
  notBefore : Option Timestamp
  /-- The instant at which the command was given up. -/
  deadLetteredAt : Option Timestamp
  deriving DecidableEq

namespace InternalCommand

/-- A command that nothing has happened to. -/
def fresh (id : CommandId) (kind : String) (payload : Json) (createdAt : Timestamp) :
    InternalCommand where
  id := id
  kind := kind
  payload := payload
  createdAt := createdAt
  processed := false
  processedAt := none
  sequence := none
  attempts := 0
  lastError := none
  notBefore := none
  deadLetteredAt := none

/-- The command was given up. -/
def isDeadLettered (c : InternalCommand) : Bool :=
  c.deadLetteredAt.isSome

/-- The command may be tried at an instant. -/
def isReady (c : InternalCommand) (now : Timestamp) : Bool :=
  !c.processed && !c.isDeadLettered && c.notBefore.all (· ≤ now)

/-- Read the stored form of a command. -/
def ofJson : Reader InternalCommand :=
  Json.readRecord "InternalCommand" <| InternalCommand.mk
    <$> .required "id" CommandId.ofJson
    <*> .required "kind" Json.readString
    <*> .required "payload" Json.readAny
    <*> .required "created_at" Timestamp.ofJson
    <*> .required "processed" Json.readBool
    <*> .optional "processed_at" Timestamp.ofJson
    <*> .optional "sequence" Json.readNat64
    <*> .required "attempts" Json.readUInt32
    <*> .optional "last_error" Json.readString
    <*> .optional "not_before" Timestamp.ofJson
    <*> .optional "dead_lettered_at" Timestamp.ofJson

/-- The stored form of a command. -/
def toJson (c : InternalCommand) : Json :=
  .object [("attempts", .nat c.attempts.toNat), ("created_at", c.createdAt.toJson),
    ("dead_lettered_at", .ofOption Timestamp.toJson c.deadLetteredAt), ("id", c.id.toJson),
    ("kind", .string c.kind), ("last_error", .ofOption .string c.lastError),
    ("not_before", .ofOption Timestamp.toJson c.notBefore), ("payload", c.payload),
    ("processed", .bool c.processed),
    ("processed_at", .ofOption Timestamp.toJson c.processedAt),
    ("sequence", .ofOption .nat c.sequence)]

end InternalCommand

/-- The mark of one claim on a command. -/
structure ClaimToken where
  uuid : Uuid
  deriving DecidableEq, Inhabited

instance : ToString ClaimToken := ⟨fun token => token.uuid.render⟩

/-- A command with the claim under which it was handed out. -/
structure ClaimedCommand where
  command : InternalCommand
  claim : ClaimToken
  deriving DecidableEq

/-- Which commands may be claimed, and for how long. -/
structure ClaimFilter where
  /-- Commands that are not to be handed out. -/
  exclude : List CommandId
  /-- The last place in the order of commits to be handed out. -/
  upToSequence : Option Nat
  lease : Duration

/-- What became of a failed command. -/
inductive FailureDisposition where
  | retry (attempts : UInt32) (notBefore : Timestamp)
  | deadLettered (attempts : UInt32)
  deriving DecidableEq

/-- Counts of commands by what is left to do. -/
structure CommandStats where
  pending : Nat
  /-- Pending commands under a claim that has not run out. -/
  inFlight : Nat
  /-- Pending commands that have failed. -/
  failing : Nat
  processed : Nat
  deadLettered : Nat
  deriving DecidableEq, Repr

/-- Counts by their names. -/
def CommandStats.toJson (s : CommandStats) : Json :=
  .object [("dead_lettered", .nat s.deadLettered), ("failing", .nat s.failing),
    ("in_flight", .nat s.inFlight), ("pending", .nat s.pending), ("processed", .nat s.processed)]

end SupplierSwitch
