import SupplierSwitch.Outbox.ChangeSet

namespace SupplierSwitch

/-!
# Statements

What the service says to a database server. Commands, transactions and accounting points have a table
each; aggregates are kept as snapshots beside their versions.
Main definitions:

* `SqlValue`: what is bound to the parameters of a statement, and what the columns of rows hold.
* `signed32`, `signed64`, `unsigned32`, `unsigned64`: numbers without a sign in signed columns.
* `Statement` and one function for each statement that is ever sent.
-/

/-! ### Values -/

/-- The signed number of 32 bits that has the bits of a number. -/
def signed32 (n : UInt32) : Int :=
  Int.bmod n.toNat UInt32.size

/-- The signed number of 64 bits that has the bits of a number. -/
def signed64 (n : Nat) : Int :=
  Int.bmod n UInt64.size

/-- The number without a sign that has the bits of a signed number of 32 bits. -/
def unsigned32 (n : Int) : UInt32 :=
  .ofNat (n % UInt32.size).toNat

/-- The number without a sign that has the bits of a signed number of 64 bits. -/
def unsigned64 (n : Int) : Nat :=
  (n % UInt64.size).toNat

/-- The greatest signed number of 64 bits. -/
def greatestSigned64 : Nat :=
  9223372036854775807

/-- A value of a parameter or a column. -/
inductive SqlValue where
  | null
  | bool (b : Bool)
  | number (n : Int)
  | text (s : String)
  | uuid (u : Uuid)
  | uuids (us : List Uuid)
  | instant (t : Timestamp)
  | json (j : Json)
  deriving DecidableEq

namespace SqlValue

/-- A value that may be missing is null when it is. -/
def ofOption (bind : α → SqlValue) : Option α → SqlValue
  | none => null
  | some a => bind a

/-- The start of the year 2000, from which the server counts time, in seconds from 1970. -/
def serverEpoch : Int := 946684800

/-- An instant as the server keeps it: whole microseconds, the rest cut off towards the year 2000. -/
def atServer (t : Timestamp) : Timestamp :=
  let micros := ((t.second - serverEpoch) * 1000000000 + t.nano).tdiv 1000
  (Timestamp.ofParts? (serverEpoch + micros / 1000000) (micros % 1000000 * 1000).toNat).getD
    .greatest

/-- A value as the server gets it. -/
def toJson : SqlValue → Json
  | null => .null
  | bool b => .bool b
  | number n => .number (.integer n)
  | text s => .string s
  | uuid u => u.toJson
  | uuids us => .ofList Uuid.toJson us
  | instant t => (atServer t).toJson
  | json j => j

end SqlValue

/-! ### Statements -/

/-- A message to a database server. -/
inductive Statement where
  | begin
  | commit
  | rollback
  /-- Several statements in one text. -/
  | script (sql : String)
  /-- A statement with its parameters, in order of their numbers. -/
  | query (sql : String) (parameters : List SqlValue)
  deriving DecidableEq

namespace Statement

/-- The text of a statement. -/
def sql : Statement → String
  | begin => "BEGIN"
  | commit => "COMMIT"
  | rollback => "ROLLBACK"
  | script sql => sql
  | query sql _ => sql

/-- A statement in a transcript. Those without parameters by nature have none there. -/
def toJson : Statement → Json
  | query sql parameters =>
    .object [("params", .ofList SqlValue.toJson parameters), ("sql", .string sql)]
  | s => .object [("sql", .string s.sql)]

/-! #### Tables -/

/-- The script that creates what is not there yet. -/
def createSchema : Statement :=
  .script <| "\n".intercalate
    ["-- Internal command outbox plus snapshot tables for the aggregates written in",
      "-- the same transaction as the commands.",
      "",
      "CREATE TABLE IF NOT EXISTS internal_commands (",
      "    sequence          BIGINT GENERATED ALWAYS AS IDENTITY UNIQUE,",
      "    id                UUID PRIMARY KEY,",
      "    kind              TEXT NOT NULL,",
      "    payload           JSONB NOT NULL,",
      "    created_at        TIMESTAMPTZ NOT NULL,",
      "    processed         BOOLEAN NOT NULL DEFAULT FALSE,",
      "    processed_at      TIMESTAMPTZ,",
      "    attempts          INTEGER NOT NULL DEFAULT 0 CHECK (attempts >= 0),",
      "    last_error        TEXT,",
      "    not_before        TIMESTAMPTZ,",
      "    dead_lettered_at  TIMESTAMPTZ,",
      "    claim_token       UUID,",
      "    claimed_until     TIMESTAMPTZ",
      ");",
      "",
      "CREATE INDEX IF NOT EXISTS internal_commands_pending_idx",
      "    ON internal_commands (sequence)",
      "    WHERE processed = FALSE AND dead_lettered_at IS NULL;",
      "",
      "CREATE INDEX IF NOT EXISTS internal_commands_dead_letter_idx",
      "    ON internal_commands (sequence)",
      "    WHERE dead_lettered_at IS NOT NULL;",
      "",
      "CREATE TABLE IF NOT EXISTS transactions (",
      "    id        TEXT PRIMARY KEY,",
      "    version   BIGINT NOT NULL CHECK (version > 0),",
      "    snapshot  JSONB NOT NULL",
      ");",
      "",
      "CREATE TABLE IF NOT EXISTS accounting_points (",
      "    gsrn      TEXT PRIMARY KEY,",
      "    version   BIGINT NOT NULL CHECK (version > 0),",
      "    snapshot  JSONB NOT NULL",
      ");",
      ""]

/-! #### Commands -/

/-- The columns that a command is read from. -/
def commandColumns : String :=
  "sequence, id, kind, payload, created_at, processed, processed_at, attempts, last_error, " ++
    "not_before, dead_lettered_at"

/-- The text of the statement that claims a command. -/
def claimSql : String :=
  "UPDATE internal_commands SET claim_token = $1, claimed_until = $2 WHERE id = ( " ++
    "SELECT id FROM internal_commands WHERE processed = FALSE AND dead_lettered_at IS NULL " ++
    "AND (not_before IS NULL OR not_before <= $3) " ++
    "AND (claimed_until IS NULL OR claimed_until <= $3) AND NOT (id = ANY($4)) " ++
    "AND ($5::BIGINT IS NULL OR sequence <= $5) " ++
    "ORDER BY sequence, id LIMIT 1 FOR UPDATE SKIP LOCKED ) RETURNING " ++ commandColumns

/-- Claim the first ready command that a filter admits. What is excluded is listed in increasing
order. -/
def claimNext (claim : ClaimToken) (filter : ClaimFilter) (now : Timestamp) : Statement :=
  .query claimSql
    [.uuid claim.uuid, .instant (now.offsetBy filter.lease), .instant now,
      .uuids ((filter.exclude.map (·.uuid)).mergeSort fun a b => a ≤ b),
      .ofOption (fun ceiling => .number (signed64 ceiling)) filter.upToSequence]

/-- The claim that a statement makes. -/
def claim? : Statement → Option ClaimToken
  | .query sql (.uuid token :: _) => if sql = claimSql then some ⟨token⟩ else none
  | _ => none

/-- Lock a command and read what a failure depends on. -/
def lockAttempts (id : CommandId) : Statement :=
  .query "SELECT attempts, claim_token FROM internal_commands WHERE id = $1 FOR UPDATE"
    [.uuid id.uuid]

/-- Write a failure to a command and release the claim on it. -/
def writeFailure (id : CommandId) (error : String) : FailureDisposition → Timestamp → Statement :=
  fun disposition now =>
    let (attempts, notBefore, deadLetteredAt) : UInt32 × Option Timestamp × Option Timestamp :=
      match disposition with
      | .retry attempts notBefore => (attempts, some notBefore, none)
      | .deadLettered attempts => (attempts, none, some now)
    .query
      ("UPDATE internal_commands SET attempts = $2, last_error = $3, not_before = $4, " ++
        "dead_lettered_at = $5, claim_token = NULL, claimed_until = NULL WHERE id = $1")
      [.uuid id.uuid, .number (signed32 attempts), .text error, .ofOption .instant notBefore,
        .ofOption .instant deadLetteredAt]

/-- Read a command. -/
def selectCommand (id : CommandId) : Statement :=
  .query ("SELECT " ++ commandColumns ++ " FROM internal_commands WHERE id = $1") [.uuid id.uuid]

/-- Read the last place in the order of commits. -/
def selectHighWaterMark : Statement :=
  .query "SELECT MAX(sequence) AS mark FROM internal_commands" []

/-- Read the first commands that were given up. -/
def selectDeadLetters (limit : Nat) : Statement :=
  .query
    ("SELECT " ++ commandColumns ++
      " FROM internal_commands WHERE dead_lettered_at IS NOT NULL ORDER BY sequence LIMIT $1")
    [.number (min limit greatestSigned64 : Nat)]

/-- Revive a command that was given up. -/
def reviveCommand (id : CommandId) : Statement :=
  .query
    ("UPDATE internal_commands SET dead_lettered_at = NULL, attempts = 0, not_before = NULL, " ++
      "claim_token = NULL, claimed_until = NULL " ++
      "WHERE id = $1 AND dead_lettered_at IS NOT NULL RETURNING " ++ commandColumns)
    [.uuid id.uuid]

/-- Count the commands at an instant. -/
def selectStats (now : Timestamp) : Statement :=
  .query
    ("SELECT COUNT(*) FILTER (WHERE processed) AS processed, " ++
      "COUNT(*) FILTER (WHERE NOT processed AND dead_lettered_at IS NOT NULL) AS dead_lettered, " ++
      "COUNT(*) FILTER (WHERE NOT processed AND dead_lettered_at IS NULL) AS pending, " ++
      "COUNT(*) FILTER ( WHERE NOT processed AND dead_lettered_at IS NULL " ++
      "AND claimed_until > $1 ) AS in_flight, " ++
      "COUNT(*) FILTER ( WHERE NOT processed AND dead_lettered_at IS NULL " ++
      "AND attempts > 0 ) AS failing FROM internal_commands")
    [.instant now]

/-- Insert a new command. -/
def insertCommand (c : InternalCommand) : Statement :=
  .query
    ("INSERT INTO internal_commands ( id, kind, payload, created_at, processed, processed_at, " ++
      "attempts, last_error, not_before, dead_lettered_at ) " ++
      "VALUES ($1, $2, $3, $4, $5, $6, $7, $8, $9, $10)")
    [.uuid c.id.uuid, .text c.kind, .json c.payload, .instant c.createdAt, .bool c.processed,
      .ofOption .instant c.processedAt, .number (signed32 c.attempts), .ofOption .text c.lastError,
      .ofOption .instant c.notBefore, .ofOption .instant c.deadLetteredAt]

/-- Mark a command as processed if it still is under its claim. -/
def markProcessed (id : CommandId) (claim : ClaimToken) (now : Timestamp) : Statement :=
  .query
    ("UPDATE internal_commands SET processed = TRUE, processed_at = $3, claim_token = NULL, " ++
      "claimed_until = NULL WHERE id = $1 AND claim_token = $2 AND processed = FALSE")
    [.uuid id.uuid, .uuid claim.uuid, .instant now]

/-! #### Transactions -/

/-- Read a transaction. -/
def selectTransaction (id : TransactionId) : Statement :=
  .query "SELECT version, snapshot FROM transactions WHERE id = $1" [.text id.text]

/-- Read the version of a transaction. -/
def selectTransactionVersion (id : TransactionId) : Statement :=
  .query "SELECT version FROM transactions WHERE id = $1" [.text id.text]

/-- Insert a new transaction. -/
def insertTransaction (t : Transaction) : Statement :=
  .query "INSERT INTO transactions (id, version, snapshot) VALUES ($1, 1, $2)"
    [.text t.id.text, .json t.toJson]

/-- The version to be found, or null if any will do. -/
def versionGuard : ExpectedVersion → SqlValue
  | .any => .null
  | .exact version => .number (signed64 version)

/-- Write a transaction over one of the expected version. -/
def updateTransaction (t : Transaction) (expected : ExpectedVersion) : Statement :=
  .query
    ("UPDATE transactions SET version = version + 1, snapshot = $2 " ++
      "WHERE id = $1 AND ($3::BIGINT IS NULL OR version = $3)")
    [.text t.id.text, .json t.toJson, versionGuard expected]

/-! #### Accounting points -/

/-- Read an accounting point. -/
def selectPoint (gsrn : String) : Statement :=
  .query "SELECT version, snapshot FROM accounting_points WHERE gsrn = $1" [.text gsrn]

/-- Write an accounting point over one of the expected version. Version 0 stands for a point that is
not there yet. -/
def writePoint (p : AccountingPoint) : ExpectedVersion → Statement
  | .exact 0 =>
    .query
      ("INSERT INTO accounting_points (gsrn, version, snapshot) VALUES ($1, 1, $2) " ++
        "ON CONFLICT (gsrn) DO NOTHING")
      [.text p.gsrn.text, .json p.toJson]
  | .exact version =>
    .query
      ("UPDATE accounting_points SET version = version + 1, snapshot = $2 " ++
        "WHERE gsrn = $1 AND version = $3")
      [.text p.gsrn.text, .json p.toJson, .number (signed64 version)]
  | .any =>
    .query
      ("INSERT INTO accounting_points (gsrn, version, snapshot) VALUES ($1, 1, $2) " ++
        "ON CONFLICT (gsrn) DO UPDATE " ++
        "SET version = accounting_points.version + 1, snapshot = EXCLUDED.snapshot")
      [.text p.gsrn.text, .json p.toJson]

end Statement

end SupplierSwitch
