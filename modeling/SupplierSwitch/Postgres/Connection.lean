import SupplierSwitch.Outbox.Store
import SupplierSwitch.Postgres.Statement

namespace SupplierSwitch

/-!
# Connections

A connection takes statements and gives replies; nothing is assumed of what it replies. Failures are
put in terms of the store together with the operation that met them.
Main definitions:

* `Connection`, with the operations `execute`, `fetchOptional`, `fetchOne` and `fetchAll`.
* `Connection.inTransaction`: work that is committed as a whole or rolled back.
* `Row.command` and the like: rows read as values of the domain.
-/

/-- A row of a reply: its columns by name. A column that is not there is null. -/
abbrev Row := List (String × SqlValue)

/-- The answer to a statement that worked. -/
structure Reply where
  rows : List Row
  /-- The number of rows that the statement wrote. -/
  affected : Nat

/-- Why a statement did not work, or its reply could not be read. -/
inductive SqlFailure where
  /-- The server refuses, with a code and a wording. -/
  | refused (code message : String)
  | closed
  /-- The address of the server cannot be read. -/
  | misconfigured (reason : String)
  | rowMissing
  /-- A column that has to have a value is null or has a value of another type. -/
  | columnUnreadable (column reason : String)
  deriving DecidableEq, Repr

namespace SqlFailure

/-- The code of a violated uniqueness constraint. -/
def uniqueViolation : String := "23505"

/-- The server refuses to have a key twice. -/
def isUniqueViolation : SqlFailure → Bool
  | refused code _ => code = uniqueViolation
  | _ => false

/-- The wording of a failure. -/
def message : SqlFailure → String
  | refused _ message => "error returned from database: " ++ message
  | closed => "attempted to acquire a connection on a closed pool"
  | misconfigured reason => "error with configuration: " ++ reason
  | rowMissing => "no rows returned by a query that expected to return at least one row"
  | columnUnreadable column reason =>
    "error occurred while decoding column " ++ column ++ ": " ++ reason

/-- A failure of an operation, in terms of the store. -/
def toStoreError (operation : String) : SqlFailure → StoreError
  | refused code message =>
    let detail := "database error in " ++ operation ++ ": " ++ message
    if code = uniqueViolation then .alreadyExists detail else .storage detail
  | closed => .storage ("connection pool closed in " ++ operation)
  | failure => .storage (operation ++ " failed: " ++ failure.message)

/-- A failure to read a row, in terms of the store. -/
def ofDecoding (failure : SqlFailure) : StoreError :=
  .storage ("failed to decode row: " ++ failure.message)

end SqlFailure

/-! ### Columns -/

namespace Row

/-- A value of a column is not of the right type. -/
def unreadable (column : String) (value : SqlValue) : SqlFailure :=
  .columnUnreadable column <| match value with
    | .null => "unexpected null; try decoding as an `Option`"
    | _ => "mismatched types"

/-- Read a column that has to have a value. -/
def required (read : SqlValue → Option α) (column : String) (r : Row) : Except SqlFailure α :=
  let value := (r.lookup column).getD .null
  match read value with
  | some a => .ok a
  | none => .error (unreadable (Text.quoted column) value)

/-- Read a column that may be null. -/
def optional (read : SqlValue → Option α) (column : String) (r : Row) :
    Except SqlFailure (Option α) :=
  match (r.lookup column).getD .null with
  | .null => .ok none
  | _ => some <$> r.required read column

/-- A number. -/
def number? : SqlValue → Option Int
  | .number n => some n
  | _ => none

/-- A text. -/
def text? : SqlValue → Option String
  | .text s => some s
  | _ => none

/-- A truth value. -/
def bool? : SqlValue → Option Bool
  | .bool b => some b
  | _ => none

/-- An identifier. -/
def uuid? : SqlValue → Option Uuid
  | .uuid u => some u
  | _ => none

/-- An instant. -/
def instant? : SqlValue → Option Timestamp
  | .instant t => some t
  | _ => none

/-- A JSON value. -/
def json? : SqlValue → Option Json
  | .json j => some j
  | _ => none

/-- Read a command. -/
def command (r : Row) : Except SqlFailure InternalCommand := do
  let sequence ← r.required number? "sequence"
  let id ← r.required uuid? "id"
  let kind ← r.required text? "kind"
  let payload ← r.required json? "payload"
  let createdAt ← r.required instant? "created_at"
  let processed ← r.required bool? "processed"
  let processedAt ← r.optional instant? "processed_at"
  let attempts ← r.required number? "attempts"
  let lastError ← r.optional text? "last_error"
  let notBefore ← r.optional instant? "not_before"
  let deadLetteredAt ← r.optional instant? "dead_lettered_at"
  pure
    { id := ⟨id⟩
      kind := kind
      payload := payload
      createdAt := createdAt
      processed := processed
      processedAt := processedAt
      sequence := some (unsigned64 sequence)
      attempts := unsigned32 attempts
      lastError := lastError
      notBefore := notBefore
      deadLetteredAt := deadLetteredAt }

/-- Read a snapshot with its version. -/
def snapshot (r : Row) : Except SqlFailure (Nat × Json) := do
  let version ← r.required number? "version"
  pure (unsigned64 version, ← r.required json? "snapshot")

/-- Read counts of commands. -/
def stats (r : Row) : Except SqlFailure CommandStats := do
  let count (column : String) : Except SqlFailure Nat :=
    unsigned64 <$> r.required number? column
  let pending ← count "pending"
  let inFlight ← count "in_flight"
  let failing ← count "failing"
  let processed ← count "processed"
  pure ⟨pending, inFlight, failing, processed, ← count "dead_lettered"⟩

/-- Read the only column that was asked for. An error calls it by its position. -/
def scalar (read : SqlValue → Option α) (column : String) (r : Row) : Except SqlFailure α :=
  let value := (r.lookup column).getD .null
  match read value with
  | some a => .ok a
  | none => .error (unreadable "0" value)

end Row

/-! ### Operations -/

/-- A computation with a database that may fail. -/
abbrev Query (σ : Type) := ExceptT StoreError (Service σ)

/-- A connection to a database server, as part of a state. -/
structure Connection (σ : Type) where
  /-- Reach the server. -/
  connect : Service σ (Except SqlFailure Unit)
  /-- Send a statement and wait for the reply. -/
  send : Statement → Service σ (Except SqlFailure Reply)

namespace Connection

variable {σ α : Type} (c : Connection σ)

/-- A connection with another state beside its own, which it leaves alone. -/
def beside (τ : Type) : Connection (σ × τ) where
  connect := Service.onFirst c.connect
  send s := Service.onFirst (c.send s)

/-- Take a result into a query. -/
def orFail (result : Except StoreError α) : Query σ α :=
  ExceptT.mk (pure result)

/-- Send a statement on behalf of an operation. -/
def execute (operation : String) (s : Statement) : Query σ Reply :=
  ExceptT.mk do
    pure ((← c.send s).mapError (·.toStoreError operation))

/-- The first row of a reply, if there is one. -/
def fetchOptional (operation : String) (s : Statement) : Query σ (Option Row) := do
  pure (← c.execute operation s).rows.head?

/-- The first row of a reply that has to have one. -/
def fetchOne (operation : String) (s : Statement) : Query σ Row := do
  match ← c.fetchOptional operation s with
  | some row => pure row
  | none => throw (SqlFailure.rowMissing.toStoreError operation)

/-- All rows of a reply. -/
def fetchAll (operation : String) (s : Statement) : Query σ (List Row) := do
  pure (← c.execute operation s).rows

/-- The only number of the first row of a reply, if there is one. -/
def fetchNumber (operation column : String) (s : Statement) : Query σ (Option Int) := do
  match ← c.fetchOptional operation s with
  | none => pure none
  | some row => some <$> orFail ((row.scalar Row.number? column).mapError (·.toStoreError operation))

/-- Read a row. -/
def decode (read : Row → Except SqlFailure α) (row : Row) : Query σ α :=
  orFail ((read row).mapError SqlFailure.ofDecoding)

/-- Do some work in a transaction. It is committed if the work succeeds. If the work fails or the
commit does, it is rolled back, and what the server says to that is of no interest. -/
def inTransaction (work : Query σ α) : Query σ α :=
  ExceptT.mk do
    match ← (c.execute "begin_transaction" .begin).run with
    | .error e => pure (.error e)
    | .ok _ =>
      let committed : Query σ α := do
        let a ← work
        let _ ← c.execute "commit_transaction" .commit
        pure a
      match ← committed.run with
      | .ok a => pure (.ok a)
      | .error e => do
        let _ ← c.send .rollback
        pure (.error e)

end Connection

end SupplierSwitch
