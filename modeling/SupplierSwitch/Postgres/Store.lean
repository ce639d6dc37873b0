import SupplierSwitch.Postgres.Connection

namespace SupplierSwitch

/-!
# The store in a database

The command store behind a connection. Units of work are change sets; what a unit does not have
staged is read from the database at the moment of the question, and a commit writes everything that
is staged in one transaction.
Main definitions:

* `Postgres.commitChanges`: the transaction that writes a change set.
* `Postgres.recordFailure`: the transaction that records a failure.
* `Postgres.store`: the store of a connection.
-/

/-- On what threads the service runs. Waiting for a reply takes a thread of its own. -/
inductive Runtime where
  | none
  | currentThread
  | multiThread
  deriving DecidableEq, Repr

/-- Why nothing can be sent on a runtime. -/
def Runtime.refusal? : Runtime → Option String
  | none => some "PostgresDatabase requires a tokio runtime; call it from within one"
  | currentThread => some "PostgresDatabase requires the multi-thread tokio runtime"
  | multiThread => Option.none

/-- A store error, in terms of aggregates. -/
def RepositoryError.ofStore : StoreError → RepositoryError
  | .notFound detail => .notFound detail
  | .alreadyExists detail => .alreadyExists detail
  | .conflict detail => .conflict detail
  | .serialization detail => .serialization detail
  | e => .storage e.message

namespace Postgres

variable {σ ε α : Type} (c : Connection σ)

/-! ### Surroundings -/

/-- Do some work if the runtime allows to wait for it. -/
def awaiting (runtime : Runtime) (storage : String → ε) (work : Service σ (Except ε α)) :
    Service σ (Except ε α) :=
  match runtime.refusal? with
  | some reason => pure (.error (storage reason))
  | none => work

/-- Do some work within a span, and report its failure there. -/
def traced (span : Span) (work : Query σ α) : Query σ α :=
  ExceptT.mk <| Service.inSpan span do
    let result ← work.run
    if let .error e := result then Service.report (.operationFailed e.message)
    pure result

/-! ### Commands -/

/-- Create the tables that are not there yet. -/
def ensureSchema : Query σ Unit := do
  let _ ← c.execute "ensure_schema" .createSchema

/-- Hand out the next ready command under a fresh claim. -/
def claimNext (filter : ClaimFilter) : Query σ (Option ClaimedCommand) :=
  traced
    ⟨"claim_next_async", [("up_to_sequence",
        .text (Notice.describeOption toString filter.upToSequence)),
      ("lease", .text filter.lease.render)]⟩ do
    let now ← (Service.now : Service σ Timestamp)
    let claim : ClaimToken := ⟨← (Service.freshId : Service σ Uuid)⟩
    match ← c.fetchOptional "claim_next" (.claimNext claim filter now) with
    | none => pure none
    | some row => return some ⟨← Connection.decode Row.command row, claim⟩

/-- What becomes of a command that has failed so often. -/
def disposition (policy : RetryPolicy) (attempts : UInt32) (now : Timestamp) : FailureDisposition :=
  if policy.shouldRetry attempts then
    .retry attempts (now.offsetBy (policy.delayForAttempt attempts))
  else .deadLettered attempts

/-- Record a failure under the claim that the failed attempt had, and release the claim. -/
def recordFailure (id : CommandId) (claim : ClaimToken) (error : String) (policy : RetryPolicy)
    (now : Timestamp) : Query σ FailureDisposition :=
  traced
    ⟨"record_failure_async", [("command_id", .text (toString id)),
      ("id", .text ("CommandId(" ++ toString id ++ ")")),
      ("claim", .text ("ClaimToken(" ++ toString claim ++ ")")), ("now", .text now.render)]⟩ <|
    c.inTransaction do
      let some row ← c.fetchOptional "record_failure" (.lockAttempts id)
        | throw (.notFound ("command " ++ toString id))
      let owner ← Connection.decode (Row.optional Row.uuid? "claim_token") row
      unless owner = some claim.uuid do throw (.claimLost id)
      let failed ← Connection.decode (Row.required Row.number? "attempts") row
      let disposition := disposition policy (unsigned32 failed + 1) now
      let _ ← c.execute "record_failure" (.writeFailure id error disposition now)
      pure disposition

/-- Read a command. -/
def get (id : CommandId) : Query σ (Option InternalCommand) := do
  match ← c.fetchOptional "get_command" (.selectCommand id) with
  | none => pure none
  | some row => some <$> Connection.decode Row.command row

/-- Read the last place in the order of commits. -/
def highWaterMark : Query σ (Option Nat) := do
  let row ← c.fetchOne "high_water_mark" .selectHighWaterMark
  let mark ← Connection.decode (Row.optional Row.number? "mark") row
  pure (mark.map unsigned64)

/-- Read the first commands that were given up. -/
def deadLetters (limit : Nat) : Query σ (List InternalCommand) := do
  let rows ← c.fetchAll "list_dead_letters" (.selectDeadLetters limit)
  rows.mapM (Connection.decode Row.command)

/-- Revive a command that was given up. -/
def retryDeadLetter (id : CommandId) : Query σ InternalCommand := do
  match ← c.fetchOptional "retry_dead_letter" (.reviveCommand id) with
  | some row => Connection.decode Row.command row
  | none =>
    match ← get c id with
    | some _ => throw (.conflict ("command " ++ toString id ++ " is not dead-lettered"))
    | none => throw (.notFound ("command " ++ toString id))

/-- Count the commands. -/
def stats : Query σ CommandStats := do
  let now ← (Service.now : Service σ Timestamp)
  Connection.decode Row.stats (← c.fetchOne "stats" (.selectStats now))

/-! ### Aggregates -/

/-- Read an aggregate from its snapshot. The version beside the snapshot counts, not the one in it. -/
def readSnapshot (what : String) (read : Reader α) (withVersion : Nat → α → α) (row : Row) :
    Query σ α := do
  let (version, snapshot) ← Connection.decode Row.snapshot row
  match read snapshot with
  | .ok a => pure (withVersion version a)
  | .error e => throw (.serialization (what ++ ": " ++ e.message))

/-- Read a transaction. -/
def transaction (id : TransactionId) : Query σ (Option Transaction) := do
  match ← c.fetchOptional "load_transaction" (.selectTransaction id) with
  | none => pure none
  | some row =>
    some <$> readSnapshot ("transaction " ++ id.text) Transaction.ofJson
      (fun version t => { t with version := version }) row

/-- Read the version of a transaction. -/
def transactionVersion (id : TransactionId) : Query σ (Option Nat) := do
  let version ← c.fetchNumber "transaction_version" "version" (.selectTransactionVersion id)
  pure (version.map unsigned64)

/-- Read an accounting point. -/
def point (gsrn : String) : Query σ (Option AccountingPoint) := do
  match ← c.fetchOptional "load_accounting_point" (.selectPoint gsrn) with
  | none => pure none
  | some row =>
    some <$> readSnapshot ("accounting point " ++ gsrn) AccountingPoint.ofJson
      (fun version p => { p with version := version }) row

/-- How a unit of work reads what is committed. -/
def committed (runtime : Runtime) : Committed (Service σ) :=
  let awaited {α : Type} (query : Query σ α) : Service σ (Except RepositoryError α) :=
    awaiting runtime .storage do
      pure ((← query.run).mapError .ofStore)
  { transactionVersion := fun id => awaited (transactionVersion c id)
    transaction := fun id => awaited (transaction c id)
    point := fun gsrn => awaited (point c gsrn) }

/-! ### Commit -/

/-- Send an insertion; a key that is there already is told by its name. -/
def insert (operation what : String) (s : Statement) : Query σ Unit :=
  ExceptT.mk do
    match ← c.send s with
    | .ok _ => pure (.ok ())
    | .error failure =>
      if failure.isUniqueViolation then pure (.error (.alreadyExists what))
      else pure (.error (failure.toStoreError operation))

/-- Insert a staged command. -/
def insertCommand (command : InternalCommand) : Query σ Unit :=
  insert c "insert_command" ("command " ++ toString command.id) (.insertCommand command)

/-- Mark a command as processed. If nothing was written, the claim is lost. -/
def markProcessed (now : Timestamp) (mark : CommandId × ClaimToken) : Query σ Unit := do
  let reply ← c.execute "mark_processed" (.markProcessed mark.1 mark.2 now)
  if reply.affected = 0 then throw (.claimLost mark.1)

/-- Write a staged transaction. If nothing was written, it is not there or has another version. -/
def writeTransaction (staged : StagedTransaction) : Query σ Unit := do
  let t := staged.transaction
  let what := "transaction " ++ t.id.text
  match staged.write with
  | .insert => insert c "insert_transaction" what (.insertTransaction t)
  | .update expected =>
    let reply ← c.execute "update_transaction" (.updateTransaction t expected)
    if reply.affected = 0 then
      match ← c.fetchNumber "update_transaction" "version" (.selectTransactionVersion t.id) with
      | some actual =>
        throw (.conflict (what ++ ": expected " ++ expected.describe ++ ", found " ++
          toString actual))
      | none => throw (.notFound what)

/-- Write a staged accounting point. If nothing was written, it has another version. -/
def writePoint (staged : StagedPoint) : Query σ Unit := do
  let reply ← c.execute "write_accounting_point" (.writePoint staged.point staged.expected)
  if reply.affected = 0 then
    throw (.conflict ("accounting point " ++ staged.point.gsrn.text ++ ": expected " ++
      staged.expected.describe))

/-- Write a change set in one transaction: commands, marks, transactions and points, in this order. -/
def commitChanges (changes : ChangeSet) : Query σ Unit :=
  traced
    ⟨"commit_changes", [("commands", .number changes.commands.length),
      ("processed", .number changes.processed.length),
      ("transactions", .number changes.transactions.length),
      ("accounting_points", .number changes.points.length)]⟩ do
    let now ← (Service.now : Service σ Timestamp)
    c.inTransaction do
      changes.commands.forM (insertCommand c)
      changes.processed.forM (markProcessed c now)
      changes.transactions.forM (writeTransaction c)
      changes.points.forM (writePoint c)

/-! ### The store -/

/-- The store of a connection. -/
def store (runtime : Runtime) : CommandStore σ ChangeSet :=
  let awaited {α : Type} (query : Query σ α) : Service σ (Except StoreError α) :=
    awaiting runtime .storage query.run
  { begin := pure (.ok .empty)
    answer := fun call unit => ChangeSet.answer (committed c runtime) call unit
    commit := fun changes =>
      if changes.isEmpty then pure (.ok ()) else awaited (commitChanges c changes)
    claimNext := fun filter => awaited (claimNext c filter)
    recordFailure := fun id claim error policy now =>
      awaited (recordFailure c id claim error policy now)
    get := fun id => awaited (get c id)
    highWaterMark := awaited (highWaterMark c)
    deadLetters := fun limit => awaited (deadLetters c limit)
    retryDeadLetter := fun id => awaited (retryDeadLetter c id)
    stats := awaited (stats c) }

end Postgres

end SupplierSwitch
