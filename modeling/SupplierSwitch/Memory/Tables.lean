import SupplierSwitch.Outbox.ChangeSet

namespace SupplierSwitch

/-!
# Tables in memory

The state of the in-memory store and what each operation does to it, as functions of the state.
Commands stand in the order in which they were committed. A commit first checks everything that is
staged against the tables and then applies it, so that a failed commit changes nothing.
-/

/-- A stored command with the claim on it and the instant at which the claim runs out. -/
structure CommandRow where
  command : InternalCommand
  claim : Option (ClaimToken × Timestamp)
  deriving DecidableEq

namespace CommandRow

/-- The claim has not run out at an instant. -/
def isClaimed (r : CommandRow) (now : Timestamp) : Bool :=
  r.claim.any fun claim => now < claim.2

/-- The row is held under a claim, run out or not. -/
def isHeldBy (r : CommandRow) (token : ClaimToken) : Bool :=
  r.claim.any fun claim => claim.1 = token

end CommandRow

/-- The tables of the store. -/
structure Tables where
  /-- Commands in order of commit. -/
  commands : List CommandRow
  /-- The last place that was given in the order of commits. -/
  lastSequence : Nat
  transactions : List Transaction
  points : List AccountingPoint
  deriving DecidableEq

namespace Tables

/-- A store that nothing was committed to. -/
def empty : Tables := ⟨[], 0, [], []⟩

instance : Inhabited Tables := ⟨empty⟩

/-! ### Reading -/

/-- The row of a command. -/
def row? (t : Tables) (id : CommandId) : Option CommandRow :=
  t.commands.find? (·.command.id = id)

/-- The committed transaction of a name. -/
def transaction? (t : Tables) (id : TransactionId) : Option Transaction :=
  t.transactions.find? (·.id = id)

/-- The committed accounting point of a number. -/
def point? (t : Tables) (gsrn : String) : Option AccountingPoint :=
  t.points.find? (·.gsrn.text = gsrn)

/-- The committed version of a point; a missing point counts as version 0. -/
def pointVersion (t : Tables) (gsrn : Gsrn) : Nat :=
  ((t.point? gsrn.text).map (·.version)).getD 0

/-- The last place in the order of commits that a command has. -/
def highWaterMark (t : Tables) : Option Nat :=
  (t.commands.filterMap (·.command.sequence)).max?

/-- The first commands that were given up. -/
def deadLetters (t : Tables) (limit : Nat) : List InternalCommand :=
  ((t.commands.map (·.command)).filter (·.isDeadLettered)).take limit

/-- Counts of commands at an instant. -/
def stats (t : Tables) (now : Timestamp) : CommandStats :=
  let processed := t.commands.filter (·.command.processed)
  let unprocessed := t.commands.filter (!·.command.processed)
  let pending := unprocessed.filter (!·.command.isDeadLettered)
  { pending := pending.length
    inFlight := pending.countP (·.isClaimed now)
    failing := pending.countP (0 < ·.command.attempts)
    processed := processed.length
    deadLettered := unprocessed.countP (·.command.isDeadLettered) }

/-- Reading the tables as they are. -/
def reads (t : Tables) : Committed Id where
  transactionVersion id := .ok ((t.transaction? id).map (·.version))
  transaction id := .ok (t.transaction? id)
  point gsrn := .ok (t.point? gsrn)

/-- Answer a question to a unit of work over the tables as they are. -/
def answer (t : Tables) (call : UnitCall) (c : ChangeSet) : call.Answer × ChangeSet :=
  Id.run (ChangeSet.answer t.reads call c)

/-! ### Claims and failures -/

/-- Change the row of a command. -/
def updateRow (t : Tables) (id : CommandId) (change : CommandRow → CommandRow) : Tables :=
  { t with
    commands := t.commands.map fun row => if row.command.id = id then change row else row }

/-- A row may be handed out at an instant. -/
def isClaimable (filter : ClaimFilter) (now : Timestamp) (row : CommandRow) : Bool :=
  row.command.isReady now && !row.isClaimed now && !filter.exclude.contains row.command.id &&
    (match filter.upToSequence, row.command.sequence with
      | some ceiling, some sequence => sequence ≤ ceiling
      | _, _ => true)

/-- The command that is handed out next: the first one that may be. -/
def nextClaimable (t : Tables) (filter : ClaimFilter) (now : Timestamp) : Option CommandRow :=
  t.commands.find? (isClaimable filter now)

/-- Put a row under a claim that runs out after the lease. -/
def claim (t : Tables) (id : CommandId) (token : ClaimToken) (lease : Duration) (now : Timestamp) :
    Tables :=
  t.updateRow id fun row => { row with claim := some (token, now.offsetBy lease) }

/-- A command after another failure. -/
def failed (c : InternalCommand) (error : String) (policy : RetryPolicy) (now : Timestamp) :
    InternalCommand × FailureDisposition :=
  let attempts := c.attempts + 1
  let c := { c with attempts := attempts, lastError := some error }
  if policy.shouldRetry attempts then
    let notBefore := now.offsetBy (policy.delayForAttempt attempts)
    ({ c with notBefore := some notBefore }, .retry attempts notBefore)
  else ({ c with deadLetteredAt := some now }, .deadLettered attempts)

/-- Record a failure under the claim that the failed attempt had, and release the claim. -/
def recordFailure (t : Tables) (id : CommandId) (token : ClaimToken) (error : String)
    (policy : RetryPolicy) (now : Timestamp) : Except StoreError (FailureDisposition × Tables) :=
  match t.row? id with
  | none => .error (.notFound ("command " ++ toString id))
  | some row =>
    if row.isHeldBy token then
      let (command, disposition) := failed row.command error policy now
      .ok (disposition, t.updateRow id fun _ => ⟨command, none⟩)
    else .error (.claimLost id)

/-- A command that was given up, as if it had not failed yet. -/
def revived (c : InternalCommand) : InternalCommand :=
  { c with deadLetteredAt := none, attempts := 0, notBefore := none }

/-- Revive a command that was given up. -/
def retryDeadLetter (t : Tables) (id : CommandId) : Except StoreError (InternalCommand × Tables) :=
  match t.row? id with
  | none => .error (.notFound ("command " ++ toString id))
  | some row =>
    if row.command.isDeadLettered then
      .ok (revived row.command, t.updateRow id fun _ => ⟨revived row.command, none⟩)
    else .error (.conflict ("command " ++ toString id ++ " is not dead-lettered"))

/-! ### Commit -/

/-- The refusal of a version at commit. -/
def checkVersion (expected : ExpectedVersion) (actual : Nat) (what : String) :
    Except StoreError Unit :=
  (expected.check actual).mapError fun e => .conflict (what ++ ": " ++ e.message)

/-- A staged command has to be new. -/
def checkCommand (t : Tables) (command : InternalCommand) : Except StoreError Unit :=
  if (t.row? command.id).isSome then
    .error (.alreadyExists ("command " ++ toString command.id))
  else .ok ()

/-- A mark has to hold the claim on an unprocessed command. -/
def checkMark (t : Tables) (mark : CommandId × ClaimToken) : Except StoreError Unit :=
  match t.row? mark.1 with
  | none => .error (.notFound ("command " ++ toString mark.1))
  | some row =>
    if row.command.processed || !row.isHeldBy mark.2 then .error (.claimLost mark.1) else .ok ()

/-- A new transaction has to be new; another one has to be there in the expected version. -/
def checkTransaction (t : Tables) (staged : StagedTransaction) : Except StoreError Unit :=
  let id := staged.transaction.id
  match staged.write, t.transaction? id with
  | .insert, some _ => .error (.alreadyExists ("transaction " ++ id.text))
  | .insert, none => .ok ()
  | .update _, none => .error (.notFound ("transaction " ++ id.text))
  | .update expected, some current =>
    checkVersion expected current.version ("transaction " ++ id.text)

/-- A point has to be there in the expected version. -/
def checkPoint (t : Tables) (staged : StagedPoint) : Except StoreError Unit :=
  checkVersion staged.expected (t.pointVersion staged.point.gsrn)
    ("accounting point " ++ staged.point.gsrn.text)

/-- Check everything that is staged. -/
def check (t : Tables) (c : ChangeSet) : Except StoreError Unit := do
  c.commands.forM t.checkCommand
  c.processed.forM t.checkMark
  c.transactions.forM t.checkTransaction
  c.points.forM t.checkPoint

/-- Append a command at the next place in the order of commits, unclaimed. -/
def insertCommand (t : Tables) (command : InternalCommand) : Tables :=
  { t with
    commands := t.commands ++ [⟨{ command with sequence := some (t.lastSequence + 1) }, none⟩]
    lastSequence := t.lastSequence + 1 }

/-- A processed row: stamped, and no longer claimed. -/
def processedRow (now : Timestamp) (row : CommandRow) : CommandRow :=
  ⟨{ row.command with processed := true, processedAt := some now }, none⟩

/-- Mark a command as processed. -/
def applyMark (now : Timestamp) (t : Tables) (mark : CommandId × ClaimToken) : Tables :=
  t.updateRow mark.1 (processedRow now)

/-- Put a value in place of the first one that it belongs in place of, or at the end. -/
def put (same : α → Bool) (a : α) : List α → List α
  | [] => [a]
  | b :: rest => if same b then a :: rest else b :: put same a rest

/-- Write a transaction one version above the committed one. -/
def putTransaction (t : Tables) (transaction : Transaction) : Tables :=
  let version := ((t.transaction? transaction.id).map (·.version)).getD 0 + 1
  { t with
    transactions := put (·.id = transaction.id) { transaction with version := version }
      t.transactions }

/-- Write a point one version above the committed one. -/
def putPoint (t : Tables) (point : AccountingPoint) : Tables :=
  let version := t.pointVersion point.gsrn + 1
  { t with
    points := put (·.gsrn.text = point.gsrn.text) { point with version := version } t.points }

/-- Apply everything that is staged. -/
def apply (t : Tables) (c : ChangeSet) (now : Timestamp) : Tables :=
  let t := c.commands.foldl insertCommand t
  let t := c.processed.foldl (applyMark now) t
  let t := (c.transactions.map (·.transaction)).foldl putTransaction t
  (c.points.map (·.point)).foldl putPoint t

/-- Commit a change set, or say what keeps it from being committed. -/
def commit (t : Tables) (c : ChangeSet) (now : Timestamp) : Except StoreError Tables :=
  (t.check c).map fun _ => t.apply c now

end Tables

end SupplierSwitch
