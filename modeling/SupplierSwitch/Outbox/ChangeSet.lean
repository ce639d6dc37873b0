import SupplierSwitch.Outbox.Handling

namespace SupplierSwitch

/-!
# Change sets

What a unit of work has staged and not yet committed. A unit sees its own staged aggregates in place
of the committed ones; a save is checked against the version that the unit sees, and remembers the
version it expects to find at commit.
Main definitions:

* `ChangeSet` and its operations, one for each kind of staging.
* `ChangeSet.answer`: how a unit answers questions, given a way to read what is committed.
-/

/-- Whether a staged transaction is new, or replaces one of an expected version. -/
inductive TransactionWrite where
  | insert
  | update (expected : ExpectedVersion)
  deriving DecidableEq

/-- A transaction to be written. -/
structure StagedTransaction where
  transaction : Transaction
  write : TransactionWrite
  deriving DecidableEq

/-- An accounting point to be written over one of an expected version. -/
structure StagedPoint where
  point : AccountingPoint
  expected : ExpectedVersion
  deriving DecidableEq

/-- Everything that a unit of work has staged, in order of staging. -/
structure ChangeSet where
  commands : List InternalCommand
  /-- Commands to be marked as processed, each under its claim. -/
  processed : List (CommandId × ClaimToken)
  transactions : List StagedTransaction
  points : List StagedPoint
  deriving DecidableEq

/-- How to read what is committed. -/
structure Committed (m : Type → Type) where
  transactionVersion : TransactionId → m (Except RepositoryError (Option Nat))
  transaction : TransactionId → m (Except RepositoryError (Option Transaction))
  point : String → m (Except RepositoryError (Option AccountingPoint))

namespace ChangeSet

/-- Nothing is staged. -/
def empty : ChangeSet := ⟨[], [], [], []⟩

instance : Inhabited ChangeSet := ⟨empty⟩

/-- The change set holds nothing. -/
def isEmpty (c : ChangeSet) : Bool :=
  c.commands.isEmpty && c.processed.isEmpty && c.transactions.isEmpty && c.points.isEmpty

/-! ### Commands -/

/-- Stage a command whose identifier is not staged yet. -/
def stageCommand (c : ChangeSet) (command : InternalCommand) : Except StoreError ChangeSet :=
  if c.commands.any (·.id = command.id) then
    .error (.alreadyExists ("command " ++ toString command.id))
  else .ok { c with commands := c.commands ++ [command] }

/-- Stage a mark. The first mark of a command stands. -/
def markProcessed (c : ChangeSet) (command : CommandId) (claim : ClaimToken) : ChangeSet :=
  if c.processed.any (·.1 = command) then c
  else { c with processed := c.processed ++ [(command, claim)] }

/-! ### Transactions -/

/-- The staged transaction of a name. -/
def transaction? (c : ChangeSet) (id : TransactionId) : Option Transaction :=
  (c.transactions.find? (·.transaction.id = id)).map (·.transaction)

/-- Put a transaction in place of the first staged one of its name. -/
def replaceTransaction (t : Transaction) : List StagedTransaction → List StagedTransaction
  | [] => []
  | staged :: rest =>
    if staged.transaction.id = t.id then { staged with transaction := t } :: rest
    else staged :: replaceTransaction t rest

/-- The refusal of a version. -/
def checkVersion (expected : ExpectedVersion) (actual : Nat) (what : String) :
    Except RepositoryError Unit :=
  (expected.check actual).mapError fun e => .conflict (what ++ ": " ++ e.message)

/-- Stage a new transaction. It counts as version 0. -/
def insertTransaction (c : ChangeSet) (t : Transaction) : ChangeSet :=
  { c with transactions := c.transactions ++ [⟨{ t with version := 0 }, .insert⟩] }

/-- Stage a new version of a transaction that is not staged yet, given its committed version. -/
def updateTransaction (c : ChangeSet) (t : Transaction) (expected : ExpectedVersion) :
    Option Nat → Except RepositoryError ChangeSet
  | none => .error (.notFound ("transaction " ++ t.id.text))
  | some version =>
    (checkVersion expected version ("transaction " ++ t.id.text)).map fun _ =>
      { c with transactions := c.transactions ++ [⟨t, .update expected⟩] }

/-- Stage a new version of a staged transaction. -/
def restageTransaction (c : ChangeSet) (t staged : Transaction) (expected : ExpectedVersion) :
    Except RepositoryError ChangeSet :=
  (checkVersion expected staged.version ("transaction " ++ t.id.text)).map fun _ =>
    { c with transactions := replaceTransaction t c.transactions }

/-! ### Accounting points -/

/-- The staged accounting point of a number. -/
def point? (c : ChangeSet) (gsrn : String) : Option AccountingPoint :=
  (c.points.find? (·.point.gsrn.text = gsrn)).map (·.point)

/-- Put a point in place of the first staged one of its number. -/
def replacePoint (p : AccountingPoint) : List StagedPoint → List StagedPoint
  | [] => []
  | staged :: rest =>
    if staged.point.gsrn = p.gsrn then { staged with point := p } :: rest
    else staged :: replacePoint p rest

/-- Stage a new version of a point that is not staged yet. A missing point counts as version 0. -/
def updatePoint (c : ChangeSet) (p : AccountingPoint) (expected : ExpectedVersion)
    (committed : Option Nat) : Except RepositoryError ChangeSet :=
  (checkVersion expected (committed.getD 0) ("accounting point " ++ p.gsrn.text)).map fun _ =>
    { c with points := c.points ++ [⟨p, expected⟩] }

/-- Stage a new version of a staged point. -/
def restagePoint (c : ChangeSet) (p staged : AccountingPoint) (expected : ExpectedVersion) :
    Except RepositoryError ChangeSet :=
  (checkVersion expected staged.version ("accounting point " ++ p.gsrn.text)).map fun _ =>
    { c with points := replacePoint p c.points }

/-! ### Answers -/

/-- The outcome of staging: the change set stays as it was if it fails. -/
def settle (c : ChangeSet) : Except ε ChangeSet → Except ε Unit × ChangeSet
  | .ok staged => (.ok (), staged)
  | .error e => (.error e, c)

/-- How a unit of work answers. What is staged is looked at first; what is committed is read only
where the answer depends on it. -/
def answer {m : Type → Type} [Monad m] (committed : Committed m) :
    (call : UnitCall) → ChangeSet → m (call.Answer × ChangeSet)
  | .findPoint gsrn, c =>
    match c.point? gsrn with
    | some p => pure (.ok (some p), c)
    | none => do pure (← committed.point gsrn, c)
  | .savePoint p expected, c =>
    match c.point? p.gsrn.text with
    | some staged => pure (c.settle (c.restagePoint p staged expected))
    | none => do
      match ← committed.point p.gsrn.text with
      | .error e => pure (.error e, c)
      | .ok current => pure (c.settle (c.updatePoint p expected (current.map (·.version))))
  | .getTransaction id, c =>
    match c.transaction? id with
    | some t => pure (.ok t, c)
    | none => do
      match ← committed.transaction id with
      | .error e => pure (.error e, c)
      | .ok (some t) => pure (.ok t, c)
      | .ok none => pure (.error (.notFound ("transaction " ++ id.text)), c)
  | .addTransaction t, c =>
    match c.transaction? t.id with
    | some _ => pure (.error (.alreadyExists ("transaction " ++ t.id.text)), c)
    | none => do
      match ← committed.transactionVersion t.id with
      | .error e => pure (.error e, c)
      | .ok (some _) => pure (.error (.alreadyExists ("transaction " ++ t.id.text)), c)
      | .ok none => pure (.ok (), c.insertTransaction t)
  | .saveTransaction t expected, c =>
    match c.transaction? t.id with
    | some staged => pure (c.settle (c.restageTransaction t staged expected))
    | none => do
      match ← committed.transactionVersion t.id with
      | .error e => pure (.error e, c)
      | .ok version => pure (c.settle (c.updateTransaction t expected version))
  | .stageCommand command, c => pure (c.settle (c.stageCommand command))
  | .markProcessed command claim, c => pure (.ok (), c.markProcessed command claim)

end ChangeSet

end SupplierSwitch
