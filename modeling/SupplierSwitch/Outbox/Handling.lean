import SupplierSwitch.Answer.Converters
import SupplierSwitch.Market.AccountingPoint
import SupplierSwitch.Market.Transaction
import SupplierSwitch.Outbox.Command
import SupplierSwitch.Journal

namespace SupplierSwitch

/-!
# Work on a unit

What may be asked of a unit of work, and programs that ask. A program is data: it can reach the store
only through the questions listed here, and every store that answers them can run it.
Main definitions:

* `UnitCall` and `UnitCall.Answer`: the questions to a unit of work and the types of their answers.
* `Handling`: programs that ask a unit of work, the clock and the supply of identifiers.
* `Work`: programs that may fail, with one operation for each question.
-/

/-- A question to a unit of work. -/
inductive UnitCall where
  /-- The accounting point of a number, as this unit sees it. -/
  | findPoint (gsrn : String)
  | savePoint (point : AccountingPoint) (expected : ExpectedVersion)
  /-- The transaction of a name, as this unit sees it. -/
  | getTransaction (id : TransactionId)
  | addTransaction (transaction : Transaction)
  | saveTransaction (transaction : Transaction) (expected : ExpectedVersion)
  | stageCommand (command : InternalCommand)
  | markProcessed (command : CommandId) (claim : ClaimToken)

/-- What a unit of work answers to a question. -/
abbrev UnitCall.Answer : UnitCall → Type
  | findPoint _ => Except RepositoryError (Option AccountingPoint)
  | savePoint _ _ => Except RepositoryError Unit
  | getTransaction _ => Except RepositoryError Transaction
  | addTransaction _ => Except RepositoryError Unit
  | saveTransaction _ _ => Except RepositoryError Unit
  | stageCommand _ => Except StoreError Unit
  | markProcessed _ _ => Except StoreError Unit

/-- A step of a program. -/
inductive Action where
  | ask (call : UnitCall)
  | now
  | freshId
  | report (notice : Notice)

/-- What a step yields. -/
abbrev Action.Answer : Action → Type
  | ask call => call.Answer
  | now => Timestamp
  | freshId => Uuid
  | report _ => Unit

/-- A program: a result, or a step and what to do with its answer. -/
inductive Handling (α : Type) where
  | done (a : α)
  | step (action : Action) (next : action.Answer → Handling α)

namespace Handling

/-- One program after another. -/
protected def bind : Handling α → (α → Handling β) → Handling β
  | done a, f => f a
  | step action next, f => step action fun answer => (next answer).bind f

instance : Monad Handling where
  pure := done
  bind := Handling.bind

/-- The program of one step. -/
def perform (action : Action) : Handling action.Answer :=
  step action done

/-- Run a program where every step has a meaning. -/
def run {m : Type → Type} [Monad m] (meaning : (action : Action) → m action.Answer) :
    Handling α → m α
  | done a => pure a
  | step action next => do
    let answer ← meaning action
    (next answer).run meaning

end Handling

/-- What may keep a unit from its work. -/
inductive HandlerError where
  | repository (e : RepositoryError)
  | store (e : StoreError)
  | domain (e : DomainError)
  /-- A violation that cannot be told to the participant. -/
  | conversion (e : RegistryError)
  | failed (reason : String)
  deriving DecidableEq

/-- The wording of a handler error. -/
def HandlerError.message : HandlerError → String
  | .repository e => e.message
  | .store e => e.message
  | .domain e => e.message
  | .conversion e => e.message
  | .failed reason => reason

/-- The name of a cause, after the part of the service that it arose in. -/
def HandlerError.name : HandlerError → String
  | .repository e => "Repository." ++ e.name
  | .store e => "Store." ++ e.name
  | .domain e => "Domain." ++ e.name
  | .conversion e => "Conversion." ++ e.name
  | .failed _ => "Failed"

/-- A program that may fail. -/
abbrev Work := ExceptT HandlerError Handling

namespace Work

/-- A step whose failure concerns an aggregate. -/
def onRepository (program : Handling (Except RepositoryError α)) : Work α :=
  ExceptT.mk do
    pure ((← program).mapError .repository)

/-- A step whose failure concerns the store. -/
def onStore (program : Handling (Except StoreError α)) : Work α :=
  ExceptT.mk do
    pure ((← program).mapError .store)

/-- A result of the domain. -/
def ofDomain (result : Except DomainError α) : Work α :=
  ExceptT.mk (pure (result.mapError .domain))

/-- A result with notices, where failure concerns the converters. -/
def ofConversion (result : Noted (Except RegistryError α)) : Work α :=
  ExceptT.mk do
    result.notices.forM fun notice => Handling.perform (.report notice)
    pure (result.value.mapError .conversion)

/-- Find an accounting point. -/
def findPoint (gsrn : String) : Work (Option AccountingPoint) :=
  onRepository (Handling.perform (.ask (.findPoint gsrn)))

/-- Save an accounting point. -/
def savePoint (point : AccountingPoint) (expected : ExpectedVersion) : Work Unit :=
  onRepository (Handling.perform (.ask (.savePoint point expected)))

/-- Get a transaction. -/
def getTransaction (id : TransactionId) : Work Transaction :=
  onRepository (Handling.perform (.ask (.getTransaction id)))

/-- Add a transaction. -/
def addTransaction (transaction : Transaction) : Work Unit :=
  onRepository (Handling.perform (.ask (.addTransaction transaction)))

/-- Save a transaction. -/
def saveTransaction (transaction : Transaction) (expected : ExpectedVersion) : Work Unit :=
  onRepository (Handling.perform (.ask (.saveTransaction transaction expected)))

/-- Stage a command as it is. -/
def stageCommand (command : InternalCommand) : Work Unit :=
  onStore (Handling.perform (.ask (.stageCommand command)))

/-- Mark a claimed command as processed. -/
def markProcessed (command : CommandId) (claim : ClaimToken) : Work Unit :=
  onStore (Handling.perform (.ask (.markProcessed command claim)))

/-- Read the clock. -/
def now : Work Timestamp :=
  ExceptT.lift (Handling.perform .now)

/-- Take a fresh identifier. -/
def freshId : Work Uuid :=
  ExceptT.lift (Handling.perform .freshId)

/-- Write a notice to the journal. -/
def report (notice : Notice) : Work Unit :=
  ExceptT.lift (Handling.perform (.report notice))

/-- Enqueue a command under a given identifier: stage it, created now. -/
def enqueueWithId (id : CommandId) (kind : String) (payload : Json) : Work CommandId := do
  stageCommand (.fresh id kind payload (← now))
  report (.commandEnqueued id kind)
  pure id

/-- Enqueue a command under a fresh identifier. -/
def enqueue (kind : String) (payload : Json) : Work CommandId := do
  enqueueWithId ⟨← freshId⟩ kind payload

end Work

end SupplierSwitch
