import SupplierSwitch.Outbox.Store

namespace SupplierSwitch

/-!
# The bench

A scenario plays scripted work against a store, to see what comes of it when units, claims and
failures get in each other's way. The bench is what a scenario keeps beside the store: the claims it
holds, the failures it has planned, and its notes.
Main definitions:

* `Bench` and `Workbench`: the bench, and a store with a bench beside its state.
* `CommandStore.withFaults`: a store whose calls fail as planned.
-/

/-- The calls that may be made to fail. -/
inductive StoreCall where
  | begin
  | claimNext
  | recordFailure
  | highWaterMark
  | markProcessed
  | commit
  deriving DecidableEq, Repr

/-- The name of a call in a plan. -/
def StoreCall.name : StoreCall → String
  | begin => "begin"
  | claimNext => "claim_next"
  | recordFailure => "record_failure"
  | highWaterMark => "high_water_mark"
  | markProcessed => "mark_processed"
  | commit => "commit"

/-- The call of a name. -/
def StoreCall.ofName? (name : String) : Option StoreCall :=
  [begin, claimNext, recordFailure, highWaterMark, markProcessed, commit].find? (·.name = name)

/-- A planned failure: which call of a sort fails, counted from one, and how. -/
structure PlannedFault where
  call : StoreCall
  nth : Nat
  error : StoreError

/-- What one step of a unit came to. -/
inductive StepAnswer where
  | done
  /-- A command was enqueued, under a fresh identifier or a given one. -/
  | enqueued (id : CommandId) (fresh : Bool)
  | transaction (t : Transaction)
  | point (p : Option AccountingPoint)
  | claimed (command : Option InternalCommand)

/-- What a script notes of its own run. -/
inductive ScriptNote where
  | started (label : String) (command : CommandId)
  | stepped (result : Except HandlerError StepAnswer)

/-- What a scenario keeps beside the store. -/
structure Bench where
  /-- Claims by label. -/
  claims : List (String × ClaimToken)
  /-- Notes of the scripts, latest first. -/
  notes : List ScriptNote
  faults : List PlannedFault
  /-- Calls that were made since the faults were planned, latest first. -/
  calls : List StoreCall
  /-- The messages that steps have brought in. -/
  messages : List MessageId

namespace Bench

/-- A tidy bench. -/
def empty : Bench := ⟨[], [], [], [], []⟩

/-- The claim of a label. A label that was never set stands for the token of zeros. -/
def claim (b : Bench) (label : String) : ClaimToken :=
  ((b.claims.find? (·.1 = label)).map (·.2)).getD default

/-- Keep a claim under a label. -/
def keepClaim (label : String) (claim : ClaimToken) (b : Bench) : Bench :=
  { b with claims := (label, claim) :: b.claims.filter (·.1 ≠ label) }

/-- Put another note on the bench. -/
def note (n : ScriptNote) (b : Bench) : Bench :=
  { b with notes := n :: b.notes }

/-- Remember messages that a step brings in. -/
def remember (messages : List MessageId) (b : Bench) : Bench :=
  { b with messages := messages ++ b.messages }

/-- Plan failures, and clear away notes and calls. -/
def plan (faults : List PlannedFault) (b : Bench) : Bench :=
  { b with notes := [], faults := faults, calls := [] }

/-- Count a call. -/
def count (call : StoreCall) (b : Bench) : Bench :=
  { b with calls := call :: b.calls }

/-- The failure that is planned for the latest call of a sort. -/
def fault? (b : Bench) (call : StoreCall) : Option StoreError :=
  let made := b.calls.count call
  (b.faults.find? fun f => f.call = call && f.nth = made).map (·.error)

end Bench

/-- A store under trial, and how to tell its commands by their place in the order of commits. -/
structure Workbench (σ υ : Type) where
  store : CommandStore (σ × Bench) υ
  commandAt? : σ → Nat → Option CommandId

namespace CommandStore

variable {σ υ α : Type}

/-- Count a call, and tell how it has to fail. -/
def faultOf (call : StoreCall) : Service (σ × Bench) (Option StoreError) := do
  Service.changeSecond (Bench.count call)
  pure ((← Service.readSecond).fault? call)

/-- Make a call, unless it has to fail. -/
def unlessFault (call : StoreCall) (work : Service (σ × Bench) (Except StoreError α)) :
    Service (σ × Bench) (Except StoreError α) := do
  match ← faultOf call with
  | some e => pure (.error e)
  | none => work

/-- A store whose calls fail as planned, without doing anything then. -/
def withFaults (store : CommandStore (σ × Bench) υ) : CommandStore (σ × Bench) υ :=
  { store with
    begin := unlessFault .begin store.begin
    answer := fun call unit =>
      match call with
      | .markProcessed id claim => do
        match ← faultOf .markProcessed with
        | some e => pure (.error e, unit)
        | none => store.answer (.markProcessed id claim) unit
      | call => store.answer call unit
    commit := fun unit => unlessFault .commit (store.commit unit)
    claimNext := fun filter => unlessFault .claimNext (store.claimNext filter)
    recordFailure := fun id claim error policy now =>
      unlessFault .recordFailure (store.recordFailure id claim error policy now)
    highWaterMark := unlessFault .highWaterMark store.highWaterMark }

end CommandStore

end SupplierSwitch
