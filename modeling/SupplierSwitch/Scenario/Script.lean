import SupplierSwitch.Scenario.Step

namespace SupplierSwitch

/-!
# Scripted commands

A handler that takes the steps of a script within its unit and notes what comes of each. Besides the
steps of a unit it may commit another unit or claim a command in between.
Main definitions:

* `Workbench.runSteps`: steps one after another, each with its result.
* `Workbench.scriptRoute`: the route of scripted commands.
-/

namespace Workbench

variable {σ υ : Type} (bench : Workbench σ υ)

/-- What names stand for at this moment. A command is named by its identifier, by its place in the
order of commits, or as the one that is being handled. -/
def names (current : Option CommandId) : Service (σ × Bench) UnitStep.Names := do
  let (state, notes) ← Service.readStore
  pure
    { command := fun
        | .string "current" => match current with
          | some id => .ok id
          | none => .error "no current command"
        | .string s => (CommandId.ofText s).mapError (·.message)
        | j => match bench.commandAt? state (j.natAt "seq") with
          | some id => .ok id
          | none => .error ("no command with sequence " ++ toString (j.natAt "seq"))
      claim := notes.claim }

/-- Take a step in a unit of a store. -/
def runStep (store : CommandStore (σ × Bench) υ) (current : Option CommandId) (step : Json) :
    CommandStore.InUnit (σ × Bench) υ (Except HandlerError StepAnswer) := do
  match UnitStep.ofJson (← StateT.lift (bench.names current)) step with
  | .error reason => pure (.error (.failed reason))
  | .ok step => do
    StateT.lift (Service.changeSecond (Bench.remember step.messages))
    store.runIn step.work.run

/-- Take steps in order, whatever comes of them. -/
def runSteps : List Json →
    CommandStore.InUnit (σ × Bench) υ (List (Except HandlerError StepAnswer))
  | [] => pure []
  | step :: rest => do
    let result ← bench.runStep bench.store none step
    return result :: (← runSteps rest)

/-- Take steps in a unit of their own, whatever comes of them, and commit it unless it is dropped. -/
def runUnit (steps : List Json) (isDropped : Bool) : Service (σ × Bench)
    (Except StoreError (List (Except HandlerError StepAnswer) × Option (Except StoreError Unit))) := do
  match ← bench.store.begin with
  | .error e => pure (.error e)
  | .ok unit =>
    let (results, unit) ← (bench.runSteps steps).run unit
    if isDropped then pure (.ok (results, none))
    else return .ok (results, some (← bench.store.commit unit))

/-- Claim a command and keep the claim under a label, if there is one. -/
def claim (label : Option String) (filter : ClaimFilter) :
    Service (σ × Bench) (Except StoreError (Option InternalCommand)) := do
  match ← bench.store.claimNext filter with
  | .error e => pure (.error e)
  | .ok none => pure (.ok none)
  | .ok (some claimed) =>
    if let some label := label then Service.changeSecond (Bench.keepClaim label claimed.claim)
    pure (.ok (some claimed.command))

/-- Read what a claim asks for. A command that is excluded twice is excluded once. -/
def filterOf (names : UnitStep.Names) (j : Json) : Except String ClaimFilter := do
  let exclude ← (j.itemsAt "exclude").mapM names.command
  let upTo ← UnitStep.readOptional j "up_to" Json.readNat64
  let lease ← UnitStep.readOptional j "lease_secs" Json.readNat64
  pure ⟨exclude.eraseDups, upTo, .ofSeconds (lease.getD 3600)⟩

/-- Claim a command as a step says. -/
def claimStep (current : Option CommandId) (j : Json) :
    Service (σ × Bench) (Except HandlerError (Option InternalCommand)) := do
  match filterOf (← bench.names current) j with
  | .error reason => pure (.error (.failed reason))
  | .ok filter =>
    pure ((← bench.claim ((j.given? "as").map fun _ => j.textAt "as") filter).mapError .store)

/-- Take steps in order up to the first that fails. -/
def runUntilFailure (current : CommandId) : List Json →
    CommandStore.InUnit (σ × Bench) υ (Except HandlerError Unit)
  | [] => pure (.ok ())
  | step :: rest => do
    match ← bench.runStep bench.store (some current) step with
    | .error e => pure (.error e)
    | .ok _ => runUntilFailure current rest

/-- Run steps in a unit of their own and commit it at once. -/
def runOther (current : CommandId) (steps : List Json) :
    Service (σ × Bench) (Except HandlerError Unit) := do
  match ← bench.store.begin with
  | .error e => pure (.error (.store e))
  | .ok unit =>
    match ← (bench.runUntilFailure current steps).run unit with
    | (.error e, _) => pure (.error e)
    | (.ok (), unit) => pure ((← bench.store.commit unit).mapError .store)

/-- A step of a script. -/
def scriptStep (store : CommandStore (σ × Bench) υ) (current : CommandId) (step : Json) :
    CommandStore.InUnit (σ × Bench) υ (Except HandlerError StepAnswer) :=
  match step.textAt "do" with
  | "other" => StateT.lift do
    pure ((← bench.runOther current (step.itemsAt "steps")).map fun _ => .done)
  | "steal" => StateT.lift do
    pure ((← bench.claimStep (some current) step).map .claimed)
  | _ => bench.runStep store (some current) step

/-- The failure that a script ends with, if it is a failure of the named sort. -/
def failureOf (sort name detail : String) : HandlerError :=
  let named : Option HandlerError := match sort with
    | "Repository" => (RepositoryError.ofName? name detail).map .repository
    | "Store" => (StoreError.ofName? name detail).map .store
    | "Domain" => (DomainError.ofName? name detail).map .domain
    | _ => none
  named.getD (.failed detail)

/-- How a script ends: rejected with codes, failed, or else completed. -/
def outcomeOf (outcome : Json) : Except HandlerError CommandOutcome :=
  match outcome.member? "rejected", outcome.member "fail" with
  | some codes, _ =>
    match Json.readList Json.readString codes with
    | .ok codes => .ok (.rejected codes)
    | .error _ => .ok .completed
  | none, .null => .ok .completed
  | none, failure =>
    .error (failureOf (failure.textAt "type") (failure.textAt "kind") (failure.textAt "message"))

/-- Take the steps of a script. A failing step ends it, unless the step says that failures are to be
ignored. -/
def runScript (store : CommandStore (σ × Bench) υ) (current : CommandId) (outcome : Json) :
    List Json → CommandStore.InUnit (σ × Bench) υ (Except HandlerError CommandOutcome)
  | [] => pure (outcomeOf outcome)
  | step :: rest => do
    let result ← bench.scriptStep store current step
    StateT.lift (Service.changeSecond (Bench.note (.stepped result)))
    match result with
    | .ok _ => runScript store current outcome rest
    | .error e =>
      if step.member "ignore" = .bool true then runScript store current outcome rest
      else pure (.error e)

/-- The route of scripted commands, whose steps run in units of the given store. -/
def scriptRoute (store : CommandStore (σ × Bench) υ) :
    Route (CommandStore.InUnit (σ × Bench) υ) :=
  .ofHandler Script.kind Script.ofJson fun context script => do
    StateT.lift (Service.changeSecond (Bench.note (.started script.label context.commandId)))
    bench.runScript store context.commandId script.outcome script.steps

end Workbench

end SupplierSwitch
