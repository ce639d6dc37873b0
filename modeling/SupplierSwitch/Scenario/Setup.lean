import SupplierSwitch.Scenario.Script
import SupplierSwitch.Startup

namespace SupplierSwitch

/-!
# Setting up scenarios

Routers, processors and retry policies as scenarios write them.
Main definitions:

* `RetryPolicy.ofRecipe`: a policy by the way it is made.
* `Workbench.router` and `Workbench.processor`: what a drain is run with.
* `Workbench.drain`: a drain with planned failures, and the notes of its scripts.
-/

/-- Why a scenario cannot be set up. -/
inductive SetupError where
  | domain (e : DomainError)
  | registry (e : RegistryError)
  | router (e : RouterError)
  | drainPolicy (reason : String)
  | unreadable (e : ReadError)
  /-- A name that stands for nothing. -/
  | unknown (name : String)

namespace SetupError

/-- The name of a cause. -/
def name : SetupError → String
  | domain e => e.name
  | registry e => e.name
  | router e => e.name
  | drainPolicy _ => "Invalid"
  | unreadable _ => "Deserialize"
  | unknown _ => "BadInput"

/-- The wording of a setup error. -/
def message : SetupError → String
  | domain e => e.message
  | registry e => e.message
  | router e => e.message
  | drainPolicy reason => reason
  | unreadable e => e.message
  | unknown name => name

/-- Take what a name stands for. -/
def known (name : String) : Option α → Except SetupError α
  | some a => .ok a
  | none => .error (.unknown name)

/-- Read the member of a key. -/
def read (reader : Reader α) (j : Json) (key : String) : Except SetupError α :=
  (reader (j.member key)).mapError .unreadable

end SetupError

/-! ### Retry policies -/

/-- A policy by the way it is made, or in its stored form. -/
def RetryPolicy.ofRecipe (j : Json) : Except SetupError RetryPolicy := do
  let attempts := SetupError.read Json.readUInt32 j "max_attempts"
  let duration := SetupError.read Duration.ofJson j
  match j.given? "make" with
  | none => (RetryPolicy.ofJson j).mapError .unreadable
  | some (.string "default") => pure .standard
  | some (.string "no_retry") => pure .noRetry
  | some (.string "fixed") => return .fixed (← attempts) (← duration "delay")
  | some (.string "exponential") =>
    return .exponential (← attempts) (← duration "base_delay") (← duration "max_delay")
  | some _ => return ⟨← attempts, ← duration "base_delay", ← duration "max_delay", .linear⟩

/-! ### Markets -/

/-- A violation told in its own words. -/
def MarketViolation.plainReason (v : MarketViolation) : Reason :=
  ⟨v.code, v.message⟩

/-- The kind of violations of a name. -/
def ViolationKind.named (name : String) : Except SetupError ViolationKind :=
  SetupError.known name (ViolationKind.all.find? (·.name = name))

/-- A registry that tells violations of the named kinds in their own words. -/
def ConverterRegistry.plain (names : List String) : Except SetupError ConverterRegistry := do
  let kinds ← names.mapM ViolationKind.named
  (empty.registerAll (kinds.map (·, MarketViolation.plainReason))).mapError .registry

/-- The texts of a list. -/
def Json.textsAt (key : String) (j : Json) : List String :=
  (j.itemsAt key).map fun
    | .string s => s
    | _ => ""

namespace Setup

/-- The market side, under a given administrator or the standard one. -/
def marketConfig (j : Json) : Except SetupError MarketConfig :=
  match j.member "administrator" with
  | .string gln => ((GlnNumber.parse gln).mapError .domain).map MarketConfig.mk
  | _ => pure .standard

/-- The market, with converters for given kinds of violations only or for all. -/
def market (j : Json) : Except SetupError Market := do
  let market := Market.ofConfig (← marketConfig j)
  match j.given? "converters" with
  | none => pure market
  | some _ => return { market with converters := ← ConverterRegistry.plain (j.textsAt "converters") }

/-- The settings of a processor: the standard ones but for those that are given. -/
def config (name : String) (j : Json) : Except SetupError ProcessorConfig := do
  let given {α : Type} (key : String) (a : α) (make : Except SetupError α) : Except SetupError α :=
    if j.member key = .null then pure a else make
  let standard := ProcessorConfig.standard
  let policy ← given "policy" standard.drainPolicy <|
    (DrainPolicy.parse (j.textAt "policy")).mapError .drainPolicy
  let retry ← given "retry" standard.retryPolicy (RetryPolicy.ofRecipe (j.member "retry"))
  let lease ← given "lease_secs" standard.claimLease <|
    Duration.ofSeconds <$> SetupError.read Json.readNat64 j "lease_secs"
  let limit ← given "max" standard.maxCommandsPerDrain (SetupError.read Json.readSize j "max")
  pure ⟨name, policy, retry, lease, limit⟩

/-- A planned failure. -/
def fault (j : Json) : Except SetupError PlannedFault := do
  let call ← SetupError.known "call" (StoreCall.ofName? (j.textAt "call"))
  let error ← SetupError.known "kind" (StoreError.ofName? (j.textAt "kind") (j.textAt "message"))
  pure ⟨call, ← SetupError.read Json.readSize j "at", error⟩

end Setup

/-! ### Drains -/

namespace Workbench

variable {σ υ : Type} (bench : Workbench σ υ)

/-- A router by the names of its routes, in order of registration. All market routes together take
the place of what was registered before them. -/
def router (store : CommandStore (σ × Bench) υ) (j : Json) :
    Except SetupError (Router (CommandStore.InUnit (σ × Bench) υ)) := do
  let market ← Setup.market j
  (j.textsAt "router").foldlM (fun r name => do
    if name = "market" then pure (market.router.interpret store.runIn)
    else
      let route ← if name = Script.kind then pure (bench.scriptRoute store)
        else (·.interpret store.runIn) <$> SetupError.known name (market.route? name)
      (r.register route).mapError .router) .empty

/-- A processor whose store fails as planned. -/
def processor (name : String) (j : Json) :
    Service (σ × Bench) (Except SetupError (Processor (σ × Bench) υ)) := do
  let store := bench.store.withFaults
  if j.member "router" = .string "build" then
    match Setup.marketConfig j, Setup.config name j with
    | .ok market, .ok config => return .ok (← Processor.forMarket store config market)
    | .error e, _ | _, .error e => pure (.error e)
  else pure do
    let router ← bench.router store j
    return ⟨store, router, ← Setup.config name j⟩

/-- A drain with planned failures: its outcome, and what its scripts noted. -/
def drain (p : Processor (σ × Bench) υ) (faults : List PlannedFault) :
    Service (σ × Bench) (Except StoreError DrainReport × List ScriptNote) := do
  Service.changeSecond (Bench.plan faults)
  let report ← p.drain
  let notes := (← Service.readSecond).notes.reverse
  Service.changeSecond (Bench.plan [])
  pure (report, notes)

end Workbench

end SupplierSwitch
