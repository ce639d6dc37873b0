import SupplierSwitch.Market.Handlers
import SupplierSwitch.Outbox.Drain
import SupplierSwitch.Postgres.Store

namespace SupplierSwitch

/-!
# Start-up

Putting a processor together from a store, the handlers of the market and the settings.
Main definitions:

* `Processor.forMarket`: a processor of any store.
* `Startup.reach`: reach a database at an address.
* `Startup.connect`: reach it and create its tables.
* `Startup.processor`: a processor of a database, from the settings of the service.
-/

/-- A processor of a store with all handlers of the market. The journal is told that it is ready. -/
def Processor.forMarket {σ υ : Type} (store : CommandStore σ υ) (config : ProcessorConfig)
    (market : MarketConfig) : Service σ (Processor σ υ) := do
  let router := (Market.ofConfig market).router
  Service.report (.processorReady config.name router.kinds market.administratorGln)
  pure ⟨store, router.interpret store.runIn, config⟩

/-- Why the service does not start. -/
inductive StartupError where
  | databaseSettings (e : SettingError)
  | processorSettings (e : SettingError)
  | marketSettings (e : SettingError)
  | unreachable (e : StoreError)
  /-- The tables cannot be created. -/
  | schema (e : StoreError)
  deriving DecidableEq

/-- The wording of a start-up error: what was tried, then why it failed. -/
def StartupError.message : StartupError → String
  | .databaseSettings e => "invalid database configuration: " ++ e.message
  | .processorSettings e => "invalid processor configuration: " ++ e.message
  | .marketSettings e => "invalid market configuration: " ++ e.message
  | .unreachable e => "failed to connect to Postgres: " ++ e.message
  | .schema e => "failed to apply outbox schema: " ++ e.message

namespace Startup

variable {σ : Type} (c : Connection σ)

/-- The characters of an address that count: the space around it does not, nor do line breaks and
tabs within it. -/
def addressChars (address : String) : List Char :=
  let isAround (c : Char) : Bool := c ≤ ' '
  let front := address.toList.dropWhile isAround
  (front.reverse.dropWhile isAround).reverse.filter fun c => c ≠ '\t' ∧ c ≠ '\n' ∧ c ≠ '\r'

/-- A character that may stand in a scheme. -/
def isSchemeChar (c : Char) : Bool :=
  c.isAlphanum || c = '+' || c = '-' || c = '.'

/-- An address says of what kind it is: it begins with a scheme and a colon. -/
def hasScheme (address : String) : Bool :=
  match addressChars address with
  | [] => false
  | c :: rest => c.isAlpha && (rest.dropWhile isSchemeChar).head? = some ':'

/-- Reach a database. An address without a scheme leads nowhere. -/
def reach (address : String) : Service σ (Except StoreError Unit) := do
  let reached ←
    if hasScheme address then c.connect
    else pure (.error (.misconfigured "relative URL without a base"))
  pure (reached.mapError (·.toStoreError "connect"))

/-- Reach a database and create its tables. -/
def connect (address : String) : ExceptT StartupError (Service σ) Unit :=
  ExceptT.mk do
    match ← reach c address with
    | .error e => pure (.error (.unreachable e))
    | .ok () => pure ((← (Postgres.ensureSchema c).run).mapError .schema)

/-- The settings of a service with a database. They are read in this order. -/
def settings (lookup : Lookup) :
    Except StartupError (DatabaseConfig × ProcessorConfig × MarketConfig) := do
  let database ← (DatabaseConfig.ofLookup lookup).mapError .databaseSettings
  let processor ← (ProcessorConfig.ofLookup lookup).mapError .processorSettings
  let market ← (MarketConfig.ofLookup lookup).mapError .marketSettings
  pure (database, processor, market)

/-- A processor of a database, from the settings of the service. -/
def processor (runtime : Runtime) (lookup : Lookup) :
    ExceptT StartupError (Service σ) (Processor σ ChangeSet) := do
  let (database, config, market) ← ExceptT.mk (pure (settings lookup))
  connect c database.url
  ExceptT.lift (Processor.forMarket (Postgres.store c runtime) config market)

end Startup

end SupplierSwitch
