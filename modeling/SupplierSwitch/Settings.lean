import SupplierSwitch.Market.Gs1
import SupplierSwitch.Outbox.Policy

namespace SupplierSwitch

/-!
# Settings

How the service is set up from named texts. Every setting but the address of the database has a
default. Settings are read in a fixed order, and the first malformed one is reported.
-/

/-- Why the settings are not usable. -/
inductive SettingError where
  | missing (key : String)
  | invalid (key reason : String)
  deriving DecidableEq, Repr

/-- The wording of a setting error. -/
def SettingError.message : SettingError → String
  | .missing key => key ++ " is not set"
  | .invalid key reason => "invalid value for " ++ key ++ ": " ++ reason

/-- The name of a cause. -/
def SettingError.name : SettingError → String
  | .missing _ => "Missing"
  | .invalid _ _ => "Invalid"

/-- The setting that is to blame. -/
def SettingError.key : SettingError → String
  | .missing key => key
  | .invalid key _ => key

/-- Where the texts of settings come from. -/
abbrev Lookup := String → Option String

namespace Setting

/-! ### Names -/

/-- The name of the processor. -/
def processorName : String := "MARKETROLES_PROCESSOR_NAME"

/-- The drain policy. -/
def drainPolicy : String := "MARKETROLES_DRAIN_POLICY"

/-- The number of attempts. -/
def maxAttempts : String := "MARKETROLES_MAX_ATTEMPTS"

/-- The first delay, in milliseconds. -/
def retryBaseDelay : String := "MARKETROLES_RETRY_BASE_DELAY_MS"

/-- The longest delay, in milliseconds. -/
def retryMaxDelay : String := "MARKETROLES_RETRY_MAX_DELAY_MS"

/-- The length of a claim, in seconds. -/
def claimLease : String := "MARKETROLES_CLAIM_LEASE_SECS"

/-- The greatest number of commands in one drain. -/
def maxCommandsPerDrain : String := "MARKETROLES_MAX_COMMANDS_PER_DRAIN"

/-- The participant that answers requests. -/
def administratorGln : String := "MARKETROLES_ADMINISTRATOR_GLN"

/-- The address of the database. -/
def databaseUrl : String := "DATABASE_URL"

/-- The greatest number of connections to the database. -/
def maxConnections : String := "MARKETROLES_DB_MAX_CONNECTIONS"

/-! ### Reading -/

/-- Read a setting that may be unset. -/
def read (lookup : Lookup) (key : String) (parse : String → Except String α) :
    Except SettingError (Option α) :=
  match lookup key with
  | none => .ok none
  | some raw => match parse raw with
    | .ok a => .ok (some a)
    | .error reason => .error (.invalid key reason)

/-- Read a number of at most `greatest` with blanks around it. -/
def parseNumber (greatest : Nat) (raw : String) : Except String Nat :=
  (Text.readUnsigned greatest (Text.trim raw)).mapError fun e =>
    "'" ++ raw ++ "': " ++ e.message

/-- Read a number of 32 bits. -/
def read32 (lookup : Lookup) (key : String) : Except SettingError (Option Nat) :=
  read lookup key (parseNumber Text.greatest32)

/-- Read a number of 64 bits. -/
def read64 (lookup : Lookup) (key : String) : Except SettingError (Option Nat) :=
  read lookup key (parseNumber Text.greatest64)

end Setting

/-- How drains run. -/
structure ProcessorConfig where
  name : String
  drainPolicy : DrainPolicy
  retryPolicy : RetryPolicy
  /-- How long a claimed command is hidden from other processors. -/
  claimLease : Duration
  /-- The greatest number of commands in one drain. -/
  maxCommandsPerDrain : Nat
  deriving DecidableEq

namespace ProcessorConfig

/-- The settings of a processor that nothing is said about. -/
def standard : ProcessorConfig :=
  ⟨"command-processor", .includeNewlyEnqueued, .standard, .ofSeconds 30, 10000⟩

instance : Inhabited ProcessorConfig := ⟨standard⟩

/-- Set up a processor. -/
def ofLookup (lookup : Lookup) : Except SettingError ProcessorConfig := do
  let policy ← Setting.read lookup Setting.drainPolicy DrainPolicy.parse
  let attempts ← Setting.read32 lookup Setting.maxAttempts
  let baseDelay ← Setting.read64 lookup Setting.retryBaseDelay
  let maxDelay ← Setting.read64 lookup Setting.retryMaxDelay
  let lease ← Setting.read64 lookup Setting.claimLease
  let limit ← Setting.read64 lookup Setting.maxCommandsPerDrain
  let retry := RetryPolicy.standard
  let config : ProcessorConfig :=
    { name := (lookup Setting.processorName).getD standard.name
      drainPolicy := policy.getD standard.drainPolicy
      retryPolicy :=
        { retry with
          maxAttempts := (attempts.map UInt32.ofNat).getD retry.maxAttempts
          baseDelay := (baseDelay.map Duration.ofMillis).getD retry.baseDelay
          maxDelay := (maxDelay.map Duration.ofMillis).getD retry.maxDelay }
      claimLease := (lease.map Duration.ofSeconds).getD standard.claimLease
      maxCommandsPerDrain := limit.getD standard.maxCommandsPerDrain }
  if config.maxCommandsPerDrain = 0 then
    throw (.invalid Setting.maxCommandsPerDrain "must be at least 1")
  pure config

/-- A configuration by the names of its parts. -/
def toJson (c : ProcessorConfig) : Json :=
  .object [("claim_lease", c.claimLease.toJson), ("drain_policy", .string c.drainPolicy.name),
    ("max_commands_per_drain", .nat c.maxCommandsPerDrain), ("name", .string c.name),
    ("retry_policy", c.retryPolicy.toJson)]

/-- A configuration in diagnostics. -/
def describe (c : ProcessorConfig) : String :=
  "ProcessorConfig \x7b name: " ++ Text.quoted c.name ++ ", drain_policy: " ++
    c.drainPolicy.describe ++ ", retry_policy: " ++ c.retryPolicy.describe ++
    ", claim_lease: " ++ c.claimLease.render ++ ", max_commands_per_drain: " ++
    toString c.maxCommandsPerDrain ++ " \x7d"

end ProcessorConfig

/-- Who this installation is in the market. -/
structure MarketConfig where
  administratorGln : GlnNumber
  deriving DecidableEq

namespace MarketConfig

/-- The administrator if none is set. -/
def standardAdministrator : String := "5790001330583"

/-- Set up the market side. -/
def ofLookup (lookup : Lookup) : Except SettingError MarketConfig :=
  match GlnNumber.parse ((lookup Setting.administratorGln).getD standardAdministrator) with
  | .ok gln => .ok ⟨gln⟩
  | .error e => .error (.invalid Setting.administratorGln e.message)

/-- The market side that nothing is said about. -/
def standard : MarketConfig :=
  ⟨standardAdministrator, by decide⟩

end MarketConfig

/-- Where the database is, and how many connections to it there may be. -/
structure DatabaseConfig where
  url : String
  maxConnections : Nat
  deriving DecidableEq, Repr

namespace DatabaseConfig

/-- The settings of a database at an address. -/
def ofUrl (url : String) : DatabaseConfig :=
  ⟨url, 10⟩

/-- Set up the database. -/
def ofLookup (lookup : Lookup) : Except SettingError DatabaseConfig := do
  let some url := lookup Setting.databaseUrl | throw (.missing Setting.databaseUrl)
  let limit ← Setting.read32 lookup Setting.maxConnections
  pure { ofUrl url with maxConnections := limit.getD 10 }

end DatabaseConfig

/-- How the journal is written. -/
inductive LogFormat where
  | json
  | pretty
  deriving DecidableEq, Repr

namespace LogFormat

/-- The format that a setting selects: the pretty one if it says so, in any case. -/
def parse (setting : Option String) : LogFormat :=
  match setting with
  | some s => if Text.asciiLowercase (Text.trim s) = "pretty" then pretty else json
  | none => json

end LogFormat

end SupplierSwitch
