import SupplierSwitch.Answer.Reason
import SupplierSwitch.Market.Violation

namespace SupplierSwitch

/-!
# Converters from violations to reasons

A registry holds at most one converter per kind of violation. A violation whose kind has none cannot
be told to the participant; that is an error and gets a notice.
-/

/-- What may go wrong with a registry. -/
inductive RegistryError where
  | duplicateConverter (kind : String)
  | unregisteredKind (kind : String)
  | missingConverters (kinds : List String)
  deriving DecidableEq, Repr

/-- The wording of a registry error. -/
def RegistryError.message : RegistryError → String
  | .duplicateConverter kind =>
    "a converter is already registered for violation kind " ++ kind
  | .unregisteredKind kind => "no converter registered for violation kind " ++ kind
  | .missingConverters kinds =>
    "violation kinds without a converter: " ++ ", ".intercalate kinds

/-- The name of a cause. -/
def RegistryError.name : RegistryError → String
  | .duplicateConverter _ => "DuplicateConverter"
  | .unregisteredKind _ => "UnregisteredKind"
  | .missingConverters _ => "MissingConverters"

/-- The error of a named cause that concerns one kind. -/
def RegistryError.ofName? (name kind : String) : Option RegistryError :=
  [.duplicateConverter kind, .unregisteredKind kind, .missingConverters [kind]].find?
    (·.name = name)

/-- A converter of violations. -/
abbrev Converter := MarketViolation → Reason

/-- Converters by kind of violation, in order of registration. -/
structure ConverterRegistry where
  entries : List (ViolationKind × Converter)

namespace ConverterRegistry

/-- No converters. -/
def empty : ConverterRegistry := ⟨[]⟩

instance : Inhabited ConverterRegistry := ⟨empty⟩

/-- The number of converters. -/
def size (r : ConverterRegistry) : Nat := r.entries.length

/-- The converter of a kind. -/
def find? (r : ConverterRegistry) (kind : ViolationKind) : Option Converter :=
  (r.entries.find? (·.1 = kind)).map Prod.snd

/-- Add the converter of a kind that has none yet. -/
def register (r : ConverterRegistry) (kind : ViolationKind) (converter : Converter) :
    Except RegistryError ConverterRegistry :=
  if (r.find? kind).isSome then .error (.duplicateConverter kind.name)
  else .ok ⟨r.entries ++ [(kind, converter)]⟩

/-- Add several converters, up to the first kind that has one already. -/
def registerAll (r : ConverterRegistry) (entries : List (ViolationKind × Converter)) :
    Except RegistryError ConverterRegistry :=
  entries.foldlM (fun r (kind, converter) => r.register kind converter) r

/-- Complain about the kinds that have no converter. -/
def ensureComplete (r : ConverterRegistry) : Except RegistryError Unit :=
  match ViolationKind.all.filter fun kind => (r.find? kind).isNone with
  | [] => .ok ()
  | missing => .error (.missingConverters (missing.map ViolationKind.name))

/-- Convert a violation. -/
def convert (r : ConverterRegistry) (v : MarketViolation) : Noted (Except RegistryError Reason) :=
  match r.find? v.kind with
  | some converter => pure (.ok (converter v))
  | none => ⟨.error (.unregisteredKind v.kind.name),
      [.converterMissing v.kind.name v.code v.message]⟩

/-- Convert violations in order, up to the first one that cannot be converted. -/
def convertAll (r : ConverterRegistry) :
    List MarketViolation → Noted (Except RegistryError (List Reason))
  | [] => pure (.ok [])
  | v :: rest => do
    match ← r.convert v with
    | .error e => pure (.error e)
    | .ok reason => pure ((← r.convertAll rest).map (reason :: ·))

/-- The sorted names of the kinds that have a converter. -/
def kindNames (r : ConverterRegistry) : List String :=
  (r.entries.map fun entry => entry.1.name).mergeSort

/-- A registry in diagnostics. -/
def describe (r : ConverterRegistry) : String :=
  "ErrorConverterRegistry \x7b kinds: " ++ Text.quotedList r.kindNames ++ " \x7d"

end ConverterRegistry

/-! ### The market's own converters -/

/-- What a participant is told about a violation. -/
def MarketViolation.answerText : MarketViolation → String
  | invalidAccountingPointId point =>
    "Accounting point id " ++ point ++ " is not a valid GSRN number"
  | unknownAccountingPoint point => "Accounting point " ++ point ++ " is not known"
  | invalidGlnNumber gln =>
    "Market participant id " ++ gln ++ " is not a valid GLN number"
  | senderMismatch sender supplier =>
    "Sender " ++ sender ++ " is not authorized to act on behalf of energy supplier " ++ supplier
  | businessProcessRegisteredOnSameDate process point date =>
    "A " ++ process.render ++ " is already registered on accounting point " ++ point ++
      " effective " ++ date.render
  | missingEnergySupplier point =>
    "No energy supplier is associated with accounting point " ++ point
  | businessProcessNotPending process point =>
    "Business process " ++ process.text ++ " on accounting point " ++ point ++ " is not pending"
  | businessProcessIdAlreadyRegistered process point =>
    "Business process id " ++ process.text ++ " is already in use on accounting point " ++ point
  | businessProcessKindMismatch process point expected registered =>
    "Business process " ++ process.text ++ " on accounting point " ++ point ++ " is a " ++
      registered.render ++ ", not a " ++ expected.render

/-- The market's answer to a violation: its code and its text. -/
def MarketViolation.reason (v : MarketViolation) : Reason :=
  ⟨v.code, v.answerText⟩

/-- The market's registry: the market's answer for every kind. -/
def ConverterRegistry.market : ConverterRegistry :=
  ⟨ViolationKind.all.map fun kind => (kind, MarketViolation.reason)⟩

theorem ConverterRegistry.find?_market (kind : ViolationKind) :
    ConverterRegistry.market.find? kind = some MarketViolation.reason := by
  cases kind <;> rfl

end SupplierSwitch
