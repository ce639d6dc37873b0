import SupplierSwitch.Market.AccountingPoint
import SupplierSwitch.Market.Rule

namespace SupplierSwitch

/-!
# Violations of market rules

A violation carries the values that broke a rule. Every kind of violation has a fixed code, which
participants act upon.
-/

/-- The kinds of violation. -/
inductive ViolationKind where
  | invalidAccountingPointId
  | unknownAccountingPoint
  | invalidGlnNumber
  | senderMismatch
  | businessProcessRegisteredOnSameDate
  | missingEnergySupplier
  | businessProcessNotPending
  | businessProcessIdAlreadyRegistered
  | businessProcessKindMismatch
  deriving DecidableEq, Repr

namespace ViolationKind

/-- All kinds of violation. -/
def all : List ViolationKind :=
  [invalidAccountingPointId, unknownAccountingPoint, invalidGlnNumber, senderMismatch,
    businessProcessRegisteredOnSameDate, missingEnergySupplier, businessProcessNotPending,
    businessProcessIdAlreadyRegistered, businessProcessKindMismatch]

theorem mem_all (kind : ViolationKind) : kind ∈ all := by
  cases kind <;> decide

/-- The name of a kind in diagnostics. -/
def name : ViolationKind → String
  | invalidAccountingPointId => "InvalidAccountingPointId"
  | unknownAccountingPoint => "UnknownAccountingPoint"
  | invalidGlnNumber => "InvalidGlnNumber"
  | senderMismatch => "SenderMismatch"
  | businessProcessRegisteredOnSameDate => "BusinessProcessRegisteredOnSameDate"
  | missingEnergySupplier => "MissingEnergySupplier"
  | businessProcessNotPending => "BusinessProcessNotPending"
  | businessProcessIdAlreadyRegistered => "BusinessProcessIdAlreadyRegistered"
  | businessProcessKindMismatch => "BusinessProcessKindMismatch"

/-- The code of a kind, as participants see it. -/
def code : ViolationKind → String
  | invalidAccountingPointId | unknownAccountingPoint | invalidGlnNumber => "E10"
  | senderMismatch => "E16"
  | businessProcessRegisteredOnSameDate => "D07"
  | missingEnergySupplier => "E0H"
  | businessProcessNotPending | businessProcessKindMismatch => "D14"
  | businessProcessIdAlreadyRegistered => "D13"

end ViolationKind

/-- A broken market rule with the values that broke it. -/
inductive MarketViolation where
  | invalidAccountingPointId (accountingPointId : String)
  | unknownAccountingPoint (accountingPointId : String)
  | invalidGlnNumber (gln : String)
  | senderMismatch (sender energySupplier : String)
  | businessProcessRegisteredOnSameDate (process : ProcessKind) (accountingPointId : String)
      (effectiveDate : Date)
  | missingEnergySupplier (accountingPointId : String)
  | businessProcessNotPending (processId : ProcessId) (accountingPointId : String)
  | businessProcessIdAlreadyRegistered (processId : ProcessId) (accountingPointId : String)
  | businessProcessKindMismatch (processId : ProcessId) (accountingPointId : String)
      (expected registered : ProcessKind)
  deriving DecidableEq

namespace MarketViolation

/-- The kind of a violation. -/
def kind : MarketViolation → ViolationKind
  | invalidAccountingPointId .. => .invalidAccountingPointId
  | unknownAccountingPoint .. => .unknownAccountingPoint
  | invalidGlnNumber .. => .invalidGlnNumber
  | senderMismatch .. => .senderMismatch
  | businessProcessRegisteredOnSameDate .. => .businessProcessRegisteredOnSameDate
  | missingEnergySupplier .. => .missingEnergySupplier
  | businessProcessNotPending .. => .businessProcessNotPending
  | businessProcessIdAlreadyRegistered .. => .businessProcessIdAlreadyRegistered
  | businessProcessKindMismatch .. => .businessProcessKindMismatch

/-- The code of a violation. -/
def code (v : MarketViolation) : String :=
  v.kind.code

/-- The wording of a violation in diagnostics. -/
def message : MarketViolation → String
  | invalidAccountingPointId point => "invalid accounting point id '" ++ point ++ "'"
  | unknownAccountingPoint point => "unknown accounting point '" ++ point ++ "'"
  | invalidGlnNumber gln => "invalid GLN number '" ++ gln ++ "'"
  | senderMismatch sender supplier =>
    "sender '" ++ sender ++ "' does not match energy supplier '" ++ supplier ++ "'"
  | businessProcessRegisteredOnSameDate process point date =>
    process.render ++ " already registered on '" ++ point ++ "' for " ++ date.render
  | missingEnergySupplier point => "no energy supplier on '" ++ point ++ "'"
  | businessProcessNotPending process point =>
    "process '" ++ process.text ++ "' on '" ++ point ++ "' is not pending"
  | businessProcessIdAlreadyRegistered process point =>
    "process id '" ++ process.text ++ "' is already used on '" ++ point ++ "'"
  | businessProcessKindMismatch process point expected registered =>
    "process '" ++ process.text ++ "' on '" ++ point ++ "' is a " ++ registered.render ++
      ", not a " ++ expected.render

end MarketViolation

/-- The codes of all reported violations, in order. -/
def Validation.codes (v : Validation MarketViolation) : List String :=
  v.errors.map (·.code)

end SupplierSwitch
