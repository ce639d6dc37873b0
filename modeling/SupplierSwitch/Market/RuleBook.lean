import SupplierSwitch.Market.Command
import SupplierSwitch.Market.Violation

namespace SupplierSwitch

/-!
# The rule book

The nine rules of the market processes, and which of them a request or an effectuation is checked
against, in which order. A rule judges the identifiers as they were sent and the accounting point as
it was found, if it was.
-/

namespace RuleBook

/-! ### Rules -/

/-- The accounting point has to be named by a valid number. -/
def accountingPointIdMustBeValid (id : String) : Rule MarketViolation where
  isBroken := !Gs1.isValid 18 id
  violation := .invalidAccountingPointId id

/-- The accounting point has to be known. -/
def accountingPointMustExist (id : String) (point : Option AccountingPoint) :
    Rule MarketViolation where
  isBroken := point.isNone
  violation := .unknownAccountingPoint id

/-- A participant has to be named by a valid number. -/
def glnNumberMustBeValid (gln : String) : Rule MarketViolation where
  isBroken := !Gs1.isValid 13 gln
  violation := .invalidGlnNumber gln

/-- The sender has to be the supplier it acts for, blanks around their names aside. -/
def senderMustBeEnergySupplier (sender supplier : String) : Rule MarketViolation where
  isBroken := Text.trim sender ≠ Text.trim supplier
  violation := .senderMismatch sender supplier

/-- No two processes of one kind take effect on the same date. -/
def noProcessOnSameDate (id : String) (point : Option AccountingPoint) (process : ProcessKind)
    (date : Date) : Rule MarketViolation where
  isBroken := point.any (·.hasProcessOn process date)
  violation := .businessProcessRegisteredOnSameDate process id date

/-- The point has to have a supplier. -/
def mustHaveEnergySupplier (id : String) (supplier : Option GlnNumber) : Rule MarketViolation where
  isBroken := supplier.isNone
  violation := .missingEnergySupplier id

/-- The process has to be registered and pending. -/
def processMustBePending (id : String) (point : Option AccountingPoint) (process : ProcessId) :
    Rule MarketViolation where
  isBroken := (point.bind (·.process? process)).map (·.status) ≠ some .pending
  violation := .businessProcessNotPending process id

/-- The name of the process has to be new to the point. -/
def processIdMustBeUnique (id : String) (point : Option AccountingPoint) (process : ProcessId) :
    Rule MarketViolation where
  isBroken := (point.bind (·.process? process)).isSome
  violation := .businessProcessIdAlreadyRegistered process id

/-- The process has to be of the expected kind, if it is registered at all. -/
def processMustBeOfKind (id : String) (point : Option AccountingPoint) (process : ProcessId)
    (expected : ProcessKind) : Rule MarketViolation :=
  let registered := (point.bind (·.process? process)).map (·.kind)
  { isBroken := registered.any (· ≠ expected)
    violation := .businessProcessKindMismatch process id expected (registered.getD expected) }

/-! ### What is checked -/

/-- The rules of a request: the same for both processes, except that only a change of supplier needs
a supplier to change from. -/
def ofRequest (process : ProcessKind) (r : SupplyRequest) (point : Option AccountingPoint) :
    List (Rule MarketViolation) :=
  [accountingPointIdMustBeValid r.accountingPointId,
    accountingPointMustExist r.accountingPointId point,
    glnNumberMustBeValid r.energySupplierGln,
    senderMustBeEnergySupplier r.senderGln r.energySupplierGln] ++
  (match process with
    | .moveIn => []
    | .changeOfSupplier =>
      [mustHaveEnergySupplier r.accountingPointId (point.bind (·.energySupplier))]) ++
  [processIdMustBeUnique r.accountingPointId point r.processId,
    noProcessOnSameDate r.accountingPointId point process r.effectiveDate]

/-- The rules of an effectuation. -/
def ofEffectuation (process : ProcessKind) (id : String) (point : Option AccountingPoint)
    (processId : ProcessId) : List (Rule MarketViolation) :=
  [accountingPointMustExist id point, processMustBePending id point processId,
    processMustBeOfKind id point processId process]

end RuleBook

end SupplierSwitch
