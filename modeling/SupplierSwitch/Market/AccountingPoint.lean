import SupplierSwitch.Market.Identifier
import SupplierSwitch.Market.Version

namespace SupplierSwitch

/-!
# Accounting points

An accounting point has at most one energy supplier and a list of business processes in order of
registration. A process is registered as pending and effectuated at most once; effectuating it makes
its supplier the supplier of the point.
-/

/-- The two processes that bring a new energy supplier to an accounting point. -/
inductive ProcessKind where
  /-- A customer moves in with a supplier of choice. -/
  | moveIn
  /-- Another supplier takes over. -/
  | changeOfSupplier
  deriving DecidableEq, Repr

namespace ProcessKind

/-- The name of a kind in running text. -/
def render : ProcessKind → String
  | moveIn => "move-in"
  | changeOfSupplier => "change of supplier"

instance : ToString ProcessKind := ⟨render⟩

/-- The stored name of a kind. -/
def name : ProcessKind → String
  | moveIn => "move_in"
  | changeOfSupplier => "change_of_supplier"

/-- Read the stored name of a kind. -/
def ofJson : Reader ProcessKind :=
  Json.readVariant ([moveIn, changeOfSupplier].map fun kind => (kind.name, kind))

/-- The stored name of a kind. -/
def toJson (kind : ProcessKind) : Json :=
  .string kind.name

end ProcessKind

/-- How far a process has come. -/
inductive ProcessStatus where
  | pending
  | effectuated
  deriving DecidableEq, Repr

namespace ProcessStatus

/-- The stored name of a status. -/
def name : ProcessStatus → String
  | pending => "pending"
  | effectuated => "effectuated"

/-- Read the stored name of a status. -/
def ofJson : Reader ProcessStatus :=
  Json.readVariant ([pending, effectuated].map fun status => (status.name, status))

/-- The stored name of a status. -/
def toJson (status : ProcessStatus) : Json :=
  .string status.name

end ProcessStatus

/-- A process that brings a supplier to an accounting point on a date. -/
structure BusinessProcess where
  processId : ProcessId
  kind : ProcessKind
  energySupplier : GlnNumber
  effectiveDate : Date
  status : ProcessStatus
  deriving DecidableEq

namespace BusinessProcess

/-- Read the stored form of a process. -/
def ofJson : Reader BusinessProcess :=
  Json.readRecord "BusinessProcess" <| BusinessProcess.mk
    <$> .required "process_id" ProcessId.ofJson
    <*> .required "kind" ProcessKind.ofJson
    <*> .required "energy_supplier" GlnNumber.ofJson
    <*> .required "effective_date" Date.ofJson
    <*> .required "status" ProcessStatus.ofJson

/-- The stored form of a process. -/
def toJson (p : BusinessProcess) : Json :=
  .object [("effective_date", p.effectiveDate.toJson), ("energy_supplier", p.energySupplier.toJson),
    ("kind", p.kind.toJson), ("process_id", p.processId.toJson), ("status", p.status.toJson)]

end BusinessProcess

/-- An accounting point. -/
structure AccountingPoint where
  gsrn : Gsrn
  energySupplier : Option GlnNumber
  processes : List BusinessProcess
  version : Nat
  deriving DecidableEq

namespace AccountingPoint

/-- A point without supplier and processes, not stored yet. -/
def fresh (gsrn : Gsrn) : AccountingPoint :=
  ⟨gsrn, none, [], 0⟩

/-- The first process of a name. -/
def process? (p : AccountingPoint) (id : ProcessId) : Option BusinessProcess :=
  p.processes.find? (·.processId = id)

/-- Some process of the kind takes effect on the date, effectuated or not. -/
def hasProcessOn (p : AccountingPoint) (kind : ProcessKind) (date : Date) : Bool :=
  p.processes.any fun process => process.kind = kind && process.effectiveDate = date

/-- Register a pending process. Its name must be new to the point, and no process of its kind may
take effect on the same date. -/
def registerProcess (p : AccountingPoint) (id : ProcessId) (kind : ProcessKind)
    (supplier : GlnNumber) (date : Date) : Except DomainError AccountingPoint :=
  if (p.process? id).isSome then
    .error (.conflict ("process " ++ id.text ++ " already registered on " ++ p.gsrn.text))
  else if p.hasProcessOn kind date then
    .error (.invariantViolation ("a " ++ kind.render ++ " is already registered on " ++
      p.gsrn.text ++ " for " ++ date.render))
  else
    .ok { p with processes := p.processes ++ [⟨id, kind, supplier, date, .pending⟩] }

/-- Mark the first process of a name as effectuated. -/
def markEffectuated (id : ProcessId) : List BusinessProcess → List BusinessProcess
  | [] => []
  | process :: rest =>
    if process.processId = id then { process with status := .effectuated } :: rest
    else process :: markEffectuated id rest

/-- Effectuate a pending process: its supplier becomes the supplier of the point. -/
def effectuate (p : AccountingPoint) (id : ProcessId) : Except DomainError AccountingPoint :=
  match p.process? id with
  | none => .error (.notFound ("process " ++ id.text))
  | some process =>
    if process.status = .pending then
      .ok { p with
        processes := markEffectuated id p.processes
        energySupplier := some process.energySupplier }
    else .error (.invariantViolation ("process " ++ id.text ++ " is not pending"))

/-- Read the stored form of an accounting point. -/
def ofJson : Reader AccountingPoint :=
  Json.readRecord "AccountingPoint" <| AccountingPoint.mk
    <$> .required "gsrn" Gsrn.ofJson
    <*> .optional "energy_supplier" GlnNumber.ofJson
    <*> .required "processes" (Json.readList BusinessProcess.ofJson)
    <*> .required "version" Json.readNat64

/-- The stored form of an accounting point. -/
def toJson (p : AccountingPoint) : Json :=
  .object [("energy_supplier", .ofOption Gs1Number.toJson p.energySupplier),
    ("gsrn", p.gsrn.toJson), ("processes", .ofList BusinessProcess.toJson p.processes),
    ("version", .nat p.version)]

end AccountingPoint

end SupplierSwitch
