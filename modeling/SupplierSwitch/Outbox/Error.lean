import SupplierSwitch.Market.Identifier

namespace SupplierSwitch

/-!
# Storage errors

What may go wrong between the service and the place where it keeps its state: with the aggregates that
a unit of work reads and writes, and with the commands of the outbox.
-/

/-- Why an aggregate could not be read or written. -/
inductive RepositoryError where
  | alreadyExists (detail : String)
  | notFound (detail : String)
  /-- The version is not the expected one. -/
  | conflict (detail : String)
  | serialization (detail : String)
  | storage (detail : String)
  deriving DecidableEq, Repr

/-- The wording of a repository error. -/
def RepositoryError.message : RepositoryError → String
  | .alreadyExists detail => "already exists: " ++ detail
  | .notFound detail => "not found: " ++ detail
  | .conflict detail => "concurrency conflict: " ++ detail
  | .serialization detail => "serialization error: " ++ detail
  | .storage detail => "storage error: " ++ detail

/-- The name of a cause. -/
def RepositoryError.name : RepositoryError → String
  | .alreadyExists _ => "AlreadyExists"
  | .notFound _ => "NotFound"
  | .conflict _ => "Conflict"
  | .serialization _ => "Serialization"
  | .storage _ => "Storage"

/-- The error of a named cause. -/
def RepositoryError.ofName? (name detail : String) : Option RepositoryError :=
  [.alreadyExists detail, .notFound detail, .conflict detail, .serialization detail,
    .storage detail].find? (·.name = name)

/-- Why an operation of the command store failed. -/
inductive StoreError where
  | notFound (detail : String)
  | alreadyExists (detail : String)
  | conflict (detail : String)
  /-- Another processor has the command now. -/
  | claimLost (command : CommandId)
  | serialization (detail : String)
  | storage (detail : String)
  deriving DecidableEq

namespace StoreError

/-- The wording of a store error. -/
def message : StoreError → String
  | notFound detail => "not found: " ++ detail
  | alreadyExists detail => "already exists: " ++ detail
  | conflict detail => "conflict: " ++ detail
  | claimLost command => "claim on command " ++ toString command ++ " was lost"
  | serialization detail => "serialization error: " ++ detail
  | storage detail => "storage error: " ++ detail

/-- The name of a cause. -/
def name : StoreError → String
  | notFound _ => "NotFound"
  | alreadyExists _ => "AlreadyExists"
  | conflict _ => "Conflict"
  | claimLost _ => "ClaimLost"
  | serialization _ => "Serialization"
  | storage _ => "Storage"

/-- The error of a named cause. The particulars of a lost claim are its command. -/
def ofName? (name detail : String) : Option StoreError :=
  let plain := [.notFound detail, .alreadyExists detail, .conflict detail, .serialization detail,
    .storage detail]
  let lost := (Uuid.parse? detail).map fun uuid => claimLost ⟨uuid⟩
  (plain ++ lost.toList).find? (·.name = name)

/-- The error concerns one command only; a storage error concerns the store. -/
def isCommandLocal : StoreError → Bool
  | storage _ => false
  | _ => true

end StoreError

end SupplierSwitch
