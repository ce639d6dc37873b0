namespace SupplierSwitch

/-!
# Domain errors

What the domain may refuse, by the kind of refusal, with the particulars in words.
-/

/-- Why the domain refuses an operation. -/
inductive DomainError where
  /-- A text that is no identifier. -/
  | invalidId (detail : String)
  /-- A change that would break a rule of the domain. -/
  | invariantViolation (detail : String)
  | notFound (detail : String)
  /-- A change that collides with what is already there. -/
  | conflict (detail : String)
  deriving DecidableEq, Repr

/-- The wording of a domain error. -/
def DomainError.message : DomainError → String
  | .invalidId detail => "invalid identifier: " ++ detail
  | .invariantViolation detail => "invariant violated: " ++ detail
  | .notFound detail => "not found: " ++ detail
  | .conflict detail => "conflict: " ++ detail

/-- The name of a cause. -/
def DomainError.name : DomainError → String
  | .invalidId _ => "InvalidId"
  | .invariantViolation _ => "InvariantViolation"
  | .notFound _ => "NotFound"
  | .conflict _ => "Conflict"

/-- The error of a named cause. -/
def DomainError.ofName? (name detail : String) : Option DomainError :=
  [.invalidId detail, .invariantViolation detail, .notFound detail, .conflict detail].find?
    (·.name = name)

end SupplierSwitch
