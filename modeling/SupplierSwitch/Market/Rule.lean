import SupplierSwitch.Journal

namespace SupplierSwitch

/-!
# Business rules

A rule is a test over values captured when it was made, with the violation to report if it is broken.
All rules of a list are evaluated, in order, and all violations are reported.
-/

/-- A rule, evaluated. -/
structure Rule (ν : Type) where
  isBroken : Bool
  /-- What to report when the rule is broken. -/
  violation : ν

/-- The outcome of a list of rules: the violations of the broken ones, in rule order. -/
structure Validation (ν : Type) where
  errors : List ν
  deriving DecidableEq

namespace Validation

/-- No rule is broken. -/
def success (v : Validation ν) : Bool :=
  v.errors.isEmpty

instance : Inhabited (Validation ν) := ⟨⟨[]⟩⟩

end Validation

namespace Rule

/-- The violations of the broken rules. -/
def validate (rules : List (Rule ν)) : Validation ν :=
  ⟨(rules.filter (·.isBroken)).map (·.violation)⟩

/-- Validation with a notice of how many rules there were and how many are broken. -/
def evaluate (rules : List (Rule ν)) : Noted (Validation ν) :=
  ⟨validate rules, [.rulesEvaluated rules.length (validate rules).errors.length]⟩

/-- A list of rules in diagnostics. -/
def describeSet (rules : List (Rule ν)) : String :=
  "RuleSet \x7b rules: " ++ toString rules.length ++ " \x7d"

@[simp]
theorem value_evaluate (rules : List (Rule ν)) : (evaluate rules).value = validate rules := rfl

theorem success_validate_iff (rules : List (Rule ν)) :
    (validate rules).success = true ↔ ∀ rule ∈ rules, rule.isBroken = false := by
  simp [validate, Validation.success]

end Rule

end SupplierSwitch
