import SupplierSwitch.Market.Error

namespace SupplierSwitch

/-!
# Expected versions

Every stored aggregate has a version that rises by one with each commit. A writer says which version
it has seen, or that it does not care.
-/

/-- The version that a writer expects to replace. -/
inductive ExpectedVersion where
  | any
  | exact (version : Nat)
  deriving DecidableEq, Repr

namespace ExpectedVersion

/-- The actual version is one that the writer expects. -/
def Matches : ExpectedVersion → Nat → Prop
  | any, _ => True
  | exact expected, actual => expected = actual

instance (expected : ExpectedVersion) (actual : Nat) : Decidable (expected.Matches actual) := by
  cases expected <;> simp only [Matches] <;> infer_instance

/-- The name of an expected version in diagnostics. -/
def describe : ExpectedVersion → String
  | any => "Any"
  | exact version => "Exact(" ++ toString version ++ ")"

/-- Refuse an actual version that is not expected. -/
def check (expected : ExpectedVersion) (actual : Nat) : Except DomainError Unit :=
  if expected.Matches actual then .ok ()
  else .error (.conflict ("optimistic concurrency check failed (expected: " ++
    expected.describe ++ ", actual: " ++ toString actual ++ ")"))

end ExpectedVersion

end SupplierSwitch
