namespace SupplierSwitch.Text

/-!
# Sets of code points by their boundaries

A set of code points is written as the increasing list of the points at which membership changes:
it starts with the first member, then the first non-member after it, and so on.
-/

/-- Membership: an odd number of boundaries lie at or below the point. -/
def insideBoundaries (boundaries : List Nat) (point : Nat) : Bool :=
  boundaries.countP (· ≤ point) % 2 == 1

/-- A run of code points from `first` to `last` in steps of `step`, sent in order to the points
from `image` on. -/
structure MappedRun where
  first : Nat
  last : Nat
  step : Nat
  image : Nat

/-- Where a run sends a point, if the point is on it. -/
def MappedRun.target? (run : MappedRun) (point : Nat) : Option Nat :=
  if run.first ≤ point ∧ point ≤ run.last ∧ (point - run.first) % run.step = 0 then
    some (run.image + (point - run.first))
  else
    none

end SupplierSwitch.Text
