import SupplierSwitch.Decimal.Double

namespace SupplierSwitch

/-!
# The shortest decimal of a number

Many decimals are nearest to one and the same number of double precision; the shortest stands for
it. Among those of one length it is the one closest to the number, and the even one of two that are
equally close. Main definitions:

* `Decimal.nearest`: the size that a decimal is nearest to.
* `Decimal.shortest`: the shortest decimal of a size. With so many digits the candidates are the two
  neighbours of the size on the grid of that spacing: if any decimal on the grid is nearest to the
  size, then so is one of its neighbours.
-/

/-- A number of decimal digits scaled by a power of ten. -/
structure Decimal where
  digits : Nat
  exponent : Int
  deriving DecidableEq, Repr

namespace Decimal

/-- The number of decimal digits of a natural number. -/
def countDigits (n : Nat) : Nat :=
  (Nat.toDigits 10 n).length

/-- The size that a decimal is nearest to. -/
def nearest (d : Decimal) : Nat :=
  Double.nearest (d.digits * Nat.pow 10 d.exponent.toNat * Double.one)
    (Nat.pow 10 (-d.exponent).toNat)

/-- The power of ten of the leading digit of a size that is not zero. -/
def leadingPower (size : Nat) : Int :=
  if Double.one ≤ size then (countDigits (size / Double.one) : Int) - 1
  else -(countDigits ((Double.one - 1) / size) : Int)

/-- The decimal of so many digits that is nearest to a size and closest to it, if there is one. -/
def ofLength? (size length : Nat) : Option Decimal :=
  let exponent := leadingPower size + 1 - length
  let n := size * Nat.pow 10 (-exponent).toNat
  let d := Double.one * Nat.pow 10 exponent.toNat
  let candidates := [roundQuotient n d, n / d, n / d + 1].map (Decimal.mk · exponent)
  candidates.find? fun candidate => candidate.nearest = size

/-- All digits of a size: a step is `5 ^ 1074` times the 1074th power of a tenth. -/
def exact (size : Nat) : Decimal :=
  ⟨size * Nat.pow 5 1074, -1074⟩

/-- The shortest decimal of a size that is not zero. Seventeen digits always suffice. -/
def shortest (size : Nat) : Decimal :=
  ((List.range 17).findSome? fun count => ofLength? size (count + 1)).getD (exact size)

end Decimal

end SupplierSwitch
