namespace SupplierSwitch

/-!
# Numbers of double precision

The finite numbers of 64 bits with a sign, a significand of 53 bits and a power of two. Every one of
them is a whole number of steps of `2 ^ -1074`, so sizes are natural numbers here, and a result that
lies between two sizes is rounded by exact arithmetic. Main definitions:

* `Double.nearest`: the size nearest to a quotient.
* `Double.ofDecimal?`: the number that decimal digits and a power of ten are read as. The digits,
  the power and their product or quotient are rounded one after the other, so that the result may
  lie a little beside the nearest size.
-/

/-- The whole number nearest to a quotient; a half goes to the even neighbour. -/
def roundQuotient (n d : Nat) : Nat :=
  let below := n / d
  let twice := 2 * (n % d)
  if twice < d ∨ (twice = d ∧ below % 2 = 0) then below else below + 1

/-- A finite number of double precision. Zero has a sign too. -/
structure Double where
  negative : Bool
  /-- The size, counted in steps of `2 ^ -1074`. -/
  size : Nat
  deriving DecidableEq, Repr

namespace Double

/-- The size of one. -/
def one : Nat := Nat.pow 2 1074

/-- The number of bits of a significand. -/
def precision : Nat := 53

/-- Sizes from here on are out of range. -/
def bound : Nat := Nat.pow 2 1024 * one

/-- The size nearest to a quotient. A size has at most 53 binary digits in front of its zeros, so a
longer quotient is rounded to a multiple of the power of two that leaves so many. -/
def nearest (n d : Nat) : Nat :=
  let unit := Nat.pow 2 ((n / d).log2 + 1 - precision)
  roundQuotient n (d * unit) * unit

/-- The product of two sizes. -/
def times (a b : Nat) : Nat :=
  nearest (a * b) one

/-- The quotient of two sizes. -/
def dividedBy (a b : Nat) : Nat :=
  nearest (a * one) b

/-- The size of a natural number. -/
def sizeOfNat (n : Nat) : Nat :=
  nearest (n * one) 1

/-- The size of a power of ten. -/
def powerOfTen (power : Nat) : Nat :=
  sizeOfNat (Nat.pow 10 power)

/-- The greatest power of ten in range. -/
def greatestPower : Nat := 308

/-- A size divided by a power of ten, by at most the greatest one in range at a time. Three
divisions by that one leave nothing of a number of 64 bits, so there never are more of them. -/
def dividedByPower (size power : Nat) : Nat :=
  let rounds := (power - 1) / greatestPower
  let greatest := powerOfTen greatestPower
  dividedBy (Nat.repeat (dividedBy · greatest) (min rounds 3) size)
    (powerOfTen (power - greatestPower * rounds))

/-- The number with the given digits, scaled by a power of ten, unless it is out of range. -/
def ofDecimal? (negative : Bool) (digits : Nat) : Int → Option Double
  | .ofNat power =>
    if digits = 0 then some ⟨negative, 0⟩
    else if power ≤ greatestPower then
      let size := times (sizeOfNat digits) (powerOfTen power)
      if size < bound then some ⟨negative, size⟩ else none
    else none
  | .negSucc power => some ⟨negative, dividedByPower (sizeOfNat digits) (power + 1)⟩

end Double

end SupplierSwitch
