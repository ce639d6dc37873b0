import SupplierSwitch.Decimal.Shortest
import SupplierSwitch.Text.Numeral

namespace SupplierSwitch

/-!
# JSON numbers

A number that is written without point and exponent is a whole number if it fits in 64 bits, with a
sign or without; every other one has double precision, and so has zero with a minus sign. Main
definitions:

* `Numeral` and `Number.ofNumeral?`: how the written form of a number is read.
* `Number.render`: the written form, for doubles the shortest one that is read as the same number.
-/

/-- A JSON number. -/
inductive Number where
  | integer (n : Int)
  | double (x : Double)
  deriving DecidableEq, Repr

/-! ### Reading -/

/-- The parts of a number as it is written, each digit by its value. -/
structure Numeral where
  negative : Bool
  /-- The digits before the point. -/
  whole : List Nat
  /-- The digits after the point; none if there is no point. -/
  fraction : List Nat
  /-- The power of ten that is written at the end, if any. -/
  exponent : Option Int

namespace Numeral

/-- Append digits to a number as long as it fits in 64 bits; the digits left over come back. -/
def gather (value : Nat) : List Nat → Nat × List Nat
  | [] => (value, [])
  | d :: rest =>
    if 10 * value + d ≤ Text.greatest64 then gather (10 * value + d) rest else (value, d :: rest)

/-- Whether a numeral writes a whole number, given the value of the digits before its point: one
below zero has 63 bits besides its sign, and zero has no sign. -/
def IsWhole (n : Numeral) (value : Nat) : Prop :=
  n.fraction = [] ∧ n.exponent = none ∧ (n.negative → 1 ≤ value ∧ value ≤ Nat.pow 2 63)

instance (n : Numeral) (value : Nat) : Decidable (n.IsWhole value) :=
  inferInstanceAs (Decidable (_ ∧ _ ∧ _))

end Numeral

/-- The number that a numeral writes, unless it is out of range. Digits that do not fit in 64 bits
count as zeros before the point and as nothing after it. -/
def Number.ofNumeral? (n : Numeral) : Option Number :=
  let (value, beyond) := Numeral.gather 0 n.whole
  if beyond = [] ∧ n.IsWhole value then
    some (.integer (if n.negative then -(value : Int) else value))
  else
    let (digits, dropped) := Numeral.gather value n.fraction
    let places : Nat := n.fraction.length - dropped.length
    .double <$> Double.ofDecimal? n.negative digits
      ((beyond.length : Int) - places + n.exponent.getD 0)

/-! ### Writing -/

namespace Double

/-- The powers of ten of a leading digit for which a number is written without an exponent. -/
def writtenPlainly (leading : Int) : Bool :=
  -5 ≤ leading ∧ leading ≤ 15

/-- A number without an exponent: it has a point and at least one digit on either side of it. -/
def plain (digits : List Char) (leading : Int) : List Char :=
  let whole := (leading + 1).toNat
  if leading < 0 then ['0', '.'] ++ List.replicate (-leading - 1).toNat '0' ++ digits
  else if digits.length ≤ whole then
    digits ++ List.replicate (whole - digits.length) '0' ++ ['.', '0']
  else digits.take whole ++ ['.'] ++ digits.drop whole

/-- A number with an exponent: one digit stands before the point, which is left out before nothing,
and the exponent always has a sign. -/
def scientific (digits : List Char) (leading : Int) : List Char :=
  let fraction := digits.drop 1
  digits.take 1 ++ (if fraction = [] then [] else '.' :: fraction) ++
    ['e', if leading < 0 then '-' else '+'] ++ Nat.toDigits 10 leading.natAbs

/-- The written form of a size. -/
def renderSize (size : Nat) : List Char :=
  if size = 0 then ['0', '.', '0']
  else
    let decimal := Decimal.shortest size
    let written := Nat.toDigits 10 decimal.digits
    let leading := decimal.exponent + written.length - 1
    let digits := (written.reverse.dropWhile (· = '0')).reverse
    if writtenPlainly leading then plain digits leading else scientific digits leading

/-- The written form of a number of double precision. -/
def render (x : Double) : String :=
  String.ofList ((if x.negative then ['-'] else []) ++ renderSize x.size)

end Double

/-- The written form of a number. -/
def Number.render : Number → String
  | .integer n => toString n
  | .double x => x.render

end SupplierSwitch
