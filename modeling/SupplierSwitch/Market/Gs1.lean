import SupplierSwitch.Text.Blank
import SupplierSwitch.Text.Numeral
import SupplierSwitch.Market.Error

namespace SupplierSwitch

/-!
# GS1 numbers

Numbers of a fixed count of digits whose last digit checks the others: counted from the right, the
digits have weights 1, 3, 1, 3 and so on, and the weighted sum is a multiple of ten.
-/

namespace Gs1

/-- The sum of digits with the given weight for the first one, 1 and 3 taking turns. -/
def weightedSum (weight : Nat) : List Nat → Nat
  | [] => 0
  | d :: rest => weight * d + weightedSum (4 - weight) rest

/-- The digit that completes the digits before it. -/
def checkDigit (body : List Nat) : Nat :=
  (10 - weightedSum 3 body.reverse % 10) % 10

/-- The digits of a text of ASCII digits. -/
def digitsOf (cs : List Char) : List Nat :=
  cs.map fun c => c.toNat - 48

/-- A text of the given number of ASCII digits, the last one of which checks the others. -/
def isValid (length : Nat) (s : String) : Bool :=
  let cs := s.toList
  cs.length == length && cs.all Char.isDigit &&
    (digitsOf cs).getLast? == some (checkDigit (digitsOf cs).dropLast)

end Gs1

/-- A GS1 number of the given number of digits. -/
structure Gs1Number (length : Nat) where
  text : String
  isValid : Gs1.isValid length text = true
  deriving DecidableEq

instance : ToString (Gs1Number length) := ⟨Gs1Number.text⟩

/-- Read a GS1 number, without the blanks around it; the name of its type goes into the error. -/
def Gs1Number.parse (type : String) (length : Nat) (s : String) :
    Except DomainError (Gs1Number length) :=
  if h : Gs1.isValid length (Text.trim s) = true then .ok ⟨Text.trim s, h⟩
  else .error (.invalidId (type ++ ": '" ++ Text.trim s ++ "' is not a valid " ++
    toString length ++ "-digit GS1 number"))

/-- The number of an accounting point. -/
abbrev Gsrn := Gs1Number 18

/-- The number of a market participant. -/
abbrev GlnNumber := Gs1Number 13

/-- Read the number of an accounting point. -/
def Gsrn.parse (s : String) : Except DomainError Gsrn :=
  Gs1Number.parse "Gsrn" 18 s

/-- Read the number of a market participant. -/
def GlnNumber.parse (s : String) : Except DomainError GlnNumber :=
  Gs1Number.parse "GlnNumber" 13 s

end SupplierSwitch
