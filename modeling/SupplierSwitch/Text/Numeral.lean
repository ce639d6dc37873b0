namespace SupplierSwitch.Text

/-!
# Decimal numerals

Writing numbers with a least number of digits, and reading an unsigned number that has to fit a
given width. A numeral read here is an optional plus sign and at least one ASCII digit.
-/

/-- A number in decimal digits, with zeros in front up to the given width. -/
def padded (width n : Nat) : String :=
  let digits := toString n
  "".pushn '0' (width - digits.length) ++ digits

/-- The value of an ASCII digit. -/
def digit? (c : Char) : Option Nat :=
  if c.isDigit then some (c.toNat - 48) else none

/-- Why a text is no number of the wanted width. -/
inductive NumeralError where
  | empty
  | invalidDigit
  | tooLarge
  deriving DecidableEq, Repr

/-- The wording of a numeral error. -/
def NumeralError.message : NumeralError → String
  | .empty => "cannot parse integer from empty string"
  | .invalidDigit => "invalid digit found in string"
  | .tooLarge => "number too large to fit in target type"

/-- Read digits on top of the value read so far; the first bad digit or overflow ends the reading. -/
def readDigits (greatest value : Nat) : List Char → Except NumeralError Nat
  | [] => .ok value
  | c :: rest =>
    match digit? c with
    | none => .error .invalidDigit
    | some d =>
      if 10 * value + d ≤ greatest then readDigits greatest (10 * value + d) rest
      else .error .tooLarge

/-- Read an unsigned number of at most `greatest`. -/
def readUnsigned (greatest : Nat) (s : String) : Except NumeralError Nat :=
  match s.toList with
  | [] => .error .empty
  | ['+'] => .error .invalidDigit
  | '+' :: digits => readDigits greatest 0 digits
  | digits => readDigits greatest 0 digits

/-- The greatest number of 32 bits. -/
def greatest32 : Nat := UInt32.size - 1

/-- The greatest number of 64 bits. -/
def greatest64 : Nat := UInt64.size - 1

end SupplierSwitch.Text
