import SupplierSwitch.Calendar.Scan

namespace SupplierSwitch

open Calendar

/-!
# Dates

Days of the proleptic Gregorian calendar, with their written form and their day numbers.
Main definitions:

* `Date.render` writes a date as year, month and day; years outside 0 to 9999 carry a sign.
* `Date.parse` reads such a text, with blanks allowed before each part and at the end.
* `Date.toDayNumber` and `Date.ofDayNumber?` count days from 1 January 1970.
-/

namespace Calendar

/-- The first year that dates cover. -/
def firstYear : Int := -262143

/-- The last year that dates cover. -/
def lastYear : Int := 262142

/-- Leap years: every fourth, except centuries that 400 does not divide. -/
def isLeapYear (year : Int) : Bool :=
  year % 4 == 0 && (year % 100 != 0 || year % 400 == 0)

/-- The number of days in a month. -/
def daysInMonth (year : Int) : Nat → Nat
  | 2 => if isLeapYear year then 29 else 28
  | 4 | 6 | 9 | 11 => 30
  | _ => 31

/-- A year, month and day that name a date. -/
def IsDate (year : Int) (month day : Nat) : Prop :=
  (firstYear ≤ year ∧ year ≤ lastYear) ∧ (1 ≤ month ∧ month ≤ 12) ∧
    (1 ≤ day ∧ day ≤ daysInMonth year month)

instance (year : Int) (month day : Nat) : Decidable (IsDate year month day) := by
  unfold IsDate; infer_instance

end Calendar

/-- A day of the calendar. -/
structure Date where
  year : Int
  month : Nat
  day : Nat
  isDate : IsDate year month day
  deriving DecidableEq

namespace Date

/-- The date with the given parts, if there is one. -/
def ofParts? (year : Int) (month day : Nat) : Option Date :=
  if h : IsDate year month day then some ⟨year, month, day, h⟩ else none

/-! ### Writing -/

/-- A year: four digits, or a sign and at least four digits outside 0 to 9999. -/
def renderYear (year : Int) : String :=
  if 0 ≤ year ∧ year ≤ 9999 then Text.padded 4 year.toNat
  else (if year < 0 then "-" else "+") ++ Text.padded 4 year.natAbs

/-- The written form of a date. -/
def render (d : Date) : String :=
  renderYear d.year ++ "-" ++ Text.padded 2 d.month ++ "-" ++ Text.padded 2 d.day

instance : ToString Date := ⟨render⟩

/-! ### Reading -/

/-- The greatest number of digits that any year may be written with. -/
def unlimited : Nat := Text.greatest64

/-- A year: signed with any number of digits, or unsigned with at most four. -/
def scanYear : Scan Int := do
  Scan.blanks
  match ← get with
  | '-' :: rest =>
    set rest
    bounded (-(Scan.ofDigits (← Scan.digits unlimited) : Int))
  | '+' :: rest =>
    set rest
    bounded (Scan.ofDigits (← Scan.digits unlimited))
  | _ => bounded (Scan.ofDigits (← Scan.digits 4))
where
  /-- A year has to fit 32 bits even before it is known to name a date. -/
  bounded (year : Int) : Scan Int :=
    if -2147483648 ≤ year ∧ year ≤ 2147483647 then pure year else throw .outOfRange

/-- Year, month and day, not yet known to name a date. -/
def scanParts : Scan (Int × Nat × Nat) := do
  let year ← scanYear
  Scan.blanks
  Scan.symbol '-'
  let month ← Scan.numberWithin 2 1 12
  Scan.blanks
  Scan.symbol '-'
  let day ← Scan.numberWithin 2 1 31
  pure (year, month, day)

/-- The date that scanned parts name. -/
def ofScanned (parts : Int × Nat × Nat) : Except TextError Date :=
  match ofParts? parts.1 parts.2.1 parts.2.2 with
  | some date => .ok date
  | none => .error .outOfRange

/-- Read a date from a whole text. -/
def parse (s : String) : Except TextError Date := do
  let scan : Scan (Int × Nat × Nat) := do
    let parts ← scanParts
    Scan.blanks
    Scan.finish
    pure parts
  ofScanned (← scan.onText s)

/-! ### Day numbers -/

/-- Days from 1 January 1970 to the given date. Years are counted from March, so that the leap day
comes last. -/
def dayNumber (year : Int) (month day : Nat) : Int :=
  let y := if month ≤ 2 then year - 1 else year
  let era := y / 400
  let yearOfEra := y % 400
  let monthFromMarch : Int := (month + 9) % 12
  let dayOfYear := (153 * monthFromMarch + 2) / 5 + (day : Int) - 1
  let dayOfEra := yearOfEra * 365 + yearOfEra / 4 - yearOfEra / 100 + dayOfYear
  era * 146097 + dayOfEra - 719468

/-- Days from 1 January 1970 to a date. -/
def toDayNumber (d : Date) : Int :=
  dayNumber d.year d.month d.day

/-- Year, month and day of a day number. -/
def partsOfDayNumber (number : Int) : Int × Nat × Nat :=
  let shifted := number + 719468
  let era := shifted / 146097
  let dayOfEra := shifted % 146097
  let yearOfEra := (dayOfEra - dayOfEra / 1460 + dayOfEra / 36524 - dayOfEra / 146096) / 365
  let dayOfYear := dayOfEra - (365 * yearOfEra + yearOfEra / 4 - yearOfEra / 100)
  let monthFromMarch := (5 * dayOfYear + 2) / 153
  let day := dayOfYear - (153 * monthFromMarch + 2) / 5 + 1
  let month := if monthFromMarch < 10 then monthFromMarch + 3 else monthFromMarch - 9
  let year := yearOfEra + era * 400
  (if month ≤ 2 then year + 1 else year, month.toNat, day.toNat)

/-- The date of a day number, if it lies in the calendar. -/
def ofDayNumber? (number : Int) : Option Date :=
  let (year, month, day) := partsOfDayNumber number
  ofParts? year month day

end Date

end SupplierSwitch
