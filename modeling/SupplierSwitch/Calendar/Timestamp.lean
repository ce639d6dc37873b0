import SupplierSwitch.Calendar.Date
import SupplierSwitch.Calendar.Duration

namespace SupplierSwitch

open Calendar

/-!
# Timestamps

Instants of universal time, to the nanosecond. A leap second is the second before it with more than
a second's worth of nanoseconds.
Main definitions:

* `Timestamp.render` writes an instant in universal time, with 0, 3, 6 or 9 digits of a second.
* `Timestamp.parse` reads a date and time with its distance from universal time.
* `Timestamp.offsetBy` is a later instant, or the last one of the calendar.
-/

namespace Timestamp

/-- Seconds from 1970 to the start of the calendar. -/
abbrev firstSecond : Int := -8334601228800

/-- Seconds from 1970 to the last second of the calendar. -/
abbrev lastSecond : Int := 8210266876799

end Timestamp

/-- An instant: seconds from the start of 1970, and nanoseconds. -/
structure Timestamp where
  second : Int
  nano : Nat
  first_le_second : Timestamp.firstSecond ≤ second
  second_le_last : second ≤ Timestamp.lastSecond
  nano_lt : nano < 2000000000
  deriving DecidableEq

namespace Timestamp

/-- The instant of the given second and nanosecond, if the calendar has it. -/
def ofParts? (second : Int) (nano : Nat) : Option Timestamp :=
  if h : (firstSecond ≤ second ∧ second ≤ lastSecond) ∧ nano < 2000000000 then
    some ⟨second, nano, h.1.1, h.1.2, h.2⟩
  else none

/-- The last instant of the calendar. -/
def greatest : Timestamp :=
  ⟨lastSecond, 999999999, by decide, by decide, by decide⟩

/-- The start of 1970. -/
def epoch : Timestamp :=
  ⟨0, 0, by decide, by decide, by decide⟩

instance : Inhabited Timestamp := ⟨epoch⟩

/-! ### Order -/

/-- A number that orders instants as time does. -/
def rank (t : Timestamp) : Int :=
  t.second * 2000000000 + t.nano

instance : LE Timestamp := ⟨fun a b => a.rank ≤ b.rank⟩

instance : LT Timestamp := ⟨fun a b => a.rank < b.rank⟩

instance (a b : Timestamp) : Decidable (a ≤ b) := inferInstanceAs (Decidable (a.rank ≤ b.rank))

instance (a b : Timestamp) : Decidable (a < b) := inferInstanceAs (Decidable (a.rank < b.rank))

/-! ### Later instants -/

/-- Second and nanosecond after a delay; a leap second is left once it has run out. -/
def shifted (second : Int) (nano delay : Nat) : Int × Nat :=
  if 1000000000 ≤ nano then
    if nano + delay < 2000000000 then (second, nano + delay)
    else (second + ((nano - 1000000000 + delay) / 1000000000 : Nat),
      (nano - 1000000000 + delay) % 1000000000)
  else (second + ((nano + delay) / 1000000000 : Nat), (nano + delay) % 1000000000)

/-- The instant after a delay, or the last one of the calendar. -/
def offsetBy (t : Timestamp) (delay : Duration) : Timestamp :=
  let (second, nano) := shifted t.second t.nano delay.nanos
  (ofParts? second nano).getD greatest

/-! ### Writing -/

/-- Digits of a second: none, or as many groups of three as it takes. -/
def renderFraction (nano : Nat) : String :=
  if nano = 0 then ""
  else if nano % 1000000 = 0 then "." ++ Text.padded 3 (nano / 1000000)
  else if nano % 1000 = 0 then "." ++ Text.padded 6 (nano / 1000)
  else "." ++ Text.padded 9 nano

/-- The date of an instant. -/
def renderDate (t : Timestamp) : String :=
  let (year, month, day) := Date.partsOfDayNumber (t.second / 86400)
  Date.renderYear year ++ "-" ++ Text.padded 2 month ++ "-" ++ Text.padded 2 day

/-- Hours, minutes and seconds of an instant; a leap second has number 60. -/
def renderTime (t : Timestamp) : String :=
  let second := (t.second % 86400).toNat
  Text.padded 2 (second / 3600) ++ ":" ++ Text.padded 2 (second / 60 % 60) ++ ":" ++
    Text.padded 2 (second % 60 + t.nano / 1000000000)

/-- The written form of an instant. -/
def render (t : Timestamp) : String :=
  t.renderDate ++ "T" ++ t.renderTime ++ renderFraction (t.nano % 1000000000) ++ "Z"

instance : ToString Timestamp := ⟨render⟩

/-- The instant without what is beyond its microseconds. -/
def truncateToMicros (t : Timestamp) : Timestamp :=
  { t with
    nano := t.nano / 1000 * 1000
    nano_lt := Nat.lt_of_le_of_lt (Nat.div_mul_le_self _ _) t.nano_lt }

/-! ### Reading -/

/-- The part of a second after a point, cut to nanoseconds. -/
def scanFraction : Scan Nat := do
  match ← get with
  | '.' :: rest =>
    set rest
    let digits ← Scan.digits 9
    modify (·.dropWhile Char.isDigit)
    pure (Scan.ofDigits digits * Nat.pow 10 (9 - digits.length))
  | _ => pure 0

/-- Two digits that have to follow at once, of which the first is below a bound. -/
def scanPair (firstBelow : Nat) : Scan Nat := do
  match ← get with
  | c :: d :: rest =>
    match Text.digit? c, Text.digit? d with
    | some tens, some ones =>
      if tens < firstBelow then
        set rest
        pure (10 * tens + ones)
      else throw .outOfRange
    | _, _ => throw .invalid
  | [c] => throw (if c.toNat < 128 then .tooShort else .invalid)
  | [] => throw .tooShort

/-- Hours and minutes of a distance from universal time, in seconds. -/
def scanDistance : Scan Nat := do
  let hours ← scanPair 10
  modify (·.dropWhile fun c => c = ':' || Text.isBlank c)
  let minutes ← scanPair 6
  pure (hours * 3600 + minutes * 60)

/-- The zone of a time: universal time, or the distance from it in seconds. -/
def scanZone : Scan Int := do
  Scan.blanks
  match ← get with
  | [] => throw .tooShort
  | c :: rest =>
    if ((c :: rest).take 3).map Char.toUpper = ['U', 'T', 'C'] then
      set (rest.drop 2)
      pure 0
    else if c = 'Z' ∨ c = 'z' then
      set rest
      pure 0
    else if c = '+' then
      set rest
      pure (← scanDistance)
    else if c = '-' ∨ c = '−' then
      set rest
      pure (-(← scanDistance : Nat))
    else throw .invalid

/-- What stands in a date and time. -/
structure Parts where
  date : Int × Nat × Nat
  secondOfDay : Nat
  nano : Nat
  zone : Int

/-- A date, a time of day and a zone. -/
def scanParts : Scan Parts := do
  let date ← Date.scanParts
  match ← get with
  | [] => throw .tooShort
  | c :: rest => if c = 'T' ∨ c = 't' ∨ c = ' ' then set rest else throw .invalid
  let hour ← Scan.numberWithin 2 0 23
  Scan.blanks
  Scan.symbol ':'
  let minute ← Scan.numberWithin 2 0 59
  Scan.blanks
  Scan.symbol ':'
  let second ← Scan.numberWithin 2 0 60
  let fraction ← scanFraction
  let zone ← scanZone
  let (ordinary, leap) := if second = 60 then (59, 1000000000) else (second, 0)
  pure ⟨date, hour * 3600 + minute * 60 + ordinary, leap + fraction, zone⟩

/-- The instant that scanned parts name. -/
def ofScanned (parts : Parts) : Except TextError Timestamp := do
  let date ← Date.ofScanned parts.date
  unless -86400 < parts.zone ∧ parts.zone < 86400 do throw .outOfRange
  match ofParts? (date.toDayNumber * 86400 + parts.secondOfDay - parts.zone) parts.nano with
  | some t => .ok t
  | none => .error .impossible

/-- Read an instant from a whole text. -/
def parse (s : String) : Except TextError Timestamp := do
  let scan : Scan Parts := do
    let parts ← scanParts
    Scan.blanks
    Scan.finish
    pure parts
  ofScanned (← scan.onText s)

end Timestamp

end SupplierSwitch
