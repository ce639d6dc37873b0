import SupplierSwitch.Text.Blank
import SupplierSwitch.Text.Numeral

namespace SupplierSwitch.Calendar

open Text

/-!
# Scanning calendar texts

The steps that date and time texts are read with. Blanks are skipped before every number and, where
a form allows it, before a separator; each step says why a text is no date or time.
-/

/-- Why a text is no date or time. -/
inductive TextError where
  /-- The text ran out. -/
  | tooShort
  /-- An unexpected character. -/
  | invalid
  /-- A number outside its field, or no such date or time. -/
  | outOfRange
  /-- Something is left over. -/
  | trailing
  /-- A local time without an instant. -/
  | impossible
  deriving DecidableEq, Repr

/-- The wording of a calendar error. -/
def TextError.message : TextError → String
  | .tooShort => "premature end of input"
  | .invalid => "input contains invalid characters"
  | .outOfRange => "input is out of range"
  | .trailing => "trailing input"
  | .impossible => "no possible date and time matching input"

/-- A step that reads from the front of the text that is left. -/
abbrev Scan := StateT (List Char) (Except TextError)

namespace Scan

/-- Skip blanks. -/
def blanks : Scan Unit :=
  modify skipBlanks

/-- The digits at the front of a text, at most `most` of them. -/
def leadingDigits : Nat → List Char → List Nat × List Char
  | 0, cs => ([], cs)
  | _ + 1, [] => ([], [])
  | most + 1, c :: cs =>
    match digit? c with
    | none => ([], c :: cs)
    | some d => ((d :: (leadingDigits most cs).1), (leadingDigits most cs).2)

/-- The number that decimal digits write. -/
def ofDigits (digits : List Nat) : Nat :=
  digits.foldl (fun value d => 10 * value + d) 0

/-- At least one and at most `most` digits. -/
def digits (most : Nat) : Scan (List Nat) := do
  match leadingDigits most (← get) with
  | ([], []) => throw .tooShort
  | ([], _ :: _) => throw .invalid
  | (ds, rest) =>
    set rest
    pure ds

/-- A number of at most `most` digits that lies between two bounds. -/
def numberWithin (most least greatest : Nat) : Scan Nat := do
  blanks
  let n := ofDigits (← digits most)
  if least ≤ n ∧ n ≤ greatest then pure n else throw .outOfRange

/-- A given character. -/
def symbol (c : Char) : Scan Unit := do
  match ← get with
  | [] => throw .tooShort
  | d :: rest => if d = c then set rest else throw .invalid

/-- Nothing may be left. -/
def finish : Scan Unit := do
  unless (← get).isEmpty do throw .trailing

/-- Run a scan on a whole text. -/
def onText (scan : Scan α) (s : String) : Except TextError α :=
  (scan.run s.toList).map Prod.fst

end Scan

end SupplierSwitch.Calendar
