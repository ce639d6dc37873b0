namespace SupplierSwitch

/-!
# Durations

Lengths of time in whole nanoseconds, up to the greatest number of seconds that 64 bits hold.
Arithmetic stops at that bound.
-/

namespace Duration

/-- Nanoseconds in a second. -/
abbrev nanosPerSecond : Nat := 1000000000

/-- The greatest duration, in nanoseconds. -/
abbrev greatestNanos : Nat := 18446744073709551615999999999

end Duration

/-- A length of time. -/
structure Duration where
  nanos : Nat
  nanos_le : nanos ≤ Duration.greatestNanos
  deriving DecidableEq

namespace Duration

/-- The duration of so many nanoseconds, or the greatest one. -/
def ofNanos (n : Nat) : Duration :=
  ⟨min n greatestNanos, Nat.min_le_right _ _⟩

/-- The duration of so many seconds, or the greatest one. -/
def ofSeconds (seconds : Nat) : Duration :=
  ofNanos (seconds * nanosPerSecond)

/-- The duration of so many milliseconds. -/
def ofMillis (milliseconds : Nat) : Duration :=
  ofNanos (milliseconds * 1000000)

/-- No time at all. -/
def zero : Duration := ofNanos 0

instance : Inhabited Duration := ⟨zero⟩

/-- Whole seconds. -/
def seconds (d : Duration) : Nat := d.nanos / nanosPerSecond

/-- Nanoseconds beyond the whole seconds. -/
def subsecond (d : Duration) : Nat := d.nanos % nanosPerSecond

instance : LE Duration := ⟨fun a b => a.nanos ≤ b.nanos⟩

instance (a b : Duration) : Decidable (a ≤ b) := inferInstanceAs (Decidable (a.nanos ≤ b.nanos))

/-- The shorter of two durations. -/
protected def min (a b : Duration) : Duration :=
  if a ≤ b then a else b

instance : Min Duration := ⟨Duration.min⟩

/-- So many times a duration, or the greatest one. -/
def scale (d : Duration) (factor : Nat) : Duration :=
  ofNanos (d.nanos * factor)

/-! ### Lengths of what was computed -/

theorem nanos_scale (d : Duration) (factor : Nat) :
    (d.scale factor).nanos = min (d.nanos * factor) greatestNanos := rfl

theorem nanos_min (a b : Duration) : (min a b).nanos = min a.nanos b.nanos := by
  show (Duration.min a b).nanos = _
  unfold Duration.min
  by_cases shorter : a ≤ b
  · rw [if_pos shorter, Nat.min_eq_left shorter]
  · rw [if_neg shorter, Nat.min_eq_right (Nat.le_of_not_le shorter)]

/-! ### The short written form -/

/-- A number with the digits after its point, from `places` digits without trailing zeros. -/
def renderDecimal (whole fraction places : Nat) : String :=
  if fraction = 0 then toString whole
  else
    let digits := (toString (Nat.pow 10 places + fraction)).toList.drop 1
    toString whole ++ "." ++ String.ofList (digits.reverse.dropWhile (· = '0')).reverse

/-- A duration in the greatest unit of which it holds at least one. -/
def render (d : Duration) : String :=
  if 0 < d.seconds then renderDecimal d.seconds d.subsecond 9 ++ "s"
  else if 1000000 ≤ d.nanos then renderDecimal (d.nanos / 1000000) (d.nanos % 1000000) 6 ++ "ms"
  else if 1000 ≤ d.nanos then renderDecimal (d.nanos / 1000) (d.nanos % 1000) 3 ++ "µs"
  else toString d.nanos ++ "ns"

end Duration

end SupplierSwitch
