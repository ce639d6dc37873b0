import SupplierSwitch.Calendar.Timestamp
import SupplierSwitch.Proofs.Calendar.DateText

namespace SupplierSwitch.Date

open Calendar

/-!
# Day numbers and dates

An era of 400 years, counted from March so that its leap days come last, has four centuries, a
century 25 times four years, and four years have 1461 days. Only what comes last may be longer or
shorter than the others.

* `exists_place` — where in its era a day lies;
* `dayNumber_partsOfDayNumber` — the parts of a day number are those of a day with that number;
* `isDate_partsOfDayNumber` — and name a date, if an instant of the calendar falls on the day.
-/

/-! ### Where in its era a day lies -/

/-- A day of an era: after so many centuries, so many times four years after that, so many years
after that, and so many days after that. -/
structure Place where
  century : Int
  olympiad : Int
  year : Int
  day : Int
  century_mem : 0 ≤ century ∧ century ≤ 3
  olympiad_mem : 0 ≤ olympiad ∧ olympiad ≤ 24
  year_mem : 0 ≤ year ∧ year ≤ 3
  day_mem : 0 ≤ day ∧ day ≤ 365
  /-- Only the last year of four has a day more, and the last four of a century have it only at the
  end of the era. -/
  leap : day = 365 → year = 3 ∧ (olympiad = 24 → century = 3)

namespace Place

/-- The number of the day in its era. -/
def dayOfEra (p : Place) : Int :=
  36524 * p.century + 1461 * p.olympiad + 365 * p.year + p.day

/-- The number of the year in its era. -/
def yearOfEra (p : Place) : Int :=
  100 * p.century + 4 * p.olympiad + p.year

end Place

/-- Every day of an era has its place. -/
theorem exists_place {n : Int} (lower : 0 ≤ n) (upper : n < 146097) :
    ∃ p : Place, p.dayOfEra = n := by
  -- The last day of the era is the one that a division would put into a fifth century.
  by_cases last : n = 146096
  · exact ⟨⟨3, 24, 3, 365, by decide, by decide, by decide, by decide, by decide⟩, last.symm⟩
  · have century : 0 ≤ n / 36524 ∧ n / 36524 ≤ 3 := by omega
    obtain ⟨inCentury, hn⟩ : ∃ r, n = 36524 * (n / 36524) + r ∧ 0 ≤ r ∧ r < 36524 :=
      ⟨n % 36524, by omega⟩
    generalize n / 36524 = c at century hn
    have four : 0 ≤ inCentury / 1461 ∧ inCentury / 1461 ≤ 24 := by omega
    obtain ⟨inFour, hr⟩ : ∃ r, inCentury = 1461 * (inCentury / 1461) + r ∧ 0 ≤ r ∧ r < 1461 :=
      ⟨inCentury % 1461, by omega⟩
    generalize inCentury / 1461 = q at four hr
    -- So is the last day of four years, which a division would put into a fifth one.
    by_cases leap : inFour = 1460
    · refine ⟨⟨c, q, 3, 365, century, four, by decide, by decide, fun _ => ⟨rfl, by omega⟩⟩, ?_⟩
      simp only [Place.dayOfEra]
      omega
    · refine ⟨⟨c, q, inFour / 365, inFour % 365, century, four, by omega, by omega, by omega⟩, ?_⟩
      simp only [Place.dayOfEra]
      omega

variable (p : Place)

/-- The year of an era from the day of the era. -/
theorem yearOfEra_eq :
    (p.dayOfEra - p.dayOfEra / 1460 + p.dayOfEra / 36524 - p.dayOfEra / 146096) / 365
      = p.yearOfEra := by
  obtain ⟨c, q, y, d, century, four, year, day, leap⟩ := p
  simp only [Place.dayOfEra, Place.yearOfEra]
  generalize value : 36524 * c + 1461 * q + 365 * y + d = n
  by_cases last : n = 146096
  · have parts : c = 3 ∧ q = 24 ∧ y = 3 := by omega
    obtain ⟨rfl, rfl, rfl⟩ := parts
    subst last
    decide
  · have era : n / 146096 = 0 := by omega
    have centuries : n / 36524 = c := by omega
    -- A leap day is taken off for every 1460 days; what is left of them may make up one more.
    have fours : n / 1460 = 25 * c + q + (24 * c + q + 365 * y + d) / 1460 := by omega
    rw [era, centuries, fours]
    by_cases whole : 24 * c + q + 365 * y + d < 1460
    · have none : (24 * c + q + 365 * y + d) / 1460 = 0 := by omega
      omega
    · have one : (24 * c + q + 365 * y + d) / 1460 = 1 := by omega
      omega

/-- The days of an era before a year. -/
theorem daysBefore_yearOfEra :
    365 * p.yearOfEra + p.yearOfEra / 4 - p.yearOfEra / 100 = p.dayOfEra - p.day := by
  obtain ⟨c, q, y, d, century, four, year, day, leap⟩ := p
  simp only [Place.dayOfEra, Place.yearOfEra]
  have fours : (100 * c + 4 * q + y) / 4 = 25 * c + q := by omega
  have centuries : (100 * c + 4 * q + y) / 100 = c := by omega
  omega

theorem yearOfEra_mem : 0 ≤ p.yearOfEra ∧ p.yearOfEra < 400 := by
  obtain ⟨c, q, y, d, century, four, year, day, leap⟩ := p
  simp only [Place.yearOfEra]
  omega

/-- The year that ends with a leap day is followed by a leap year. -/
theorem isLeapYear_of_day (era : Int) (last : p.day = 365) :
    isLeapYear (p.yearOfEra + era * 400 + 1) = true := by
  obtain ⟨c, q, y, d, century, four, year, day, leap⟩ := p
  obtain ⟨rfl, ends⟩ := leap last
  simp only [Place.yearOfEra, isLeapYear, Bool.and_eq_true, Bool.or_eq_true, beq_iff_eq,
    bne_iff_ne]
  omega

/-! ### Months and days of a year from March -/

/-- The number of a month in a year from January, from its number in a year from March. -/
def monthOf (fromMarch : Int) : Int :=
  if fromMarch < 10 then fromMarch + 3 else fromMarch - 9

theorem monthOf_mem {fromMarch : Int} (lower : 0 ≤ fromMarch) (upper : fromMarch ≤ 11) :
    1 ≤ monthOf fromMarch ∧ monthOf fromMarch ≤ 12 := by
  simp only [monthOf]
  split <;> omega

theorem monthOf_le_two_iff {fromMarch : Int} (lower : 0 ≤ fromMarch) (upper : fromMarch ≤ 11) :
    monthOf fromMarch ≤ 2 ↔ 10 ≤ fromMarch := by
  simp only [monthOf]
  split <;> omega

theorem fromMarch_monthOf {fromMarch : Int} (lower : 0 ≤ fromMarch) (upper : fromMarch ≤ 11) :
    ((monthOf fromMarch).toNat + 9 : Int) % 12 = fromMarch := by
  simp only [monthOf]
  split <;> omega

/-- Five months from March have 153 days; what the division leaves makes them 31 or 30. -/
theorem daysInMonth_monthOf (year fromMarch : Int) (lower : 0 ≤ fromMarch)
    (upper : fromMarch ≤ 10) :
    (daysInMonth year (monthOf fromMarch).toNat : Int)
      = (153 * (fromMarch + 1) + 2) / 5 - (153 * fromMarch + 2) / 5 := by
  have month : fromMarch = 0 ∨ fromMarch = 1 ∨ fromMarch = 2 ∨ fromMarch = 3 ∨ fromMarch = 4 ∨
      fromMarch = 5 ∨ fromMarch = 6 ∨ fromMarch = 7 ∨ fromMarch = 8 ∨ fromMarch = 9 ∨
      fromMarch = 10 := by omega
  obtain rfl | rfl | rfl | rfl | rfl | rfl | rfl | rfl | rfl | rfl | rfl := month <;> rfl

/-- The days of a month are as many as its year allows. -/
theorem dayOfMonth_mem {year day fromMarch : Int} (starts : 153 * fromMarch ≤ 5 * day + 2)
    (ends : 5 * day + 2 < 153 * (fromMarch + 1)) (mem : 0 ≤ day ∧ day ≤ 365)
    (leap : day = 365 → isLeapYear year = true) :
    1 ≤ day - (153 * fromMarch + 2) / 5 + 1 ∧
      day - (153 * fromMarch + 2) / 5 + 1 ≤ daysInMonth year (monthOf fromMarch).toNat := by
  refine ⟨by omega, ?_⟩
  by_cases february : fromMarch = 11
  · subst february
    show _ ≤ ((daysInMonth year 2 : Nat) : Int)
    by_cases last : day = 365
    · simp only [daysInMonth, leap last, last]
      decide
    · have days : 28 ≤ daysInMonth year 2 := by
        simp only [daysInMonth]
        split <;> decide
      omega
  · have days := daysInMonth_monthOf year fromMarch (by omega) (by omega)
    omega

/-! ### Day numbers -/

/-- What the parts of a day number are: the day lies in an era from March, and in a month of it. -/
theorem partsOfDayNumber_eq (number : Int) :
    ∃ (p : Place) (era fromMarch day : Int),
      number + 719468 = era * 146097 + p.dayOfEra ∧
      p.day = (153 * fromMarch + 2) / 5 + day - 1 ∧ (0 ≤ fromMarch ∧ fromMarch ≤ 11) ∧
      (let year := if 10 ≤ fromMarch then p.yearOfEra + era * 400 + 1 else p.yearOfEra + era * 400
       (1 ≤ day ∧ day ≤ daysInMonth year (monthOf fromMarch).toNat) ∧
       partsOfDayNumber number = (year, (monthOf fromMarch).toNat, day.toNat)) := by
  obtain ⟨p, place⟩ := exists_place (n := (number + 719468) % 146097) (by omega) (by omega)
  have mem := p.day_mem
  have bounds : 0 ≤ (5 * p.day + 2) / 153 ∧ (5 * p.day + 2) / 153 ≤ 11 := by omega
  refine ⟨p, (number + 719468) / 146097, (5 * p.day + 2) / 153,
    p.day - (153 * ((5 * p.day + 2) / 153) + 2) / 5 + 1, by omega, by omega, bounds, ?_, ?_⟩
  · -- Only the last day of February needs a leap year, and its year is counted from January.
    refine dayOfMonth_mem (by omega) (by omega) mem fun last => ?_
    rw [if_pos (by omega)]
    exact isLeapYear_of_day p _ last
  · have year := yearOfEra_eq p
    have day : p.dayOfEra - (365 * p.yearOfEra + p.yearOfEra / 4 - p.yearOfEra / 100) = p.day := by
      rw [daysBefore_yearOfEra]
      omega
    have month := monthOf_le_two_iff bounds.1 bounds.2
    simp only [monthOf] at month
    simp only [partsOfDayNumber, ← place, year, day, month, monthOf]

/-- Every day number is that of its parts, … -/
theorem dayNumber_partsOfDayNumber (number : Int) :
    dayNumber (partsOfDayNumber number).1 (partsOfDayNumber number).2.1
      (partsOfDayNumber number).2.2 = number := by
  obtain ⟨p, era, fromMarch, day, number_eq, day_eq, bounds, days, parts⟩ :=
    partsOfDayNumber_eq number
  have yearMem := yearOfEra_mem p
  have before := daysBefore_yearOfEra p
  have month := fromMarch_monthOf bounds.1 bounds.2
  have early := monthOf_le_two_iff bounds.1 bounds.2
  have monthMem := monthOf_mem bounds.1 bounds.2
  have january : ((monthOf fromMarch).toNat ≤ 2) ↔ 10 ≤ fromMarch := by omega
  have fromMarchYear : (if (monthOf fromMarch).toNat ≤ 2 then
      (if 10 ≤ fromMarch then p.yearOfEra + era * 400 + 1 else p.yearOfEra + era * 400) - 1
      else if 10 ≤ fromMarch then p.yearOfEra + era * 400 + 1 else p.yearOfEra + era * 400)
      = p.yearOfEra + era * 400 := by
    split <;> split <;> omega
  have eras : (p.yearOfEra + era * 400) / 400 = era := by omega
  have years : (p.yearOfEra + era * 400) % 400 = p.yearOfEra := by omega
  rw [parts]
  simp only [dayNumber, fromMarchYear, eras, years, month]
  omega

/-- … and those are a date, if the day is one on which an instant falls. -/
theorem isDate_partsOfDayNumber {second : Int} (lower : Timestamp.firstSecond ≤ second)
    (upper : second ≤ Timestamp.lastSecond) :
    IsDate (partsOfDayNumber (second / 86400)).1 (partsOfDayNumber (second / 86400)).2.1
      (partsOfDayNumber (second / 86400)).2.2 := by
  obtain ⟨p, era, fromMarch, day, number_eq, day_eq, bounds, days, parts⟩ :=
    partsOfDayNumber_eq (second / 86400)
  have monthMem := monthOf_mem bounds.1 bounds.2
  have yearMem := yearOfEra_mem p
  have before := daysBefore_yearOfEra p
  have mem := p.day_mem
  have month : day ≤ 31 := Int.le_trans days.2 (Int.ofNat_le.mpr (daysInMonth_le _ _))
  rw [parts]
  simp only [Timestamp.firstSecond, Timestamp.lastSecond] at lower upper
  -- The calendar starts in January and ends in December, in the midst of years from March.
  have eras : -656 ≤ era ∧ era ≤ 655 := by omega
  have start : era = -656 → 256 ≤ p.yearOfEra ∧ (p.yearOfEra = 256 → 10 ≤ fromMarch) := by omega
  have stop : era = 655 → p.yearOfEra ≤ 142 ∧ (p.yearOfEra = 142 → fromMarch < 10) := by omega
  simp only [IsDate, firstYear, lastYear]
  refine ⟨?_, ⟨by omega, by omega⟩, by omega, by omega⟩
  split <;> omega

end SupplierSwitch.Date
