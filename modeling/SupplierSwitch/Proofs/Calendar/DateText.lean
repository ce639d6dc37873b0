import SupplierSwitch.Calendar.Date

namespace SupplierSwitch

open Calendar

/-!
# Dates survive their written form

* `Text.toList_padded` — a padded numeral is zeros and then digits;
* `Calendar.Scan.digits_padded` — a scan that allows for its width reads its number back and stops
  behind it;
* `Date.parse_render` — so that every date is read back from what was written.
-/

namespace Text

theorem toList_padded (width n : Nat) :
    (padded width n).toList
      = List.replicate (width - (Nat.toDigits 10 n).length) '0' ++ Nat.toDigits 10 n := by
  have zeros (k : Nat) : ("".pushn '0' k).toList = List.replicate k '0' := by
    induction k with
    | zero => rfl
    | succ k ih =>
      rw [List.replicate_succ', ← ih, String.pushn_eq_repeat_push, String.pushn_eq_repeat_push]
      simp [Nat.repeat]
  have digits : (toString n).toList = Nat.toDigits 10 n := Nat.toList_repr
  rw [padded, String.toList_append, zeros, digits, ← String.length_toList, digits]

theorem isDigit_of_mem_padded {width n : Nat} {c : Char} (h : c ∈ (padded width n).toList) :
    c.isDigit = true := by
  rw [toList_padded, List.mem_append] at h
  obtain hzero | hdigit := h
  · rw [List.eq_of_mem_replicate hzero]; rfl
  · exact Nat.isDigit_of_mem_toDigits (by decide) (by decide) hdigit

theorem digit_lt_ten {c : Char} (h : c.isDigit = true) : c.toNat - 48 < 10 := by
  simp only [Char.isDigit, Bool.and_eq_true, decide_eq_true_eq, UInt32.le_iff_toNat_le] at h
  have upper : c.toNat ≤ 57 := h.2
  omega

theorem isBlank_of_isDigit {c : Char} (h : c.isDigit = true) : isBlank c = false := by
  simp only [Char.isDigit, Bool.and_eq_true, decide_eq_true_eq, UInt32.le_iff_toNat_le] at h
  simp only [isBlank, Char.toNat]
  simp at h ⊢
  omega

theorem trim_of_isDigit {s : String} (h : ∀ c ∈ s.toList, c.isDigit = true) : trim s = s := by
  have front : skipBlanks s.toList = s.toList :=
    skipBlanks_of_head fun c hc => isBlank_of_isDigit (h c (List.mem_of_head? hc))
  have back : skipBlanks s.toList.reverse = s.toList.reverse :=
    skipBlanks_of_head fun c hc =>
      isBlank_of_isDigit (h c (List.mem_reverse.mp (List.mem_of_head? hc)))
  rw [trim, trimmed, front, ← List.reverse_reverse (dropEndBlanks s.toList), reverse_dropEndBlanks,
    back, List.reverse_reverse, String.ofList_toList]

end Text

namespace Calendar.Scan

open Text

/-- A step that succeeds is followed by the next one on what it leaves. -/
theorem run_then {α β : Type} {first : Scan α} {next : α → Scan β} {cs rest : List Char} {a : α}
    (h : first.run cs = .ok (a, rest)) : (first >>= next).run cs = (next a).run rest := by
  rw [StateT.run_bind, h]
  rfl

theorem get_run (cs : List Char) : (get : Scan (List Char)).run cs = .ok (cs, cs) := rfl

theorem set_run (cs rest : List Char) : (set rest : Scan Unit).run cs = .ok ((), rest) := rfl

/-- Digits are read up to what is no digit, or until the scan has its fill. -/
theorem leadingDigits_append {most : Nat} {ds rest : List Char}
    (digits : ∀ c ∈ ds, c.isDigit = true) (fits : ds.length ≤ most)
    (stop : ds.length = most ∨ ∀ c, rest.head? = some c → c.isDigit = false) :
    leadingDigits most (ds ++ rest) = (ds.map fun c => c.toNat - 48, rest) := by
  induction ds generalizing most with
  -- With its fill the scan stops whatever follows; otherwise what follows is no digit.
  | nil =>
    cases most with
    | zero => rfl
    | succ most =>
      cases rest with
      | nil => rfl
      | cons c rest =>
        have other : c.isDigit = false := by simpa using stop
        simp [leadingDigits, digit?, other]
  | cons c ds ih =>
    cases most with
    | zero => simp at fits
    | succ most =>
      obtain ⟨head, tail⟩ := List.forall_mem_cons.mp digits
      have rest := ih tail (by simpa using fits) (by simpa using stop)
      simp [leadingDigits, digit?, head, rest]

theorem ofDigits_map (ds : List Char) :
    ofDigits (ds.map fun c => c.toNat - 48) = Nat.ofDigitChars 10 ds 0 := by
  simp [ofDigits, Nat.ofDigitChars, List.foldl_map]

/-- The digits of a padded numeral are scanned, and the scan stops behind it. -/
theorem digits_run_padded {width most n : Nat} (rest : List Char)
    (fits : (padded width n).toList.length ≤ most)
    (stop : (padded width n).toList.length = most ∨ ∀ c, rest.head? = some c → c.isDigit = false) :
    (digits most).run ((padded width n).toList ++ rest)
      = .ok ((padded width n).toList.map fun c => c.toNat - 48, rest) := by
  have read := leadingDigits_append (fun c => isDigit_of_mem_padded) fits stop
  obtain ⟨c, cs, text⟩ : ∃ c cs, (padded width n).toList = c :: cs := by
    refine List.exists_cons_of_ne_nil fun none => ?_
    rw [toList_padded, List.append_eq_nil_iff] at none
    exact Nat.toDigits_ne_nil none.2
  rw [digits, run_then (get_run _), read, text]
  rfl

/-- The digits of a padded numeral write its number. -/
theorem ofDigits_padded (width n : Nat) :
    ofDigits ((padded width n).toList.map fun c => c.toNat - 48) = n := by
  rw [ofDigits_map, toList_padded, Nat.ofDigitChars_append]
  simp

/-- A padded numeral is read back, and the scan stops behind it. -/
theorem digits_padded {width most n : Nat} (rest : List Char)
    (fits : (padded width n).toList.length ≤ most)
    (stop : (padded width n).toList.length = most ∨ ∀ c, rest.head? = some c → c.isDigit = false) :
    ∃ ds, (digits most).run ((padded width n).toList ++ rest) = .ok (ds, rest) ∧
      ofDigits ds = n :=
  ⟨_, digits_run_padded rest fits stop, ofDigits_padded width n⟩

/-- Nothing is skipped in front of what is no blank. -/
theorem blanks_run {cs : List Char} (h : ∀ c, cs.head? = some c → isBlank c = false) :
    blanks.run cs = .ok ((), cs) := by
  have run : blanks.run cs = .ok ((), skipBlanks cs) := rfl
  rw [run, skipBlanks_of_head h]

theorem symbol_run (c : Char) (rest : List Char) : (symbol c).run (c :: rest) = .ok ((), rest) := by
  have run : (symbol c).run (c :: rest)
      = (if c = c then set rest else throw .invalid : Scan Unit).run (c :: rest) := rfl
  rw [run, if_pos rfl]
  rfl

theorem head_padded (width n : Nat) (rest : List Char) (c : Char)
    (h : ((padded width n).toList ++ rest).head? = some c) : c.isDigit = true := by
  cases text : (padded width n).toList with
  | nil =>
    rw [toList_padded, List.append_eq_nil_iff] at text
    exact absurd text.2 Nat.toDigits_ne_nil
  | cons d ds =>
    rw [text] at h
    cases h
    exact isDigit_of_mem_padded (text ▸ List.mem_cons_self)

theorem length_padded {width n : Nat} (short : (Nat.toDigits 10 n).length ≤ width) :
    (padded width n).toList.length = width := by
  rw [toList_padded, List.length_append, List.length_replicate]
  omega

/-- A month or a day is read back. -/
theorem numberWithin_padded {n least greatest : Nat} (rest : List Char) (small : n < 100)
    (lower : least ≤ n) (upper : n ≤ greatest) :
    (numberWithin 2 least greatest).run ((padded 2 n).toList ++ rest) = .ok (n, rest) := by
  have length := length_padded
    ((Nat.length_toDigits_le_iff (by decide) (by decide : 0 < 2)).mpr small)
  obtain ⟨ds, read, value⟩ := digits_padded rest (Nat.le_of_eq length) (.inl length)
  have skip := blanks_run fun c hc => isBlank_of_isDigit (head_padded 2 n rest c hc)
  rw [numberWithin, run_then skip, run_then read, value, if_pos ⟨lower, upper⟩]
  rfl

end Calendar.Scan

namespace Date

open Text Scan

theorem bounded_run {year : Int} (lower : firstYear ≤ year) (upper : year ≤ lastYear)
    (rest : List Char) : (scanYear.bounded year).run rest = .ok (year, rest) := by
  simp only [firstYear, lastYear] at lower upper
  rw [scanYear.bounded, if_pos ⟨by omega, by omega⟩]
  rfl

/-- A year without a sign has its four digits, a year with one is followed by no digit. -/
theorem scanYear_renderYear {year : Int} (lower : firstYear ≤ year) (upper : year ≤ lastYear)
    (rest : List Char) :
    scanYear.run ((renderYear year).toList ++ '-' :: rest) = .ok (year, '-' :: rest) := by
  have stop : ∀ c, ('-' :: rest).head? = some c → c.isDigit = false := by
    rintro _ ⟨⟩; rfl
  have fits : (padded 4 year.natAbs).toList.length ≤ unlimited := by
    have short : year.natAbs < 10 ^ 6 := by
      simp only [firstYear, lastYear] at lower upper; omega
    have six := (Nat.length_toDigits_le_iff (b := 10) (by decide) (by decide)).mpr short
    have many : 6 ≤ unlimited := by decide
    rw [toList_padded, List.length_append, List.length_replicate]
    omega
  obtain ⟨signed, readSigned, valueSigned⟩ := digits_padded _ fits (.inr stop)
  -- A plain year is written and read without a sign, every other one with it.
  by_cases plain : 0 ≤ year ∧ year ≤ 9999
  · have small : year.toNat < 10 ^ 4 := by omega
    have length := length_padded
      ((Nat.length_toDigits_le_iff (by decide) (by decide : 0 < 4)).mpr small)
    obtain ⟨ds, read, value⟩ := digits_padded ('-' :: rest) (Nat.le_of_eq length)
      (.inl length)
    rw [renderYear, if_pos plain]
    have first := head_padded 4 year.toNat ('-' :: rest)
    have skip := blanks_run fun c hc => isBlank_of_isDigit (first c hc)
    rw [scanYear, run_then skip, run_then (get_run _)]
    split
    · rename_i sign
      exact absurd (first '-' (by rw [sign]; rfl)) (by decide)
    · rename_i sign
      exact absurd (first '+' (by rw [sign]; rfl)) (by decide)
    · have back : (ofDigits ds : Int) = year := by omega
      rw [run_then read, back, bounded_run lower upper]
  · by_cases negative : year < 0
    · have text : (renderYear year).toList ++ '-' :: rest
          = '-' :: ((padded 4 year.natAbs).toList ++ '-' :: rest) := by
        rw [renderYear, if_neg plain, if_pos negative, String.toList_append]; rfl
      have skip : blanks.run ('-' :: ((padded 4 year.natAbs).toList ++ '-' :: rest))
          = .ok ((), _) :=
        blanks_run (by rintro _ ⟨⟩; rfl)
      have value : (-(ofDigits signed : Int)) = year := by omega
      rw [text, scanYear, run_then skip]
      rw [run_then (get_run _)]
      simp only []
      rw [run_then (set_run _ _), run_then readSigned, value, bounded_run lower upper]
    · have text : (renderYear year).toList ++ '-' :: rest
          = '+' :: ((padded 4 year.natAbs).toList ++ '-' :: rest) := by
        rw [renderYear, if_neg plain, if_neg negative, String.toList_append]; rfl
      have skip : blanks.run ('+' :: ((padded 4 year.natAbs).toList ++ '-' :: rest))
          = .ok ((), _) :=
        blanks_run (by rintro _ ⟨⟩; rfl)
      have value : (ofDigits signed : Int) = year := by omega
      rw [text, scanYear, run_then skip]
      rw [run_then (get_run _)]
      simp only []
      rw [run_then (set_run _ _), run_then readSigned, value, bounded_run lower upper]

theorem daysInMonth_le (year : Int) (month : Nat) : daysInMonth year month ≤ 31 := by
  unfold daysInMonth
  split
  · split <;> decide
  all_goals decide

/-- The parts of a date are scanned from how they are written. -/
theorem scanParts_run {year : Int} {month day : Nat} (isDate : IsDate year month day)
    (rest : List Char) :
    scanParts.run ((renderYear year).toList ++ '-' :: ((padded 2 month).toList ++ '-' ::
        ((padded 2 day).toList ++ rest)))
      = .ok ((year, month, day), rest) := by
  have ⟨⟨lower, upper⟩, ⟨monthLower, monthUpper⟩, dayLower, dayUpper⟩ := isDate
  have dayUpper' : day ≤ 31 := Nat.le_trans dayUpper (daysInMonth_le year month)
  have hyphen (rest : List Char) : blanks.run ('-' :: rest) = .ok ((), '-' :: rest) :=
    blanks_run (by rintro _ ⟨⟩; rfl)
  rw [scanParts, run_then (scanYear_renderYear lower upper _), run_then (hyphen _),
    run_then (symbol_run _ _), run_then (numberWithin_padded _ (by omega) monthLower monthUpper),
    run_then (hyphen _), run_then (symbol_run _ _),
    run_then (numberWithin_padded rest (by omega) dayLower dayUpper')]
  rfl

/-- What a date is written as is read back as the date. -/
theorem parse_render (d : Date) : Date.parse d.render = .ok d := by
  obtain ⟨year, month, day, isDate⟩ := d
  have text : (Date.render ⟨year, month, day, isDate⟩).toList
      = (renderYear year).toList ++ '-' :: ((padded 2 month).toList ++ '-' ::
          ((padded 2 day).toList ++ [])) := by
    simp [Date.render]
  have scan : (do
      let parts ← scanParts
      blanks
      finish
      pure parts : Scan (Int × Nat × Nat)).run (Date.render ⟨year, month, day, isDate⟩).toList
      = .ok ((year, month, day), []) := by
    rw [text, run_then (scanParts_run isDate [])]
    rfl
  rw [Date.parse, onText, scan]
  show ofScanned (year, month, day) = _
  rw [ofScanned, ofParts?, dif_pos isDate]

end Date

end SupplierSwitch
