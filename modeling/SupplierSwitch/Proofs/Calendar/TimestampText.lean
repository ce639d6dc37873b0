import SupplierSwitch.Proofs.Calendar.DayNumbers
import Mathlib.Algebra.Group.Nat.Defs

namespace SupplierSwitch

open Calendar Text Scan

/-!
# Instants and their written form

A text names a leap second as number 60 of its minute, so that a leap second can be written only at
the end of a minute. Anywhere else, what is written is the second after it.

* `Timestamp.IsRegular` — a leap second ends a minute;
* `Timestamp.parse_render` — every instant is read back, a leap second elsewhere as the second after
  it;
* `Timestamp.parse_render_iff` — so that the instants which texts keep are the regular ones;
* `Timestamp.isRegular_of_parse` — and no text names any other.
-/

/-! ### What scans read -/

namespace Calendar.Scan

/-- A step that succeeded was followed by the next one on what it left. -/
theorem run_then_ok {α β : Type} {first : Scan α} {next : α → Scan β} {cs : List Char}
    {r : β × List Char} (h : (first >>= next).run cs = .ok r) :
    ∃ a rest, first.run cs = .ok (a, rest) ∧ (next a).run rest = .ok r := by
  rw [StateT.run_bind] at h
  cases hf : first.run cs with
  | error e => rw [hf] at h; cases h
  | ok r' => rw [hf] at h; exact ⟨r'.1, r'.2, rfl, h⟩

theorem leadingDigits_bounds (most : Nat) (cs : List Char) :
    (leadingDigits most cs).1.length ≤ most ∧ ∀ d ∈ (leadingDigits most cs).1, d < 10 := by
  induction most generalizing cs with
  | zero => simp [leadingDigits]
  | succ most ih =>
    cases cs with
    | nil => simp [leadingDigits]
    | cons c cs =>
      simp only [leadingDigits]
      split
      · simp
      · rename_i d value
        have digit : d < 10 := by
          simp only [digit?] at value
          split at value
          · rename_i isDigit
            cases value
            exact digit_lt_ten isDigit
          · cases value
        obtain ⟨length, rest⟩ := ih cs
        exact ⟨by simpa using length, by simpa [digit] using rest⟩

theorem ofDigits_lt {ds : List Nat} (h : ∀ d ∈ ds, d < 10) : ofDigits ds < 10 ^ ds.length := by
  -- With a value before the digits, so that the induction goes from the left, as reading does.
  have fold (value : Nat) :
      ds.foldl (fun value d => 10 * value + d) value < (value + 1) * 10 ^ ds.length := by
    induction ds generalizing value with
    | nil => simp
    | cons d ds ih =>
      obtain ⟨first, rest⟩ := List.forall_mem_cons.mp h
      calc ds.foldl (fun value d => 10 * value + d) (10 * value + d)
          < (10 * value + d + 1) * 10 ^ ds.length := ih rest _
        _ ≤ (10 * (value + 1)) * 10 ^ ds.length := Nat.mul_le_mul_right _ (by omega)
        _ = (value + 1) * 10 ^ (d :: ds).length := by
          rw [List.length_cons, Nat.pow_succ, Nat.mul_comm 10, Nat.mul_assoc,
            Nat.mul_comm 10 (10 ^ ds.length)]
  simpa [ofDigits] using fold 0

/-- The digits that a scan read. -/
theorem digits_bounds {most : Nat} {cs rest : List Char} {ds : List Nat}
    (h : (digits most).run cs = .ok (ds, rest)) : ds.length ≤ most ∧ ∀ d ∈ ds, d < 10 := by
  have bounds := leadingDigits_bounds most cs
  obtain ⟨_, _, got, read⟩ := run_then_ok h
  cases got
  generalize leadingDigits most cs = found at bounds read
  obtain ⟨ds', rest'⟩ := found
  cases ds' with
  | nil => cases rest' <;> cases read
  | cons d ds' =>
    cases read
    exact bounds

end Calendar.Scan

namespace Timestamp

/-! ### Leap seconds -/

/-- A leap second ends a minute. -/
def IsRegular (t : Timestamp) : Prop :=
  t.nano < 1000000000 ∨ t.second % 60 = 59

instance (t : Timestamp) : Decidable t.IsRegular := by
  unfold IsRegular; infer_instance

/-- The instant that the text of an instant names. -/
def written (t : Timestamp) : Timestamp :=
  if h : t.IsRegular then t
  else
    { second := t.second + 1
      nano := t.nano - 1000000000
      first_le_second := by have := t.first_le_second; omega
      second_le_last := by
        have := t.second_le_last
        simp only [IsRegular, lastSecond] at *
        omega
      nano_lt := by have := t.nano_lt; omega }

theorem written_eq_iff {t : Timestamp} : t.written = t ↔ t.IsRegular := by
  by_cases h : t.IsRegular
  · simp [written, h]
  · rw [written, dif_neg h]
    refine ⟨fun same => ?_, fun regular => absurd regular h⟩
    have second := congrArg Timestamp.second same
    simp only at second
    omega

/-! ### Fractions of a second -/

/-- A fraction written with some of the nine digits of nanoseconds is read back. -/
theorem scanFraction_padded {width digits : Nat} (small : digits < 10 ^ width) (some : 0 < width)
    (fits : width ≤ 9) :
    scanFraction.run ('.' :: ((padded width digits).toList ++ ['Z']))
      = .ok (digits * 10 ^ (9 - width), ['Z']) := by
  have length := length_padded
    ((Nat.length_toDigits_le_iff (by decide) some).mpr small)
  have read := digits_run_padded ['Z'] (by omega : (padded width digits).toList.length ≤ 9)
    (.inr (by rintro _ ⟨⟩; rfl))
  have rest : (modify (·.dropWhile Char.isDigit) : Scan Unit).run ['Z'] = .ok ((), ['Z']) := rfl
  rw [scanFraction, run_then (get_run _)]
  simp only []
  rw [run_then (set_run _ _), run_then read, run_then rest, ofDigits_padded, List.length_map,
    length]
  rfl

/-- A fraction of a second is read back to the nanosecond. -/
theorem scanFraction_renderFraction {nano : Nat} (small : nano < 1000000000) :
    scanFraction.run ((renderFraction nano).toList ++ ['Z']) = .ok (nano, ['Z']) := by
  have grouped (width digits : Nat) (lt : digits < 10 ^ width) (some : 0 < width)
      (fits : width ≤ 9) (whole : digits * 10 ^ (9 - width) = nano) :
      scanFraction.run (("." ++ padded width digits).toList ++ ['Z']) = .ok (nano, ['Z']) := by
    rw [String.toList_append, ← whole]
    exact scanFraction_padded lt some fits
  rw [renderFraction]
  split
  · rename_i zero
    subst zero
    rfl
  split
  · exact grouped 3 _ (by omega) (by decide) (by decide) (by omega)
  split
  · exact grouped 6 _ (by omega) (by decide) (by decide) (by omega)
  · exact grouped 9 _ (by omega) (by decide) (by decide) (by omega)

/-! ### Reading back -/

/-- What stands in the text of an instant. -/
theorem toList_render (t : Timestamp) :
    t.render.toList
      = (Date.renderYear (Date.partsOfDayNumber (t.second / 86400)).1).toList ++ '-' ::
        ((padded 2 (Date.partsOfDayNumber (t.second / 86400)).2.1).toList ++ '-' ::
        ((padded 2 (Date.partsOfDayNumber (t.second / 86400)).2.2).toList ++ 'T' ::
        ((padded 2 ((t.second % 86400).toNat / 3600)).toList ++ ':' ::
        ((padded 2 ((t.second % 86400).toNat / 60 % 60)).toList ++ ':' ::
        ((padded 2 ((t.second % 86400).toNat % 60 + t.nano / 1000000000)).toList ++
        ((renderFraction (t.nano % 1000000000)).toList ++ ['Z'])))))) := by
  simp [render, renderDate, renderTime]

/-- The parts that the text of an instant gives. -/
def writtenParts (t : Timestamp) : Parts where
  date := Date.partsOfDayNumber (t.second / 86400)
  secondOfDay := (t.written.second % 86400).toNat
  nano := t.written.nano
  zone := 0

/-- The parts that the text of an instant gives. -/
theorem scanParts_render (t : Timestamp) :
    scanParts.run t.render.toList = .ok (t.writtenParts, []) := by
  have isDate := Date.isDate_partsOfDayNumber t.first_le_second t.second_le_last
  have nano := t.nano_lt
  have colon (rest : List Char) : blanks.run (':' :: rest) = .ok ((), ':' :: rest) :=
    blanks_run (by rintro _ ⟨⟩; rfl)
  have zone : scanZone.run ['Z'] = .ok (0, []) := rfl
  -- What is read differs from what was written only where a leap second does not end a minute.
  have same {second nano : Nat} (hs : second = (t.written.second % 86400).toNat)
      (hn : nano = t.written.nano) :
      (pure ⟨Date.partsOfDayNumber (t.second / 86400), second, nano, 0⟩ : Scan Parts).run []
        = .ok (t.writtenParts, []) := by
    rw [hs, hn]
    rfl
  rw [toList_render, scanParts, run_then (Date.scanParts_run isDate _), run_then (get_run _)]
  simp only [true_or, if_true]
  rw [run_then (set_run _ _),
    run_then (numberWithin_padded _ (by omega) (Nat.zero_le _) (by omega)),
    run_then (colon _), run_then (symbol_run _ _),
    run_then (numberWithin_padded _ (by omega) (Nat.zero_le _) (by omega)),
    run_then (colon _), run_then (symbol_run _ _),
    run_then (numberWithin_padded _ (by omega) (Nat.zero_le _) (by omega)),
    run_then (scanFraction_renderFraction (by omega)), run_then zone]
  -- Only a leap second at the end of a minute is written with number 60.
  split
  · rename_i leap
    have regular : t.IsRegular := .inr (by omega)
    refine same ?_ ?_ <;> simp only [written_eq_iff.mpr regular] <;> omega
  · rename_i ordinary
    by_cases regular : t.IsRegular
    · have short : t.nano < 1000000000 := by
        simp only [IsRegular] at regular
        omega
      refine same ?_ ?_ <;> simp only [written_eq_iff.mpr regular] <;> omega
    · have irregular : ¬ (t.nano < 1000000000 ∨ t.second % 60 = 59) := regular
      refine same ?_ ?_ <;> simp only [written, dif_neg regular] <;> omega

theorem day_written (t : Timestamp) : t.written.second / 86400 = t.second / 86400 := by
  by_cases regular : t.IsRegular
  · rw [written_eq_iff.mpr regular]
  · have irregular : ¬ (t.nano < 1000000000 ∨ t.second % 60 = 59) := regular
    rw [written, dif_neg regular]
    simp only
    omega

/-- Every instant is read back, a leap second that does not end a minute as the second after it. -/
theorem parse_render (t : Timestamp) : parse t.render = .ok t.written := by
  -- The text is scanned to its end, its date is one, and its parts are an instant of the calendar.
  have isDate := Date.isDate_partsOfDayNumber t.first_le_second t.second_le_last
  have scan : (do
      let parts ← scanParts
      blanks
      finish
      pure parts : Scan Parts).run t.render.toList = .ok (t.writtenParts, []) := by
    rw [run_then t.scanParts_render]
    rfl
  have date : Date.ofScanned t.writtenParts.date = .ok ⟨_, _, _, isDate⟩ := by
    have found : Date.ofParts? _ _ _ = some ⟨_, _, _, isDate⟩ := dif_pos isDate
    rw [Date.ofScanned, writtenParts, found]
  have second : (⟨_, _, _, isDate⟩ : Date).toDayNumber * 86400 + t.writtenParts.secondOfDay
      - t.writtenParts.zone = t.written.second := by
    have day := t.day_written
    simp only [Date.toDayNumber, writtenParts, Date.dayNumber_partsOfDayNumber]
    omega
  have instant : ofParts? t.written.second t.writtenParts.nano = some t.written :=
    dif_pos ⟨⟨t.written.first_le_second, t.written.second_le_last⟩, t.written.nano_lt⟩
  have zone : -86400 < t.writtenParts.zone ∧ t.writtenParts.zone < 86400 := by
    show (-86400 : Int) < 0 ∧ (0 : Int) < 86400
    decide
  rw [parse, onText, scan]
  show ofScanned t.writtenParts = _
  rw [ofScanned, date]
  simp only [bind, Except.bind]
  rw [if_pos zone, second, instant]

/-- The instants that their texts keep are the regular ones. -/
theorem parse_render_iff {t : Timestamp} : parse t.render = .ok t ↔ t.IsRegular := by
  rw [parse_render, Except.ok.injEq, written_eq_iff]

/-! ### What texts name -/

/-- A fraction is less than a second. -/
theorem scanFraction_lt {cs rest : List Char} {nano : Nat}
    (h : scanFraction.run cs = .ok (nano, rest)) : nano < 1000000000 := by
  obtain ⟨_, _, got, h⟩ := run_then_ok h
  cases got
  split at h
  · obtain ⟨_, _, -, h⟩ := run_then_ok h
    obtain ⟨ds, _, read, h⟩ := run_then_ok h
    obtain ⟨_, _, -, h⟩ := run_then_ok h
    cases h
    obtain ⟨length, digits⟩ := digits_bounds read
    calc ofDigits ds * 10 ^ (9 - ds.length)
        < 10 ^ ds.length * 10 ^ (9 - ds.length) :=
          Nat.mul_lt_mul_of_pos_right (ofDigits_lt digits) (Nat.pow_pos (by decide))
      _ = 10 ^ 9 := by rw [← Nat.pow_add, Nat.add_sub_cancel' length]
      _ = 1000000000 := rfl
  · cases h
    decide

/-- Distances from universal time are whole minutes. -/
theorem scanZone_minutes {cs rest : List Char} {zone : Int}
    (h : scanZone.run cs = .ok (zone, rest)) : zone % 60 = 0 := by
  have distance {cs rest : List Char} {d : Nat} (h : scanDistance.run cs = .ok (d, rest)) :
      d % 60 = 0 := by
    obtain ⟨hours, _, -, h⟩ := run_then_ok h
    obtain ⟨_, _, -, h⟩ := run_then_ok h
    obtain ⟨minutes, _, -, h⟩ := run_then_ok h
    cases h
    omega
  obtain ⟨_, _, -, h⟩ := run_then_ok h
  obtain ⟨_, _, -, h⟩ := run_then_ok h
  split at h
  · cases h
  split at h
  · obtain ⟨_, _, -, h⟩ := run_then_ok h
    cases h
    rfl
  split at h
  · obtain ⟨_, _, -, h⟩ := run_then_ok h
    cases h
    rfl
  split at h
  · obtain ⟨_, _, -, h⟩ := run_then_ok h
    obtain ⟨d, _, read, h⟩ := run_then_ok h
    have minutes := distance read
    cases h
    omega
  split at h
  · obtain ⟨_, _, -, h⟩ := run_then_ok h
    obtain ⟨d, _, read, h⟩ := run_then_ok h
    have minutes := distance read
    cases h
    omega
  · cases h

/-- The parts of a text have a leap second at the end of a minute only. -/
theorem scanParts_regular {cs rest : List Char} {parts : Parts}
    (h : scanParts.run cs = .ok (parts, rest)) :
    parts.zone % 60 = 0 ∧ (parts.nano < 1000000000 ∨ parts.secondOfDay % 60 = 59) := by
  obtain ⟨_, _, -, h⟩ := run_then_ok h
  obtain ⟨_, _, -, h⟩ := run_then_ok h
  split at h
  · obtain ⟨_, _, fail, -⟩ := run_then_ok h
    cases fail
  dsimp only at h
  split at h
  case' isFalse =>
    obtain ⟨_, _, fail, -⟩ := run_then_ok h
    cases fail
  obtain ⟨_, _, -, h⟩ := run_then_ok h
  obtain ⟨hour, _, -, h⟩ := run_then_ok h
  obtain ⟨_, _, -, h⟩ := run_then_ok h
  obtain ⟨_, _, -, h⟩ := run_then_ok h
  obtain ⟨minute, _, -, h⟩ := run_then_ok h
  obtain ⟨_, _, -, h⟩ := run_then_ok h
  obtain ⟨_, _, -, h⟩ := run_then_ok h
  obtain ⟨second, _, -, h⟩ := run_then_ok h
  obtain ⟨fraction, _, readFraction, h⟩ := run_then_ok h
  obtain ⟨zone, _, readZone, h⟩ := run_then_ok h
  have short := scanFraction_lt readFraction
  have minutes := scanZone_minutes readZone
  split at h
  · cases h
    refine ⟨minutes, .inr ?_⟩
    simp only
    omega
  · cases h
    refine ⟨minutes, .inl ?_⟩
    simp only
    omega

/-- What a text names was scanned from its beginning. -/
theorem scanned_of_parse {s : String} {t : Timestamp} (h : parse s = .ok t) :
    ∃ parts rest, scanParts.run s.toList = .ok (parts, rest) ∧ ofScanned parts = .ok t := by
  rw [parse, onText] at h
  cases scan : scanParts.run s.toList with
  | error e =>
    rw [StateT.run_bind, scan] at h
    cases h
  | ok r =>
    refine ⟨r.1, r.2, rfl, ?_⟩
    rw [run_then scan] at h
    cases stop : (do blanks; finish; pure r.1 : Scan Parts).run r.2 with
    | error e =>
      rw [stop] at h
      cases h
    | ok r' =>
      rw [stop] at h
      obtain ⟨_, _, -, stop⟩ := run_then_ok stop
      obtain ⟨_, _, -, stop⟩ := run_then_ok stop
      cases stop
      exact h

/-- The parts of a text name the instant so far into a day, less the distance from universal
time. -/
theorem second_of_ofScanned {parts : Parts} {t : Timestamp} (h : ofScanned parts = .ok t) :
    t.nano = parts.nano ∧
      ∃ day : Int, t.second = day * 86400 + parts.secondOfDay - parts.zone := by
  rw [ofScanned] at h
  cases dated : Date.ofScanned parts.date with
  | error e =>
    rw [dated] at h
    cases h
  | ok date =>
    rw [dated] at h
    dsimp only [bind, Except.bind] at h
    split at h
    case' isFalse => cases h
    rw [ofParts?] at h
    split at h
    · rename_i named
      split at named
      case' isFalse => cases named
      cases named
      cases h
      exact ⟨rfl, date.toDayNumber, rfl⟩
    · cases h

/-- No text names an instant that its own text would not keep. -/
theorem isRegular_of_parse {s : String} {t : Timestamp} (h : parse s = .ok t) : t.IsRegular := by
  obtain ⟨parts, rest, scan, named⟩ := scanned_of_parse h
  obtain ⟨minutes, regular⟩ := scanParts_regular scan
  obtain ⟨nano, day, second⟩ := second_of_ofScanned named
  -- Zones are whole minutes and so are days, so that the second of the minute is as it was scanned.
  rw [IsRegular, nano, second]
  omega

end Timestamp

end SupplierSwitch
