import SupplierSwitch.Text.Numeral
import Mathlib.Data.Nat.Digits.Defs
import Mathlib.Tactic.Ring

namespace SupplierSwitch.Text

/-!
# Numerals and their values

Numerals are read digit by digit, and the reading ends as soon as the number is too great. What is
read is said here in one piece: which texts are numerals, and what number one is for.

* `Numeral` — an optional plus sign and at least one digit;
* `digitsValue` — the number that digits stand for;
* `readUnsigned_ok_iff` — what is read of a text.
-/

/-- The text is an optional plus sign and these digits. -/
inductive Numeral : (text digits : List Char) → Prop where
  | bare {digits : List Char} (some : digits ≠ []) (decimal : ∀ c ∈ digits, c.isDigit = true) :
      Numeral digits digits
  | plus {digits : List Char} (some : digits ≠ []) (decimal : ∀ c ∈ digits, c.isDigit = true) :
      Numeral ('+' :: digits) digits

/-- The number that digits stand for, the first one with the greatest weight. -/
def digitsValue (digits : List Char) : Nat :=
  Nat.ofDigits 10 (digits.reverse.map fun c => c.toNat - 48)

/-- The text is a numeral for the number, which is at most `greatest`. -/
def Denotes (greatest : Nat) (s : String) (n : Nat) : Prop :=
  ∃ digits, Numeral s.toList digits ∧ n = digitsValue digits ∧ n ≤ greatest

variable {greatest value n : Nat} {cs : List Char}

theorem digitsValue_cons (c : Char) (rest : List Char) :
    digitsValue (c :: rest) = (c.toNat - 48) * 10 ^ rest.length + digitsValue rest := by
  unfold digitsValue
  rw [List.reverse_cons, List.map_append, Nat.ofDigits_append, List.length_map, List.length_reverse]
  simp only [List.map_cons, List.map_nil, Nat.ofDigits_singleton]
  ring

/-- Digits are read on top of a value that is not too great if the number is not too great. It only
    grows on the way. -/
theorem readDigits_ok_iff (fits : value ≤ greatest) : readDigits greatest value cs = .ok n ↔
    (∀ c ∈ cs, c.isDigit = true) ∧ n = value * 10 ^ cs.length + digitsValue cs ∧ n ≤ greatest := by
  induction cs generalizing value with
  | nil =>
    show Except.ok value = .ok n ↔ _
    have none : digitsValue [] = 0 := rfl
    simp only [none, List.not_mem_nil, List.length_nil, Except.ok.injEq]
    constructor
    · rintro rfl
      exact ⟨nofun, by omega, fits⟩
    · rintro ⟨-, rfl, -⟩
      omega
  | cons c rest ih =>
    unfold readDigits digit?
    have split : value * 10 ^ (c :: rest).length + digitsValue (c :: rest)
        = (10 * value + (c.toNat - 48)) * 10 ^ rest.length + digitsValue rest := by
      rw [digitsValue_cons, List.length_cons]
      ring
    rw [split, List.forall_mem_cons]
    by_cases digit : c.isDigit = true
    · rw [if_pos digit]
      simp only [digit, true_and]
      by_cases small : 10 * value + (c.toNat - 48) ≤ greatest
      · rw [if_pos small]
        exact ih small
      · rw [if_neg small]
        have grows : 10 * value + (c.toNat - 48)
            ≤ (10 * value + (c.toNat - 48)) * 10 ^ rest.length :=
          Nat.le_mul_of_pos_right _ (Nat.pow_pos (by decide))
        constructor
        · rintro ⟨⟩
        · rintro ⟨-, rfl, le⟩
          omega
    · rw [if_neg digit]
      simp [digit]

/-- Digits alone are read from nothing. -/
theorem readDigits_zero_ok_iff : readDigits greatest 0 cs = .ok n ↔
    (∀ c ∈ cs, c.isDigit = true) ∧ n = digitsValue cs ∧ n ≤ greatest := by
  rw [readDigits_ok_iff (Nat.zero_le greatest), Nat.zero_mul, Nat.zero_add]

theorem numeral_iff {digits : List Char} : Numeral cs digits ↔
    (digits ≠ [] ∧ ∀ c ∈ digits, c.isDigit = true) ∧ (cs = digits ∨ cs = '+' :: digits) := by
  constructor
  · intro numeral
    cases numeral with
    | bare some decimal => exact ⟨⟨some, decimal⟩, .inl rfl⟩
    | plus some decimal => exact ⟨⟨some, decimal⟩, .inr rfl⟩
  · rintro ⟨⟨some, decimal⟩, rfl | rfl⟩
    · exact .bare some decimal
    · exact .plus some decimal

/-- A text is read as a number if it is a numeral for it. -/
theorem readUnsigned_ok_iff {s : String} :
    readUnsigned greatest s = .ok n ↔ Denotes greatest s n := by
  have sign : ('+').isDigit = false := rfl
  unfold readUnsigned Denotes
  simp only [numeral_iff]
  split
  · -- Neither nothing …
    rename_i empty
    simp only [empty, reduceCtorEq, false_iff]
    rintro ⟨digits, ⟨⟨some, -⟩, same | same⟩, -⟩
    · exact some same.symm
    · cases same
  · -- … nor a sign alone is a numeral, …
    rename_i alone
    simp only [alone, reduceCtorEq, false_iff]
    rintro ⟨digits, ⟨⟨some, decimal⟩, rfl | same⟩, -⟩
    · simp [sign] at decimal
    · simp only [List.cons.injEq, true_and] at same
      exact some same.symm
  · -- … a sign is no digit, …
    rename_i digits nonempty signed
    rw [readDigits_zero_ok_iff, signed]
    constructor
    · rintro ⟨decimal, value, le⟩
      have some : digits ≠ [] := by
        rintro rfl
        exact nonempty rfl
      exact ⟨digits, ⟨⟨some, decimal⟩, .inr rfl⟩, value, le⟩
    · rintro ⟨digits', ⟨⟨some, decimal⟩, rfl | same⟩, value, le⟩
      · simp [sign] at decimal
      · cases same
        exact ⟨decimal, value, le⟩
  · -- … and without one all has to be digits.
    rename_i nonempty _ unsigned
    rw [readDigits_zero_ok_iff]
    constructor
    · rintro ⟨decimal, value, le⟩
      exact ⟨s.toList, ⟨⟨nonempty, decimal⟩, .inl rfl⟩, value, le⟩
    · rintro ⟨digits', ⟨⟨some, decimal⟩, rfl | same⟩, value, le⟩
      · exact ⟨decimal, value, le⟩
      · exact absurd same (unsigned digits')

end SupplierSwitch.Text
