import SupplierSwitch.Json.Reader
import Mathlib.Algebra.Group.Nat.Defs

namespace SupplierSwitch

/-!
# Identifiers survive their written form

* `Text.hexNumber?_hexDigits` — hexadecimal digits are read back as the number that they end;
* `Uuid.parse?_render` — so that every identifier is read back from what was written.
-/

namespace Text

theorem hexValue?_hexDigit {n : Nat} (small : n < 16) : hexValue? (hexDigit n) = some n := by
  have all : ∀ n : Fin 16, hexValue? (hexDigit n) = some n.1 := by decide
  exact all ⟨n, small⟩

theorem length_hexDigits (count n : Nat) : (hexDigits count n).length = count := by
  induction count generalizing n with
  | zero => rfl
  | succ count ih => simp [hexDigits, ih]

/-- The last digits of a number are read as what they make up. -/
theorem hexNumber?_hexDigits (count n : Nat) :
    hexNumber? (hexDigits count n) = some (n % 16 ^ count) := by
  induction count generalizing n with
  | zero => simp [hexDigits, hexNumber?, Nat.mod_one]
  | succ count ih =>
    have front := ih (n / 16)
    have digit := hexValue?_hexDigit (Nat.mod_lt n (by decide : 0 < 16))
    have value : n % 16 ^ (count + 1) = 16 * (n / 16 % 16 ^ count) + n % 16 := by
      rw [Nat.pow_succ, Nat.mul_comm, Nat.mod_mul, Nat.add_comm]
    rw [hexNumber?] at front ⊢
    rw [hexDigits, List.foldlM_append, front, value]
    simp [digit]

end Text

namespace Uuid

open Text

/-- Hyphens that were put between digits are taken out. -/
theorem joined?_hyphenated {digits : List Char} (length : digits.length = 32) :
    joined? (hyphenated digits) = some digits := by
  have long : (hyphenated digits).length = 36 := by simp [hyphenated, length]
  have groups : (hyphenated digits).take 8 ++ ((hyphenated digits).drop 9).take 4 ++
      ((hyphenated digits).drop 14).take 4 ++ ((hyphenated digits).drop 19).take 4 ++
      (hyphenated digits).drop 24 = digits := by
    -- Name the five groups, so that taking and dropping goes by their lengths.
    have cut (most : Nat) (ds : List Char) : ∃ front rest, ds = front ++ rest ∧
        front.length = min most ds.length :=
      ⟨ds.take most, ds.drop most, by simp⟩
    obtain ⟨g₁, rest₁, rfl, length₁⟩ := cut 8 digits
    obtain ⟨g₂, rest₂, rfl, length₂⟩ := cut 4 rest₁
    obtain ⟨g₃, rest₃, rfl, length₃⟩ := cut 4 rest₂
    obtain ⟨g₄, g₅, rfl, length₄⟩ := cut 4 rest₃
    simp only [List.length_append] at *
    have l₁ : g₁.length = 8 := by omega
    have l₂ : g₂.length = 4 := by omega
    have l₃ : g₃.length = 4 := by omega
    have l₄ : g₄.length = 4 := by omega
    simp (disch := omega) [hyphenated, List.drop_append, l₁, l₂, l₃, l₄, List.drop_of_length_le]
  rw [joined?, groups, if_pos ⟨long, rfl⟩]

/-- What an identifier is written as is read back as the identifier. -/
theorem parse?_render (u : Uuid) : parse? u.render = some u := by
  have length := length_hexDigits 32 u.bits.toNat
  have long : (hyphenated (hexDigits 32 u.bits.toNat)).length = 36 := by
    simp [hyphenated, length]
  have digits : digits? (hyphenated (hexDigits 32 u.bits.toNat))
      = some (hexDigits 32 u.bits.toNat) := by
    rw [digits?, if_neg (by omega), if_pos long, joined?_hyphenated length]
  have small : u.bits.toNat % 16 ^ 32 = u.bits.toNat := Nat.mod_eq_of_lt u.bits.isLt
  rw [parse?, render, String.toList_ofList, digits]
  simp only [Option.bind_eq_bind, Option.bind_some, hexNumber?_hexDigits, small,
    BitVec.ofNat_toNat, BitVec.setWidth_eq]
  rfl

@[simp]
theorem ofJson_toJson (u : Uuid) : ofJson u.toJson = .ok u := by
  simp only [ofJson, toJson, Json.readText, parse?_render]
  rfl

end Uuid

end SupplierSwitch
