import SupplierSwitch.Market.Gs1
import SupplierSwitch.Proofs.Calendar.DateText
import Mathlib.Algebra.GroupWithZero.Nat
import Mathlib.Logic.ExistsUnique

namespace SupplierSwitch

/-!
# Check digits

A GS1 number is told by its digits alone: there are as many of them as there have to be, and with
weights 1, 3, 1, 3 and so on from the right they sum up to a multiple of ten. Neither weight shares
a factor with ten, and the two differ by two. So a wrong digit is always noticed, and so are two
neighbours that have changed places, unless they are five apart.

* `Gs1.Checked` — the property of the digits, and `Gs1.isValid_iff_checked`;
* `Gs1.eq_of_checked`, `Gs1.checked_swap_iff` — what is noticed;
* `Gs1.Reliable` — all that holds of the numbers of one length and of their reading;
* `gs1_numbers_reliable` — points and participants have such numbers.
-/

namespace Gs1

/-- The weight of a digit with so many digits to its right. -/
def weight (place : Nat) : Nat :=
  if place % 2 = 0 then 1 else 3

/-- So many ASCII digits, of which the weighted sum from the right is a multiple of ten. -/
structure Checked (length : Nat) (cs : List Char) : Prop where
  length_eq : cs.length = length
  digits : ∀ c ∈ cs, c.isDigit = true
  sum : 10 ∣ ((digitsOf cs).reverse.mapIdx fun place d => weight place * d).sum

variable {length : Nat} {before after cs : List Char} {a b c c' : Char}

/-! ### Weighted sums -/

@[simp]
theorem weight_zero : weight 0 = 1 := rfl

theorem weight_eq (place : Nat) : weight place = 1 ∨ weight place = 3 := by
  unfold weight
  split <;> simp

theorem weight_succ (place : Nat) : weight (place + 1) = 4 - weight place := by
  unfold weight
  split <;> split <;> omega

/-- Summing up with weights in turns is summing up with the weights of the places. -/
theorem weightedSum_weight (place : Nat) (ds : List Nat) :
    weightedSum (weight place) ds = (ds.mapIdx fun i d => weight (place + i) * d).sum := by
  induction ds generalizing place with
  | nil => rfl
  | cons d ds ih =>
    simp only [weightedSum, ← weight_succ, ih, List.mapIdx_cons, List.sum_cons, Nat.add_zero,
      Nat.add_assoc, Nat.add_comm 1]

theorem weightedSum_one (ds : List Nat) :
    weightedSum 1 ds = (ds.mapIdx fun place d => weight place * d).sum := by
  simpa using weightedSum_weight 0 ds

theorem weightedSum_append (place : Nat) (ds es : List Nat) :
    weightedSum (weight place) (ds ++ es)
      = weightedSum (weight place) ds + weightedSum (weight (place + ds.length)) es := by
  induction ds generalizing place with
  | nil => simp [weightedSum]
  | cons d ds ih =>
    have next := ih (place + 1)
    rw [weight_succ] at next
    rw [List.cons_append, weightedSum, weightedSum, next, List.length_cons, Nat.add_assoc place,
      Nat.add_comm 1, Nat.add_assoc]

theorem digitsOf_cons (c : Char) (cs : List Char) :
    digitsOf (c :: cs) = (c.toNat - 48) :: digitsOf cs := rfl

theorem digitsOf_around (before after : List Char) (c : Char) :
    digitsOf (before ++ c :: after) = digitsOf before ++ (c.toNat - 48) :: digitsOf after := by
  simp [digitsOf]

/-- The sum of a number by the place of one digit. -/
theorem weightedSum_around (before after : List Nat) (d : Nat) :
    weightedSum 1 (before ++ d :: after).reverse
      = weightedSum 1 after.reverse + (weight after.length * d
        + weightedSum (weight (after.length + 1)) before.reverse) := by
  have split := weightedSum_append 0 after.reverse (d :: before.reverse)
  rw [Nat.zero_add, List.length_reverse, weightedSum, ← weight_succ] at split
  simpa using split

/-! ### Valid texts -/

/-- The last digit checks the others if the weighted sum of all of them is a multiple of ten. -/
theorem getLast?_eq_checkDigit_iff (ds : List Nat) (some : ds ≠ []) (digits : ∀ d ∈ ds, d < 10) :
    ds.getLast? = Option.some (checkDigit ds.dropLast) ↔ weightedSum 1 ds.reverse % 10 = 0 := by
  have split := List.dropLast_concat_getLast some
  generalize ds.dropLast = body at split
  generalize ds.getLast some = d at split
  subst split
  have small : d < 10 := digits d (by simp)
  have sum : weightedSum 1 (body ++ [d]).reverse = d + weightedSum 3 body.reverse := by
    simp [weightedSum]
  rw [sum, List.getLast?_concat, Option.some.injEq, checkDigit]
  omega

theorem checked_iff : Checked length cs ↔ cs.length = length ∧
    (∀ c ∈ cs, c.isDigit = true) ∧ weightedSum 1 (digitsOf cs).reverse % 10 = 0 := by
  rw [weightedSum_one, ← Nat.dvd_iff_mod_eq_zero]
  exact ⟨fun h => ⟨h.length_eq, h.digits, h.sum⟩, fun ⟨h, h', h''⟩ => ⟨h, h', h''⟩⟩

theorem isValid_iff_checked (positive : 0 < length) {s : String} :
    isValid length s = true ↔ Checked length s.toList := by
  simp only [isValid, Bool.and_eq_true, beq_iff_eq, List.all_eq_true, checked_iff, and_assoc]
  refine and_congr_right fun length_eq => and_congr_right fun digits => ?_
  have some : digitsOf s.toList ≠ [] := by
    rw [digitsOf, Ne, List.map_eq_nil_iff, ← List.length_eq_zero_iff]
    omega
  exact getLast?_eq_checkDigit_iff _ some
    (by simpa [digitsOf] using fun c mem => Text.digit_lt_ten (digits c mem))

/-- A valid number has no blanks around it. -/
theorem trim_of_isValid {s : String} (valid : isValid length s = true) : Text.trim s = s := by
  simp only [isValid, Bool.and_eq_true, List.all_eq_true] at valid
  exact Text.trim_of_isDigit valid.1.2

theorem parse_ok_iff {type : String} {s : String} {n : Gs1Number length} :
    Gs1Number.parse type length s = .ok n
      ↔ isValid length (Text.trim s) = true ∧ n.text = Text.trim s := by
  obtain ⟨text, isValid⟩ := n
  by_cases valid : Gs1.isValid length (Text.trim s) = true <;>
    simp [Gs1Number.parse, valid, eq_comm]

/-! ### What is noticed -/

theorem toNat_of_isDigit (digit : c.isDigit = true) : 48 ≤ c.toNat ∧ c.toNat ≤ 57 := by
  simp only [Char.isDigit, Bool.and_eq_true, decide_eq_true_eq, UInt32.le_iff_toNat_le] at digit
  exact digit

/-- A digit is told by its value. -/
theorem eq_of_digit (digit : c.isDigit = true) (digit' : c'.isDigit = true)
    (value : c.toNat - 48 = c'.toNat - 48) : c = c' := by
  obtain ⟨lower, -⟩ := toNat_of_isDigit digit
  obtain ⟨lower', -⟩ := toNat_of_isDigit digit'
  exact Char.toNat_inj.mp (by omega)

/-- Two numbers that differ in one digit at most are one. -/
theorem eq_of_checked (h : Checked length (before ++ c :: after))
    (h' : Checked length (before ++ c' :: after)) : c = c' := by
  obtain ⟨-, digits, sum⟩ := checked_iff.mp h
  obtain ⟨-, digits', sum'⟩ := checked_iff.mp h'
  have digit : c.isDigit = true := digits c (by simp)
  have digit' : c'.isDigit = true := digits' c' (by simp)
  have small := Text.digit_lt_ten digit
  have small' := Text.digit_lt_ten digit'
  rw [digitsOf_around, weightedSum_around] at sum sum'
  -- The sums differ by the difference of the digits, once or three times.
  refine eq_of_digit digit digit' ?_
  obtain one | three := weight_eq (digitsOf after).length
  · rw [one] at sum sum'
    omega
  · rw [three] at sum sum'
    omega

/-- Two different neighbours that have changed places are noticed unless they are five apart. -/
theorem checked_swap_iff (h : Checked length (before ++ a :: b :: after)) (unlike : a ≠ b) :
    Checked length (before ++ b :: a :: after)
      ↔ a.toNat = b.toNat + 5 ∨ b.toNat = a.toNat + 5 := by
  obtain ⟨length_eq, digits, sum⟩ := checked_iff.mp h
  have digitA : a.isDigit = true := digits a (by simp)
  have digitB : b.isDigit = true := digits b (by simp)
  have swapped : Checked length (before ++ b :: a :: after)
      ↔ weightedSum 1 (digitsOf (before ++ b :: a :: after)).reverse % 10 = 0 := by
    rw [checked_iff]
    refine ⟨fun h => h.2.2, fun sum => ⟨?_, fun c mem => digits c ?_, sum⟩⟩
    · simpa using length_eq
    · simpa [or_left_comm] using mem
  rw [swapped]
  have apart : a.toNat - 48 ≠ b.toNat - 48 := fun same => unlike (eq_of_digit digitA digitB same)
  obtain ⟨lowerA, upperA⟩ := toNat_of_isDigit digitA
  obtain ⟨lowerB, upperB⟩ := toNat_of_isDigit digitB
  have inner (c : Char) := weightedSum_around [] (digitsOf after) (c.toNat - 48)
  simp only [List.nil_append, List.reverse_nil, weightedSum] at inner
  rw [digitsOf_around, digitsOf_cons, weightedSum_around, inner] at sum ⊢
  -- The sums differ by the difference of the neighbours, twice.
  simp only [List.length_cons, weight_succ] at sum ⊢
  obtain one | three := weight_eq (digitsOf after).length
  · rw [one] at sum ⊢
    omega
  · rw [three] at sum ⊢
    omega

/-- Every body is completed by a digit. -/
theorem exists_checked (digits : ∀ c ∈ before, c.isDigit = true)
    (length_eq : before.length + 1 = length) : ∃ c, Checked length (before ++ [c]) := by
  have digit : ∀ d : Fin 10, (Char.ofNat (48 + d)).isDigit = true ∧
      (Char.ofNat (48 + d)).toNat - 48 = d := by decide
  let last : Fin 10 := ⟨checkDigit (digitsOf before), Nat.mod_lt _ (by decide)⟩
  obtain ⟨isDigit, value⟩ := digit last
  refine ⟨Char.ofNat (48 + last), checked_iff.mpr ⟨by simpa using length_eq, ?_, ?_⟩⟩
  · intro c mem
    obtain old | rfl := by simpa using mem
    · exact digits c old
    · exact isDigit
  · have sum : weightedSum 1 ((last : Nat) :: (digitsOf before).reverse)
        = last + weightedSum 3 (digitsOf before).reverse := by simp [weightedSum]
    have complete : (last : Nat) = (10 - weightedSum 3 (digitsOf before).reverse % 10) % 10 := rfl
    rw [digitsOf_around, value, show digitsOf [] = [] from rfl, List.reverse_concat, sum]
    omega

/-- What holds of the numbers of one length, and of the way in which they are read. -/
structure Reliable (length : Nat) (parse : String → Except DomainError (Gs1Number length)) :
    Prop where
  isValid_iff : ∀ s, isValid length s = true ↔ Checked length s.toList
  parse_isOk_iff : ∀ s, (∃ n, parse s = .ok n) ↔ isValid length (Text.trim s) = true
  text_of_parse : ∀ s n, parse s = .ok n → n.text = Text.trim s
  parse_text : ∀ n, parse n.text = .ok n
  /-- A digit in place of another one is noticed, as is anything else in its place. -/
  changed : ∀ before after c c', isValid length (.ofList (before ++ c :: after)) = true → c' ≠ c →
    isValid length (.ofList (before ++ c' :: after)) = false
  swapped : ∀ before after a b, isValid length (.ofList (before ++ a :: b :: after)) = true →
    a ≠ b → (isValid length (.ofList (before ++ b :: a :: after)) = true
      ↔ a.toNat = b.toNat + 5 ∨ b.toNat = a.toNat + 5)
  completed : ∀ body : List Char, body.length + 1 = length → (∀ c ∈ body, c.isDigit = true) →
    ∃! c, isValid length (.ofList (body ++ [c])) = true

theorem reliable_parse (type : String) (positive : 0 < length) :
    Reliable length (Gs1Number.parse type length) := by
  have checked (cs : List Char) : isValid length (.ofList cs) = true ↔ Checked length cs := by
    rw [isValid_iff_checked positive, String.toList_ofList]
  refine ⟨fun s => isValid_iff_checked positive, fun s => ?_, fun s n read => ?_, fun n => ?_,
    fun before after c c' valid unlike => ?_, fun before after a b valid unlike => ?_,
    fun body length_eq digits => ?_⟩
  · exact ⟨fun ⟨n, read⟩ => (parse_ok_iff.mp read).1,
      fun valid => ⟨⟨Text.trim s, valid⟩, parse_ok_iff.mpr ⟨valid, rfl⟩⟩⟩
  · exact (parse_ok_iff.mp read).2
  · rw [parse_ok_iff, trim_of_isValid n.isValid]
    exact ⟨n.isValid, rfl⟩
  · rw [← Bool.not_eq_true, checked]
    exact fun valid' => unlike (eq_of_checked valid' ((checked _).mp valid))
  · rw [checked] at valid ⊢
    exact checked_swap_iff valid unlike
  · simp only [checked]
    obtain ⟨c, valid⟩ := exists_checked digits length_eq
    exact ⟨c, valid, fun c' valid' => eq_of_checked valid' valid⟩

end Gs1

/-- The numbers of accounting points and of market participants are told by their check digit. -/
theorem gs1_numbers_reliable : Gs1.Reliable 18 Gsrn.parse ∧ Gs1.Reliable 13 GlnNumber.parse :=
  ⟨Gs1.reliable_parse "Gsrn" (by decide), Gs1.reliable_parse "GlnNumber" (by decide)⟩

end SupplierSwitch
