import SupplierSwitch.Calendar.Timestamp

namespace SupplierSwitch

/-!
# Later instants

The instant after a delay is computed from seconds and nanoseconds, and the calendar ends. What it
is to be so long after an instant is said here by the clock, and the computed instant is the one of
which this holds, or the last of the calendar if there is none.

* `Timestamp.After` — an instant is so long after another one;
* `Timestamp.Due` — the same, as far as the calendar goes;
* `Timestamp.offsetBy_eq_iff` — the computed instant is the one that is due;
* `Timestamp.Due.mono`, `Timestamp.Due.le`, `Timestamp.Due.le_greatest` — the order of what is due,
  after every instant that the last one of the calendar bounds. A leap second after the last second
  of the calendar is the only time that it does not bound.
-/

namespace Timestamp

/-- The instant lies in a leap second. -/
def IsLeap (t : Timestamp) : Prop :=
  Duration.nanosPerSecond ≤ t.nano

/-- What the clock shows, in nanoseconds from the start of 1970. In a leap second it shows the
    second before once more. -/
def clock (t : Timestamp) : Int :=
  t.second * Duration.nanosPerSecond + (t.nano % Duration.nanosPerSecond : Nat)

/-- `later` is so many nanoseconds after `t`. The only leap second that is known of is the one in
    which `t` may lie. -/
inductive After (t : Timestamp) (delay : Nat) (later : Timestamp) : Prop where
  /-- The leap second has not run out. -/
  | within (leap : t.IsLeap) (same : later.second = t.second)
      (passed : later.nano = t.nano + delay)
  | beyond (ordinary : ¬ later.IsLeap) (left : t.IsLeap → t.second < later.second)
      (passed : later.clock = t.clock + delay)

/-- `due` is so long after `t`, or the last instant of the calendar if the calendar has none that is
    so long after `t`. -/
def Due (t : Timestamp) (delay : Duration) (due : Timestamp) : Prop :=
  t.After delay.nanos due ∨ (∀ later, ¬ t.After delay.nanos later) ∧ due = greatest

variable {t u v : Timestamp} {a b : Nat} {delay longer : Duration}

/-! ### Being so long after an instant -/

theorem ofParts?_eq_some_iff {second : Int} {nano : Nat} :
    ofParts? second nano = some t ↔ (second, nano) = (t.second, t.nano) := by
  obtain ⟨second', nano', first, last, small⟩ := t
  unfold ofParts?
  split
  · simp
  · rename_i outside
    simp only [reduceCtorEq, Prod.mk.injEq, false_iff]
    rintro ⟨rfl, rfl⟩
    exact outside ⟨⟨first, last⟩, small⟩

/-- The arithmetic on seconds and nanoseconds follows the clock. -/
theorem after_iff : t.After a u ↔ shifted t.second t.nano a = (u.second, u.nano) := by
  have start := t.nano_lt
  have small := u.nano_lt
  unfold shifted
  constructor
  · intro after
    cases after with
    | within leap same passed =>
      unfold IsLeap Duration.nanosPerSecond at leap
      rw [if_pos leap, if_pos (by omega), same, passed]
    | beyond ordinary left passed =>
      unfold IsLeap Duration.nanosPerSecond at ordinary left
      unfold clock Duration.nanosPerSecond at passed
      split
      · rename_i leap
        have later := left leap
        rw [if_neg (by omega)]
        ext <;> simp only <;> omega
      · ext <;> simp only <;> omega
  · intro computed
    split at computed
    · rename_i leap
      split at computed
      · obtain ⟨same, passed⟩ := Prod.ext_iff.mp computed
        exact .within leap same.symm passed.symm
      · obtain ⟨second, nano⟩ := Prod.ext_iff.mp computed
        simp only at second nano
        refine .beyond ?_ (fun _ => ?_) ?_
        · unfold IsLeap Duration.nanosPerSecond
          omega
        · omega
        · unfold clock Duration.nanosPerSecond
          omega
    · rename_i ordinary
      obtain ⟨second, nano⟩ := Prod.ext_iff.mp computed
      simp only at second nano
      refine .beyond ?_ (fun leap => absurd leap ordinary) ?_
      · unfold IsLeap Duration.nanosPerSecond
        omega
      · unfold clock Duration.nanosPerSecond
        omega

theorem after_iff_ofParts? : t.After a u ↔
    ofParts? (shifted t.second t.nano a).1 (shifted t.second t.nano a).2 = some u := by
  rw [after_iff, ofParts?_eq_some_iff]

/-- There is at most one such instant. -/
theorem After.unique (h : t.After a u) (h' : t.After a v) : u = v := by
  rw [after_iff_ofParts?] at h h'
  exact Option.some.inj (h.symm.trans h')

/-- What is computed is what is due. -/
theorem offsetBy_eq_iff : t.offsetBy delay = u ↔ t.Due delay u := by
  show (ofParts? (shifted t.second t.nano delay.nanos).1
    (shifted t.second t.nano delay.nanos).2).getD greatest = u ↔ _
  unfold Due
  simp only [after_iff_ofParts?]
  cases ofParts? (shifted t.second t.nano delay.nanos).1
      (shifted t.second t.nano delay.nanos).2 with
  | some later => simp
  | none => simp [eq_comm]

theorem due_offsetBy (t : Timestamp) (delay : Duration) : t.Due delay (t.offsetBy delay) :=
  offsetBy_eq_iff.mp rfl

/-! ### The end of the calendar -/

theorem le_iff : t ≤ u ↔ t.second < u.second ∨ t.second = u.second ∧ t.nano ≤ u.nano := by
  have small := t.nano_lt
  have small' := u.nano_lt
  show t.rank ≤ u.rank ↔ _
  unfold rank
  omega

/-- No leap second but one is after the last instant. -/
theorem le_greatest_iff : t ≤ greatest ↔ (t.IsLeap → t.second < lastSecond) := by
  have last := t.second_le_last
  rw [le_iff]
  unfold IsLeap Duration.nanosPerSecond greatest
  show t.second < lastSecond ∨ t.second = lastSecond ∧ t.nano ≤ 999999999 ↔ _
  omega

theorem After.le_greatest (h : t.After a u) (before : t ≤ greatest) : u ≤ greatest := by
  rw [le_greatest_iff] at before ⊢
  cases h with
  | within leap same passed =>
    intro _
    rw [same]
    exact before leap
  | beyond ordinary left passed =>
    intro leap
    exact absurd leap ordinary

theorem second_le_shifted (second : Int) (nano : Nat) : second ≤ (shifted second nano a).1 := by
  unfold shifted
  split
  · split <;> simp only <;> omega
  · simp only
    omega

theorem shifted_nano_lt (second : Int) (nano : Nat) : (shifted second nano a).2 < 2000000000 := by
  unfold shifted
  split
  · split <;> simp only <;> omega
  · simp only
    omega

theorem shifted_second_mono (second : Int) (nano : Nat) (le : a ≤ b) :
    (shifted second nano a).1 ≤ (shifted second nano b).1 := by
  unfold shifted
  by_cases leap : 1000000000 ≤ nano
  · rw [if_pos leap, if_pos leap]
    by_cases within : nano + b < 2000000000
    · have sooner : nano + a < 2000000000 := Nat.lt_of_le_of_lt (Nat.add_le_add_left le nano) within
      simp only [if_pos within, if_pos sooner, Int.le_refl]
    · rw [if_neg within]
      split <;> simp only <;> omega
  · rw [if_neg leap, if_neg leap]
    simp only
    omega

/-- A shorter delay is within the calendar if a longer one is. -/
theorem After.shorter (h : t.After b u) (le : a ≤ b) : ∃ sooner, t.After a sooner := by
  have first : firstSecond ≤ (shifted t.second t.nano a).1 :=
    Int.le_trans t.first_le_second (second_le_shifted t.second t.nano)
  have last : (shifted t.second t.nano a).1 ≤ lastSecond := by
    have later := shifted_second_mono t.second t.nano le
    rw [after_iff.mp h] at later
    exact Int.le_trans later u.second_le_last
  exact ⟨⟨_, _, first, last, shifted_nano_lt t.second t.nano⟩, after_iff.mpr rfl⟩

/-! ### The order of what is due -/

/-- After no time at all it is as late as before. -/
theorem after_zero : t.After 0 t := by
  by_cases leap : t.IsLeap
  · exact .within leap rfl rfl
  · exact .beyond leap (fun isLeap => absurd isLeap leap) (Int.add_zero _).symm

theorem After.mono (h : t.After a u) (h' : t.After b v) (le : a ≤ b) : u ≤ v := by
  have start := t.nano_lt
  have small := u.nano_lt
  rw [le_iff]
  cases h with
  | within leap same passed =>
    cases h' with
    | within _ same' passed' => omega
    | beyond _ left' _ =>
      have later := left' leap
      omega
  | beyond ordinary left passed =>
    unfold clock Duration.nanosPerSecond at passed
    cases h' with
    | within leap same' passed' =>
      -- Within the leap second less time has passed than it takes to leave it.
      have later := left leap
      have small' := v.nano_lt
      unfold IsLeap Duration.nanosPerSecond at leap ordinary
      omega
    | beyond ordinary' _ passed' =>
      unfold IsLeap Duration.nanosPerSecond at ordinary ordinary'
      unfold clock Duration.nanosPerSecond at passed'
      omega

theorem Due.le_greatest (h : t.Due delay u) (before : t ≤ greatest) : u ≤ greatest := by
  obtain after | ⟨-, rfl⟩ := h
  · exact after.le_greatest before
  · exact Int.le_refl _

/-- What is due after a longer delay is no sooner. -/
theorem Due.mono (h : t.Due delay u) (h' : t.Due longer v) (before : t ≤ greatest)
    (le : delay ≤ longer) : u ≤ v := by
  obtain after' | ⟨-, rfl⟩ := h'
  · obtain after | ⟨unreached, -⟩ := h
    · exact after.mono after' le
    · obtain ⟨sooner, after⟩ := after'.shorter le
      exact absurd after (unreached sooner)
  · exact h.le_greatest before

theorem Due.le (h : t.Due delay u) (before : t ≤ greatest) : t ≤ u := by
  have now : t.Due .zero t := .inl after_zero
  exact now.mono h before (Nat.zero_le _)

end Timestamp

end SupplierSwitch
