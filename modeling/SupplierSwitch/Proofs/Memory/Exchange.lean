import SupplierSwitch.Proofs.Memory.Lookup
import Mathlib.Data.List.Forall2
import Mathlib.Data.Option.Defs

namespace SupplierSwitch

namespace Tables

/-!
# Writes that change places

A table is written one element at a time, each under its key. Under keys that are there already, in
whatever places, the order of writes does not matter as long as the keys are different. And writes
that are alike leave lists that are alike.

* `Tables.foldl_overwrite_comm` — two series of writes under different keys;
* `Tables.forall₂_foldl_overwrite` — two series of writes that are alike.
-/

section Keyed

variable {α κ : Type} [DecidableEq κ] (key : α → κ)

/-! ### Different keys -/

theorem put_comm {a b : α} (other : key a ≠ key b) {l : List α} (ha : key a ∈ l.map key)
    (hb : key b ∈ l.map key) :
    put (fun c => decide (key c = key b)) b (put (fun c => decide (key c = key a)) a l)
      = put (fun c => decide (key c = key a)) a (put (fun c => decide (key c = key b)) b l) := by
  induction l with
  | nil => cases ha
  | cons c rest ih =>
    by_cases hca : key c = key a
    · simp [put, hca, other]
    · by_cases hcb : key c = key b
      · simp [put, hcb, other.symm]
      · have ha : key a ∈ rest.map key := (List.mem_cons.mp ha).resolve_left (Ne.symm hca)
        have hb : key b ∈ rest.map key := (List.mem_cons.mp hb).resolve_left (Ne.symm hcb)
        simp [put, hca, hcb, ih ha hb]

variable {stamp : Option α → α → α} (hstamp : ∀ old a, key (stamp old a) = key a)

include hstamp in
/-- What is written under a key that is there already takes no new place. -/
theorem map_overwrite {l : List α} {a : α} (ha : key a ∈ l.map key) :
    (overwrite key stamp l a).map key = l.map key := by
  have keys := map_put key (stamp (under key (key a) l) a) l
  rw [hstamp, if_pos ha] at keys
  exact keys

include hstamp in
theorem map_foldl_overwrite {l writes : List α} (there : ∀ a ∈ writes, key a ∈ l.map key) :
    (writes.foldl (overwrite key stamp) l).map key = l.map key := by
  induction writes generalizing l with
  | nil => rfl
  | cons a rest ih =>
    obtain ⟨ha, there⟩ := List.forall_mem_cons.mp there
    have keys := map_overwrite key hstamp ha
    exact (ih fun b mem => keys ▸ there b mem).trans keys

include hstamp in
theorem overwrite_comm {l : List α} {a b : α} (other : key a ≠ key b) (ha : key a ∈ l.map key)
    (hb : key b ∈ l.map key) :
    overwrite key stamp (overwrite key stamp l a) b
      = overwrite key stamp (overwrite key stamp l b) a := by
  -- Neither write changes what the other is stamped by.
  have stamped (a b : α) (other : key a ≠ key b) :
      overwrite key stamp (overwrite key stamp l a) b
        = put (fun c => decide (key c = key b)) (stamp (under key (key b) l) b)
          (overwrite key stamp l a) := by
    rw [overwrite, under_overwrite key hstamp, if_neg other]
  have exchanged := @put_comm α κ _ key (stamp (under key (key a) l) a)
    (stamp (under key (key b) l) b) (by rwa [hstamp, hstamp]) l (by rwa [hstamp]) (by rwa [hstamp])
  rw [hstamp, hstamp] at exchanged
  rw [stamped a b other, stamped b a other.symm]
  exact exchanged

include hstamp in
/-- One write is moved behind a series of others. -/
theorem foldl_overwrite_move {l writes : List α} {a : α} (others : ∀ b ∈ writes, key a ≠ key b)
    (ha : key a ∈ l.map key) (there : ∀ b ∈ writes, key b ∈ l.map key) :
    writes.foldl (overwrite key stamp) (overwrite key stamp l a)
      = overwrite key stamp (writes.foldl (overwrite key stamp) l) a := by
  induction writes generalizing l with
  | nil => rfl
  | cons b rest ih =>
    obtain ⟨other, others⟩ := List.forall_mem_cons.mp others
    obtain ⟨hb, there⟩ := List.forall_mem_cons.mp there
    have keys := map_overwrite key hstamp hb
    rw [List.foldl_cons, List.foldl_cons, overwrite_comm key hstamp other ha hb]
    exact ih others (keys ▸ ha) fun c mem => keys ▸ there c mem

include hstamp in
theorem foldl_overwrite_comm {l writes writes' : List α}
    (others : ∀ a ∈ writes, ∀ b ∈ writes', key a ≠ key b) (there : ∀ a ∈ writes, key a ∈ l.map key)
    (there' : ∀ b ∈ writes', key b ∈ l.map key) :
    writes'.foldl (overwrite key stamp) (writes.foldl (overwrite key stamp) l)
      = writes.foldl (overwrite key stamp) (writes'.foldl (overwrite key stamp) l) := by
  induction writes generalizing l with
  | nil => rfl
  | cons a rest ih =>
    obtain ⟨other, others⟩ := List.forall_mem_cons.mp others
    obtain ⟨ha, there⟩ := List.forall_mem_cons.mp there
    have keys := map_overwrite key hstamp ha
    rw [List.foldl_cons, List.foldl_cons, ← foldl_overwrite_move key hstamp other ha there']
    exact ih others (fun c mem => keys ▸ there c mem) fun c mem => keys ▸ there' c mem

/-! ### Writes that are alike -/

variable {R : α → α → Prop} (keys : ∀ {a b}, R a b → key a = key b)

include keys in
theorem rel_under {l l' : List α} (h : List.Forall₂ R l l') (k : κ) :
    Option.Rel R (under key k l) (under key k l') := by
  induction h with
  | nil => exact .none
  | @cons a b rest rest' same _ ih =>
    have key_eq := keys same
    by_cases here : key a = k
    · simpa [under, here, key_eq ▸ here] using Option.Rel.some same
    · simpa [under, here, key_eq ▸ here] using ih

include keys in
theorem forall₂_put {a b : α} (same : R a b) {l l' : List α} (h : List.Forall₂ R l l') (k : κ) :
    List.Forall₂ R (put (fun c => decide (key c = k)) a l)
      (put (fun c => decide (key c = k)) b l') := by
  induction h with
  | nil => exact .cons same .nil
  | @cons c d rest rest' alike more ih =>
    have key_eq := keys alike
    by_cases here : key c = k
    · simpa [put, here, key_eq ▸ here] using ⟨same, more⟩
    · simpa [put, here, key_eq ▸ here] using ⟨alike, ih⟩

include keys in
theorem forall₂_foldl_overwrite
    (stamps : ∀ {old old' a b}, Option.Rel R old old' → R a b → R (stamp old a) (stamp old' b))
    {l l' writes writes' : List α} (h : List.Forall₂ R l l')
    (written : List.Forall₂ R writes writes') :
    List.Forall₂ R (writes.foldl (overwrite key stamp) l)
      (writes'.foldl (overwrite key stamp) l') := by
  induction written generalizing l l' with
  | nil => exact h
  | @cons a b rest rest' same _ ih =>
    refine ih ?_
    rw [overwrite, overwrite, ← keys same]
    exact forall₂_put key keys (stamps (rel_under key keys h _) same) h _

end Keyed

end Tables

end SupplierSwitch
