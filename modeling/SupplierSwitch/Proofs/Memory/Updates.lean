import SupplierSwitch.Proofs.Memory.Aggregates

namespace SupplierSwitch

namespace Memory

open Tables

/-!
# No lost updates

A unit of work reads what is committed at that moment, changes it, and commits it later; meanwhile
others may commit, before and after the unit has saved its change. The version that a save expects
is checked once when the unit saves and once more at its commit. As versions are never used twice,
the second check finds the very snapshot that the unit has read.

* `AggregateSort.deeds`, `AggregateSort.Disciplined` — what a unit has done, and that it has read
  what it saves;
* `AggregateSort.Account` — what is known of an open unit and one aggregate, kept by every call;
* `AggregateSort.Follows` — one snapshot computed from another;
* `no_lost_updates` — what follows for whole histories.
-/

/-! ### What a unit has done -/

namespace AggregateSort

variable {α : Type} (sort : AggregateSort α)

/-- What unit `n` does by a call. -/
def deedOf? (n : Nat) : Event → Option (Deed α)
  | .asked m call answer => if m = n then sort.deed? call answer else none
  | _ => none

/-- What unit `n` has done, after one more call. -/
def deedsAfter (n : Nat) (deeds : List (Deed α)) : Event → List (Deed α)
  | .began m => if m = n then [] else deeds
  | e => deeds ++ (sort.deedOf? n e).toList

/-- What unit `n` has done to aggregates of the sort since it last began. -/
def deeds (n : Nat) (log : List Event) : List (Deed α) :=
  log.foldl (sort.deedsAfter n) []

theorem deeds_append_singleton (n : Nat) (log : List Event) (e : Event) :
    sort.deeds n (log ++ [e]) = sort.deedsAfter n (sort.deeds n log) e := by
  rw [deeds, List.foldl_append]
  rfl

/-- The domain has made the second aggregate of the first. -/
def Derived : α → α → Prop :=
  Relation.ReflTransGen sort.Changes

/-- What a saved aggregate was made of: one that the unit has read, or one that was new. -/
def Basis (deeds : List (Deed α)) (a : α) : Option α → Prop
  | some base => .read base ∈ deeds ∧ sort.Derived base a
  | none => ∃ first, sort.Begins first ∧ sort.Derived first a

/-- Whatever the unit has saved, it had read, or it was new; it was changed by the domain only, and
    saved over its own version. -/
def Grounded (deeds : List (Deed α)) : Prop :=
  ∀ early a expected late, deeds = early ++ .save a expected :: late →
    expected = .exact (sort.version a) ∧ ∃ base, sort.Basis early a base

/-- The unit has staged nothing under the key. -/
def Untouched (k : sort.Key) (deeds : List (Deed α)) : Prop :=
  ∀ deed ∈ deeds, ∀ a, deed.staged? = some a → sort.key a ≠ k

variable {sort} {k : sort.Key} {a b : α} {deeds : List (Deed α)} {deed : Deed α}

theorem key_of_derived (h : sort.Derived a b) : sort.key b = sort.key a := by
  induction h with
  | refl => rfl
  | tail _ changes ih => exact (sort.key_of_changes changes).trans ih

theorem version_of_derived (h : sort.Derived a b) : sort.version b = sort.version a := by
  induction h with
  | refl => rfl
  | tail _ changes ih => exact (sort.version_of_changes changes).trans ih

/-- A split of a longer list is a split of the list, or splits off the last element. -/
theorem append_singleton_eq {early late : List (Deed α)} {last x : Deed α}
    (h : deeds ++ [last] = early ++ x :: late) :
    (deeds = early ∧ last = x ∧ late = []) ∨
      ∃ late', late = late' ++ [last] ∧ deeds = early ++ x :: late' := by
  obtain rfl | ⟨late', y, rfl⟩ := List.eq_nil_or_concat late
  · obtain ⟨same, equal⟩ := List.append_inj' h rfl
    exact .inl ⟨same, List.singleton_inj.mp equal, rfl⟩
  · rw [List.concat_eq_append, ← List.cons_append, ← List.append_assoc] at h
    obtain ⟨same, equal⟩ := List.append_inj' h rfl
    rw [List.singleton_inj.mp equal, List.concat_eq_append]
    exact .inr ⟨late', rfl, same⟩

theorem Grounded.init (h : sort.Grounded (deeds ++ [deed])) : sort.Grounded deeds := by
  rintro early a expected late rfl
  exact h early a expected (late ++ [deed]) (by simp)

theorem Untouched.init (h : sort.Untouched k (deeds ++ [deed])) : sort.Untouched k deeds :=
  fun other mem => h other (List.mem_append_left _ mem)

/-! ### What is known of an open unit -/

variable {committed committed' : Option α} {staged staged' : Option (α × TransactionWrite)}

variable (sort) in
/-- The snapshot is committed, or a higher version is. -/
def Seen (committed : Option α) (a : α) : Prop :=
  ∃ later, committed = some later ∧ (later = a ∨ sort.version a < sort.version later)

variable (sort) in
/-- The aggregate was made of a snapshot that was committed once, or of nothing. -/
def Origin (committed : Option α) (a : α) : Prop :=
  (∃ first, sort.Begins first ∧ sort.Derived first a) ∨
    ∃ base, sort.Seen committed base ∧ sort.Derived base a

variable (sort) in
/-- Committed snapshots are only replaced by higher versions. -/
def Later (committed committed' : Option α) : Prop :=
  ∀ a, committed = some a → sort.Seen committed' a

theorem Seen.later (h : sort.Seen committed a) (later : sort.Later committed committed') :
    sort.Seen committed' a := by
  obtain ⟨between, found, old⟩ := h
  obtain ⟨last, found', new⟩ := later between found
  refine ⟨last, found', ?_⟩
  rcases old with rfl | old
  · exact new
  · rcases new with rfl | new
    · exact .inr old
    · exact .inr (Nat.lt_trans old new)

theorem Origin.later (h : sort.Origin committed a) (later : sort.Later committed committed') :
    sort.Origin committed' a := by
  rcases h with begun | ⟨base, seen, derived⟩
  · exact .inl begun
  · exact .inr ⟨base, seen.later later, derived⟩

theorem Origin.derived (h : sort.Origin committed a) (derived : sort.Derived a b) :
    sort.Origin committed b := by
  rcases h with ⟨first, begins, derived'⟩ | ⟨base, seen, derived'⟩
  · exact .inl ⟨first, begins, derived'.trans derived⟩
  · exact .inr ⟨base, seen, derived'.trans derived⟩

/-- A snapshot that was seen and whose version is still committed is what is committed. -/
theorem Seen.current (h : sort.Seen committed a)
    (guard : sort.version a = (committed.map sort.version).getD 0) : committed = some a := by
  obtain ⟨later, rfl, rfl | newer⟩ := h
  · rfl
  · exact absurd guard (Nat.ne_of_lt newer)

variable (sort) in
/-- What is known of an open unit and one aggregate: what the unit has done, the committed snapshot,
    and what the unit has staged. -/
structure Account (k : sort.Key) (deeds : List (Deed α)) (committed : Option α)
    (staged : Option (α × TransactionWrite)) : Prop where
  /-- As long as the unit has staged nothing, it has read what was committed. -/
  unstaged : sort.Untouched k deeds →
    staged = none ∧ ∀ a, .read a ∈ deeds → sort.key a = k → sort.Seen committed a
  /-- The guard of the first save stays, whatever is saved afterwards. -/
  guarded : ∀ early a expected late, deeds = early ++ .save a expected :: late → sort.key a = k →
    sort.Untouched k early → (∃ last, staged = some (last, .update expected)) ∧
      ∀ b, .read b ∈ early → sort.key b = k → sort.Seen committed b
  /-- Whatever such a unit has read or staged was made of committed snapshots. -/
  read : sort.Grounded deeds → ∀ a, .read a ∈ deeds → sort.key a = k → sort.Origin committed a
  staged : sort.Grounded deeds → ∀ a write, staged = some (a, write) →
    sort.Origin committed a ∧ (write = .insert ∨ write = .update (.exact (sort.version a)))

namespace Account

/-- A unit that has just begun. -/
theorem nil : sort.Account k [] committed none where
  unstaged _ := ⟨rfl, nofun⟩
  guarded early a expected late split := by
    have length := congrArg List.length split
    simp at length
  read _ _ mem := by cases mem
  staged _ _ _ found := by cases found

theorem later (h : sort.Account k deeds committed staged)
    (later : sort.Later committed committed') : sort.Account k deeds committed' staged where
  unstaged untouched := by
    obtain ⟨none, seen⟩ := h.unstaged untouched
    exact ⟨none, fun a mem same => (seen a mem same).later later⟩
  guarded early a expected late split same first := by
    obtain ⟨last, seen⟩ := h.guarded early a expected late split same first
    exact ⟨last, fun b mem same => (seen b mem same).later later⟩
  read grounded a mem same := (h.read grounded a mem same).later later
  staged grounded a write found := by
    obtain ⟨origin, guard⟩ := h.staged grounded a write found
    exact ⟨origin.later later, guard⟩

/-- What the unit does with other aggregates is no matter. -/
theorem elsewhere (h : sort.Account k deeds committed staged)
    (other : sort.key deed.aggregate ≠ k) : sort.Account k (deeds ++ [deed]) committed staged where
  unstaged untouched := by
    obtain ⟨none, seen⟩ := h.unstaged untouched.init
    refine ⟨none, fun a mem same => ?_⟩
    rcases List.mem_append.mp mem with mem | mem
    · exact seen a mem same
    · cases List.mem_singleton.mp mem
      exact absurd same other
  guarded early a expected late split same first := by
    rcases append_singleton_eq split with ⟨-, rfl, -⟩ | ⟨late', -, split'⟩
    · exact absurd same other
    · exact h.guarded early a expected late' split' same first
  read grounded a mem same := by
    rcases List.mem_append.mp mem with mem | mem
    · exact h.read grounded.init a mem same
    · cases List.mem_singleton.mp mem
      exact absurd same other
  staged grounded := h.staged grounded.init

/-- What the unit reads was committed before, or it was staged. -/
theorem afterRead (h : sort.Account k deeds committed staged)
    (found : (staged.map Prod.fst).or committed = some a) :
    sort.Account k (deeds ++ [.read a]) committed staged where
  unstaged untouched := by
    obtain ⟨rfl, seen⟩ := h.unstaged untouched.init
    refine ⟨rfl, fun b mem same => ?_⟩
    rcases List.mem_append.mp mem with mem | mem
    · exact seen b mem same
    · cases List.mem_singleton.mp mem
      exact ⟨a, found, .inl rfl⟩
  guarded early b expected late split same first := by
    rcases append_singleton_eq split with ⟨-, equal, -⟩ | ⟨late', -, split'⟩
    · cases equal
    · exact h.guarded early b expected late' split' same first
  read grounded b mem same := by
    rcases List.mem_append.mp mem with mem | mem
    · exact h.read grounded.init b mem same
    · cases List.mem_singleton.mp mem
      rcases Option.or_eq_some_iff.mp found with own | ⟨-, rfl⟩
      · obtain ⟨⟨_, write⟩, here, rfl⟩ := Option.map_eq_some_iff.mp own
        exact (h.staged grounded.init _ write here).1
      · exact .inr ⟨a, ⟨a, rfl, .inl rfl⟩, .refl⟩
  staged grounded := h.staged grounded.init

/-- A saved aggregate was made of what its basis was made of. -/
theorem origin_of_save {expected : ExpectedVersion} (h : sort.Account k deeds committed staged)
    (grounded : sort.Grounded (deeds ++ [.save a expected])) (same : sort.key a = k) :
    expected = .exact (sort.version a) ∧ sort.Origin committed a := by
  obtain ⟨guard, base, basis⟩ := grounded deeds a expected [] rfl
  refine ⟨guard, ?_⟩
  cases base with
  | none => exact .inl basis
  | some base =>
    obtain ⟨mem, derived⟩ := basis
    have key : sort.key base = k := (key_of_derived derived).symm.trans same
    exact (h.read grounded.init base mem key).derived derived

/-- The first save is staged under its guard. -/
theorem afterSave {expected : ExpectedVersion} (h : sort.Account k deeds committed none)
    (same : sort.key a = k) :
    sort.Account k (deeds ++ [.save a expected]) committed (some (a, .update expected)) where
  unstaged untouched := absurd same (untouched _ (List.mem_append_right _ (.head _)) a rfl)
  guarded early b expected' late split same' first := by
    rcases append_singleton_eq split with ⟨rfl, equal, -⟩ | ⟨late', -, split'⟩
    · cases equal
      exact ⟨⟨a, rfl⟩, (h.unstaged first).2⟩
    -- It is the first one, as nothing has been staged.
    · obtain ⟨⟨last, staged⟩, -⟩ := h.guarded early b expected' late' split' same' first
      cases staged
  read grounded b mem same' := by
    rcases List.mem_append.mp mem with mem | mem
    · exact h.read grounded.init b mem same'
    · cases List.mem_singleton.mp mem
  staged grounded b write found := by
    cases found
    obtain ⟨rfl, origin⟩ := h.origin_of_save grounded same
    exact ⟨origin, .inr rfl⟩

/-- A later save takes the place of what is staged and keeps its guard. -/
theorem afterRestage {old : α} {write : TransactionWrite} {expected : ExpectedVersion}
    (h : sort.Account k deeds committed (some (old, write))) (same : sort.key a = k)
    (matched : expected.Matches (sort.version old)) :
    sort.Account k (deeds ++ [.save a expected]) committed (some (a, write)) where
  unstaged untouched := absurd same (untouched _ (List.mem_append_right _ (.head _)) a rfl)
  guarded early b expected' late split same' first := by
    rcases append_singleton_eq split with ⟨rfl, -, -⟩ | ⟨late', -, split'⟩
    · cases (h.unstaged first).1
    · obtain ⟨⟨last, staged⟩, seen⟩ := h.guarded early b expected' late' split' same' first
      cases staged
      exact ⟨⟨a, rfl⟩, seen⟩
  read grounded b mem same' := by
    rcases List.mem_append.mp mem with mem | mem
    · exact h.read grounded.init b mem same'
    · cases List.mem_singleton.mp mem
  staged grounded b write found := by
    cases found
    obtain ⟨rfl, origin⟩ := h.origin_of_save grounded same
    refine ⟨origin, ?_⟩
    -- The unit expects its own version, so that it is the version under the guard.
    obtain ⟨-, insert | update⟩ := h.staged grounded.init old write rfl
    · exact .inl insert
    · rw [update, show sort.version a = sort.version old from matched]
      exact .inr rfl

/-- What the unit adds is new. -/
theorem afterAdd (h : sort.Account k deeds committed none) (same : sort.key a = k)
    (begins : sort.Begins (sort.stamp 0 a)) :
    sort.Account k (deeds ++ [.add a]) committed (some (sort.stamp 0 a, .insert)) where
  unstaged untouched := absurd same (untouched _ (List.mem_append_right _ (.head _)) a rfl)
  guarded early b expected late split same' first := by
    rcases append_singleton_eq split with ⟨-, equal, -⟩ | ⟨late', -, split'⟩
    · cases equal
    · obtain ⟨⟨last, staged⟩, -⟩ := h.guarded early b expected late' split' same' first
      cases staged
  read grounded b mem same' := by
    rcases List.mem_append.mp mem with mem | mem
    · exact h.read grounded.init b mem same'
    · cases List.mem_singleton.mp mem
  staged grounded b write found := by
    cases found
    exact ⟨.inl ⟨_, begins, .refl⟩, .inl rfl⟩

/-- Whatever the unit is asked, its account goes on. -/
theorem turn {deed? : Option (Deed α)} (h : sort.Account k deeds committed staged)
    (turn : Turn sort.key sort.version sort.stamp k committed deed? staged staged')
    (begins : ∀ a, deed? = some (.add a) → sort.Begins (sort.stamp 0 a)) :
    sort.Account k (deeds ++ deed?.toList) committed staged' := by
  cases turn with
  | elsewhere other =>
    cases deed? with
    | none => rwa [Option.toList_none, List.append_nil]
    | some deed => exact h.elsewhere (other deed rfl)
  | read same found => exact h.afterRead found
  | save same => exact h.afterSave same
  | restage same matched => exact h.afterRestage same matched
  | add same => exact h.afterAdd same (begins _ rfl)

end Account

/-! ### What a call does to units and aggregates -/

theorem deedsAfter_began (n : Nat) : sort.deedsAfter n deeds (.began n) = [] :=
  if_pos rfl

theorem deedsAfter_asked (n : Nat) (call : UnitCall) (answer : call.Answer) :
    sort.deedsAfter n deeds (.asked n call answer)
      = deeds ++ (sort.deed? call answer).toList := by
  rw [deedsAfter, deedOf?, if_pos rfl]
  exact nofun

theorem deedsAfter_of_other {n : Nat} {e : Event} (begins : e ≠ .began n)
    (asks : ∀ call answer, e ≠ .asked n call answer) : sort.deedsAfter n deeds e = deeds := by
  cases e with
  | began m =>
    rw [deedsAfter, if_neg]
    rintro rfl
    exact begins rfl
  | asked m call answer =>
    have other : m ≠ n := by
      rintro rfl
      exact asks call answer rfl
    show deeds ++ (if m = n then sort.deed? call answer else none).toList = deeds
    rw [if_neg other, Option.toList_none, List.append_nil]
  | _ => exact List.append_nil deeds

end AggregateSort

variable {s s' : Shared} {e : Event} {n : Nat} {c : ChangeSet} {log : List Event}

namespace AggregateSort

variable {α : Type} {sort : AggregateSort α} {k : sort.Key} {deeds : List (Deed α)}

/-- An aggregate changes with a successful commit only. -/
theorem committed_cases (tidy : s.Tidy) (h : Step s e s') (k : sort.Key) :
    sort.committed s'.tables k = sort.committed s.tables k ∨
      ∃ n c now, e = .committed n c now (.ok ()) ∧ s.units n = some c ∧ s.tables.Admits c ∧
        s.tables.Receives c now s'.tables := by
  rcases h.effect.written with same | ⟨n, c, now, rfl, admits, same⟩ | ⟨id, change, -, same⟩
  · rw [same]
    exact .inl rfl
  · rw [same]
    exact .inr ⟨n, c, now, rfl, h.isOpen, admits, receives_apply (tidy n c h.isOpen) admits now⟩
  · rw [same]
    exact .inl (sort.committed_updateRow _ _ _ k)

theorem later_of_step (tidy : s.Tidy) (keyed : s.tables.Keyed) (h : Step s e s') (k : sort.Key) :
    sort.Later (sort.committed s.tables k) (sort.committed s'.tables k) :=
  fun _ found => sort.later (h.evolves tidy keyed) found

/-- Every committed version is at least one. -/
theorem version_pos (history : Run .empty log s) {k : sort.Key} {a : α}
    (found : sort.committed s.tables k = some a) : 0 < sort.version a := by
  have all : ∀ k a, sort.committed s.tables k = some a → 0 < sort.version a := by
    refine Run.snoc_induction
      (P := fun _ s => ∀ k a, sort.committed s.tables k = some a → 0 < sort.version a) ?_ ?_ history
    · intro k a found
      rw [show Shared.empty.tables = Tables.empty from rfl, sort.committed_empty] at found
      cases found
    · intro log s e s' history step positive k a found
      rcases committed_cases history.tidy step k with same | ⟨n, c, now, -, isOpen, -, receives⟩
      · rw [same] at found
        exact positive k a found
      · rw [sort.written (history.tidy n c isOpen) receives] at found
        split at found
        · cases found
          rw [sort.version_stamp]
          exact Nat.succ_pos _
        · exact positive k a found
  exact all k a found

/-- Of every open unit in every history, the account is known. -/
theorem account (history : Run .empty log s) (isOpen : s.units n = some c) (k : sort.Key) :
    sort.Account k (sort.deeds n log) (sort.committed s.tables k) (sort.staged c k) := by
  refine Run.snoc_induction (P := fun log s => ∀ c, s.units n = some c → sort.Account k
    (sort.deeds n log) (sort.committed s.tables k) (sort.staged c k)) nofun ?_ history c isOpen
  intro log s e s' history step known c isOpen
  rw [deeds_append_singleton]
  rcases step.unit_cases isOpen with ⟨rfl, rfl, -⟩ |
    ⟨call, answer, c₀, rfl, before, answered, same⟩ | ⟨before, begins, asks⟩
  · rw [deedsAfter_began, sort.staged_empty]
    exact .nil
  · rw [deedsAfter_asked, same]
    exact (known c₀ before).turn (sort.turn answered k)
      fun a added => sort.begins_of_add answered added
  · rw [deedsAfter_of_other begins asks]
    exact (known c before).later (later_of_step history.tidy history.keyed step k)

/-! ### Disciplined histories -/

variable (sort) in
/-- In the history, every aggregate that a unit has saved was read by the unit before or was new,
    was changed by the domain only, and was saved over its own version. -/
def Disciplined (log : List Event) : Prop :=
  ∀ before n e after a expected, log = before ++ e :: after →
    sort.deedOf? n e = some (.save a expected) →
      expected = .exact (sort.version a) ∧ ∃ base, sort.Basis (sort.deeds n before) a base

theorem Disciplined.start {before after : List Event}
    (h : sort.Disciplined (before ++ after)) : sort.Disciplined before := by
  rintro first n e last a expected rfl
  exact h first n e (last ++ after) a expected (by simp)

/-- A history stays disciplined by calls that save nothing, and by those that save what was read. -/
theorem Disciplined.snoc {e : Event} (h : sort.Disciplined log)
    (last : ∀ n a expected, sort.deedOf? n e = some (.save a expected) →
      expected = .exact (sort.version a) ∧ ∃ base, sort.Basis (sort.deeds n log) a base) :
    sort.Disciplined (log ++ [e]) := by
  intro before n e' after a expected split saved
  rcases List.eq_nil_or_concat after with rfl | ⟨after', y, rfl⟩
  · obtain ⟨rfl, equal⟩ := List.append_inj' split rfl
    rw [← List.singleton_inj.mp equal] at saved
    exact last n a expected saved
  · rw [List.concat_eq_append, ← List.cons_append, ← List.append_assoc] at split
    obtain ⟨rfl, -⟩ := List.append_inj' split rfl
    exact h before n e' after' a expected rfl saved

theorem disciplined_nil : sort.Disciplined [] := by
  intro before n e after a expected split
  have length := congrArg List.length split
  simp at length

/-- A call that is no deed may follow, … -/
theorem Disciplined.idle {e : Event} (h : sort.Disciplined log)
    (nothing : ∀ n, sort.deedOf? n e = none) : sort.Disciplined (log ++ [e]) := by
  refine h.snoc fun n a expected saved => ?_
  rw [nothing n] at saved
  cases saved

/-- … and so may a deed that is no save, or one that is well founded. -/
theorem Disciplined.asked {n : Nat} {call : UnitCall} {answer : call.Answer}
    (h : sort.Disciplined log)
    (last : ∀ a expected, sort.deed? call answer = some (.save a expected) →
      expected = .exact (sort.version a) ∧ ∃ base, sort.Basis (sort.deeds n log) a base) :
    sort.Disciplined (log ++ [.asked n call answer]) := by
  refine h.snoc fun m a expected saved => ?_
  simp only [deedOf?] at saved
  split at saved
  · rename_i same
    rw [← same]
    exact last a expected saved
  · cases saved

/-- Then every unit is grounded, at any time. -/
theorem Disciplined.grounded (h : sort.Disciplined log) (n : Nat) :
    sort.Grounded (sort.deeds n log) := by
  have nothing : sort.Grounded [] := by
    intro early a expected late split
    have length := congrArg List.length split
    simp at length
  induction log using List.reverseRecOn with
  | nil => exact nothing
  | append_singleton log e ih =>
    have known := ih h.start
    rw [deeds_append_singleton]
    by_cases begun : e = .began n
    · rw [begun, deedsAfter_began]
      exact nothing
    · by_cases asked : ∃ call answer, e = .asked n call answer
      · obtain ⟨call, answer, rfl⟩ := asked
        rw [deedsAfter_asked]
        cases done : sort.deed? call answer with
        | none => rwa [Option.toList_none, List.append_nil]
        | some deed =>
          intro early a expected late split
          rcases append_singleton_eq split with ⟨rfl, rfl, -⟩ | ⟨late', -, split'⟩
          · exact h log n _ [] a expected rfl ((if_pos rfl).trans done)
          · exact known early a expected late' split'
      · rwa [deedsAfter_of_other begun fun call answer same => asked ⟨call, answer, same⟩]

/-! ### What a commit finds and leaves -/

variable (sort) in
/-- The second snapshot was computed from the first one, by the domain and one version above it; or
    there was none, and it is the first version of something new. -/
def Follows (old new : Option α) : Prop :=
  ∃ a, new = some (sort.stamp ((old.map sort.version).getD 0 + 1) a) ∧
    match old with
    | some base => sort.Derived base a
    | none => ∃ first, sort.Begins first ∧ sort.Derived first a

/-- What was made of nothing and finds its version finds nothing, as committed versions are at least
    one. -/
theorem committed_eq_none (history : Run .empty log s)
    (guard : 0 = ((sort.committed s.tables k).map sort.version).getD 0) :
    sort.committed s.tables k = none := by
  cases found : sort.committed s.tables k with
  | none => rfl
  | some old =>
    have positive := version_pos history found
    rw [found] at guard
    exact absurd guard (Nat.ne_of_lt positive)

/-- A commit finds what the first save was made of. -/
theorem committed_eq_base (history : Run .empty log s) {n : Nat} {c : ChangeSet}
    (isOpen : s.units n = some c) (admits : s.tables.Admits c) {early late : List (Deed α)} {a : α}
    {base : Option α}
    (split : sort.deeds n log = early ++ .save a (.exact (sort.version a)) :: late)
    (first : sort.Untouched (sort.key a) early) (basis : sort.Basis early a base) :
    sort.committed s.tables (sort.key a) = base ∧
      ∃ last write, sort.staged c (sort.key a) = some (last, write) := by
  obtain ⟨⟨last, staged⟩, seen⟩ :=
    (account history isOpen (sort.key a)).guarded early a _ late split rfl first
  refine ⟨?_, last, _, staged⟩
  have guard := (sort.fits admits staged).2 _ rfl
  cases base with
  | none =>
    obtain ⟨new, begins, derived⟩ := basis
    rw [version_of_derived derived, sort.version_of_begins begins] at guard
    exact committed_eq_none history guard
  | some base =>
    obtain ⟨mem, derived⟩ := basis
    rw [version_of_derived derived] at guard
    exact (seen base mem (key_of_derived derived).symm).current guard

/-- A commit computes what it writes from what it replaces. -/
theorem follows_of_commit (history : Run .empty log s) {n : Nat} {c : ChangeSet} {now : Timestamp}
    (grounded : sort.Grounded (sort.deeds n log)) (isOpen : s.units n = some c)
    (admits : s.tables.Admits c) (receives : s.tables.Receives c now s'.tables) (k : sort.Key) :
    sort.committed s'.tables k = sort.committed s.tables k ∨
      sort.Follows (sort.committed s.tables k) (sort.committed s'.tables k) := by
  rw [sort.written (history.tidy n c isOpen) receives k]
  cases found : sort.staged c k with
  | none => exact .inl rfl
  | some staged =>
    obtain ⟨a, write⟩ := staged
    obtain ⟨origin, guard⟩ := (account history isOpen k).staged grounded a write found
    obtain ⟨absent, matched⟩ := sort.fits admits found
    refine .inr ⟨a, rfl, ?_⟩
    rcases origin with ⟨first, begins, derived⟩ | ⟨base, seen, derived⟩
    · have none : sort.committed s.tables k = none := by
        rcases guard with rfl | rfl
        · exact absent rfl
        · have zero := matched _ rfl
          rw [version_of_derived derived, sort.version_of_begins begins] at zero
          exact committed_eq_none history zero
      rw [none]
      exact ⟨first, begins, derived⟩
    · have current : sort.committed s.tables k = some base := by
        rcases guard with rfl | rfl
        -- What is added is not there, whereas the base was committed.
        · obtain ⟨later, found', -⟩ := seen
          rw [absent rfl] at found'
          cases found'
        · have same := matched _ rfl
          rw [version_of_derived derived] at same
          exact seen.current same
      rw [current]
      exact derived

variable (sort) in
/-- No update of an aggregate is lost in the history. -/
structure Linear (log : List Event) : Prop where
  /-- A successful commit finds each aggregate as the unit had read it before it saved it for the
      first time, or still missing if it was new, and leaves it one version above. -/
  current : ∀ before n c now after s s',
    log = before ++ .committed n c now (.ok ()) :: after → Run .empty before s →
      Step s (.committed n c now (.ok ())) s' →
        ∀ early a expected late base, sort.deeds n before = early ++ .save a expected :: late →
          sort.Untouched (sort.key a) early → sort.Basis early a base →
            sort.committed s.tables (sort.key a) = base ∧
              ∃ new, sort.committed s'.tables (sort.key a) = some new ∧
                sort.version new = (base.map sort.version).getD 0 + 1
  /-- Over any stretch of time, the committed snapshots of an aggregate form a chain in which each
      is computed from the one before. -/
  chain : ∀ before between after s s', log = before ++ between ++ after → Run .empty before s →
    Run s between s' → ∀ k,
      Relation.ReflTransGen sort.Follows (sort.committed s.tables k) (sort.committed s'.tables k)

theorem Disciplined.linear (h : sort.Disciplined log) : sort.Linear log where
  current := by
    rintro before n c now after s s' rfl history step early a expected late base split first basis
    obtain ⟨rfl, -⟩ := h.start.grounded n early a expected late split
    have tidy := history.tidy n c step.isOpen
    obtain ⟨admits, receives⟩ := step.receives tidy
    obtain ⟨same, last, write, staged⟩ :=
      committed_eq_base history step.isOpen admits split first basis
    have leaves := sort.written tidy receives (sort.key a)
    rw [staged, same] at leaves
    exact ⟨same, _, leaves, sort.version_stamp _ last⟩
  chain := by
    rintro before between after s s' rfl history goesOn k
    -- By induction from the front, with what has happened before growing along.
    induction goesOn generalizing before with
    | nil => exact .refl
    | @cons s m s' e between step rest ih =>
      have history' : Run .empty (before ++ [e]) m :=
        run_append.mpr ⟨s, history, .cons step (.nil m)⟩
      have grounded : ∀ n, sort.Grounded (sort.deeds n before) := h.start.start.grounded
      have further := ih (before ++ [e]) (by simpa using h) history'
      rcases committed_cases history.tidy step k with
        same | ⟨n, c, now, -, isOpen, admits, receives⟩
      · rwa [same] at further
      · rcases follows_of_commit history (grounded n) isOpen admits receives k with same | follows
        · rwa [same] at further
        · exact .head follows further

end AggregateSort

/-! ### No lost updates -/

open AggregateSort

/-- Any number of units of work may read, save and commit in any order. As long as each of them
    reads what it saves, or saves something new, changes it by methods of the domain and saves it
    over its own version, no update is lost: whenever a commit succeeds, each aggregate that the
    unit had read and then saved is still what it had read, and what was new is still missing; and
    its version rises by one. So the committed snapshots of every transaction and of every
    accounting point form a chain, in which each is computed from the one before. -/
theorem no_lost_updates {log : List Event} (documents : transactions.Disciplined log)
    (registers : points.Disciplined log) : transactions.Linear log ∧ points.Linear log :=
  ⟨documents.linear, registers.linear⟩

/-- A point is stored, … -/
def storedPoint : AccountingPoint :=
  .fresh ⟨"000000000000000000", by decide⟩

/-- … and given a supplier. -/
def suppliedPoint : AccountingPoint :=
  { storedPoint with version := 1, energySupplier := some ⟨"0000000000000", by decide⟩ }

/-- One unit stores the point, and another one gives it a supplier, up to its commit. -/
def twoUpdates : List Event :=
  [.began 0, .asked 0 (.savePoint storedPoint (.exact 0)) (.ok ()),
    .committed 0 ⟨[], [], [], [⟨storedPoint, .exact 0⟩]⟩ .epoch (.ok ()),
    .began 1,
    .asked 1 (.findPoint storedPoint.gsrn.text) (.ok (some { storedPoint with version := 1 })),
    .asked 1 (.savePoint suppliedPoint (.exact 1)) (.ok ())]

/-- The commit of the second unit. -/
def secondUpdate : Event :=
  .committed 1 ⟨[], [], [], [⟨suppliedPoint, .exact 1⟩]⟩ .epoch (.ok ())

theorem run_twoUpdates : ∃ s, Run .empty (twoUpdates ++ [secondUpdate]) s := by
  refine exists_run_cons (step_begin rfl) ?_
  refine exists_run_cons (step_ask (c := .empty) rfl _) ?_
  refine exists_run_cons (.commit rfl (yields_commit.mpr (.inl ⟨rfl, rfl⟩))) ?_
  refine exists_run_cons (step_begin rfl) ?_
  refine exists_run_cons (step_ask (c := .empty) rfl _) ?_
  refine exists_run_cons (step_ask (c := .empty) rfl _) ?_
  refine exists_run_cons (.commit rfl (yields_commit.mpr (.inl ⟨rfl, rfl⟩))) ?_
  exact ⟨_, .nil _⟩

theorem points_disciplined_twoUpdates : points.Disciplined (twoUpdates ++ [secondUpdate]) := by
  have begun : points.Disciplined (twoUpdates.take 1) := disciplined_nil.idle fun _ => rfl
  have stored : points.Disciplined (twoUpdates.take 2) := begun.asked <| by
    rintro _ _ ⟨⟩
    exact ⟨rfl, none, storedPoint, rfl, .refl⟩
  have found : points.Disciplined (twoUpdates.take 5) :=
    ((stored.idle fun _ => rfl).idle fun _ => rfl).asked (by rintro _ _ ⟨⟩)
  have supplied : points.Disciplined twoUpdates := found.asked <| by
    rintro _ _ ⟨⟩
    exact ⟨rfl, some { storedPoint with version := 1 }, List.mem_singleton_self _,
      .single (.supplied _ _)⟩
  exact supplied.idle fun _ => rfl

theorem transactions_disciplined_twoUpdates :
    transactions.Disciplined (twoUpdates ++ [secondUpdate]) := by
  have begun : transactions.Disciplined (twoUpdates.take 1) := disciplined_nil.idle fun _ => rfl
  have found : transactions.Disciplined (twoUpdates.take 5) :=
    (((begun.asked (by rintro _ _ ⟨⟩)).idle fun _ => rfl).idle fun _ => rfl).asked
      (by rintro _ _ ⟨⟩)
  exact (found.asked (by rintro _ _ ⟨⟩)).idle fun _ => rfl

theorem no_lost_updates_twoUpdates :
    ∃ s s', Run .empty twoUpdates s ∧ Step s secondUpdate s' ∧
      s.tables.point? storedPoint.gsrn.text = some { storedPoint with version := 1 } ∧
      ∃ new, s'.tables.point? storedPoint.gsrn.text = some new ∧ new.version = 2 := by
  obtain ⟨s', history⟩ := run_twoUpdates
  obtain ⟨s, first, rest⟩ := run_append.mp history
  obtain _ | ⟨second, _ | _⟩ := rest
  obtain ⟨-, linear⟩ := no_lost_updates transactions_disciplined_twoUpdates
    points_disciplined_twoUpdates
  have basis : points.Basis [.read { storedPoint with version := 1 }] suppliedPoint
      (some { storedPoint with version := 1 }) :=
    ⟨List.mem_singleton_self _, .single (.supplied _ _)⟩
  obtain ⟨current, new, found, version⟩ := linear.current twoUpdates 1 _ _ [] s s' rfl first second
    [.read { storedPoint with version := 1 }] suppliedPoint (.exact 1) [] _ rfl (by
      rintro _ mem _ staged
      cases List.mem_singleton.mp mem
      cases staged) basis
  exact ⟨s, s', first, second, current, new, found, version⟩

end Memory

end SupplierSwitch
