import SupplierSwitch.Proofs.Memory.Updates

namespace SupplierSwitch

namespace Memory

open Tables

/-!
# Version guards

A save may expect a version. The first save of an aggregate takes its expectation along to the
commit; a later one is compared with what the unit has staged, and leaves the guard of the first one
as it was. So a later expectation is as good as the guard under which it is compared: it holds at
the commit if what was staged before carries the version that is guarded, and it comes to nothing if
the first save expected nothing.

* `AggregateSort.Pinned` — whatever a unit has staged of an aggregate, it has staged in one version,
  which is also the one that it expects to find;
* `AggregateSort.GuardAccount` — what is known of the guard of an open unit, kept by every call;
* `exact_guards_enforced` — what a successful commit says of the saves of its unit;
* `exact_guard_lost` — a save that expects a version, and whose unit is committed over another one.
-/

/-- The write is carried out only over the version, where a missing aggregate counts as version
    0. -/
def Requires (v : Nat) : TransactionWrite → Prop
  | .insert => v = 0
  | .update expected => expected = .exact v

namespace AggregateSort

variable {α : Type} (sort : AggregateSort α)

/-- The version of what is staged by a deed. What is added counts as version 0. -/
def stagedVersion? : Deed α → Option Nat
  | .read _ => none
  | .save a _ => some (sort.version a)
  | .add _ => some 0

/-- Whatever the unit has staged under the key has the version `w`, and the first save, unless
    something was added before it, expects this version. -/
structure Pinned (k : sort.Key) (deeds : List (Deed α)) (w : Nat) : Prop where
  copies : ∀ deed ∈ deeds, sort.key deed.aggregate = k →
    ∀ v, sort.stagedVersion? deed = some v → v = w
  first : ∀ early a expected late, deeds = early ++ .save a expected :: late → sort.key a = k →
    sort.Untouched k early → expected = .exact w

/-- The committed version of an aggregate; a missing one counts as version 0. -/
def committedVersion (t : Tables) (k : sort.Key) : Nat :=
  ((sort.committed t k).map sort.version).getD 0

/-- Of the saves in a unit, those that expect a version find it committed, if what the unit had
    staged of the aggregate before was pinned. -/
def Enforces (deeds : List (Deed α)) (t : Tables) : Prop :=
  ∀ early a v late, deeds = early ++ .save a (.exact v) :: late →
    (∃ w, sort.Pinned (sort.key a) early w) → sort.committedVersion t (sort.key a) = v

variable {sort} {k : sort.Key} {deeds : List (Deed α)} {deed : Deed α} {a : α} {v w : Nat}
  {committed : Option α} {staged staged' : Option (α × TransactionWrite)}

theorem Pinned.init (h : sort.Pinned k (deeds ++ [deed]) w) : sort.Pinned k deeds w where
  copies other mem := h.copies other (List.mem_append_left _ mem)
  first := by
    rintro early a expected late rfl
    exact h.first early a expected (late ++ [deed]) (by simp)

/-- What is not staged may be taken as pinned to any version. -/
theorem pinned_of_untouched (h : sort.Untouched k deeds) (w : Nat) : sort.Pinned k deeds w where
  copies deed mem same v carried := by
    cases deed with
    | read a => cases carried
    | save a expected => exact absurd same (h _ mem a rfl)
    | add a => exact absurd same (h _ mem a rfl)
  first early a expected late split same := by
    have mem : .save a expected ∈ deeds := split ▸ List.mem_append_right _ List.mem_cons_self
    exact absurd same (h _ mem a rfl)

variable (sort) in
/-- What is known of an open unit, one aggregate and its guard: what the unit has done, and what it
    has staged. -/
structure GuardAccount (k : sort.Key) (deeds : List (Deed α))
    (staged : Option (α × TransactionWrite)) : Prop where
  unstaged : staged = none → sort.Untouched k deeds
  /-- What is pinned to a version is staged in this version, and requires it. -/
  pinned : ∀ w, sort.Pinned k deeds w → ∀ a write, staged = some (a, write) →
    sort.version a = w ∧ Requires w write
  /-- What was saved in expectation of a version requires it, if what had been staged before was
      pinned. -/
  guarded : ∀ early a v late, deeds = early ++ .save a (.exact v) :: late → sort.key a = k →
    (∃ w, sort.Pinned k early w) → ∃ last write, staged = some (last, write) ∧ Requires v write

namespace GuardAccount

theorem nil : sort.GuardAccount k [] none where
  unstaged _ _ none := nomatch none
  pinned _ _ _ _ none := nomatch none
  guarded early a v late split := by
    have length := congrArg List.length split
    simp at length

/-- A deed that stages nothing under the key. -/
theorem unaffected (h : sort.GuardAccount k deeds staged)
    (nothing : ∀ a, deed.staged? = some a → sort.key a ≠ k) :
    sort.GuardAccount k (deeds ++ [deed]) staged where
  unstaged none other mem a found := by
    rcases List.mem_append.mp mem with mem | mem
    · exact h.unstaged none other mem a found
    · cases List.mem_singleton.mp mem
      exact nothing a found
  pinned w pinned := h.pinned w pinned.init
  guarded early a v late split same pinned := by
    rcases append_singleton_eq split with ⟨-, rfl, -⟩ | ⟨late', -, split'⟩
    · exact absurd same (nothing a rfl)
    · exact h.guarded early a v late' split' same pinned

/-- The first save takes its expectation along. -/
theorem afterSave {expected : ExpectedVersion} (h : sort.GuardAccount k deeds none)
    (same : sort.key a = k) :
    sort.GuardAccount k (deeds ++ [.save a expected]) (some (a, .update expected)) where
  unstaged none := nomatch none
  pinned w pinned := by
    rintro _ _ ⟨⟩
    exact ⟨pinned.copies _ (List.mem_append_right _ (List.mem_singleton_self _)) same _ rfl,
      pinned.first deeds a expected [] rfl same (h.unstaged rfl)⟩
  guarded early b v late split same' pinned := by
    rcases append_singleton_eq split with ⟨-, equal, -⟩ | ⟨late', -, split'⟩
    · cases equal
      exact ⟨a, _, rfl, rfl⟩
    · obtain ⟨last, write, staged, -⟩ := h.guarded early b v late' split' same' pinned
      cases staged

/-- A later save keeps the guard. What it expects is what is staged, and so, if that is pinned, what
    the guard requires. -/
theorem afterRestage {old : α} {write : TransactionWrite} {expected : ExpectedVersion}
    (h : sort.GuardAccount k deeds (some (old, write))) (same : sort.key a = k)
    (matched : expected.Matches (sort.version old)) :
    sort.GuardAccount k (deeds ++ [.save a expected]) (some (a, write)) where
  unstaged none := nomatch none
  pinned w pinned := by
    rintro _ _ ⟨⟩
    exact ⟨pinned.copies _ (List.mem_append_right _ (List.mem_singleton_self _)) same _ rfl,
      (h.pinned w pinned.init old write rfl).2⟩
  guarded early b v late split same' pinned := by
    rcases append_singleton_eq split with ⟨rfl, equal, -⟩ | ⟨late', -, split'⟩
    · cases equal
      obtain ⟨w, pinned⟩ := pinned
      obtain ⟨rfl, required⟩ := h.pinned w pinned old write rfl
      have expects : v = sort.version old := matched
      exact ⟨a, write, rfl, expects ▸ required⟩
    · obtain ⟨last, write', staged, required⟩ := h.guarded early b v late' split' same' pinned
      cases staged
      exact ⟨a, write, rfl, required⟩

/-- What is added is not to be there. -/
theorem afterAdd (h : sort.GuardAccount k deeds none) (same : sort.key a = k) :
    sort.GuardAccount k (deeds ++ [.add a]) (some (sort.stamp 0 a, .insert)) where
  unstaged none := nomatch none
  pinned w pinned := by
    rintro _ _ ⟨⟩
    have zero : 0 = w :=
      pinned.copies _ (List.mem_append_right _ (List.mem_singleton_self _)) same _ rfl
    exact ⟨(sort.version_stamp 0 a).trans zero, zero.symm⟩
  guarded early b v late split same' pinned := by
    rcases append_singleton_eq split with ⟨-, equal, -⟩ | ⟨late', -, split'⟩
    · cases equal
    · obtain ⟨last, write, staged, -⟩ := h.guarded early b v late' split' same' pinned
      cases staged

/-- Whatever the unit is asked, its account goes on. -/
theorem turn {deed? : Option (Deed α)} (h : sort.GuardAccount k deeds staged)
    (turn : Turn sort.key sort.version sort.stamp k committed deed? staged staged') :
    sort.GuardAccount k (deeds ++ deed?.toList) staged' := by
  cases turn with
  | elsewhere other =>
    cases deed? with
    | none => rwa [Option.toList_none, List.append_nil]
    | some deed =>
      refine h.unaffected fun a found same => other deed rfl ?_
      cases deed with
      | read => cases found
      | save | add =>
        cases found
        exact same
  | read => exact h.unaffected nofun
  | save same => exact h.afterSave same
  | restage same matched => exact h.afterRestage same matched
  | add same => exact h.afterAdd same

end GuardAccount

/-- Of every open unit in every history, the account of its guards is known. -/
theorem guardAccount {s : Shared} {log : List Event} (history : Run .empty log s) {n : Nat}
    {c : ChangeSet} (isOpen : s.units n = some c) (k : sort.Key) :
    sort.GuardAccount k (sort.deeds n log) (sort.staged c k) := by
  refine Run.snoc_induction (P := fun log s => ∀ c, s.units n = some c →
    sort.GuardAccount k (sort.deeds n log) (sort.staged c k)) nofun ?_ history c isOpen
  intro log s e s' _ step known c isOpen
  rw [deeds_append_singleton]
  rcases step.unit_cases isOpen with ⟨rfl, rfl, -⟩ |
    ⟨call, answer, c₀, rfl, before, answered, -⟩ | ⟨before, begins, asks⟩
  · rw [deedsAfter_began, sort.staged_empty]
    exact .nil
  · rw [deedsAfter_asked]
    exact (known c₀ before).turn (sort.turn answered k)
  · rw [deedsAfter_of_other begins asks]
    exact known c before

/-- A commit is admitted over the versions that its writes require, and no others. -/
theorem committedVersion_of_admits {t : Tables} {c : ChangeSet} {write : TransactionWrite}
    (admits : t.Admits c) (staged : sort.staged c k = some (a, write))
    (required : Requires v write) :
    sort.committedVersion t k = v := by
  obtain ⟨absent, matched⟩ := sort.fits admits staged
  cases write with
  | insert =>
    rw [committedVersion, absent rfl]
    exact (show v = 0 from required).symm
  | update expected =>
    have same := matched expected rfl
    rw [show expected = .exact v from required] at same
    exact (show v = sort.committedVersion t k from same).symm

theorem enforces_of_commit {s s' : Shared} {log : List Event} (history : Run .empty log s) {n : Nat}
    {c : ChangeSet} {now : Timestamp} (step : Step s (.committed n c now (.ok ())) s') :
    sort.Enforces (sort.deeds n log) s.tables := by
  intro early a v late split pinned
  obtain ⟨admits, -⟩ := step.receives (history.tidy n c step.isOpen)
  obtain ⟨last, write, staged, required⟩ :=
    (guardAccount history step.isOpen (sort.key a)).guarded early a v late split rfl pinned
  exact committedVersion_of_admits admits staged required

end AggregateSort

/-- Any number of units of work may read, add, save and commit in any order. A commit of a unit
    succeeds only over the versions that its saves expected, each of them wherever it was the first
    to stage its aggregate, whatever was saved over it afterwards, and wherever all that the unit
    had staged of the aggregate before was of one version and was expected in that version. -/
theorem exact_guards_enforced {s s' : Shared} {log : List Event} (history : Run .empty log s)
    {n : Nat} {c : ChangeSet} {now : Timestamp} (step : Step s (.committed n c now (.ok ())) s') :
    transactions.Enforces (transactions.deeds n log) s.tables ∧
      points.Enforces (points.deeds n log) s.tables :=
  ⟨AggregateSort.enforces_of_commit history step, AggregateSort.enforces_of_commit history step⟩

/-- A point in its first committed version. -/
def firstVersion : AccountingPoint :=
  { storedPoint with version := 1 }

/-- One unit stores a point. Two others find it and save it over the version that they have found,
    but the first of them has saved it before without expecting any. -/
def twoSavers : List Event :=
  [.began 0, .asked 0 (.savePoint storedPoint (.exact 0)) (.ok ()),
    .committed 0 ⟨[], [], [], [⟨storedPoint, .exact 0⟩]⟩ .epoch (.ok ()),
    .began 1, .asked 1 (.findPoint storedPoint.gsrn.text) (.ok (some firstVersion)),
    .asked 1 (.savePoint firstVersion .any) (.ok ()),
    .asked 1 (.savePoint firstVersion (.exact 1)) (.ok ()),
    .began 2, .asked 2 (.findPoint storedPoint.gsrn.text) (.ok (some firstVersion)),
    .asked 2 (.savePoint firstVersion (.exact 1)) (.ok ())]

/-- The commit of the second of them. -/
def guardedCommit : Event :=
  .committed 2 ⟨[], [], [], [⟨firstVersion, .exact 1⟩]⟩ .epoch (.ok ())

/-- The commit of the first of them. -/
def unguardedCommit : Event :=
  .committed 1 ⟨[], [], [], [⟨firstVersion, .any⟩]⟩ .epoch (.ok ())

theorem run_twoSavers : ∃ s m s', Run .empty twoSavers s ∧ Step s guardedCommit m ∧
    Step m unguardedCommit s' ∧
    (m.tables.point? storedPoint.gsrn.text).map (·.version) = some 2 := by
  have run : ∃ s, Run .empty twoSavers s ∧ s.tables = ⟨[], 0, [], [firstVersion]⟩ ∧
      s.units 1 = some ⟨[], [], [], [⟨firstVersion, .any⟩]⟩ ∧
      s.units 2 = some ⟨[], [], [], [⟨firstVersion, .exact 1⟩]⟩ := by
    refine ⟨_, .cons (step_begin rfl) <| .cons (step_ask (c := .empty) rfl _) <|
      .cons (.commit rfl (yields_commit.mpr (.inl ⟨rfl, rfl⟩))) <|
      .cons (step_begin rfl) <| .cons (step_ask (c := .empty) rfl _) <|
      .cons (step_ask (c := .empty) rfl _) <|
      .cons (step_ask (c := ⟨[], [], [], [⟨firstVersion, .any⟩]⟩) rfl _) <|
      .cons (step_begin rfl) <| .cons (step_ask (c := .empty) rfl _) <|
      .cons (step_ask (c := .empty) rfl _) (.nil _), rfl, rfl, rfl⟩
  obtain ⟨⟨t, units⟩, run, rfl, first, second⟩ := run
  refine ⟨_, _, _, run, .commit second (yields_commit.mpr (.inl ⟨rfl, rfl⟩)),
    .commit ?_ (yields_commit.mpr (.inl ⟨rfl, rfl⟩)), rfl⟩
  simpa using first

theorem exact_guards_enforced_guardedCommit :
    ∃ s s', Run .empty twoSavers s ∧ Step s guardedCommit s' ∧
      points.committedVersion s.tables firstVersion.gsrn.text = 1 := by
  obtain ⟨s, m, -, run, step, -, -⟩ := run_twoSavers
  obtain ⟨-, enforced⟩ := exact_guards_enforced run step
  have untouched : points.Untouched firstVersion.gsrn.text [.read firstVersion] := by
    intro deed mem a staged
    cases List.mem_singleton.mp mem
    cases staged
  exact ⟨s, m, run, step, enforced [.read firstVersion] firstVersion 1 [] rfl
    ⟨1, AggregateSort.pinned_of_untouched untouched 1⟩⟩

/-- A unit saves a point, then saves it again in expectation of the version that it has found, and
    is committed over another version. -/
theorem exact_guard_lost :
    ∃ log s s', Run .empty log s ∧ Step s unguardedCommit s' ∧
      .save firstVersion (.exact 1) ∈ points.deeds 1 log ∧
      points.committedVersion s.tables firstVersion.gsrn.text = 2 := by
  obtain ⟨s, m, s', run, step, last, version⟩ := run_twoSavers
  refine ⟨twoSavers ++ [guardedCommit], m, s', run_append.mpr ⟨s, run, .cons step (.nil m)⟩, last,
    ?_, ?_⟩
  · show _ ∈ [Deed.read firstVersion, .save firstVersion .any, .save firstVersion (.exact 1)]
    simp
  · exact congrArg (·.getD 0) version

end Memory

end SupplierSwitch
