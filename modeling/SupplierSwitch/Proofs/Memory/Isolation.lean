import SupplierSwitch.Proofs.Memory.Updates

namespace SupplierSwitch

/-- The call was answered with an error. -/
def UnitCall.Refused : (call : UnitCall) → call.Answer → Prop
  | .findPoint _, .error _ | .savePoint _ _, .error _ | .getTransaction _, .error _
  | .addTransaction _, .error _ | .saveTransaction _ _, .error _ | .stageCommand _, .error _
  | .markProcessed _ _, .error _ => True
  | _, _ => False

namespace Memory

open Tables

/-!
# Units of work are isolated

A unit of work sees the store with its own writes laid over it, and what it sees of the store is
what is committed at that moment. Nobody else sees these writes before the commit of the unit has
succeeded. So, as long as it has not, the others can be told the same history without the calls of
the unit: they are given the same answers, and they leave the same tables.

* `AggregateSort.lastStaged?`, `AggregateSort.sees?` — what a unit is to see of an aggregate, by
  what it has done, and `AggregateSort.map_staged` — what its change set has of it;
* `eq_of_refused` — a refused call leaves the unit as it was;
* `Shared.withUnit`, `without`, `Run.forget` — histories without the calls of a unit;
* `units_isolated` — the two together.
-/

/-! ### What a unit sees -/

namespace AggregateSort

variable {α : Type} (sort : AggregateSort α) [DecidableEq sort.Key]

/-- What is staged by a deed. What is added counts as version 0. -/
def stagedAs? : Deed α → Option α
  | .read _ => none
  | .save a _ => some a
  | .add a => some (sort.stamp 0 a)

/-- What was staged last under a key. -/
def lastStaged? (k : sort.Key) (deeds : List (Deed α)) : Option α :=
  ((deeds.filter fun deed => sort.key deed.aggregate = k).filterMap sort.stagedAs?).getLast?

/-- What a unit that has done these deeds is to see under a key: what it has staged last, or else
    what is committed. -/
def sees? (deeds : List (Deed α)) (t : Tables) (k : sort.Key) : Option α :=
  (sort.lastStaged? k deeds).or (sort.committed t k)

variable {sort} {k : sort.Key} {deeds : List (Deed α)} {deed : Deed α}

theorem lastStaged?_concat (same : sort.key deed.aggregate = k) :
    sort.lastStaged? k (deeds ++ [deed])
      = (sort.stagedAs? deed).or (sort.lastStaged? k deeds) := by
  cases staged : sort.stagedAs? deed <;> simp [lastStaged?, same, staged]

theorem lastStaged?_concat_of_other (other : sort.key deed.aggregate ≠ k) :
    sort.lastStaged? k (deeds ++ [deed]) = sort.lastStaged? k deeds := by
  simp [lastStaged?, other]

/-- What is staged under a key stays what was staged last. -/
theorem lastStaged?_turn {committed : Option α} {deed? : Option (Deed α)}
    {staged staged' : Option (α × TransactionWrite)}
    (turn : Turn sort.key sort.version sort.stamp k committed deed? staged staged')
    (last : staged.map Prod.fst = sort.lastStaged? k deeds) :
    staged'.map Prod.fst = sort.lastStaged? k (deeds ++ deed?.toList) := by
  cases turn with
  | elsewhere other =>
    cases deed? with
    | none => rwa [Option.toList_none, List.append_nil]
    | some deed =>
      rw [Option.toList_some, lastStaged?_concat_of_other (other deed rfl)]
      exact last
  | read same found =>
    rw [Option.toList_some, lastStaged?_concat same]
    exact last
  | save same | restage same _ | add same =>
    rw [Option.toList_some, lastStaged?_concat same]
    rfl

/-- In every history, the change set of an open unit has of an aggregate what the unit has staged
    last. -/
theorem map_staged {s : Shared} {log : List Event} (history : Run .empty log s) {n : Nat}
    {c : ChangeSet} (isOpen : s.units n = some c) (k : sort.Key) :
    (sort.staged c k).map Prod.fst = sort.lastStaged? k (sort.deeds n log) := by
  refine Run.snoc_induction (P := fun log s => ∀ c, s.units n = some c →
    (sort.staged c k).map Prod.fst = sort.lastStaged? k (sort.deeds n log)) nofun ?_ history c
    isOpen
  intro log s e s' _ step known c isOpen
  rw [deeds_append_singleton]
  rcases step.unit_cases isOpen with ⟨rfl, rfl, -⟩ |
    ⟨call, answer, c₀, rfl, before, answered, -⟩ | ⟨before, begins, asks⟩
  · rw [deedsAfter_began, sort.staged_empty]
    rfl
  · rw [deedsAfter_asked]
    exact lastStaged?_turn (sort.turn answered k) (known c₀ before)
  · rw [deedsAfter_of_other begins asks]
    exact known c before

end AggregateSort

instance : DecidableEq transactions.Key :=
  inferInstanceAs (DecidableEq TransactionId)

instance : DecidableEq points.Key :=
  inferInstanceAs (DecidableEq String)

/-! ### Answers of an open unit -/

/-- The unit may be given the answer. -/
def Shared.Answers (s : Shared) (n : Nat) (call : UnitCall) (answer : call.Answer) : Prop :=
  ∃ s', Step s (.asked n call answer) s'

section Answers

variable {log : List Event} {s s' : Shared} {n : Nat} {t : Tables} {c : ChangeSet}
variable {call : UnitCall} {answer : call.Answer}

theorem answers_iff (isOpen : s.units n = some c) :
    s.Answers n call answer ↔ answer = (s.tables.answer call c).1 := by
  constructor
  · rintro ⟨s', step⟩
    cases step with
    | ask before yields =>
      obtain ⟨answered, -⟩ := yields_answer.mp yields
      rw [Option.some.inj (isOpen.symm.trans before), ← answered]
  · rintro rfl
    exact ⟨_, step_ask isOpen call⟩

/-- What is staged of a sort, over what is committed, is what the unit is to see. -/
theorem sees?_eq {α : Type} (sort : AggregateSort α) [DecidableEq sort.Key]
    (history : Run .empty log s) (isOpen : s.units n = some c) (k : sort.Key) :
    ((sort.staged c k).map Prod.fst).or (sort.committed s.tables k)
      = sort.sees? (sort.deeds n log) s.tables k := by
  rw [AggregateSort.map_staged history isOpen]
  rfl

theorem transaction?_or (history : Run .empty log s) (isOpen : s.units n = some c)
    (id : TransactionId) :
    (c.transaction? id).or (s.tables.transaction? id)
      = transactions.sees? (transactions.deeds n log) s.tables id := by
  rw [← map_stagedTransaction]
  exact sees?_eq transactions history isOpen id

theorem point?_or (history : Run .empty log s) (isOpen : s.units n = some c) (gsrn : String) :
    (c.point? gsrn).or (s.tables.point? gsrn)
      = points.sees? (points.deeds n log) s.tables gsrn := by
  rw [← map_stagedPoint]
  exact sees?_eq points history isOpen gsrn

/-- A refused call leaves the unit as it was. -/
theorem eq_of_refused {c' : ChangeSet} (answered : t.answer call c = (answer, c'))
    (refused : call.Refused answer) : c' = c := by
  cases call with
  | findPoint gsrn =>
    rw [answer_findPoint] at answered
    exact (Prod.mk.inj answered).2.symm
  | getTransaction id =>
    rw [answer_getTransaction] at answered
    exact (Prod.mk.inj answered).2.symm
  | savePoint point expected =>
    obtain ⟨-, same⟩ | ⟨rfl, -⟩ := savePoint_cases answered
    · exact same
    · exact refused.elim
  | addTransaction transaction =>
    rw [answer_addTransaction] at answered
    split at answered
    · exact (Prod.mk.inj answered).2.symm
    · obtain ⟨rfl, -⟩ := Prod.mk.inj answered
      exact refused.elim
  | saveTransaction transaction expected =>
    obtain ⟨-, same⟩ | ⟨rfl, -⟩ := saveTransaction_cases answered
    · exact same
    · exact refused.elim
  | stageCommand command =>
    obtain ⟨-, same⟩ | ⟨rfl, -⟩ := settle_cases answered
    · exact same
    · exact refused.elim
  | markProcessed id claim =>
    obtain ⟨rfl, -⟩ := Prod.mk.inj answered
    exact refused.elim

theorem Step.eq_of_refused (step : Step s (.asked n call answer) s')
    (refused : call.Refused answer) : s' = s := by
  cases step with
  | ask isOpen yields =>
    obtain ⟨answered, rfl⟩ := yields_answer.mp yields
    rw [Memory.eq_of_refused answered.symm refused, Function.update_eq_self_iff.mpr isOpen.symm]

/-- A transaction that is saved is missing if the unit has not staged it and it is not committed,
    and only then. -/
theorem saveTransaction_notFound_iff {transaction : Transaction} {expected : ExpectedVersion} :
    (∃ what, (t.answer (.saveTransaction transaction expected) c).1 = .error (.notFound what)) ↔
      (c.transaction? transaction.id).or (t.transaction? transaction.id) = none := by
  have guarded {actual : Nat} {what what' : String} {f : Unit → ChangeSet} :
      (c.settle ((ChangeSet.checkVersion expected actual what).map f)).1
        ≠ .error (.notFound what') := by
    rw [ChangeSet.checkVersion]
    intro same
    cases checked : expected.check actual with
    | ok _ =>
      rw [checked] at same
      cases same
    | error e =>
      rw [checked] at same
      cases same
  rw [answer_saveTransaction]
  cases c.transaction? transaction.id with
  | some staged => exact iff_of_false (not_exists.mpr fun _ => guarded) (Option.some_ne_none _)
  | none =>
    cases t.transaction? transaction.id with
    | some committed =>
      exact iff_of_false (not_exists.mpr fun _ => guarded) (Option.some_ne_none _)
    | none => exact iff_of_true ⟨_, rfl⟩ rfl

end Answers

/-- Unit `n`, which has called the store as the history says, sees what it has staged itself, and
    else what is committed. -/
structure Overlaid (log : List Event) (s : Shared) (n : Nat) : Prop where
  get : ∀ id answer, s.Answers n (.getTransaction id) answer ↔
    answer = match transactions.sees? (transactions.deeds n log) s.tables id with
      | some transaction => .ok transaction
      | none => .error (.notFound ("transaction " ++ id.text))
  find : ∀ gsrn answer, s.Answers n (.findPoint gsrn) answer ↔
    answer = .ok (points.sees? (points.deeds n log) s.tables gsrn)
  add : ∀ transaction answer, s.Answers n (.addTransaction transaction) answer ↔
    answer = if (transactions.sees? (transactions.deeds n log) s.tables transaction.id).isSome then
        .error (.alreadyExists ("transaction " ++ transaction.id.text))
      else .ok ()
  save : ∀ transaction expected answer,
    s.Answers n (.saveTransaction transaction expected) answer →
      ((∃ what, answer = .error (.notFound what)) ↔
        transactions.sees? (transactions.deeds n log) s.tables transaction.id = none)
  /-- A call that fails stages nothing. -/
  refused : ∀ call answer s', Step s (.asked n call answer) s' → call.Refused answer → s' = s

theorem overlaid {log : List Event} {s : Shared} {n : Nat} {c : ChangeSet}
    (history : Run .empty log s) (isOpen : s.units n = some c) : Overlaid log s n where
  get id answer := by
    rw [answers_iff isOpen, answer_getTransaction]
    exact transaction?_or history isOpen id ▸ .rfl
  find gsrn answer := by
    rw [answers_iff isOpen, answer_findPoint, point?_or history isOpen]
  add transaction answer := by
    rw [answers_iff isOpen, answer_addTransaction, transaction?_or history isOpen]
    split <;> rfl
  save transaction expected answer answered := by
    rw [(answers_iff isOpen).mp answered, saveTransaction_notFound_iff,
      transaction?_or history isOpen]
  refused _ _ _ step := step.eq_of_refused

/-! ### Histories without a unit -/

/-- The unit that is called. -/
def Event.unit? : Event → Option Nat
  | .began n | .asked n _ _ | .committed n _ _ _ | .dropped n => some n
  | .claimed _ _ _ | .recorded _ _ _ _ _ _ | .retried _ _ => none

/-- Unit `n` commits what it has staged. -/
def Event.Publishes (n : Nat) : Event → Prop
  | .committed m _ _ (.ok ()) => m = n
  | _ => False

/-- A history without the calls of unit `n`. -/
def without (n : Nat) (log : List Event) : List Event :=
  log.filter (·.unit? ≠ some n)

/-- The store with something else staged in unit `n`, or with the unit closed. -/
def Shared.withUnit (s : Shared) (n : Nat) (staged : Option ChangeSet) : Shared :=
  { s with units := Function.update s.units n staged }

section Without

variable {s s' : Shared} {n m : Nat} {e : Event} {log : List Event}

theorem Shared.withUnit_eq_self {staged : Option ChangeSet} (same : s.units n = staged) :
    s.withUnit n staged = s := by
  rw [withUnit, Function.update_eq_self_iff.mpr same.symm]

theorem Shared.withUnit_update (t : Tables) (units : Nat → Option ChangeSet)
    (staged staged' : Option ChangeSet) :
    Shared.withUnit ⟨t, Function.update units n staged'⟩ n staged
      = Shared.withUnit ⟨t, units⟩ n staged := by
  rw [Shared.withUnit, Shared.withUnit, Function.update_idem]

theorem Shared.withUnit_update_of_ne (other : m ≠ n) (t : Tables)
    (units : Nat → Option ChangeSet) (staged staged' : Option ChangeSet) :
    Shared.withUnit ⟨t, Function.update units m staged'⟩ n staged
      = ⟨t, Function.update (Function.update units n staged) m staged'⟩ := by
  rw [Shared.withUnit, Function.update_comm other]

/-- What a unit is called to concerns nobody else, unless it commits. -/
theorem Step.withUnit_eq (step : Step s e s') (own : e.unit? = some n)
    (unpublished : ¬ e.Publishes n) (staged : Option ChangeSet) :
    s'.withUnit n staged = s.withUnit n staged := by
  cases step with
  | begin _ yields =>
    obtain ⟨-, rfl⟩ := yields_begin.mp yields
    cases own
    exact Shared.withUnit_update ..
  | ask _ yields =>
    obtain ⟨-, rfl⟩ := yields_answer.mp yields
    cases own
    exact Shared.withUnit_update ..
  | commit _ yields =>
    cases own
    obtain ⟨-, rfl⟩ | ⟨e, -, rfl, rfl⟩ := yields_commit.mp yields
    · exact absurd rfl unpublished
    · exact Shared.withUnit_update ..
  | drop =>
    cases own
    exact Shared.withUnit_update ..
  | claim _ | record _ | retry _ => cases own

/-- What a unit has staged is no matter to the calls of others. -/
theorem Step.withUnit (step : Step s e s') (other : e.unit? ≠ some n)
    (staged : Option ChangeSet) : Step (s.withUnit n staged) e (s'.withUnit n staged) := by
  have units {m : Nat} (distinct : m ≠ n) : (s.withUnit n staged).units m = s.units m :=
    Function.update_of_ne distinct ..
  cases step with
  | @begin m now c t closed yields =>
    have distinct : m ≠ n := fun same => other (congrArg some same)
    rw [Shared.withUnit_update_of_ne distinct]
    exact .begin ((units distinct).trans closed) yields
  | @ask m c c' now t call answer isOpen yields =>
    have distinct : m ≠ n := fun same => other (congrArg some same)
    rw [Shared.withUnit_update_of_ne distinct]
    exact .ask ((units distinct).trans isOpen) yields
  | @commit m c now result t isOpen yields =>
    have distinct : m ≠ n := fun same => other (congrArg some same)
    rw [Shared.withUnit_update_of_ne distinct]
    exact .commit ((units distinct).trans isOpen) yields
  | @drop m =>
    have distinct : m ≠ n := fun same => other (congrArg some same)
    rw [Shared.withUnit_update_of_ne distinct]
    exact .drop
  | claim yields => exact .claim yields
  | record yields => exact .record yields
  | retry yields => exact .retry yields

/-- As long as a unit has not committed anything, the others can be told that it was never called,
    or that it had staged something else. -/
theorem Run.forget (history : Run s log s') (unpublished : ∀ e ∈ log, ¬ e.Publishes n)
    (staged : Option ChangeSet) :
    Run (s.withUnit n staged) (without n log) (s'.withUnit n staged) := by
  induction history with
  | nil s => exact .nil _
  | @cons s m s' e log step rest ih =>
    have later := ih fun e mem => unpublished e (List.mem_cons_of_mem _ mem)
    by_cases own : e.unit? = some n
    · rw [without, List.filter_cons_of_neg (by simpa using own),
        ← step.withUnit_eq own (unpublished e (List.mem_cons_self ..)) staged]
      exact later
    · rw [without, List.filter_cons_of_pos (by simpa using own)]
      exact .cons (step.withUnit own staged) later

end Without

/-! ### Isolation -/

/-- Any number of units of work may be called in any order, together with everything else that the
    store can do. Whatever an open unit asks for, it is shown what it has staged last itself, a new
    transaction as version 0, and else what is committed at that moment; it cannot add a transaction
    that it sees, nor save one that it does not see; and a call that fails leaves it as it was. From
    then on, as long as a unit has no commit that succeeds, everybody else is answered, and the
    tables are left, just as if the unit had never been called, or had staged anything else. -/
theorem units_isolated {log : List Event} {s : Shared} (history : Run .empty log s) (n : Nat) :
    (∀ c, s.units n = some c → Overlaid log s n) ∧
      ∀ later m, Run s later m → (∀ e ∈ later, ¬ e.Publishes n) →
        ∀ staged, Run (s.withUnit n staged) (without n later) (m.withUnit n staged) :=
  ⟨fun _ => overlaid history, fun _ _ goesOn => goesOn.forget⟩

/-- A transaction that one unit adds … -/
def addedTransaction : Transaction :=
  .fresh ⟨"1", by decide +kernel, by decide⟩

/-- … while another unit begins. -/
def addedByOne : List Event :=
  [.began 0, .asked 0 (.addTransaction addedTransaction) (.ok ()), .began 1]

/-- The one sees the transaction, and the other does not; and without the one, the other begins all
    the same. -/
theorem units_isolated_addedByOne :
    ∃ s, Run .empty addedByOne s ∧
      s.Answers 0 (.getTransaction addedTransaction.id) (.ok addedTransaction) ∧
      s.Answers 1 (.getTransaction addedTransaction.id) (.error (.notFound "transaction 1")) ∧
      Run .empty [.began 1] (s.withUnit 0 none) := by
  have history : ∃ s, Run .empty addedByOne s ∧ s.tables = .empty ∧
      s.units 0 = some (.insertTransaction .empty addedTransaction) ∧ s.units 1 = some .empty :=
    ⟨_, .cons (step_begin rfl) (.cons (step_ask (c := .empty) rfl _)
      (.cons (step_begin rfl) (.nil _))), rfl, rfl, rfl⟩
  obtain ⟨s, history, empty, one, other⟩ := history
  have alone := (units_isolated (.nil .empty) 0).2 addedByOne s history (by
    rintro _ (_ | ⟨_, _ | ⟨_, _ | ⟨_, ⟨⟩⟩⟩⟩) ⟨⟩) none
  refine ⟨s, history, ?_, ?_, ?_⟩
  · refine (((units_isolated history 0).1 _ one).get _ _).mpr ?_
    rw [empty]
    rfl
  · refine (((units_isolated history 1).1 _ other).get _ _).mpr ?_
    rw [empty]
    rfl
  · have closed : Shared.empty.withUnit 0 none = .empty := Shared.withUnit_eq_self rfl
    rwa [closed] at alone

end Memory

end SupplierSwitch
