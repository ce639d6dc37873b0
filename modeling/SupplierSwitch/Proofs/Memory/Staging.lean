import SupplierSwitch.Proofs.Memory.Lookup

namespace SupplierSwitch

/-!
# Staging keeps every key single

A unit of work stages under the keys that it is asked about, and never twice under the same one. The
commit relies on that: it applies the staged lists one after another without looking for
repetitions.

* `Tables.answer_savePoint` and its siblings say what each question to a unit comes to over the
  tables, where reading cannot fail.
* `ChangeSet.Tidy` — no key is staged twice; `ChangeSet.tidy_answer` — whatever the unit is asked,
  and whatever the tables are at that moment, it stays so.
-/

/-- The command is as a scheduler makes it: nothing has happened to it. -/
def InternalCommand.IsFresh (c : InternalCommand) : Prop :=
  c = .fresh c.id c.kind c.payload c.createdAt

namespace Tables

/-! ### What a unit answers over the tables -/

theorem answer_findPoint (t : Tables) (gsrn : String) (c : ChangeSet) :
    t.answer (.findPoint gsrn) c = (.ok ((c.point? gsrn).or (t.point? gsrn)), c) := by
  cases h : c.point? gsrn with
  | some staged => simp only [answer, ChangeSet.answer, h]; rfl
  | none => simp only [answer, ChangeSet.answer, h]; rfl

theorem answer_savePoint (t : Tables) (point : AccountingPoint) (expected : ExpectedVersion)
    (c : ChangeSet) :
    t.answer (.savePoint point expected) c
      = c.settle (match c.point? point.gsrn.text with
          | some staged => c.restagePoint point staged expected
          | none => c.updatePoint point expected ((t.point? point.gsrn.text).map (·.version))) := by
  cases h : c.point? point.gsrn.text with
  | some staged => simp only [answer, ChangeSet.answer, h]; rfl
  | none => simp only [answer, ChangeSet.answer, h]; rfl

theorem answer_getTransaction (t : Tables) (id : TransactionId) (c : ChangeSet) :
    t.answer (.getTransaction id) c
      = (match (c.transaction? id).or (t.transaction? id) with
          | some transaction => .ok transaction
          | none => .error (.notFound ("transaction " ++ id.text)), c) := by
  cases h : c.transaction? id with
  | some staged => simp only [answer, ChangeSet.answer, h]; rfl
  | none =>
    simp only [answer, ChangeSet.answer, h, reads]
    cases ht : t.transaction? id with
    | some committed => rfl
    | none => rfl

theorem answer_addTransaction (t : Tables) (transaction : Transaction) (c : ChangeSet) :
    t.answer (.addTransaction transaction) c
      = if ((c.transaction? transaction.id).or (t.transaction? transaction.id)).isSome then
          (.error (.alreadyExists ("transaction " ++ transaction.id.text)), c)
        else (.ok (), c.insertTransaction transaction) := by
  cases h : c.transaction? transaction.id with
  | some staged => simp only [answer, ChangeSet.answer, h]; rfl
  | none =>
    simp only [answer, ChangeSet.answer, h, reads]
    cases ht : t.transaction? transaction.id with
    | some committed => rfl
    | none => rfl

theorem answer_saveTransaction (t : Tables) (transaction : Transaction)
    (expected : ExpectedVersion) (c : ChangeSet) :
    t.answer (.saveTransaction transaction expected) c
      = c.settle (match c.transaction? transaction.id with
          | some staged => c.restageTransaction transaction staged expected
          | none => c.updateTransaction transaction expected
              ((t.transaction? transaction.id).map (·.version))) := by
  cases h : c.transaction? transaction.id with
  | some staged => simp only [answer, ChangeSet.answer, h]; rfl
  | none => simp only [answer, ChangeSet.answer, h]; rfl

theorem answer_stageCommand (t : Tables) (command : InternalCommand) (c : ChangeSet) :
    t.answer (.stageCommand command) c = c.settle (c.stageCommand command) := rfl

theorem answer_markProcessed (t : Tables) (id : CommandId) (claim : ClaimToken) (c : ChangeSet) :
    t.answer (.markProcessed id claim) c = (.ok (), c.markProcessed id claim) := rfl

end Tables

namespace ChangeSet

/-! ### Replacing keeps the keys -/

@[simp]
theorem ids_replaceTransaction (transaction : Transaction) (l : List StagedTransaction) :
    (replaceTransaction transaction l).map (·.transaction.id) = l.map (·.transaction.id) := by
  induction l with
  | nil => rfl
  | cons staged rest ih =>
    by_cases h : staged.transaction.id = transaction.id <;> simp [replaceTransaction, h, ih]

@[simp]
theorem gsrns_replacePoint (point : AccountingPoint) (l : List StagedPoint) :
    (replacePoint point l).map (·.point.gsrn.text) = l.map (·.point.gsrn.text) := by
  induction l with
  | nil => rfl
  | cons staged rest ih =>
    by_cases h : staged.point.gsrn = point.gsrn <;> simp [replacePoint, h, ih]

theorem transaction?_eq_none_iff {c : ChangeSet} {id : TransactionId} :
    c.transaction? id = none ↔ id ∉ c.transactions.map (·.transaction.id) := by
  simp [transaction?]

theorem point?_eq_none_iff {c : ChangeSet} {gsrn : String} :
    c.point? gsrn = none ↔ gsrn ∉ c.points.map (·.point.gsrn.text) := by
  simp [point?]

/-! ### Tidy change sets -/

/-- No key is staged twice: no command, mark, transaction or point. -/
structure Tidy (c : ChangeSet) : Prop where
  commands : (c.commands.map (·.id)).Nodup
  marks : (c.processed.map Prod.fst).Nodup
  transactions : (c.transactions.map (·.transaction.id)).Nodup
  points : (c.points.map (·.point.gsrn.text)).Nodup

theorem tidy_empty : Tidy .empty :=
  ⟨List.nodup_nil, List.nodup_nil, List.nodup_nil, List.nodup_nil⟩

variable {c : ChangeSet}

/-- The first mark of a unit. -/
theorem markProcessed_of_unmarked (unmarked : c.processed = []) (id : CommandId)
    (claim : ClaimToken) : c.markProcessed id claim = { c with processed := [(id, claim)] } := by
  simp [markProcessed, unmarked]

theorem tidy_markProcessed (h : c.Tidy) (id : CommandId) (claim : ClaimToken) :
    (c.markProcessed id claim).Tidy := by
  unfold markProcessed
  split
  · exact h
  · rename_i absent
    refine { h with marks := Tables.nodup_append_singleton Prod.fst h.marks ?_ }
    intro hid
    obtain ⟨mark, hmark, same⟩ := List.mem_map.mp hid
    exact absent (List.any_eq_true.mpr ⟨mark, hmark, by simpa using same⟩)

theorem tidy_insertTransaction (h : c.Tidy) {transaction : Transaction}
    (new : c.transaction? transaction.id = none) : (c.insertTransaction transaction).Tidy := by
  rw [transaction?_eq_none_iff] at new
  exact { h with transactions := Tables.nodup_append_singleton _ h.transactions new }

theorem eq_ok_of_settle {ε : Type} {outcome : Except ε ChangeSet} {u : Unit} {c' : ChangeSet}
    (h : c.settle outcome = (.ok u, c')) : outcome = .ok c' := by
  cases outcome with
  | ok staged => cases h; rfl
  | error e => cases h

/-- A refused question leaves the unit as it was; a granted one keeps it tidy if staging does. -/
theorem tidy_settle {ε : Type} (h : c.Tidy) {outcome : Except ε ChangeSet}
    (staged : ∀ c', outcome = .ok c' → c'.Tidy) : (c.settle outcome).2.Tidy := by
  cases outcome with
  | ok c' => exact staged c' rfl
  | error e => exact h

theorem tidy_stageCommand (h : c.Tidy) {command : InternalCommand} {c' : ChangeSet}
    (hc : c.stageCommand command = .ok c') : c'.Tidy := by
  unfold stageCommand at hc
  split at hc
  · cases hc
  · rename_i absent
    cases hc
    refine { h with commands := Tables.nodup_append_singleton _ h.commands fun hid => ?_ }
    obtain ⟨other, hother, same⟩ := List.mem_map.mp hid
    exact absent (List.any_eq_true.mpr ⟨other, hother, by simpa using same⟩)

/-- A transaction that is not staged yet is staged as it is. -/
theorem eq_of_updateTransaction {transaction : Transaction} {expected : ExpectedVersion}
    {version : Option Nat} {c' : ChangeSet}
    (hc : c.updateTransaction transaction expected version = .ok c') :
    c' = { c with transactions := c.transactions ++ [⟨transaction, .update expected⟩] } := by
  cases version with
  | none => cases hc
  | some version =>
    simp only [updateTransaction] at hc
    cases hv : checkVersion expected version ("transaction " ++ transaction.id.text) with
    | error e => rw [hv] at hc; cases hc
    | ok u => rw [hv] at hc; cases hc; rfl

theorem tidy_updateTransaction (h : c.Tidy) {transaction : Transaction}
    {expected : ExpectedVersion} {version : Option Nat} {c' : ChangeSet}
    (new : c.transaction? transaction.id = none)
    (hc : c.updateTransaction transaction expected version = .ok c') : c'.Tidy := by
  obtain rfl := eq_of_updateTransaction hc
  rw [transaction?_eq_none_iff] at new
  exact { h with transactions := Tables.nodup_append_singleton _ h.transactions new }

theorem tidy_restageTransaction (h : c.Tidy) {transaction staged : Transaction}
    {expected : ExpectedVersion} {c' : ChangeSet}
    (hc : c.restageTransaction transaction staged expected = .ok c') : c'.Tidy := by
  simp only [restageTransaction] at hc
  cases hv : checkVersion expected staged.version ("transaction " ++ transaction.id.text) with
  | error e => rw [hv] at hc; cases hc
  | ok u =>
    rw [hv] at hc
    cases hc
    exact { h with transactions := by simpa using h.transactions }

/-- A point that is not staged yet is staged as it is. -/
theorem eq_of_updatePoint {point : AccountingPoint} {expected : ExpectedVersion}
    {version : Option Nat} {c' : ChangeSet} (hc : c.updatePoint point expected version = .ok c') :
    c' = { c with points := c.points ++ [⟨point, expected⟩] } := by
  simp only [updatePoint] at hc
  cases hv : checkVersion expected (version.getD 0) ("accounting point " ++ point.gsrn.text) with
  | error e => rw [hv] at hc; cases hc
  | ok u => rw [hv] at hc; cases hc; rfl

theorem tidy_updatePoint (h : c.Tidy) {point : AccountingPoint} {expected : ExpectedVersion}
    {version : Option Nat} {c' : ChangeSet} (new : c.point? point.gsrn.text = none)
    (hc : c.updatePoint point expected version = .ok c') : c'.Tidy := by
  obtain rfl := eq_of_updatePoint hc
  rw [point?_eq_none_iff] at new
  exact { h with points := Tables.nodup_append_singleton _ h.points new }

theorem tidy_restagePoint (h : c.Tidy) {point staged : AccountingPoint}
    {expected : ExpectedVersion} {c' : ChangeSet}
    (hc : c.restagePoint point staged expected = .ok c') : c'.Tidy := by
  simp only [restagePoint] at hc
  cases hv : checkVersion expected staged.version ("accounting point " ++ point.gsrn.text) with
  | error e => rw [hv] at hc; cases hc
  | ok u =>
    rw [hv] at hc
    cases hc
    exact { h with points := by simpa using h.points }

/-- Whatever a unit is asked, and whatever the tables are at that moment, it stays tidy. -/
theorem tidy_answer (h : c.Tidy) (t : Tables) (call : UnitCall) : (t.answer call c).2.Tidy := by
  cases call with
  -- A question that only reads stages nothing.
  | findPoint gsrn => rw [Tables.answer_findPoint]; exact h
  | getTransaction id => rw [Tables.answer_getTransaction]; exact h
  | savePoint point expected =>
    rw [Tables.answer_savePoint]
    refine tidy_settle h fun c' hc => ?_
    -- What is staged under the number is replaced in its place; otherwise the number is new.
    cases hp : c.point? point.gsrn.text with
    | some staged => rw [hp] at hc; exact tidy_restagePoint h hc
    | none => rw [hp] at hc; exact tidy_updatePoint h hp hc
  | addTransaction transaction =>
    rw [Tables.answer_addTransaction]
    split
    · exact h
    · rename_i absent
      refine tidy_insertTransaction h ?_
      cases ht : c.transaction? transaction.id with
      | none => rfl
      | some staged => simp [ht] at absent
  | saveTransaction transaction expected =>
    rw [Tables.answer_saveTransaction]
    refine tidy_settle h fun c' hc => ?_
    cases ht : c.transaction? transaction.id with
    | some staged => rw [ht] at hc; exact tidy_restageTransaction h hc
    | none => rw [ht] at hc; exact tidy_updateTransaction h ht hc
  | stageCommand command =>
    rw [Tables.answer_stageCommand]
    exact tidy_settle h fun c' hc => tidy_stageCommand h hc
  | markProcessed id claim => exact tidy_markProcessed h id claim

end ChangeSet

end SupplierSwitch
