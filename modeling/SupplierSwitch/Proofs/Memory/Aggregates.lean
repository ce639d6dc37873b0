import SupplierSwitch.Proofs.Memory.Evolution
import SupplierSwitch.Proofs.Market.Processes
import Mathlib.Logic.Relation

namespace SupplierSwitch

namespace Memory

open Tables

/-!
# Aggregates of a unit of work

Transactions and accounting points are stored, staged and committed by the same rules: a unit sees
its own version before the committed one, a save replaces what the unit has staged, and a commit
writes one version above the one that it replaces. What holds by these rules alone is proved once,
for every sort of aggregate that keeps them.

* `Deed` — what a unit does with an aggregate;
* `Turn` — what a deed asks of the unit's view of one aggregate, and makes of it;
* `AggregateSort` — a sort of aggregate with the rules that it keeps;
* `transactions`, `points` — the two sorts of the store.
-/

/-! ### Sorts of aggregates -/

/-- What a unit of work does with an aggregate. Only what succeeds counts. -/
inductive Deed (α : Type) where
  | read (a : α)
  | save (a : α) (expected : ExpectedVersion)
  | add (a : α)

/-- The aggregate that it is about. -/
def Deed.aggregate {α : Type} : Deed α → α
  | read a | save a _ | add a => a

/-- The aggregate that is staged by it. -/
def Deed.staged? {α : Type} : Deed α → Option α
  | read _ => none
  | save a _ | add a => some a

/-- What a deed asks of one aggregate, of which `committed` is the committed snapshot, and how it
    changes what the unit has staged of it. -/
inductive Turn {α Key : Type} (key : α → Key) (version : α → Nat) (stamp : Nat → α → α) (k : Key)
    (committed : Option α) : Option (Deed α) →
      Option (α × TransactionWrite) → Option (α × TransactionWrite) → Prop where
  | elsewhere {deed? : Option (Deed α)} {staged : Option (α × TransactionWrite)}
      (other : ∀ deed, deed? = some deed → key deed.aggregate ≠ k) :
      Turn key version stamp k committed deed? staged staged
  /-- What is staged is read in place of what is committed. -/
  | read {a : α} {staged : Option (α × TransactionWrite)} (same : key a = k)
      (found : (staged.map Prod.fst).or committed = some a) :
      Turn key version stamp k committed (some (.read a)) staged staged
  /-- The first save is guarded by the version that it expects. -/
  | save {a : α} {expected : ExpectedVersion} (same : key a = k) :
      Turn key version stamp k committed (some (.save a expected)) none
        (some (a, .update expected))
  /-- Later saves expect the version of what is staged, and leave the guard as it was. -/
  | restage {a old : α} {expected : ExpectedVersion} {write : TransactionWrite} (same : key a = k)
      (guard : expected.Matches (version old)) :
      Turn key version stamp k committed (some (.save a expected)) (some (old, write))
        (some (a, write))
  | add {a : α} (same : key a = k) :
      Turn key version stamp k committed (some (.add a)) none (some (stamp 0 a, .insert))

namespace Turn

variable {α Key : Type} {key : α → Key} {version : α → Nat} {stamp : Nat → α → α} {k : Key}
variable {committed : Option α} {staged staged' : Option (α × TransactionWrite)}

theorem idle : Turn key version stamp k committed none staged staged :=
  .elsewhere nofun

/-- A deed that is about one aggregate leaves the others alone. -/
theorem ofIf {deed : Deed α} [Decidable (key deed.aggregate = k)]
    (here : key deed.aggregate = k →
      Turn key version stamp k committed (some deed) staged staged') :
    Turn key version stamp k committed (some deed) staged
      (if key deed.aggregate = k then staged' else staged) := by
  split
  · rename_i same
    exact here same
  · rename_i other
    refine .elsewhere ?_
    rintro _ ⟨⟩
    exact other

end Turn

/-- A sort of aggregate: where its aggregates are found, what the domain makes of them, and the
    rules that it keeps. -/
structure AggregateSort (α : Type) where
  Key : Type
  key : α → Key
  version : α → Nat
  stamp : Nat → α → α
  /-- The aggregate has not been stored yet. -/
  Begins : α → Prop
  /-- A method of the domain turns the first aggregate into the second. -/
  Changes : α → α → Prop
  committed : Tables → Key → Option α
  /-- What is staged of an aggregate, and whether it is to be new. -/
  staged : ChangeSet → Key → Option (α × TransactionWrite)
  /-- What an answered question to a unit has done. -/
  deed? : (call : UnitCall) → call.Answer → Option (Deed α)
  version_of_begins : ∀ {a}, Begins a → version a = 0
  key_of_changes : ∀ {a b}, Changes a b → key b = key a
  version_of_changes : ∀ {a b}, Changes a b → version b = version a
  version_stamp : ∀ n a, version (stamp n a) = n
  key_of_committed : ∀ {t k a}, committed t k = some a → key a = k
  committed_empty : ∀ k, committed .empty k = none
  committed_updateRow : ∀ (t : Tables) id change k,
    committed (t.updateRow id change) k = committed t k
  staged_empty : ∀ k, staged .empty k = none
  /-- What is committed stays, or is replaced by a higher version. -/
  later : ∀ {t t' : Tables} {k a}, t.Evolves t' → committed t k = some a →
    ∃ a', committed t' k = some a' ∧ (a' = a ∨ version a < version a')
  turn : ∀ {t : Tables} {call c answer c'}, t.answer call c = (answer, c') → ∀ k,
    Turn key version stamp k (committed t k) (deed? call answer) (staged c k) (staged c' k)
  begins_of_add : ∀ {t : Tables} {call c answer c' a}, t.answer call c = (answer, c') →
    deed? call answer = some (.add a) → Begins (stamp 0 a)
  /-- A commit finds nothing where it is to write something new, and else an expected version. -/
  fits : ∀ {t : Tables} {c k a write}, t.Admits c → staged c k = some (a, write) →
    (write = .insert → committed t k = none) ∧
      ∀ expected, write = .update expected →
        expected.Matches (((committed t k).map version).getD 0)
  /-- A commit writes what is staged, one version above what it replaces, and nothing else. -/
  written : ∀ {t c now t'}, ChangeSet.Tidy c → Tables.Receives t c now t' → ∀ k,
    committed t' k = match staged c k with
      | some (a, _) => some (stamp (((committed t k).map version).getD 0 + 1) a)
      | none => committed t k

/-! ### What is staged under a key -/

section Staged

variable {β κ : Type} [DecidableEq κ] (key : β → κ)

/-- Change the first element under a key. -/
def changeFirst (k : κ) (f : β → β) : List β → List β
  | [] => []
  | b :: rest => if key b = k then f b :: rest else b :: changeFirst k f rest

theorem under_changeFirst {k : κ} {f : β → β} (keeps : ∀ b, key b = k → key (f b) = k) (x : κ)
    (l : List β) :
    under key x (changeFirst key k f l)
      = if k = x then (under key x l).map f else under key x l := by
  unfold under
  induction l with
  | nil => simp [changeFirst]
  | cons b rest ih =>
    by_cases here : key b = k
    · by_cases same : k = x
      · simp [changeFirst, here, same, keeps b here]
      · simp [changeFirst, here, same, keeps b here]
    · rw [changeFirst, if_neg here, List.find?_cons, List.find?_cons, ih]
      by_cases found : key b = x
      · have other : k ≠ x := fun same => here (found.trans same.symm)
        simp [found, other]
      · simp [found]

theorem under_append_singleton {l : List β} {b : β} (new : under key (key b) l = none) (x : κ) :
    under key x (l ++ [b]) = if key b = x then some b else under key x l := by
  rw [under, List.find?_append]
  split
  · rename_i same
    rw [← same, show l.find? (fun a => decide (key a = key b)) = none from new]
    simp
  · rename_i other
    simp [under, other]

end Staged

/-! ### What a save comes to -/

variable {t : Tables} {c c' : ChangeSet} {expected : ExpectedVersion}

/-- A question that is refused leaves the unit as it was. -/
theorem settle_cases {ε : Type} {outcome : Except ε ChangeSet} {answer : Except ε Unit}
    (h : c.settle outcome = (answer, c')) :
    ((∃ e, answer = .error e) ∧ c' = c) ∨ (answer = .ok () ∧ outcome = .ok c') := by
  cases outcome with
  | ok staged =>
    cases h
    exact .inr ⟨rfl, rfl⟩
  | error e =>
    cases h
    exact .inl ⟨⟨e, rfl⟩, rfl⟩

/-- What is guarded by a version is done if the version is the expected one. -/
theorem restaged_of_ok {actual : Nat} {what : String} {restaged : Unit → ChangeSet}
    (h : (ChangeSet.checkVersion expected actual what).map restaged = .ok c') :
    expected.Matches actual ∧ c' = restaged () := by
  by_cases matched : expected.Matches actual
  · simp only [ChangeSet.checkVersion, ExpectedVersion.check, if_pos matched, Except.mapError,
      Except.map, Except.ok.injEq] at h
    exact ⟨matched, h.symm⟩
  · simp [ChangeSet.checkVersion, ExpectedVersion.check, matched, Except.mapError, Except.map] at h

/-- A transaction that is saved is staged last, or in place of what was staged before. -/
theorem saveTransaction_cases {transaction : Transaction} {answer : Except RepositoryError Unit}
    (h : t.answer (.saveTransaction transaction expected) c = (answer, c')) :
    ((∃ e, answer = .error e) ∧ c' = c) ∨ answer = .ok () ∧
      ((c.transaction? transaction.id = none ∧
        c' = { c with transactions := c.transactions ++ [⟨transaction, .update expected⟩] }) ∨
      ∃ old, c.transaction? transaction.id = some old ∧ expected.Matches old.version ∧
        c' = { c with
          transactions := ChangeSet.replaceTransaction transaction c.transactions }) := by
  rw [answer_saveTransaction] at h
  obtain refused | ⟨granted, staged⟩ := settle_cases h
  · exact .inl refused
  · refine .inr ⟨granted, ?_⟩
    cases found : c.transaction? transaction.id with
    | none =>
      rw [found] at staged
      exact .inl ⟨rfl, ChangeSet.eq_of_updateTransaction staged⟩
    | some old =>
      rw [found] at staged
      exact .inr ⟨old, rfl, restaged_of_ok staged⟩

/-- A point that is saved is staged last, or in place of what was staged before. -/
theorem savePoint_cases {point : AccountingPoint} {answer : Except RepositoryError Unit}
    (h : t.answer (.savePoint point expected) c = (answer, c')) :
    ((∃ e, answer = .error e) ∧ c' = c) ∨ answer = .ok () ∧
      ((c.point? point.gsrn.text = none ∧
        c' = { c with points := c.points ++ [⟨point, expected⟩] }) ∨
      ∃ old, c.point? point.gsrn.text = some old ∧ expected.Matches old.version ∧
        c' = { c with points := ChangeSet.replacePoint point c.points }) := by
  rw [answer_savePoint] at h
  obtain refused | ⟨granted, staged⟩ := settle_cases h
  · exact .inl refused
  · refine .inr ⟨granted, ?_⟩
    cases found : c.point? point.gsrn.text with
    | none =>
      rw [found] at staged
      exact .inl ⟨rfl, ChangeSet.eq_of_updatePoint staged⟩
    | some old =>
      rw [found] at staged
      exact .inr ⟨old, rfl, restaged_of_ok staged⟩

/-- Commands are staged, and marked, by no question but the ones for it. -/
theorem answer_outbox (t : Tables) (c : ChangeSet) (call : UnitCall) :
    ((t.answer call c).2.commands = c.commands ∨
      ∃ command, call = .stageCommand command ∧
        (t.answer call c).2.commands = c.commands ++ [command]) ∧
    ((t.answer call c).2.processed = c.processed ∨
      ∃ id claim, call = .markProcessed id claim) := by
  cases call with
  | findPoint gsrn =>
    rw [answer_findPoint]
    exact ⟨.inl rfl, .inl rfl⟩
  | getTransaction id =>
    rw [answer_getTransaction]
    exact ⟨.inl rfl, .inl rfl⟩
  | addTransaction transaction =>
    rw [answer_addTransaction]
    split <;> exact ⟨.inl rfl, .inl rfl⟩
  | savePoint point expected =>
    rcases h : t.answer (.savePoint point expected) c with ⟨answer, c'⟩
    obtain ⟨-, rfl⟩ | ⟨-, ⟨-, rfl⟩ | ⟨old, -, -, rfl⟩⟩ := savePoint_cases h
    all_goals exact ⟨.inl rfl, .inl rfl⟩
  | saveTransaction transaction expected =>
    rcases h : t.answer (.saveTransaction transaction expected) c with ⟨answer, c'⟩
    obtain ⟨-, rfl⟩ | ⟨-, ⟨-, rfl⟩ | ⟨old, -, -, rfl⟩⟩ := saveTransaction_cases h
    all_goals exact ⟨.inl rfl, .inl rfl⟩
  | stageCommand command =>
    rw [answer_stageCommand, ChangeSet.stageCommand]
    split
    · exact ⟨.inl rfl, .inl rfl⟩
    · exact ⟨.inr ⟨command, rfl, rfl⟩, .inl rfl⟩
  | markProcessed id claim =>
    rw [answer_markProcessed, ChangeSet.markProcessed]
    refine ⟨.inl ?_, .inr ⟨id, claim, rfl⟩⟩
    split <;> rfl

/-! ### Transactions -/

/-- A method of a transaction. -/
inductive Transaction.Changes : Transaction → Transaction → Prop where
  | attached {transaction transaction' : Transaction} {message : OutboundMessage}
      (ok : transaction.attach message = .ok transaction') :
      Transaction.Changes transaction transaction'

/-- What a unit does with a transaction. -/
def transactionDeed? : (call : UnitCall) → call.Answer → Option (Deed Transaction)
  | .getTransaction _, .ok transaction => some (.read transaction)
  | .saveTransaction transaction expected, .ok () => some (.save transaction expected)
  | .addTransaction transaction, .ok () => some (.add transaction)
  | _, _ => none

/-- What is staged of a transaction. -/
def stagedTransaction (c : ChangeSet) (id : TransactionId) :
    Option (Transaction × TransactionWrite) :=
  (under (·.transaction.id) id c.transactions).map fun staged => (staged.transaction, staged.write)

theorem map_stagedTransaction (c : ChangeSet) (id : TransactionId) :
    (stagedTransaction c id).map Prod.fst = c.transaction? id := by
  rw [stagedTransaction, Option.map_map]
  rfl

theorem stagedTransaction_eq_none {id : TransactionId} (new : c.transaction? id = none) :
    stagedTransaction c id = none := by
  rw [← map_stagedTransaction, Option.map_eq_none_iff] at new
  exact new

/-- What is staged last is found, … -/
theorem stagedTransaction_append {staged : StagedTransaction}
    (new : c.transaction? staged.transaction.id = none) (id : TransactionId) :
    stagedTransaction { c with transactions := c.transactions ++ [staged] } id
      = if staged.transaction.id = id then some (staged.transaction, staged.write)
        else stagedTransaction c id := by
  rw [ChangeSet.transaction?, Option.map_eq_none_iff] at new
  have last := under_append_singleton (fun staged : StagedTransaction => staged.transaction.id)
    new id
  simp only [stagedTransaction]
  rw [last]
  split <;> rfl

theorem replaceTransaction_eq (transaction : Transaction) (l : List StagedTransaction) :
    ChangeSet.replaceTransaction transaction l
      = changeFirst (·.transaction.id) transaction.id
          (fun staged => { staged with transaction := transaction }) l := by
  induction l with
  | nil => rfl
  | cons staged rest ih => simp only [ChangeSet.replaceTransaction, changeFirst, ih]

/-- … and so is what takes the place of something staged. -/
theorem stagedTransaction_replace (c : ChangeSet) (transaction : Transaction)
    (id : TransactionId) :
    stagedTransaction { c with
        transactions := ChangeSet.replaceTransaction transaction c.transactions } id
      = if transaction.id = id then
          (stagedTransaction c id).map fun staged => (transaction, staged.2)
        else stagedTransaction c id := by
  simp only [stagedTransaction, replaceTransaction_eq]
  rw [under_changeFirst _ (by intros; rfl)]
  split
  · rw [Option.map_map, Option.map_map]
    rfl
  · rfl

/-- What a unit finds under a name has the name. -/
theorem id_of_found {name : TransactionId} {transaction : Transaction}
    (h : (c.transaction? name).or (t.transaction? name) = some transaction) :
    transaction.id = name := by
  obtain staged | ⟨-, committed⟩ := Option.or_eq_some_iff.mp h
  · obtain ⟨entry, found, rfl⟩ := Option.map_eq_some_iff.mp staged
    exact key_of_under (fun staged : StagedTransaction => staged.transaction.id) found
  · exact id_of_transaction? committed

/-- What a question to a unit does to one transaction. -/
theorem turn_transaction {call : UnitCall} {answer : call.Answer}
    (h : t.answer call c = (answer, c')) (id : TransactionId) :
    Turn Transaction.id Transaction.version (fun n t => { t with version := n }) id
      (t.transaction? id) (transactionDeed? call answer) (stagedTransaction c id)
      (stagedTransaction c' id) := by
  cases call with
  | getTransaction name =>
    rw [answer_getTransaction] at h
    cases found : (c.transaction? name).or (t.transaction? name) with
    | none =>
      rw [found] at h
      cases h
      exact .idle
    | some transaction =>
      rw [found] at h
      cases h
      by_cases here : transaction.id = id
      · refine .read here ?_
        rw [map_stagedTransaction, ← here, id_of_found found]
        exact found
      · refine .elsewhere ?_
        rintro _ ⟨⟩
        exact here
  | saveTransaction transaction expected =>
    obtain ⟨⟨e, rfl⟩, rfl⟩ | ⟨rfl, ⟨new, rfl⟩ | ⟨old, staged, matched, rfl⟩⟩ :=
      saveTransaction_cases h
    · exact .idle
    · rw [stagedTransaction_append new]
      refine .ofIf fun (here : transaction.id = id) => ?_
      rw [← here, stagedTransaction_eq_none new]
      exact .save rfl
    · rw [stagedTransaction_replace]
      refine .ofIf fun (here : transaction.id = id) => ?_
      rw [← map_stagedTransaction] at staged
      obtain ⟨⟨_, write⟩, found, rfl⟩ := Option.map_eq_some_iff.mp staged
      rw [← here, found]
      exact .restage rfl matched
  | addTransaction transaction =>
    rw [answer_addTransaction] at h
    split at h
    · cases h
      exact .idle
    · rename_i absent
      cases h
      have new : c.transaction? transaction.id = none := by
        cases found : c.transaction? transaction.id with
        | none => rfl
        | some staged => simp [found] at absent
      rw [ChangeSet.insertTransaction, stagedTransaction_append new]
      refine .ofIf fun (here : transaction.id = id) => ?_
      rw [← here, stagedTransaction_eq_none new]
      exact .add rfl
  | findPoint gsrn =>
    rw [answer_findPoint] at h
    cases h
    exact .idle
  | savePoint point expected =>
    obtain ⟨-, rfl⟩ | ⟨-, ⟨-, rfl⟩ | ⟨-, -, -, rfl⟩⟩ := savePoint_cases h <;> exact .idle
  | stageCommand command =>
    obtain ⟨-, rfl⟩ | ⟨-, staged⟩ := settle_cases h
    · exact .idle
    · rw [ChangeSet.stageCommand] at staged
      split at staged
      · cases staged
      · cases staged
        exact .idle
  | markProcessed command claim =>
    cases h
    rw [ChangeSet.markProcessed]
    split <;> exact .idle

theorem stagedTransaction_eq_some {id : TransactionId} {transaction : Transaction}
    {write : TransactionWrite} (h : stagedTransaction c id = some (transaction, write)) :
    ⟨transaction, write⟩ ∈ c.transactions ∧ transaction.id = id := by
  obtain ⟨staged, found, same⟩ := Option.map_eq_some_iff.mp h
  cases same
  exact ⟨List.mem_of_find?_eq_some found,
    key_of_under (fun staged : StagedTransaction => staged.transaction.id) found⟩

/-- The transactions of the store. -/
def transactions : AggregateSort Transaction where
  Key := TransactionId
  key := Transaction.id
  version := Transaction.version
  stamp n transaction := { transaction with version := n }
  Begins transaction := transaction.version = 0
  Changes := Transaction.Changes
  committed := Tables.transaction?
  staged := stagedTransaction
  deed? := transactionDeed?
  version_of_begins begins := begins
  key_of_changes changes := by
    cases changes with
    | attached ok => rw [Transaction.eq_of_attach ok]
  version_of_changes changes := by
    cases changes with
    | attached ok => rw [Transaction.eq_of_attach ok]
  version_stamp _ _ := rfl
  key_of_committed := id_of_transaction?
  committed_empty _ := rfl
  committed_updateRow _ _ _ _ := rfl
  staged_empty _ := rfl
  later evolves found := by
    obtain ⟨later, found', newer⟩ := evolves.transactions _ _ found
    rw [id_of_transaction? found] at found'
    exact ⟨later, found', newer⟩
  turn := turn_transaction
  begins_of_add _ _ := rfl
  fits admits staged := by
    obtain ⟨mem, rfl⟩ := stagedTransaction_eq_some staged
    refine ⟨admits.inserts _ mem, fun expected update => ?_⟩
    obtain ⟨current, found, matched⟩ := admits.updates _ mem expected update
    rw [found]
    exact matched
  written _ receives id := by
    cases found : stagedTransaction _ id with
    | none =>
      rw [stagedTransaction, Option.map_eq_none_iff, under_eq_none] at found
      exact receives.otherTransactions id found
    | some staged =>
      obtain ⟨mem, rfl⟩ := stagedTransaction_eq_some found
      exact receives.transactions _ mem

/-! ### Accounting points -/

/-- A method of an accounting point. -/
inductive AccountingPoint.Changes : AccountingPoint → AccountingPoint → Prop where
  | registered {p p' : AccountingPoint} {id : ProcessId} {kind : ProcessKind}
      {supplier : GlnNumber} {date : Date} (ok : p.registerProcess id kind supplier date = .ok p') :
      AccountingPoint.Changes p p'
  | effectuated {p p' : AccountingPoint} {id : ProcessId} (ok : p.effectuate id = .ok p') :
      AccountingPoint.Changes p p'
  | supplied (p : AccountingPoint) (supplier : GlnNumber) :
      AccountingPoint.Changes p { p with energySupplier := some supplier }

/-- What a unit does with an accounting point. -/
def pointDeed? : (call : UnitCall) → call.Answer → Option (Deed AccountingPoint)
  | .findPoint _, .ok (some point) => some (.read point)
  | .savePoint point expected, .ok () => some (.save point expected)
  | _, _ => none

/-- What is staged of an accounting point. -/
def stagedPoint (c : ChangeSet) (gsrn : String) : Option (AccountingPoint × TransactionWrite) :=
  (under (·.point.gsrn.text) gsrn c.points).map fun staged =>
    (staged.point, .update staged.expected)

theorem map_stagedPoint (c : ChangeSet) (gsrn : String) :
    (stagedPoint c gsrn).map Prod.fst = c.point? gsrn := by
  rw [stagedPoint, Option.map_map]
  rfl

theorem stagedPoint_eq_none {gsrn : String} (new : c.point? gsrn = none) :
    stagedPoint c gsrn = none := by
  rw [← map_stagedPoint, Option.map_eq_none_iff] at new
  exact new

theorem stagedPoint_eq_some {gsrn : String} {point : AccountingPoint} {write : TransactionWrite}
    (h : stagedPoint c gsrn = some (point, write)) :
    ∃ expected, write = .update expected ∧ ⟨point, expected⟩ ∈ c.points ∧
      point.gsrn.text = gsrn := by
  obtain ⟨staged, found, same⟩ := Option.map_eq_some_iff.mp h
  cases same
  exact ⟨staged.expected, rfl, List.mem_of_find?_eq_some found,
    key_of_under (fun staged : StagedPoint => staged.point.gsrn.text) found⟩

/-- What is staged last is found, … -/
theorem stagedPoint_append {staged : StagedPoint}
    (new : c.point? staged.point.gsrn.text = none) (gsrn : String) :
    stagedPoint { c with points := c.points ++ [staged] } gsrn
      = if staged.point.gsrn.text = gsrn then some (staged.point, .update staged.expected)
        else stagedPoint c gsrn := by
  rw [ChangeSet.point?, Option.map_eq_none_iff] at new
  have last := under_append_singleton (fun staged : StagedPoint => staged.point.gsrn.text) new gsrn
  simp only [stagedPoint]
  rw [last]
  split <;> rfl

/-- Numbers are the same if they are written the same way. -/
theorem gsrn_eq_iff {a b : Gsrn} : a = b ↔ a.text = b.text := by
  cases a
  cases b
  simp

theorem replacePoint_eq (point : AccountingPoint) (l : List StagedPoint) :
    ChangeSet.replacePoint point l
      = changeFirst (·.point.gsrn.text) point.gsrn.text
          (fun staged => { staged with point := point }) l := by
  induction l with
  | nil => rfl
  | cons staged rest ih => simp only [ChangeSet.replacePoint, changeFirst, ih, gsrn_eq_iff]

/-- … and so is what takes the place of something staged. -/
theorem stagedPoint_replace (c : ChangeSet) (point : AccountingPoint) (gsrn : String) :
    stagedPoint { c with points := ChangeSet.replacePoint point c.points } gsrn
      = if point.gsrn.text = gsrn then (stagedPoint c gsrn).map fun staged => (point, staged.2)
        else stagedPoint c gsrn := by
  simp only [stagedPoint, replacePoint_eq]
  rw [under_changeFirst _ (by intros; rfl)]
  split
  · rw [Option.map_map, Option.map_map]
    rfl
  · rfl

/-- What a unit finds under a number has the number. -/
theorem gsrn_of_found {gsrn : String} {point : AccountingPoint}
    (h : (c.point? gsrn).or (t.point? gsrn) = some point) : point.gsrn.text = gsrn := by
  obtain staged | ⟨-, committed⟩ := Option.or_eq_some_iff.mp h
  · obtain ⟨entry, found, rfl⟩ := Option.map_eq_some_iff.mp staged
    exact key_of_under (fun staged : StagedPoint => staged.point.gsrn.text) found
  · exact gsrn_of_point? committed

/-- What a question to a unit does to one point. -/
theorem turn_point {call : UnitCall} {answer : call.Answer}
    (h : t.answer call c = (answer, c')) (gsrn : String) :
    Turn (fun p => p.gsrn.text) AccountingPoint.version (fun n p => { p with version := n }) gsrn
      (t.point? gsrn) (pointDeed? call answer) (stagedPoint c gsrn) (stagedPoint c' gsrn) := by
  cases call with
  | findPoint name =>
    rw [answer_findPoint] at h
    cases found : (c.point? name).or (t.point? name) with
    | none =>
      rw [found] at h
      cases h
      exact .idle
    | some point =>
      rw [found] at h
      cases h
      by_cases here : point.gsrn.text = gsrn
      · refine .read here ?_
        rw [map_stagedPoint, ← here, gsrn_of_found found]
        exact found
      · refine .elsewhere ?_
        rintro _ ⟨⟩
        exact here
  | savePoint point expected =>
    obtain ⟨⟨e, rfl⟩, rfl⟩ | ⟨rfl, ⟨new, rfl⟩ | ⟨old, staged, matched, rfl⟩⟩ := savePoint_cases h
    · exact .idle
    · rw [stagedPoint_append new]
      refine .ofIf fun (here : point.gsrn.text = gsrn) => ?_
      rw [← here, stagedPoint_eq_none new]
      exact .save rfl
    · rw [stagedPoint_replace]
      refine .ofIf fun (here : point.gsrn.text = gsrn) => ?_
      rw [← map_stagedPoint] at staged
      obtain ⟨⟨_, write⟩, found, rfl⟩ := Option.map_eq_some_iff.mp staged
      rw [← here, found]
      exact .restage rfl matched
  | getTransaction name =>
    rw [answer_getTransaction] at h
    split at h <;> (cases h; exact .idle)
  | addTransaction transaction =>
    rw [answer_addTransaction] at h
    split at h <;> (cases h; exact .idle)
  | saveTransaction transaction expected =>
    obtain ⟨-, rfl⟩ | ⟨-, ⟨-, rfl⟩ | ⟨-, -, -, rfl⟩⟩ := saveTransaction_cases h <;> exact .idle
  | stageCommand command =>
    obtain ⟨-, rfl⟩ | ⟨-, staged⟩ := settle_cases h
    · exact .idle
    · rw [ChangeSet.stageCommand] at staged
      split at staged
      · cases staged
      · cases staged
        exact .idle
  | markProcessed command claim =>
    cases h
    rw [ChangeSet.markProcessed]
    split <;> exact .idle

/-- The accounting points of the store. -/
def points : AggregateSort AccountingPoint where
  Key := String
  key point := point.gsrn.text
  version := AccountingPoint.version
  stamp n point := { point with version := n }
  Begins point := point = .fresh point.gsrn
  Changes := AccountingPoint.Changes
  committed := Tables.point?
  staged := stagedPoint
  deed? := pointDeed?
  version_of_begins begins := by rw [begins]; rfl
  key_of_changes changes := by
    cases changes with
    | registered ok => rw [(AccountingPoint.registerProcess_ok_iff.mp ok).2.2]
    | effectuated ok =>
      obtain ⟨q, -, -, rfl⟩ := AccountingPoint.effectuate_ok_iff.mp ok
      rfl
    | supplied supplier => rfl
  version_of_changes changes := by
    cases changes with
    | registered ok => rw [(AccountingPoint.registerProcess_ok_iff.mp ok).2.2]
    | effectuated ok =>
      obtain ⟨q, -, -, rfl⟩ := AccountingPoint.effectuate_ok_iff.mp ok
      rfl
    | supplied supplier => rfl
  version_stamp _ _ := rfl
  key_of_committed := gsrn_of_point?
  committed_empty _ := rfl
  committed_updateRow _ _ _ _ := rfl
  staged_empty _ := rfl
  later evolves found := by
    obtain ⟨later, found', newer⟩ := evolves.points _ _ found
    rw [gsrn_of_point? found] at found'
    exact ⟨later, found', newer⟩
  turn := turn_point
  -- A point is never added: a missing one is saved like one of version 0.
  begins_of_add _ added := by
    unfold pointDeed? at added
    split at added <;> cases added
  fits admits staged := by
    obtain ⟨expected, rfl, mem, rfl⟩ := stagedPoint_eq_some staged
    refine ⟨nofun, ?_⟩
    rintro _ ⟨⟩
    exact admits.points _ mem
  written _ receives gsrn := by
    cases found : stagedPoint _ gsrn with
    | none =>
      rw [stagedPoint, Option.map_eq_none_iff, under_eq_none] at found
      exact receives.otherPoints gsrn found
    | some staged =>
      obtain ⟨expected, -, mem, rfl⟩ := stagedPoint_eq_some found
      exact receives.points _ mem

end Memory

end SupplierSwitch
