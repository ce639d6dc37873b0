import SupplierSwitch.Proofs.Memory.Lifecycle

namespace SupplierSwitch

/-!
# What later tables have in common with earlier ones

A program reads the tables at one moment and commits at another, while others commit in between.
What it may rely on is that nothing stored is lost: commands stay what they are, and a transaction
or an accounting point is either the same or has a higher version. That is what the version guards
of a commit are good for: a matching version means the very value that was read.

* `Tables.Evolves` — the relation, an order on tables;
* `Memory.Step.evolves` — every call respects it;
* `Tables.SeenPoint`, `Tables.SeenTransaction` — what was read at some earlier moment, and
  `Tables.SeenPoint.current` — what a guard makes of it.
-/

/-- A row at a later moment: the same command, and processed for good once it is. -/
structure CommandRow.Continues (row later : CommandRow) : Prop where
  kind : later.command.kind = row.command.kind
  payload : later.command.payload = row.command.payload
  processed : row.command.processed = true → later.command.processed = true

namespace CommandRow.Continues

variable {row later latest : CommandRow}

theorem refl (row : CommandRow) : row.Continues row :=
  ⟨rfl, rfl, id⟩

theorem trans (h : row.Continues later) (h' : later.Continues latest) : row.Continues latest :=
  ⟨h'.kind.trans h.kind, h'.payload.trans h.payload, h'.processed ∘ h.processed⟩

end CommandRow.Continues

namespace Tables

/-- The transaction, or one that has taken its place. -/
def SeenTransaction (t : Tables) (transaction : Transaction) : Prop :=
  ∃ later, t.transaction? transaction.id = some later ∧
    (later = transaction ∨ transaction.version < later.version)

/-- The accounting point, or one that has taken its place. -/
def SeenPoint (t : Tables) (point : AccountingPoint) : Prop :=
  ∃ later, t.point? point.gsrn.text = some later ∧
    (later = point ∨ point.version < later.version)

/-- Nothing that is stored in `t` is lost in `t'`. -/
structure Evolves (t t' : Tables) : Prop where
  rows : ∀ id row, t.row? id = some row → ∃ later, t'.row? id = some later ∧ row.Continues later
  transactions : ∀ id transaction, t.transaction? id = some transaction →
    t'.SeenTransaction transaction
  points : ∀ gsrn point, t.point? gsrn = some point → t'.SeenPoint point

variable {t t' t'' : Tables}

theorem seenTransaction_of_transaction? {id : TransactionId} {transaction : Transaction}
    (h : t.transaction? id = some transaction) : t.SeenTransaction transaction :=
  ⟨transaction, by rw [id_of_transaction? h, h], .inl rfl⟩

theorem seenPoint_of_point? {gsrn : String} {point : AccountingPoint}
    (h : t.point? gsrn = some point) : t.SeenPoint point :=
  ⟨point, by rw [gsrn_of_point? h, h], .inl rfl⟩

/-- What was seen before stays seen. -/
theorem SeenTransaction.later {transaction : Transaction} (h : t.SeenTransaction transaction)
    (evolves : t.Evolves t') : t'.SeenTransaction transaction := by
  obtain ⟨between, found, old⟩ := h
  obtain ⟨last, found', new⟩ := evolves.transactions _ _ found
  rw [id_of_transaction? found] at found'
  refine ⟨last, found', ?_⟩
  -- Versions only go up, so that one replacement after another is a replacement.
  obtain rfl | old := old
  · exact new
  · obtain rfl | new := new
    · exact .inr old
    · exact .inr (Nat.lt_trans old new)

theorem SeenPoint.later {point : AccountingPoint} (h : t.SeenPoint point)
    (evolves : t.Evolves t') : t'.SeenPoint point := by
  obtain ⟨between, found, old⟩ := h
  obtain ⟨last, found', new⟩ := evolves.points _ _ found
  rw [gsrn_of_point? found] at found'
  refine ⟨last, found', ?_⟩
  obtain rfl | old := old
  · exact new
  · obtain rfl | new := new
    · exact .inr old
    · exact .inr (Nat.lt_trans old new)

namespace Evolves

theorem refl (t : Tables) : t.Evolves t :=
  ⟨fun _ row h => ⟨row, h, .refl row⟩, fun _ _ => seenTransaction_of_transaction?,
    fun _ _ => seenPoint_of_point?⟩

theorem trans (h : t.Evolves t') (h' : t'.Evolves t'') : t.Evolves t'' := by
  refine ⟨fun id row found => ?_, fun id transaction found => ?_, fun gsrn point found => ?_⟩
  · obtain ⟨later, found', same⟩ := h.rows id row found
    obtain ⟨latest, found'', same'⟩ := h'.rows id later found'
    exact ⟨latest, found'', same.trans same'⟩
  · exact (h.transactions id transaction found).later h'
  · exact (h.points gsrn point found).later h'

end Evolves

/-! ### What a guard makes of what was seen -/

/-- A transaction that was seen and is still there in its version is still the same. -/
theorem SeenTransaction.current {transaction current : Transaction}
    (h : t.SeenTransaction transaction) (found : t.transaction? transaction.id = some current)
    (guard : (ExpectedVersion.exact transaction.version).Matches current.version) :
    current = transaction := by
  obtain ⟨later, found', same | newer⟩ := h
  · exact (Option.some.inj (found.symm.trans found')).trans same
  · cases found.symm.trans found'
    exact absurd guard (Nat.ne_of_lt newer)

/-- A point that was seen and is still there in its version is still the same. -/
theorem SeenPoint.current {point : AccountingPoint} (h : t.SeenPoint point)
    (guard : (ExpectedVersion.exact point.version).Matches (t.pointVersion point.gsrn)) :
    t.point? point.gsrn.text = some point := by
  obtain ⟨later, found, rfl | newer⟩ := h
  · exact found
  · rw [pointVersion, found] at guard
    exact absurd guard (Nat.ne_of_lt newer)

/-! ### A commit respects the order -/

theorem Receives.seenTransaction {c : ChangeSet} {now : Timestamp} (h : t.Receives c now t')
    {id : TransactionId} {transaction : Transaction}
    (found : t.transaction? id = some transaction) : t'.SeenTransaction transaction := by
  have same := id_of_transaction? found
  by_cases staged : id ∈ c.transactions.map (·.transaction.id)
  · obtain ⟨write, mem, rfl⟩ := List.mem_map.mp staged
    refine ⟨_, same ▸ h.transactions write mem, .inr ?_⟩
    rw [same, found]
    exact Nat.lt_succ_self _
  · exact seenTransaction_of_transaction? ((h.otherTransactions id staged).trans found)

theorem Receives.seenPoint {c : ChangeSet} {now : Timestamp} (h : t.Receives c now t')
    {gsrn : String} {point : AccountingPoint} (found : t.point? gsrn = some point) :
    t'.SeenPoint point := by
  have same := gsrn_of_point? found
  by_cases staged : gsrn ∈ c.points.map (·.point.gsrn.text)
  · obtain ⟨write, mem, rfl⟩ := List.mem_map.mp staged
    refine ⟨_, same ▸ h.points write mem, .inr ?_⟩
    rw [same, found]
    exact Nat.lt_succ_self _
  · exact seenPoint_of_point? ((h.otherPoints gsrn staged).trans found)

end Tables

namespace Memory

open Tables

/-- Whatever happens to the row of a command, it is the same command afterwards. -/
theorem RowStep.continues {id : CommandId} {e : Event} {row : CommandRow} {r' : Option CommandRow}
    (h : RowStep id e (some row) r') : ∃ later, r' = some later ∧ row.Continues later := by
  have kept (error : String) (policy : RetryPolicy) (now : Timestamp) :
      row.Continues ⟨(Tables.failed row.command error policy now).1, none⟩ := by
    rw [Tables.failed_eq]
    exact ⟨rfl, rfl, fun done => done⟩
  -- None of the changes looks at kind or payload, and none takes a mark back.
  cases h with
  | untouched _ => exact ⟨row, rfl, .refl row⟩
  | processed _ _ _ => exact ⟨_, rfl, rfl, rfl, fun _ => rfl⟩
  | claimed _ _ => exact ⟨_, rfl, rfl, rfl, fun done => done⟩
  | failed _ => exact ⟨_, rfl, kept _ _ _⟩
  | revived _ => exact ⟨_, rfl, rfl, rfl, fun done => done⟩

/-- Nothing that is stored is lost by a call. -/
theorem Step.evolves {s s' : Shared} {e : Event} (tidy : s.Tidy) (keyed : s.tables.Keyed)
    (h : Step s e s') : s.tables.Evolves s'.tables := by
  have rows : ∀ id row, s.tables.row? id = some row →
      ∃ later, s'.tables.row? id = some later ∧ row.Continues later := by
    intro id row found
    have next := h.rowStep tidy keyed id
    rw [found] at next
    exact next.continues
  obtain same | ⟨n, c, now, rfl, admits, same⟩ | ⟨id, change, hchange, same⟩ := h.effect.written
  · rw [same]
    exact .refl _
  · have receives := receives_apply (tidy n c h.isOpen) admits now
    rw [same] at rows ⊢
    exact ⟨rows, fun _ _ => receives.seenTransaction, fun _ _ => receives.seenPoint⟩
  · rw [same] at rows ⊢
    exact ⟨rows, fun _ _ => seenTransaction_of_transaction?, fun _ _ => seenPoint_of_point?⟩

end Memory

end SupplierSwitch
