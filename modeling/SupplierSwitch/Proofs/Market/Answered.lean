import SupplierSwitch.Proofs.Market.Processes
import SupplierSwitch.Proofs.Market.Rows

namespace SupplierSwitch

open Tables

/-!
# Transactions and their answers

* `Situation` and `InSituation` — a transaction waits for the answer to its request, or was answered
  by a confirmation or a rejection, or has carried a result that nobody asked for;
* `Answered` — every stored transaction is in one of them, every stored request has its transaction,
  and no two confirmations are for the same process;
* `Answered.of_receives` — a commit keeps that if it is true of the transactions that it writes, and
  has nothing to do with the requests in others.
-/

/-- How far a transaction has come. -/
inductive Situation where
  | waiting
  | confirmed
  | rejected
  | forwarded
  deriving DecidableEq

/-- The accounting point of a request carries the process that was asked for. -/
def Carried (t : Tables) (process : ProcessKind) (r : SupplyRequest) : Prop :=
  ∃ p q, t.point? r.accountingPointId = some p ∧ q ∈ p.processes ∧ q.processId = r.processId ∧
    q.kind = process ∧ q.energySupplier.text = r.energySupplierGln ∧
      q.effectiveDate = r.effectiveDate

/-- The transaction has one message, which is of the given kind. -/
def HasOne (transaction : Transaction) (document : DocumentKind) : Prop :=
  ∃ message, transaction.messages = [message] ∧ message.document = document

theorem HasOne.document_unique {transaction : Transaction} {a b : DocumentKind}
    (ha : HasOne transaction a) (hb : HasOne transaction b) : a = b := by
  obtain ⟨message, only, rfl⟩ := ha
  obtain ⟨message', only', rfl⟩ := hb
  cases only.symm.trans only'
  rfl

/-- The transaction has the confirmation of its only request, which is processed. -/
def Confirms (t : Tables) (transaction : Transaction) (process : ProcessKind) (r : SupplyRequest) :
    Prop :=
  HasOne transaction .confirm ∧ ∃ row, t.rowsOf (MarketCommand.isRequestIn transaction.id) = [row] ∧
    row.command.processed = true ∧ row.command.market? = some (.request process r)

/-- What it is for a transaction to have come so far. -/
def InSituation (t : Tables) (transaction : Transaction) : Situation → Prop
  | .waiting => transaction.messages = [] ∧
    ∃ row, t.rowsOf (MarketCommand.isRequestIn transaction.id) = [row] ∧
      row.command.processed = false
  | .confirmed => ∃ process r, Confirms t transaction process r ∧ Carried t process r
  | .rejected => HasOne transaction .reject ∧
    ∃ row, t.rowsOf (MarketCommand.isRequestIn transaction.id) = [row] ∧
      row.command.processed = true
  | .forwarded => HasOne transaction .aggregationResult ∧
    t.rowsOf (MarketCommand.isRequestIn transaction.id) = []

/-- Every stored request and every stored transaction is accounted for. -/
structure Answered (t : Tables) : Prop where
  opened : ∀ row ∈ t.commands, ∀ process r, row.command.market? = some (.request process r) →
    ∃ transaction, t.transaction? r.transactionId = some transaction
  situations : ∀ id transaction, t.transaction? id = some transaction →
    ∃ situation, InSituation t transaction situation
  distinct : ∀ id₁ id₂ transaction₁ transaction₂, t.transaction? id₁ = some transaction₁ →
    t.transaction? id₂ = some transaction₂ → ∀ process₁ r₁ process₂ r₂,
      Confirms t transaction₁ process₁ r₁ → Confirms t transaction₂ process₂ r₂ →
      r₁.accountingPointId = r₂.accountingPointId → r₁.processId = r₂.processId → id₁ = id₂

/-! ### One situation at a time -/

/-- The situation that the messages of a transaction tell of, if they tell of one. -/
def Transaction.situation? (transaction : Transaction) : Option Situation :=
  match transaction.messages with
  | [] => some .waiting
  | [message] => some <| match message.document with
    | .confirm => .confirmed
    | .reject => .rejected
    | .aggregationResult => .forwarded
  | _ => none

theorem InSituation.situation? {t : Tables} {transaction : Transaction} {situation : Situation}
    (h : InSituation t transaction situation) : transaction.situation? = some situation := by
  cases situation with
  | waiting =>
    obtain ⟨none, -⟩ := h
    simp [Transaction.situation?, none]
  | confirmed =>
    obtain ⟨_, _, ⟨⟨message, only, document⟩, -⟩, -⟩ := h
    simp [Transaction.situation?, only, document]
  | rejected | forwarded =>
    obtain ⟨⟨message, only, document⟩, -⟩ := h
    simp [Transaction.situation?, only, document]

/-- A transaction is in one situation only. -/
theorem InSituation.unique {t : Tables} {transaction : Transaction} {a b : Situation}
    (ha : InSituation t transaction a) (hb : InSituation t transaction b) : a = b :=
  Option.some.inj (ha.situation?.symm.trans hb.situation?)

namespace Answered

variable {t t' : Tables} {c : ChangeSet} {now : Timestamp} {transaction : Transaction}

theorem storesA_isRequestIn {row : CommandRow} {id : TransactionId} :
    storesA (MarketCommand.isRequestIn id) row = true ↔
      ∃ process r, row.command.market? = some (.request process r) ∧ r.transactionId = id := by
  rw [storesA_iff]
  constructor
  · rintro ⟨m, means, request⟩
    cases m with
    | request process r => exact ⟨process, r, means, of_decide_eq_true request⟩
    | effectuate | forwardResult => cases request
  · rintro ⟨process, r, means, rfl⟩
    exact ⟨_, means, decide_eq_true rfl⟩

/-- Where a transaction is missing, no request in it is stored. -/
theorem rowsOf_eq_nil (h : Answered t) {id : TransactionId} (missing : t.transaction? id = none) :
    t.rowsOf (MarketCommand.isRequestIn id) = [] := by
  rw [Tables.rowsOf_eq_nil]
  intro row mem
  refine Bool.eq_false_iff.mpr fun stores => ?_
  obtain ⟨process, r, means, rfl⟩ := storesA_isRequestIn.mp stores
  obtain ⟨transaction, found⟩ := h.opened row mem process r means
  cases missing.symm.trans found

/-! ### What leaves a transaction alone -/

/-- The requests in a transaction are the same up to what nobody but the store looks at. -/
def SameRequests (t t' : Tables) (id : TransactionId) : Prop :=
  ∃ f, Rewrites f ∧ t'.rowsOf (MarketCommand.isRequestIn id)
    = (t.rowsOf (MarketCommand.isRequestIn id)).map f

theorem confirms_of_sameRequests (same : SameRequests t t' transaction.id) {process : ProcessKind}
    {r : SupplyRequest} (h : Confirms t' transaction process r) :
    Confirms t transaction process r := by
  obtain ⟨f, rewrites, rows⟩ := same
  obtain ⟨document, row, only, processed, means⟩ := h
  rw [rows] at only
  obtain ⟨old, hold, rfl⟩ := List.map_eq_singleton_iff.mp only
  exact ⟨document, old, hold, rewrites.processed old ▸ processed, rewrites.market? old ▸ means⟩

theorem inSituation_of_sameRequests (same : SameRequests t t' transaction.id)
    (carried : ∀ process r, Carried t process r → Carried t' process r) {situation : Situation}
    (h : InSituation t transaction situation) : InSituation t' transaction situation := by
  obtain ⟨f, rewrites, rows⟩ := same
  cases situation with
  | waiting =>
    obtain ⟨none, row, only, status⟩ := h
    exact ⟨none, f row, by rw [rows, only]; rfl, (rewrites.processed row).trans status⟩
  | confirmed =>
    obtain ⟨process, r, ⟨document, row, only, processed, means⟩, carry⟩ := h
    refine ⟨process, r, ⟨document, f row, ?_, ?_, ?_⟩, carried process r carry⟩
    · rw [rows, only]; rfl
    · exact (rewrites.processed row).trans processed
    · exact (rewrites.market? row).trans means
  | rejected =>
    obtain ⟨document, row, only, status⟩ := h
    exact ⟨document, f row, by rw [rows, only]; rfl, (rewrites.processed row).trans status⟩
  | forwarded =>
    obtain ⟨document, none⟩ := h
    exact ⟨document, by rw [rows, none]; rfl⟩

/-- A confirmed transaction has its process, whichever request it is said to confirm. -/
theorem carried_of_confirms (h : Answered t) {id : TransactionId}
    (found : t.transaction? id = some transaction) {process : ProcessKind} {r : SupplyRequest}
    (confirms : Confirms t transaction process r) : Carried t process r := by
  obtain ⟨situation, hsituation⟩ := h.situations id transaction found
  -- Its message tells the situation, and its only row the request.
  obtain ⟨⟨message, only, document⟩, row, rows, -, means⟩ := confirms
  have told := hsituation.situation?
  simp only [Transaction.situation?, only, document, Option.some.injEq] at told
  subst told
  obtain ⟨process', r', ⟨-, row', rows', -, means'⟩, carried⟩ := hsituation
  cases rows.symm.trans rows'
  cases means.symm.trans means'
  exact carried

theorem of_rewritten (h : Answered t) {f : CommandRow → CommandRow} (rewritten : t.Rewritten t' f) :
    Answered t' := by
  have same (id : TransactionId) : t'.transaction? id = t.transaction? id := by
    rw [transaction?, rewritten.transactions]; rfl
  have rows (id : TransactionId) : SameRequests t t' id :=
    ⟨f, rewritten.toRewrites, rowsOf_rewritten rewritten _⟩
  refine ⟨?_, ?_, ?_⟩
  · intro row mem process r means
    rw [rewritten.commands] at mem
    obtain ⟨old, hold, rfl⟩ := List.mem_map.mp mem
    rw [same]
    exact h.opened old hold process r (rewritten.market? old ▸ means)
  · intro id transaction found
    obtain ⟨situation, hsituation⟩ := h.situations id transaction (same id ▸ found)
    refine ⟨situation,
      inSituation_of_sameRequests (rows _) (fun process r carried => ?_) hsituation⟩
    obtain ⟨p, q, hp, rest⟩ := carried
    exact ⟨p, q, by rw [point?, rewritten.points]; exact hp, rest⟩
  · intro id₁ id₂ transaction₁ transaction₂ found₁ found₂ process₁ r₁ process₂ r₂
      confirms₁ confirms₂
    exact h.distinct id₁ id₂ transaction₁ transaction₂ (same id₁ ▸ found₁) (same id₂ ▸ found₂)
      process₁ r₁ process₂ r₂ (confirms_of_sameRequests (rows _) confirms₁)
      (confirms_of_sameRequests (rows _) confirms₂)

/-! ### What a commit leaves alone -/

/-- No process of that name is on the point that the request names. -/
def Unregistered (t : Tables) (r : SupplyRequest) : Prop :=
  ∀ p, t.point? r.accountingPointId = some p → p.process? r.processId = none

theorem not_carried_of_unregistered {r r' : SupplyRequest} {process : ProcessKind}
    (new : Unregistered t r) (point : r.accountingPointId = r'.accountingPointId)
    (name : r.processId = r'.processId) : ¬ Carried t process r' := by
  rintro ⟨p, q, found, mem, same, -⟩
  refine AccountingPoint.process?_eq_none.mp (new p (point ▸ found)) ?_
  exact List.mem_map.mpr ⟨q, mem, same.trans name.symm⟩

theorem carried_of_nil (receives : t.Receives c now t') (points : c.points = [])
    {process : ProcessKind} {r : SupplyRequest} (h : Carried t process r) :
    Carried t' process r := by
  obtain ⟨p, q, found, rest⟩ := h
  exact ⟨p, q, (receives.point?_of_nil points _).trans found, rest⟩

/-- A point may be written over if its processes stay what they are, their status aside. -/
theorem carried_of_single (receives : t.Receives c now t') {point : AccountingPoint}
    {staged : StagedPoint} (points : c.points = [staged])
    (current : t.point? staged.point.gsrn.text = some point)
    (keeps : ∀ q ∈ point.processes, ∃ q' ∈ staged.point.processes, q'.processId = q.processId ∧
      q'.kind = q.kind ∧ q'.energySupplier = q.energySupplier ∧ q'.effectiveDate = q.effectiveDate)
    {process : ProcessKind} {r : SupplyRequest} (h : Carried t process r) :
    Carried t' process r := by
  obtain ⟨p, q, found, mem, name, kind, supplier, date⟩ := h
  have after := receives.point?_of_single points r.accountingPointId
  split at after
  · rename_i same
    rw [same, current] at found
    cases found
    obtain ⟨q', mem', name', kind', supplier', date'⟩ := keeps q mem
    exact ⟨_, q', after, mem', name'.trans name, kind'.trans kind, supplier' ▸ supplier,
      date'.trans date⟩
  · exact ⟨p, q, after.trans found, mem, name, kind, supplier, date⟩

/-- A commit has to be looked at for the transactions that it writes only, if it has nothing to do
    with requests in others: each of them has to be in some situation, and if it is confirmed, then
    for a process that is new, and no other transaction is written along with it. -/
theorem of_receives (h : Answered t) (keyed : t.Keyed) (receives : t.Receives c now t')
    (spares : ∀ id, id ∉ c.transactions.map (·.transaction.id) →
      t.Spares c (MarketCommand.isRequestIn id))
    (carried : ∀ process r, Carried t process r → Carried t' process r)
    (written : ∀ staged ∈ c.transactions, ∀ transaction,
      t'.transaction? staged.transaction.id = some transaction →
      (∃ situation, InSituation t' transaction situation) ∧
        ∀ process r, Confirms t' transaction process r → Unregistered t r ∧
          ∀ other ∈ c.transactions, other.transaction.id = staged.transaction.id) :
    Answered t' := by
  have same {id : TransactionId} (other : id ∉ c.transactions.map (·.transaction.id)) :
      t'.transaction? id = t.transaction? id := receives.otherTransactions id other
  have rows {id : TransactionId} (other : id ∉ c.transactions.map (·.transaction.id)) :
      SameRequests t t' id :=
    ⟨fun row => row, ⟨fun _ => rfl, fun _ => rfl⟩, by
      rw [rowsOf_of_spares keyed receives (spares id other)]; simp⟩
  refine ⟨?_, ?_, ?_⟩
  · intro row mem process r means
    by_cases hid : r.transactionId ∈ c.transactions.map (·.transaction.id)
    · obtain ⟨staged, hstaged, name⟩ := List.mem_map.mp hid
      exact ⟨_, name ▸ receives.transactions staged hstaged⟩
    · rw [same hid]
      obtain ⟨old, hold, meaning⟩ | ⟨command, hcommand, meaning⟩ :=
        mem_commands_receives receives mem
      · exact h.opened old hold process r (meaning ▸ means)
      · -- A staged request in a transaction that is not written would not be spared.
        have mem' : command ∈ stagedOf (MarketCommand.isRequestIn r.transactionId) c :=
          List.mem_filter.mpr
            ⟨hcommand, by simp [← meaning, means, MarketCommand.isRequestIn]⟩
        rw [(spares _ hid).staged] at mem'
        cases mem'
  · intro id transaction found
    by_cases hid : id ∈ c.transactions.map (·.transaction.id)
    · obtain ⟨staged, hstaged, rfl⟩ := List.mem_map.mp hid
      exact (written staged hstaged transaction found).1
    · obtain ⟨situation, hsituation⟩ := h.situations id transaction (same hid ▸ found)
      obtain rfl := id_of_transaction? found
      exact ⟨situation, inSituation_of_sameRequests (rows hid) carried hsituation⟩
  · intro id₁ id₂ transaction₁ transaction₂ found₁ found₂ process₁ r₁ process₂ r₂
      confirms₁ confirms₂ point name
    -- If just one of the two is written, its process is new, and that of the other is not.
    by_cases hid₁ : id₁ ∈ c.transactions.map (·.transaction.id) <;>
      by_cases hid₂ : id₂ ∈ c.transactions.map (·.transaction.id)
    · obtain ⟨staged₁, hstaged₁, rfl⟩ := List.mem_map.mp hid₁
      obtain ⟨staged₂, hstaged₂, rfl⟩ := List.mem_map.mp hid₂
      exact ((written staged₁ hstaged₁ _ found₁).2 process₁ r₁ confirms₁).2 staged₂ hstaged₂ |>.symm
    · obtain ⟨staged, hstaged, rfl⟩ := List.mem_map.mp hid₁
      have new := ((written staged hstaged _ found₁).2 process₁ r₁ confirms₁).1
      obtain rfl := id_of_transaction? found₂
      have old := h.carried_of_confirms (same hid₂ ▸ found₂)
        (confirms_of_sameRequests (rows hid₂) confirms₂)
      exact absurd old (not_carried_of_unregistered new point name)
    · obtain ⟨staged, hstaged, rfl⟩ := List.mem_map.mp hid₂
      have new := ((written staged hstaged _ found₂).2 process₂ r₂ confirms₂).1
      obtain rfl := id_of_transaction? found₁
      have old := h.carried_of_confirms (same hid₁ ▸ found₁)
        (confirms_of_sameRequests (rows hid₁) confirms₁)
      exact absurd old (not_carried_of_unregistered new point.symm name.symm)
    · obtain rfl := id_of_transaction? found₁
      obtain rfl := id_of_transaction? found₂
      exact h.distinct _ _ transaction₁ transaction₂ (same hid₁ ▸ found₁) (same hid₂ ▸ found₂)
        process₁ r₁ process₂ r₂ (confirms_of_sameRequests (rows hid₁) confirms₁)
        (confirms_of_sameRequests (rows hid₂) confirms₂) point name

/-- Before the commit that processes its request, a transaction has no message; after it, the
    request is the one that was processed. -/
theorem answer (h : Answered t) (receives : t.Receives c now t') {id : TransactionId}
    {row : CommandRow} {process : ProcessKind} {r : SupplyRequest}
    (found : t.transaction? id = some transaction) (stored : row ∈ t.commands)
    (means : row.command.market? = some (.request process r)) (name : r.transactionId = id)
    (pending : row.command.processed = false)
    (staged : stagedOf (MarketCommand.isRequestIn id) c = [])
    (mark : row.command.id ∈ c.processed.map Prod.fst) :
    transaction.messages = [] ∧
      t'.rowsOf (MarketCommand.isRequestIn id) = [processedRow now row] := by
  have stores := storesA_isRequestIn.mpr ⟨process, r, means, name⟩
  obtain rfl := id_of_transaction? found
  obtain ⟨situation, hsituation⟩ := h.situations _ transaction found
  -- Only a waiting transaction has a request that is not processed.
  have settled {row' : CommandRow}
      (only : t.rowsOf (MarketCommand.isRequestIn transaction.id) = [row'])
      (processed : row'.command.processed = true) : False := by
    obtain rfl := eq_of_rowsOf only stored stores
    cases pending.symm.trans processed
  cases situation with
  | waiting =>
    obtain ⟨silent, row', only, -⟩ := hsituation
    exact ⟨silent, rowsOf_of_mark receives staged only stored stores mark⟩
  | confirmed =>
    obtain ⟨_, _, ⟨-, row', only, processed, -⟩, -⟩ := hsituation
    exact (settled only processed).elim
  | rejected =>
    obtain ⟨-, row', only, processed⟩ := hsituation
    exact (settled only processed).elim
  | forwarded =>
    obtain ⟨-, none⟩ := hsituation
    have mem := mem_rowsOf.mpr ⟨stored, stores⟩
    rw [none] at mem
    cases mem

end Answered

end SupplierSwitch
