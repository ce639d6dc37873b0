import SupplierSwitch.Proofs.Market.Drains
import SupplierSwitch.Proofs.Market.Progress

namespace SupplierSwitch

open Tables

/-!
# Forwarded results

A result is forwarded by opening a transaction of its own, and a transaction that is there already
counts as the proof that the result went out before. That is so as long as names are not shared: a
request opens its transaction under a name that it brings along, and a result of the same name that
comes after it is taken for one that was forwarded, and lost.

* `Delivered` — where the forwarding of a result is processed, there is a transaction of its name;
* `Marketplace.Progress.delivered` and `Marketplace.Run.delivered` — every step keeps that;
* `Marketplace.forwarded_once_unless_requested` — what a processed forwarding leaves behind;
* `Marketplace.SharedName.result_lost` — a history in which a result is lost.
-/

/-- The number of results that the transaction carries. -/
def Transaction.results (transaction : Transaction) : Nat :=
  transaction.messages.countP (·.document = .aggregationResult)

/-- A transaction that waits, or that has its answer, carries no result; one that nobody asked for
    carries one. -/
theorem InSituation.results_eq {t : Tables} {transaction : Transaction} {situation : Situation}
    (h : InSituation t transaction situation) :
    transaction.results
      = if t.rowsOf (MarketCommand.isRequestIn transaction.id) = [] then 1 else 0 := by
  unfold Transaction.results
  cases situation with
  | waiting =>
    obtain ⟨silent, row, only, -⟩ := h
    simp [silent, only]
  | confirmed =>
    obtain ⟨_, _, ⟨⟨message, only, document⟩, row, rows, -⟩, -⟩ := h
    simp [only, document, rows]
  | rejected =>
    obtain ⟨⟨message, only, document⟩, row, rows, -⟩ := h
    simp [only, document, rows]
  | forwarded =>
    obtain ⟨⟨message, only, document⟩, none⟩ := h
    simp [only, document, none]

/-- There is a transaction of the name. -/
def Opened (t : Tables) (id : TransactionId) : Prop :=
  ∃ transaction, t.transaction? id = some transaction

theorem Opened.later {t t' : Tables} {id : TransactionId} (h : Opened t id)
    (evolves : t.Evolves t') : Opened t' id := by
  obtain ⟨transaction, found⟩ := h
  obtain ⟨later, found', -⟩ := evolves.transactions _ transaction found
  rw [id_of_transaction? found] at found'
  exact ⟨later, found'⟩

/-- Where the forwarding of a result is processed, there is a transaction of its name. -/
def Delivered (t : Tables) : Prop :=
  ∀ row ∈ t.commands, ∀ result, row.command.market? = some (.forwardResult result) →
    row.command.processed = true → Opened t result.transactionId

/-- After a unit that forwards a result, or finds it forwarded, the transaction is there. -/
theorem Verdict.opened {t t' : Tables} {claimed : ClaimedCommand} {outcome : CommandOutcome}
    {c : ChangeSet} {now : Timestamp} {result : AggregationResult}
    (h : Verdict t claimed outcome c) (receives : t.Receives c now t')
    (means : claimed.command.market? = some (.forwardResult result)) :
    Opened t' result.transactionId := by
  cases h with
  | confirmed means' | rejected means' | effectuated means' =>
    cases means.symm.trans means'
  | forwarded means' =>
    cases means.symm.trans means'
    exact ⟨_, receives.transactions _ (List.mem_singleton_self _)⟩
  | known means' seen name =>
    cases means.symm.trans means'
    obtain ⟨there, found, -⟩ := seen
    obtain ⟨later, found', -⟩ := receives.seenTransaction found
    rw [id_of_transaction? found] at found'
    exact ⟨later, name ▸ found'⟩

namespace Marketplace

open Memory

variable {t t' : Tables} {concluded : List Conclusion} {s₀ s : State} {log : List Conclusion}

/-! ### A processed forwarding has its transaction -/

theorem Progress.delivered (h : Progress t t' concluded) (keyed : t.Keyed)
    (delivered : Delivered t) (evolves : t.Evolves t') : Delivered t' := by
  intro row mem result means processed
  cases h with
  | quiet rewritten =>
    rw [rewritten.commands] at mem
    obtain ⟨old, hold, rfl⟩ := List.mem_map.mp mem
    rw [rewritten.market?] at means
    rw [rewritten.processed] at processed
    exact (delivered old hold result means processed).later evolves
  | @entered c now entry admits receives =>
    obtain ⟨old, hold, rfl⟩ | ⟨command, hcommand, place, -, -, rfl⟩ := receives.mem_commands mem
    · have same : marked c.processed now old = old := by simp [marked, entry.marks]
      rw [same] at means processed
      exact (delivered old hold result means processed).later evolves
    · -- What is taken in waits to be processed.
      have pending := entry.unprocessed command hcommand
      cases processed.symm.trans pending
  | @concluded claimed outcome c now holds verdict admits receives =>
    have marks := verdict.marks
    obtain ⟨old, hold, rfl⟩ | ⟨command, hcommand, place, -, -, rfl⟩ := receives.mem_commands mem
    · rw [market?_marked] at means
      by_cases own : old.command.id = claimed.command.id
      · -- The row of the command that is concluded, which means what the claimed command means.
        obtain ⟨row, -, found, -, meaning, -⟩ :=
          holds.row_of_admits admits (by rw [marks]; exact List.mem_singleton_self _)
        have stored := row?_of_mem keyed.commands hold
        rw [own, found] at stored
        cases stored
        exact verdict.opened receives (meaning.symm.trans means)
      · have same : marked c.processed now old = old := by simp [marked, marks, own]
        rw [same] at processed
        exact (delivered old hold result means processed).later evolves
    · obtain ⟨process, e, means'⟩ := verdict.commands hcommand
      cases means.symm.trans means'

theorem Run.delivered (run : Run s₀ log s) (seeded : s₀.Seeded) : Delivered s.tables := by
  induction run with
  | nil =>
    intro row mem
    rw [seeded.commands] at mem
    cases mem
  | step before step ih =>
    have sound := before.sound seeded.sound
    exact (sound.progress step).delivered sound.books.keyed ih (sound.evolves step)

/-! ### What a processed forwarding leaves behind -/

/-- Once the forwarding of a result is processed, the transaction of its name is there. It carries
    exactly one result, unless a request was taken in under the name; then it carries none. -/
theorem forwarded_once_unless_requested (seeded : s₀.Seeded) (run : Run s₀ log s) :
    ∀ row ∈ s.tables.commands, ∀ result, row.command.market? = some (.forwardResult result) →
      row.command.processed = true →
      ∃ transaction ∈ s.tables.transactions, transaction.id = result.transactionId ∧
        transaction.results
          = if s.tables.rowsOf (MarketCommand.isRequestIn result.transactionId) = [] then 1
            else 0 := by
  intro row mem result means processed
  have books := (run.sound seeded.sound).books
  obtain ⟨transaction, found⟩ := run.delivered seeded row mem result means processed
  obtain ⟨situation, here⟩ := books.answered.situations _ transaction found
  have name := id_of_transaction? found
  exact ⟨transaction, List.mem_of_find?_eq_some found, name, name ▸ here.results_eq⟩

namespace SharedName

/-- A result under the name of the request that it comes after. -/
def result : AggregationResult where
  transactionId := OneMoveIn.request.transactionId
  recipientGln := OneMoveIn.supplier.text
  gridArea := "870"
  result := .null

/-- A result is forwarded, and again. -/
def alone : World Tables :=
  served .standard ⟨OneMoveIn.supplier⟩ [.result result, .result result] OneMoveIn.world

theorem run_alone : ∃ log, Run (.atRest OneMoveIn.world.store) log (.atRest alone.store) :=
  served_run _ _ _ _ (by decide +kernel)

/-- A result is enqueued and the request taken in, and then the first command is handled. -/
def shared : World Tables :=
  served { ProcessorConfig.standard with maxCommandsPerDrain := 1 } ⟨OneMoveIn.supplier⟩
    [.result result, .request .moveIn OneMoveIn.request] OneMoveIn.world

theorem run_shared : ∃ log, Run (.atRest OneMoveIn.world.store) log (.atRest shared.store) :=
  served_run _ _ _ _ (by decide +kernel)

-- What comes of it is left to the kernel to evaluate.
attribute [irreducible] alone shared

/-- The forwarding is processed, and the transaction carries no result. -/
theorem result_lost :
    ∃ log, Run (.atRest OneMoveIn.world.store) log (.atRest shared.store) ∧
      (State.atRest OneMoveIn.world.store).Seeded ∧
      (∃ row ∈ shared.store.commands, row.command.market? = some (.forwardResult result) ∧
        row.command.processed = true) ∧
      ∀ transaction ∈ shared.store.transactions, transaction.id = result.transactionId →
        transaction.results ≠ 1 := by
  obtain ⟨log, run⟩ := run_shared
  refine ⟨log, run, OneMoveIn.seeded, ?_, ?_⟩
  · decide +kernel
  · decide +kernel

end SharedName

theorem forwarded_once_unless_requested_alone :
    ∃ log, Run (.atRest OneMoveIn.world.store) log (.atRest SharedName.alone.store) ∧
      ∃ transaction ∈ SharedName.alone.store.transactions, transaction.results = 1 := by
  obtain ⟨log, run⟩ := SharedName.run_alone
  have processed : ∃ row ∈ SharedName.alone.store.commands,
      row.command.market? = some (.forwardResult SharedName.result) ∧
        row.command.processed = true := by
    decide +kernel
  have unrequested : SharedName.alone.store.rowsOf
      (MarketCommand.isRequestIn SharedName.result.transactionId) = [] := by
    decide +kernel
  obtain ⟨row, mem, means, done⟩ := processed
  obtain ⟨transaction, stored, -, only⟩ :=
    forwarded_once_unless_requested OneMoveIn.seeded run row mem SharedName.result means done
  rw [show (State.atRest SharedName.alone.store).tables = SharedName.alone.store from rfl,
    unrequested, if_pos rfl] at only
  exact ⟨log, run, transaction, stored, only⟩

end Marketplace

end SupplierSwitch
