import SupplierSwitch.Proofs.Market.Answered
import SupplierSwitch.Proofs.Market.Registered

namespace SupplierSwitch

open Tables

/-!
# What the units of the market commit

A unit of work takes things in, or handles one command. What it may have staged when it is committed
is a short list, and the books of the market survive each item of it.

* `Books` — what is true of the tables of a market at any moment;
* `Entry` — units that take things in, `Verdict` — units that handle a command, each with what was
  seen when it was staged;
* `Books.of_entry` and `Books.of_verdict` — committing them keeps the books.
-/

/-- What is true of the tables of a market at any moment. -/
structure Books (t : Tables) : Prop where
  keyed : t.Keyed
  meaningful : ∀ row ∈ t.commands, ∃ m, row.command.market? = some m
  registered : Registered t
  answered : Answered t

/-- A unit that takes things in: requests, each with a new transaction of its own, and results. -/
structure Entry (c : ChangeSet) : Prop where
  marks : c.processed = []
  points : c.points = []
  unprocessed : ∀ command ∈ c.commands, command.processed = false
  commands : ∀ command ∈ c.commands, (∃ result, command.market? = some (.forwardResult result)) ∨
    ∃ process r, command.market? = some (.request process r) ∧
      r.transactionId ∈ c.transactions.map (·.transaction.id)
  transactions : ∀ staged ∈ c.transactions, staged.write = .insert ∧
    staged.transaction.messages = [] ∧
      ∃ command, stagedOf (MarketCommand.isRequestIn staged.transaction.id) c = [command]

/-- The store knows the claimed command, as it was when it was claimed. -/
def Holds (t : Tables) (claimed : ClaimedCommand) : Prop :=
  ∃ row, t.row? claimed.command.id = some row ∧ row.command.kind = claimed.command.kind ∧
    row.command.payload = claimed.command.payload

/-- The claimed command has been processed, so that nobody can commit a mark of it any more. -/
def TooLate (t : Tables) (claimed : ClaimedCommand) : Prop :=
  ∃ row, t.row? claimed.command.id = some row ∧ row.command.processed = true

/-- What a unit that handles a command has staged, mark included, for an outcome. What it says of
    points and transactions is what was seen when they were read. -/
inductive Verdict (t : Tables) (claimed : ClaimedCommand) : CommandOutcome → ChangeSet → Prop where
  | confirmed {process : ProcessKind} {r : SupplyRequest} {point : AccountingPoint}
      {supplier : GlnNumber} {transaction : Transaction} {message : OutboundMessage}
      {followUp : InternalCommand} (means : claimed.command.market? = some (.request process r))
      (seenPoint : t.SeenPoint point) (number : point.gsrn.text = r.accountingPointId)
      (new : point.process? r.processId = none) (gln : supplier.text = r.energySupplierGln)
      (seen : t.SeenTransaction transaction) (name : transaction.id = r.transactionId)
      (document : message.document = .confirm)
      (next : followUp.market? = some (.effectuate process ⟨r.accountingPointId, r.processId⟩))
      (unprocessed : followUp.processed = false) :
      Verdict t claimed .completed
        { commands := [followUp]
          processed := [(claimed.command.id, claimed.claim)]
          transactions := [⟨{ transaction with messages := transaction.messages ++ [message] },
            .update (.exact transaction.version)⟩]
          points := [⟨{ point with
            processes := point.processes ++
              [⟨r.processId, process, supplier, r.effectiveDate, .pending⟩] },
            .exact point.version⟩] }
  | rejected {process : ProcessKind} {r : SupplyRequest} {transaction : Transaction}
      {message : OutboundMessage} {codes : List String}
      (means : claimed.command.market? = some (.request process r))
      (seen : t.SeenTransaction transaction) (name : transaction.id = r.transactionId)
      (document : message.document = .reject) :
      Verdict t claimed (.rejected codes)
        { commands := []
          processed := [(claimed.command.id, claimed.claim)]
          transactions := [⟨{ transaction with messages := transaction.messages ++ [message] },
            .update (.exact transaction.version)⟩]
          points := [] }
  | effectuated {q : BusinessProcess} {point : AccountingPoint}
      (means : claimed.command.market?
        = some (.effectuate q.kind ⟨point.gsrn.text, q.processId⟩))
      (seenPoint : t.SeenPoint point) (registered : point.process? q.processId = some q) :
      Verdict t claimed .completed
        { commands := []
          processed := [(claimed.command.id, claimed.claim)]
          transactions := []
          points := [⟨{ point with
            processes := AccountingPoint.markEffectuated q.processId point.processes
            energySupplier := some q.energySupplier }, .exact point.version⟩] }
  | forwarded {result : AggregationResult} {message : OutboundMessage}
      (means : claimed.command.market? = some (.forwardResult result))
      (document : message.document = .aggregationResult) :
      Verdict t claimed .completed
        { commands := []
          processed := [(claimed.command.id, claimed.claim)]
          transactions := [⟨⟨result.transactionId, [message], 0⟩, .insert⟩]
          points := [] }
  | known {result : AggregationResult} {transaction : Transaction}
      (means : claimed.command.market? = some (.forwardResult result))
      (seen : t.SeenTransaction transaction) (name : transaction.id = result.transactionId) :
      Verdict t claimed .completed
        { commands := []
          processed := [(claimed.command.id, claimed.claim)]
          transactions := []
          points := [] }

variable {t t' : Tables} {c : ChangeSet} {now : Timestamp} {claimed : ClaimedCommand}
  {outcome : CommandOutcome}

/-! ### What others commit does not matter -/

theorem Holds.later (h : Holds t claimed) (evolves : t.Evolves t') : Holds t' claimed := by
  obtain ⟨row, found, kind, payload⟩ := h
  obtain ⟨later, found', same⟩ := evolves.rows _ row found
  exact ⟨later, found', same.kind.trans kind, same.payload.trans payload⟩

theorem TooLate.later (h : TooLate t claimed) (evolves : t.Evolves t') : TooLate t' claimed := by
  obtain ⟨row, found, processed⟩ := h
  obtain ⟨later, found', same⟩ := evolves.rows _ row found
  exact ⟨later, found', same.processed processed⟩

theorem Verdict.later (h : Verdict t claimed outcome c) (evolves : t.Evolves t') :
    Verdict t' claimed outcome c := by
  cases h with
  | confirmed means seenPoint number new gln seen name document next unprocessed =>
    exact .confirmed means (seenPoint.later evolves) number new gln (seen.later evolves) name
      document next unprocessed
  | rejected means seen name document => exact .rejected means (seen.later evolves) name document
  | effectuated means seenPoint registered =>
    exact .effectuated means (seenPoint.later evolves) registered
  | forwarded means document => exact .forwarded means document
  | known means seen name => exact .known means (seen.later evolves) name

/-! ### The row of the claimed command -/

/-- When a mark of the claimed command is admitted, its row is there, unprocessed, and means what
    the claimed command means. -/
theorem Holds.row_of_admits (h : Holds t claimed) (admits : t.Admits c)
    (mark : (claimed.command.id, claimed.claim) ∈ c.processed) :
    ∃ row ∈ t.commands, t.row? claimed.command.id = some row ∧ row.command.id = claimed.command.id ∧
      row.command.market? = claimed.command.market? ∧ row.command.processed = false := by
  obtain ⟨row, found, kind, payload⟩ := h
  obtain ⟨row', -, found', pending, -⟩ := admits.marks _ mark
  cases found.symm.trans found'
  exact ⟨row, mem_commands_of_row? found, found, id_of_row? found,
    InternalCommand.market?_congr kind payload, pending⟩

theorem TooLate.not_admits (h : TooLate t claimed)
    (mark : claimed.command.id ∈ c.processed.map Prod.fst) : ¬ t.Admits c := by
  intro admits
  obtain ⟨row, found, processed⟩ := h
  obtain ⟨⟨_, token⟩, hmark, rfl⟩ := List.mem_map.mp mark
  obtain ⟨row', -, found', pending, -⟩ := admits.marks _ hmark
  cases found.symm.trans found'
  cases processed.symm.trans pending

/-- A commit that stages nothing of a meaning and marks only the claimed command spares the others
    of that meaning, unless it is the meaning of the claimed command. -/
theorem spares_of_mark {p : MarketCommand → Bool} {m : MarketCommand} {row : CommandRow}
    (found : t.row? claimed.command.id = some row) (means : row.command.market? = some m)
    (marks : c.processed = [(claimed.command.id, claimed.claim)]) (staged : stagedOf p c = [])
    (other : p m = false) : t.Spares c p := by
  refine ⟨staged, fun mark hmark row' found' => ?_⟩
  rw [marks, List.mem_singleton] at hmark
  subst hmark
  cases found.symm.trans found'
  rw [storesA_of_market? means, other]

/-! ### Units that take things in -/

namespace Books

theorem of_entry (h : Books t) (entry : Entry c) (admits : t.Admits c)
    (receives : t.Receives c now t') (keyed : t'.Keyed) : Books t' := by
  have unmarked : ∀ mark ∈ c.processed, ∀ row, t.row? mark.1 = some row → False := by
    intro mark hmark
    rw [entry.marks] at hmark
    cases hmark
  have effectuations (kind : ProcessKind) (e : Effectuation) :
      t.Spares c (MarketCommand.isEffectuation kind e) := by
    refine ⟨List.filter_eq_nil_iff.mpr fun command hcommand => ?_, fun mark hmark row found =>
      (unmarked mark hmark row found).elim⟩
    obtain ⟨result, means⟩ | ⟨process, r, means, -⟩ := entry.commands command hcommand <;>
      simp [means, MarketCommand.isEffectuation]
  have requests (id : TransactionId) (other : id ∉ c.transactions.map (·.transaction.id)) :
      t.Spares c (MarketCommand.isRequestIn id) := by
    refine ⟨List.filter_eq_nil_iff.mpr fun command hcommand => ?_, fun mark hmark row found =>
      (unmarked mark hmark row found).elim⟩
    obtain ⟨result, means⟩ | ⟨process, r, means, written⟩ := entry.commands command hcommand
    · simp [means, MarketCommand.isRequestIn]
    · have unlike : r.transactionId ≠ id := fun same => other (same ▸ written)
      simp [means, MarketCommand.isRequestIn, unlike]
  -- Neither points nor effectuations are touched, so that only the new transactions remain.
  refine ⟨keyed, ?_, h.registered.of_spares h.keyed receives entry.points effectuations, ?_⟩
  · intro row mem
    obtain ⟨old, hold, meaning⟩ | ⟨command, hcommand, meaning⟩ := mem_commands_receives receives mem
    · exact meaning ▸ h.meaningful old hold
    · rw [meaning]
      obtain ⟨result, means⟩ | ⟨process, r, means, -⟩ := entry.commands command hcommand
      · exact ⟨_, means⟩
      · exact ⟨_, means⟩
  · refine h.answered.of_receives h.keyed receives requests ?_ ?_
    · rintro process r ⟨p, q, found, rest⟩
      exact ⟨p, q, by rw [receives.point?_of_nil entry.points]; exact found, rest⟩
    · intro staged hstaged transaction found
      obtain ⟨write, silent, command, only⟩ := entry.transactions staged hstaged
      have hcommand : command ∈ c.commands :=
        List.mem_of_mem_filter (only ▸ List.mem_singleton_self command)
      -- The transaction was missing, so that its request is the first one in it.
      have absent := admits.inserts staged hstaged write
      rw [receives.transactions staged hstaged] at found
      cases found
      obtain ⟨row, rows, processed⟩ :=
        rowsOf_of_staged receives (h.answered.rowsOf_eq_nil absent) only
      have waits := processed.trans (entry.unprocessed command hcommand)
      refine ⟨⟨.waiting, silent, row, rows, waits⟩, ?_⟩
      rintro process r ⟨⟨message, said, -⟩, -⟩
      cases silent.symm.trans said

end Books

/-! ### Units that handle a command -/

theorem Verdict.marks (h : Verdict t claimed outcome c) :
    c.processed = [(claimed.command.id, claimed.claim)] := by
  cases h <;> rfl

/-- What a unit stages means something, and no request is among it. -/
theorem Verdict.commands (h : Verdict t claimed outcome c) {command : InternalCommand}
    (mem : command ∈ c.commands) :
    ∃ process e, command.market? = some (.effectuate process e) := by
  cases h with
  | confirmed _ _ _ _ _ _ _ _ next _ =>
    rw [List.mem_singleton] at mem
    exact ⟨_, _, mem ▸ next⟩
  | rejected | effectuated | forwarded | known => cases mem

theorem Verdict.stagedOf_isRequestIn (h : Verdict t claimed outcome c) (id : TransactionId) :
    stagedOf (MarketCommand.isRequestIn id) c = [] := by
  refine List.filter_eq_nil_iff.mpr fun command mem => ?_
  obtain ⟨process, e, means⟩ := h.commands mem
  simp [means, MarketCommand.isRequestIn]

theorem Books.registered_of_verdict (h : Books t) (holds : Holds t claimed)
    (verdict : Verdict t claimed outcome c) (admits : t.Admits c) (receives : t.Receives c now t') :
    Registered t' := by
  obtain ⟨row, stored, found, same, meaning, -⟩ :=
    holds.row_of_admits admits (verdict.marks ▸ List.mem_singleton_self _)
  have marks := verdict.marks
  -- A command that is no effectuation is marked, and nothing else is touched.
  have spared (points : c.points = []) (commands : c.commands = []) {m : MarketCommand}
      (means : claimed.command.market? = some m)
      (other : ∀ kind e, MarketCommand.isEffectuation kind e m = false) : Registered t' :=
    h.registered.of_spares h.keyed receives points fun kind e =>
      spares_of_mark found (meaning.trans means) marks (by simp [stagedOf, commands]) (other kind e)
  cases verdict with
  | @confirmed process r point supplier transaction message followUp means seenPoint number new
      _ _ _ _ next unprocessed =>
    -- The guard has passed, so that the point is still the one in which the name was looked for.
    have current := seenPoint.current (admits.points _ (List.mem_singleton_self _))
    refine h.registered.register h.keyed receives current new rfl rfl rfl (number ▸ next)
      unprocessed fun kind e mark hmark row' found' => ?_
    rw [marks, List.mem_singleton] at hmark
    subst hmark
    cases found.symm.trans found'
    rw [storesA_of_market? (meaning.trans means)]
    rfl
  | rejected means => exact spared rfl rfl means fun _ _ => rfl
  | @effectuated q point means seenPoint registered =>
    have current := seenPoint.current (admits.points _ (List.mem_singleton_self _))
    exact h.registered.effectuate h.keyed receives current registered rfl rfl stored
      (meaning.trans means) (by rw [marks, same])
  | forwarded means => exact spared rfl rfl means fun _ _ => rfl
  | known means => exact spared rfl rfl means fun _ _ => rfl

theorem Books.answered_of_verdict (h : Books t) (holds : Holds t claimed)
    (verdict : Verdict t claimed outcome c) (admits : t.Admits c) (receives : t.Receives c now t') :
    Answered t' := by
  obtain ⟨row, stored, found, same, meaning, pending⟩ :=
    holds.row_of_admits admits (verdict.marks ▸ List.mem_singleton_self _)
  have marks := verdict.marks
  have unstaged := verdict.stagedOf_isRequestIn
  have mark : row.command.id ∈ c.processed.map Prod.fst := by simp [marks, same]
  -- Requests in other transactions than the one of the marked command are spared.
  have spares {m : MarketCommand} (means : claimed.command.market? = some m) {id : TransactionId}
      (other : MarketCommand.isRequestIn id m = false) :
      t.Spares c (MarketCommand.isRequestIn id) :=
    spares_of_mark found (meaning.trans means) marks (unstaged id) other
  cases verdict with
  | @confirmed process r point supplier transaction message followUp means seenPoint number new gln
      seen name document next unprocessed =>
    have rowMeans := meaning.trans means
    -- Both guards have passed: point and transaction are what they were when they were read.
    have current := seenPoint.current (admits.points _ (List.mem_singleton_self _))
    obtain ⟨committed, foundTransaction, guard⟩ :=
      admits.updates _ (List.mem_singleton_self _) _ rfl
    obtain rfl := seen.current foundTransaction guard
    obtain ⟨silent, rows⟩ := h.answered.answer receives foundTransaction stored rowMeans name.symm
      pending (unstaged _) mark
    refine h.answered.of_receives h.keyed receives (fun id other => spares means ?_)
      (fun _ _ => Answered.carried_of_single receives rfl current fun q mem =>
        ⟨q, List.mem_append_left _ mem, rfl, rfl, rfl, rfl⟩) ?_
    · simpa [MarketCommand.isRequestIn, name, eq_comm] using other
    · intro staged hstaged transaction' found'
      rw [List.mem_singleton] at hstaged
      subst hstaged
      rw [receives.transactions _ (List.mem_singleton_self _)] at found'
      cases found'
      refine ⟨⟨.confirmed, process, r, ⟨⟨message, by simp [nextTransaction, silent], document⟩,
        processedRow now row, rows, rfl, rowMeans⟩, ?_⟩, ?_⟩
      · have after := receives.points _ (List.mem_singleton_self _)
        exact ⟨_, _, number ▸ after, List.mem_append_right _ (List.mem_singleton_self _), rfl, rfl,
          gln, rfl⟩
      · rintro process' r' ⟨-, row', rows', -, means'⟩
        cases rows.symm.trans rows'
        cases rowMeans.symm.trans means'
        refine ⟨fun p hp => ?_, fun other hother => by rw [List.mem_singleton.mp hother]⟩
        rw [← number, current] at hp
        cases hp
        exact new
  | @rejected process r transaction message codes means seen name document =>
    have rowMeans := meaning.trans means
    obtain ⟨committed, foundTransaction, guard⟩ :=
      admits.updates _ (List.mem_singleton_self _) _ rfl
    obtain rfl := seen.current foundTransaction guard
    obtain ⟨silent, rows⟩ := h.answered.answer receives foundTransaction stored rowMeans name.symm
      pending (unstaged _) mark
    refine h.answered.of_receives h.keyed receives (fun id other => spares means ?_)
      (fun _ _ => Answered.carried_of_nil receives rfl) ?_
    · simpa [MarketCommand.isRequestIn, name, eq_comm] using other
    · intro staged hstaged transaction' found'
      rw [List.mem_singleton] at hstaged
      subst hstaged
      rw [receives.transactions _ (List.mem_singleton_self _)] at found'
      cases found'
      have said : HasOne (nextTransaction (t.transaction? committed.id)
          { committed with messages := committed.messages ++ [message] }) .reject :=
        ⟨message, by simp [nextTransaction, silent], document⟩
      refine ⟨⟨.rejected, said, processedRow now row, rows, rfl⟩, ?_⟩
      rintro process' r' ⟨confirmation, -⟩
      cases said.document_unique confirmation
  | @effectuated q point means seenPoint registered =>
    have current := seenPoint.current (admits.points _ (List.mem_singleton_self _))
    refine h.answered.of_receives h.keyed receives (fun id other => spares means rfl)
      (fun _ _ => Answered.carried_of_single receives rfl current fun q' mem => ?_)
      fun staged hstaged => by cases hstaged
    refine ⟨AccountingPoint.effectuated q.processId q', ?_, by simp, by simp, by simp, by simp⟩
    rw [AccountingPoint.markEffectuated_eq_map (h.registered.names _ _ current)]
    exact List.mem_map_of_mem mem
  | @forwarded result message means document =>
    -- A result that is inserted opens its transaction, in which there is no request therefore.
    have absent := admits.inserts _ (List.mem_singleton_self _) rfl
    refine h.answered.of_receives h.keyed receives (fun id other => spares means rfl)
      (fun _ _ => Answered.carried_of_nil receives rfl) ?_
    intro staged hstaged transaction' found'
    rw [List.mem_singleton] at hstaged
    subst hstaged
    rw [receives.transactions _ (List.mem_singleton_self _)] at found'
    cases found'
    have said : HasOne (nextTransaction (t.transaction? result.transactionId)
        ⟨result.transactionId, [message], 0⟩) .aggregationResult := ⟨message, rfl, document⟩
    refine ⟨⟨.forwarded, said, ?_⟩, ?_⟩
    · exact (rowsOf_of_spares h.keyed receives (spares means rfl)).trans
        (h.answered.rowsOf_eq_nil absent)
    · rintro process' r' ⟨confirmation, -⟩
      cases said.document_unique confirmation
  | known means =>
    exact h.answered.of_receives h.keyed receives (fun id other => spares means rfl)
      (fun _ _ => Answered.carried_of_nil receives rfl) fun staged hstaged => by cases hstaged

theorem Books.of_verdict (h : Books t) (holds : Holds t claimed)
    (verdict : Verdict t claimed outcome c) (admits : t.Admits c) (receives : t.Receives c now t')
    (keyed : t'.Keyed) : Books t' := by
  refine ⟨keyed, fun row mem => ?_, h.registered_of_verdict holds verdict admits receives,
    h.answered_of_verdict holds verdict admits receives⟩
  obtain ⟨old, hold, meaning⟩ | ⟨command, hcommand, meaning⟩ := mem_commands_receives receives mem
  · exact meaning ▸ h.meaningful old hold
  · obtain ⟨process, e, means⟩ := verdict.commands hcommand
    exact ⟨_, meaning.trans means⟩

/-! ### Whatever is not a commit -/

theorem Books.of_rewritten (h : Books t) {f : CommandRow → CommandRow}
    (rewritten : t.Rewritten t' f) (keyed : t'.Keyed) : Books t' := by
  refine ⟨keyed, fun row mem => ?_, h.registered.of_rewritten rewritten,
    h.answered.of_rewritten rewritten⟩
  rw [rewritten.commands] at mem
  obtain ⟨old, hold, rfl⟩ := List.mem_map.mp mem
  rw [rewritten.market?]
  exact h.meaningful old hold

end SupplierSwitch
