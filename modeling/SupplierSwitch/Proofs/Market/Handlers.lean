import SupplierSwitch.Proofs.Market.CheckDigits
import SupplierSwitch.Proofs.Market.Marketplace
import SupplierSwitch.Proofs.Market.Units

namespace SupplierSwitch

/-!
# What the handlers stage

Whatever a unit of work is told in the course of its program, and whoever commits meanwhile, it ends
with one of the change sets that are known to keep the books.

* `Rule.errors_eq_nil_iff`, `RuleBook.ofEffectuation_passes_iff` — what it takes to pass the rules;
* `Judged` — what a handler leaves behind, with one lemma for each of the three handlers;
* `Marketplace.Job.leads` — what every unit of the market leaves behind.
-/

/-! ### Numbers and rules -/

/-- A valid number is read as it is written. -/
theorem GlnNumber.text_of_parse {s : String} {gln : GlnNumber} (valid : Gs1.isValid 13 s = true)
    (h : GlnNumber.parse s = .ok gln) : gln.text = s :=
  (Gs1.parse_ok_iff.mp h).2.trans (Gs1.trim_of_isValid valid)

theorem Rule.errors_eq_nil_iff {ν : Type} {rules : List (Rule ν)} :
    (Rule.validate rules).errors = [] ↔ ∀ rule ∈ rules, rule.isBroken = false := by
  rw [← success_validate_iff, Validation.success, List.isEmpty_iff]

namespace RuleBook

/-- A request that passes has a valid supplier and a process that is new to its point. -/
theorem of_ofRequest_passes {process : ProcessKind} {r : SupplyRequest}
    {point : AccountingPoint}
    (h : (Rule.validate (ofRequest process r (some point))).errors = []) :
    Gs1.isValid 13 r.energySupplierGln = true ∧ point.process? r.processId = none := by
  rw [Rule.errors_eq_nil_iff] at h
  constructor
  · have kept := h (glnNumberMustBeValid r.energySupplierGln) (by simp [ofRequest])
    simpa [glnNumberMustBeValid] using kept
  · have kept := h (processIdMustBeUnique r.accountingPointId (some point) r.processId)
      (by simp [ofRequest])
    simpa [processIdMustBeUnique] using kept

/-- An effectuation passes if its process is registered, pending and of its kind. -/
theorem ofEffectuation_passes_iff {process : ProcessKind} {id : String}
    {point : Option AccountingPoint} {processId : ProcessId} :
    (Rule.validate (ofEffectuation process id point processId)).errors = [] ↔
      ∃ p q, point = some p ∧ p.process? processId = some q ∧ q.status = .pending ∧
        q.kind = process := by
  rw [Rule.errors_eq_nil_iff]
  cases point with
  | none => simp [ofEffectuation, accountingPointMustExist]
  | some p =>
    cases registered : p.process? processId with
    | none => simp [ofEffectuation, processMustBePending, registered]
    | some q =>
      simp [ofEffectuation, accountingPointMustExist, processMustBePending, processMustBeOfKind,
        registered]

end RuleBook

/-! ### Handlers -/

open Memory

variable {t : Tables} {c : ChangeSet} {claimed : ClaimedCommand} {rely : Reliance}

/-- What a handler of the claimed command leaves behind, to be marked and committed. -/
def Judged (claimed : ClaimedCommand) (outcome : CommandOutcome) (c : ChangeSet) (t : Tables) :
    Prop :=
  c.processed = [] ∧ (TooLate t claimed ∨
    Verdict t claimed outcome { c with processed := [(claimed.command.id, claimed.claim)] })

namespace Market

variable {market : Market} {process : ProcessKind} {r : SupplyRequest} {now : Timestamp}

/-- The header of the answer to a request. -/
def answerHeader (market : Market) (process : ProcessKind) (r : SupplyRequest)
    (createdAt : Timestamp) (messageId activityId : MessageId) : DocumentHeader where
  messageId := messageId
  activityId := activityId
  process := process
  sender := market.administratorGln.text
  receiver := r.senderGln
  transactionId := r.transactionId
  accountingPointId := r.accountingPointId
  createdAt := createdAt

/-- The message that answers a request: it turns the request down for the given reasons, if there
are any. -/
def message (market : Market) (process : ProcessKind) (r : SupplyRequest) (now : Timestamp)
    (reasons : Option (List Reason)) (messageId activityId : MessageId) : OutboundMessage :=
  let (document, kind) :=
    Market.document (market.answerHeader process r now messageId activityId) reasons
  ⟨document.id, kind, r.senderGln, document.toJson, now⟩

/-- The answer to a request is one more message in its transaction. -/
theorem leads_answer {reasons : Option (List Reason)} {post : Unit → ChangeSet → Tables → Prop}
    (unstaged : c.transactions = [])
    (h : ∀ t' transaction messageId activityId, t.Evolves t' →
      t'.SeenTransaction transaction → transaction.id = r.transactionId →
      post () { c with transactions :=
        [⟨{ transaction with messages := transaction.messages ++
            [market.message process r now reasons messageId activityId] },
          .update (.exact transaction.version)⟩] } t') :
    (market.answer process r now reasons).Leads rely post c t := by
  -- No transaction is staged yet, so that it is read from the store and saved for the first time.
  have new (id : TransactionId) : c.transaction? id = none := by
    simp [ChangeSet.transaction?, unstaged]
  refine Work.leads_bind (Work.leads_freshId fun messageId => ?_)
  refine Work.leads_bind (Work.leads_freshId fun activityId => ?_)
  refine Work.leads_bind (Work.leads_getTransaction fun t₁ transaction evolves₁ _ found => ?_)
  rw [new, Option.none_or] at found
  refine Work.leads_bind (Work.leads_ofDomain fun answered attached => ?_)
  obtain rfl := Transaction.eq_of_attach attached
  refine Work.leads_saveTransaction (new _) fun t₂ evolves₂ _ => ?_
  rw [unstaged]
  exact h t₂ transaction ⟨messageId⟩ ⟨activityId⟩ (evolves₁.trans evolves₂)
    ((Tables.seenTransaction_of_transaction? found).later evolves₂)
    (Tables.id_of_transaction? found)

theorem leads_reject (means : claimed.command.market? = some (.request process r))
    (violations : List MarketViolation) :
    (market.reject process r now violations).Leads rely (Judged claimed) .empty t := by
  refine Work.leads_bind (Work.leads_ofConversion fun reasons _ => ?_)
  refine Work.leads_bind (leads_answer rfl fun t₁ transaction _ _ _ seen name => ?_)
  refine Work.leads_bind (Work.leads_report (Work.leads_pure ⟨rfl, .inr ?_⟩))
  exact .rejected means seen name rfl

theorem leads_confirm (means : claimed.command.market? = some (.request process r))
    {point : AccountingPoint} (seen : t.SeenPoint point)
    (number : point.gsrn.text = r.accountingPointId)
    (passes : (Rule.validate (RuleBook.ofRequest process r (some point))).errors = []) :
    (market.confirm process r now point).Leads rely (Judged claimed) .empty t := by
  obtain ⟨valid, new⟩ := RuleBook.of_ofRequest_passes passes
  refine Work.leads_bind (Work.leads_ofDomain fun supplier parsed => ?_)
  refine Work.leads_bind (Work.leads_ofDomain fun registered ok => ?_)
  obtain ⟨-, -, rfl⟩ := AccountingPoint.registerProcess_ok_iff.mp ok
  refine Work.leads_bind (Work.leads_savePoint rfl fun t₁ evolves₁ _ => ?_)
  refine Work.leads_bind (leads_answer rfl fun t₂ transaction _ _ evolves₂ heard name => ?_)
  refine Work.leads_bind (Work.leads_enqueue fun id t₃ created evolves₃ _ => ?_)
  refine Work.leads_bind (Work.leads_report (Work.leads_pure ⟨rfl, .inr ?_⟩))
  exact .confirmed means (seen.later ((evolves₁.trans evolves₂).trans evolves₃)) number new
    (GlnNumber.text_of_parse valid parsed) (heard.later evolves₃) name rfl
    (InternalCommand.market?_fresh id (.effectuate process _) created) rfl

theorem leads_handleRequest (means : claimed.command.market? = some (.request process r)) :
    (market.handleRequest process r now).Leads rely (Judged claimed) .empty t := by
  refine Work.leads_bind (Work.leads_findPoint fun t₁ _ _ => ?_)
  refine Work.leads_bind (Work.leads_reports ?_)
  -- A point that is missing breaks a rule, so that the middle case is for completeness only.
  split
  · rename_i point passes found
    have found : t₁.point? r.accountingPointId = some point := found
    rw [found] at passes
    exact leads_confirm means (Tables.seenPoint_of_point? found)
      (Tables.gsrn_of_point? found) passes
  · exact Work.leads_throw _
  · exact leads_reject means _

/-- An effectuation that is not processed yet passes the rules. -/
theorem tooLate_of_broken (books : Books t) (holds : Holds t claimed) {e : Effectuation}
    (means : claimed.command.market? = some (.effectuate process e))
    (broken : (Rule.validate (RuleBook.ofEffectuation process e.accountingPointId
      (t.point? e.accountingPointId) e.processId)).errors ≠ []) : TooLate t claimed := by
  obtain ⟨row, found, kind, payload⟩ := holds
  have meaning : row.command.market? = some (.effectuate process e) :=
    (InternalCommand.market?_congr kind payload).trans means
  -- If it were not processed, the books would show its process, pending and of its kind.
  refine ⟨row, found, (Bool.not_eq_false _).mp fun pending => broken ?_⟩
  have stored := Tables.mem_commands_of_row? found
  obtain ⟨p, q, point, registered, rfl⟩ := books.registered.processes row stored process e meaning
  obtain ⟨row', only, status⟩ := books.registered.effectuations _ p point q
    (AccountingPoint.mem_of_process? registered)
  rw [AccountingPoint.id_of_process? registered] at only
  obtain rfl := Tables.eq_of_rowsOf only stored (Registered.storesA_isEffectuation.mpr meaning)
  exact RuleBook.ofEffectuation_passes_iff.mpr ⟨p, q, point, registered, status.mpr pending, rfl⟩

theorem leads_handleEffectuation {distinct : Prop} {e : Effectuation} (holds : Holds t claimed)
    (means : claimed.command.market? = some (.effectuate process e)) :
    (handleEffectuation process e).Leads ⟨Books, distinct⟩ (Judged claimed) .empty t := by
  refine Work.leads_bind (Work.leads_findPoint fun t₁ evolves₁ books => ?_)
  refine Work.leads_bind (Work.leads_reports ?_)
  split
  · rename_i point passes found
    have found : t₁.point? e.accountingPointId = some point := found
    rw [found] at passes
    obtain ⟨_, q, ⟨⟩, registered, -, rfl⟩ := RuleBook.ofEffectuation_passes_iff.mp passes
    refine Work.leads_bind (Work.leads_ofDomain fun effectuated ok => ?_)
    obtain ⟨_, registered', -, rfl⟩ := AccountingPoint.effectuate_ok_iff.mp ok
    cases registered.symm.trans registered'
    refine Work.leads_bind (Work.leads_report ?_)
    refine Work.leads_bind (Work.leads_savePoint rfl fun t₂ evolves₂ _ => ?_)
    refine Work.leads_pure ⟨rfl, .inr ?_⟩
    have seen := (Tables.seenPoint_of_point? found).later evolves₂
    have name := AccountingPoint.id_of_process? registered
    have number := Tables.gsrn_of_point? found
    obtain ⟨id, processId⟩ := e
    subst name number
    exact .effectuated means seen registered
  · exact Work.leads_throw _
  · rename_i other _
    -- It is turned down because another processor was faster, and then its mark cannot be
    -- committed.
    refine Work.leads_bind (Work.leads_report (Work.leads_pure ⟨rfl, .inl ?_⟩))
    refine tooLate_of_broken books (holds.later evolves₁) means fun passes => ?_
    obtain ⟨point, -, found, -⟩ := RuleBook.ofEffectuation_passes_iff.mp passes
    exact other point passes found

theorem leads_handleResult {result : AggregationResult}
    (means : claimed.command.market? = some (.forwardResult result)) :
    (handleResult result now).Leads rely (Judged claimed) .empty t := by
  refine Work.leads_bind (Work.leads_freshId fun messageId => ?_)
  refine Work.leads_bind (Work.leads_ofDomain fun transaction attached => ?_)
  obtain rfl := Transaction.eq_of_attach attached
  refine Work.leads_bind (Work.leads_lift (Work.leads_run_addTransaction ?_ ?_))
  · rintro t₁ - - - -
    refine Work.leads_bind (Work.leads_report (Work.leads_pure ⟨rfl, .inr ?_⟩))
    exact .forwarded means rfl
  · intro e t₁ there _ _ found
    have found : t₁.transaction? result.transactionId = some there := found
    -- Where a transaction of that name is there already, nothing more is done.
    split
    · contradiction
    · refine Work.leads_bind (Work.leads_report (Work.leads_pure ⟨rfl, .inr ?_⟩))
      exact .known means (Tables.seenTransaction_of_transaction? found)
        (Tables.id_of_transaction? found)
    · exact Work.leads_throw _

theorem leads_handle {distinct : Prop} {m : MarketCommand} (holds : Holds t claimed)
    (means : claimed.command.market? = some m) :
    (market.handle m now).Leads ⟨Books, distinct⟩ (Judged claimed) .empty t := by
  cases m with
  | request process r => exact leads_handleRequest means
  | effectuate process e => exact leads_handleEffectuation holds means
  | forwardResult result => exact leads_handleResult means

end Market

/-! ### Intake -/

namespace Entry

theorem empty : Entry .empty where
  marks := rfl
  points := rfl
  unprocessed _ mem := by cases mem
  commands _ mem := by cases mem
  transactions _ mem := by cases mem

variable {id : CommandId} {created : Timestamp}

/-- No request is staged in a transaction that is not. -/
theorem stagedOf_eq_nil (h : Entry c) {id : TransactionId} (new : c.transaction? id = none) :
    Tables.stagedOf (MarketCommand.isRequestIn id) c = [] := by
  refine List.filter_eq_nil_iff.mpr fun command mem => ?_
  obtain ⟨result, means⟩ | ⟨process, r, means, written⟩ := h.commands command mem
  · simp [means, MarketCommand.isRequestIn]
  · have other : r.transactionId ≠ id := fun same =>
      ChangeSet.transaction?_eq_none_iff.mp new (same ▸ written)
    simp [means, MarketCommand.isRequestIn, other]

theorem result (h : Entry c) (r : AggregationResult) :
    Entry { c with
      commands := c.commands ++ [.fresh id AggregationResult.kind r.toJson created] } := by
  have means : (InternalCommand.fresh id AggregationResult.kind r.toJson created).market?
      = some (.forwardResult r) := InternalCommand.market?_fresh id (.forwardResult r) created
  refine ⟨h.marks, h.points, ?_, ?_, ?_⟩
  · intro command mem
    obtain old | new := List.mem_append.mp mem
    · exact h.unprocessed command old
    · rw [List.mem_singleton.mp new]; rfl
  · intro command mem
    obtain old | new := List.mem_append.mp mem
    · exact h.commands command old
    · rw [List.mem_singleton.mp new]
      exact .inl ⟨r, means⟩
  · intro staged mem
    obtain ⟨write, silent, command, only⟩ := h.transactions staged mem
    refine ⟨write, silent, command, ?_⟩
    rw [Tables.stagedOf_append rfl, only, means]
    rfl

theorem request (h : Entry c) (process : ProcessKind) {r : SupplyRequest}
    (new : c.transaction? r.transactionId = none) :
    Entry { c.insertTransaction (.fresh r.transactionId) with
      commands := c.commands ++ [.fresh id process.requestKind r.toJson created] } := by
  have means : (InternalCommand.fresh id process.requestKind r.toJson created).market?
      = some (.request process r) := InternalCommand.market?_fresh id (.request process r) created
  refine ⟨h.marks, h.points, ?_, ?_, ?_⟩
  · intro command mem
    obtain old | new := List.mem_append.mp mem
    · exact h.unprocessed command old
    · rw [List.mem_singleton.mp new]; rfl
  · intro command mem
    rw [ChangeSet.insertTransaction, List.map_append]
    obtain old | new := List.mem_append.mp mem
    · obtain result | ⟨process', r', means', written⟩ := h.commands command old
      · exact .inl result
      · exact .inr ⟨process', r', means', List.mem_append_left _ written⟩
    · rw [List.mem_singleton.mp new]
      exact .inr ⟨process, r, means, List.mem_append_right _ (List.mem_singleton_self _)⟩
  · intro staged mem
    obtain old | rfl := (List.mem_append.mp mem).imp_right List.mem_singleton.mp
    · obtain ⟨write, silent, command, only⟩ := h.transactions staged old
      have other : r.transactionId ≠ staged.transaction.id := fun same =>
        ChangeSet.transaction?_eq_none_iff.mp new (same ▸ List.mem_map_of_mem old)
      refine ⟨write, silent, command, (Tables.stagedOf_append rfl _).trans ?_⟩
      simp [means, MarketCommand.isRequestIn, other, only]
    · refine ⟨rfl, rfl, .fresh id process.requestKind r.toJson created,
        (Tables.stagedOf_append rfl _).trans ?_⟩
      simp [means, MarketCommand.isRequestIn, Transaction.fresh, h.stagedOf_eq_nil new]

end Entry

namespace Marketplace

theorem Intake.leads_work (entry : Entry c) (distinct : rely.distinct) (intake : Intake) :
    intake.work.run.Leads rely (fun _ c _ => Entry c) c t := by
  cases intake with
  | request process r =>
    refine Work.leads_run_bind (Work.leads_run_addTransaction ?_ fun _ _ _ _ _ _ => entry)
    intro t₁ _ _ new _
    refine Work.leads_run_bind ?_
    rintro _ id _ ⟨rfl, rfl, fresh⟩
    refine Work.leads_run_enqueueWithId ?_ ?_
    · rintro t₂ created - - _ _ _ ⟨rfl, rfl⟩
      exact entry.request process new
    · rintro _ t₂ - - ⟨command, mem, same⟩
      -- A refusal here would leave the transaction without its request.
      exact absurd (congrArg CommandId.uuid same) (fresh distinct command mem)
  | result r =>
    rintro _ id _ ⟨rfl, rfl, -⟩
    exact Work.leads_run_enqueueWithId (fun _ _ _ _ => entry.result r) fun _ _ _ _ _ => entry
  | resultUnder id r =>
    exact Work.leads_run_enqueueWithId (fun _ _ _ _ => entry.result r) fun _ _ _ _ _ => entry

theorem Intake.leads_all (entry : Entry c) (distinct : rely.distinct) (intakes : List Intake) :
    (Intake.all intakes).Leads rely (fun _ c _ => Entry c) c t := by
  induction intakes generalizing c t with
  | nil => exact entry
  | cons intake rest ih =>
    exact Handling.leads_bind ((intake.leads_work entry distinct).imp fun _ _ _ entry => ih entry)

namespace Job

/-- What the job begins with. -/
def Given : Job → Tables → Prop
  | intake _, _ => True
  | handle _ claimed, t => Holds t claimed

/-- What the program of the job ends with. -/
def Post : Job → Option CommandOutcome → ChangeSet → Tables → Prop
  | intake _, _, c, _ => Entry c
  | handle _ claimed, result, c, t => ∀ outcome, result = some outcome →
    (TooLate t claimed ∧ c.processed = [(claimed.command.id, claimed.claim)]) ∨
      Verdict t claimed outcome c

/-- What the program of the job relies on. -/
def reliance (job : Job) : Reliance :=
  ⟨Books, job.TakesIn⟩

theorem Given.later {job : Job} {t t' : Tables} (h : job.Given t) (evolves : t.Evolves t') :
    job.Given t' := by
  cases job with
  | intake _ => trivial
  | handle _ _ => exact Holds.later h evolves

theorem stable (job : Job) : Handling.Stable job.reliance job.Post := by
  intro result c t t' h evolves _
  cases job with
  | intake _ => exact h
  | handle _ claimed =>
    intro outcome done
    obtain ⟨late, mark⟩ | verdict := h outcome done
    · exact .inl ⟨late.later evolves, mark⟩
    · exact .inr (verdict.later evolves)

theorem leads_settle {market : Market} {outcome : CommandOutcome}
    (judged : Judged claimed outcome c t) :
    (settle claimed (.ok outcome)).Leads rely (Post (.handle market claimed)) c t := by
  rintro t' answer c' ⟨evolves, -, same⟩
  rw [Tables.answer_markProcessed] at same
  cases same
  obtain ⟨unmarked, judged⟩ := judged
  rintro _ ⟨⟩
  rw [ChangeSet.markProcessed_of_unmarked unmarked]
  obtain late | verdict := judged
  · exact .inl ⟨late.later evolves, rfl⟩
  · exact .inr (verdict.later evolves)

/-- Whatever a unit of the market is told, it ends with what its job is about. -/
theorem leads {job : Job} (given : job.Given t) :
    job.program.Leads job.reliance job.Post .empty t := by
  cases job with
  | intake intakes =>
    refine Handling.leads_bind ?_
    exact (Intake.leads_all .empty trivial intakes).imp fun _ _ _ entry => entry
  | handle market claimed =>
    refine Handling.leads_bind ?_
    rintro _ now _ ⟨rfl, rfl⟩
    refine Handling.leads_bind ?_
    cases means : claimed.command.market? with
    -- What means nothing to the market is not handled, and nothing of it is committed.
    | none =>
      obtain ⟨e, fails⟩ := market.dispatch_of_market?_eq_none means now
      rw [fails]
      exact nofun
    | some m =>
      rw [market.dispatch_of_market? means now]
      refine Handling.leads_bind ((Work.leads_iff.mp (market.leads_handle given means)).imp ?_)
      intro result c t judged
      cases result with
      | error e => exact nofun
      | ok outcome => exact leads_settle (judged outcome rfl)

end Job

end Marketplace

end SupplierSwitch
