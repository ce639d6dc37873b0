import SupplierSwitch.Proofs.Market.Contention
import SupplierSwitch.Proofs.Market.Drains
import SupplierSwitch.Proofs.Market.Handlers
import SupplierSwitch.Proofs.Market.StoredForms
import SupplierSwitch.Proofs.Memory.Company

namespace SupplierSwitch

open Memory Tables

/-!
# Answers to requests

A request is judged by the accounting point that the handler finds first, and answered in its
transaction. Whatever others commit meanwhile, if the unit is committed, then the answer is the last
message of the transaction, and it tells what the rules have said.

* `Market.Judges` — what a request is judged to by the point that was found, and what is staged;
* `Market.answers_coherent` — the message, its document, the rules and the outcome of a request.
-/

namespace Market

variable {config : MarketConfig} {process : ProcessKind} {r : SupplyRequest} {now : Timestamp}
  {point : Option AccountingPoint} {rely : Reliance} {t t' : Tables} {c : ChangeSet}
  {outcome : CommandOutcome}

/-- What becomes of a request by the point that was found: the outcome, and what is staged for it,
in the transaction as it was seen. -/
inductive Judges (config : MarketConfig) (process : ProcessKind) (r : SupplyRequest)
    (now : Timestamp) (point : Option AccountingPoint) (t : Tables) :
    CommandOutcome → ChangeSet → Prop where
  | confirmed {found : AccountingPoint} {supplier : GlnNumber} {transaction : Transaction}
      {messageId activityId : MessageId} {followUp : InternalCommand}
      (known : point = some found) (passes : broken process r point = [])
      (seenPoint : t.SeenPoint found) (number : found.gsrn.text = r.accountingPointId)
      (parsed : GlnNumber.parse r.energySupplierGln = .ok supplier)
      (seen : t.SeenTransaction transaction) (name : transaction.id = r.transactionId) :
      Judges config process r now point t .completed
        { commands := [followUp]
          processed := []
          transactions := [⟨{ transaction with messages := transaction.messages ++
            [(ofConfig config).message process r now none messageId activityId] },
            .update (.exact transaction.version)⟩]
          points := [⟨{ found with
            processes := found.processes ++
              [⟨r.processId, process, supplier, r.effectiveDate, .pending⟩] },
            .exact found.version⟩] }
  | rejected {transaction : Transaction} {messageId activityId : MessageId}
      (fails : broken process r point ≠ []) (seen : t.SeenTransaction transaction)
      (name : transaction.id = r.transactionId) :
      Judges config process r now point t
        (.rejected ((broken process r point).map (·.violation.code)))
        { commands := []
          processed := []
          transactions := [⟨{ transaction with messages := transaction.messages ++
            [(ofConfig config).message process r now
              (some ((broken process r point).map (·.violation.reason))) messageId activityId] },
            .update (.exact transaction.version)⟩]
          points := [] }

theorem judges_confirm {found : AccountingPoint} (passes : broken process r (some found) = [])
    (seenPoint : t.SeenPoint found) (number : found.gsrn.text = r.accountingPointId) :
    ((ofConfig config).confirm process r now found).Leads rely
      (fun outcome c t => Judges config process r now (some found) t outcome c) .empty t := by
  -- One refinement for each step of the handler; after a call the tables may have evolved.
  refine Work.leads_bind (Work.leads_ofDomain fun supplier parsed => ?_)
  refine Work.leads_bind (Work.leads_ofDomain fun registered ok => ?_)
  obtain ⟨-, -, rfl⟩ := AccountingPoint.registerProcess_ok_iff.mp ok
  refine Work.leads_bind (Work.leads_savePoint rfl fun t₁ evolves₁ _ => ?_)
  refine Work.leads_bind (leads_answer rfl fun t₂ transaction _ _ evolves₂ seen name => ?_)
  refine Work.leads_bind (Work.leads_enqueue fun id t₃ created evolves₃ _ => ?_)
  refine Work.leads_bind (Work.leads_report (Work.leads_pure ?_))
  exact .confirmed rfl passes (seenPoint.later ((evolves₁.trans evolves₂).trans evolves₃)) number
    parsed (seen.later evolves₃) name

theorem judges_reject (fails : broken process r point ≠ []) :
    ((ofConfig config).reject process r now ((broken process r point).map (·.violation))).Leads rely
      (fun outcome c t => Judges config process r now point t outcome c) .empty t := by
  refine Work.leads_bind (Work.leads_ofConversion fun reasons converted => ?_)
  have told := ConverterRegistry.convertAll_market ((broken process r point).map (·.violation))
  obtain rfl : _ = reasons := Except.ok.inj (told.symm.trans converted)
  refine Work.leads_bind (leads_answer rfl
    fun t₁ transaction messageId activityId _ seen name => ?_)
  refine Work.leads_bind (Work.leads_report (Work.leads_pure ?_))
  simp only [List.map_map]
  exact .rejected fails seen name

/-- Whoever commits meanwhile, a request is judged by the point that was found. -/
theorem leads_judge (known : ∀ found, point = some found →
      t.SeenPoint found ∧ found.gsrn.text = r.accountingPointId) :
    ((ofConfig config).judge process r now point).Leads rely
      (fun outcome c t => Judges config process r now point t outcome c) .empty t := by
  by_cases passes : broken process r point = []
  · obtain ⟨found, rfl⟩ := exists_point_of_passes passes
    obtain ⟨seen, number⟩ := known found rfl
    rw [judge_of_passes passes]
    exact Work.leads_bind (Work.leads_reports (judges_confirm passes seen number))
  · rw [judge_of_broken passes]
    exact Work.leads_bind (Work.leads_reports (judges_reject passes))

/-! ### The run of a handler -/

variable {claimed : ClaimedCommand} {w : World Traffic}

/-- The point that the handler of a request finds. -/
def pointFound (claimed : ClaimedCommand) (r : SupplyRequest) (w : World Traffic) :
    Option AccountingPoint :=
  (Traffic.opened claimed w).store.turn.point? r.accountingPointId

/-- The first question of the handler is for the point; with the answer it goes on to judge. -/
theorem handling_request (market : Market)
    (means : claimed.command.market? = some (.request process r)) (w : World Traffic) :
    let start := Traffic.opened claimed w
    Traffic.handling market.router claimed w = (Traffic.store.runIn
      ((market.judge process r (w.clock.reading w.clock.taken) (pointFound claimed r w)).run
        >>= fun result => pure (result.mapError DispatchError.handler)) .empty).run
      { start with store := start.store.took start.store.turn } := by
  rw [Traffic.handling, dispatch_of_market? market means,
    show market.handle (.request process r) _ = _ from market.handleRequest_eq process r _]
  rfl

/-- A handled request is judged by the point that its handler has found. -/
theorem judges_of_handling (config : MarketConfig)
    (means : claimed.command.market? = some (.request process r))
    (keeping : w.store.Keeping) :
    let done := Traffic.handling (ofConfig config).router claimed w
    (∀ outcome, done.1.1 = .ok outcome → Judges config process r (w.clock.reading w.clock.taken)
      (pointFound claimed r w) done.2.store.tables outcome done.1.2) ∧
    done.1.2.Tidy ∧ done.2.store.others = w.store.others := by
  intro done
  let start := Traffic.opened claimed w
  let asked : World Traffic := { start with store := start.store.took start.store.turn }
  have known : ∀ found, pointFound claimed r w = some found →
      asked.store.tables.SeenPoint found ∧ found.gsrn.text = r.accountingPointId :=
    fun found known => ⟨seenPoint_of_point? known, gsrn_of_point? known⟩
  have leads : ((((ofConfig config).judge process r (w.clock.reading w.clock.taken)
      (pointFound claimed r w)).run >>= fun result => pure (result.mapError DispatchError.handler))
        : Handling _).Leads Traffic.reliance (fun result c t => ∀ outcome, result = .ok outcome →
          Judges config process r (w.clock.reading w.clock.taken) (pointFound claimed r w) t outcome
            c) .empty asked.store.tables := by
    refine Handling.leads_bind ((Work.leads_iff.mp (leads_judge known)).imp
      fun result c t judged => ?_)
    show ∀ outcome, result.mapError _ = .ok outcome → _
    cases result with
    | error e => exact nofun
    | ok outcome =>
      rintro _ ⟨⟩
      exact judged outcome rfl
  have comes := Traffic.of_leads leads ChangeSet.tidy_empty (w := asked) keeping
  rw [← handling_request _ means] at comes
  exact comes

/-! ### What is committed -/

/-- A message that was staged in a transaction as it was seen is its last message afterwards. -/
theorem appended_of_commit {transaction : Transaction} {message : OutboundMessage}
    (staged : ⟨{ transaction with messages := transaction.messages ++ [message] },
      .update (.exact transaction.version)⟩ ∈ c.transactions) (seen : t.SeenTransaction transaction)
    (admits : t.Admits c) (receives : t.Receives c now t') :
    t.transaction? transaction.id = some transaction ∧
      ∃ after, t'.transaction? transaction.id = some after ∧ after.id = transaction.id ∧
        after.messages = transaction.messages ++ [message] := by
  obtain ⟨current, found, guard⟩ := admits.updates _ staged _ rfl
  obtain rfl := seen.current found guard
  exact ⟨found, _, receives.transactions _ staged, rfl, rfl⟩

/-- A process that was staged on a point as it was seen is its last process afterwards. -/
theorem registered_of_commit {found : AccountingPoint} {new : BusinessProcess}
    (staged : ⟨{ found with processes := found.processes ++ [new] }, .exact found.version⟩
      ∈ c.points) (seen : t.SeenPoint found) (admits : t.Admits c)
    (receives : t.Receives c now t') :
    t.point? found.gsrn.text = some found ∧
      ∃ after, t'.point? found.gsrn.text = some after ∧
        after.processes = found.processes ++ [new] :=
  ⟨seen.current (admits.points _ staged), _, receives.points _ staged, rfl⟩

/-- What a request leaves behind that was handled and committed, with the point that its handler has
found: one more message in its transaction, and one more process on its point if it was granted. -/
inductive Answers (config : MarketConfig) (process : ProcessKind) (r : SupplyRequest)
    (now : Timestamp) (point : Option AccountingPoint) (met tables : Tables) :
    CommandOutcome → Prop where
  | confirmed {before after : Transaction} {messageId activityId : MessageId}
      {found registered : AccountingPoint} {supplier : GlnNumber}
      (passes : broken process r point = []) (known : point = some found)
      (earlier : met.transaction? r.transactionId = some before)
      (later : tables.transaction? r.transactionId = some after)
      (messages : after.messages = before.messages ++
        [(ofConfig config).message process r now none messageId activityId])
      (unregistered : met.point? r.accountingPointId = some found)
      (stored : tables.point? r.accountingPointId = some registered)
      (parsed : GlnNumber.parse r.energySupplierGln = .ok supplier)
      (processes : registered.processes = found.processes ++
        [⟨r.processId, process, supplier, r.effectiveDate, .pending⟩]) :
      Answers config process r now point met tables .completed
  | rejected {before after : Transaction} {messageId activityId : MessageId}
      (fails : broken process r point ≠ [])
      (earlier : met.transaction? r.transactionId = some before)
      (later : tables.transaction? r.transactionId = some after)
      (messages : after.messages = before.messages ++
        [(ofConfig config).message process r now
          (some ((broken process r point).map (·.violation.reason))) messageId activityId]) :
      Answers config process r now point met tables
        (.rejected ((broken process r point).map (·.violation.code)))

/-- A dispatch commits what its handler staged, with a mark on its command. -/
theorem exists_marking_eq (c : ChangeSet) (claimed : ClaimedCommand) :
    ∃ marks, c.marking claimed = { c with processed := marks } := by
  unfold ChangeSet.marking ChangeSet.markProcessed
  split <;> exact ⟨_, rfl⟩

/-- A request that is counted as processed was answered. -/
theorem answers_of_process {settings : ProcessorConfig} {report : DrainReport} {w' : World Traffic}
    (means : claimed.command.market? = some (.request process r)) (keeping : w.store.Keeping)
    (handles : (Traffic.handled (ofConfig config).router claimed w).1 = .ok outcome)
    (processes :
      ((Traffic.processor (ofConfig config).router settings).process claimed report).run w
        = (.ok (report.addOutcome outcome), w')) :
    Answers config process r (w.clock.reading w.clock.taken) (pointFound claimed r w) w'.store.met
      w'.store.tables outcome := by
  -- What the handler staged is what was committed, and what it had seen was still so at commit.
  obtain ⟨judged, tidy, others⟩ := judges_of_handling config means keeping
  obtain ⟨now, evolves, commits⟩ := Traffic.committed_of_process keeping others processes
  obtain ⟨admits, same⟩ := commit_ok_iff.mp commits
  have receives := receives_apply (ChangeSet.tidy_marking tidy claimed) admits now
  rw [← same] at receives
  rw [Traffic.handled_eq] at handles
  have judged := judged outcome handles
  obtain ⟨marks, marked⟩ :=
    exists_marking_eq (Traffic.handling (ofConfig config).router claimed w).1.2 claimed
  rw [marked] at admits receives
  generalize (Traffic.handling (ofConfig config).router claimed w).1.2 = c
    at judged admits receives
  cases judged with
  | @confirmed found supplier transaction messageId activityId _ known passes seenPoint number
      parsed seen name =>
    obtain ⟨earlier, after, later, -, messages⟩ := appended_of_commit
      (List.mem_singleton.mpr rfl) (seen.later evolves) admits receives
    obtain ⟨unregistered, registered, stored, grown⟩ := registered_of_commit
      (List.mem_singleton.mpr rfl) (seenPoint.later evolves) admits receives
    rw [name] at earlier later
    rw [number] at unregistered stored
    exact .confirmed passes known earlier later messages unregistered stored parsed grown
  | @rejected transaction messageId activityId fails seen name =>
    obtain ⟨earlier, after, later, -, messages⟩ := appended_of_commit
      (List.mem_singleton.mpr rfl) (seen.later evolves) admits receives
    rw [name] at earlier later
    exact .rejected fails earlier later messages

/-! ### One request -/

namespace OneRequest

open Marketplace.OneMoveIn (gsrn supplier request)

/-- The settings of a market. -/
def market : MarketConfig := ⟨supplier⟩

/-- The request of a sender that is not the supplier. -/
def foreign : SupplyRequest :=
  { request with senderGln := "" }

/-- The request of a sender that is named with blanks around its number. -/
def blank : SupplyRequest :=
  { request with senderGln := " 5790000000005 " }

/-- A request that was taken in and is claimed. -/
def taken (r : SupplyRequest) : ClaimedCommand :=
  ⟨{ InternalCommand.fresh ⟨.zero⟩ ProcessKind.moveIn.requestKind r.toJson .epoch with
    sequence := some 1 }, ⟨⟨1⟩⟩⟩

/-- A store with the request, its transaction and its point; the others leave it alone. -/
def world (r : SupplyRequest) : World Traffic :=
  let tables : Tables := ⟨[⟨(taken r).command, some ((taken r).claim, .greatest)⟩], 1,
    [.fresh r.transactionId], [.fresh gsrn]⟩
  ⟨⟨tables, fun _ t => t, 0, tables⟩, ⟨fun _ => .epoch, 0⟩,
    ⟨fun i => ⟨BitVec.ofNat 128 (i + 2)⟩, 0⟩, [], []⟩

/-- The processing of the request. -/
def done (r : SupplyRequest) : Except StoreError DrainReport × World Traffic :=
  ((Traffic.processor (ofConfig market).router .standard).process (taken r) .empty).run (world r)

/-- The request is handled with an outcome and its unit committed. -/
def Processed (r : SupplyRequest) (outcome : CommandOutcome) : Prop :=
  (Traffic.handled (ofConfig market).router (taken r) (world r)).1 = .ok outcome ∧
    (done r).1 = .ok (DrainReport.empty.addOutcome outcome)

instance (r : SupplyRequest) (outcome : CommandOutcome) : Decidable (Processed r outcome) := by
  unfold Processed; infer_instance

theorem means (r : SupplyRequest) : (taken r).command.market? = some (.request .moveIn r) :=
  InternalCommand.market?_of_toJson rfl rfl

theorem keeping (r : SupplyRequest) : (world r).store.Keeping :=
  fun _ t => .refl t

theorem processes {r : SupplyRequest} {outcome : CommandOutcome} (h : Processed r outcome) :
    ((Traffic.processor (ofConfig market).router .standard).process (taken r) .empty).run (world r)
      = (.ok (DrainReport.empty.addOutcome outcome), (done r).2) :=
  Prod.ext h.2 rfl

theorem processed_request : Processed request .completed := by
  decide +kernel

theorem processed_foreign : Processed foreign (.rejected ["E16"]) := by
  decide +kernel

theorem processed_blank : Processed blank .completed := by
  decide +kernel

end OneRequest

/-! ### The document of an answer -/

/-- The last message of a transaction answers a request as its rules demand, by the point that was
found. -/
structure Coherent (process : ProcessKind) (r : SupplyRequest) (point : Option AccountingPoint)
    (outcome : CommandOutcome) (transaction : Transaction) (message : OutboundMessage)
    (document : MarketDocument) : Prop where
  reads : MarketDocument.ofJson message.payload = .ok document
  id_eq : document.id = message.id
  transaction_eq : document.activityRecord.originalTransaction = transaction.id
  point_eq : document.activityRecord.marketEvaluationPoint = r.accountingPointId
  process_eq : document.process = process
  rejection : document.isRejection = true ↔ message.document = .reject
  verdict : message.document = .reject ↔
    ∃ rule ∈ RuleBook.ofRequest process r point, rule.isBroken = true
  /-- One reason for each broken rule, in the order of the rules. -/
  reasons_eq : document.activityRecord.reasons
    = ((RuleBook.ofRequest process r point).filter (·.isBroken)).map (·.violation.reason)
  rejected : message.document = .reject →
    let codes := (Rule.validate (RuleBook.ofRequest process r point)).codes
    codes ≠ [] ∧ document.activityRecord.reasons.map (·.code) = codes ∧ outcome = .rejected codes
  confirmed : message.document ≠ .reject →
    message.document = .confirm ∧ document.activityRecord.reasons = [] ∧ outcome = .completed

theorem exists_broken_iff : (∃ rule ∈ RuleBook.ofRequest process r point, rule.isBroken = true) ↔
    broken process r point ≠ [] := by
  rw [broken, Ne, List.filter_eq_nil_iff]
  push Not
  rfl

/-- The document of an answer as it is read: with the instant that its text names. -/
def documentRead (market : Market) (process : ProcessKind) (r : SupplyRequest) (now : Timestamp)
    (reasons : Option (List Reason)) (messageId activityId : MessageId) : MarketDocument :=
  (Market.document (market.answerHeader process r now.written messageId activityId) reasons).1

theorem ofJson_message (market : Market) (reasons : Option (List Reason))
    (messageId activityId : MessageId) :
    MarketDocument.ofJson (market.message process r now reasons messageId activityId).payload
      = .ok (market.documentRead process r now reasons messageId activityId) := by
  cases reasons <;> exact MarketDocument.ofJson_toJson _

section

variable (config) {after : Transaction} (messageId activityId : MessageId)

theorem coherent_confirmed (passes : broken process r point = [])
    (name : after.id = r.transactionId) :
    Coherent process r point .completed after
      ((ofConfig config).message process r now none messageId activityId)
      ((ofConfig config).documentRead process r now none messageId activityId) where
  reads := ofJson_message _ none messageId activityId
  id_eq := rfl
  transaction_eq := name.symm
  point_eq := rfl
  process_eq := rfl
  rejection := iff_of_false
    (show ¬ decide (MarketDocument.acceptedCode = MarketDocument.rejectedCode) = true by decide)
    nofun
  verdict := iff_of_false nofun fun some => exists_broken_iff.mp some passes
  reasons_eq := (congrArg (List.map _) passes).symm
  rejected := nofun
  confirmed _ := ⟨rfl, rfl, rfl⟩

theorem coherent_rejected (fails : broken process r point ≠ [])
    (name : after.id = r.transactionId) :
    let reasons := (broken process r point).map (·.violation.reason)
    Coherent process r point (.rejected ((broken process r point).map (·.violation.code))) after
      ((ofConfig config).message process r now (some reasons) messageId activityId)
      ((ofConfig config).documentRead process r now (some reasons) messageId activityId) where
  reads := ofJson_message _ (some _) messageId activityId
  id_eq := rfl
  transaction_eq := name.symm
  point_eq := rfl
  process_eq := rfl
  rejection := iff_of_true rfl rfl
  verdict := iff_of_true rfl (exists_broken_iff.mpr fails)
  reasons_eq := rfl
  rejected _ := by
    have codes : (Rule.validate (RuleBook.ofRequest process r point)).codes
        = (broken process r point).map (·.violation.code) := by
      rw [Validation.codes, errors_validate_ofRequest, List.map_map]
      rfl
    rw [codes]
    exact ⟨by simpa using fails, List.map_map, rfl⟩
  confirmed other := absurd rfl other

end

/-- Whatever others commit meanwhile, if the unit of a request is committed, then exactly one
message was added to the request's transaction, and it tells what the rules have said of the point
that the handler has found. -/
theorem answers_coherent (config : MarketConfig) (settings : ProcessorConfig)
    {claimed : ClaimedCommand} {process : ProcessKind} {r : SupplyRequest}
    (means : claimed.command.market? = some (.request process r)) {w w' : World Traffic}
    (keeping : w.store.Keeping) {report : DrainReport} {outcome : CommandOutcome}
    (handles : (Traffic.handled (ofConfig config).router claimed w).1 = .ok outcome)
    (processes :
      ((Traffic.processor (ofConfig config).router settings).process claimed report).run w
        = (.ok (report.addOutcome outcome), w')) :
    ∃ before after message document,
      w'.store.met.transaction? r.transactionId = some before ∧
      w'.store.tables.transaction? r.transactionId = some after ∧
      after.messages = before.messages ++ [message] ∧
      Coherent process r (pointFound claimed r w) outcome after message document := by
  cases answers_of_process means keeping handles processes with
  | @confirmed before after messageId activityId _ _ _ passes _ earlier later messages =>
    exact ⟨before, after, _, _, earlier, later, messages,
      coherent_confirmed config messageId activityId passes (id_of_transaction? later)⟩
  | @rejected before after messageId activityId fails earlier later messages =>
    exact ⟨before, after, _, _, earlier, later, messages,
      coherent_rejected config messageId activityId fails (id_of_transaction? later)⟩

open OneRequest Marketplace.OneMoveIn in
/-- A request that is granted, and one that is turned down. -/
theorem answers_coherent_one :
    (∃ before after message document,
      (done request).2.store.met.transaction? request.transactionId = some before ∧
      (done request).2.store.tables.transaction? request.transactionId = some after ∧
      after.messages = before.messages ++ [message] ∧
      Coherent .moveIn request (some (.fresh gsrn)) .completed after message document) ∧
    ∃ before after message document,
      (done foreign).2.store.met.transaction? foreign.transactionId = some before ∧
      (done foreign).2.store.tables.transaction? foreign.transactionId = some after ∧
      after.messages = before.messages ++ [message] ∧
      Coherent .moveIn foreign (some (.fresh gsrn)) (.rejected ["E16"]) after message document :=
  ⟨answers_coherent market .standard (means request) (keeping request) processed_request.1
      (processes processed_request),
    answers_coherent market .standard (means foreign) (keeping foreign) processed_foreign.1
      (processes processed_foreign)⟩

/-! ### Whom a confirmation goes to -/

/-- A request that passes comes from its supplier, but for the blanks around the sender. -/
theorem text_supplier_of_passes {found : AccountingPoint} {supplier : GlnNumber}
    (passes : broken process r (some found) = [])
    (parsed : GlnNumber.parse r.energySupplierGln = .ok supplier) :
    supplier.text = Text.trim r.senderGln := by
  have kept := List.filter_eq_nil_iff.mp passes
  have valid := kept (RuleBook.glnNumberMustBeValid r.energySupplierGln)
    (by simp [RuleBook.ofRequest])
  have same := kept (RuleBook.senderMustBeEnergySupplier r.senderGln r.energySupplierGln)
    (by simp [RuleBook.ofRequest])
  simp only [RuleBook.glnNumberMustBeValid, Bool.not_eq_true', Bool.not_eq_false] at valid
  simp only [RuleBook.senderMustBeEnergySupplier, decide_eq_true_eq, not_not] at same
  have text := GlnNumber.text_of_parse valid parsed
  have canonical := (Identifier.participant supplier).isCanonical
  rw [same, ← text]
  exact canonical.isName.1.symm

/-- Whatever others commit meanwhile, if a request is confirmed, then the message and its document
go to the text that the sender was named by, and the process that was registered has this text as
its supplier, without the blanks around it. So they agree where the sender was named without
blanks. -/
theorem confirmations_go_to_sender (config : MarketConfig) (settings : ProcessorConfig)
    {claimed : ClaimedCommand} {process : ProcessKind} {r : SupplyRequest}
    (means : claimed.command.market? = some (.request process r)) {w w' : World Traffic}
    (keeping : w.store.Keeping) {report : DrainReport}
    (handles : (Traffic.handled (ofConfig config).router claimed w).1 = .ok .completed)
    (processes :
      ((Traffic.processor (ofConfig config).router settings).process claimed report).run w
        = (.ok (report.addOutcome .completed), w')) :
    ∃ before after message document found point registered,
      w'.store.met.transaction? r.transactionId = some before ∧
      w'.store.tables.transaction? r.transactionId = some after ∧
      after.messages = before.messages ++ [message] ∧ message.document = .confirm ∧
      MarketDocument.ofJson message.payload = .ok document ∧
      w'.store.met.point? r.accountingPointId = some found ∧
      w'.store.tables.point? r.accountingPointId = some point ∧
      point.processes = found.processes ++ [registered] ∧ registered.processId = r.processId ∧
      message.recipient = r.senderGln ∧ document.receiver.id = r.senderGln ∧
      registered.energySupplier.text = Text.trim r.senderGln ∧
      (message.recipient = registered.energySupplier.text ∧
        document.receiver.id = registered.energySupplier.text ↔
          Text.trim r.senderGln = r.senderGln) := by
  generalize completes : CommandOutcome.completed = outcome at handles processes
  cases answers_of_process means keeping handles processes with
  | @confirmed before after messageId activityId found point supplier passes known earlier later
      messages unregistered stored parsed grown =>
    rw [known] at passes
    have text := text_supplier_of_passes passes parsed
    refine ⟨before, after, _, _, found, point, _, earlier, later, messages, rfl,
      ofJson_message _ none messageId activityId, unregistered, stored, grown, rfl, rfl, rfl, text,
      ?_⟩
    show r.senderGln = supplier.text ∧ r.senderGln = supplier.text ↔ _
    rw [text, and_self, eq_comm]
  | rejected _ _ _ _ => cases completes

open OneRequest Marketplace.OneMoveIn in
/-- A sender that is named with blanks gets its confirmation under a name with blanks, … -/
theorem confirmations_go_to_sender_blank :
    ∃ before after message document found point registered,
      (done blank).2.store.met.transaction? blank.transactionId = some before ∧
      (done blank).2.store.tables.transaction? blank.transactionId = some after ∧
      after.messages = before.messages ++ [message] ∧ message.document = .confirm ∧
      MarketDocument.ofJson message.payload = .ok document ∧
      (done blank).2.store.met.point? blank.accountingPointId = some found ∧
      (done blank).2.store.tables.point? blank.accountingPointId = some point ∧
      point.processes = found.processes ++ [registered] ∧ registered.processId = blank.processId ∧
      message.recipient = blank.senderGln ∧ document.receiver.id = blank.senderGln ∧
      registered.energySupplier.text = Text.trim blank.senderGln ∧
      (message.recipient = registered.energySupplier.text ∧
        document.receiver.id = registered.energySupplier.text ↔
          Text.trim blank.senderGln = blank.senderGln) :=
  confirmations_go_to_sender market .standard (means blank) (keeping blank) processed_blank.1
    (processes processed_blank)

open OneRequest in
/-- … which is not the number that is stored as the supplier of its process. -/
theorem recipient_untrimmed :
    Processed blank .completed ∧
      ((done blank).2.store.tables.transaction? blank.transactionId).map
        (fun t => t.messages.map fun m => (m.document, m.recipient))
        = some [(.confirm, " 5790000000005 ")] ∧
      ((done blank).2.store.tables.point? blank.accountingPointId).map
        (fun p => p.processes.map (·.energySupplier.text)) = some ["5790000000005"] := by
  decide +kernel

end Market

end SupplierSwitch
