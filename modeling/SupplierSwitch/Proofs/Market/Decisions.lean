import SupplierSwitch.Proofs.Market.Agreement
import SupplierSwitch.Proofs.Memory.Contention

namespace SupplierSwitch

/-!
# What the handlers decide

A request is decided by its rules and the point that it names, and answered in the transaction that
it names; an effectuation is decided by its point alone. Nothing else that is stored has a part in
it. A handler may still be refused, by its rules' second opinion in the accounting point, by the
converters, by the transaction that it answers in, by the store; each of these has its own reason
never to happen, and what is left is that others have changed an aggregate in between.

* `MarketCommand.point?`, `MarketCommand.transaction?` — what is stored under the names in a
  command;
* `Decides` — what a command comes to by these two, and what is staged for it;
* `ConverterRegistry.convertAll_market` — what the participant is told about violations;
* `Supplies` and `Spends` — what a unit is issued of identifiers, and what it uses of them;
* `Market.manages_handleRequest`, `Market.manages_handleEffectuation` — the handlers decide so;
* `Market.refuses_handleRequest` — without its transaction a request is not answered.
-/

open Memory Tables

/-! ### Names -/

namespace MarketCommand

/-- The accounting point that a command names. -/
def pointId? : MarketCommand → Option String
  | request _ r => some r.accountingPointId
  | effectuate _ e => some e.accountingPointId
  | forwardResult _ => none

/-- The transaction that a command names. -/
def transactionId? : MarketCommand → Option TransactionId
  | request _ r => some r.transactionId
  | effectuate _ _ => none
  | forwardResult result => some result.transactionId

/-- The committed point that a command names. -/
def point? (m : MarketCommand) (t : Tables) : Option AccountingPoint :=
  m.pointId?.bind t.point?

/-- The committed transaction that a command names. -/
def transaction? (m : MarketCommand) (t : Tables) : Option Transaction :=
  m.transactionId?.bind t.transaction?

end MarketCommand

/-! ### Decisions -/

namespace Market

/-- The rules that a request breaks, by the point that was found. -/
def broken (process : ProcessKind) (r : SupplyRequest) (point : Option AccountingPoint) :
    List (Rule MarketViolation) :=
  (RuleBook.ofRequest process r point).filter (·.isBroken)

theorem errors_validate_ofRequest (process : ProcessKind) (r : SupplyRequest)
    (point : Option AccountingPoint) : (Rule.validate (RuleBook.ofRequest process r point)).errors
      = (broken process r point).map (·.violation) := rfl

/-- Judge a request by the point that was found, and answer it. -/
def judge (market : Market) (process : ProcessKind) (r : SupplyRequest) (now : Timestamp)
    (point : Option AccountingPoint) : Work CommandOutcome := do
  let checked := Rule.evaluate (RuleBook.ofRequest process r point)
  checked.notices.forM Work.report
  match checked.value.errors, point with
  | [], some point => market.confirm process r now point
  | [], none =>
    throw (.failed ("accounting point " ++ r.accountingPointId ++ " vanished after validation"))
  | violations, _ => market.reject process r now violations

theorem handleRequest_eq (market : Market) (process : ProcessKind) (r : SupplyRequest)
    (now : Timestamp) : market.handleRequest process r now
      = Work.findPoint r.accountingPointId >>= market.judge process r now := by
  rfl

section

variable {market : Market} {process : ProcessKind} {r : SupplyRequest} {now : Timestamp}
  {point : Option AccountingPoint}

theorem judge_of_passes {found : AccountingPoint} (passes : broken process r (some found) = []) :
    market.judge process r now (some found)
      = (Rule.evaluate (RuleBook.ofRequest process r (some found))).notices.forM Work.report
        >>= fun _ => market.confirm process r now found := by
  have errors : (Rule.evaluate (RuleBook.ofRequest process r (some found))).value.errors = [] :=
    congrArg (List.map _) passes
  unfold judge
  dsimp only
  rw [errors]

theorem judge_of_broken (fails : broken process r point ≠ []) :
    market.judge process r now point
      = (Rule.evaluate (RuleBook.ofRequest process r point)).notices.forM Work.report
        >>= fun _ => market.reject process r now ((broken process r point).map (·.violation)) := by
  obtain ⟨rule, rest, some⟩ := List.exists_cons_of_ne_nil fails
  have errors : (Rule.evaluate (RuleBook.ofRequest process r point)).value.errors
      = rule.violation :: rest.map (·.violation) := congrArg (List.map _) some
  unfold judge
  dsimp only
  rw [errors, some, List.map_cons]

theorem success_of_passes (passes : broken process r point = []) :
    (Rule.validate (RuleBook.ofRequest process r point)).success = true := by
  rw [Validation.success, errors_validate_ofRequest, passes]
  rfl

/-- Rules are not passed without a point. -/
theorem exists_point_of_passes (passes : broken process r point = []) :
    ∃ found, point = some found := by
  obtain ⟨-, -, -, found, known, -⟩ := RuleBook.ofRequest_passes_iff.mp (success_of_passes passes)
  exact ⟨found, known⟩

/-- What passes the rules is accepted by the point. -/
theorem accepted_of_passes {found : AccountingPoint} (passes : broken process r (some found) = []) :
    ∃ supplier, GlnNumber.parse r.energySupplierGln = .ok supplier ∧
      found.process? r.processId = none ∧ found.hasProcessOn process r.effectiveDate = false := by
  obtain ⟨-, valid, -, _, ⟨⟩, -, free⟩ :=
    RuleBook.ofRequest_passes_iff.mp (success_of_passes passes)
  obtain ⟨supplier, parsed⟩ := GlnNumber.parse_isOk_of_isValid valid
  exact ⟨supplier, parsed, free⟩

end

/-- What is staged for a transaction in which a request is answered. -/
def answering (market : Market) (process : ProcessKind) (r : SupplyRequest) (now : Timestamp)
    (reasons : Option (List Reason)) (messageId activityId : MessageId) (before : Transaction) :
    StagedTransaction :=
  ⟨{ before with messages := before.messages ++
      [market.message process r now reasons messageId activityId] },
    .update (.exact before.version)⟩

/-- What is staged for a point on which a process is registered. -/
def registering (process : ProcessKind) (r : SupplyRequest) (supplier : GlnNumber)
    (found : AccountingPoint) : StagedPoint :=
  ⟨{ found with processes := found.processes ++
      [⟨r.processId, process, supplier, r.effectiveDate, .pending⟩] }, .exact found.version⟩

/-- What is staged for a point of which a process is effectuated. -/
def effectuating (processId : ProcessId) (supplier : GlnNumber) (found : AccountingPoint) :
    StagedPoint :=
  ⟨{ found with
      processes := AccountingPoint.markEffectuated processId found.processes
      energySupplier := some supplier }, .exact found.version⟩

end Market

open Market in
/-- What a command comes to by the point and the transaction that are stored under its names, and
    what is staged for it. -/
inductive Decides (market : Market) (point : Option AccountingPoint)
    (transaction : Option Transaction) : MarketCommand → CommandOutcome → ChangeSet → Prop where
  | confirmed {process : ProcessKind} {r : SupplyRequest} {found : AccountingPoint}
      {before : Transaction} {supplier : GlnNumber} {now : Timestamp}
      {messageId activityId : MessageId} {followUp : InternalCommand} (known : point = some found)
      (passes : broken process r point = []) (opened : transaction = some before)
      (parsed : GlnNumber.parse r.energySupplierGln = .ok supplier) :
      Decides market point transaction (.request process r) .completed
        { commands := [followUp]
          processed := []
          transactions := [market.answering process r now none messageId activityId before]
          points := [registering process r supplier found] }
  | rejected {process : ProcessKind} {r : SupplyRequest} {before : Transaction} {now : Timestamp}
      {messageId activityId : MessageId} (fails : broken process r point ≠ [])
      (opened : transaction = some before) :
      Decides market point transaction (.request process r)
        (.rejected ((broken process r point).map (·.violation.code)))
        { commands := []
          processed := []
          transactions := [market.answering process r now
            (some ((broken process r point).map (·.violation.reason))) messageId activityId before]
          points := [] }
  | effectuated {process : ProcessKind} {e : Effectuation} {found : AccountingPoint}
      {q : BusinessProcess} (known : point = some found)
      (registered : found.process? e.processId = some q) (pending : q.status = .pending)
      (kind : q.kind = process) :
      Decides market point transaction (.effectuate process e) .completed
        { ChangeSet.empty with points := [effectuating e.processId q.energySupplier found] }
  | turnedDown {process : ProcessKind} {e : Effectuation}
      (fails : (Rule.validate (RuleBook.ofEffectuation process e.accountingPointId point
        e.processId)).errors ≠ []) :
      Decides market point transaction (.effectuate process e)
        (.rejected (Rule.validate (RuleBook.ofEffectuation process e.accountingPointId point
          e.processId)).codes) .empty

/-! ### What never stands in the way -/

theorem ConverterRegistry.convertAll_market (violations : List MarketViolation) :
    (ConverterRegistry.market.convertAll violations).value
      = .ok (violations.map MarketViolation.reason) := by
  induction violations with
  | nil => rfl
  | cons v rest told =>
    have converted : (ConverterRegistry.market.convert v).value = .ok v.reason := by
      rw [convert, find?_market]
      rfl
    rw [convertAll, Noted.value_bind, converted]
    simp [told, Except.map]

/-- A message with a new identifier is attached. -/
theorem Transaction.attach_of_new {transaction : Transaction} {message : OutboundMessage}
    (new : ∀ other ∈ transaction.messages, other.id ≠ message.id) :
    transaction.attach message
      = .ok { transaction with messages := transaction.messages ++ [message] } := by
  have absent : ¬ transaction.messages.any (·.id = message.id) := by
    intro taken
    obtain ⟨other, mem, same⟩ := List.any_eq_true.mp taken
    exact new other mem (of_decide_eq_true same)
  rw [attach, if_neg absent]

/-- A point is in the version in which it was just found. -/
theorem exact_matches {t : Tables} {point : AccountingPoint}
    (found : t.point? point.gsrn.text = some point) :
    (ExpectedVersion.exact point.version).Matches (t.pointVersion point.gsrn) := by
  rw [Tables.pointVersion, found]
  rfl

/-! ### Identifiers -/

/-- The next identifiers, so many, are distinct. -/
def IdSupply.Distinct (ids : IdSupply) (count : Nat) : Prop :=
  ∀ j k, j < k → k < count → ids.next j ≠ ids.next k

/-- A unit that has drawn `first` identifiers over tables that were `t` may draw three more, which
    are distinct and nowhere in use. -/
structure Supplies (around : Surroundings) (count first : Nat) (t : Tables) : Prop where
  enough : first + 3 ≤ count
  most : first + 3 ≤ around.most
  distinct : around.ids.Distinct count
  unspent : ∀ t', around.Later t t' → around.ids.Unspent count first t'.Mentions

theorem Supplies.later {around : Surroundings} {count first : Nat} {t t' : Tables}
    (h : Supplies around count first t) (later : around.Later t t') :
    Supplies around count first t' :=
  ⟨h.enough, h.most, h.distinct, fun t'' later' => h.unspent t'' (later.trans later')⟩

/-- What a unit of the market has used of the identifiers that are issued to it from `first` on: of
    those that are still to come, nothing. -/
structure Spends (ids : IdSupply) (count first : Nat) (c : ChangeSet) (d : Nat) : Prop where
  few : d ≤ first + 3
  commands : ∀ command ∈ c.commands, ∃ k, first ≤ k ∧ k < count ∧ command.id.uuid = ids.next k
  unspent : ids.Unspent count d c.Mentions

/-- A unit that stages neither commands nor transactions uses nothing. -/
theorem Spends.of_points {ids : IdSupply} {count first : Nat} {points : List StagedPoint} :
    Spends ids count first { ChangeSet.empty with points := points } first := by
  refine ⟨Nat.le_add_right _ _, fun command mem => ?_, fun k _ _ used => ?_⟩
  · cases mem
  · obtain mem | ⟨staged, mem, -⟩ := used <;> cases mem

/-! ### Handlers -/

namespace Market

open Work

variable {market : Market} {config : MarketConfig} {process : ProcessKind} {r : SupplyRequest}
  {now : Timestamp} {around : Surroundings} {count first : Nat} {t : Tables} {c : ChangeSet}

/-- The answer to a request is one more message in its transaction, with a new identifier. -/
theorem manages_answer {reasons : Option (List Reason)}
    {post : Unit → ChangeSet → Tables → Nat → Prop} (supplies : Supplies around count first t)
    (unstaged : c.transactions = [])
    (stored : ∃ transaction, t.transaction? r.transactionId = some transaction)
    (h : ∀ t' t'' before messageId activityId, around.Later t t' → around.Later t' t'' →
      t'.transaction? r.transactionId = some before →
      let staged := market.answering process r now reasons messageId activityId before
      around.ids.Unspent count (first + 2) (fun id => ∃ message ∈ staged.transaction.messages,
        message.id.uuid = id) →
      post () { c with transactions := [staged] } t'' (first + 2)) :
    (market.answer process r now reasons).Manages around post c t first := by
  have new (id : TransactionId) : c.transaction? id = none := by
    simp [ChangeSet.transaction?, unstaged]
  have enough := supplies.enough
  refine manages_bind (manages_freshId ?_)
  refine manages_bind (manages_freshId ?_)
  refine manages_bind (manages_getTransaction (new _) stored fun t₁ transaction later found => ?_)
  -- The identifier of the message has just been issued, so that no stored message has it.
  have mentions : ∀ message ∈ transaction.messages, t₁.Mentions message.id.uuid :=
    fun message mem => .inr ⟨transaction, List.mem_of_find?_eq_some found, message, mem, rfl⟩
  have unused := supplies.unspent t₁ later
  refine manages_bind (manages_ofDomain (Transaction.attach_of_new ?_) ?_)
  · intro other mem same
    have drawn : other.id.uuid = around.ids.next first := by
      rw [same]
      cases reasons <;> rfl
    exact unused first (Nat.le_refl _) (by omega) (drawn ▸ mentions other mem)
  have saved : t₁.transaction? transaction.id = some transaction := by
    rw [Tables.id_of_transaction? found]
    exact found
  have few : first + 1 + 1 ≤ around.most := Nat.le_of_succ_le supplies.most
  refine manages_saveTransaction (new _) saved rfl few fun t₂ later' => ?_
  rw [unstaged]
  refine h t₁ t₂ transaction ⟨around.ids.next first⟩ ⟨around.ids.next (first + 1)⟩ later later'
    found ?_
  rintro k hk less ⟨message, mem, same⟩
  obtain old | added := List.mem_append.mp mem
  · exact unused k (by omega) less (same ▸ mentions message old)
  · obtain rfl := List.mem_singleton.mp added
    refine supplies.distinct first k (by omega) less ?_
    rw [← same]
    cases reasons <;> rfl

/-- The unit has decided the command by what was stored under its names at some moments. -/
def Decided (config : MarketConfig) (around : Surroundings) (count first : Nat) (t : Tables)
    (m : MarketCommand) (outcome : CommandOutcome) (c : ChangeSet) (d : Nat) : Prop :=
  Spends around.ids count first c d ∧ ∃ t₁ t₂, around.Later t t₁ ∧ around.Later t t₂ ∧
    Decides (ofConfig config) (m.point? t₁) (m.transaction? t₂) m outcome c

theorem manages_reject {point : Option AccountingPoint} (supplies : Supplies around count first t)
    (stored : ∃ transaction, t.transaction? r.transactionId = some transaction)
    (fails : broken process r point ≠ []) :
    ((ofConfig config).reject process r now ((broken process r point).map (·.violation))).Manages
      around (fun outcome c _ d => Spends around.ids count first c d ∧ ∃ t', around.Later t t' ∧
        Decides (ofConfig config) point (t'.transaction? r.transactionId) (.request process r)
          outcome c) .empty t first := by
  have told := ConverterRegistry.convertAll_market ((broken process r point).map (·.violation))
  refine manages_bind (manages_ofConversion told ?_)
  refine manages_bind (manages_answer supplies rfl stored
    fun t₁ t₂ before messageId activityId later _ found spent => ?_)
  refine manages_bind (manages_report (manages_pure ⟨⟨by omega, fun command mem => ?_, ?_⟩, ?_⟩))
  · cases mem
  · rintro k hk less (mem | ⟨_, mem, message⟩)
    · cases mem
    · obtain rfl := List.mem_singleton.mp mem
      exact spent k hk less message
  · simp only [List.map_map]
    exact ⟨t₁, later, .rejected fails found⟩

/-- A point whose request passes the rules registers its process. -/
theorem manages_confirm (supplies : Supplies around count first t)
    (stored : ∃ transaction, t.transaction? r.transactionId = some transaction)
    {point : AccountingPoint} (found : t.point? point.gsrn.text = some point)
    (passes : broken process r (some point) = []) :
    ((ofConfig config).confirm process r now point).Manages around (fun outcome c _ d =>
      Spends around.ids count first c d ∧ ∃ t', around.Later t t' ∧
        Decides (ofConfig config) (some point) (t'.transaction? r.transactionId)
          (.request process r) outcome c) .empty t first := by
  obtain ⟨supplier, parsed, new, free⟩ := accepted_of_passes passes
  obtain ⟨registered, ok⟩ := (AccountingPoint.registerProcess_isOk_iff supplier).mpr ⟨new, free⟩
  refine manages_bind (manages_ofDomain parsed ?_)
  refine manages_bind (manages_ofDomain ok ?_)
  obtain ⟨-, -, rfl⟩ := AccountingPoint.registerProcess_ok_iff.mp ok
  have few : first ≤ around.most := Nat.le_trans (Nat.le_add_right _ 3) supplies.most
  have enough := supplies.enough
  refine manages_bind (manages_savePoint rfl (exact_matches found) few fun t₁ later => ?_)
  refine manages_bind (manages_answer (supplies.later later) rfl (later.stored stored)
    fun t₂ t₃ before messageId activityId later' _ found' spent => ?_)
  refine manages_bind (manages_enqueue rfl fun t₄ created _ => ?_)
  refine manages_bind (manages_report (manages_pure ⟨⟨by omega, fun command mem => ?_, ?_⟩, ?_⟩))
  · obtain rfl := List.mem_singleton.mp mem
    exact ⟨first + 2, by omega, by omega, rfl⟩
  · rintro k hk less (mem | ⟨_, mem, message⟩)
    · have same := congrArg CommandId.uuid (List.mem_singleton.mp mem)
      exact supplies.distinct (first + 2) k (by omega) less same.symm
    · obtain rfl := List.mem_singleton.mp mem
      exact spent k (by omega) less message
  · exact ⟨t₂, later.trans later', .confirmed rfl passes found' parsed⟩

theorem manages_judge {point : Option AccountingPoint} (supplies : Supplies around count first t)
    (stored : ∃ transaction, t.transaction? r.transactionId = some transaction)
    (known : t.point? r.accountingPointId = point) :
    ((ofConfig config).judge process r now point).Manages around (fun outcome c _ d =>
      Spends around.ids count first c d ∧ ∃ t', around.Later t t' ∧
        Decides (ofConfig config) point (t'.transaction? r.transactionId) (.request process r)
          outcome c) .empty t first := by
  by_cases passes : broken process r point = []
  · obtain ⟨found, rfl⟩ := exists_point_of_passes passes
    rw [judge_of_passes passes]
    have name := Tables.gsrn_of_point? known
    exact manages_bind (manages_reports (manages_confirm supplies stored (name ▸ known) passes))
  · rw [judge_of_broken passes]
    exact manages_bind (manages_reports (manages_reject supplies stored passes))

theorem manages_handleRequest (supplies : Supplies around count first t)
    (stored : ∃ transaction, t.transaction? r.transactionId = some transaction) :
    ((ofConfig config).handleRequest process r now).Manages around (fun outcome c _ d =>
      Decided config around count first t (.request process r) outcome c d) .empty t first := by
  rw [handleRequest_eq]
  refine manages_bind (manages_findPoint fun t₁ later => ?_)
  refine (manages_judge (supplies.later later) (later.stored stored) rfl).imp ?_
  rintro outcome c _ d ⟨spends, t₂, later', decides⟩
  exact ⟨spends, t₁, t₂, later, later.trans later', decides⟩

theorem manages_handleEffectuation (config : MarketConfig) {e : Effectuation}
    (few : first + 3 ≤ around.most) :
    (handleEffectuation process e).Manages around (fun outcome c _ d =>
      Decided config around count first t (.effectuate process e) outcome c d) .empty t first := by
  refine manages_bind (manages_findPoint fun t₁ later => ?_)
  refine manages_bind (manages_reports ?_)
  split
  · rename_i point passes found
    obtain ⟨_, q, present, registered, pending, kind⟩ :=
      RuleBook.ofEffectuation_passes_iff.mp passes
    cases found.symm.trans present
    obtain ⟨effectuated, ok⟩ := AccountingPoint.effectuate_isOk_iff.mpr ⟨q, registered, pending⟩
    refine manages_bind (manages_ofDomain ok ?_)
    obtain ⟨q', registered', -, rfl⟩ := AccountingPoint.effectuate_ok_iff.mp ok
    cases registered.symm.trans registered'
    have found : t₁.point? e.accountingPointId = some point := found
    have name := Tables.gsrn_of_point? found
    refine manages_bind (manages_report ?_)
    refine manages_bind (manages_savePoint rfl (exact_matches (name ▸ found))
      (Nat.le_of_add_right_le few) fun t₂ _ => ?_)
    exact manages_pure
      ⟨.of_points, t₁, t₁, later, later, .effectuated found registered pending kind⟩
  · rename_i passes found
    obtain ⟨point, -, present, -⟩ := RuleBook.ofEffectuation_passes_iff.mp passes
    cases found.symm.trans present
  · rename_i other _
    refine manages_bind (manages_report (manages_pure ⟨.of_points, t₁, t₁, later, later, ?_⟩))
    refine .turnedDown fun passes => ?_
    obtain ⟨point, -, found, -⟩ := RuleBook.ofEffectuation_passes_iff.mp passes
    exact other point passes found

/-! ### A request without its transaction -/

/-- The error of a request whose transaction is not stored. -/
def unopened (r : SupplyRequest) : HandlerError :=
  .repository (.notFound ("transaction " ++ r.transactionId.text))

theorem refuses_answer (alone : around.alone) (few : first + 2 ≤ around.most)
    (unstaged : c.transactions = []) (missing : t.transaction? r.transactionId = none)
    {reasons : Option (List Reason)} :
    (market.answer process r now reasons).Refuses around (unopened r) c t first := by
  have new : c.transaction? r.transactionId = none := by
    simp [ChangeSet.transaction?, unstaged]
  refine refuses_bind alone (manages_freshId ?_)
  refine refuses_bind alone (manages_freshId ?_)
  exact (refuses_getTransaction alone few new missing).bind _

theorem refuses_reject (alone : around.alone) (few : first + 2 ≤ around.most)
    (missing : t.transaction? r.transactionId = none) (violations : List MarketViolation) :
    ((ofConfig config).reject process r now violations).Refuses around (unopened r) .empty t
      first := by
  have told := ConverterRegistry.convertAll_market violations
  refine refuses_bind alone (manages_ofConversion told ?_)
  exact (refuses_answer alone few rfl missing).bind _

theorem refuses_confirm (alone : around.alone) (few : first + 2 ≤ around.most)
    (missing : t.transaction? r.transactionId = none) {point : AccountingPoint}
    (found : t.point? point.gsrn.text = some point) (passes : broken process r (some point) = []) :
    ((ofConfig config).confirm process r now point).Refuses around (unopened r) .empty t first := by
  obtain ⟨supplier, parsed, new, free⟩ := accepted_of_passes passes
  obtain ⟨registered, ok⟩ := (AccountingPoint.registerProcess_isOk_iff supplier).mpr ⟨new, free⟩
  refine refuses_bind alone (manages_ofDomain parsed ?_)
  refine refuses_bind alone (manages_ofDomain ok ?_)
  obtain ⟨-, -, rfl⟩ := AccountingPoint.registerProcess_ok_iff.mp ok
  refine refuses_bind alone (manages_savePoint rfl (exact_matches found)
    (Nat.le_of_add_right_le few) fun t₁ later => ?_)
  obtain rfl := later.quiet alone
  exact (refuses_answer alone few rfl missing).bind _

theorem refuses_handleRequest (alone : around.alone) (few : first + 2 ≤ around.most)
    (missing : t.transaction? r.transactionId = none) :
    ((ofConfig config).handleRequest process r now).Refuses around (unopened r) .empty t first := by
  rw [handleRequest_eq]
  refine refuses_bind alone (manages_findPoint fun t₁ later => ?_)
  obtain rfl := later.quiet alone
  generalize known : (ChangeSet.empty.point? r.accountingPointId).or
    (t₁.point? r.accountingPointId) = point
  have known : t₁.point? r.accountingPointId = point := known
  by_cases passes : broken process r point = []
  · obtain ⟨found, rfl⟩ := exists_point_of_passes passes
    rw [judge_of_passes passes]
    have name := Tables.gsrn_of_point? known
    exact refuses_bind alone
      (manages_reports (refuses_confirm alone few missing (name ▸ known) passes))
  · rw [judge_of_broken passes]
    exact refuses_bind alone (manages_reports (refuses_reject alone few missing _))

end Market

end SupplierSwitch
