import SupplierSwitch.Proofs.Market.Handlers

namespace SupplierSwitch

/-!
# Rules and accounting points agree

The rules judge a request or an effectuation before the accounting point is asked to change, and the
point checks for itself once more. This file proves that the two never differ: what passes the rules
is what the point accepts, and nothing else does.

* `RuleBook.ofRequest_passes_iff` and `AccountingPoint.registerProcess_isOk_iff` — the two sides of
  a request, each as a condition on the point;
* `Handling.Always` and `Work.FailsOnly` — what a program ends with, whatever it is answered;
* `rules_agree_with_points` — the agreement, for every request, effectuation and point, and what
  follows for the handlers.
-/

/-! ### The two sides of a request -/

/-- A valid number is read, and as it is written. -/
theorem GlnNumber.parse_isOk_of_isValid {s : String} (valid : Gs1.isValid 13 s = true) :
    ∃ gln, GlnNumber.parse s = .ok gln := by
  refine ⟨⟨s, valid⟩, Gs1.parse_ok_iff.mpr ?_⟩
  rw [Gs1.trim_of_isValid valid]
  exact ⟨valid, rfl⟩

namespace AccountingPoint

variable {p : AccountingPoint} {id : ProcessId} {kind : ProcessKind} {date : Date}

/-- A point registers a process whose name is new to it, if no process of the kind takes effect on
    the date; the supplier has no part in it. -/
theorem registerProcess_isOk_iff (supplier : GlnNumber) :
    (∃ registered, p.registerProcess id kind supplier date = .ok registered) ↔
      p.process? id = none ∧ p.hasProcessOn kind date = false := by
  simp only [registerProcess_ok_iff]
  constructor
  · rintro ⟨registered, new, free, -⟩
    exact ⟨new, free⟩
  · rintro ⟨new, free⟩
    exact ⟨_, new, free, rfl⟩

/-- A point effectuates a process if the first one of the name is pending. -/
theorem effectuate_isOk_iff :
    (∃ effectuated, p.effectuate id = .ok effectuated) ↔
      ∃ q, p.process? id = some q ∧ q.status = .pending := by
  simp only [effectuate_ok_iff]
  constructor
  · rintro ⟨effectuated, q, found, pending, -⟩
    exact ⟨q, found, pending⟩
  · rintro ⟨q, found, pending⟩
    exact ⟨_, q, found, pending, rfl⟩

end AccountingPoint

namespace RuleBook

/-- What it takes for a request to pass the rules. -/
theorem ofRequest_passes_iff {process : ProcessKind} {r : SupplyRequest}
    {point : Option AccountingPoint} :
    (Rule.validate (ofRequest process r point)).success = true ↔
      Gs1.isValid 18 r.accountingPointId = true ∧ Gs1.isValid 13 r.energySupplierGln = true ∧
        Text.trim r.senderGln = Text.trim r.energySupplierGln ∧
        ∃ p, point = some p ∧
          (process = .changeOfSupplier → p.energySupplier.isSome = true) ∧
          p.process? r.processId = none ∧ p.hasProcessOn process r.effectiveDate = false := by
  rw [Rule.success_validate_iff]
  -- The list of rules is finite, so that each rule contributes its own condition.
  cases point with
  | none => simp [ofRequest, accountingPointMustExist]
  | some p =>
    cases process with
    | moveIn =>
      simp [ofRequest, accountingPointIdMustBeValid, accountingPointMustExist,
        glnNumberMustBeValid, senderMustBeEnergySupplier, processIdMustBeUnique,
        noProcessOnSameDate]
    | changeOfSupplier =>
      simp [ofRequest, accountingPointIdMustBeValid, accountingPointMustExist,
        glnNumberMustBeValid, senderMustBeEnergySupplier, mustHaveEnergySupplier,
        processIdMustBeUnique, noProcessOnSameDate, Option.isSome_iff_ne_none]

end RuleBook

/-! ### What a program ends with -/

namespace Handling

variable {α β : Type} {P : α → Prop}

/-- Whatever the program is answered, its result satisfies `P`. -/
def Always (P : α → Prop) : Handling α → Prop
  | done a => P a
  | step _ next => ∀ answer, Always P (next answer)

theorem Always.imp {Q : α → Prop} {program : Handling α} (h : program.Always P)
    (weaker : ∀ a, P a → Q a) : program.Always Q := by
  induction program with
  | done a => exact weaker a h
  | step action next ih => exact fun answer => ih answer (h answer)

theorem always_bind {program : Handling α} {next : α → Handling β} {Q : β → Prop}
    (h : program.Always fun a => (next a).Always Q) : (program >>= next).Always Q := by
  induction program with
  | done a => exact h
  | step action rest ih => exact fun answer => ih answer (h answer)

theorem always_reports {P : Unit → Prop} {notices : List Notice} (h : P ()) :
    (notices.forM fun notice => perform (.report notice)).Always P := by
  induction notices with
  | nil => exact h
  | cons notice rest ih => exact fun _ => ih

/-- What a program always ends with, it ends with in every store. -/
theorem Always.runIn {σ υ : Type} {program : Handling α} (h : program.Always P)
    (store : CommandStore σ υ) (unit : υ) (w : World σ) :
    P ((store.runIn program unit).run w).1.1 := by
  induction program generalizing unit w with
  | done a => exact h
  | step action next ih =>
    let r := (store.meaning action unit).run w
    exact ih r.1.1 (h r.1.1) r.1.2 r.2

end Handling

namespace Work

variable {α β : Type} {allowed : HandlerError → Prop}

/-- Whatever the program is answered, it fails, if at all, as allowed. -/
def FailsOnly (allowed : HandlerError → Prop) (work : Work α) : Prop :=
  work.run.Always fun result => ∀ e, result = .error e → allowed e

theorem failsOnly_pure (a : α) : FailsOnly allowed (pure a) := by
  intro e h
  cases h

theorem failsOnly_throw {e : HandlerError} (h : allowed e) :
    FailsOnly allowed (throw e : Work α) := by
  intro e' same
  cases same
  exact h

theorem failsOnly_bind {work : Work α} {next : α → Work β} (h : work.FailsOnly allowed)
    (h' : ∀ a, (next a).FailsOnly allowed) : (work >>= next).FailsOnly allowed := by
  refine Handling.always_bind (h.imp fun result hr => ?_)
  cases result with
  | ok a => exact h' a
  | error e =>
    intro e' same
    cases same
    exact hr e rfl

theorem failsOnly_lift {program : Handling α} : FailsOnly allowed (ExceptT.lift program) := by
  refine Handling.always_bind ?_
  induction program with
  | done a => exact nofun
  | step action next ih => exact ih

theorem failsOnly_ofDomain {result : Except DomainError α}
    (h : ∀ e, result = .error e → allowed (.domain e)) : FailsOnly allowed (ofDomain result) := by
  intro e failed
  cases result with
  | ok a => cases failed
  | error e' =>
    cases failed
    exact h e' rfl

/-- What a step fails with, it passes on. -/
theorem failsOnly_mapError {ε : Type} {program : Handling (Except ε α)} {as : ε → HandlerError}
    (h : ∀ e, allowed (as e)) :
    FailsOnly allowed (ExceptT.mk (program >>= fun result => pure (result.mapError as))) := by
  refine Handling.always_bind ?_
  induction program with
  | done result =>
    intro e failed
    cases result with
    | ok a => cases failed
    | error e' =>
      cases failed
      exact h e'
  | step action next ih => exact ih

theorem failsOnly_onRepository {program : Handling (Except RepositoryError α)}
    (h : ∀ e, allowed (.repository e)) : FailsOnly allowed (onRepository program) :=
  failsOnly_mapError h

theorem failsOnly_onStore {program : Handling (Except StoreError α)}
    (h : ∀ e, allowed (.store e)) : FailsOnly allowed (onStore program) :=
  failsOnly_mapError h

theorem failsOnly_ofConversion {result : Noted (Except RegistryError α)}
    (h : ∀ e, allowed (.conversion e)) : FailsOnly allowed (ofConversion result) := by
  refine Handling.always_bind (Handling.always_reports ?_)
  intro e failed
  cases converted : result.value with
  | ok a =>
    rw [converted] at failed
    cases failed
  | error e' =>
    rw [converted] at failed
    cases failed
    exact h e'

theorem failsOnly_reports {notices : List Notice} :
    FailsOnly allowed (notices.forM report) := by
  induction notices with
  | nil => exact failsOnly_pure ()
  | cons notice rest ih => exact failsOnly_bind failsOnly_lift fun _ => ih

/-- A command is enqueued unless the store refuses it. -/
theorem failsOnly_enqueue {kind : String} {payload : Json} (h : ∀ e, allowed (.store e)) :
    FailsOnly allowed (enqueue kind payload) := by
  refine failsOnly_bind failsOnly_lift fun id => ?_
  refine failsOnly_bind failsOnly_lift fun now => ?_
  refine failsOnly_bind (failsOnly_onStore h) fun _ => ?_
  exact failsOnly_bind failsOnly_lift fun _ => failsOnly_pure _

/-- What a program may fail with in every store. -/
theorem FailsOnly.runIn {σ υ : Type} {work : Work α} (h : work.FailsOnly allowed)
    (store : CommandStore σ υ) (unit : υ) (w : World σ) {e : HandlerError}
    (failed : ((store.runIn work.run unit).run w).1.1 = .error e) : allowed e :=
  Handling.Always.runIn h store unit w e failed

-- A program is taken apart by the rules above, never by evaluating it.
attribute [irreducible] FailsOnly

end Work

/-! ### What the handlers may fail with -/

namespace HandlerError

/-- If the domain refused something, it was a message. -/
def FromMessage (e : HandlerError) : Prop :=
  ∀ d, e = .domain d →
    ∃ (transaction : Transaction) (message : OutboundMessage), transaction.attach message = .error d

/-- The domain refused nothing. -/
def NotDomain (e : HandlerError) : Prop :=
  ∀ d, e ≠ .domain d

end HandlerError

namespace Market

open HandlerError Work

variable {market : Market} {process : ProcessKind} {r : SupplyRequest} {now : Timestamp}

theorem failsOnly_answer {reasons : Option (List Reason)} :
    (market.answer process r now reasons).FailsOnly FromMessage := by
  refine failsOnly_bind failsOnly_lift fun messageId => ?_
  refine failsOnly_bind failsOnly_lift fun activityId => ?_
  refine failsOnly_bind (failsOnly_onRepository nofun) fun transaction => ?_
  refine failsOnly_bind (failsOnly_ofDomain ?_) fun answered => failsOnly_onRepository nofun
  rintro d refused _ ⟨⟩
  exact ⟨transaction, _, refused⟩

theorem failsOnly_reject (violations : List MarketViolation) :
    (market.reject process r now violations).FailsOnly FromMessage := by
  refine failsOnly_bind (failsOnly_ofConversion nofun) fun reasons => ?_
  refine failsOnly_bind failsOnly_answer fun _ => ?_
  exact failsOnly_bind failsOnly_lift fun _ => failsOnly_pure _

/-- A point whose request passes the rules registers its process. -/
theorem failsOnly_confirm {point : AccountingPoint}
    (passes : (Rule.validate (RuleBook.ofRequest process r (some point))).success = true) :
    (market.confirm process r now point).FailsOnly FromMessage := by
  obtain ⟨-, valid, -, _, ⟨⟩, -, new, free⟩ := RuleBook.ofRequest_passes_iff.mp passes
  obtain ⟨gln, parsed⟩ := GlnNumber.parse_isOk_of_isValid valid
  refine failsOnly_bind (failsOnly_ofDomain ?_) fun supplier => ?_
  · intro d failed
    rw [parsed] at failed
    cases failed
  refine failsOnly_bind (failsOnly_ofDomain ?_) fun registered => ?_
  · intro d failed
    obtain ⟨registered, ok⟩ :=
      (AccountingPoint.registerProcess_isOk_iff supplier).mpr ⟨new, free⟩
    rw [ok] at failed
    cases failed
  refine failsOnly_bind (failsOnly_onRepository nofun) fun _ => ?_
  refine failsOnly_bind failsOnly_answer fun _ => ?_
  refine failsOnly_bind (failsOnly_enqueue nofun) fun _ => ?_
  exact failsOnly_bind failsOnly_lift fun _ => failsOnly_pure _

theorem failsOnly_handleRequest :
    (market.handleRequest process r now).FailsOnly FromMessage := by
  refine failsOnly_bind (failsOnly_onRepository nofun) fun point => ?_
  refine failsOnly_bind failsOnly_reports fun _ => ?_
  split
  · rename_i point passes
    exact failsOnly_confirm (List.isEmpty_iff.mpr passes)
  · exact failsOnly_throw nofun
  · exact failsOnly_reject _

/-- A point whose effectuation passes the rules effectuates its process. -/
theorem failsOnly_handleEffectuation {e : Effectuation} :
    (handleEffectuation process e).FailsOnly NotDomain := by
  refine failsOnly_bind (failsOnly_onRepository nofun) fun point => ?_
  refine failsOnly_bind failsOnly_reports fun _ => ?_
  split
  · rename_i point passes
    obtain ⟨_, q, ⟨⟩, found, pending, -⟩ := RuleBook.ofEffectuation_passes_iff.mp passes
    obtain ⟨effectuated, ok⟩ := AccountingPoint.effectuate_isOk_iff.mpr ⟨q, found, pending⟩
    refine failsOnly_bind (failsOnly_ofDomain ?_) fun _ => ?_
    · intro d failed
      rw [ok] at failed
      cases failed
    refine failsOnly_bind failsOnly_lift fun _ => ?_
    exact failsOnly_bind (failsOnly_onRepository nofun) fun _ => failsOnly_pure _
  · exact failsOnly_throw nofun
  · exact failsOnly_bind failsOnly_lift fun _ => failsOnly_pure _

end Market

/-! ### The agreement -/

/-- The rules and the points agree, whatever a point looks like. A request passes if its point is
    named by a valid number, its sender is the supplier it acts for, the supplier has a valid
    number, and the point registers the process for that supplier, having one already if the
    supplier is to change; and in no other case. An effectuation passes if the process of the name
    is of its kind and the point effectuates it, and in no other case. So the point refuses nothing
    to a handler: in whatever store it runs, a request can only be refused its answer by its
    transaction, and an effectuation nothing at all. -/
theorem rules_agree_with_points :
    (∀ process (r : SupplyRequest) point,
      (Rule.validate (RuleBook.ofRequest process r point)).success = true ↔
        Gs1.isValid 18 r.accountingPointId = true ∧ Gs1.isValid 13 r.energySupplierGln = true ∧
          Text.trim r.senderGln = Text.trim r.energySupplierGln ∧
          ∃ p, point = some p ∧ (process = .changeOfSupplier → p.energySupplier.isSome = true) ∧
            ∃ supplier registered, GlnNumber.parse r.energySupplierGln = .ok supplier ∧
              p.registerProcess r.processId process supplier r.effectiveDate = .ok registered) ∧
    (∀ process id point processId,
      (Rule.validate (RuleBook.ofEffectuation process id point processId)).success = true ↔
        ∃ p, point = some p ∧ (∃ q, p.process? processId = some q ∧ q.kind = process) ∧
          ∃ effectuated, p.effectuate processId = .ok effectuated) ∧
    ∀ {σ υ : Type} (store : CommandStore σ υ) (unit : υ) (w : World σ) (process : ProcessKind)
      (e : DomainError),
      (∀ (market : Market) (r : SupplyRequest) (now : Timestamp),
        ((store.runIn (market.handleRequest process r now).run unit).run w).1.1
            = .error (.domain e) →
          ∃ (transaction : Transaction) (message : OutboundMessage),
            transaction.attach message = .error e) ∧
      ∀ effectuation : Effectuation,
        ((store.runIn (Market.handleEffectuation process effectuation).run unit).run w).1.1
          ≠ .error (.domain e) := by
  refine ⟨fun process r point => ?_, fun process id point processId => ?_, ?_⟩
  · rw [RuleBook.ofRequest_passes_iff]
    -- A valid number is read, so that reading it adds nothing to the conditions.
    constructor
    · rintro ⟨number, valid, same, p, found, supplied, free⟩
      obtain ⟨supplier, parsed⟩ := GlnNumber.parse_isOk_of_isValid valid
      obtain ⟨registered, ok⟩ := (AccountingPoint.registerProcess_isOk_iff supplier).mpr free
      exact ⟨number, valid, same, p, found, supplied, supplier, registered, parsed, ok⟩
    · rintro ⟨number, valid, same, p, found, supplied, supplier, registered, -, ok⟩
      have free := (AccountingPoint.registerProcess_isOk_iff supplier).mp ⟨registered, ok⟩
      exact ⟨number, valid, same, p, found, supplied, free⟩
  · rw [Validation.success, List.isEmpty_iff, RuleBook.ofEffectuation_passes_iff]
    constructor
    · rintro ⟨p, q, rfl, found, pending, same⟩
      exact ⟨p, rfl, ⟨q, found, same⟩, AccountingPoint.effectuate_isOk_iff.mpr ⟨q, found, pending⟩⟩
    · rintro ⟨p, rfl, ⟨q, found, same⟩, accepted⟩
      obtain ⟨q', found', pending⟩ := AccountingPoint.effectuate_isOk_iff.mp accepted
      obtain rfl := Option.some.inj (found.symm.trans found')
      exact ⟨p, q, rfl, found, pending, same⟩
  · intro σ υ store unit w process e
    refine ⟨fun market r now failed => ?_, fun effectuation failed => ?_⟩
    · exact Market.failsOnly_handleRequest.runIn store unit w failed e rfl
    · exact Market.failsOnly_handleEffectuation.runIn store unit w failed e rfl

end SupplierSwitch
