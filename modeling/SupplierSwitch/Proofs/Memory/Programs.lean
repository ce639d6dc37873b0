import SupplierSwitch.Proofs.Memory.Evolution

namespace SupplierSwitch

/-!
# Programs among others

A program asks its unit of work one question at a time, and others commit in between. What it comes
to is therefore said under a reliance: the tables that a question meets have evolved from those that
the last one met, and they satisfy an invariant that everybody keeps.

* `Memory.Reliance` and `Memory.Responds` — what a program relies on, and the answers that a step of
  it may get then;
* `Handling.Leads` — whatever the answers are, the program ends with a result, a change set and
  tables that satisfy a condition;
* `Work.Leads` — the same for programs that may fail, where only success is spoken of, with a rule
  for each operation.
-/

namespace Memory

open Tables

/-- An identifier that is issued within a unit is not used in it. -/
def Fresh (c : ChangeSet) : (action : Action) → action.Answer → Prop
  | .freshId, id => ∀ command ∈ c.commands, command.id.uuid ≠ id
  | _, _ => True

instance (c : ChangeSet) : (action : Action) → (answer : action.Answer) →
    Decidable (Fresh c action answer)
  | .freshId, id => inferInstanceAs (Decidable (∀ command ∈ c.commands, command.id.uuid ≠ id))
  | .ask _, _ | .now, _ | .report _, _ => inferInstanceAs (Decidable True)

/-- What a program relies on while others are at work. -/
structure Reliance where
  /-- What everybody keeps. -/
  inv : Tables → Prop
  /-- Issued identifiers are fresh within the unit. -/
  distinct : Prop

/-- A step of a program in a unit `c` over tables that were `t`: which answer it may get, from which
    tables, and what it makes of the unit. Only a question to the unit looks at the tables. -/
def Responds (rely : Reliance) (t : Tables) (c : ChangeSet) :
    (action : Action) → Tables → action.Answer → ChangeSet → Prop
  | .ask call, t', answer, c' => t.Evolves t' ∧ rely.inv t' ∧ t'.answer call c = (answer, c')
  | .now, t', _, c' => t' = t ∧ c' = c
  | .freshId, t', id, c' => t' = t ∧ c' = c ∧ (rely.distinct → Fresh c .freshId id)
  | .report _, t', _, c' => t' = t ∧ c' = c

/-- What a step yields in the store is such a reply, and leaves the tables alone. -/
theorem responds_of_yields {rely : Reliance} {t t' : Tables} {c c' : ChangeSet} {action : Action}
    {now : Timestamp} {answer : action.Answer} (here : rely.inv t)
    (yields : Yields (store.meaning action c) now t (answer, c') t')
    (fresh : rely.distinct → Fresh c action answer) :
    t' = t ∧ Responds rely t c action t answer c' := by
  cases action with
  | ask call =>
    obtain ⟨same, rfl⟩ := yields_answer.mp yields
    exact ⟨rfl, .refl _, here, same.symm⟩
  | now =>
    obtain ⟨w, v, rfl, -, hrun, rfl⟩ := yields
    cases hrun
    exact ⟨rfl, rfl, rfl⟩
  | freshId =>
    obtain ⟨w, v, rfl, -, hrun, rfl⟩ := yields
    cases hrun
    exact ⟨rfl, rfl, rfl, fresh⟩
  | report notice =>
    obtain ⟨w, v, rfl, -, hrun, rfl⟩ := yields
    cases hrun
    exact ⟨rfl, rfl, rfl⟩

end Memory

open Memory

namespace Handling

variable {α β : Type} {rely : Reliance} {post post' : α → ChangeSet → Tables → Prop}
variable {c : ChangeSet} {t t' : Tables}

/-- Whatever a program is answered, it ends with a result, a change set and tables that satisfy
    `post`. -/
def Leads (rely : Reliance) (post : α → ChangeSet → Tables → Prop) :
    Handling α → ChangeSet → Tables → Prop
  | done a, c, t => post a c t
  | step action next, c, t => ∀ t' answer c', Responds rely t c action t' answer c' →
    Leads rely post (next answer) c' t'

theorem Leads.imp {program : Handling α} (h : program.Leads rely post c t)
    (weaker : ∀ a c t, post a c t → post' a c t) : program.Leads rely post' c t := by
  induction program generalizing c t with
  | done a => exact weaker a c t h
  | step action next ih => exact fun t' answer c' reply => ih answer (h t' answer c' reply)

/-- One program after another: the second starts from what the first leads to. -/
theorem leads_bind {program : Handling α} {next : α → Handling β}
    {post : β → ChangeSet → Tables → Prop}
    (h : program.Leads rely (fun a => (next a).Leads rely post) c t) :
    (program >>= next).Leads rely post c t := by
  induction program generalizing c t with
  | done a => exact h
  | step action rest ih => exact fun t' answer c' reply => ih answer (h t' answer c' reply)

/-- The condition is not spoiled by what others commit. -/
def Stable (rely : Reliance) (post : α → ChangeSet → Tables → Prop) : Prop :=
  ∀ a c t t', post a c t → t.Evolves t' → rely.inv t' → post a c t'

/-- A program that has not begun may as well begin later. -/
theorem Leads.later {program : Handling α} (stable : Stable rely post)
    (h : program.Leads rely post c t) (evolves : t.Evolves t') (inv' : rely.inv t') :
    program.Leads rely post c t' := by
  induction program generalizing c t t' with
  | done a => exact stable a c t t' h evolves inv'
  | step action next ih =>
    intro t'' answer c' reply
    -- A question meets tables that have evolved anyhow; the other actions do not look at them.
    cases action with
    | ask call =>
      obtain ⟨further, inv'', same⟩ := reply
      exact h t'' answer c' ⟨evolves.trans further, inv'', same⟩
    | now =>
      obtain ⟨rfl, rfl⟩ := reply
      exact ih answer (h t answer c' ⟨rfl, rfl⟩) evolves inv'
    | freshId =>
      obtain ⟨rfl, rfl, fresh⟩ := reply
      exact ih answer (h t answer c' ⟨rfl, rfl, fresh⟩) evolves inv'
    | report notice =>
      obtain ⟨rfl, rfl⟩ := reply
      exact ih answer (h t answer c' ⟨rfl, rfl⟩) evolves inv'

theorem leads_reports {post : Unit → ChangeSet → Tables → Prop} {notices : List Notice}
    (h : post () c t) :
    (notices.forM fun notice => perform (.report notice)).Leads rely post c t := by
  induction notices with
  | nil => exact h
  | cons notice rest ih =>
    rintro t' answer c' ⟨rfl, rfl⟩
    exact ih

end Handling

namespace Work

variable {α β : Type} {rely : Reliance} {post : α → ChangeSet → Tables → Prop}
variable {c : ChangeSet} {t : Tables}

/-- Whatever a program is answered, if it succeeds, its result, change set and tables satisfy
    `post`. -/
def Leads (rely : Reliance) (post : α → ChangeSet → Tables → Prop) (work : Work α)
    (c : ChangeSet) (t : Tables) : Prop :=
  work.run.Leads rely (fun r c t => ∀ a, r = .ok a → post a c t) c t

theorem leads_iff {work : Work α} : work.Leads rely post c t ↔
    work.run.Leads rely (fun r c t => ∀ a, r = .ok a → post a c t) c t :=
  .rfl

theorem leads_pure {a : α} (h : post a c t) : Leads rely post (pure a) c t := by
  rintro _ ⟨⟩
  exact h

/-- Nothing is said of a program that fails. -/
theorem leads_throw (e : HandlerError) : Leads rely post (throw e) c t :=
  nofun

/-- What a program comes to where failure is spoken of, too. -/
theorem leads_run_bind {work : Work α} {next : α → Work β}
    {post : Except HandlerError β → ChangeSet → Tables → Prop}
    (h : work.run.Leads rely (fun r c t => match r with
      | .ok a => (next a).run.Leads rely post c t
      | .error e => post (.error e) c t) c t) :
    (work >>= next).run.Leads rely post c t := by
  refine Handling.leads_bind (h.imp fun r c t hr => ?_)
  cases r with
  | ok a => exact hr
  | error e => exact hr

theorem leads_bind {work : Work α} {next : α → Work β} {post : β → ChangeSet → Tables → Prop}
    (h : work.Leads rely (fun a => (next a).Leads rely post) c t) :
    (work >>= next).Leads rely post c t := by
  refine leads_run_bind (h.imp fun r c t hr => ?_)
  cases r with
  | ok a => exact hr a rfl
  | error e => exact nofun

/-! ### The rule of each operation -/

theorem leads_ofDomain {result : Except DomainError α} (h : ∀ a, result = .ok a → post a c t) :
    Leads rely post (ofDomain result) c t := by
  cases result with
  | ok a => rintro _ ⟨⟩; exact h a rfl
  | error e => exact nofun

theorem leads_findPoint {gsrn : String} {post : Option AccountingPoint → ChangeSet → Tables → Prop}
    (h : ∀ t', t.Evolves t' → rely.inv t' → post ((c.point? gsrn).or (t'.point? gsrn)) c t') :
    (findPoint gsrn).Leads rely post c t := by
  rintro t' answer c' ⟨evolves, inv', same⟩
  rw [Tables.answer_findPoint] at same
  cases same
  rintro _ ⟨⟩
  exact h t' evolves inv'

/-- The first version of a point that a unit saves is staged as it is. -/
theorem leads_savePoint {point : AccountingPoint} {expected : ExpectedVersion}
    {post : Unit → ChangeSet → Tables → Prop} (new : c.point? point.gsrn.text = none)
    (h : ∀ t', t.Evolves t' → rely.inv t' →
      post () { c with points := c.points ++ [⟨point, expected⟩] } t') :
    (savePoint point expected).Leads rely post c t := by
  rintro t' answer c' ⟨evolves, inv', same⟩
  rw [Tables.answer_savePoint, new] at same
  cases answer with
  | ok u =>
    obtain rfl := ChangeSet.eq_of_updatePoint (ChangeSet.eq_ok_of_settle same)
    rintro _ ⟨⟩
    exact h t' evolves inv'
  | error e => exact nofun

theorem leads_getTransaction {id : TransactionId} {post : Transaction → ChangeSet → Tables → Prop}
    (h : ∀ t' transaction, t.Evolves t' → rely.inv t' →
      (c.transaction? id).or (t'.transaction? id) = some transaction → post transaction c t') :
    (getTransaction id).Leads rely post c t := by
  rintro t' answer c' ⟨evolves, inv', same⟩
  rw [Tables.answer_getTransaction] at same
  cases found : (c.transaction? id).or (t'.transaction? id) with
  | some transaction =>
    rw [found] at same
    cases same
    rintro _ ⟨⟩
    exact h t' transaction evolves inv' found
  | none =>
    rw [found] at same
    cases same
    exact nofun

/-- A transaction is added if neither the unit nor the store has it, and otherwise nothing happens.
    -/
theorem leads_run_addTransaction {transaction : Transaction}
    {post : Except HandlerError Unit → ChangeSet → Tables → Prop}
    (added : ∀ t', t.Evolves t' → rely.inv t' → c.transaction? transaction.id = none →
      t'.transaction? transaction.id = none → post (.ok ()) (c.insertTransaction transaction) t')
    (refused : ∀ e t' there, t.Evolves t' → rely.inv t' →
      (c.transaction? transaction.id).or (t'.transaction? transaction.id) = some there →
      post (.error e) c t') :
    (addTransaction transaction).run.Leads rely post c t := by
  rintro t' answer c' ⟨evolves, inv', same⟩
  rw [Tables.answer_addTransaction] at same
  split at same
  · rename_i taken
    cases same
    obtain ⟨there, found⟩ := Option.isSome_iff_exists.mp taken
    exact refused _ t' there evolves inv' found
  · rename_i absent
    simp only [Option.isSome_or, Bool.or_eq_true, not_or, Bool.not_eq_true,
      Option.isSome_eq_false_iff, Option.isNone_iff_eq_none] at absent
    cases same
    exact added t' evolves inv' absent.1 absent.2

/-- The first version of a transaction that a unit saves is staged as it is. -/
theorem leads_saveTransaction {transaction : Transaction} {expected : ExpectedVersion}
    {post : Unit → ChangeSet → Tables → Prop} (new : c.transaction? transaction.id = none)
    (h : ∀ t', t.Evolves t' → rely.inv t' → post ()
      { c with transactions := c.transactions ++ [⟨transaction, .update expected⟩] } t') :
    (saveTransaction transaction expected).Leads rely post c t := by
  rintro t' answer c' ⟨evolves, inv', same⟩
  rw [Tables.answer_saveTransaction, new] at same
  cases answer with
  | ok u =>
    obtain rfl := ChangeSet.eq_of_updateTransaction (ChangeSet.eq_ok_of_settle same)
    rintro _ ⟨⟩
    exact h t' evolves inv'
  | error e => exact nofun

theorem leads_freshId {post : Uuid → ChangeSet → Tables → Prop}
    (h : ∀ id, post id c t) :
    freshId.Leads rely post c t := by
  rintro t' answer c' ⟨rfl, rfl, -⟩ _ ⟨⟩
  exact h answer

theorem leads_report {notice : Notice} {post : Unit → ChangeSet → Tables → Prop}
    (h : post () c t) : (report notice).Leads rely post c t := by
  rintro t' answer c' ⟨rfl, rfl⟩ _ ⟨⟩
  exact h

theorem leads_reports {notices : List Notice} {post : Unit → ChangeSet → Tables → Prop}
    (h : post () c t) : (notices.forM report).Leads rely post c t := by
  induction notices with
  | nil => exact leads_pure h
  | cons notice rest ih => exact leads_bind (leads_report ih)

theorem leads_ofConversion {result : Noted (Except RegistryError α)}
    (h : ∀ a, result.value = .ok a → post a c t) : (ofConversion result).Leads rely post c t := by
  refine Handling.leads_bind (Handling.leads_reports ?_)
  cases converted : result.value with
  | ok a => rintro _ ⟨⟩; exact h a converted
  | error e => exact nofun

/-- A program that cannot fail by itself, whatever it answers. -/
theorem leads_lift {program : Handling α} (h : program.Leads rely post c t) :
    Leads rely post (ExceptT.lift program) c t := by
  refine Handling.leads_bind (h.imp fun a c t ha => ?_)
  rintro _ ⟨⟩
  exact ha

/-- A command is staged as it is, behind those that are staged already, unless its identifier is. -/
theorem leads_run_enqueueWithId {id : CommandId} {kind : String} {payload : Json}
    {post : Except HandlerError CommandId → ChangeSet → Tables → Prop}
    (staged : ∀ t' now, t.Evolves t' → rely.inv t' →
      post (.ok id) { c with commands := c.commands ++ [.fresh id kind payload now] } t')
    (refused : ∀ e t', t.Evolves t' → rely.inv t' → (∃ command ∈ c.commands, command.id = id) →
      post (.error e) c t') :
    (enqueueWithId id kind payload).run.Leads rely post c t := by
  -- The clock is read first, and only then is the unit asked.
  rintro _ now _ ⟨rfl, rfl⟩ t' answer c' ⟨evolves, inv', same⟩
  rw [Tables.answer_stageCommand, ChangeSet.stageCommand] at same
  split at same
  · rename_i taken
    cases same
    obtain ⟨command, mem, other⟩ := List.any_eq_true.mp taken
    exact refused _ t' evolves inv' ⟨command, mem, of_decide_eq_true other⟩
  · cases same
    rintro _ _ _ ⟨rfl, rfl⟩
    exact staged _ now evolves inv'

theorem leads_enqueueWithId {id : CommandId} {kind : String} {payload : Json}
    {post : CommandId → ChangeSet → Tables → Prop}
    (h : ∀ t' now, t.Evolves t' → rely.inv t' →
      post id { c with commands := c.commands ++ [.fresh id kind payload now] } t') :
    (enqueueWithId id kind payload).Leads rely post c t := by
  refine leads_run_enqueueWithId (fun t' now evolves inv' => ?_) (fun _ _ _ _ _ => nofun)
  rintro _ ⟨⟩
  exact h t' now evolves inv'

theorem leads_enqueue {kind : String} {payload : Json}
    {post : CommandId → ChangeSet → Tables → Prop}
    (h : ∀ id t' now, t.Evolves t' → rely.inv t' →
      post id { c with commands := c.commands ++ [.fresh id kind payload now] } t') :
    (enqueue kind payload).Leads rely post c t :=
  leads_bind (leads_freshId fun id => leads_enqueueWithId (h ⟨id⟩))

-- A condition on a program is taken apart by the rules above, never by evaluating the program.
attribute [irreducible] Leads

end Work

end SupplierSwitch
