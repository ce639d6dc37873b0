import SupplierSwitch.Proofs.Memory.Aggregates
import SupplierSwitch.Proofs.Memory.Order
import SupplierSwitch.Proofs.Outbox.Accounts

namespace SupplierSwitch

/-!
# A drain attends to one command

While a drain over the store in memory processes a command, it writes to the row of this command
only, and its handler may have others enqueued. That is so for all handlers that reach the store
through their unit, stage commands by enqueuing them, and leave the marking to the processor.

* `Handling.OnlyEnqueues` — such programs, with `Work.OnlyEnqueues` and its rules for those that may
  fail, and `Memory.run_onlyEnqueues` what they stage;
* `Tables.Attends` — one row changes, and new ones are added behind the last;
* `Memory.Attending` — work that does no more than that, with a rule for each part of a drain;
* `Memory.attending_process` — processing a claimed command, which settles it.
-/

/-! ### Programs that only enqueue -/

/-- The step stages no mark, and no command but a fresh one. -/
def Action.OnlyEnqueues : Action → Prop
  | .ask (.stageCommand command) => command.IsFresh
  | .ask (.markProcessed _ _) => False
  | _ => True

/-- Whatever the program is answered, it stages no mark, and no command but fresh ones. -/
def Handling.OnlyEnqueues {α : Type} : Handling α → Prop
  | .done _ => True
  | .step action next => action.OnlyEnqueues ∧ ∀ answer, (next answer).OnlyEnqueues

namespace Handling

variable {α β : Type}

theorem OnlyEnqueues.bind {program : Handling α} {next : α → Handling β}
    (h : program.OnlyEnqueues) (h' : ∀ a, (next a).OnlyEnqueues) :
    (program >>= next).OnlyEnqueues := by
  induction program with
  | done a => exact h' a
  | step action rest ih => exact ⟨h.1, fun answer => ih answer (h.2 answer)⟩

theorem onlyEnqueues_perform (action : Action) (h : action.OnlyEnqueues) :
    (perform action).OnlyEnqueues :=
  ⟨h, fun _ => trivial⟩

theorem onlyEnqueues_reports (notices : List Notice) :
    (notices.forM fun notice => perform (.report notice)).OnlyEnqueues := by
  induction notices with
  | nil => exact trivial
  | cons notice rest ih => exact (onlyEnqueues_perform (.report notice) trivial).bind fun _ => ih

end Handling

/-- The route of a handler that only enqueues, whatever the payload is. -/
theorem Route.onlyEnqueues_ofHandler {α : Type} {kind : String} {read : Reader α}
    {handle : HandlerContext → α → Handling (Except HandlerError CommandOutcome)}
    (h : ∀ context a, (handle context a).OnlyEnqueues) (context : HandlerContext) (payload : Json) :
    ((Route.ofHandler kind read handle).handle context payload).OnlyEnqueues := by
  simp only [ofHandler]
  cases read payload with
  | error e => exact trivial
  | ok a => exact (h context a).bind fun _ => trivial

namespace Work

variable {α β : Type}

/-- The same for programs that may fail. -/
def OnlyEnqueues (work : Work α) : Prop :=
  work.run.OnlyEnqueues

theorem onlyEnqueues_iff {work : Work α} : work.OnlyEnqueues ↔ work.run.OnlyEnqueues :=
  .rfl

theorem OnlyEnqueues.bind {work : Work α} {next : α → Work β} (h : work.OnlyEnqueues)
    (h' : ∀ a, (next a).OnlyEnqueues) : OnlyEnqueues (work >>= next) := by
  refine Handling.OnlyEnqueues.bind h fun result => ?_
  cases result with
  | ok a => exact h' a
  | error e => exact trivial

theorem onlyEnqueues_pure (a : α) : OnlyEnqueues (pure a) :=
  trivial

theorem onlyEnqueues_throw (e : HandlerError) : OnlyEnqueues (throw e : Work α) :=
  trivial

/-! ### The rule of each operation -/

theorem onlyEnqueues_ofDomain (result : Except DomainError α) : (ofDomain result).OnlyEnqueues :=
  trivial

theorem onlyEnqueues_ofConversion (result : Noted (Except RegistryError α)) :
    (ofConversion result).OnlyEnqueues :=
  (Handling.onlyEnqueues_reports result.notices).bind fun _ => trivial

/-- A question about an aggregate. -/
theorem onlyEnqueues_onRepository {program : Handling (Except RepositoryError α)}
    (h : program.OnlyEnqueues) : (onRepository program).OnlyEnqueues :=
  h.bind fun _ => trivial

/-- A program that cannot fail by itself, whatever it answers. -/
theorem onlyEnqueues_lift {program : Handling α} (h : program.OnlyEnqueues) :
    OnlyEnqueues (ExceptT.lift program) :=
  h.bind fun _ => trivial

theorem onlyEnqueues_freshId : freshId.OnlyEnqueues :=
  onlyEnqueues_lift (Handling.onlyEnqueues_perform _ trivial)

theorem onlyEnqueues_report (notice : Notice) : (report notice).OnlyEnqueues :=
  onlyEnqueues_lift (Handling.onlyEnqueues_perform _ trivial)

theorem onlyEnqueues_reports (notices : List Notice) : (notices.forM report).OnlyEnqueues := by
  induction notices with
  | nil => exact onlyEnqueues_pure ()
  | cons notice rest ih => exact (onlyEnqueues_report notice).bind fun _ => ih

/-- What is enqueued is fresh. -/
theorem onlyEnqueues_enqueue (kind : String) (payload : Json) :
    (enqueue kind payload).OnlyEnqueues := by
  refine onlyEnqueues_freshId.bind fun id => ?_
  refine .bind (onlyEnqueues_lift (Handling.onlyEnqueues_perform .now trivial)) fun now => ?_
  have fresh : Action.OnlyEnqueues (.ask (.stageCommand (.fresh ⟨id⟩ kind payload now))) := rfl
  have staged : (stageCommand (.fresh ⟨id⟩ kind payload now)).OnlyEnqueues :=
    (Handling.onlyEnqueues_perform _ fresh).bind fun _ => trivial
  exact staged.bind fun _ => (onlyEnqueues_report _).bind fun _ => onlyEnqueues_pure _

-- As with the other conditions on programs: the rules take it apart, not evaluation.
attribute [irreducible] OnlyEnqueues

end Work

/-! ### Units that only enqueue -/

/-- Nothing of the outbox is staged but new commands. -/
structure ChangeSet.Enqueues (c : ChangeSet) : Prop where
  tidy : c.Tidy
  unmarked : c.processed = []
  fresh : ∀ command ∈ c.commands, command.IsFresh

theorem ChangeSet.enqueues_empty : Enqueues .empty :=
  ⟨tidy_empty, rfl, fun _ none => nomatch none⟩

theorem ChangeSet.Enqueues.answer {c : ChangeSet} (h : c.Enqueues) (t : Tables) {call : UnitCall}
    (only : (Action.ask call).OnlyEnqueues) : (t.answer call c).2.Enqueues := by
  obtain ⟨commands, marks⟩ := Memory.answer_outbox t c call
  constructor
  · exact tidy_answer h.tidy t call
  · obtain same | ⟨id, claim, rfl⟩ := marks
    · exact same.trans h.unmarked
    · exact only.elim
  · obtain same | ⟨command, rfl, more⟩ := commands
    · rw [same]
      exact h.fresh
    · rw [more]
      intro other mem
      obtain old | new := List.mem_append.mp mem
      · exact h.fresh other old
      · rw [List.mem_singleton.mp new]
        exact only

/-- The clock has gone on. -/
structure World.Elapses {σ : Type} (w w' : World σ) : Prop where
  reading : w'.clock.reading = w.clock.reading
  taken : w.clock.taken ≤ w'.clock.taken

namespace World.Elapses

variable {σ : Type} {w w' w'' : World σ}

theorem refl (w : World σ) : w.Elapses w :=
  ⟨rfl, Nat.le_refl _⟩

theorem trans (h : w.Elapses w') (h' : w'.Elapses w'') : w.Elapses w'' :=
  ⟨h'.reading.trans h.reading, Nat.le_trans h.taken h'.taken⟩

end World.Elapses

/-! ### One row and new ones -/

/-- Neither processed nor given up. -/
def InternalCommand.IsPending (c : InternalCommand) : Prop :=
  c.processed = false ∧ c.isDeadLettered = false

/-- The row of a command that was just enqueued, behind a place. -/
structure CommandRow.IsNew (last : Nat) (row : CommandRow) : Prop where
  pending : row.command.IsPending
  due : row.command.notBefore = none
  free : row.claim = none
  placed : ∃ place, row.command.sequence = some place ∧ last < place

theorem CommandRow.IsNew.of_le {last last' : Nat} {row : CommandRow} (h : row.IsNew last')
    (le : last ≤ last') : row.IsNew last := by
  obtain ⟨place, same, less⟩ := h.placed
  exact { h with placed := ⟨place, same, Nat.lt_of_le_of_lt le less⟩ }

namespace Tables

variable {id : CommandId} {t t' t'' : Tables} {c : ChangeSet} {now : Timestamp}
  {change : CommandRow → CommandRow}

/-- The tables of a history: no key is stored twice, and the commands are in order. -/
structure Proper (t : Tables) : Prop where
  keyed : t.Keyed
  ordered : t.Ordered

/-- From `t` to `t'` only the row of the command may have changed, and new ones were added. -/
structure Attends (id : CommandId) (t t' : Tables) : Prop where
  others : ∀ other, other ≠ id → t'.row? other = t.row? other ∨
    t.row? other = none ∧ ∃ row, t'.row? other = some row ∧ row.IsNew t.lastSequence
  last : t.lastSequence ≤ t'.lastSequence

theorem Attends.refl (id : CommandId) (t : Tables) : Attends id t t :=
  ⟨fun _ _ => .inl rfl, Nat.le_refl _⟩

theorem Attends.trans (h : Attends id t t') (h' : Attends id t' t'') : Attends id t t'' := by
  refine ⟨fun other unlike => ?_, Nat.le_trans h.last h'.last⟩
  obtain same | ⟨missing, row, found, new⟩ := h.others other unlike
  · rw [← same]
    obtain same' | ⟨missing', row, found, new⟩ := h'.others other unlike
    · exact .inl same'
    · exact .inr ⟨missing', row, found, new.of_le h.last⟩
  · obtain same' | ⟨missing', -⟩ := h'.others other unlike
    · exact .inr ⟨missing, row, same'.trans found, new⟩
    · rw [found] at missing'
      cases missing'

theorem attends_updateRow
    (keeps : ∀ row : CommandRow, row.command.id = id → (change row).command.id = id) :
    Attends id t (t.updateRow id change) := by
  refine ⟨fun other unlike => .inl ?_, Nat.le_refl _⟩
  rw [row?_updateRow t id other change keeps, if_neg unlike]

theorem Proper.updateRow (h : t.Proper)
    (keeps : ∀ row : CommandRow, row.command.id = id → (change row).command.id = id)
    (stays : ∀ row, t.row? id = some row →
      (change row).command.sequence = row.command.sequence) : (t.updateRow id change).Proper := by
  refine ⟨h.keyed.updateRow keeps, h.ordered.updateRow fun row mem same => stays row ?_⟩
  rw [← same]
  exact row?_of_mem h.keyed.commands mem

/-- What a commit adds is new, if the unit only enqueues. -/
theorem attends_receives (fresh : ∀ command ∈ c.commands, command.IsFresh)
    (own : ∀ mark ∈ c.processed, mark.1 = id) (receives : t.Receives c now t') :
    Attends id t t' := by
  constructor
  · intro other unlike
    have unmarked : other ∉ c.processed.map Prod.fst := by
      intro marked
      obtain ⟨mark, mem, rfl⟩ := List.mem_map.mp marked
      exact unlike (own mark mem)
    rw [receives.row?]
    cases found : t.row? other with
    | some row =>
      rw [Option.map_some, Option.some_or, marked, if_neg (id_of_row? found ▸ unmarked)]
      exact .inl rfl
    | none =>
      rw [Option.map_none, Option.none_or]
      cases new : under (fun row : CommandRow => row.command.id) other
          (placed t.lastSequence c.commands) with
      | none => exact .inl rfl
      | some row =>
        obtain ⟨command, mem, place, less, -, rfl⟩ := mem_placed (List.mem_of_find?_eq_some new)
        have made := fresh command mem
        refine .inr ⟨rfl, _, rfl, ?_, ?_, rfl, place, rfl, less⟩
        · rw [made]
          exact ⟨rfl, rfl⟩
        · rw [made]
          rfl
  · rw [receives.lastSequence]
    exact Nat.le_add_right ..

end Tables

namespace Memory

open Tables

variable {α β : Type} {id : CommandId} {c : ChangeSet}

/-- Whatever a program that only enqueues is answered, the store is as it was, and nothing of the
    outbox is staged but new commands. -/
theorem run_onlyEnqueues {program : Handling α} (only : program.OnlyEnqueues) (h : c.Enqueues)
    (w : World Tables) :
    let done := (store.runIn program c).run w
    done.1.2.Enqueues ∧ done.2.store = w.store ∧ w.Elapses done.2 := by
  induction program generalizing c w with
  | done a => exact ⟨h, rfl, .refl w⟩
  | step action next ih =>
    obtain ⟨first, rest⟩ := only
    cases action with
    | ask call =>
      have staged := h.answer w.store first
      exact ih _ (rest _) staged w
    | now =>
      obtain ⟨enqueues, same, elapses⟩ := ih _ (rest _) h (ticked w)
      have tick : w.Elapses (ticked w) := ⟨rfl, Nat.le_succ _⟩
      exact ⟨enqueues, same, tick.trans elapses⟩
    | freshId =>
      obtain ⟨enqueues, same, elapses⟩ :=
        ih _ (rest _) h { w with ids := { w.ids with issued := w.ids.issued + 1 } }
      exact ⟨enqueues, same, elapses.reading, elapses.taken⟩
    | report notice =>
      obtain ⟨enqueues, same, elapses⟩ :=
        ih _ (rest _) h { w with journal := ⟨notice, w.spans.reverse⟩ :: w.journal }
      exact ⟨enqueues, same, elapses.reading, elapses.taken⟩

/-! ### Work on one command -/

/-- The work goes from proper tables to proper tables and attends to the one command, and if the
    tables were as in `before`, they and the result are as in `after`. -/
def Attending (id : CommandId) (before : Tables → Prop) (work : Service Tables α)
    (after : α → Tables → Prop) : Prop :=
  ∀ w : World Tables, w.store.Proper → before w.store →
    w.Elapses (work.run w).2 ∧ (work.run w).2.store.Proper ∧
      w.store.Attends id (work.run w).2.store ∧ after (work.run w).1 (work.run w).2.store

namespace Attending

variable {before : Tables → Prop} {work : Service Tables α} {after : α → Tables → Prop}

theorem bind {next : α → Service Tables β} {last : β → Tables → Prop}
    (h : Attending id before work after) (h' : ∀ a, Attending id (after a) (next a) last) :
    Attending id before (work >>= next) last := by
  intro w proper here
  obtain ⟨elapses, proper, attends, there⟩ := h w proper here
  obtain ⟨elapses', proper', attends', last⟩ := h' _ _ proper there
  exact ⟨elapses.trans elapses', proper', attends.trans attends', last⟩

/-- Work that leaves the store and the clock alone. -/
theorem silent (h : ∀ w : World Tables, (work.run w).2.store = w.store ∧
      (work.run w).2.clock = w.clock ∧ (before w.store → after (work.run w).1 w.store)) :
    Attending id before work after := by
  intro w proper here
  obtain ⟨store, clock, there⟩ := h w
  rw [store]
  refine ⟨⟨?_, ?_⟩, proper, .refl id _, there here⟩
  · rw [clock]
  · exact Nat.le_of_eq (by rw [clock])

/-- What is known may be used. -/
theorem given {known : Prop} (h : known → Attending id (fun _ => known) work after) :
    Attending id (fun _ => known) work after :=
  fun w proper here => h here w proper here

theorem done {a : α} (h : ∀ t, before t → after a t) : Attending id before (pure a) after :=
  silent fun w => ⟨rfl, rfl, h w.store⟩

theorem report (notice : Notice) :
    Attending id before (Service.report notice) fun _ => before :=
  silent fun _ => ⟨rfl, rfl, fun here => here⟩

theorem now : Attending id before Service.now fun _ => before := by
  intro w proper here
  exact ⟨⟨rfl, Nat.le_succ _⟩, proper, .refl id _, here⟩

theorem inSpan (span : Span) (h : Attending id before work after) :
    Attending id before (Service.inSpan span work) after := by
  intro w proper here
  obtain ⟨elapses, rest⟩ := h { w with spans := span :: w.spans } proper here
  exact ⟨⟨elapses.reading, elapses.taken⟩, rest⟩

end Attending

/-! ### The parts of a drain -/

/-- The processor on the store in memory, with handlers that reach the store through their unit. -/
def processor (r : Router Handling) (config : ProcessorConfig) : Processor Tables ChangeSet :=
  ⟨store, r.interpret store.runIn, config⟩

/-- The command is processed, or its failure is in the report. -/
def Settled (id : CommandId) (report : DrainReport) (t : Tables) : Prop :=
  (∃ row, t.row? id = some row ∧ row.command.processed = true) ∨
    ∃ f ∈ report.failures, f.commandId = id

/-- If there is a report, the command is settled. -/
def Settles (id : CommandId) (result : Except StoreError DrainReport) (t : Tables) : Prop :=
  ∀ report, result = .ok report → Settled id report t

theorem settles_error (e : StoreError) (t : Tables) : Settles id (.error e) t :=
  nofun

theorem settles_addFailure (report : DrainReport) (attempt : UInt32) (error : String)
    (deadLettered : Bool) (kind : String) (t : Tables) :
    Settles id (.ok (report.addFailure ⟨id, kind, attempt, error, deadLettered⟩)) t := by
  rintro _ ⟨⟩
  exact .inr ⟨_, List.mem_append_right _ (List.mem_singleton_self _), rfl⟩

variable {claimed : ClaimedCommand} {report : DrainReport} {r : Router Handling}
  {config : ProcessorConfig} {before : Tables → Prop}

theorem attending_recordFailure (token : ClaimToken) (error : String) (policy : RetryPolicy)
    (now : Timestamp) :
    Attending id before (store.recordFailure id token error policy now) fun _ _ => True := by
  intro w proper _
  have run : (store.recordFailure id token error policy now).run w = _ := run_change _ w
  rw [run]
  cases recorded : w.store.recordFailure id token error policy now with
  | error e => exact ⟨.refl w, proper, .refl id _, trivial⟩
  | ok result =>
    obtain ⟨disposition, t⟩ := result
    obtain ⟨row, -, found, -, -, rfl⟩ := recordFailure_ok_iff.mp recorded
    have keeps : ∀ other : CommandRow, other.command.id = id →
        (⟨(failed row.command error policy now).1, none⟩ : CommandRow).command.id = id :=
      fun _ _ => by rw [id_failed, id_of_row? found]
    refine ⟨⟨rfl, Nat.le_refl _⟩, proper.updateRow keeps fun other found' => ?_,
      attends_updateRow keeps, trivial⟩
    cases found.symm.trans found'
    exact sequence_failed ..

theorem attending_fail (error : String) (now : Timestamp) :
    Attending claimed.command.id before ((processor r config).fail claimed error now report)
      (Settles claimed.command.id) := by
  refine .bind (attending_recordFailure _ _ _ _) fun recorded => ?_
  obtain e | ⟨attempts, notBefore⟩ | attempts := recorded
  · dsimp only
    split
    · exact .bind (.report _) fun _ => .done fun t _ => settles_addFailure _ _ _ _ _ t
    · exact .bind (.report _) fun _ => .done fun t _ => settles_error e t
  · exact .bind (.report _) fun _ => .done fun t _ => settles_addFailure _ _ _ _ _ t
  · exact .bind (.report _) fun _ => .done fun t _ => settles_addFailure _ _ _ _ _ t

/-- A commit that succeeds leaves the marked command processed. -/
theorem attending_commit (enqueues : c.Enqueues) (token : ClaimToken) :
    Attending id before (store.commit { c with processed := [(id, token)] }) fun result t =>
      result = .ok () → ∃ row, t.row? id = some row ∧ row.command.processed = true := by
  intro w proper _
  have filled : ¬ ({ c with processed := [(id, token)] } : ChangeSet).isEmpty := by
    simp [ChangeSet.isEmpty]
  have run : (store.commit { c with processed := [(id, token)] }).run w = _ := run_commit filled w
  have tidy : ({ c with processed := [(id, token)] } : ChangeSet).Tidy :=
    { enqueues.tidy with marks := List.nodup_singleton _ }
  rw [run]
  cases done : w.store.commit { c with processed := [(id, token)] }
      (w.clock.reading w.clock.taken) with
  | error e =>
    refine ⟨⟨rfl, Nat.le_succ _⟩, proper, .refl id _, fun committed => ?_⟩
    cases committed
  | ok t =>
    dsimp only
    obtain ⟨admits, rfl⟩ := commit_ok_iff.mp done
    have receives := receives_apply tidy admits (w.clock.reading w.clock.taken)
    refine ⟨⟨rfl, Nat.le_succ _⟩,
      ⟨proper.keyed.apply tidy admits _, proper.ordered.receives receives⟩, ?_, fun _ => ?_⟩
    · refine attends_receives (c := { c with processed := [(id, token)] }) enqueues.fresh
        (fun mark mem => ?_) receives
      rw [List.mem_singleton.mp mem]
    · obtain ⟨row, -, found, -, -⟩ := admits.marks _ (List.mem_singleton_self _)
      refine ⟨_, (receives.row? id).trans (by rw [found]; rfl), ?_⟩
      simp [marked, id_of_row? found, processedRow]

theorem attending_complete (enqueues : c.Enqueues) :
    Attending claimed.command.id before ((processor r config).complete claimed c) fun result t =>
      result = .ok () → ∃ row, t.row? claimed.command.id = some row ∧
        row.command.processed = true := by
  have marks := ChangeSet.markProcessed_of_unmarked enqueues.unmarked claimed.command.id
    claimed.claim
  have asked : Attending claimed.command.id before
      (store.answer (.markProcessed claimed.command.id claimed.claim) c) fun r _ =>
        r = (.ok (), { c with processed := [(claimed.command.id, claimed.claim)] }) := by
    refine .silent fun w => ⟨rfl, rfl, fun _ => ?_⟩
    rw [← marks]
    rfl
  refine .bind asked fun answered => .given fun same => ?_
  rw [same]
  exact attending_commit enqueues claimed.claim

theorem attending_conclude (enqueues : c.Enqueues) (now : Timestamp)
    (dispatched : Except DispatchError CommandOutcome) :
    Attending claimed.command.id before
      ((processor r config).conclude claimed now report dispatched c)
      (Settles claimed.command.id) := by
  cases dispatched with
  | error e =>
    simp only [Processor.conclude]
    split
    · exact .bind (.report _) fun _ => .done fun t _ => settles_error _ t
    · exact attending_fail _ _
  | ok outcome =>
    refine .bind (attending_complete enqueues) fun committed => ?_
    split
    · -- The command is processed, and that is all that is needed from here on.
      have settles (t : Tables)
          (done : (.ok () : Except StoreError Unit) = .ok () →
            ∃ row, t.row? claimed.command.id = some row ∧ row.command.processed = true) :
          Settles claimed.command.id (.ok (report.addOutcome outcome)) t := by
        rintro _ ⟨⟩
        exact .inl (done rfl)
      cases outcome with
      | completed => exact .bind (.report _) fun _ => .done settles
      | rejected codes => exact .bind (.report _) fun _ => .done settles
    · exact .bind (.report _) fun _ => .done fun t _ => settles_addFailure _ _ _ _ _ t
    · split
      · exact attending_fail _ _
      · exact .bind (.report _) fun _ => .done fun t _ => settles_error _ t

/-- Every handler of the router only enqueues. -/
def OnlyEnqueue (r : Router Handling) : Prop :=
  ∀ route ∈ r.routes, ∀ context payload, (route.handle context payload).OnlyEnqueues

theorem onlyEnqueues_dispatch (only : OnlyEnqueue r) (command : InternalCommand)
    (now : Timestamp) : (r.dispatch command now).OnlyEnqueues := by
  rw [Router.dispatch]
  cases found : r.find? command.kind with
  | none => exact trivial
  | some route => exact only route (List.mem_of_find?_eq_some found) _ _

/-- A handler leaves the tables alone until its unit is committed. -/
theorem attending_dispatch (only : OnlyEnqueue r) (command : InternalCommand) (now : Timestamp) :
    Attending id before (store.runIn (r.dispatch command now) .empty) fun done _ =>
      done.2.Enqueues := by
  intro w proper _
  obtain ⟨enqueues, same, elapses⟩ := run_onlyEnqueues (onlyEnqueues_dispatch only command now)
    ChangeSet.enqueues_empty w
  rw [same]
  exact ⟨elapses, proper, .refl id _, enqueues⟩

/-- In memory a unit can always be begun, so that every command that is processed is dispatched. -/
theorem process_eq (r : Router Handling) (config : ProcessorConfig) (claimed : ClaimedCommand)
    (report : DrainReport) :
    (processor r config).process claimed report
      = Service.inSpan (Processor.span claimed.command) (do
        let now ← Service.now
        let (dispatched, unit) ← (store.runIn (r.dispatch claimed.command now)).run .empty
        (processor r config).conclude claimed now report dispatched unit) := by
  have dispatched (now : Timestamp) : (processor r config).router.dispatch claimed.command now
      = store.runIn (r.dispatch claimed.command now) :=
    Router.dispatch_interpret _ _ (fun _ => rfl) _ _
  rw [Processor.process]
  simp only [dispatched]
  rfl

/-- To process a command is to attend to it, and it is settled if the store does not fail. -/
theorem attending_process (only : OnlyEnqueue r) :
    Attending claimed.command.id before ((processor r config).process claimed report)
      (Settles claimed.command.id) := by
  rw [process_eq]
  refine .inSpan _ (.bind .now fun reading => ?_)
  exact .bind (attending_dispatch only _ _) fun done => .given fun enqueues =>
    attending_conclude enqueues _ _

end Memory

end SupplierSwitch
