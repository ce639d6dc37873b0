import SupplierSwitch.Proofs.Memory.Attending
import SupplierSwitch.Proofs.Memory.Refusals
import SupplierSwitch.Proofs.Outbox.Exits

namespace SupplierSwitch

/-!
# A dispatch is all or nothing

What the handler of a command stages becomes visible together with the mark on the command, or not
at all; in the second case at most the failure is written to the row of the command. That is so for
all handlers that reach the store through their unit, on every exit, and it does not depend on which
outcome the handler has come to.

* `Tables.FailsOnly` — nothing is written but what a failure writes to one command;
* `Memory.Settlement` — what a dispatch leaves in the tables, by its result;
* `Memory.settlement_of_concludes` — every exit leaves such tables;
* `Memory.dispatch_all_or_nothing` — the result, and that outcomes are no matter.
-/

namespace Tables

/-- From `t` to `t'` nothing is written but what a failure writes to the row of the command. -/
structure FailsOnly (id : CommandId) (t t' : Tables) : Prop where
  transactions : t'.transactions = t.transactions
  points : t'.points = t.points
  lastSequence : t'.lastSequence = t.lastSequence
  commandIds : t'.commandIds = t.commandIds
  others : ∀ other, other ≠ id → t'.row? other = t.row? other
  own : ∀ row, t.row? id = some row → ∃ row', t'.row? id = some row' ∧
    row'.command = { row.command with
      attempts := row'.command.attempts
      lastError := row'.command.lastError
      notBefore := row'.command.notBefore
      deadLetteredAt := row'.command.deadLetteredAt }

theorem FailsOnly.refl (id : CommandId) (t : Tables) : FailsOnly id t t :=
  ⟨rfl, rfl, rfl, rfl, fun _ _ => rfl, fun row found => ⟨row, found, rfl⟩⟩

variable {t t' : Tables} {c : ChangeSet} {id : CommandId} {now : Timestamp} {e : StoreError}

/-- A recorded failure: the row before and after it. -/
theorem row?_of_recordFailure {token : ClaimToken} {error : String} {policy : RetryPolicy}
    {disposition : FailureDisposition}
    (h : t.recordFailure id token error policy now = .ok (disposition, t')) :
    ∃ row runsOut, t.row? id = some row ∧ row.claim = some (token, runsOut) ∧
      disposition = (failed row.command error policy now).2 ∧
      t'.row? id = some ⟨(failed row.command error policy now).1, none⟩ ∧
      t'.commandIds = t.commandIds ∧ ∀ other, other ≠ id → t'.row? other = t.row? other := by
  obtain ⟨row, runsOut, found, held, disposed, rfl⟩ := recordFailure_ok_iff.mp h
  have keeps : ∀ other : CommandRow, other.command.id = id →
      (⟨(failed row.command error policy now).1, none⟩ : CommandRow).command.id = id :=
    fun _ _ => by rw [id_failed, id_of_row? found]
  refine ⟨row, runsOut, found, held, disposed, ?_, commandIds_updateRow t id _ keeps, ?_⟩
  · rw [row?_updateRow t id id _ keeps, if_pos rfl, found]
    rfl
  · intro other unlike
    rw [row?_updateRow t id other _ keeps, if_neg unlike]

theorem failsOnly_of_recordFailure {token : ClaimToken} {error : String} {policy : RetryPolicy}
    {disposition : FailureDisposition}
    (h : t.recordFailure id token error policy now = .ok (disposition, t')) :
    FailsOnly id t t' := by
  obtain ⟨row, -, found, -, -, found', ids, others⟩ := row?_of_recordFailure h
  obtain ⟨_, _, _, _, _, rfl⟩ := recordFailure_ok_iff.mp h
  refine ⟨rfl, rfl, rfl, ids, others, fun old same => ?_⟩
  cases found.symm.trans same
  exact ⟨_, found', failed_eq row.command error policy now⟩

/-- What keeps a unit from being committed concerns the command only. -/
theorem isCommandLocal_of_commit (h : t.commit c now = .error e) : e.isCommandLocal = true := by
  cases refusal_of_commit h <;> rfl

/-- A commit that marks a command leaves it processed. -/
theorem Receives.processed {mark : CommandId × ClaimToken} (receives : t.Receives c now t')
    (admits : t.Admits c) (marked : mark ∈ c.processed) :
    ∃ row, t'.row? mark.1 = some row ∧ row.command.processed = true := by
  obtain ⟨row, runsOut, found, -, -⟩ := admits.marks mark marked
  have mem : row.command.id ∈ c.processed.map Prod.fst :=
    id_of_row? found ▸ List.mem_map_of_mem marked
  refine ⟨_, (receives.row? mark.1).trans (by rw [found]; rfl), ?_⟩
  rw [Tables.marked, if_pos mem]
  rfl

end Tables

namespace ChangeSet

/-- The unit of a dispatch as it is committed: with the mark on the command, unless the handler has
    marked it already. -/
def marking (c : ChangeSet) (claimed : ClaimedCommand) : ChangeSet :=
  c.markProcessed claimed.command.id claimed.claim

theorem tidy_marking {c : ChangeSet} (h : c.Tidy) (claimed : ClaimedCommand) :
    (c.marking claimed).Tidy :=
  tidy_markProcessed h _ _

theorem mem_marking (c : ChangeSet) (claimed : ClaimedCommand) :
    ∃ mark ∈ (c.marking claimed).processed, mark.1 = claimed.command.id := by
  unfold marking markProcessed
  split
  · rename_i marked
    obtain ⟨mark, mem, same⟩ := List.any_eq_true.mp marked
    exact ⟨mark, mem, of_decide_eq_true same⟩
  · exact ⟨(claimed.command.id, claimed.claim),
      List.mem_append_right _ (List.mem_singleton_self _), rfl⟩

/-- The marks of a dispatch are those that its handler has staged, and the one of the processor. -/
theorem staged_or_own {c : ChangeSet} {claimed : ClaimedCommand} {mark : CommandId × ClaimToken}
    (h : mark ∈ (c.marking claimed).processed) :
    mark ∈ c.processed ∨ mark = (claimed.command.id, claimed.claim) := by
  unfold marking markProcessed at h
  split at h
  · exact .inl h
  · exact (List.mem_append.mp h).imp_right List.mem_singleton.mp

end ChangeSet

namespace Memory

open Tables Processor

variable {α : Type} {r : Router Handling} {config : ProcessorConfig} {claimed : ClaimedCommand}
  {report : DrainReport} {result : Except StoreError DrainReport} {c : ChangeSet}
  {w w' : World Tables}

/-! ### The parts of a dispatch -/

/-- Whatever a program does in its unit, the store is as it was, and the unit is tidy. -/
theorem runIn_leaves (program : Handling α) (tidy : c.Tidy) (w : World Tables) :
    let done := (store.runIn program c).run w
    done.1.2.Tidy ∧ done.2.store = w.store := by
  induction program generalizing c w with
  | done a => exact ⟨tidy, rfl⟩
  | step action next ih =>
    cases action with
    | ask call => exact ih _ (ChangeSet.tidy_answer tidy w.store call) w
    | now => exact ih _ tidy (ticked w)
    | freshId => exact ih _ tidy { w with ids := { w.ids with issued := w.ids.issued + 1 } }
    | report notice =>
      exact ih () tidy { w with journal := ⟨notice, w.spans.reverse⟩ :: w.journal }

/-- A unit is committed as a whole, or it is refused and the tables stay as they are. -/
theorem commit_cases {committed : Except StoreError Unit}
    (commits : (store.commit c).run w = (committed, w')) :
    ∃ now, (w.store.commit c now = .ok w'.store ∧ committed = .ok ()) ∨
      ∃ e, w.store.commit c now = .error e ∧ committed = .error e ∧ w'.store = w.store :=
  ⟨_, yields_commit.mp ⟨w, w', rfl, rfl, commits, rfl⟩⟩

/-- What is committed is the unit with the mark. -/
theorem complete_cases {completed : Except StoreError Unit}
    (completes : ((processor r config).complete claimed c).run w = (completed, w')) :
    ∃ now, (w.store.commit (c.marking claimed) now = .ok w'.store ∧ completed = .ok ()) ∨
      ∃ e, w.store.commit (c.marking claimed) now = .error e ∧ completed = .error e ∧
        w'.store = w.store :=
  commit_cases completes

theorem recordFailure_cases {id : CommandId} {token : ClaimToken} {error : String}
    {policy : RetryPolicy} {now : Timestamp} {recorded : Except StoreError FailureDisposition}
    (records : (store.recordFailure id token error policy now).run w = (recorded, w')) :
    (∃ disposition, w.store.recordFailure id token error policy now
      = .ok (disposition, w'.store) ∧ recorded = .ok disposition) ∨
    ∃ e, w.store.recordFailure id token error policy now = .error e ∧ recorded = .error e ∧
      w'.store = w.store := by
  have yields : Yields (store.recordFailure id token error policy now)
      (w.clock.reading w.clock.taken) w.store recorded w'.store :=
    ⟨w, w', rfl, rfl, records, rfl⟩
  exact yields_change.mp yields

/-! ### What a dispatch leaves -/

/-- The report has one more failure, that of the claimed command, and nothing is written but what a
    failure writes. -/
def FailsAlone (claimed : ClaimedCommand) (report report' : DrainReport) (t t' : Tables) : Prop :=
  (∃ f : CommandFailure, report' = report.addFailure f ∧ f.commandId = claimed.command.id ∧
    f.kind = claimed.command.kind) ∧ t.FailsOnly claimed.command.id t'

/-- What a dispatch leaves in the tables, by its result, if its handler has come to `dispatched` and
    staged `c`. -/
def Settlement (claimed : ClaimedCommand) (report : DrainReport)
    (dispatched : Except DispatchError CommandOutcome) (c : ChangeSet) (t t' : Tables) :
    Except StoreError DrainReport → Prop
  | .ok report' =>
    (∃ outcome now, dispatched = .ok outcome ∧ report' = report.addOutcome outcome ∧
      t.Admits (c.marking claimed) ∧ t.Receives (c.marking claimed) now t' ∧
      t' = t.apply (c.marking claimed) now ∧
      ∃ row, t'.row? claimed.command.id = some row ∧ row.command.processed = true) ∨
    FailsAlone claimed report report' t t'
  | .error storage =>
    (∃ e, dispatched = .error e ∧ storageFailure e = some storage) ∧ t' = t

/-- A failure is reported, and written or not. -/
theorem failsAlone_of_fails {error : String} {now : Timestamp}
    (h : (processor r config).Fails claimed error now report w result w') :
    ∃ report', result = .ok report' ∧ FailsAlone claimed report report' w.store w'.store := by
  cases h with
  | recorded records alike =>
    obtain ⟨_, done, -⟩ | ⟨_, -, same, -⟩ := recordFailure_cases records
    · refine ⟨_, rfl, ⟨_, rfl, rfl, rfl⟩, ?_⟩
      rw [alike.store]
      exact failsOnly_of_recordFailure done
    · cases same
  | unrecorded records own alike =>
    obtain ⟨_, -, same⟩ | ⟨_, -, -, same⟩ := recordFailure_cases records
    · cases same
    · refine ⟨_, rfl, ⟨_, rfl, rfl, rfl⟩, ?_⟩
      rw [alike.store, same]
      exact .refl _ _
  | storage records broken alike =>
    obtain ⟨_, -, same⟩ | ⟨e, failed, same, -⟩ := recordFailure_cases records
    · cases same
    · cases same
      rw [isCommandLocal_of_recordFailure failed] at broken
      cases broken

/-- Whatever the handler has come to, a dispatch is settled by one of its exits. -/
theorem settlement_of_concludes {now : Timestamp}
    {dispatched : Except DispatchError CommandOutcome} (tidy : c.Tidy)
    (h : (processor r config).Concludes claimed now report dispatched c w result w') :
    Settlement claimed report dispatched c w.store w'.store result := by
  cases h with
  | handlerStorage failed broken alike => exact ⟨⟨_, failed, broken⟩, alike.store⟩
  | handlerFailed failed own fails =>
    obtain ⟨report', rfl, alone⟩ := failsAlone_of_fails fails
    exact .inr alone
  | committed handled completes alike =>
    obtain ⟨now, ⟨done, -⟩ | ⟨_, -, same, -⟩⟩ := complete_cases completes
    · obtain ⟨admits, applied⟩ := commit_ok_iff.mp done
      have receives := receives_apply (ChangeSet.tidy_marking tidy claimed) admits now
      obtain ⟨mark, marked, same⟩ := c.mem_marking claimed
      rw [← applied] at receives
      rw [alike.store]
      exact .inl ⟨_, now, handled, rfl, admits, receives, applied,
        same ▸ receives.processed admits marked⟩
    · cases same
  | lost handled completes alike =>
    obtain ⟨now, ⟨-, same⟩ | ⟨_, -, -, same⟩⟩ := complete_cases completes
    · cases same
    · refine .inr ⟨⟨_, rfl, rfl, rfl⟩, ?_⟩
      rw [alike.store, same]
      exact .refl _ _
  | refused handled completes own fails =>
    obtain ⟨now, ⟨-, same⟩ | ⟨_, -, -, same⟩⟩ := complete_cases completes
    · cases same
    · obtain ⟨report', rfl, alone⟩ := failsAlone_of_fails fails
      rw [same] at alone
      exact .inr alone
  | commitStorage handled completes broken alike =>
    obtain ⟨now, ⟨-, same⟩ | ⟨e, failed, same, -⟩⟩ := complete_cases completes
    · cases same
    · cases same
      rw [isCommandLocal_of_commit failed] at broken
      cases broken

/-- What the handler of a claimed command comes to in a world, with what it stages. -/
def handled (r : Router Handling) (claimed : ClaimedCommand) (w : World Tables) :
    Except DispatchError CommandOutcome × ChangeSet :=
  ((store.runIn (r.dispatch claimed.command (w.clock.reading w.clock.taken)) .empty).run
    (entered claimed w)).1

theorem process_handled (r : Router Handling) (config : ProcessorConfig) (claimed : ClaimedCommand)
    (report : DrainReport) (w : World Tables) :
    let done := ((processor r config).process claimed report).run w
    Settlement claimed report (handled r claimed w).1 (handled r claimed w).2 w.store
      done.2.store done.1 := by
  obtain ⟨e, w₁, begins, -⟩ | ⟨opened, unit, dispatched, w₁, w₂, begins, dispatches, concludes⟩ :=
    (processor r config).process_cases claimed report w
  · cases begins
  · rw [show (processor r config).router.dispatch _ _ = _ from r.dispatch_runIn store _ _]
      at dispatches
    cases begins
    have run : (store.runIn (r.dispatch claimed.command (w.clock.reading w.clock.taken))
        .empty).run (entered claimed w) = ((dispatched, unit), w₂) := dispatches
    obtain ⟨tidy, same⟩ := runIn_leaves
      (r.dispatch claimed.command (w.clock.reading w.clock.taken)) ChangeSet.tidy_empty
      (entered claimed w)
    rw [run] at tidy same
    have settled := settlement_of_concludes tidy concludes
    rw [same] at settled
    rw [handled, run]
    exact settled

/-! ### Outcomes are no matter -/

/-- A router whose handlers, when they have come to an outcome, tell another one. -/
def answering (f : CommandOutcome → CommandOutcome) (r : Router Handling) : Router Handling :=
  ⟨r.routes.map fun route => { route with
    handle := fun context payload => do
      let dispatched ← route.handle context payload
      pure (dispatched.map f) }⟩

/-- A program whose result is changed at its end. -/
theorem runIn_map {β : Type} (g : α → β) (program : Handling α) (c : ChangeSet) (w : World Tables) :
    let done := (store.runIn program c).run w
    (store.runIn (program >>= fun a => pure (g a)) c).run w = ((g done.1.1, done.1.2), done.2) := by
  induction program generalizing c w with
  | done a => rfl
  | step action next ih =>
    let r := (store.meaning action c).run w
    exact ih r.1.1 r.1.2 r.2

theorem dispatch_answering (f : CommandOutcome → CommandOutcome) (r : Router Handling)
    (command : InternalCommand) (now : Timestamp) :
    (answering f r).dispatch command now
      = (r.dispatch command now >>= fun dispatched => pure (dispatched.map f)) := by
  have found : (answering f r).find? command.kind
      = (r.find? command.kind).map fun route => { route with
        handle := fun context payload => do
          let dispatched ← route.handle context payload
          pure (dispatched.map f) } := by
    rw [answering, Router.find?, Router.find?, List.find?_map]
    rfl
  rw [Router.dispatch, Router.dispatch, found]
  cases r.find? command.kind with
  | none => rfl
  | some route => rfl

/-- What a dispatch does to the tables does not depend on which outcome its handler tells. -/
theorem store_process_answering (f : CommandOutcome → CommandOutcome) (r : Router Handling)
    (config : ProcessorConfig) (claimed : ClaimedCommand) (report : DrainReport)
    (w : World Tables) :
    (((processor (answering f r) config).process claimed report).run w).2.store
      = (((processor r config).process claimed report).run w).2.store := by
  let now := w.clock.reading w.clock.taken
  let told (r : Router Handling) :=
    (store.runIn (r.dispatch claimed.command now) .empty).run (entered claimed w)
  -- The dispatch goes on with what the handler tells, in the unit and the world that it leaves.
  have run (r : Router Handling) : (((processor r config).process claimed report).run w).2.store
      = (((processor r config).conclude claimed now report (told r).1.1 (told r).1.2).run
          (told r).2).2.store := by
    rw [process_eq]
    rfl
  have same : told (answering f r) = (((told r).1.1.map f, (told r).1.2), (told r).2) := by
    simp only [told, dispatch_answering]
    exact runIn_map _ _ _ _
  rw [run, run, same]
  exact store_conclude_map (processor r config) claimed now report f _ _ _

/-- A claimed command is dispatched to a handler that reaches the store through its unit only. If
    the store does not fail, either the command is counted as processed, and all that the handler
    has staged is written together with the mark on it, and nothing else; or its failure is
    reported, and nothing is written but, to the row of the command, what a failure writes. The
    store fails only where the handler says so, and then nothing is written. Which outcome the
    handler tells is no matter for the tables. -/
theorem dispatch_all_or_nothing (r : Router Handling) (config : ProcessorConfig)
    (claimed : ClaimedCommand) (report : DrainReport) (w : World Tables) :
    let done := ((processor r config).process claimed report).run w
    Settlement claimed report (handled r claimed w).1 (handled r claimed w).2 w.store
      done.2.store done.1 ∧
    ∀ f, (((processor (answering f r) config).process claimed report).run w).2.store
      = done.2.store :=
  ⟨process_handled r config claimed report w,
    fun f => store_process_answering f r config claimed report w⟩

end Memory

end SupplierSwitch
