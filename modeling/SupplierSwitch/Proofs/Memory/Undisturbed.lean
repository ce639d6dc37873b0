import SupplierSwitch.Proofs.Memory.Contention
import SupplierSwitch.Proofs.Memory.Dispatch

namespace SupplierSwitch

/-!
# Dispatches that nobody disturbs

Where nobody else is at work, a commit finds everything as the unit has seen it, and only the mark
on the command may be refused. So what is reported of a command depends on what its handler has
come to and on the row of the command: neither other rows nor the clock have a part in it.

* `Tables.Prepared` and `Tables.commit_marking` — units of which only the mark may be refused;
* `Memory.failureReported`, `Memory.reported` — what is reported of a command, by its row;
* `Memory.result_process` — that is what is reported;
* `Memory.settled_process` — what is committed is all that the handler has staged, or nothing;
* `Memory.ids_process` — only the handler draws identifiers.
-/

namespace Tables

/-- What the unit has staged would be committed if it were not for the mark. -/
structure Prepared (t : Tables) (c : ChangeSet) : Prop where
  fits : t.Fits c
  new : ∀ command ∈ c.commands, t.row? command.id = none
  unmarked : c.processed = []

/-- A prepared unit is committed if its mark is in order. -/
theorem commit_marking {t : Tables} {c : ChangeSet} (h : t.Prepared c) (claimed : ClaimedCommand)
    (now : Timestamp) : t.commit (c.marking claimed) now
      = (t.checkMark (claimed.command.id, claimed.claim)).map
        fun _ => t.apply (c.marking claimed) now := by
  have commands : c.commands.forM t.checkCommand = .ok () :=
    (forM_ok_iff _ _).mpr fun command mem => checkCommand_ok_iff.mpr (h.new command mem)
  have transactions : c.transactions.forM t.checkTransaction = .ok () :=
    (forM_ok_iff _ _).mpr h.fits.transactions
  have points : c.points.forM t.checkPoint = .ok () := (forM_ok_iff _ _).mpr h.fits.points
  have checked : t.check (c.marking claimed)
      = t.checkMark (claimed.command.id, claimed.claim) := by
    rw [ChangeSet.marking, ChangeSet.markProcessed_of_unmarked h.unmarked]
    show (c.commands.forM t.checkCommand >>= fun _ =>
      (t.checkMark (claimed.command.id, claimed.claim) >>= fun _ => pure ()) >>= fun _ =>
        c.transactions.forM t.checkTransaction >>= fun _ => c.points.forM t.checkPoint) = _
    rw [commands, transactions, points]
    cases t.checkMark (claimed.command.id, claimed.claim) <;> rfl
  rw [commit, checked]

end Tables

namespace Memory

open Tables Processor

variable {r : Router Handling} {config : ProcessorConfig} {claimed : ClaimedCommand}
  {report : DrainReport} {result : Except StoreError DrainReport} {c : ChangeSet}
  {w w' : World Tables} {now : Timestamp} {dispatched : Except DispatchError CommandOutcome}

/-! ### What is reported -/

/-- The failure that is reported of a command. It is recorded on the row if the claim is still on
    it, and counted from what the row says; else it is counted from what was claimed. -/
def failureReported (policy : RetryPolicy) (claimed : ClaimedCommand) (error : String)
    (row : Option CommandRow) : CommandFailure :=
  match row.filter (·.isHeldBy claimed.claim) with
  | some row =>
    let attempts := row.command.attempts + 1
    failure claimed attempts error (!policy.shouldRetry attempts)
  | none => failure claimed (claimed.command.attempts + 1) error false

/-- The report on a command, by what its handler has come to. -/
def reported (policy : RetryPolicy) (claimed : ClaimedCommand) (report : DrainReport)
    (row : Option CommandRow) : Except DispatchError CommandOutcome → DrainReport
  | .error e => report.addFailure (failureReported policy claimed e.message row)
  | .ok outcome =>
    let command := claimed.command
    match row with
    | none =>
      let missing := StoreError.notFound ("command " ++ toString command.id)
      report.addFailure
        (failureReported policy claimed ("commit failed: " ++ missing.message) none)
    | some row =>
      if row.command.processed || !row.isHeldBy claimed.claim then
        report.addFailure (failure claimed (command.attempts + 1)
          (StoreError.claimLost command.id).message false)
      else report.addOutcome outcome

theorem failureReported_of_recorded {error : String} {policy : RetryPolicy}
    {disposition : FailureDisposition} {t t' : Tables}
    (records : t.recordFailure claimed.command.id claimed.claim error policy now
      = .ok (disposition, t')) :
    failureReported policy claimed error (t.row? claimed.command.id)
      = failure claimed disposition.attempts error disposition.isDeadLettered := by
  obtain ⟨row, runsOut, found, held, rfl, -⟩ := recordFailure_ok_iff.mp records
  have held : row.isHeldBy claimed.claim = true := isHeldBy_iff.mpr ⟨runsOut, held⟩
  rw [failureReported, found, Option.filter_some, if_pos held]
  dsimp only
  cases retried : policy.shouldRetry (row.command.attempts + 1) with
  | true => rw [failed_of_retry retried]; rfl
  | false => rw [failed_of_last retried]; rfl

theorem failureReported_of_unrecorded {error : String} {policy : RetryPolicy} {e : StoreError}
    {t : Tables} (records : t.recordFailure claimed.command.id claimed.claim error policy now
      = .error e) :
    failureReported policy claimed error (t.row? claimed.command.id)
      = failure claimed (claimed.command.attempts + 1) error false := by
  rw [failureReported]
  cases found : t.row? claimed.command.id with
  | none => rfl
  | some row =>
    by_cases held : row.isHeldBy claimed.claim = true
    · simp [recordFailure, found, held] at records
    · rw [Option.filter_some, if_neg held]

theorem result_of_fails {error : String}
    (h : (processor r config).Fails claimed error now report w result w') :
    result = .ok (report.addFailure (failureReported config.retryPolicy claimed error
      (w.store.row? claimed.command.id))) := by
  cases h with
  | recorded records =>
    obtain ⟨_, done, ⟨⟩⟩ | ⟨_, -, same, -⟩ := recordFailure_cases records
    · have told : failureReported config.retryPolicy claimed error _ = _ :=
        failureReported_of_recorded done
      rw [told]
    · cases same
  | unrecorded records =>
    obtain ⟨_, -, same⟩ | ⟨_, failed, -, -⟩ := recordFailure_cases records
    · cases same
    · have told : failureReported config.retryPolicy claimed error _ = _ :=
        failureReported_of_unrecorded failed
      rw [told]
  | storage records broken =>
    obtain ⟨_, -, same⟩ | ⟨e, failed, ⟨⟩, -⟩ := recordFailure_cases records
    · cases same
    · rw [isCommandLocal_of_recordFailure failed] at broken
      cases broken

theorem result_fail (error : String) (now : Timestamp) (report : DrainReport) (w : World Tables) :
    (((processor r config).fail claimed error now report).run w).1
      = .ok (report.addFailure (failureReported config.retryPolicy claimed error
        (w.store.row? claimed.command.id))) :=
  result_of_fails (fail_cases ..)

/-- A prepared unit is completed as its mark allows. -/
theorem complete_of_prepared (prepared : w.store.Prepared c) {completed : Except StoreError Unit}
    (completes : ((processor r config).complete claimed c).run w = (completed, w')) :
    completed = w.store.checkMark (claimed.command.id, claimed.claim) ∧
      (∀ e, completed = .error e → w'.store = w.store) := by
  obtain ⟨now, ⟨done, rfl⟩ | ⟨e, failed, rfl, same⟩⟩ := complete_cases completes
  · rw [commit_marking prepared] at done
    cases checked : w.store.checkMark (claimed.command.id, claimed.claim) with
    | ok u => exact ⟨rfl, nofun⟩
    | error e =>
      rw [checked] at done
      cases done
  · rw [commit_marking prepared] at failed
    cases checked : w.store.checkMark (claimed.command.id, claimed.claim) with
    | ok u =>
      rw [checked] at failed
      cases failed
    | error e' =>
      rw [checked] at failed
      cases failed
      exact ⟨rfl, fun _ _ => same⟩

/-- What is reported once the handler has answered. -/
theorem result_conclude (own : ∀ e, dispatched = .error e → storageFailure e = none)
    (prepared : ∀ outcome, dispatched = .ok outcome → w.store.Prepared c) :
    (((processor r config).conclude claimed now report dispatched c).run w).1
      = .ok (reported config.retryPolicy claimed report (w.store.row? claimed.command.id)
        dispatched) := by
  cases dispatched with
  | error e =>
    simp only [conclude, own e rfl]
    exact result_fail ..
  | ok outcome =>
    rcases completes : ((processor r config).complete claimed c).run w with ⟨completed, w₁⟩
    obtain ⟨rfl, same⟩ := complete_of_prepared (prepared outcome rfl) completes
    rw [conclude, Service.run_bind completes]
    rw [checkMark] at same ⊢
    cases found : w.store.row? claimed.command.id with
    | none =>
      rw [found] at same
      refine (result_fail _ now report w₁).trans ?_
      rw [same _ rfl, found]
      rfl
    | some row =>
      dsimp only
      by_cases late : (row.command.processed || !row.isHeldBy claimed.claim) = true
      · rw [reported, if_pos late, if_pos late]
        rfl
      · rw [reported, if_neg late, if_neg late]
        cases outcome <;> rfl

/-- A claimed command after its handler has answered: what the handler has come to, what it has
    staged, and the world then. -/
def answered (r : Router Handling) (claimed : ClaimedCommand) (w : World Tables) :
    (Except DispatchError CommandOutcome × ChangeSet) × World Tables :=
  (store.runIn (r.dispatch claimed.command (w.clock.reading w.clock.taken)) .empty).run
    (entered claimed w)

theorem run_process_answered (r : Router Handling) (config : ProcessorConfig)
    (claimed : ClaimedCommand) (report : DrainReport) (w : World Tables) :
    let asked := answered r claimed w
    let done := ((processor r config).conclude claimed (w.clock.reading w.clock.taken) report
      asked.1.1 asked.1.2).run asked.2
    ((processor r config).process claimed report).run w
      = (done.1, { done.2 with spans := w.spans }) := by
  rw [process_eq]
  rfl

theorem store_answered (r : Router Handling) (claimed : ClaimedCommand) (w : World Tables) :
    (answered r claimed w).2.store = w.store :=
  (runIn_leaves _ ChangeSet.tidy_empty (entered claimed w)).2

/-- A dispatch that nobody disturbs is reported by what its handler has come to and by the row of
    its command. -/
theorem result_process
    (own : ∀ e, (handled r claimed w).1 = .error e → storageFailure e = none)
    (prepared : ∀ outcome, (handled r claimed w).1 = .ok outcome →
      w.store.Prepared (handled r claimed w).2) :
    (((processor r config).process claimed report).run w).1
      = .ok (reported config.retryPolicy claimed report (w.store.row? claimed.command.id)
        (handled r claimed w).1) := by
  have same := store_answered r claimed w
  rw [run_process_answered]
  refine (result_conclude own fun outcome done => ?_).trans ?_
  · rw [same]
    exact prepared outcome done
  · rw [same]

/-! ### What is committed -/

/-- A command is completed if its handler has come to an outcome and its row is neither processed
    nor under another claim. -/
def completes (claimed : ClaimedCommand) (row : Option CommandRow)
    (dispatched : Except DispatchError CommandOutcome) : Bool :=
  dispatched.isOk && row.any fun row => !row.command.processed && row.isHeldBy claimed.claim

theorem reported_of_completes (policy : RetryPolicy) (report : DrainReport)
    {row : Option CommandRow} (h : completes claimed row dispatched = true) :
    ∃ outcome, reported policy claimed report row dispatched = report.addOutcome outcome := by
  obtain e | outcome := dispatched
  · cases h
  obtain _ | row := row
  · cases h
  have valid : (!row.command.processed && row.isHeldBy claimed.claim) = true := h
  have inOrder : (row.command.processed || !row.isHeldBy claimed.claim) = false := by
    simpa using valid
  exact ⟨outcome, by simp [reported, inOrder]⟩

/-- What is committed of a dispatch that nobody disturbs is all that its handler has staged, or
    nothing. -/
theorem settled_process (config : ProcessorConfig) (report : DrainReport)
    (own : ∀ e, (handled r claimed w).1 = .error e → storageFailure e = none)
    (prepared : ∀ outcome, (handled r claimed w).1 = .ok outcome →
      w.store.Prepared (handled r claimed w).2) :
    let c := (handled r claimed w).2.marking claimed
    let t' := (((processor r config).process claimed report).run w).2.store
    let done := completes claimed (w.store.row? claimed.command.id) (handled r claimed w).1
    (done = true ∧ w.store.Admits c ∧
      ∃ now, t' = w.store.apply c now ∧ w.store.Receives c now t') ∨
      (done = false ∧ w.store.FailsOnly claimed.command.id t') := by
  intro c t' done
  have settled := process_handled r config claimed report w
  dsimp only at settled
  rw [result_process own prepared] at settled
  obtain ⟨outcome, now, dispatched, -, admits, receives, applied, -⟩ | ⟨⟨f, same, -⟩, fails⟩ :=
    settled
  · refine .inl ⟨?_, admits, now, applied, receives⟩
    have marks : (claimed.command.id, claimed.claim) ∈ c.processed := by
      show _ ∈ (ChangeSet.markProcessed _ _ _).processed
      rw [ChangeSet.markProcessed_of_unmarked (prepared outcome dispatched).unmarked]
      exact List.mem_singleton_self _
    obtain ⟨row, runsOut, found, pending, held⟩ := admits.marks _ marks
    have held := isHeldBy_iff.mpr ⟨runsOut, held⟩
    simp [done, completes, dispatched, found, pending, held, Except.isOk, Except.toBool]
  · refine .inr ⟨Bool.eq_false_iff.mpr fun completed => ?_, fails⟩
    obtain ⟨outcome, told⟩ := reported_of_completes config.retryPolicy report completed
    exact addOutcome_ne_addFailure (told.symm.trans same)

/-! ### Who draws identifiers -/

theorem ids_recordFailure {id : CommandId} {token : ClaimToken} {error : String}
    {policy : RetryPolicy} {recorded : Except StoreError FailureDisposition}
    (records : (store.recordFailure id token error policy now).run w = (recorded, w')) :
    w'.ids = w.ids := by
  have run : (store.recordFailure id token error policy now).run w = _ := run_change _ w
  rw [records] at run
  split at run <;> cases run <;> rfl

theorem ids_complete {completed : Except StoreError Unit}
    (completes : ((processor r config).complete claimed c).run w = (completed, w')) :
    w'.ids = w.ids := by
  have commits : (commit (c.marking claimed)).run w = (completed, w') := completes
  by_cases empty : (c.marking claimed).isEmpty = true
  · rw [commit, if_pos empty] at commits
    cases commits
    rfl
  · rw [run_commit empty] at commits
    split at commits <;> cases commits <;> rfl

theorem ids_of_fails {error : String}
    (h : (processor r config).Fails claimed error now report w result w') : w'.ids = w.ids := by
  cases h with
  | recorded records alike | unrecorded records _ alike | storage records _ alike =>
    exact alike.ids.trans (ids_recordFailure records)

theorem ids_of_concludes
    (h : (processor r config).Concludes claimed now report dispatched c w result w') :
    w'.ids = w.ids := by
  cases h with
  | handlerStorage _ _ alike => exact alike.ids
  | handlerFailed _ _ fails => exact ids_of_fails fails
  | committed _ completes alike | lost _ completes alike | commitStorage _ completes _ alike =>
    exact alike.ids.trans (ids_complete completes)
  | refused _ completes _ fails => exact (ids_of_fails fails).trans (ids_complete completes)

/-- After its handler has answered, the processing of a command draws no more identifiers. -/
theorem ids_process (r : Router Handling) (config : ProcessorConfig) (claimed : ClaimedCommand)
    (report : DrainReport) (w : World Tables) :
    (((processor r config).process claimed report).run w).2.ids = (answered r claimed w).2.ids := by
  let asked := answered r claimed w
  have same := ids_of_concludes (conclude_cases (processor r config) claimed
    (w.clock.reading w.clock.taken) report asked.1.1 asked.1.2 asked.2)
  rw [run_process_answered]
  exact same

end Memory

end SupplierSwitch
