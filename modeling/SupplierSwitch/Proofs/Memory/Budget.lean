import SupplierSwitch.Proofs.Memory.Traffic

namespace SupplierSwitch

/-!
# Failures that use up the retry budget

A command whose failure is reported has used up one of its attempts, as long as its claim stood when
the attempt came to its end: the failure is counted, the claim is released, and the command is
scheduled or given up. There is one way around this. A commit is also refused when a claim is lost
that the handler itself has put into its unit; the processor takes that for the loss of its own
claim and records nothing. A commit that is refused for anything else is recorded as a failure,
whatever marks were staged.

* `CommandRow.Records` — a row before and after a recorded failure;
* `Traffic.Mistaken` — a commit refused for a claim that the handler has put into its unit;
* `Traffic.recorded_iff` — what becomes of a command whose failure is reported;
* `Traffic.InVain` — dispatches of one command, one after another, which all fail;
* `Traffic.failures_use_budget` — every drain, and every command that never succeeds;
* `Traffic.failure_unrecorded` — a command that fails and keeps its budget.
-/

open Memory Tables Processor

/-- The row of a command before and after the failure `f` of an attempt is recorded under a
    policy. -/
structure CommandRow.Records (policy : RetryPolicy) (f : CommandFailure) (row row' : CommandRow) :
    Prop where
  attempts : row'.command.attempts = row.command.attempts + 1
  released : row'.claim = none
  error : row'.command.lastError = some f.error
  told : f.attempt = row'.command.attempts ∧ f.deadLettered = row'.command.isDeadLettered
  /-- Either there is to be another attempt, … -/
  scheduled : policy.shouldRetry row'.command.attempts = true →
    row'.command.isDeadLettered = false ∧ ∃ now, row'.command.notBefore
      = some (Timestamp.offsetBy now (policy.delayForAttempt row'.command.attempts))
  /-- … or the command is given up. -/
  givenUp : policy.shouldRetry row'.command.attempts = false → row'.command.isDeadLettered = true

namespace Traffic

/-- The handler has come to an outcome, and the commit of its unit is refused for the claim of a
    mark that it has staged itself: the mark is on a command that is there, but is processed or not
    under that claim. The processor does not look at whose claim is lost, and writes nothing. -/
inductive Mistaken (r : Router Handling) (claimed : ClaimedCommand) (asked w' : World Traffic) :
    Prop where
  | lost {outcome : CommandOutcome} {mark : CommandId × ClaimToken} {row : CommandRow}
      {now : Timestamp} (completed : (handled r claimed asked).1 = .ok outcome)
      (staged : mark ∈ (handled r claimed asked).2.processed)
      (found : w'.store.met.row? mark.1 = some row) (unheld : ¬ w'.store.met.Held mark)
      (refused : w'.store.met.commit ((handled r claimed asked).2.marking claimed) now
        = .error (.claimLost mark.1))
      (unwritten : w'.store.tables = w'.store.met) :
      Mistaken r claimed asked w'

variable {r : Router Handling} {config : ProcessorConfig} {claimed : ClaimedCommand}
  {f : CommandFailure} {w asked w' : World Traffic} {row : CommandRow} {runsOut : Timestamp}

/-- Where handlers leave it to the processor to mark commands, a claim that is lost is that of the
    command. -/
theorem not_mistaken (unmarking : r.Unmarking) : ¬ Mistaken r claimed asked w' := by
  intro mistaken
  cases mistaken with
  | lost completed staged found unheld refused unwritten =>
    rw [processed_handled unmarking] at staged
    cases staged

/-- A claim that is lost while the one on the command stands is that of a mark which the handler has
    staged. -/
theorem mistaken_of_lost {outcome : CommandOutcome} {id : CommandId} {now : Timestamp}
    (completed : (handled r claimed asked).1 = .ok outcome)
    (refused : w'.store.met.commit ((handled r claimed asked).2.marking claimed) now
      = .error (.claimLost id)) (unwritten : w'.store.tables = w'.store.met)
    (standing : w'.store.met.Held (claimed.command.id, claimed.claim)) :
    Mistaken r claimed asked w' := by
  cases refusal_of_commit refused with
  | claimLost marked found unheld =>
    obtain staged | rfl := ChangeSet.staged_or_own marked
    · exact .lost completed staged found unheld refused unwritten
    · exact absurd standing unheld

/-- A failure that is recorded on a command that was not given up. -/
theorem records_failed (kept : row.command.isDeadLettered = false) (error : String)
    (policy : RetryPolicy) (now : Timestamp) :
    row.Records policy (Processor.failure claimed (failed row.command error policy now).2.attempts
      error (failed row.command error policy now).2.isDeadLettered)
      ⟨(failed row.command error policy now).1, none⟩ := by
  cases again : policy.shouldRetry (row.command.attempts + 1) with
  | true =>
    rw [failed_of_retry again]
    refine ⟨rfl, rfl, rfl, ⟨rfl, kept.symm⟩, fun _ => ⟨kept, now, rfl⟩, fun spent => ?_⟩
    cases again.symm.trans spent
  | false =>
    rw [failed_of_last again]
    refine ⟨rfl, rfl, rfl, ⟨rfl, rfl⟩, fun allowed => ?_, fun _ => rfl⟩
    cases again.symm.trans allowed

/-- Under a standing claim, whatever failure is reported was recorded by the last call. -/
theorem records_of_fails {error : String} {now : Timestamp} {report report' : DrainReport}
    (h : (processor r config).Fails claimed error now report w (.ok report') w')
    (found : w'.store.met.row? claimed.command.id = some row)
    (held : row.claim = some (claimed.claim, runsOut)) (sound : CommandRow.Sound row)
    (reports : report' = report.addFailure f) :
    ∃ row', w'.store.tables.row? claimed.command.id = some row' ∧
      row.Records config.retryPolicy f row' := by
  subst reports
  generalize same : report.addFailure f = report' at h
  cases h with
  | @recorded disposition w₁ _ records alike =>
    obtain rfl := addFailure_inj same
    rw [alike.store] at found ⊢
    obtain ⟨_, recorded, told⟩ | ⟨_, -, failed, -⟩ := recordFailure_cases records
    · cases told
      have recorded : w₁.store.met.recordFailure _ _ _ config.retryPolicy _ = _ := recorded
      obtain ⟨row', -, found', -, disposed, changed, -⟩ := row?_of_recordFailure recorded
      cases found.symm.trans found'
      rw [disposed]
      exact ⟨_, changed, records_failed (sound (by rw [held]; rfl)).2 error _ now⟩
    · cases failed
  | unrecorded records own alike =>
    rw [alike.store] at found
    obtain ⟨_, -, told⟩ | ⟨_, failed, -, -⟩ := recordFailure_cases records
    · cases told
    · rw [recordFailure_of_held found held] at failed
      cases failed

/-- Under a standing claim a failure is recorded, unless a claim of the handler's own was mistaken
    for it. -/
theorem records_or_mistaken {report : DrainReport}
    (fails : ((processor r config).process claimed report).run asked
      = (.ok (report.addFailure f), w'))
    (found : w'.store.met.row? claimed.command.id = some row)
    (held : row.claim = some (claimed.claim, runsOut)) (sound : CommandRow.Sound row) :
    (∃ row', w'.store.tables.row? claimed.command.id = some row' ∧
      row.Records config.retryPolicy f row') ∨ Mistaken r claimed asked w' := by
  obtain ⟨now, w₂, concludes⟩ := process_concludes r config claimed report asked
  rw [fails] at concludes
  generalize same : report.addFailure f = report' at concludes
  cases concludes with
  | handlerFailed failed own fails =>
    exact .inl (records_of_fails fails found held sound same.symm)
  | committed dispatched completes alike => exact absurd same.symm addOutcome_ne_addFailure
  | lost dispatched completes alike =>
    obtain ⟨now, ⟨-, done⟩ | ⟨_, refused, told, unwritten⟩⟩ := complete_cases completes
    · cases done
    · cases told
      rw [← alike.store] at refused unwritten
      have unprocessed : row.command.processed = false := (sound (by rw [held]; rfl)).1
      exact .inr (mistaken_of_lost dispatched refused unwritten
        ⟨row, runsOut, found, unprocessed, held⟩)
  | refused dispatched completes own fails =>
    exact .inl (records_of_fails fails found held sound same.symm)

/-- Under a standing claim a failure is recorded if and only if no claim of the handler's own was
    mistaken for it. -/
theorem recorded_iff {report : DrainReport}
    (fails : ((processor r config).process claimed report).run asked
      = (.ok (report.addFailure f), w'))
    (found : w'.store.met.row? claimed.command.id = some row)
    (held : row.claim = some (claimed.claim, runsOut)) (sound : CommandRow.Sound row) :
    (∃ row', w'.store.tables.row? claimed.command.id = some row' ∧
      row.Records config.retryPolicy f row') ↔ ¬ Mistaken r claimed asked w' := by
  constructor
  · rintro ⟨row', changed, records⟩ mistaken
    cases mistaken with
    | lost completed staged here unheld refused unwritten =>
      rw [unwritten, found] at changed
      cases changed
      -- The claim still stands, and would have been released.
      cases held.symm.trans records.released
  · intro unmistaken
    exact (records_or_mistaken fails found held sound).resolve_right unmistaken

/-! ### Dispatches in vain -/

/-- So many dispatches of a command have failed since `start`, all of them under the policy, and
    none for a claim of the handler's own that was lost. Nobody else has touched the row of the
    command. -/
inductive InVain (policy : RetryPolicy) (id : CommandId) (start : World Traffic) :
    Nat → World Traffic → Prop where
  | none : InVain policy id start 0 start
  /-- Something else happens. -/
  | meanwhile {n : Nat} {w w' : World Traffic} (before : InVain policy id start n w)
      (untouched : w'.store.tables.row? id = w.store.tables.row? id) :
      InVain policy id start n w'
  | failed {n : Nat} {w asked w' : World Traffic} {r : Router Handling} {config : ProcessorConfig}
      {filter : ClaimFilter} {claimed : ClaimedCommand} {report : DrainReport} {f : CommandFailure}
      (before : InVain policy id start n w) (retries : config.retryPolicy = policy)
      (claims : (store.claimNext filter).run w = (.ok (some claimed), asked))
      (about : claimed.command.id = id) (distinct : asked.store.met.commandIds.Nodup)
      (fails : ((processor r config).process claimed report).run asked
        = (.ok (report.addFailure f), w'))
      (unmistaken : ¬ Mistaken r claimed asked w')
      (untouched : asked.store.met.row? id = w.store.tables.row? id)
      (untaken : w'.store.met.row? id = asked.store.tables.row? id) :
      InVain policy id start (n + 1) w'

/-- The row of a command after so many failures under a policy. -/
structure Spent (policy : RetryPolicy) (n : Nat) (row : CommandRow) : Prop where
  attempts : row.command.attempts.toNat = n
  bounded : n ≤ max 1 policy.maxAttempts.toNat
  given : row.command.isDeadLettered = true ↔ n = max 1 policy.maxAttempts.toNat

/-- One more failure is recorded on a command that was not given up. -/
theorem Spent.step {policy : RetryPolicy} {n : Nat} {row' : CommandRow} (h : Spent policy n row)
    (kept : row.command.isDeadLettered = false) (records : row.Records policy f row') :
    Spent policy (n + 1) row' := by
  have room : n < max 1 policy.maxAttempts.toNat := by
    refine Nat.lt_of_le_of_ne h.bounded fun full => ?_
    rw [h.given.mpr full] at kept
    cases kept
  have bound := policy.maxAttempts.toNat_lt
  have attempts : row'.command.attempts.toNat = n + 1 := by
    have attempts := h.attempts
    rw [records.attempts, toNat_succ (by omega), attempts]
  refine ⟨attempts, room, ?_⟩
  cases again : policy.shouldRetry row'.command.attempts with
  | true =>
    have less : n + 1 < policy.maxAttempts.toNat := by
      rw [← attempts]
      exact UInt32.lt_iff_toNat_lt.mp (of_decide_eq_true again)
    rw [(records.scheduled again).1]
    constructor
    · exact nofun
    · omega
  | false =>
    have least : policy.maxAttempts.toNat ≤ n + 1 := by
      rw [← attempts]
      exact UInt32.le_iff_toNat_le.mp (UInt32.not_lt.mp (of_decide_eq_false again))
    rw [records.givenUp again]
    constructor
    · omega
    · exact fun _ => rfl

/-- A command that fails again and again spends its budget, one attempt at a time. -/
theorem InVain.spent {policy : RetryPolicy} {id : CommandId} {start : World Traffic} {n : Nat}
    (vain : InVain policy id start n w) (found : start.store.tables.row? id = some row)
    (attempts : row.command.attempts = 0) (kept : row.command.isDeadLettered = false) :
    ∃ row', w.store.tables.row? id = some row' ∧ Spent policy n row' := by
  induction vain with
  | none =>
    refine ⟨row, found, by rw [attempts]; rfl, Nat.zero_le _, ?_⟩
    rw [kept]
    constructor
    · exact nofun
    · omega
  | meanwhile before untouched ih =>
    rw [untouched]
    exact ih
  | @failed n w asked w' r config filter claimed report f before retries claims about distinct
      fails unmistaken untouched untaken ih =>
    obtain ⟨row, here, spent⟩ := ih
    rw [← untouched] at here
    obtain ⟨next, now, chosen, same, tables⟩ := claimNext_cases claims
    -- What was handed out is the row of the command, as no other has its identifier.
    have own : next.command.id = id := by rw [← same, about]
    have found := row?_of_mem distinct (List.mem_of_find?_eq_some chosen)
    rw [own, here] at found
    cases found
    have claimable := List.find?_some chosen
    simp only [isClaimable, InternalCommand.isReady, Bool.and_eq_true, Bool.not_eq_true']
      at claimable
    obtain ⟨⟨⟨⟨⟨unprocessed, kept⟩, -⟩, -⟩, -⟩, -⟩ := claimable
    let held : CommandRow :=
      { row with claim := some (claimed.claim, now.offsetBy filter.lease) }
    have met : w'.store.met.row? claimed.command.id = some held := by
      rw [about, untaken, tables, own, row?_claim, if_pos rfl, here]
      rfl
    obtain ⟨row', found', records⟩ :=
      (recorded_iff fails met rfl fun _ => ⟨unprocessed, kept⟩).mpr unmistaken
    rw [about] at found'
    rw [retries] at records
    have spent : Spent policy n held := ⟨spent.attempts, spent.bounded, spent.given⟩
    exact ⟨row', found', spent.step kept records⟩

/-- Whatever others do to the tables before each call of a drain, and whatever its handlers stage:
    behind each failure that is reported is a round in which the command was dispatched. If the
    claim of the command stood when the attempt to commit it or to record the failure was made, the
    failure was recorded if and only if the commit was not refused for the claim of a mark that the
    handler had staged itself. So a command that always fails, and not for such a mark, is given up
    after as many dispatches as the policy allows, and at least one. -/
theorem failures_use_budget (r : Router Handling) (config : ProcessorConfig) (w : World Traffic) :
    (∀ report, ((processor r config).drain.run w).1 = .ok report →
      ∀ f ∈ report.failures, ∃ claimed asked w',
        (processor r config).FailsIn w claimed f asked w' ∧ f.commandId = claimed.command.id) ∧
    (∀ claimed f asked w' row runsOut, (processor r config).FailsIn w claimed f asked w' →
      w'.store.met.row? claimed.command.id = some row →
      row.claim = some (claimed.claim, runsOut) → CommandRow.Sound row →
      ((∃ row', w'.store.tables.row? claimed.command.id = some row' ∧
        row.Records config.retryPolicy f row') ↔ ¬ Mistaken r claimed asked w')) ∧
    ∀ id row n w', w.store.tables.row? id = some row → row.command.attempts = 0 →
      row.command.isDeadLettered = false → InVain config.retryPolicy id w n w' →
      ∃ row', w'.store.tables.row? id = some row' ∧ row'.command.attempts.toNat = n ∧
        n ≤ max 1 config.retryPolicy.maxAttempts.toNat ∧
        (row'.command.isDeadLettered = true ↔
          n = max 1 config.retryPolicy.maxAttempts.toNat) := by
  refine ⟨fun report reports => drain_failures _ w reports, ?_, ?_⟩
  · intro claimed f asked w' row runsOut fails found held sound
    cases fails with
    | round ceiled begins rounds claims fails => exact recorded_iff fails found held sound
  · intro id row n w' found attempts kept vain
    obtain ⟨row', found', spent⟩ := vain.spent found attempts kept
    exact ⟨row', found', spent.attempts, spent.bounded, spent.given⟩

/-! ### One attempt -/

/-- A command that is pending. -/
def pendingCommand : InternalCommand :=
  { InternalCommand.fresh ⟨.zero⟩ "Ping" .null .epoch with sequence := some 1 }

/-- Nothing else is stored, and the others leave the tables alone. -/
def onePending : World Traffic :=
  let tables : Tables := ⟨[⟨pendingCommand, none⟩], 1, [], []⟩
  ⟨⟨tables, fun _ t => t, 0, tables⟩, ⟨fun _ => .epoch, 0⟩, ⟨fun _ => .zero, 0⟩, [], []⟩

/-- A drain of one command, which may be tried once. -/
def oneAttempt : ProcessorConfig :=
  ⟨"one", .includeNewlyEnqueued, .fixed 1 .zero, .zero, 1⟩

/-- The drain has started, … -/
def started : World Traffic :=
  ((Service.report (.drainStarted oneAttempt.name oneAttempt.drainPolicy.describe none)).run
    onePending).2

/-- … and claimed the command. -/
def claimedOne : World Traffic :=
  ((store.claimNext ⟨[], none, .zero⟩).run started).2

/-- The claim. -/
def onlyClaim : ClaimedCommand :=
  ⟨pendingCommand, ⟨.zero⟩⟩

/-- The handler completes its command, but marks it under a claim that it does not have. -/
def marksAmiss : Router Handling :=
  ⟨[⟨"Ping", fun context _ => do
    let _ ← Handling.perform (.ask (.markProcessed context.commandId ⟨⟨1⟩⟩))
    pure (.ok .completed)⟩]⟩

theorem claims_onePending :
    (store.claimNext ⟨[], none, .zero⟩).run started = (.ok (some onlyClaim), claimedOne) :=
  rfl

theorem drain_oneAttempt {r : Router Handling} {report : DrainReport} {w' : World Traffic}
    (processes : ((processor r oneAttempt).process onlyClaim .empty).run claimedOne
      = (.ok report, w')) :
    ((processor r oneAttempt).drain.run onePending).1 = .ok { report with truncated := true } := by
  have loop : ((processor r oneAttempt).drainLoop none 1 [] .empty).run started
      = (.ok { report with truncated := true }, ((Service.report
          (.drainLimitReached oneAttempt.name oneAttempt.maxCommandsPerDrain)).run w').2) := by
    rw [drainLoop]
    exact (Service.run_bind claims_onePending).trans (Service.run_bind processes)
  have drain : ((processor r oneAttempt).drain.run onePending) = _ :=
    (Service.run_bind rfl).trans (Service.run_bind loop)
  rw [drain]
  rfl

/-- Where no handler is known, the one attempt is used up. -/
theorem failures_use_budget_oneAttempt :
    ∃ report f w' row row',
      ((processor ⟨[]⟩ oneAttempt).drain.run onePending).1 = .ok report ∧
      f ∈ report.failures ∧
      (∃ claimed asked w', (processor ⟨[]⟩ oneAttempt).FailsIn onePending claimed f asked w' ∧
        f.commandId = claimed.command.id) ∧
      w'.store.met.row? ⟨.zero⟩ = some row ∧ CommandRow.Sound row ∧
      w'.store.tables.row? ⟨.zero⟩ = some row' ∧ row.Records (.fixed 1 .zero) f row' ∧
      InVain (.fixed 1 .zero) ⟨.zero⟩ onePending 1 w' ∧
      ∃ row', w'.store.tables.row? ⟨.zero⟩ = some row' ∧ row'.command.attempts.toNat = 1 ∧
        row'.command.isDeadLettered = true := by
  obtain ⟨w', processes, met⟩ : ∃ w',
      ((processor ⟨[]⟩ oneAttempt).process onlyClaim .empty).run claimedOne
        = (.ok (DrainReport.empty.addFailure
            (failure onlyClaim 1 (DispatchError.unknownKind "Ping").message true)), w') ∧
      w'.store.met = claimedOne.store.tables :=
    ⟨_, run_process rfl rfl, rfl⟩
  have drain := drain_oneAttempt processes
  have mem := List.mem_singleton.mpr (Eq.refl
    (failure onlyClaim 1 (DispatchError.unknownKind "Ping").message true))
  have fails : (processor ⟨[]⟩ oneAttempt).FailsIn onePending onlyClaim _ claimedOne w' :=
    .round (.everything rfl) rfl .none rfl processes
  have found : w'.store.met.row? ⟨.zero⟩ = some ⟨pendingCommand, some (⟨.zero⟩, .epoch)⟩ := by
    rw [met]
    rfl
  have sound : CommandRow.Sound ⟨pendingCommand, some (⟨.zero⟩, .epoch)⟩ := fun _ => ⟨rfl, rfl⟩
  have unmarking : Router.Unmarking (⟨[]⟩ : Router Handling) := fun route mem => by cases mem
  have before : InVain (.fixed 1 .zero) ⟨.zero⟩ onePending 0 started := .meanwhile .none rfl
  have vain : InVain (.fixed 1 .zero) ⟨.zero⟩ onePending 1 w' :=
    .failed before rfl claims_onePending rfl (by decide) processes (not_mistaken unmarking) rfl
      (by rw [met])
  obtain ⟨dispatched, recorded, spent⟩ := failures_use_budget ⟨[]⟩ oneAttempt onePending
  obtain ⟨row', changed, records⟩ :=
    (recorded _ _ _ _ _ _ fails found rfl sound).mpr (not_mistaken unmarking)
  obtain ⟨last, here, attempts, -, given⟩ := spent _ _ _ _ rfl rfl rfl vain
  exact ⟨_, _, w', _, row', drain, mem, dispatched _ drain _ mem, found, sound, changed, records,
    vain, last, here, attempts, given.mpr rfl⟩

/-- The failure is reported, the claim stands throughout, and the command has lost nothing of its
    budget. -/
theorem failure_unrecorded :
    ∃ report f w' row runsOut,
      ((processor marksAmiss oneAttempt).drain.run onePending).1 = .ok report ∧
      f ∈ report.failures ∧
      (processor marksAmiss oneAttempt).FailsIn onePending onlyClaim f claimedOne w' ∧
      w'.store.met.row? f.commandId = some row ∧
      row.claim = some (onlyClaim.claim, runsOut) ∧ CommandRow.Sound row ∧
      w'.store.tables.row? f.commandId = some row ∧ row.command.attempts = 0 := by
  obtain ⟨w', processes, tables, met⟩ : ∃ w',
      ((processor marksAmiss oneAttempt).process onlyClaim .empty).run claimedOne
        = (.ok (DrainReport.empty.addFailure
            (failure onlyClaim 1 (StoreError.claimLost ⟨.zero⟩).message false)), w') ∧
      w'.store.tables = claimedOne.store.tables ∧ w'.store.met = claimedOne.store.tables :=
    ⟨_, run_process rfl rfl, rfl, rfl⟩
  refine ⟨_, _, w', ⟨pendingCommand, some (⟨.zero⟩, .epoch)⟩, .epoch, drain_oneAttempt processes,
    List.mem_singleton.mpr rfl, .round (.everything rfl) rfl .none rfl processes, ?_, rfl,
    fun _ => ⟨rfl, rfl⟩, ?_, rfl⟩
  · rw [met]
    rfl
  · rw [tables]
    rfl

end Traffic

end SupplierSwitch
