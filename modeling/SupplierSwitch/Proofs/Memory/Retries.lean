import SupplierSwitch.Proofs.Memory.Aggregates

namespace SupplierSwitch

/-!
# Retries

A command that fails is tried again, unless the policy under which the failure is recorded allows no
further attempt: then it is given up, and nobody is given it until it is revived. The count of its
failures does not go round, because whoever records one has a claim on the command, and what is
under a claim was not given up: a policy of 32 bits has allowed another attempt.

* `Memory.failures` — the failures of a command since it was enqueued or last revived, in a history;
* `InternalCommand.Follows` — the count of a command and whether it is given up, by its failures;
* `Memory.Run.follows` — in every history, if the command was enqueued as it should be;
* `Memory.retry_budget` — what follows for failures, claims and revivals.
-/

namespace InternalCommand

variable {c : InternalCommand} {policies : List RetryPolicy} {policy : RetryPolicy}

/-- The command is as its failures leave it, given the policies under which they were recorded: it
    has their number, and is given up if the last policy allowed no further attempt. -/
structure Follows (policies : List RetryPolicy) (c : InternalCommand) : Prop where
  attempts : c.attempts.toNat = policies.length
  given : c.isDeadLettered = policies.getLast?.any fun policy => !policy.shouldRetry c.attempts

theorem IsFresh.follows (h : c.IsFresh) (place : Option Nat) :
    Follows [] { c with sequence := place } := by
  rw [h]
  exact ⟨rfl, rfl⟩

theorem Follows.revived (c : InternalCommand) : Follows [] (Tables.revived c) :=
  ⟨rfl, rfl⟩

/-- A command that is not given up has not failed, or was allowed another attempt. -/
theorem Follows.allowed (h : c.Follows policies) (kept : c.isDeadLettered = false) :
    policies = [] ∨ ∃ policy ∈ policies, c.attempts < policy.maxAttempts := by
  have given := h.given
  rw [kept] at given
  cases last : policies.getLast? with
  | none => exact .inl (List.getLast?_eq_none_iff.mp last)
  | some policy =>
    rw [last] at given
    have allowed : c.attempts < policy.maxAttempts := by
      simpa [RetryPolicy.shouldRetry] using given.symm
    exact .inr ⟨policy, List.mem_of_getLast? last, allowed⟩

/-- There is room for another failure in the count. -/
theorem Follows.room (h : c.Follows policies) (kept : c.isDeadLettered = false) :
    (c.attempts + 1).toNat = c.attempts.toNat + 1 := by
  have small : c.attempts.toNat + 1 < 4294967296 := by
    obtain rfl | ⟨policy, -, allowed⟩ := h.allowed kept
    · have none : c.attempts.toNat = 0 := h.attempts
      omega
    · have below : c.attempts.toNat < policy.maxAttempts.toNat := UInt32.lt_iff_toNat_lt.mp allowed
      have bound := policy.maxAttempts.toNat_lt
      omega
  exact Tables.toNat_succ small

/-- The count after a failure. -/
theorem attempts_failed (c : InternalCommand) (error : String) (policy : RetryPolicy)
    (now : Timestamp) : (Tables.failed c error policy now).1.attempts = c.attempts + 1 := by
  simp only [Tables.failed]
  split <;> rfl

/-- A command that was not given up is given up by a failure after which the policy allows no
    further attempt. -/
theorem isDeadLettered_failed (kept : c.isDeadLettered = false) (error : String)
    (policy : RetryPolicy) (now : Timestamp) :
    (Tables.failed c error policy now).1.isDeadLettered
      = !policy.shouldRetry (c.attempts + 1) := by
  cases again : policy.shouldRetry (c.attempts + 1) with
  | true =>
    rw [Tables.failed_of_retry again]
    exact kept
  | false =>
    rw [Tables.failed_of_last again]
    rfl

/-- One more failure. -/
theorem Follows.failed (h : c.Follows policies) (kept : c.isDeadLettered = false) (error : String)
    (policy : RetryPolicy) (now : Timestamp) :
    Follows (policies ++ [policy]) (Tables.failed c error policy now).1 := by
  constructor
  · rw [attempts_failed, h.room kept, h.attempts, List.length_append]
    rfl
  · rw [isDeadLettered_failed kept, List.getLast?_concat, attempts_failed]
    rfl

end InternalCommand

namespace Memory

open Tables

variable {id : CommandId} {e : Event} {t t' : Tables} {s s' : Shared} {log : List Event}
  {policies : List RetryPolicy}

/-! ### The failures of a history -/

/-- The command is enqueued. -/
def Event.enqueues (id : CommandId) : Event → Bool
  | .committed _ c _ (.ok _) => decide (id ∈ c.commands.map (·.id))
  | _ => false

/-- The command is revived. -/
def Event.revives (id : CommandId) : Event → Bool
  | .retried other (.ok _) => decide (other = id)
  | _ => false

/-- The policy under which a failure of the command is recorded. -/
def Event.failure? (id : CommandId) : Event → Option RetryPolicy
  | .recorded other _ _ policy _ (.ok _) => if other = id then some policy else none
  | _ => none

/-- The failures after one more call. -/
def failuresAfter (id : CommandId) (policies : List RetryPolicy) (e : Event) : List RetryPolicy :=
  if e.enqueues id || e.revives id then [] else policies ++ (e.failure? id).toList

/-- The policies under which failures of the command were recorded since it was enqueued or last
    revived, in order. -/
def failures (id : CommandId) (log : List Event) : List RetryPolicy :=
  log.foldl (failuresAfter id) []

theorem failures_concat (id : CommandId) (log : List Event) (e : Event) :
    failures id (log ++ [e]) = failuresAfter id (failures id log) e :=
  List.foldl_append

/-- A call that is neither an enqueuing nor a revival nor a failure is not counted. -/
theorem failuresAfter_eq_self (old : e.enqueues id = false) (unrevived : e.revives id = false)
    (none : e.failure? id = none) (policies : List RetryPolicy) :
    failuresAfter id policies e = policies := by
  simp [failuresAfter, old, unrevived, none]

theorem failuresAfter_of_untouched (other : e.touches id = false) (policies : List RetryPolicy) :
    failuresAfter id policies e = policies := by
  cases e with
  | committed n c now result =>
    cases result with
    | error e => exact failuresAfter_eq_self rfl rfl rfl policies
    | ok u =>
      refine failuresAfter_eq_self ?_ rfl rfl policies
      exact (Bool.or_eq_false_iff.mp other).1
  | recorded other' token error policy now result =>
    cases result with
    | error e => exact failuresAfter_eq_self rfl rfl rfl policies
    | ok disposition =>
      refine failuresAfter_eq_self rfl rfl ?_ policies
      exact if_neg (of_decide_eq_false other)
  | retried other' result =>
    cases result with
    | error e => exact failuresAfter_eq_self rfl rfl rfl policies
    | ok command =>
      refine failuresAfter_eq_self rfl ?_ rfl policies
      exact other
  | _ => exact failuresAfter_eq_self rfl rfl rfl policies

/-- What is there already is not enqueued. -/
theorem Effect.missing_of_enqueues (h : Effect t e t') (enqueued : e.enqueues id = true) :
    t.row? id = none := by
  cases h with
  | committed done =>
    obtain ⟨admits, -⟩ := commit_ok_iff.mp done
    obtain ⟨command, mem, rfl⟩ := List.mem_map.mp (of_decide_eq_true enqueued)
    exact admits.commands command mem
  | _ => cases enqueued

/-! ### Enqueued as it should be -/

/-- If the call stages the command, it stages it fresh. -/
def Event.Schedules (id : CommandId) : Event → Prop
  | .asked _ (.stageCommand command) _ => command.id = id → command.IsFresh
  | _ => True

/-- What a unit has staged under the identifier was staged fresh. -/
theorem Run.isFresh (history : Run .empty log s) (scheduled : ∀ e ∈ log, e.Schedules id) {n : Nat}
    {c : ChangeSet} (isOpen : s.units n = some c) :
    ∀ command ∈ c.commands, command.id = id → command.IsFresh := by
  have all : (∀ e ∈ log, e.Schedules id) → ∀ n c, s.units n = some c →
      ∀ command ∈ c.commands, command.id = id → command.IsFresh := by
    refine Run.snoc_induction (P := fun log s => (∀ e ∈ log, e.Schedules id) →
      ∀ n c, s.units n = some c → ∀ command ∈ c.commands, command.id = id → command.IsFresh)
      (fun _ _ _ none => nomatch none) ?_ history
    intro log s e s' _ step ih scheduled n c isOpen command mem
    have earlier := ih fun e mem => scheduled e (List.mem_append_left _ mem)
    obtain ⟨-, rfl, -⟩ | ⟨call, answer, c₀, rfl, before, answered, -⟩ | ⟨same, -, -⟩ :=
      step.unit_cases isOpen
    · cases mem
    · -- What is staged now was staged before, or it is what the question asks to stage.
      obtain ⟨staged, -⟩ := answer_outbox s.tables c₀ call
      rw [answered] at staged
      obtain same | ⟨new, rfl, more⟩ := staged
      · exact earlier n c₀ before command (same ▸ mem)
      · obtain old | last := List.mem_append.mp (more ▸ mem)
        · exact earlier n c₀ before command old
        · rw [List.mem_singleton.mp last]
          exact scheduled _ (List.mem_append_right _ (List.mem_singleton_self _))
    · exact earlier n c same command mem
  exact all scheduled n c isOpen

/-! ### The count of a command -/

/-- Whatever happens to a row, its command is as its failures leave it. -/
theorem RowStep.follows {r r' : Option CommandRow} (h : RowStep id e r r')
    (follows : ∀ row, r = some row → row.command.Follows policies)
    (sound : ∀ row, r = some row → CommandRow.Sound row)
    (missing : e.enqueues id = true → r = none)
    (fresh : ∀ n c now result, e = .committed n c now result → ∀ command ∈ c.commands,
      command.id = id → command.IsFresh) :
    ∀ row, r' = some row → row.command.Follows (failuresAfter id policies e) := by
  cases h with
  | untouched other =>
    rw [failuresAfter_of_untouched other]
    exact follows
  | @inserted n c now command place staged same unmarked =>
    rintro _ ⟨⟩
    have enqueued : decide (id ∈ c.commands.map (·.id)) = true :=
      decide_eq_true (List.mem_map.mpr ⟨command, staged, same⟩)
    simp only [failuresAfter, Event.enqueues, enqueued, Bool.true_or, if_true]
    exact (fresh _ _ _ _ rfl command staged same).follows _
  | @processed n c now runsOut row token mark pending held =>
    rintro _ ⟨⟩
    have old : Event.enqueues id (.committed n c now (.ok ())) = false := by
      rw [Bool.eq_false_iff]
      intro enqueued
      cases missing enqueued
    rw [failuresAfter_eq_self old rfl rfl]
    exact ⟨(follows row rfl).attempts, (follows row rfl).given⟩
  | @claimed filter now row token same claimable =>
    rintro _ ⟨⟩
    rw [failuresAfter_eq_self rfl rfl rfl]
    exact follows row rfl
  | @failed token error policy now runsOut row held =>
    rintro _ ⟨⟩
    simp only [failuresAfter, Event.enqueues, Event.revives, Event.failure?, Bool.or_self,
      Bool.false_eq_true, if_false, if_true, Option.toList_some]
    -- Only what is not given up is under a claim, and so has room for the failure.
    have kept := (sound row rfl (by rw [held]; rfl)).2
    exact (follows row rfl).failed kept error policy now
  | @revived row given =>
    rintro _ ⟨⟩
    simp only [failuresAfter, Event.enqueues, Event.revives, decide_true, Bool.or_true, if_true]
    exact .revived row.command

/-- In every history, a command that was enqueued as it should be is as its failures leave it. -/
theorem Run.follows (history : Run .empty log s) (scheduled : ∀ e ∈ log, e.Schedules id)
    {row : CommandRow} (found : s.tables.row? id = some row) :
    row.command.Follows (failures id log) := by
  have all : (∀ e ∈ log, e.Schedules id) → ∀ row, s.tables.row? id = some row →
      row.command.Follows (failures id log) := by
    refine Run.snoc_induction (P := fun log s => (∀ e ∈ log, e.Schedules id) →
      ∀ row, s.tables.row? id = some row → row.command.Follows (failures id log))
      (fun _ _ none => nomatch none) ?_ history
    intro log s e s' history step ih scheduled
    have earlier := fun e mem => scheduled e (List.mem_append_left _ mem)
    have reached : Reached s := ⟨log, history⟩
    rw [failures_concat]
    refine (reached.rowStep step id).follows (ih earlier) (fun _ => reached.sound)
      step.effect.missing_of_enqueues ?_
    rintro n c now result rfl
    exact history.isFresh earlier step.isOpen
  exact all scheduled row found

/-- A failure, once recorded: the row before and after it. -/
theorem RowStep.of_recorded {r r' : Option CommandRow} {token : ClaimToken} {error : String}
    {policy : RetryPolicy} {now : Timestamp} {disposition : FailureDisposition}
    (h : RowStep id (.recorded id token error policy now (.ok disposition)) r r') :
    ∃ row runsOut, r = some row ∧ row.claim = some (token, runsOut) ∧
      disposition = (Tables.failed row.command error policy now).2 ∧
      r' = some ⟨(Tables.failed row.command error policy now).1, none⟩ := by
  cases h with
  | untouched other => simp [Event.touches] at other
  | failed held => exact ⟨_, _, rfl, held, rfl, rfl⟩

/-- A command that is handed out is due. -/
theorem RowStep.due_of_claimed {row : CommandRow} {r' : Option CommandRow} {filter : ClaimFilter}
    {now instant : Timestamp} {handed : ClaimedCommand}
    (h : RowStep id (.claimed filter now (.ok (some handed))) (some row) r')
    (same : handed.command.id = id) (scheduled : row.command.notBefore = some instant) :
    instant ≤ now := by
  cases h with
  | untouched other => simp [Event.touches, same] at other
  | claimed _ claimable =>
    simp only [isClaimable, InternalCommand.isReady, scheduled, Bool.and_eq_true] at claimable
    exact of_decide_eq_true claimable.1.1.1.2

/-- A command that is given up is left alone, unless it is revived. -/
theorem RowStep.given {row : CommandRow} {r' : Option CommandRow} (h : RowStep id e (some row) r')
    (sound : CommandRow.Sound row) (given : row.command.isDeadLettered = true)
    (unrevived : e.revives id = false) : r' = some row ∧ e.handsOut id = false := by
  have unclaimed {held : ClaimToken × Timestamp} (claim : row.claim = some held) : False := by
    have kept := (sound (by rw [claim]; rfl)).2
    rw [given] at kept
    cases kept
  cases h with
  | untouched other =>
    refine ⟨rfl, Bool.eq_false_iff.mpr fun handed => ?_⟩
    rw [Event.touches_of_handsOut handed] at other
    cases other
  | processed mark pending held => exact (unclaimed held).elim
  | claimed same claimable => simp [isClaimable, InternalCommand.isReady, given] at claimable
  | failed held => exact (unclaimed held).elim
  | revived given => simp [Event.revives] at unrevived

theorem Run.given (h : Run s log s') (reached : Reached s) {row : CommandRow}
    (found : s.tables.row? id = some row) (given : row.command.isDeadLettered = true)
    (unrevived : ∀ e ∈ log, e.revives id = false) :
    s'.tables.row? id = some row ∧ ∀ e ∈ log, e.handsOut id = false := by
  induction h with
  | nil => exact ⟨found, by simp⟩
  | cons step rest ih =>
    obtain ⟨first, later⟩ := List.forall_mem_cons.mp unrevived
    have next := reached.rowStep step id
    rw [found] at next
    obtain ⟨same, unhanded⟩ := next.given (reached.sound found) given first
    obtain ⟨kept, others⟩ := ih (reached.step step) same later
    exact ⟨kept, List.forall_mem_cons.mpr ⟨unhanded, others⟩⟩

/-- Whatever any number of clients do, under whatever policies: a command that is enqueued as it
    should be counts its failures since then, or since it was last revived, and the count does not
    go round. A failure gives it up exactly if the policy allows no further attempt, which under one
    policy is the last failure that this allows, and at least the first. From then on nobody is
    given the command unless it is revived; and nobody is given it before it is due. -/
theorem retry_budget (history : Run .empty log s) (scheduled : ∀ e ∈ log, e.Schedules id) :
    (∀ row, s.tables.row? id = some row →
      row.command.attempts.toNat = (failures id log).length) ∧
    (∀ token error policy now disposition s',
      Step s (.recorded id token error policy now (.ok disposition)) s' →
      ∃ row row', s.tables.row? id = some row ∧ s'.tables.row? id = some row' ∧
        row'.command.attempts.toNat = row.command.attempts.toNat + 1 ∧
        (row'.command.isDeadLettered = true ↔ policy.maxAttempts ≤ row'.command.attempts) ∧
        ((∀ other ∈ failures id log, other = policy) →
          (row'.command.isDeadLettered = true ↔
            row'.command.attempts.toNat = max 1 policy.maxAttempts.toNat))) ∧
    (∀ row, s.tables.row? id = some row → row.command.isDeadLettered = true →
      ∀ later s', Run s later s' → (∀ e ∈ later, e.revives id = false) →
        ∀ e ∈ later, e.handsOut id = false) ∧
    ∀ row instant, s.tables.row? id = some row → row.command.notBefore = some instant →
      ∀ filter now handed s', Step s (.claimed filter now (.ok (some handed))) s' →
        handed.command.id = id → instant ≤ now := by
  have reached : Reached s := ⟨log, history⟩
  refine ⟨fun row found => (history.follows scheduled found).attempts, ?_, ?_, ?_⟩
  · intro token error policy now disposition s' step
    obtain ⟨row, runsOut, found, held, -, found'⟩ := (reached.rowStep step id).of_recorded
    have follows := history.follows scheduled found
    have kept := (reached.sound found (by rw [held]; rfl)).2
    have counted : (failed row.command error policy now).1.attempts.toNat
        = row.command.attempts.toNat + 1 := by
      rw [InternalCommand.attempts_failed, follows.room kept]
    have given : (failed row.command error policy now).1.isDeadLettered = true
        ↔ policy.maxAttempts ≤ (failed row.command error policy now).1.attempts := by
      rw [InternalCommand.isDeadLettered_failed kept, InternalCommand.attempts_failed,
        RetryPolicy.shouldRetry]
      simp
    refine ⟨row, _, found, found', counted, given, fun one => given.trans ?_⟩
    -- Under one policy, all failures before this one were allowed another attempt by it.
    have before : row.command.attempts.toNat = 0 ∨
        row.command.attempts.toNat < policy.maxAttempts.toNat := by
      obtain none | ⟨other, mem, allowed⟩ := follows.allowed kept
      · left
        rw [follows.attempts, none]
        rfl
      · right
        rw [one other mem] at allowed
        exact UInt32.lt_iff_toNat_lt.mp allowed
    rw [UInt32.le_iff_toNat_le, counted]
    omega
  · intro row found given later s' run unrevived
    exact (run.given reached found given unrevived).2
  · intro row instant found due filter now handed s' step same
    have next := reached.rowStep step id
    rw [found] at next
    exact next.due_of_claimed same due

/-- A command is enqueued and handed out. -/
def firstAttempt : List Event :=
  let command := InternalCommand.fresh ⟨.zero⟩ "Ping" .null .epoch
  [.began 0, .asked 0 (.stageCommand command) (.ok ()),
    .committed 0 ⟨[command], [], [], []⟩ .epoch (.ok ()),
    .claimed ⟨[], none, .zero⟩ .epoch (.ok (some ⟨{ command with sequence := some 1 }, ⟨.zero⟩⟩))]

/-- The attempt fails, and it is the only one that is allowed. -/
def onlyFailure : Event :=
  .recorded ⟨.zero⟩ ⟨.zero⟩ "failed" (.fixed 1 .zero) .epoch (.ok (.deadLettered 1))

theorem run_onlyFailure : ∃ s, Run .empty (firstAttempt ++ [onlyFailure]) s := by
  let row : CommandRow :=
    ⟨{ InternalCommand.fresh ⟨.zero⟩ "Ping" .null .epoch with sequence := some 1 }, none⟩
  refine exists_run_cons (step_begin rfl) ?_
  refine exists_run_cons (step_ask (c := .empty) rfl _) ?_
  refine exists_run_cons (.commit rfl (yields_commit.mpr (.inl ⟨rfl, rfl⟩))) ?_
  refine exists_run_cons (.claim (yields_claimNext.mpr (.inr ⟨row, _, rfl, rfl, rfl⟩))) ?_
  refine exists_run_cons (@Step.record _ _ _ _ _ _ .epoch _ _
    (yields_change.mpr (.inl ⟨_, rfl, rfl⟩))) ?_
  exact ⟨_, .nil _⟩

theorem schedules_all (id : CommandId) : ∀ e ∈ firstAttempt ++ [onlyFailure], e.Schedules id := by
  intro e mem
  simp only [firstAttempt, List.cons_append, List.nil_append, List.mem_cons, List.not_mem_nil,
    or_false] at mem
  obtain rfl | rfl | rfl | rfl | rfl := mem
  · trivial
  · exact fun _ => rfl
  · trivial
  · trivial
  · trivial

theorem schedules_onlyFailure : ∀ e ∈ firstAttempt ++ [onlyFailure], e.Schedules ⟨.zero⟩ :=
  schedules_all ⟨.zero⟩

theorem retry_budget_onlyFailure :
    ∃ s, Run .empty (firstAttempt ++ [onlyFailure]) s ∧ ∃ row, s.tables.row? ⟨.zero⟩ = some row ∧
      row.command.attempts.toNat = 1 ∧ row.command.isDeadLettered = true ∧
      ∀ later s', Run s later s' → (∀ e ∈ later, e.revives ⟨.zero⟩ = false) →
        ∀ e ∈ later, e.handsOut ⟨.zero⟩ = false := by
  obtain ⟨s, history⟩ := run_onlyFailure
  obtain ⟨m, first, last⟩ := run_append.mp history
  obtain _ | ⟨step, _ | _⟩ := last
  have scheduled : ∀ e ∈ firstAttempt, e.Schedules ⟨.zero⟩ :=
    fun e mem => schedules_onlyFailure e (List.mem_append_left _ mem)
  obtain ⟨-, failing, -⟩ := retry_budget first scheduled
  obtain ⟨count, -, givenUp, -⟩ := retry_budget history schedules_onlyFailure
  obtain ⟨_, row, -, found, -, -, lastOne⟩ := failing _ _ _ _ _ _ step
  have one : row.command.attempts.toNat = 1 := count row found
  have given : row.command.isDeadLettered = true := (lastOne nofun).mpr one
  exact ⟨s, history, row, found, one, given, givenUp row found given⟩

end Memory

end SupplierSwitch
