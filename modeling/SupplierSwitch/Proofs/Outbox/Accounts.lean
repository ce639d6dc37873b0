import SupplierSwitch.Proofs.Outbox.Rounds

namespace SupplierSwitch

/-!
# What a drain accounts for

Whatever the store answers and whatever the handlers do, each command that is claimed is counted
once: as completed, as rejected or as failed. So the counts of the report are those of the calls
that were made, and the limit of a drain bounds these calls.

* `DrainReport.Counts` — one more entry in a report, and `Processor.process_counts`;
* `DrainReport.Accounts` — what the counts of a report say of the commands that were claimed;
* `Processor.drainLoop_counts` — the loop may look at the counts to see how far it is;
* `Processor.drain_accounts` — the calls and the report of every drain.
-/

variable {σ υ α : Type}

/-! ### One entry after another -/

/-- The report has one more entry, about the claimed command. -/
inductive DrainReport.Counts (claimed : ClaimedCommand) (report : DrainReport) :
    DrainReport → Prop where
  | outcome (outcome : CommandOutcome) : Counts claimed report (report.addOutcome outcome)
  | failure (f : CommandFailure) (id : f.commandId = claimed.command.id)
      (kind : f.kind = claimed.command.kind) : Counts claimed report (report.addFailure f)

/-- The report accounts for the commands, and each of them is counted once. -/
structure DrainReport.Accounts (report : DrainReport) (dispatched : List ClaimedCommand) :
    Prop where
  outcomes : report.processed = report.completed + report.rejected
  deadLettered : report.deadLettered = report.failures.countP (·.deadLettered)
  attempted : report.processed + report.failures.length = dispatched.length
  /-- The failures are those of some of the commands, in the order of the commands. -/
  failures : (report.failures.map fun f => (f.commandId, f.kind)).Sublist
    (dispatched.map fun claimed => (claimed.command.id, claimed.command.kind))

namespace DrainReport

variable {report report' : DrainReport} {claimed : ClaimedCommand}
  {dispatched : List ClaimedCommand}

theorem Counts.attempted (h : report.Counts claimed report') :
    report'.attempted = report.attempted + 1 := by
  cases h with
  | outcome outcome => cases outcome <;> exact Nat.add_right_comm ..
  | failure f => simp [DrainReport.attempted, addFailure, Nat.add_assoc]

theorem Counts.truncated (h : report.Counts claimed report') :
    report'.truncated = report.truncated := by
  cases h with
  | outcome outcome => cases outcome <;> rfl
  | failure f => rfl

/-- Failures are added, never taken away. -/
theorem Counts.failures (h : report.Counts claimed report') :
    ∀ f ∈ report.failures, f ∈ report'.failures := by
  intro f mem
  cases h with
  | outcome outcome => cases outcome <;> exact mem
  | failure g => exact List.mem_append_left _ mem

theorem Accounts.empty : DrainReport.empty.Accounts [] :=
  ⟨rfl, rfl, rfl, List.Sublist.refl _⟩

theorem Accounts.counted (h : report.Accounts dispatched) (counts : report.Counts claimed report') :
    report'.Accounts (dispatched ++ [claimed]) := by
  obtain ⟨outcomes, deadLettered, attempted, failures⟩ := h
  have one := counts.attempted
  simp only [DrainReport.attempted] at one
  have attempted' : report'.processed + report'.failures.length
      = (dispatched ++ [claimed]).length := by
    rw [List.length_append, ← attempted]
    exact one
  cases counts with
  | outcome outcome =>
    have skipped := failures.trans (List.sublist_append_left _
      ([claimed].map fun claimed => (claimed.command.id, claimed.command.kind)))
    rw [← List.map_append] at skipped
    cases outcome with
    | completed => exact ⟨by simp [addOutcome]; omega, deadLettered, attempted', skipped⟩
    | rejected codes => exact ⟨by simp [addOutcome]; omega, deadLettered, attempted', skipped⟩
  | failure f id kind =>
    refine ⟨outcomes, ?_, attempted', ?_⟩
    · show (if f.deadLettered then report.deadLettered + 1 else report.deadLettered) = _
      rw [addFailure, List.countP_append, List.countP_singleton, deadLettered]
      split <;> rfl
    · rw [addFailure, List.map_append, List.map_append]
      refine failures.append ?_
      simp [id, kind]

end DrainReport

namespace Processor

variable {p : Processor σ υ} {ceiling : Option Nat} {start w w' : World σ}
  {calls all : List ClaimCall} {claimed : ClaimedCommand} {report report' : DrainReport}
  {result : Except StoreError DrainReport}

/-- Work that counts the command in the report, or fails. -/
def Counting (claimed : ClaimedCommand) (report : DrainReport)
    (work : Service σ (Except StoreError DrainReport)) : Prop :=
  ∀ w report', (work.run w).1 = .ok report' → report.Counts claimed report'

namespace Counting

theorem bind {work : Service σ α} {next : α → Service σ (Except StoreError DrainReport)}
    (h : ∀ a, Counting claimed report (next a)) : Counting claimed report (work >>= next) :=
  fun w => h (work.run w).1 (work.run w).2

theorem inSpan {work : Service σ (Except StoreError DrainReport)} (span : Span)
    (h : Counting claimed report work) : Counting claimed report (Service.inSpan span work) :=
  fun w => h { w with spans := span :: w.spans }

theorem error (e : StoreError) :
    Counting claimed report (pure (.error e) : Service σ (Except StoreError DrainReport)) := by
  intro w report' h
  cases h

theorem outcome (outcome : CommandOutcome) :
    Counting claimed report
      (pure (.ok (report.addOutcome outcome)) : Service σ (Except StoreError DrainReport)) := by
  intro w report' h
  cases h
  exact .outcome outcome

theorem failure (attempt : UInt32) (error : String) (deadLettered : Bool) :
    Counting claimed report
      (pure (.ok (report.addFailure
        ⟨claimed.command.id, claimed.command.kind, attempt, error, deadLettered⟩)) :
        Service σ (Except StoreError DrainReport)) := by
  intro w report' h
  cases h
  exact .failure _ rfl rfl

end Counting

theorem fail_counts (p : Processor σ υ) (error : String) (now : Timestamp) :
    Counting claimed report (p.fail claimed error now report) := by
  refine .bind fun recorded => ?_
  obtain e | ⟨attempts, notBefore⟩ | attempts := recorded
  · dsimp only
    split
    · exact .bind fun _ => .failure _ _ _
    · exact .bind fun _ => .error e
  · exact .bind fun _ => .failure _ _ _
  · exact .bind fun _ => .failure _ _ _

theorem conclude_counts (p : Processor σ υ) (now : Timestamp)
    (dispatched : Except DispatchError CommandOutcome) (unit : υ) :
    Counting claimed report (p.conclude claimed now report dispatched unit) := by
  cases dispatched with
  | error e =>
    simp only [conclude]
    split
    · exact .bind fun _ => .error _
    · exact p.fail_counts _ _
  | ok outcome =>
    refine .bind fun committed => ?_
    split
    · cases outcome with
      | completed => exact .bind fun _ => .outcome _
      | rejected codes => exact .bind fun _ => .outcome _
    · exact .bind fun _ => .failure _ _ _
    · split
      · exact p.fail_counts _ _
      · exact .bind fun _ => .error _

/-- A command that was processed is counted once, unless the store fails. -/
theorem process_counts (p : Processor σ υ) (claimed : ClaimedCommand) (report : DrainReport) :
    Counting claimed report (p.process claimed report) := by
  refine .inSpan _ (.bind fun now => .bind fun opened => ?_)
  cases opened with
  | error e => exact .error e
  | ok unit => exact .bind fun r => p.conclude_counts now r.1 r.2

/-! ### The rounds of a drain -/

/-- Each call asks for what is to be asked for after the calls before it. -/
def AskedInTurn (p : Processor σ υ) (ceiling : Option Nat) (calls : List ClaimCall) : Prop :=
  ∀ before call, before ++ [call] <+: calls → call.filter = p.filterAfter ceiling before

theorem AskedInTurn.call (h : p.AskedInTurn ceiling calls)
    (answer : Except StoreError (Option ClaimedCommand)) :
    p.AskedInTurn ceiling (calls ++ [⟨p.filterAfter ceiling calls, answer⟩]) := by
  intro before call first
  rcases List.prefix_concat_iff.mp first with same | earlier
  · obtain ⟨rfl, rfl⟩ := List.append_singleton_inj.mp same
    rfl
  · exact h before call earlier

theorem Rounds.askedInTurn (rounds : p.Rounds ceiling start calls report w) :
    p.AskedInTurn ceiling calls := by
  induction rounds with
  | none =>
    intro before call first
    simp at first
  | more before claims processes ih => exact ih.call _

theorem Rounds.accounts (rounds : p.Rounds ceiling start calls report w) :
    report.Accounts (claimedIn calls) := by
  induction rounds with
  | none => exact .empty
  | more before claims processes ih =>
    rw [claimedIn_claimed]
    exact ih.counted (p.process_counts _ _ _ _ (by rw [processes]))

/-- In each round a command is claimed. -/
theorem Rounds.length_claimedIn (rounds : p.Rounds ceiling start calls report w) :
    (claimedIn calls).length = calls.length := by
  induction rounds with
  | none => rfl
  | more before claims processes ih => simp [ih]

theorem Rounds.untruncated (rounds : p.Rounds ceiling start calls report w) :
    report.truncated = false := by
  induction rounds with
  | none => rfl
  | more before claims processes ih =>
    rw [(p.process_counts _ _ _ _ (by rw [processes])).truncated, ih]

/-! ### The end of a drain -/

theorem Ends.askedInTurn (ends : p.Ends ceiling calls report w result all w')
    (inTurn : p.AskedInTurn ceiling calls) : p.AskedInTurn ceiling all := by
  cases ends with
  | full => exact inTurn
  | idle | claimFailed | processFailed => exact inTurn.call _

theorem Ends.length_le (ends : p.Ends ceiling calls report w result all w') :
    all.length ≤ p.config.maxCommandsPerDrain := by
  cases ends with
  | full full => exact Nat.le_of_eq full
  | idle room | claimFailed room | processFailed room =>
    rw [List.length_append]
    exact room

/-- A drain that ends with a report has claimed what the report accounts for, and is truncated just
    if that is as much as one drain may claim. -/
theorem Ends.accounts (ends : p.Ends ceiling calls report w (.ok report') all w')
    (accounts : report.Accounts (claimedIn calls)) (untruncated : report.truncated = false)
    (length : (claimedIn calls).length = calls.length) :
    report'.Accounts (claimedIn all) ∧
      (report'.truncated = true ↔ (claimedIn all).length = p.config.maxCommandsPerDrain) := by
  cases ends with
  | full full => exact ⟨⟨accounts.1, accounts.2, accounts.3, accounts.4⟩, by simp [length, full]⟩
  | idle room =>
    rw [claimedIn_idle, untruncated, length]
    exact ⟨accounts, by simp [Nat.ne_of_lt room]⟩

/-- One turn of the loop, and then as it is told to go on. -/
def turn (p : Processor σ υ) (ceiling : Option Nat) (visited : List CommandId)
    (report : DrainReport)
    (goOn : ClaimedCommand → DrainReport → Service σ (Except StoreError DrainReport)) :
    Service σ (Except StoreError DrainReport) := do
  match ← p.store.claimNext ⟨visited, ceiling, p.config.claimLease⟩ with
  | .error e =>
    Service.report (.claimFailed p.config.name e.message)
    pure (.error e)
  | .ok none => pure (.ok report)
  | .ok (some claimed) =>
    match ← p.process claimed report with
    | .error e => pure (.error e)
    | .ok report => goOn claimed report

/-- The loop may go by the counts of the report: it has come to its limit when the report has as
    many entries as a drain may have, and what remains is what these leave. -/
theorem drainLoop_counts (p : Processor σ υ) (ceiling : Option Nat) {remaining : Nat}
    (visited : List CommandId)
    (left : report.attempted + remaining = p.config.maxCommandsPerDrain) :
    p.drainLoop ceiling remaining visited report
      = if p.config.maxCommandsPerDrain ≤ report.attempted then do
          Service.report (.drainLimitReached p.config.name p.config.maxCommandsPerDrain)
          pure (.ok { report with truncated := true })
        else
          p.turn ceiling visited report fun claimed report =>
            p.drainLoop ceiling (p.config.maxCommandsPerDrain - report.attempted)
              (visited.insert claimed.command.id) report := by
  cases remaining with
  | zero => rw [if_pos (by omega), drainLoop]
  | succ remaining =>
    rw [if_neg (by omega), drainLoop, turn]
    refine bind_congr fun answer => ?_
    obtain e | _ | claimed := answer
    · rfl
    · rfl
    · funext w
      rcases processes : (p.process claimed report).run w with ⟨processed, w'⟩
      refine (Service.run_bind processes).trans (Eq.trans ?_ (Service.run_bind processes).symm)
      cases processed with
      | error e => rfl
      | ok report' =>
        have counts := p.process_counts claimed report w report' (by rw [processes])
        have one := counts.attempted
        have remains : p.config.maxCommandsPerDrain - report'.attempted = remaining := by omega
        dsimp only
        rw [remains]

/-- A drain calls for a command at most as often as its limit says, each time for one that it has
    not claimed before and up to the same place; and if it ends with a report, the report accounts
    for the commands that were claimed. -/
theorem drain_accounts (p : Processor σ υ) (w : World σ) :
    ∃ calls,
      p.watched.drain.run (w.beside []) = ((p.drain.run w).1, (p.drain.run w).2.beside calls) ∧
      calls.length ≤ p.config.maxCommandsPerDrain ∧
      (∃ ceiling, ∀ before call, before ++ [call] <+: calls →
        call.filter.upToSequence = ceiling ∧
        ∀ id, id ∈ call.filter.exclude
          ↔ ∃ claimed ∈ claimedIn before, claimed.command.id = id) ∧
      ∀ report, (p.drain.run w).1 = .ok report →
        report.Accounts (claimedIn calls) ∧
        (claimedIn calls).length ≤ p.config.maxCommandsPerDrain ∧
        ((report.truncated = true ↔ (claimedIn calls).length = p.config.maxCommandsPerDrain) ∨
          p.config.drainPolicy = .snapshotAtStart ∧ (p.store.highWaterMark.run w).1 = .ok none ∧
            report = .empty ∧ calls = []) := by
  obtain ⟨result, all, done, drains, alone, watched⟩ := p.drain_rounds w
  refine ⟨all, by rw [watched, alone], ?_⟩
  have inTurn_ceiling {ceiling : Option Nat} (inTurn : p.AskedInTurn ceiling all) :
      ∃ ceiling, ∀ before call, before ++ [call] <+: all → call.filter.upToSequence = ceiling ∧
        ∀ id, id ∈ call.filter.exclude
          ↔ ∃ claimed ∈ claimedIn before, claimed.command.id = id := by
    refine ⟨ceiling, fun before call first => ?_⟩
    rw [inTurn before call first]
    exact ⟨rfl, fun id => mem_visitedBy⟩
  have noCall : p.AskedInTurn none [] := by
    intro before call first
    simp at first
  rw [alone]
  cases drains with
  | unmarked policy marks => exact ⟨Nat.zero_le _, inTurn_ceiling noCall, nofun⟩
  | nothing policy marks =>
    refine ⟨Nat.zero_le _, inTurn_ceiling noCall, fun report same => ?_⟩
    cases same
    exact ⟨.empty, Nat.zero_le _, .inr ⟨policy, by rw [marks], rfl, rfl⟩⟩
  | rounds ceiled begins rounds ends closes =>
    refine ⟨ends.length_le, inTurn_ceiling (ends.askedInTurn rounds.askedInTurn),
      fun report same => ?_⟩
    cases same
    obtain ⟨accounts, truncated⟩ := ends.accounts rounds.accounts rounds.untruncated
      rounds.length_claimedIn
    have bound := ends.length_le
    exact ⟨accounts, Nat.le_trans (List.length_filterMap_le _ _) bound, .inl truncated⟩

end Processor

end SupplierSwitch
