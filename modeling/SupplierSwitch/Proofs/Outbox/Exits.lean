import SupplierSwitch.Proofs.Outbox.Accounts

namespace SupplierSwitch

/-!
# The exits of a dispatch

A command that was claimed leaves the processor by one of a few exits: it is committed, its failure
is recorded or cannot be, its claim is lost, or the store fails. Whatever the store is, these are
all there are, each with the calls that are made on the way to it.

* `World.Alike` — worlds that differ in their journals and spans only;
* `Processor.Fails` — the ways out of recording a failure;
* `Processor.Concludes` — the ways out once the handler has answered;
* `Processor.process_cases` — what is known of the processing of a command;
* `Processor.FailsIn`, `Processor.drain_failures` — the rounds behind the failures in a report.
-/

variable {σ υ α : Type}

/-- The worlds differ in their journals and spans only. -/
structure World.Alike (w w' : World σ) : Prop where
  store : w'.store = w.store
  clock : w'.clock = w.clock
  ids : w'.ids = w.ids

namespace World.Alike

variable {w w' w'' : World σ}

theorem trans (h : w.Alike w') (h' : w'.Alike w'') : w.Alike w'' :=
  ⟨h'.store.trans h.store, h'.clock.trans h.clock, h'.ids.trans h.ids⟩

theorem report (notice : Notice) (w : World σ) :
    w.Alike ((Service.report notice).run w).2 :=
  ⟨rfl, rfl, rfl⟩

end World.Alike

/-- Handlers that are programs are run in the unit of their dispatch. -/
theorem Router.dispatch_runIn (store : CommandStore σ υ) (r : Router Handling)
    (command : InternalCommand) (now : Timestamp) :
    (r.interpret store.runIn).dispatch command now = store.runIn (r.dispatch command now) :=
  dispatch_interpret _ _ (fun _ => rfl) _ _

namespace FailureDisposition

/-- The failures of the command, this one included. -/
def attempts : FailureDisposition → UInt32
  | retry attempts _ | deadLettered attempts => attempts

/-- The command is given up. -/
def isDeadLettered : FailureDisposition → Bool
  | retry _ _ => false
  | deadLettered _ => true

end FailureDisposition

namespace Processor

variable (p : Processor σ υ) (claimed : ClaimedCommand)

/-- The failure of a claimed command, as it is reported. -/
def failure (claimed : ClaimedCommand) (attempt : UInt32) (error : String) (deadLettered : Bool) :
    CommandFailure :=
  ⟨claimed.command.id, claimed.command.kind, attempt, error, deadLettered⟩

/-- The attempt to record a failure, as it is made in a world: its result, and the world after
    it. -/
inductive Fails (error : String) (now : Timestamp) (report : DrainReport) (w : World σ) :
    Except StoreError DrainReport → World σ → Prop where
  | recorded {disposition : FailureDisposition} {w₁ w' : World σ}
      (records : (p.store.recordFailure claimed.command.id claimed.claim error
        p.config.retryPolicy now).run w = (.ok disposition, w₁)) (alike : w₁.Alike w') :
      Fails error now report w (.ok (report.addFailure
        (failure claimed disposition.attempts error disposition.isDeadLettered))) w'
  | unrecorded {e : StoreError} {w₁ w' : World σ}
      (records : (p.store.recordFailure claimed.command.id claimed.claim error
        p.config.retryPolicy now).run w = (.error e, w₁)) (own : e.isCommandLocal = true)
      (alike : w₁.Alike w') :
      Fails error now report w (.ok (report.addFailure
        (failure claimed (claimed.command.attempts + 1) error false))) w'
  | storage {e : StoreError} {w₁ w' : World σ}
      (records : (p.store.recordFailure claimed.command.id claimed.claim error
        p.config.retryPolicy now).run w = (.error e, w₁)) (broken : e.isCommandLocal = false)
      (alike : w₁.Alike w') : Fails error now report w (.error e) w'

/-- What follows when the handler has answered and left its unit behind: the result, and the world
    after it. -/
inductive Concludes (now : Timestamp) (report : DrainReport)
    (dispatched : Except DispatchError CommandOutcome) (unit : υ) (w : World σ) :
    Except StoreError DrainReport → World σ → Prop where
  /-- The handler could not go on for want of the store. -/
  | handlerStorage {e : DispatchError} {storage : StoreError} {w' : World σ}
      (failed : dispatched = .error e) (broken : storageFailure e = some storage)
      (alike : w.Alike w') : Concludes now report dispatched unit w (.error storage) w'
  /-- The handler has failed, or there is none, or it could not read its command. -/
  | handlerFailed {e : DispatchError} {result : Except StoreError DrainReport} {w' : World σ}
      (failed : dispatched = .error e) (own : storageFailure e = none)
      (fails : p.Fails claimed e.message now report w result w') :
      Concludes now report dispatched unit w result w'
  | committed {outcome : CommandOutcome} {w₁ w' : World σ} (handled : dispatched = .ok outcome)
      (completes : (p.complete claimed unit).run w = (.ok (), w₁)) (alike : w₁.Alike w') :
      Concludes now report dispatched unit w (.ok (report.addOutcome outcome)) w'
  /-- Some claim was lost. It is taken for the one on the command. -/
  | lost {outcome : CommandOutcome} {id : CommandId} {w₁ w' : World σ}
      (handled : dispatched = .ok outcome)
      (completes : (p.complete claimed unit).run w = (.error (.claimLost id), w₁))
      (alike : w₁.Alike w') :
      Concludes now report dispatched unit w (.ok (report.addFailure
        (failure claimed (claimed.command.attempts + 1)
          (StoreError.claimLost claimed.command.id).message false))) w'
  | refused {outcome : CommandOutcome} {e : StoreError} {result : Except StoreError DrainReport}
      {w₁ w' : World σ} (handled : dispatched = .ok outcome)
      (completes : (p.complete claimed unit).run w = (.error e, w₁))
      (own : e.isCommandLocal = true)
      (fails : p.Fails claimed ("commit failed: " ++ e.message) now report w₁ result w') :
      Concludes now report dispatched unit w result w'
  | commitStorage {outcome : CommandOutcome} {e : StoreError} {w₁ w' : World σ}
      (handled : dispatched = .ok outcome)
      (completes : (p.complete claimed unit).run w = (.error e, w₁))
      (broken : e.isCommandLocal = false) (alike : w₁.Alike w') :
      Concludes now report dispatched unit w (.error e) w'

/-- The world in which the unit of a dispatch is opened. -/
def entered (w : World σ) : World σ :=
  { w with
    clock := { w.clock with taken := w.clock.taken + 1 }
    spans := span claimed.command :: w.spans }

variable {p claimed} {report : DrainReport} {result : Except StoreError DrainReport}
  {w w' w'' : World σ}

theorem Fails.alike {error : String} {now : Timestamp}
    (h : p.Fails claimed error now report w result w') (alike : w'.Alike w'') :
    p.Fails claimed error now report w result w'' := by
  cases h with
  | recorded records before => exact .recorded records (before.trans alike)
  | unrecorded records own before => exact .unrecorded records own (before.trans alike)
  | storage records broken before => exact .storage records broken (before.trans alike)

theorem Concludes.alike {now : Timestamp} {dispatched : Except DispatchError CommandOutcome}
    {unit : υ} (h : p.Concludes claimed now report dispatched unit w result w')
    (alike : w'.Alike w'') : p.Concludes claimed now report dispatched unit w result w'' := by
  cases h with
  | handlerStorage failed broken before =>
    exact .handlerStorage failed broken (before.trans alike)
  | handlerFailed failed own fails => exact .handlerFailed failed own (fails.alike alike)
  | committed handled completes before => exact .committed handled completes (before.trans alike)
  | lost handled completes before => exact .lost handled completes (before.trans alike)
  | refused handled completes own fails =>
    exact .refused handled completes own (fails.alike alike)
  | commitStorage handled completes broken before =>
    exact .commitStorage handled completes broken (before.trans alike)

theorem fail_cases (p : Processor σ υ) (claimed : ClaimedCommand) (error : String)
    (now : Timestamp) (report : DrainReport) (w : World σ) :
    let done := (p.fail claimed error now report).run w
    p.Fails claimed error now report w done.1 done.2 := by
  rcases records : (p.store.recordFailure claimed.command.id claimed.claim error
    p.config.retryPolicy now).run w with ⟨recorded, w₁⟩
  rw [fail, Service.run_bind records]
  obtain e | ⟨attempts, notBefore⟩ | attempts := recorded
  · dsimp only
    split
    · rename_i own
      exact .unrecorded records own (.report _ w₁)
    · rename_i broken
      exact .storage records (Bool.eq_false_iff.mpr broken) (.report _ w₁)
  · exact .recorded records (.report _ w₁)
  · exact .recorded records (.report _ w₁)

theorem conclude_cases (p : Processor σ υ) (claimed : ClaimedCommand) (now : Timestamp)
    (report : DrainReport) (dispatched : Except DispatchError CommandOutcome) (unit : υ)
    (w : World σ) :
    let done := (p.conclude claimed now report dispatched unit).run w
    p.Concludes claimed now report dispatched unit w done.1 done.2 := by
  cases dispatched with
  | error e =>
    simp only [conclude]
    split
    · rename_i broken
      exact .handlerStorage rfl broken (.report _ w)
    · rename_i own
      exact .handlerFailed rfl own (p.fail_cases ..)
  | ok outcome =>
    rcases completes : (p.complete claimed unit).run w with ⟨completed, w₁⟩
    rw [conclude, Service.run_bind completes]
    split
    · cases outcome with
      | completed => exact .committed rfl completes (.report _ w₁)
      | rejected codes => exact .committed rfl completes (.report _ w₁)
    · exact .lost rfl completes (.report _ w₁)
    · split
      · rename_i own
        exact .refused rfl completes own (p.fail_cases ..)
      · rename_i broken
        exact .commitStorage rfl completes (Bool.eq_false_iff.mpr broken) (.report _ w₁)

/-- What is done to the store does not depend on which outcome the handler has come to. -/
theorem store_conclude_map (p : Processor σ υ) (claimed : ClaimedCommand) (now : Timestamp)
    (report : DrainReport) (f : CommandOutcome → CommandOutcome)
    (dispatched : Except DispatchError CommandOutcome) (unit : υ) (w : World σ) :
    ((p.conclude claimed now report (dispatched.map f) unit).run w).2.store
      = ((p.conclude claimed now report dispatched unit).run w).2.store := by
  cases dispatched with
  | error e => rfl
  | ok outcome =>
    rcases completes : (p.complete claimed unit).run w with ⟨completed, w₁⟩
    rw [Except.map, conclude, conclude, Service.run_bind completes, Service.run_bind completes]
    obtain e | done := completed
    · cases e <;> rfl
    · cases outcome <;> cases f _ <;> rfl

/-- A dispatch from the opening of its unit on, with what was answered to that. -/
def proceed (p : Processor σ υ) (claimed : ClaimedCommand) (now : Timestamp)
    (report : DrainReport) : Except StoreError υ → Service σ (Except StoreError DrainReport)
  | .error e => pure (.error e)
  | .ok unit => do
    let (dispatched, unit) ← (p.router.dispatch claimed.command now).run unit
    p.conclude claimed now report dispatched unit

theorem run_process {opened : Except StoreError υ} {w₁ w₂ : World σ}
    (begins : p.store.begin.run (entered claimed w) = (opened, w₁))
    (proceeds : (p.proceed claimed (w.clock.reading w.clock.taken) report opened).run w₁
      = (result, w₂)) :
    (p.process claimed report).run w = (result, { w₂ with spans := w.spans }) := by
  let rest := p.proceed claimed (w.clock.reading w.clock.taken) report
  have run : (p.process claimed report).run w
      = (((p.store.begin >>= rest).run (entered claimed w)).1,
          { ((p.store.begin >>= rest).run (entered claimed w)).2 with spans := w.spans }) := rfl
  rw [run, Service.run_bind begins, proceeds]

/-- A claimed command is dispatched in a unit of its own, and leaves by one of the exits; or no unit
    can be opened. -/
theorem process_cases (p : Processor σ υ) (claimed : ClaimedCommand) (report : DrainReport)
    (w : World σ) :
    let now := w.clock.reading w.clock.taken
    let done := (p.process claimed report).run w
    (∃ e w₁, p.store.begin.run (entered claimed w) = (.error e, w₁) ∧ done.1 = .error e ∧
      w₁.Alike done.2) ∨
    ∃ opened unit dispatched w₁ w₂, p.store.begin.run (entered claimed w) = (.ok opened, w₁) ∧
      ((p.router.dispatch claimed.command now).run opened).run w₁ = ((dispatched, unit), w₂) ∧
      p.Concludes claimed now report dispatched unit w₂ done.1 done.2 := by
  let now := w.clock.reading w.clock.taken
  have left (w w' : World σ) : w'.Alike { w' with spans := w.spans } := ⟨rfl, rfl, rfl⟩
  rcases begins : p.store.begin.run (entered claimed w) with ⟨opened, w₁⟩
  cases opened with
  | error e =>
    rw [run_process begins rfl]
    exact .inl ⟨e, w₁, rfl, rfl, left w w₁⟩
  | ok opened =>
    rcases dispatches : ((p.router.dispatch claimed.command now).run opened).run w₁
      with ⟨⟨dispatched, unit⟩, w₂⟩
    rw [run_process begins (Service.run_bind dispatches)]
    exact .inr ⟨opened, unit, dispatched, w₁, w₂, rfl, dispatches,
      (p.conclude_cases ..).alike (left w _)⟩

/-! ### Reported failures -/

/-- A round of a drain that started from `w`, in which a claimed command is dispatched from one
    world to another and has this failure reported. -/
inductive FailsIn (p : Processor σ υ) (w : World σ) (claimed : ClaimedCommand) (f : CommandFailure)
    (asked w' : World σ) : Prop where
  | round {ceiling : Option Nat} {marked start before : World σ} {calls : List ClaimCall}
      {report : DrainReport} (ceiled : p.Ceiling w ceiling marked)
      (begins : (Service.report
        (.drainStarted p.config.name p.config.drainPolicy.describe ceiling)).run marked
        = ((), start))
      (rounds : p.Rounds ceiling start calls report before)
      (claims : (p.store.claimNext (p.filterAfter ceiling calls)).run before
        = (.ok (some claimed), asked))
      (fails : (p.process claimed report).run asked = (.ok (report.addFailure f), w')) :
      FailsIn p w claimed f asked w'

theorem addFailure_inj {report : DrainReport} {f g : CommandFailure}
    (h : report.addFailure f = report.addFailure g) : f = g := by
  have failures : report.failures ++ [f] = report.failures ++ [g] :=
    congrArg DrainReport.failures h
  simpa using failures

theorem addOutcome_ne_addFailure {report : DrainReport} {outcome : CommandOutcome}
    {f : CommandFailure} : report.addOutcome outcome ≠ report.addFailure f := by
  intro h
  have failures : (report.addOutcome outcome).failures = report.failures ++ [f] :=
    congrArg DrainReport.failures h
  have length := congrArg List.length failures
  cases outcome <;> simp [DrainReport.addOutcome] at length

/-- The failures of some rounds were reported in one of them each. -/
theorem Rounds.failures {ceiling : Option Nat} {start : World σ} {calls : List ClaimCall}
    (rounds : p.Rounds ceiling start calls report w) :
    ∀ f ∈ report.failures, ∃ calls before report claimed asked w',
      p.Rounds ceiling start calls report before ∧
      (p.store.claimNext (p.filterAfter ceiling calls)).run before = (.ok (some claimed), asked) ∧
      (p.process claimed report).run asked = (.ok (report.addFailure f), w') ∧
      f.commandId = claimed.command.id := by
  induction rounds with
  | none => exact nofun
  | @more calls report report' w asked w' claimed before claims processes ih =>
    intro f mem
    cases p.process_counts claimed report asked report' (by rw [processes]) with
    | outcome outcome => exact ih f (by cases outcome <;> exact mem)
    | failure g id =>
      obtain old | new := List.mem_append.mp mem
      · exact ih f old
      · rw [List.mem_singleton.mp new]
        exact ⟨calls, w, report, claimed, asked, w', before, claims, processes, id⟩

/-- Behind every failure that a drain reports is a round in which the command was dispatched. -/
theorem drain_failures (p : Processor σ υ) (w : World σ) {report : DrainReport}
    (reports : (p.drain.run w).1 = .ok report) :
    ∀ f ∈ report.failures, ∃ claimed asked w', p.FailsIn w claimed f asked w' ∧
      f.commandId = claimed.command.id := by
  obtain ⟨result, all, done, drains, run, -⟩ := p.drain_rounds w
  rw [run] at reports
  cases reports
  cases drains with
  | nothing => exact nofun
  | rounds ceiled begins rounds ends closes =>
    intro f mem
    obtain ⟨calls, before, report, claimed, asked, w', earlier, claims, fails, same⟩ :=
      rounds.failures f (by cases ends <;> exact mem)
    exact ⟨claimed, asked, w', .round ceiled begins earlier claims fails, same⟩

end Processor

end SupplierSwitch
