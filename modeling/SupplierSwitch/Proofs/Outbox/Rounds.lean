import Mathlib.Data.List.Induction
import SupplierSwitch.Proofs.Outbox.Watched

namespace SupplierSwitch

/-!
# The rounds of a drain

A drain goes round: it claims a command and processes it, until no command is left, its limit is
reached, or the store fails. What is true of all drains, over any store, is proved by going along
the rounds.

* `Processor.Rounds` — some rounds of a drain, with the calls that were made in them;
* `Processor.Ends` — the ways in which a drain comes to its end after some rounds;
* `Processor.drainLoop_rounds`, `Processor.drain_rounds` — every drain is rounds with an end.
-/

variable {σ υ : Type}

theorem claimedIn_append (calls calls' : List ClaimCall) :
    claimedIn (calls ++ calls') = claimedIn calls ++ claimedIn calls' :=
  List.filterMap_append

@[simp] theorem claimedIn_nil : claimedIn [] = [] :=
  rfl

@[simp] theorem claimedIn_claimed (calls : List ClaimCall) (filter : ClaimFilter)
    (claimed : ClaimedCommand) :
    claimedIn (calls ++ [⟨filter, .ok (some claimed)⟩]) = claimedIn calls ++ [claimed] :=
  claimedIn_append _ _

@[simp] theorem claimedIn_idle (calls : List ClaimCall) (filter : ClaimFilter) :
    claimedIn (calls ++ [⟨filter, .ok none⟩]) = claimedIn calls :=
  (claimedIn_append _ _).trans (List.append_nil _)

@[simp] theorem claimedIn_failed (calls : List ClaimCall) (filter : ClaimFilter) (e : StoreError) :
    claimedIn (calls ++ [⟨filter, .error e⟩]) = claimedIn calls :=
  (claimedIn_append _ _).trans (List.append_nil _)

/-- The identifiers of commands that were claimed, as the loop collects them. -/
def visitedBy (dispatched : List ClaimedCommand) : List CommandId :=
  dispatched.foldl (fun visited claimed => visited.insert claimed.command.id) []

theorem visitedBy_concat (dispatched : List ClaimedCommand) (claimed : ClaimedCommand) :
    visitedBy (dispatched ++ [claimed]) = (visitedBy dispatched).insert claimed.command.id :=
  List.foldl_append

theorem mem_visitedBy {dispatched : List ClaimedCommand} {id : CommandId} :
    id ∈ visitedBy dispatched ↔ ∃ claimed ∈ dispatched, claimed.command.id = id := by
  induction dispatched using List.reverseRecOn with
  | nil => simp [visitedBy]
  | append_singleton dispatched claimed ih =>
    rw [visitedBy_concat, List.mem_insert_iff, ih]
    simp only [List.mem_append, List.mem_singleton, or_and_right, exists_or, exists_eq_left]
    rw [or_comm, eq_comm]

namespace Processor

/-- What a drain asks for after some calls. -/
def filterAfter (p : Processor σ υ) (ceiling : Option Nat) (calls : List ClaimCall) : ClaimFilter :=
  ⟨visitedBy (claimedIn calls), ceiling, p.config.claimLease⟩

/-- Some rounds of a drain from a world on, with the calls that were made in them, the report and
    the world after them. -/
inductive Rounds (p : Processor σ υ) (ceiling : Option Nat) (start : World σ) :
    List ClaimCall → DrainReport → World σ → Prop where
  | none : Rounds p ceiling start [] .empty start
  | more {calls : List ClaimCall} {report report' : DrainReport} {w asked w' : World σ}
      {claimed : ClaimedCommand} (before : Rounds p ceiling start calls report w)
      (claims : (p.store.claimNext (p.filterAfter ceiling calls)).run w
        = (.ok (some claimed), asked))
      (processes : (p.process claimed report).run asked = (.ok report', w')) :
      Rounds p ceiling start (calls ++ [⟨p.filterAfter ceiling calls, .ok (some claimed)⟩])
        report' w'

/-- The ways in which a drain ends after some rounds: its result, all its calls, and the world. -/
inductive Ends (p : Processor σ υ) (ceiling : Option Nat) (calls : List ClaimCall)
    (report : DrainReport) (w : World σ) :
    Except StoreError DrainReport → List ClaimCall → World σ → Prop where
  /-- The limit is reached. -/
  | full {w' : World σ} (full : calls.length = p.config.maxCommandsPerDrain)
      (reports : (Service.report
        (.drainLimitReached p.config.name p.config.maxCommandsPerDrain)).run w = ((), w')) :
      Ends p ceiling calls report w (.ok { report with truncated := true }) calls w'
  /-- There is nothing to claim. -/
  | idle {w' : World σ} (room : calls.length < p.config.maxCommandsPerDrain)
      (claims : (p.store.claimNext (p.filterAfter ceiling calls)).run w = (.ok none, w')) :
      Ends p ceiling calls report w (.ok report)
        (calls ++ [⟨p.filterAfter ceiling calls, .ok none⟩]) w'
  /-- The store fails when it is asked for a command. -/
  | claimFailed {e : StoreError} {asked w' : World σ}
      (room : calls.length < p.config.maxCommandsPerDrain)
      (claims : (p.store.claimNext (p.filterAfter ceiling calls)).run w = (.error e, asked))
      (reports : (Service.report (.claimFailed p.config.name e.message)).run asked = ((), w')) :
      Ends p ceiling calls report w (.error e)
        (calls ++ [⟨p.filterAfter ceiling calls, .error e⟩]) w'
  /-- The store fails while a command is processed. -/
  | processFailed {e : StoreError} {asked w' : World σ} {claimed : ClaimedCommand}
      (room : calls.length < p.config.maxCommandsPerDrain)
      (claims : (p.store.claimNext (p.filterAfter ceiling calls)).run w
        = (.ok (some claimed), asked))
      (processes : (p.process claimed report).run asked = (.error e, w')) :
      Ends p ceiling calls report w (.error e)
        (calls ++ [⟨p.filterAfter ceiling calls, .ok (some claimed)⟩]) w'

variable {p : Processor σ υ} {ceiling : Option Nat} {start w : World σ} {calls : List ClaimCall}
  {report : DrainReport}

/-- A watched loop does what the loop does, and the calls that it writes down are those of its
    rounds and of its end. -/
theorem drainLoop_rounds {remaining : Nat} (rounds : p.Rounds ceiling start calls report w)
    (left : calls.length + remaining = p.config.maxCommandsPerDrain) :
    ∃ calls' report' w' result all done,
      p.Rounds ceiling start calls' report' w' ∧
      p.Ends ceiling calls' report' w' result all done ∧
      (p.drainLoop ceiling remaining (visitedBy (claimedIn calls)) report).run w = (result, done) ∧
      (p.watched.drainLoop ceiling remaining (visitedBy (claimedIn calls)) report).run
        (w.beside calls) = (result, done.beside all) := by
  induction remaining generalizing calls report w with
  | zero =>
    exact ⟨calls, report, w, _, _, _, rounds, .full (by omega) rfl, rfl, rfl⟩
  | succ remaining ih =>
    have room : calls.length < p.config.maxCommandsPerDrain := by omega
    -- The watched call does what the call does, and is written down.
    let filter := p.filterAfter ceiling calls
    rcases claims : (p.store.claimNext filter).run w with ⟨answer, asked⟩
    have asks : (p.store.claimNext
        ⟨visitedBy (claimedIn calls), ceiling, p.config.claimLease⟩).run w = (answer, asked) :=
      claims
    have noted : (p.watched.store.claimNext
        ⟨visitedBy (claimedIn calls), ceiling, p.watched.config.claimLease⟩).run (w.beside calls)
        = (answer, asked.beside (calls ++ [⟨filter, answer⟩])) := by
      have same : (p.watched.store.claimNext filter).run (w.beside calls)
          = (((p.store.claimNext filter).run w).1, World.beside ((p.store.claimNext filter).run w).2
              (calls ++ [⟨filter, ((p.store.claimNext filter).run w).1⟩])) := rfl
      rwa [claims] at same
    rw [drainLoop, drainLoop, Service.run_bind asks, Service.run_bind noted]
    obtain e | _ | claimed := answer
    · exact ⟨calls, report, w, _, _, _, rounds, .claimFailed room claims rfl, rfl, rfl⟩
    · exact ⟨calls, report, w, _, _, _, rounds, .idle room claims, rfl, rfl⟩
    · rcases processes : (p.process claimed report).run asked with ⟨processed, w'⟩
      have unseen := Service.onFirst_run (p.process claimed report) asked
        (calls ++ [⟨filter, .ok (some claimed)⟩])
      rw [processes, ← watched_process] at unseen
      dsimp only
      rw [Service.run_bind processes, Service.run_bind unseen]
      cases processed with
      | error e =>
        exact ⟨calls, report, w, _, _, _, rounds, .processFailed room claims processes, rfl, rfl⟩
      | ok report' =>
        have further := ih (rounds.more claims processes) (by rw [List.length_append]; simp; omega)
        rw [claimedIn_claimed, visitedBy_concat] at further
        exact further

/-- The last place that a drain is to go to, with the world after asking for it. -/
inductive Ceiling (p : Processor σ υ) (w : World σ) : Option Nat → World σ → Prop where
  | everything (policy : p.config.drainPolicy = .includeNewlyEnqueued) : Ceiling p w none w
  | snapshot {mark : Nat} {marked : World σ} (policy : p.config.drainPolicy = .snapshotAtStart)
      (marks : p.store.highWaterMark.run w = (.ok (some mark), marked)) :
      Ceiling p w (some mark) marked

/-- What is left of the end of a drain: its report is told. -/
def closed (p : Processor σ υ) (ended : World σ) : Except StoreError DrainReport → World σ
  | .error _ => ended
  | .ok report => ((Service.report (.drainFinished p.config.name report.processed report.rejected
      report.failures.length report.deadLettered report.truncated)).run ended).2

theorem store_closed (p : Processor σ υ) (ended : World σ)
    (result : Except StoreError DrainReport) : (p.closed ended result).store = ended.store := by
  cases result <;> rfl

/-- A drain: its result, its calls for the next command, and the world that it leaves. -/
inductive Drains (p : Processor σ υ) (w : World σ) :
    Except StoreError DrainReport → List ClaimCall → World σ → Prop where
  /-- The store does not say how far the snapshot goes. -/
  | unmarked {e : StoreError} {w' : World σ} (policy : p.config.drainPolicy = .snapshotAtStart)
      (marks : p.store.highWaterMark.run w = (.error e, w')) : Drains p w (.error e) [] w'
  /-- There is nothing in the snapshot. -/
  | nothing {w' : World σ} (policy : p.config.drainPolicy = .snapshotAtStart)
      (marks : p.store.highWaterMark.run w = (.ok none, w')) : Drains p w (.ok .empty) [] w'
  | rounds {ceiling : Option Nat} {marked start last ended done : World σ} {report : DrainReport}
      {calls all : List ClaimCall} {result : Except StoreError DrainReport}
      (ceiled : p.Ceiling w ceiling marked)
      (begins : (Service.report
        (.drainStarted p.config.name p.config.drainPolicy.describe ceiling)).run marked
        = ((), start))
      (rounds : p.Rounds ceiling start calls report last)
      (ends : p.Ends ceiling calls report last result all ended)
      (closes : done = p.closed ended result) : Drains p w result all done

/-- What a drain of the store up to some place comes to. -/
theorem drainUpTo_rounds {marked : World σ} (ceiled : p.Ceiling w ceiling marked) :
    ∃ result all done, p.Drains w result all done ∧
      (p.drainUpTo ceiling).run marked = (result, done) ∧
      (p.watched.drainUpTo ceiling).run (marked.beside []) = (result, done.beside all) := by
  let start := ((Service.report (.drainStarted p.config.name p.config.drainPolicy.describe
    ceiling)).run marked).2
  obtain ⟨calls, report, last, result, all, ended, rounds, ends, alone, watched⟩ :=
    drainLoop_rounds (.none : p.Rounds ceiling start [] .empty start) (Nat.zero_add _)
  have alone' : (p.drainUpTo ceiling).run marked = _ :=
    (Service.run_bind rfl).trans (Service.run_bind alone)
  have watched' : (p.watched.drainUpTo ceiling).run (marked.beside []) = _ :=
    (Service.run_bind rfl).trans (Service.run_bind watched)
  cases result with
  | error e => exact ⟨_, _, ended, .rounds ceiled rfl rounds ends rfl, alone', watched'⟩
  | ok done =>
    exact ⟨_, _, p.closed ended (.ok done), .rounds ceiled rfl rounds ends rfl, alone', watched'⟩

/-- A watched drain does what the drain does, in rounds, and writes down its calls. -/
theorem drain_rounds (p : Processor σ υ) (w : World σ) :
    ∃ result all done, p.Drains w result all done ∧
      p.drain.run w = (result, done) ∧
      p.watched.drain.run (w.beside []) = (result, done.beside all) := by
  cases policy : p.config.drainPolicy with
  | includeNewlyEnqueued =>
    have same : p.watched.config.drainPolicy = .includeNewlyEnqueued := policy
    simp only [drain, policy, same]
    exact drainUpTo_rounds (.everything policy)
  | snapshotAtStart =>
    have same : p.watched.config.drainPolicy = .snapshotAtStart := policy
    simp only [drain, policy, same]
    rcases marks : p.store.highWaterMark.run w with ⟨mark, marked⟩
    have noted : p.watched.store.highWaterMark.run (w.beside []) = (mark, marked.beside []) := by
      have first : p.watched.store.highWaterMark.run (w.beside []) = _ :=
        Service.onFirst_run p.store.highWaterMark w []
      rwa [marks] at first
    rw [Service.run_bind marks, Service.run_bind noted]
    obtain e | _ | mark := mark
    · exact ⟨_, _, _, .unmarked policy marks, rfl, rfl⟩
    · exact ⟨_, _, _, .nothing policy marks, rfl, rfl⟩
    · exact drainUpTo_rounds (.snapshot policy marks)

end Processor

end SupplierSwitch
