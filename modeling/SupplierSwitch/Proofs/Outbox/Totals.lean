import Mathlib.Algebra.GroupWithZero.Nat
import SupplierSwitch.Proofs.Outbox.Exits

namespace SupplierSwitch

/-!
# Totals of reports

Reports add up: what a dispatch reports does not depend on what was reported before it, so that the
report of some dispatches is the total of what each of them reports, however they are spread over
drains.

* `DrainReport.plus`, `DrainReport.of` — one report after another, and the report of outcomes;
* `Processor.process_adds` — a dispatch adds its own report to the one that it is given;
* `Processor.Dispatches`, `Processor.Chain` — dispatches that come to an outcome, of commands that
  no filter keeps back;
* `Processor.UntilIdle` — drains until one of them attempts nothing.
-/

namespace DrainReport

/-- The report of two stretches of work. -/
def plus (first second : DrainReport) : DrainReport where
  processed := first.processed + second.processed
  completed := first.completed + second.completed
  rejected := first.rejected + second.rejected
  failures := first.failures ++ second.failures
  deadLettered := first.deadLettered + second.deadLettered
  truncated := first.truncated || second.truncated

/-- The report of commands that have come to these outcomes. -/
def of (outcomes : List CommandOutcome) : DrainReport :=
  outcomes.foldl addOutcome empty

/-- The report of several stretches of work. -/
def total (reports : List DrainReport) : DrainReport :=
  reports.foldr plus empty

@[simp] theorem plus_empty (report : DrainReport) : report.plus empty = report := by
  simp [plus, empty]

theorem plus_addOutcome (first second : DrainReport) (outcome : CommandOutcome) :
    first.plus (second.addOutcome outcome) = (first.plus second).addOutcome outcome := by
  cases outcome <;> rfl

theorem plus_addFailure (first second : DrainReport) (f : CommandFailure) :
    first.plus (second.addFailure f) = (first.plus second).addFailure f := by
  simp only [plus, addFailure, List.append_assoc, mk.injEq, true_and, and_true]
  split <;> rfl

theorem of_concat (outcomes : List CommandOutcome) (outcome : CommandOutcome) :
    of (outcomes ++ [outcome]) = (of outcomes).addOutcome outcome :=
  List.foldl_append

theorem of_append (outcomes more : List CommandOutcome) :
    of (outcomes ++ more) = (of outcomes).plus (of more) := by
  induction more using List.reverseRecOn with
  | nil => rw [List.append_nil, show of [] = empty from rfl, plus_empty]
  | append_singleton more outcome ih =>
    rw [← List.append_assoc, of_concat, of_concat, plus_addOutcome, ih]

/-- Every outcome counts once, and nothing has failed. -/
theorem of_clean (outcomes : List CommandOutcome) :
    (of outcomes).processed = outcomes.length ∧ (of outcomes).failures = [] := by
  induction outcomes using List.reverseRecOn with
  | nil => exact ⟨rfl, rfl⟩
  | append_singleton outcomes outcome ih =>
    rw [of_concat, List.length_append]
    obtain ⟨processed, failures⟩ := ih
    cases outcome with
    | completed => exact ⟨congrArg (· + 1) processed, failures⟩
    | rejected codes => exact ⟨congrArg (· + 1) processed, failures⟩

theorem attempted_of (outcomes : List CommandOutcome) :
    (of outcomes).attempted = outcomes.length := by
  obtain ⟨processed, failures⟩ := of_clean outcomes
  rw [attempted, processed, failures, List.length_nil, Nat.add_zero]

theorem total_counts (reports : List DrainReport) :
    (total reports).processed = (reports.map (·.processed)).sum ∧
      (total reports).completed = (reports.map (·.completed)).sum ∧
      (total reports).rejected = (reports.map (·.rejected)).sum := by
  induction reports with
  | nil => exact ⟨rfl, rfl, rfl⟩
  | cons report rest ih =>
    obtain ⟨processed, completed, rejected⟩ := ih
    rw [List.map_cons, List.map_cons, List.map_cons, List.sum_cons, List.sum_cons, List.sum_cons,
      ← processed, ← completed, ← rejected]
    exact ⟨rfl, rfl, rfl⟩

end DrainReport

namespace Processor

open DrainReport

variable {σ υ : Type} {p : Processor σ υ} {claimed : ClaimedCommand} {report : DrainReport}
  {w w' : World σ}

/-! ### A dispatch adds its own report -/

/-- The work adds its own report to the one that it is given. -/
def Adds (work : DrainReport → Service σ (Except StoreError DrainReport)) : Prop :=
  ∀ report w, (work report).run w
    = (((work empty).run w).1.map report.plus, ((work empty).run w).2)

theorem adds_error (e : StoreError) (notices : Service σ Unit) :
    Adds fun _ => notices >>= fun _ => pure (.error e) :=
  fun _ _ => rfl

theorem adds_addOutcome (outcome : CommandOutcome) (notices : Service σ Unit) :
    Adds fun report => notices >>= fun _ => pure (.ok (report.addOutcome outcome)) := by
  intro report w
  refine Prod.ext (congrArg Except.ok ?_) rfl
  rw [plus_addOutcome, plus_empty]

theorem adds_addFailure (f : CommandFailure) (notices : Service σ Unit) :
    Adds fun report => notices >>= fun _ => pure (.ok (report.addFailure f)) := by
  intro report w
  refine Prod.ext (congrArg Except.ok ?_) rfl
  rw [plus_addFailure, plus_empty]

theorem Adds.after {α : Type} {before : Service σ α}
    {work : α → DrainReport → Service σ (Except StoreError DrainReport)}
    (adds : ∀ a, Adds (work a)) : Adds fun report => before >>= fun a => work a report := by
  intro report w
  rcases first : before.run w with ⟨a, w'⟩
  rw [Service.run_bind first, Service.run_bind first]
  exact adds a report w'

theorem fail_adds (p : Processor σ υ) (claimed : ClaimedCommand) (error : String)
    (now : Timestamp) : Adds (p.fail claimed error now) := by
  refine Adds.after fun recorded => ?_
  obtain e | ⟨attempts, notBefore⟩ | attempts := recorded
  · dsimp only
    split
    · exact adds_addFailure _ _
    · exact adds_error _ _
  · exact adds_addFailure _ _
  · exact adds_addFailure _ _

theorem conclude_adds (p : Processor σ υ) (claimed : ClaimedCommand) (now : Timestamp)
    (dispatched : Except DispatchError CommandOutcome) (unit : υ) :
    Adds fun report => p.conclude claimed now report dispatched unit := by
  cases dispatched with
  | error e =>
    simp only [conclude]
    split
    · exact adds_error _ _
    · exact p.fail_adds _ _ _
  | ok outcome =>
    refine Adds.after fun completed => ?_
    dsimp only
    split
    · cases outcome with
      | completed => exact adds_addOutcome _ _
      | rejected codes => exact adds_addOutcome _ _
    · exact adds_addFailure _ _
    · split
      · exact p.fail_adds _ _ _
      · exact adds_error _ _

theorem Adds.inSpan {work : DrainReport → Service σ (Except StoreError DrainReport)} (h : Adds work)
    (span : Span) : Adds fun report => Service.inSpan span (work report) := by
  intro report w
  let leave (done : Except StoreError DrainReport × World σ) :
      Except StoreError DrainReport × World σ := (done.1, { done.2 with spans := w.spans })
  exact congrArg leave (h report { w with spans := span :: w.spans })

theorem process_adds (p : Processor σ υ) (claimed : ClaimedCommand) : Adds (p.process claimed) := by
  refine Adds.inSpan (Adds.after fun now => Adds.after fun opened => ?_) _
  cases opened with
  | error e => exact adds_error e (pure ())
  | ok unit => exact Adds.after fun dispatched => p.conclude_adds claimed now _ _

/-! ### Dispatches without a filter -/

/-- The next command is dispatched, which no filter keeps back, and comes to an outcome. -/
def Dispatches (p : Processor σ υ) (w : World σ) (claimed : ClaimedCommand)
    (outcome : CommandOutcome) (w' : World σ) : Prop :=
  ∃ asked, (p.store.claimNext ⟨[], none, p.config.claimLease⟩).run w = (.ok (some claimed), asked) ∧
    (p.process claimed .empty).run asked = (.ok (DrainReport.empty.addOutcome outcome), w')

/-- Such dispatches, one after another. -/
inductive Chain (p : Processor σ υ) :
    World σ → List (ClaimedCommand × CommandOutcome) → World σ → Prop where
  | nil (w : World σ) : Chain p w [] w
  | cons {w m w' : World σ} {claimed : ClaimedCommand} {outcome : CommandOutcome}
      {rest : List (ClaimedCommand × CommandOutcome)} (first : p.Dispatches w claimed outcome m)
      (further : Chain p m rest w') : Chain p w ((claimed, outcome) :: rest) w'

theorem Chain.concat {l : List (ClaimedCommand × CommandOutcome)} {outcome : CommandOutcome}
    {m : World σ} (chain : p.Chain w l m) (last : p.Dispatches m claimed outcome w') :
    p.Chain w (l ++ [(claimed, outcome)]) w' := by
  induction chain with
  | nil => exact .cons last (.nil w')
  | cons first _ ih => exact .cons first (ih last)

/-- A dispatch that comes to an outcome adds it to whatever was reported before. -/
theorem process_of_outcome {outcome : CommandOutcome} {asked : World σ}
    (processes : (p.process claimed .empty).run asked
      = (.ok (DrainReport.empty.addOutcome outcome), w')) (report : DrainReport) :
    (p.process claimed report).run asked = (.ok (report.addOutcome outcome), w') := by
  rw [p.process_adds claimed report asked, processes]
  exact Prod.ext (congrArg Except.ok (by rw [plus_addOutcome, plus_empty])) rfl

/-- A dispatch that has reported no failure has come to an outcome. -/
theorem outcome_of_process {report' : DrainReport} {asked : World σ}
    (processes : (p.process claimed report).run asked = (.ok report', w'))
    (clean : report'.failures = []) : ∃ outcome, report' = report.addOutcome outcome ∧
      (p.process claimed .empty).run asked = (.ok (DrainReport.empty.addOutcome outcome), w') := by
  rw [p.process_adds claimed report asked] at processes
  rcases own : (p.process claimed .empty).run asked with ⟨result, w₁⟩
  rw [own] at processes
  cases result with
  | error e => cases processes
  | ok added =>
    cases processes
    cases p.process_counts claimed .empty asked added (by rw [own]) with
    | outcome outcome => exact ⟨outcome, by rw [plus_addOutcome, plus_empty], rfl⟩
    | failure f =>
      rw [plus_addFailure, addFailure] at clean
      exact absurd clean (List.append_ne_nil_of_right_ne_nil _ (List.cons_ne_nil _ _))

/-! ### Drains until nothing is left -/

/-- Drains, one after another, up to the first one that attempts nothing: their reports, all their
    calls for the next command, and the world that they leave. -/
inductive UntilIdle (p : Processor σ υ) :
    World σ → List DrainReport → List ClaimCall → World σ → Prop where
  | last {w w' : World σ} {report : DrainReport} {calls : List ClaimCall}
      (drains : p.watched.drain.run (w.beside []) = (.ok report, w'.beside calls))
      (idle : report.attempted = 0) : UntilIdle p w [report] calls w'
  | again {w m w' : World σ} {report : DrainReport} {reports : List DrainReport}
      {calls more : List ClaimCall}
      (drains : p.watched.drain.run (w.beside []) = (.ok report, m.beside calls))
      (busy : report.attempted ≠ 0) (further : UntilIdle p m reports more w') :
      UntilIdle p w (report :: reports) (calls ++ more) w'

end Processor

end SupplierSwitch
