import SupplierSwitch.Proofs.Memory.Programs
import SupplierSwitch.Proofs.Memory.Traffic

namespace SupplierSwitch

open Memory Tables

/-!
# Handlers in company

What a program leads to whatever is answered, it leads to in the store where others are at work, if
these lose nothing. Between the end of the program and the commit of its unit they go on.

* `Traffic.Keeping` — the others lose nothing of what is stored;
* `Traffic.of_leads` — what a program leads to, it comes to;
* `Traffic.committed_of_process` — a dispatch that is counted as processed has committed what its
  handler has staged, to tables that have evolved since.
-/

namespace Traffic

/-- The others lose nothing of what is stored. -/
def Keeping (s : Traffic) : Prop :=
  ∀ turn (t : Tables), t.Evolves (s.others turn t)

/-- The world in which the handler of a claimed command begins, with its unit open. -/
def opened (claimed : ClaimedCommand) (w : World Traffic) : World Traffic :=
  (store.begin.run (Processor.entered claimed w)).2

/-- The run of the handler of a claimed command: what it comes to, what it has staged, and the world
in which it leaves off. -/
def handling (r : Router Handling) (claimed : ClaimedCommand) (w : World Traffic) :
    (Except DispatchError CommandOutcome × ChangeSet) × World Traffic :=
  (store.runIn (r.dispatch claimed.command (w.clock.reading w.clock.taken)) .empty).run
    (opened claimed w)

theorem handled_eq (r : Router Handling) (claimed : ClaimedCommand) (w : World Traffic) :
    handled r claimed w = (handling r claimed w).1 := rfl

/-- Nothing more is relied on than that nothing is lost. -/
def reliance : Reliance :=
  ⟨fun _ => True, False⟩

variable {α : Type} {r : Router Handling} {config : ProcessorConfig} {claimed : ClaimedCommand}
  {report : DrainReport} {c : ChangeSet} {w w' : World Traffic}

theorem Keeping.evolves_turn (h : w.store.Keeping) : w.store.tables.Evolves w.store.turn :=
  h _ _

/-- What a program leads to among others, it comes to, and its unit stays tidy. -/
theorem of_leads {program : Handling α} {post : α → ChangeSet → Tables → Prop}
    (h : program.Leads reliance post c w.store.tables) (tidy : c.Tidy)
    (keeping : w.store.Keeping) :
    let done := (store.runIn program c).run w
    post done.1.1 done.1.2 done.2.store.tables ∧ done.1.2.Tidy ∧
      done.2.store.others = w.store.others := by
  induction program generalizing c w with
  | done a => exact ⟨h, tidy, rfl⟩
  | step action next ih =>
    -- Only a question gives the others a turn, and it is answered from what they have made.
    cases action with
    | ask call =>
      have reply : Responds reliance w.store.tables c (.ask call) w.store.turn
          (w.store.turn.answer call c).1 (w.store.turn.answer call c).2 :=
        ⟨keeping.evolves_turn, trivial, rfl⟩
      exact ih _ (w := { w with store := w.store.took w.store.turn }) (h _ _ _ reply)
        (ChangeSet.tidy_answer tidy _ call) keeping
    | now => exact ih _ (h _ _ _ ⟨rfl, rfl⟩) tidy keeping
    | freshId => exact ih _ (h _ _ _ ⟨rfl, rfl, False.elim⟩) tidy keeping
    | report notice => exact ih _ (h _ _ _ ⟨rfl, rfl⟩) tidy keeping

/-- The commit of a dispatch meets tables that have evolved since its handler left off. -/
theorem evolves_of_complete {completed : Except StoreError Unit} (keeping : w.store.Keeping)
    (completes : ((processor r config).complete claimed c).run w = (completed, w')) :
    w.store.tables.Evolves w'.store.met := by
  -- The question to mark the command is a call of its own, so that the others have two turns.
  let asked := ((call (Memory.store.answer (.markProcessed claimed.command.id claimed.claim) c)).run
    w).2
  have commits : (call (Memory.store.commit (c.marking claimed))).run asked = (completed, w') :=
    completes
  obtain ⟨_, -, met, -⟩ := call_cases commits
  rw [← met]
  exact keeping.evolves_turn.trans (keeping _ _)

/-- A command whose failure was to be recorded is not counted as processed. -/
theorem ne_addOutcome_of_fails {error : String} {now : Timestamp} {report' : DrainReport}
    {outcome : CommandOutcome}
    (fails : (processor r config).Fails claimed error now report w (.ok report') w') :
    report' ≠ report.addOutcome outcome := by
  cases fails with
  | recorded _ _ => exact Processor.addOutcome_ne_addFailure.symm
  | unrecorded _ _ _ => exact Processor.addOutcome_ne_addFailure.symm

/-- A dispatch that is counted as processed has committed what its handler has staged, with the mark
on its command, to tables that have evolved since the handler left off. -/
theorem committed_of_process {outcome : CommandOutcome} (keeping : w.store.Keeping)
    (others : (handling r claimed w).2.store.others = w.store.others)
    (processes : ((processor r config).process claimed report).run w
      = (.ok (report.addOutcome outcome), w')) :
    ∃ now, (handling r claimed w).2.store.tables.Evolves w'.store.met ∧
      w'.store.met.commit ((handling r claimed w).1.2.marking claimed) now
        = .ok w'.store.tables := by
  obtain ⟨e, w₁, begins, -⟩ | ⟨unit, staged, dispatched, w₁, w₂, begins, dispatches, concludes⟩ :=
    (processor r config).process_cases claimed report w
  · cases begins
  · rw [show (processor r config).router.dispatch _ _ = _ from r.dispatch_runIn store _ _]
      at dispatches
    cases begins
    have handling : handling r claimed w = ((dispatched, staged), w₂) := dispatches
    rw [handling] at others ⊢
    rw [processes] at concludes
    have keeping : w₂.store.Keeping := by
      rw [Keeping, others]
      exact keeping
    generalize same : report.addOutcome outcome = report' at concludes
    cases concludes with
    | handlerFailed _ _ fails => exact absurd same.symm (ne_addOutcome_of_fails fails)
    | committed _ completes alike =>
      rw [alike.store]
      obtain ⟨now, ⟨commits, -⟩ | ⟨_, -, failed, -⟩⟩ := complete_cases completes
      · exact ⟨now, evolves_of_complete keeping completes, commits⟩
      · cases failed
    | lost _ _ _ => exact absurd same Processor.addOutcome_ne_addFailure
    | refused _ _ _ fails => exact absurd same.symm (ne_addOutcome_of_fails fails)

end Traffic

end SupplierSwitch
