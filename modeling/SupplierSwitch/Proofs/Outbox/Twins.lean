import SupplierSwitch.Proofs.Outbox.Exits

namespace SupplierSwitch

/-!
# Worlds that work cannot tell apart

Work sees the store, what the clock shows, and the identifiers that are issued. While the clock
stands still, it does not see how often the clock was read; and nothing ever sees what was written
to the journal. In two worlds that differ only there, all work does the same.

* `World.outcomes` — the outcomes of commands, as the journal tells them;
* `World.Twins` — worlds that differ only in what work does not see, but tell the same outcomes;
* `Service.Blind`, `CommandStore.Blind` — work, and stores, that do the same in twin worlds;
* `Processor.blind_process` — dispatches do.
-/

/-- The outcome that an entry of the journal tells, with the spans that it fell into. -/
def JournalEntry.outcome? (entry : JournalEntry) : Option (List Span × CommandOutcome) :=
  match entry.notice with
  | .commandProcessed => some (entry.spans, .completed)
  | .commandRejected codes => some (entry.spans, .rejected codes)
  | _ => none

variable {σ υ α β : Type}

/-- The outcomes that the journal tells, latest first. The span of a command names the command. -/
def World.outcomes (w : World σ) : List (List Span × CommandOutcome) :=
  w.journal.filterMap (·.outcome?)

/-- The worlds differ in nothing but how often the clock was read, which stands still in both, and
    what the journal tells besides outcomes. -/
structure World.Twins (w v : World σ) : Prop where
  store : v.store = w.store
  ids : v.ids = w.ids
  spans : v.spans = w.spans
  clock : ∀ i j, v.clock.reading i = w.clock.reading j
  outcomes : v.outcomes = w.outcomes

namespace World.Twins

variable {u v w w' : World σ}

theorem refl (stopped : ∀ i j, w.clock.reading i = w.clock.reading j) : w.Twins w :=
  ⟨rfl, rfl, rfl, stopped, rfl⟩

theorem symm (h : w.Twins v) : v.Twins w :=
  ⟨h.store.symm, h.ids.symm, h.spans.symm, fun i j => (h.clock j i).symm, h.outcomes.symm⟩

theorem trans (h : w.Twins v) (h' : v.Twins u) : w.Twins u :=
  ⟨h'.store.trans h.store, h'.ids.trans h.ids, h'.spans.trans h.spans,
    fun i j => (h'.clock i i).trans (h.clock i j), h'.outcomes.trans h.outcomes⟩

/-- Something is written to the journal that tells no outcome. -/
theorem report (h : w.Twins v) {notice : Notice}
    (silent : ∀ spans, JournalEntry.outcome? ⟨notice, spans⟩ = none)
    (reports : (Service.report notice).run v = ((), u)) : w.Twins u := by
  cases reports
  refine ⟨h.store, h.ids, h.spans, h.clock, Eq.trans ?_ h.outcomes⟩
  exact List.filterMap_cons_none (silent _)

end World.Twins

namespace Service

/-- In twin worlds the work comes to the same, and leaves twin worlds. -/
structure Blind (work : Service σ α) : Prop where
  same : ∀ w v : World σ, w.Twins v →
    (work.run v).1 = (work.run w).1 ∧ (work.run w).2.Twins (work.run v).2

theorem Blind.run {work : Service σ α} (h : work.Blind) {w v w' : World σ} {a : α}
    (twins : w.Twins v) (runs : work.run w = (a, w')) :
    ∃ v', work.run v = (a, v') ∧ w'.Twins v' := by
  obtain ⟨same, after⟩ := h.same w v twins
  rcases runs' : work.run v with ⟨b, v'⟩
  rw [runs, runs'] at same after
  cases same
  exact ⟨v', rfl, after⟩

theorem blind_pure (a : α) : Blind (pure a : Service σ α) :=
  ⟨fun _ _ twins => ⟨rfl, twins⟩⟩

theorem Blind.bind {work : Service σ α} {next : α → Service σ β} (h : work.Blind)
    (rest : ∀ a, (next a).Blind) : (work >>= next).Blind := by
  constructor
  intro w v twins
  rcases runs : work.run w with ⟨a, w'⟩
  obtain ⟨v', runs', twins'⟩ := h.run twins runs
  rw [run_bind runs, run_bind runs']
  exact (rest a).same w' v' twins'

theorem blind_now : Blind (now : Service σ Timestamp) :=
  ⟨fun _ _ twins => ⟨twins.clock _ _,
    ⟨twins.store, twins.ids, twins.spans, twins.clock, twins.outcomes⟩⟩⟩

theorem blind_freshId : Blind (freshId : Service σ Uuid) := by
  constructor
  intro w v twins
  have ids := twins.ids
  refine ⟨?_, twins.store, ?_, twins.spans, twins.clock, twins.outcomes⟩
  · show v.ids.issue v.ids.issued = w.ids.issue w.ids.issued
    rw [ids]
  · show IdSupply.mk _ _ = IdSupply.mk _ _
    rw [ids]

theorem blind_report (notice : Notice) : Blind (report notice : Service σ Unit) := by
  constructor
  intro w v twins
  refine ⟨rfl, twins.store, twins.ids, twins.spans, twins.clock, ?_⟩
  show List.filterMap _ (_ :: v.journal) = List.filterMap _ (_ :: w.journal)
  rw [twins.spans, List.filterMap_cons, List.filterMap_cons,
    show v.journal.filterMap _ = w.journal.filterMap _ from twins.outcomes]

theorem blind_readStore : Blind (readStore : Service σ σ) :=
  ⟨fun _ _ twins => ⟨twins.store, twins⟩⟩

theorem blind_writeStore (s : σ) : Blind (writeStore s) :=
  ⟨fun _ _ twins => ⟨rfl, rfl, twins.ids, twins.spans, twins.clock, twins.outcomes⟩⟩

theorem Blind.inSpan {work : Service σ α} (h : work.Blind) (span : Span) :
    (inSpan span work).Blind := by
  constructor
  intro w v twins
  have entered : ({ w with spans := span :: w.spans } : World σ).Twins
      { v with spans := span :: v.spans } :=
    ⟨twins.store, twins.ids, congrArg (List.cons span) twins.spans, twins.clock, twins.outcomes⟩
  obtain ⟨same, after⟩ := h.same _ _ entered
  exact ⟨same, after.store, after.ids, twins.spans, after.clock, after.outcomes⟩

end Service

namespace CommandStore

/-- Every operation of the store that a drain is made of does the same in twin worlds. -/
structure Blind (store : CommandStore σ υ) : Prop where
  begin : store.begin.Blind
  answer : ∀ call unit, Service.Blind (store.answer call unit)
  commit : ∀ unit, (store.commit unit).Blind
  claimNext : ∀ filter, (store.claimNext filter).Blind
  recordFailure : ∀ id claim error policy now, (store.recordFailure id claim error policy now).Blind
  highWaterMark : store.highWaterMark.Blind

theorem Blind.runIn {store : CommandStore σ υ} (h : store.Blind) (program : Handling α)
    (unit : υ) : Service.Blind ((store.runIn program).run unit) := by
  induction program generalizing unit with
  | done a => exact Service.blind_pure _
  | step action next ih =>
    have means : Service.Blind ((store.meaning action).run unit) := by
      cases action with
      | ask call => exact h.answer call unit
      | now => exact Service.blind_now.bind fun _ => Service.blind_pure _
      | freshId => exact Service.blind_freshId.bind fun _ => Service.blind_pure _
      | report notice => exact (Service.blind_report notice).bind fun _ => Service.blind_pure _
    exact means.bind fun answered => ih answered.1 answered.2

end CommandStore

namespace Processor

open Service

variable {p : Processor σ υ} (store : p.store.Blind) (claimed : ClaimedCommand)
  (report : DrainReport)

include store

theorem blind_fail (error : String) (now : Timestamp) :
    (p.fail claimed error now report).Blind := by
  refine (store.recordFailure ..).bind fun recorded => ?_
  obtain e | ⟨attempts, notBefore⟩ | attempts := recorded
  · dsimp only
    split
    · exact (blind_report _).bind fun _ => blind_pure _
    · exact (blind_report _).bind fun _ => blind_pure _
  · exact (blind_report _).bind fun _ => blind_pure _
  · exact (blind_report _).bind fun _ => blind_pure _

theorem blind_complete (unit : υ) : (p.complete claimed unit).Blind := by
  refine (store.answer ..).bind fun marked => ?_
  obtain ⟨e | _, unit⟩ := marked
  · exact blind_pure _
  · exact store.commit unit

theorem blind_conclude (now : Timestamp) (dispatched : Except DispatchError CommandOutcome)
    (unit : υ) : (p.conclude claimed now report dispatched unit).Blind := by
  cases dispatched with
  | error e =>
    simp only [conclude]
    split
    · exact (blind_report _).bind fun _ => blind_pure _
    · exact blind_fail store ..
  | ok outcome =>
    refine (blind_complete store claimed unit).bind fun completed => ?_
    dsimp only
    split
    · cases outcome with
      | completed => exact (blind_report _).bind fun _ => blind_pure _
      | rejected codes => exact (blind_report _).bind fun _ => blind_pure _
    · exact (blind_report _).bind fun _ => blind_pure _
    · split
      · exact blind_fail store ..
      · exact (blind_report _).bind fun _ => blind_pure _

/-- A dispatch does the same in twin worlds, if the store and the handlers do. -/
theorem blind_process (router : ∀ command now unit,
    Service.Blind ((p.router.dispatch command now).run unit)) :
    (p.process claimed report).Blind := by
  refine Blind.inSpan (blind_now.bind fun now => store.begin.bind fun opened => ?_) _
  cases opened with
  | error e => exact blind_pure _
  | ok unit => exact (router ..).bind fun _ => blind_conclude store ..

end Processor

end SupplierSwitch
