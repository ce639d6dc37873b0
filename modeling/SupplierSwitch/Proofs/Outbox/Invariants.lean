import SupplierSwitch.Proofs.Outbox.Exits

namespace SupplierSwitch

/-!
# Invariants of a store under drains

A processor reaches its store through a few operations only. What each of them keeps, whatever it is
asked and answers, is kept by every program in a unit, by every dispatch, and by every round of a
drain.

* `Service.Keeps`, `CommandStore.InUnit.Keeps` — work that keeps a property of the state, and one of
  its unit;
* `CommandStore.Keeps` — a store whose operations do, and `CommandStore.Keeps.runIn` what follows
  for programs;
* `Processor.keeps_process`, `Processor.Rounds.keeps` — dispatches and rounds keep it;
* `Processor.Claims`, `Processor.Drains.claims` — the claims of a drain, each after some rounds.
-/

variable {σ υ α : Type} {P : σ → Prop} {Q : υ → Prop}

/-- Work that finds the property leaves it, whatever it answers. -/
def Service.Keeps (P : σ → Prop) (work : Service σ α) : Prop :=
  ∀ w, P w.store → P (work.run w).2.store

theorem Service.Keeps.run {work : Service σ α} (h : Service.Keeps P work) {w w' : World σ} {a : α}
    (runs : work.run w = (a, w')) (start : P w.store) : P w'.store := by
  have kept := h w start
  rwa [runs] at kept

theorem World.Alike.keeps {w w' : World σ} (h : w.Alike w') (start : P w.store) : P w'.store := by
  rwa [h.store]

namespace CommandStore

/-- Work in a unit that finds both properties leaves both. -/
def InUnit.Keeps (P : σ → Prop) (Q : υ → Prop) (work : InUnit σ υ α) : Prop :=
  ∀ unit w, Q unit → P w.store → Q ((work.run unit).run w).1.2 ∧ P ((work.run unit).run w).2.store

theorem InUnit.Keeps.run {work : InUnit σ υ α} (h : InUnit.Keeps P Q work) {w w' : World σ}
    {unit unit' : υ} {a : α} (runs : (work.run unit).run w = ((a, unit'), w')) (own : Q unit)
    (start : P w.store) : Q unit' ∧ P w'.store := by
  have kept := h unit w own start
  rwa [runs] at kept

/-- Every operation of the store that a drain is made of keeps the property, as long as the units
    that it opens have the other one, and are asked questions only. -/
structure Keeps (P : σ → Prop) (Q : υ → Prop) (store : CommandStore σ υ) : Prop where
  begin : Service.Keeps P store.begin
  opened : ∀ w unit w', store.begin.run w = (.ok unit, w') → P w.store → Q unit
  answer : ∀ call, InUnit.Keeps P Q (store.answer call)
  commit : ∀ unit, Q unit → Service.Keeps P (store.commit unit)
  claimNext : ∀ filter, Service.Keeps P (store.claimNext filter)
  recordFailure : ∀ id claim error policy now,
    Service.Keeps P (store.recordFailure id claim error policy now)
  highWaterMark : Service.Keeps P store.highWaterMark

/-- A program reaches the store by questions to its unit only. -/
theorem Keeps.runIn {store : CommandStore σ υ} (h : store.Keeps P Q) (program : Handling α) :
    InUnit.Keeps P Q (store.runIn program) := by
  induction program with
  | done a => exact fun _ _ own start => ⟨own, start⟩
  | step action next ih =>
    intro unit w own start
    let answered := (store.meaning action unit).run w
    have kept : Q answered.1.2 ∧ P answered.2.store := by
      cases action with
      | ask call => exact h.answer call unit w own start
      | now | freshId | report _ => exact ⟨own, start⟩
    exact ih answered.1.1 answered.1.2 answered.2 kept.1 kept.2

end CommandStore

namespace Processor

variable {p : Processor σ υ} {claimed : ClaimedCommand} {report : DrainReport}
  {result : Except StoreError DrainReport} {ceiling : Option Nat} {w w' start : World σ}

theorem Fails.keeps {error : String} {now : Timestamp} (store : p.store.Keeps P Q)
    (h : p.Fails claimed error now report w result w') (start : P w.store) : P w'.store := by
  cases h with
  | recorded records alike | unrecorded records _ alike | storage records _ alike =>
    exact alike.keeps ((store.recordFailure _ _ _ _ _).run records start)

theorem keeps_complete (store : p.store.Keeps P Q) {unit : υ} (own : Q unit) :
    Service.Keeps P (p.complete claimed unit) := by
  intro w start
  rcases marks : (p.store.answer (.markProcessed claimed.command.id claimed.claim) unit).run w
    with ⟨⟨marked, unit'⟩, w₁⟩
  obtain ⟨own, kept⟩ := (store.answer _).run marks own start
  rw [complete, Service.run_bind marks]
  cases marked with
  | error e => exact kept
  | ok _ => exact store.commit unit' own w₁ kept

theorem Concludes.keeps {now : Timestamp} {dispatched : Except DispatchError CommandOutcome}
    {unit : υ} (store : p.store.Keeps P Q) (own : Q unit)
    (h : p.Concludes claimed now report dispatched unit w result w') (start : P w.store) :
    P w'.store := by
  cases h with
  | handlerStorage _ _ alike => exact alike.keeps start
  | handlerFailed _ _ fails => exact fails.keeps store start
  | committed _ completes alike | lost _ completes alike | commitStorage _ completes _ alike =>
    exact alike.keeps ((keeps_complete store own).run completes start)
  | refused _ completes _ fails =>
    exact fails.keeps store ((keeps_complete store own).run completes start)

/-- A dispatch keeps what the store and the handlers keep. -/
theorem keeps_process (store : p.store.Keeps P Q)
    (router : ∀ command now, (p.router.dispatch command now).Keeps P Q) :
    Service.Keeps P (p.process claimed report) := by
  intro w start
  obtain ⟨e, w₁, begins, -, alike⟩ |
    ⟨opened, unit, dispatched, w₁, w₂, begins, dispatches, concludes⟩ :=
    p.process_cases claimed report w
  · exact alike.keeps (store.begin.run begins start)
  · have own := store.opened _ _ _ begins start
    obtain ⟨own, kept⟩ := (router _ _).run dispatches own (store.begin.run begins start)
    exact concludes.keeps store own kept

/-- Every round of a drain keeps what its claim and its dispatch keep. -/
theorem Rounds.keeps {calls : List ClaimCall} (h : p.Rounds ceiling start calls report w)
    (store : p.store.Keeps P Q)
    (router : ∀ command now, (p.router.dispatch command now).Keeps P Q)
    (first : P start.store) : P w.store := by
  induction h with
  | none => exact first
  | more _ claims processes ih =>
    have asked := (store.claimNext _).run claims ih
    exact (keeps_process store router).run processes asked

/-! ### The claims of a drain -/

/-- The command is claimed after some rounds from a world on. -/
def Claims (p : Processor σ υ) (ceiling : Option Nat) (start : World σ)
    (claimed : ClaimedCommand) : Prop :=
  ∃ calls report before asked, p.Rounds ceiling start calls report before ∧
    (p.store.claimNext (p.filterAfter ceiling calls)).run before = (.ok (some claimed), asked)

theorem Rounds.claims {calls : List ClaimCall} (h : p.Rounds ceiling start calls report w) :
    ∀ claimed ∈ claimedIn calls, p.Claims ceiling start claimed := by
  induction h with
  | none =>
    intro _ mem
    cases mem
  | @more calls report report' w asked w' claimed before claims processes ih =>
    intro other mem
    rw [claimedIn_claimed] at mem
    obtain earlier | last := List.mem_append.mp mem
    · exact ih other earlier
    · rw [List.mem_singleton.mp last]
      exact ⟨calls, report, w, asked, before, claims⟩

/-- What was claimed in a drain was claimed after some of its rounds. -/
theorem Drains.claims {calls : List ClaimCall} {done : World σ}
    (h : p.Drains w result calls done) : ∀ claimed ∈ claimedIn calls, ∃ ceiling marked start,
      p.Ceiling w ceiling marked ∧ start.store = marked.store ∧
        p.Claims ceiling start claimed := by
  intro claimed mem
  cases h with
  | unmarked | nothing => cases mem
  | @rounds ceiling marked start last ended _ report calls _ _ ceiled begins rounds ends _ =>
    have store : start.store = marked.store := by
      cases begins
      rfl
    refine ⟨ceiling, marked, start, ceiled, store, ?_⟩
    cases ends with
    | full => exact rounds.claims claimed mem
    | idle =>
      rw [claimedIn_idle] at mem
      exact rounds.claims claimed mem
    | claimFailed =>
      rw [claimedIn_failed] at mem
      exact rounds.claims claimed mem
    | processFailed _ claims _ =>
      rw [claimedIn_claimed] at mem
      obtain earlier | own := List.mem_append.mp mem
      · exact rounds.claims claimed earlier
      · rw [List.mem_singleton.mp own]
        exact ⟨calls, report, last, _, rounds, claims⟩

end Processor

end SupplierSwitch
