import SupplierSwitch.Proofs.Memory.Dispatch
import SupplierSwitch.Proofs.Memory.Numbering
import SupplierSwitch.Proofs.Outbox.Invariants

namespace SupplierSwitch

/-!
# Calls, seen from the tables alone

Where it does not matter who calls the store, a history is what becomes of the tables. Whatever a
processor does is calls, so that what calls keep is kept by its dispatches.

* `Tables.Becomes` — calls of anybody, one after another;
* `Tables.Becomes.numbers`, `Tables.Becomes.proper`, `Tables.IsProcessed.becomes` — what they keep;
* `Memory.keeps_store`, `Memory.keeps_router` — a drain makes calls.
-/

namespace Tables

open Memory

variable {t t' : Tables} {ids : List CommandId}

/-- Some call turns the tables into others, whoever makes it. No unit has a key staged twice. -/
def Called (t t' : Tables) : Prop :=
  ∃ e, Effect t e t' ∧ ∀ n c now result, e = .committed n c now result → c.Tidy

/-- Any number of calls turn the tables into others. -/
def Becomes : Tables → Tables → Prop :=
  Relation.ReflTransGen Called

theorem Becomes.of_effect {e : Event} (h : Effect t e t')
    (tidy : ∀ n c now result, e = .committed n c now result → c.Tidy) : t.Becomes t' :=
  .single ⟨e, h, tidy⟩

/-- What clients do is calls, one after another. -/
theorem becomes_of_run {s s' : Shared} {log : List Event} (history : Run s log s')
    (tidy : s.Tidy) : s.tables.Becomes s'.tables := by
  induction history with
  | nil => exact .refl
  | @cons s m s' e log step _ ih =>
    refine .head ⟨e, step.effect, fun n c now result same => ?_⟩ (ih (step.tidy tidy))
    subst same
    exact tidy n c step.isOpen

/-- Calls keep the numbering, and number on. -/
theorem Becomes.numbers (h : t.Becomes t') (keyed : t.Keyed) (numbers : t.Numbers ids) :
    t'.Keyed ∧ ∃ more, t'.Numbers (ids ++ more) := by
  induction h with
  | refl => exact ⟨keyed, [], by rwa [List.append_nil]⟩
  | tail _ call ih =>
    obtain ⟨keyed, more, numbers⟩ := ih
    obtain ⟨e, effect, tidy⟩ := call
    refine ⟨effect.keyed keyed tidy, more ++ e.commits, ?_⟩
    rw [← List.append_assoc]
    exact effect.numbers keyed numbers

/-- Calls keep the tables in order, with every key once. -/
theorem Becomes.proper (h : t.Becomes t') (proper : t.Proper) : t'.Proper := by
  induction h with
  | refl => exact proper
  | tail _ call ih =>
    obtain ⟨e, effect, tidy⟩ := call
    exact ⟨effect.keyed ih.keyed tidy, effect.ordered ih.keyed tidy ih.ordered⟩

/-- The command is stored, and processed. -/
def IsProcessed (t : Tables) (id : CommandId) : Prop :=
  ∃ row, t.row? id = some row ∧ row.command.processed = true

end Tables

/-- What happens to the row of a processed command leaves it processed. -/
theorem Memory.RowStep.processed_later {id : CommandId} {e : Memory.Event} {row : CommandRow}
    {r' : Option CommandRow} (h : Memory.RowStep id e (some row) r')
    (processed : row.command.processed = true) :
    ∃ row', r' = some row' ∧ row'.command.processed = true := by
  cases h with
  | untouched => exact ⟨row, rfl, processed⟩
  | processed _ pending _ => exact absurd (processed.symm.trans pending) nofun
  | claimed => exact ⟨_, rfl, processed⟩
  | failed =>
    refine ⟨_, rfl, ?_⟩
    rw [Tables.failed_eq]
    exact processed
  | revived => exact ⟨_, rfl, processed⟩

namespace Tables

open Memory

variable {t t' : Tables}

theorem IsProcessed.becomes {id : CommandId} (processed : t.IsProcessed id) (proper : t.Proper)
    (h : t.Becomes t') : t'.IsProcessed id := by
  induction h with
  | refl => exact processed
  | @tail m t' before call ih =>
    obtain ⟨e, effect, tidy⟩ := call
    obtain ⟨row, found, processed⟩ := ih
    have keyed := (Becomes.proper before proper).keyed
    have step : RowStep id e (m.row? id) (t'.row? id) := effect.rowStep keyed tidy
    rw [found] at step
    exact step.processed_later processed

end Tables

/-! ### Drains make calls -/

namespace Memory

open Tables Processor

variable {start : Tables} {r : Router Handling} {config : ProcessorConfig}

/-- Whatever a drain asks of the store, calls are made. -/
theorem keeps_store : store.Keeps start.Becomes ChangeSet.Tidy where
  begin _ becomes := becomes
  opened := by
    rintro w unit w' ⟨⟩ _
    exact ChangeSet.tidy_empty
  answer question unit w tidy becomes :=
    ⟨ChangeSet.tidy_answer tidy w.store question, becomes⟩
  highWaterMark _ becomes := becomes
  commit c tidy w becomes := by
    rcases commits : (store.commit c).run w with ⟨result, w'⟩
    obtain ⟨now, ⟨done, -⟩ | ⟨e, -, -, same⟩⟩ := commit_cases commits
    · refine becomes.trans (Becomes.of_effect (.committed (n := 0) done) ?_)
      rintro _ _ _ _ ⟨⟩
      exact tidy
    · show start.Becomes w'.store
      rwa [same]
  claimNext filter w becomes := by
    rcases claims : (store.claimNext filter).run w with ⟨answer, w'⟩
    have yields : Yields (store.claimNext filter) _ w.store answer w'.store :=
      ⟨w, w', rfl, rfl, claims, rfl⟩
    show start.Becomes w'.store
    obtain ⟨-, -, same⟩ | ⟨row, token, next, -, same⟩ := yields_claimNext.mp yields
    · rwa [same]
    · have effect := @Effect.claimed _ _ _ row token next
      rw [same]
      refine becomes.trans (Becomes.of_effect effect ?_)
      rintro _ _ _ _ ⟨⟩
  recordFailure id token error policy now w becomes := by
    rcases records : (store.recordFailure id token error policy now).run w with ⟨recorded, w'⟩
    show start.Becomes w'.store
    obtain ⟨disposition, done, -⟩ | ⟨e, -, -, same⟩ := recordFailure_cases records
    · refine becomes.trans (Becomes.of_effect (.recorded done) ?_)
      rintro _ _ _ _ ⟨⟩
    · rwa [same]

theorem keeps_router (r : Router Handling) (config : ProcessorConfig) (command : InternalCommand)
    (now : Timestamp) :
    CommandStore.InUnit.Keeps start.Becomes ChangeSet.Tidy
      ((processor r config).router.dispatch command now) := by
  rw [show (processor r config).router.dispatch _ _ = _ from r.dispatch_runIn store _ _]
  exact keeps_store.runIn _

end Memory

end SupplierSwitch
