import SupplierSwitch.Proofs.Memory.Dispatch
import SupplierSwitch.Proofs.Memory.Retries

namespace SupplierSwitch

/-!
# A store with others at work

A drain is not alone with its store. Before each of its calls others may have done anything to the
tables; what a call then meets are these tables, and they are kept, so that one can say in which
state of things a drain did what it did.

* `Traffic`, `Traffic.store` — the store in memory with others at work, and `Traffic.processor`;
* `Traffic.complete_cases`, `Traffic.recordFailure_cases` — the calls at the end of a dispatch, by
  the tables that they meet;
* `Handling.Unmarking` — programs that mark no command, and `Traffic.processed_runIn` what they
  stage.
-/

/-- The store in memory with others at work. -/
structure Traffic where
  tables : Tables
  /-- What the others make of the tables before the call of a number. -/
  others : Nat → Tables → Tables
  /-- So many calls have been made. -/
  made : Nat
  /-- The tables that the last call has met. -/
  met : Tables

namespace Traffic

/-- The tables that the next call meets. -/
def turn (s : Traffic) : Tables :=
  s.others s.made s.tables

/-- The store after a call that has met its turn. -/
def took (s : Traffic) (t : Tables) : Traffic :=
  ⟨t, s.others, s.made + 1, s.turn⟩

/-- A call to the store in memory, after the others had their turn. -/
def call {α : Type} (work : Service Tables α) : Service Traffic α := fun w =>
  let (a, v) := work { w with store := w.store.turn }
  (a, { v with store := w.store.took v.store })

/-- The store in memory, where each call comes after the others had their turn. -/
def store : CommandStore Traffic ChangeSet where
  begin := call Memory.store.begin
  answer question unit := call (Memory.store.answer question unit)
  commit unit := call (Memory.store.commit unit)
  claimNext filter := call (Memory.store.claimNext filter)
  recordFailure id claim error policy now :=
    call (Memory.store.recordFailure id claim error policy now)
  get id := call (Memory.store.get id)
  highWaterMark := call Memory.store.highWaterMark
  deadLetters limit := call (Memory.store.deadLetters limit)
  retryDeadLetter id := call (Memory.store.retryDeadLetter id)
  stats := call Memory.store.stats

/-- The processor on this store, with handlers that reach the store through their unit. -/
def processor (r : Router Handling) (config : ProcessorConfig) : Processor Traffic ChangeSet :=
  ⟨store, r.interpret store.runIn, config⟩

/-- What the handler of a claimed command comes to, with what it stages. -/
def handled (r : Router Handling) (claimed : ClaimedCommand) (w : World Traffic) :
    Except DispatchError CommandOutcome × ChangeSet :=
  let opened := (store.begin.run (Processor.entered claimed w)).2
  ((store.runIn (r.dispatch claimed.command (w.clock.reading w.clock.taken)) .empty).run opened).1

open Memory Tables

variable {α : Type} {r : Router Handling} {config : ProcessorConfig} {claimed : ClaimedCommand}
  {c : ChangeSet} {w w' : World Traffic}

/-- A call does what it does alone, to the tables that it meets. -/
theorem call_cases {work : Service Tables α} {a : α} (calls : (call work).run w = (a, w')) :
    ∃ v, work.run { w with store := w.store.turn } = (a, v) ∧
      w.store.turn = w'.store.met ∧ v.store = w'.store.tables := by
  cases calls
  exact ⟨_, rfl, rfl, rfl⟩

/-- What the commit of a dispatch meets decides whether it is done as a whole or refused. -/
theorem complete_cases {completed : Except StoreError Unit}
    (completes : ((processor r config).complete claimed c).run w = (completed, w')) :
    ∃ now, (w'.store.met.commit (c.marking claimed) now = .ok w'.store.tables ∧
        completed = .ok ()) ∨
      ∃ e, w'.store.met.commit (c.marking claimed) now = .error e ∧ completed = .error e ∧
        w'.store.tables = w'.store.met := by
  -- The question to mark the command is a call of its own, and is granted whatever it meets.
  let asked := ((call (Memory.store.answer (.markProcessed claimed.command.id claimed.claim) c)).run
    w).2
  have commits : (call (Memory.store.commit (c.marking claimed))).run asked = (completed, w') :=
    completes
  obtain ⟨v, commits, met, tables⟩ := call_cases commits
  have cases := commit_cases commits
  rwa [tables, show ({ asked with store := asked.store.turn } : World Tables).store
    = w'.store.met from met] at cases

/-- What the record of a failure meets decides whether it is made. -/
theorem recordFailure_cases {id : CommandId} {token : ClaimToken} {error : String}
    {policy : RetryPolicy} {now : Timestamp} {recorded : Except StoreError FailureDisposition}
    (records : (store.recordFailure id token error policy now).run w = (recorded, w')) :
    (∃ disposition, w'.store.met.recordFailure id token error policy now
      = .ok (disposition, w'.store.tables) ∧ recorded = .ok disposition) ∨
    ∃ e, w'.store.met.recordFailure id token error policy now = .error e ∧ recorded = .error e ∧
      w'.store.tables = w'.store.met := by
  obtain ⟨v, records, met, tables⟩ := call_cases records
  have cases := Memory.recordFailure_cases records
  rwa [tables, show ({ w with store := w.store.turn } : World Tables).store
    = w'.store.met from met] at cases

/-- What is handed out is what the tables that are met have to offer. -/
theorem claimNext_cases {filter : ClaimFilter}
    (claims : (store.claimNext filter).run w = (.ok (some claimed), w')) :
    ∃ row now, w'.store.met.nextClaimable filter now = some row ∧ claimed.command = row.command ∧
      w'.store.tables = w'.store.met.claim row.command.id claimed.claim filter.lease now := by
  obtain ⟨v, claims, met, tables⟩ := call_cases claims
  have yields : Yields (Memory.store.claimNext filter) _ w.store.turn (.ok (some claimed))
      v.store :=
    ⟨_, v, rfl, rfl, claims, rfl⟩
  obtain ⟨-, none, -⟩ | ⟨row, token, next, same, claim⟩ := yields_claimNext.mp yields
  · cases none
  · cases same
    rw [tables, met] at claim
    exact ⟨row, _, met ▸ next, rfl, claim⟩

/-- Every command that is processed is dispatched, as a unit can always be opened. -/
theorem process_concludes (r : Router Handling) (config : ProcessorConfig)
    (claimed : ClaimedCommand) (report : DrainReport) (w : World Traffic) :
    let done := ((processor r config).process claimed report).run w
    ∃ now w₂, (processor r config).Concludes claimed now report (handled r claimed w).1
      (handled r claimed w).2 w₂ done.1 done.2 := by
  obtain ⟨e, w₁, begins, -⟩ | ⟨opened, unit, dispatched, w₁, w₂, begins, dispatches, concludes⟩ :=
    (processor r config).process_cases claimed report w
  · cases begins
  · rw [show (processor r config).router.dispatch _ _ = _ from r.dispatch_runIn store _ _]
      at dispatches
    cases begins
    have handles : handled r claimed w = (dispatched, unit) := congrArg Prod.fst dispatches
    rw [handles]
    exact ⟨_, w₂, concludes⟩

end Traffic

/-! ### Programs that mark no command -/

/-- The step marks no command. -/
def Action.Unmarking : Action → Prop
  | .ask (.markProcessed _ _) => False
  | _ => True

/-- Whatever the program is answered, it marks no command. -/
def Handling.Unmarking {α : Type} : Handling α → Prop
  | .done _ => True
  | .step action next => action.Unmarking ∧ ∀ answer, (next answer).Unmarking

/-- Every handler of the router leaves it to the processor to mark commands. -/
def Router.Unmarking (r : Router Handling) : Prop :=
  ∀ route ∈ r.routes, ∀ context payload, (route.handle context payload).Unmarking

theorem Router.Unmarking.dispatch {r : Router Handling} (h : r.Unmarking)
    (command : InternalCommand) (now : Timestamp) : (r.dispatch command now).Unmarking := by
  rw [Router.dispatch]
  cases found : r.find? command.kind with
  | none => exact trivial
  | some route => exact h route (List.mem_of_find?_eq_some found) _ _

namespace Traffic

/-- A program that marks nothing stages no mark, whatever others do. -/
theorem processed_runIn {α : Type} {program : Handling α} (unmarking : program.Unmarking)
    {c : ChangeSet} (unmarked : c.processed = []) (w : World Traffic) :
    ((store.runIn program c).run w).1.2.processed = [] := by
  induction program generalizing c w with
  | done a => exact unmarked
  | step action next ih =>
    obtain ⟨first, rest⟩ := unmarking
    let r := (store.meaning action c).run w
    have unmarked : r.1.2.processed = [] := by
      cases action with
      | ask call =>
        obtain same | ⟨id, claim, rfl⟩ := (Memory.answer_outbox w.store.turn c call).2
        · exact same.trans unmarked
        · exact first.elim
      | now | freshId | report _ => exact unmarked
    exact ih r.1.1 (rest r.1.1) unmarked r.2

theorem processed_handled {r : Router Handling} (unmarking : r.Unmarking)
    (claimed : ClaimedCommand) (w : World Traffic) : (handled r claimed w).2.processed = [] :=
  processed_runIn (unmarking.dispatch _ _) rfl _

end Traffic

end SupplierSwitch
