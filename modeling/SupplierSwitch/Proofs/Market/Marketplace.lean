import SupplierSwitch.Proofs.Market.Payload
import SupplierSwitch.Proofs.Memory.Programs

namespace SupplierSwitch

namespace Marketplace

open Memory

/-!
# The closed market

A store in memory that only market processors and intakes work on, in any number and any order. A
processor claims a command, begins a unit, runs the handler of the command in it one question at a
time, marks the command and commits; it may stop at any moment. Failures are recorded and commands
revived by anybody at any time.

* `Intake` and `Job` — what is taken in, what a unit of work is for, and the program it runs;
* `State`, `Step` and `Run` — the store with its clients, and histories of it;
* `Step.shared` — seen from the store, it is calls of clients and nothing else.
-/

/-- What is taken in from outside. -/
inductive Intake where
  | request (process : ProcessKind) (request : SupplyRequest)
  | result (result : AggregationResult)
  /-- A result under an identifier of the caller's choice. -/
  | resultUnder (id : CommandId) (result : AggregationResult)

namespace Intake

/-- Taking in what is taken in. -/
def work : Intake → Work CommandId
  | request process r => Market.receive process r
  | result r => Work.enqueue AggregationResult.kind r.toJson
  | resultUnder id r => Work.enqueueWithId id AggregationResult.kind r.toJson

/-- Taking in one thing after another, each whether or not the ones before it were refused. -/
def all : List Intake → Handling Unit
  | [] => pure ()
  | intake :: rest => do
    let _ ← intake.work.run
    all rest

end Intake

/-- What a unit of work is for. -/
inductive Job where
  | intake (intakes : List Intake)
  | handle (market : Market) (claimed : ClaimedCommand)

namespace Job

/-- The job is to take things in. -/
def TakesIn : Job → Prop
  | intake _ => True
  | handle _ _ => False

/-- What follows a dispatch: a command that has an outcome is marked. -/
def settle (claimed : ClaimedCommand) :
    Except DispatchError CommandOutcome → Handling (Option CommandOutcome)
  | .error _ => pure none
  | .ok outcome => do
    match ← Handling.perform (.ask (.markProcessed claimed.command.id claimed.claim)) with
    | .error _ => pure none
    | .ok () => pure (some outcome)

/-- The program of a job. Its result is the outcome under which the unit may be committed, if it
    may. -/
def program : Job → Handling (Option CommandOutcome)
  | intake intakes => do
    Intake.all intakes
    pure (some .completed)
  | handle market claimed => do
    let now ← Handling.perform .now
    settle claimed (← market.router.dispatch claimed.command now)

end Job

/-- What a client is doing. -/
inductive Client where
  | idle
  | holding (claimed : ClaimedCommand)
  /-- The program is what is left to do, the change set what the unit has staged so far. -/
  | working (job : Job) (staged : ChangeSet) (program : Handling (Option CommandOutcome))

namespace Client

/-- The unit of work that the client has open. -/
def unit : Client → Option ChangeSet
  | working _ staged _ => some staged
  | _ => none

/-- The client may begin the job: an intake at leisure, a command once it holds it. -/
inductive MayBegin : Client → Job → Prop where
  | intake (intakes : List Intake) : MayBegin idle (.intake intakes)
  | handle (market : Market) (claimed : ClaimedCommand) :
      MayBegin (holding claimed) (.handle market claimed)

theorem MayBegin.closed {client : Client} {job : Job} (h : client.MayBegin job) :
    client.unit = none := by
  cases h <;> rfl

/-- A client that was handed out a command holds it. -/
def ofClaim : Except StoreError (Option ClaimedCommand) → Client
  | .ok (some claimed) => holding claimed
  | _ => idle

end Client

/-- A command that was handled, with its outcome, in a unit that was committed. -/
structure Conclusion where
  command : InternalCommand
  outcome : CommandOutcome

/-- What the commit of a job concludes. -/
def Job.conclusions (outcome : CommandOutcome) : Job → Except StoreError Unit → List Conclusion
  | handle _ claimed, .ok _ => [⟨claimed.command, outcome⟩]
  | _, _ => []

/-- The store and its clients. -/
structure State where
  tables : Tables
  clients : Nat → Client

/-- The state after a client has gone on and left the tables as given. -/
def State.after (s : State) (n : Nat) (client : Client) (t : Tables) : State :=
  ⟨t, Function.update s.clients n client⟩

/-- One step of somebody, with the commands that it concludes. Identifiers that are issued for
    things to be taken in are fresh within the unit. -/
inductive Step : State → List Conclusion → State → Prop where
  | claim {s : State} {n : Nat} {filter : ClaimFilter} {now : Timestamp}
      {result : Except StoreError (Option ClaimedCommand)} {t : Tables} (free : s.clients n = .idle)
      (yields : Yields (store.claimNext filter) now s.tables result t) :
      Step s [] (s.after n (.ofClaim result) t)
  | begin {s : State} {n : Nat} {job : Job} {now : Timestamp} {c : ChangeSet} {t : Tables}
      (may : (s.clients n).MayBegin job) (yields : Yields store.begin now s.tables (.ok c) t) :
      Step s [] (s.after n (.working job c job.program) t)
  | work {s : State} {n : Nat} {job : Job} {c c' : ChangeSet} {action : Action}
      {next : action.Answer → Handling (Option CommandOutcome)} {now : Timestamp}
      {answer : action.Answer} {t : Tables}
      (busy : s.clients n = .working job c (.step action next))
      (yields : Yields (store.meaning action c) now s.tables (answer, c') t)
      (fresh : job.TakesIn → Fresh c action answer) :
      Step s [] (s.after n (.working job c' (next answer)) t)
  | commit {s : State} {n : Nat} {job : Job} {c : ChangeSet} {outcome : CommandOutcome}
      {now : Timestamp} {result : Except StoreError Unit} {t : Tables}
      (busy : s.clients n = .working job c (.done (some outcome)))
      (yields : Yields (store.commit c) now s.tables result t) :
      Step s (job.conclusions outcome result) (s.after n .idle t)
  | leave {s : State} {n : Nat} : Step s [] (s.after n .idle s.tables)
  | record {s : State} {id : CommandId} {token : ClaimToken} {error : String} {policy : RetryPolicy}
      {now reading : Timestamp} {result : Except StoreError FailureDisposition} {t : Tables}
      (yields : Yields (store.recordFailure id token error policy now) reading s.tables result t) :
      Step s [] { s with tables := t }
  | retry {s : State} {id : CommandId} {now : Timestamp}
      {result : Except StoreError InternalCommand} {t : Tables}
      (yields : Yields (store.retryDeadLetter id) now s.tables result t) :
      Step s [] { s with tables := t }

/-- A history, with the commands that were concluded in it, in order. -/
inductive Run : State → List Conclusion → State → Prop where
  | nil (s : State) : Run s [] s
  | step {s m s' : State} {log concluded : List Conclusion} (before : Run s log m)
      (step : Step m concluded s') : Run s (log ++ concluded) s'

/-- A store that holds accounting points without processes and nothing else, and nobody at work. -/
structure State.Seeded (s : State) : Prop where
  commands : s.tables.commands = []
  transactions : s.tables.transactions = []
  numbers : (s.tables.points.map (·.gsrn.text)).Nodup
  processes : ∀ point ∈ s.tables.points, point.processes = []
  clients : ∀ n, s.clients n = .idle

/-! ### Seen from the store -/

/-- The store with the units that are open. -/
def State.shared (s : State) : Shared :=
  ⟨s.tables, fun n => (s.clients n).unit⟩

theorem State.shared_after (s : State) (n : Nat) (client : Client) (t : Tables) :
    (s.after n client t).shared = ⟨t, Function.update s.shared.units n client.unit⟩ := by
  simp only [shared, after, Shared.mk.injEq, true_and]
  funext m
  by_cases h : m = n
  · subst h; simp
  · simp [Function.update_of_ne h]

theorem State.shared_after_of_unit (s : State) {n : Nat} {client : Client} (t : Tables)
    (h : client.unit = (s.clients n).unit) : (s.after n client t).shared = ⟨t, s.shared.units⟩ := by
  have same : Function.update s.shared.units n client.unit = s.shared.units := by
    rw [h]; exact Function.update_eq_self n _
  rw [shared_after, same]

/-- Seen from the store, a step is a call of a client, or nothing. -/
theorem Step.shared {s s' : State} {concluded : List Conclusion} (h : Step s concluded s') :
    s'.shared = s.shared ∨ ∃ e, Memory.Step s.shared e s'.shared := by
  cases h with
  | @claim n filter now result t free yields =>
    have unit : (Client.ofClaim result).unit = (s.clients n).unit := by
      rw [free]; obtain e | _ | claimed := result <;> rfl
    rw [s.shared_after_of_unit t unit]
    exact .inr ⟨_, .claim yields⟩
  | @begin n job now c t may yields =>
    rw [State.shared_after]
    exact .inr ⟨_, .begin may.closed yields⟩
  | @work n job c c' action next now answer t busy yields fresh =>
    have isOpen : s.shared.units n = some c := by
      show (s.clients n).unit = some c
      rw [busy]; rfl
    -- Of the actions of a program only questions are calls; the others do not reach the store.
    cases action with
    | ask call =>
      rw [State.shared_after]
      exact .inr ⟨_, .ask isOpen yields⟩
    | now | report _ =>
      obtain ⟨rfl, -, rfl⟩ :=
        @responds_of_yields ⟨fun _ => True, _⟩ _ _ _ _ _ _ _ trivial yields fresh
      exact .inl (State.shared_after_of_unit s _ isOpen.symm)
    | freshId =>
      obtain ⟨rfl, -, rfl, -⟩ :=
        @responds_of_yields ⟨fun _ => True, _⟩ _ _ _ _ _ _ _ trivial yields fresh
      exact .inl (State.shared_after_of_unit s _ isOpen.symm)
  | @commit n job c outcome now result t busy yields =>
    have isOpen : s.shared.units n = some c := by
      show (s.clients n).unit = some c
      rw [busy]; rfl
    rw [State.shared_after]
    exact .inr ⟨_, .commit isOpen yields⟩
  | leave =>
    rw [State.shared_after]
    exact .inr ⟨_, .drop⟩
  | record yields => exact .inr ⟨_, .record yields⟩
  | retry yields => exact .inr ⟨_, .retry yields⟩

end Marketplace

end SupplierSwitch
