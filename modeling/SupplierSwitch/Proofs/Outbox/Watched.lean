import SupplierSwitch.Outbox.Drain

namespace SupplierSwitch

/-!
# Watched drains

To say how a drain goes about its store, its calls for the next command are written down: the
watched store does what the store does, and keeps a list of these calls beside the state. Only the
processor itself is watched; what handlers do to the store is not written down.

* `ClaimCall` and `CommandStore.watched` — a call with its answer, and the store that keeps them;
* `Processor.watched` — the processor on the watched store;
* `Processor.watched_process` — processing a command asks for no other command.
-/

variable {σ τ υ α β : Type}

/-- A call for the next command, with its answer. -/
structure ClaimCall where
  filter : ClaimFilter
  answer : Except StoreError (Option ClaimedCommand)

/-- The command that a call was answered with. -/
def ClaimCall.claimed? (call : ClaimCall) : Option ClaimedCommand :=
  match call.answer with
  | .ok claimed => claimed
  | .error _ => none

/-- The commands that were claimed in the calls, in order. -/
def claimedIn (calls : List ClaimCall) : List ClaimedCommand :=
  calls.filterMap (·.claimed?)

/-- A world with another state beside its store. -/
def World.beside (w : World σ) (t : τ) : World (σ × τ) :=
  { w with store := (w.store, t) }

/-- The store, with the calls for the next command written down in order. -/
def CommandStore.watched (store : CommandStore σ υ) : CommandStore (σ × List ClaimCall) υ :=
  { store.beside (List ClaimCall) with
    claimNext := fun filter => do
      let answer ← Service.onFirst (store.claimNext filter)
      Service.changeSecond (· ++ [⟨filter, answer⟩])
      pure answer }

/-- The processor on the watched store. -/
def Processor.watched (p : Processor σ υ) : Processor (σ × List ClaimCall) υ where
  store := p.store.watched
  router := p.router.interpret fun work unit => Service.onFirst (work unit)
  config := p.config

namespace Service

variable {work : Service σ α} {next : α → Service σ β}

theorem run_bind {a : α} {w w' : World σ} (h : work.run w = (a, w')) :
    (work >>= next).run w = (next a).run w' := by
  show (next (work.run w).1).run (work.run w).2 = _
  rw [h]

/-! ### Work on the first of two stores -/

theorem onFirst_run (work : Service σ α) (w : World σ) (t : τ) :
    (onFirst work).run (w.beside t) = ((work.run w).1, (work.run w).2.beside t) :=
  rfl

theorem onFirst_bind (work : Service σ α) (next : α → Service σ β) :
    (onFirst (work >>= next) : Service (σ × τ) β) = onFirst work >>= fun a => onFirst (next a) :=
  rfl

theorem onFirst_now : (onFirst now : Service (σ × τ) Timestamp) = now :=
  rfl

theorem onFirst_inSpan (span : Span) (work : Service σ α) :
    (onFirst (inSpan span work) : Service (σ × τ) α) = inSpan span (onFirst work) :=
  rfl

end Service

/-- A router whose handlers were given a meaning dispatches with that meaning. -/
theorem Router.dispatch_interpret {m n : Type → Type} [Monad m] [Monad n] (r : Router m)
    (meaning : {α : Type} → m α → n α)
    (pure_meaning : ∀ {α : Type} (a : α), meaning (pure a) = pure a) (command : InternalCommand)
    (now : Timestamp) :
    (r.interpret meaning).dispatch command now = meaning (r.dispatch command now) := by
  have found : (r.interpret meaning).find? command.kind
      = (r.find? command.kind).map (·.interpret meaning) := by
    rw [interpret, find?, find?, List.find?_map]
    rfl
  rw [dispatch, dispatch, found]
  cases r.find? command.kind with
  | none => exact (pure_meaning _).symm
  | some route => rfl

namespace Processor

open Service

variable (p : Processor σ υ) (claimed : ClaimedCommand)

/-! ### Processing, unwatched

Whatever processing does on the watched store, it does on the store alone. -/

theorem watched_fail (error : String) (now : Timestamp) (report : DrainReport) :
    p.watched.fail claimed error now report = onFirst (p.fail claimed error now report) := by
  rw [fail, fail, onFirst_bind]
  refine bind_congr fun recorded => ?_
  obtain e | ⟨attempts, notBefore⟩ | attempts := recorded
  · show (if e.isCommandLocal then _ else _) = onFirst (if e.isCommandLocal then _ else _)
    split <;> rfl
  · rfl
  · rfl

theorem watched_complete (unit : υ) :
    p.watched.complete claimed unit = onFirst (p.complete claimed unit) := by
  rw [complete, complete, onFirst_bind]
  refine bind_congr fun marked => ?_
  obtain ⟨_ | _, unit⟩ := marked
  · rfl
  · rfl

theorem watched_conclude (now : Timestamp) (report : DrainReport)
    (dispatched : Except DispatchError CommandOutcome) (unit : υ) :
    p.watched.conclude claimed now report dispatched unit
      = onFirst (p.conclude claimed now report dispatched unit) := by
  cases dispatched with
  | error e =>
    simp only [conclude, watched_fail]
    split <;> rfl
  | ok outcome =>
    simp only [conclude, watched_complete, watched_fail, onFirst_bind]
    refine bind_congr fun committed => ?_
    obtain e | _ := committed
    · cases e with
      | claimLost => rfl
      | _ =>
        dsimp only
        split <;> rfl
    · cases outcome <;> rfl

/-- Processing a command asks for no other command. -/
theorem watched_process (report : DrainReport) :
    p.watched.process claimed report = onFirst (p.process claimed report) := by
  rw [process, process, onFirst_inSpan, onFirst_bind, onFirst_now]
  refine congrArg (inSpan _) (bind_congr fun now => ?_)
  rw [onFirst_bind]
  refine bind_congr fun opened => ?_
  cases opened with
  | error e => rfl
  | ok unit =>
    have dispatched : p.watched.router.dispatch claimed.command now
        = fun unit => onFirst (p.router.dispatch claimed.command now unit) :=
      Router.dispatch_interpret _ _ (fun _ => rfl) _ _
    simp only [dispatched, watched_conclude]
    rfl

end Processor

end SupplierSwitch
