import SupplierSwitch.Memory.Store
import SupplierSwitch.Proofs.Memory.Staging
import Mathlib.Data.List.Induction
import Mathlib.Logic.Function.Basic

namespace SupplierSwitch

namespace Memory

/-!
# The store in the hands of many clients

Any number of clients call the store in any order. Every call takes effect at once; what a client
does between two calls of its own is nobody's business, so a history is a list of calls with their
answers, under arbitrary clock readings and arbitrary identifiers.

* `Shared`, `Event`, `Step`, `Run` — the store with its open units, the calls, and histories of
  them.
* `Effect` and `Step.effect` — all that a call may do to the tables, said once.
* `Run.invariant` — what every call keeps, every history keeps; `Run.tidy` is its first use.
-/

/-- `work`, done when the clock shows `now`, answers `a` and turns the tables `t` into `t'`. Which
    identifiers are issued meanwhile is left open. -/
def Yields {α : Type} (work : Service Tables α) (now : Timestamp) (t : Tables) (a : α)
    (t' : Tables) : Prop :=
  ∃ w v : World Tables, w.store = t ∧ w.clock.reading w.clock.taken = now ∧
    work.run w = (a, v) ∧ v.store = t'

/-- The store with the units of work that are open, by number. -/
structure Shared where
  tables : Tables
  units : Nat → Option ChangeSet

/-- A store that nothing was committed to and that nobody works on. -/
def Shared.empty : Shared := ⟨.empty, fun _ => none⟩

/-- A call of a client with what it was answered. -/
inductive Event where
  | began (unit : Nat)
  | asked (unit : Nat) (call : UnitCall) (answer : call.Answer)
  /-- The change set is what the unit had staged. -/
  | committed (unit : Nat) (staged : ChangeSet) (now : Timestamp) (result : Except StoreError Unit)
  | dropped (unit : Nat)
  | claimed (filter : ClaimFilter) (now : Timestamp)
      (result : Except StoreError (Option ClaimedCommand))
  | recorded (id : CommandId) (token : ClaimToken) (error : String) (policy : RetryPolicy)
      (now : Timestamp) (result : Except StoreError FailureDisposition)
  | retried (id : CommandId) (result : Except StoreError InternalCommand)

/-- One call. A unit of work ends with its commit, whatever comes of it, or when it is dropped. -/
inductive Step : Shared → Event → Shared → Prop where
  | begin {s : Shared} {n : Nat} {now : Timestamp} {c : ChangeSet} {t : Tables}
      (closed : s.units n = none) (yields : Yields store.begin now s.tables (.ok c) t) :
      Step s (.began n) ⟨t, Function.update s.units n (some c)⟩
  | ask {s : Shared} {n : Nat} {c c' : ChangeSet} {now : Timestamp} {t : Tables} {call : UnitCall}
      {answer : call.Answer} (isOpen : s.units n = some c)
      (yields : Yields (store.answer call c) now s.tables (answer, c') t) :
      Step s (.asked n call answer) ⟨t, Function.update s.units n (some c')⟩
  | commit {s : Shared} {n : Nat} {c : ChangeSet} {now : Timestamp}
      {result : Except StoreError Unit} {t : Tables} (isOpen : s.units n = some c)
      (yields : Yields (store.commit c) now s.tables result t) :
      Step s (.committed n c now result) ⟨t, Function.update s.units n none⟩
  | drop {s : Shared} {n : Nat} :
      Step s (.dropped n) { s with units := Function.update s.units n none }
  | claim {s : Shared} {filter : ClaimFilter} {now : Timestamp}
      {result : Except StoreError (Option ClaimedCommand)} {t : Tables}
      (yields : Yields (store.claimNext filter) now s.tables result t) :
      Step s (.claimed filter now result) { s with tables := t }
  | record {s : Shared} {id : CommandId} {token : ClaimToken} {error : String}
      {policy : RetryPolicy} {now reading : Timestamp}
      {result : Except StoreError FailureDisposition} {t : Tables}
      (yields : Yields (store.recordFailure id token error policy now) reading s.tables result t) :
      Step s (.recorded id token error policy now result) { s with tables := t }
  | retry {s : Shared} {id : CommandId} {now : Timestamp}
      {result : Except StoreError InternalCommand} {t : Tables}
      (yields : Yields (store.retryDeadLetter id) now s.tables result t) :
      Step s (.retried id result) { s with tables := t }

/-- A history: calls of any clients, one after another. -/
inductive Run : Shared → List Event → Shared → Prop where
  | nil (s : Shared) : Run s [] s
  | cons {s m s' : Shared} {e : Event} {log : List Event} (step : Step s e m)
      (rest : Run m log s') : Run s (e :: log) s'

/-! ### What each operation yields -/

/-- Surroundings in which the clock stands still and one identifier is issued over and over. -/
def still (t : Tables) (now : Timestamp) (id : Uuid) : World Tables :=
  ⟨t, ⟨fun _ => now, 0⟩, ⟨fun _ => id, 0⟩, [], []⟩

variable {now : Timestamp} {t t' : Tables}

theorem yields_begin {r : Except StoreError ChangeSet} :
    Yields store.begin now t r t' ↔ r = .ok .empty ∧ t' = t := by
  constructor
  · rintro ⟨w, v, rfl, -, hrun, rfl⟩
    cases hrun
    exact ⟨rfl, rfl⟩
  · rintro ⟨rfl, rfl⟩
    exact ⟨still t' now .zero, _, rfl, rfl, rfl, rfl⟩

theorem yields_answer {call : UnitCall} {c : ChangeSet} {r : call.Answer × ChangeSet} :
    Yields (store.answer call c) now t r t' ↔ r = t.answer call c ∧ t' = t := by
  constructor
  · rintro ⟨w, v, rfl, -, hrun, rfl⟩
    cases hrun
    exact ⟨rfl, rfl⟩
  · rintro ⟨rfl, rfl⟩
    exact ⟨still t' now .zero, _, rfl, rfl, rfl, rfl⟩

theorem run_change {α : Type} (f : Tables → Except StoreError (α × Tables)) (w : World Tables) :
    (change f).run w = match f w.store with
      | .error e => (.error e, w)
      | .ok (a, t) => (.ok a, { w with store := t }) := by
  show (match f w.store with
    | .error e => pure (.error e)
    | .ok (a, t) => do
      Service.writeStore t
      pure (.ok a) : Service Tables (Except StoreError α)).run w = _
  cases f w.store with
  | error e => rfl
  | ok done => rfl

/-- The world after a reading of the clock. -/
def ticked (w : World Tables) : World Tables :=
  { w with clock := { w.clock with taken := w.clock.taken + 1 } }

/-- An operation that changes the tables if it succeeds. -/
theorem yields_change {α : Type} {f : Tables → Except StoreError (α × Tables)}
    {r : Except StoreError α} :
    Yields (change f) now t r t' ↔
      (∃ a, f t = .ok (a, t') ∧ r = .ok a) ∨ (∃ e, f t = .error e ∧ r = .error e ∧ t' = t) := by
  constructor
  · rintro ⟨w, v, rfl, -, hrun, rfl⟩
    rw [run_change] at hrun
    cases hf : f w.store with
    | error e => rw [hf] at hrun; cases hrun; exact .inr ⟨e, rfl, rfl, rfl⟩
    | ok done => rw [hf] at hrun; cases hrun; exact .inl ⟨done.1, rfl, rfl⟩
  -- Conversely any surroundings will do that hold these tables and show this instant.
  · rintro (⟨a, hf, rfl⟩ | ⟨e, hf, rfl, rfl⟩)
    · refine ⟨still t now .zero, { still t now .zero with store := t' }, rfl, rfl, ?_, rfl⟩
      rw [run_change, still, hf]
    · refine ⟨still t' now .zero, still t' now .zero, rfl, rfl, ?_, rfl⟩
      rw [run_change, still, hf]

/-- An empty change set would be applied without a trace, so that it need not be treated apart. -/
theorem commit_of_isEmpty {c : ChangeSet} (h : c.isEmpty) : t.commit c now = .ok t := by
  obtain ⟨commands, processed, transactions, points⟩ := c
  simp only [ChangeSet.isEmpty, Bool.and_eq_true, List.isEmpty_iff] at h
  obtain ⟨⟨⟨rfl, rfl⟩, rfl⟩, rfl⟩ := h
  rfl

/-- A commit reads the clock, and what it shows is the stamp of the marks. -/
theorem run_commit {c : ChangeSet} (h : ¬ c.isEmpty) (w : World Tables) :
    (commit c).run w
      = match w.store.commit c (w.clock.reading w.clock.taken) with
        | .error e => (.error e, ticked w)
        | .ok t => (.ok (), { ticked w with store := t }) := by
  have tick : (commit c).run w = (change fun t =>
      (t.commit c (w.clock.reading w.clock.taken)).map ((), ·)).run (ticked w) := by
    rw [commit, if_neg h]; rfl
  rw [tick, run_change]
  simp only [ticked]
  cases w.store.commit c (w.clock.reading w.clock.taken) with
  | error e => rfl
  | ok t => rfl

theorem yields_commit {c : ChangeSet} {r : Except StoreError Unit} :
    Yields (store.commit c) now t r t' ↔
      (t.commit c now = .ok t' ∧ r = .ok ()) ∨
        (∃ e, t.commit c now = .error e ∧ r = .error e ∧ t' = t) := by
  show Yields (commit c) now t r t' ↔ _
  -- An empty unit is committed without a look at the clock.
  by_cases h : c.isEmpty
  · rw [commit_of_isEmpty h, commit, if_pos h]
    constructor
    · rintro ⟨w, v, rfl, -, hrun, rfl⟩
      cases hrun
      exact .inl ⟨rfl, rfl⟩
    · rintro (⟨h, rfl⟩ | ⟨e, h, -, -⟩)
      · cases h; exact ⟨still t now .zero, _, rfl, rfl, rfl, rfl⟩
      · cases h
  · constructor
    · rintro ⟨w, v, rfl, rfl, hrun, rfl⟩
      rw [run_commit h] at hrun
      cases hf : w.store.commit c (w.clock.reading w.clock.taken) with
      | error e => rw [hf] at hrun; cases hrun; exact .inr ⟨e, rfl, rfl, rfl⟩
      | ok done => rw [hf] at hrun; cases hrun; exact .inl ⟨rfl, rfl⟩
    · rintro (⟨hf, rfl⟩ | ⟨e, hf, rfl, rfl⟩)
      · refine ⟨still t now .zero, { ticked (still t now .zero) with store := t' },
          rfl, rfl, ?_, rfl⟩
        rw [run_commit h, still, hf]
      · refine ⟨still t' now .zero, ticked (still t' now .zero), rfl, rfl, ?_, rfl⟩
        rw [run_commit h, still, hf]

/-- A claim reads the clock and issues a token. -/
theorem run_claimNext (filter : ClaimFilter) (w : World Tables) :
    (claimNext filter).run w
      = match w.store.nextClaimable filter (w.clock.reading w.clock.taken) with
        | none => (.ok none, ticked w)
        | some row =>
          (.ok (some ⟨row.command, ⟨w.ids.issue w.ids.issued⟩⟩),
            { ticked w with
              ids := { w.ids with issued := w.ids.issued + 1 }
              store := w.store.claim row.command.id ⟨w.ids.issue w.ids.issued⟩ filter.lease
                (w.clock.reading w.clock.taken) }) := by
  show (match w.store.nextClaimable filter (w.clock.reading w.clock.taken) with
    | none => pure (.ok none)
    | some row => do
      let token : ClaimToken := ⟨← Service.freshId⟩
      Service.writeStore (w.store.claim row.command.id token filter.lease
        (w.clock.reading w.clock.taken))
      pure (.ok (some ⟨row.command, token⟩)) :
    Service Tables (Except StoreError (Option ClaimedCommand))).run (ticked w) = _
  cases w.store.nextClaimable filter (w.clock.reading w.clock.taken) with
  | none => rfl
  | some row => rfl

theorem yields_claimNext {filter : ClaimFilter} {r : Except StoreError (Option ClaimedCommand)} :
    Yields (store.claimNext filter) now t r t' ↔
      (t.nextClaimable filter now = none ∧ r = .ok none ∧ t' = t) ∨
        (∃ row token, t.nextClaimable filter now = some row ∧ r = .ok (some ⟨row.command, token⟩) ∧
          t' = t.claim row.command.id token filter.lease now) := by
  show Yields (claimNext filter) now t r t' ↔ _
  constructor
  · rintro ⟨w, v, rfl, rfl, hrun, rfl⟩
    rw [run_claimNext] at hrun
    cases hnext : w.store.nextClaimable filter (w.clock.reading w.clock.taken) with
    | none => rw [hnext] at hrun; cases hrun; exact .inl ⟨rfl, rfl, rfl⟩
    | some row =>
      rw [hnext] at hrun
      cases hrun
      exact .inr ⟨row, ⟨w.ids.issue w.ids.issued⟩, rfl, rfl, rfl⟩
  · rintro (⟨hnext, rfl, rfl⟩ | ⟨row, token, hnext, rfl, rfl⟩)
    · refine ⟨still t' now .zero, ticked (still t' now .zero), rfl, rfl, ?_, rfl⟩
      rw [run_claimNext, still, hnext]
    · -- Any token may be the one that is issued.
      refine ⟨still t now token.uuid, { ticked (still t now token.uuid) with
        ids := ⟨fun _ => token.uuid, 1⟩
        store := t.claim row.command.id token filter.lease now }, rfl, rfl, ?_, rfl⟩
      rw [run_claimNext, still, hnext]

/-- Any unit may begin that is not open, … -/
theorem step_begin {s : Shared} {n : Nat} (closed : s.units n = none) :
    Step s (.began n) { s with units := Function.update s.units n (some .empty) } :=
  @Step.begin s n .epoch _ _ closed (yields_begin.mpr ⟨rfl, rfl⟩)

/-- … and an open one may be asked anything. -/
theorem step_ask {s : Shared} {n : Nat} {c : ChangeSet} (isOpen : s.units n = some c)
    (call : UnitCall) :
    Step s (.asked n call (s.tables.answer call c).1)
      { s with units := Function.update s.units n (some (s.tables.answer call c).2) } :=
  @Step.ask s n c _ .epoch _ call _ isOpen (yields_answer.mpr ⟨rfl, rfl⟩)

/-! ### What a call does to the tables -/

/-- All that a call may do to the tables `t`, by what is reported of it: a call that fails, and a
    question to a unit, do nothing. -/
inductive Effect (t : Tables) : Event → Tables → Prop where
  | began (n : Nat) : Effect t (.began n) t
  | asked (n : Nat) (call : UnitCall) (answer : call.Answer) : Effect t (.asked n call answer) t
  | dropped (n : Nat) : Effect t (.dropped n) t
  | committed {n : Nat} {c : ChangeSet} {now : Timestamp} {t' : Tables}
      (done : t.commit c now = .ok t') : Effect t (.committed n c now (.ok ())) t'
  | refused {n : Nat} {c : ChangeSet} {now : Timestamp} {e : StoreError}
      (failed : t.commit c now = .error e) : Effect t (.committed n c now (.error e)) t
  | idle {filter : ClaimFilter} {now : Timestamp} (nothing : t.nextClaimable filter now = none) :
      Effect t (.claimed filter now (.ok none)) t
  | claimed {filter : ClaimFilter} {now : Timestamp} {row : CommandRow} {token : ClaimToken}
      (next : t.nextClaimable filter now = some row) :
      Effect t (.claimed filter now (.ok (some ⟨row.command, token⟩)))
        (t.claim row.command.id token filter.lease now)
  | recorded {id : CommandId} {token : ClaimToken} {error : String} {policy : RetryPolicy}
      {now : Timestamp} {disposition : FailureDisposition} {t' : Tables}
      (done : t.recordFailure id token error policy now = .ok (disposition, t')) :
      Effect t (.recorded id token error policy now (.ok disposition)) t'
  | unrecorded {id : CommandId} {token : ClaimToken} {error : String} {policy : RetryPolicy}
      {now : Timestamp} {e : StoreError}
      (failed : t.recordFailure id token error policy now = .error e) :
      Effect t (.recorded id token error policy now (.error e)) t
  | retried {id : CommandId} {command : InternalCommand} {t' : Tables}
      (done : t.retryDeadLetter id = .ok (command, t')) : Effect t (.retried id (.ok command)) t'
  | unretried {id : CommandId} {e : StoreError} (failed : t.retryDeadLetter id = .error e) :
      Effect t (.retried id (.error e)) t

theorem Step.effect {s s' : Shared} {e : Event} (h : Step s e s') :
    Effect s.tables e s'.tables := by
  cases h with
  | begin closed yields =>
    obtain ⟨-, rfl⟩ := yields_begin.mp yields
    exact .began _
  | ask isOpen yields =>
    obtain ⟨-, rfl⟩ := yields_answer.mp yields
    exact .asked _ _ _
  | commit isOpen yields =>
    obtain ⟨done, rfl⟩ | ⟨e, failed, rfl, rfl⟩ := yields_commit.mp yields
    · exact .committed done
    · exact .refused failed
  | drop => exact .dropped _
  | claim yields =>
    obtain ⟨nothing, rfl, rfl⟩ | ⟨row, token, next, rfl, rfl⟩ := yields_claimNext.mp yields
    · exact .idle nothing
    · exact .claimed next
  | record yields =>
    obtain ⟨disposition, done, rfl⟩ | ⟨e, failed, rfl, rfl⟩ := yields_change.mp yields
    · exact .recorded done
    · exact .unrecorded failed
  | retry yields =>
    obtain ⟨command, done, rfl⟩ | ⟨e, failed, rfl, rfl⟩ := yields_change.mp yields
    · exact .retried done
    · exact .unretried failed

/-! ### Open units -/

/-- How an open unit comes to be as it is: it has just begun, it was just asked, or it was open and
    as it is before the call. -/
theorem Step.unit_cases {s s' : Shared} {e : Event} {n : Nat} {c : ChangeSet} (h : Step s e s')
    (isOpen : s'.units n = some c) :
    (e = .began n ∧ c = .empty ∧ s'.tables = s.tables) ∨
      (∃ call answer c₀, e = .asked n call answer ∧ s.units n = some c₀ ∧
        s.tables.answer call c₀ = (answer, c) ∧ s'.tables = s.tables) ∨
      (s.units n = some c ∧ e ≠ .began n ∧ ∀ call answer, e ≠ .asked n call answer) := by
  cases h with
  | @begin m now c' t closed yields =>
    obtain ⟨empty, rfl⟩ := yields_begin.mp yields
    cases empty
    by_cases same : n = m
    · subst same
      simp only [Function.update_self, Option.some.injEq] at isOpen
      exact .inl ⟨rfl, isOpen.symm, rfl⟩
    · simp only [Function.update_of_ne same] at isOpen
      refine .inr (.inr ⟨isOpen, ?_, fun _ _ => nofun⟩)
      rintro ⟨⟩
      exact same rfl
  | @ask m c₀ c' now t call answer before yields =>
    obtain ⟨answered, rfl⟩ := yields_answer.mp yields
    by_cases same : n = m
    · subst same
      simp only [Function.update_self, Option.some.injEq] at isOpen
      subst isOpen
      exact .inr (.inl ⟨call, answer, c₀, rfl, before, answered.symm, rfl⟩)
    · simp only [Function.update_of_ne same] at isOpen
      refine .inr (.inr ⟨isOpen, nofun, ?_⟩)
      rintro _ _ ⟨⟩
      exact same rfl
  | @commit m c' now result t before yields =>
    by_cases same : n = m
    · subst same
      simp at isOpen
    · simp only [Function.update_of_ne same] at isOpen
      exact .inr (.inr ⟨isOpen, nofun, fun _ _ => nofun⟩)
  | @drop m =>
    by_cases same : n = m
    · subst same
      simp at isOpen
    · simp only [Function.update_of_ne same] at isOpen
      exact .inr (.inr ⟨isOpen, nofun, fun _ _ => nofun⟩)
  | claim _ | record _ | retry _ => exact .inr (.inr ⟨isOpen, nofun, fun _ _ => nofun⟩)

/-! ### Histories -/

theorem exists_run_cons {s m : Shared} {e : Event} {log : List Event} (step : Step s e m)
    (rest : ∃ s', Run m log s') : ∃ s', Run s (e :: log) s' := by
  obtain ⟨s', rest⟩ := rest
  exact ⟨s', .cons step rest⟩

theorem run_append {s s' : Shared} {before after : List Event} :
    Run s (before ++ after) s' ↔ ∃ m, Run s before m ∧ Run m after s' := by
  constructor
  · intro h
    induction before generalizing s with
    | nil => exact ⟨s, .nil s, h⟩
    | cons e before ih =>
      cases h with
      | cons step rest =>
        obtain ⟨m, hbefore, hafter⟩ := ih rest
        exact ⟨m, .cons step hbefore, hafter⟩
  · rintro ⟨m, hbefore, hafter⟩
    induction hbefore with
    | nil => exact hafter
    | cons step _ ih => exact .cons step (ih hafter)

/-- What every call keeps, every history keeps. -/
theorem Run.invariant {P : Shared → Prop} (step : ∀ s e s', P s → Step s e s' → P s')
    {s s' : Shared} {log : List Event} (h : Run s log s') (start : P s) : P s' := by
  induction h with
  | nil => exact start
  | cons next _ ih => exact ih (step _ _ _ start next)

/-- What holds at the start and is kept by every call holds after every history, whatever is
    remembered of it. -/
theorem Run.snoc_induction {s : Shared} {log : List Event} {P : List Event → Shared → Prop}
    (nil : P [] .empty)
    (snoc : ∀ log s e s', Run .empty log s → Step s e s' → P log s → P (log ++ [e]) s')
    (h : Run .empty log s) : P log s := by
  induction log using List.reverseRecOn generalizing s with
  | nil =>
    cases h
    exact nil
  | append_singleton log e ih =>
    obtain ⟨m, first, last⟩ := run_append.mp h
    obtain _ | ⟨step, _ | _⟩ := last
    exact snoc log m e s first step (ih first)

/-- Every open unit is tidy. -/
def Shared.Tidy (s : Shared) : Prop :=
  ∀ n c, s.units n = some c → c.Tidy

theorem Step.tidy {s s' : Shared} {e : Event} (h : s.Tidy) (step : Step s e s') : s'.Tidy := by
  intro n c isOpen
  obtain ⟨-, rfl, -⟩ | ⟨call, answer, c₀, -, before, answered, -⟩ | ⟨same, -, -⟩ :=
    step.unit_cases isOpen
  · exact ChangeSet.tidy_empty
  · have tidy := ChangeSet.tidy_answer (h n c₀ before) s.tables call
    rwa [answered] at tidy
  · exact h n c same

theorem Run.tidy {s : Shared} {log : List Event} (h : Run .empty log s) : s.Tidy :=
  h.invariant (fun _ _ _ => Step.tidy) fun _ _ none => nomatch none

end Memory

end SupplierSwitch
