import SupplierSwitch.Proofs.Market.Marketplace
import SupplierSwitch.Proofs.Outbox.Watched
import SupplierSwitch.Startup

namespace SupplierSwitch

/-!
# Work at one go

Taking things in and draining the store, each done at one go on the store in memory, are histories
of the closed market: nothing is done that a client could not do step by step. What is true of all
histories is therefore true of them, and of what comes of them between the steps of others.

* `Marketplace.takeIn` and `Marketplace.takeIn_run` — taking in, if issued identifiers are fresh;
* `Marketplace.Plays` — a piece of work that takes a client from one state to another by steps of
  its own, with a rule for each part of a drain;
* `Marketplace.drain_run` — a drain by the processor of the market.
-/

namespace Marketplace

open Memory

theorem Run.trans {s m s' : State} {log log' : List Conclusion} (h : Run s log m)
    (h' : Run m log' s') : Run s (log ++ log') s' := by
  induction h' with
  | nil => rwa [List.append_nil]
  | step before step ih => rw [← List.append_assoc]; exact ih.step step

theorem Run.single {s s' : State} {concluded : List Conclusion} (step : Step s concluded s') :
    ∃ log, Run s log s' :=
  ⟨_, .step (.nil s) step⟩

theorem State.after_same (s : State) {n : Nat} {client : Client} (h : s.clients n = client) :
    s.after n client s.tables = s := by
  rw [← h, State.after, Function.update_eq_self]

theorem State.after_after (s : State) (n : Nat) (client client' : Client) (t t' : Tables) :
    (s.after n client t).after n client' t' = s.after n client' t' := by
  rw [State.after, State.after, Function.update_idem]
  rfl

variable {α β : Type}

/-! ### Programs at one go -/

/-- Every identifier that is issued to the program is fresh within its unit. -/
def FreshIn : Handling α → ChangeSet → World Tables → Prop
  | .done _, _, _ => True
  | .step action next, c, w =>
    let r := (store.meaning action c).run w
    Fresh c action r.1.1 ∧ FreshIn (next r.1.1) r.1.2 r.2

instance FreshIn.decidable : (program : Handling α) → (c : ChangeSet) → (w : World Tables) →
    Decidable (FreshIn program c w)
  | .done _, _, _ => inferInstanceAs (Decidable True)
  | .step action next, c, w =>
    let r := (store.meaning action c).run w
    @instDecidableAnd _ _ inferInstance (FreshIn.decidable (next r.1.1) r.1.2 r.2)

/-- A program that is run from its beginning to its end, as part of the program of a job. -/
theorem run_program {job : Job} {c : ChangeSet} {program : Handling β}
    {next : β → Handling (Option CommandOutcome)} {s : State} {n : Nat} {w : World Tables}
    (busy : s.clients n = .working job c (program >>= next)) (here : w.store = s.tables)
    (fresh : job.TakesIn → FreshIn program c w) :
    let r := (store.runIn program c).run w
    ∃ log, Run s log (s.after n (.working job r.1.2 (next r.1.1)) r.2.store) := by
  induction program generalizing s c w with
  -- A program that is done is no step at all.
  | done b =>
    have busy : s.clients n = .working job c (next b) := busy
    show ∃ log, Run s log (s.after n (.working job c (next b)) w.store)
    rw [here, s.after_same busy]
    exact ⟨[], .nil s⟩
  | step action rest ih =>
    let r := (store.meaning action c).run w
    have first : Step s [] (s.after n (.working job r.1.2 (rest r.1.1 >>= next)) r.2.store) :=
      .work busy ⟨w, _, here, rfl, rfl, rfl⟩ fun takes => (fresh takes).1
    obtain ⟨log, run⟩ := ih r.1.1 (s := s.after n _ r.2.store) (Function.update_self ..) rfl
      fun takes => (fresh takes).2
    rw [State.after_after] at run
    exact ⟨_, ((Run.nil s).step first).trans run⟩

/-! ### Intakes -/

/-- Take things in, in a unit of their own. -/
def takeIn (intakes : List Intake) : Service Tables (Except StoreError Unit) := do
  match ← store.begin with
  | .error e => pure (.error e)
  | .ok c => do
    let (_, c) ← (store.runIn (Intake.all intakes)).run c
    store.commit c

/-- What is taken in at one go could be taken in step by step. -/
theorem takeIn_run (intakes : List Intake) {s : State} {n : Nat} (free : s.clients n = .idle)
    {w : World Tables} (here : w.store = s.tables) (fresh : FreshIn (Intake.all intakes) .empty w) :
    ∃ log, Run s log ⟨((takeIn intakes).run w).2.store, s.clients⟩ := by
  let job : Job := .intake intakes
  let opened := s.after n (.working job .empty job.program) s.tables
  have may : (s.clients n).MayBegin job := free ▸ .intake intakes
  have first : Step s [] opened := .begin may (yields_begin.mpr ⟨rfl, rfl⟩ : Yields _ .epoch _ _ _)
  have busy : opened.clients n = .working job .empty
      (Intake.all intakes >>= fun _ => .done (some .completed)) := Function.update_self ..
  obtain ⟨log, run⟩ := run_program busy here fun _ => fresh
  let r := (store.runIn (Intake.all intakes) .empty).run w
  let worked := opened.after n (.working job r.1.2 (.done (some .completed))) r.2.store
  have last : Step worked _ (worked.after n .idle ((store.commit r.1.2).run r.2).2.store) :=
    .commit (Function.update_self ..) ⟨r.2, _, rfl, rfl, rfl, rfl⟩
  rw [State.after_after, State.after_after, State.after, ← free, Function.update_eq_self] at last
  exact ⟨_, (((Run.nil s).step first).trans run).step last⟩

/-! ### Drains -/

/-- Whatever the work does to the store, a client may do by steps of its own, which take it from the
    state `before` to a state that depends on the result. -/
def Plays (before : Client) (work : Service Tables α) (after : α → Client) : Prop :=
  ∀ (s : State) (n : Nat) (w : World Tables), s.clients n = before → w.store = s.tables →
    ∃ log, Run s log (s.after n (after (work.run w).1) (work.run w).2.store)

namespace Plays

variable {before : Client} {work : Service Tables α} {after : α → Client}

theorem bind {mid : α → Client} {next : α → Service Tables β} {after : β → Client}
    (h : Plays before work mid) (h' : ∀ a, Plays (mid a) (next a) after) :
    Plays before (work >>= next) after := by
  intro s n w busy here
  obtain ⟨log, run⟩ := h s n w busy here
  have middle := h' (work.run w).1 (s.after n (mid (work.run w).1) (work.run w).2.store) n
    (work.run w).2 (Function.update_self ..) rfl
  obtain ⟨log', run'⟩ := middle
  rw [State.after_after] at run'
  exact ⟨log ++ log', run.trans run'⟩

/-- Work that leaves the store alone may be left out. -/
theorem silent (h : ∀ w, (work.run w).2.store = w.store) : Plays before work fun _ => before := by
  intro s n w busy here
  rw [h, here, s.after_same busy]
  exact ⟨[], .nil s⟩

/-- A client may leave at any moment. -/
theorem leave (a : α) : Plays before (pure a) fun _ => .idle := by
  intro s n w busy here
  have same : ((pure a : Service Tables α).run w).2.store = s.tables := here
  rw [same]
  exact Run.single .leave

theorem report (notice : Notice) : Plays before (Service.report notice) fun _ => before :=
  silent fun _ => rfl

theorem now : Plays before Service.now fun _ => before :=
  silent fun _ => rfl

theorem inSpan (span : Span) (h : Plays before work after) :
    Plays before (Service.inSpan span work) after := by
  intro s n w busy here
  exact h s n { w with spans := span :: w.spans } busy here

/-! ### Calls -/

theorem claimNext (filter : ClaimFilter) : Plays .idle (store.claimNext filter) .ofClaim := by
  intro s n w busy here
  exact Run.single (.claim busy ⟨w, _, here, rfl, rfl, rfl⟩)

/-- What a client is doing once it has begun the unit of a claimed command and looked at the clock.
    -/
def begun (market : Market) (claimed : ClaimedCommand) (now : Timestamp) :
    Except StoreError ChangeSet → Client
  | .ok c => .working (.handle market claimed) c
      (market.router.dispatch claimed.command now >>= Job.settle claimed)
  | .error _ => .idle

/-- A processor looks at the clock before it begins its unit, which comes to the same. -/
theorem begin (market : Market) (claimed : ClaimedCommand) (now : Timestamp) :
    Plays (.holding claimed) store.begin (begun market claimed now) := by
  intro s n w busy here
  let job : Job := .handle market claimed
  let next (now : Timestamp) : Handling (Option CommandOutcome) :=
    market.router.dispatch claimed.command now >>= Job.settle claimed
  let opened := s.after n (.working job .empty job.program) s.tables
  have may : (s.clients n).MayBegin job := busy ▸ .handle market claimed
  have first : Step s [] opened := .begin may (yields_begin.mpr ⟨rfl, rfl⟩ : Yields _ now _ _ _)
  have busy' : opened.clients n = .working job .empty (.step .now next) := Function.update_self ..
  have second : Step opened [] (opened.after n (.working job .empty (next now)) s.tables) :=
    .work busy' ⟨still s.tables now .zero, _, rfl, rfl, rfl, rfl⟩ nofun
  rw [State.after_after] at second
  have same : (store.begin.run w).2.store = s.tables := here
  rw [same]
  exact ⟨_, ((Run.nil s).step first).step second⟩

/-- A program within a program, from its beginning to its end. -/
theorem program {job : Job} {c : ChangeSet} {program : Handling β}
    {next : β → Handling (Option CommandOutcome)} (handles : ¬ job.TakesIn) :
    Plays (.working job c (program >>= next)) (store.runIn program c)
      fun r => .working job r.2 (next r.1) :=
  fun _ _ _ busy here => run_program busy here fun takes => (handles takes).elim

/-- A question in a program. -/
theorem answer {job : Job} {c : ChangeSet} (handles : ¬ job.TakesIn) (call : UnitCall)
    {next : call.Answer → Handling (Option CommandOutcome)} :
    Plays (.working job c (.step (.ask call) next)) (store.answer call c)
      fun r => .working job r.2 (next r.1) :=
  @program _ job c (Handling.perform (.ask call)) next handles

theorem commit {job : Job} {c : ChangeSet} {outcome : CommandOutcome} :
    Plays (.working job c (.done (some outcome))) (store.commit c) fun _ => .idle := by
  intro s n w busy here
  exact ⟨_, .step (.nil s) (.commit busy ⟨w, _, here, rfl, rfl, rfl⟩)⟩

theorem recordFailure (id : CommandId) (token : ClaimToken) (error : String) (policy : RetryPolicy)
    (now : Timestamp) :
    Plays before (store.recordFailure id token error policy now) fun _ => before := by
  intro s n w busy here
  have yields : Yields (store.recordFailure id token error policy now) _ s.tables _ _ :=
    ⟨w, _, here, rfl, rfl, rfl⟩
  have same (t : Tables) : s.after n before t = ⟨t, s.clients⟩ := by
    rw [← busy, State.after, Function.update_eq_self]
  rw [same]
  exact Run.single (.record yields)

/-! ### The parts of a drain -/

variable {market : Market} {config : ProcessorConfig} {claimed : ClaimedCommand}

/-- The processor of the market on the store in memory. -/
def processor (market : Market) (config : ProcessorConfig) : Processor Tables ChangeSet :=
  ⟨store, market.router.interpret store.runIn, config⟩

theorem fail (error : String) (now : Timestamp) (report : DrainReport) :
    Plays before ((processor market config).fail claimed error now report) fun _ => .idle := by
  refine bind (recordFailure _ _ _ _ _) fun recorded => ?_
  split
  · exact bind (Plays.report _) fun _ => leave _
  · exact bind (Plays.report _) fun _ => leave _
  · split
    · exact bind (Plays.report _) fun _ => leave _
    · exact bind (Plays.report _) fun _ => leave _

theorem complete {job : Job} (handles : ¬ job.TakesIn) (outcome : CommandOutcome) (c : ChangeSet) :
    Plays (.working job c (Job.settle claimed (.ok outcome)))
      ((processor market config).complete claimed c) fun _ => .idle := by
  refine bind (answer handles _) fun marked => ?_
  obtain ⟨_ | _, c'⟩ := marked
  · exact leave _
  · exact commit

theorem conclude {job : Job} (handles : ¬ job.TakesIn) (now : Timestamp) (report : DrainReport)
    (dispatched : Except DispatchError CommandOutcome) (c : ChangeSet) :
    Plays (.working job c (Job.settle claimed dispatched))
      ((processor market config).conclude claimed now report dispatched c) fun _ => .idle := by
  cases dispatched with
  | error e =>
    simp only [Processor.conclude]
    split
    · exact bind (Plays.report _) fun _ => leave _
    · exact fail _ _ _
  | ok outcome =>
    refine bind (complete handles outcome c) fun committed => ?_
    split
    · split
      · exact bind (Plays.report _) fun _ => leave _
      · exact bind (Plays.report _) fun _ => leave _
    · exact bind (Plays.report _) fun _ => leave _
    · split
      · exact fail _ _ _
      · exact bind (Plays.report _) fun _ => leave _

theorem process (report : DrainReport) :
    Plays (.holding claimed) ((processor market config).process claimed report) fun _ => .idle := by
  refine inSpan _ (bind now fun reading => bind (begin market claimed reading) fun opened => ?_)
  cases opened with
  | error e => exact leave _
  | ok c =>
    have dispatched : (processor market config).router.dispatch claimed.command reading
        = store.runIn (market.router.dispatch claimed.command reading) :=
      Router.dispatch_interpret _ _ (fun _ => rfl) _ _
    simp only [dispatched]
    exact bind (program id) fun r => conclude id reading report r.1 r.2

theorem drainLoop (ceiling : Option Nat) (remaining : Nat) (visited : List CommandId)
    (report : DrainReport) :
    Plays .idle ((processor market config).drainLoop ceiling remaining visited report)
      fun _ => .idle := by
  -- Each round of the loop brings the client back to where it is idle.
  induction remaining generalizing visited report with
  | zero => exact bind (Plays.report _) fun _ => leave _
  | succ remaining ih =>
    refine bind (claimNext _) fun claim => ?_
    obtain e | _ | claimed := claim
    · exact bind (Plays.report _) fun _ => leave _
    · exact leave _
    · refine bind (process report) fun processed => ?_
      cases processed with
      | error e => exact leave _
      | ok report => exact ih _ report

theorem drainUpTo (ceiling : Option Nat) :
    Plays .idle ((processor market config).drainUpTo ceiling) fun _ => .idle := by
  refine bind (Plays.report _) fun _ => bind (drainLoop _ _ _ _) fun drained => ?_
  cases drained with
  | error e => exact leave _
  | ok report => exact bind (Plays.report _) fun _ => leave _

theorem drain : Plays .idle (processor market config).drain fun _ => .idle := by
  rw [Processor.drain]
  split
  · exact drainUpTo none
  · refine bind (silent fun _ => rfl) fun mark => ?_
    obtain e | _ | mark := mark
    · exact leave _
    · exact leave _
    · exact drainUpTo (some mark)

end Plays

/-- Whatever a drain of the market does to the store in memory, a client does it step by step. -/
theorem drain_run (config : ProcessorConfig) (market : MarketConfig) {s : State} {n : Nat}
    (free : s.clients n = .idle) (w : World Tables) (here : w.store = s.tables) :
    ∃ log, Run s log ⟨((Processor.forMarket store config market >>= Processor.drain).run w).2.store,
      s.clients⟩ := by
  have work : Plays .idle (Processor.forMarket store config market >>= Processor.drain)
      fun _ => .idle := by
    rw [Processor.forMarket, bind_assoc]
    exact Plays.bind (Plays.report _) fun _ => Plays.drain
  obtain ⟨log, run⟩ := work s n w free here
  rw [State.after, ← free, Function.update_eq_self] at run
  exact ⟨log, run⟩

/-! ### A move-in -/

/-- A store with nobody at work. -/
def State.atRest (t : Tables) : State :=
  ⟨t, fun _ => .idle⟩

/-- The world after things were taken in, and after a drain that followed. -/
def served (config : ProcessorConfig) (market : MarketConfig) (intakes : List Intake)
    (w : World Tables) : World Tables :=
  ((Processor.forMarket store config market >>= Processor.drain).run ((takeIn intakes).run w).2).2

theorem served_run (config : ProcessorConfig) (market : MarketConfig) (intakes : List Intake)
    (w : World Tables) (fresh : FreshIn (Intake.all intakes) .empty w) :
    ∃ log, Run (.atRest w.store) log (.atRest (served config market intakes w).store) := by
  obtain ⟨log, taken⟩ := takeIn_run (n := 0) (s := .atRest w.store) intakes rfl rfl fresh
  obtain ⟨log', drained⟩ := drain_run (n := 0)
    (s := .atRest ((takeIn intakes).run w).2.store) config market rfl _ rfl
  exact ⟨log ++ log', taken.trans drained⟩

namespace OneMoveIn

/-- The number of an accounting point. -/
def gsrn : Gsrn := ⟨"571313180400000001", by decide +kernel⟩

/-- The number of its supplier to be. -/
def supplier : GlnNumber := ⟨"5790000000005", by decide +kernel⟩

theorem isName_one : IsName "1" :=
  ⟨by decide +kernel, by decide⟩

/-- The request of the supplier. -/
def request : SupplyRequest where
  transactionId := ⟨"1", isName_one⟩
  processId := ⟨"1", isName_one⟩
  accountingPointId := gsrn.text
  energySupplierGln := supplier.text
  senderGln := supplier.text
  effectiveDate := ⟨2024, 1, 1, by decide⟩

/-- A store with the point, in surroundings in which no identifier is issued twice soon. -/
def world : World Tables :=
  ⟨⟨[], 0, [], [.fresh gsrn]⟩, ⟨fun _ => .epoch, 0⟩, ⟨fun i => ⟨BitVec.ofNat 128 i⟩, 0⟩, [], []⟩

/-- The world after the request was taken in and the store drained. -/
def done : World Tables :=
  served .standard ⟨supplier⟩ [.request .moveIn request] world

theorem run : ∃ log, Run (.atRest world.store) log (.atRest done.store) :=
  served_run _ _ _ _ (by decide +kernel)

-- What is done is left to the kernel to evaluate.
attribute [irreducible] done

theorem seeded : (State.atRest world.store).Seeded :=
  ⟨rfl, rfl, by simp [State.atRest, world], by simp [State.atRest, world, AccountingPoint.fresh],
    fun _ => rfl⟩

end OneMoveIn

end Marketplace

end SupplierSwitch
