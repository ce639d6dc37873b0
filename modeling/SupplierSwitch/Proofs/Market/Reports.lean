import SupplierSwitch.Proofs.Market.Crowd

namespace SupplierSwitch

/-!
# What drains report

A drain of the market fails at nothing but contention: whatever others do meanwhile, it comes to its
end with a report, in which every failure is one that others have brought about; and if nobody else
touches the store, there is none.

* `CommandFailure.ByContention` — the failures that others bring about;
* `Marketplace.Claiming` and the rules under it — what each part of a drain comes to in company;
* `Marketplace.drains_fail_by_contention_only` — the result, for every history of the market.
-/

/-- The failure stems from others who were at work at the same time. -/
inductive CommandFailure.ByContention (f : CommandFailure) : Prop where
  /-- When it was to be saved, an aggregate was no longer in the version that had been read. -/
  | atSave (detail : String)
      (told : f.error = (DispatchError.handler (.repository (.conflict detail))).message)
  /-- The same, when it was to be committed. -/
  | atCommit (detail : String)
      (told : f.error = "commit failed: " ++ (StoreError.conflict detail).message)
  /-- A new transaction is there already. -/
  | opened (id : TransactionId) (told : f.error = "commit failed: " ++
      (StoreError.alreadyExists ("transaction " ++ id.text)).message)
  | claimLost (told : f.error = (StoreError.claimLost f.commandId).message)

namespace Marketplace

open Memory Tables

variable {ids : IdSupply} {count first d : Nat} {alone : Prop} {claimed : ClaimedCommand}
  {crowd : Crowd} {supply : IdSupply}

/-- The processor holds the claimed command; if it is alone, its claim is still the one on it. -/
structure Claiming (ids : IdSupply) (count : Nat) (alone : Prop) (first d : Nat)
    (claimed : ClaimedCommand) (crowd : Crowd) (supply : IdSupply) : Prop
    extends Orderly ids count alone first d crowd supply where
  holds : Holds crowd.state.tables claimed
  held : alone → crowd.state.tables.Held (claimed.command.id, claimed.claim)

/-- The processor has handled the claimed command, with an outcome, in a unit that marks it. -/
structure Handled (ids : IdSupply) (count : Nat) (alone : Prop) (first d : Nat)
    (claimed : ClaimedCommand) (outcome : CommandOutcome) (c : ChangeSet) (crowd : Crowd)
    (supply : IdSupply) : Prop extends Orderly ids count alone first d crowd supply where
  ready : Ready ids count first alone claimed outcome d c crowd.state.tables

/-- Nothing but contention is reported, and nothing at all if nobody else is at work. -/
structure Clean (alone : Prop) (report : DrainReport) : Prop where
  contention : ∀ f ∈ report.failures, f.ByContention
  quiet : alone → report.failures = []

theorem Clean.empty : Clean alone .empty :=
  ⟨(fun _ mem => by cases mem), fun _ => rfl⟩

theorem Clean.addOutcome {report : DrainReport} (h : Clean alone report)
    (outcome : CommandOutcome) : Clean alone (report.addOutcome outcome) := by
  cases outcome <;> exact ⟨h.contention, h.quiet⟩

theorem Clean.addFailure {report : DrainReport} (h : Clean alone report) {f : CommandFailure}
    (disturbed : ¬ alone) (contention : f.ByContention) : Clean alone (report.addFailure f) := by
  refine ⟨fun other mem => ?_, fun isAlone => absurd isAlone disturbed⟩
  obtain old | new := List.mem_append.mp mem
  · exact h.contention other old
  · rw [List.mem_singleton.mp new]
    exact contention

/-! ### Calls -/

/-- A change of one row by the processor, in a call that is no commit. -/
theorem Orderly.rewrote (h : Orderly ids count alone first d crowd supply) {id : CommandId}
    {change : CommandRow → CommandRow} {e : Event} {supply' : IdSupply} {d' : Nat}
    (keeps : ∀ row, row.command.id = id → (change row).command.id = id)
    (step : Memory.Step crowd.turn.shared e
      ⟨crowd.turn.tables.updateRow id change, crowd.turn.shared.units⟩)
    (other : ∀ n c now result, e ≠ .committed n c now result) (le : first ≤ d')
    (drawn : supply' = { ids with issued := ids.issued + d' }) :
    Orderly ids count alone first d' (crowd.took (crowd.turn.tables.updateRow id change))
      supply' := by
  obtain ⟨sound, later⟩ := h.later
  obtain ⟨n, c, now, commits, -⟩ | ⟨f, rewritten⟩ := step.effect.rewritten sound.books.keyed
  · exact absurd commits (other n c now _)
  refine h.took (step.evolves sound.tidy sound.books.keyed)
    (sound.books.of_rewritten rewritten (step.keyed sound.tidy sound.books.keyed)) ?_ le drawn
  exact fun k hk less used => later.inv.2 k hk less ((mentions_updateRow keeps).mp used)

/-- What a claim leads to. -/
def AfterClaim (ids : IdSupply) (count : Nat) (alone : Prop) (d : Nat) :
    Except StoreError (Option ClaimedCommand) → Crowd → IdSupply → Prop
  | .ok (some claimed), crowd, supply =>
    Claiming ids count alone (d + 1) (d + 1) claimed crowd supply
  | .ok none, crowd, supply => Orderly ids count alone d d crowd supply
  | .error _, _, _ => False

theorem secures_claimNext (filter : ClaimFilter) :
    Secures (Orderly ids count alone d d) (Crowd.store.claimNext filter)
      (AfterClaim ids count alone d) := by
  refine .call fun crowd w h here => ?_
  obtain ⟨sound, later⟩ := h.later
  show AfterClaim ids count alone d ((Memory.claimNext filter).run w).1
    (crowd.took ((Memory.claimNext filter).run w).2.store) ((Memory.claimNext filter).run w).2.ids
  rw [run_claimNext, here]
  split
  · show Orderly ids count alone d d (crowd.took w.store) w.ids
    rw [here]
    exact h.looked
  · rename_i row next
    let token : ClaimToken := ⟨w.ids.issue w.ids.issued⟩
    let now := w.clock.reading w.clock.taken
    let t := crowd.turn.tables.claim row.command.id token filter.lease now
    have found := row?_of_mem sound.books.keyed.commands (List.mem_of_find?_eq_some next)
    have step : Memory.Step crowd.turn.shared
        (.claimed filter now (.ok (some ⟨row.command, token⟩))) ⟨t, crowd.turn.shared.units⟩ :=
      .claim (yields_claimNext.mpr (.inr ⟨row, token, next, rfl, rfl⟩))
    have drawn : { w.ids with issued := w.ids.issued + 1 }
        = { ids with issued := ids.issued + (d + 1) } := by
      rw [h.drawn]
      rfl
    have orderly : Orderly ids count alone d (d + 1) (crowd.took t)
        { w.ids with issued := w.ids.issued + 1 } :=
      h.rewrote (fun _ same => same) step (fun _ _ _ _ same => by cases same) (Nat.le_succ d) drawn
    have holds : Holds crowd.turn.tables ⟨row.command, token⟩ := ⟨row, found, rfl, rfl⟩
    have held := held_claim found (List.find?_some next) token filter.lease
    exact ⟨orderly.spent, holds.later (step.evolves sound.tidy sound.books.keyed), fun _ => held⟩

theorem Claiming.looked (h : Claiming ids count alone first d claimed crowd supply) :
    Claiming ids count alone first d claimed (crowd.took crowd.turn.tables) supply := by
  obtain ⟨-, later⟩ := h.toOrderly.later
  refine ⟨h.toOrderly.looked, h.holds.later later.evolves, fun isAlone => ?_⟩
  have held := h.held isAlone
  rw [← later.quiet isAlone] at held
  exact held

theorem secures_begin :
    Secures (Claiming ids count alone first d claimed) Crowd.store.begin fun r crowd supply =>
      r = .ok .empty ∧ Claiming ids count alone first d claimed crowd supply := by
  refine .call fun crowd w h here => ⟨rfl, ?_⟩
  show Claiming ids count alone first d claimed (crowd.took w.store) w.ids
  rw [here]
  exact h.looked

theorem secures_recordFailure (id : CommandId) (token : ClaimToken) (error : String)
    (policy : RetryPolicy) (now : Timestamp) :
    Secures (Orderly ids count alone first d)
      (Crowd.store.recordFailure id token error policy now) fun r crowd supply =>
        (∀ e, r = .error e → e.isCommandLocal = true) ∧
          Orderly ids count alone first d crowd supply := by
  refine .call fun crowd w h here => ?_
  show (∀ e, ((change fun t => t.recordFailure id token error policy now).run w).1 = .error e →
      e.isCommandLocal = true) ∧ Orderly ids count alone first d
    (crowd.took ((change fun t => t.recordFailure id token error policy now).run w).2.store)
    ((change fun t => t.recordFailure id token error policy now).run w).2.ids
  rw [run_change, here]
  split
  · rename_i e failed
    refine ⟨?_, ?_⟩
    · rintro _ ⟨⟩
      exact isCommandLocal_of_recordFailure failed
    · show Orderly ids count alone first d (crowd.took w.store) w.ids
      rw [here]
      exact h.looked
  · rename_i disposition t done
    refine ⟨nofun, ?_⟩
    have step : Memory.Step crowd.turn.shared
        (.recorded id token error policy now (.ok disposition)) ⟨t, crowd.turn.shared.units⟩ :=
      .record (yields_change.mpr (.inl ⟨disposition, done, rfl⟩) : Yields _ now _ _ _)
    obtain ⟨row, -, found, -, -, rfl⟩ := recordFailure_ok_iff.mp done
    refine h.rewrote (fun _ _ => by rw [id_failed, id_of_row? found]) step ?_ h.le h.drawn
    exact fun _ _ _ _ same => by cases same

/-- What a commit leads to. -/
def AfterCommit (ids : IdSupply) (count : Nat) (alone : Prop) (claimed : ClaimedCommand) (d : Nat) :
    Except StoreError Unit → Crowd → IdSupply → Prop
  | .ok _, crowd, supply => Orderly ids count alone d d crowd supply
  | .error e, crowd, supply => (¬ alone ∧ Contends claimed.command.id e) ∧
    Orderly ids count alone d d crowd supply

theorem secures_commit {outcome : CommandOutcome} {c : ChangeSet} :
    Secures (Handled ids count alone first d claimed outcome c) (Crowd.store.commit c)
      (AfterCommit ids count alone claimed d) := by
  refine .call fun crowd w h here => ?_
  have orderly := h.toOrderly
  obtain ⟨sound, later⟩ := orderly.later
  have ready := h.ready.later later
  have nonempty : ¬ c.isEmpty := by simp [ChangeSet.isEmpty, ready.marks]
  show AfterCommit ids count alone claimed d ((Memory.commit c).run w).1
    (crowd.took ((Memory.commit c).run w).2.store) ((Memory.commit c).run w).2.ids
  rw [run_commit nonempty, here]
  split
  · rename_i e failed
    refine ⟨ready.refused later.inv.2 failed, ?_⟩
    show Orderly ids count alone d d (crowd.took w.store) w.ids
    rw [here]
    exact orderly.looked.spent
  · rename_i t done
    obtain ⟨evolves, books, unspent⟩ :=
      ready.committed sound.books later.inv.2 orderly.le done
    exact orderly.took evolves books unspent (Nat.le_refl d) orderly.drawn

/-! ### The parts of a drain -/

/-- The processor of the market on a store in company. -/
def Crowd.processor (config : ProcessorConfig) (market : MarketConfig) :
    Processor Crowd ChangeSet :=
  ⟨Crowd.store, (Market.ofConfig market).router.interpret Crowd.store.runIn, config⟩

variable {config : ProcessorConfig} {market : MarketConfig}

theorem secures_fail (error : String) (now : Timestamp) (report : DrainReport) :
    Secures (Orderly ids count alone first d)
      ((Crowd.processor config market).fail claimed error now report) fun r crowd supply =>
        (∃ f, r = .ok (report.addFailure f) ∧ f.error = error) ∧
          Orderly ids count alone first d crowd supply := by
  refine .bind (secures_recordFailure _ _ _ _ _) fun recorded => ?_
  split
  · refine .bind (.report _) fun _ => .done fun _ _ h => ?_
    exact ⟨⟨_, rfl, rfl⟩, h.2⟩
  · refine .bind (.report _) fun _ => .done fun _ _ h => ?_
    exact ⟨⟨_, rfl, rfl⟩, h.2⟩
  · rename_i e
    split
    · refine .bind (.report _) fun _ => .done fun _ _ h => ?_
      exact ⟨⟨_, rfl, rfl⟩, h.2⟩
    · -- The drain would end, but the store never gives this answer.
      rename_i fatal
      refine .bind (.report _) fun _ => .done fun _ _ h => ?_
      exact absurd (h.1 e rfl) fatal

theorem secures_markProcessed {outcome : CommandOutcome} {c : ChangeSet} :
    Secures (Handled ids count alone first d claimed outcome
        (c.markProcessed claimed.command.id claimed.claim))
      (Crowd.store.answer (.markProcessed claimed.command.id claimed.claim) c)
      fun r crowd supply => r = (.ok (), c.markProcessed claimed.command.id claimed.claim) ∧
        Handled ids count alone first d claimed outcome
          (c.markProcessed claimed.command.id claimed.claim) crowd supply := by
  refine .call fun crowd w h here => ⟨rfl, ?_⟩
  show Handled ids count alone first d claimed outcome
    (c.markProcessed claimed.command.id claimed.claim) (crowd.took w.store) w.ids
  rw [here]
  exact ⟨h.toOrderly.looked, h.ready.later h.toOrderly.later.2⟩

theorem secures_complete {outcome : CommandOutcome} {c : ChangeSet} :
    Secures (Handled ids count alone first d claimed outcome
        (c.markProcessed claimed.command.id claimed.claim))
      ((Crowd.processor config market).complete claimed c)
      (AfterCommit ids count alone claimed d) := by
  refine .bind secures_markProcessed fun r => ?_
  refine .assuming (fun _ _ h => h.1) fun same => ?_
  subst same
  exact fun w h => secures_commit w h.2

/-- What a piece of work of the drain leads to: a report, which is clean, and a market in order,
    while at most `most` identifiers have been drawn. -/
def AfterWork (ids : IdSupply) (count : Nat) (alone : Prop) (most : Nat)
    (r : Except StoreError DrainReport) (crowd : Crowd) (supply : IdSupply) : Prop :=
  ∃ report d, (r = .ok report ∧ Clean alone report ∧ d ≤ most) ∧
    Orderly ids count alone d d crowd supply

theorem secures_conclude_ok {report : DrainReport} (clean : Clean alone report) (now : Timestamp)
    {outcome : CommandOutcome} {c : ChangeSet} {most : Nat} (few : d ≤ most) :
    Secures (Handled ids count alone first d claimed outcome
        (c.markProcessed claimed.command.id claimed.claim))
      ((Crowd.processor config market).conclude claimed now report (.ok outcome) c)
      (AfterWork ids count alone most) := by
  refine .bind secures_complete fun committed => ?_
  split
  · -- The unit is committed.
    split
    · refine .bind (.report _) fun _ => .done fun _ _ h => ?_
      exact ⟨_, d, ⟨rfl, clean.addOutcome _, few⟩, h⟩
    · refine .bind (.report _) fun _ => .done fun _ _ h => ?_
      exact ⟨_, d, ⟨rfl, clean.addOutcome _, few⟩, h⟩
  · refine .bind (.report _) fun _ => .done fun _ _ h => ?_
    exact ⟨_, d, ⟨rfl, clean.addFailure h.1.1 (.claimLost rfl), few⟩, h.2⟩
  · rename_i e other
    refine .assuming (fun _ _ h => h.1) fun contends => ?_
    obtain ⟨disturbed, contends⟩ := contends
    have failed : ∀ f : CommandFailure, f.error = "commit failed: " ++ e.message →
        f.ByContention := by
      intro f told
      cases contends with
      | claimLost => exact absurd rfl (other _)
      | version detail => exact .atCommit detail told
      | opened id => exact .opened id told
    split
    · have fails := @secures_fail ids count d d alone claimed config market
        ("commit failed: " ++ e.message) now report
      refine fun w h => ?_
      obtain ⟨⟨f, result, told⟩, orderly⟩ := fails w h.2
      exact ⟨_, d, ⟨result, clean.addFailure disturbed (failed f told), few⟩, orderly⟩
    · rename_i fatal
      cases contends <;> exact absurd rfl fatal

theorem secures_conclude_error {report : DrainReport} (clean : Clean alone report)
    (disturbed : ¬ alone) (now : Timestamp) (detail : String) {c : ChangeSet} {most : Nat}
    (few : d ≤ most) :
    Secures (Orderly ids count alone first d)
      ((Crowd.processor config market).conclude claimed now report
        (.error (.handler (.repository (.conflict detail)))) c)
      (AfterWork ids count alone most) := by
  refine (secures_fail _ now report).imp fun r crowd supply h => ?_
  obtain ⟨⟨f, rfl, told⟩, orderly⟩ := h
  exact ⟨_, d, ⟨rfl, clean.addFailure disturbed (.atSave detail told), few⟩, orderly.spent⟩

/-- What a dispatch leads to. -/
def AfterDispatch (ids : IdSupply) (count first : Nat) (alone : Prop) (claimed : ClaimedCommand) :
    Except DispatchError CommandOutcome × ChangeSet → Crowd → IdSupply → Prop
  | (.ok outcome, c), crowd, supply => ∃ d, Handled ids count alone first d claimed outcome
    (c.markProcessed claimed.command.id claimed.claim) crowd supply
  | (.error e, _), crowd, supply => ∃ d, Orderly ids count alone first d crowd supply ∧
    ¬ alone ∧ d ≤ first + 3 ∧ ∃ detail, e = .handler (.repository (.conflict detail))

/-- A dispatch by a processor that was holding the command when the tables were `t₀`. -/
theorem afterDispatch_of_dispatched {t₀ : Tables} (holds : Holds t₀ claimed)
    (held : alone → t₀.Held (claimed.command.id, claimed.claim))
    {r : Except DispatchError CommandOutcome × ChangeSet}
    (orderly : Orderly ids count alone first d crowd supply)
    (dispatched : Market.Dispatched ids count first alone claimed r.1 r.2 crowd.state.tables d)
    (staged : Staged (Market.surroundings ids count first alone) t₀ r.2 crowd.state.tables) :
    AfterDispatch ids count first alone claimed r crowd supply := by
  obtain ⟨e | outcome, c⟩ := r
  · exact ⟨d, orderly, dispatched⟩
  · obtain ⟨spends, judged⟩ := dispatched
    refine ⟨d, orderly, .of_judged (holds.later staged.evolves) (fun isAlone => ?_) spends judged
      staged.tidy fun isAlone => (staged.fits isAlone).2⟩
    rw [(staged.fits isAlone).1]
    exact held isAlone

/-- What the claimed command is dispatched to in company. -/
theorem Orderly.dispatched {w : World Crowd} (h : Orderly ids count alone d d w.store w.ids)
    (enough : d + 3 ≤ count) (distinct : ids.Distinct count)
    (holds : Holds w.store.state.tables claimed) (market : MarketConfig) (now : Timestamp) :
    let router := (Market.ofConfig market).router.interpret Crowd.store.runIn
    let r := ((router.dispatch claimed.command now).run .empty).run w
    ∃ d', Orderly ids count alone d d' r.2.store r.2.ids ∧
      Market.Dispatched ids count d alone claimed r.1.1 r.1.2 r.2.store.state.tables d' ∧
      Staged (Market.surroundings ids count d alone) w.store.state.tables r.1.2
        r.2.store.state.tables := by
  intro router
  have meaning : router.dispatch claimed.command now
      = Crowd.store.runIn ((Market.ofConfig market).router.dispatch claimed.command now) :=
    Router.dispatch_interpret _ _ (fun _ => rfl) _ _
  rw [meaning]
  exact h.runIn ((Market.dispatch_endsIn enough distinct h.sound.books holds market now).staged
    (.empty (Market.surroundings ids count d alone) _))

theorem secures_dispatch (enough : d + 3 ≤ count) (distinct : ids.Distinct count)
    (now : Timestamp) :
    Secures (Claiming ids count alone d d claimed)
      (((Crowd.processor config market).router.dispatch claimed.command now).run .empty)
      (AfterDispatch ids count d alone claimed) := by
  intro w h
  obtain ⟨d', orderly, dispatched, staged⟩ :=
    h.toOrderly.dispatched enough distinct h.holds market now
  exact afterDispatch_of_dispatched h.holds h.held orderly dispatched staged

theorem secures_process (enough : d + 3 ≤ count) (distinct : ids.Distinct count)
    {report : DrainReport} (clean : Clean alone report) :
    Secures (Claiming ids count alone d d claimed)
      ((Crowd.processor config market).process claimed report)
      (AfterWork ids count alone (d + 3)) := by
  refine .inSpan _ (.bind .now fun now => .bind secures_begin fun opened => ?_)
  refine .assuming (fun _ _ h => h.1) fun same => ?_
  subst same
  refine .bind (fun w h => secures_dispatch enough distinct now w h.2) fun r => ?_
  obtain ⟨e | outcome, c⟩ := r
  · refine .given fun d' => ?_
    refine .assuming (fun _ _ h => h.2) fun conflict => ?_
    obtain ⟨disturbed, few, detail, rfl⟩ := conflict
    exact fun w h => secures_conclude_error clean disturbed now detail few w h.1
  · refine .given fun d' => ?_
    refine .assuming (fun _ _ h => h.ready.spends.few) fun few => ?_
    exact secures_conclude_ok clean now few

theorem secures_drainLoop (distinct : ids.Distinct count) (ceiling : Option Nat) {remaining : Nat}
    (visited : List CommandId) {report : DrainReport} (clean : Clean alone report)
    (enough : d + 4 * remaining ≤ count) :
    Secures (Orderly ids count alone d d)
      ((Crowd.processor config market).drainLoop ceiling remaining visited report)
      (AfterWork ids count alone count) := by
  -- A round draws one identifier for the claim and three for the handler at most.
  induction remaining generalizing d visited report with
  | zero =>
    refine .bind (.report _) fun _ => .done fun _ _ h => ?_
    exact ⟨_, d, ⟨rfl, ⟨clean.contention, clean.quiet⟩, by omega⟩, h⟩
  | succ remaining ih =>
    refine .bind (secures_claimNext _) fun claim => ?_
    obtain e | _ | claimed := claim
    · exact fun w impossible => impossible.elim
    · exact .done fun _ _ h => ⟨_, d, ⟨rfl, clean, by omega⟩, h⟩
    · refine .bind (secures_process (by omega) distinct clean) fun processed => ?_
      refine .given fun report' => .given fun d' => ?_
      refine .assuming (fun _ _ h => h.1) fun worked => ?_
      obtain ⟨rfl, clean', few⟩ := worked
      exact fun w h => ih _ clean' (by omega) w h.2

theorem secures_drainUpTo (distinct : ids.Distinct count) (ceiling : Option Nat)
    (enough : 4 * config.maxCommandsPerDrain ≤ count) :
    Secures (Orderly ids count alone 0 0) ((Crowd.processor config market).drainUpTo ceiling)
      (AfterWork ids count alone count) := by
  have loop : Secures (Orderly ids count alone 0 0)
      ((Crowd.processor config market).drainLoop ceiling config.maxCommandsPerDrain [] .empty)
      (AfterWork ids count alone count) :=
    secures_drainLoop distinct ceiling [] .empty (by omega)
  refine .bind (.report _) fun _ => .bind loop fun drained => ?_
  refine .given fun report => .given fun d => ?_
  refine .assuming (fun _ _ h => h.1.1) fun same => ?_
  subst same
  exact .bind (.report _) fun _ => .done fun _ _ h => ⟨report, d, h⟩

theorem secures_drain (distinct : ids.Distinct count)
    (enough : 4 * config.maxCommandsPerDrain ≤ count) :
    Secures (Orderly ids count alone 0 0) (Crowd.processor config market).drain
      (AfterWork ids count alone count) := by
  rw [Processor.drain]
  split
  · exact secures_drainUpTo distinct none enough
  · have looked : Secures (Orderly ids count alone 0 0) Crowd.store.highWaterMark
        fun r crowd supply => (∃ mark, r = .ok mark) ∧
          Orderly ids count alone 0 0 crowd supply := by
      refine .call fun crowd w h here => ⟨⟨_, rfl⟩, ?_⟩
      show Orderly ids count alone 0 0 (crowd.took w.store) w.ids
      rw [here]
      exact h.looked
    refine .bind looked fun r => ?_
    refine .assuming (fun _ _ h => h.1) fun result => ?_
    obtain ⟨_ | mark, rfl⟩ := result
    · exact .done fun _ _ h => ⟨.empty, 0, ⟨rfl, .empty, Nat.zero_le _⟩, h.2⟩
    · exact fun w h => secures_drainUpTo distinct (some mark) enough w h.2

/-! ### The result -/

/-- Whatever has happened in a market that began with accounting points without processes and
    nothing else, and whatever others do there before each call of a processor: a drain ends with a
    report, and its failures are version conflicts at a save or a commit, transactions that were
    opened by somebody else before the commit, and lost claims. If the others leave the tables
    alone, there is no failure. A command that is stored is dispatched to an outcome, or to a
    version conflict at a save. The processor's identifiers, four for each command of a drain and
    four to spare, are distinct and used by nobody else. -/
theorem drains_fail_by_contention_only {s₀ s : State} {log : List Conclusion} (seeded : s₀.Seeded)
    (run : Run s₀ log s) {others : Nat → State → State} {ids : IdSupply} {count : Nat}
    (company : Company ids count others) (distinct : ids.Distinct count)
    (unused : ∀ k, k < count → ¬ s.tables.Mentions (ids.next k)) (config : ProcessorConfig)
    (enough : 4 * (config.maxCommandsPerDrain + 1) ≤ count) (market : MarketConfig) (clock : Clock)
    (journal : List JournalEntry) (spans : List Span) :
    let w : World Crowd := ⟨⟨s, others, 0⟩, clock, ids, journal, spans⟩
    (∃ report, ((Processor.forMarket Crowd.store config market >>= Processor.drain).run w).1
        = .ok report ∧
      (∀ f ∈ report.failures, f.ByContention) ∧
      ((∀ i s, (others i s).tables = s.tables) → report.failures = [])) ∧
    ∀ row ∈ s.tables.commands, ∀ now,
      let router := (Market.ofConfig market).router.interpret Crowd.store.runIn
      let dispatched := (((router.dispatch row.command now).run .empty).run w).1.1
      (∃ outcome, dispatched = .ok outcome) ∨
        ∃ detail, dispatched = .error (.handler (.repository (.conflict detail))) := by
  intro w
  have sound := run.sound seeded.sound
  have orderly : Orderly ids count (∀ i s, (others i s).tables = s.tables) 0 0 ⟨s, others, 0⟩ ids :=
    ⟨sound, company, id, fun k _ less => unused k less, Nat.le_refl 0, rfl⟩
  constructor
  · have drained : Secures (Orderly ids count (∀ i s, (others i s).tables = s.tables) 0 0)
        (Processor.forMarket Crowd.store config market >>= Processor.drain)
        (AfterWork ids count (∀ i s, (others i s).tables = s.tables) count) := by
      rw [Processor.forMarket, bind_assoc]
      exact .bind (.report _) fun _ => secures_drain distinct (by omega)
    obtain ⟨report, -, ⟨result, clean, -⟩, -⟩ := drained w orderly
    exact ⟨report, result, clean.contention, clean.quiet⟩
  · intro row mem now router dispatched
    have holds : Holds s.tables ⟨row.command, default⟩ :=
      ⟨row, row?_of_mem sound.books.keyed.commands mem, rfl, rfl⟩
    obtain ⟨d, -, ended, -⟩ :=
      Orderly.dispatched (w := w) orderly (by omega) distinct holds market now
    change Market.Dispatched ids count 0 _ _ dispatched _ _ _ at ended
    cases result : dispatched with
    | ok outcome => exact .inl ⟨outcome, rfl⟩
    | error e =>
      rw [result] at ended
      obtain ⟨-, -, detail, rfl⟩ := ended
      exact .inr ⟨detail, rfl⟩

namespace Overtaken

/-- A processor that handles few commands. -/
def settings : ProcessorConfig :=
  { ProcessorConfig.standard with maxCommandsPerDrain := 2 }

/-- The identifiers from a number on. -/
def numbered (first : Nat) : IdSupply :=
  ⟨fun i => ⟨BitVec.ofNat 128 i⟩, first⟩

/-- A move-in was taken in, … -/
def waiting : Tables :=
  ((takeIn [.request .moveIn OneMoveIn.request]).run OneMoveIn.world).2.store

/-- … a processor has claimed it, … -/
def held : Tables :=
  ((Memory.claimNext ⟨[], none, settings.claimLease⟩).run
    ⟨waiting, ⟨fun _ => .epoch, 0⟩, numbered 100, [], []⟩).2.store

/-- … and another one comes after the lease … -/
def late : World Tables :=
  ⟨held, ⟨fun _ => Timestamp.epoch.offsetBy (.ofSeconds 60), 0⟩, numbered 1000, [], []⟩

/-- … and does all that there is to do. -/
def overtaken : World Tables :=
  ((Processor.forMarket Memory.store settings ⟨OneMoveIn.supplier⟩ >>= Processor.drain).run late).2

/-- The other processor has its turn before the second call of the first one. -/
def others (i : Nat) (s : State) : State :=
  match s.clients 0 with
  | .idle => if i = 1 ∧ s.tables = held then ⟨overtaken.store, s.clients⟩ else s
  | _ => s

/-- What the first one comes back with. -/
def drained : Except StoreError DrainReport :=
  ((Processor.forMarket Crowd.store settings ⟨OneMoveIn.supplier⟩ >>= Processor.drain).run
    ⟨⟨.atRest waiting, others, 0⟩, ⟨fun _ => .epoch, 0⟩, numbered 100, [], []⟩).1

theorem run : ∃ log, Run (.atRest OneMoveIn.world.store) log (.atRest waiting) :=
  takeIn_run (n := 0) (s := .atRest OneMoveIn.world.store) _ rfl rfl (by decide +kernel)

theorem overtakes {s : State} (free : s.clients 0 = .idle) (here : held = s.tables) :
    ∃ log, Run s log ⟨overtaken.store, s.clients⟩ := by
  have played := drain_run settings ⟨OneMoveIn.supplier⟩ free late here
  unfold overtaken
  exact played

-- What comes of it is left to the kernel to evaluate.
attribute [irreducible] waiting held overtaken drained

theorem distinct : (numbered 100).Distinct 12 := by
  have all : ∀ k < 12, ∀ j < k, (numbered 100).next j ≠ (numbered 100).next k := by decide +kernel
  exact fun j k less more => all k more j less

theorem company : Company (numbered 100) 12 others := by
  have unused : ∀ k < 12, ¬ overtaken.store.Mentions ((numbered 100).next k) := by decide +kernel
  refine ⟨fun i s => ?_, fun i s k less => ?_⟩
  · unfold others
    split
    · rename_i free
      split
      · rename_i turn
        exact overtakes free turn.2.symm
      · exact ⟨[], .nil s⟩
    · exact ⟨[], .nil s⟩
  · unfold others
    split
    · split
      · exact fun used => absurd used (unused k less)
      · exact id
    · exact id

end Overtaken

theorem drains_fail_by_contention_only_overtaken :
    ∃ report, Overtaken.drained = .ok report ∧ report.failures ≠ [] ∧
      ∀ f ∈ report.failures, f.ByContention := by
  obtain ⟨log, run⟩ := Overtaken.run
  have unused : ∀ k < 12, ¬ Overtaken.waiting.Mentions ((Overtaken.numbered 100).next k) := by
    decide +kernel
  obtain ⟨⟨report, result, contention, -⟩, -⟩ :=
    drains_fail_by_contention_only OneMoveIn.seeded run Overtaken.company Overtaken.distinct
      unused Overtaken.settings (by decide) ⟨OneMoveIn.supplier⟩ ⟨fun _ => .epoch, 0⟩ [] []
  have failed : Overtaken.drained.toOption.any (fun report => !report.failures.isEmpty) = true := by
    decide +kernel
  have same : Overtaken.drained = .ok report := by
    unfold Overtaken.drained
    exact result
  refine ⟨report, same, fun none => ?_, contention⟩
  rw [same] at failed
  simp [Except.toOption, none] at failed

end Marketplace

end SupplierSwitch
