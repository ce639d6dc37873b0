import SupplierSwitch.Proofs.Memory.Calls
import SupplierSwitch.Proofs.Memory.DrainOrder
import SupplierSwitch.Proofs.Outbox.Totals
import SupplierSwitch.Proofs.Outbox.Twins

namespace SupplierSwitch

/-!
# What the policy of a drain changes

A drain of everything goes on to what its own handlers enqueue; a drain of a snapshot ends there,
and the next one goes on. As long as nothing fails and nobody else is at work, that is all the
difference: the next command is always the first one that may be handed out, whatever was visited
before, as what was visited is processed; and the end of a snapshot only ever hides commands behind
it, as the commands stand in the order of commits.

* `Tables.nextClaimable_visited`, `Tables.nextClaimable_ceiling` — the next command under a filter,
  by the next one without it;
* `Memory.chain_of_rounds` — a drain of everything is a chain of dispatches;
* `Memory.rounds_follow`, `Memory.snapshot_goes_on` — drains of snapshots go along such a chain;
* `Memory.policies_agree` — what one drain of everything and many drains of snapshots come to.
-/

/-- To look for the first of those that lie below some bound is to look whether the first one lies
    below it, where everything before such an element lies below it, too. -/
theorem find?_and_of_pairwise {α : Type} {p q : α → Bool} {l : List α}
    (down : l.Pairwise fun a b => q b = true → q a = true) :
    l.find? (fun a => p a && q a) = (l.find? p).filter q := by
  induction down with
  | nil => rfl
  | @cons a l below _ ih =>
    by_cases found : p a = true
    · by_cases within : q a = true
      · simp [found, within, Option.filter]
      · have hidden : l.find? (fun a => p a && q a) = none := by
          refine List.find?_eq_none.mpr fun b mem both => ?_
          exact within (below b mem (Bool.and_eq_true_iff.mp both).2)
        simp [found, within, hidden, Option.filter]
    · simp [found, ih]

namespace Tables

variable {t : Tables} {visited : List CommandId} {ceiling : Option Nat} {lease : Duration}
  {now : Timestamp} {row : CommandRow}

/-- The row lies within a snapshot up to some place. -/
def isWithin (mark : Nat) (row : CommandRow) : Bool :=
  row.command.sequence.all (· ≤ mark)

/-- Processed commands need not be excluded. -/
theorem nextClaimable_visited (keyed : t.Keyed) (processed : ∀ id ∈ visited, t.IsProcessed id) :
    t.nextClaimable ⟨visited, ceiling, lease⟩ now = t.nextClaimable ⟨[], ceiling, lease⟩ now := by
  have same : ∀ row ∈ t.commands, isClaimable ⟨visited, ceiling, lease⟩ now row
      = isClaimable ⟨[], ceiling, lease⟩ now row := by
    intro row mem
    by_cases seen : row.command.id ∈ visited
    · obtain ⟨row', found, done⟩ := processed _ seen
      rw [row?_of_mem keyed.commands mem] at found
      cases found
      simp [isClaimable, InternalCommand.isReady, done]
    · simp [isClaimable, seen]
  rw [nextClaimable, nextClaimable, ← List.head?_filter, ← List.head?_filter,
    List.filter_congr same]

/-- The next command of a snapshot is the next one of all, if that lies within the snapshot. -/
theorem nextClaimable_ceiling (ordered : t.Ordered) (mark : Nat) :
    t.nextClaimable ⟨[], some mark, lease⟩ now
      = (t.nextClaimable ⟨[], none, lease⟩ now).filter (isWithin mark) := by
  have split : isClaimable ⟨[], some mark, lease⟩ now
      = fun row => isClaimable ⟨[], none, lease⟩ now row && isWithin mark row := by
    funext row
    cases place : row.command.sequence with
    | none => simp [isClaimable, isWithin, place]
    | some place' => simp [isClaimable, isWithin, place]
  rw [nextClaimable, nextClaimable, split]
  refine find?_and_of_pairwise (ordered.ascending.imp fun {a b} precedes within => ?_)
  obtain ⟨m, n, first, second, less⟩ := precedes
  rw [isWithin, second, Option.all_some, decide_eq_true_eq] at within
  rw [isWithin, first, Option.all_some, decide_eq_true_eq]
  omega

/-- Every command lies within the snapshot that is taken now. -/
theorem isWithin_highWaterMark (ordered : t.Ordered) (mem : row ∈ t.commands) :
    ∃ mark, t.highWaterMark = some mark ∧ isWithin mark row = true := by
  obtain ⟨place, -, sequence⟩ := ordered.placed row mem
  have listed : place ∈ t.commands.filterMap (·.command.sequence) :=
    List.mem_filterMap.mpr ⟨row, mem, sequence⟩
  cases marks : t.highWaterMark with
  | none =>
    rw [highWaterMark, List.max?_eq_none_iff] at marks
    rw [marks] at listed
    cases listed
  | some mark =>
    refine ⟨mark, rfl, ?_⟩
    rw [isWithin, sequence, Option.all_some, decide_eq_true_eq]
    exact (List.max?_eq_some_iff.mp marks).2 place listed

end Tables

/-! ### Dispatches that go along a chain -/

namespace Processor

variable {σ υ : Type} {p : Processor σ υ} {claimed : ClaimedCommand}
  {rest : List (ClaimedCommand × CommandOutcome)} {m u last asked : World σ}

/-- There is nothing to claim, even without a filter. -/
def Idle (p : Processor σ υ) (w : World σ) : Prop :=
  ∃ asked, (p.store.claimNext ⟨[], none, p.config.claimLease⟩).run w = (.ok none, asked)

/-- What is claimed in the twin of a world is the next command of the chain that begins there, and
    it is dispatched like this command. -/
theorem next_of_claims (store : p.store.Blind)
    (router : ∀ command now unit, Service.Blind ((p.router.dispatch command now).run unit))
    (chain : p.Chain m rest last) (idle : p.Idle last) (twins : m.Twins u)
    (claims : (p.store.claimNext ⟨[], none, p.config.claimLease⟩).run u
      = (.ok (some claimed), asked)) :
    ∃ outcome rest' m' u', rest = (claimed, outcome) :: rest' ∧
      p.Dispatches m claimed outcome m' ∧ p.Chain m' rest' last ∧ m'.Twins u' ∧
      ∀ report, (p.process claimed report).run asked = (.ok (report.addOutcome outcome), u') := by
  cases chain with
  | nil =>
    obtain ⟨_, none⟩ := idle
    obtain ⟨_, none', -⟩ := (store.claimNext _).run twins none
    rw [claims] at none'
    cases none'
  | @cons _ m' _ claimed' outcome rest' first further =>
    obtain ⟨asked', claims', processes⟩ := first
    obtain ⟨_, same, twins'⟩ := (store.claimNext _).run twins claims'
    rw [claims] at same
    cases same
    obtain ⟨u', processes', twins''⟩ :=
      (blind_process store claimed .empty router).run twins' processes
    exact ⟨outcome, rest', m', u', rfl, ⟨asked', claims', processes⟩, further, twins'',
      process_of_outcome processes'⟩

end Processor

namespace Memory

open Tables Processor

variable {r : Router Handling} {config : ProcessorConfig} {claimed : ClaimedCommand}
  {outcome : CommandOutcome} {l : List (ClaimedCommand × CommandOutcome)}
  {start v u w w' last asked : World Tables} {ceiling : Option Nat} {calls : List ClaimCall}
  {report : DrainReport} {visited : List CommandId} {lease : Duration}

/-! ### Work in memory is blind -/

theorem blind_change {α : Type} (f : Tables → Except StoreError (α × Tables)) :
    (change f).Blind := by
  refine Service.blind_readStore.bind fun t => ?_
  cases f t with
  | error e => exact Service.blind_pure _
  | ok done => exact (Service.blind_writeStore _).bind fun _ => Service.blind_pure _

theorem blind_look {α : Type} (f : Tables → α) : (look f).Blind :=
  Service.blind_readStore.bind fun _ => Service.blind_pure _

theorem blind_store : store.Blind where
  begin := Service.blind_pure _
  answer call c := Service.blind_readStore.bind fun _ => Service.blind_pure _
  commit c := by
    show (commit c).Blind
    unfold commit
    split
    · exact Service.blind_pure _
    · exact Service.blind_now.bind fun _ => blind_change _
  claimNext filter := by
    refine Service.blind_now.bind fun now => Service.blind_readStore.bind fun t => ?_
    cases t.nextClaimable filter now with
    | none => exact Service.blind_pure _
    | some row =>
      exact Service.blind_freshId.bind fun _ =>
        (Service.blind_writeStore _).bind fun _ => Service.blind_pure _
  recordFailure _ _ _ _ _ := blind_change _
  highWaterMark := blind_look _

theorem blind_router (r : Router Handling) (config : ProcessorConfig) (command : InternalCommand)
    (now : Timestamp) (c : ChangeSet) :
    Service.Blind (((processor r config).router.dispatch command now).run c) := by
  rw [show (processor r config).router.dispatch _ _ = _ from r.dispatch_runIn store _ _]
  exact blind_store.runIn _ c

/-! ### What a chain does to the tables -/

theorem becomes_of_dispatches (h : (processor r config).Dispatches w claimed outcome w') :
    w.store.Becomes w'.store ∧ w'.store.IsProcessed claimed.command.id := by
  obtain ⟨asked, claims, processes⟩ := h
  have asks : w.store.Becomes asked.store := (keeps_store.claimNext _).run claims .refl
  have becomes : w.store.Becomes w'.store :=
    (keeps_process keeps_store (keeps_router r config)).run processes asks
  have settled := process_handled r config claimed .empty asked
  rw [processes] at settled
  obtain ⟨_, _, -, -, -, -, -, processed⟩ | ⟨⟨f, failed, -⟩, -⟩ := settled
  · exact ⟨becomes, processed⟩
  · exact absurd failed addOutcome_ne_addFailure

theorem becomes_of_chain (h : (processor r config).Chain w l w') :
    w.store.Becomes w'.store := by
  induction h with
  | nil => exact .refl
  | cons first _ ih => exact (becomes_of_dispatches first).1.trans ih

/-- Whatever was dispatched in a chain is processed in the end. -/
theorem processed_of_chain (h : (processor r config).Chain w l w') (proper : w.store.Proper) :
    ∀ id ∈ visitedBy (l.map Prod.fst), w'.store.IsProcessed id := by
  suffices ∀ done ∈ l, w'.store.IsProcessed done.1.command.id by
    intro id visited
    obtain ⟨claimed, handed, rfl⟩ := mem_visitedBy.mp visited
    obtain ⟨done, mem, rfl⟩ := List.mem_map.mp handed
    exact this done mem
  induction h with
  | nil =>
    intro _ mem
    cases mem
  | cons first further ih =>
    obtain ⟨becomes, processed⟩ := becomes_of_dispatches first
    have proper' := becomes.proper proper
    intro done mem
    obtain same | later := List.mem_cons.mp mem
    · rw [same]
      exact processed.becomes proper' (becomes_of_chain further)
    · exact ih proper' done later

/-- Wherever a drain has gone along a chain, what it has visited is processed. -/
theorem visited_of_chain (proper : start.store.Proper)
    (chain : (processor r config).Chain start l w) (same : u.store = w.store)
    (handed : claimedIn calls = l.map Prod.fst) :
    u.store.Proper ∧ ∀ id ∈ visitedBy (claimedIn calls), u.store.IsProcessed id := by
  rw [same, handed]
  exact ⟨(becomes_of_chain chain).proper proper, processed_of_chain chain proper⟩

/-! ### Claims under a filter -/

/-- What is claimed past processed commands, up to whatever place, is claimed without a filter,
    too. -/
theorem claims_freely (proper : u.store.Proper) (processed : ∀ id ∈ visited, u.store.IsProcessed id)
    (claims : (store.claimNext ⟨visited, ceiling, lease⟩).run u = (.ok (some claimed), asked)) :
    (store.claimNext ⟨[], none, lease⟩).run u = (.ok (some claimed), asked) := by
  have filtered : (store.claimNext ⟨visited, ceiling, lease⟩).run u = _ := run_claimNext _ u
  have free : (store.claimNext ⟨[], none, lease⟩).run u = _ := run_claimNext _ u
  rw [nextClaimable_visited proper.keyed processed] at filtered
  cases ceiling with
  | none => rw [← claims, filtered, free]
  | some mark =>
    rw [nextClaimable_ceiling proper.ordered] at filtered
    cases next : u.store.nextClaimable ⟨[], none, lease⟩ (u.clock.reading u.clock.taken) with
    | none =>
      rw [next, Option.filter_none, claims] at filtered
      cases filtered
    | some row =>
      rw [next] at filtered free
      cases within : isWithin mark row with
      | true =>
        rw [Option.filter_some_pos within] at filtered
        rw [← claims, filtered, free]
      | false =>
        rw [Option.filter_some_neg within, claims] at filtered
        cases filtered

/-- Where there is nothing to claim past processed commands, there is nothing to claim without a
    filter that lies within the snapshot. -/
theorem nothing_within (proper : u.store.Proper)
    (processed : ∀ id ∈ visited, u.store.IsProcessed id)
    (claims : (store.claimNext ⟨visited, ceiling, lease⟩).run u = (.ok none, asked)) :
    asked = ticked u ∧
      ∀ row, u.store.nextClaimable ⟨[], none, lease⟩ (u.clock.reading u.clock.taken) = some row →
        ∃ mark, ceiling = some mark ∧ isWithin mark row = false := by
  obtain ⟨nothing, -, rfl⟩ | ⟨_, _, -, other, -⟩ := claimNext_cases claims
  · refine ⟨rfl, fun row next => ?_⟩
    rw [nextClaimable_visited proper.keyed processed] at nothing
    cases ceiling with
    | none =>
      rw [next] at nothing
      cases nothing
    | some mark =>
      rw [nextClaimable_ceiling proper.ordered, next] at nothing
      exact ⟨mark, rfl, Bool.eq_false_iff.mpr fun within => by
        rw [Option.filter_some_pos within] at nothing
        cases nothing⟩
  · cases other

/-! ### One drain of everything -/

/-- The rounds of a drain of everything, of which none has failed, are a chain. -/
theorem chain_of_rounds (proper : start.store.Proper)
    (rounds : (processor r config).Rounds none start calls report w)
    (clean : report.failures = []) :
    ∃ l, (processor r config).Chain start l w ∧ claimedIn calls = l.map Prod.fst ∧
      report = .of (l.map Prod.snd) := by
  induction rounds with
  | none => exact ⟨[], .nil _, rfl, rfl⟩
  | @more calls report report' w asked w' claimed before claims processes ih =>
    obtain ⟨outcome, rfl, processes'⟩ := outcome_of_process processes clean
    have clean' : report.failures = [] := by
      cases outcome <;> exact clean
    obtain ⟨l, chain, handed, rfl⟩ := ih clean'
    obtain ⟨proper', processed⟩ := visited_of_chain proper chain rfl handed
    have claims' := claims_freely proper' processed claims
    refine ⟨l ++ [(claimed, outcome)], chain.concat ⟨asked, claims', processes'⟩, ?_, ?_⟩
    · rw [claimedIn_claimed, handed, List.map_append]
      rfl
    · rw [List.map_append, List.map_singleton, DrainReport.of_concat]

/-! ### Many drains of snapshots -/

/-- The rounds of a drain go along a chain that begins in the twin of its world. -/
theorem rounds_follow (chain : (processor r config).Chain v l last)
    (idle : (processor r config).Idle last) (proper : v.store.Proper) (twins : v.Twins start)
    (rounds : (processor r config).Rounds ceiling start calls report u) :
    ∃ past rest m, l = past ++ rest ∧ (processor r config).Chain v past m ∧
      (processor r config).Chain m rest last ∧ m.Twins u ∧ claimedIn calls = past.map Prod.fst ∧
      report = .of (past.map Prod.snd) := by
  induction rounds with
  | none => exact ⟨[], l, v, rfl, .nil v, chain, twins, rfl, rfl⟩
  | @more calls report report' u asked u' claimed before claims processes ih =>
    obtain ⟨past, rest, m, rfl, done, further, twins', handed, rfl⟩ := ih
    obtain ⟨proper', processed⟩ := visited_of_chain proper done twins'.store handed
    obtain ⟨outcome, rest', m', u'', rfl, first, further', twins'', adds⟩ :=
      next_of_claims blind_store (blind_router r config) further idle twins'
        (claims_freely proper' processed claims)
    rw [adds] at processes
    cases processes
    refine ⟨past ++ [(claimed, outcome)], rest', m', by simp, done.concat first, further', twins'',
      ?_, ?_⟩
    · rw [claimedIn_claimed, handed, List.map_append]
      rfl
    · rw [List.map_append, List.map_singleton, DrainReport.of_concat]

/-- A reading of the clock is not seen. -/
theorem twins_ticked (h : v.Twins u) : v.Twins (ticked u) :=
  ⟨h.store, h.ids, h.spans, h.clock, h.outcomes⟩

/-- The first command of a chain lies within a snapshot that is taken in the twin of its world. -/
theorem first_within {step : ClaimedCommand × CommandOutcome}
    (chain : (processor r config).Chain v (step :: l) last) (proper : v.store.Proper)
    (twins : v.Twins u) : ∃ mark row, u.store.highWaterMark = some mark ∧
      isWithin mark row = true ∧ u.store.nextClaimable ⟨[], none, config.claimLease⟩
        (u.clock.reading u.clock.taken) = some row := by
  cases chain with
  | cons first _ =>
    obtain ⟨asked, claims, -⟩ := first
    obtain ⟨-, none, -⟩ | ⟨row, token, next, -⟩ := claimNext_cases claims
    · cases none
    · obtain ⟨mark, marks, within⟩ :=
        isWithin_highWaterMark proper.ordered (List.mem_of_find?_eq_some next)
      rw [← twins.store] at marks
      rw [← twins.store, ← twins.clock] at next
      exact ⟨mark, row, marks, within, next⟩

/-- While a drain goes along a chain and has room, it ends only where there is nothing more to
    claim within its snapshot. -/
theorem ends_idle {result : Except StoreError DrainReport} {all : List ClaimCall}
    {ended : World Tables} (chain : (processor r config).Chain v l last)
    (idle : (processor r config).Idle last) (twins : v.Twins u) (proper : u.store.Proper)
    (processed : ∀ id ∈ visitedBy (claimedIn calls), u.store.IsProcessed id)
    (room : calls.length < config.maxCommandsPerDrain)
    (ends : (processor r config).Ends ceiling calls report u result all ended) :
    result = .ok report ∧ claimedIn all = claimedIn calls ∧ ended = ticked u ∧
      ∀ row, u.store.nextClaimable ⟨[], none, config.claimLease⟩ (u.clock.reading u.clock.taken)
        = some row → ∃ mark, ceiling = some mark ∧ isWithin mark row = false := by
  cases ends with
  | full full => exact absurd full (Nat.ne_of_lt room)
  | idle _ claims =>
    obtain ⟨rfl, nothing⟩ := nothing_within proper processed claims
    exact ⟨rfl, claimedIn_idle _ _, rfl, nothing⟩
  | claimFailed _ claims =>
    obtain ⟨-, other, -⟩ | ⟨_, _, -, other, -⟩ := claimNext_cases claims
    · cases other
    · cases other
  | processFailed _ claims processes =>
    obtain ⟨_, _, _, _, -, -, -, -, adds⟩ :=
      next_of_claims blind_store (blind_router r config) chain idle twins
        (claims_freely proper processed claims)
    rw [adds] at processes
    cases processes

/-- A drain of a snapshot goes along the chain that begins in the twin of its world, and not without
    making a step if there is one. -/
theorem snapshot_goes_on (policy : config.drainPolicy = .snapshotAtStart)
    (chain : (processor r config).Chain v l last) (idle : (processor r config).Idle last)
    (proper : v.store.Proper) (twins : v.Twins u) (room : l.length < config.maxCommandsPerDrain) :
    ∃ past rest m calls u', l = past ++ rest ∧ (past = [] → rest = []) ∧
      (processor r config).Chain v past m ∧ (processor r config).Chain m rest last ∧ m.Twins u' ∧
      claimedIn calls = past.map Prod.fst ∧
      (processor r config).watched.drain.run (u.beside [])
        = (.ok (.of (past.map Prod.snd)), u'.beside calls) := by
  obtain ⟨result, all, done, drains, -, watched⟩ := (processor r config).drain_rounds u
  cases drains with
  | unmarked _ marks => cases marks
  | nothing _ marks =>
    obtain ⟨answered, rfl⟩ := Prod.mk.inj marks
    have none : u.store.highWaterMark = none := Except.ok.inj answered
    refine ⟨[], l, v, [], _, rfl, fun _ => ?_, .nil v, chain, twins, rfl, watched⟩
    cases l with
    | nil => rfl
    | cons step rest =>
      obtain ⟨mark, _, marks, -⟩ := first_within chain proper twins
      rw [none] at marks
      cases marks
  | @rounds ceiling _ start ended _ _ report calls _ _ ceiled begins rounds ends closes =>
    cases ceiled with
    | everything other => cases policy.symm.trans other
    | @snapshot mark _ _ marks =>
      obtain ⟨answered, rfl⟩ := Prod.mk.inj marks
      have marked : u.store.highWaterMark = some mark := Except.ok.inj answered
      have begun : v.Twins start := twins.report (fun _ => rfl) begins
      obtain ⟨past, rest, m, rfl, before, further, twins', handed, rfl⟩ :=
        rounds_follow chain idle proper begun rounds
      obtain ⟨proper', processed⟩ := visited_of_chain proper before twins'.store handed
      have fits : calls.length < config.maxCommandsPerDrain := by
        have length := rounds.length_claimedIn
        rw [handed, List.length_map] at length
        rw [List.length_append] at room
        omega
      obtain ⟨rfl, same, rfl, nothing⟩ :=
        ends_idle further idle twins' proper' processed fits ends
      have closed : m.Twins done := by
        rw [closes]
        exact (twins_ticked twins').report (fun _ => rfl) rfl
      refine ⟨past, rest, m, all, done, rfl, ?_, before, further, closed, same.trans handed,
        watched⟩
      rintro rfl
      cases rest with
      | nil => rfl
      | cons step rest =>
        -- Nothing was claimed, although the snapshot holds the first command of the chain.
        cases before
        obtain ⟨mark', row, marked', within, next⟩ := first_within further proper twins'
        rw [twins.store, ← twins'.store] at marked
        cases marked.symm.trans marked'
        obtain ⟨_, same, beyond⟩ := nothing row next
        cases same
        rw [within] at beyond
        cases beyond

/-- Drains of snapshots go along the chain that begins in the twin of their world to its end. -/
theorem untilIdle_of_chain (policy : config.drainPolicy = .snapshotAtStart)
    (chain : (processor r config).Chain v l last) (idle : (processor r config).Idle last)
    (proper : v.store.Proper) (twins : v.Twins u) (room : l.length < config.maxCommandsPerDrain) :
    ∃ reports calls final, (processor r config).UntilIdle u reports calls final ∧
      claimedIn calls = l.map Prod.fst ∧ DrainReport.total reports = .of (l.map Prod.snd) ∧
      last.Twins final := by
  induction length : l.length using Nat.strongRecOn generalizing l v u with
  | _ n ih =>
    obtain ⟨past, rest, m, calls, u', rfl, stuck, before, further, twins', handed, drains⟩ :=
      snapshot_goes_on policy chain idle proper twins room
    rw [List.length_append] at length room
    by_cases still : past = []
    · subst still
      cases stuck rfl
      cases before
      cases further
      exact ⟨[.of []], calls, u', .last drains rfl, handed, rfl, twins'⟩
    · have goes : past.length ≠ 0 := fun none => still (List.length_eq_zero_iff.mp none)
      have busy : (DrainReport.of (past.map Prod.snd)).attempted ≠ 0 := by
        rwa [DrainReport.attempted_of, List.length_map]
      obtain ⟨reports, more, final, drains', handed', total, ended⟩ :=
        ih rest.length (by omega) further ((becomes_of_chain before).proper proper) twins'
          (by omega) rfl
      refine ⟨.of (past.map Prod.snd) :: reports, calls ++ more, final,
        .again drains busy drains', ?_, ?_, ended⟩
      · rw [claimedIn_append, handed, handed', List.map_append]
      · rw [List.map_append, DrainReport.of_append, ← total]
        rfl

/-- What is dispatched does not depend on the policy. -/
theorem chain_policy (policy : DrainPolicy) (chain : (processor r config).Chain v l last) :
    (processor r { config with drainPolicy := policy }).Chain v l last := by
  induction chain with
  | nil => exact .nil _
  | cons first _ ih =>
    obtain ⟨asked, claims, processes⟩ := first
    exact .cons ⟨asked, claims, processes⟩ ih

/-- Let the clock stand still, and nobody else be at work. Where one drain of everything comes to
    its end without a failure, drains of snapshots come to an end, too: they dispatch the same
    commands in the same order with the same outcomes, report the same counts in total, and leave
    the same tables. -/
theorem policies_agree {s : Shared} {log : List Event} (history : Run .empty log s)
    (w : World Tables) (here : w.store = s.tables)
    (stopped : ∀ i j, w.clock.reading i = w.clock.reading j) (r : Router Handling)
    (config : ProcessorConfig) (policy : config.drainPolicy = .includeNewlyEnqueued)
    {report : DrainReport} (reports : ((processor r config).drain.run w).1 = .ok report)
    (untruncated : report.truncated = false) (clean : report.failures = []) :
    ∃ calls done each more final,
      (processor r config).drain.run w = (.ok report, done) ∧
      (processor r config).watched.drain.run (w.beside []) = (.ok report, done.beside calls) ∧
      (processor r { config with drainPolicy := .snapshotAtStart }).UntilIdle w each more final ∧
      claimedIn more = claimedIn calls ∧ final.outcomes = done.outcomes ∧
      (each.map (·.processed)).sum = report.processed ∧
      (each.map (·.completed)).sum = report.completed ∧
      (each.map (·.rejected)).sum = report.rejected ∧
      final.store = done.store ∧ final.ids = done.ids := by
  have proper : w.store.Proper := by
    rw [here]
    exact ⟨history.keyed, history.ordered⟩
  obtain ⟨result, calls, done, drains, alone, watched⟩ := (processor r config).drain_rounds w
  rw [alone] at reports
  cases reports
  cases drains with
  | nothing other => cases policy.symm.trans other
  | @rounds _ _ start last ended _ _ before _ _ ceiled begins rounds ends closes =>
    cases ceiled with
    | snapshot other => cases policy.symm.trans other
    | everything =>
      cases ends with
      | full => cases untruncated
      | idle room claims =>
        have begun : w.Twins start := (World.Twins.refl stopped).report (fun _ => rfl) begins
        have proper' : start.store.Proper := begun.store ▸ proper
        obtain ⟨l, chain, handed, rfl⟩ := chain_of_rounds proper' rounds clean
        obtain ⟨proper'', processed⟩ := visited_of_chain proper' chain rfl handed
        obtain ⟨rfl, nothing⟩ := nothing_within proper'' processed claims
        have idle : (processor r config).Idle last := by
          have none : last.store.nextClaimable
              ⟨[], none, (processor r config).config.claimLease⟩
              (last.clock.reading last.clock.taken) = none := by
            refine Option.eq_none_iff_forall_not_mem.mpr fun row next => ?_
            obtain ⟨_, unlimited, -⟩ := nothing row next
            cases unlimited
          exact ⟨ticked last, (run_claimNext _ last).trans (by rw [none])⟩
        have short : l.length < config.maxCommandsPerDrain := by
          rw [← List.length_map Prod.fst, ← handed, rounds.length_claimedIn]
          exact room
        obtain ⟨each, more, final, drains, handed', total, ended⟩ :=
          untilIdle_of_chain rfl (chain_policy .snapshotAtStart chain) idle proper' begun.symm short
        obtain ⟨processed, completed, rejected⟩ := DrainReport.total_counts each
        have closed : last.Twins done := by
          rw [closes]
          exact (twins_ticked (ended.trans ended.symm)).report (fun _ => rfl) rfl
        have same := closed.symm.trans ended
        refine ⟨_, done, each, more, final, alone, watched, drains, ?_, same.outcomes, ?_, ?_, ?_,
          same.store, same.ids⟩
        · rw [handed', claimedIn_idle, handed]
        · rw [← processed, total]
        · rw [← completed, total]
        · rw [← rejected, total]

namespace PingPong

/-- For a ping a pong is enqueued, and a pong is rejected. -/
def refusing : Router Handling :=
  ⟨router.routes ++ [.ofHandler "Pong" Json.readAny fun _ _ => ExceptT.run do
    pure (.rejected ["too late"])]⟩

/-- Both are processed in one drain. -/
theorem refused : ((processor refusing .standard).drain.run world).1
    = .ok ⟨2, 1, 1, [], 0, false⟩ := by
  decide +kernel

end PingPong

theorem policies_agree_pingPong :
    ∃ calls done each more final,
      ((processor PingPong.refusing .standard).watched.drain.run (PingPong.world.beside [])).2
        = World.beside done calls ∧
      (processor PingPong.refusing { ProcessorConfig.standard with
        drainPolicy := .snapshotAtStart }).UntilIdle PingPong.world each more final ∧
      claimedIn more = claimedIn calls ∧ (each.map (·.completed)).sum = 1 ∧
      (each.map (·.rejected)).sum = 1 ∧ final.store = done.store := by
  obtain ⟨log, s, history, here⟩ := PingPong.history
  obtain ⟨calls, done, each, more, final, -, watched, drains, same, -, -, completed, rejected,
    stored, -⟩ := policies_agree history PingPong.world here (fun _ _ => rfl) PingPong.refusing
      .standard rfl PingPong.refused rfl rfl
  exact ⟨calls, done, each, more, final, congrArg Prod.snd watched, drains, same, completed,
    rejected, stored⟩

end Memory

end SupplierSwitch
