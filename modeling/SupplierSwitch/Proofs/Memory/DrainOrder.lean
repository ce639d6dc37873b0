import SupplierSwitch.Proofs.Memory.Attending

namespace SupplierSwitch

/-!
# The order of a drain

A drain that nobody disturbs goes through the pending commands in the order of commits. Commands
that are enqueued meanwhile come last; so a command that has not had its turn comes behind all that
have had theirs, and it is as it was, or as it was enqueued. When there is nothing left to claim,
every command has had its turn. To be claimed by the processor is to be dispatched, as a unit can
always be begun in memory (`Memory.process_eq`).

* `Memory.Sweep` — where a drain stands, and `Memory.Sweep.round` — where it stands one round later;
* `Memory.sweep_rounds`, `Memory.sweep_drains` — the whole drain, and `Memory.Exhausted` what there
  is to say when it ends before its limit;
* `Memory.drain_in_order` — the order of dispatch, and that nothing is left out.
-/

variable {σ : Type}

/-- From now on the clock does not go back. -/
def World.Steady (w : World σ) : Prop :=
  ∀ i j, w.clock.taken ≤ i → i ≤ j → w.clock.reading i ≤ w.clock.reading j

theorem World.Steady.le {w w' : World σ} (h : w.Steady) (elapses : w.Elapses w') :
    w.clock.reading w.clock.taken ≤ w'.clock.reading w'.clock.taken := by
  rw [elapses.reading]
  exact h _ _ (Nat.le_refl _) elapses.taken

/-- What is ready stays ready. -/
theorem InternalCommand.isReady_later {c : InternalCommand} {now later : Timestamp}
    (le : now ≤ later) (h : c.isReady now = true) : c.isReady later = true := by
  simp only [isReady, Bool.and_eq_true] at h ⊢
  refine ⟨h.1, ?_⟩
  cases scheduled : c.notBefore with
  | none => rfl
  | some instant =>
    have due := h.2
    rw [scheduled, Option.all_some, decide_eq_true_eq] at due
    rw [Option.all_some, decide_eq_true_eq]
    exact Int.le_trans due le

/-- A claim that has run out stays so. -/
theorem CommandRow.isClaimed_later {row : CommandRow} {now later : Timestamp} (le : now ≤ later)
    (h : row.isClaimed now = false) : row.isClaimed later = false := by
  rw [isClaimed] at h ⊢
  cases claim : row.claim with
  | none => rfl
  | some held =>
    rw [claim, Option.any_some, decide_eq_false_iff_not] at h
    rw [Option.any_some, decide_eq_false_iff_not]
    intro running
    exact h (Int.lt_of_le_of_lt le running)

namespace Memory

open Tables

variable {r : Router Handling} {config : ProcessorConfig} {w₀ start w w' : World Tables}
  {dispatched : List ClaimedCommand} {claimed : ClaimedCommand} {calls all : List ClaimCall}
  {report : DrainReport} {row : CommandRow} {id : CommandId}

/-- Whatever is pending may be handed out at once. -/
def Clear (w : World Tables) : Prop :=
  ∀ row ∈ w.store.commands, row.command.IsPending →
    row.command.isReady (w.clock.reading w.clock.taken) = true ∧
      row.isClaimed (w.clock.reading w.clock.taken) = false

/-- The identifiers of commands, in order. -/
def idsOf (dispatched : List ClaimedCommand) : List CommandId :=
  dispatched.map (·.command.id)

theorem mem_visitedBy_iff : id ∈ visitedBy dispatched ↔ id ∈ idsOf dispatched := by
  rw [mem_visitedBy, idsOf, List.mem_map]

theorem notMem_idsOf_concat :
    id ∉ idsOf (dispatched ++ [claimed]) ↔ id ∉ idsOf dispatched ∧ id ≠ claimed.command.id := by
  simp [idsOf]

/-- Where a drain stands that began at `w₀` and has dispatched some commands. -/
structure Sweep (w₀ w : World Tables) (dispatched : List ClaimedCommand) : Prop where
  elapses : w₀.Elapses w
  proper : w.store.Proper
  last : w₀.store.lastSequence ≤ w.store.lastSequence
  /-- What has not had its turn is as it was at the beginning, or as it was enqueued since then. -/
  unvisited : ∀ id ∉ idsOf dispatched, ∀ row, w.store.row? id = some row →
    w₀.store.row? id = some row ∨
      w₀.store.row? id = none ∧ row.IsNew w₀.store.lastSequence
  kept : ∀ id ∉ idsOf dispatched, ∀ row, w₀.store.row? id = some row →
    w.store.row? id = some row
  ascending : dispatched.Pairwise fun a b => a.command.Precedes b.command
  distinct : (idsOf dispatched).Nodup
  placed : ∀ claimed ∈ dispatched, ∃ place ≤ w.store.lastSequence,
    claimed.command.sequence = some place
  /-- What is still to have its turn comes behind all that have had theirs. -/
  ahead : ∀ id ∉ idsOf dispatched, ∀ row, w.store.row? id = some row → row.command.IsPending →
    ∀ claimed ∈ dispatched, claimed.command.Precedes row.command

theorem Sweep.nil (proper : w₀.store.Proper) (elapses : w₀.Elapses w)
    (same : w.store = w₀.store) : Sweep w₀ w [] where
  elapses := elapses
  proper := by rw [same]; exact proper
  last := Nat.le_of_eq (by rw [same])
  unvisited := fun _ _ _ found => .inl (same ▸ found)
  kept := fun _ _ _ found => same ▸ found
  ascending := .nil
  distinct := .nil
  placed := fun _ none => nomatch none
  ahead := fun _ _ _ _ _ _ none => nomatch none

/-- The store stays as it is while time goes on. -/
theorem Sweep.waits (sweep : Sweep w₀ w dispatched) (elapses : w.Elapses w')
    (same : w'.store = w.store) : Sweep w₀ w' dispatched where
  elapses := sweep.elapses.trans elapses
  proper := by rw [same]; exact sweep.proper
  last := by rw [same]; exact sweep.last
  unvisited := by rw [same]; exact sweep.unvisited
  kept := by rw [same]; exact sweep.kept
  ascending := sweep.ascending
  distinct := sweep.distinct
  placed := by rw [same]; exact sweep.placed
  ahead := by rw [same]; exact sweep.ahead

/-- What is still to have its turn may have it now. -/
theorem Sweep.claimable (sweep : Sweep w₀ w dispatched) (steady : w₀.Steady) (clear : Clear w₀)
    (lease : Duration) (unvisited : id ∉ idsOf dispatched) (found : w.store.row? id = some row)
    (pending : row.command.IsPending) :
    isClaimable ⟨visitedBy dispatched, none, lease⟩ (w.clock.reading w.clock.taken) row = true := by
  have le := steady.le sweep.elapses
  have may : row.command.isReady (w.clock.reading w.clock.taken) = true ∧
      row.isClaimed (w.clock.reading w.clock.taken) = false := by
    obtain old | ⟨-, new⟩ := sweep.unvisited id unvisited row found
    · obtain ⟨ready, free⟩ := clear row (mem_commands_of_row? old) pending
      exact ⟨InternalCommand.isReady_later le ready, CommandRow.isClaimed_later le free⟩
    · obtain ⟨pending, due, free, -⟩ := new
      constructor
      · simp [InternalCommand.isReady, pending.1, pending.2, due]
      · rw [CommandRow.isClaimed, free]
        rfl
  have open' : (visitedBy dispatched).contains row.command.id = false := by
    rw [id_of_row? found, List.contains_eq_mem, decide_eq_false_iff_not, mem_visitedBy_iff]
    exact unvisited
  simp only [isClaimable, may, open', Bool.not_false, Bool.and_self]

/-! ### One round -/

/-- The command that is handed out next has not had its turn, and is pending. -/
theorem Sweep.next (sweep : Sweep w₀ w dispatched) {lease : Duration} {now : Timestamp}
    (next : w.store.nextClaimable ⟨visitedBy dispatched, none, lease⟩ now = some row) :
    w.store.row? row.command.id = some row ∧ row.command.id ∉ idsOf dispatched ∧
      row.command.IsPending := by
  have found := row?_of_mem sweep.proper.keyed.commands (List.mem_of_find?_eq_some next)
  have claimable := List.find?_some next
  simp only [isClaimable, InternalCommand.isReady, Bool.and_eq_true, Bool.not_eq_true',
    List.contains_eq_mem, decide_eq_false_iff_not, mem_visitedBy_iff] at claimable
  exact ⟨found, claimable.1.2, claimable.1.1.1.1⟩

/-- One command more has had its turn: the next one of all that are pending. -/
theorem Sweep.round (sweep : Sweep w₀ w dispatched) (steady : w₀.Steady) (clear : Clear w₀)
    {lease : Duration}
    (next : w.store.nextClaimable ⟨visitedBy dispatched, none, lease⟩
      (w.clock.reading w.clock.taken) = some row)
    (handed : claimed.command = row.command) (elapses : w.Elapses w') (proper : w'.store.Proper)
    (attends : w.store.Attends row.command.id w'.store) :
    Sweep w₀ w' (dispatched ++ [claimed]) := by
  obtain ⟨found, open', pending⟩ := sweep.next next
  have before := sweep.ahead _ open' row found pending
  obtain ⟨place, le, placed⟩ := sweep.proper.ordered.placed row (mem_commands_of_row? found)
  have placed' : ∀ other ∈ dispatched ++ [claimed], ∃ place ≤ w.store.lastSequence,
      other.command.sequence = some place := by
    intro other mem
    obtain old | new := List.mem_append.mp mem
    · exact sweep.placed other old
    · rw [List.mem_singleton.mp new, handed]
      exact ⟨place, le, placed⟩
  -- Elsewhere the tables are as they were, but for commands that were enqueued in this round.
  have elsewhere {id : CommandId} (unvisited : id ∉ idsOf (dispatched ++ [claimed])) :
      id ∉ idsOf dispatched ∧ id ≠ row.command.id ∧ (w'.store.row? id = w.store.row? id ∨
        w.store.row? id = none ∧ ∃ row, w'.store.row? id = some row ∧
          row.IsNew w.store.lastSequence) := by
    obtain ⟨unvisited, unlike⟩ := notMem_idsOf_concat.mp unvisited
    rw [handed] at unlike
    exact ⟨unvisited, unlike, attends.others id unlike⟩
  constructor
  case elapses => exact sweep.elapses.trans elapses
  case proper => exact proper
  case last => exact Nat.le_trans sweep.last attends.last
  case unvisited =>
    intro id unvisited row' found'
    obtain ⟨unvisited, -, same | ⟨missing, new, there, isNew⟩⟩ := elsewhere unvisited
    · exact sweep.unvisited id unvisited row' (same ▸ found')
    · cases there.symm.trans found'
      refine .inr ⟨?_, isNew.of_le sweep.last⟩
      cases atStart : w₀.store.row? id with
      | none => rfl
      | some old =>
        rw [sweep.kept id unvisited old atStart] at missing
        cases missing
  case kept =>
    intro id unvisited old atStart
    obtain ⟨unvisited, -, same | ⟨missing, -⟩⟩ := elsewhere unvisited
    · rw [same]
      exact sweep.kept id unvisited old atStart
    · rw [sweep.kept id unvisited old atStart] at missing
      cases missing
  case ascending =>
    rw [List.pairwise_append]
    refine ⟨sweep.ascending, List.pairwise_singleton .., fun other mem last here => ?_⟩
    rw [List.mem_singleton.mp here, handed]
    exact before other mem
  case distinct =>
    refine nodup_append_singleton (fun claimed : ClaimedCommand => claimed.command.id)
      sweep.distinct ?_
    rw [handed]
    exact open'
  case placed =>
    intro other mem
    obtain ⟨place, le, same⟩ := placed' other mem
    exact ⟨place, Nat.le_trans le attends.last, same⟩
  case ahead =>
    intro id unvisited row' found' pending' other mem
    obtain ⟨unvisited, unlike, same | ⟨-, new, there, isNew⟩⟩ := elsewhere unvisited
    · have was := same ▸ found'
      obtain old | last := List.mem_append.mp mem
      · exact sweep.ahead id unvisited row' was pending' other old
      · -- Both could be handed out, and the one that was comes first.
        rw [List.mem_singleton.mp last, handed]
        have claimable := sweep.claimable steady clear lease unvisited was pending'
        obtain rfl | precedes :=
          sweep.proper.ordered.first next (mem_commands_of_row? was) claimable
        · exact absurd (id_of_row? was).symm unlike
        · exact precedes
    · cases there.symm.trans found'
      obtain ⟨place, le, same⟩ := placed' other mem
      obtain ⟨place', same', less⟩ := isNew.placed
      exact ⟨place, place', same, same', Nat.lt_of_le_of_lt le less⟩

/-- What a call for the next command comes to in memory, where it does not fail. -/
theorem claimNext_cases {filter : ClaimFilter} {answer : Except StoreError (Option ClaimedCommand)}
    {asked : World Tables} (claims : (store.claimNext filter).run w = (answer, asked)) :
    (w.store.nextClaimable filter (w.clock.reading w.clock.taken) = none ∧ answer = .ok none ∧
      asked = ticked w) ∨
    ∃ row token, w.store.nextClaimable filter (w.clock.reading w.clock.taken) = some row ∧
      answer = .ok (some ⟨row.command, token⟩) ∧ w.Elapses asked ∧
      asked.store = w.store.claim row.command.id token filter.lease
        (w.clock.reading w.clock.taken) := by
  have run : (store.claimNext filter).run w = _ := run_claimNext filter w
  rw [claims] at run
  cases next : w.store.nextClaimable filter (w.clock.reading w.clock.taken) with
  | none =>
    rw [next] at run
    cases run
    exact .inl ⟨rfl, rfl, rfl⟩
  | some row =>
    rw [next] at run
    cases run
    exact .inr ⟨row, _, rfl, rfl, ⟨rfl, Nat.le_succ _⟩, rfl⟩

/-- A round of a drain, whatever comes of it. -/
theorem Sweep.processed (only : OnlyEnqueue r) (steady : w₀.Steady) (clear : Clear w₀)
    (sweep : Sweep w₀ w (claimedIn calls)) {asked : World Tables}
    {result : Except StoreError DrainReport}
    (claims : (store.claimNext ((processor r config).filterAfter none calls)).run w
      = (.ok (some claimed), asked))
    (processes : ((processor r config).process claimed report).run asked = (result, w')) :
    Sweep w₀ w' (claimedIn calls ++ [claimed]) ∧ claimed.command.id ∉ idsOf (claimedIn calls) ∧
      w.store.Attends claimed.command.id w'.store ∧ Settles claimed.command.id result w'.store := by
  obtain ⟨-, none, -⟩ | ⟨row, token, next, same, elapses, stored⟩ := claimNext_cases claims
  · cases none
  · have handed : claimed.command = row.command := by
      cases same
      rfl
    obtain ⟨found, open', -⟩ := sweep.next next
    let change (row : CommandRow) : CommandRow :=
      { row with claim := some (token, (w.clock.reading w.clock.taken).offsetBy config.claimLease) }
    have stored' : asked.store = w.store.updateRow row.command.id change := stored
    have proper : asked.store.Proper := by
      rw [stored']
      exact sweep.proper.updateRow (fun _ same => same) fun _ _ => rfl
    have attends : w.store.Attends row.command.id asked.store := by
      rw [stored']
      exact attends_updateRow fun _ same => same
    have attending : Attending claimed.command.id (fun _ => True)
        ((processor r config).process claimed report) (Settles claimed.command.id) :=
      attending_process only
    obtain ⟨elapses', proper', attends', settles⟩ := attending asked proper trivial
    rw [processes, handed] at attends'
    rw [processes] at elapses' proper' settles
    have both := attends.trans attends'
    have round := sweep.round steady clear next handed (elapses.trans elapses') proper' both
    rw [← handed] at both open'
    exact ⟨round, open', both, settles⟩

/-! ### The whole drain -/

/-- What is settled stays settled while the drain attends to others. -/
theorem Settled.later {t t' : Tables} {report' : DrainReport} {other : CommandId}
    (h : Settled id report t) (attends : t.Attends other t') (unlike : id ≠ other)
    (more : ∀ f ∈ report.failures, f ∈ report'.failures) : Settled id report' t' := by
  obtain ⟨row, found, processed⟩ | ⟨f, mem, same⟩ := h
  · obtain same | ⟨missing, -⟩ := attends.others id unlike
    · exact .inl ⟨row, same.trans found, processed⟩
    · rw [found] at missing
      cases missing
  · exact .inr ⟨f, more f mem, same⟩

theorem sweep_rounds (only : OnlyEnqueue r) (steady : w₀.Steady) (clear : Clear w₀)
    (begins : Sweep w₀ start [])
    (rounds : (processor r config).Rounds none start calls report w) :
    Sweep w₀ w (claimedIn calls) ∧
      ∀ claimed ∈ claimedIn calls, Settled claimed.command.id report w.store := by
  induction rounds with
  | none => exact ⟨begins, fun _ none => nomatch none⟩
  | @more calls report report' w asked w' claimed before claims processes ih =>
    obtain ⟨sweep, settled⟩ := ih
    obtain ⟨sweep', new, attends, settles⟩ := sweep.processed only steady clear claims processes
    have counts := (processor r config).process_counts _ _ _ _ (by rw [processes])
    rw [claimedIn_claimed]
    refine ⟨sweep', fun other mem => ?_⟩
    obtain old | last := List.mem_append.mp mem
    · have unlike : other.command.id ≠ claimed.command.id := by
        intro same
        exact new (same ▸ List.mem_map_of_mem old)
      exact (settled other old).later attends unlike counts.failures
    · rw [List.mem_singleton.mp last]
      exact settles _ rfl

/-- Every command that had its turn is settled, and whatever is pending had its turn. -/
structure Exhausted (dispatched : List ClaimedCommand) (report : DrainReport) (t : Tables) :
    Prop where
  settled : ∀ claimed ∈ dispatched, Settled claimed.command.id report t
  idle : ∀ id ∉ idsOf dispatched, ∀ row, t.row? id = some row → ¬ row.command.IsPending

/-- A drain that ends with a report, and not at its limit, has given every command its turn. -/
theorem sweep_ends (only : OnlyEnqueue r) (steady : w₀.Steady) (clear : Clear w₀)
    (sweep : Sweep w₀ w (claimedIn calls))
    (settled : ∀ claimed ∈ claimedIn calls, Settled claimed.command.id report w.store)
    {result : Except StoreError DrainReport}
    (ends : (processor r config).Ends none calls report w result all w') :
    Sweep w₀ w' (claimedIn all) ∧
      ∀ report', result = .ok report' → report'.truncated = false →
        Exhausted (claimedIn all) report' w'.store := by
  cases ends with
  | full full reports =>
    cases reports
    refine ⟨sweep.waits ⟨rfl, Nat.le_refl _⟩ rfl, ?_⟩
    rintro _ ⟨⟩ untruncated
    cases untruncated
  | idle room claims =>
    obtain ⟨nothing, -, rfl⟩ | ⟨row, token, -, other, -⟩ := claimNext_cases claims
    · rw [claimedIn_idle]
      refine ⟨sweep.waits ⟨rfl, Nat.le_succ _⟩ rfl, ?_⟩
      rintro _ ⟨⟩ -
      refine ⟨settled, fun id unvisited row found pending => ?_⟩
      have claimable := sweep.claimable steady clear config.claimLease unvisited found pending
      have skipped := List.find?_eq_none.mp nothing row (mem_commands_of_row? found)
      exact skipped claimable
    · cases other
  | claimFailed room claims =>
    obtain ⟨-, other, -⟩ | ⟨row, token, -, other, -⟩ := claimNext_cases claims
    · cases other
    · cases other
  | processFailed room claims processes =>
    obtain ⟨sweep', -⟩ := sweep.processed only steady clear claims processes
    rw [claimedIn_claimed]
    exact ⟨sweep', nofun⟩

/-- A drain of everything, from its beginning to its end. -/
theorem sweep_drains (only : OnlyEnqueue r) (steady : w₀.Steady) (clear : Clear w₀)
    (proper : w₀.store.Proper) (policy : config.drainPolicy = .includeNewlyEnqueued)
    {result : Except StoreError DrainReport}
    (drains : (processor r config).Drains w₀ result all w') :
    ∃ last, w'.store = last.store ∧ Sweep w₀ last (claimedIn all) ∧
      ∀ report, result = .ok report → report.truncated = false →
        Exhausted (claimedIn all) report last.store := by
  cases drains with
  | unmarked snapshot => cases policy.symm.trans snapshot
  | nothing snapshot => cases policy.symm.trans snapshot
  | @rounds ceiling marked start before ended _ report calls _ _ ceiled begins rounds ends closes =>
    cases ceiled with
    | snapshot snapshot => cases policy.symm.trans snapshot
    | everything _ =>
      have nothing : Sweep w₀ start [] := by
        cases begins
        exact .nil proper ⟨rfl, Nat.le_refl _⟩ rfl
      obtain ⟨sweep, settled⟩ := sweep_rounds only steady clear nothing rounds
      have stored := (processor r config).store_closed ended result
      rw [← closes] at stored
      exact ⟨ended, stored, sweep_ends only steady clear sweep settled ends⟩

/-! ### What has had its turn -/

namespace Sweep

/-- Nothing that is pending is passed over. -/
theorem passed (sweep : Sweep w₀ w dispatched) (mem : row ∈ w.store.commands)
    (handed : claimed ∈ dispatched) (precedes : row.command.Precedes claimed.command) :
    row.command.id ∈ idsOf dispatched ∨
      row ∈ w₀.store.commands ∧ ¬ row.command.IsPending := by
  have found := row?_of_mem sweep.proper.keyed.commands mem
  by_cases visited : row.command.id ∈ idsOf dispatched
  · exact .inl visited
  · -- What is pending still comes behind all that was dispatched.
    have idle : ¬ row.command.IsPending := fun pending =>
      precedes.asymm (sweep.ahead _ visited row found pending claimed handed)
    obtain old | ⟨-, new⟩ := sweep.unvisited _ visited row found
    · exact .inr ⟨mem_commands_of_row? old, idle⟩
    · exact absurd new.pending idle

/-- What is pending in the end was dispatched, and failed. -/
theorem failed (sweep : Sweep w₀ w dispatched) (done : Exhausted dispatched report w.store)
    (mem : row ∈ w.store.commands) (pending : row.command.IsPending) :
    row.command.id ∈ idsOf dispatched ∧ ∃ f ∈ report.failures, f.commandId = row.command.id := by
  have found := row?_of_mem sweep.proper.keyed.commands mem
  have visited : row.command.id ∈ idsOf dispatched := by
    by_contra unvisited
    exact done.idle _ unvisited row found pending
  refine ⟨visited, ?_⟩
  obtain ⟨claimed, handed, same⟩ := List.mem_map.mp visited
  obtain ⟨row', found', processed⟩ | failed := done.settled claimed handed
  · rw [same, found] at found'
    cases found'
    cases pending.1.symm.trans processed
  · rw [same] at failed
    exact failed

/-- What was pending at the beginning had its turn, … -/
theorem visited_of_pending (sweep : Sweep w₀ w dispatched) (keyed : w₀.store.Keyed)
    (done : Exhausted dispatched report w.store) (mem : row ∈ w₀.store.commands)
    (pending : row.command.IsPending) : row.command.id ∈ idsOf dispatched := by
  by_contra unvisited
  have found := row?_of_mem keyed.commands mem
  exact done.idle _ unvisited row (sweep.kept _ unvisited row found) pending

/-- … and so had what was enqueued since then. -/
theorem visited_of_new (sweep : Sweep w₀ w dispatched)
    (done : Exhausted dispatched report w.store) (mem : row ∈ w.store.commands)
    (missing : w₀.store.row? row.command.id = none) : row.command.id ∈ idsOf dispatched := by
  by_contra unvisited
  have found := row?_of_mem sweep.proper.keyed.commands mem
  obtain old | ⟨-, new⟩ := sweep.unvisited _ unvisited row found
  · rw [missing] at old
    cases old
  · exact done.idle _ unvisited row found new.pending

end Sweep

/-- A drain in memory that nobody disturbs, of a store in which everything pending may be handed
    out: the commands are dispatched in the order of commits, none of them twice, and none is passed
    over that is pending. If the drain ends with a report, and not at its limit, every command that
    is pending still is among the failures; and whatever was pending, or was enqueued meanwhile, was
    dispatched once. -/
theorem drain_in_order {s : Shared} {log : List Event} (history : Run .empty log s)
    (w : World Tables) (here : w.store = s.tables) (steady : w.Steady) (clear : Clear w)
    (r : Router Handling) (only : OnlyEnqueue r) (config : ProcessorConfig)
    (policy : config.drainPolicy = .includeNewlyEnqueued) :
    let done := (processor r config).drain.run w
    ∃ calls, (processor r config).watched.drain.run (w.beside []) = (done.1, done.2.beside calls) ∧
      ((claimedIn calls).Pairwise fun a b => a.command.Precedes b.command) ∧
      (idsOf (claimedIn calls)).Nodup ∧
      (∀ row ∈ done.2.store.commands, ∀ claimed ∈ claimedIn calls,
        row.command.Precedes claimed.command → row.command.id ∈ idsOf (claimedIn calls) ∨
          row ∈ w.store.commands ∧ ¬ row.command.IsPending) ∧
      ∀ report, done.1 = .ok report → report.truncated = false →
        (∀ row ∈ done.2.store.commands, row.command.IsPending →
          row.command.id ∈ idsOf (claimedIn calls) ∧
            ∃ f ∈ report.failures, f.commandId = row.command.id) ∧
        (∀ row ∈ w.store.commands, row.command.IsPending →
          (idsOf (claimedIn calls)).count row.command.id = 1) ∧
        ∀ row ∈ done.2.store.commands, w.store.row? row.command.id = none →
          (idsOf (claimedIn calls)).count row.command.id = 1 := by
  intro done
  obtain ⟨result, all, final, drains, alone, watched⟩ := (processor r config).drain_rounds w
  have alone : done = (result, final) := alone
  have proper : w.store.Proper := by
    rw [here]
    exact ⟨history.keyed, history.ordered⟩
  obtain ⟨last, stored, sweep, ends⟩ := sweep_drains only steady clear proper policy drains
  have once {id : CommandId} (visited : id ∈ idsOf (claimedIn all)) :
      (idsOf (claimedIn all)).count id = 1 :=
    List.count_eq_one_of_mem sweep.distinct visited
  refine ⟨all, by rw [watched, alone], sweep.ascending, sweep.distinct, ?_, ?_⟩
  · rw [alone, stored]
    intro row mem claimed handed precedes
    exact sweep.passed mem handed precedes
  · rw [alone, stored]
    intro report same untruncated
    have exhausted := ends report same untruncated
    refine ⟨fun row mem pending => ?_, fun row mem pending => ?_, fun row mem missing => ?_⟩
    · exact sweep.failed exhausted mem pending
    · exact once (sweep.visited_of_pending proper.keyed exhausted mem pending)
    · exact once (sweep.visited_of_new exhausted mem missing)

namespace PingPong

/-- A ping. -/
def ping : InternalCommand :=
  .fresh ⟨.zero⟩ "Ping" .null .epoch

/-- For a ping a pong is enqueued, which nobody handles. -/
def router : Router Handling :=
  ⟨[.ofHandler "Ping" Json.readAny fun _ _ => ExceptT.run do
    let _ ← Work.enqueue "Pong" .null
    pure .completed]⟩

/-- A store with a ping. -/
def world : World Tables :=
  ⟨⟨[⟨{ ping with sequence := some 1 }, none⟩], 1, [], []⟩, ⟨fun _ => .epoch, 0⟩,
    ⟨fun i => ⟨BitVec.ofNat 128 (i + 1)⟩, 0⟩, [], []⟩

theorem history : ∃ log s, Run .empty log s ∧ world.store = s.tables :=
  ⟨[.began 0, .asked 0 (.stageCommand ping) (.ok ()),
      .committed 0 ⟨[ping], [], [], []⟩ .epoch (.ok ())], _,
    .cons (step_begin rfl) <| .cons (step_ask (c := .empty) rfl _) <|
      .cons (.commit rfl (yields_commit.mpr (.inl ⟨rfl, rfl⟩))) (.nil _), rfl⟩

theorem clear : Clear world := by
  intro row mem _
  rw [List.mem_singleton.mp mem]
  exact ⟨rfl, rfl⟩

theorem onlyEnqueue : OnlyEnqueue router := by
  intro route mem
  rw [List.mem_singleton.mp mem]
  refine Route.onlyEnqueues_ofHandler fun _ _ => Work.onlyEnqueues_iff.mp ?_
  exact (Work.onlyEnqueues_enqueue "Pong" .null).bind fun _ => Work.onlyEnqueues_pure _

/-- A report of a drain that did not stop at its limit. -/
theorem reported : ∃ report, ((processor router .standard).drain.run world).1 = .ok report ∧
    report.truncated = false := by
  have all : ((processor router .standard).drain.run world).1.toOption.any
      (fun report => !report.truncated) = true := by decide +kernel
  cases result : ((processor router .standard).drain.run world).1 with
  | error e => simp [result, Except.toOption] at all
  | ok report => exact ⟨report, rfl, by simpa [result, Except.toOption] using all⟩

end PingPong

theorem drain_in_order_pingPong :
    ∃ report calls,
      ((processor PingPong.router .standard).drain.run PingPong.world).1 = .ok report ∧
      ((claimedIn calls).Pairwise fun a b => a.command.Precedes b.command) ∧
      (idsOf (claimedIn calls)).count PingPong.ping.id = 1 ∧
      ∃ row ∈ ((processor PingPong.router .standard).drain.run PingPong.world).2.store.commands,
        row.command.kind = "Pong" ∧ (idsOf (claimedIn calls)).count row.command.id = 1 ∧
          ∃ f ∈ report.failures, f.commandId = row.command.id := by
  obtain ⟨log, s, history, here⟩ := PingPong.history
  obtain ⟨report, result, untruncated⟩ := PingPong.reported
  obtain ⟨calls, -, ascending, -, -, complete⟩ := drain_in_order history PingPong.world here
    (fun _ _ _ _ => Int.le_refl _) PingPong.clear PingPong.router PingPong.onlyEnqueue .standard rfl
  obtain ⟨failed, first, later⟩ := complete report result untruncated
  have pong : ∃ row ∈
      ((processor PingPong.router .standard).drain.run PingPong.world).2.store.commands,
      row.command.kind = "Pong" ∧ row.command.IsPending ∧
        PingPong.world.store.row? row.command.id = none := by
    unfold InternalCommand.IsPending
    decide +kernel
  obtain ⟨row, mem, kind, pending, missing⟩ := pong
  have ping := first _ (List.mem_singleton_self _) ⟨rfl, rfl⟩
  exact ⟨report, calls, result, ascending, ping, row, mem, kind, later row mem missing,
    (failed row mem pending).2⟩

end Memory

end SupplierSwitch
