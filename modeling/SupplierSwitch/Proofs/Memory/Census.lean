import SupplierSwitch.Proofs.Memory.Order
import SupplierSwitch.Proofs.Memory.Retries

namespace SupplierSwitch

/-!
# The census of the commands

Counts, the list of dead letters, revivals and claims each tell rows apart in a way of their own: by
what was processed, by what was given up, by schedules and by claims. They agree because no command
is both processed and given up, and because what is given up is not under a claim.

* `CommandRow.isPending`, `CommandRow.isGivenUp` — the rows that are counted so;
* `Memory.Run.parted` — no command of a history is both processed and given up;
* `Tables.stats_eq` and `Tables.stats_revived` — counts, and how a revival changes them;
* `Tables.nextClaimable_eq_none_iff` — when nobody is given a command;
* `Memory.observers_agree` — what follows for the operations of the store.
-/

namespace CommandRow

/-- The command is left to be done. -/
def isPending (row : CommandRow) : Bool :=
  !row.command.processed && !row.command.isDeadLettered

/-- The command was given up. One that was processed is not counted so. -/
def isGivenUp (row : CommandRow) : Bool :=
  !row.command.processed && row.command.isDeadLettered

/-- The command is not both processed and given up. -/
def Parted (row : CommandRow) : Prop :=
  row.command.processed = true → row.command.isDeadLettered = false

variable {row : CommandRow}

/-- What is given up is counted so. -/
theorem Parted.isGivenUp_eq (parted : row.Parted) : row.isGivenUp = row.command.isDeadLettered := by
  unfold isGivenUp
  cases processed : row.command.processed with
  | false => rfl
  | true =>
    rw [parted processed]
    rfl

end CommandRow

namespace Memory

open Tables

variable {id : CommandId} {e : Event} {s : Shared} {log : List Event}

/-- Whatever happens to a row, its command is not both processed and given up. -/
theorem RowStep.parted {r r' : Option CommandRow} (h : RowStep id e r r')
    (parted : ∀ row, r = some row → row.Parted)
    (sound : ∀ row, r = some row → CommandRow.Sound row)
    (fresh : ∀ n c now result, e = .committed n c now result → ∀ command ∈ c.commands,
      command.id = id → command.IsFresh) : ∀ row, r' = some row → row.Parted := by
  -- A mark and a failure both need the claim, and what is claimed is neither of the two yet.
  cases h with
  | untouched _ => exact parted
  | @inserted n c now command place staged same unmarked =>
    rintro _ ⟨⟩ -
    have new : command.IsFresh := fresh _ _ _ _ rfl command staged same
    show command.isDeadLettered = false
    rw [new]
    rfl
  | @processed n c now runsOut row token mark pending held =>
    rintro _ ⟨⟩ -
    exact (sound row rfl (by rw [held]; rfl)).2
  | @claimed filter now row token same claimable =>
    rintro _ ⟨⟩
    exact parted row rfl
  | @failed token error policy now runsOut row held =>
    rintro _ ⟨⟩ processed
    have unprocessed := (sound row rfl (by rw [held]; rfl)).1
    rw [failed_eq] at processed
    cases unprocessed.symm.trans processed
  | revived _ =>
    rintro _ ⟨⟩ -
    rfl

/-- In no history is a command both processed and given up, if commands are enqueued as they
    should be. -/
theorem Run.parted (history : Run .empty log s) (scheduled : ∀ id, ∀ e ∈ log, e.Schedules id) :
    ∀ row ∈ s.tables.commands, row.Parted := by
  have all : (∀ id, ∀ e ∈ log, e.Schedules id) → ∀ id row, s.tables.row? id = some row →
      row.Parted := by
    refine Run.snoc_induction (P := fun log s => (∀ id, ∀ e ∈ log, e.Schedules id) →
      ∀ id row, s.tables.row? id = some row → row.Parted)
      (fun _ _ _ none => nomatch none) ?_ history
    intro log s e s' history step ih scheduled id
    have earlier := fun id e mem => scheduled id e (List.mem_append_left _ mem)
    have reached : Reached s := ⟨log, history⟩
    refine (reached.rowStep step id).parted (ih earlier id) (fun _ => reached.sound) ?_
    rintro n c now result rfl
    exact history.isFresh (earlier id) step.isOpen
  intro row mem
  exact all scheduled _ row (row?_of_mem history.keyed.commands mem)

end Memory

namespace Tables

variable {t : Tables} {id : CommandId} {row : CommandRow} {now : Timestamp}

/-! ### Counts -/

theorem stats_eq (t : Tables) (now : Timestamp) : t.stats now =
    { pending := t.commands.countP (·.isPending)
      inFlight := t.commands.countP fun row => row.isPending && row.isClaimed now
      failing := t.commands.countP fun row => row.isPending && decide (0 < row.command.attempts)
      processed := t.commands.countP (·.command.processed)
      deadLettered := t.commands.countP (·.isGivenUp) } := by
  unfold stats CommandRow.isPending CommandRow.isGivenUp
  simp only [List.countP_eq_length_filter, List.filter_filter, Bool.and_comm]

/-- Every row is counted once. -/
theorem countP_total (rows : List CommandRow) :
    rows.countP (·.isPending) + rows.countP (·.command.processed) + rows.countP (·.isGivenUp)
      = rows.length := by
  induction rows with
  | nil => rfl
  | cons row rest ih =>
    simp only [List.countP_cons, List.length_cons]
    unfold CommandRow.isPending CommandRow.isGivenUp at ih ⊢
    cases row.command.processed <;> cases row.command.isDeadLettered <;> simp <;> omega

/-- A row that is replaced stays in its place, and the others stay as they are. -/
theorem exists_split (distinct : t.commandIds.Nodup) (found : t.row? id = some row) :
    ∃ before after, t.commands = before ++ row :: after ∧
      ∀ row', (t.updateRow id fun _ => row').commands = before ++ row' :: after := by
  obtain ⟨before, after, split⟩ := List.append_of_mem (mem_commands_of_row? found)
  refine ⟨before, after, split, fun row' => ?_⟩
  have own := id_of_row? found
  have others : ∀ other ∈ before ++ after, other.command.id ≠ id := by
    unfold commandIds at distinct
    rw [split, List.map_append, List.map_cons, List.nodup_middle, List.nodup_cons] at distinct
    rintro other mem rfl
    refine distinct.1 ?_
    rw [own, ← List.map_append]
    exact List.mem_map_of_mem mem
  have same {rows : List CommandRow} (sub : ∀ other ∈ rows, other ∈ before ++ after) :
      (rows.map fun other => if other.command.id = id then row' else other) = rows := by
    refine (List.map_congr_left fun other mem => ?_).trans (List.map_id rows)
    exact if_neg (others other (sub other mem))
  show t.commands.map (fun other => if other.command.id = id then row' else other) = _
  rw [split, List.map_append, List.map_cons, if_pos own,
    same fun _ mem => List.mem_append_left _ mem, same fun _ mem => List.mem_append_right _ mem]

/-- A revival turns one command that was given up into one that is pending. -/
theorem stats_revived (distinct : t.commandIds.Nodup) (found : t.row? id = some row)
    (given : row.isGivenUp = true) (now : Timestamp) :
    let t' := t.updateRow id fun _ => ⟨revived row.command, none⟩
    (t.stats now).deadLettered = (t'.stats now).deadLettered + 1 ∧
      t'.stats now = { t.stats now with
        pending := (t.stats now).pending + 1
        deadLettered := (t'.stats now).deadLettered } := by
  intro t'
  obtain ⟨before, after, split, replaced⟩ := exists_split distinct found
  have rows : t'.commands = before ++ ⟨revived row.command, none⟩ :: after := replaced _
  obtain ⟨unprocessed, dead⟩ : row.command.processed = false ∧ row.command.isDeadLettered = true :=
    by simpa [CommandRow.isGivenUp] using given
  have alive : (revived row.command).isDeadLettered = false := rfl
  have left : (revived row.command).processed = false := unprocessed
  have none : (revived row.command).attempts = 0 := rfl
  rw [stats_eq, stats_eq, rows, split]
  simp only [List.countP_append, List.countP_cons, CommandRow.isPending, CommandRow.isGivenUp,
    CommandRow.isClaimed, unprocessed, dead, alive, left, none]
  simp
  omega

/-! ### Claims -/

/-- A filter that keeps nothing back admits what is ready and not claimed. -/
theorem isClaimable_all (lease : Duration) (now : Timestamp) (row : CommandRow) :
    isClaimable ⟨[], none, lease⟩ now row = (row.command.isReady now && !row.isClaimed now) := by
  simp [isClaimable]

theorem isReady_iff {c : InternalCommand} : c.isReady now = true ↔
    (c.processed = false ∧ c.isDeadLettered = false) ∧
      ∀ due, c.notBefore = some due → due ≤ now := by
  unfold InternalCommand.isReady
  cases c.notBefore <;> simp

/-- Nobody is given a command if all that are left to be done are claimed or not yet due. -/
theorem nextClaimable_eq_none_iff (t : Tables) (lease : Duration) (now : Timestamp) :
    t.nextClaimable ⟨[], none, lease⟩ now = none ↔ ∀ row ∈ t.commands, row.isPending = true →
      row.isClaimed now = true ∨ ∃ due, row.command.notBefore = some due ∧ now < due := by
  unfold nextClaimable
  rw [List.find?_eq_none]
  refine forall₂_congr fun row _ => ?_
  have later (due : Timestamp) : now < due ↔ ¬ due ≤ now := Int.not_le.symm
  rw [isClaimable_all, Bool.and_eq_true, isReady_iff]
  unfold CommandRow.isPending
  simp only [later]
  cases row.isClaimed now <;> simp

end Tables

namespace Memory

open Tables

variable {s : Shared} {log : List Event} {w : World Tables}

/-! ### The operations of the store -/

theorem run_stats (w : World Tables) :
    store.stats.run w = (.ok (w.store.stats (w.clock.reading w.clock.taken)), ticked w) := rfl

theorem run_deadLetters (limit : Nat) (w : World Tables) :
    (store.deadLetters limit).run w = (.ok (w.store.deadLetters limit), w) := rfl

theorem run_retryDeadLetter_ok_iff {id : CommandId} {command : InternalCommand}
    {w' : World Tables} : (store.retryDeadLetter id).run w = (.ok command, w') ↔
      ∃ t, w.store.retryDeadLetter id = .ok (command, t) ∧ w' = { w with store := t } := by
  have run : (store.retryDeadLetter id).run w = _ := run_change _ w
  rw [run]
  cases w.store.retryDeadLetter id with
  | error e =>
    constructor
    · rintro ⟨⟩
    · rintro ⟨_, ⟨⟩, -⟩
  | ok done =>
    constructor
    · rintro ⟨⟩
      exact ⟨_, rfl, rfl⟩
    · rintro ⟨t, ⟨⟩, rfl⟩
      rfl

theorem claimNext_none_iff (filter : ClaimFilter) (w : World Tables) :
    ((store.claimNext filter).run w).1 = .ok none ↔
      w.store.nextClaimable filter (w.clock.reading w.clock.taken) = none := by
  show ((claimNext filter).run w).1 = .ok none ↔ _
  rw [run_claimNext]
  cases w.store.nextClaimable filter (w.clock.reading w.clock.taken) <;> simp

/-- The dead letters are the rows that are counted so, in their order. -/
theorem deadLetters_eq {t : Tables} (parted : ∀ row ∈ t.commands, row.Parted) (limit : Nat) :
    t.deadLetters limit = ((t.commands.filter (·.isGivenUp)).map (·.command)).take limit := by
  unfold Tables.deadLetters
  rw [List.filter_map]
  congr 2
  exact List.filter_congr fun row mem => (parted row mem).isGivenUp_eq.symm

/-- What can be revived is what is counted as given up. -/
theorem revivable_iff (distinct : w.store.commandIds.Nodup)
    (parted : ∀ row ∈ w.store.commands, row.Parted) (id : CommandId) :
    (∃ command w', (store.retryDeadLetter id).run w = (.ok command, w')) ↔
      ∃ row ∈ w.store.commands.filter (·.isGivenUp), row.command.id = id := by
  constructor
  · rintro ⟨command, w', done⟩
    obtain ⟨t', retried, -⟩ := run_retryDeadLetter_ok_iff.mp done
    obtain ⟨row, found, given, -, -⟩ := retryDeadLetter_ok_iff.mp retried
    have mem := mem_commands_of_row? found
    exact ⟨row, List.mem_filter.mpr ⟨mem, (parted row mem).isGivenUp_eq.trans given⟩,
      id_of_row? found⟩
  · rintro ⟨row, counted, rfl⟩
    obtain ⟨mem, given⟩ := List.mem_filter.mp counted
    have dead := (parted row mem).isGivenUp_eq.symm.trans given
    exact ⟨_, _, run_retryDeadLetter_ok_iff.mpr
      ⟨_, retryDeadLetter_ok_iff.mpr ⟨row, row?_of_mem distinct mem, dead, rfl, rfl⟩, rfl⟩⟩

/-- A revival makes one command pending that was given up. -/
theorem stats_of_retried (distinct : w.store.commandIds.Nodup)
    (parted : ∀ row ∈ w.store.commands, row.Parted) {id : CommandId} {command : InternalCommand}
    {w' : World Tables} (done : (store.retryDeadLetter id).run w = (.ok command, w'))
    (now : Timestamp) :
    (w.store.stats now).deadLettered = (w'.store.stats now).deadLettered + 1 ∧
      w'.store.stats now = { w.store.stats now with
        pending := (w.store.stats now).pending + 1
        deadLettered := (w'.store.stats now).deadLettered } := by
  obtain ⟨t', retried, rfl⟩ := run_retryDeadLetter_ok_iff.mp done
  obtain ⟨row, found, given, -, rfl⟩ := retryDeadLetter_ok_iff.mp retried
  have counted := (parted row (mem_commands_of_row? found)).isGivenUp_eq.trans given
  exact stats_revived distinct found counted now

/-- Whatever any number of clients have done, the observers of the store agree, at any time. Every
    row is counted once, as pending, processed or given up; what is in flight and what has failed is
    pending. The dead letters are the first of the rows that are counted as given up, in the order
    of commits; these are the ones that can be revived, and a revival makes one of them pending.
    Nobody is given a command if and only if every pending one is under a claim that has not run
    out, or not yet due. -/
theorem observers_agree (history : Run .empty log s) (scheduled : ∀ id, ∀ e ∈ log, e.Schedules id)
    (same : w.store = s.tables) :
    let t := s.tables
    let now := w.clock.reading w.clock.taken
    let pending := t.commands.filter (·.isPending)
    let dead := t.commands.filter (·.isGivenUp)
    (∃ stats, store.stats.run w = (.ok stats, ticked w) ∧
      stats.pending + stats.processed + stats.deadLettered = t.commands.length ∧
      stats.pending = pending.length ∧
      stats.inFlight = (pending.filter (·.isClaimed now)).length ∧
      stats.failing = (pending.filter (0 < ·.command.attempts)).length ∧
      stats.deadLettered = dead.length) ∧
    (∀ limit, ∃ letters, (store.deadLetters limit).run w = (.ok letters, w) ∧
      letters = (dead.map (·.command)).take limit ∧ letters.length = min limit dead.length ∧
      letters.Pairwise InternalCommand.Precedes) ∧
    (∀ id, (∃ command w', (store.retryDeadLetter id).run w = (.ok command, w')) ↔
      ∃ row ∈ dead, row.command.id = id) ∧
    (∀ id command w', (store.retryDeadLetter id).run w = (.ok command, w') → ∀ instant,
      (t.stats instant).deadLettered = (w'.store.stats instant).deadLettered + 1 ∧
      w'.store.stats instant = { t.stats instant with
        pending := (t.stats instant).pending + 1
        deadLettered := (w'.store.stats instant).deadLettered }) ∧
    ∀ lease, ((store.claimNext ⟨[], none, lease⟩).run w).1 = .ok none ↔ ∀ row ∈ pending,
      row.isClaimed now = true ∨ ∃ due, row.command.notBefore = some due ∧ now < due := by
  intro t now pending dead
  have parted := history.parted scheduled
  have distinct := history.keyed.commands
  refine ⟨⟨t.stats now, ?_, ?_⟩, fun limit => ⟨_, run_deadLetters limit w, ?_⟩, ?_, ?_, ?_⟩
  · rw [run_stats, same]
  · rw [stats_eq]
    refine ⟨countP_total t.commands, List.countP_eq_length_filter, ?_, ?_,
      List.countP_eq_length_filter⟩
    · show t.commands.countP (fun row => row.isPending && row.isClaimed now) = _
      rw [List.countP_eq_length_filter, List.filter_filter]
      simp only [Bool.and_comm]
    · show t.commands.countP (fun row => row.isPending && decide (0 < row.command.attempts)) = _
      rw [List.countP_eq_length_filter, List.filter_filter]
      simp only [Bool.and_comm]
  · have letters : w.store.deadLetters limit = (dead.map (·.command)).take limit := by
      rw [same, deadLetters_eq parted]
    refine ⟨letters, ?_, ?_⟩
    · rw [letters, List.length_take, List.length_map]
    · rw [letters]
      refine List.Pairwise.sublist (List.take_sublist _ _) ?_
      rw [List.pairwise_map]
      exact history.ordered.ascending.sublist List.filter_sublist
  · rw [← same] at distinct parted
    have revivable := revivable_iff distinct parted
    rwa [same] at revivable
  · intro id command w' done instant
    rw [← same] at distinct parted
    have counted := stats_of_retried distinct parted done instant
    rwa [same] at counted
  · intro lease
    rw [claimNext_none_iff, same, nextClaimable_eq_none_iff]
    simp only [pending, List.mem_filter, and_imp]
    exact Iff.rfl

/-- After the only attempt that is allowed, there is a dead letter. -/
theorem given_onlyFailure : ∃ s, Run .empty (firstAttempt ++ [onlyFailure]) s ∧
    ∃ row, s.tables.row? ⟨.zero⟩ = some row ∧ row.command.isDeadLettered = true := by
  obtain ⟨s, history⟩ := run_onlyFailure
  obtain ⟨m, first, last⟩ := run_append.mp history
  obtain _ | ⟨step, _ | _⟩ := last
  have reached : Reached m := ⟨firstAttempt, first⟩
  obtain ⟨row, runsOut, -, -, reported, found⟩ := (reached.rowStep step ⟨.zero⟩).of_recorded
  refine ⟨s, history, _, found, ?_⟩
  cases again : (RetryPolicy.fixed 1 .zero).shouldRetry (row.command.attempts + 1) with
  | true =>
    rw [failed_of_retry again] at reported
    cases reported
  | false =>
    rw [failed_of_last again]
    rfl

/-- It can be revived, and is pending then. -/
theorem observers_agree_onlyFailure : ∃ s, Run .empty (firstAttempt ++ [onlyFailure]) s ∧
    ∃ command w', (store.retryDeadLetter ⟨.zero⟩).run (still s.tables .epoch .zero)
        = (.ok command, w') ∧
      (s.tables.stats .epoch).deadLettered = (w'.store.stats .epoch).deadLettered + 1 ∧
      (w'.store.stats .epoch).pending = (s.tables.stats .epoch).pending + 1 := by
  obtain ⟨s, history, row, found, given⟩ := given_onlyFailure
  obtain ⟨-, -, revivable, revived, -⟩ :=
    observers_agree history schedules_all (w := still s.tables .epoch .zero) rfl
  have mem := mem_commands_of_row? found
  have counted : row.isGivenUp = true :=
    (history.parted schedules_all row mem).isGivenUp_eq.trans given
  obtain ⟨command, w', done⟩ :=
    (revivable ⟨.zero⟩).mpr ⟨row, List.mem_filter.mpr ⟨mem, counted⟩, id_of_row? found⟩
  obtain ⟨one, moved⟩ := revived _ _ _ done .epoch
  refine ⟨s, history, command, w', done, one, ?_⟩
  rw [moved]

end Memory

end SupplierSwitch
