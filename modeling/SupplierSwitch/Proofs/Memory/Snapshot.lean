import SupplierSwitch.Proofs.Memory.Calls
import SupplierSwitch.Proofs.Memory.DrainOrder
import SupplierSwitch.Proofs.Memory.Traffic

namespace SupplierSwitch

/-!
# What a snapshot drain leaves for later

A drain of a snapshot reads the last place that was given, and goes up to this place. As places are
consecutive and never taken back, it only dispatches what was committed by then, whatever others
commit meanwhile, and whatever its own handlers enqueue.

* `Memory.Consecutive` — the numbering of a history;
* `Traffic.Lawful`, `Traffic.Since` — others who keep to the calls of the store, and what the tables
  have become since some moment;
* `Traffic.snapshot_dispatches_committed` — the two together.
-/

namespace Memory

open Tables

/-- The tables after a history hold the commands that were committed in it, at places that start
    from 1, follow the order of commits and, within a commit, that of staging, and stay. -/
structure Consecutive (log : List Event) (s : Shared) : Prop where
  places : s.tables.places = numbered 0 (commitOrder log)
  staged : ∀ n c, s.units n = some c → c.commands = stagedBy n log
  mark : s.tables.highWaterMark
    = if s.tables.commands.length = 0 then none else some s.tables.commands.length
  kept : ∀ later s', Run s later s' →
    s'.tables.places = s.tables.places ++ numbered s.tables.commands.length (commitOrder later)

theorem Run.consecutive {log : List Event} {s : Shared} (history : Run .empty log s) :
    Consecutive log s where
  places := history.numbers.places
  staged := history.stagedBy
  mark := by
    rw [history.numbers.highWaterMark, history.numbers.length]
    simp only [List.length_eq_zero_iff]
  kept _ _ goesOn := history.places_later goesOn

end Memory

namespace Traffic

open Memory Tables Processor

variable {start : Tables} {w : World Traffic}

/-- Whatever the others do to tables that calls have made, they do by calls. -/
def Lawful (s : Traffic) : Prop :=
  ∀ i t, Tables.empty.Becomes t → t.Becomes (s.others i t)

/-- The tables have become what they are since they were `start`, and will go on like this. -/
structure Since (start : Tables) (s : Traffic) : Prop where
  reached : Tables.empty.Becomes start
  tables : start.Becomes s.tables
  lawful : s.Lawful

theorem Since.turn {s : Traffic} (h : s.Since start) : start.Becomes s.turn :=
  h.tables.trans (h.lawful _ _ (h.reached.trans h.tables))

/-! ### Calls of a drain -/

/-- A call to this store keeps what the call alone makes of the tables. -/
theorem keeps_call {α : Type} {work : Service Tables α}
    (does : ∀ t : Tables, Service.Keeps t.Becomes work) :
    Service.Keeps (Since start) (call work) := by
  intro w since
  rcases calls : (call work).run w with ⟨a, w'⟩
  obtain ⟨v, runs, -, tables⟩ := call_cases calls
  have others : w'.store.others = w.store.others := by
    cases calls
    rfl
  refine ⟨since.reached, ?_, ?_⟩
  · rw [← tables]
    exact since.turn.trans ((does w.store.turn).run runs .refl)
  · rw [Lawful, others]
    exact since.lawful

/-- Whatever a drain asks of the store, calls are made. -/
theorem keeps_store : store.Keeps (Since start) ChangeSet.Tidy where
  begin := keeps_call fun _ => Memory.keeps_store.begin
  opened := by
    rintro w unit w' ⟨⟩ _
    exact ChangeSet.tidy_empty
  answer question unit w tidy since := by
    have looks : Service.Keeps (Since start) (call (Memory.store.answer question unit)) :=
      keeps_call fun _ _ becomes => becomes
    exact ⟨ChangeSet.tidy_answer tidy w.store.turn question, looks w since⟩
  highWaterMark := keeps_call fun _ => Memory.keeps_store.highWaterMark
  commit c tidy := keeps_call fun _ => Memory.keeps_store.commit c tidy
  claimNext filter := keeps_call fun _ => Memory.keeps_store.claimNext filter
  recordFailure id token error policy now :=
    keeps_call fun _ => Memory.keeps_store.recordFailure id token error policy now

theorem keeps_router (r : Router Handling) (config : ProcessorConfig) (command : InternalCommand)
    (now : Timestamp) :
    CommandStore.InUnit.Keeps (Since start) ChangeSet.Tidy
      ((processor r config).router.dispatch command now) := by
  rw [show (processor r config).router.dispatch _ _ = _ from r.dispatch_runIn store _ _]
  exact keeps_store.runIn _

/-! ### Snapshots -/

/-- What is handed out up to a place that was given when the tables were `start` was there
    already. -/
theorem committed_of_claimed {claimed : ClaimedCommand} {filter : ClaimFilter} {mark : Nat}
    {asked : World Traffic} (since : w.store.Since start) (marks : start.highWaterMark = some mark)
    (ceiling : filter.upToSequence = some mark)
    (claims : (store.claimNext filter).run w = (.ok (some claimed), asked)) :
    ∃ row ∈ start.commands, row.command.id = claimed.command.id ∧
      row.command.sequence = claimed.command.sequence := by
  obtain ⟨row, now, next, same, -⟩ := claimNext_cases claims
  have met : w.store.turn = asked.store.met := by
    obtain ⟨v, -, met, -⟩ := call_cases claims
    exact met
  rw [← met] at next
  -- The places as they were, and as they are.
  obtain ⟨keyed, ids, numbers⟩ := since.reached.numbers keyed_empty numbers_empty
  rw [List.nil_append] at numbers
  obtain ⟨-, more, later⟩ := since.turn.numbers keyed numbers
  have last : mark = ids.length := by
    rw [numbers.highWaterMark] at marks
    split at marks
    · cases marks
    · exact (Option.some.inj marks).symm
  have mem : (row.command.id, row.command.sequence) ∈ w.store.turn.places :=
    List.mem_map_of_mem (List.mem_of_find?_eq_some next)
  rw [later.places] at mem
  obtain ⟨i, found, place⟩ := mem_numbered.mp mem
  -- It was handed out below the mark, so that it is one of the first.
  have early : i < ids.length := by
    have claimable := List.find?_some next
    simp only [isClaimable, ceiling, place, Bool.and_eq_true, decide_eq_true_eq] at claimable
    obtain ⟨-, le⟩ := claimable
    omega
  rw [List.getElem?_append_left early] at found
  have before : (row.command.id, row.command.sequence) ∈ start.places := by
    rw [numbers.places]
    exact mem_numbered.mpr ⟨i, found, place⟩
  obtain ⟨old, mem, equal⟩ := List.mem_map.mp before
  obtain ⟨id, sequence⟩ := Prod.mk.inj equal
  rw [same]
  exact ⟨old, mem, id, sequence⟩

/-- The reading of the mark: what it answers, and that the drain goes on from the tables that it
    met. -/
theorem highWaterMark_cases {mark : Option Nat} {marked : World Traffic}
    (reached : Tables.empty.Becomes w.store.tables) (lawful : w.store.Lawful)
    (marks : store.highWaterMark.run w = (.ok mark, marked)) :
    w.store.turn.highWaterMark = mark ∧ marked.store.Since w.store.turn := by
  cases marks
  exact ⟨rfl, reached.trans (lawful _ _ reached), .refl, lawful⟩

/-- The stored commands have the places 1, 2, 3 and so on, in the order of commits and of staging,
    they keep them, and the last place is the number of commands. So when a drain of a snapshot has
    read the last place, it dispatches only what was stored in the tables that it met there, under
    the same place: whatever others do before any of its calls, and whatever its handlers are. -/
theorem snapshot_dispatches_committed :
    (∀ log s, Run .empty log s → Consecutive log s) ∧
    ∀ (r : Router Handling) (config : ProcessorConfig), config.drainPolicy = .snapshotAtStart →
      ∀ w : World Traffic, Tables.empty.Becomes w.store.tables → w.store.Lawful →
        ∃ result all done, (processor r config).drain.run w = (result, done) ∧
          (processor r config).watched.drain.run (w.beside []) = (result, done.beside all) ∧
          ∀ claimed ∈ claimedIn all, ∃ row ∈ w.store.turn.commands,
            row.command.id = claimed.command.id ∧
              row.command.sequence = claimed.command.sequence := by
  refine ⟨fun log s history => history.consecutive, fun r config policy w reached lawful => ?_⟩
  obtain ⟨result, all, done, drains, alone, watched⟩ := (processor r config).drain_rounds w
  refine ⟨result, all, done, alone, watched, fun claimed mem => ?_⟩
  obtain ⟨ceiling, marked, start, ceiled, same, calls, report, before, asked, rounds, claims⟩ :=
    drains.claims claimed mem
  cases ceiled with
  | everything other => cases policy.symm.trans other
  | @snapshot mark _ _ marks =>
    obtain ⟨last, since⟩ := highWaterMark_cases reached lawful marks
    have since : before.store.Since w.store.turn :=
      rounds.keeps keeps_store (keeps_router r config) (by rwa [same])
    exact committed_of_claimed since last rfl claims

/-! ### A latecomer -/

namespace Latecomer

/-- A ping that somebody else commits right after the mark was read. -/
def latecomer : InternalCommand :=
  .fresh ⟨⟨100⟩⟩ "Ping" .null .epoch

def others (i : Nat) (t : Tables) : Tables :=
  if i = 1 then (t.commit ⟨[latecomer], [], [], []⟩ .epoch).toOption.getD t else t

/-- A store with a ping, for which the handler will enqueue a pong. -/
def world : World Traffic :=
  { PingPong.world with store := ⟨PingPong.world.store, others, 0, PingPong.world.store⟩ }

def config : ProcessorConfig :=
  { ProcessorConfig.standard with drainPolicy := .snapshotAtStart }

theorem lawful : world.store.Lawful := by
  intro i t _
  show t.Becomes (others i t)
  unfold others
  split
  · cases commits : t.commit ⟨[latecomer], [], [], []⟩ .epoch with
    | error e => exact .refl
    | ok t' =>
      refine .of_effect (.committed (n := 0) commits) ?_
      rintro _ _ _ _ ⟨⟩
      exact ⟨List.nodup_singleton _, .nil, .nil, .nil⟩
  · exact .refl

/-- One command is dispatched, and three are stored in the end. -/
theorem drained :
    ((processor PingPong.router config).drain.run world).1.toOption.map (·.attempted) = some 1 ∧
      ((processor PingPong.router config).drain.run world).2.store.tables.commands.length = 3 := by
  decide +kernel

end Latecomer

open Latecomer in
theorem snapshot_dispatches_committed_latecomer :
    (∃ log s, Run .empty log s ∧ Consecutive log s ∧ s.tables = world.store.tables) ∧
      ∃ report all, ∃ done : World Traffic,
        (processor PingPong.router config).watched.drain.run (world.beside [])
          = (.ok report, done.beside all) ∧ report.attempted = 1 ∧
        done.store.tables.commands.length = 3 ∧
        ∀ claimed ∈ claimedIn all, claimed.command.id = PingPong.ping.id := by
  obtain ⟨log, s, history, here⟩ := PingPong.history
  have reached : Tables.empty.Becomes world.store.tables := by
    rw [show world.store.tables = s.tables from here]
    exact becomes_of_run history (Run.tidy (.nil _))
  obtain ⟨consecutive, drains⟩ := snapshot_dispatches_committed
  obtain ⟨result, all, done, alone, watched, committed⟩ :=
    drains PingPong.router config rfl world reached lawful
  obtain ⟨attempted, stored⟩ := drained
  rw [alone] at attempted stored
  cases result with
  | error e => cases attempted
  | ok report =>
    refine ⟨⟨log, s, history, consecutive log s history, here.symm⟩, report, all, done, watched,
      Option.some.inj attempted, stored, fun claimed mem => ?_⟩
    obtain ⟨row, mem, same, -⟩ := committed claimed mem
    rw [← same, List.mem_singleton.mp mem]

end Traffic

end SupplierSwitch
