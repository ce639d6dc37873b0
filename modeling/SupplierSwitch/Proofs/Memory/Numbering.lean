import SupplierSwitch.Proofs.Memory.Aggregates
import SupplierSwitch.Proofs.Memory.Order

namespace SupplierSwitch

/-!
# The numbering of commits

The places that commits give are consecutive: after every history the stored commands have the
places 1, 2, 3 and so on, in the order in which they were committed, and those of one commit in the
order in which they were staged. A place is never taken back, whatever becomes of the command, so
that the last place is the number of commands.

* `Tables.places`, `numbered` — the stored commands with their places, and consecutive places;
* `Memory.commitOrder`, `Memory.stagedBy` — the commands of a history in the order of commits, and
  those that an open unit has staged;
* `Tables.Numbers` and `Memory.Run.numbers` — the tables of every history are numbered.
-/

/-- Commands at consecutive places, from the one after `last` on. -/
def numbered (last : Nat) (ids : List CommandId) : List (CommandId × Option Nat) :=
  ids.mapIdx fun i id => (id, some (last + 1 + i))

theorem numbered_append (last : Nat) (ids more : List CommandId) :
    numbered last (ids ++ more) = numbered last ids ++ numbered (last + ids.length) more := by
  rw [numbered, List.mapIdx_append]
  congr 2
  funext i id
  rw [show last + 1 + (i + ids.length) = last + ids.length + 1 + i by omega]

theorem mem_numbered {last : Nat} {ids : List CommandId} {id : CommandId} {place : Option Nat} :
    (id, place) ∈ numbered last ids ↔ ∃ i, ids[i]? = some id ∧ place = some (last + 1 + i) := by
  simp only [numbered, List.mem_mapIdx, List.getElem?_eq_some_iff, Prod.mk.injEq]
  constructor
  · rintro ⟨i, less, same, rfl⟩
    exact ⟨i, ⟨less, same⟩, rfl⟩
  · rintro ⟨i, ⟨less, same⟩, rfl⟩
    exact ⟨i, less, same, rfl⟩

namespace Tables

variable {t t' : Tables} {ids : List CommandId}

/-- The stored commands with their places. -/
def places (t : Tables) : List (CommandId × Option Nat) :=
  t.commands.map fun row => (row.command.id, row.command.sequence)

/-- The tables hold these commands, at consecutive places from the first one on. -/
structure Numbers (t : Tables) (ids : List CommandId) : Prop where
  places : t.places = numbered 0 ids
  last : t.lastSequence = ids.length

theorem numbers_empty : Numbers .empty [] :=
  ⟨rfl, rfl⟩

theorem places_placed (last : Nat) (commands : List InternalCommand) :
    (placed last commands).map (fun row => (row.command.id, row.command.sequence))
      = numbered last (commands.map (·.id)) := by
  refine List.ext_getElem? fun i => ?_
  simp only [placed, numbered, List.getElem?_map, List.getElem?_mapIdx, Option.map_map]
  rfl

namespace Numbers

theorem length (h : t.Numbers ids) : t.commands.length = ids.length := by
  have lengths := congrArg List.length h.places
  rwa [Tables.places, List.length_map, numbered, List.length_mapIdx] at lengths

/-- Rows that keep their identifiers and places are numbered as before. -/
theorem map (h : t.Numbers ids) {change : CommandRow → CommandRow}
    (keeps : ∀ row ∈ t.commands, (change row).command.id = row.command.id ∧
      (change row).command.sequence = row.command.sequence) :
    Numbers { t with commands := t.commands.map change } ids := by
  refine ⟨?_, h.last⟩
  rw [← h.places, Tables.places, List.map_map]
  exact List.map_congr_left fun row mem => Prod.ext (keeps row mem).1 (keeps row mem).2

/-- What is committed is numbered on. -/
theorem apply (h : t.Numbers ids) {c : ChangeSet} (admits : t.Admits c) (now : Timestamp) :
    (t.apply c now).Numbers (ids ++ c.commands.map (·.id)) := by
  have kept := h.map fun row _ =>
    ⟨id_marked c.processed now row, sequence_marked c.processed now row⟩
  rw [admits.apply_eq]
  constructor
  · have places : (t.commands.map (marked c.processed now)).map _ = _ := kept.places
    rw [Tables.places, List.map_append, places, places_placed, numbered_append, h.last,
      Nat.zero_add]
  · rw [h.last, List.length_append, List.length_map]

/-- The last place is the number of commands. -/
theorem highWaterMark (h : t.Numbers ids) :
    t.highWaterMark = if ids = [] then none else some ids.length := by
  have sequences : t.commands.filterMap (·.command.sequence)
      = (numbered 0 ids).filterMap Prod.snd := by
    rw [← h.places, Tables.places, List.filterMap_map]
    rfl
  rw [Tables.highWaterMark, sequences]
  split
  · rename_i none
    rw [none]
    rfl
  · rename_i some
    have positive : 0 < ids.length := List.length_pos_iff.mpr some
    refine List.max?_eq_some_iff.mpr ⟨?_, ?_⟩
    · refine List.mem_filterMap.mpr ⟨(ids[ids.length - 1], _), mem_numbered.mpr
        ⟨ids.length - 1, List.getElem?_eq_getElem _, rfl⟩, ?_⟩
      rw [show 0 + 1 + (ids.length - 1) = ids.length by omega]
    · intro place mem
      obtain ⟨⟨id, _⟩, mem, rfl⟩ := List.mem_filterMap.mp mem
      obtain ⟨i, found, same⟩ := mem_numbered.mp mem
      have less := (List.getElem?_eq_some_iff.mp found).1
      cases same
      omega

end Numbers

end Tables

namespace Memory

open Tables

variable {t t' : Tables} {e : Event} {ids : List CommandId} {s s' : Shared} {log : List Event}

/-! ### What a history commits -/

/-- The commands of a history in the order in which they were committed. -/
def commitOrder (log : List Event) : List CommandId :=
  log.flatMap Event.commits

/-- What unit `n` has staged, after one more call. -/
def stagedAfter (n : Nat) (staged : List InternalCommand) : Event → List InternalCommand
  | .began m => if m = n then [] else staged
  | .asked m (.stageCommand command) (.ok ()) => if m = n then staged ++ [command] else staged
  | _ => staged

/-- The commands that unit `n` has staged since it last began, in order. -/
def stagedBy (n : Nat) (log : List Event) : List InternalCommand :=
  log.foldl (stagedAfter n) []

/-- A call leaves the staged commands as they are, or puts the one that it stages behind them. -/
theorem stagedAfter_asked {n : Nat} {call : UnitCall} {answer : call.Answer} {c c' : ChangeSet}
    (answered : t.answer call c = (answer, c')) :
    c'.commands = stagedAfter n c.commands (.asked n call answer) := by
  have same : (∀ command, call ≠ .stageCommand command) → c'.commands = c.commands := by
    intro other
    obtain kept | ⟨command, staged, -⟩ := (answer_outbox t c call).1
    · rwa [answered] at kept
    · exact absurd staged (other command)
  cases call with
  | stageCommand command =>
    obtain ⟨⟨e, rfl⟩, rfl⟩ | ⟨rfl, staged⟩ := settle_cases answered
    · rfl
    · rw [ChangeSet.stageCommand] at staged
      split at staged
      · cases staged
      · cases staged
        simp only [stagedAfter, if_true]
  | _ => exact same fun command => by rintro ⟨⟩

/-- In every history, an open unit holds the commands that it has staged, in order. -/
theorem Run.stagedBy (history : Run .empty log s) :
    ∀ n c, s.units n = some c → c.commands = stagedBy n log := by
  refine Run.snoc_induction (P := fun log s => ∀ n c, s.units n = some c →
    c.commands = Memory.stagedBy n log) (fun _ _ => nofun) ?_ history
  intro log s e s' _ step known n c isOpen
  rw [Memory.stagedBy, List.foldl_append]
  rcases step.unit_cases isOpen with ⟨rfl, rfl, -⟩ |
    ⟨call, answer, c₀, rfl, before, answered, -⟩ | ⟨before, begins, asks⟩
  · simp only [List.foldl_cons, List.foldl_nil, stagedAfter, if_true]
    rfl
  · rw [stagedAfter_asked answered, known n c₀ before]
    rfl
  · have idle : stagedAfter n (Memory.stagedBy n log) e = Memory.stagedBy n log := by
      unfold stagedAfter
      split
      · rename_i m
        exact if_neg fun same => begins (congrArg _ same)
      · rename_i m command
        refine if_neg fun same => ?_
        subst same
        exact asks _ _ rfl
      · rfl
    exact (known n c before).trans idle.symm

/-! ### Histories are numbered -/

/-- Whatever a call does to the tables, they stay numbered. -/
theorem Effect.numbers (h : Effect t e t') (keyed : t.Keyed) (numbers : t.Numbers ids) :
    t'.Numbers (ids ++ e.commits) := by
  obtain ⟨n, c, now, rfl, admits, rfl⟩ | ⟨none, change, keeps, rfl⟩ := h.inPlace keyed
  · exact numbers.apply admits now
  · rw [none, List.append_nil]
    exact numbers.map keeps

/-- The tables of every history are numbered in the order of commits. -/
theorem Run.numbers (history : Run .empty log s) : s.tables.Numbers (commitOrder log) := by
  refine Run.snoc_induction (P := fun log s => s.tables.Numbers (commitOrder log)) numbers_empty
    ?_ history
  intro log s e s' history step ih
  rw [commitOrder, List.flatMap_append, List.flatMap_singleton]
  exact step.effect.numbers history.keyed ih

/-- What a history has numbered keeps its place, whatever happens later. -/
theorem Run.places_later {later : List Event} (history : Run .empty log s)
    (goesOn : Run s later s') :
    s'.tables.places
      = s.tables.places ++ numbered s.tables.commands.length (commitOrder later) := by
  have whole := run_append.mpr ⟨s, history, goesOn⟩
  rw [history.numbers.length, history.numbers.places, whole.numbers.places, commitOrder,
    List.flatMap_append, numbered_append, Nat.zero_add]
  rfl

end Memory

end SupplierSwitch
