import SupplierSwitch.Proofs.Market.Payload
import SupplierSwitch.Proofs.Memory.Evolution

namespace SupplierSwitch

/-!
# Stored commands by their meaning

What is true of the commands of a market is true of them by what they mean: which effectuations
there are, which requests. This file says what becomes of the stored commands of one meaning.

* `Tables.rowsOf` — the stored commands whose meaning satisfies a test;
* `Tables.Rewritten` and `Memory.Effect.rewritten` — calls other than commits rewrite them one by
  one;
* `Tables.rowsOf_of_spares`, `Tables.rowsOf_of_mark` and `Tables.rowsOf_of_staged` — a commit leaves
  them as they were, processes the only one there is, or brings the first one.
-/

/-- The command is a request in the named transaction. -/
def MarketCommand.isRequestIn (id : TransactionId) : MarketCommand → Bool
  | request _ r => decide (r.transactionId = id)
  | _ => false

namespace Tables

/-! ### Stored commands by their meaning -/

/-- The row stores a command whose meaning satisfies `p`. -/
def storesA (p : MarketCommand → Bool) (row : CommandRow) : Bool :=
  row.command.market?.any p

/-- The rows that store a command whose meaning satisfies `p`. -/
def rowsOf (p : MarketCommand → Bool) (t : Tables) : List CommandRow :=
  t.commands.filter (storesA p)

variable {t t' : Tables} {c : ChangeSet} {now : Timestamp} {p : MarketCommand → Bool}

theorem storesA_iff {row : CommandRow} :
    storesA p row = true ↔ ∃ m, row.command.market? = some m ∧ p m = true := by
  cases h : row.command.market? <;> simp [storesA, h]

theorem storesA_of_market? {row : CommandRow} {m : MarketCommand}
    (h : row.command.market? = some m) : storesA p row = p m := by
  simp [storesA, h]

theorem mem_rowsOf {row : CommandRow} :
    row ∈ t.rowsOf p ↔ row ∈ t.commands ∧ storesA p row = true :=
  List.mem_filter

theorem rowsOf_eq_nil : t.rowsOf p = [] ↔ ∀ row ∈ t.commands, storesA p row = false := by
  simp [rowsOf]

/-- A row that is the only one of its meaning is the one that is found. -/
theorem eq_of_rowsOf {row row' : CommandRow} (h : t.rowsOf p = [row]) (mem : row' ∈ t.commands)
    (stores : storesA p row' = true) : row' = row :=
  List.mem_singleton.mp (h ▸ mem_rowsOf.mpr ⟨mem, stores⟩)

/-- A change of rows that keeps what they mean and whether they are processed. -/
structure Rewrites (f : CommandRow → CommandRow) : Prop where
  market? : ∀ row, (f row).command.market? = row.command.market?
  processed : ∀ row, (f row).command.processed = row.command.processed

theorem market?_marked (marks : List (CommandId × ClaimToken)) (now : Timestamp)
    (row : CommandRow) : (marked marks now row).command.market? = row.command.market? := by
  unfold marked
  split <;> rfl

theorem filter_storesA_map {f : CommandRow → CommandRow}
    (same : ∀ row, (f row).command.market? = row.command.market?) (rows : List CommandRow) :
    (rows.map f).filter (storesA p) = (rows.filter (storesA p)).map f := by
  rw [List.filter_map]
  congr 1
  refine List.filter_congr fun row _ => ?_
  simp [storesA, same]

/-- The tables `t'` are the tables `t` with their rows changed so, and nothing else. -/
structure Rewritten (t t' : Tables) (f : CommandRow → CommandRow) : Prop extends Rewrites f where
  commands : t'.commands = t.commands.map f
  transactions : t'.transactions = t.transactions
  points : t'.points = t.points

theorem Rewritten.refl (t : Tables) : t.Rewritten t id :=
  ⟨⟨fun _ => rfl, fun _ => rfl⟩, (List.map_id _).symm, rfl, rfl⟩

/-- A change of one row is such a change if it is one on the row that is there. -/
theorem rewritten_updateRow (keyed : t.Keyed) {id : CommandId} {change f : CommandRow → CommandRow}
    (h : Rewrites f) (agrees : ∀ row, t.row? id = some row → change row = f row) :
    t.Rewritten (t.updateRow id change) fun row => if row.command.id = id then f row else row := by
  refine ⟨⟨fun row => ?_, fun row => ?_⟩, List.map_congr_left fun row mem => ?_, rfl, rfl⟩
  · split
    · exact h.market? row
    · rfl
  · split
    · exact h.processed row
    · rfl
  · by_cases same : row.command.id = id
    · have found := same ▸ row?_of_mem keyed.commands mem
      rw [if_pos same, if_pos same, agrees row found]
    · rw [if_neg same, if_neg same]

theorem rowsOf_rewritten {f : CommandRow → CommandRow} (h : t.Rewritten t' f)
    (p : MarketCommand → Bool) : t'.rowsOf p = (t.rowsOf p).map f := by
  rw [rowsOf, h.commands, filter_storesA_map h.market?]
  rfl

/-- The rows of a meaning after a commit: those before it, marked, and the staged ones. -/
theorem rowsOf_receives (h : t.Receives c now t') (p : MarketCommand → Bool) :
    t'.rowsOf p = (t.rowsOf p).map (marked c.processed now)
      ++ (placed t.lastSequence c.commands).filter (storesA p) := by
  rw [rowsOf, h.commands, List.filter_append, filter_storesA_map (market?_marked c.processed now)]
  rfl

/-- The staged commands whose meaning satisfies `p`. -/
def stagedOf (p : MarketCommand → Bool) (c : ChangeSet) : List InternalCommand :=
  c.commands.filter fun command => command.market?.any p

theorem stagedOf_append {c' : ChangeSet} {command : InternalCommand}
    (h : c'.commands = c.commands ++ [command]) (p : MarketCommand → Bool) :
    stagedOf p c' = stagedOf p c ++ if command.market?.any p then [command] else [] := by
  simp [stagedOf, h, List.filter_cons]

theorem processed_placed (last : Nat) (commands : List InternalCommand) :
    ((placed last commands).filter (storesA p)).map (·.command.processed)
      = (commands.filter fun command => command.market?.any p).map (·.processed) := by
  induction commands generalizing last with
  | nil => rfl
  | cons command rest ih =>
    -- The place of a command has no part in its meaning.
    have same : storesA p ⟨{ command with sequence := some (last + 1) }, none⟩
        = command.market?.any p := rfl
    rw [placed_cons, List.filter_cons, List.filter_cons, same]
    split
    · rw [List.map_cons, List.map_cons, ih]
    · exact ih _

/-! ### What a commit makes of the rows of a meaning -/

/-- The commit has nothing to do with commands whose meaning satisfies `p`. -/
structure Spares (t : Tables) (c : ChangeSet) (p : MarketCommand → Bool) : Prop where
  staged : stagedOf p c = []
  marks : ∀ mark ∈ c.processed, ∀ row, t.row? mark.1 = some row → storesA p row = false

theorem filter_placed_eq_nil (h : stagedOf p c = []) (last : Nat) :
    (placed last c.commands).filter (storesA p) = [] := by
  have flags := @processed_placed p last c.commands
  rw [show (c.commands.filter fun command => command.market?.any p) = [] from h] at flags
  exact List.map_eq_nil_iff.mp flags

theorem rowsOf_of_spares (keyed : t.Keyed) (h : t.Receives c now t') (spares : t.Spares c p) :
    t'.rowsOf p = t.rowsOf p := by
  rw [rowsOf_receives h, filter_placed_eq_nil spares.staged, List.append_nil]
  -- No mark reaches a row of the meaning: it would be the row that is found under its identifier.
  refine (List.map_congr_left fun row mem => ?_).trans (List.map_id _)
  obtain ⟨stored, stores⟩ := mem_rowsOf.mp mem
  have unmarked : row.command.id ∉ c.processed.map Prod.fst := fun marked => by
    obtain ⟨mark, hmark, same⟩ := List.mem_map.mp marked
    have found := row?_of_mem keyed.commands stored
    rw [spares.marks mark hmark row (same ▸ found)] at stores
    cases stores
  rw [marked, if_neg unmarked, id]

/-- The only row of a meaning is processed by a commit that marks it. -/
theorem rowsOf_of_mark (h : t.Receives c now t') (staged : stagedOf p c = [])
    {row row' : CommandRow} (only : t.rowsOf p = [row']) (mem : row ∈ t.commands)
    (stores : storesA p row = true) (mark : row.command.id ∈ c.processed.map Prod.fst) :
    t'.rowsOf p = [processedRow now row] := by
  rw [rowsOf_receives h, filter_placed_eq_nil staged, List.append_nil, only,
    ← eq_of_rowsOf only mem stores, List.map_singleton, marked, if_pos mark]

/-- The first row of a meaning is the one that is staged. -/
theorem rowsOf_of_staged (h : t.Receives c now t') (none : t.rowsOf p = [])
    {command : InternalCommand} (only : stagedOf p c = [command]) :
    ∃ row, t'.rowsOf p = [row] ∧ row.command.processed = command.processed := by
  have flags := @processed_placed p t.lastSequence c.commands
  rw [show (c.commands.filter fun command => command.market?.any p) = [command] from only] at flags
  obtain ⟨row, hrow, processed⟩ := List.map_eq_singleton_iff.mp flags
  refine ⟨row, ?_, processed⟩
  rw [rowsOf_receives h, none, hrow]
  rfl

/-- A row after the commit was there before or stores a staged command. -/
theorem mem_commands_receives (h : t.Receives c now t') {row : CommandRow}
    (mem : row ∈ t'.commands) :
    (∃ old ∈ t.commands, row.command.market? = old.command.market?) ∨
      ∃ command ∈ c.commands, row.command.market? = command.market? := by
  obtain ⟨old, hold, rfl⟩ | ⟨command, hcommand, place, -, -, rfl⟩ := h.mem_commands mem
  · exact .inl ⟨old, hold, market?_marked _ _ _⟩
  · exact .inr ⟨command, hcommand, rfl⟩

end Tables

namespace Memory

open Tables

/-- Whatever is not a commit keeps what the rows mean and whether they are processed. -/
theorem Effect.rewritten {t t' : Tables} {e : Event} (keyed : t.Keyed) (h : Effect t e t') :
    (∃ n c now, e = .committed n c now (.ok ()) ∧ t.Admits c ∧ t' = t.apply c now) ∨
      ∃ f, t.Rewritten t' f := by
  cases h with
  | committed done =>
    obtain ⟨admits, rfl⟩ := commit_ok_iff.mp done
    exact .inl ⟨_, _, _, rfl, admits, rfl⟩
  | @claimed filter now row token next =>
    exact .inr ⟨_, rewritten_updateRow keyed
      (f := fun row => { row with claim := some (token, now.offsetBy filter.lease) })
      ⟨fun _ => rfl, fun _ => rfl⟩ fun _ _ => rfl⟩
  | @recorded id token error policy now disposition t' done =>
    obtain ⟨row, -, found, -, -, rfl⟩ := recordFailure_ok_iff.mp done
    -- The row is replaced by what becomes of the one that is found, which is itself.
    refine .inr ⟨_, rewritten_updateRow keyed
      (f := fun row => ⟨(failed row.command error policy now).1, none⟩) ⟨?_, ?_⟩ ?_⟩
    · intro row
      rw [failed_eq]
      rfl
    · intro row
      rw [failed_eq]
    · intro row' found'
      cases found.symm.trans found'
      rfl
  | retried done =>
    obtain ⟨row, found, -, -, rfl⟩ := retryDeadLetter_ok_iff.mp done
    refine .inr ⟨_, rewritten_updateRow keyed (f := fun row => ⟨revived row.command, none⟩)
      ⟨fun _ => rfl, fun _ => rfl⟩ fun row' found' => ?_⟩
    cases found.symm.trans found'
    rfl
  | _ => exact .inr ⟨_, .refl t⟩

end Memory

end SupplierSwitch
