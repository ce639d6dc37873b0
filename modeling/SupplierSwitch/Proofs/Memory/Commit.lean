import SupplierSwitch.Proofs.Memory.Clients

namespace SupplierSwitch

/-!
# What a commit does

A commit checks four lists against the tables and then applies them one after another. What it
checked stays true while it applies: a marked command is committed and a staged one is not, so that
no mark meets a row of the same commit, and no key is written twice.

* `Tables.Admits` — the condition of a commit, and `Tables.check_ok_iff` — it is what is checked;
* `Tables.Receives` — the tables afterwards, and `Tables.receives_apply` — they are what is applied;
* `Tables.Keyed` — no key is stored twice, `Memory.Run.keyed` — in no history;
* `Memory.commit_all_or_nothing` — the two together, for every unit of every history.
-/

namespace Tables

/-! ### The condition of a commit -/

/-- A change set fits the tables: what it stages as new is new, what it marks is held under its
    claim and not processed, and what it guards is there in an expected version. -/
structure Admits (t : Tables) (c : ChangeSet) : Prop where
  commands : ∀ command ∈ c.commands, t.row? command.id = none
  marks : ∀ mark ∈ c.processed, ∃ row runsOut, t.row? mark.1 = some row ∧
    row.command.processed = false ∧ row.claim = some (mark.2, runsOut)
  inserts : ∀ staged ∈ c.transactions, staged.write = .insert →
    t.transaction? staged.transaction.id = none
  updates : ∀ staged ∈ c.transactions, ∀ expected, staged.write = .update expected →
    ∃ current, t.transaction? staged.transaction.id = some current ∧
      expected.Matches current.version
  points : ∀ staged ∈ c.points, staged.expected.Matches (t.pointVersion staged.point.gsrn)

theorem then_ok_iff {ε : Type} {first second : Except ε Unit} :
    (first >>= fun _ => second) = .ok () ↔ first = .ok () ∧ second = .ok () := by
  cases first <;> simp [bind, Except.bind]

theorem forM_ok_iff {α ε : Type} (f : α → Except ε Unit) (l : List α) :
    l.forM f = .ok () ↔ ∀ a ∈ l, f a = .ok () := by
  induction l with
  | nil => simp [pure, Except.pure]
  | cons a rest ih =>
    show (f a >>= fun _ => rest.forM f) = .ok () ↔ _
    rw [then_ok_iff, ih, List.forall_mem_cons]

theorem checkVersion_ok_iff {expected : ExpectedVersion} {actual : Nat} {what : String} :
    checkVersion expected actual what = .ok () ↔ expected.Matches actual := by
  by_cases h : expected.Matches actual <;>
    simp [checkVersion, ExpectedVersion.check, Except.mapError, h]

variable {t : Tables}

theorem checkCommand_ok_iff {command : InternalCommand} :
    t.checkCommand command = .ok () ↔ t.row? command.id = none := by
  cases h : t.row? command.id <;> simp [checkCommand, h]

theorem checkMark_ok_iff {mark : CommandId × ClaimToken} :
    t.checkMark mark = .ok () ↔ ∃ row runsOut, t.row? mark.1 = some row ∧
      row.command.processed = false ∧ row.claim = some (mark.2, runsOut) := by
  cases h : t.row? mark.1 with
  | none => simp [checkMark, h]
  | some row =>
    cases hp : row.command.processed with
    | true => simp [checkMark, h, hp]
    | false => simp [checkMark, h, hp, ← isHeldBy_iff]

theorem checkTransaction_ok_iff {staged : StagedTransaction} :
    t.checkTransaction staged = .ok () ↔
      (staged.write = .insert → t.transaction? staged.transaction.id = none) ∧
      ∀ expected, staged.write = .update expected →
        ∃ current, t.transaction? staged.transaction.id = some current ∧
          expected.Matches current.version := by
  cases hw : staged.write with
  | insert => cases h : t.transaction? staged.transaction.id <;> simp [checkTransaction, hw, h]
  | update expected =>
    cases h : t.transaction? staged.transaction.id <;>
      simp [checkTransaction, hw, h, checkVersion_ok_iff]

theorem checkPoint_ok_iff {staged : StagedPoint} :
    t.checkPoint staged = .ok () ↔
      staged.expected.Matches (t.pointVersion staged.point.gsrn) :=
  checkVersion_ok_iff

variable {c : ChangeSet}

/-- What is checked is exactly whether the change set fits. -/
theorem check_ok_iff : t.check c = .ok () ↔ t.Admits c := by
  simp only [check, then_ok_iff, forM_ok_iff, checkCommand_ok_iff, checkMark_ok_iff,
    checkTransaction_ok_iff, checkPoint_ok_iff]
  constructor
  · rintro ⟨commands, marks, transactions, points⟩
    exact ⟨commands, marks, fun staged h => (transactions staged h).1,
      fun staged h => (transactions staged h).2, points⟩
  · rintro ⟨commands, marks, inserts, updates, points⟩
    exact ⟨commands, marks, fun staged h => ⟨inserts staged h, updates staged h⟩, points⟩

theorem commit_ok_iff {now : Timestamp} {t' : Tables} :
    t.commit c now = .ok t' ↔ t.Admits c ∧ t' = t.apply c now := by
  rw [← check_ok_iff, commit]
  cases h : t.check c with
  | error e => simp [Except.map]
  | ok u => simp [Except.map, eq_comm]

/-! ### The tables afterwards -/

/-- The tables `t'` are the tables `t` with a change set written to them at an instant, and nothing
    else: staged commands follow in order of staging at the next places, unclaimed; marked rows are
    processed, stamped and unclaimed; staged transactions and points are one version above the
    committed ones, where a missing one counts as 0. -/
structure Receives (t : Tables) (c : ChangeSet) (now : Timestamp) (t' : Tables) : Prop where
  commands : t'.commands
    = t.commands.map (marked c.processed now) ++ placed t.lastSequence c.commands
  lastSequence : t'.lastSequence = t.lastSequence + c.commands.length
  transactions : ∀ staged ∈ c.transactions, t'.transaction? staged.transaction.id
    = some (nextTransaction (t.transaction? staged.transaction.id) staged.transaction)
  otherTransactions : ∀ id, id ∉ c.transactions.map (·.transaction.id) →
    t'.transaction? id = t.transaction? id
  points : ∀ staged ∈ c.points, t'.point? staged.point.gsrn.text
    = some (nextPoint (t.point? staged.point.gsrn.text) staged.point)
  otherPoints : ∀ gsrn, gsrn ∉ c.points.map (·.point.gsrn.text) → t'.point? gsrn = t.point? gsrn

/-- A mark of an admitted change set does not meet the rows that it stages. -/
theorem Admits.marked_placed (h : t.Admits c) (now : Timestamp) :
    (placed t.lastSequence c.commands).map (marked c.processed now)
      = placed t.lastSequence c.commands := by
  refine (List.map_congr_left fun row hrow => ?_).trans (List.map_id _)
  have staged : row.command.id ∈ c.commands.map (·.id) := by
    rw [← ids_placed t.lastSequence]
    exact List.mem_map_of_mem hrow
  obtain ⟨command, hcommand, same⟩ := List.mem_map.mp staged
  have unmarked : row.command.id ∉ c.processed.map Prod.fst := by
    intro hmark
    obtain ⟨mark, hmark, same'⟩ := List.mem_map.mp hmark
    obtain ⟨old, -, hold, -, -⟩ := h.marks mark hmark
    -- The marked command is committed, the staged one is not.
    rw [same', ← same, h.commands command hcommand] at hold
    cases hold
  rw [marked, if_neg unmarked, id]

/-- What applying an admitted change set comes to, list by list. -/
theorem Admits.apply_eq (h : t.Admits c) (now : Timestamp) :
    t.apply c now =
      { commands := t.commands.map (marked c.processed now) ++ placed t.lastSequence c.commands
        lastSequence := t.lastSequence + c.commands.length
        transactions := (c.transactions.map (·.transaction)).foldl
          (overwrite Transaction.id nextTransaction) t.transactions
        points := (c.points.map (·.point)).foldl (overwrite (·.gsrn.text) nextPoint)
          t.points } := by
  simp only [apply, foldl_putPoint, foldl_putTransaction, foldl_applyMark, foldl_insertCommand,
    List.map_append, h.marked_placed]

theorem receives_apply (tidy : c.Tidy) (h : t.Admits c) (now : Timestamp) :
    t.Receives c now (t.apply c now) := by
  have ids : ((c.transactions.map (·.transaction)).map Transaction.id).Nodup := by
    rw [List.map_map]; exact tidy.transactions
  have gsrns : ((c.points.map (·.point)).map fun p => p.gsrn.text).Nodup := by
    rw [List.map_map]; exact tidy.points
  rw [h.apply_eq]
  -- Under single keys no write of the unit meets another, so each is found as if it were alone.
  refine ⟨rfl, rfl, fun staged hstaged => ?_, fun id absent => ?_, fun staged hstaged => ?_,
    fun gsrn absent => ?_⟩
  · exact under_foldl_overwrite_of_mem _ id_nextTransaction _ _ ids (List.mem_map_of_mem hstaged)
  · refine under_foldl_overwrite_of_notMem _ id_nextTransaction _ _ ?_
    rw [List.map_map]; exact absent
  · exact under_foldl_overwrite_of_mem _ gsrn_nextPoint _ _ gsrns (List.mem_map_of_mem hstaged)
  · refine under_foldl_overwrite_of_notMem _ gsrn_nextPoint _ _ ?_
    rw [List.map_map]; exact absent

/-- A row after the commit is one from before, marked if it is, or stores a staged command. -/
theorem Receives.mem_commands {now : Timestamp} {t' : Tables} (h : t.Receives c now t')
    {row : CommandRow} (mem : row ∈ t'.commands) :
    (∃ old ∈ t.commands, row = marked c.processed now old) ∨
      ∃ command ∈ c.commands, ∃ place, t.lastSequence < place ∧ place ≤ t'.lastSequence ∧
        row = ⟨{ command with sequence := some place }, none⟩ := by
  rw [h.commands, List.mem_append] at mem
  obtain mem | mem := mem
  · obtain ⟨old, hold, rfl⟩ := List.mem_map.mp mem
    exact .inl ⟨old, hold, rfl⟩
  · rw [h.lastSequence]
    exact .inr (mem_placed mem)

/-- A row after the commit. -/
theorem Receives.row? {now : Timestamp} {t' : Tables} (h : t.Receives c now t') (id : CommandId) :
    t'.row? id = ((t.row? id).map (marked c.processed now)).or
      (under (·.command.id) id (placed t.lastSequence c.commands)) := by
  have keeps : (fun row : CommandRow => decide (row.command.id = id)) ∘ marked c.processed now
      = fun row => decide (row.command.id = id) := by
    funext row; simp
  rw [Tables.row?, h.commands, List.find?_append, List.find?_map, keeps]
  rfl

/-- A row that a commit neither marks nor stages. -/
theorem Receives.row?_of_untouched {now : Timestamp} {t' : Tables} (h : t.Receives c now t')
    {id : CommandId} (unmarked : id ∉ c.processed.map Prod.fst)
    (unstaged : id ∉ c.commands.map (·.id)) : t'.row? id = t.row? id := by
  have absent : under (·.command.id) id (placed t.lastSequence c.commands) = none :=
    (under_eq_none _).mpr (by rwa [ids_placed])
  rw [h.row?, absent, Option.or_none]
  cases found : t.row? id with
  | none => rfl
  | some row => rw [Option.map_some, marked, if_neg (id_of_row? found ▸ unmarked)]

/-- A point after a commit that stages one, … -/
theorem Receives.point?_of_single {now : Timestamp} {t' : Tables} (h : t.Receives c now t')
    {staged : StagedPoint} (only : c.points = [staged]) (gsrn : String) :
    t'.point? gsrn = if gsrn = staged.point.gsrn.text
      then some (nextPoint (t.point? gsrn) staged.point) else t.point? gsrn := by
  split
  · rename_i same
    rw [same]
    exact h.points staged (by simp [only])
  · rename_i other
    exact h.otherPoints gsrn (by simp [only, other])

/-- … and after one that stages none. -/
theorem Receives.point?_of_nil {now : Timestamp} {t' : Tables} (h : t.Receives c now t')
    (none : c.points = []) (gsrn : String) : t'.point? gsrn = t.point? gsrn :=
  h.otherPoints gsrn (by simp [none])

/-! ### No key is stored twice -/

/-- No key is stored twice, so that look-ups say all there is to the tables. -/
structure Keyed (t : Tables) : Prop where
  commands : t.commandIds.Nodup
  transactions : (t.transactions.map (·.id)).Nodup
  points : (t.points.map (·.gsrn.text)).Nodup

theorem keyed_empty : Keyed .empty :=
  ⟨List.nodup_nil, List.nodup_nil, List.nodup_nil⟩

theorem Keyed.updateRow (h : t.Keyed) {id : CommandId} {change : CommandRow → CommandRow}
    (hchange : ∀ row, row.command.id = id → (change row).command.id = id) :
    (t.updateRow id change).Keyed :=
  { h with commands := by rw [commandIds_updateRow t id change hchange]; exact h.commands }

theorem Admits.commandIds_apply (h : t.Admits c) (now : Timestamp) :
    (t.apply c now).commandIds = t.commandIds ++ c.commands.map (·.id) := by
  rw [h.apply_eq, commandIds, List.map_append, ids_placed, List.map_map]
  congr 1
  exact List.map_congr_left fun row _ => id_marked c.processed now row

theorem Keyed.apply (h : t.Keyed) (tidy : c.Tidy) (admits : t.Admits c) (now : Timestamp) :
    (t.apply c now).Keyed := by
  refine ⟨?_, ?_, ?_⟩
  -- Staged identifiers differ among themselves, being tidy, and from stored ones, being admitted.
  · rw [admits.commandIds_apply, List.nodup_append]
    refine ⟨h.commands, tidy.commands, fun id old id' new same => ?_⟩
    obtain ⟨command, hcommand, rfl⟩ := List.mem_map.mp new
    exact row?_eq_none_iff.mp (admits.commands command hcommand) (same ▸ old)
  · rw [admits.apply_eq]
    exact nodup_foldl_overwrite _ id_nextTransaction _ h.transactions
  · rw [admits.apply_eq]
    exact nodup_foldl_overwrite _ gsrn_nextPoint _ h.points

end Tables

namespace Memory

open Tables

variable {t t' : Tables}

/-- A call commits a change set that fits, or changes one row, or does nothing. -/
theorem Effect.written {e : Event} (h : Effect t e t') :
    t' = t ∨ (∃ n c now, e = .committed n c now (.ok ()) ∧ t.Admits c ∧ t' = t.apply c now) ∨
      ∃ id change, (∀ row : CommandRow, row.command.id = id → (change row).command.id = id) ∧
        t' = t.updateRow id change := by
  cases h with
  | committed done =>
    obtain ⟨admits, rfl⟩ := commit_ok_iff.mp done
    exact .inr (.inl ⟨_, _, _, rfl, admits, rfl⟩)
  | @claimed filter now row token next =>
    exact .inr (.inr ⟨_, fun row => { row with claim := some (token, now.offsetBy filter.lease) },
      fun _ same => same, rfl⟩)
  | recorded done =>
    obtain ⟨row, -, hrow, -, -, rfl⟩ := recordFailure_ok_iff.mp done
    exact .inr (.inr ⟨_, _, fun _ _ => by rw [id_failed, id_of_row? hrow], rfl⟩)
  | retried done =>
    obtain ⟨row, hrow, -, -, rfl⟩ := retryDeadLetter_ok_iff.mp done
    exact .inr (.inr ⟨_, _, fun _ _ => by rw [id_revived, id_of_row? hrow], rfl⟩)
  | _ => exact .inl rfl

/-- The unit that a call commits is open at that moment. -/
theorem Step.isOpen {s s' : Shared} {n : Nat} {c : ChangeSet} {now : Timestamp}
    {result : Except StoreError Unit} (h : Step s (.committed n c now result) s') :
    s.units n = some c := by
  cases h with
  | commit isOpen _ => exact isOpen

/-- A commit that succeeds writes what fits. -/
theorem Step.receives {s s' : Shared} {n : Nat} {c : ChangeSet} {now : Timestamp}
    (h : Step s (.committed n c now (.ok ())) s') (tidy : c.Tidy) :
    s.tables.Admits c ∧ s.tables.Receives c now s'.tables := by
  have effect := h.effect
  cases effect with
  | committed done =>
    obtain ⟨admits, same⟩ := commit_ok_iff.mp done
    rw [same]
    exact ⟨admits, receives_apply tidy admits now⟩

theorem Effect.keyed {e : Event} (h : Effect t e t') (keyed : t.Keyed)
    (tidy : ∀ n c now result, e = .committed n c now result → c.Tidy) : t'.Keyed := by
  obtain same | ⟨n, c, now, rfl, admits, same⟩ | ⟨id, change, hchange, same⟩ := h.written
  · rw [same]; exact keyed
  · rw [same]; exact keyed.apply (tidy _ _ _ _ rfl) admits now
  · rw [same]; exact keyed.updateRow hchange

theorem Step.keyed {s s' : Shared} {e : Event} (tidy : s.Tidy) (keyed : s.tables.Keyed)
    (h : Step s e s') : s'.tables.Keyed := by
  refine h.effect.keyed keyed fun n c now result same => ?_
  subst same
  exact tidy n c h.isOpen

/-- In no history is a key stored twice. -/
theorem Run.keyed {s : Shared} {log : List Event} (h : Run .empty log s) : s.tables.Keyed := by
  have both : s.Tidy ∧ s.tables.Keyed :=
    h.invariant (P := fun s => s.Tidy ∧ s.tables.Keyed)
      (fun _ _ _ ⟨tidy, keyed⟩ step => ⟨step.tidy tidy, step.keyed tidy keyed⟩)
      ⟨Run.tidy (.nil _), keyed_empty⟩
  exact both.2

/-! ### All or nothing -/

/-- Whatever happened before, and whatever a unit of work has staged meanwhile: its commit succeeds
    exactly if the change set fits the tables, then writes exactly that, and otherwise leaves the
    tables exactly as they were. -/
theorem commit_all_or_nothing {s : Shared} {log : List Event} (history : Run .empty log s) {n : Nat}
    {c : ChangeSet} (isOpen : s.units n = some c) (clock : Clock) (ids : IdSupply)
    (journal : List JournalEntry) (spans : List Span) :
    let done := (store.commit c).run ⟨s.tables, clock, ids, journal, spans⟩
    s.tables.Keyed ∧ done.2.store.Keyed ∧ (done.1 = .ok () ↔ s.tables.Admits c) ∧
      (done.1 = .ok () → s.tables.Receives c (clock.reading clock.taken) done.2.store) ∧
      ∀ e, done.1 = .error e → done.2.store = s.tables := by
  intro done
  -- What the history contributes: the unit repeats no key, and neither do the tables.
  have tidy := history.tidy n c isOpen
  have keyed := history.keyed
  have yields : Yields (store.commit c) (clock.reading clock.taken) s.tables done.1 done.2.store :=
    ⟨_, _, rfl, rfl, rfl, rfl⟩
  obtain ⟨applied, result⟩ | ⟨e, failed, result, same⟩ := yields_commit.mp yields
  · obtain ⟨admits, written⟩ := commit_ok_iff.mp applied
    refine ⟨keyed, ?_, by simp [result, admits], fun _ => ?_, by simp [result]⟩
    · rw [written]; exact keyed.apply tidy admits _
    · rw [written]; exact receives_apply tidy admits _
  · have unfit : ¬ s.tables.Admits c := fun admits => by
      rw [commit_ok_iff.mpr ⟨admits, rfl⟩] at failed
      cases failed
    exact ⟨keyed, by rw [same]; exact keyed, by simp [result, unfit], by simp [result],
      fun _ _ => same⟩

theorem commit_all_or_nothing_one_command :
    ∃ s c t', Run .empty [.began 0,
        .asked 0 (.stageCommand (.fresh ⟨.zero⟩ "Ping" .null .epoch)) (.ok ())] s ∧
      s.units 0 = some c ∧ s.tables.Admits c ∧ s.tables.Receives c .epoch t' ∧ t'.Keyed := by
  have history := Run.cons (step_begin (n := 0) (s := .empty) rfl) <|
    Run.cons (step_ask (n := 0) (c := .empty) rfl
      (.stageCommand (.fresh ⟨.zero⟩ "Ping" .null .epoch))) (.nil _)
  obtain ⟨-, keyed, fits, receives, -⟩ :=
    commit_all_or_nothing (n := 0) history rfl ⟨fun _ => .epoch, 0⟩ ⟨fun _ => .zero, 0⟩ [] []
  exact ⟨_, _, _, history, rfl, fits.mp rfl, receives rfl, keyed⟩

end Memory

end SupplierSwitch
