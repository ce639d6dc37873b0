import SupplierSwitch.Proofs.Market.Processes
import SupplierSwitch.Proofs.Market.Rows

namespace SupplierSwitch

open Tables

/-!
# Processes and their effectuations

* `Registered` — every process of a stored accounting point has exactly one stored effectuation,
  which is processed once the process is no longer pending; and every stored effectuation has its
  process.
* `Registered.of_spares` — what has nothing to do with effectuations and points keeps that;
* `Registered.register` and `Registered.effectuate` — so do the two commits that have.
-/

/-- The command is the given effectuation. -/
def MarketCommand.isEffectuation (kind : ProcessKind) (e : Effectuation) (m : MarketCommand) :
    Bool :=
  decide (m = .effectuate kind e)

/-- Processes and stored effectuations belong together one by one. -/
structure Registered (t : Tables) : Prop where
  names : ∀ gsrn p, t.point? gsrn = some p → (p.processes.map (·.processId)).Nodup
  effectuations : ∀ gsrn p, t.point? gsrn = some p → ∀ q ∈ p.processes,
    ∃ row, t.rowsOf (MarketCommand.isEffectuation q.kind ⟨gsrn, q.processId⟩) = [row] ∧
      (q.status = .pending ↔ row.command.processed = false)
  processes : ∀ row ∈ t.commands, ∀ kind e, row.command.market? = some (.effectuate kind e) →
    ∃ p q, t.point? e.accountingPointId = some p ∧ p.process? e.processId = some q ∧ q.kind = kind

namespace Registered

variable {t t' : Tables} {c : ChangeSet} {now : Timestamp}

theorem storesA_isEffectuation {row : CommandRow} {kind : ProcessKind} {e : Effectuation} :
    storesA (MarketCommand.isEffectuation kind e) row = true ↔
      row.command.market? = some (.effectuate kind e) := by
  simp [storesA_iff, MarketCommand.isEffectuation]

/-- Where a process is not registered, its effectuation is not stored. -/
theorem rowsOf_eq_nil (h : Registered t) {kind : ProcessKind} {gsrn : String} {p : AccountingPoint}
    (found : t.point? gsrn = some p) {id : ProcessId} (new : p.process? id = none) :
    t.rowsOf (MarketCommand.isEffectuation kind ⟨gsrn, id⟩) = [] := by
  rw [Tables.rowsOf_eq_nil]
  intro row mem
  refine Bool.eq_false_iff.mpr fun stores => ?_
  obtain ⟨p', q, found', registered, -⟩ :=
    h.processes row mem _ _ (storesA_isEffectuation.mp stores)
  cases found.symm.trans found'
  cases new.symm.trans registered

theorem of_rewritten (h : Registered t) {f : CommandRow → CommandRow}
    (rewritten : t.Rewritten t' f) : Registered t' := by
  have same : ∀ gsrn, t'.point? gsrn = t.point? gsrn := fun gsrn => by
    rw [point?, rewritten.points]; rfl
  refine ⟨fun gsrn p found => h.names gsrn p (same gsrn ▸ found), ?_, ?_⟩
  · intro gsrn p found q mem
    obtain ⟨row, only, status⟩ := h.effectuations gsrn p (same gsrn ▸ found) q mem
    refine ⟨f row, ?_, ?_⟩
    · rw [rowsOf_rewritten rewritten, only]; rfl
    · rw [rewritten.processed]; exact status
  · intro row mem kind e means
    rw [rewritten.commands] at mem
    obtain ⟨old, hold, rfl⟩ := List.mem_map.mp mem
    rw [rewritten.market?] at means
    rw [same]
    exact h.processes old hold kind e means

/-- Commits that have to do with neither effectuations nor points. -/
theorem of_spares (h : Registered t) (keyed : t.Keyed) (receives : t.Receives c now t')
    (points : c.points = []) (spares : ∀ kind e, t.Spares c (MarketCommand.isEffectuation kind e)) :
    Registered t' := by
  have same := receives.point?_of_nil points
  refine ⟨fun gsrn p found => h.names gsrn p (same gsrn ▸ found), ?_, ?_⟩
  · intro gsrn p found q mem
    rw [rowsOf_of_spares keyed receives (spares _ _)]
    exact h.effectuations gsrn p (same gsrn ▸ found) q mem
  · intro row mem kind e means
    rw [same]
    obtain ⟨old, hold, meaning⟩ | ⟨command, staged, meaning⟩ := mem_commands_receives receives mem
    · exact h.processes old hold kind e (meaning ▸ means)
    · have mem' : command ∈ stagedOf (MarketCommand.isEffectuation kind e) c :=
        List.mem_filter.mpr ⟨staged, by simp [← meaning, means, MarketCommand.isEffectuation]⟩
      rw [(spares kind e).staged] at mem'
      cases mem'

/-- Commits that register a process and store its effectuation. -/
theorem register (h : Registered t) (keyed : t.Keyed) (receives : t.Receives c now t')
    {point : AccountingPoint} {new : BusinessProcess} {guard : ExpectedVersion}
    {followUp : InternalCommand} (found : t.point? point.gsrn.text = some point)
    (fresh : point.process? new.processId = none) (pending : new.status = .pending)
    (points : c.points = [⟨{ point with processes := point.processes ++ [new] }, guard⟩])
    (commands : c.commands = [followUp])
    (means : followUp.market? = some (.effectuate new.kind ⟨point.gsrn.text, new.processId⟩))
    (unprocessed : followUp.processed = false)
    (marks : ∀ kind e, ∀ mark ∈ c.processed, ∀ row, t.row? mark.1 = some row →
      storesA (MarketCommand.isEffectuation kind e) row = false) : Registered t' := by
  have staged (kind : ProcessKind) (e : Effectuation) :
      stagedOf (MarketCommand.isEffectuation kind e) c
        = if new.kind = kind ∧ (⟨point.gsrn.text, new.processId⟩ : Effectuation) = e
          then [followUp] else [] := by
    simp [stagedOf, commands, means, MarketCommand.isEffectuation, List.filter_cons]
  have after (gsrn : String) : t'.point? gsrn = if gsrn = point.gsrn.text
      then some { point with
        processes := point.processes ++ [new]
        version := point.version + 1 } else t.point? gsrn := by
    rw [receives.point?_of_single points]
    split
    · rename_i same
      rw [same, found]
      rfl
    · rfl
  -- Every other effectuation has nothing to do with the commit.
  have others {kind : ProcessKind} {e : Effectuation}
      (other : ¬ (new.kind = kind ∧ (⟨point.gsrn.text, new.processId⟩ : Effectuation) = e)) :
      t'.rowsOf (MarketCommand.isEffectuation kind e)
        = t.rowsOf (MarketCommand.isEffectuation kind e) :=
    rowsOf_of_spares keyed receives ⟨by rw [staged, if_neg other], marks kind e⟩
  refine ⟨?_, ?_, ?_⟩
  · intro gsrn p hp
    rw [after] at hp
    split at hp
    · cases hp
      -- The new name is new to the point.
      exact Tables.nodup_append_singleton _ (h.names _ _ found)
        (AccountingPoint.process?_eq_none.mp fresh)
    · exact h.names gsrn p hp
  · intro gsrn p hp q mem
    rw [after] at hp
    split at hp
    · rename_i same
      cases hp
      subst same
      -- Processes that were there keep their effectuations; the last one has the staged one.
      obtain old | last := List.mem_append.mp mem
      · have unlike : new.processId ≠ q.processId := fun same =>
          AccountingPoint.process?_eq_none.mp fresh (List.mem_map.mpr ⟨q, old, same.symm⟩)
        rw [others (by simp [unlike])]
        exact h.effectuations _ _ found q old
      · obtain rfl := List.mem_singleton.mp last
        obtain ⟨row, only, processed⟩ := rowsOf_of_staged receives
          (h.rowsOf_eq_nil found fresh) ((staged _ _).trans (if_pos ⟨rfl, rfl⟩))
        exact ⟨row, only, by rw [processed, unprocessed, pending]; simp⟩
    · rename_i other
      rw [others (by simp [Ne.symm other])]
      exact h.effectuations gsrn p hp q mem
  · intro row mem kind e hrow
    rw [after]
    obtain ⟨old, hold, meaning⟩ | ⟨command, hstaged, meaning⟩ := mem_commands_receives receives mem
    · obtain ⟨p, q, hp, hq, hkind⟩ := h.processes old hold kind e (meaning ▸ hrow)
      split
      · rename_i same
        rw [same, found] at hp
        cases hp
        refine ⟨_, q, rfl, ?_, hkind⟩
        have look := AccountingPoint.process?_register point new e.processId
        rw [hq] at look
        exact look
      · exact ⟨p, q, hp, hq, hkind⟩
    · rw [commands, List.mem_singleton] at hstaged
      subst hstaged
      -- The only staged command is the effectuation of the new process.
      rw [meaning, means] at hrow
      cases hrow
      rw [if_pos rfl]
      refine ⟨_, new, rfl, ?_, rfl⟩
      have look := AccountingPoint.process?_register point new new.processId
      rw [fresh, if_pos rfl] at look
      exact look

/-- Commits that effectuate a process and mark its effectuation. -/
theorem effectuate (h : Registered t) (keyed : t.Keyed) (receives : t.Receives c now t')
    {point : AccountingPoint} {q : BusinessProcess} {supplier : Option GlnNumber}
    {guard : ExpectedVersion} {row : CommandRow} {token : ClaimToken}
    (found : t.point? point.gsrn.text = some point)
    (registered : point.process? q.processId = some q)
    (points : c.points = [⟨{ point with
      processes := AccountingPoint.markEffectuated q.processId point.processes
      energySupplier := supplier }, guard⟩])
    (commands : c.commands = []) (stored : row ∈ t.commands)
    (means : row.command.market? = some (.effectuate q.kind ⟨point.gsrn.text, q.processId⟩))
    (marks : c.processed = [(row.command.id, token)]) : Registered t' := by
  have distinct := h.names _ _ found
  have after (gsrn : String) : t'.point? gsrn = if gsrn = point.gsrn.text
      then some { point with
        processes := point.processes.map (AccountingPoint.effectuated q.processId)
        energySupplier := supplier
        version := point.version + 1 } else t.point? gsrn := by
    rw [receives.point?_of_single points]
    split
    · rename_i same
      rw [same, found, AccountingPoint.markEffectuated_eq_map distinct]
      rfl
    · rfl
  have unstaged (kind : ProcessKind) (e : Effectuation) :
      stagedOf (MarketCommand.isEffectuation kind e) c = [] := by
    simp [stagedOf, commands]
  -- Every other effectuation has nothing to do with the commit.
  have others {kind : ProcessKind} {e : Effectuation}
      (other : (⟨point.gsrn.text, q.processId⟩ : Effectuation) ≠ e) :
      t'.rowsOf (MarketCommand.isEffectuation kind e)
        = t.rowsOf (MarketCommand.isEffectuation kind e) := by
    refine rowsOf_of_spares keyed receives ⟨unstaged kind e, fun mark hmark marked hrow => ?_⟩
    rw [marks, List.mem_singleton] at hmark
    subst hmark
    cases (row?_of_mem keyed.commands stored).symm.trans hrow
    rw [storesA_of_market? means]
    simp [MarketCommand.isEffectuation, other]
  refine ⟨?_, ?_, ?_⟩
  · intro gsrn p hp
    rw [after] at hp
    split at hp
    · cases hp
      simpa [Function.comp_def] using distinct
    · exact h.names gsrn p hp
  · intro gsrn p hp q' mem
    rw [after] at hp
    split at hp
    · rename_i same
      cases hp
      subst same
      obtain ⟨old, hold, rfl⟩ := List.mem_map.mp mem
      obtain ⟨row', only, status⟩ := h.effectuations _ _ found old hold
      rw [AccountingPoint.kind_effectuated, AccountingPoint.processId_effectuated]
      -- A process of that name is the one that is effectuated, since no name occurs twice.
      by_cases name : old.processId = q.processId
      · have itself : old = q := by
          have look := AccountingPoint.process?_of_mem distinct hold
          rw [name, registered] at look
          exact (Option.some.inj look).symm
        subst itself
        refine ⟨processedRow now row, rowsOf_of_mark receives (unstaged _ _) only stored
          (storesA_isEffectuation.mpr means) (by simp [marks]), ?_⟩
        simp [AccountingPoint.effectuated, processedRow]
      · refine ⟨row', (others (by simp [Ne.symm name])).trans only, ?_⟩
        rw [AccountingPoint.effectuated, if_neg name]
        exact status
    · rename_i other
      rw [others (by simp [Ne.symm other])]
      exact h.effectuations gsrn p hp q' mem
  · intro row' mem kind e hrow
    rw [after]
    obtain ⟨old, hold, meaning⟩ | ⟨command, hstaged, -⟩ := mem_commands_receives receives mem
    · obtain ⟨p, q', hp, hq, hkind⟩ := h.processes old hold kind e (meaning ▸ hrow)
      split
      · rename_i same
        rw [same, found] at hp
        cases hp
        refine ⟨_, AccountingPoint.effectuated q.processId q', rfl, ?_, by simpa using hkind⟩
        have look := AccountingPoint.process?_effectuated point supplier q.processId e.processId
        rw [hq] at look
        exact look
      · exact ⟨p, q', hp, hq, hkind⟩
    · rw [commands] at hstaged
      cases hstaged

end Registered

end SupplierSwitch
