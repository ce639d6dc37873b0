import SupplierSwitch.Market.AccountingPoint
import SupplierSwitch.Market.Transaction
import SupplierSwitch.Proofs.Memory.Lookup

namespace SupplierSwitch

namespace AccountingPoint

/-!
# The processes of an accounting point

* `registerProcess_ok_iff` and `effectuate_ok_iff` — what the two changes of a point come to;
* `process?_register` and `process?_effectuated` — what a look-up finds afterwards;
* `Transaction.eq_of_attach` — the one change of a transaction.
-/

variable {p p' : AccountingPoint} {id : ProcessId} {q : BusinessProcess}

theorem registerProcess_ok_iff {kind : ProcessKind} {supplier : GlnNumber} {date : Date} :
    p.registerProcess id kind supplier date = .ok p' ↔
      p.process? id = none ∧ p.hasProcessOn kind date = false ∧
        p' = { p with processes := p.processes ++ [⟨id, kind, supplier, date, .pending⟩] } := by
  cases found : p.process? id with
  | some q => simp [registerProcess, found]
  | none =>
    cases taken : p.hasProcessOn kind date with
    | true => simp [registerProcess, found, taken]
    | false => simp [registerProcess, found, taken, eq_comm]

theorem effectuate_ok_iff :
    p.effectuate id = .ok p' ↔ ∃ q, p.process? id = some q ∧ q.status = .pending ∧
      p' = { p with
        processes := markEffectuated id p.processes
        energySupplier := some q.energySupplier } := by
  cases found : p.process? id with
  | none => simp [effectuate, found]
  | some q =>
    by_cases pending : q.status = .pending
    · simp [effectuate, found, pending, eq_comm]
    · simp [effectuate, found, pending]

/-! ### Look-ups -/

theorem id_of_process? (h : p.process? id = some q) : q.processId = id :=
  Tables.key_of_under BusinessProcess.processId h

theorem mem_of_process? (h : p.process? id = some q) : q ∈ p.processes :=
  List.mem_of_find?_eq_some h

theorem process?_of_mem (distinct : (p.processes.map (·.processId)).Nodup) (h : q ∈ p.processes) :
    p.process? q.processId = some q :=
  Tables.under_of_mem BusinessProcess.processId distinct h

theorem process?_eq_none : p.process? id = none ↔ id ∉ p.processes.map (·.processId) :=
  Tables.under_eq_none BusinessProcess.processId

/-- A registered process is found last. -/
theorem process?_register (p : AccountingPoint) (new : BusinessProcess) (id : ProcessId) :
    process? { p with processes := p.processes ++ [new] } id
      = (p.process? id).or (if new.processId = id then some new else none) := by
  rw [process?, List.find?_append, process?]
  by_cases h : new.processId = id <;> simp [h]

/-- A process after the effectuation of the one of a name. -/
def effectuated (id : ProcessId) (q : BusinessProcess) : BusinessProcess :=
  if q.processId = id then { q with status := .effectuated } else q

@[simp] theorem processId_effectuated (id : ProcessId) (q : BusinessProcess) :
    (effectuated id q).processId = q.processId := by
  unfold effectuated; split <;> rfl

@[simp] theorem kind_effectuated (id : ProcessId) (q : BusinessProcess) :
    (effectuated id q).kind = q.kind := by
  unfold effectuated; split <;> rfl

@[simp] theorem energySupplier_effectuated (id : ProcessId) (q : BusinessProcess) :
    (effectuated id q).energySupplier = q.energySupplier := by
  unfold effectuated; split <;> rfl

@[simp] theorem effectiveDate_effectuated (id : ProcessId) (q : BusinessProcess) :
    (effectuated id q).effectiveDate = q.effectiveDate := by
  unfold effectuated; split <;> rfl

/-- Where no name occurs twice, marking the first process of a name is marking every one. -/
theorem markEffectuated_eq_map {processes : List BusinessProcess}
    (distinct : (processes.map (·.processId)).Nodup) :
    markEffectuated id processes = processes.map (effectuated id) := by
  induction processes with
  | nil => rfl
  | cons q rest ih =>
    obtain ⟨fresh, distinct⟩ := List.nodup_cons.mp distinct
    by_cases h : q.processId = id
    · have others : rest.map (effectuated id) = rest := by
        refine (List.map_congr_left fun other mem => ?_).trans (List.map_id _)
        exact if_neg fun same => fresh (List.mem_map.mpr ⟨other, mem, same.trans h.symm⟩)
      simp [markEffectuated, effectuated, h, others]
    · simp [markEffectuated, effectuated, h, ih distinct]

theorem process?_effectuated (p : AccountingPoint) (supplier : Option GlnNumber)
    (id x : ProcessId) :
    process? { p with
        processes := p.processes.map (effectuated id)
        energySupplier := supplier } x
      = (p.process? x).map (effectuated id) := by
  simp only [process?]
  rw [List.find?_map]
  congr 2
  funext q
  simp

end AccountingPoint

/-- A message is attached behind those that are there. -/
theorem Transaction.eq_of_attach {transaction attached : Transaction} {message : OutboundMessage}
    (h : transaction.attach message = .ok attached) :
    attached = { transaction with messages := transaction.messages ++ [message] } := by
  simp only [attach] at h
  split at h
  · cases h
  · cases h; rfl

end SupplierSwitch
