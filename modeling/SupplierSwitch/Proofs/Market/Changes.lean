import SupplierSwitch.Proofs.Market.Processes

namespace SupplierSwitch

/-!
# What calls make of an accounting point

A point is changed by two calls only: a process is registered, or one is effectuated. Either may be
refused. Whatever calls are made on a new point, and however many of them are refused,

* `Orderly` — no name and no date of a kind is given twice, and the point is supplied as the process
  says that was effectuated last;
* `Grows` — processes are added at the end only, and change by being effectuated only;
* `Refuses` — a call is refused for one of four reasons, each with its error;
* `changes_keep_order` — the three together, for every sequence of calls.
-/

/-- A process as it was, or effectuated since. -/
def BusinessProcess.Proceeds (q q' : BusinessProcess) : Prop :=
  q' = q ∨ q.status = .pending ∧ q' = { q with status := .effectuated }

theorem BusinessProcess.Proceeds.trans {q q' q'' : BusinessProcess} (h : q.Proceeds q')
    (h' : q'.Proceeds q'') : q.Proceeds q'' := by
  obtain rfl | ⟨pending, rfl⟩ := h
  · exact h'
  · obtain rfl | ⟨again, -⟩ := h'
    · exact .inr ⟨pending, rfl⟩
    · cases again

namespace AccountingPoint

/-- A call that changes a point. -/
inductive Change where
  | register (id : ProcessId) (kind : ProcessKind) (supplier : GlnNumber) (date : Date)
  | effectuate (id : ProcessId)

namespace Change

/-- What the call makes of a point, if it is not refused. -/
def on : Change → AccountingPoint → Except DomainError AccountingPoint
  | register id kind supplier date, p => p.registerProcess id kind supplier date
  | effectuate id, p => p.effectuate id

/-- The process that the call effectuates on a point, as it was before, if it effectuates one. -/
def effectuated? (change : Change) (p : AccountingPoint) : Option BusinessProcess :=
  match change, change.on p with
  | effectuate id, .ok _ => p.process? id
  | _, _ => none

end Change

/-- The point after a call; a refused one leaves it as it was. -/
def after (p : AccountingPoint) (change : Change) : AccountingPoint :=
  match change.on p with
  | .ok changed => changed
  | .error _ => p

/-- The point after many calls. -/
def afterAll (p : AccountingPoint) (changes : List Change) : AccountingPoint :=
  changes.foldl after p

/-- The processes that many calls effectuate, in order. -/
def effectuatedBy (p : AccountingPoint) : List Change → List BusinessProcess
  | [] => []
  | change :: rest => (change.effectuated? p).toList ++ (p.after change).effectuatedBy rest

variable {p p' p'' : AccountingPoint} {change : Change} {id : ProcessId} {q : BusinessProcess}

/-- What a call can do: register a process that is new in name and date, effectuate one that is
    pending, or nothing. -/
theorem after_cases (p : AccountingPoint) (change : Change) :
    (∃ id kind supplier date, change = .register id kind supplier date ∧ p.process? id = none ∧
      p.hasProcessOn kind date = false ∧ change.effectuated? p = none ∧
      p.after change
        = { p with processes := p.processes ++ [⟨id, kind, supplier, date, .pending⟩] }) ∨
    (∃ q, change = .effectuate q.processId ∧ p.process? q.processId = some q ∧
      q.status = .pending ∧ change.effectuated? p = some q ∧
      p.after change = { p with
        processes := markEffectuated q.processId p.processes
        energySupplier := some q.energySupplier }) ∨
    ((∃ e, change.on p = .error e) ∧ change.effectuated? p = none ∧ p.after change = p) := by
  cases result : change.on p with
  | error e =>
    refine .inr (.inr ⟨⟨e, rfl⟩, ?_, by rw [after, result]⟩)
    cases change <;> simp [Change.effectuated?, result]
  | ok changed =>
    have same : p.after change = changed := by rw [after, result]
    cases change with
    | register id kind supplier date =>
      obtain ⟨new, free, written⟩ := registerProcess_ok_iff.mp result
      exact .inl ⟨id, kind, supplier, date, rfl, new, free, rfl, same.trans written⟩
    | effectuate id =>
      obtain ⟨q, found, pending, written⟩ := effectuate_ok_iff.mp result
      obtain rfl := id_of_process? found
      refine .inr (.inl ⟨q, rfl, found, pending, ?_, same.trans written⟩)
      simp [Change.effectuated?, result, found]

/-! ### Order -/

/-- No name and no date of a kind is given twice. The effectuated processes are those that `done`
    lists, each once; the last of them supplies the point, or else who supplied it first. -/
structure Orderly (first : Option GlnNumber) (done : List BusinessProcess) (p : AccountingPoint) :
    Prop where
  names : (p.processes.map (·.processId)).Nodup
  dates : (p.processes.map fun q => (q.kind, q.effectiveDate)).Nodup
  once : (done.map (·.processId)).Nodup
  listed : ∀ q ∈ done, { q with status := .effectuated } ∈ p.processes
  effectuated : ∀ q ∈ p.processes, q.status = .effectuated →
    q.processId ∈ done.map (·.processId)
  supplier : p.energySupplier = (done.getLast?.map (·.energySupplier)).or first

theorem orderly_fresh (gsrn : Gsrn) (first : Option GlnNumber) :
    Orderly first [] { fresh gsrn with energySupplier := first } where
  names := List.nodup_nil
  dates := List.nodup_nil
  once := List.nodup_nil
  listed _ mem := by cases mem
  effectuated _ mem := by cases mem
  supplier := rfl

theorem hasProcessOn_eq_false {kind : ProcessKind} {date : Date} :
    p.hasProcessOn kind date = false
      ↔ (kind, date) ∉ p.processes.map fun q => (q.kind, q.effectiveDate) := by
  simp only [hasProcessOn, List.any_eq_false, List.mem_map, Prod.mk.injEq, not_exists, not_and]
  simp

namespace Orderly

variable {first : Option GlnNumber} {done : List BusinessProcess}

/-- A process that is registered is new in name and date, and pending. -/
theorem register (h : Orderly first done p) {kind : ProcessKind} {supplier : GlnNumber}
    {date : Date} (new : p.process? id = none) (free : p.hasProcessOn kind date = false) :
    Orderly first done
      { p with processes := p.processes ++ [⟨id, kind, supplier, date, .pending⟩] } := by
  rw [process?_eq_none] at new
  rw [hasProcessOn_eq_false] at free
  refine { h with
    names := Tables.nodup_append_singleton BusinessProcess.processId h.names new
    dates := Tables.nodup_append_singleton (fun q : BusinessProcess => (q.kind, q.effectiveDate))
      h.dates free
    listed := fun q mem => List.mem_append_left _ (h.listed q mem)
    effectuated := fun q mem status => ?_ }
  obtain old | same := List.mem_append.mp mem
  · exact h.effectuated q old status
  · rw [List.mem_singleton.mp same] at status
    cases status

/-- A process that is effectuated was not effectuated before. -/
theorem effectuate (h : Orderly first done p) (found : p.process? q.processId = some q)
    (pending : q.status = .pending) :
    Orderly first (done ++ [q]) { p with
      processes := markEffectuated q.processId p.processes
      energySupplier := some q.energySupplier } := by
  have new : q.processId ∉ done.map (·.processId) := by
    intro mem
    obtain ⟨q', mem', same⟩ := List.mem_map.mp mem
    -- The list has an effectuated process of the name, and it has no other of the name.
    have found' := process?_of_mem h.names (h.listed q' mem')
    rw [show ({ q' with status := .effectuated } : BusinessProcess).processId = q.processId from
      same, found] at found'
    rw [Option.some.inj found'] at pending
    cases pending
  rw [markEffectuated_eq_map h.names]
  refine ⟨?_, ?_, Tables.nodup_append_singleton _ h.once new, ?_, ?_, ?_⟩
  · simpa [Function.comp_def] using h.names
  · simpa [Function.comp_def] using h.dates
  · intro q' mem
    obtain old | same := List.mem_append.mp mem
    · refine List.mem_map.mpr ⟨_, h.listed q' old, ?_⟩
      unfold AccountingPoint.effectuated
      split <;> rfl
    · rw [List.mem_singleton.mp same]
      exact List.mem_map.mpr ⟨q, mem_of_process? found, if_pos rfl⟩
  · intro q' mem status
    rw [List.map_append, List.mem_append]
    obtain ⟨old, mem', rfl⟩ := List.mem_map.mp mem
    by_cases same : old.processId = q.processId
    · exact .inr (by simp [same])
    · rw [AccountingPoint.effectuated, if_neg same] at status ⊢
      exact .inl (h.effectuated old mem' status)
  · simp

theorem after (h : Orderly first done p) (change : Change) :
    Orderly first (done ++ (change.effectuated? p).toList) (p.after change) := by
  obtain ⟨id, kind, supplier, date, -, new, free, none, same⟩ | ⟨q, -, found, pending, one, same⟩ |
    ⟨-, none, same⟩ := p.after_cases change
  · rw [none, same, Option.toList_none, List.append_nil]
    exact h.register new free
  · rw [one, same]
    exact h.effectuate found pending
  · rw [none, same, Option.toList_none, List.append_nil]
    exact h

theorem afterAll (h : Orderly first done p) (changes : List Change) :
    Orderly first (done ++ p.effectuatedBy changes) (p.afterAll changes) := by
  induction changes generalizing p done with
  | nil => simpa [AccountingPoint.afterAll, effectuatedBy] using h
  | cons change rest ih =>
    rw [effectuatedBy, ← List.append_assoc]
    exact ih (h.after change)

end Orderly

/-! ### Growth -/

/-- Number and version are the same, and every process is still in its place, as it was or
    effectuated since. -/
structure Grows (p p' : AccountingPoint) : Prop where
  gsrn : p'.gsrn = p.gsrn
  version : p'.version = p.version
  processes : ∀ (i : Nat) (q : BusinessProcess), p.processes[i]? = some q →
    ∃ q', p'.processes[i]? = some q' ∧ q.Proceeds q'

theorem Grows.refl (p : AccountingPoint) : p.Grows p :=
  ⟨rfl, rfl, fun _ q found => ⟨q, found, .inl rfl⟩⟩

theorem Grows.trans (h : p.Grows p') (h' : p'.Grows p'') : p.Grows p'' where
  gsrn := h'.gsrn.trans h.gsrn
  version := h'.version.trans h.version
  processes i q found := by
    obtain ⟨q', found', first⟩ := h.processes i q found
    obtain ⟨q'', found'', second⟩ := h'.processes i q' found'
    exact ⟨q'', found'', first.trans second⟩

theorem grows_register (p : AccountingPoint) (new : BusinessProcess) :
    p.Grows { p with processes := p.processes ++ [new] } where
  gsrn := rfl
  version := rfl
  processes i q found := by
    have inside : i < p.processes.length := (List.getElem?_eq_some_iff.mp found).1
    exact ⟨q, by rw [List.getElem?_append_left inside, found], .inl rfl⟩

theorem grows_effectuate (distinct : (p.processes.map (·.processId)).Nodup)
    (found : p.process? q.processId = some q) (pending : q.status = .pending) :
    p.Grows { p with
      processes := markEffectuated q.processId p.processes
      energySupplier := some q.energySupplier } where
  gsrn := rfl
  version := rfl
  processes i other place := by
    refine ⟨effectuated q.processId other, ?_, ?_⟩
    · rw [markEffectuated_eq_map distinct, List.getElem?_map, place]
      rfl
    · by_cases same : other.processId = q.processId
      · -- There is one process of the name only, so that the other one was pending, too.
        have own := process?_of_mem distinct (List.mem_of_getElem? place)
        rw [same, found] at own
        cases own
        exact .inr ⟨pending, if_pos rfl⟩
      · exact .inl (if_neg same)

theorem Orderly.grows_after {first : Option GlnNumber} {done : List BusinessProcess}
    (h : Orderly first done p) (change : Change) : p.Grows (p.after change) := by
  obtain ⟨id, kind, supplier, date, -, -, -, -, same⟩ | ⟨q, -, found, pending, -, same⟩ |
    ⟨-, -, same⟩ := p.after_cases change
  · rw [same]
    exact grows_register p _
  · rw [same]
    exact grows_effectuate h.names found pending
  · rw [same]
    exact .refl p

theorem Orderly.grows {first : Option GlnNumber} {done : List BusinessProcess}
    (h : Orderly first done p) (changes : List Change) : p.Grows (p.afterAll changes) := by
  induction changes generalizing p done with
  | nil => exact .refl p
  | cons change rest ih => exact (h.grows_after change).trans (ih (h.after change))

/-! ### Refusals -/

/-- Why a point refuses a call, and with which error. -/
inductive Refuses (p : AccountingPoint) : Change → DomainError → Prop where
  /-- The name of a process is in use, whatever its date is. -/
  | reused {id : ProcessId} {kind : ProcessKind} {supplier : GlnNumber} {date : Date}
      (known : id ∈ p.processes.map (·.processId)) :
      Refuses p (.register id kind supplier date)
        (.conflict ("process " ++ id.text ++ " already registered on " ++ p.gsrn.text))
  /-- The name is new, but a process of the kind takes effect on the date. -/
  | taken {id : ProcessId} {kind : ProcessKind} {supplier : GlnNumber} {date : Date}
      (new : id ∉ p.processes.map (·.processId))
      (taken : ∃ q ∈ p.processes, q.kind = kind ∧ q.effectiveDate = date) :
      Refuses p (.register id kind supplier date)
        (.invariantViolation ("a " ++ kind.render ++ " is already registered on " ++
          p.gsrn.text ++ " for " ++ date.render))
  /-- No process has the name. -/
  | unknown {id : ProcessId} (new : id ∉ p.processes.map (·.processId)) :
      Refuses p (.effectuate id) (.notFound ("process " ++ id.text))
  /-- The process of the name was effectuated before. -/
  | settled {q : BusinessProcess} (mem : q ∈ p.processes) (settled : q.status = .effectuated) :
      Refuses p (.effectuate q.processId)
        (.invariantViolation ("process " ++ q.processId.text ++ " is not pending"))

theorem refuses_register_iff {kind : ProcessKind} {supplier : GlnNumber} {date : Date}
    {e : DomainError} : p.registerProcess id kind supplier date = .error e ↔
      p.Refuses (.register id kind supplier date) e := by
  have known : (p.process? id).isSome = true ↔ id ∈ p.processes.map (·.processId) := by
    rw [← not_iff_not, ← process?_eq_none, Bool.not_eq_true, Option.isSome_eq_false_iff,
      Option.isNone_iff_eq_none]
  have free : p.hasProcessOn kind date = true
      ↔ ∃ q ∈ p.processes, q.kind = kind ∧ q.effectiveDate = date := by
    simp [hasProcessOn]
  unfold registerProcess
  constructor
  · intro h
    split at h
    · rename_i used
      cases h
      exact .reused (known.mp used)
    · rename_i new
      split at h
      · rename_i taken
        cases h
        exact .taken (fun mem => new (known.mpr mem)) (free.mp taken)
      · cases h
  · intro h
    cases h with
    | reused used => rw [if_pos (known.mpr used)]
    | taken new taken => rw [if_neg fun used => new (known.mp used), if_pos (free.mpr taken)]

theorem refuses_effectuate_iff (distinct : (p.processes.map (·.processId)).Nodup)
    {e : DomainError} : p.effectuate id = .error e ↔ p.Refuses (.effectuate id) e := by
  unfold effectuate
  constructor
  · intro h
    split at h
    · rename_i missing
      cases h
      exact .unknown (process?_eq_none.mp missing)
    · rename_i q found
      obtain rfl := id_of_process? found
      split at h
      · cases h
      · rename_i status
        cases h
        refine .settled (mem_of_process? found) ?_
        cases same : q.status with
        | pending => exact absurd same status
        | effectuated => rfl
  · intro h
    cases h with
    | unknown new => rw [process?_eq_none.mpr new]
    | settled mem settled => simp [process?_of_mem distinct mem, settled]

theorem Orderly.refuses_iff {first : Option GlnNumber} {done : List BusinessProcess}
    (h : Orderly first done p) (change : Change) (e : DomainError) :
    change.on p = .error e ↔ p.Refuses change e := by
  cases change with
  | register id kind supplier date => exact refuses_register_iff
  | effectuate id => exact refuses_effectuate_iff h.names

/-! ### The three together -/

/-- Whatever calls are made on a new point: it is in order, it keeps its number and its version, it
    only grows with further calls, and a call is refused for the reasons above and no others, and
    then leaves the point as it was. -/
theorem changes_keep_order (gsrn : Gsrn) (first : Option GlnNumber) (changes : List Change) :
    let new : AccountingPoint := { fresh gsrn with energySupplier := first }
    let p := new.afterAll changes
    Orderly first (new.effectuatedBy changes) p ∧ p.gsrn = gsrn ∧ p.version = 0 ∧
      (∀ more, p.Grows (p.afterAll more)) ∧
      ∀ change e, (change.on p = .error e ↔ p.Refuses change e) ∧
        (p.Refuses change e → p.after change = p) := by
  intro new p
  have start := orderly_fresh gsrn first
  have orderly : Orderly first (new.effectuatedBy changes) p := start.afterAll changes
  have grown : new.Grows p := start.grows changes
  refine ⟨orderly, grown.gsrn, grown.version, orderly.grows, fun change e => ?_⟩
  refine ⟨orderly.refuses_iff change e, fun refused => ?_⟩
  rw [AccountingPoint.after, (orderly.refuses_iff change e).mpr refused]

end AccountingPoint

end SupplierSwitch
