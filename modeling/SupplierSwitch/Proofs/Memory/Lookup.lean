import SupplierSwitch.Memory.Tables
import Mathlib.Data.List.Nodup

namespace SupplierSwitch

/-!
# Looking up what an operation has written

Tables and change sets are lists that are read by key. This file says, for every operation of the
tables, what a look-up finds afterwards:

* `Tables.under_put` and `Tables.under_foldl_overwrite_of_mem`, the facts about the lists: a write
  changes its own key only, and so does each of many writes under different keys;
* `Tables.row?_updateRow` — claims, failures and revivals change one row;
* `Tables.foldl_insertCommand`, `Tables.foldl_applyMark`, `Tables.foldl_putTransaction` and
  `Tables.foldl_putPoint` — the four passes of a commit, each as one change of one list.
-/

namespace Tables

/-! ### Lists read by key -/

section Keyed

variable {α κ : Type} [DecidableEq κ] (key : α → κ)

/-- The first element of a list under a key. -/
def under (k : κ) (l : List α) : Option α :=
  l.find? fun b => decide (key b = k)

theorem key_of_under {k : κ} {l : List α} {a : α} (h : under key k l = some a) : key a = k := by
  simpa using List.find?_some h

theorem under_eq_none {k : κ} {l : List α} : under key k l = none ↔ k ∉ l.map key := by
  simp [under]

/-- Without repeated keys, every element is found under its own. -/
theorem under_of_mem {l : List α} (distinct : (l.map key).Nodup) {a : α} (h : a ∈ l) :
    under key (key a) l = some a := by
  obtain ⟨b, hb⟩ : ∃ b, under key (key a) l = some b := by
    refine Option.ne_none_iff_exists'.mp fun none => ?_
    simp only [under, List.find?_eq_none, decide_eq_true_eq] at none
    exact none a h rfl
  have same := List.inj_on_of_nodup_map distinct (List.mem_of_find?_eq_some hb) h
    (key_of_under key hb)
  rw [hb, same]

omit [DecidableEq κ] in
theorem nodup_append_singleton {l : List α} (distinct : (l.map key).Nodup) {a : α}
    (new : key a ∉ l.map key) : ((l ++ [a]).map key).Nodup := by
  rw [List.map_append, List.nodup_append]
  refine ⟨distinct, List.nodup_singleton _, ?_⟩
  intro k hk k' hk' same
  rw [List.map_singleton, List.mem_singleton] at hk'
  exact new (hk' ▸ same ▸ hk)

/-- Writing under a key is found under that key and leaves every other key alone. -/
theorem under_put (a : α) (k : κ) (l : List α) :
    under key k (put (fun b => decide (key b = key a)) a l)
      = if key a = k then some a else under key k l := by
  unfold under
  induction l with
  -- Nothing has the key, so the element is appended.
  | nil => by_cases h : key a = k <;> simp [put, h]
  | cons b rest ih =>
    by_cases hb : key b = key a
    · -- `a` takes the place of `b`, which had the same key.
      by_cases h : key a = k <;> simp [put, hb, h]
    · by_cases hk : key b = k
      · have h : key a ≠ k := fun e => hb (hk.trans e.symm)
        simp [put, hk, h, h.symm]
      · simp [put, hb, hk, ih]

/-- Write an element under its key, stamped according to the one that is there. -/
def overwrite (stamp : Option α → α → α) (l : List α) (a : α) : List α :=
  put (fun b => decide (key b = key a)) (stamp (under key (key a) l) a) l

variable {stamp : Option α → α → α} (hstamp : ∀ old a, key (stamp old a) = key a)

include hstamp in
theorem under_overwrite (l : List α) (a : α) (k : κ) :
    under key k (overwrite key stamp l a)
      = if key a = k then some (stamp (under key k l) a) else under key k l := by
  have look := under_put key (stamp (under key (key a) l) a) k l
  rw [hstamp] at look
  rw [overwrite, look]
  by_cases h : key a = k <;> simp [h]

include hstamp in
/-- A key that none of many writes has keeps what is found under it. -/
theorem under_foldl_overwrite_of_notMem (writes l : List α) {k : κ} (h : k ∉ writes.map key) :
    under key k (writes.foldl (overwrite key stamp) l) = under key k l := by
  induction writes generalizing l with
  | nil => rfl
  | cons a rest ih =>
    rw [List.map_cons, List.mem_cons, not_or] at h
    rw [List.foldl_cons, ih _ h.2, under_overwrite key hstamp, if_neg (Ne.symm h.1)]

include hstamp in
/-- Each of many writes under different keys is found as if it had been the only one. -/
theorem under_foldl_overwrite_of_mem (writes l : List α) (distinct : (writes.map key).Nodup) {a : α}
    (h : a ∈ writes) :
    under key (key a) (writes.foldl (overwrite key stamp) l)
      = some (stamp (under key (key a) l) a) := by
  induction writes generalizing l with
  | nil => cases h
  | cons b rest ih =>
    obtain ⟨fresh, distinct⟩ := List.nodup_cons.mp distinct
    rw [List.foldl_cons]
    obtain rfl | hrest := List.mem_cons.mp h
    · -- No later write has the same key.
      rw [under_foldl_overwrite_of_notMem key hstamp _ _ fresh, under_overwrite key hstamp,
        if_pos rfl]
    · have other : key b ≠ key a := fun same => fresh (same ▸ List.mem_map_of_mem hrest)
      rw [ih _ distinct hrest, under_overwrite key hstamp, if_neg other]

theorem map_put (a : α) (l : List α) :
    (put (fun b => decide (key b = key a)) a l).map key
      = if key a ∈ l.map key then l.map key else l.map key ++ [key a] := by
  induction l with
  | nil => simp [put]
  | cons b rest ih =>
    by_cases hb : key b = key a
    · simp [put, hb]
    · have hne : key a ≠ key b := Ne.symm hb
      by_cases h : key a ∈ rest.map key
      · rw [if_pos h] at ih
        simp [put, hb, ih, h]
      · rw [if_neg h] at ih
        simp [put, hb, ih, hne, h]

include hstamp in
/-- Writing keeps the keys single. -/
theorem nodup_foldl_overwrite (writes : List α) {l : List α} (distinct : (l.map key).Nodup) :
    ((writes.foldl (overwrite key stamp) l).map key).Nodup := by
  induction writes generalizing l with
  | nil => exact distinct
  | cons a rest ih =>
    refine ih ?_
    have keys := map_put key (stamp (under key (key a) l) a) l
    rw [hstamp] at keys
    rw [overwrite, keys]
    -- Either the key is there and is kept, or it is new and comes last.
    split
    · exact distinct
    · rename_i new
      have alone := nodup_append_singleton key distinct new
      rwa [List.map_append] at alone

end Keyed

/-! ### Rows -/

/-- The identifiers of the stored commands, in order of commit. -/
def commandIds (t : Tables) : List CommandId :=
  t.commands.map (·.command.id)

theorem row?_eq_none_iff {t : Tables} {id : CommandId} : t.row? id = none ↔ id ∉ t.commandIds := by
  simp [row?, commandIds]

theorem mem_commands_of_row? {t : Tables} {id : CommandId} {row : CommandRow}
    (h : t.row? id = some row) : row ∈ t.commands :=
  List.mem_of_find?_eq_some h

theorem id_of_row? {t : Tables} {id : CommandId} {row : CommandRow} (h : t.row? id = some row) :
    row.command.id = id :=
  key_of_under (fun row : CommandRow => row.command.id) h

/-- In tables without repeated identifiers every row is found under its own. -/
theorem row?_of_mem {t : Tables} (ht : t.commandIds.Nodup) {row : CommandRow}
    (h : row ∈ t.commands) : t.row? row.command.id = some row :=
  under_of_mem (fun row : CommandRow => row.command.id) ht h

theorem id_of_transaction? {t : Tables} {id : TransactionId} {transaction : Transaction}
    (h : t.transaction? id = some transaction) : transaction.id = id :=
  key_of_under Transaction.id h

theorem gsrn_of_point? {t : Tables} {gsrn : String} {point : AccountingPoint}
    (h : t.point? gsrn = some point) : point.gsrn.text = gsrn :=
  key_of_under (fun point : AccountingPoint => point.gsrn.text) h

theorem transaction?_of_mem {t : Tables} (ht : (t.transactions.map (·.id)).Nodup)
    {transaction : Transaction} (h : transaction ∈ t.transactions) :
    t.transaction? transaction.id = some transaction :=
  under_of_mem Transaction.id ht h

theorem point?_of_mem {t : Tables} (ht : (t.points.map (·.gsrn.text)).Nodup)
    {point : AccountingPoint} (h : point ∈ t.points) : t.point? point.gsrn.text = some point :=
  under_of_mem (fun point : AccountingPoint => point.gsrn.text) ht h

/-- A change of one row is seen under its identifier only, as long as the row keeps it. -/
theorem row?_updateRow (t : Tables) (id x : CommandId) (change : CommandRow → CommandRow)
    (hchange : ∀ row, row.command.id = id → (change row).command.id = id) :
    (t.updateRow id change).row? x
      = if x = id then (t.row? x).map change else t.row? x := by
  simp only [row?, updateRow]
  -- A change that keeps the identifier does not move the place where the look-up stops.
  induction t.commands with
  | nil => simp
  | cons row rest ih =>
    rw [List.map_cons, List.find?_cons, List.find?_cons, ih]
    by_cases hid : row.command.id = id
    · have hid' := hchange row hid
      by_cases hx : x = id
      · subst hx; simp [hid, hid']
      · have hne : id ≠ x := fun e => hx e.symm
        simp [hid, hid', hx, hne]
    · by_cases hx : row.command.id = x
      · have hne : x ≠ id := fun e => hid (hx.trans e)
        simp [hx, hne]
      · simp [hid, hx]

@[simp]
theorem commandIds_updateRow (t : Tables) (id : CommandId) (change : CommandRow → CommandRow)
    (hchange : ∀ row, row.command.id = id → (change row).command.id = id) :
    (t.updateRow id change).commandIds = t.commandIds := by
  simp only [commandIds, updateRow, List.map_map]
  refine List.map_congr_left fun row _ => ?_
  by_cases h : row.command.id = id
  · simp [h, hchange row h]
  · simp [h]

/-! ### Claims, failures and revivals -/

theorem row?_claim (t : Tables) (id x : CommandId) (token : ClaimToken) (lease : Duration)
    (now : Timestamp) :
    (t.claim id token lease now).row? x
      = if x = id then
          (t.row? x).map fun row => { row with claim := some (token, now.offsetBy lease) }
        else t.row? x :=
  row?_updateRow t id x (fun row => { row with claim := some (token, now.offsetBy lease) })
    fun _ same => same

theorem isHeldBy_iff {row : CommandRow} {token : ClaimToken} :
    row.isHeldBy token = true ↔ ∃ runsOut, row.claim = some (token, runsOut) := by
  obtain ⟨command, _ | ⟨held, runsOut⟩⟩ := row <;> simp [CommandRow.isHeldBy]

/-- What a failure may write to a command. -/
theorem failed_eq (c : InternalCommand) (error : String) (policy : RetryPolicy) (now : Timestamp) :
    (failed c error policy now).1 = { c with
      attempts := (failed c error policy now).1.attempts
      lastError := (failed c error policy now).1.lastError
      notBefore := (failed c error policy now).1.notBefore
      deadLetteredAt := (failed c error policy now).1.deadLetteredAt } := by
  simp only [failed]
  split <;> rfl

/-- A failure after which the policy allows another attempt, … -/
theorem failed_of_retry {c : InternalCommand} {policy : RetryPolicy}
    (again : policy.shouldRetry (c.attempts + 1) = true) (error : String) (now : Timestamp) :
    failed c error policy now =
      let due := now.offsetBy (policy.delayForAttempt (c.attempts + 1))
      ({ c with attempts := c.attempts + 1, lastError := some error, notBefore := some due },
        .retry (c.attempts + 1) due) := by
  rw [failed, again]
  rfl

/-- … and one after which it allows none. -/
theorem failed_of_last {c : InternalCommand} {policy : RetryPolicy}
    (spent : policy.shouldRetry (c.attempts + 1) = false) (error : String) (now : Timestamp) :
    failed c error policy now =
      ({ c with attempts := c.attempts + 1, lastError := some error, deadLetteredAt := some now },
        .deadLettered (c.attempts + 1)) := by
  rw [failed, spent]
  rfl

/-- A count that has room for one more. -/
theorem toNat_succ {n : UInt32} (room : n.toNat + 1 < 4294967296) :
    (n + 1).toNat = n.toNat + 1 := by
  rw [UInt32.toNat_add, UInt32.toNat_one]
  exact Nat.mod_eq_of_lt room

@[simp] theorem id_failed (c : InternalCommand) (error : String) (policy : RetryPolicy)
    (now : Timestamp) : (failed c error policy now).1.id = c.id := by
  rw [failed_eq]

@[simp] theorem id_revived (c : InternalCommand) : (revived c).id = c.id := rfl

variable {t t' : Tables} {id : CommandId}

/-- A failure is recorded under the claim that is on the row, and releases it. -/
theorem recordFailure_ok_iff {token : ClaimToken} {error : String} {policy : RetryPolicy}
    {now : Timestamp} {disposition : FailureDisposition} :
    t.recordFailure id token error policy now = .ok (disposition, t') ↔
      ∃ row runsOut, t.row? id = some row ∧ row.claim = some (token, runsOut) ∧
        disposition = (failed row.command error policy now).2 ∧
        t' = t.updateRow id fun _ => ⟨(failed row.command error policy now).1, none⟩ := by
  cases h : t.row? id with
  | none => simp [recordFailure, h]
  | some row =>
    by_cases held : row.isHeldBy token
    · obtain ⟨runsOut, hclaim⟩ := isHeldBy_iff.mp held
      simp [recordFailure, h, held, hclaim, eq_comm]
    · have free : ∀ runsOut, row.claim ≠ some (token, runsOut) :=
        fun runsOut hclaim => held (isHeldBy_iff.mpr ⟨runsOut, hclaim⟩)
      simp [recordFailure, h, held, free]

theorem recordFailure_of_held {token : ClaimToken} {row : CommandRow} {runsOut : Timestamp}
    (found : t.row? id = some row) (held : row.claim = some (token, runsOut)) (error : String)
    (policy : RetryPolicy) (now : Timestamp) :
    t.recordFailure id token error policy now = .ok ((failed row.command error policy now).2,
      t.updateRow id fun _ => ⟨(failed row.command error policy now).1, none⟩) :=
  recordFailure_ok_iff.mpr ⟨row, runsOut, found, held, rfl, rfl⟩

/-- A command is revived if it was given up. -/
theorem retryDeadLetter_ok_iff {command : InternalCommand} :
    t.retryDeadLetter id = .ok (command, t') ↔
      ∃ row, t.row? id = some row ∧ row.command.isDeadLettered = true ∧
        command = revived row.command ∧
        t' = t.updateRow id fun _ => ⟨revived row.command, none⟩ := by
  cases h : t.row? id with
  | none => simp [retryDeadLetter, h]
  | some row =>
    rw [retryDeadLetter, h]
    by_cases given : row.command.isDeadLettered = true
    · simp only [given, if_true, Except.ok.injEq, Prod.mk.injEq, Option.some.injEq]
      constructor
      · rintro ⟨rfl, rfl⟩
        exact ⟨row, rfl, given, rfl, rfl⟩
      · rintro ⟨_, rfl, -, rfl, rfl⟩
        exact ⟨rfl, rfl⟩
    · simp [given]

/-! ### The four passes of a commit -/

/-- The rows of committed commands: unclaimed, at consecutive places from the next free one. -/
def placed (last : Nat) (commands : List InternalCommand) : List CommandRow :=
  commands.mapIdx fun i command => ⟨{ command with sequence := some (last + 1 + i) }, none⟩

theorem placed_cons (last : Nat) (command : InternalCommand) (rest : List InternalCommand) :
    placed last (command :: rest)
      = ⟨{ command with sequence := some (last + 1) }, none⟩ :: placed (last + 1) rest := by
  simp only [placed, List.mapIdx_cons, Nat.add_zero]
  congr 2
  funext i command
  rw [show last + 1 + (i + 1) = last + 1 + 1 + i by omega]

@[simp]
theorem ids_placed (last : Nat) (commands : List InternalCommand) :
    (placed last commands).map (·.command.id) = commands.map (·.id) := by
  induction commands generalizing last with
  | nil => rfl
  | cons command rest ih => simp [placed_cons, ih]

/-- A placed row stores one of the commands, unclaimed, at a place that was not given before. -/
theorem mem_placed {last : Nat} {commands : List InternalCommand} {row : CommandRow}
    (h : row ∈ placed last commands) : ∃ command ∈ commands, ∃ place, last < place ∧
      place ≤ last + commands.length ∧ row = ⟨{ command with sequence := some place }, none⟩ := by
  obtain ⟨i, hi, rfl⟩ := List.mem_mapIdx.mp h
  exact ⟨commands[i], List.getElem_mem hi, last + 1 + i, by omega, by omega, rfl⟩

/-- First pass: every staged command is appended in its place. -/
theorem foldl_insertCommand (t : Tables) (commands : List InternalCommand) :
    commands.foldl insertCommand t
      = { t with
          commands := t.commands ++ placed t.lastSequence commands
          lastSequence := t.lastSequence + commands.length } := by
  induction commands generalizing t with
  | nil => simp [placed]
  | cons command rest ih =>
    rw [List.foldl_cons, ih, placed_cons]
    simp [insertCommand, Nat.add_assoc, Nat.add_comm 1]

/-- A row after the marks of a commit. -/
def marked (marks : List (CommandId × ClaimToken)) (now : Timestamp) (row : CommandRow) :
    CommandRow :=
  if row.command.id ∈ marks.map Prod.fst then processedRow now row else row

@[simp] theorem id_processedRow (now : Timestamp) (row : CommandRow) :
    (processedRow now row).command.id = row.command.id := rfl

@[simp] theorem id_marked (marks : List (CommandId × ClaimToken)) (now : Timestamp)
    (row : CommandRow) : (marked marks now row).command.id = row.command.id := by
  unfold marked; split <;> rfl

/-- Second pass: every marked row is processed, however often it is marked. -/
theorem foldl_applyMark (t : Tables) (marks : List (CommandId × ClaimToken)) (now : Timestamp) :
    marks.foldl (applyMark now) t = { t with commands := t.commands.map (marked marks now) } := by
  induction marks generalizing t with
  | nil =>
    have same : marked [] now = id := by funext row; simp [marked]
    simp [same]
  | cons mark rest ih =>
    rw [List.foldl_cons, ih]
    simp only [applyMark, updateRow, List.map_map]
    congr 1
    refine List.map_congr_left fun row _ => ?_
    -- A row that is marked again is processed already, and stays as it is.
    by_cases h : row.command.id = mark.1
    · by_cases hrest : mark.1 ∈ rest.map Prod.fst
      · simp only [marked, Function.comp, h, if_true, id_processedRow, hrest, List.map_cons,
          List.mem_cons, or_true]
        rfl
      · simp only [marked, Function.comp, h, if_true, id_processedRow, hrest, List.map_cons,
          List.mem_cons, true_or, if_false]
    · by_cases hrest : row.command.id ∈ rest.map Prod.fst <;> simp [marked, h, hrest]

/-- A transaction one version above the one that it is written over. -/
def nextTransaction (old : Option Transaction) (transaction : Transaction) : Transaction :=
  { transaction with version := (old.map (·.version)).getD 0 + 1 }

/-- A point one version above the one that it is written over. -/
def nextPoint (old : Option AccountingPoint) (point : AccountingPoint) : AccountingPoint :=
  { point with version := (old.map (·.version)).getD 0 + 1 }

@[simp] theorem id_nextTransaction (old : Option Transaction) (transaction : Transaction) :
    (nextTransaction old transaction).id = transaction.id := rfl

@[simp] theorem gsrn_nextPoint (old : Option AccountingPoint) (point : AccountingPoint) :
    (nextPoint old point).gsrn.text = point.gsrn.text := rfl

/-- Third pass: only transactions are written. -/
theorem foldl_putTransaction (t : Tables) (transactions : List Transaction) :
    transactions.foldl putTransaction t
      = { t with
          transactions := transactions.foldl (overwrite Transaction.id nextTransaction)
            t.transactions } := by
  induction transactions generalizing t with
  | nil => rfl
  | cons transaction rest ih => rw [List.foldl_cons, ih]; rfl

/-- Fourth pass: only points are written. -/
theorem foldl_putPoint (t : Tables) (points : List AccountingPoint) :
    points.foldl putPoint t
      = { t with points := points.foldl (overwrite (·.gsrn.text) nextPoint) t.points } := by
  induction points generalizing t with
  | nil => rfl
  | cons point rest ih => rw [List.foldl_cons, ih]; rfl

end Tables

end SupplierSwitch
