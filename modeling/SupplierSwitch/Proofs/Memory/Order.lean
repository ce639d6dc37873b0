import SupplierSwitch.Proofs.Memory.Lifecycle

namespace SupplierSwitch

/-!
# The order of commits

Every command has its place in the order of commits, and keeps it. The commands stand in the tables
in this order, whatever was done to them, so that the first one that may be handed out is the one
that was committed first of all that may.

* `InternalCommand.Precedes` — one command was committed before another;
* `Memory.Effect.inPlace` — a call commits, or it changes rows in their places;
* `Tables.Ordered` and `Memory.Run.ordered` — the tables of every history are in order;
* `Tables.Ordered.first` — the command that is handed out precedes all others that may be.
-/

/-- The first command has the lower place. -/
def InternalCommand.Precedes (a b : InternalCommand) : Prop :=
  ∃ m n, a.sequence = some m ∧ b.sequence = some n ∧ m < n

namespace InternalCommand.Precedes

variable {a a' b b' c : InternalCommand}

theorem trans (h : a.Precedes b) (h' : b.Precedes c) : a.Precedes c := by
  obtain ⟨m, n, ha, hb, less⟩ := h
  obtain ⟨n', k, hb', hc, less'⟩ := h'
  cases hb.symm.trans hb'
  exact ⟨m, k, ha, hc, Nat.lt_trans less less'⟩

theorem asymm (h : a.Precedes b) : ¬ b.Precedes a := by
  intro h'
  obtain ⟨m, n, hm, hn, less⟩ := h.trans h'
  cases hm.symm.trans hn
  exact Nat.lt_irrefl m less

theorem congr (h : a.Precedes b) (ha : a'.sequence = a.sequence)
    (hb : b'.sequence = b.sequence) : a'.Precedes b' := by
  obtain ⟨m, n, hm, hn, less⟩ := h
  exact ⟨m, n, ha.trans hm, hb.trans hn, less⟩

end InternalCommand.Precedes

namespace Tables

variable {t t' : Tables} {c : ChangeSet} {now : Timestamp} {id : CommandId}

/-- The places ascend, up to the last one that was given. -/
structure Ordered (t : Tables) : Prop where
  ascending : t.commands.Pairwise fun a b => a.command.Precedes b.command
  placed : ∀ row ∈ t.commands, ∃ place ≤ t.lastSequence, row.command.sequence = some place

theorem ordered_empty : Ordered .empty :=
  ⟨.nil, fun _ none => nomatch none⟩

theorem sequence_failed (c : InternalCommand) (error : String) (policy : RetryPolicy)
    (now : Timestamp) : (failed c error policy now).1.sequence = c.sequence := by
  rw [failed_eq]

theorem sequence_marked (marks : List (CommandId × ClaimToken)) (now : Timestamp)
    (row : CommandRow) : (marked marks now row).command.sequence = row.command.sequence := by
  rw [marked]
  split <;> rfl

/-- Rows that keep their places stay in order. -/
theorem Ordered.map (h : t.Ordered) {change : CommandRow → CommandRow}
    (keeps : ∀ row ∈ t.commands, (change row).command.sequence = row.command.sequence) :
    Ordered { t with commands := t.commands.map change } := by
  constructor
  · rw [List.pairwise_map]
    refine h.ascending.imp_of_mem fun hrow hother less => ?_
    exact less.congr (keeps _ hrow) (keeps _ hother)
  · intro row mem
    obtain ⟨old, hold, rfl⟩ := List.mem_map.mp mem
    obtain ⟨place, le, same⟩ := h.placed old hold
    exact ⟨place, le, (keeps old hold).trans same⟩

theorem Ordered.updateRow (h : t.Ordered) {change : CommandRow → CommandRow}
    (keeps : ∀ row ∈ t.commands, row.command.id = id →
      (change row).command.sequence = row.command.sequence) : (t.updateRow id change).Ordered := by
  refine h.map fun row mem => ?_
  split
  · rename_i same
    exact keeps row mem same
  · rfl

/-- Placed rows ascend. -/
theorem pairwise_placed (last : Nat) (commands : List InternalCommand) :
    (placed last commands).Pairwise fun a b => a.command.Precedes b.command := by
  induction commands generalizing last with
  | nil => exact .nil
  | cons command rest ih =>
    rw [placed_cons]
    refine .cons (fun row mem => ?_) (ih (last + 1))
    obtain ⟨other, -, place, less, -, rfl⟩ := mem_placed mem
    exact ⟨last + 1, place, rfl, rfl, less⟩

/-- What is committed follows what is there. -/
theorem Ordered.receives (h : t.Ordered) (receives : t.Receives c now t') : t'.Ordered := by
  have kept := h.map fun row _ => sequence_marked c.processed now row
  constructor
  · rw [receives.commands, List.pairwise_append]
    refine ⟨kept.ascending, pairwise_placed _ _, fun row mem new mem' => ?_⟩
    obtain ⟨place, le, same⟩ := kept.placed row mem
    obtain ⟨command, -, place', less, -, rfl⟩ := mem_placed mem'
    exact ⟨place, place', same, rfl, Nat.lt_of_le_of_lt le less⟩
  · intro row mem
    obtain ⟨old, hold, rfl⟩ | ⟨command, -, place, -, le, rfl⟩ := receives.mem_commands mem
    · obtain ⟨place, le, same⟩ := kept.placed _ (List.mem_map_of_mem hold)
      have room : t.lastSequence ≤ t'.lastSequence := by
        rw [receives.lastSequence]
        exact Nat.le_add_right ..
      exact ⟨place, Nat.le_trans le room, same⟩
    · exact ⟨place, le, rfl⟩

/-- The command that is handed out precedes all others that may be handed out. -/
theorem Ordered.first (h : t.Ordered) {filter : ClaimFilter} {row other : CommandRow}
    (next : t.nextClaimable filter now = some row) (mem : other ∈ t.commands)
    (claimable : isClaimable filter now other = true) :
    other = row ∨ row.command.Precedes other.command := by
  obtain ⟨-, before, after, split, passed⟩ := List.find?_eq_some_iff_append.mp next
  have ascending := h.ascending
  rw [split] at mem ascending
  obtain early | here := List.mem_append.mp mem
  · have skipped := passed other early
    rw [claimable] at skipped
    cases skipped
  · obtain same | late := List.mem_cons.mp here
    · exact .inl same
    · have later := (List.pairwise_append.mp ascending).2.1
      exact .inr ((List.pairwise_cons.mp later).1 other late)

end Tables

namespace Memory

open Tables

variable {t t' : Tables} {e : Event}

/-- The commands that a call makes visible, in the order in which they were staged. -/
def Event.commits : Event → List CommandId
  | .committed _ c _ (.ok ()) => c.commands.map (·.id)
  | _ => []

/-- A call commits what fits, or it changes rows in their places. -/
theorem Effect.inPlace (h : Effect t e t') (keyed : t.Keyed) :
    (∃ n c now, e = .committed n c now (.ok ()) ∧ t.Admits c ∧ t' = t.apply c now) ∨
      e.commits = [] ∧ ∃ change : CommandRow → CommandRow, (∀ row ∈ t.commands,
        (change row).command.id = row.command.id ∧
          (change row).command.sequence = row.command.sequence) ∧
        t' = { t with commands := t.commands.map change } := by
  -- A row that is replaced is the only one of its identifier.
  have replaced {id : CommandId} {row row' : CommandRow} (found : t.row? id = some row)
      (same : row'.command.id = row.command.id)
      (place : row'.command.sequence = row.command.sequence) :
      ∃ change : CommandRow → CommandRow, (∀ row ∈ t.commands,
        (change row).command.id = row.command.id ∧
          (change row).command.sequence = row.command.sequence) ∧
        t.updateRow id (fun _ => row') = { t with commands := t.commands.map change } := by
    refine ⟨_, fun other mem => ?_, rfl⟩
    split
    · rename_i own
      have found' := row?_of_mem keyed.commands mem
      rw [own, found] at found'
      cases found'
      exact ⟨same, place⟩
    · exact ⟨rfl, rfl⟩
  cases h with
  | committed done =>
    obtain ⟨admits, rfl⟩ := commit_ok_iff.mp done
    exact .inl ⟨_, _, _, rfl, admits, rfl⟩
  | claimed next =>
    refine .inr ⟨rfl, _, fun row _ => ?_, rfl⟩
    split <;> exact ⟨rfl, rfl⟩
  | recorded done =>
    obtain ⟨row, -, found, -, -, rfl⟩ := recordFailure_ok_iff.mp done
    exact .inr ⟨rfl, replaced found (id_failed ..) (sequence_failed ..)⟩
  | retried done =>
    obtain ⟨row, found, -, -, rfl⟩ := retryDeadLetter_ok_iff.mp done
    exact .inr ⟨rfl, replaced found (id_revived _) rfl⟩
  | _ => exact .inr ⟨rfl, id, fun _ _ => ⟨rfl, rfl⟩, by rw [List.map_id]⟩

/-- Whatever a call does to the tables, they stay in order. -/
theorem Effect.ordered (h : Effect t e t') (keyed : t.Keyed)
    (tidy : ∀ n c now result, e = .committed n c now result → c.Tidy) (ordered : t.Ordered) :
    t'.Ordered := by
  obtain ⟨n, c, now, rfl, admits, rfl⟩ | ⟨-, change, keeps, rfl⟩ := h.inPlace keyed
  · exact ordered.receives (receives_apply (tidy _ _ _ _ rfl) admits _)
  · exact ordered.map fun row mem => (keeps row mem).2

/-- The tables of every history are in order. -/
theorem Run.ordered {s : Shared} {log : List Event} (history : Run .empty log s) :
    s.tables.Ordered := by
  refine Run.snoc_induction (P := fun _ s => s.tables.Ordered) ordered_empty ?_ history
  intro log s e s' history step ih
  refine step.effect.ordered history.keyed (fun n c now result same => ?_) ih
  subst same
  exact history.tidy n c step.isOpen

end Memory

end SupplierSwitch
