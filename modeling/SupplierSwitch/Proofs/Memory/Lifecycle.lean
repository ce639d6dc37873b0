import SupplierSwitch.Proofs.Memory.Commit

namespace SupplierSwitch

namespace Memory

open Tables

/-!
# The life of a command

One command, followed through a history. Everything that may happen to its row is listed once
(`RowStep`), with the conditions under which it may; the claims on it, its failures and its end are
then read off that list.

* `CommandRow.Sound` — only what is neither processed nor given up is under a claim. It ties the
  three together: a mark needs the claim, so what is marked was not given up.
* `CommandRow.Finished` — processed, not given up and not claimed: nothing happens to it any more.
* `processed_at_most_once` — what follows for whole histories.
-/

variable {id : CommandId} {t t' : Tables} {e : Event}

/-! ### What may happen to a row -/

/-- A commit of a unit that marks the command, whatever comes of it. -/
def Event.marks (id : CommandId) : Event → Bool
  | .committed _ c _ _ => decide (id ∈ c.processed.map Prod.fst)
  | _ => false

/-- A successful commit of a unit that marks the command. -/
def Event.processes (id : CommandId) : Event → Bool
  | .committed _ c _ (.ok _) => decide (id ∈ c.processed.map Prod.fst)
  | _ => false

/-- The command is handed out under a claim. -/
def Event.handsOut (id : CommandId) : Event → Bool
  | .claimed _ _ (.ok (some handed)) => decide (handed.command.id = id)
  | _ => false

/-- The call has written to the row of the command. -/
def Event.touches (id : CommandId) : Event → Bool
  | .committed _ c _ (.ok _) =>
    decide (id ∈ c.commands.map (·.id)) || decide (id ∈ c.processed.map Prod.fst)
  | .claimed _ _ (.ok (some handed)) => decide (handed.command.id = id)
  | .recorded other _ _ _ _ (.ok _) => decide (other = id)
  | .retried other (.ok _) => decide (other = id)
  | _ => false

theorem Event.touches_of_processes (h : e.processes id = true) : e.touches id = true := by
  cases e with
  | committed n c now result =>
    cases result with
    | ok u => simp_all [processes, touches]
    | error e => cases h
  | _ => cases h

theorem Event.touches_of_handsOut (h : e.handsOut id = true) : e.touches id = true := by
  cases e with
  | claimed filter now result => obtain e | _ | handed := result <;> exact h
  | _ => cases h

/-- All that may happen to the row of a command, and when. -/
inductive RowStep (id : CommandId) : Event → Option CommandRow → Option CommandRow → Prop where
  | untouched {e : Event} {r : Option CommandRow} (other : e.touches id = false) : RowStep id e r r
  | inserted {n : Nat} {c : ChangeSet} {now : Timestamp} {command : InternalCommand} {place : Nat}
      (staged : command ∈ c.commands) (same : command.id = id)
      (unmarked : id ∉ c.processed.map Prod.fst) :
      RowStep id (.committed n c now (.ok ())) none
        (some ⟨{ command with sequence := some place }, none⟩)
  | processed {n : Nat} {c : ChangeSet} {now runsOut : Timestamp} {row : CommandRow}
      {token : ClaimToken} (mark : (id, token) ∈ c.processed)
      (pending : row.command.processed = false) (held : row.claim = some (token, runsOut)) :
      RowStep id (.committed n c now (.ok ())) (some row) (some (processedRow now row))
  | claimed {filter : ClaimFilter} {now : Timestamp} {row : CommandRow} {token : ClaimToken}
      (same : row.command.id = id) (claimable : isClaimable filter now row = true) :
      RowStep id (.claimed filter now (.ok (some ⟨row.command, token⟩))) (some row)
        (some { row with claim := some (token, now.offsetBy filter.lease) })
  | failed {token : ClaimToken} {error : String} {policy : RetryPolicy} {now runsOut : Timestamp}
      {row : CommandRow} (held : row.claim = some (token, runsOut)) :
      RowStep id (.recorded id token error policy now (.ok (failed row.command error policy now).2))
        (some row) (some ⟨(failed row.command error policy now).1, none⟩)
  | revived {row : CommandRow} (given : row.command.isDeadLettered = true) :
      RowStep id (.retried id (.ok (revived row.command))) (some row)
        (some ⟨revived row.command, none⟩)

theorem rowStep_of_admits {n : Nat} {c : ChangeSet} {now : Timestamp} (admits : t.Admits c)
    (receives : t.Receives c now t') :
    RowStep id (.committed n c now (.ok ())) (t.row? id) (t'.row? id) := by
  rw [receives.row?]
  -- A row that is there cannot be staged again, and one that is missing cannot be marked.
  cases hrow : t.row? id with
  | some row =>
    have hid := id_of_row? hrow
    by_cases hmark : id ∈ c.processed.map Prod.fst
    · obtain ⟨⟨_, token⟩, mem, rfl⟩ := List.mem_map.mp hmark
      obtain ⟨_, runsOut, hrow', pending, held⟩ := admits.marks _ mem
      cases hrow.symm.trans hrow'
      rw [Option.map_some, Option.some_or, marked, if_pos (hid ▸ hmark)]
      exact .processed mem pending held
    · have unstaged : id ∉ c.commands.map (·.id) := fun hstaged => by
        obtain ⟨command, mem, rfl⟩ := List.mem_map.mp hstaged
        rw [admits.commands command mem] at hrow
        cases hrow
      rw [Option.map_some, Option.some_or, marked, if_neg (hid ▸ hmark)]
      exact .untouched (by simp only [Event.touches, unstaged, hmark, decide_false, Bool.or_self])
  | none =>
    have unmarked : id ∉ c.processed.map Prod.fst := fun hmark => by
      obtain ⟨mark, mem, rfl⟩ := List.mem_map.mp hmark
      obtain ⟨row, -, hrow', -, -⟩ := admits.marks _ mem
      rw [hrow] at hrow'
      cases hrow'
    rw [Option.map_none, Option.none_or]
    cases hnew : under (fun row : CommandRow => row.command.id) id
        (placed t.lastSequence c.commands) with
    | none =>
      rw [under_eq_none, ids_placed] at hnew
      exact .untouched (by simp only [Event.touches, unmarked, hnew, decide_false, Bool.or_self])
    | some row =>
      have same := key_of_under _ hnew
      obtain ⟨i, hi, rfl⟩ := List.mem_mapIdx.mp (List.mem_of_find?_eq_some hnew)
      exact .inserted (List.getElem_mem hi) same unmarked

theorem Effect.rowStep (keyed : t.Keyed) (h : Effect t e t')
    (tidy : ∀ n c now result, e = .committed n c now result → c.Tidy) :
    RowStep id e (t.row? id) (t'.row? id) := by
  cases h with
  | @committed n c now t' done =>
    obtain ⟨admits, rfl⟩ := commit_ok_iff.mp done
    exact rowStep_of_admits admits (receives_apply (tidy _ _ _ _ rfl) admits now)
  | @claimed filter now row token next =>
    have claimable := List.find?_some next
    have hrow := row?_of_mem keyed.commands (List.mem_of_find?_eq_some next)
    rw [row?_claim]
    split
    · rename_i same
      rw [same, hrow]
      exact .claimed rfl claimable
    · rename_i other
      exact .untouched (by simpa [Event.touches] using Ne.symm other)
  | @recorded other token error policy now disposition t' done =>
    obtain ⟨row, runsOut, hrow, held, rfl, rfl⟩ := recordFailure_ok_iff.mp done
    rw [row?_updateRow _ _ _ _ fun _ _ => by rw [id_failed, id_of_row? hrow]]
    split
    · rename_i same
      rw [same, hrow]
      exact .failed held
    · rename_i unlike
      exact .untouched (by simpa [Event.touches] using Ne.symm unlike)
  | @retried other command t' done =>
    obtain ⟨row, hrow, given, rfl, rfl⟩ := retryDeadLetter_ok_iff.mp done
    rw [row?_updateRow _ _ _ _ fun _ _ => by rw [id_revived, id_of_row? hrow]]
    split
    · rename_i same
      rw [same, hrow]
      exact .revived given
    · rename_i unlike
      exact .untouched (by simpa [Event.touches] using Ne.symm unlike)
  | _ => exact .untouched rfl

theorem Step.rowStep {s s' : Shared} (tidy : s.Tidy) (keyed : s.tables.Keyed) (h : Step s e s')
    (id : CommandId) : RowStep id e (s.tables.row? id) (s'.tables.row? id) :=
  h.effect.rowStep keyed fun n c now result same => by subst same; exact tidy n c h.isOpen

/-! ### Claimed, processed, given up -/

/-- Only what is neither processed nor given up is under a claim. -/
def CommandRow.Sound (row : CommandRow) : Prop :=
  row.claim.isSome = true →
    row.command.processed = false ∧ row.command.isDeadLettered = false

/-- Whatever happens to a row, it stays sound; and a new row is. -/
theorem RowStep.sound {r r' : Option CommandRow} (h : RowStep id e r r')
    (sound : ∀ row, r = some row → CommandRow.Sound row) :
    ∀ row, r' = some row → CommandRow.Sound row := by
  cases h with
  | untouched _ => exact sound
  -- Only here is a claim given, and the command had to be ready for it.
  | claimed _ claimable =>
    rintro _ ⟨⟩ -
    simp only [isClaimable, InternalCommand.isReady, Bool.and_eq_true,
      Bool.not_eq_true'] at claimable
    exact claimable.1.1.1.1
  | inserted _ _ | processed _ _ _ | failed _ | revived _ =>
    rintro _ ⟨⟩ claimed
    cases claimed

/-- The command is processed, was not given up, and nobody has a claim on it. -/
structure CommandRow.Finished (row : CommandRow) : Prop where
  processed : row.command.processed = true
  kept : row.command.isDeadLettered = false
  unclaimed : row.claim = none

/-- A sound row that is marked is finished: the mark needs the claim. -/
theorem CommandRow.Sound.finished {row : CommandRow} (sound : CommandRow.Sound row)
    (held : row.claim.isSome = true) (now : Timestamp) :
    CommandRow.Finished (processedRow now row) :=
  ⟨rfl, (sound held).2, rfl⟩

/-- Nothing happens to a finished row. -/
theorem RowStep.finished {row : CommandRow} {r' : Option CommandRow}
    (done : CommandRow.Finished row) (h : RowStep id e (some row) r') :
    r' = some row ∧ e.touches id = false := by
  -- Every way of touching a row asks for something that a finished one lacks.
  cases h with
  | untouched other => exact ⟨rfl, other⟩
  | processed _ pending _ => exact absurd (done.processed.symm.trans pending) nofun
  | claimed _ claimable =>
    simp [isClaimable, InternalCommand.isReady, done.processed] at claimable
  | failed held => exact absurd (done.unclaimed.symm.trans held) nofun
  | revived given => exact absurd (done.kept.symm.trans given) nofun

/-- A successful commit that marks the command leaves a finished row. -/
theorem RowStep.finished_of_processes {r r' : Option CommandRow} (h : RowStep id e r r')
    (sound : ∀ row, r = some row → CommandRow.Sound row) (marked : e.processes id = true) :
    ∃ row, r' = some row ∧ CommandRow.Finished row := by
  cases h with
  | untouched other =>
    rw [Event.touches_of_processes marked] at other
    cases other
  | inserted _ _ unmarked => exact absurd (of_decide_eq_true marked) unmarked
  | processed mark pending held =>
    exact ⟨_, rfl, (sound _ rfl).finished (by rw [held]; rfl) _⟩
  | _ => cases marked

/-! ### Whole histories -/

/-- A state that some history leads to. -/
def Reached (s : Shared) : Prop :=
  ∃ log, Run .empty log s

theorem Reached.step {s s' : Shared} (reached : Reached s) (h : Step s e s') : Reached s' := by
  obtain ⟨log, history⟩ := reached
  exact ⟨log ++ [e], run_append.mpr ⟨s, history, .cons h (.nil s')⟩⟩

theorem Reached.rowStep {s s' : Shared} (reached : Reached s) (h : Step s e s') (id : CommandId) :
    RowStep id e (s.tables.row? id) (s'.tables.row? id) := by
  obtain ⟨log, history⟩ := reached
  exact h.rowStep history.tidy history.keyed id

theorem Reached.sound {s : Shared} (reached : Reached s) {row : CommandRow}
    (h : s.tables.row? id = some row) : CommandRow.Sound row := by
  obtain ⟨log, history⟩ := reached
  -- How a state was reached is carried along: what a step does to rows is known of reached states.
  have all : Reached s ∧ ∀ id row, s.tables.row? id = some row → CommandRow.Sound row :=
    history.invariant
      (P := fun s => Reached s ∧ ∀ id row, s.tables.row? id = some row → CommandRow.Sound row)
      (fun _ _ _ ⟨reached, sound⟩ step =>
        ⟨reached.step step, fun id => (reached.rowStep step id).sound (sound id)⟩)
      ⟨⟨[], .nil _⟩, fun _ _ missing => nomatch missing⟩
  exact all.2 id row h

/-- Once its row is finished, no call touches the command, in however long a history. -/
theorem Run.finished {s s' : Shared} {log : List Event} (h : Run s log s') (reached : Reached s)
    {row : CommandRow} (found : s.tables.row? id = some row) (done : CommandRow.Finished row) :
    s'.tables.row? id = some row ∧ ∀ e ∈ log, e.touches id = false := by
  induction h with
  | nil => exact ⟨found, by simp⟩
  | cons step _ ih =>
    have next := reached.rowStep step id
    rw [found] at next
    obtain ⟨same, untouched⟩ := next.finished done
    obtain ⟨kept, rest⟩ := ih (reached.step step) same
    exact ⟨kept, List.forall_mem_cons.mpr ⟨untouched, rest⟩⟩

/-- In no history do two commits that mark the command succeed. -/
theorem Run.countP_processes {s s' : Shared} {log : List Event} (h : Run s log s')
    (reached : Reached s) : log.countP (·.processes id) ≤ 1 := by
  -- By induction from the front: behind the first such commit the row is finished.
  induction h with
  | nil => exact Nat.zero_le 1
  | @cons s m s' e log step rest ih =>
    rw [List.countP_cons]
    by_cases marked : e.processes id = true
    · obtain ⟨row, found, done⟩ := (reached.rowStep step id).finished_of_processes
        (fun _ => reached.sound) marked
      have untouched := (rest.finished (reached.step step) found done).2
      have none : log.countP (·.processes id) = 0 := by
        rw [List.countP_eq_zero]
        intro e he again
        exact absurd (Event.touches_of_processes again) (by simp [untouched e he])
      simp [none, marked]
    · rw [if_neg marked]
      exact ih (reached.step step)

/-- A commit that fails leaves the tables as they were. -/
theorem Effect.unchanged_of_marks (h : Effect t e t') (marks : e.marks id = true) :
    e.processes id = true ∨ t' = t := by
  cases h with
  | committed _ => exact .inl marks
  | refused _ => exact .inr rfl
  | _ => cases marks

/-- Whatever any number of clients do, and whatever clocks and tokens show: at most one of the
    commits that mark a command succeeds. From then on the row of the command is the same for good,
    and it is not handed out again; and every other commit of a unit that marks the command, at
    whatever time, leaves the tables as they were. -/
theorem processed_at_most_once {s : Shared} {log : List Event} (history : Run .empty log s)
    (id : CommandId) :
    log.countP (·.processes id) ≤ 1 ∧
    (∀ before mark after m, log = before ++ mark :: after → mark.processes id = true →
      Run .empty (before ++ [mark]) m → Run m after s →
      ∃ row, row.command.processed = true ∧ m.tables.row? id = some row ∧
        (∀ later rest m', after = later ++ rest → Run m later m' → m'.tables.row? id = some row) ∧
        ∀ e ∈ after, e.handsOut id = false ∧ e.processes id = false) ∧
    ∀ m attempt m', Step m attempt m' → attempt.marks id = true →
      attempt.processes id = true ∨ m'.tables = m.tables := by
  refine ⟨history.countP_processes ⟨[], .nil _⟩, ?_, ?_⟩
  · rintro before mark after m rfl marked run rest
    obtain ⟨m₀, first, last⟩ := run_append.mp run
    obtain _ | ⟨step, _ | _⟩ := last
    have reached : Reached m₀ := ⟨before, first⟩
    obtain ⟨row, found, done⟩ := (reached.rowStep step id).finished_of_processes
      (fun _ => reached.sound) marked
    refine ⟨row, done.processed, found, ?_, ?_⟩
    · rintro later - m' rfl run'
      exact (run'.finished ⟨_, run⟩ found done).1
    · intro e he
      have untouched := (rest.finished ⟨_, run⟩ found done).2 e he
      refine ⟨Bool.eq_false_iff.mpr fun again => ?_, Bool.eq_false_iff.mpr fun again => ?_⟩
      · rw [Event.touches_of_handsOut again] at untouched
        cases untouched
      · rw [Event.touches_of_processes again] at untouched
        cases untouched
  · intro m attempt m' step marks
    exact step.effect.unchanged_of_marks marks

/-- A command that is enqueued, handed out, marked and committed. -/
def oneLife : List Event :=
  let command := InternalCommand.fresh ⟨.zero⟩ "Ping" .null .epoch
  [.began 0, .asked 0 (.stageCommand command) (.ok ()),
    .committed 0 ⟨[command], [], [], []⟩ .epoch (.ok ()),
    .claimed ⟨[], none, .zero⟩ .epoch (.ok (some ⟨{ command with sequence := some 1 }, ⟨.zero⟩⟩)),
    .began 0, .asked 0 (.markProcessed ⟨.zero⟩ ⟨.zero⟩) (.ok ()),
    .committed 0 ⟨[], [(⟨.zero⟩, ⟨.zero⟩)], [], []⟩ .epoch (.ok ())]

theorem run_oneLife : ∃ s, Run .empty oneLife s := by
  let row : CommandRow :=
    ⟨{ InternalCommand.fresh ⟨.zero⟩ "Ping" .null .epoch with sequence := some 1 }, none⟩
  refine exists_run_cons (step_begin rfl) ?_
  refine exists_run_cons (step_ask (c := .empty) rfl _) ?_
  refine exists_run_cons (.commit rfl (yields_commit.mpr (.inl ⟨rfl, rfl⟩))) ?_
  refine exists_run_cons (.claim (yields_claimNext.mpr (.inr ⟨row, _, rfl, rfl, rfl⟩))) ?_
  refine exists_run_cons (step_begin rfl) ?_
  refine exists_run_cons (step_ask (c := .empty) rfl _) ?_
  refine exists_run_cons (.commit rfl (yields_commit.mpr (.inl ⟨rfl, rfl⟩))) ?_
  exact ⟨_, .nil _⟩

theorem processed_at_most_once_oneLife :
    ∃ s, Run .empty oneLife s ∧ oneLife.countP (·.processes ⟨.zero⟩) ≤ 1 ∧
      ∃ row, row.command.processed = true ∧ s.tables.row? ⟨.zero⟩ = some row := by
  obtain ⟨s, history⟩ := run_oneLife
  obtain ⟨once, after, -⟩ := processed_at_most_once history ⟨.zero⟩
  obtain ⟨row, done, found, -⟩ := after (oneLife.take 6) _ [] s rfl rfl history (.nil s)
  exact ⟨s, history, once, row, done, found⟩

end Memory

end SupplierSwitch
