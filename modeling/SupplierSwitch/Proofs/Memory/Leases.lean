import SupplierSwitch.Proofs.Memory.Evolution

namespace SupplierSwitch

/-!
# Leases

A claim lets one processor work on a command until its lease runs out. Two things make that safe.
Until the lease has run out nobody else is given the command, unless the holder gives it back first;
and a holder that is too late, because the command went on without it, can change nothing any more.

* `Event.settles`, `Event.releases` — how a claim ends;
* `CommandRow.Leased` — the claim stands, and `Run.leased` what keeps it standing;
* `CommandRow.Fenced` — the claim is lost, and `Run.fenced` that it is lost for good;
* `claims_exclusive` — both together, for whole histories.
-/

namespace CommandRow

variable {row : CommandRow} {token : ClaimToken}

/-- The row is under a claim with the token, until the given instant. -/
def Leased (token : ClaimToken) (runsOut : Timestamp) (row : CommandRow) : Prop :=
  row.claim = some (token, runsOut)

/-- The row is not under a claim with the token. -/
def Fenced (token : ClaimToken) (row : CommandRow) : Prop :=
  row.isHeldBy token = false

/-- A row that is under no claim is fenced against every token. -/
theorem fenced_of_unclaimed (h : row.claim = none) : row.Fenced token := by
  rw [Fenced, isHeldBy, h]
  rfl

/-- A row that is under a claim is fenced against every other token. -/
theorem Leased.fenced {other : ClaimToken} {runsOut : Timestamp} (h : row.Leased other runsOut)
    (unlike : other ≠ token) : row.Fenced token := by
  rw [Fenced, isHeldBy, h, Option.any_some]
  exact decide_eq_false unlike

end CommandRow

namespace Memory

open Tables

variable {id : CommandId} {token : ClaimToken} {e : Event}

/-! ### How a claim ends -/

/-- The token that the call hands out. -/
def Event.token? : Event → Option ClaimToken
  | .claimed _ _ (.ok (some handed)) => some handed.claim
  | _ => none

/-- The tokens that were handed out in a history, in order. -/
def tokens (log : List Event) : List ClaimToken :=
  log.filterMap Event.token?

/-- The holder of the token is done with the command: it has committed its mark, or recorded a
    failure. -/
def Event.settles (id : CommandId) (token : ClaimToken) : Event → Bool
  | .committed _ c _ (.ok _) => decide ((id, token) ∈ c.processed)
  | .recorded other held _ _ _ (.ok _) => decide (other = id) && decide (held = token)
  | _ => false

/-- The command is back in the queue or given up: a failure was recorded, or it was revived. -/
def Event.releases (id : CommandId) : Event → Bool
  | .recorded other _ _ _ _ (.ok _) => decide (other = id)
  | .retried other (.ok _) => decide (other = id)
  | _ => false

theorem Event.touches_of_releases (h : e.releases id = true) : e.touches id = true := by
  cases e with
  | recorded other held error policy now result => cases result <;> exact h
  | retried other result => cases result <;> exact h
  | _ => cases h

theorem tokens_append (before after : List Event) :
    tokens (before ++ after) = tokens before ++ tokens after :=
  List.filterMap_append

theorem tokens_cons (e : Event) (log : List Event) :
    tokens (e :: log) = e.token?.toList ++ tokens log := by
  rw [tokens, List.filterMap_cons, tokens]
  cases e.token? with
  | none => rfl
  | some token => rfl

/-! ### While the lease runs -/

/-- A claim stands unless its holder settles it, or the command is handed out again. -/
theorem RowStep.leased {row : CommandRow} {r' : Option CommandRow} {runsOut : Timestamp}
    (h : RowStep id e (some row) r') (sound : CommandRow.Sound row)
    (held : row.Leased token runsOut) (unsettled : e.settles id token = false)
    (kept : e.handsOut id = false) : ∃ row', r' = some row' ∧ row'.Leased token runsOut := by
  cases h with
  | untouched other => exact ⟨row, rfl, held⟩
  -- A mark and a failure need the token of the claim, and so they settle it.
  | processed mark pending held' =>
    rw [CommandRow.Leased, held'] at held
    cases held
    simp [Event.settles, mark] at unsettled
  | failed held' =>
    rw [CommandRow.Leased, held'] at held
    cases held
    simp [Event.settles] at unsettled
  | claimed same claimable => simp [Event.handsOut, same] at kept
  -- What is given up is not under a claim, so that reviving it takes none away.
  | revived given =>
    have claimed : row.claim.isSome = true := by
      rw [held]
      rfl
    rw [(sound claimed).2] at given
    cases given

theorem Run.leased {s s' : Shared} {log : List Event} (h : Run s log s') (reached : Reached s)
    {row : CommandRow} {runsOut : Timestamp} (found : s.tables.row? id = some row)
    (held : row.Leased token runsOut)
    (quiet : ∀ e ∈ log, e.handsOut id = false ∧ e.settles id token = false) :
    ∃ row', s'.tables.row? id = some row' ∧ row'.Leased token runsOut := by
  induction h generalizing row with
  | nil => exact ⟨row, found, held⟩
  | cons step _ ih =>
    obtain ⟨⟨kept, unsettled⟩, quiet⟩ := List.forall_mem_cons.mp quiet
    have next := reached.rowStep step id
    rw [found] at next
    obtain ⟨row', found', held'⟩ := next.leased (reached.sound found) held unsettled kept
    exact ih (reached.step step) found' held' quiet

/-- What is handed out is under the claim of the one who has it. -/
theorem RowStep.leased_of_claimed {r r' : Option CommandRow} {filter : ClaimFilter}
    {now : Timestamp} {command : InternalCommand}
    (h : RowStep command.id (.claimed filter now (.ok (some ⟨command, token⟩))) r r') :
    ∃ row, r' = some row ∧ row.Leased token (now.offsetBy filter.lease) := by
  cases h with
  | untouched other => simp [Event.touches] at other
  | claimed same claimable => exact ⟨_, rfl, rfl⟩

/-- Whoever is given a command that is under a claim comes when the claim has run out. -/
theorem RowStep.le_of_claimed {row : CommandRow} {r' : Option CommandRow}
    {filter : ClaimFilter} {now runsOut : Timestamp} {command : InternalCommand}
    {token' : ClaimToken}
    (h : RowStep id (.claimed filter now (.ok (some ⟨command, token'⟩))) (some row) r')
    (same : command.id = id) (held : row.Leased token runsOut) : runsOut ≤ now := by
  cases h with
  | untouched other => simp [Event.touches, same] at other
  | claimed _ claimable =>
    simp only [isClaimable, CommandRow.isClaimed, Bool.and_eq_true, Bool.not_eq_true'] at claimable
    have free := claimable.1.1.2
    rw [held, Option.any_some, decide_eq_false_iff_not] at free
    exact Int.not_lt.mp free

/-! ### After the lease -/

/-- A call that writes to a row leaves it under a new claim or under none. -/
theorem RowStep.fenced_of_touches {row : CommandRow} {r' : Option CommandRow}
    (h : RowStep id e (some row) r') (touched : e.touches id = true)
    (unlike : e.token? ≠ some token) : ∃ row', r' = some row' ∧ row'.Fenced token := by
  cases h with
  | untouched other =>
    rw [touched] at other
    cases other
  | processed mark pending held => exact ⟨_, rfl, CommandRow.fenced_of_unclaimed rfl⟩
  | claimed same claimable =>
    refine ⟨_, rfl, CommandRow.Leased.fenced rfl ?_⟩
    intro equal
    exact unlike (congrArg some equal)
  | failed held => exact ⟨_, rfl, CommandRow.fenced_of_unclaimed rfl⟩
  | revived given => exact ⟨_, rfl, CommandRow.fenced_of_unclaimed rfl⟩

/-- A claim that is lost stays lost, as no token is handed out twice. -/
theorem RowStep.fenced {row : CommandRow} {r' : Option CommandRow}
    (h : RowStep id e (some row) r') (fenced : row.Fenced token)
    (unlike : e.token? ≠ some token) : ∃ row', r' = some row' ∧ row'.Fenced token := by
  by_cases touched : e.touches id = true
  · exact h.fenced_of_touches touched unlike
  · cases h with
    | untouched other => exact ⟨row, rfl, fenced⟩
    | processed mark pending held =>
      exact absurd (Event.touches_of_processes (by
        simpa [Event.processes] using ⟨_, mark⟩)) touched
    | claimed same claimable => simp [Event.touches, same] at touched
    | failed held => simp [Event.touches] at touched
    | revived given => simp [Event.touches] at touched

theorem Run.fenced {s s' : Shared} {log : List Event} (h : Run s log s') (reached : Reached s)
    {row : CommandRow} (found : s.tables.row? id = some row) (fenced : row.Fenced token)
    (unlike : ∀ e ∈ log, e.token? ≠ some token) :
    ∃ row', s'.tables.row? id = some row' ∧ row'.Fenced token := by
  induction h generalizing row with
  | nil => exact ⟨row, found, fenced⟩
  | cons step _ ih =>
    obtain ⟨other, unlike⟩ := List.forall_mem_cons.mp unlike
    have next := reached.rowStep step id
    rw [found] at next
    obtain ⟨row', found', fenced'⟩ := next.fenced fenced other
    exact ih (reached.step step) found' fenced' unlike

/-- Once a history has written to a row, every token from before is fenced. -/
theorem Run.fenced_of_touches {s s' : Shared} {log : List Event} (h : Run s log s')
    (reached : Reached s) {row : CommandRow} (found : s.tables.row? id = some row)
    (touched : ∃ e ∈ log, e.touches id = true) (unlike : ∀ e ∈ log, e.token? ≠ some token) :
    ∃ row', s'.tables.row? id = some row' ∧ row'.Fenced token := by
  -- By induction from the front, up to the first call that writes to the row.
  induction h generalizing row with
  | nil =>
    obtain ⟨e, mem, -⟩ := touched
    cases mem
  | @cons s m s' e log step rest ih =>
    obtain ⟨other, unlike⟩ := List.forall_mem_cons.mp unlike
    have next := reached.rowStep step id
    rw [found] at next
    by_cases first : e.touches id = true
    · obtain ⟨row', found', fenced⟩ := next.fenced_of_touches first other
      exact rest.fenced (reached.step step) found' fenced unlike
    · obtain ⟨row', found', -⟩ := next.continues
      obtain ⟨e', mem, later⟩ := touched
      obtain rfl | mem := List.mem_cons.mp mem
      · exact absurd later first
      · exact ih (reached.step step) found' ⟨e', mem, later⟩ unlike

/-- A failure is not recorded under a token that is fenced, … -/
theorem Effect.unrecorded_of_fenced {t t' : Tables} {row : CommandRow} {error : String}
    {policy : RetryPolicy} {now : Timestamp} {result : Except StoreError FailureDisposition}
    (h : Effect t (.recorded id token error policy now result) t')
    (found : t.row? id = some row) (fenced : row.Fenced token) :
    result = .error (.claimLost id) ∧ t' = t := by
  have refused : t.recordFailure id token error policy now = .error (.claimLost id) := by
    rw [Tables.recordFailure, found]
    exact if_neg (Bool.eq_false_iff.mp fenced)
  cases h with
  | recorded done =>
    rw [refused] at done
    cases done
  | unrecorded failed =>
    rw [refused] at failed
    cases failed
    exact ⟨rfl, rfl⟩

/-- … and a mark under such a token is not committed. -/
theorem Effect.refused_of_fenced {t t' : Tables} {row : CommandRow} {n : Nat} {c : ChangeSet}
    {now : Timestamp} {result : Except StoreError Unit}
    (h : Effect t (.committed n c now result) t') (found : t.row? id = some row)
    (fenced : row.Fenced token) (mark : (id, token) ∈ c.processed) :
    (∃ e, result = .error e) ∧ t' = t := by
  cases h with
  | committed done =>
    obtain ⟨admits, -⟩ := commit_ok_iff.mp done
    obtain ⟨row', runsOut, found', -, held⟩ := admits.marks _ mark
    cases found.symm.trans found'
    rw [CommandRow.Fenced, isHeldBy_iff.mpr ⟨runsOut, held⟩] at fenced
    cases fenced
  | refused failed => exact ⟨⟨_, rfl⟩, rfl⟩

/-! ### Whole histories -/

theorem tokens_notMem_after {before after : List Event} (h : (tokens (before ++ e :: after)).Nodup)
    (handed : e.token? = some token) : ∀ e ∈ after, e.token? ≠ some token := by
  intro e' mem same
  rw [tokens_append, tokens_cons, handed] at h
  have only := (List.nodup_append.mp h).2.1
  rw [Option.toList_some, List.singleton_append, List.nodup_cons] at only
  exact only.1 (List.mem_filterMap.mpr ⟨e', mem, same⟩)

/-- Whatever any number of clients do, and whatever their clocks show, as long as no token is handed
    out twice: once a command was handed out, it is handed out again no earlier than when the lease
    has run out, unless the holder has settled its claim. And once the command was handed out again,
    was released or was processed, the holder is too late for good: its failures are refused as
    those of a lost claim, every commit that marks the command with its token fails, and neither
    leaves a trace. -/
theorem claims_exclusive {s : Shared} {before after : List Event} {filter : ClaimFilter}
    {now : Timestamp} {command : InternalCommand} {token : ClaimToken}
    (history : Run .empty
      (before ++ .claimed filter now (.ok (some ⟨command, token⟩)) :: after) s)
    (distinct :
      (tokens (before ++ .claimed filter now (.ok (some ⟨command, token⟩)) :: after)).Nodup) :
    ((∀ e ∈ after, e.handsOut command.id = false ∧ e.settles command.id token = false) →
      ∀ filter' now' again token' s',
        Step s (.claimed filter' now' (.ok (some ⟨again, token'⟩))) s' → again.id = command.id →
          now.offsetBy filter.lease ≤ now') ∧
    ((∃ e ∈ after, e.handsOut command.id = true ∨ e.releases command.id = true ∨
        e.processes command.id = true) →
      (∀ error policy now' result s',
        Step s (.recorded command.id token error policy now' result) s' →
          result = .error (.claimLost command.id) ∧ s'.tables = s.tables) ∧
      ∀ n c now' result s', Step s (.committed n c now' result) s' →
        (command.id, token) ∈ c.processed → (∃ e, result = .error e) ∧ s'.tables = s.tables) := by
  obtain ⟨m, first, rest⟩ := run_append.mp history
  obtain _ | ⟨claim, rest⟩ := rest
  have reached : Reached m := ⟨before, first⟩
  -- What the claim leaves behind is where both parts begin.
  obtain ⟨row, found, held⟩ := (reached.rowStep claim command.id).leased_of_claimed
  have reached' := reached.step claim
  constructor
  · intro quiet filter' now' again token' s' step same
    obtain ⟨row', found', held'⟩ := rest.leased reached' found held quiet
    have next := Reached.rowStep ⟨_, history⟩ step command.id
    rw [found'] at next
    exact next.le_of_claimed same held'
  · rintro ⟨e, mem, gone⟩
    have touched : e.touches command.id = true := by
      obtain handed | released | processed := gone
      · exact Event.touches_of_handsOut handed
      · exact Event.touches_of_releases released
      · exact Event.touches_of_processes processed
    obtain ⟨row', found', fenced⟩ := rest.fenced_of_touches reached' found ⟨e, mem, touched⟩
      (tokens_notMem_after distinct rfl)
    refine ⟨fun error policy now' result s' step => ?_, fun n c now' result s' step mark => ?_⟩
    · exact step.effect.unrecorded_of_fenced found' fenced
    · exact step.effect.refused_of_fenced found' fenced mark

/-- A command is enqueued and handed out for a second. -/
def firstClaim : List Event :=
  let command := InternalCommand.fresh ⟨.zero⟩ "Ping" .null .epoch
  [.began 0, .asked 0 (.stageCommand command) (.ok ()),
    .committed 0 ⟨[command], [], [], []⟩ .epoch (.ok ()),
    .claimed ⟨[], none, .ofSeconds 1⟩ .epoch
      (.ok (some ⟨{ command with sequence := some 1 }, ⟨.zero⟩⟩))]

/-- When the second is over, the command is handed out again. -/
def secondClaim : Event :=
  let command := InternalCommand.fresh ⟨.zero⟩ "Ping" .null .epoch
  .claimed ⟨[], none, .ofSeconds 1⟩ (Timestamp.epoch.offsetBy (.ofSeconds 1))
    (.ok (some ⟨{ command with sequence := some 1 }, ⟨⟨1⟩⟩⟩))

/-- Only then is a failure of the first attempt recorded. -/
def lateFailure : Event :=
  .recorded ⟨.zero⟩ ⟨.zero⟩ "late" .noRetry .epoch (.error (.claimLost ⟨.zero⟩))

/-- A failure that is refused may always be attempted. -/
theorem step_record {s : Shared} {error : String} {policy : RetryPolicy} {now : Timestamp}
    {refusal : StoreError}
    (failed : s.tables.recordFailure id token error policy now = .error refusal) :
    Step s (.recorded id token error policy now (.error refusal)) s :=
  @Step.record s id token error policy now .epoch _ _
    (yields_change.mpr (.inr ⟨refusal, failed, rfl, rfl⟩))

theorem run_lateFailure : ∃ s, Run .empty (firstClaim ++ [secondClaim, lateFailure]) s := by
  let row : CommandRow :=
    ⟨{ InternalCommand.fresh ⟨.zero⟩ "Ping" .null .epoch with sequence := some 1 }, none⟩
  let claimed : CommandRow :=
    { row with claim := some (⟨.zero⟩, Timestamp.epoch.offsetBy (.ofSeconds 1)) }
  refine exists_run_cons (step_begin rfl) ?_
  refine exists_run_cons (step_ask (c := .empty) rfl _) ?_
  refine exists_run_cons (.commit rfl (yields_commit.mpr (.inl ⟨rfl, rfl⟩))) ?_
  refine exists_run_cons (.claim (yields_claimNext.mpr (.inr ⟨row, _, rfl, rfl, rfl⟩))) ?_
  refine exists_run_cons (.claim (yields_claimNext.mpr (.inr ⟨claimed, _, rfl, rfl, rfl⟩))) ?_
  refine exists_run_cons (step_record rfl) ?_
  exact ⟨_, .nil _⟩

theorem claims_exclusive_lateFailure :
    ∃ s s' s'', Run .empty firstClaim s ∧ Step s secondClaim s' ∧ Step s' lateFailure s'' ∧
      Timestamp.epoch.offsetBy (.ofSeconds 1) ≤ Timestamp.epoch.offsetBy (.ofSeconds 1) ∧
      s''.tables = s'.tables ∧
      ∀ n c now result t, Step s' (.committed n c now result) t →
        (⟨.zero⟩, ⟨.zero⟩) ∈ c.processed → (∃ e, result = .error e) ∧ t.tables = s'.tables := by
  obtain ⟨s'', history⟩ := run_lateFailure
  obtain ⟨s, first, rest⟩ := run_append.mp history
  obtain _ | ⟨second, rest⟩ := rest
  obtain _ | ⟨late, _ | _⟩ := rest
  rename_i s'
  have again : Run .empty (firstClaim ++ [secondClaim]) s' :=
    run_append.mpr ⟨s, first, .cons second (.nil s')⟩
  have one : (tokens firstClaim).Nodup := by decide
  have two : (tokens (firstClaim ++ [secondClaim])).Nodup := by decide
  obtain ⟨expired, -⟩ := @claims_exclusive s (firstClaim.take 3) [] _ _ _ _ first one
  obtain ⟨-, lost⟩ := @claims_exclusive s' (firstClaim.take 3) [secondClaim] _ _ _ _ again two
  obtain ⟨unrecorded, refused⟩ := lost ⟨secondClaim, List.mem_singleton_self _, .inl rfl⟩
  refine ⟨s, s', s'', first, second, late, ?_, ?_, refused⟩
  · exact expired (fun _ mem => absurd mem List.not_mem_nil) _ _ _ _ _ second rfl
  · exact (unrecorded _ _ _ _ _ late).2

end Memory

end SupplierSwitch
