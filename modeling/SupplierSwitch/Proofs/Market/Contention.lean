import SupplierSwitch.Proofs.Market.Decisions

namespace SupplierSwitch

/-!
# What keeps a handler from its work

The books of the market know of no request without its transaction. So a handler of a stored command
has nothing to fear but that others have changed an aggregate in between, and neither has the commit
of what it has staged.

* `Market.surroundings` — what a handler has around it;
* `Market.manages_handle` — every handler manages, whatever its command means;
* `Market.dispatch_endsIn` — what dispatching a stored command ends with;
* `Ready` — a unit that is to be committed, and what its commit comes to.
-/

open Memory

/-- What a handler has around it: the market's books are in order, and no identifier is in use that
    is still to be issued to it. -/
def Market.surroundings (ids : IdSupply) (count first : Nat) (alone : Prop) : Surroundings where
  inv t := Books t ∧ ids.Unspent count first t.Mentions
  alone := alone
  ids := ids
  most := first + 3

variable {ids : IdSupply} {count first d : Nat} {alone : Prop} {t : Tables} {c : ChangeSet}

/-! ### Handlers -/

namespace Market

open Work

variable {market : Market} {config : MarketConfig} {process : ProcessKind} {r : SupplyRequest}
  {now : Timestamp}

/-- A handler has as many identifiers left as it needs, and they are in use nowhere. -/
theorem supplies_surroundings (enough : first + 3 ≤ count) (distinct : ids.Distinct count) :
    Supplies (surroundings ids count first alone) count first t :=
  ⟨enough, Nat.le_refl _, distinct, fun _ later => later.inv.2⟩

theorem manages_handleResult (distinct : ids.Distinct count) {result : AggregationResult} :
    (handleResult result now).Manages (surroundings ids count first alone)
      (fun _ c _ d => Spends ids count first c d) .empty t first := by
  refine manages_bind (manages_freshId ?_)
  refine manages_bind (manages_ofDomain (Transaction.attach_of_new fun _ mem => by cases mem) ?_)
  refine manages_bind (manages_lift (endsIn_addTransaction (fun t' _ => ?_) fun t' detail _ => ?_))
  · refine manages_bind (manages_report (manages_pure ⟨?_, fun command mem => ?_, ?_⟩))
    · show first + 1 ≤ first + 3
      omega
    · cases mem
    · rintro k hk less (mem | ⟨staged, mem, message, said, same⟩)
      · cases mem
      · obtain rfl := List.mem_singleton.mp mem
        obtain rfl := List.mem_singleton.mp said
        exact distinct first k hk less same
  · refine manages_bind (manages_report (manages_pure ⟨?_, fun command mem => ?_, ?_⟩))
    · show first + 1 ≤ first + 3
      omega
    · cases mem
    · rintro k - - (mem | ⟨staged, mem, -⟩) <;> cases mem

variable {claimed : ClaimedCommand}

theorem manages_handle (enough : first + 3 ≤ count) (distinct : ids.Distinct count)
    (books : Books t) (holds : Holds t claimed) {m : MarketCommand}
    (means : claimed.command.market? = some m) :
    ((ofConfig config).handle m now).Manages (surroundings ids count first alone)
      (fun _ c _ d => Spends ids count first c d) .empty t first := by
  cases m with
  | request process r =>
    -- The books know of no request without its transaction.
    obtain ⟨row, found, kind, payload⟩ := holds
    have meaning := (InternalCommand.market?_congr kind payload).trans means
    have stored :=
      books.answered.opened row (Tables.mem_commands_of_row? found) process r meaning
    exact (manages_handleRequest (supplies_surroundings enough distinct) stored).imp
      fun _ _ _ _ => And.left
  | effectuate process e =>
    exact (manages_handleEffectuation config (Nat.le_refl _)).imp fun _ _ _ _ => And.left
  | forwardResult result => exact manages_handleResult distinct

/-- What a claimed command is dispatched to: an outcome with a unit to be marked and committed, or a
    conflict that others have brought about. -/
def Dispatched (ids : IdSupply) (count first : Nat) (alone : Prop) (claimed : ClaimedCommand) :
    Except DispatchError CommandOutcome → ChangeSet → Tables → Nat → Prop
  | .ok outcome, c, t, d => Spends ids count first c d ∧ Judged claimed outcome c t
  | .error e, _, _, d =>
    ¬ alone ∧ d ≤ first + 3 ∧ ∃ detail, e = .handler (.repository (.conflict detail))

theorem dispatch_endsIn (enough : first + 3 ≤ count) (distinct : ids.Distinct count)
    (books : Books t) (holds : Holds t claimed) (config : MarketConfig) (now : Timestamp) :
    ((ofConfig config).router.dispatch claimed.command now).EndsIn
      (surroundings ids count first alone) (Dispatched ids count first alone claimed) .empty t
      first := by
  obtain ⟨row, found, kind, payload⟩ := holds
  obtain ⟨m, meaning⟩ := books.meaningful row (Tables.mem_commands_of_row? found)
  have means : claimed.command.market? = some m :=
    (InternalCommand.market?_congr kind payload).symm.trans meaning
  have holds : Holds t claimed := ⟨row, found, kind, payload⟩
  rw [(ofConfig config).dispatch_of_market? means now]
  have manages := Work.manages_iff.mp
    (@manages_handle _ _ _ alone _ config now _ enough distinct books holds _ means)
  have leads := Work.leads_iff.mp
    (@leads_handle _ _ (ofConfig config) now False _ holds means)
  refine Handling.endsIn_bind ((manages.and_leads (fun _ => And.left) leads).imp ?_)
  rintro (e | outcome) c t d ⟨managed, judged⟩
  · obtain ⟨disturbed, few, detail, rfl⟩ := managed
    exact ⟨disturbed, few, detail, rfl⟩
  · exact ⟨managed, judged outcome rfl⟩

end Market

/-! ### Commits -/

/-- Errors of a commit that concern the claimed command, or what its unit has written, and that
    others have brought about. -/
inductive Contends (command : CommandId) : StoreError → Prop where
  | claimLost : Contends command (.claimLost command)
  | version (detail : String) : Contends command (.conflict detail)
  | opened (id : TransactionId) : Contends command (.alreadyExists ("transaction " ++ id.text))

variable {claimed : ClaimedCommand} {outcome : CommandOutcome} {t' : Tables} {now : Timestamp}

/-- A unit that has handled the claimed command and marked it. -/
structure Ready (ids : IdSupply) (count first : Nat) (alone : Prop) (claimed : ClaimedCommand)
    (outcome : CommandOutcome) (d : Nat) (c : ChangeSet) (t : Tables) : Prop where
  holds : Holds t claimed
  held : alone → t.Held (claimed.command.id, claimed.claim)
  spends : Spends ids count first c d
  tidy : c.Tidy
  marks : c.processed = [(claimed.command.id, claimed.claim)]
  judged : TooLate t claimed ∨ Verdict t claimed outcome c
  fits : alone → t.Fits c

namespace Ready

/-- What is judged is ready once it is marked. -/
theorem of_judged (holds : Holds t claimed)
    (held : alone → t.Held (claimed.command.id, claimed.claim))
    (spends : Spends ids count first c d) (judged : Judged claimed outcome c t) (tidy : c.Tidy)
    (fits : alone → t.Fits c) :
    Ready ids count first alone claimed outcome d
      (c.markProcessed claimed.command.id claimed.claim) t := by
  obtain ⟨unmarked, judged⟩ := judged
  have tidy' := ChangeSet.tidy_markProcessed tidy claimed.command.id claimed.claim
  rw [ChangeSet.markProcessed_of_unmarked unmarked] at tidy' ⊢
  refine ⟨holds, held, ⟨spends.few, spends.commands, spends.unspent⟩, tidy', rfl, judged, ?_⟩
  exact fun alone => ⟨(fits alone).transactions, (fits alone).points⟩

theorem later (h : Ready ids count first alone claimed outcome d c t)
    (later : (Market.surroundings ids count first alone).Later t t') :
    Ready ids count first alone claimed outcome d c t' := by
  refine ⟨h.holds.later later.evolves, fun alone => ?_, h.spends, h.tidy, h.marks, ?_,
    fun alone => ?_⟩
  · rw [later.quiet alone]
    exact h.held alone
  · obtain late | verdict := h.judged
    · exact .inl (late.later later.evolves)
    · exact .inr (verdict.later later.evolves)
  · rw [later.quiet alone]
    exact h.fits alone

/-- No identifier that the unit stages is in use. -/
theorem new (h : Ready ids count first alone claimed outcome d c t)
    (unspent : ids.Unspent count first t.Mentions) {command : InternalCommand}
    (mem : command ∈ c.commands) : t.row? command.id = none := by
  rw [Tables.row?_eq_none_iff]
  obtain ⟨k, le, less, drawn⟩ := h.spends.commands command mem
  exact fun stored => unspent k le less (drawn ▸ .inl stored)

/-- A transaction that the unit replaces is stored. -/
theorem stored (h : Ready ids count first alone claimed outcome d c t)
    (held : ∀ mark ∈ c.processed, t.Held mark) {staged : StagedTransaction}
    (mem : staged ∈ c.transactions) {expected : ExpectedVersion}
    (write : staged.write = .update expected) :
    ∃ current, t.transaction? staged.transaction.id = some current := by
  obtain ⟨row, found, processed⟩ | verdict := h.judged
  · -- A mark that came too late is not held.
    obtain ⟨row', -, found', pending, -⟩ := held _ (h.marks ▸ List.mem_singleton_self _)
    cases found.symm.trans found'
    cases processed.symm.trans pending
  · cases verdict with
    | confirmed _ _ _ _ _ seen | rejected _ seen =>
      obtain ⟨current, found, -⟩ := seen
      obtain rfl := List.mem_singleton.mp mem
      exact ⟨current, found⟩
    | forwarded =>
      obtain rfl := List.mem_singleton.mp mem
      cases write
    | effectuated | known => cases mem

/-- A commit keeps the books, and uses no identifier that is still to be issued. -/
theorem committed (h : Ready ids count first alone claimed outcome d c t) (books : Books t)
    (unspent : ids.Unspent count first t.Mentions) (le : first ≤ d)
    (done : t.commit c now = .ok t') :
    t.Evolves t' ∧ Books t' ∧ ids.Unspent count d t'.Mentions := by
  have step : Memory.Step ⟨t, fun _ => some c⟩ (.committed 0 c now (.ok ())) ⟨t', _⟩ :=
    .commit rfl (yields_commit.mpr (.inl ⟨done, rfl⟩))
  have tidy : Shared.Tidy ⟨t, fun _ => some c⟩ := by
    rintro n _ ⟨⟩
    exact h.tidy
  obtain ⟨admits, rfl⟩ := Tables.commit_ok_iff.mp done
  have receives := Tables.receives_apply h.tidy admits now
  refine ⟨step.evolves tidy books.keyed, ?_, fun k hk less used => ?_⟩
  · obtain late | verdict := h.judged
    · exact absurd admits (late.not_admits (by simp [h.marks]))
    · exact books.of_verdict h.holds verdict admits receives (step.keyed tidy books.keyed)
  · obtain before | staged := Tables.mentions_of_apply admits used
    · exact unspent k (Nat.le_trans le hk) less before
    · exact h.spends.unspent k hk less staged

/-- A commit is refused only because of others. -/
theorem refused (h : Ready ids count first alone claimed outcome d c t)
    (unspent : ids.Unspent count first t.Mentions) {e : StoreError}
    (failed : t.commit c now = .error e) : ¬ alone ∧ Contends claimed.command.id e := by
  have mark {other : CommandId × ClaimToken} (mem : other ∈ c.processed) :
      other = (claimed.command.id, claimed.claim) := by
    rw [h.marks] at mem
    exact List.mem_singleton.mp mem
  refine ⟨fun isAlone => ?_, ?_⟩
  · -- Nothing has changed since the unit was staged over the same tables.
    have admits := (h.fits isAlone).admits (fun command mem => h.new unspent mem)
      fun other mem => mark mem ▸ h.held isAlone
    rw [Tables.commit_ok_iff.mpr ⟨admits, rfl⟩] at failed
    cases failed
  · cases Tables.refusal_of_commit failed with
    | commandKnown staged found =>
      rw [h.new unspent staged] at found
      cases found
    | commandUnknown marked missing =>
      obtain ⟨row, found, -⟩ := h.holds
      rw [mark marked, found] at missing
      cases missing
    | claimLost marked found unheld =>
      rw [mark marked]
      exact .claimLost
    | transactionKnown held mem write => exact .opened _
    | transactionUnknown held mem write missing =>
      obtain ⟨current, found⟩ := h.stored held mem write
      rw [found] at missing
      cases missing
    | version held detail => exact .version detail

end Ready

end SupplierSwitch
