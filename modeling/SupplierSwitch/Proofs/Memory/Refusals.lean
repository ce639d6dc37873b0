import SupplierSwitch.Proofs.Memory.Aggregates

namespace SupplierSwitch

/-!
# Why a commit is refused

A commit is refused for the first thing that does not fit the tables. Most of it was looked at when
it was staged, and fitted then; what has become of it since is the work of others.

* `Tables.Refusal` and `Tables.refusal_of_commit` — all the reasons that a refusal can have;
* `Tables.Fits` and `Tables.Fits.answer` — what a unit stages fits the tables that it is staged
  over;
* `Tables.Mentions` — the identifiers that are in use, and what a commit adds to them.
-/

namespace Tables

/-! ### Reasons -/

/-- The marked command is not processed, and is under the claim of the mark. -/
def Held (t : Tables) (mark : CommandId × ClaimToken) : Prop :=
  ∃ row runsOut, t.row? mark.1 = some row ∧ row.command.processed = false ∧
    row.claim = some (mark.2, runsOut)

/-- A row that is handed out is held from then on. -/
theorem held_claim {t : Tables} {row : CommandRow} {filter : ClaimFilter} {now : Timestamp}
    (found : t.row? row.command.id = some row) (claimable : isClaimable filter now row = true)
    (token : ClaimToken) (lease : Duration) :
    (t.claim row.command.id token lease now).Held (row.command.id, token) := by
  have claimed : (t.claim row.command.id token lease now).row? row.command.id
      = some { row with claim := some (token, now.offsetBy lease) } := by
    rw [row?_claim, if_pos rfl, found]
    rfl
  simp only [isClaimable, InternalCommand.isReady, Bool.and_eq_true, Bool.not_eq_true'] at claimable
  exact ⟨_, _, claimed, claimable.1.1.1.1.1, rfl⟩

/-- Why a commit of the change set is refused. Transactions and points are looked at only if all
    marks are in order. -/
inductive Refusal (t : Tables) (c : ChangeSet) : StoreError → Prop where
  | commandKnown {command : InternalCommand} {row : CommandRow} (staged : command ∈ c.commands)
      (found : t.row? command.id = some row) :
      Refusal t c (.alreadyExists ("command " ++ toString command.id))
  | commandUnknown {mark : CommandId × ClaimToken} (marked : mark ∈ c.processed)
      (missing : t.row? mark.1 = none) :
      Refusal t c (.notFound ("command " ++ toString mark.1))
  | claimLost {mark : CommandId × ClaimToken} {row : CommandRow} (marked : mark ∈ c.processed)
      (found : t.row? mark.1 = some row) (unheld : ¬ t.Held mark) :
      Refusal t c (.claimLost mark.1)
  | transactionKnown {staged : StagedTransaction} (held : ∀ mark ∈ c.processed, t.Held mark)
      (mem : staged ∈ c.transactions) (write : staged.write = .insert) :
      Refusal t c (.alreadyExists ("transaction " ++ staged.transaction.id.text))
  | transactionUnknown {staged : StagedTransaction} {expected : ExpectedVersion}
      (held : ∀ mark ∈ c.processed, t.Held mark) (mem : staged ∈ c.transactions)
      (write : staged.write = .update expected)
      (missing : t.transaction? staged.transaction.id = none) :
      Refusal t c (.notFound ("transaction " ++ staged.transaction.id.text))
  | version (held : ∀ mark ∈ c.processed, t.Held mark) (detail : String) :
      Refusal t c (.conflict detail)

theorem then_error {ε : Type} {first second : Except ε Unit} {e : ε}
    (h : (first >>= fun _ => second) = .error e) :
    first = .error e ∨ first = .ok () ∧ second = .error e := by
  cases first with
  | error e' => exact .inl h
  | ok u => exact .inr ⟨rfl, h⟩

theorem exists_of_forM_error {α ε : Type} {f : α → Except ε Unit} {l : List α} {e : ε}
    (h : l.forM f = .error e) : ∃ a ∈ l, f a = .error e := by
  induction l with
  | nil => cases h
  | cons a rest ih =>
    obtain here | ⟨-, later⟩ := then_error h
    · exact ⟨a, List.mem_cons_self, here⟩
    · obtain ⟨b, mem, failed⟩ := ih later
      exact ⟨b, List.mem_cons_of_mem _ mem, failed⟩

variable {t : Tables} {c c' : ChangeSet} {now : Timestamp} {e : StoreError}

theorem checkVersion_error {expected : ExpectedVersion} {actual : Nat} {what : String}
    (h : checkVersion expected actual what = .error e) : ∃ detail, e = .conflict detail := by
  unfold checkVersion at h
  cases checked : expected.check actual with
  | ok u =>
    rw [checked] at h
    cases h
  | error refused =>
    rw [checked] at h
    cases h
    exact ⟨_, rfl⟩

/-- What keeps a change set from being committed is one of the reasons. -/
theorem refusal_of_commit (h : t.commit c now = .error e) : t.Refusal c e := by
  have failed : t.check c = .error e := by
    unfold commit at h
    cases checked : t.check c with
    | ok u =>
      rw [checked] at h
      cases h
    | error e' =>
      rw [checked] at h
      cases h
      rfl
  -- The four lists are looked at one after another, up to the first thing that does not fit.
  obtain commands | ⟨-, failed⟩ := then_error failed
  · obtain ⟨command, staged, refused⟩ := exists_of_forM_error commands
    unfold checkCommand at refused
    split at refused
    · rename_i known
      obtain ⟨row, found⟩ := Option.isSome_iff_exists.mp known
      cases refused
      exact .commandKnown staged found
    · cases refused
  obtain marks | ⟨marks, failed⟩ := then_error failed
  · obtain ⟨mark, marked, refused⟩ := exists_of_forM_error marks
    have unheld : ¬ t.Held mark := fun held => by
      cases refused.symm.trans (checkMark_ok_iff.mpr held)
    unfold checkMark at refused
    split at refused
    · rename_i missing
      cases refused
      exact .commandUnknown marked missing
    · rename_i found
      split at refused
      · cases refused
        exact .claimLost marked found unheld
      · cases refused
  have held : ∀ mark ∈ c.processed, t.Held mark := fun mark marked =>
    checkMark_ok_iff.mp ((forM_ok_iff t.checkMark c.processed).mp marks mark marked)
  obtain transactions | ⟨-, points⟩ := then_error failed
  · obtain ⟨staged, mem, refused⟩ := exists_of_forM_error transactions
    simp only [checkTransaction] at refused
    split at refused
    · rename_i write found
      cases refused
      exact .transactionKnown held mem write
    · cases refused
    · rename_i write missing
      cases refused
      exact .transactionUnknown held mem write missing
    · obtain ⟨detail, rfl⟩ := checkVersion_error refused
      exact .version held detail
  · obtain ⟨staged, -, refused⟩ := exists_of_forM_error points
    obtain ⟨detail, rfl⟩ := checkVersion_error refused
    exact .version held detail

/-- A failure that cannot be recorded concerns its command only. -/
theorem isCommandLocal_of_recordFailure {id : CommandId} {token : ClaimToken} {error : String}
    {policy : RetryPolicy} (h : t.recordFailure id token error policy now = .error e) :
    e.isCommandLocal = true := by
  unfold recordFailure at h
  split at h
  · cases h
    rfl
  · split at h
    · cases h
    · cases h
      rfl

/-! ### What is staged fits at first -/

/-- The staged aggregates would pass the checks of a commit. -/
structure Fits (t : Tables) (c : ChangeSet) : Prop where
  transactions : ∀ staged ∈ c.transactions, t.checkTransaction staged = .ok ()
  points : ∀ staged ∈ c.points, t.checkPoint staged = .ok ()

theorem mem_changeFirst {β κ : Type} [DecidableEq κ] {key : β → κ} {k : κ} {f : β → β} {b : β}
    {l : List β} (h : b ∈ Memory.changeFirst key k f l) : b ∈ l ∨ ∃ a ∈ l, key a = k ∧ b = f a := by
  induction l with
  | nil => cases h
  | cons a rest ih =>
    rw [Memory.changeFirst] at h
    split at h
    · rename_i here
      obtain rfl | later := List.mem_cons.mp h
      · exact .inr ⟨a, List.mem_cons_self, here, rfl⟩
      · exact .inl (List.mem_cons_of_mem _ later)
    · obtain rfl | later := List.mem_cons.mp h
      · exact .inl List.mem_cons_self
      · obtain old | ⟨a', mem, rest⟩ := ih later
        · exact .inl (List.mem_cons_of_mem _ old)
        · exact .inr ⟨a', List.mem_cons_of_mem _ mem, rest⟩

namespace Fits

theorem empty (t : Tables) : t.Fits .empty where
  transactions _ mem := by cases mem
  points _ mem := by cases mem

theorem admits (h : t.Fits c) (new : ∀ command ∈ c.commands, t.row? command.id = none)
    (held : ∀ mark ∈ c.processed, t.Held mark) : t.Admits c :=
  ⟨new, held, fun staged mem => (checkTransaction_ok_iff.mp (h.transactions staged mem)).1,
    fun staged mem => (checkTransaction_ok_iff.mp (h.transactions staged mem)).2,
    fun staged mem => checkPoint_ok_iff.mp (h.points staged mem)⟩

theorem append_transaction (h : t.Fits c) {staged : StagedTransaction}
    (fits : t.checkTransaction staged = .ok ()) :
    t.Fits { c with transactions := c.transactions ++ [staged] } := by
  refine ⟨fun other mem => ?_, h.points⟩
  obtain old | new := List.mem_append.mp mem
  · exact h.transactions other old
  · rw [List.mem_singleton.mp new]
    exact fits

/-- The guard of what is staged stays when something else takes its place. -/
theorem replaceTransaction (h : t.Fits c) (transaction : Transaction) :
    t.Fits { c with transactions := ChangeSet.replaceTransaction transaction c.transactions } := by
  refine ⟨fun staged mem => ?_, h.points⟩
  rw [Memory.replaceTransaction_eq] at mem
  obtain old | ⟨old, hold, same, rfl⟩ := mem_changeFirst mem
  · exact h.transactions staged old
  · have fits := h.transactions old hold
    rw [checkTransaction, same] at fits
    exact fits

theorem saveTransaction (h : t.Fits c) {transaction : Transaction} {expected : ExpectedVersion}
    {answer : Except RepositoryError Unit}
    (asked : t.answer (.saveTransaction transaction expected) c = (answer, c')) : t.Fits c' := by
  rw [answer_saveTransaction] at asked
  obtain ⟨-, rfl⟩ | ⟨-, done⟩ := Memory.settle_cases asked
  · exact h
  cases found : c.transaction? transaction.id with
  | some old =>
    rw [found] at done
    obtain ⟨-, rfl⟩ := Memory.restaged_of_ok done
    exact h.replaceTransaction transaction
  | none =>
    cases stored : t.transaction? transaction.id with
    | none =>
      rw [found, stored] at done
      cases done
    | some current =>
      rw [found, stored] at done
      obtain ⟨matched, rfl⟩ := Memory.restaged_of_ok done
      refine h.append_transaction (checkTransaction_ok_iff.mpr ⟨nofun, ?_⟩)
      rintro _ ⟨⟩
      exact ⟨current, stored, matched⟩

theorem addTransaction (h : t.Fits c) {transaction : Transaction}
    {answer : Except RepositoryError Unit}
    (asked : t.answer (.addTransaction transaction) c = (answer, c')) : t.Fits c' := by
  rw [answer_addTransaction] at asked
  split at asked
  · cases asked
    exact h
  · rename_i absent
    cases asked
    refine h.append_transaction (checkTransaction_ok_iff.mpr ⟨fun _ => ?_, nofun⟩)
    simp only [Option.isSome_or, Bool.or_eq_true, not_or, Bool.not_eq_true,
      Option.isSome_eq_false_iff, Option.isNone_iff_eq_none] at absent
    exact absent.2

theorem savePoint (h : t.Fits c) {point : AccountingPoint} {expected : ExpectedVersion}
    {answer : Except RepositoryError Unit}
    (asked : t.answer (.savePoint point expected) c = (answer, c')) : t.Fits c' := by
  rw [answer_savePoint] at asked
  obtain ⟨-, rfl⟩ | ⟨-, done⟩ := Memory.settle_cases asked
  · exact h
  cases found : c.point? point.gsrn.text with
  | some old =>
    rw [found] at done
    obtain ⟨-, rfl⟩ := Memory.restaged_of_ok done
    refine ⟨h.transactions, fun staged mem => ?_⟩
    rw [Memory.replacePoint_eq] at mem
    obtain old | ⟨old, hold, same, rfl⟩ := mem_changeFirst mem
    · exact h.points staged old
    · have fits := h.points old hold
      rw [checkPoint, Memory.gsrn_eq_iff.mpr same] at fits
      exact fits
  | none =>
    rw [found] at done
    obtain ⟨matched, rfl⟩ := Memory.restaged_of_ok done
    refine ⟨h.transactions, fun staged mem => ?_⟩
    obtain old | new := List.mem_append.mp mem
    · exact h.points staged old
    · rw [List.mem_singleton.mp new]
      exact checkPoint_ok_iff.mpr matched

/-- Whatever a unit is asked, what it has staged then fits the tables that it was asked over, if
    what it had staged before did. -/
theorem answer (h : t.Fits c) {call : UnitCall} {answer : call.Answer}
    (asked : t.answer call c = (answer, c')) : t.Fits c' := by
  cases call with
  | saveTransaction transaction expected => exact h.saveTransaction asked
  | addTransaction transaction => exact h.addTransaction asked
  | savePoint point expected => exact h.savePoint asked
  -- The other questions have nothing to do with aggregates, or stage none.
  | findPoint gsrn =>
    rw [answer_findPoint] at asked
    cases asked
    exact h
  | getTransaction id =>
    rw [answer_getTransaction] at asked
    cases asked
    exact h
  | stageCommand command =>
    obtain ⟨-, rfl⟩ | ⟨-, done⟩ := Memory.settle_cases asked
    · exact h
    · unfold ChangeSet.stageCommand at done
      split at done
      · cases done
      · cases done
        exact ⟨h.transactions, h.points⟩
  | markProcessed command claim =>
    cases asked
    unfold ChangeSet.markProcessed
    split
    · exact h
    · exact ⟨h.transactions, h.points⟩

end Fits

/-! ### Identifiers in use -/

/-- A stored command has the identifier, or a stored message. -/
def Mentions (t : Tables) (id : Uuid) : Prop :=
  ⟨id⟩ ∈ t.commandIds ∨
    ∃ transaction ∈ t.transactions, ∃ message ∈ transaction.messages, message.id.uuid = id

instance (t : Tables) (id : Uuid) : Decidable (t.Mentions id) :=
  inferInstanceAs (Decidable (_ ∨ _))

end Tables

/-- A staged command has the identifier, or a staged message. -/
def ChangeSet.Mentions (c : ChangeSet) (id : Uuid) : Prop :=
  ⟨id⟩ ∈ c.commands.map (·.id) ∨
    ∃ staged ∈ c.transactions, ∃ message ∈ staged.transaction.messages, message.id.uuid = id

namespace Tables

variable {t : Tables} {c : ChangeSet}

theorem mentions_updateRow {id : CommandId} {change : CommandRow → CommandRow}
    (keeps : ∀ row, row.command.id = id → (change row).command.id = id) {uuid : Uuid} :
    (t.updateRow id change).Mentions uuid ↔ t.Mentions uuid := by
  rw [Mentions, commandIds_updateRow t id change keeps]
  rfl

theorem mem_put {α : Type} {same : α → Bool} {a b : α} {l : List α} (h : b ∈ put same a l) :
    b = a ∨ b ∈ l := by
  induction l with
  | nil => exact .inl (List.mem_singleton.mp h)
  | cons first rest ih =>
    rw [put] at h
    split at h
    · obtain rfl | later := List.mem_cons.mp h
      · exact .inl rfl
      · exact .inr (List.mem_cons_of_mem _ later)
    · obtain rfl | later := List.mem_cons.mp h
      · exact .inr List.mem_cons_self
      · exact (ih later).imp_right (List.mem_cons_of_mem _)

/-- After several writes there is nothing but what was there before and what was written. -/
theorem mem_foldl_overwrite {α κ : Type} [DecidableEq κ] {key : α → κ} {stamp : Option α → α → α}
    {writes l : List α} {b : α} (h : b ∈ writes.foldl (overwrite key stamp) l) :
    b ∈ l ∨ ∃ a ∈ writes, ∃ old, b = stamp old a := by
  induction writes generalizing l with
  | nil => exact .inl h
  | cons a rest ih =>
    obtain before | ⟨a', mem, old, same⟩ := ih h
    · obtain rfl | before := mem_put before
      · exact .inr ⟨a, List.mem_cons_self, _, rfl⟩
      · exact .inl before
    · exact .inr ⟨a', List.mem_cons_of_mem _ mem, old, same⟩

/-- A commit brings the identifiers of what it writes, and no others. -/
theorem mentions_of_apply (admits : t.Admits c) {now : Timestamp} {id : Uuid}
    (h : (t.apply c now).Mentions id) : t.Mentions id ∨ c.Mentions id := by
  obtain command | ⟨transaction, mem, message, said, same⟩ := h
  · rw [admits.commandIds_apply] at command
    exact (List.mem_append.mp command).imp .inl .inl
  · rw [admits.apply_eq] at mem
    obtain old | ⟨written, hwritten, before, rfl⟩ := mem_foldl_overwrite mem
    · exact .inl (.inr ⟨transaction, old, message, said, same⟩)
    · obtain ⟨staged, hstaged, rfl⟩ := List.mem_map.mp hwritten
      exact .inr (.inr ⟨staged, hstaged, message, said, same⟩)

end Tables

end SupplierSwitch
