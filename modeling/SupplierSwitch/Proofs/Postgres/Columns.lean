import SupplierSwitch.Proofs.Json.Records
import SupplierSwitch.Proofs.Outbox.Exits
import SupplierSwitch.Proofs.Postgres.Commits
import SupplierSwitch.Proofs.Postgres.Failures

namespace SupplierSwitch

/-!
# Numbers without a sign in signed columns

Places in the order of commits and counts of attempts have no sign, and the columns that they are
compared with have one. A number is bound with the bits that it has, so that one in the upper half
of its range is bound as a negative one. Whatever is bound reads back as the number that it was made
from; what the server compares it with in the meantime is another matter.

* `signed32_nonneg_iff`, `le_signed64_iff` — the numbers that keep their value;
* `Statement.parameter?` — what is bound to a parameter;
* `Postgres.says_claimNext`, `Postgres.Records`, `Postgres.says_recordFailure` — what a claim and a
  failure send;
* `Postgres.signed_columns_exact_iff` — where the bound numbers mean what they were made from;
* `Postgres.ceiling_below_every_place` — where they do not.
-/

/-! ### Bits -/

theorem signed32_eq (n : UInt32) :
    signed32 n = if n.toNat < 2147483648 then (n.toNat : Int) else n.toNat - 4294967296 := by
  have bound : n.toNat < 4294967296 := n.toNat_lt
  unfold signed32
  show Int.bmod n.toNat 4294967296 = _
  rw [Int.bmod_def]
  split <;> split <;> omega

theorem signed32_nonneg_iff (n : UInt32) : 0 ≤ signed32 n ↔ n.toNat < 2147483648 := by
  have bound : n.toNat < 4294967296 := n.toNat_lt
  rw [signed32_eq]
  split <;> omega

theorem signed64_eq {n : Nat} (bound : n < UInt64.size) :
    signed64 n = if n ≤ greatestSigned64 then (n : Int) else n - UInt64.size := by
  unfold signed64 greatestSigned64
  unfold UInt64.size at bound ⊢
  rw [Int.bmod_def]
  split <;> split <;> omega

/-- A place is not beyond what is bound for a ceiling if it is not beyond the ceiling, and the
    ceiling keeps its value. -/
theorem le_signed64_iff {place ceiling : Nat} (bound : ceiling < UInt64.size) :
    (place : Int) ≤ signed64 ceiling ↔ place ≤ ceiling ∧ ceiling ≤ greatestSigned64 := by
  rw [signed64_eq bound]
  unfold UInt64.size at *
  split <;> omega

/-- A count that was read from a signed column, and one more. -/
theorem toNat_unsigned32_succ {n : Int} (nonneg : 0 ≤ n) (le : n ≤ 2147483647) :
    ((unsigned32 n + 1).toNat : Int) = n + 1 := by
  have read : (unsigned32 n).toNat = n.toNat := by
    unfold unsigned32
    show (UInt32.ofNat (n % 4294967296).toNat).toNat = n.toNat
    rw [UInt32.toNat_ofNat_of_lt' (by show _ < 4294967296; omega)]
    omega
  rw [Tables.toNat_succ (by omega), read]
  omega

/-! ### Parameters -/

/-- What is bound to a parameter. Parameters are numbered from one. -/
def Statement.parameter? : Statement → (number : Nat) → Option SqlValue
  | .query _ parameters, number + 1 => parameters[number]?
  | _, _ => none

namespace Postgres

open Service

variable {σ : Type} {c : Connection σ} {w : World σ} {filter : ClaimFilter} {id : CommandId}
  {claim : ClaimToken} {error : String} {policy : RetryPolicy} {now : Timestamp}

/-! ### Claims -/

/-- A claim is one statement, whatever comes of it. -/
theorem says_claimNext (c : Connection σ) (filter : ClaimFilter) (w : World σ) :
    Says w (claimNext c filter).run (claimNext c.overheard filter).run fun _ said =>
      ∃ claim reply,
        said = [⟨.claimNext claim filter (w.clock.reading w.clock.taken), reply⟩] := by
  refine .traced (.timed fun w' => .supplied fun w'' => ?_)
  refine .fetchOptional (fun failure => ⟨_, _, rfl⟩) fun reply w''' => ?_
  cases reply.rows.head? with
  | none => exact .pure ⟨_, _, rfl⟩
  | some row => exact .decode (fun _ _ => ⟨_, _, rfl⟩) fun command _ => .pure ⟨_, _, rfl⟩

/-! ### Failures -/

/-- The reply tells of a command that is under the claim and has failed so often. -/
def Tells (claim : ClaimToken) (attempts : Int) (reply : Except SqlFailure Reply) : Prop :=
  ∃ told row, reply = .ok told ∧ told.rows.head? = some row ∧
    row.optional Row.uuid? "claim_token" = .ok (some claim.uuid) ∧
    row.required Row.number? "attempts" = .ok attempts

theorem Tells.unique {a b : Int} {reply : Except SqlFailure Reply} (h : Tells claim a reply)
    (h' : Tells claim b reply) : a = b := by
  obtain ⟨_, row, rfl, first, -, attempts⟩ := h
  obtain ⟨_, row', ⟨⟩, first', -, attempts'⟩ := h'
  cases first.symm.trans first'
  exact Except.ok.inj (attempts.symm.trans attempts')

/-- How the work of recording a failure goes: the server is asked for the command, and if it tells
    of one under the claim, what becomes of it is written. -/
inductive Records (id : CommandId) (claim : ClaimToken) (error : String) (policy : RetryPolicy)
    (now : Timestamp) : Except StoreError FailureDisposition → List Exchange → Prop where
  | untold {e : StoreError} {reply : Except SqlFailure Reply}
      (none : ∀ attempts, ¬ Tells claim attempts reply) :
      Records id claim error policy now (.error e) [⟨.lockAttempts id, reply⟩]
  | told {attempts : Int} {reply : Except SqlFailure Reply} (told : Tells claim attempts reply)
      (answer : Except SqlFailure Reply) :
      Records id claim error policy now
        ((answer.mapError (·.toStoreError "record_failure")).map fun _ =>
          disposition policy (unsigned32 attempts + 1) now)
        [⟨.lockAttempts id, reply⟩,
          ⟨.writeFailure id error (disposition policy (unsigned32 attempts + 1) now) now, answer⟩]

theorem says_recordFailure (c : Connection σ) (id : CommandId) (claim : ClaimToken) (error : String)
    (policy : RetryPolicy) (now : Timestamp) (w : World σ) :
    Says w (recordFailure c id claim error policy now).run
      (recordFailure c.overheard id claim error policy now).run
      (Connection.Transacts (Records id claim error policy now)) := by
  refine .traced (Connection.says_inTransaction (fun w => ?_) _)
  refine .fetchOptional (fun failure => .untold ?_) fun reply w' => ?_
  · rintro attempts ⟨_, _, ⟨⟩, -⟩
  cases first : reply.rows.head? with
  | none =>
    refine .pure (.untold ?_)
    rintro attempts ⟨_, row, ⟨⟩, found, -⟩
    cases first.symm.trans found
  | some row =>
    have only {attempts : Int} (told : Tells claim attempts (.ok reply)) :
        row.optional Row.uuid? "claim_token" = .ok (some claim.uuid) ∧
          row.required Row.number? "attempts" = .ok attempts := by
      obtain ⟨_, row', ⟨⟩, found, owner, counted⟩ := told
      cases first.symm.trans found
      exact ⟨owner, counted⟩
    refine .decode (fun failure unread => .untold fun attempts told => ?_) fun held owner => ?_
    · cases unread.symm.trans (only told).1
    by_cases own : held = some claim.uuid
    · subst own
      rw [if_pos rfl, if_pos rfl]
      refine .decode (fun failure unread => .untold fun attempts told => ?_)
        fun attempts counted => ?_
      · cases unread.symm.trans (only told).2
      have told : Tells claim attempts (.ok reply) := ⟨reply, row, rfl, first, owner, counted⟩
      exact .ask (fun failure => .told told (.error failure))
        fun written w'' => .pure (.told told (.ok written))
    · rw [if_neg own, if_neg own]
      refine .pure (.untold fun attempts told => ?_)
      exact own (Except.ok.inj (owner.symm.trans (only told).1))

variable {result : Except StoreError FailureDisposition} {said : List Exchange}
  {reply : Except SqlFailure Reply} {attempts : Int}

theorem lockAttempts_ne_writeFailure (d : FailureDisposition) :
    Statement.lockAttempts id ≠ .writeFailure id error d now := by
  unfold Statement.lockAttempts Statement.writeFailure
  simp

/-- If the server tells of a command under the claim, what becomes of it is written and reported. -/
theorem written_of_told
    (h : Connection.Transacts (Records id claim error policy now) result said)
    (asked : ⟨.lockAttempts id, reply⟩ ∈ said) (told : Tells claim attempts reply) :
    let d := disposition policy (unsigned32 attempts + 1) now
    (∃ answer, ⟨.writeFailure id error d now, answer⟩ ∈ said) ∧ ∀ d', result = .ok d' → d' = d := by
  intro d
  obtain ⟨result', said', records, asked', within, same⟩ :=
    h.mem_work asked ⟨nofun, nofun, nofun⟩
  cases records with
  | untold none =>
    cases List.mem_singleton.mp asked'
    exact absurd told (none attempts)
  | @told attempts' reply' told' answer =>
    obtain first | second := List.mem_cons.mp asked'
    · cases first
      cases told.unique told'
      refine ⟨⟨answer, within (by simp [d])⟩, fun d' done => ?_⟩
      have reported := same d' done
      cases answer with
      | error failure => cases reported
      | ok written => exact (Except.ok.inj reported).symm
    · exact absurd (congrArg Exchange.statement (List.mem_singleton.mp second))
        (lockAttempts_ne_writeFailure _)

/-- What is reported is what the server has told of. -/
theorem told_of_recorded {d : FailureDisposition}
    (h : Connection.Transacts (Records id claim error policy now) (.ok d) said) :
    ∃ attempts reply, ⟨.lockAttempts id, reply⟩ ∈ said ∧ Tells claim attempts reply := by
  cases h with
  | committed begun works written =>
    generalize reported : Except.ok d = result at works
    cases works with
    | untold none => cases reported
    | told told answer => exact ⟨_, _, by simp, told⟩

@[simp] theorem attempts_disposition (policy : RetryPolicy) (attempts : UInt32) (now : Timestamp) :
    (disposition policy attempts now).attempts = attempts := by
  unfold disposition
  split <;> rfl

theorem parameter?_writeFailure (id : CommandId) (error : String) (d : FailureDisposition)
    (now : Timestamp) :
    (Statement.writeFailure id error d now).parameter? 2
      = some (.number (signed32 d.attempts)) := by
  cases d <;> rfl

/-! ### Staged commands -/

/-- The count of a command is read from its column. -/
theorem attempts_of_command {row : Row} {command : InternalCommand} {n : Int}
    (column : row.lookup "attempts" = some (.number n)) (h : row.command = .ok command) :
    command.attempts = unsigned32 n := by
  have counted : row.required Row.number? "attempts" = .ok n := by
    unfold Row.required
    rw [column]
    rfl
  unfold Row.command at h
  -- Seven columns are read before the one of the count, and three after it.
  iterate 7 obtain ⟨_, -, h⟩ := bind_ok h
  obtain ⟨attempts, counted', h⟩ := bind_ok h
  iterate 3 obtain ⟨_, -, h⟩ := bind_ok h
  cases counted.symm.trans counted'
  cases h
  rfl

theorem says_commitChanges (c : Connection σ) (changes : ChangeSet) (w : World σ) :
    Says w (commitChanges c changes).run (commitChanges c.overheard changes).run
      (Connection.Transacts (Does (w.clock.reading w.clock.taken) (writes changes))) :=
  .traced (.timed fun w' => Connection.says_inTransaction (says_writes changes) w')

/-- A commit that succeeds has inserted every staged command. -/
theorem inserted_of_committed {changes : ChangeSet} {said : List Exchange}
    (h : Connection.Transacts (Does now (writes changes)) (.ok ()) said)
    {command : InternalCommand} (mem : command ∈ changes.commands) :
    ∃ reply, ⟨.insertCommand command, .ok reply⟩ ∈ said := by
  obtain ⟨answered, lookup, undo, rfl, goes, -⟩ := goes_of_transacts h
  obtain ⟨-, -, all, good⟩ | ⟨_, _, _, _, failed, -⟩ := goes.outcome
  · have planned : Write.command command ∈ answered.map Prod.fst := by
      rw [all]
      simp [plan, writes, mem]
    obtain ⟨⟨_, answer⟩, done, rfl⟩ := List.mem_map.mp planned
    cases answer with
    | error failure => exact (good _ done).elim
    | ok reply =>
      have sent : (⟨.insertCommand command, .ok reply⟩ : Exchange) ∈ exchanges now answered :=
        List.mem_map.mpr ⟨_, done, rfl⟩
      exact ⟨reply, by simp [sent]⟩
  · cases failed

/-! ### What the bound numbers mean -/

/-- A ceiling admits places in memory. -/
theorem isClaimable_ceiling {ceiling place : Nat} {row : CommandRow}
    (upTo : filter.upToSequence = some ceiling) (placed : row.command.sequence = some place) :
    Tables.isClaimable filter now row = true ↔
      Tables.isClaimable { filter with upToSequence := none } now row = true ∧ place ≤ ceiling := by
  unfold Tables.isClaimable
  rw [upTo, placed]
  simp

/-- The ceiling of a claim admits the same places in memory and in the database if it is less than
    2^63, and none in the database otherwise. The count of a failure is bound as what is reported if
    the command has failed less than 2^31 - 1 times, and the count of a staged command as what it is
    if it is less than 2^31; they are bound as negative numbers otherwise, which read back as the
    counts all the same. All this is so whatever the server replies. -/
theorem signed_columns_exact_iff (c : Connection σ) (w : World σ) :
    (∀ filter ceiling, filter.upToSequence = some ceiling → ceiling < UInt64.size →
      Says w (claimNext c filter).run (claimNext c.overheard filter).run fun _ said =>
        ∃ statement reply b, said = [⟨statement, reply⟩] ∧
          statement.parameter? 5 = some (.number b) ∧
          ∀ (row : CommandRow) place now, row.command.sequence = some place →
            (Tables.isClaimable filter now row = true ↔
              Tables.isClaimable { filter with upToSequence := none } now row = true ∧
                place ≤ ceiling) ∧
            ((place : Int) ≤ b ↔ place ≤ ceiling ∧ ceiling ≤ greatestSigned64)) ∧
    (∀ id claim error policy now,
      Says w (recordFailure c id claim error policy now).run
        (recordFailure c.overheard id claim error policy now).run fun result said =>
        (∀ d, result = .ok d →
          ∃ attempts reply, ⟨.lockAttempts id, reply⟩ ∈ said ∧ Tells claim attempts reply) ∧
        ∀ attempts reply, ⟨.lockAttempts id, reply⟩ ∈ said → Tells claim attempts reply →
          0 ≤ attempts → attempts ≤ 2147483647 →
          ∃ d answer b, ⟨.writeFailure id error d now, answer⟩ ∈ said ∧
            (Statement.writeFailure id error d now).parameter? 2 = some (.number b) ∧
            (∀ d', result = .ok d' → d' = d) ∧
            (d.attempts.toNat : Int) = attempts + 1 ∧ unsigned32 b = d.attempts ∧
            (b = attempts + 1 ↔ attempts < 2147483647) ∧ (0 ≤ b ↔ attempts < 2147483647)) ∧
    ∀ changes,
      Says w (commitChanges c changes).run (commitChanges c.overheard changes).run
        fun result said => ∀ command ∈ changes.commands,
          (result = .ok () → ∃ reply, ⟨.insertCommand command, .ok reply⟩ ∈ said) ∧
          ∃ b, (Statement.insertCommand command).parameter? 7 = some (.number b) ∧
            (0 ≤ b ↔ command.attempts.toNat < 2147483648) ∧
            ∀ (row : Row) read, row.lookup "attempts" = some (.number b) →
              row.command = .ok read → read.attempts = command.attempts := by
  refine ⟨fun filter ceiling upTo bound => ?_, fun id claim error policy now => ?_,
    fun changes => ?_⟩
  · refine (says_claimNext c filter w).imp fun _ said claims => ?_
    obtain ⟨claim, reply, rfl⟩ := claims
    refine ⟨_, reply, signed64 ceiling, rfl, ?_, fun row place now placed => ?_⟩
    · show some (SqlValue.ofOption (fun n => .number (signed64 n)) filter.upToSequence) = _
      rw [upTo]
      rfl
    · exact ⟨isClaimable_ceiling upTo placed, le_signed64_iff bound⟩
  · refine (says_recordFailure c id claim error policy now w).imp fun result said transacts => ?_
    constructor
    · rintro d rfl
      exact told_of_recorded transacts
    · intro attempts reply asked told nonneg le
      obtain ⟨⟨answer, written⟩, reported⟩ := written_of_told transacts asked told
      have counted := toNat_unsigned32_succ nonneg le
      refine ⟨_, answer, _, written, parameter?_writeFailure _ _ _ _, reported, ?_, ?_, ?_, ?_⟩
      · rw [attempts_disposition, counted]
      · rw [unsigned32_signed32]
      · rw [attempts_disposition, signed32_eq]
        split <;> omega
      · rw [attempts_disposition, signed32_nonneg_iff]
        omega
  · refine (says_commitChanges c changes w).imp fun result said transacts => ?_
    intro command mem
    constructor
    · rintro rfl
      exact inserted_of_committed transacts mem
    · refine ⟨_, rfl, signed32_nonneg_iff _, fun row read column reads => ?_⟩
      rw [attempts_of_command column reads, unsigned32_signed32]

/-- A claim up to a ceiling of 2^63, of a command at the first place, … -/
def highCeiling : ClaimFilter :=
  ⟨[], some 9223372036854775808, .zero⟩

/-- … which has failed as often as a signed column can tell. -/
def failedOften : CommandRow :=
  ⟨{ InternalCommand.fresh ⟨.zero⟩ "Ping" .null .epoch with
    sequence := some 1, attempts := 2147483647 }, some (⟨.zero⟩, .epoch)⟩

/-- The command may be claimed in memory, and is beyond the ceiling that the database is told. When
    it fails once more, the count that is reported and the one that is written differ, and so they
    do when it is staged with the former. -/
theorem ceiling_below_every_place :
    Tables.isClaimable highCeiling .epoch failedOften = true ∧
    ((claimNext Peer.connection highCeiling).run.run (inDatabase failedOften)).2.store.sent.map
      (·.parameter? 5) = [some (.number (-9223372036854775808))] ∧
    (∃ w, (recordFailure Peer.connection ⟨.zero⟩ ⟨.zero⟩ "boom" .noRetry .epoch).run.run
        (inDatabase failedOften) = (.ok (.deadLettered 2147483648), w) ∧
      w.store.sent.map (·.parameter? 2) = [none, none, some (.number (-2147483648)), none]) ∧
    (Statement.insertCommand { failedOften.command with attempts := 2147483648 }).parameter? 7
      = some (.number (-2147483648)) := by
  have held : failedOften.isHeldBy ⟨.zero⟩ = true := rfl
  have talks : Peer.Talks (recordFailure Peer.connection ⟨.zero⟩ ⟨.zero⟩ "boom" .noRetry .epoch).run
      _ (.ok (.deadLettered 2147483648)) [.begin, .lockAttempts ⟨.zero⟩,
        .writeFailure ⟨.zero⟩ "boom" (.deadLettered 2147483648) .epoch, .commit] :=
    talks_recorded held "boom" .noRetry .epoch Peer.standardReply
  obtain ⟨w, run, -, -, sent⟩ := talks (inDatabase failedOften) [] ⟨rfl, rfl, rfl⟩ rfl
  refine ⟨by decide, by rfl, ⟨w, run, ?_⟩, by decide⟩
  rw [sent]
  decide

end Postgres

end SupplierSwitch
