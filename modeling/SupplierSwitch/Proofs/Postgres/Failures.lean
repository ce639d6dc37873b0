import SupplierSwitch.Proofs.Memory.Dispatch
import SupplierSwitch.Proofs.Postgres.Talks

namespace SupplierSwitch

/-!
# Failures in memory and in the database

A failure is recorded by two stores that share no code: one changes the row of a command, the other
asks for two columns of it and writes five. Told of the same row, they come to the same result, and
the five values are those that the row in memory has afterwards, but for one. What the failure makes
void is removed in the database and stays in memory.

* `Postgres.talks_missing`, `Postgres.talks_lost`, `Postgres.talks_recorded` — what is said to the
  database;
* `FailureDisposition.void` — the time that a failure makes void;
* `Tables.writeFailure_failed` — what is written, by the row in memory;
* `Postgres.failures_recorded_alike` — the two stores side by side;
* `Postgres.schedule_kept` — a schedule that is removed in one of them only.
-/

/-! ### Numbers of attempts in a signed column -/

theorem unsigned32_signed32 (n : UInt32) : unsigned32 (signed32 n) = n := by
  unfold unsigned32 signed32
  rw [Int.bmod_emod, ← Int.natCast_emod, Int.toNat_natCast, Nat.mod_eq_of_lt n.toNat_lt_size,
    UInt32.ofNat_toNat]

theorem signed32_of_lt {n : UInt32} (h : n.toNat < 2147483648) : signed32 n = n.toNat := by
  unfold signed32
  rw [show UInt32.size = 4294967296 from rfl]
  exact Int.bmod_eq_of_le (by omega) (by omega)

/-! ### What is sent -/

namespace Postgres

/-- The row of a command, as a failure is told of it. -/
def lockedRow (row : CommandRow) : Row :=
  [("attempts", .number (signed32 row.command.attempts)),
    ("claim_token", .ofOption (fun claim => .uuid claim.1.uuid) row.claim)]

/-- The reply that tells of the row of a command, if there is one. -/
def lockedReply (row : Option CommandRow) : Reply :=
  ⟨row.toList.map lockedRow, row.toList.length⟩

open Peer

variable {id : CommandId} {token : ClaimToken} {row : CommandRow}

theorem talks_lock (row : Option CommandRow) (id : CommandId) :
    Talks (connection.fetchOptional "record_failure" (.lockAttempts id)).run
      [.ok (lockedReply row)] (.ok (row.map lockedRow)) [.lockAttempts id] := by
  have asked : Talks (connection.send (.lockAttempts id)) [.ok (lockedReply row)]
      (.ok (lockedReply row)) [.lockAttempts id] := talks_query _ _ _
  cases row <;> exact talks_fetchOptional asked _

theorem talks_missing (id : CommandId) (token : ClaimToken) (error : String) (policy : RetryPolicy)
    (now : Timestamp) :
    Talks (recordFailure connection id token error policy now).run [.ok (lockedReply none)]
      (.error (.notFound ("command " ++ toString id))) [.begin, .lockAttempts id, .rollback] :=
  .traced _ (.rolledBack [.lockAttempts id] ((talks_lock none id).and (.pure _)))

theorem optional_claim (row : CommandRow) :
    Row.optional Row.uuid? "claim_token" (lockedRow row)
      = .ok (row.claim.map fun claim => claim.1.uuid) := by
  obtain ⟨command, _ | ⟨token, runsOut⟩⟩ := row <;> rfl

/-- The claim that is told is the one to be compared with. -/
theorem claim_eq_iff : row.claim.map (fun claim => claim.1.uuid) = some token.uuid
    ↔ row.isHeldBy token = true := by
  obtain ⟨command, _ | ⟨⟨held⟩, runsOut⟩⟩ := row <;> obtain ⟨uuid⟩ := token <;>
    simp [CommandRow.isHeldBy]

theorem talks_lost (lost : row.isHeldBy token = false) (error : String) (policy : RetryPolicy)
    (now : Timestamp) :
    Talks (recordFailure connection id token error policy now).run [.ok (lockedReply (some row))]
      (.error (.claimLost id)) [.begin, .lockAttempts id, .rollback] := by
  have other : ¬ row.claim.map (fun claim => claim.1.uuid) = some token.uuid := by
    rw [claim_eq_iff, lost]
    exact Bool.false_ne_true
  refine .traced _ (.rolledBack [.lockAttempts id] ((talks_lock (some row) id).and ?_))
  refine (talks_decode (optional_claim row)).and ?_
  rw [if_neg other]
  exact .fail (.pure _) _

theorem talks_recorded (held : row.isHeldBy token = true) (error : String) (policy : RetryPolicy)
    (now : Timestamp) (written : Reply) :
    let disposition := disposition policy (row.command.attempts + 1) now
    Talks (recordFailure connection id token error policy now).run
      [.ok (lockedReply (some row)), .ok written] (.ok disposition)
      [.begin, .lockAttempts id, .writeFailure id error disposition now, .commit] := by
  intro disposition
  refine .traced _ (.committed [.lockAttempts id, .writeFailure id error disposition now]
    ((talks_lock (some row) id).and ?_))
  refine (talks_decode (optional_claim row)).and ?_
  rw [if_pos (claim_eq_iff.mpr held)]
  have attempts : Row.required Row.number? "attempts" (lockedRow row)
      = .ok (signed32 row.command.attempts) := rfl
  refine (talks_decode attempts).and ?_
  rw [unsigned32_signed32]
  have writes : Talks (connection.send (.writeFailure id error disposition now)) [.ok written]
      (.ok written) [.writeFailure id error disposition now] := talks_query _ _ _
  exact (talks_execute writes "record_failure").and (.pure _)

end Postgres

/-! ### What is written -/

/-- The update that writes to the row of a command what a failure may have changed, and releases
    the claim. -/
def Statement.writeFailed (c : InternalCommand) : Statement :=
  .query
    ("UPDATE internal_commands SET attempts = $2, last_error = $3, not_before = $4, " ++
      "dead_lettered_at = $5, claim_token = NULL, claimed_until = NULL WHERE id = $1")
    [.uuid c.id.uuid, .number c.attempts.toNat, .ofOption .text c.lastError,
      .ofOption .instant c.notBefore, .ofOption .instant c.deadLetteredAt]

namespace FailureDisposition

/-- The time in the row of a command that a failure makes void: the end of a command that is tried
    again, and the schedule of one that is given up. -/
def void : FailureDisposition → InternalCommand → Option Timestamp
  | .retry _ _, c => c.deadLetteredAt
  | .deadLettered _, c => c.notBefore

/-- A command without it. -/
def settled : FailureDisposition → InternalCommand → InternalCommand
  | .retry _ _, c => { c with deadLetteredAt := none }
  | .deadLettered _, c => { c with notBefore := none }

end FailureDisposition

variable {c : InternalCommand} {policy : RetryPolicy}

theorem SqlValue.ofOption_none_eq_iff {t : Option Timestamp} :
    SqlValue.ofOption .instant none = .ofOption .instant t ↔ t = none := by
  cases t <;> simp [SqlValue.ofOption]

/-- The update that leaves out what is void is another one, if there is such a time. -/
theorem writeFailed_settled_iff (disposition : FailureDisposition) :
    Statement.writeFailed (disposition.settled c) = .writeFailed c ↔ disposition.void c = none := by
  cases disposition <;>
    simp [FailureDisposition.settled, FailureDisposition.void, Statement.writeFailed,
      SqlValue.ofOption_none_eq_iff]

namespace Tables

theorem disposition_failed (c : InternalCommand) (error : String) (policy : RetryPolicy)
    (now : Timestamp) :
    (failed c error policy now).2 = Postgres.disposition policy (c.attempts + 1) now := by
  rw [Postgres.disposition]
  split
  · rename_i again
    rw [failed_of_retry again]
  · rename_i spent
    rw [failed_of_last (Bool.eq_false_iff.mpr spent)]

/-- In memory, what the failure makes void stays as it is. -/
theorem void_failed (c : InternalCommand) (error : String) (policy : RetryPolicy)
    (now : Timestamp) :
    (failed c error policy now).2.void (failed c error policy now).1
      = (failed c error policy now).2.void c := by
  cases again : policy.shouldRetry (c.attempts + 1) with
  | true =>
    rw [failed_of_retry again]
    rfl
  | false =>
    rw [failed_of_last again]
    rfl

/-- What is written is the command in memory but for what is void. -/
theorem writeFailure_failed (few : c.attempts.toNat < 2147483647) (error : String)
    (policy : RetryPolicy) (now : Timestamp) :
    Statement.writeFailure c.id error (failed c error policy now).2 now
      = .writeFailed ((failed c error policy now).2.settled (failed c error policy now).1) := by
  have attempts : (c.attempts + 1).toNat = c.attempts.toNat + 1 := toNat_succ (by omega)
  have number : signed32 (c.attempts + 1) = (c.attempts + 1).toNat :=
    signed32_of_lt (by omega)
  cases again : policy.shouldRetry (c.attempts + 1) with
  | true =>
    rw [failed_of_retry again]
    simp only [Statement.writeFailure, Statement.writeFailed, FailureDisposition.settled, number]
    rfl
  | false =>
    rw [failed_of_last again]
    simp only [Statement.writeFailure, Statement.writeFailed, FailureDisposition.settled, number]
    rfl

end Tables

/-! ### The two stores side by side -/

namespace Postgres

open Peer Memory

/-- Both stores record a failure alike, given the same row of the command: with the same result, and
    what the database is told to write is what the row in memory is then, but for one time. If the
    command is given up, the database forgets when it was to be tried next, and the store in memory
    does not; and if it is to be tried again, the database forgets that it had been given up. If
    nothing is recorded, nothing is written. -/
theorem failures_recorded_alike (m : World Tables) (w : World Peer) (id : CommandId)
    (token : ClaimToken) (error : String) (policy : RetryPolicy) (now : Timestamp)
    (written : Reply) (rest : List ScriptedReply)
    (few : ∀ row, m.store.row? id = some row → row.command.attempts.toNat < 2147483647)
    (willing : w.store.Willing)
    (script : w.store.script
      = (fun _ => .ok (lockedReply (m.store.row? id))) :: (fun _ => .ok written) :: rest) :
    let memory := (Memory.store.recordFailure id token error policy now).run m
    let database :=
      ((store connection .multiThread).recordFailure id token error policy now).run w
    database.1 = memory.1 ∧
    ((∃ disposition row row' update, memory.1 = .ok disposition ∧ m.store.row? id = some row ∧
        memory.2.store.row? id = some row' ∧ row'.claim = none ∧
        database.2.store.sent = w.store.sent ++ [.begin, .lockAttempts id, update, .commit] ∧
        update = .writeFailed (disposition.settled row'.command) ∧
        (update = .writeFailed row'.command ↔ disposition.void row.command = none)) ∨
      ∃ e, memory.1 = .error e ∧
        (e = .notFound ("command " ++ toString id) ∨ e = .claimLost id) ∧
        memory.2.store = m.store ∧
        database.2.store.sent = w.store.sent ++ [.begin, .lockAttempts id, .rollback]) := by
  intro memory database
  have memory_eq : memory = _ := Memory.run_change _ m
  cases found : m.store.row? id with
  | none =>
    rw [found] at script
    obtain ⟨w', run, -, -, sent⟩ := talks_missing id token error policy now w _ willing script
    have database_eq : database = _ := run
    rw [database_eq, memory_eq, Tables.recordFailure, found]
    exact ⟨rfl, .inr ⟨_, rfl, .inl rfl, rfl, sent⟩⟩
  | some row =>
    rw [found] at script
    cases owned : row.isHeldBy token with
    | false =>
      obtain ⟨w', run, -, -, sent⟩ := talks_lost owned error policy now w _ willing script
      have database_eq : database = _ := run
      rw [database_eq, memory_eq, Tables.recordFailure, found]
      simp only [owned]
      exact ⟨rfl, .inr ⟨_, rfl, .inr rfl, rfl, sent⟩⟩
    | true =>
      obtain ⟨w', run, -, -, sent⟩ := talks_recorded owned error policy now written w _ willing
        script
      rw [← Tables.disposition_failed row.command error] at run sent
      have database_eq : database = _ := run
      obtain ⟨runsOut, held⟩ := Tables.isHeldBy_iff.mp owned
      have recorded := Tables.recordFailure_of_held found held error policy now
      obtain ⟨_, _, found', -, -, changed, -⟩ := Tables.row?_of_recordFailure recorded
      cases found.symm.trans found'
      have update := Tables.writeFailure_failed (few row found) error policy now
      rw [Tables.id_of_row? found] at update
      rw [database_eq, memory_eq, recorded]
      refine ⟨rfl, .inl ⟨_, row, _, _, rfl, rfl, changed, rfl, sent, update, ?_⟩⟩
      rw [update, writeFailed_settled_iff, Tables.void_failed]

/-- A command that is tried for the first time, … -/
def triedOnce : CommandRow :=
  ⟨{ InternalCommand.fresh ⟨.zero⟩ "Ping" .null .epoch with sequence := some 1 },
    some (⟨.zero⟩, .epoch)⟩

/-- … and again after this has failed. -/
def triedAgain : CommandRow :=
  ⟨(Tables.failed triedOnce.command "first" (.fixed 2 .zero) .epoch).1, some (⟨.zero⟩, .epoch)⟩

/-- The row is all that the store in memory has, … -/
def inMemory (row : CommandRow) : World Tables :=
  Memory.still ⟨[row], 1, [], []⟩ .epoch .zero

/-- … and what the peer tells of. -/
def inDatabase (row : CommandRow) : World Peer :=
  let script : List ScriptedReply :=
    [fun _ => .ok (lockedReply (some row)), fun _ => .ok standardReply]
  ⟨{ Peer.silent with script := script }, ⟨fun _ => .epoch, 0⟩, ⟨fun _ => .zero, 0⟩, [], []⟩

/-- The first failure is recorded alike in every respect. -/
theorem failures_recorded_alike_first :
    let memory :=
      (Memory.store.recordFailure ⟨.zero⟩ ⟨.zero⟩ "first" (.fixed 2 .zero) .epoch).run
        (inMemory triedOnce)
    let database := ((store connection .multiThread).recordFailure ⟨.zero⟩ ⟨.zero⟩ "first"
      (.fixed 2 .zero) .epoch).run (inDatabase triedOnce)
    database.1 = memory.1 ∧ ∃ row', memory.2.store.row? ⟨.zero⟩ = some row' ∧ row'.claim = none ∧
      database.2.store.sent
        = [.begin, .lockAttempts ⟨.zero⟩, .writeFailed row'.command, .commit] := by
  intro memory database
  have few : ∀ row, (inMemory triedOnce).store.row? ⟨.zero⟩ = some row →
      row.command.attempts.toNat < 2147483647 := by
    intro row found
    cases found
    decide
  have recorded := failures_recorded_alike (inMemory triedOnce) (inDatabase triedOnce) ⟨.zero⟩
    ⟨.zero⟩ "first" (.fixed 2 .zero) .epoch standardReply [] few ⟨rfl, rfl, rfl⟩ rfl
  obtain ⟨same, ⟨_, _, row', update, done, found, found', free, sent, -, alike⟩ |
    ⟨_, failed, -⟩⟩ := recorded
  · cases found
    cases done
    rw [alike.mpr rfl] at sent
    exact ⟨same, row', found', free, sent⟩
  · cases failed

/-- The last failure is not: the schedule of the first one stays in memory, and the database is told
    to remove it. -/
theorem schedule_kept :
    ∃ memory database row',
      (Memory.store.recordFailure ⟨.zero⟩ ⟨.zero⟩ "second" (.fixed 2 .zero) .epoch).run
        (inMemory triedAgain) = (.ok (.deadLettered 2), memory) ∧
      ((store connection .multiThread).recordFailure ⟨.zero⟩ ⟨.zero⟩ "second" (.fixed 2 .zero)
        .epoch).run (inDatabase triedAgain) = (.ok (.deadLettered 2), database) ∧
      memory.store.row? ⟨.zero⟩ = some row' ∧ row'.command.notBefore ≠ none ∧
      database.store.sent = [.begin, .lockAttempts ⟨.zero⟩,
        .writeFailed { row'.command with notBefore := none }, .commit] := by
  have held : triedAgain.isHeldBy ⟨.zero⟩ = true := rfl
  have talks : Talks (recordFailure connection ⟨.zero⟩ ⟨.zero⟩ "second" (.fixed 2 .zero) .epoch).run
      _ (.ok (.deadLettered 2)) [.begin, .lockAttempts ⟨.zero⟩,
        .writeFailure ⟨.zero⟩ "second" (.deadLettered 2) .epoch, .commit] :=
    talks_recorded held "second" (.fixed 2 .zero) .epoch standardReply
  obtain ⟨database, run, -, -, sent⟩ := talks (inDatabase triedAgain) [] ⟨rfl, rfl, rfl⟩ rfl
  let row' : CommandRow :=
    ⟨(Tables.failed triedAgain.command "second" (.fixed 2 .zero) .epoch).1, none⟩
  have scheduled : row'.command.notBefore
      = some (Timestamp.epoch.offsetBy ((RetryPolicy.fixed 2 .zero).delayForAttempt 1)) := rfl
  have few : triedAgain.command.attempts.toNat < 2147483647 := by decide
  have update : Statement.writeFailure ⟨.zero⟩ "second" (.deadLettered 2) .epoch
      = .writeFailed { row'.command with notBefore := none } :=
    Tables.writeFailure_failed few "second" (.fixed 2 .zero) .epoch
  rw [update] at sent
  refine ⟨_, database, row', rfl, run, rfl, ?_, sent⟩
  rw [scheduled]
  exact Option.some_ne_none _

end Postgres

end SupplierSwitch
