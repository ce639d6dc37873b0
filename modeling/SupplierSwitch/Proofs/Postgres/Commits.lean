import SupplierSwitch.Postgres.Peer
import SupplierSwitch.Proofs.Postgres.Overheard

namespace SupplierSwitch

/-!
# Commits on the wire

A commit goes through a plan of writes, between a begin and a commit. It goes on as long as the
answers are good; at the first one that is not, it stops, and that answer decides what the commit
comes to. This holds whatever the server replies.

* `Postgres.Write`, `Postgres.plan` — what a commit writes, and in which order;
* `Postgres.Write.Accepts`, `Postgres.Refusal` — good answers, and what bad ones come to;
* `Postgres.Goes` — how far a plan is gone through;
* `Postgres.commit_on_the_wire` — what a commit sends, and what comes of it.
-/

namespace Postgres

/-- A step of a commit. -/
inductive Write where
  | begin
  | command (command : InternalCommand)
  | mark (id : CommandId) (claim : ClaimToken)
  | transaction (staged : StagedTransaction)
  | point (staged : StagedPoint)
  | commit

namespace Write

/-- The statement of a step. Marks tell the time. -/
def statement (now : Timestamp) : Write → Statement
  | begin => .begin
  | command c => .insertCommand c
  | mark id claim => .markProcessed id claim now
  | transaction ⟨t, .insert⟩ => .insertTransaction t
  | transaction ⟨t, .update expected⟩ => .updateTransaction t expected
  | point staged => .writePoint staged.point staged.expected
  | commit => .commit

/-- The step comes to nothing if no row is written. -/
def NeedsRow : Write → Prop
  | mark _ _ | transaction ⟨_, .update _⟩ | point _ => True
  | _ => False

/-- What a step is called in failures. -/
def operation : Write → String
  | begin => "begin_transaction"
  | command _ => "insert_command"
  | mark _ _ => "mark_processed"
  | transaction ⟨_, .insert⟩ => "insert_transaction"
  | transaction ⟨_, .update _⟩ => "update_transaction"
  | point _ => "write_accounting_point"
  | commit => "commit_transaction"

/-- What there is already, if the server refuses to have a key twice. Insertions say what they
    insert, all else repeats what the server says. -/
def taken : Write → String → String
  | command c, _ => "command " ++ toString c.id
  | transaction ⟨t, .insert⟩, _ => "transaction " ++ t.id.text
  | write, message => "database error in " ++ write.operation ++ ": " ++ message

/-- A good answer: the statement worked, and wrote a row if it has to. -/
def Accepts (write : Write) : Except SqlFailure Reply → Prop
  | .ok reply => write.NeedsRow → reply.affected ≠ 0
  | .error _ => False

end Write

/-- What a commit writes. -/
def writes (changes : ChangeSet) : List Write :=
  changes.commands.map .command ++ changes.processed.map (fun mark => .mark mark.1 mark.2) ++
    changes.transactions.map .transaction ++ changes.points.map .point

/-- What a commit does, from the begin of the transaction to its commit. -/
def plan (changes : ChangeSet) : List Write :=
  .begin :: writes changes ++ [.commit]

/-! ### Answers -/

/-- What a failure comes to: if the server refuses to have a key twice, something exists already;
    anything else is a failure of the storage. -/
inductive Told (write : Write) : SqlFailure → StoreError → Prop where
  | taken (message : String) :
      Told write (.refused SqlFailure.uniqueViolation message)
        (.alreadyExists (write.taken message))
  | storage {failure : SqlFailure} {detail : String} (other : failure.isUniqueViolation = false)
      (detailed : failure.toStoreError write.operation = .storage detail) :
      Told write failure (.storage detail)

/-- The version that the server tells, if it finds a row. -/
def versionTold : Except SqlFailure Reply → Except SqlFailure (Option Int)
  | .error failure => .error failure
  | .ok reply =>
    match reply.rows.head? with
    | none => .ok none
    | some row => some <$> row.scalar Row.number? "version"

/-- What a bad answer to a step comes to. Where a transaction was not written over, the server is
    asked for its version, and an answer to this question that tells none is a failure like any
    other. -/
inductive Refusal : Write → Except SqlFailure Reply → List Exchange → StoreError → Prop where
  | failed {write : Write} {failure : SqlFailure} {e : StoreError} (told : Told write failure e) :
      Refusal write (.error failure) [] e
  | lost {id : CommandId} {claim : ClaimToken} {reply : Reply} (unwritten : reply.affected = 0) :
      Refusal (.mark id claim) (.ok reply) [] (.claimLost id)
  | raced {t : Transaction} {expected : ExpectedVersion} {reply : Reply}
      {answer : Except SqlFailure Reply} {version : Int} (unwritten : reply.affected = 0)
      (found : versionTold answer = .ok (some version)) :
      Refusal (.transaction ⟨t, .update expected⟩) (.ok reply)
        [⟨.selectTransactionVersion t.id, answer⟩]
        (.conflict ("transaction " ++ t.id.text ++ ": expected " ++ expected.describe ++
          ", found " ++ toString version))
  | missing {t : Transaction} {expected : ExpectedVersion} {reply : Reply}
      {answer : Except SqlFailure Reply} (unwritten : reply.affected = 0)
      (found : versionTold answer = .ok none) :
      Refusal (.transaction ⟨t, .update expected⟩) (.ok reply)
        [⟨.selectTransactionVersion t.id, answer⟩] (.notFound ("transaction " ++ t.id.text))
  | untold {t : Transaction} {expected : ExpectedVersion} {reply : Reply}
      {answer : Except SqlFailure Reply} {failure : SqlFailure} {e : StoreError}
      (unwritten : reply.affected = 0) (failed : versionTold answer = .error failure)
      (told : Told (.transaction ⟨t, .update expected⟩) failure e) :
      Refusal (.transaction ⟨t, .update expected⟩) (.ok reply)
        [⟨.selectTransactionVersion t.id, answer⟩] e
  | overtaken {staged : StagedPoint} {reply : Reply} (unwritten : reply.affected = 0) :
      Refusal (.point staged) (.ok reply) []
        (.conflict ("accounting point " ++ staged.point.gsrn.text ++ ": expected " ++
          staged.expected.describe))

variable {write : Write} {failure : SqlFailure} {reply : Except SqlFailure Reply}
  {lookup lookup' : List Exchange} {e e' : StoreError}

theorem Told.unique (h : Told write failure e) (h' : Told write failure e') : e = e' := by
  cases h with
  | taken message =>
    cases h' with
    | taken => rfl
    | storage other => cases other
  | storage other detailed =>
    cases h' with
    | taken => cases other
    | storage _ detailed' => exact detailed.symm.trans detailed'

/-- A bad answer comes to one thing only. -/
theorem Refusal.unique (h : Refusal write reply lookup e) (h' : Refusal write reply lookup e') :
    e = e' := by
  cases h with
  | failed told => cases h' with | failed told' => exact told.unique told'
  | lost => cases h' with | lost => rfl
  | overtaken => cases h' with | overtaken => rfl
  | raced _ found =>
    cases h' with
    | raced _ found' => cases found.symm.trans found'; rfl
    | missing _ found' => cases found.symm.trans found'
    | untold _ failed => cases found.symm.trans failed
  | missing _ found =>
    cases h' with
    | raced _ found' => cases found.symm.trans found'
    | missing => rfl
    | untold _ failed => cases found.symm.trans failed
  | untold _ failed told =>
    cases h' with
    | raced _ found => cases failed.symm.trans found
    | missing _ found => cases failed.symm.trans found
    | untold _ failed' told' =>
      cases failed.symm.trans failed'
      exact told.unique told'

theorem Refusal.not_accepts (h : Refusal write reply lookup e) : ¬ write.Accepts reply := by
  intro accepts
  cases h with
  | failed => exact accepts
  | lost unwritten => exact accepts trivial unwritten
  | raced unwritten => exact accepts trivial unwritten
  | missing unwritten => exact accepts trivial unwritten
  | untold unwritten => exact accepts trivial unwritten
  | overtaken unwritten => exact accepts trivial unwritten

/-- A failure is told by these two cases. -/
theorem told_of (taken : ∀ message, failure = .refused SqlFailure.uniqueViolation message →
      e = .alreadyExists (write.taken message))
    (other : failure.isUniqueViolation = false → e = failure.toStoreError write.operation) :
    Told write failure e := by
  by_cases unique : failure.isUniqueViolation = true
  · cases failure with
    | refused code message =>
      have code : code = SqlFailure.uniqueViolation := of_decide_eq_true unique
      rw [code, taken message (by rw [code])]
      exact .taken message
    | _ => cases unique
  · have other' : failure.isUniqueViolation = false := Bool.eq_false_iff.mpr unique
    rw [other other']
    cases failure with
    | refused code message =>
      have detailed : (SqlFailure.refused code message).toStoreError write.operation = .storage _ :=
        if_neg (of_decide_eq_false other')
      rw [detailed]
      exact .storage other' detailed
    | _ => exact .storage other' rfl

/-- The store tells a failure so, if it calls the operation by its name. -/
theorem told_toStoreError (named : ∀ message,
      write.taken message = "database error in " ++ write.operation ++ ": " ++ message)
    (failure : SqlFailure) : Told write failure (failure.toStoreError write.operation) := by
  refine told_of (fun message same => ?_) fun _ => rfl
  rw [same, named]
  rfl

/-! ### Going through a plan -/

/-- A plan is gone through up to the first bad answer: the answers, what is asked besides, and the
    result. -/
inductive Goes : List Write → List (Write × Except SqlFailure Reply) → List Exchange →
    Except StoreError Unit → Prop where
  | done : Goes [] [] [] (.ok ())
  | accepted {write : Write} {rest : List Write} {reply : Except SqlFailure Reply}
      {answered : List (Write × Except SqlFailure Reply)} {lookup : List Exchange}
      {result : Except StoreError Unit} (accepts : write.Accepts reply)
      (further : Goes rest answered lookup result) :
      Goes (write :: rest) ((write, reply) :: answered) lookup result
  | refused {write : Write} {rest : List Write} {reply : Except SqlFailure Reply}
      {lookup : List Exchange} {e : StoreError} (refusal : Refusal write reply lookup e) :
      Goes (write :: rest) [(write, reply)] lookup (.error e)

namespace Goes

variable {steps more : List Write} {answered answered' : List (Write × Except SqlFailure Reply)}
  {result : Except StoreError Unit}

/-- One plan after another. -/
theorem append (first : Goes steps answered lookup (.ok ()))
    (second : Goes more answered' lookup' result) :
    lookup = [] ∧ Goes (steps ++ more) (answered ++ answered') lookup' result := by
  generalize ended : Except.ok () = outcome at first
  induction first with
  | done => exact ⟨rfl, second⟩
  | accepted accepts _ ih =>
    obtain ⟨none, goes⟩ := ih ended
    exact ⟨none, .accepted accepts goes⟩
  | refused => cases ended

/-- What follows a plan that is given up does not matter. -/
theorem stopped (first : Goes steps answered lookup (.error e)) (more : List Write) :
    Goes (steps ++ more) answered lookup (.error e) := by
  generalize ended : Except.error e = outcome at first
  induction first with
  | done => cases ended
  | accepted accepts _ ih => exact .accepted accepts (ih ended)
  | refused refusal => exact .refused refusal

/-- What is answered is the beginning of the plan. -/
theorem sent (h : Goes steps answered lookup result) : answered.map Prod.fst <+: steps := by
  induction h with
  | done => exact List.prefix_refl []
  | accepted _ _ ih => exact (List.prefix_cons_inj _).mpr ih
  | refused => exact List.prefix_append [_] _

/-- Either all answers are good, and all of the plan is done, or the last one is the first bad one
    and decides the result. -/
theorem outcome (h : Goes steps answered lookup result) :
    (result = .ok () ∧ lookup = [] ∧ answered.map Prod.fst = steps ∧
      ∀ step ∈ answered, step.1.Accepts step.2) ∨
    ∃ earlier write reply e, result = .error e ∧ answered = earlier ++ [(write, reply)] ∧
      (∀ step ∈ earlier, step.1.Accepts step.2) ∧ Refusal write reply lookup e := by
  induction h with
  | done => exact .inl ⟨rfl, rfl, rfl, List.forall_mem_nil _⟩
  | accepted accepts _ ih =>
    obtain ⟨done, none, all, good⟩ | ⟨earlier, write, reply, e, failed, rfl, good, refusal⟩ := ih
    · exact .inl ⟨done, none, congrArg _ all, List.forall_mem_cons.mpr ⟨accepts, good⟩⟩
    · exact .inr ⟨_ :: earlier, write, reply, e, failed, rfl,
        List.forall_mem_cons.mpr ⟨accepts, good⟩, refusal⟩
  | refused refusal => exact .inr ⟨[], _, _, _, rfl, rfl, List.forall_mem_nil _, refusal⟩

end Goes

/-! ### What the store does -/

/-- The exchanges of answered steps. -/
def exchanges (now : Timestamp) (answered : List (Write × Except SqlFailure Reply)) :
    List Exchange :=
  answered.map fun step => ⟨step.1.statement now, step.2⟩

/-- Work that goes through the steps. -/
def Does (now : Timestamp) (steps : List Write) (result : Except StoreError Unit)
    (said : List Exchange) : Prop :=
  ∃ answered lookup, Goes steps answered lookup result ∧
    said = exchanges now answered ++ lookup

open Service

variable {σ α : Type} {c : Connection σ} {now : Timestamp} {steps more : List Write}
  {w : World σ}

theorem does_accepted (accepts : write.Accepts reply) :
    Does now [write] (.ok ()) [⟨write.statement now, reply⟩] :=
  ⟨_, _, .accepted accepts .done, rfl⟩

theorem does_refused (refusal : Refusal write reply lookup e) :
    Does now [write] (.error e) (⟨write.statement now, reply⟩ :: lookup) :=
  ⟨_, _, .refused refusal, rfl⟩

/-- Steps after steps. -/
theorem says_and {query : Query σ Unit} {query' : Query (σ × List Exchange) Unit}
    {next : Unit → Query σ Unit} {next' : Unit → Query (σ × List Exchange) Unit}
    (first : Says w query.run query'.run (Does now steps))
    (second : ∀ w', Says w' (next ()).run (next' ()).run (Does now more)) :
    Says w (query >>= next).run (query' >>= next').run (Does now (steps ++ more)) := by
  refine first.and (fun e said does => ?_) fun _ said w' does => (second w').imp ?_
  · obtain ⟨answered, lookup, goes, rfl⟩ := does
    exact ⟨answered, lookup, goes.stopped more, rfl⟩
  · obtain ⟨answered, lookup, goes, rfl⟩ := does
    rintro result _ ⟨answered', lookup', goes', rfl⟩
    obtain ⟨rfl, both⟩ := goes.append goes'
    refine ⟨_, lookup', both, ?_⟩
    rw [exchanges, exchanges, exchanges, List.map_append, List.append_nil, List.append_assoc]

/-- A step for every member of a list. -/
theorem says_forM {work : α → Query σ Unit} {work' : α → Query (σ × List Exchange) Unit}
    {step : α → Write} (l : List α)
    (h : ∀ a w, Says w (work a).run (work' a).run (Does now [step a])) (w : World σ) :
    Says w (l.forM work).run (l.forM work').run (Does now (l.map step)) := by
  induction l generalizing w with
  | nil => exact .pure ⟨_, _, .done, rfl⟩
  | cons a l ih => exact says_and (h a w) ih

theorem says_insert (write : Write) (now : Timestamp) {operation what : String}
    (called : write.operation = operation)
    (named : ∀ message, write.taken message = what) (free : ¬ write.NeedsRow) (w : World σ) :
    Says w (insert c operation what (write.statement now)).run
      (insert c.overheard operation what (write.statement now)).run (Does now [write]) := by
  have sent : Says w (c.send (write.statement now)) (c.overheard.send (write.statement now))
      fun reply said => said = [⟨write.statement now, reply⟩] := .send fun _ => rfl
  refine sent.bind fun reply said w' same => ?_
  subst same
  cases reply with
  | ok reply => exact .pure (does_accepted fun needed => absurd needed free)
  | error failure =>
    have told : Told write failure (if failure.isUniqueViolation then .alreadyExists what
        else failure.toStoreError operation) := by
      refine told_of (fun message same => ?_) fun other => ?_
      · rw [same, named]
        rfl
      · rw [other, called]
        rfl
    dsimp only
    by_cases unique : failure.isUniqueViolation = true
    · rw [if_pos unique] at told
      rw [if_pos unique, if_pos unique]
      exact .pure (does_refused (.failed told))
    · rw [if_neg unique] at told
      rw [if_neg unique, if_neg unique]
      exact .pure (does_refused (.failed told))

/-- A step that has to write a row, and what is done if it does not. -/
theorem says_guarded (write : Write) (now : Timestamp) {missed : Query σ Unit}
    {missed' : Query (σ × List Exchange) Unit}
    (named : ∀ message,
      write.taken message = "database error in " ++ write.operation ++ ": " ++ message)
    (misses : ∀ reply w, reply.affected = 0 → Says w missed.run missed'.run fun result said =>
      Does now [write] result (⟨write.statement now, .ok reply⟩ :: said)) (w : World σ) :
    Says w
      (c.execute write.operation (write.statement now) >>= fun reply =>
        if reply.affected = 0 then missed else pure ()).run
      (c.overheard.execute write.operation (write.statement now) >>= fun reply =>
        if reply.affected = 0 then missed' else pure ()).run
      (Does now [write]) := by
  refine .ask (fun failure => does_refused (.failed (told_toStoreError named failure)))
    fun reply w' => ?_
  by_cases unwritten : reply.affected = 0
  · rw [if_pos unwritten, if_pos unwritten]
    exact misses reply w' unwritten
  · rw [if_neg unwritten, if_neg unwritten]
    exact .pure (does_accepted fun _ => unwritten)

theorem says_markProcessed (mark : CommandId × ClaimToken) (w : World σ) :
    Says w (markProcessed c now mark).run (markProcessed c.overheard now mark).run
      (Does now [.mark mark.1 mark.2]) :=
  says_guarded (.mark mark.1 mark.2) now (fun _ => rfl)
    (fun _ _ unwritten => .pure (does_refused (.lost unwritten))) w

theorem says_writePoint (staged : StagedPoint) (w : World σ) :
    Says w (writePoint c staged).run (writePoint c.overheard staged).run
      (Does now [.point staged]) :=
  says_guarded (.point staged) now (fun _ => rfl)
    (fun _ _ unwritten => .pure (does_refused (.overtaken unwritten))) w

theorem says_insertCommand (command : InternalCommand) (w : World σ) :
    Says w (insertCommand c command).run (insertCommand c.overheard command).run
      (Does now [.command command]) :=
  says_insert (.command command) now rfl (fun _ => rfl) id w

/-- The version of a transaction is asked for in one statement. -/
theorem says_version {id : TransactionId}
    {holds : Except StoreError (Option Int) → List Exchange → Prop}
    (untold : ∀ answer failure, versionTold answer = .error failure →
      holds (.error (failure.toStoreError "update_transaction"))
        [⟨.selectTransactionVersion id, answer⟩])
    (told : ∀ answer version, versionTold answer = .ok version →
      holds (.ok version) [⟨.selectTransactionVersion id, answer⟩]) (w : World σ) :
    Says w (c.fetchNumber "update_transaction" "version" (.selectTransactionVersion id)).run
      (c.overheard.fetchNumber "update_transaction" "version" (.selectTransactionVersion id)).run
      holds := by
  rw [Connection.fetchNumber, Connection.fetchNumber]
  refine .fetchOptional (fun failure => untold (.error failure) failure rfl) fun reply w' => ?_
  cases found : reply.rows.head? with
  | none => exact .pure (told (.ok reply) none (by rw [versionTold, found]))
  | some row =>
    dsimp only
    have same : versionTold (.ok reply) = some <$> row.scalar Row.number? "version" := by
      rw [versionTold, found]
    cases read : row.scalar Row.number? "version" with
    | error failure =>
      rw [read] at same
      exact .pure (untold (.ok reply) failure same)
    | ok version =>
      rw [read] at same
      exact .pure (told (.ok reply) (some version) same)

theorem says_writeTransaction (staged : StagedTransaction) (w : World σ) :
    Says w (writeTransaction c staged).run (writeTransaction c.overheard staged).run
      (Does now [.transaction staged]) := by
  obtain ⟨t, _ | expected⟩ := staged
  · exact says_insert (.transaction ⟨t, .insert⟩) now rfl (fun _ => rfl) id w
  · refine says_guarded (.transaction ⟨t, .update expected⟩) now (fun _ => rfl)
      (fun reply w' unwritten => ?_) w
    -- Whatever the server replies to the question for the version, the commit has failed.
    have asks : Says w'
        (c.fetchNumber "update_transaction" "version" (.selectTransactionVersion t.id)).run
        (c.overheard.fetchNumber "update_transaction" "version"
          (.selectTransactionVersion t.id)).run fun result said =>
        (∀ e, result = .error e →
          Refusal (.transaction ⟨t, .update expected⟩) (.ok reply) said e) ∧
        ∀ version, result = .ok version → ∃ answer, versionTold answer = .ok version ∧
          said = [⟨.selectTransactionVersion t.id, answer⟩] := by
      refine says_version (fun answer failure failed => ⟨?_, nofun⟩)
        (fun answer version told => ⟨nofun, ?_⟩) w'
      · rintro _ ⟨⟩
        exact .untold unwritten failed (told_toStoreError (fun _ => rfl) failure)
      · rintro _ ⟨⟩
        exact ⟨answer, told, rfl⟩
    refine asks.and (fun e said failed => does_refused (failed.1 e rfl))
      fun version said w'' answered => ?_
    obtain ⟨answer, told, rfl⟩ := answered.2 version rfl
    cases version with
    | none => exact .pure (does_refused (.missing unwritten told))
    | some version => exact .pure (does_refused (.raced unwritten told))

theorem says_writes (changes : ChangeSet) (w : World σ) :
    Says w
      (do
        changes.commands.forM (insertCommand c)
        changes.processed.forM (markProcessed c now)
        changes.transactions.forM (writeTransaction c)
        changes.points.forM (writePoint c) : Query σ Unit).run
      (do
        changes.commands.forM (insertCommand c.overheard)
        changes.processed.forM (markProcessed c.overheard now)
        changes.transactions.forM (writeTransaction c.overheard)
        changes.points.forM (writePoint c.overheard) : Query (σ × List Exchange) Unit).run
      (Does now (writes changes)) := by
  rw [writes, List.append_assoc, List.append_assoc]
  refine says_and (says_forM _ says_insertCommand w) fun w => ?_
  refine says_and (says_forM _ says_markProcessed w) fun w => ?_
  refine says_and (says_forM _ says_writeTransaction w) fun w => ?_
  exact says_forM _ says_writePoint w

/-! ### Commits -/

variable {changes : ChangeSet} {answered : List (Write × Except SqlFailure Reply)}
  {result : Except StoreError Unit} {said : List Exchange}

/-- The end of a commit that was given up: the transaction is rolled back if it has begun. -/
inductive Undone : Except StoreError Unit → List (Write × Except SqlFailure Reply) →
    List Exchange → Prop where
  | committed (answered : List (Write × Except SqlFailure Reply)) : Undone (.ok ()) answered []
  | unbegun (e : StoreError) (failure : SqlFailure) :
      Undone (.error e) [(.begin, .error failure)] []
  | rolledBack (e : StoreError) (begun : Reply)
      (further : List (Write × Except SqlFailure Reply)) (back : Except SqlFailure Reply) :
      Undone (.error e) ((.begin, .ok begun) :: further) [⟨.rollback, back⟩]

/-- A transaction around the writes goes through the plan. -/
theorem goes_of_transacts (h : Connection.Transacts (Does now (writes changes)) result said) :
    ∃ answered lookup undo, said = exchanges now answered ++ lookup ++ undo ∧
      Goes (plan changes) answered lookup result ∧ Undone result answered undo := by
  have begins (begun : Reply) : Write.begin.Accepts (.ok begun) := nofun
  have commits (reply : Reply) : Write.commit.Accepts (.ok reply) := nofun
  cases h with
  | unbegun failure =>
    exact ⟨[(.begin, .error failure)], [], [], rfl,
      .refused (.failed (told_toStoreError (fun _ => rfl) failure)), .unbegun _ _⟩
  | failed begun fails back =>
    obtain ⟨answered, lookup, goes, rfl⟩ := fails
    exact ⟨(.begin, .ok begun) :: answered, lookup, [⟨.rollback, back⟩], rfl,
      .accepted (begins begun) (goes.stopped _), .rolledBack _ _ _ _⟩
  | committed begun works reply =>
    obtain ⟨answered, lookup, goes, rfl⟩ := works
    obtain ⟨rfl, all⟩ := goes.append (.accepted (commits reply) .done)
    refine ⟨(.begin, .ok begun) :: (answered ++ [(.commit, .ok reply)]), [], [], ?_,
      .accepted (begins begun) all, .committed _⟩
    simp [exchanges, Write.statement]
  | uncommitted begun works failure back =>
    obtain ⟨answered, lookup, goes, rfl⟩ := works
    have refused : Goes [.commit] [(.commit, .error failure)] []
        (.error (failure.toStoreError "commit_transaction")) :=
      .refused (.failed (told_toStoreError (fun _ => rfl) failure))
    obtain ⟨rfl, all⟩ := goes.append refused
    refine ⟨(.begin, .ok begun) :: (answered ++ [(.commit, .error failure)]), [],
      [⟨.rollback, back⟩], ?_, .accepted (begins begun) all, .rolledBack _ _ _ _⟩
    simp [exchanges, Write.statement]

theorem commit_notMem (changes : ChangeSet) : Write.commit ∉ .begin :: writes changes := by
  simp [writes]

/-- The transaction is committed last, and only after good answers to all that is to be written. -/
theorem Goes.commit_last (h : Goes (plan changes) answered lookup result)
    (mem : (.commit, reply) ∈ answered) :
    ∃ earlier, answered = earlier ++ [(.commit, reply)] ∧
      earlier.map Prod.fst = .begin :: writes changes ∧
      ∀ step ∈ earlier, step.1.Accepts step.2 := by
  have listed : Write.commit ∈ answered.map Prod.fst := List.mem_map_of_mem mem
  obtain all | short := List.prefix_concat_iff.mp h.sent
  · obtain ⟨earlier, last, rfl, sent, closing⟩ := List.map_eq_append_iff.mp all
    obtain ⟨⟨_, reply'⟩, rfl, rfl⟩ := List.map_eq_singleton_iff.mp closing
    have here : reply = reply' := by
      obtain before | last := List.mem_append.mp mem
      · exact absurd (sent ▸ List.mem_map_of_mem before) (commit_notMem changes)
      · exact congrArg Prod.snd (List.mem_singleton.mp last)
    refine ⟨earlier, by rw [here], sent, ?_⟩
    obtain ⟨-, -, -, good⟩ | ⟨earlier', _, _, _, -, same, good, -⟩ := h.outcome
    · exact fun step mem => good step (List.mem_append_left _ mem)
    · rwa [(List.append_inj' same rfl).1]
  · exact absurd (short.subset listed) (commit_notMem changes)

theorem Goes.committed_iff (h : Goes (plan changes) answered lookup result) :
    result = .ok () ↔ ∃ reply, (Write.commit, .ok reply) ∈ answered := by
  constructor
  · rintro rfl
    obtain ⟨-, -, all, good⟩ | ⟨_, _, _, _, failed, -⟩ := h.outcome
    · have listed : Write.commit ∈ answered.map Prod.fst := by
        rw [all]
        exact List.mem_append_right _ (List.mem_singleton_self _)
      obtain ⟨⟨_, reply⟩, mem, rfl⟩ := List.mem_map.mp listed
      cases reply with
      | ok reply => exact ⟨reply, mem⟩
      | error failure => exact (good _ mem).elim
    · cases failed
  · rintro ⟨reply, mem⟩
    obtain ⟨earlier, closing, -⟩ := h.commit_last mem
    obtain ⟨done, -⟩ | ⟨_, _, _, _, -, same, -, refusal⟩ := h.outcome
    · exact done
    · obtain ⟨-, last⟩ := List.append_inj' (closing.symm.trans same) rfl
      cases List.singleton_inj.mp last
      exact absurd nofun refusal.not_accepts

/-- The first bad answer decides what a commit fails with. -/
theorem Goes.failed_iff (h : Goes steps answered lookup result) (e : StoreError) :
    result = .error e ↔ ∃ earlier write reply, answered = earlier ++ [(write, reply)] ∧
      (∀ step ∈ earlier, step.1.Accepts step.2) ∧ ¬ write.Accepts reply ∧
      Refusal write reply lookup e := by
  obtain ⟨done, -, -, good⟩ | ⟨earlier, write, reply, e', failed, rfl, good, refusal⟩ := h.outcome
  · refine ⟨fun failed => (by cases done.symm.trans failed), ?_⟩
    rintro ⟨earlier, write, reply, rfl, -, bad, -⟩
    exact absurd (good _ (List.mem_append_right _ (List.mem_singleton_self _))) bad
  · constructor
    · intro failed'
      cases failed.symm.trans failed'
      exact ⟨earlier, write, reply, rfl, good, refusal.not_accepts, refusal⟩
    · rintro ⟨earlier', write', reply', same, -, -, refusal'⟩
      obtain ⟨-, last⟩ := List.append_inj' same rfl
      cases List.singleton_inj.mp last
      rw [failed, refusal.unique refusal']

/-- Whatever the server replies, a commit sends a beginning of the plan. It commits the transaction
    only after good answers to all the rest, and it succeeds if and only if this is acknowledged.
    Otherwise the last answer is the first bad one, which decides the failure; the version of a
    transaction may then be asked for, and what has begun is rolled back. -/
theorem commit_on_the_wire (c : Connection σ) (changes : ChangeSet) (w : World σ) :
    ∃ result done answered lookup undo,
      (commitChanges c changes).run.run w = (result, done) ∧
      (commitChanges c.overheard changes).run.run (w.beside [])
        = (result, done.beside
            (exchanges (w.clock.reading w.clock.taken) answered ++ lookup ++ undo)) ∧
      answered.map Prod.fst <+: plan changes ∧
      (∀ reply, (.commit, reply) ∈ answered → ∃ earlier,
        answered = earlier ++ [(.commit, reply)] ∧
        earlier.map Prod.fst = .begin :: writes changes ∧
        ∀ step ∈ earlier, step.1.Accepts step.2) ∧
      (result = .ok () ↔ ∃ reply, (Write.commit, .ok reply) ∈ answered) ∧
      (∀ e, result = .error e ↔ ∃ earlier write reply, answered = earlier ++ [(write, reply)] ∧
        (∀ step ∈ earlier, step.1.Accepts step.2) ∧ ¬ write.Accepts reply ∧
        Refusal write reply lookup e) ∧
      (result = .ok () → lookup = []) ∧
      Undone result answered undo := by
  have sends : Says w (commitChanges c changes).run (commitChanges c.overheard changes).run
      (Connection.Transacts (Does (w.clock.reading w.clock.taken) (writes changes))) :=
    .traced (.timed fun w' => Connection.says_inTransaction (says_writes changes) w')
  obtain ⟨result, done, said, alone, heard, transacts⟩ := sends
  obtain ⟨answered, lookup, undo, rfl, goes, undone⟩ := goes_of_transacts transacts
  refine ⟨result, done, answered, lookup, undo, alone, heard [], goes.sent,
    fun _ mem => goes.commit_last mem, goes.committed_iff, goes.failed_iff, ?_, undone⟩
  rintro rfl
  obtain ⟨-, none, -⟩ | ⟨_, _, _, _, failed, -⟩ := goes.outcome
  · exact none
  · cases failed

/-- A transaction to be written over its first version … -/
private def overwritten : Transaction :=
  .fresh ⟨"T-1", by decide +kernel, by decide⟩

/-- … while the server has the second one. -/
private def overwriting : Except StoreError Unit × World Peer :=
  (commitChanges Peer.connection ⟨[], [], [⟨overwritten, .update (.exact 1)⟩], []⟩).run.run
    ⟨{ Peer.silent with
        script := [fun _ => .ok ⟨[], 0⟩, fun _ => .ok ⟨[[("version", .number 2)]], 1⟩] },
      ⟨fun _ => .epoch, 0⟩, ⟨fun _ => .zero, 0⟩, [], []⟩

example : overwriting.1 = .error (.conflict "transaction T-1: expected Exact(1), found 2") ∧
    overwriting.2.store.sent = [.begin, .updateTransaction overwritten (.exact 1),
      .selectTransactionVersion overwritten.id, .rollback] :=
  ⟨rfl, rfl⟩

end Postgres

end SupplierSwitch
