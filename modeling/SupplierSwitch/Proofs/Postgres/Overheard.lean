import SupplierSwitch.Postgres.Store
import SupplierSwitch.Proofs.Outbox.Watched

namespace SupplierSwitch

/-!
# Overheard connections

To say how work goes about a server, whatever that server replies, its statements are written down
together with their replies: the overheard connection does what the connection does, and keeps a
list of these exchanges beside the state. Work on the two connections is described side by side.

* `Exchange` and `Connection.overheard` — a statement with its reply, and the connection that keeps
  them;
* `Service.Says` — the same work on both connections, its result, and what was said in it;
* `Service.Says.and` — queries, which go on only where they succeed;
* `Connection.Transacts` — how a transaction may go, by the work in it.
-/

/-- A statement with the reply to it. -/
structure Exchange where
  statement : Statement
  reply : Except SqlFailure Reply

/-- The connection, with all exchanges written down in order. -/
def Connection.overheard {σ : Type} (c : Connection σ) : Connection (σ × List Exchange) :=
  { c.beside (List Exchange) with
    send := fun s => do
      let reply ← Service.onFirst (c.send s)
      Service.changeSecond (· ++ [⟨s, reply⟩])
      pure reply }

variable {σ α β : Type}

namespace Service

/-- From a world on, the work alone and the overheard work come to one result and to one world, and
    what holds of the result and of what was said in the overheard work. -/
def Says (w : World σ) (alone : Service σ α) (heard : Service (σ × List Exchange) α)
    (holds : α → List Exchange → Prop) : Prop :=
  ∃ a w' said, alone.run w = (a, w') ∧
    (∀ log, heard.run (w.beside log) = (a, w'.beside (log ++ said))) ∧ holds a said

variable {w : World σ} {alone : Service σ α} {heard : Service (σ × List Exchange) α}
  {holds : α → List Exchange → Prop} {goes : β → List Exchange → Prop}

namespace Says

theorem imp {holds' : α → List Exchange → Prop} (h : Says w alone heard holds)
    (implies : ∀ a said, holds a said → holds' a said) : Says w alone heard holds' := by
  obtain ⟨a, w', said, runs, hears, held⟩ := h
  exact ⟨a, w', said, runs, hears, implies a said held⟩

theorem pure {a : α} (h : holds a []) : Says w (Pure.pure a) (Pure.pure a) holds := by
  refine ⟨a, w, [], rfl, fun log => ?_, h⟩
  rw [List.append_nil]
  rfl

theorem bind {next : α → Service σ β} {next' : α → Service (σ × List Exchange) β}
    (first : Says w alone heard holds)
    (rest : ∀ a said w', holds a said →
      Says w' (next a) (next' a) fun b further => goes b (said ++ further)) :
    Says w (alone >>= next) (heard >>= next') goes := by
  obtain ⟨a, w', said, runs, hears, held⟩ := first
  obtain ⟨b, w'', further, runs', hears', held'⟩ := rest a said w' held
  refine ⟨b, w'', said ++ further, (run_bind runs).trans runs', fun log => ?_, held'⟩
  rw [run_bind (hears log), hears', List.append_assoc]

theorem report {holds : Unit → List Exchange → Prop} (notice : Notice) (h : holds () []) :
    Says w (Service.report notice) (Service.report notice) holds := by
  refine ⟨_, _, [], rfl, fun log => ?_, h⟩
  rw [List.append_nil]
  rfl

theorem inSpan {span : Span}
    (h : Says { w with spans := span :: w.spans } alone heard holds) :
    Says w (Service.inSpan span alone) (Service.inSpan span heard) holds := by
  obtain ⟨a, w', said, runs, hears, held⟩ := h
  let leave {τ : Type} (done : α × World τ) : α × World τ :=
    (done.1, { done.2 with spans := w.spans })
  exact ⟨a, { w' with spans := w.spans }, said, congrArg leave runs,
    fun log => congrArg leave (hears log), held⟩

/-! ### Statements and queries -/

theorem send {c : Connection σ} {s : Statement}
    {holds : Except SqlFailure Reply → List Exchange → Prop}
    (h : ∀ reply, holds reply [⟨s, reply⟩]) : Says w (c.send s) (c.overheard.send s) holds :=
  ⟨_, _, _, rfl, fun _ => rfl, h _⟩

variable {query : Query σ α} {query' : Query (σ × List Exchange) α}
  {holds : Except StoreError α → List Exchange → Prop}
  {goes : Except StoreError β → List Exchange → Prop}

/-- The second query goes on where the first one succeeds, and nothing more is said where it
    fails. -/
theorem and {next : α → Query σ β} {next' : α → Query (σ × List Exchange) β}
    (first : Says w query.run query'.run holds)
    (fails : ∀ e said, holds (.error e) said → goes (.error e) said)
    (rest : ∀ a said w', holds (.ok a) said →
      Says w' (next a).run (next' a).run fun b further => goes b (said ++ further)) :
    Says w (query >>= next).run (query' >>= next').run goes := by
  rw [ExceptT.run_bind, ExceptT.run_bind]
  refine first.bind fun result said w' held => ?_
  cases result with
  | error e =>
    refine .pure ?_
    rw [List.append_nil]
    exact fails e said held
  | ok a => exact rest a said w' held

theorem execute {c : Connection σ} {s : Statement} {operation : String}
    {holds : Except StoreError Reply → List Exchange → Prop}
    (refused : ∀ failure, holds (.error (failure.toStoreError operation)) [⟨s, .error failure⟩])
    (answered : ∀ reply, holds (.ok reply) [⟨s, .ok reply⟩]) :
    Says w (c.execute operation s).run (c.overheard.execute operation s).run holds := by
  have sent : Says w (c.send s) (c.overheard.send s) fun reply said => said = [⟨s, reply⟩] :=
    send fun _ => rfl
  refine sent.bind fun reply said w' same => .pure ?_
  subst same
  cases reply with
  | error failure => exact refused failure
  | ok reply => exact answered reply

/-- A statement is sent, and its reply decides how to go on. -/
theorem ask {c : Connection σ} {s : Statement} {operation : String}
    {next : Reply → Query σ β} {next' : Reply → Query (σ × List Exchange) β}
    (refused : ∀ failure, goes (.error (failure.toStoreError operation)) [⟨s, .error failure⟩])
    (rest : ∀ reply w', Says w' (next reply).run (next' reply).run fun b further =>
      goes b (⟨s, .ok reply⟩ :: further)) :
    Says w (c.execute operation s >>= next).run (c.overheard.execute operation s >>= next').run
      goes := by
  have asks : Says w (c.execute operation s).run (c.overheard.execute operation s).run
      fun result said => ∃ reply, result = reply.mapError (·.toStoreError operation) ∧
        said = [⟨s, reply⟩] :=
    execute (fun failure => ⟨.error failure, rfl, rfl⟩) fun reply => ⟨.ok reply, rfl, rfl⟩
  refine asks.and (fun e said failed => ?_) fun reply said w' answered => ?_
  · obtain ⟨failure | _, same, rfl⟩ := failed
    · cases same
      exact refused failure
    · cases same
  · obtain ⟨_ | reply, same, rfl⟩ := answered
    · cases same
    · cases same
      exact rest reply w'

/-- The first row of the reply decides how to go on. -/
theorem fetchOptional {c : Connection σ} {s : Statement} {operation : String}
    {next : Option Row → Query σ β} {next' : Option Row → Query (σ × List Exchange) β}
    (refused : ∀ failure, goes (.error (failure.toStoreError operation)) [⟨s, .error failure⟩])
    (rest : ∀ reply w', Says w' (next reply.rows.head?).run (next' reply.rows.head?).run
      fun b further => goes b (⟨s, .ok reply⟩ :: further)) :
    Says w (c.fetchOptional operation s >>= next).run
      (c.overheard.fetchOptional operation s >>= next').run goes := by
  rw [Connection.fetchOptional, Connection.fetchOptional, bind_assoc, bind_assoc]
  refine .ask refused fun reply w' => ?_
  rw [pure_bind, pure_bind]
  exact rest reply w'

/-- A row is read, and nothing is said. -/
theorem decode {read : Row → Except SqlFailure α} {row : Row} {next : α → Query σ β}
    {next' : α → Query (σ × List Exchange) β}
    (unreadable : ∀ failure, read row = .error failure → goes (.error failure.ofDecoding) [])
    (rest : ∀ a, read row = .ok a → Says w (next a).run (next' a).run goes) :
    Says w (Connection.decode read row >>= next).run (Connection.decode read row >>= next').run
      goes := by
  unfold Connection.decode
  cases result : read row with
  | error failure => exact .pure (unreadable failure result)
  | ok a => exact rest a result

/-- A query that begins with a look at the clock, … -/
theorem timed {next : Timestamp → Query σ β} {next' : Timestamp → Query (σ × List Exchange) β}
    (rest : ∀ w', Says w' (next (w.clock.reading w.clock.taken)).run
      (next' (w.clock.reading w.clock.taken)).run goes) :
    Says w (do let now ← (Service.now : Service σ Timestamp); next now : Query σ β).run
      (do let now ← (Service.now : Service (σ × List Exchange) Timestamp)
          next' now : Query (σ × List Exchange) β).run goes :=
  rest { w with clock := { w.clock with taken := w.clock.taken + 1 } }

/-- … and one that begins with a fresh identifier. -/
theorem supplied {next : Uuid → Query σ β} {next' : Uuid → Query (σ × List Exchange) β}
    (rest : ∀ w', Says w' (next (w.ids.issue w.ids.issued)).run
      (next' (w.ids.issue w.ids.issued)).run goes) :
    Says w (do let id ← (Service.freshId : Service σ Uuid); next id : Query σ β).run
      (do let id ← (Service.freshId : Service (σ × List Exchange) Uuid)
          next' id : Query (σ × List Exchange) β).run goes :=
  rest { w with ids := { w.ids with issued := w.ids.issued + 1 } }

theorem traced {span : Span}
    (h : Says { w with spans := span :: w.spans } query.run query'.run holds) :
    Says w (Postgres.traced span query).run (Postgres.traced span query').run holds := by
  refine .inSpan (h.bind fun result said w' held => ?_)
  rw [← List.append_nil said] at held
  cases result with
  | error e =>
    have reports : Says w' (Service.report (.operationFailed e.message))
        (Service.report (.operationFailed e.message)) fun _ further => further = [] := .report _ rfl
    refine reports.bind fun _ further _ same => .pure ?_
    subst same
    exact held
  | ok a => exact .pure held

end Says

end Service

/-! ### Transactions -/

namespace Connection

/-- How a transaction may go, if its work may go so: it does not begin; its work fails; it is
    committed; or the commit fails. Whatever has begun and is not committed is rolled back. -/
inductive Transacts (work : Except StoreError α → List Exchange → Prop) :
    Except StoreError α → List Exchange → Prop where
  | unbegun (failure : SqlFailure) :
      Transacts work (.error (failure.toStoreError "begin_transaction"))
        [⟨.begin, .error failure⟩]
  | failed {e : StoreError} {said : List Exchange} (begun : Reply) (fails : work (.error e) said)
      (back : Except SqlFailure Reply) :
      Transacts work (.error e) (⟨.begin, .ok begun⟩ :: said ++ [⟨.rollback, back⟩])
  | committed {a : α} {said : List Exchange} (begun : Reply) (works : work (.ok a) said)
      (reply : Reply) :
      Transacts work (.ok a) (⟨.begin, .ok begun⟩ :: said ++ [⟨.commit, .ok reply⟩])
  | uncommitted {a : α} {said : List Exchange} (begun : Reply) (works : work (.ok a) said)
      (failure : SqlFailure) (back : Except SqlFailure Reply) :
      Transacts work (.error (failure.toStoreError "commit_transaction"))
        (⟨.begin, .ok begun⟩ :: said ++ [⟨.commit, .error failure⟩] ++ [⟨.rollback, back⟩])

/-- What is said in a transaction and is not part of its frame is said in its work. -/
theorem Transacts.mem_work {work : Except StoreError α → List Exchange → Prop}
    {result : Except StoreError α} {said : List Exchange} {x : Exchange}
    (h : Transacts work result said) (mem : x ∈ said)
    (inner : x.statement ≠ .begin ∧ x.statement ≠ .commit ∧ x.statement ≠ .rollback) :
    ∃ result' said', work result' said' ∧ x ∈ said' ∧ said' ⊆ said ∧
      ∀ a, result = .ok a → result' = .ok a := by
  obtain ⟨begin, commit, rollback⟩ := inner
  cases h with
  | unbegun failure =>
    cases List.mem_singleton.mp mem
    exact absurd rfl begin
  | @failed e said' begun fails back =>
    refine ⟨_, said', fails, ?_, fun y within => by simp [within], nofun⟩
    simp only [List.cons_append, List.mem_cons, List.mem_append, List.not_mem_nil, or_false] at mem
    obtain rfl | within | rfl := mem
    · exact absurd rfl begin
    · exact within
    · exact absurd rfl rollback
  | @committed a said' begun works reply =>
    refine ⟨_, said', works, ?_, fun y within => by simp [within], fun _ done => done⟩
    simp only [List.cons_append, List.mem_cons, List.mem_append, List.not_mem_nil, or_false] at mem
    obtain rfl | within | rfl := mem
    · exact absurd rfl begin
    · exact within
    · exact absurd rfl commit
  | @uncommitted a said' begun works failure back =>
    refine ⟨_, said', works, ?_, fun y within => by simp [within], nofun⟩
    simp only [List.cons_append, List.mem_cons, List.mem_append, List.not_mem_nil, or_false] at mem
    obtain rfl | (within | rfl) | rfl := mem
    · exact absurd rfl begin
    · exact within
    · exact absurd rfl commit
    · exact absurd rfl rollback

/-- A transaction that has begun may go so, but for the end of one that failed. -/
def Closes (work : Except StoreError α → List Exchange → Prop) (begun : Reply) :
    Except StoreError α → List Exchange → Prop
  | .ok a, said => Transacts work (.ok a) (⟨.begin, .ok begun⟩ :: said)
  | .error e, said => ∀ back,
    Transacts work (.error e) (⟨.begin, .ok begun⟩ :: said ++ [⟨.rollback, back⟩])

open Service

theorem says_inTransaction {c : Connection σ} {query : Query σ α}
    {query' : Query (σ × List Exchange) α} {work : Except StoreError α → List Exchange → Prop}
    (h : ∀ w, Says w query.run query'.run work) (w : World σ) :
    Says w (c.inTransaction query).run (c.overheard.inTransaction query').run (Transacts work) := by
  have begins : Says w (c.execute "begin_transaction" .begin).run
      (c.overheard.execute "begin_transaction" .begin).run fun result said =>
        ∃ reply, result = reply.mapError (·.toStoreError "begin_transaction") ∧
          said = [⟨.begin, reply⟩] :=
    .execute (fun failure => ⟨.error failure, rfl, rfl⟩) fun reply => ⟨.ok reply, rfl, rfl⟩
  refine begins.bind fun result said w' begun => ?_
  obtain ⟨failure | begun, rfl, rfl⟩ := begun
  · exact .pure (.unbegun failure)
  · refine Says.bind (?_ : Says w' _ _ (Closes work begun)) fun result said w'' closed => ?_
    · refine (h w').and (fun e said fails back => .failed begun fails back)
        fun a said w'' works => ?_
      have ends : Says w'' (c.execute "commit_transaction" .commit).run
          (c.overheard.execute "commit_transaction" .commit).run fun result further =>
            Closes work begun (result.map fun _ => a) (said ++ further) :=
        .execute (fun failure => .uncommitted begun works failure)
          fun reply => .committed begun works reply
      exact ends.and (fun e further failed => failed) fun reply further _ done =>
        .pure (by rwa [List.append_nil])
    · cases result with
      | ok a => exact .pure (by rwa [List.append_nil])
      | error e =>
        have undoes : Says w'' (c.send .rollback) (c.overheard.send .rollback)
            fun reply further => further = [⟨.rollback, reply⟩] := .send fun _ => rfl
        refine undoes.bind fun back further _ same => .pure ?_
        subst same
        exact closed back

end Connection

end SupplierSwitch
