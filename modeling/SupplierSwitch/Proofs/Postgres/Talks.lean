import SupplierSwitch.Postgres.Peer
import SupplierSwitch.Postgres.Store
import SupplierSwitch.Proofs.Outbox.Watched

namespace SupplierSwitch

/-!
# What is said to a peer

Work on a connection is described by what it says to the peer, given the replies that it gets. The
descriptions of two pieces of work are put one after the other when the work is, and a transaction
is the work in it between its begin and its end.

* `Peer.Talks` — the work comes to a result, given some replies, and says some statements;
* `Peer.Talks.bind`, `Peer.Talks.and`, `Peer.Talks.fail` — work after work;
* `Peer.Talks.committed`, `Peer.Talks.rolledBack` — transactions.
-/

namespace Peer

/-- The peer can be reached, and begins and commits transactions when it is told to. -/
structure Willing (p : Peer) : Prop where
  opened : p.isClosed = false
  begins : p.beginFailure = none
  commits : p.commitFailure = none

/-- With a willing peer that has these replies to give next, the work takes them all and comes to
    the result, and these are the statements that it sends. -/
def Talks {α : Type} (work : Service Peer α) (replies : List (Except SqlFailure Reply)) (result : α)
    (said : List Statement) : Prop :=
  ∀ (w : World Peer) (rest : List ScriptedReply), w.store.Willing →
    w.store.script = replies.map (fun reply _ => reply) ++ rest →
    ∃ w', work.run w = (result, w') ∧ w'.store.Willing ∧ w'.store.script = rest ∧
      w'.store.sent = w.store.sent ++ said

variable {α β : Type} {work : Service Peer α} {replies more : List (Except SqlFailure Reply)}
  {a : α} {said further : List Statement}

theorem Talks.pure (a : α) : Talks (pure a) [] a [] :=
  fun w _ willing script => ⟨w, rfl, willing, script, (List.append_nil _).symm⟩

theorem Talks.bind {next : α → Service Peer β} {b : β} (first : Talks work replies a said)
    (second : Talks (next a) more b further) :
    Talks (work >>= next) (replies ++ more) b (said ++ further) := by
  intro w rest willing script
  rw [List.map_append, List.append_assoc] at script
  obtain ⟨w₁, run, willing, script, sent⟩ := first w _ willing script
  obtain ⟨w₂, run', willing, script, sent'⟩ := second w₁ rest willing script
  refine ⟨w₂, (Service.run_bind run).trans run', willing, script, ?_⟩
  rw [sent', sent, List.append_assoc]

/-- What is made of a result is not told to the peer. -/
theorem Talks.map (h : Talks work replies a said) (f : α → β) :
    Talks (work >>= fun a => Pure.pure (f a)) replies (f a) said := by
  rw [← List.append_nil replies, ← List.append_nil said]
  exact h.bind (.pure (f a))

theorem Talks.report (notice : Notice) : Talks (Service.report notice) [] () [] :=
  fun _ _ willing script => ⟨_, rfl, willing, script, (List.append_nil _).symm⟩

theorem Talks.inSpan (span : Span) (h : Talks work replies a said) :
    Talks (Service.inSpan span work) replies a said := by
  intro w rest willing script
  obtain ⟨w', run, willing, script, sent⟩ :=
    h { w with spans := span :: w.spans } rest willing script
  have within : (Service.inSpan span work).run w
      = ((work.run { w with spans := span :: w.spans }).1,
          { (work.run { w with spans := span :: w.spans }).2 with spans := w.spans }) := rfl
  rw [run] at within
  exact ⟨_, within, willing, script, sent⟩

/-! ### Statements -/

/-- A statement is sent, and what the peer makes of it is its reply. -/
theorem talks_send {s : Statement} {reply : Except SqlFailure Reply}
    (hears : ∀ (p : Peer) (rest : List ScriptedReply), p.Willing →
      p.script = replies.map (fun reply _ => reply) ++ rest →
      p.reply s = (reply, { p with
        transcript := s :: p.transcript, lastClaim := s.claim?.or p.lastClaim, script := rest })) :
    Talks (connection.send s) replies reply [s] := by
  intro w rest willing script
  have run : (connection.send s).run w
      = ((w.store.reply s).1, { w with store := (w.store.reply s).2 }) := rfl
  rw [hears w.store rest willing script] at run
  exact ⟨_, run, ⟨willing.opened, willing.begins, willing.commits⟩, rfl, List.reverse_cons⟩

theorem talks_begin : Talks (connection.send .begin) [] (.ok standardReply) [.begin] := by
  refine talks_send fun p rest willing script => ?_
  subst script
  simp [Peer.reply, willing.opened, willing.begins, failWith]

theorem talks_commit : Talks (connection.send .commit) [] (.ok standardReply) [.commit] := by
  refine talks_send fun p rest willing script => ?_
  subst script
  simp [Peer.reply, willing.opened, willing.commits, failWith]

theorem talks_rollback : Talks (connection.send .rollback) [] (.ok standardReply) [.rollback] := by
  refine talks_send fun p rest willing script => ?_
  subst script
  simp [Peer.reply, willing.opened]

theorem talks_query (sql : String) (parameters : List SqlValue) (reply : Except SqlFailure Reply) :
    Talks (connection.send (.query sql parameters)) [reply] reply [.query sql parameters] := by
  refine talks_send fun p rest willing script => ?_
  simp [Peer.reply, willing.opened, script]

/-! ### Queries -/

variable {query : Query Peer α} {e : StoreError}

/-- The second query goes on where the first one succeeds, … -/
theorem Talks.and {next : α → Query Peer β} {b : Except StoreError β}
    (first : Talks query.run replies (.ok a) said) (second : Talks (next a).run more b further) :
    Talks (query >>= next).run (replies ++ more) b (said ++ further) := by
  rw [ExceptT.run_bind]
  exact first.bind second

/-- … and where it fails there is nothing more to say. -/
theorem Talks.fail (first : Talks query.run replies (.error e) said) (next : α → Query Peer β) :
    Talks (query >>= next).run replies (.error e) said := by
  rw [ExceptT.run_bind, ← List.append_nil replies, ← List.append_nil said]
  exact first.bind (.pure _)

theorem talks_execute {s : Statement} {reply : Except SqlFailure Reply}
    (h : Talks (connection.send s) replies reply said) (operation : String) :
    Talks (connection.execute operation s).run replies
      (reply.mapError (·.toStoreError operation)) said :=
  h.map _

theorem talks_fetchOptional {s : Statement} {reply : Reply}
    (h : Talks (connection.send s) replies (.ok reply) said) (operation : String) :
    Talks (connection.fetchOptional operation s).run replies (.ok reply.rows.head?) said := by
  rw [← List.append_nil replies, ← List.append_nil said]
  exact (talks_execute h operation).and (.pure _)

theorem talks_decode {read : Row → Except SqlFailure α} {row : Row} (reads : read row = .ok a) :
    Talks (Connection.decode read row).run [] (.ok a) [] := by
  rw [Connection.decode, reads]
  exact .pure _

theorem Talks.traced (span : Span) {result : Except StoreError α}
    (h : Talks query.run replies result said) :
    Talks (Postgres.traced span query).run replies result said := by
  refine .inSpan span ?_
  rw [← List.append_nil replies, ← List.append_nil said]
  refine h.bind ?_
  cases result with
  | error e => exact (Talks.report _).bind (.pure _)
  | ok a => exact .pure _

/-! ### Transactions -/

/-- Some work and a commit after it. -/
private def andCommit (query : Query Peer α) : Query Peer α := do
  let a ← query
  let _ ← connection.execute "commit_transaction" .commit
  pure a

theorem Talks.committed (said : List Statement) (h : Talks query.run replies (.ok a) said) :
    Talks (connection.inTransaction query).run replies (.ok a) (.begin :: said ++ [.commit]) := by
  have work : Talks (andCommit query).run (replies ++ []) (.ok a) (said ++ [.commit]) :=
    h.and ((talks_execute talks_commit "commit_transaction").and (.pure _))
  have done : Talks (connection.inTransaction query).run ([] ++ ((replies ++ []) ++ [])) (.ok a)
      ([.begin] ++ ((said ++ [.commit]) ++ [])) :=
    (talks_execute talks_begin "begin_transaction").bind (work.bind (.pure _))
  simpa using done

theorem Talks.rolledBack (said : List Statement) (h : Talks query.run replies (.error e) said) :
    Talks (connection.inTransaction query).run replies (.error e)
      (.begin :: said ++ [.rollback]) := by
  have work : Talks (andCommit query).run replies (.error e) said := h.fail _
  have done : Talks (connection.inTransaction query).run ([] ++ (replies ++ ([] ++ []))) (.error e)
      ([.begin] ++ (said ++ ([.rollback] ++ []))) :=
    (talks_execute talks_begin "begin_transaction").bind
      (work.bind (talks_rollback.bind (.pure _)))
  simpa using done

end Peer

end SupplierSwitch
