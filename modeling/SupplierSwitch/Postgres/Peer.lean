import SupplierSwitch.Postgres.Connection

namespace SupplierSwitch

/-!
# The scripted peer

A server that executes nothing: it answers statements from a script and keeps a transcript of them.
It stands for any server, as every sequence of replies is a script.
-/

/-- A scripted reply. It may depend on the claim that was made last. -/
abbrev ScriptedReply := Option ClaimToken → Except SqlFailure Reply

/-- A server that answers from a script. -/
structure Peer where
  /-- Replies to come, for all statements but those that begin or end a transaction. -/
  script : List ScriptedReply
  /-- What is said to a connection, the start of a transaction and its commit, if they fail. -/
  connectFailure : Option SqlFailure
  beginFailure : Option SqlFailure
  commitFailure : Option SqlFailure
  /-- What was sent, latest first. -/
  transcript : List Statement
  lastClaim : Option ClaimToken
  /-- Nothing is sent any more. -/
  isClosed : Bool

/-! ### Scripts in JSON -/

/-- A failure in a script: a code and a wording, or null if nothing fails. -/
def SqlFailure.ofJson? : Json → Option SqlFailure
  | .null => none
  | j => some (.refused (j.textAt "code") (j.textAt "message"))

/-- The columns that hold instants. -/
def instantColumns : List String :=
  ["created_at", "processed_at", "not_before", "dead_lettered_at"]

/-- The columns that hold identifiers. -/
def uuidColumns : List String :=
  ["id", "claim_token"]

/-- The columns that hold JSON, where null is a value. -/
def jsonColumns : List String :=
  ["payload", "snapshot"]

/-- A value of a column in a script. The token of the last claim may be given by name. -/
def SqlValue.ofScript (lastClaim : Option ClaimToken) (column : String) (j : Json) : SqlValue :=
  if column ∈ jsonColumns then json j
  else match j with
    | .null => null
    | .bool b => bool b
    | .number (.integer n) => number n
    | .string s =>
      if column ∈ uuidColumns then
        if s = "$last_claim" then uuid (lastClaim.getD default).uuid
        else ((Uuid.parse? s).map uuid).getD (text s)
      else if column ∈ instantColumns then
        match Timestamp.parse s with
        | .ok t => instant (atServer t)
        | .error _ => text s
      else text s
    | j => json j

/-- A row of a script. -/
def Row.ofScript (lastClaim : Option ClaimToken) : Json → Row
  | .object members =>
    members.map fun (column, value) => (column, SqlValue.ofScript lastClaim column value)
  | _ => []

/-- A reply of a script: an error, or rows and the number of written rows, which is one unless it is
given. -/
def ScriptedReply.ofJson (j : Json) : ScriptedReply := fun lastClaim =>
  match SqlFailure.ofJson? (j.member "error") with
  | some failure => .error failure
  | none => .ok
    { rows := (j.itemsAt "rows").map (Row.ofScript lastClaim)
      affected := if j.member "affected" = .null then 1 else j.natAt "affected" }

namespace Peer

/-- A peer that nothing was sent to, and that has nothing to say. -/
def silent : Peer := ⟨[], none, none, none, [], none, false⟩

/-- The reply that a script ends with: no rows, and one row written. -/
def standardReply : Reply := ⟨[], 1⟩

/-- Set up what a peer says from now on, and clear the transcript. -/
def rehearse (script : List ScriptedReply) (beginFailure commitFailure : Option SqlFailure)
    (p : Peer) : Peer :=
  { p with
    script := script
    beginFailure := beginFailure
    commitFailure := commitFailure
    transcript := [] }

/-- What was sent, in order. -/
def sent (p : Peer) : List Statement :=
  p.transcript.reverse

/-- Fail if there is a failure. -/
def failWith : Option SqlFailure → Except SqlFailure Reply
  | some failure => .error failure
  | none => .ok standardReply

/-- The reply to a statement, and the peer after it. -/
def reply (s : Statement) (p : Peer) : Except SqlFailure Reply × Peer :=
  if p.isClosed then (.error .closed, p)
  else
    let p := { p with
      transcript := s :: p.transcript
      lastClaim := s.claim?.or p.lastClaim }
    match s with
    | .begin => (failWith p.beginFailure, p)
    | .commit => (failWith p.commitFailure, p)
    | .rollback => (.ok standardReply, p)
    | .script _ | .query _ _ =>
      match p.script with
      | [] => (.ok standardReply, p)
      | next :: rest => (next p.lastClaim, { p with script := rest })

/-- The connection to a peer. -/
def connection : Connection Peer where
  connect := do
    match (← Service.readStore).connectFailure with
    | some failure => pure (.error failure)
    | none => pure (.ok ())
  send s := do
    let (reply, p) := (← Service.readStore).reply s
    Service.writeStore p
    pure reply

end Peer

end SupplierSwitch
