import SupplierSwitch.Memory.Tables
import SupplierSwitch.Outbox.Store

namespace SupplierSwitch

/-!
# The store in memory

The command store whose state is its tables. Units of work are change sets; they read the tables as
they are at the moment of the question.
-/

namespace Memory

/-- Change the tables by an operation that may fail, and then leaves them as they are. -/
def change (f : Tables → Except StoreError (α × Tables)) : Service Tables (Except StoreError α) := do
  match f (← Service.readStore) with
  | .error e => pure (.error e)
  | .ok (a, t) => do
    Service.writeStore t
    pure (.ok a)

/-- Read the tables. -/
def look (f : Tables → α) : Service Tables (Except StoreError α) := do
  pure (.ok (f (← Service.readStore)))

/-- Commit a unit. An empty one changes nothing. -/
def commit (c : ChangeSet) : Service Tables (Except StoreError Unit) :=
  if c.isEmpty then pure (.ok ())
  else do
    let now ← Service.now
    change fun t => (t.commit c now).map ((), ·)

/-- Hand out the next ready command under a fresh claim. -/
def claimNext (filter : ClaimFilter) : Service Tables (Except StoreError (Option ClaimedCommand)) := do
  let now ← Service.now
  let t ← Service.readStore
  match t.nextClaimable filter now with
  | none => pure (.ok none)
  | some row =>
    let token : ClaimToken := ⟨← Service.freshId⟩
    Service.writeStore (t.claim row.command.id token filter.lease now)
    pure (.ok (some ⟨row.command, token⟩))

/-- The store in memory. -/
def store : CommandStore Tables ChangeSet where
  begin := pure (.ok .empty)
  answer call c := do pure ((← Service.readStore).answer call c)
  commit := commit
  claimNext := claimNext
  recordFailure id token error policy now :=
    change fun t => t.recordFailure id token error policy now
  get id := look fun t => (t.row? id).map (·.command)
  highWaterMark := look Tables.highWaterMark
  deadLetters limit := look fun t => t.deadLetters limit
  retryDeadLetter id := change fun t => t.retryDeadLetter id
  stats := do
    let now ← Service.now
    look fun t => t.stats now

end Memory

end SupplierSwitch
