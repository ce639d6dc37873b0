import SupplierSwitch.Journal

namespace SupplierSwitch

/-!
# The world of a service

A service works on a store, in surroundings that give it the time and fresh identifiers and keep its
journal. Clock and identifiers are arbitrary sequences, of which each reading takes the next element:
a property proved of them holds of every clock and every way of making identifiers.
-/

/-- A clock: what its readings will show, and how many have been taken. -/
structure Clock where
  reading : Nat → Timestamp
  taken : Nat

/-- A supply of identifiers: what it will issue, and how many it has issued. -/
structure IdSupply where
  issue : Nat → Uuid
  issued : Nat

/-- A store with its surroundings. -/
structure World (σ : Type) where
  store : σ
  clock : Clock
  ids : IdSupply
  /-- What was reported, latest first. -/
  journal : List JournalEntry
  /-- The spans that are open, innermost first. -/
  spans : List Span

/-- A computation of a service. -/
abbrev Service (σ : Type) := StateM (World σ)

namespace Service

variable {σ τ α : Type}

/-- Read the clock. -/
def now : Service σ Timestamp := do
  let w ← get
  set { w with clock := { w.clock with taken := w.clock.taken + 1 } }
  pure (w.clock.reading w.clock.taken)

/-- Take a fresh identifier. -/
def freshId : Service σ Uuid := do
  let w ← get
  set { w with ids := { w.ids with issued := w.ids.issued + 1 } }
  pure (w.ids.issue w.ids.issued)

/-- Write a notice to the journal. -/
def report (notice : Notice) : Service σ Unit :=
  modify fun w => { w with journal := ⟨notice, w.spans.reverse⟩ :: w.journal }

/-- Write notices to the journal, in order. -/
def reportAll (notices : List Notice) : Service σ Unit :=
  notices.forM report

/-- Do some work within a span. -/
def inSpan (span : Span) (work : Service σ α) : Service σ α := do
  let outer := (← get).spans
  modify fun w => { w with spans := span :: w.spans }
  let a ← work
  modify fun w => { w with spans := outer }
  pure a

/-- The store as it is. -/
def readStore : Service σ σ := do
  pure (← get).store

/-- Replace the store. -/
def writeStore (store : σ) : Service σ Unit :=
  modify fun w => { w with store := store }

/-- A computation on the first of two stores. -/
def onFirst (work : Service σ α) : Service (σ × τ) α := fun w =>
  let (a, v) := work { w with store := w.store.1 }
  (a, { v with store := (v.store, w.store.2) })

/-- The second of two stores. -/
def readSecond : Service (σ × τ) τ := do
  pure (← readStore).2

/-- Change the second of two stores. -/
def changeSecond (f : τ → τ) : Service (σ × τ) Unit := do
  let (s, t) ← readStore
  writeStore (s, f t)

end Service

end SupplierSwitch
