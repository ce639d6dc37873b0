import SupplierSwitch.Proofs.Market.Contention
import SupplierSwitch.Proofs.Market.Drains
import SupplierSwitch.Proofs.Market.Progress

namespace SupplierSwitch

/-!
# A store in company

A processor is not alone: between two of its calls others may do whatever clients of the market do.
That is put into the store. A call to it is a call to the store in memory after the others had their
turn, so that the very processor which runs on the one runs on the other.

* `Crowd` and `Crowd.store` — the store in memory with others who work on it;
* `Marketplace.Company` — what the others may do, which is the work of the market;
* `Marketplace.Orderly` — what is true of the store whenever the processor is not in a call;
* `Secures` — what a piece of work on a store makes of it, with a rule for each way to combine work.
-/

/-! ### Work on a store -/

/-- From a store and a supply of identifiers as in `before`, the work leads to a result, a store and
    a supply as in `after`. Clock, journal and spans are no matter. -/
def Secures {σ α : Type} (before : σ → IdSupply → Prop) (work : Service σ α)
    (after : α → σ → IdSupply → Prop) : Prop :=
  ∀ w : World σ, before w.store w.ids →
    after (work.run w).1 (work.run w).2.store (work.run w).2.ids

namespace Secures

variable {σ α β : Type} {before : σ → IdSupply → Prop} {work : Service σ α}
  {after : α → σ → IdSupply → Prop}

theorem bind {next : α → Service σ β} {last : β → σ → IdSupply → Prop}
    (h : Secures before work after) (h' : ∀ a, Secures (after a) (next a) last) :
    Secures before (work >>= next) last :=
  fun w start => h' (work.run w).1 (work.run w).2 (h w start)

theorem imp {after' : α → σ → IdSupply → Prop} (h : Secures before work after)
    (weaker : ∀ a s ids, after a s ids → after' a s ids) : Secures before work after' :=
  fun w start => weaker _ _ _ (h w start)

/-- What is known at the start in addition may be used. -/
theorem assuming {P : Prop} (known : ∀ s ids, before s ids → P)
    (h : P → Secures before work after) : Secures before work after :=
  fun w start => h (known _ _ start) w start

/-- What is known to exist at the start may be named. -/
theorem given {ι : Type} {start : ι → σ → IdSupply → Prop}
    (h : ∀ i, Secures (start i) work after) :
    Secures (fun s ids => ∃ i, start i s ids) work after := by
  rintro w ⟨i, start⟩
  exact h i w start

theorem done {a : α} (h : ∀ s ids, before s ids → after a s ids) :
    Secures before (pure a) after :=
  fun w start => h w.store w.ids start

theorem report (notice : Notice) : Secures before (Service.report notice) fun _ => before :=
  fun _ start => start

theorem now : Secures before Service.now fun _ => before :=
  fun _ start => start

theorem inSpan (span : Span) (h : Secures before work after) :
    Secures before (Service.inSpan span work) after :=
  fun w start => h { w with spans := span :: w.spans } start

end Secures

open Memory Tables

/-! ### The crowd -/

/-- The store in memory with others who work on it. -/
structure Crowd where
  state : Marketplace.State
  /-- What the others do before the call of a number. -/
  others : Nat → Marketplace.State → Marketplace.State
  /-- So many calls have been made. -/
  made : Nat

namespace Crowd

/-- The state once the others had their turn. -/
def turn (crowd : Crowd) : Marketplace.State :=
  crowd.others crowd.made crowd.state

/-- The crowd once its tables have become others, too. -/
def took (crowd : Crowd) (t : Tables) : Crowd :=
  ⟨⟨t, crowd.turn.clients⟩, crowd.others, crowd.made + 1⟩

/-- A call to the store in memory, after the others had their turn. -/
def call {α : Type} (work : Service Tables α) : Service Crowd α := fun w =>
  let (a, v) := work { w with store := w.store.turn.tables }
  (a, { v with store := w.store.took v.store })

/-- The store in memory in the hands of a processor that is not alone. -/
def store : CommandStore Crowd ChangeSet where
  begin := call Memory.store.begin
  answer question unit := call (Memory.store.answer question unit)
  commit unit := call (Memory.store.commit unit)
  claimNext filter := call (Memory.store.claimNext filter)
  recordFailure id claim error policy now :=
    call (Memory.store.recordFailure id claim error policy now)
  get id := call (Memory.store.get id)
  highWaterMark := call Memory.store.highWaterMark
  deadLetters limit := call (Memory.store.deadLetters limit)
  retryDeadLetter id := call (Memory.store.retryDeadLetter id)
  stats := call Memory.store.stats

end Crowd

/-- What a call comes to in company is what it comes to once the others had their turn. -/
theorem Secures.call {α : Type} {before : Crowd → IdSupply → Prop} {work : Service Tables α}
    {after : α → Crowd → IdSupply → Prop}
    (h : ∀ (crowd : Crowd) (w : World Tables), before crowd w.ids → w.store = crowd.turn.tables →
      after (work.run w).1 (crowd.took (work.run w).2.store) (work.run w).2.ids) :
    Secures before (Crowd.call work) after :=
  fun w start => h w.store { w with store := w.store.turn.tables } start rfl

namespace Marketplace

theorem Run.evolves {s s' : State} {log : List Conclusion} (run : Run s log s') (sound : s.Sound) :
    s.tables.Evolves s'.tables := by
  induction run with
  | nil => exact .refl _
  | step before step ih => exact ih.trans ((before.sound sound).evolves step)

/-- What is done to the tables by somebody who is no client does not throw the clients off. -/
theorem State.Sound.withTables {s : State} (sound : s.Sound) {t : Tables}
    (evolves : s.tables.Evolves t) (books : Books t) : State.Sound ⟨t, s.clients⟩ :=
  ⟨books, sound.tidy, fun n => (sound.clients n).later evolves books⟩

/-- What others may do: the work of the market. They do not come by the next identifiers of the
    processor's supply. -/
structure Company (ids : IdSupply) (count : Nat) (others : Nat → State → State) : Prop where
  moves : ∀ i s, ∃ log, Run s log (others i s)
  apart : ∀ i s k, k < count → (others i s).tables.Mentions (ids.next k) →
    s.tables.Mentions (ids.next k)

/-- The market is in order, the processor has drawn `d` identifiers, and those from `first` on are
    not in use. If `alone` holds, the others leave the tables alone. -/
structure Orderly (ids : IdSupply) (count : Nat) (alone : Prop) (first d : Nat) (crowd : Crowd)
    (supply : IdSupply) : Prop where
  sound : crowd.state.Sound
  company : Company ids count crowd.others
  quiet : alone → ∀ i s, (crowd.others i s).tables = s.tables
  unspent : ids.Unspent count first crowd.state.tables.Mentions
  le : first ≤ d
  drawn : supply = { ids with issued := ids.issued + d }

namespace Orderly

variable {ids supply : IdSupply} {count first d : Nat} {alone : Prop} {crowd : Crowd}

/-- What the others do in their turn. -/
theorem later (h : Orderly ids count alone first d crowd supply) :
    crowd.turn.Sound ∧
      (Market.surroundings ids count first alone).Later crowd.state.tables crowd.turn.tables := by
  obtain ⟨log, run⟩ := h.company.moves crowd.made crowd.state
  have sound := run.sound h.sound
  refine ⟨sound, run.evolves h.sound, ⟨sound.books, ?_⟩, fun alone => h.quiet alone _ _⟩
  exact h.unspent.mono (Nat.le_refl _) fun k _ less => h.company.apart _ _ k less

/-- What a call of the processor does to the tables after that. -/
theorem took (h : Orderly ids count alone first d crowd supply) {t : Tables} {supply' : IdSupply}
    {first' d' : Nat} (evolves : crowd.turn.tables.Evolves t) (books : Books t)
    (unspent : ids.Unspent count first' t.Mentions) (le : first' ≤ d')
    (drawn : supply' = { ids with issued := ids.issued + d' }) :
    Orderly ids count alone first' d' (crowd.took t) supply' :=
  ⟨h.later.1.withTables evolves books, h.company, h.quiet, unspent, le, drawn⟩

/-- A call that leaves the tables as they are. -/
theorem looked (h : Orderly ids count alone first d crowd supply) :
    Orderly ids count alone first d (crowd.took crowd.turn.tables) supply :=
  h.took (.refl _) h.later.2.inv.1 h.later.2.inv.2 h.le h.drawn

theorem spent (h : Orderly ids count alone first d crowd supply) :
    Orderly ids count alone d d crowd supply :=
  ⟨h.sound, h.company, h.quiet, h.unspent.mono h.le fun _ _ _ used => used, Nat.le_refl d, h.drawn⟩

/-- What a step of a program yields in company is such an answer as it has to reckon with. -/
theorem meaning (action : Action) (c : ChangeSet) {w : World Crowd}
    (h : Orderly ids count alone first d w.store w.ids) :
    let r := (Crowd.store.meaning action c).run w
    ∃ d', Orderly ids count alone first d' r.2.store r.2.ids ∧
      Replies (Market.surroundings ids count first alone) w.store.state.tables c d action
        r.2.store.state.tables r.1.1 r.1.2 d' := by
  cases action with
  | ask call => exact ⟨d, h.looked, h.later.2, rfl, rfl⟩
  | now | report _ => exact ⟨d, h, rfl, rfl, rfl⟩
  | freshId =>
    refine ⟨d + 1, ⟨h.sound, h.company, h.quiet, h.unspent, Nat.le_succ_of_le h.le, ?_⟩,
      rfl, rfl, ?_, rfl⟩
    · show { w.ids with issued := w.ids.issued + 1 } = _
      rw [h.drawn]
      rfl
    · show w.ids.issue w.ids.issued = _
      rw [h.drawn]
      rfl

/-- A program that is run in company ends with what it ends with in such surroundings. -/
theorem runIn {α : Type} {post : α → ChangeSet → Tables → Nat → Prop} {program : Handling α}
    {c : ChangeSet} {w : World Crowd} (h : Orderly ids count alone first d w.store w.ids)
    (ends : program.EndsIn (Market.surroundings ids count first alone) post c
      w.store.state.tables d) :
    let r := (Crowd.store.runIn program c).run w
    ∃ d', Orderly ids count alone first d' r.2.store r.2.ids ∧
      post r.1.1 r.1.2 r.2.store.state.tables d' := by
  induction program generalizing c w d with
  | done a => exact ⟨d, h, ends⟩
  | step action next ih =>
    obtain ⟨d', h', reply⟩ := h.meaning action c
    exact ih _ h' (ends _ _ _ _ reply)

end Orderly

end Marketplace

end SupplierSwitch
