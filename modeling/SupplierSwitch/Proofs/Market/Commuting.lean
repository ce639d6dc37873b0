import SupplierSwitch.Proofs.Market.Drains
import SupplierSwitch.Proofs.Market.Footprints

namespace SupplierSwitch

/-!
# Commands that may change places

A request and an effectuation of different points, or two requests of different points in different
transactions, have nothing to do with each other: what the one looks at the other leaves alone. So
they may be processed in either order. Each is reported in the same way, and the same is stored in
the end, up to what is generated.

* `MarketCommand.Independent` — commands with different names;
* `Market.Leaves.agrees` — a command leaves alone what an independent one looks at;
* `Market.points_exchanged`, `Market.transactions_exchanged` — what two such commands write;
* `Market.independent_commands_commute` — the two in either order.
-/

open Memory Tables

/-! ### Independence -/

/-- The commands name different points, and no transaction in common. -/
structure MarketCommand.Independent (m n : MarketCommand) : Prop where
  points : ∃ p q, m.pointId? = some p ∧ n.pointId? = some q ∧ p ≠ q
  transactions : ∀ id, m.transactionId? = some id → n.transactionId? ≠ some id

namespace MarketCommand.Independent

variable {m n : MarketCommand}

theorem symm (h : m.Independent n) : n.Independent m := by
  obtain ⟨p, q, hp, hq, other⟩ := h.points
  exact ⟨⟨q, p, hq, hp, other.symm⟩, fun id hn hm => h.transactions id hm hn⟩

/-- The first command names a point. -/
theorem named (h : m.Independent n) : ∃ id, m.pointId? = some id := by
  obtain ⟨p, -, hp, -⟩ := h.points
  exact ⟨p, hp⟩

end MarketCommand.Independent

namespace Market

variable {market : Market} {config : MarketConfig} {a b : ClaimedCommand} {m n : MarketCommand}
  {commands commands' : List CommandId} {c c' e e' : ChangeSet} {t t₁ t₂ v₁ v₂ : Tables}

/-! ### What is looked at -/

theorem Leaves.point? (h : Leaves a m commands c t t₁) (independent : m.Independent n) :
    n.point? t₁ = n.point? t := by
  obtain ⟨p, q, hp, hq, other⟩ := independent.points
  have unwritten : q ∉ (c.points.map (·.point)).map (·.gsrn.text) := by
    intro written
    obtain ⟨point, mem, same⟩ := List.mem_map.mp written
    have name := hp.symm.trans (h.names.points point mem).1
    exact other ((Option.some.inj name).trans same)
  rw [MarketCommand.point?, MarketCommand.point?, hq]
  show under (·.gsrn.text) q t₁.points = under (·.gsrn.text) q t.points
  rw [h.points]
  exact under_foldl_overwrite_of_notMem _ gsrn_nextPoint _ _ unwritten

theorem Leaves.transaction? (h : Leaves a m commands c t t₁) (independent : m.Independent n) :
    n.transaction? t₁ = n.transaction? t := by
  rw [MarketCommand.transaction?, MarketCommand.transaction?]
  cases named : n.transactionId? with
  | none => rfl
  | some id =>
    have unwritten : id ∉ (c.transactions.map (·.transaction)).map (·.id) := by
      intro written
      obtain ⟨transaction, mem, rfl⟩ := List.mem_map.mp written
      exact independent.transactions _ (h.names.transactions transaction mem).1 named
    show under Transaction.id id t₁.transactions = under Transaction.id id t.transactions
    rw [h.transactions]
    exact under_foldl_overwrite_of_notMem _ id_nextTransaction _ _ unwritten

/-- A command leaves alone what an independent one looks at. -/
theorem Leaves.agrees (h : Leaves a m commands c t t₁) (independent : m.Independent n)
    (mem : b.command.id ∈ commands) (other : b.command.id ≠ a.command.id) : Agrees b n t t₁ :=
  ⟨h.rows b.command.id mem other, h.point? independent, h.transaction? independent⟩

/-! ### What is written -/

/-- No point is added, … -/
theorem Leaves.gsrns (h : Leaves a m commands c t t₁) :
    t₁.points.map (·.gsrn.text) = t.points.map (·.gsrn.text) := by
  rw [h.points]
  exact map_foldl_overwrite _ gsrn_nextPoint fun p mem => (h.names.points p mem).2

/-- … and no transaction. -/
theorem Leaves.transactionIds (h : Leaves a m commands c t t₁) :
    t₁.transactions.map (·.id) = t.transactions.map (·.id) := by
  rw [h.transactions]
  exact map_foldl_overwrite _ id_nextTransaction fun s mem => (h.names.transactions s mem).2

/-- Points that are written in either order. -/
theorem points_exchanged (independent : m.Independent n) (first : Leaves a m commands c t t₁)
    (second : Leaves b n commands e t₁ t₂) (second' : Leaves b n commands' e' t v₁)
    (first' : Leaves a m commands' c' v₁ v₂) (like : c.Like market c') (like' : e.Like market e') :
    v₂.points = t₂.points := by
  obtain ⟨p, q, hp, hq, other⟩ := independent.points
  have others : ∀ x ∈ c.points.map (·.point), ∀ y ∈ e.points.map (·.point),
      x.gsrn.text ≠ y.gsrn.text := by
    intro x hx y hy same
    have hp := Option.some.inj (hp.symm.trans (first.names.points x hx).1)
    have hq := Option.some.inj (hq.symm.trans (second.names.points y hy).1)
    exact other (hp.trans (same.trans hq.symm))
  have exchanged := foldl_overwrite_comm (·.gsrn.text) gsrn_nextPoint others
    (fun x hx => (first.names.points x hx).2)
    fun y hy => first.gsrns ▸ (second.names.points y hy).2
  rw [first'.points, second'.points, second.points, first.points, like.points, like'.points]
  exact exchanged.symm

/-- Transactions that are written in either order. -/
theorem transactions_exchanged (independent : m.Independent n) (first : Leaves a m commands c t t₁)
    (second : Leaves b n commands e t₁ t₂) (second' : Leaves b n commands' e' t v₁)
    (first' : Leaves a m commands' c' v₁ v₂) (like : c.Like market c') (like' : e.Like market e') :
    List.Forall₂ (Transaction.Like market) t₂.transactions v₂.transactions := by
  have others : ∀ x ∈ c.transactions.map (·.transaction), ∀ y ∈ e.transactions.map (·.transaction),
      x.id ≠ y.id := by
    intro x hx y hy same
    refine independent.transactions x.id (first.names.transactions x hx).1 ?_
    rw [same]
    exact (second.names.transactions y hy).1
  have exchanged := foldl_overwrite_comm Transaction.id id_nextTransaction others
    (fun x hx => (first.names.transactions x hx).2)
    fun y hy => first.transactionIds ▸ (second.names.transactions y hy).2
  rw [first'.transactions, second'.transactions, second.transactions, first.transactions, exchanged]
  -- The writes of the second command come first on both sides, over the same transactions.
  have keys {x y : Transaction} (h : x.Like market y) : x.id = y.id := h.id_eq
  have unwritten := List.forall₂_same.mpr fun x (_ : x ∈ t.transactions) =>
    Transaction.Like.refl market x
  have written := forall₂_foldl_overwrite Transaction.id keys Transaction.Like.next unwritten
    like'.transactions
  exact forall₂_foldl_overwrite Transaction.id keys Transaction.Like.next written like.transactions

/-! ### Either order -/

/-- Two claimed commands that are independent of each other may be processed in either order. What
    their handlers come to is the same, and so is what is reported of them; the same points are
    stored in the end, and the same transactions up to what is generated. -/
theorem independent_commands_commute (config : MarketConfig) (settings : ProcessorConfig)
    {w v : World Tables} (means : a.command.market? = some m) (means' : b.command.market? = some n)
    (independent : m.Independent n) (other : a.command.id ≠ b.command.id)
    (same : v.store = w.store) (supplied : Supplied 6 [a.command.id, b.command.id] w)
    (supplied' : Supplied 6 [a.command.id, b.command.id] v) (r₁ r₂ s₁ s₂ : DrainReport) :
    let market := ofConfig config
    let run (claimed : ClaimedCommand) (report : DrainReport) :=
      ((processor market.router settings).process claimed report).run
    let w₁ := (run a r₁ w).2
    let w₂ := (run b r₂ w₁).2
    let v₁ := (run b s₁ v).2
    let v₂ := (run a s₂ v₁).2
    (handled market.router a v₁).1 = (handled market.router a w).1 ∧
    (handled market.router b v).1 = (handled market.router b w₁).1 ∧
    (∀ report, ∃ told, (run a report w).1 = .ok told ∧ (run a report v₁).1 = .ok told) ∧
    (∀ report, ∃ told, (run b report w₁).1 = .ok told ∧ (run b report v).1 = .ok told) ∧
    v₂.store.points = w₂.store.points ∧
    List.Forall₂ (Transaction.Like market) w₂.store.transactions v₂.store.transactions := by
  intro market run w₁ w₂ v₁ v₂
  have named := independent.named
  have named' := independent.symm.named
  have mem : a.command.id ∈ [a.command.id, b.command.id] := List.mem_cons_self
  have mem' : b.command.id ∈ [a.command.id, b.command.id] :=
    List.mem_cons_of_mem _ List.mem_cons_self
  -- What each command finds when it comes second is what it finds when it comes first.
  obtain ⟨-, leaves, left⟩ := process_leaves config settings r₁ means named supplied
  obtain ⟨-, leaves', left'⟩ := process_leaves config settings s₁ means' named' supplied'
  have agrees' : Agrees b n w₁.store v.store := by
    rw [same]
    exact (leaves.agrees independent mem' other.symm).symm
  have agrees : Agrees a m w.store v₁.store := by
    rw [← same]
    exact leaves'.agrees independent.symm mem other
  obtain ⟨comes, told, c, c', like, first, first'⟩ :=
    process_like config settings means named supplied left' agrees
  obtain ⟨comes', told', e, e', like', second, second'⟩ :=
    process_like config settings means' named' left supplied' agrees'
  rw [same] at second'
  exact ⟨comes, comes', told, told',
    points_exchanged independent (first r₁) (second r₂) (second' s₁) (first' s₂) like like',
    transactions_exchanged independent (first r₁) (second r₂) (second' s₁) (first' s₂) like like'⟩

namespace TwoPoints

open Marketplace.OneMoveIn (gsrn supplier request)

/-- The number of another point. -/
def other : Gsrn := ⟨"571313180400000018", by decide +kernel⟩

/-- A process of the other point that is to be effectuated. -/
def pending : BusinessProcess :=
  ⟨request.processId, .moveIn, supplier, request.effectiveDate, .pending⟩

/-- Its effectuation. -/
def effectuation : Effectuation :=
  ⟨other.text, pending.processId⟩

/-- A command of a number that was taken in and is claimed. -/
def taken (number : Nat) (m : MarketCommand) : ClaimedCommand :=
  ⟨{ InternalCommand.fresh ⟨⟨number⟩⟩ m.kind m.toJson .epoch with sequence := some number },
    ⟨⟨number⟩⟩⟩

/-- The request of a move-in to the one point, … -/
def requested : ClaimedCommand := taken 1 (.request .moveIn request)

/-- … and the effectuation of a move-in to the other one. -/
def effectuated : ClaimedCommand := taken 2 (.effectuate .moveIn effectuation)

/-- A store with both commands, at an instant and with the identifiers from a number on. -/
def world (instant : Timestamp) (first : Nat) : World Tables :=
  ⟨⟨[requested, effectuated].map fun claimed => ⟨claimed.command, some (claimed.claim, .greatest)⟩,
    2, [.fresh request.transactionId],
    [.fresh gsrn, { AccountingPoint.fresh other with processes := [pending] }]⟩,
    ⟨fun _ => instant, 0⟩, ⟨fun i => ⟨BitVec.ofNat 128 i⟩, first⟩, [], []⟩

/-- A world with the store, … -/
def sooner : World Tables := world .epoch 10

/-- … and another one with the same store, in which other instants and identifiers are generated. -/
def later : World Tables := world (Timestamp.epoch.offsetBy (.ofSeconds 60)) 20

/-- The processing of a command. -/
def processed (claimed : ClaimedCommand) (w : World Tables) :
    Except StoreError DrainReport × World Tables :=
  ((processor (ofConfig ⟨supplier⟩).router .standard).process claimed .empty).run w

/-- Both commands are completed. -/
def completed : Except StoreError DrainReport :=
  .ok (DrainReport.empty.addOutcome .completed)

theorem independent :
    (MarketCommand.request .moveIn request).Independent (.effectuate .moveIn effectuation) :=
  ⟨⟨_, _, rfl, rfl, by decide⟩, fun _ _ => nofun⟩

end TwoPoints

open TwoPoints in
/-- A request and an effectuation that both succeed, and what is answered to the request differs. -/
theorem independent_commands_commute_two_points :
    let w := processed effectuated (processed requested sooner).2
    let v := processed requested (processed effectuated later).2
    (w.1 = completed ∧ v.1 = completed) ∧ w.2.store.transactions ≠ v.2.store.transactions ∧
    v.2.store.points = w.2.store.points ∧
    List.Forall₂ (Transaction.Like (ofConfig ⟨Marketplace.OneMoveIn.supplier⟩))
      w.2.store.transactions v.2.store.transactions := by
  intro w v
  obtain ⟨-, -, -, -, points, transactions⟩ :=
    independent_commands_commute ⟨Marketplace.OneMoveIn.supplier⟩ .standard
      (a := requested) (b := effectuated) (w := sooner) (v := later)
      (InternalCommand.market?_of_toJson rfl rfl) (InternalCommand.market?_of_toJson rfl rfl)
      independent (by decide) rfl (by decide +kernel) (by decide +kernel) .empty .empty .empty
      .empty
  beta_reduce at points transactions
  refine ⟨by decide +kernel, by decide +kernel, ?_⟩
  unfold w v processed
  exact ⟨points, transactions⟩

end Market

end SupplierSwitch
