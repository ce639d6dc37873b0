import SupplierSwitch.Market.Handlers
import SupplierSwitch.Proofs.Calendar.DateText
import Mathlib.Tactic.SplitIfs

namespace SupplierSwitch

/-!
# What a stored command means

A stored command is a kind and a payload; what it means is what a handler of its kind reads from the
payload.

* `MarketCommand.read_toJson` — the payload that was written for a command is read as that command;
* `InternalCommand.market?` — the meaning of a stored command;
* `Market.dispatch_of_market?` — the handlers are given the meaning.
-/

/-! ### Reading what was written -/

@[simp]
theorem TransactionId.ofJson_toJson (id : TransactionId) : ofJson id.toJson = .ok id := by
  obtain ⟨text, trimmed, nonempty⟩ := id
  simp [ofJson, toJson, Json.readDomain, Json.readText, ofText, nameOf, trimmed, nonempty,
    Except.map, Except.mapError]

@[simp]
theorem ProcessId.ofJson_toJson (id : ProcessId) : ofJson id.toJson = .ok id := by
  obtain ⟨text, trimmed, nonempty⟩ := id
  simp [ofJson, toJson, Json.readDomain, Json.readText, ofText, nameOf, trimmed, nonempty,
    Except.map, Except.mapError]

@[simp]
theorem Date.ofJson_toJson (d : Date) : ofJson d.toJson = .ok d := by
  simp [ofJson, toJson, Json.readText, parse_render, Except.mapError]

section Records

/- Reading a record that was written as an object comes down to looking up each of its members. -/
attribute [local simp] Json.readRecord Json.readFields Functor.map Seq.seq Fields.seq Fields.pure
  Fields.required Fields.field Json.find? Json.readString Json.readAny bind Except.bind
  Except.map pure Except.pure

theorem SupplyRequest.ofJson_toJson (process : ProcessKind) (r : SupplyRequest) :
    ofJson process r.toJson = .ok r := by
  simp [ofJson, toJson]

theorem Effectuation.ofJson_toJson (process : ProcessKind) (e : Effectuation) :
    ofJson process e.toJson = .ok e := by
  simp [ofJson, toJson]

theorem AggregationResult.ofJson_toJson (r : AggregationResult) : ofJson r.toJson = .ok r := by
  simp [ofJson, toJson]

end Records

namespace MarketCommand

/-- There is a reader for every command, and it reads the payload of the command as the command. -/
theorem read_toJson (m : MarketCommand) :
    ∃ read, reader? m.kind = some read ∧ read m.toJson = .ok m := by
  cases m with
  | request process r =>
    cases process <;>
    · refine ⟨_, rfl, ?_⟩
      simp [toJson, SupplyRequest.ofJson_toJson, Functor.map, Except.map]
  | effectuate process e =>
    cases process <;>
    · refine ⟨_, rfl, ?_⟩
      simp [toJson, Effectuation.ofJson_toJson, Functor.map, Except.map]
  | forwardResult r =>
    refine ⟨_, rfl, ?_⟩
    simp [toJson, AggregationResult.ofJson_toJson, Functor.map, Except.map]

/-- What the reader of a kind reads is of that kind. -/
theorem kind_of_read {kind : String} {read : Reader MarketCommand} (h : reader? kind = some read)
    {j : Json} {m : MarketCommand} (hm : read j = .ok m) : m.kind = kind := by
  -- Whatever a reader reads, it wraps in the constructor of its kind.
  have mapped {α : Type} {make : α → MarketCommand} {r : Except ReadError α}
      (hr : (make <$> r) = .ok m) : ∃ a, m = make a := by
    cases r with
    | error e => cases hr
    | ok a => cases hr; exact ⟨a, rfl⟩
  simp only [reader?] at h
  split_ifs at h with h₁ h₂ h₃ h₄ h₅ <;>
  · cases h
    obtain ⟨a, rfl⟩ := mapped hm
    simp only [MarketCommand.kind, *]

theorem eq_request_of_kind {m : MarketCommand} {process : ProcessKind}
    (h : m.kind = process.requestKind) : ∃ r, m = .request process r := by
  cases m with
  | request process' r =>
    cases process <;> cases process' <;> simp_all [kind, ProcessKind.requestKind]
  | effectuate process' e =>
    cases process <;> cases process' <;>
      simp [kind, ProcessKind.requestKind, ProcessKind.effectuationKind] at h
  | forwardResult r =>
    cases process <;> simp [kind, ProcessKind.requestKind, AggregationResult.kind] at h

theorem eq_effectuate_of_kind {m : MarketCommand} {process : ProcessKind}
    (h : m.kind = process.effectuationKind) : ∃ e, m = .effectuate process e := by
  cases m with
  | request process' r =>
    cases process <;> cases process' <;>
      simp [kind, ProcessKind.requestKind, ProcessKind.effectuationKind] at h
  | effectuate process' e =>
    cases process <;> cases process' <;> simp_all [kind, ProcessKind.effectuationKind]
  | forwardResult r =>
    cases process <;> simp [kind, ProcessKind.effectuationKind, AggregationResult.kind] at h

theorem mem_kinds_of_reader? {kind : String} {read : Reader MarketCommand}
    (h : reader? kind = some read) : kind ∈ kinds := by
  simp only [reader?] at h
  split_ifs at h <;> simp_all [kinds]

end MarketCommand

namespace InternalCommand

/-- What a stored command means, if it means anything to the market. -/
def market? (c : InternalCommand) : Option MarketCommand :=
  (MarketCommand.reader? c.kind).bind fun read => (read c.payload).toOption

theorem kind_of_market? {c : InternalCommand} {m : MarketCommand} (h : c.market? = some m) :
    c.kind = m.kind := by
  obtain ⟨read, hread, hm⟩ := Option.bind_eq_some_iff.mp h
  cases hr : read c.payload with
  | error e => rw [hr] at hm; cases hm
  | ok a =>
    rw [hr] at hm
    cases hm
    exact (MarketCommand.kind_of_read hread hr).symm

/-- A command means what its payload was written for. -/
theorem market?_of_toJson {c : InternalCommand} {m : MarketCommand} (kind : c.kind = m.kind)
    (payload : c.payload = m.toJson) : c.market? = some m := by
  obtain ⟨read, hread, hm⟩ := m.read_toJson
  simp [market?, kind, payload, hread, hm, Except.toOption]

@[simp]
theorem market?_fresh (id : CommandId) (m : MarketCommand) (createdAt : Timestamp) :
    (fresh id m.kind m.toJson createdAt).market? = some m :=
  market?_of_toJson rfl rfl

/-- Only kind and payload matter. -/
theorem market?_congr {c d : InternalCommand} (kind : c.kind = d.kind)
    (payload : c.payload = d.payload) : c.market? = d.market? := by
  rw [market?, market?, kind, payload]

end InternalCommand

namespace Market

theorem kind_of_route? {market : Market} {kind : String} {route : Route Handling}
    (h : market.route? kind = some route) : route.kind = kind := by
  obtain ⟨read, -, rfl⟩ := Option.map_eq_some_iff.mp h
  rfl

theorem find?_router (market : Market) (kind : String) :
    market.router.find? kind = if kind ∈ MarketCommand.kinds then market.route? kind else none := by
  simp only [router, Router.find?]
  -- By induction over the registered kinds: each has one route, which is of that kind.
  induction MarketCommand.kinds with
  | nil => rfl
  | cons first rest ih =>
    rw [List.filterMap_cons]
    cases route : market.route? first with
    | none =>
      by_cases same : kind = first
      · subst same
        simp [ih, route]
      · simp [ih, same]
    | some r =>
      have hr := kind_of_route? route
      by_cases same : kind = first
      · subst same
        simp [hr, route]
      · have other : first ≠ kind := Ne.symm same
        simp [hr, ih, same, other]

theorem find?_of_reader? (market : Market) {kind : String} {read : Reader MarketCommand}
    (h : MarketCommand.reader? kind = some read) :
    market.router.find? kind = some (.ofHandler kind read fun context command =>
      (market.handle command context.now).run) := by
  rw [find?_router, if_pos (MarketCommand.mem_kinds_of_reader? h), route?, h]
  rfl

/-- The handlers are given what a command means, … -/
theorem dispatch_of_market? (market : Market) {command : InternalCommand} {m : MarketCommand}
    (h : command.market? = some m) (now : Timestamp) :
    market.router.dispatch command now
      = (market.handle m now).run >>= fun r => pure (r.mapError .handler) := by
  obtain ⟨read, hread, hm⟩ := Option.bind_eq_some_iff.mp h
  have found := find?_of_reader? market hread
  cases hr : read command.payload with
  | error e => rw [hr] at hm; cases hm
  | ok a =>
    rw [hr] at hm
    cases hm
    simp only [Router.dispatch, found, Route.ofHandler, hr]

/-- … and without a meaning it fails before any handler. -/
theorem dispatch_of_market?_eq_none (market : Market) {command : InternalCommand}
    (h : command.market? = none) (now : Timestamp) :
    ∃ e, market.router.dispatch command now = pure (.error e) := by
  cases hread : MarketCommand.reader? command.kind with
  | none =>
    have missing : market.router.find? command.kind = none := by
      rw [find?_router, route?, hread]
      simp
    exact ⟨_, by rw [Router.dispatch, missing]⟩
  | some read =>
    have found := find?_of_reader? market hread
    cases hr : read command.payload with
    | error e =>
      refine ⟨.malformedPayload command.kind e.message, ?_⟩
      simp only [Router.dispatch, found, Route.ofHandler, hr]
    | ok a => simp [InternalCommand.market?, hread, hr, Except.toOption] at h

end Market

end SupplierSwitch
