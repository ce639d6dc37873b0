import SupplierSwitch.Proofs.Market.Decisions
import SupplierSwitch.Proofs.Market.Enqueuing
import SupplierSwitch.Proofs.Memory.Exchange
import SupplierSwitch.Proofs.Memory.Undisturbed

namespace SupplierSwitch

/-!
# What the processing of a command touches

A request or an effectuation that nobody disturbs looks at three things that are stored: the row of
its command, the point and the transaction that it names. It writes to these, enqueues what is to
follow, and leaves everything else alone. Two worlds in which the three are the same can be told
apart by it only in what they generate.

* `Memory.Supplied` — worlds with identifiers left to issue;
* `OutboundMessage.Like`, `Transaction.Like` — the same up to what is generated;
* `Decides.like` — decisions by the same point and transaction are the same;
* `Market.answered_comes` — what a handler comes to;
* `Market.Leaves` and `Market.process_leaves` — what its processing writes, under the names in the
  command;
* `Market.process_like` — the processing of a command in two worlds that agree on what it looks at.
-/

open Memory Tables

/-! ### Identifiers left -/

namespace Memory

/-- The next identifiers that a world issues, so many, are distinct, and neither the tables nor the
    given commands have them. -/
structure Supplied (count : Nat) (commands : List CommandId) (w : World Tables) : Prop where
  distinct : w.ids.Distinct count
  unspent : w.ids.Unspent count 0 w.store.Mentions
  apart : w.ids.Unspent count 0 fun id => ⟨id⟩ ∈ commands

instance (count : Nat) (commands : List CommandId) (w : World Tables) :
    Decidable (Supplied count commands w) :=
  decidable_of_iff ((∀ k < count, ∀ j < k, w.ids.next j ≠ w.ids.next k) ∧
      (∀ k < count, ¬ w.store.Mentions (w.ids.next k)) ∧
      ∀ k < count, (⟨w.ids.next k⟩ : CommandId) ∉ commands)
    ⟨fun ⟨distinct, unspent, apart⟩ => ⟨fun j k before within => distinct k within j before,
        fun k _ within => unspent k within, fun k _ within => apart k within⟩,
      fun h => ⟨fun k within j before => h.distinct j k before within,
        fun k within => h.unspent k (Nat.zero_le k) within,
        fun k within => h.apart k (Nat.zero_le k) within⟩⟩

/-- Nobody else is at work, and three identifiers may be drawn. -/
def quiet (ids : IdSupply) : Surroundings where
  inv _ := True
  alone := True
  ids := ids
  most := 3

variable {count : Nat} {commands : List CommandId} {w w' : World Tables} {t : Tables}

theorem later_quiet {ids : IdSupply} {t' : Tables} (later : (quiet ids).Later t t') : t' = t :=
  later.quiet trivial

theorem Supplied.supplies (h : Supplied count commands w) (enough : 3 ≤ count) :
    Supplies (quiet w.ids) count 0 w.store := by
  refine ⟨by omega, Nat.le_refl _, h.distinct, fun t' later => ?_⟩
  rw [later_quiet later]
  exact h.unspent

/-- Identifiers that are left when some were drawn and nothing else of them is in use. -/
theorem Supplied.later {d less : Nat} (h : Supplied count commands w) (few : d + less ≤ count)
    (drawn : w'.ids = { w.ids with issued := w.ids.issued + d })
    (unspent : w.ids.Unspent count d w'.store.Mentions) : Supplied less commands w' := by
  have next (k : Nat) : w'.ids.next k = w.ids.next (d + k) := by
    rw [drawn, IdSupply.next, IdSupply.next, Nat.add_assoc]
  refine ⟨fun j k before within => ?_, fun k _ within used => ?_, fun k _ within used => ?_⟩
  · rw [next, next]
    exact h.distinct _ _ (by omega) (by omega)
  · exact unspent (d + k) (by omega) (by omega) (next k ▸ used)
  · exact h.apart (d + k) (by omega) (by omega) (next k ▸ used)

end Memory

/-! ### The same up to what is generated -/

/-- The messages are the same, or answers to the same request for the same reasons: then they differ
    only in their identifiers and in the instants at which they were made. -/
inductive OutboundMessage.Like (market : Market) : OutboundMessage → OutboundMessage → Prop where
  | same (m : OutboundMessage) : Like market m m
  | answer (process : ProcessKind) (r : SupplyRequest) (reasons : Option (List Reason))
      (now now' : Timestamp) (messageId activityId messageId' activityId' : MessageId) :
      Like market (market.message process r now reasons messageId activityId)
        (market.message process r now' reasons messageId' activityId')

/-- The transactions are of the same name and version, and so are their messages, one by one, up to
    what is generated. -/
structure Transaction.Like (market : Market) (a b : Transaction) : Prop where
  id_eq : a.id = b.id
  version_eq : a.version = b.version
  messages : List.Forall₂ (OutboundMessage.Like market) a.messages b.messages

theorem Transaction.Like.refl (market : Market) (a : Transaction) : a.Like market a :=
  ⟨rfl, rfl, List.forall₂_same.mpr fun m _ => .same m⟩

/-- What is written over transactions that are alike. -/
theorem Transaction.Like.next {market : Market} {old old' : Option Transaction} {a b : Transaction}
    (olds : Option.Rel (Transaction.Like market) old old') (h : a.Like market b) :
    (nextTransaction old a).Like market (nextTransaction old' b) := by
  refine ⟨h.id_eq, ?_, h.messages⟩
  cases olds with
  | none => rfl
  | some same => simp [nextTransaction, same.version_eq]

/-- An answer in a transaction is like any other answer to the request for the same reasons. -/
theorem Market.like_answering (market : Market) (process : ProcessKind) (r : SupplyRequest)
    (reasons : Option (List Reason)) (now now' : Timestamp)
    (messageId activityId messageId' activityId' : MessageId) (before : Transaction) :
    (market.answering process r now reasons messageId activityId before).transaction.Like market
      (market.answering process r now' reasons messageId' activityId' before).transaction := by
  refine ⟨rfl, rfl, List.rel_append (Transaction.Like.refl market before).messages ?_⟩
  exact .cons (.answer ..) .nil

/-- What is staged of points is the same, and what is staged of transactions is alike. -/
structure ChangeSet.Like (market : Market) (c c' : ChangeSet) : Prop where
  points : c'.points = c.points
  transactions : List.Forall₂ (Transaction.Like market) (c.transactions.map (·.transaction))
    (c'.transactions.map (·.transaction))

/-- What is staged stands under the names in a command, and is stored already. -/
structure ChangeSet.Names (m : MarketCommand) (t : Tables) (c : ChangeSet) : Prop where
  points : ∀ p ∈ c.points.map (·.point),
    m.pointId? = some p.gsrn.text ∧ p.gsrn.text ∈ t.points.map (·.gsrn.text)
  transactions : ∀ s ∈ c.transactions.map (·.transaction),
    m.transactionId? = some s.id ∧ s.id ∈ t.transactions.map (·.id)

theorem ChangeSet.names_empty (m : MarketCommand) (t : Tables) : ChangeSet.empty.Names m t :=
  ⟨List.forall_mem_nil _, List.forall_mem_nil _⟩

namespace Decides

variable {market : Market} {point : Option AccountingPoint} {transaction : Option Transaction}
  {m : MarketCommand} {outcome outcome' : CommandOutcome} {c c' : ChangeSet}

/-- By the same point and transaction a command is decided in the same way. -/
theorem like (h : Decides market point transaction m outcome c)
    (h' : Decides market point transaction m outcome' c') :
    outcome' = outcome ∧ c.Like market c' := by
  cases h with
  | confirmed known passes opened parsed =>
    cases h' with
    | confirmed known' _ opened' parsed' =>
      cases known.symm.trans known'
      cases opened.symm.trans opened'
      cases parsed.symm.trans parsed'
      exact ⟨rfl, rfl, .cons (market.like_answering ..) .nil⟩
    | rejected fails => exact absurd passes fails
  | rejected fails opened =>
    cases h' with
    | confirmed _ passes => exact absurd passes fails
    | rejected _ opened' =>
      cases opened.symm.trans opened'
      exact ⟨rfl, rfl, .cons (market.like_answering ..) .nil⟩
  | effectuated known registered pending kind =>
    cases h' with
    | effectuated known' registered' =>
      cases known.symm.trans known'
      cases registered.symm.trans registered'
      exact ⟨rfl, rfl, .nil⟩
    | turnedDown fails =>
      exact absurd (RuleBook.ofEffectuation_passes_iff.mpr ⟨_, _, known, registered, pending, kind⟩)
        fails
  | turnedDown fails =>
    cases h' with
    | effectuated known registered pending kind =>
      exact absurd (RuleBook.ofEffectuation_passes_iff.mpr ⟨_, _, known, registered, pending, kind⟩)
        fails
    | turnedDown => exact ⟨rfl, rfl, .nil⟩

/-- A decided request has its transaction. -/
theorem opened {process : ProcessKind} {r : SupplyRequest}
    (h : Decides market point transaction (.request process r) outcome c) :
    ∃ before, transaction = some before := by
  cases h with
  | confirmed _ _ opened | rejected _ opened => exact ⟨_, opened⟩

theorem unmarked (h : Decides market point transaction m outcome c) : c.processed = [] := by
  cases h <;> rfl

/-- What is staged is what is stored under the names in the command. -/
theorem names {t : Tables} (h : Decides market (m.point? t) (m.transaction? t) m outcome c) :
    c.Names m t := by
  have point {id : String} {p : AccountingPoint} (found : t.point? id = some p) :
      some id = some p.gsrn.text ∧ p.gsrn.text ∈ t.points.map (·.gsrn.text) :=
    ⟨congrArg some (gsrn_of_point? found).symm,
      List.mem_map_of_mem (List.mem_of_find?_eq_some found)⟩
  have transaction {id : TransactionId} {s : Transaction} (found : t.transaction? id = some s) :
      some id = some s.id ∧ s.id ∈ t.transactions.map (·.id) :=
    ⟨congrArg some (id_of_transaction? found).symm,
      List.mem_map_of_mem (List.mem_of_find?_eq_some found)⟩
  cases h with
  | confirmed known _ opened =>
    have named := point known
    have named' := transaction opened
    exact ⟨List.forall_mem_singleton.mpr named, List.forall_mem_singleton.mpr named'⟩
  | rejected _ opened =>
    have named := transaction opened
    exact ⟨List.forall_mem_nil _, List.forall_mem_singleton.mpr named⟩
  | effectuated known =>
    have named := point known
    exact ⟨List.forall_mem_singleton.mpr named, List.forall_mem_nil _⟩
  | turnedDown => exact ChangeSet.names_empty _ t

end Decides

/-! ### What a handler comes to -/

namespace Market

variable {config : MarketConfig} {m : MarketCommand} {now : Timestamp} {count : Nat}
  {commands : List CommandId} {claimed : ClaimedCommand} {w : World Tables}

/-- What the handler of a command comes to over tables that nobody else changes, with what it stages
    and the number of identifiers that it has drawn: a decision, or for want of the transaction that
    is to be answered in an error. -/
inductive Comes (config : MarketConfig) (ids : IdSupply) (count : Nat) (t : Tables)
    (m : MarketCommand) : Except DispatchError CommandOutcome → ChangeSet → Nat → Prop where
  | decided {outcome : CommandOutcome} {c : ChangeSet} {d : Nat}
      (decides : Decides (ofConfig config) (m.point? t) (m.transaction? t) m outcome c)
      (spends : Spends ids count 0 c d) : Comes config ids count t m (.ok outcome) c d
  | unopened {process : ProcessKind} {r : SupplyRequest} {c : ChangeSet} {d : Nat}
      (means : m = .request process r) (missing : m.transaction? t = none) (few : d ≤ 3) :
      Comes config ids count t m (.error (.handler (unopened r))) c d

theorem comes_of_manages {ids : IdSupply} {t : Tables} {work : Work CommandOutcome}
    (h : work.Manages (quiet ids) (fun outcome c _ d =>
      Decided config (quiet ids) count 0 t m outcome c d) .empty t 0) :
    work.run.EndsIn (quiet ids) (fun result c _ d => Comes config ids count t m
      (result.mapError DispatchError.handler) c d) .empty t 0 := by
  refine (Work.manages_iff.mp h).imp fun result c t' d managed => ?_
  cases result with
  | ok outcome =>
    obtain ⟨spends, t₁, t₂, later₁, later₂, decides⟩ := managed
    rw [later_quiet later₁, later_quiet later₂] at decides
    exact .decided decides spends
  | error e => exact absurd trivial managed.1

theorem handle_comes (named : ∃ id, m.pointId? = some id) {ids : IdSupply} {t : Tables}
    (supplies : Supplies (quiet ids) count 0 t) :
    ((ofConfig config).handle m now).run.EndsIn (quiet ids) (fun result c _ d =>
      Comes config ids count t m (result.mapError DispatchError.handler) c d) .empty t 0 := by
  cases m with
  | request process r =>
    cases opened : t.transaction? r.transactionId with
    | some transaction => exact comes_of_manages (manages_handleRequest supplies ⟨_, opened⟩)
    | none =>
      refine (Work.refuses_iff.mp (refuses_handleRequest trivial ?_ opened)).imp ?_
      · show 0 + 2 ≤ 3
        omega
      · rintro _ c _ d ⟨rfl, few⟩
        exact .unopened rfl opened few
  | effectuate process e => exact comes_of_manages (manages_handleEffectuation config supplies.most)
  | forwardResult result =>
    obtain ⟨id, impossible⟩ := named
    cases impossible

/-- What the handler of a claimed command comes to in a world that nobody disturbs. -/
theorem answered_comes (config : MarketConfig) (means : claimed.command.market? = some m)
    (named : ∃ id, m.pointId? = some id) (supplied : Supplied count commands w)
    (enough : 3 ≤ count) :
    ∃ d, (answered (ofConfig config).router claimed w).2.ids
        = { w.ids with issued := w.ids.issued + d } ∧
      Comes config w.ids count w.store m (handled (ofConfig config).router claimed w).1
        (handled (ofConfig config).router claimed w).2 d ∧
      w.store.Fits (handled (ofConfig config).router claimed w).2 := by
  let now := w.clock.reading w.clock.taken
  have handles := @handle_comes config m now count named w.ids w.store (supplied.supplies enough)
  have dispatches : ((ofConfig config).router.dispatch claimed.command now).EndsIn (quiet w.ids)
      (fun result c _ d => Comes config w.ids count w.store m result c d) .empty w.store 0 := by
    rw [(ofConfig config).dispatch_of_market? means now]
    exact Handling.endsIn_bind handles
  have ends := dispatches.staged (Staged.empty (quiet w.ids) w.store)
  obtain ⟨d, -, drawn, comes, staged⟩ := ends.runIn (w := Processor.entered claimed w) trivial rfl
  exact ⟨d, drawn, comes, (staged.fits trivial).2⟩

namespace Comes

variable {ids : IdSupply} {t : Tables} {dispatched : Except DispatchError CommandOutcome}
  {c : ChangeSet} {d : Nat}

theorem few (h : Comes config ids count t m dispatched c d) : d ≤ 3 := by
  cases h with
  | decided _ spends => exact spends.few
  | unopened _ _ few => exact few

/-- A handler never says that the store does not answer. -/
theorem own (h : Comes config ids count t m dispatched c d) (e : DispatchError)
    (failed : dispatched = .error e) : Processor.storageFailure e = none := by
  cases h with
  | decided => cases failed
  | unopened =>
    cases failed
    rfl

theorem decided_of_completes {row : Option CommandRow}
    (h : Comes config ids count t m dispatched c d)
    (completed : completes claimed row dispatched = true) :
    ∃ outcome, Decides (ofConfig config) (m.point? t) (m.transaction? t) m outcome c ∧
      Spends ids count 0 c d := by
  cases h with
  | decided decides spends => exact ⟨_, decides, spends⟩
  | unopened => cases completed

/-- By the same point and transaction a handler comes to the same. -/
theorem same {ids' : IdSupply} {count' d' : Nat} {t' : Tables} {c' : ChangeSet}
    {dispatched' : Except DispatchError CommandOutcome}
    (h : Comes config ids count t m dispatched c d)
    (h' : Comes config ids' count' t' m dispatched' c' d') (point : m.point? t' = m.point? t)
    (transaction : m.transaction? t' = m.transaction? t) : dispatched' = dispatched := by
  cases h with
  | decided decides =>
    cases h' with
    | decided decides' =>
      rw [point, transaction] at decides'
      rw [(decides.like decides').1]
    | unopened means missing =>
      subst means
      obtain ⟨before, opened⟩ := decides.opened
      rw [transaction, opened] at missing
      cases missing
  | unopened means missing =>
    subst means
    cases h' with
    | decided decides' =>
      obtain ⟨before, opened⟩ := decides'.opened
      rw [transaction, missing] at opened
      cases opened
    | unopened means' =>
      cases means'
      rfl

theorem prepared {w : World Tables} (h : Comes config w.ids count w.store m dispatched c d)
    (supplied : Supplied count commands w) (fits : w.store.Fits c) (outcome : CommandOutcome)
    (done : dispatched = .ok outcome) : w.store.Prepared c := by
  cases h with
  | decided decides spends =>
    refine ⟨fits, fun command mem => row?_eq_none_iff.mpr fun stored => ?_, decides.unmarked⟩
    obtain ⟨k, -, less, drawn⟩ := spends.commands command mem
    exact supplied.unspent k (Nat.zero_le k) less (drawn ▸ .inl stored)
  | unopened => cases done

end Comes

end Market

/-! ### What is left -/

/-- What is committed of a unit: all of it, or nothing. -/
def ChangeSet.when (done : Bool) (c : ChangeSet) : ChangeSet :=
  if done then c else .empty

namespace Market

/-- From `t` to `t'` a command has written a unit under its names, and of the rows of the given
    commands it has touched its own only. -/
structure Leaves (claimed : ClaimedCommand) (m : MarketCommand) (commands : List CommandId)
    (c : ChangeSet) (t t' : Tables) : Prop where
  points : t'.points
    = (c.points.map (·.point)).foldl (overwrite (·.gsrn.text) nextPoint) t.points
  transactions : t'.transactions
    = (c.transactions.map (·.transaction)).foldl (overwrite Transaction.id nextTransaction)
      t.transactions
  names : c.Names m t
  rows : ∀ id ∈ commands, id ≠ claimed.command.id → t'.row? id = t.row? id

variable {config : MarketConfig} {m : MarketCommand} {count : Nat} {commands : List CommandId}
  {claimed : ClaimedCommand} {w : World Tables}

/-- What a decided unit leaves when it is marked and committed. -/
theorem leaves_of_decided {t t' : Tables} {ids : IdSupply} {d : Nat} {outcome : CommandOutcome}
    {c : ChangeSet} {now : Timestamp}
    (decides : Decides (ofConfig config) (m.point? t) (m.transaction? t) m outcome c)
    (spends : Spends ids count 0 c d) (apart : ids.Unspent count 0 fun id => ⟨id⟩ ∈ commands)
    (admits : t.Admits (c.marking claimed)) (applied : t' = t.apply (c.marking claimed) now)
    (receives : t.Receives (c.marking claimed) now t') : Leaves claimed m commands c t t' := by
  have marks : c.marking claimed
      = { c with processed := [(claimed.command.id, claimed.claim)] } :=
    ChangeSet.markProcessed_of_unmarked decides.unmarked _ _
  rw [marks] at admits applied receives
  rw [admits.apply_eq] at applied
  subst applied
  refine ⟨rfl, rfl, decides.names, fun id mem other => receives.row?_of_untouched ?_ ?_⟩
  · exact fun marked => other (List.mem_singleton.mp marked)
  · intro staged
    obtain ⟨command, enqueued, rfl⟩ := List.mem_map.mp staged
    obtain ⟨k, le, less, drawn⟩ := spends.commands command enqueued
    exact apart k le less (drawn ▸ mem)

/-- What the processing of a command reports and leaves in a world that nobody disturbs. -/
theorem process_leaves (config : MarketConfig) (settings : ProcessorConfig) (report : DrainReport)
    (means : claimed.command.market? = some m) (named : ∃ id, m.pointId? = some id)
    {less : Nat} (supplied : Supplied (less + 3) commands w) :
    let router := (ofConfig config).router
    let dispatched := (handled router claimed w).1
    let row := w.store.row? claimed.command.id
    let done := ((processor router settings).process claimed report).run w
    done.1 = .ok (reported settings.retryPolicy claimed report row dispatched) ∧
    Leaves claimed m commands ((handled router claimed w).2.when (completes claimed row dispatched))
      w.store done.2.store ∧
    Supplied less commands done.2 := by
  intro router dispatched row done
  obtain ⟨d, drawn, comes, fits⟩ :=
    answered_comes config means named supplied (Nat.le_add_left 3 less)
  have prepared := comes.prepared supplied fits
  have ids : done.2.ids = { w.ids with issued := w.ids.issued + d } :=
    (ids_process router settings claimed report w).trans drawn
  have few : d + less ≤ less + 3 := by
    have := comes.few
    omega
  refine ⟨result_process comes.own prepared, ?_⟩
  obtain ⟨completed, admits, now, applied, receives⟩ | ⟨failed, fails⟩ :=
    settled_process settings report comes.own prepared
  · rw [ChangeSet.when, if_pos completed]
    obtain ⟨outcome, decides, spends⟩ := comes.decided_of_completes completed
    refine ⟨leaves_of_decided decides spends supplied.apart admits applied receives,
      supplied.later few ids fun k le within used => ?_⟩
    rw [applied] at used
    obtain before | staged := mentions_of_apply admits used
    · exact supplied.unspent k (Nat.zero_le k) within before
    · refine spends.unspent k le within ?_
      rwa [ChangeSet.marking, ChangeSet.markProcessed_of_unmarked decides.unmarked] at staged
  · rw [ChangeSet.when, if_neg (Bool.eq_false_iff.mp failed)]
    refine ⟨⟨fails.points, fails.transactions, ChangeSet.names_empty m _, fun id _ other =>
      fails.others id other⟩, supplied.later few ids fun k _ within used => ?_⟩
    refine supplied.unspent k (Nat.zero_le k) within ?_
    rw [Mentions, fails.commandIds, fails.transactions] at used
    exact used

/-- Two states of the tables agree on what the processing of a command looks at. -/
structure Agrees (claimed : ClaimedCommand) (m : MarketCommand) (t t' : Tables) : Prop where
  row : t'.row? claimed.command.id = t.row? claimed.command.id
  point : m.point? t' = m.point? t
  transaction : m.transaction? t' = m.transaction? t

theorem Agrees.symm {t t' : Tables} (h : Agrees claimed m t t') : Agrees claimed m t' t :=
  ⟨h.row.symm, h.point.symm, h.transaction.symm⟩

/-- Where two worlds agree on what it looks at, the processing of a command is reported in the same
    way, and what is committed is alike. -/
theorem process_like (config : MarketConfig) (settings : ProcessorConfig)
    (means : claimed.command.market? = some m) (named : ∃ id, m.pointId? = some id)
    {less less' : Nat} {commands' : List CommandId} {v : World Tables}
    (supplied : Supplied (less + 3) commands w) (supplied' : Supplied (less' + 3) commands' v)
    (agrees : Agrees claimed m w.store v.store) :
    let market := ofConfig config
    let run (report : DrainReport) :=
      ((processor market.router settings).process claimed report).run
    (handled market.router claimed v).1 = (handled market.router claimed w).1 ∧
    (∀ report, ∃ told, (run report w).1 = .ok told ∧ (run report v).1 = .ok told) ∧
    ∃ c c', c.Like market c' ∧
      (∀ report, Leaves claimed m commands c w.store (run report w).2.store) ∧
      ∀ report, Leaves claimed m commands' c' v.store (run report v).2.store := by
  intro market run
  obtain ⟨d, -, comes, -⟩ := answered_comes config means named supplied (Nat.le_add_left 3 less)
  obtain ⟨d', -, comes', -⟩ :=
    answered_comes config means named supplied' (Nat.le_add_left 3 less')
  have same := comes.same comes' agrees.point agrees.transaction
  refine ⟨same, fun report => ?_, _, _, ?_,
    fun report => (process_leaves config settings report means named supplied).2.1,
    fun report => (process_leaves config settings report means named supplied').2.1⟩
  · have told := (process_leaves config settings report means named supplied).1
    have told' := (process_leaves config settings report means named supplied').1
    rw [agrees.row, same] at told'
    exact ⟨_, told, told'⟩
  · rw [agrees.row, same]
    cases completed : completes claimed (w.store.row? claimed.command.id)
        (handled market.router claimed w).1 with
    | false => exact ⟨rfl, .nil⟩
    | true =>
      obtain ⟨outcome, decides, -⟩ := comes.decided_of_completes completed
      obtain ⟨outcome', decides', -⟩ := comes'.decided_of_completes (same ▸ completed)
      rw [agrees.point, agrees.transaction] at decides'
      exact (decides.like decides').2

end Market

end SupplierSwitch
