import SupplierSwitch.Proofs.Market.Drains
import SupplierSwitch.Proofs.Market.Progress

namespace SupplierSwitch

namespace Marketplace

open Memory Tables

/-!
# What the market guarantees

Whatever clients there are and in whichever order they work, in a market that began with accounting
points without processes and nothing else:

* `effectuated_once` — every process has one effectuation, which is concluded once and never in
  vain, and the supplier of a point is that of the process which was effectuated on it last;
* `answered_once` — every transaction waits for the answer to its only request, or was answered
  once, or carries one result that nobody asked for.
-/

/-! ### Who supplies a point -/

/-- The process that the conclusion effectuates on the point, if it effectuates one. -/
def Conclusion.effectuated? (conclusion : Conclusion) (gsrn : String) : Option ProcessId :=
  match conclusion.command.market? with
  | some (.effectuate _ e) => if e.accountingPointId = gsrn then some e.processId else none
  | _ => none

/-- The process that was effectuated last on the point. -/
def lastEffectuated (gsrn : String) (log : List Conclusion) : Option ProcessId :=
  (log.filterMap (·.effectuated? gsrn)).getLast?

/-- The point is supplied as the process says that was effectuated last, or else as it was at first.
    -/
def SuppliedBy (first : Option GlnNumber) (p : AccountingPoint) : Option ProcessId → Prop
  | none => p.energySupplier = first
  | some id => ∃ q, p.process? id = some q ∧ p.energySupplier = some q.energySupplier

theorem lastEffectuated_append (gsrn : String) (log : List Conclusion) (conclusion : Conclusion) :
    lastEffectuated gsrn (log ++ [conclusion])
      = (conclusion.effectuated? gsrn).or (lastEffectuated gsrn log) := by
  cases h : conclusion.effectuated? gsrn with
  | none => simp [lastEffectuated, h]
  | some id => simp [lastEffectuated, h]

variable {t t' : Tables} {concluded : List Conclusion}

theorem SuppliedBy.register {first : Option GlnNumber} {p : AccountingPoint}
    {last : Option ProcessId} (h : SuppliedBy first p last) (new : BusinessProcess)
    (version : Nat) :
    SuppliedBy first { p with processes := p.processes ++ [new], version := version } last := by
  cases last with
  | none => exact h
  | some id =>
    obtain ⟨q, registered, supplier⟩ := h
    refine ⟨q, ?_, supplier⟩
    have look := AccountingPoint.process?_register p new id
    rw [registered, Option.some_or] at look
    exact look

theorem suppliedBy_effectuate {p : AccountingPoint} {q : BusinessProcess}
    (distinct : (p.processes.map (·.processId)).Nodup)
    (registered : p.process? q.processId = some q)
    (first : Option GlnNumber) (version : Nat) :
    SuppliedBy first { p with
      processes := AccountingPoint.markEffectuated q.processId p.processes
      energySupplier := some q.energySupplier
      version := version } (some q.processId) := by
  have look := p.process?_effectuated (some q.energySupplier) q.processId q.processId
  rw [registered, ← AccountingPoint.markEffectuated_eq_map distinct] at look
  exact ⟨AccountingPoint.effectuated q.processId q, look, by simp⟩

/-- Points neither come nor go, and their suppliers change with effectuations only. -/
theorem Progress.supplied (books : Books t) (h : Progress t t' concluded) {gsrn : String}
    {p' : AccountingPoint} (found : t'.point? gsrn = some p') :
    ∃ p, t.point? gsrn = some p ∧ ∀ first log, SuppliedBy first p (lastEffectuated gsrn log) →
      SuppliedBy first p' (lastEffectuated gsrn (log ++ concluded)) := by
  cases h with
  | quiet rewritten =>
    rw [point?, rewritten.points] at found
    exact ⟨p', found, fun first log h => by rwa [List.append_nil]⟩
  | entered entry admits receives =>
    rw [receives.point?_of_nil entry.points] at found
    exact ⟨p', found, fun first log h => by rwa [List.append_nil]⟩
  | @concluded claimed outcome c now holds verdict admits receives =>
    simp only [lastEffectuated_append]
    -- Confirmations and effectuations write one point each; only the latter change its supplier.
    cases verdict with
    | @confirmed _ _ point _ _ _ _ means seen =>
      have current := seen.current (admits.points _ (List.mem_singleton_self _))
      rw [receives.point?_of_single rfl] at found
      rw [Conclusion.effectuated?, means]
      split at found
      · rename_i same
        cases found
        rw [same, current]
        exact ⟨point, rfl, fun first log h => h.register _ _⟩
      · exact ⟨p', found, fun first log h => h⟩
    | rejected means | forwarded means | known means =>
      rw [receives.point?_of_nil rfl] at found
      rw [Conclusion.effectuated?, means]
      exact ⟨p', found, fun first log h => h⟩
    | @effectuated q point means seen registered =>
      have current := seen.current (admits.points _ (List.mem_singleton_self _))
      have last : Conclusion.effectuated? ⟨claimed.command, .completed⟩ gsrn
          = if point.gsrn.text = gsrn then some q.processId else none := by
        rw [Conclusion.effectuated?, means]
      rw [receives.point?_of_single rfl] at found
      split at found
      · rename_i same
        cases found
        rw [last, if_pos same.symm]
        refine ⟨point, same ▸ current, fun first log _ => ?_⟩
        exact suppliedBy_effectuate (books.registered.names _ _ current) registered first _
      · rename_i other
        rw [last, if_neg (Ne.symm other)]
        exact ⟨p', found, fun first log h => h⟩

theorem Run.supplied {s₀ s : State} {log : List Conclusion} (run : Run s₀ log s) (sound : s₀.Sound)
    {gsrn : String} {p : AccountingPoint} (found : s.tables.point? gsrn = some p) :
    ∃ p₀, s₀.tables.point? gsrn = some p₀ ∧
      SuppliedBy p₀.energySupplier p (lastEffectuated gsrn log) := by
  -- By induction from the back: the point is followed to where it was before the last step.
  induction run generalizing p with
  | nil => exact ⟨p, found, rfl⟩
  | step before step ih =>
    have here := before.sound sound
    obtain ⟨p', found', kept⟩ := (here.progress step).supplied here.books found
    obtain ⟨p₀, found₀, supplied⟩ := ih found'
    exact ⟨p₀, found₀, kept _ _ supplied⟩

/-! ### Outcomes -/

/-- No effectuation is concluded in vain. -/
theorem Progress.completed (h : Progress t t' concluded) {conclusion : Conclusion}
    (mem : conclusion ∈ concluded) {process : ProcessKind}
    (kind : conclusion.command.kind = process.effectuationKind) :
    conclusion.outcome = .completed := by
  cases h with
  | quiet _ | entered _ _ _ => cases mem
  | concluded holds verdict admits receives =>
    rw [List.mem_singleton] at mem
    subst mem
    cases verdict with
    | confirmed | effectuated | forwarded | known => rfl
    -- Only requests are turned down, and those are of another kind.
    | rejected means =>
      have same := (InternalCommand.kind_of_market? means).symm.trans kind
      obtain ⟨e, request⟩ := MarketCommand.eq_effectuate_of_kind same
      cases request

theorem Run.completed {s₀ s : State} {log : List Conclusion} (run : Run s₀ log s) (sound : s₀.Sound)
    {conclusion : Conclusion} (mem : conclusion ∈ log) {process : ProcessKind}
    (kind : conclusion.command.kind = process.effectuationKind) :
    conclusion.outcome = .completed := by
  induction run with
  | nil => cases mem
  | step before step ih =>
    obtain old | new := List.mem_append.mp mem
    · exact ih old
    · exact ((before.sound sound).progress step).completed new kind

/-! ### Messages -/

/-- A commit adds to the messages of a transaction if what it stages does. -/
theorem messages_of_receives {c : ChangeSet} {now : Timestamp} (receives : t.Receives c now t')
    (adds : ∀ staged ∈ c.transactions, ∀ committed,
      t.transaction? staged.transaction.id = some committed →
        committed.messages <+: staged.transaction.messages)
    {id : TransactionId} {transaction : Transaction}
    (found : t.transaction? id = some transaction) :
    ∃ later, t'.transaction? id = some later ∧ transaction.messages <+: later.messages := by
  by_cases written : id ∈ c.transactions.map (·.transaction.id)
  · obtain ⟨staged, hstaged, rfl⟩ := List.mem_map.mp written
    exact ⟨_, receives.transactions staged hstaged, adds staged hstaged transaction found⟩
  · exact ⟨transaction, (receives.otherTransactions id written).trans found, List.prefix_refl _⟩

theorem Progress.messages (h : Progress t t' concluded) {id : TransactionId}
    {transaction : Transaction} (found : t.transaction? id = some transaction) :
    ∃ later, t'.transaction? id = some later ∧ transaction.messages <+: later.messages := by
  cases h with
  | quiet rewritten =>
    refine ⟨transaction, ?_, List.prefix_refl _⟩
    rw [transaction?, rewritten.transactions]
    exact found
  | entered entry admits receives =>
    refine messages_of_receives receives (fun staged hstaged committed old => ?_) found
    rw [admits.inserts staged hstaged (entry.transactions staged hstaged).1] at old
    cases old
  | concluded holds verdict admits receives =>
    refine messages_of_receives receives (fun staged hstaged committed old => ?_) found
    -- An answer is appended to what was read, and by its guard that is what is stored.
    cases verdict with
    | confirmed _ _ _ _ _ seen | rejected _ seen =>
      obtain ⟨_, old', guard⟩ := admits.updates staged hstaged _
        (by rw [List.mem_singleton.mp hstaged])
      cases old.symm.trans old'
      obtain rfl := List.mem_singleton.mp hstaged
      obtain rfl := seen.current old guard
      exact List.prefix_append _ _
    | forwarded _ _ =>
      obtain rfl := List.mem_singleton.mp hstaged
      rw [admits.inserts _ hstaged rfl] at old
      cases old
    | effectuated _ _ _ | known _ => cases hstaged

theorem Run.messages {s s' : State} {log : List Conclusion} (run : Run s log s') (sound : s.Sound)
    {id : TransactionId} {transaction : Transaction}
    (found : s.tables.transaction? id = some transaction) :
    ∃ later, s'.tables.transaction? id = some later ∧ transaction.messages <+: later.messages := by
  induction run with
  | nil => exact ⟨transaction, found, List.prefix_refl _⟩
  | step before step ih =>
    obtain ⟨between, found', grown⟩ := ih
    obtain ⟨later, found'', grown'⟩ := ((before.sound sound).progress step).messages found'
    exact ⟨later, found'', grown.trans grown'⟩

/-! ### The guarantees -/

/-- Every process of a stored point has exactly one stored effectuation, of its kind and under its
    names, which is processed once the process is no longer pending. There is no other effectuation;
    none is ever turned down; and the supplier of a point is the one of the process that was
    effectuated on it last, or else the one that the point had at first. -/
theorem effectuated_once {s₀ s : State} {log : List Conclusion} (seeded : s₀.Seeded)
    (run : Run s₀ log s) :
    (∀ p ∈ s.tables.points, ∀ q ∈ p.processes, ∃ row,
      s.tables.rowsOf (MarketCommand.isEffectuation q.kind ⟨p.gsrn.text, q.processId⟩) = [row] ∧
        (q.status = .pending ↔ row.command.processed = false)) ∧
    (∀ row ∈ s.tables.commands, ∀ process : ProcessKind,
      row.command.kind = process.effectuationKind →
      ∃ e, row.command.market? = some (.effectuate process e) ∧
        ∃ p ∈ s.tables.points, ∃ q ∈ p.processes,
          p.gsrn.text = e.accountingPointId ∧ q.processId = e.processId ∧ q.kind = process) ∧
    (∀ conclusion ∈ log, ∀ process : ProcessKind,
      conclusion.command.kind = process.effectuationKind → conclusion.outcome = .completed) ∧
    ∀ p ∈ s.tables.points, ∃ p₀ ∈ s₀.tables.points, p₀.gsrn.text = p.gsrn.text ∧
      SuppliedBy p₀.energySupplier p (lastEffectuated p.gsrn.text log) := by
  have books := (run.sound seeded.sound).books
  refine ⟨fun p mem q registered => ?_, fun row mem process kind => ?_,
    fun conclusion mem process kind => ?_, fun p mem => ?_⟩
  · exact books.registered.effectuations _ p (point?_of_mem books.keyed.points mem) q registered
  · obtain ⟨m, means⟩ := books.meaningful row mem
    obtain ⟨e, rfl⟩ :=
      MarketCommand.eq_effectuate_of_kind ((InternalCommand.kind_of_market? means).symm.trans kind)
    obtain ⟨p, q, found, registered, same⟩ := books.registered.processes row mem process e means
    exact ⟨e, means, p, List.mem_of_find?_eq_some found, q,
      AccountingPoint.mem_of_process? registered, gsrn_of_point? found,
      AccountingPoint.id_of_process? registered, same⟩
  · exact run.completed seeded.sound mem kind
  · obtain ⟨p₀, found, supplied⟩ := run.supplied seeded.sound (point?_of_mem books.keyed.points mem)
    exact ⟨p₀, List.mem_of_find?_eq_some found, gsrn_of_point? found, supplied⟩

theorem effectuated_once_oneMoveIn :
    ∃ log, Run (.atRest OneMoveIn.world.store) log (.atRest OneMoveIn.done.store) ∧
      ∃ p ∈ OneMoveIn.done.store.points, ∃ q ∈ p.processes, q.status = .effectuated ∧ ∃ row,
        OneMoveIn.done.store.rowsOf
          (MarketCommand.isEffectuation q.kind ⟨p.gsrn.text, q.processId⟩) = [row] ∧
        row.command.processed = true ∧
        SuppliedBy none p (lastEffectuated p.gsrn.text log) := by
  obtain ⟨log, run⟩ := OneMoveIn.run
  obtain ⟨processes, -, -, suppliers⟩ := effectuated_once OneMoveIn.seeded run
  have effectuated : ∃ p ∈ OneMoveIn.done.store.points, ∃ q ∈ p.processes,
      q.status = .effectuated := by
    decide +kernel
  obtain ⟨p, mem, q, registered, past⟩ := effectuated
  obtain ⟨row, only, status⟩ := processes p mem q registered
  obtain ⟨p₀, mem₀, -, supplied⟩ := suppliers p mem
  obtain rfl := List.mem_singleton.mp mem₀
  refine ⟨log, run, p, mem, q, registered, past, row, only, ?_, supplied⟩
  simpa [past] using status

/-- Every stored transaction is in exactly one situation. Confirmations of different transactions
    are for different processes, every stored request has its transaction, and messages are only
    ever added. -/
theorem answered_once {s₀ s : State} {log : List Conclusion} (seeded : s₀.Seeded)
    (run : Run s₀ log s) :
    (∀ transaction ∈ s.tables.transactions,
      ∃! situation, InSituation s.tables transaction situation) ∧
    (∀ transaction₁ ∈ s.tables.transactions, ∀ transaction₂ ∈ s.tables.transactions,
      ∀ process₁ r₁ process₂ r₂, Confirms s.tables transaction₁ process₁ r₁ →
        Confirms s.tables transaction₂ process₂ r₂ →
        (r₁.accountingPointId, r₁.processId) = (r₂.accountingPointId, r₂.processId) →
          transaction₁.id = transaction₂.id) ∧
    (∀ row ∈ s.tables.commands, ∀ process : ProcessKind, row.command.kind = process.requestKind →
      ∃ r, row.command.market? = some (.request process r) ∧
        ∃ transaction ∈ s.tables.transactions, transaction.id = r.transactionId) ∧
    ∀ s' log', Run s log' s' → ∀ transaction ∈ s.tables.transactions,
      ∃ later ∈ s'.tables.transactions, later.id = transaction.id ∧
        transaction.messages <+: later.messages := by
  have sound := run.sound seeded.sound
  have books := sound.books
  have found {transaction : Transaction} (mem : transaction ∈ s.tables.transactions) :
      s.tables.transaction? transaction.id = some transaction :=
    transaction?_of_mem books.keyed.transactions mem
  refine ⟨fun transaction mem => ?_,
    fun transaction₁ mem₁ transaction₂ mem₂ process₁ r₁ process₂ r₂ confirms₁ confirms₂ same => ?_,
    fun row mem process kind => ?_, fun s' log' further transaction mem => ?_⟩
  · obtain ⟨situation, here⟩ := books.answered.situations _ transaction (found mem)
    exact ⟨situation, here, fun other there => there.unique here⟩
  · obtain ⟨point, name⟩ := Prod.mk.inj same
    exact books.answered.distinct _ _ transaction₁ transaction₂ (found mem₁) (found mem₂)
      process₁ r₁ process₂ r₂ confirms₁ confirms₂ point name
  · obtain ⟨m, means⟩ := books.meaningful row mem
    obtain ⟨r, rfl⟩ :=
      MarketCommand.eq_request_of_kind ((InternalCommand.kind_of_market? means).symm.trans kind)
    obtain ⟨transaction, stored⟩ := books.answered.opened row mem process r means
    exact ⟨r, means, transaction, List.mem_of_find?_eq_some stored, id_of_transaction? stored⟩
  · obtain ⟨later, stored, grown⟩ := further.messages sound (found mem)
    exact ⟨later, List.mem_of_find?_eq_some stored, id_of_transaction? stored, grown⟩

theorem answered_once_oneMoveIn :
    ∃ log, Run (.atRest OneMoveIn.world.store) log (.atRest OneMoveIn.done.store) ∧
      ∃ transaction ∈ OneMoveIn.done.store.transactions,
        InSituation OneMoveIn.done.store transaction .confirmed := by
  obtain ⟨log, run⟩ := OneMoveIn.run
  obtain ⟨situations, -⟩ := answered_once OneMoveIn.seeded run
  have confirmed : ∃ transaction ∈ OneMoveIn.done.store.transactions,
      transaction.situation? = some .confirmed := by
    decide +kernel
  obtain ⟨transaction, mem, told⟩ := confirmed
  obtain ⟨situation, here, -⟩ := situations transaction mem
  cases here.situation?.symm.trans told
  exact ⟨log, run, transaction, mem, here⟩

end Marketplace

end SupplierSwitch
