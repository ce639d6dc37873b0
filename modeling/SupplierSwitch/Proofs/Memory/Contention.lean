import SupplierSwitch.Proofs.Memory.Programs
import SupplierSwitch.Proofs.Memory.Refusals

namespace SupplierSwitch

/-!
# Programs that fail only because of others

Of a program that others get in the way of one would like to know not only what it leads to, but
that it gets there. Errors are spoken of, too, therefore: a program manages if it ends well, or with
a conflict of versions that others have brought about. The identifiers that are issued to it come
from a known supply, so that they can be told from those that are in use.

* `Memory.Surroundings` — what is known of the others and of the supply;
* `Handling.EndsIn` — what a program ends with, and how many identifiers it has drawn by then;
* `Work.Manages` — it succeeds, or fails by such a conflict, with a rule for each operation;
* `Work.Refuses` — it fails with a certain error, where nobody else is at work;
* `Handling.EndsIn.runIn` — what a program ends with in its surroundings, it ends with in the store.
-/

/-- The identifier that is issued after so many others. -/
def IdSupply.next (ids : IdSupply) (k : Nat) : Uuid :=
  ids.issue (ids.issued + k)

/-- Of the next identifiers, those from `first` on have nothing to do with what `uses` says. -/
def IdSupply.Unspent (ids : IdSupply) (count first : Nat) (uses : Uuid → Prop) : Prop :=
  ∀ k, first ≤ k → k < count → ¬ uses (ids.next k)

theorem IdSupply.Unspent.mono {ids : IdSupply} {count first later : Nat} {uses uses' : Uuid → Prop}
    (h : ids.Unspent count first uses) (le : first ≤ later)
    (fewer : ∀ k, later ≤ k → k < count → uses' (ids.next k) → uses (ids.next k)) :
    ids.Unspent count later uses' :=
  fun k hk less used => h k (Nat.le_trans le hk) less (fewer k hk less used)

namespace Memory

/-- What a program has around it. -/
structure Surroundings where
  /-- What everybody keeps. -/
  inv : Tables → Prop
  /-- Nobody else is at work. -/
  alone : Prop
  ids : IdSupply
  /-- So many identifiers are drawn at most. -/
  most : Nat

namespace Surroundings

/-- The tables at a later moment. -/
structure Later (around : Surroundings) (t t' : Tables) : Prop where
  evolves : t.Evolves t'
  inv : around.inv t'
  quiet : around.alone → t' = t

theorem Later.trans {around : Surroundings} {t t' t'' : Tables} (h : around.Later t t')
    (h' : around.Later t' t'') : around.Later t t'' :=
  ⟨h.evolves.trans h'.evolves, h'.inv, fun alone => (h'.quiet alone).trans (h.quiet alone)⟩

/-- A transaction that is stored stays. -/
theorem Later.stored {around : Surroundings} {t t' : Tables} {id : TransactionId}
    (h : around.Later t t') (stored : ∃ transaction, t.transaction? id = some transaction) :
    ∃ transaction, t'.transaction? id = some transaction := by
  obtain ⟨transaction, found⟩ := stored
  obtain ⟨current, found', -⟩ := h.evolves.transactions id transaction found
  rw [Tables.id_of_transaction? found] at found'
  exact ⟨current, found'⟩

end Surroundings

/-- A step of a program in a unit `c` over tables that were `t`, when `d` identifiers have been
    drawn: the answer that it may get, from which tables, and what becomes of the unit and the
    count. -/
def Replies (around : Surroundings) (t : Tables) (c : ChangeSet) (d : Nat) :
    (action : Action) → Tables → action.Answer → ChangeSet → Nat → Prop
  | .ask call, t', answer, c', d' =>
    around.Later t t' ∧ t'.answer call c = (answer, c') ∧ d' = d
  | .now, t', _, c', d' => t' = t ∧ c' = c ∧ d' = d
  | .freshId, t', id, c', d' => t' = t ∧ c' = c ∧ id = around.ids.next d ∧ d' = d + 1
  | .report _, t', _, c', d' => t' = t ∧ c' = c ∧ d' = d

/-- Such an answer is one that a program has to reckon with anyhow. -/
theorem Replies.responds {around : Surroundings} {inv : Tables → Prop} {t t' : Tables}
    {c c' : ChangeSet} {d d' : Nat} {action : Action} {answer : action.Answer}
    (keeps : ∀ t, around.inv t → inv t) (h : Replies around t c d action t' answer c' d') :
    Responds ⟨inv, False⟩ t c action t' answer c' := by
  cases action with
  | ask call =>
    obtain ⟨later, same, -⟩ := h
    exact ⟨later.evolves, keeps _ later.inv, same⟩
  | now | report _ =>
    obtain ⟨rfl, rfl, -⟩ := h
    exact ⟨rfl, rfl⟩
  | freshId =>
    obtain ⟨rfl, rfl, -⟩ := h
    exact ⟨rfl, rfl, False.elim⟩

/-- What a unit has staged since the tables were `t₀`. It is tidy, and if nobody else is at work, it
    fits the tables, which are still the same. -/
structure Staged (around : Surroundings) (t₀ : Tables) (c : ChangeSet) (t : Tables) : Prop where
  evolves : t₀.Evolves t
  tidy : c.Tidy
  fits : around.alone → t = t₀ ∧ t.Fits c

theorem Staged.empty (around : Surroundings) (t : Tables) : Staged around t .empty t :=
  ⟨.refl t, ChangeSet.tidy_empty, fun _ => ⟨rfl, .empty t⟩⟩

theorem Replies.staged {around : Surroundings} {t₀ t t' : Tables} {c c' : ChangeSet} {d d' : Nat}
    {action : Action} {answer : action.Answer} (h : Replies around t c d action t' answer c' d')
    (staged : Staged around t₀ c t) : Staged around t₀ c' t' := by
  cases action with
  | ask call =>
    obtain ⟨later, same, -⟩ := h
    refine ⟨staged.evolves.trans later.evolves, ?_, fun alone => ?_⟩
    · have tidy := ChangeSet.tidy_answer staged.tidy t' call
      rw [same] at tidy
      exact tidy
    · obtain ⟨first, fits⟩ := staged.fits alone
      obtain rfl := later.quiet alone
      exact ⟨first, fits.answer same⟩
  | now | freshId | report _ =>
    obtain ⟨rfl, rfl, -⟩ := h
    exact staged

end Memory

open Memory

namespace Handling

variable {α β : Type} {around : Surroundings} {post : α → ChangeSet → Tables → Nat → Prop}
variable {c : ChangeSet} {t : Tables} {d : Nat}

/-- Whatever a program is answered in its surroundings, it ends with a result, a change set, tables
    and a number of identifiers drawn that satisfy `post`. -/
def EndsIn (around : Surroundings) (post : α → ChangeSet → Tables → Nat → Prop) :
    Handling α → ChangeSet → Tables → Nat → Prop
  | done a, c, t, d => post a c t d
  | step action next, c, t, d => ∀ t' answer c' d', Replies around t c d action t' answer c' d' →
    EndsIn around post (next answer) c' t' d'

theorem EndsIn.imp {post' : α → ChangeSet → Tables → Nat → Prop} {program : Handling α}
    (h : program.EndsIn around post c t d) (weaker : ∀ a c t d, post a c t d → post' a c t d) :
    program.EndsIn around post' c t d := by
  induction program generalizing c t d with
  | done a => exact weaker a c t d h
  | step action next ih =>
    exact fun t' answer c' d' reply => ih answer (h t' answer c' d' reply)

theorem endsIn_bind {program : Handling α} {next : α → Handling β}
    {post : β → ChangeSet → Tables → Nat → Prop}
    (h : program.EndsIn around (fun a => (next a).EndsIn around post) c t d) :
    (program >>= next).EndsIn around post c t d := by
  induction program generalizing c t d with
  | done a => exact h
  | step action rest ih =>
    exact fun t' answer c' d' reply => ih answer (h t' answer c' d' reply)

/-- What is known of a program whatever the supply may be is known of it here. -/
theorem EndsIn.and_leads {inv : Tables → Prop} {post' : α → ChangeSet → Tables → Prop}
    {program : Handling α} (h : program.EndsIn around post c t d)
    (keeps : ∀ t, around.inv t → inv t) (leads : program.Leads ⟨inv, False⟩ post' c t) :
    program.EndsIn around (fun a c t d => post a c t d ∧ post' a c t) c t d := by
  induction program generalizing c t d with
  | done a => exact ⟨h, leads⟩
  | step action next ih =>
    intro t' answer c' d' reply
    exact ih answer (h t' answer c' d' reply) (leads t' answer c' (reply.responds keeps))

/-- What a program has staged in its course holds together whatever it was answered. -/
theorem EndsIn.staged {program : Handling α} {t₀ : Tables} (h : program.EndsIn around post c t d)
    (staged : Staged around t₀ c t) :
    program.EndsIn around (fun a c t d => post a c t d ∧ Staged around t₀ c t) c t d := by
  induction program generalizing c t d with
  | done a => exact ⟨h, staged⟩
  | step action next ih =>
    exact fun t' answer c' d' reply => ih answer (h t' answer c' d' reply) (reply.staged staged)

theorem endsIn_reports {post : Unit → ChangeSet → Tables → Nat → Prop} {notices : List Notice}
    (h : post () c t d) :
    (notices.forM fun notice => perform (.report notice)).EndsIn around post c t d := by
  induction notices with
  | nil => exact h
  | cons notice rest ih =>
    rintro t' answer c' d' ⟨rfl, rfl, rfl⟩
    exact ih

end Handling

namespace Work

variable {α β : Type} {around : Surroundings} {post : α → ChangeSet → Tables → Nat → Prop}
variable {c : ChangeSet} {t : Tables} {d : Nat}

/-- The result is as `post` says, or others have changed an aggregate meanwhile. -/
def Managed (around : Surroundings) (post : α → ChangeSet → Tables → Nat → Prop) :
    Except HandlerError α → ChangeSet → Tables → Nat → Prop
  | .ok a, c, t, d => post a c t d
  | .error e, _, _, d =>
    ¬ around.alone ∧ d ≤ around.most ∧ ∃ detail, e = .repository (.conflict detail)

/-- Whatever a program is answered in its surroundings, it succeeds, and its result, change set,
    tables and number of identifiers drawn satisfy `post`; or it fails because others have changed
    an aggregate meanwhile. -/
def Manages (around : Surroundings) (post : α → ChangeSet → Tables → Nat → Prop) (work : Work α)
    (c : ChangeSet) (t : Tables) (d : Nat) : Prop :=
  work.run.EndsIn around (Managed around post) c t d

theorem manages_iff {work : Work α} : work.Manages around post c t d ↔
    work.run.EndsIn around (Managed around post) c t d :=
  .rfl

theorem manages_pure {a : α} (h : post a c t d) : Manages around post (pure a) c t d :=
  h

theorem manages_bind {work : Work α} {next : α → Work β}
    {post : β → ChangeSet → Tables → Nat → Prop}
    (h : work.Manages around (fun a => (next a).Manages around post) c t d) :
    (work >>= next).Manages around post c t d := by
  refine Handling.endsIn_bind (h.imp fun r c t d hr => ?_)
  cases r with
  | ok a => exact hr
  | error e => exact hr

theorem Manages.imp {post' : α → ChangeSet → Tables → Nat → Prop} {work : Work α}
    (h : work.Manages around post c t d) (weaker : ∀ a c t d, post a c t d → post' a c t d) :
    work.Manages around post' c t d := by
  refine Handling.EndsIn.imp h fun r c t d hr => ?_
  cases r with
  | ok a => exact weaker a c t d hr
  | error e => exact hr

/-- Whatever a program is answered in its surroundings, it fails with the error. -/
def Refuses (around : Surroundings) (e : HandlerError) (work : Work α) (c : ChangeSet) (t : Tables)
    (d : Nat) : Prop :=
  work.run.EndsIn around (fun r _ _ d => r = .error e ∧ d ≤ around.most) c t d

theorem refuses_iff {e : HandlerError} {work : Work α} : work.Refuses around e c t d ↔
    work.run.EndsIn around (fun r _ _ d => r = .error e ∧ d ≤ around.most) c t d :=
  .rfl

/-- What has failed does not go on. -/
theorem Refuses.bind {e : HandlerError} {work : Work α} (h : work.Refuses around e c t d)
    (next : α → Work β) : (work >>= next).Refuses around e c t d := by
  refine Handling.endsIn_bind (Handling.EndsIn.imp h fun r c t d hr => ?_)
  rw [hr.1]
  exact ⟨rfl, hr.2⟩

/-- Where nobody else is at work, only what comes next can fail. -/
theorem refuses_bind {e : HandlerError} {work : Work α} {next : α → Work β} (alone : around.alone)
    (h : work.Manages around (fun a => (next a).Refuses around e) c t d) :
    (work >>= next).Refuses around e c t d := by
  refine Handling.endsIn_bind (Handling.EndsIn.imp h fun r c t d hr => ?_)
  cases r with
  | ok a => exact hr
  | error e => exact absurd alone hr.1

/-! ### The rule of each operation -/

theorem manages_ofDomain {result : Except DomainError α} {a : α} (granted : result = .ok a)
    (h : post a c t d) : Manages around post (ofDomain result) c t d := by
  rw [granted]
  exact h

theorem manages_ofConversion {result : Noted (Except RegistryError α)} {a : α}
    (converted : result.value = .ok a) (h : post a c t d) :
    (ofConversion result).Manages around post c t d := by
  refine Handling.endsIn_bind (Handling.endsIn_reports ?_)
  rw [converted]
  exact h

theorem manages_freshId {post : Uuid → ChangeSet → Tables → Nat → Prop}
    (h : post (around.ids.next d) c t (d + 1)) : freshId.Manages around post c t d := by
  rintro t' answer c' d' ⟨rfl, rfl, rfl, rfl⟩
  exact h

theorem manages_now {post : Timestamp → ChangeSet → Tables → Nat → Prop}
    (h : ∀ reading, post reading c t d) : now.Manages around post c t d := by
  rintro t' answer c' d' ⟨rfl, rfl, rfl⟩
  exact h answer

theorem manages_report {notice : Notice} {post : Unit → ChangeSet → Tables → Nat → Prop}
    (h : post () c t d) : (report notice).Manages around post c t d := by
  rintro t' answer c' d' ⟨rfl, rfl, rfl⟩
  exact h

theorem manages_reports {notices : List Notice} {post : Unit → ChangeSet → Tables → Nat → Prop}
    (h : post () c t d) : (notices.forM report).Manages around post c t d := by
  induction notices with
  | nil => exact manages_pure h
  | cons notice rest ih => exact manages_bind (manages_report ih)

theorem manages_findPoint {gsrn : String}
    {post : Option AccountingPoint → ChangeSet → Tables → Nat → Prop}
    (h : ∀ t', around.Later t t' → post ((c.point? gsrn).or (t'.point? gsrn)) c t' d) :
    (findPoint gsrn).Manages around post c t d := by
  rintro t' answer c' d' ⟨later, same, rfl⟩
  rw [Tables.answer_findPoint] at same
  cases same
  exact h t' later

/-- A save of a point conflicts only if the point is no longer in the version that is expected. -/
theorem manages_savePoint {point : AccountingPoint} {expected : ExpectedVersion}
    {post : Unit → ChangeSet → Tables → Nat → Prop} (new : c.point? point.gsrn.text = none)
    (guard : expected.Matches (t.pointVersion point.gsrn)) (few : d ≤ around.most)
    (h : ∀ t', around.Later t t' →
      post () { c with points := c.points ++ [⟨point, expected⟩] } t' d) :
    (savePoint point expected).Manages around post c t d := by
  rintro t' answer c' d' ⟨later, same, rfl⟩
  rw [Tables.answer_savePoint, new] at same
  by_cases matched : expected.Matches (t'.pointVersion point.gsrn)
  · have done : c.updatePoint point expected ((t'.point? point.gsrn.text).map (·.version))
        = .ok { c with points := c.points ++ [⟨point, expected⟩] } := by
      have actual : expected.Matches (((t'.point? point.gsrn.text).map (·.version)).getD 0) :=
        matched
      simp only [ChangeSet.updatePoint, ChangeSet.checkVersion, ExpectedVersion.check,
        if_pos actual]
      rfl
    rw [done] at same
    cases same
    exact h t' later
  · have failed : ∃ detail, c.updatePoint point expected
        ((t'.point? point.gsrn.text).map (·.version)) = .error (.conflict detail) := by
      have actual : ¬ expected.Matches (((t'.point? point.gsrn.text).map (·.version)).getD 0) :=
        matched
      simp only [ChangeSet.updatePoint, ChangeSet.checkVersion, ExpectedVersion.check,
        if_neg actual]
      exact ⟨_, rfl⟩
    obtain ⟨detail, failed⟩ := failed
    rw [failed] at same
    cases same
    refine ⟨fun alone => matched ?_, few, detail, rfl⟩
    rw [later.quiet alone]
    exact guard

theorem manages_getTransaction {id : TransactionId}
    {post : Transaction → ChangeSet → Tables → Nat → Prop} (new : c.transaction? id = none)
    (stored : ∃ transaction, t.transaction? id = some transaction)
    (h : ∀ t' transaction, around.Later t t' → t'.transaction? id = some transaction →
      post transaction c t' d) :
    (getTransaction id).Manages around post c t d := by
  rintro t' answer c' d' ⟨later, same, rfl⟩
  -- What is stored is never lost, so that the transaction is still there.
  obtain ⟨current, found⟩ := later.stored stored
  rw [Tables.answer_getTransaction, new, found] at same
  cases same
  exact h t' current later found

/-- A transaction that is not there is not got. -/
theorem refuses_getTransaction {id : TransactionId} (alone : around.alone)
    (few : d ≤ around.most) (new : c.transaction? id = none) (missing : t.transaction? id = none) :
    (getTransaction id).Refuses around (.repository (.notFound ("transaction " ++ id.text)))
      c t d := by
  rintro t' answer c' d' ⟨later, same, rfl⟩
  obtain rfl := later.quiet alone
  rw [Tables.answer_getTransaction, new, missing] at same
  cases same
  exact ⟨rfl, few⟩

/-- A save of a transaction conflicts only if the transaction is no longer in the version that is
    expected. -/
theorem manages_saveTransaction {transaction current : Transaction} {expected : ExpectedVersion}
    {post : Unit → ChangeSet → Tables → Nat → Prop} (new : c.transaction? transaction.id = none)
    (stored : t.transaction? transaction.id = some current)
    (guard : expected.Matches current.version) (few : d ≤ around.most)
    (h : ∀ t', around.Later t t' → post ()
      { c with transactions := c.transactions ++ [⟨transaction, .update expected⟩] } t' d) :
    (saveTransaction transaction expected).Manages around post c t d := by
  rintro t' answer c' d' ⟨later, same, rfl⟩
  obtain ⟨found, stored'⟩ := later.stored ⟨current, stored⟩
  rw [Tables.answer_saveTransaction, new, stored'] at same
  simp only [Option.map_some, ChangeSet.updateTransaction, ChangeSet.checkVersion,
    ExpectedVersion.check] at same
  split at same
  · cases same
    exact h t' later
  · rename_i mismatch
    cases same
    refine ⟨fun alone => mismatch ?_, few, _, rfl⟩
    obtain rfl := later.quiet alone
    cases stored.symm.trans stored'
    exact guard

/-- A transaction is added unless it is there already. -/
theorem endsIn_addTransaction {transaction : Transaction}
    {post : Except HandlerError Unit → ChangeSet → Tables → Nat → Prop}
    (added : ∀ t', around.Later t t' → post (.ok ()) (c.insertTransaction transaction) t' d)
    (known : ∀ t' detail, around.Later t t' →
      post (.error (.repository (.alreadyExists detail))) c t' d) :
    (addTransaction transaction).run.EndsIn around post c t d := by
  rintro t' answer c' d' ⟨later, same, rfl⟩
  rw [Tables.answer_addTransaction] at same
  split at same
  · cases same
    exact known t' _ later
  · cases same
    exact added t' later

/-- A program that cannot fail by itself, whatever it answers. -/
theorem manages_lift {program : Handling α} (h : program.EndsIn around post c t d) :
    Manages around post (ExceptT.lift program) c t d :=
  Handling.endsIn_bind h

/-- The first command that a unit enqueues is staged under the next identifier. -/
theorem manages_enqueue {kind : String} {payload : Json}
    {post : CommandId → ChangeSet → Tables → Nat → Prop} (first : c.commands = [])
    (h : ∀ t' created, around.Later t t' → post ⟨around.ids.next d⟩
      { c with commands := [.fresh ⟨around.ids.next d⟩ kind payload created] } t' (d + 1)) :
    (enqueue kind payload).Manages around post c t d := by
  refine manages_bind (manages_freshId (manages_bind (manages_now fun created => ?_)))
  refine manages_bind ?_
  rintro t' answer c' d' ⟨later, same, rfl⟩
  have staged : c.stageCommand (.fresh ⟨around.ids.next d⟩ kind payload created)
      = .ok { c with commands := [.fresh ⟨around.ids.next d⟩ kind payload created] } := by
    simp [ChangeSet.stageCommand, first]
  rw [Tables.answer_stageCommand, staged] at same
  cases same
  exact manages_bind (manages_report (manages_pure (h t' created later)))

-- A condition on a program is taken apart by the rules above, never by evaluating the program.
attribute [irreducible] Manages Refuses

end Work

/-- What a program ends with in its surroundings, it ends with when it is run in a unit of the store
    in memory, if the store is as everybody keeps it. -/
theorem Handling.EndsIn.runIn {α : Type} {around : Surroundings}
    {post : α → ChangeSet → Tables → Nat → Prop} {program : Handling α} {c : ChangeSet} {d : Nat}
    {w : World Tables} (ends : program.EndsIn around post c w.store d) (inv : around.inv w.store)
    (drawn : w.ids = { around.ids with issued := around.ids.issued + d }) :
    let r := (store.runIn program c).run w
    ∃ d', r.2.store = w.store ∧ r.2.ids = { around.ids with issued := around.ids.issued + d' } ∧
      post r.1.1 r.1.2 w.store d' := by
  induction program generalizing c w d with
  | done a => exact ⟨d, rfl, drawn, ends⟩
  | step action next ih =>
    cases action with
    | ask call => exact ih _ (ends _ _ _ _ ⟨⟨.refl _, inv, fun _ => rfl⟩, rfl, rfl⟩) inv drawn
    | now => exact ih _ (ends _ _ _ _ ⟨rfl, rfl, rfl⟩) inv drawn
    | report notice => exact ih _ (ends _ _ _ _ ⟨rfl, rfl, rfl⟩) inv drawn
    | freshId =>
      have issued : w.ids.issue w.ids.issued = around.ids.next d := by
        rw [drawn]
        rfl
      refine ih _ (ends _ _ _ _ ⟨rfl, rfl, issued, rfl⟩) inv ?_
      show { w.ids with issued := w.ids.issued + 1 } = _
      rw [drawn]
      rfl

end SupplierSwitch
