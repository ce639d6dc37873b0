import SupplierSwitch.Proofs.Market.Handlers

namespace SupplierSwitch

namespace Marketplace

open Memory Tables

/-!
# Every step of the market

* `Progress` — all that a step may do to the tables: rewrite rows, let things in, or conclude a
  command;
* `State.Sound` — the books are in order, and every client is on the way to what its job is about;
* `State.Sound.progress` and `State.Sound.step` — a step of a sound state is of one of those sorts
  and leads to a sound state;
* `Run.sound` — what follows for histories.
-/

/-- All that a step may do to the tables, with the commands that it concludes. -/
inductive Progress (t t' : Tables) : List Conclusion → Prop where
  | quiet {f : CommandRow → CommandRow} (rewritten : t.Rewritten t' f) : Progress t t' []
  | entered {c : ChangeSet} {now : Timestamp} (entry : Entry c) (admits : t.Admits c)
      (receives : t.Receives c now t') : Progress t t' []
  | concluded {claimed : ClaimedCommand} {outcome : CommandOutcome} {c : ChangeSet}
      {now : Timestamp} (holds : Holds t claimed) (verdict : Verdict t claimed outcome c)
      (admits : t.Admits c) (receives : t.Receives c now t') :
      Progress t t' [⟨claimed.command, outcome⟩]

theorem Progress.books {t t' : Tables} {concluded : List Conclusion} (h : Progress t t' concluded)
    (books : Books t) (keyed : t'.Keyed) : Books t' := by
  cases h with
  | quiet rewritten => exact books.of_rewritten rewritten keyed
  | entered entry admits receives => exact books.of_entry entry admits receives keyed
  | concluded holds verdict admits receives =>
    exact books.of_verdict holds verdict admits receives keyed

/-- The client is on the way to what its job is about. -/
def Client.Sound (t : Tables) : Client → Prop
  | idle => True
  | holding claimed => Holds t claimed
  | working job c program => job.Given t ∧ program.Leads job.reliance job.Post c t

theorem Client.MayBegin.given {t : Tables} {client : Client} {job : Job} (may : client.MayBegin job)
    (sound : client.Sound t) : job.Given t := by
  cases may with
  | intake intakes => trivial
  | handle market claimed => exact sound

/-- What others do does not throw a client off. -/
theorem Client.Sound.later {t t' : Tables} {client : Client} (h : client.Sound t)
    (evolves : t.Evolves t') (books : Books t') : client.Sound t' := by
  cases client with
  | idle => trivial
  | holding claimed => exact Holds.later h evolves
  | working job c program =>
    obtain ⟨given, leads⟩ := h
    exact ⟨given.later evolves, leads.later job.stable evolves books⟩

/-- The invariant of the market. -/
structure State.Sound (s : State) : Prop where
  books : Books s.tables
  tidy : s.shared.Tidy
  clients : ∀ n, (s.clients n).Sound s.tables

theorem Books.of_seeded {s : State} (h : s.Seeded) : Books s.tables := by
  have noRow (row : CommandRow) : row ∉ s.tables.commands := by simp [h.commands]
  have noProcess (gsrn : String) (p : AccountingPoint) (found : s.tables.point? gsrn = some p) :
      p.processes = [] := h.processes p (List.mem_of_find?_eq_some found)
  refine ⟨⟨?_, ?_, h.numbers⟩, fun row mem => (noRow row mem).elim, ⟨?_, ?_, ?_⟩, ⟨?_, ?_, ?_⟩⟩
  · simp [commandIds, h.commands]
  · simp [h.transactions]
  · intro gsrn p found
    simp [noProcess gsrn p found]
  · intro gsrn p found q mem
    simp [noProcess gsrn p found] at mem
  · exact fun row mem => (noRow row mem).elim
  · exact fun row mem => (noRow row mem).elim
  · intro id transaction found
    simp [transaction?, h.transactions] at found
  · intro id₁ id₂ transaction₁ transaction₂ found
    simp [transaction?, h.transactions] at found

theorem State.Seeded.sound {s : State} (h : s.Seeded) : s.Sound := by
  refine ⟨Books.of_seeded h, fun n c isOpen => ?_, fun n => ?_⟩
  · simp [State.shared, h.clients n, Client.unit] at isOpen
  · rw [h.clients n]
    trivial

namespace State.Sound

variable {s s' : State} {concluded : List Conclusion}

theorem progress (sound : s.Sound) (h : Step s concluded s') :
    Progress s.tables s'.tables concluded := by
  have keyed := sound.books.keyed
  cases h with
  | claim free yields =>
    obtain ⟨_, _, _, ⟨⟩, -⟩ | ⟨f, rewritten⟩ :=
      (Memory.Step.claim (s := s.shared) yields).effect.rewritten keyed
    exact .quiet rewritten
  | begin may yields =>
    obtain ⟨-, rfl⟩ := yields_begin.mp yields
    exact .quiet (.refl _)
  | work busy yields fresh =>
    obtain ⟨rfl, -⟩ := @responds_of_yields ⟨Books, _⟩ _ _ _ _ _ _ _ sound.books yields fresh
    exact .quiet (.refl _)
  | @commit n job c outcome now result t busy yields =>
    have working := sound.clients n
    rw [busy] at working
    obtain ⟨given, post⟩ := working
    have tidy : c.Tidy := sound.tidy n c (by simp [State.shared, busy, Client.unit])
    obtain ⟨done, rfl⟩ | ⟨e, -, rfl, rfl⟩ := yields_commit.mp yields
    · obtain ⟨admits, rfl⟩ := commit_ok_iff.mp done
      have receives := receives_apply tidy admits now
      -- What the program has come to says which sort of unit it is.
      cases job with
      | intake intakes => exact .entered post admits receives
      | handle market claimed =>
        obtain ⟨late, mark⟩ | verdict := post outcome rfl
        · exact absurd admits (late.not_admits (by simp [mark]))
        · exact .concluded given verdict admits receives
    · cases job <;> exact .quiet (.refl _)
  | leave => exact .quiet (.refl _)
  | record yields =>
    obtain ⟨_, _, _, ⟨⟩, -⟩ | ⟨f, rewritten⟩ :=
      (Memory.Step.record (s := s.shared) yields).effect.rewritten keyed
    exact .quiet rewritten
  | retry yields =>
    obtain ⟨_, _, _, ⟨⟩, -⟩ | ⟨f, rewritten⟩ :=
      (Memory.Step.retry (s := s.shared) yields).effect.rewritten keyed
    exact .quiet rewritten

/-- Nothing that is stored is lost. -/
theorem evolves (sound : s.Sound) (h : Step s concluded s') : s.tables.Evolves s'.tables := by
  obtain same | ⟨e, call⟩ := h.shared
  · have same : s'.tables = s.tables := congrArg Shared.tables same
    rw [same]
    exact .refl _
  · exact call.evolves sound.tidy sound.books.keyed

/-- One client goes on, and the others have nothing to do with it. -/
theorem clients_after (sound : s.Sound) {n : Nat} {client : Client} {t : Tables}
    (evolves : s.tables.Evolves t) (books : Books t) (own : client.Sound t) (m : Nat) :
    ((s.after n client t).clients m).Sound t := by
  by_cases same : m = n
  · subst same
    simpa [State.after] using own
  · have other : (s.after n client t).clients m = s.clients m := by
      simp [State.after, Function.update_of_ne same]
    rw [other]
    exact (sound.clients m).later evolves books

/-- What the client goes on with is sound, whichever step it is. -/
theorem clients_step (sound : s.Sound) (h : Step s concluded s') (books : Books s'.tables)
    (m : Nat) : (s'.clients m).Sound s'.tables := by
  have evolves := sound.evolves h
  cases h with
  | @claim n filter now result t free yields =>
    refine sound.clients_after evolves books ?_ m
    obtain ⟨-, rfl, rfl⟩ | ⟨row, token, next, rfl, rfl⟩ := yields_claimNext.mp yields
    · trivial
    · have found := row?_of_mem sound.books.keyed.commands (List.mem_of_find?_eq_some next)
      have holds : Holds s.tables ⟨row.command, token⟩ := ⟨row, found, rfl, rfl⟩
      exact holds.later evolves
  | @begin n job now c t may yields =>
    obtain ⟨⟨⟩, rfl⟩ := yields_begin.mp yields
    refine sound.clients_after evolves books ?_ m
    have given := may.given (sound.clients n)
    exact ⟨given, Job.leads given⟩
  | @work n job c c' action next now answer t busy yields fresh =>
    obtain ⟨rfl, reply⟩ := @responds_of_yields job.reliance _ _ _ _ _ _ _ sound.books yields fresh
    refine sound.clients_after evolves books ?_ m
    have before := sound.clients n
    rw [busy] at before
    obtain ⟨given, leads⟩ := before
    exact ⟨given, leads s.tables answer c' reply⟩
  | commit | leave =>
    exact sound.clients_after evolves books (show Client.idle.Sound _ from trivial) m
  | record | retry => exact (sound.clients m).later evolves books

/-- A step of a sound state leads to a sound state. -/
theorem step (sound : s.Sound) (h : Step s concluded s') : s'.Sound := by
  -- Units stay tidy and keys single because the store sees to it, whoever its clients are.
  have next : s'.shared.Tidy ∧ s'.tables.Keyed := by
    obtain same | ⟨e, call⟩ := h.shared
    · have tables : s'.tables = s.tables := congrArg Shared.tables same
      rw [same, tables]
      exact ⟨sound.tidy, sound.books.keyed⟩
    · exact ⟨call.tidy sound.tidy, call.keyed sound.tidy sound.books.keyed⟩
  have books := (sound.progress h).books sound.books next.2
  exact ⟨books, next.1, sound.clients_step h books⟩

end State.Sound

/-! ### Histories -/

variable {s₀ s s' : State} {log : List Conclusion}

theorem Run.sound (run : Run s₀ log s) (sound : s₀.Sound) : s.Sound := by
  induction run with
  | nil => exact sound
  | step before step ih => exact ih.step step

end Marketplace

end SupplierSwitch
