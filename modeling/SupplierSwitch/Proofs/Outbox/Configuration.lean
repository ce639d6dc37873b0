import SupplierSwitch.Proofs.Text.Numerals
import SupplierSwitch.Settings

namespace SupplierSwitch

/-!
# The configuration of a processor

A processor is configured by texts that may be there or not, each of which may be malformed. They
are read one after another and the first malformed one is reported; that the limit of a drain is
zero is noticed last.

* `DrainPolicy.Names`, `Text.Denotes` — well-formed texts;
* `Setting.Reads` — what a setting reads as, set or unset;
* `Setting.FirstMalformed` — the setting that is reported;
* `Setting.Ends` — how the reading of some settings ends, put together from their readings;
* `ProcessorConfig.Follows` — each part of a configuration by its own setting;
* `ProcessorConfig.ofLookup_ok_iff` and `ProcessorConfig.configured_by_settings` — what is
  configured, and what is reported.
-/

/-! ### Texts -/

namespace DrainPolicy

/-- The words for policies. -/
inductive Word : String → DrainPolicy → Prop where
  | new : Word "include-new" includeNewlyEnqueued
  | newlyEnqueued : Word "include-newly-enqueued" includeNewlyEnqueued
  | snapshot : Word "snapshot" snapshotAtStart
  | atStart : Word "snapshot-at-start" snapshotAtStart

/-- The text is a word for the policy, but for blanks around it and capitals in it. -/
def Names (raw : String) (policy : DrainPolicy) : Prop :=
  Word (Text.lowercase (Text.trim raw)) policy

theorem parse_ok_iff {raw : String} {policy : DrainPolicy} :
    DrainPolicy.parse raw = .ok policy ↔ Names raw policy := by
  unfold Names DrainPolicy.parse
  generalize Text.lowercase (Text.trim raw) = word
  constructor
  · intro parsed
    by_cases new : word = "include-new" ∨ word = "include-newly-enqueued"
    · rw [if_pos new] at parsed
      cases parsed
      obtain rfl | rfl := new
      · exact .new
      · exact .newlyEnqueued
    · rw [if_neg new] at parsed
      by_cases snapshot : word = "snapshot" ∨ word = "snapshot-at-start"
      · rw [if_pos snapshot] at parsed
        cases parsed
        obtain rfl | rfl := snapshot
        · exact .snapshot
        · exact .atStart
      · rw [if_neg snapshot] at parsed
        cases parsed
  · intro named
    cases named <;> rfl

end DrainPolicy

namespace Setting

/-- The text is a numeral for the number, but for blanks around it. -/
def NamesNumber (greatest : Nat) (raw : String) (n : Nat) : Prop :=
  Text.Denotes greatest (Text.trim raw) n

theorem parseNumber_ok_iff {greatest : Nat} {raw : String} {n : Nat} :
    parseNumber greatest raw = .ok n ↔ NamesNumber greatest raw n := by
  unfold NamesNumber parseNumber
  rw [← Text.readUnsigned_ok_iff]
  cases Text.readUnsigned greatest (Text.trim raw) with
  | error e => exact ⟨nofun, nofun⟩
  | ok m => simp [Except.mapError]

/-! ### Settings -/

/-- What a setting reads as: nothing if it is unset, else what its text is for. -/
inductive Reads {α : Type} (lookup : Lookup) (key : String) (names : String → α → Prop) :
    Option α → Prop where
  | unset (missing : lookup key = none) : Reads lookup key names none
  | set {raw : String} {a : α} (found : lookup key = some raw) (named : names raw a) :
      Reads lookup key names (some a)

/-- A setting that is read, with the texts that it may have. -/
structure Variable where
  key : String
  WellFormed : String → Prop

/-- The setting has a text that it may not have. -/
def Variable.Malformed (lookup : Lookup) (v : Variable) : Prop :=
  ∃ raw, lookup v.key = some raw ∧ ¬ v.WellFormed raw

/-- The settings with a meaning, as one that is read. -/
def variableOf {α : Type} (key : String) (names : String → α → Prop) : Variable :=
  ⟨key, fun raw => ∃ a, names raw a⟩

/-- The error is that of the first malformed one of some settings. -/
inductive FirstMalformed (lookup : Lookup) : List Variable → SettingError → Prop where
  | here {v : Variable} {rest : List Variable} (malformed : v.Malformed lookup) (reason : String) :
      FirstMalformed lookup (v :: rest) (.invalid v.key reason)
  | later {v : Variable} {rest : List Variable} {e : SettingError} (fine : ¬ v.Malformed lookup)
      (further : FirstMalformed lookup rest e) : FirstMalformed lookup (v :: rest) e

/-- How the reading of some settings may end: with a good result, with the first malformed one, or,
    if none is, with a refusal at the end. -/
inductive Ends {α : Type} (lookup : Lookup) (vars : List Variable) (good : α → Prop)
    (refusal : SettingError → Prop) : Except SettingError α → Prop where
  | done {a : α} (fine : ∀ v ∈ vars, ¬ v.Malformed lookup) (isGood : good a) :
      Ends lookup vars good refusal (.ok a)
  | malformed {e : SettingError} (first : FirstMalformed lookup vars e) :
      Ends lookup vars good refusal (.error e)
  | refused {e : SettingError} (fine : ∀ v ∈ vars, ¬ v.Malformed lookup) (refuses : refusal e) :
      Ends lookup vars good refusal (.error e)

variable {α β : Type} {lookup : Lookup} {key : String} {names : String → α → Prop}

theorem FirstMalformed.exists_malformed {vars : List Variable} {e : SettingError}
    (h : FirstMalformed lookup vars e) : ∃ v ∈ vars, v.Malformed lookup := by
  induction h with
  | here malformed reason => exact ⟨_, List.mem_cons_self, malformed⟩
  | later fine further ih =>
    obtain ⟨v, mem, malformed⟩ := ih
    exact ⟨v, List.mem_cons_of_mem _ mem, malformed⟩

theorem Reads.unique {o o' : Option α}
    (functional : ∀ raw a a', names raw a → names raw a' → a = a') (h : Reads lookup key names o)
    (h' : Reads lookup key names o') : o = o' := by
  cases h with
  | unset missing =>
    cases h' with
    | unset => rfl
    | set found _ => cases missing.symm.trans found
  | set found named =>
    cases h' with
    | unset missing => cases missing.symm.trans found
    | set found' named' =>
      cases found.symm.trans found'
      rw [functional _ _ _ named named']

/-- What is made of a setting is made of it alone. -/
theorem Reads.determines {value : Option α → β} {b b' : β}
    (functional : ∀ raw a a', names raw a → names raw a' → a = a')
    (h : ∃ o, Reads lookup key names o ∧ b = value o)
    (h' : ∃ o, Reads lookup key names o ∧ b' = value o) : b = b' := by
  obtain ⟨o, reads, rfl⟩ := h
  obtain ⟨o', reads', rfl⟩ := h'
  rw [reads.unique functional reads']

theorem Reads.not_malformed {o : Option α} (h : Reads lookup key names o) :
    ¬ (variableOf key names).Malformed lookup := by
  rintro ⟨raw, found', bad⟩
  cases h with
  | unset missing => cases missing.symm.trans found'
  | set found named =>
    cases found.symm.trans found'
    exact bad ⟨_, named⟩

/-- A setting that reads as something does not decide the end. -/
theorem Ends.after {o : Option α} {vars : List Variable} {good : β → Prop}
    {refusal : SettingError → Prop} {result : Except SettingError β}
    (reads : Reads lookup key names o) (h : Ends lookup vars good refusal result) :
    Ends lookup (variableOf key names :: vars) good refusal result := by
  cases h with
  | done fine isGood =>
    exact .done (List.forall_mem_cons.mpr ⟨reads.not_malformed, fine⟩) isGood
  | malformed first => exact .malformed (.later reads.not_malformed first)
  | refused fine refuses =>
    exact .refused (List.forall_mem_cons.mpr ⟨reads.not_malformed, fine⟩) refuses

/-- One setting is read before the others. -/
theorem Ends.bind {parse : String → Except String α} {vars : List Variable} {good : β → Prop}
    {refusal : SettingError → Prop} {next : Option α → Except SettingError β}
    (parses : ∀ {raw a}, parse raw = .ok a ↔ names raw a)
    (rest : ∀ o, Reads lookup key names o → Ends lookup vars good refusal (next o)) :
    Ends lookup (variableOf key names :: vars) good refusal (read lookup key parse >>= next) := by
  cases found : lookup key with
  | none =>
    have unset : read lookup key parse = .ok none := by simp [read, found]
    have reads : Reads lookup key names none := .unset found
    rw [unset]
    exact (rest none reads).after reads
  | some raw =>
    cases parsed : parse raw with
    | ok a =>
      have set : read lookup key parse = .ok (some a) := by simp [read, found, parsed]
      have reads : Reads lookup key names (some a) := .set found (parses.mp parsed)
      rw [set]
      exact (rest (some a) reads).after reads
    | error reason =>
      have failed : read lookup key parse = .error (.invalid key reason) := by
        simp [read, found, parsed]
      have malformed : (variableOf key names).Malformed lookup := by
        refine ⟨raw, found, ?_⟩
        rintro ⟨a, named⟩
        cases parsed.symm.trans (parses.mpr named)
      rw [failed]
      exact .malformed (.here malformed reason)

end Setting

/-! ### Processors -/

namespace ProcessorConfig

open Setting

/-- The settings that are read, in order. -/
def readInOrder : List Variable :=
  [variableOf Setting.drainPolicy DrainPolicy.Names,
    variableOf Setting.maxAttempts (NamesNumber Text.greatest32),
    variableOf Setting.retryBaseDelay (NamesNumber Text.greatest64),
    variableOf Setting.retryMaxDelay (NamesNumber Text.greatest64),
    variableOf Setting.claimLease (NamesNumber Text.greatest64),
    variableOf Setting.maxCommandsPerDrain (NamesNumber Text.greatest64)]

/-- Each part of the configuration is what its own setting reads as, or as it is in the standard one
    if the setting is unset. Lengths of time are exact, whatever number is read. -/
structure Follows (lookup : Lookup) (config : ProcessorConfig) : Prop where
  name : config.name = (lookup processorName).getD standard.name
  drainPolicy : ∃ policy, Reads lookup Setting.drainPolicy DrainPolicy.Names policy ∧
    config.drainPolicy = policy.getD standard.drainPolicy
  maxAttempts : ∃ n, Reads lookup Setting.maxAttempts (NamesNumber Text.greatest32) n ∧
    config.retryPolicy.maxAttempts.toNat = n.getD standard.retryPolicy.maxAttempts.toNat
  baseDelay : ∃ ms, Reads lookup retryBaseDelay (NamesNumber Text.greatest64) ms ∧
    config.retryPolicy.baseDelay.nanos
      = (ms.map (· * 1000000)).getD standard.retryPolicy.baseDelay.nanos
  maxDelay : ∃ ms, Reads lookup retryMaxDelay (NamesNumber Text.greatest64) ms ∧
    config.retryPolicy.maxDelay.nanos
      = (ms.map (· * 1000000)).getD standard.retryPolicy.maxDelay.nanos
  strategy : config.retryPolicy.strategy = standard.retryPolicy.strategy
  claimLease : ∃ s, Reads lookup Setting.claimLease (NamesNumber Text.greatest64) s ∧
    config.claimLease.nanos
      = (s.map (· * Duration.nanosPerSecond)).getD standard.claimLease.nanos
  maxCommandsPerDrain : ∃ n,
    Reads lookup Setting.maxCommandsPerDrain (NamesNumber Text.greatest64) n ∧
      config.maxCommandsPerDrain = n.getD standard.maxCommandsPerDrain

/-- The limit of a drain is set to zero, which is no limit to start with. -/
def NoWork (lookup : Lookup) (e : SettingError) : Prop :=
  Reads lookup Setting.maxCommandsPerDrain (NamesNumber Text.greatest64) (some 0) ∧
    e = .invalid Setting.maxCommandsPerDrain "must be at least 1"

variable {lookup : Lookup} {config config' : ProcessorConfig} {raw : String} {greatest n m : Nat}

theorem number_functional :
    ∀ raw n m, NamesNumber greatest raw n → NamesNumber greatest raw m → n = m := by
  intro raw n m h h'
  have read := parseNumber_ok_iff.mpr h
  rw [parseNumber_ok_iff.mpr h'] at read
  exact (Except.ok.inj read).symm

theorem names_functional :
    ∀ raw p q, DrainPolicy.Names raw p → DrainPolicy.Names raw q → p = q := by
  intro raw p q h h'
  have parsed := DrainPolicy.parse_ok_iff.mpr h
  rw [DrainPolicy.parse_ok_iff.mpr h'] at parsed
  exact (Except.ok.inj parsed).symm

theorem le_of_reads {key : String} (h : Reads lookup key (NamesNumber greatest) (some n)) :
    n ≤ greatest := by
  obtain _ | ⟨-, _, -, -, le⟩ := h
  exact le

theorem nanos_ofMillis (le : n ≤ Text.greatest64) : (Duration.ofMillis n).nanos = n * 1000000 := by
  have greatest : Text.greatest64 = 18446744073709551615 := rfl
  show min (n * 1000000) Duration.greatestNanos = _
  unfold Duration.greatestNanos
  omega

theorem nanos_ofSeconds (le : n ≤ Text.greatest64) :
    (Duration.ofSeconds n).nanos = n * Duration.nanosPerSecond := by
  have greatest : Text.greatest64 = 18446744073709551615 := rfl
  show min (n * Duration.nanosPerSecond) Duration.greatestNanos = _
  unfold Duration.nanosPerSecond Duration.greatestNanos
  omega

theorem duration_eq {a b : Duration} (h : a.nanos = b.nanos) : a = b := by
  cases a
  cases b
  cases h
  rfl

/-- Settings are followed by one configuration at most. -/
theorem Follows.unique (h : config.Follows lookup) (h' : config'.Follows lookup) :
    config = config' := by
  have name := h.name.trans h'.name.symm
  have drainPolicy := Reads.determines names_functional h.drainPolicy h'.drainPolicy
  have maxAttempts := Reads.determines number_functional h.maxAttempts h'.maxAttempts
  have baseDelay := Reads.determines number_functional h.baseDelay h'.baseDelay
  have maxDelay := Reads.determines number_functional h.maxDelay h'.maxDelay
  have strategy := h.strategy.trans h'.strategy.symm
  have claimLease := Reads.determines number_functional h.claimLease h'.claimLease
  have limit := Reads.determines number_functional h.maxCommandsPerDrain h'.maxCommandsPerDrain
  obtain ⟨_, _, ⟨_, _, _, _⟩, _, _⟩ := config
  obtain ⟨_, _, ⟨_, _, _, _⟩, _, _⟩ := config'
  cases name
  cases drainPolicy
  cases UInt32.toNat_inj.mp maxAttempts
  cases duration_eq baseDelay
  cases duration_eq maxDelay
  cases strategy
  cases duration_eq claimLease
  cases limit
  rfl

/-- How the configuration ends. -/
theorem ends_ofLookup (lookup : Lookup) :
    Ends lookup readInOrder (fun config => config.Follows lookup ∧ 1 ≤ config.maxCommandsPerDrain)
      (NoWork lookup) (ofLookup lookup) := by
  refine .bind DrainPolicy.parse_ok_iff fun policy hpolicy => ?_
  refine .bind parseNumber_ok_iff fun attempts hattempts => ?_
  refine .bind parseNumber_ok_iff fun first hfirst => ?_
  refine .bind parseNumber_ok_iff fun longest hlongest => ?_
  refine .bind parseNumber_ok_iff fun seconds hseconds => ?_
  refine .bind parseNumber_ok_iff fun limit hlimit => ?_
  dsimp only
  by_cases zero : limit.getD standard.maxCommandsPerDrain = 0
  · rw [if_pos zero]
    have set : limit = some 0 := by
      cases limit with
      | none => cases zero
      | some n => exact congrArg some zero
    exact .refused nofun ⟨set ▸ hlimit, rfl⟩
  · rw [if_neg zero]
    refine .done nofun ⟨?_, Nat.one_le_iff_ne_zero.mpr zero⟩
    exact
      { name := rfl
        drainPolicy := ⟨policy, hpolicy, rfl⟩
        maxAttempts := by
          refine ⟨attempts, hattempts, ?_⟩
          cases attempts with
          | none => rfl
          | some n =>
            have le : n ≤ Text.greatest32 := le_of_reads hattempts
            exact UInt32.toNat_ofNat_of_lt' (Nat.lt_succ_of_le le)
        baseDelay := by
          refine ⟨first, hfirst, ?_⟩
          cases first with
          | none => rfl
          | some n => exact nanos_ofMillis (le_of_reads hfirst)
        maxDelay := by
          refine ⟨longest, hlongest, ?_⟩
          cases longest with
          | none => rfl
          | some n => exact nanos_ofMillis (le_of_reads hlongest)
        strategy := rfl
        claimLease := by
          refine ⟨seconds, hseconds, ?_⟩
          cases seconds with
          | none => rfl
          | some n => exact nanos_ofSeconds (le_of_reads hseconds)
        maxCommandsPerDrain := ⟨limit, hlimit, rfl⟩ }

/-! ### What is configured, and what is reported -/

theorem Follows.fine (h : config.Follows lookup) : ∀ v ∈ readInOrder, ¬ v.Malformed lookup := by
  obtain ⟨_, hpolicy, -⟩ := h.drainPolicy
  obtain ⟨_, hattempts, -⟩ := h.maxAttempts
  obtain ⟨_, hfirst, -⟩ := h.baseDelay
  obtain ⟨_, hlongest, -⟩ := h.maxDelay
  obtain ⟨_, hseconds, -⟩ := h.claimLease
  obtain ⟨_, hlimit, -⟩ := h.maxCommandsPerDrain
  intro v mem
  simp only [readInOrder, List.mem_cons, List.not_mem_nil, or_false] at mem
  obtain rfl | rfl | rfl | rfl | rfl | rfl := mem
  · exact hpolicy.not_malformed
  · exact hattempts.not_malformed
  · exact hfirst.not_malformed
  · exact hlongest.not_malformed
  · exact hseconds.not_malformed
  · exact hlimit.not_malformed

/-- A processor is configured as its settings say, and in no other way. -/
theorem ofLookup_ok_iff :
    ofLookup lookup = .ok config ↔ config.Follows lookup ∧ 1 ≤ config.maxCommandsPerDrain := by
  have ends := ends_ofLookup lookup
  generalize ofLookup lookup = result at ends
  constructor
  · rintro rfl
    cases ends with
    | done fine isGood => exact isGood
  · rintro ⟨follows, work⟩
    cases ends with
    | done fine isGood => rw [follows.unique isGood.1]
    | malformed first =>
      obtain ⟨v, mem, malformed⟩ := first.exists_malformed
      exact absurd malformed (follows.fine v mem)
    | refused fine refuses =>
      obtain ⟨n, reads, limit⟩ := follows.maxCommandsPerDrain
      rw [reads.unique number_functional refuses.1] at limit
      rw [limit] at work
      cases work

/-- A processor is configured if and only if no setting is malformed and the limit of a drain, set
    or not, lets it do anything. Then every part of the configuration is as its own setting says.
    Otherwise the first malformed setting is reported, or, if none is malformed, the limit. -/
theorem configured_by_settings (lookup : Lookup) :
    ((∃ config, ofLookup lookup = .ok config) ↔
      (∀ v ∈ readInOrder, ¬ v.Malformed lookup) ∧
        ∃ n, Reads lookup Setting.maxCommandsPerDrain (NamesNumber Text.greatest64) n ∧
          1 ≤ n.getD standard.maxCommandsPerDrain) ∧
    (∀ config, ofLookup lookup = .ok config ↔
      config.Follows lookup ∧ 1 ≤ config.maxCommandsPerDrain) ∧
    ∀ e, ofLookup lookup = .error e →
      FirstMalformed lookup readInOrder e ∨
        (∀ v ∈ readInOrder, ¬ v.Malformed lookup) ∧ NoWork lookup e := by
  have ends := ends_ofLookup lookup
  refine ⟨⟨?_, ?_⟩, fun config => ofLookup_ok_iff, ?_⟩
  · rintro ⟨config, configured⟩
    obtain ⟨follows, work⟩ := ofLookup_ok_iff.mp configured
    obtain ⟨n, reads, limit⟩ := follows.maxCommandsPerDrain
    exact ⟨follows.fine, n, reads, limit ▸ work⟩
  · rintro ⟨fine, n, reads, work⟩
    generalize ofLookup lookup = result at ends
    cases ends with
    | done _ _ => exact ⟨_, rfl⟩
    | malformed first =>
      obtain ⟨v, mem, malformed⟩ := first.exists_malformed
      exact absurd malformed (fine v mem)
    | refused _ refuses =>
      rw [reads.unique number_functional refuses.1] at work
      cases work
  · intro e failed
    rw [failed] at ends
    cases ends with
    | malformed first => exact .inl first
    | refused fine refuses => exact .inr ⟨fine, refuses⟩

/-- A sign and blanks are no part of a number, and a malformed lease is reported before a limit of
    zero. -/
example :
    let lookup (lease : String) : Lookup := fun key =>
      if key = Setting.claimLease then some lease
      else if key = Setting.maxCommandsPerDrain then some "0" else none
    ofLookup (lookup " 1s")
        = .error (.invalid Setting.claimLease "' 1s': invalid digit found in string") ∧
      ofLookup (lookup " +1")
        = .error (.invalid Setting.maxCommandsPerDrain "must be at least 1") :=
  ⟨rfl, rfl⟩

end ProcessorConfig

end SupplierSwitch
