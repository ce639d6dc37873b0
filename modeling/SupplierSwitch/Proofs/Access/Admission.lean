import SupplierSwitch.Access.Authentication
import SupplierSwitch.Proofs.Market.CheckDigits
import Mathlib.Data.List.TakeWhile

namespace SupplierSwitch

/-!
# Who is admitted

A header names its scheme before the first space, and a token after it. Who presents a known token
of the bearer scheme within its time is the participant that the token was issued to; everybody else
is turned away with the reason, and no other entry of the table has any part in it.

* `Authentication.HasScheme`, `Authentication.Presents` — how a header is read;
* `Authentication.Admits` — all that it takes to be admitted;
* `Authentication.bearerToken_ok_iff`, `Authentication.identify_ok_iff` — the two stages of a check;
* `Authentication.admitted_iff` — who is admitted, and why somebody is not.
-/

/-- Claims may be used from the instant of issue on, until they expire. -/
theorem ActorClaims.validate_ok_iff {c : ActorClaims} {now : Timestamp} :
    c.validate now = .ok () ↔ c.issuedAt ≤ now ∧ now < c.expiresAt := by
  show _ ↔ c.issuedAt.rank ≤ now.rank ∧ now.rank < c.expiresAt.rank
  unfold validate
  split
  · -- A window that ends before it begins holds no instant.
    rename_i inverted
    have order : c.expiresAt.rank ≤ c.issuedAt.rank := inverted
    simp only [reduceCtorEq, false_iff]
    omega
  · split
    · rename_i early
      have order : now.rank < c.issuedAt.rank := early
      simp only [reduceCtorEq, false_iff]
      omega
    · rename_i issued
      have order : ¬ now.rank < c.issuedAt.rank := issued
      split
      · rename_i late
        have order : c.expiresAt.rank ≤ now.rank := late
        simp only [reduceCtorEq, false_iff]
        omega
      · rename_i unexpired
        have order : ¬ c.expiresAt.rank ≤ now.rank := unexpired
        simp only [true_iff]
        omega

/-- A known token may be used as its claims may. -/
theorem TokenTable.validate_ok_iff {tokens : TokenTable} {token : String} {claims : ActorClaims}
    {now : Timestamp} : tokens.validate token now = .ok claims ↔
      tokens.find? token = some claims ∧ claims.issuedAt ≤ now ∧ now < claims.expiresAt := by
  rw [← ActorClaims.validate_ok_iff, validate]
  cases tokens.find? token with
  | none => simp
  | some known =>
    cases valid : known.validate now with
    | error e =>
      simp only [valid, Except.map, reduceCtorEq, Option.some.injEq, false_iff]
      rintro ⟨rfl, valid'⟩
      rw [valid] at valid'
      cases valid'
    | ok u =>
      simp only [valid, Except.map, Except.ok.injEq, Option.some.injEq]
      refine ⟨fun same => ⟨same, ?_⟩, And.left⟩
      rw [← same, valid]

namespace Authentication

/-! ### Reading a header -/

/-- A scheme is the bearer scheme in any case of its letters. -/
def IsBearer (scheme : String) : Prop :=
  Text.asciiLowercase scheme = Text.asciiLowercase "Bearer"

/-- The text stands before the first space of the trimmed header, or is all of it. -/
def HasScheme (header scheme : String) : Prop :=
  ' ' ∉ scheme.toList ∧
    (Text.trim header = scheme ∨ ∃ rest, Text.trim header = scheme ++ " " ++ rest)

/-- After a bearer scheme and the first space the header has the token, and blanks around it. -/
def Presents (header token : String) : Prop :=
  ∃ scheme rest, Text.trim header = scheme ++ " " ++ rest ∧ ' ' ∉ scheme.toList ∧ IsBearer scheme ∧
    token = Text.trim rest ∧ token ≠ ""

/-- What it takes to be admitted. -/
inductive Admits (tokens : TokenTable) (now : Timestamp) (header : String) (actor : Actor) : Prop
  where
  | bearer {token : String} {claims : ActorClaims} (presented : Presents header token)
      (known : tokens.find? token = some claims) (issued : claims.issuedAt ≤ now)
      (unexpired : now < claims.expiresAt)
      (number : Gs1.Checked 13 (Text.trim claims.actorGln).toList)
      (gln : actor.gln.text = Text.trim claims.actorGln) (roles : actor.roles = claims.roles) :
      Admits tokens now header actor

variable {header scheme scheme' token token' : String} {tokens tokens' : TokenTable}
  {now : Timestamp} {actor actor' : Actor}

instance : Decidable (IsBearer scheme) :=
  inferInstanceAs (Decidable (Text.asciiLowercase scheme = Text.asciiLowercase "Bearer"))

theorem splitScheme_of_free (free : ' ' ∉ scheme.toList) :
    splitScheme scheme.toList = (scheme.toList, []) := by
  have pass : ∀ c ∈ scheme.toList, decide (c ≠ ' ') = true := by
    intro c mem
    exact decide_eq_true fun space => free (space ▸ mem)
  rw [splitScheme, List.takeWhile_eq_self_iff.mpr pass, List.dropWhile_eq_nil_iff.mpr pass]
  rfl

theorem splitScheme_append (free : ' ' ∉ scheme.toList) (rest : String) :
    splitScheme (scheme ++ " " ++ rest).toList = (scheme.toList, rest.toList) := by
  have pass : ∀ c ∈ scheme.toList, decide (c ≠ ' ') = true := by
    intro c mem
    exact decide_eq_true fun space => free (space ▸ mem)
  have text : (scheme ++ " " ++ rest).toList = scheme.toList ++ ' ' :: rest.toList := by
    simp [String.toList_append]
  rw [splitScheme, text, List.takeWhile_append_of_pos pass, List.dropWhile_append_of_pos pass]
  simp

/-- Every text has something before its first space. -/
theorem exists_scheme (text : String) : ∃ scheme : String, ' ' ∉ scheme.toList ∧
    (text = scheme ∨ ∃ rest, text = scheme ++ " " ++ rest) := by
  have split (cs : List Char) :
      ∃ front, ' ' ∉ front ∧ (cs = front ∨ ∃ back, cs = front ++ ' ' :: back) := by
    induction cs with
    | nil => exact ⟨[], List.not_mem_nil, .inl rfl⟩
    | cons c cs ih =>
      by_cases space : c = ' '
      · exact ⟨[], List.not_mem_nil, .inr ⟨cs, by rw [space, List.nil_append]⟩⟩
      · obtain ⟨front, free, rfl | ⟨back, rfl⟩⟩ := ih
        · exact ⟨c :: cs, by simp [free, Ne.symm space], .inl rfl⟩
        · exact ⟨c :: front, by simp [free, Ne.symm space], .inr ⟨back, rfl⟩⟩
  obtain ⟨front, free, whole | ⟨back, whole⟩⟩ := split text.toList
  · exact ⟨.ofList front, by simpa using free, .inl (String.toList_inj.mp (by simpa using whole))⟩
  · refine ⟨.ofList front, by simpa using free, .inr ⟨.ofList back, String.toList_inj.mp ?_⟩⟩
    simpa [String.toList_append] using whole

theorem HasScheme.eq_first (h : HasScheme header scheme) :
    scheme.toList = (splitScheme (Text.trimmed header.toList)).1 := by
  rw [← Text.toList_trim]
  obtain ⟨free, whole | ⟨rest, whole⟩⟩ := h
  · rw [whole, splitScheme_of_free free]
  · rw [whole, splitScheme_append free]

theorem HasScheme.unique (h : HasScheme header scheme) (h' : HasScheme header scheme') :
    scheme = scheme' :=
  String.toList_inj.mp (h.eq_first.trans h'.eq_first.symm)

theorem Presents.eq_second (h : Presents header token) :
    token = Text.trim (.ofList (splitScheme (Text.trimmed header.toList)).2) := by
  rw [← Text.toList_trim]
  obtain ⟨scheme, rest, whole, free, -, rfl, -⟩ := h
  rw [whole, splitScheme_append free, String.ofList_toList]

theorem Presents.unique (h : Presents header token) (h' : Presents header token') :
    token = token' :=
  h.eq_second.trans h'.eq_second.symm

theorem Presents.hasScheme (h : Presents header token) :
    ∃ scheme, HasScheme header scheme ∧ IsBearer scheme := by
  obtain ⟨scheme, rest, whole, free, bearer, -, -⟩ := h
  exact ⟨scheme, ⟨free, .inr ⟨rest, whole⟩⟩, bearer⟩

/-- The parts of a header. If it has no space, then nothing follows its scheme. -/
theorem exists_parts (header : String) : ∃ scheme rest : String, HasScheme header scheme ∧
    splitScheme (Text.trimmed header.toList) = (scheme.toList, rest.toList) ∧
    (rest = "" ∨ Text.trim header = scheme ++ " " ++ rest) := by
  rw [← Text.toList_trim]
  obtain ⟨scheme, free, alone | ⟨rest, followed⟩⟩ := exists_scheme (Text.trim header)
  · exact ⟨scheme, "", ⟨free, .inl alone⟩, by rw [alone, splitScheme_of_free free]; rfl, .inl rfl⟩
  · exact ⟨scheme, rest, ⟨free, .inr ⟨rest, followed⟩⟩, by rw [followed, splitScheme_append free],
      .inr followed⟩

/-- What is read from a header. -/
inductive Reads (header : String) : Except AuthenticationError String → Prop where
  | unsupported {scheme : String} (named : HasScheme header scheme) (other : ¬ IsBearer scheme) :
      Reads header (.error (.unsupportedScheme scheme))
  | empty {scheme reason : String} (named : HasScheme header scheme) (bearer : IsBearer scheme)
      (nothing : ∀ token, ¬ Presents header token) : Reads header (.error (.invalidToken reason))
  | token {token : String} (presented : Presents header token) : Reads header (.ok token)

theorem reads_bearerToken (header : String) : Reads header (bearerToken header) := by
  obtain ⟨scheme, rest, named, parts, followed⟩ := exists_parts header
  have lower : scheme.toList.map Char.toLower = "bearer".toList ↔ IsBearer scheme := by
    rw [← String.ofList_inj]
    rfl
  have blank : Text.trimmed rest.toList = [] ↔ Text.trim rest = "" := by
    rw [← String.ofList_inj]
    rfl
  rw [bearerToken, parts]
  dsimp only
  by_cases bearer : IsBearer scheme
  · rw [if_neg (not_not_intro (lower.mpr bearer))]
    by_cases none : Text.trim rest = ""
    · rw [if_pos (blank.mpr none)]
      refine .empty named bearer fun token presented => ?_
      have second := presented.eq_second
      rw [parts, String.ofList_toList, none] at second
      obtain ⟨-, -, -, -, -, -, some⟩ := presented
      exact some second
    · rw [if_neg (mt blank.mp none)]
      obtain rfl | followed := followed
      · exact absurd rfl none
      · exact .token ⟨scheme, rest, followed, named.1, bearer, rfl, none⟩
  · rw [if_pos (mt lower.mp bearer), String.ofList_toList]
    exact .unsupported named bearer

/-! ### From a token to a participant -/

/-- The participant of a presented token. -/
def identify (tokens : TokenTable) (now : Timestamp) (token : String) :
    Except AuthenticationError Actor := do
  let claims ← (tokens.validate token now).mapError (.invalidToken ·.message)
  let gln ← (GlnNumber.parse claims.actorGln).mapError (.invalidToken ·.message)
  pure ⟨gln, claims.roles⟩

theorem check_none (tokens : TokenTable) (now : Timestamp) :
    check none tokens now = .error .missingHeader := rfl

theorem check_some (header : String) (tokens : TokenTable) (now : Timestamp) :
    check (some header) tokens now = bearerToken header >>= identify tokens now := rfl

theorem identify_ok_iff : identify tokens now token = .ok actor ↔
    ∃ claims, tokens.find? token = some claims ∧ claims.issuedAt ≤ now ∧ now < claims.expiresAt ∧
      Gs1.Checked 13 (Text.trim claims.actorGln).toList ∧
      actor.gln.text = Text.trim claims.actorGln ∧ actor.roles = claims.roles := by
  obtain ⟨gln, roles⟩ := actor
  have parses (claims : ActorClaims) : GlnNumber.parse claims.actorGln = .ok gln
      ↔ Gs1.Checked 13 (Text.trim claims.actorGln).toList ∧
        gln.text = Text.trim claims.actorGln := by
    rw [← Gs1.isValid_iff_checked (by decide)]
    exact Gs1.parse_ok_iff
  have succeeds : identify tokens now token = .ok ⟨gln, roles⟩ ↔ ∃ claims,
      tokens.validate token now = .ok claims ∧ GlnNumber.parse claims.actorGln = .ok gln ∧
        roles = claims.roles := by
    rw [identify]
    cases tokens.validate token now with
    | error e => simp [Except.mapError, bind, Except.bind]
    | ok claims =>
      cases parsed : GlnNumber.parse claims.actorGln <;>
        simp [Except.mapError, bind, Except.bind, pure, Except.pure, parsed, eq_comm]
  rw [succeeds]
  refine exists_congr fun claims => ?_
  rw [TokenTable.validate_ok_iff, parses, and_assoc, and_assoc, and_assoc]

/-- Whoever is not identified presents no valid token. -/
theorem identify_cases (tokens : TokenTable) (now : Timestamp) (token : String) :
    (∃ actor, identify tokens now token = .ok actor) ∨
      ∃ reason, identify tokens now token = .error (.invalidToken reason) := by
  rw [identify]
  cases tokens.validate token now with
  | error e => exact .inr ⟨_, rfl⟩
  | ok claims =>
    cases parsed : GlnNumber.parse claims.actorGln with
    | error e => exact .inr ⟨e.message, by simp [Except.mapError, bind, Except.bind, parsed]⟩
    | ok gln => exact .inl ⟨⟨gln, claims.roles⟩, by
        simp [Except.mapError, bind, Except.bind, pure, Except.pure, parsed]⟩

theorem identify_congr (same : tokens'.find? token = tokens.find? token) :
    identify tokens' now token = identify tokens now token := by
  rw [identify, identify, TokenTable.validate, TokenTable.validate, same]

/-- Who presents a token is admitted if it identifies somebody. -/
theorem admits_iff_of_presents (presented : Presents header token) :
    Admits tokens now header actor ↔ identify tokens now token = .ok actor := by
  rw [identify_ok_iff]
  constructor
  · rintro ⟨presented', known, issued, unexpired, number, gln, roles⟩
    rw [presented.unique presented']
    exact ⟨_, known, issued, unexpired, number, gln, roles⟩
  · rintro ⟨claims, known, issued, unexpired, number, gln, roles⟩
    exact ⟨presented, known, issued, unexpired, number, gln, roles⟩

theorem Admits.hasScheme (h : Admits tokens now header actor) :
    ∃ scheme, HasScheme header scheme ∧ IsBearer scheme := by
  obtain ⟨presented, -, -, -, -, -, -⟩ := h
  exact presented.hasScheme

theorem Admits.unique (h : Admits tokens now header actor) (h' : Admits tokens now header actor') :
    actor = actor' := by
  obtain ⟨presented, -, -, -, -, -, -⟩ := id h
  rw [admits_iff_of_presents presented] at h h'
  exact Except.ok.inj (h.symm.trans h')

/-! ### Outcomes of a check -/

/-- What comes of a header. -/
inductive Decides (tokens : TokenTable) (now : Timestamp) (header : String) :
    Except AuthenticationError Actor → Prop where
  | unsupported {scheme : String} (named : HasScheme header scheme) (other : ¬ IsBearer scheme) :
      Decides tokens now header (.error (.unsupportedScheme scheme))
  | refused {scheme reason : String} (named : HasScheme header scheme) (bearer : IsBearer scheme)
      (nobody : ∀ actor, ¬ Admits tokens now header actor) :
      Decides tokens now header (.error (.invalidToken reason))
  | admitted {actor : Actor} (admits : Admits tokens now header actor) :
      Decides tokens now header (.ok actor)

theorem decides_check (tokens : TokenTable) (now : Timestamp) (header : String) :
    Decides tokens now header (check (some header) tokens now) := by
  have read := reads_bearerToken header
  rw [check_some]
  generalize bearerToken header = outcome at read ⊢
  cases read with
  | unsupported named other => exact .unsupported named other
  | empty named bearer nothing =>
    exact .refused named bearer fun _ ⟨presented, _, _, _, _, _, _⟩ => nothing _ presented
  | @token token presented =>
    obtain ⟨actor, done⟩ | ⟨reason, failed⟩ := identify_cases tokens now token
    · rw [show (Except.ok token >>= identify tokens now) = _ from done]
      exact .admitted ((admits_iff_of_presents presented).mpr done)
    · obtain ⟨scheme, named, bearer⟩ := presented.hasScheme
      rw [show (Except.ok token >>= identify tokens now) = _ from failed]
      refine .refused named bearer fun actor admits => ?_
      rw [admits_iff_of_presents presented, failed] at admits
      cases admits

theorem check_ok_iff :
    check (some header) tokens now = .ok actor ↔ Admits tokens now header actor := by
  have decided := decides_check tokens now header
  generalize check (some header) tokens now = outcome at decided
  cases decided with
  | unsupported named other =>
    refine ⟨nofun, fun admits => ?_⟩
    obtain ⟨scheme, named', bearer⟩ := admits.hasScheme
    exact absurd (named.unique named' ▸ bearer) other
  | refused named bearer nobody => exact ⟨nofun, fun admits => absurd admits (nobody _)⟩
  | admitted admits =>
    refine ⟨?_, fun admits' => congrArg _ (admits.unique admits')⟩
    rintro ⟨⟩
    exact admits

theorem check_unsupported_iff : check (some header) tokens now = .error (.unsupportedScheme scheme)
    ↔ HasScheme header scheme ∧ ¬ IsBearer scheme := by
  have decided := decides_check tokens now header
  generalize check (some header) tokens now = outcome at decided
  cases decided with
  | unsupported named other =>
    constructor
    · rintro ⟨⟩
      exact ⟨named, other⟩
    · rintro ⟨named', -⟩
      rw [named.unique named']
  | refused named bearer nobody =>
    exact ⟨nofun, fun ⟨named', other⟩ => absurd (named.unique named' ▸ bearer) other⟩
  | admitted admits =>
    obtain ⟨scheme', named, bearer⟩ := admits.hasScheme
    exact ⟨nofun, fun ⟨named', other⟩ => absurd (named.unique named' ▸ bearer) other⟩

theorem check_invalid_iff :
    (∃ reason, check (some header) tokens now = .error (.invalidToken reason)) ↔
      ∃ scheme, HasScheme header scheme ∧ IsBearer scheme ∧
        ∀ actor, ¬ Admits tokens now header actor := by
  have decided := decides_check tokens now header
  generalize check (some header) tokens now = outcome at decided
  cases decided with
  | unsupported named other =>
    exact ⟨nofun, fun ⟨_, named', bearer, _⟩ => absurd (named.unique named' ▸ bearer) other⟩
  | refused named bearer nobody => exact ⟨fun _ => ⟨_, named, bearer, nobody⟩, fun _ => ⟨_, rfl⟩⟩
  | admitted admits => exact ⟨nofun, fun ⟨_, _, _, nobody⟩ => absurd admits (nobody _)⟩

theorem check_ne_missingHeader : check (some header) tokens now ≠ .error .missingHeader := by
  have decided := decides_check tokens now header
  generalize check (some header) tokens now = outcome at decided
  cases decided <;> exact nofun

theorem check_congr
    (same : ∀ token, Presents header token → tokens'.find? token = tokens.find? token) :
    check (some header) tokens' now = check (some header) tokens now := by
  have read := reads_bearerToken header
  rw [check_some, check_some]
  generalize bearerToken header = outcome at read ⊢
  cases read with
  | unsupported named other => rfl
  | empty named bearer nothing => rfl
  | token presented => exact identify_congr (same _ presented)

/-- Who is admitted by a header, a table of tokens and an instant, and why somebody is not. The
entries of other tokens than the presented one are no matter. -/
theorem admitted_iff (header : Option String) (tokens : TokenTable) (now : Timestamp) :
    let result := (authenticate header tokens now).value
    (∀ actor, result = .ok actor ↔ ∃ text, header = some text ∧ Admits tokens now text actor) ∧
    (result = .error .missingHeader ↔ header = none) ∧
    (∀ scheme, result = .error (.unsupportedScheme scheme)
      ↔ ∃ text, header = some text ∧ HasScheme text scheme ∧ ¬ IsBearer scheme) ∧
    ((∃ reason, result = .error (.invalidToken reason))
      ↔ ∃ text, header = some text ∧ ∃ scheme, HasScheme text scheme ∧ IsBearer scheme ∧
        ∀ actor, ¬ Admits tokens now text actor) ∧
    ∀ tokens' : TokenTable, (∀ text token, header = some text → Presents text token →
      tokens'.find? token = tokens.find? token) →
        authenticate header tokens' now = authenticate header tokens now := by
  intro result
  have result_eq : result = check header tokens now := by
    show (authenticate header tokens now).value = _
    unfold authenticate
    cases check header tokens now <;> rfl
  rw [result_eq]
  cases header with
  | none =>
    refine ⟨fun actor => ?_, ?_, fun scheme => ?_, ?_, fun _ _ => rfl⟩ <;> simp [check_none]
  | some text =>
    simp only [Option.some.injEq, exists_eq_left', reduceCtorEq, iff_false]
    refine ⟨fun _ => check_ok_iff, check_ne_missingHeader, fun _ => check_unsupported_iff,
      check_invalid_iff, fun tokens' same => ?_⟩
    rw [authenticate, authenticate, check_congr fun token => same text token rfl]

end Authentication

end SupplierSwitch
