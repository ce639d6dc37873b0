import SupplierSwitch.Answer.Document
import SupplierSwitch.Proofs.Calendar.TimestampText
import SupplierSwitch.Proofs.Json.Records
import SupplierSwitch.Proofs.Json.Uuids
import SupplierSwitch.Proofs.Market.CheckDigits
import SupplierSwitch.Proofs.Market.Payload

namespace SupplierSwitch

/-!
# Stored forms lose nothing

What is stored is written as JSON and read back by a reader that may trim, check and refuse.

* `Lossless` — what was written is read back, and what was read is read again from what is written
  for it; the identifiers in it are canonical;
* `HandsOver` — a handler is given what was enqueued for it;
* `stored_forms_lose_nothing` — points, transactions, documents and the payloads of commands.

Dates and identifiers are always read back from their texts, instants if they are regular.
-/

/-! ### Identifiers -/

/-- A GS1 number as it is to be written: digits only, of which the weighted sum from the right is a
multiple of ten. -/
structure IsGs1 (length : Nat) (text : String) : Prop where
  isName : IsName text
  length_eq : text.toList.length = length
  digits : ∀ c ∈ text.toList, c.isDigit = true
  checked : Gs1.weightedSum 1 (Gs1.digitsOf text.toList).reverse % 10 = 0

namespace Gs1

theorem isValid_iff {length : Nat} (positive : 0 < length) {text : String} :
    isValid length text = true ↔ IsGs1 length text := by
  rw [isValid_iff_checked positive, checked_iff]
  constructor
  · rintro ⟨length_eq, digits, sum⟩
    have some : text ≠ "" := by
      rintro rfl
      exact absurd length_eq (Nat.ne_of_lt positive)
    exact ⟨⟨Text.trim_of_isDigit digits, some⟩, length_eq, digits, sum⟩
  · exact fun h => ⟨h.length_eq, h.digits, h.checked⟩

end Gs1

/-- An identifier in a stored value. -/
inductive Identifier where
  | transaction (id : TransactionId)
  | process (id : ProcessId)
  | point (gsrn : Gsrn)
  | participant (gln : GlnNumber)

/-- The identifier has nothing around it, is not empty, and has its check digit if it is a
number. -/
def Identifier.IsCanonical : Identifier → Prop
  | transaction id => IsName id.text
  | process id => IsName id.text
  | point gsrn => IsGs1 18 gsrn.text
  | participant gln => IsGs1 13 gln.text

theorem Identifier.isCanonical (i : Identifier) : i.IsCanonical := by
  cases i with
  | transaction id => exact id.isName
  | process id => exact id.isName
  | point gsrn => exact (Gs1.isValid_iff (by decide)).mp gsrn.isValid
  | participant gln => exact (Gs1.isValid_iff (by decide)).mp gln.isValid

/-! ### Reading identifiers -/

theorem Json.readDomain_ok_iff {α : Type} {parse : String → Except DomainError α} {j : Json}
    {a : α} : readDomain parse j = .ok a ↔ ∃ s, j = .string s ∧ parse s = .ok a := by
  cases j with
  | string s =>
    cases parsed : parse s <;> simp [readDomain, readText, parsed, Except.mapError]
  | _ => simp [readDomain, readText, wrongType]

/-- The name of a transaction is read from the texts that are more than blanks, without the blanks
around them. -/
theorem TransactionId.ofJson_ok_iff {j : Json} {id : TransactionId} :
    ofJson j = .ok id ↔ ∃ s, j = .string s ∧ Text.trim s ≠ "" ∧ id.text = Text.trim s := by
  obtain ⟨text, isName⟩ := id
  rw [ofJson, Json.readDomain_ok_iff]
  refine exists_congr fun s => and_congr_right fun _ => ?_
  by_cases blank : Text.trim s = "" <;> simp [ofText, nameOf, blank, Except.map, eq_comm]

theorem ProcessId.ofJson_ok_iff {j : Json} {id : ProcessId} :
    ofJson j = .ok id ↔ ∃ s, j = .string s ∧ Text.trim s ≠ "" ∧ id.text = Text.trim s := by
  obtain ⟨text, isName⟩ := id
  rw [ofJson, Json.readDomain_ok_iff]
  refine exists_congr fun s => and_congr_right fun _ => ?_
  by_cases blank : Text.trim s = "" <;> simp [ofText, nameOf, blank, Except.map, eq_comm]

/-- A GS1 number is read from the texts that are one but for the blanks around it. -/
theorem Gs1Number.readDomain_parse_ok_iff {type : String} {length : Nat} (positive : 0 < length)
    {j : Json} {n : Gs1Number length} :
    Json.readDomain (parse type length) j = .ok n
      ↔ ∃ s, j = .string s ∧ IsGs1 length (Text.trim s) ∧ n.text = Text.trim s := by
  rw [Json.readDomain_ok_iff]
  refine exists_congr fun s => and_congr_right fun _ => ?_
  rw [← Gs1.isValid_iff positive, Gs1.parse_ok_iff]

theorem Gsrn.ofJson_ok_iff {j : Json} {n : Gsrn} :
    ofJson j = .ok n ↔ ∃ s, j = .string s ∧ IsGs1 18 (Text.trim s) ∧ n.text = Text.trim s :=
  Gs1Number.readDomain_parse_ok_iff (by decide)

theorem GlnNumber.ofJson_ok_iff {j : Json} {n : GlnNumber} :
    ofJson j = .ok n ↔ ∃ s, j = .string s ∧ IsGs1 13 (Text.trim s) ∧ n.text = Text.trim s :=
  Gs1Number.readDomain_parse_ok_iff (by decide)

/-! ### Records -/

@[simp]
theorem Gsrn.ofJson_toJson (n : Gsrn) : ofJson n.toJson = .ok n := by
  have canonical : IsGs1 _ n.text := (Identifier.point n).isCanonical
  have trimmed := canonical.isName.1
  refine ofJson_ok_iff.mpr ⟨n.text, rfl, ?_, trimmed.symm⟩
  rw [trimmed]
  exact canonical

@[simp]
theorem GlnNumber.ofJson_toJson (n : GlnNumber) : ofJson n.toJson = .ok n := by
  have canonical : IsGs1 _ n.text := (Identifier.participant n).isCanonical
  have trimmed := canonical.isName.1
  refine ofJson_ok_iff.mpr ⟨n.text, rfl, ?_, trimmed.symm⟩
  rw [trimmed]
  exact canonical

section Records

/- Reading a record that was written as an object comes down to looking up each of its members. -/
attribute [local simp] Json.readRecord Json.readFields Functor.map Seq.seq Fields.seq Fields.pure
  Fields.required Fields.optional Fields.withDefault Fields.field Json.find? Json.readString
  Json.readAny bind Except.bind Except.map pure Except.pure

@[simp]
theorem MessageId.ofJson_toJson (id : MessageId) : ofJson id.toJson = .ok id := by
  simp [ofJson, toJson]

@[simp]
theorem ProcessKind.ofJson_toJson (kind : ProcessKind) : ofJson kind.toJson = .ok kind := by
  cases kind <;> rfl

@[simp]
theorem ProcessStatus.ofJson_toJson (status : ProcessStatus) :
    ofJson status.toJson = .ok status := by
  cases status <;> rfl

@[simp]
theorem DocumentKind.ofJson_toJson (kind : DocumentKind) : ofJson kind.toJson = .ok kind := by
  cases kind <;> rfl

@[simp]
theorem ProcessKind.ofDocumentCode_documentCode (kind : ProcessKind) :
    ofDocumentCode (.string kind.documentCode) = .ok kind := by
  cases kind <;> rfl

@[simp]
theorem Timestamp.ofJson_toJson (t : Timestamp) : ofJson t.toJson = .ok t.written := by
  simp [ofJson, toJson, Json.readText, parse_render, Except.mapError]

@[simp]
theorem Json.readNat64_nat (n : Nat) : readNat64 (nat n) = .ok n := rfl

@[simp]
theorem BusinessProcess.ofJson_toJson (p : BusinessProcess) : ofJson p.toJson = .ok p := by
  simp [ofJson, toJson]

/-- A point is read back from its stored form. -/
theorem AccountingPoint.ofJson_toJson (p : AccountingPoint) : ofJson p.toJson = .ok p := by
  have supplier : Json.readOptional GlnNumber.ofJson (.ofOption Gs1Number.toJson p.energySupplier)
      = .ok p.energySupplier :=
    Json.readOptional_ofOption GlnNumber.ofJson_toJson (by rintro _ ⟨⟩) _
  have processes : Json.readList BusinessProcess.ofJson (.ofList BusinessProcess.toJson p.processes)
      = .ok p.processes :=
    Json.readList_ofList fun process _ => process.ofJson_toJson
  simp [ofJson, toJson, supplier, processes]

theorem OutboundMessage.ofJson_toJson (m : OutboundMessage) :
    ofJson m.toJson = .ok { m with createdAt := m.createdAt.written } := by
  simp [ofJson, toJson]

/-- A transaction is read back if the instants of its messages are regular. -/
theorem Transaction.ofJson_toJson {t : Transaction}
    (regular : ∀ m ∈ t.messages, m.createdAt.IsRegular) : ofJson t.toJson = .ok t := by
  have messages : Json.readList OutboundMessage.ofJson (.ofList OutboundMessage.toJson t.messages)
      = .ok t.messages :=
    Json.readList_ofList fun m hm => by
      rw [m.ofJson_toJson, Timestamp.written_eq_iff.mpr (regular m hm)]
  simp [ofJson, toJson, messages]

@[simp]
theorem Participant.ofJson_toJson (p : Participant) : ofJson p.toJson = .ok p := by
  simp [ofJson, toJson]

@[simp]
theorem Reason.ofJson_toJson (r : Reason) : ofJson r.toJson = .ok r := by
  simp [ofJson, toJson]

@[simp]
theorem ActivityRecord.ofJson_toJson (a : ActivityRecord) : ofJson a.toJson = .ok a := by
  have reasons : Json.readList Reason.ofJson (.ofList Reason.toJson a.reasons) = .ok a.reasons :=
    Json.readList_ofList fun r _ => r.ofJson_toJson
  obtain ⟨id, transaction, point, rs⟩ := a
  -- An empty list of reasons is left out when it is written, and read where it is missing.
  by_cases none : rs = []
  · subst none
    simp [ofJson, toJson]
  · simp [ofJson, toJson, none, reasons]

/-- A document is read back, its instant as the text of that names it. -/
theorem MarketDocument.ofJson_toJson (d : MarketDocument) :
    ofJson d.toJson = .ok { d with createdDateTime := d.createdDateTime.written } := by
  simp [ofJson, toJson]

end Records

/-! ### What is read at all -/

/-- Instants that were read are regular. -/
theorem Timestamp.ofJson_gives : Timestamp.ofJson.Gives IsRegular := by
  intro j t ht
  cases j with
  | string s =>
    simp only [ofJson, Json.readText] at ht
    cases parsed : parse s with
    | error e => rw [parsed] at ht; cases ht
    | ok t' =>
      rw [parsed] at ht
      cases ht
      exact isRegular_of_parse parsed
  | _ => cases ht

section Given

open Fields.Gives

/- The fields of a record are gone through from the last one to the first; each either gives what is
asked of it or is one of which nothing is asked. -/

theorem OutboundMessage.ofJson_gives :
    OutboundMessage.ofJson.Gives fun m => m.createdAt.IsRegular := by
  refine readRecord (seq ?_ (required Timestamp.ofJson_gives))
  refine seq (seq (seq (map ?_ (any _)) (any _)) (any _)) (any _)
  intro id _ document _ recipient _ payload _ createdAt regular
  exact regular

theorem Transaction.ofJson_gives :
    Transaction.ofJson.Gives fun t => ∀ m ∈ t.messages, m.createdAt.IsRegular := by
  have messages := Json.readList_gives OutboundMessage.ofJson_gives
  refine readRecord (seq (seq (map ?_ (any _)) (required messages)) (any _))
  intro id _ messages regular version _
  exact regular

theorem MarketDocument.ofJson_gives :
    MarketDocument.ofJson.Gives fun d => d.createdDateTime.IsRegular := by
  refine readRecord (seq (seq (seq ?_ (required Timestamp.ofJson_gives)) (any _)) (any _))
  refine seq (seq (seq (seq (seq (seq (map ?_ (any _)) (any _)) (any _)) (any _)) (any _)) (any _))
    (any _)
  intro name _ id _ type _ process _ sector _ sender _ receiver _ created regular code _ record _
  exact regular

end Given

/-! ### Losing nothing -/

/-- The stored form of a type loses nothing. -/
structure Lossless {α : Type} (read : Reader α) (write : α → Json)
    (instants : α → List Timestamp) (identifiers : α → List Identifier) : Prop where
  /-- What was written is read back if the texts of its instants are, and not otherwise. -/
  back : ∀ a, read (write a) = .ok a ↔ ∀ t ∈ instants a, Timestamp.parse t.render = .ok t
  /-- What was read, from whatever form, is read again from what is written for it. -/
  again : ∀ j a, read j = .ok a → read (write a) = .ok a
  /-- The identifiers in what was read are canonical. -/
  canonical : ∀ j a, read j = .ok a → ∀ i ∈ identifiers a, i.IsCanonical

/-- It is enough that regular instants are read back and no others are read. -/
theorem Lossless.of_gives {α : Type} {read : Reader α} {write : α → Json}
    {instants : α → List Timestamp} {identifiers : α → List Identifier}
    (back : ∀ a, (∀ t ∈ instants a, t.IsRegular) → read (write a) = .ok a)
    (gives : read.Gives fun a => ∀ t ∈ instants a, t.IsRegular) :
    Lossless read write instants identifiers where
  back a := by
    have regular : (∀ t ∈ instants a, Timestamp.parse t.render = .ok t)
        ↔ ∀ t ∈ instants a, t.IsRegular :=
      forall₂_congr fun _ _ => Timestamp.parse_render_iff
    rw [regular]
    exact ⟨gives _ a, back a⟩
  again j a h := back a (gives j a h)
  canonical _ _ _ i _ := i.isCanonical

/-- A handler that is registered for a kind of command and reads its payloads is handed the value
for which a command was enqueued, whatever other handlers there are. -/
def HandsOver {α : Type} (kind : String) (read : Reader α) (payload : Json) (a : α) : Prop :=
  ∀ {m : Type → Type} [Monad m] (before router : Router m) (routes : List (Route m))
    (handle : HandlerContext → α → m (Except HandlerError CommandOutcome)),
    before.registerAll routes = .ok router → .ofHandler kind read handle ∈ routes →
    ∀ (id : CommandId) (createdAt now : Timestamp),
      router.dispatch (.fresh id kind payload createdAt) now
        = do pure ((← handle ⟨id, createdAt, now⟩ a).mapError .handler)

namespace Router

variable {m : Type → Type} {before router : Router m} {route : Route m}

theorem find?_of_register (h : before.register route = .ok router) :
    router.find? route.kind = some route ∧
      ∀ kind, before.handles kind = true → router.find? kind = before.find? kind := by
  simp only [register] at h
  split at h
  · cases h
  · rename_i free
    cases h
    have none : before.find? route.kind = none := by simpa [handles] using free
    constructor
    · simp only [find?] at none ⊢
      rw [List.find?_append, none]
      simp
    · intro kind some
      simp only [handles, find?] at some ⊢
      rw [List.find?_append, Option.or_of_isSome some]

/-- Every route that was registered is found, and those that were there before still are. -/
theorem find?_of_registerAll {routes : List (Route m)}
    (h : before.registerAll routes = .ok router) :
    (∀ route ∈ routes, router.find? route.kind = some route) ∧
      ∀ kind, before.handles kind = true → router.find? kind = before.find? kind := by
  induction routes generalizing before with
  | nil =>
    cases h
    exact ⟨by simp, fun _ _ => rfl⟩
  | cons route routes ih =>
    -- A later route never takes the kind of an earlier one, so that the earlier one stays in place.
    rw [registerAll, List.foldlM_cons] at h
    obtain ⟨next, registered, h⟩ := bind_ok h
    obtain ⟨found, kept⟩ := find?_of_register registered
    obtain ⟨rest, keptOn⟩ := ih h
    have handled : next.handles route.kind = true := by rw [handles, found]; rfl
    refine ⟨List.forall_mem_cons.mpr ⟨(keptOn _ handled).trans found, rest⟩, fun kind some => ?_⟩
    have still : next.handles kind = true := by rw [handles, kept kind some]; exact some
    rw [keptOn kind still, kept kind some]

end Router

theorem handsOver_of_read {α : Type} {kind : String} {read : Reader α} {payload : Json} {a : α}
    (h : read payload = .ok a) : HandsOver kind read payload a := by
  intro m _ before router routes handle registered mem id createdAt now
  have found := (Router.find?_of_registerAll registered).1 _ mem
  have found' : router.find? kind = some (.ofHandler kind read handle) := found
  simp only [Router.dispatch, InternalCommand.fresh, found', Route.ofHandler, h]

/-! ### What is stored -/

/-- The identifiers of a point: its own, and those of its suppliers and processes. -/
def AccountingPoint.identifiers (p : AccountingPoint) : List Identifier :=
  .point p.gsrn :: p.energySupplier.toList.map .participant ++
    p.processes.flatMap fun process =>
      [.process process.processId, .participant process.energySupplier]

/-- The identifiers of a market command. -/
def MarketCommand.identifiers : MarketCommand → List Identifier
  | request _ r => [.transaction r.transactionId, .process r.processId]
  | effectuate _ e => [.process e.processId]
  | forwardResult r => [.transaction r.transactionId]

/-- Nothing is lost of what is stored: points, transactions, documents and the payloads of commands
are read back equal from their stored forms, handlers are handed the commands that were enqueued,
and whatever is read at all is read the same again, with canonical identifiers, which are the texts
that were read without the blanks around them. -/
theorem stored_forms_lose_nothing :
    Lossless AccountingPoint.ofJson AccountingPoint.toJson (fun _ => [])
        AccountingPoint.identifiers ∧
    Lossless Transaction.ofJson Transaction.toJson (·.messages.map (·.createdAt))
        (fun t => [.transaction t.id]) ∧
    Lossless MarketDocument.ofJson MarketDocument.toJson (fun d => [d.createdDateTime])
        (fun d => [.transaction d.activityRecord.originalTransaction]) ∧
    (∀ process, Lossless (SupplyRequest.ofJson process) SupplyRequest.toJson (fun _ => [])
        (MarketCommand.identifiers <| .request process ·)) ∧
    (∀ process, Lossless (Effectuation.ofJson process) Effectuation.toJson (fun _ => [])
        (MarketCommand.identifiers <| .effectuate process ·)) ∧
    Lossless AggregationResult.ofJson AggregationResult.toJson (fun _ => [])
        (MarketCommand.identifiers <| .forwardResult ·) ∧
    (∀ process (r : SupplyRequest),
      HandsOver process.requestKind (SupplyRequest.ofJson process) r.toJson r) ∧
    (∀ process (e : Effectuation),
      HandsOver process.effectuationKind (Effectuation.ofJson process) e.toJson e) ∧
    (∀ r : AggregationResult,
      HandsOver AggregationResult.kind AggregationResult.ofJson r.toJson r) ∧
    (∀ (command : MarketCommand) read, MarketCommand.reader? command.kind = some read →
      HandsOver command.kind read command.toJson command) ∧
    (∀ j (id : TransactionId), TransactionId.ofJson j = .ok id
      ↔ ∃ s, j = .string s ∧ Text.trim s ≠ "" ∧ id.text = Text.trim s) ∧
    (∀ j (id : ProcessId), ProcessId.ofJson j = .ok id
      ↔ ∃ s, j = .string s ∧ Text.trim s ≠ "" ∧ id.text = Text.trim s) ∧
    (∀ j (n : Gsrn), Gsrn.ofJson j = .ok n
      ↔ ∃ s, j = .string s ∧ IsGs1 18 (Text.trim s) ∧ n.text = Text.trim s) ∧
    (∀ j (n : GlnNumber), GlnNumber.ofJson j = .ok n
      ↔ ∃ s, j = .string s ∧ IsGs1 13 (Text.trim s) ∧ n.text = Text.trim s) := by
  have timeless {α : Type} {read : Reader α} {write : α → Json} {identifiers : α → List Identifier}
      (back : ∀ a, read (write a) = .ok a) : Lossless read write (fun _ => []) identifiers :=
    .of_gives (fun a _ => back a) fun _ _ _ => by simp
  have transaction : Lossless Transaction.ofJson Transaction.toJson (·.messages.map (·.createdAt))
      fun t => [.transaction t.id] := by
    refine .of_gives (fun t regular => ?_) fun j t read => ?_
    · exact Transaction.ofJson_toJson (by simpa using regular)
    · simpa using Transaction.ofJson_gives j t read
  have document : Lossless MarketDocument.ofJson MarketDocument.toJson
      (fun d => [d.createdDateTime]) fun d => [.transaction d.activityRecord.originalTransaction] := by
    refine .of_gives (fun d regular => ?_) fun j d read => ?_
    · rw [d.ofJson_toJson, Timestamp.written_eq_iff.mpr (by simpa using regular)]
    · simpa using MarketDocument.ofJson_gives j d read
  have command (command : MarketCommand) (read : Reader MarketCommand)
      (h : MarketCommand.reader? command.kind = some read) :
      HandsOver command.kind read command.toJson command := by
    obtain ⟨read', some, back⟩ := command.read_toJson
    rw [h] at some
    cases some
    exact handsOver_of_read back
  exact ⟨timeless AccountingPoint.ofJson_toJson, transaction, document,
    fun process => timeless (SupplyRequest.ofJson_toJson process),
    fun process => timeless (Effectuation.ofJson_toJson process),
    timeless AggregationResult.ofJson_toJson,
    fun process r => handsOver_of_read (r.ofJson_toJson process),
    fun process e => handsOver_of_read (e.ofJson_toJson process),
    fun r => handsOver_of_read r.ofJson_toJson, command,
    fun _ _ => TransactionId.ofJson_ok_iff, fun _ _ => ProcessId.ofJson_ok_iff,
    fun _ _ => Gsrn.ofJson_ok_iff, fun _ _ => GlnNumber.ofJson_ok_iff⟩

end SupplierSwitch
