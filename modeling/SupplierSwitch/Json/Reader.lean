import SupplierSwitch.Json.Value
import SupplierSwitch.Text.Numeral
import SupplierSwitch.Uuid
import SupplierSwitch.Calendar.Timestamp

namespace SupplierSwitch

/-!
# Reading stored forms

A reader turns a JSON value into a value of the domain or says why it cannot.
Main definitions:

* `ReadError` and `ReadError.message`: what may be wrong with a stored form, and its wording.
* `Json.readNat32`, `Json.readVariant` and the like: readers of simple values.
* `Fields` and `Json.readRecord`: records, read from an object or from the array of their fields.
  The members of an object are looked at in order of their keys, and the first bad one is reported
  before any missing one; missing ones are reported in the order in which the record declares them.
-/

/-- Why a JSON value is not the stored form of a value. -/
inductive ReadError where
  /-- A value of another kind. -/
  | wrongType (found expected : String)
  /-- A value of the right kind but out of bounds. -/
  | wrongValue (found expected : String)
  | wrongLength (length : Nat) (expected : String)
  | unknownVariant (name : String) (variants : List String)
  | unknownField (name : String) (fields : List String)
  | missingField (name : String)
  /-- A value that its domain refuses, in the words of the domain. -/
  | refused (reason : String)
  deriving DecidableEq, Repr

namespace ReadError

/-- A choice among names. -/
def oneOf : List String → String
  | [a, b] => "`" ++ a ++ "` or `" ++ b ++ "`"
  | [a] => "`" ++ a ++ "`"
  | names => "one of " ++ ", ".intercalate (names.map fun a => "`" ++ a ++ "`")

/-- The wording of a read error. -/
def message : ReadError → String
  | wrongType found expected => "invalid type: " ++ found ++ ", expected " ++ expected
  | wrongValue found expected => "invalid value: " ++ found ++ ", expected " ++ expected
  | wrongLength length expected =>
    "invalid length " ++ toString length ++ ", expected " ++ expected
  | unknownVariant name variants =>
    "unknown variant `" ++ name ++ "`, expected " ++ oneOf variants
  | unknownField name fields => "unknown field `" ++ name ++ "`, expected " ++ oneOf fields
  | missingField name => "missing field `" ++ name ++ "`"
  | refused reason => reason

end ReadError

/-- A reader of stored forms. -/
abbrev Reader (α : Type) := Json → Except ReadError α

namespace Json

/-! ### Simple values -/

/-- Complain that a value is of the wrong kind. -/
def wrongType (expected : String) (j : Json) : Except ReadError α :=
  .error (.wrongType j.describe expected)

/-- Any value. -/
def readAny : Reader Json :=
  .ok

/-- A text. -/
def readString : Reader String
  | .string s => .ok s
  | j => wrongType "a string" j

/-- A truth value. -/
def readBool : Reader Bool
  | .bool b => .ok b
  | j => wrongType "a boolean" j

/-- A whole number that is not negative and meets a bound. -/
def readNatWithin (fits : Nat → Bool) (expected : String) : Reader Nat
  | .number (.integer (.ofNat n)) =>
    if fits n then .ok n else .error (.wrongValue (nat n).describe expected)
  | .number (.integer n) => .error (.wrongValue (number (.integer n)).describe expected)
  | j => wrongType expected j

/-- A number of 32 bits. -/
def readNat32 : Reader Nat :=
  readNatWithin (· ≤ Text.greatest32) "u32"

/-- A number of 32 bits, for counts that go round. -/
def readUInt32 : Reader UInt32 := fun j =>
  UInt32.ofNat <$> readNat32 j

/-- A number of 64 bits: any whole number that is not negative. -/
def readNat64 : Reader Nat :=
  readNatWithin (fun _ => true) "u64"

/-- A size: it too has 64 bits. -/
def readSize : Reader Nat :=
  readNatWithin (fun _ => true) "usize"

/-- A value that may be null. -/
def readOptional (read : Reader α) : Reader (Option α)
  | .null => .ok none
  | j => some <$> read j

/-- A list. -/
def readList (read : Reader α) : Reader (List α)
  | .array items => items.mapM read
  | j => wrongType "a sequence" j

/-- A text that is read further. -/
def readText (expected : String) (parse : String → Except String α) : Reader α
  | .string s => (parse s).mapError .refused
  | j => wrongType expected j

/-- The value of a name. -/
def variant (variants : List (String × α)) (name : String) : Except ReadError α :=
  match variants.find? (·.1 = name) with
  | some (_, a) => .ok a
  | none => .error (.unknownVariant name (variants.map Prod.fst))

/-- One of several named values: its name, or an object whose only key is the name. -/
def readVariant (variants : List (String × α)) : Reader α
  | .string name => variant variants name
  | .object [(name, content)] => do
    let a ← variant variants name
    if content = .null then pure a else wrongType "unit" content
  | .object _ => .error (.wrongValue "map" "map with a single key")
  | j => wrongType "string or map" j

end Json

/-! ### Records -/

/-- How the fields of a record are read. -/
structure Fields (α : Type) where
  /-- The names of the fields, in order of declaration. -/
  names : List String
  /-- Read a member for its errors only; a key that names no field is passed over. -/
  probe : String → Json → Except ReadError Unit
  /-- Read all fields from the members of an object. -/
  ofMembers : (String → Option Json) → Except ReadError α
  /-- Read all fields from the front of a list whose first item has the given position. The outer
  `none` says that the list ended at that position. -/
  ofItems : Nat → List Json → Except (ReadError ⊕ Nat) (α × List Json)

namespace Fields

/-- No fields. -/
protected def pure (a : α) : Fields α where
  names := []
  probe _ _ := .ok ()
  ofMembers _ := .ok a
  ofItems _ items := .ok (a, items)

/-- More fields. -/
protected def seq (f : Fields (α → β)) (x : Unit → Fields α) : Fields β where
  names := f.names ++ (x ()).names
  probe key value := do f.probe key value; (x ()).probe key value
  ofMembers find := do pure ((← f.ofMembers find) (← (x ()).ofMembers find))
  ofItems position items := do
    let (g, rest) ← f.ofItems position items
    let (a, rest) ← (x ()).ofItems (position + f.names.length) rest
    pure (g a, rest)

instance : Applicative Fields where
  pure := Fields.pure
  seq := Fields.seq

/-- A field on its own, given what its absence means in an object and in an array. -/
def field (name : String) (read : Reader α) (absent : Except ReadError α)
    (ended : Option α) : Fields α where
  names := [name]
  probe key value := if key = name then (read value).map fun _ => () else .ok ()
  ofMembers find := match find name with
    | some value => read value
    | none => absent
  ofItems position
    | value :: rest => match read value with
      | .ok a => .ok (a, rest)
      | .error e => .error (.inl e)
    | [] => match ended with
      | some a => .ok (a, [])
      | none => .error (.inr position)

/-- A field that has to be there. -/
def required (name : String) (read : Reader α) : Fields α :=
  field name read (.error (.missingField name)) none

/-- A field that may be null, or missing in an object. -/
def optional (name : String) (read : Reader α) : Fields (Option α) :=
  field name (Json.readOptional read) (.ok none) none

/-- A field that has a value when it is missing. -/
def withDefault (name : String) (read : Reader α) (a : α) : Fields α :=
  field name read (.ok a) (some a)

/-- Fields that make up a value only together. They are put together as soon as the last of them is
read, so that a refusal comes before a complaint about items that are left over. -/
def together (f : Fields α) (make : α → Except ReadError β) : Fields β where
  names := f.names
  probe := f.probe
  ofMembers find := do make (← f.ofMembers find)
  ofItems position items := do
    let (a, rest) ← f.ofItems position items
    match make a with
    | .ok b => pure (b, rest)
    | .error e => throw (.inl e)

/-- Fields beside which an object may have no other key. -/
def only (f : Fields α) : Fields α :=
  { f with
    probe := fun key value =>
      if key ∈ f.names then f.probe key value else .error (.unknownField key f.names) }

end Fields

namespace Json

/-- The number of fields, in words. -/
def elements (count : Nat) : String :=
  toString count ++ if count = 1 then " element" else " elements"

/-- A record from an object or from the array of its fields, with the wording for a short array. -/
def readFields (fields : Fields α) (expected short : String) : Reader α
  | .object members => do
    members.forM fun (key, value) => fields.probe key value
    fields.ofMembers (find? members)
  | .array items =>
    match fields.ofItems 0 items with
    | .ok (a, []) => .ok a
    | .ok (_, _ :: _) => .error (.wrongLength items.length "fewer elements in array")
    | .error (.inl e) => .error e
    | .error (.inr position) => .error (.wrongLength position short)
  | j => wrongType expected j

/-- A record of the given name. -/
def readRecord (name : String) (fields : Fields α) : Reader α :=
  let expected := "struct " ++ name
  readFields fields expected (expected ++ " with " ++ elements fields.names.length)

end Json

/-! ### Identifiers, dates and durations -/

/-- An identifier from its text. -/
def Uuid.ofJson : Reader Uuid :=
  Json.readText "a UUID string" fun s =>
    match Uuid.parse? s with
    | some u => .ok u
    | none => .error "UUID parsing failed"

/-- An identifier as a text. -/
def Uuid.toJson (u : Uuid) : Json :=
  .string u.render

/-- A date from its text. -/
def Date.ofJson : Reader Date :=
  Json.readText "a formatted date string" fun s => (Date.parse s).mapError (·.message)

/-- A date as a text. -/
def Date.toJson (d : Date) : Json :=
  .string d.render

/-- An instant from its text. -/
def Timestamp.ofJson : Reader Timestamp :=
  Json.readText "an RFC 3339 formatted date and time string" fun s =>
    (Timestamp.parse s).mapError (·.message)

/-- An instant as a text. -/
def Timestamp.toJson (t : Timestamp) : Json :=
  .string t.render

namespace Duration

/-- The duration of seconds and nanoseconds, unless it is too long. Nanoseconds beyond a second
carry. -/
def ofParts (parts : Nat × Nat) : Except ReadError Duration :=
  let total := parts.1 * nanosPerSecond + parts.2
  if h : total ≤ greatestNanos then .ok ⟨total, h⟩
  else .error (.refused "overflow deserializing Duration")

/-- The fields of a duration: seconds and nanoseconds. -/
def fields : Fields Duration :=
  let parts : Fields (Nat × Nat) :=
    Prod.mk <$> .required "secs" Json.readNat64 <*> .required "nanos" Json.readNat32
  parts.only.together ofParts

/-- A duration from its seconds and nanoseconds. -/
def ofJson : Reader Duration :=
  Json.readFields fields "struct Duration" "struct Duration"

/-- A duration as seconds and nanoseconds. -/
def toJson (d : Duration) : Json :=
  .object [("nanos", .nat d.subsecond), ("secs", .nat d.seconds)]

end Duration

end SupplierSwitch
