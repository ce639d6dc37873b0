import SupplierSwitch.Json.Number
import SupplierSwitch.Text.Quoted

namespace SupplierSwitch

/-!
# JSON values

Values in the stored form of commands, transactions and accounting points. The members of an object
are kept in increasing order of their keys, and no key occurs twice.
-/

/-- A JSON value. -/
inductive Json where
  | null
  | bool (b : Bool)
  | number (n : Number)
  | string (s : String)
  | array (items : List Json)
  | object (members : List (String × Json))

namespace Json

instance : Inhabited Json := ⟨null⟩

/-- A whole number. -/
def nat (n : Nat) : Json :=
  .number (.integer n)

/-- A value that may be missing is null when it is. -/
def ofOption (write : α → Json) : Option α → Json
  | none => .null
  | some a => write a

/-- The object of members that may stand in any order. -/
def ofMembers (members : List (String × Json)) : Json :=
  .object (members.mergeSort fun a b => a.1 ≤ b.1)

/-- A list of values. -/
def ofList (write : α → Json) (as : List α) : Json :=
  .array (as.map write)

/-- The member of a key. -/
def find? (members : List (String × Json)) (key : String) : Option Json :=
  (members.find? (·.1 = key)).map Prod.snd

/-- The member of a key, if the value is an object that has it. -/
def member? (key : String) : Json → Option Json
  | .object members => find? members key
  | _ => none

/-- The member of a key; a missing one is null. -/
def member (key : String) (j : Json) : Json :=
  (j.member? key).getD .null

/-- The member of a key unless it is missing or null. -/
def given? (key : String) (j : Json) : Option Json :=
  match j.member key with
  | .null => none
  | value => some value

/-- The text at a key; anything else there is the empty text. -/
def textAt (key : String) (j : Json) : String :=
  match j.member key with
  | .string s => s
  | _ => ""

/-- The items of the list at a key; anything else there has no items. -/
def itemsAt (key : String) (j : Json) : List Json :=
  match j.member key with
  | .array items => items
  | _ => []

/-- The whole number at a key; anything else there is zero. -/
def natAt (key : String) (j : Json) : Nat :=
  match j.member key with
  | .number (.integer n) => n.toNat
  | _ => 0

/-- What a value is, in the words of an error. -/
def describe : Json → String
  | .null => "null"
  | .bool b => "boolean `" ++ toString b ++ "`"
  | .number (.integer n) => "integer `" ++ (Number.integer n).render ++ "`"
  | .number (.double x) => "floating point `" ++ (Number.double x).render ++ "`"
  | .string s => "string " ++ Text.quoted s
  | .array _ => "sequence"
  | .object _ => "map"

/-! ### Equality is decidable -/

mutual

/-- Decide whether two values are equal. -/
def decEq : (a b : Json) → Decidable (a = b)
  | .null, .null => isTrue rfl
  | .bool a, .bool b =>
    if h : a = b then isTrue (by rw [h]) else isFalse (by simpa using h)
  | .number a, .number b =>
    if h : a = b then isTrue (by rw [h]) else isFalse (by simpa using h)
  | .string a, .string b =>
    if h : a = b then isTrue (by rw [h]) else isFalse (by simpa using h)
  | .array as, .array bs =>
    match decEqItems as bs with
    | isTrue h => isTrue (by rw [h])
    | isFalse h => isFalse (by simpa using h)
  | .object as, .object bs =>
    match decEqMembers as bs with
    | isTrue h => isTrue (by rw [h])
    | isFalse h => isFalse (by simpa using h)
  | .null, .bool _ | .null, .number _ | .null, .string _ | .null, .array _ | .null, .object _
  | .bool _, .null | .bool _, .number _ | .bool _, .string _ | .bool _, .array _
  | .bool _, .object _ | .number _, .null | .number _, .bool _ | .number _, .string _
  | .number _, .array _ | .number _, .object _ | .string _, .null | .string _, .bool _
  | .string _, .number _ | .string _, .array _ | .string _, .object _ | .array _, .null
  | .array _, .bool _ | .array _, .number _ | .array _, .string _ | .array _, .object _
  | .object _, .null | .object _, .bool _ | .object _, .number _ | .object _, .string _
  | .object _, .array _ => isFalse (by simp)

/-- Decide whether two lists of values are equal. -/
def decEqItems : (as bs : List Json) → Decidable (as = bs)
  | [], [] => isTrue rfl
  | [], _ :: _ | _ :: _, [] => isFalse (by simp)
  | a :: as, b :: bs =>
    match decEq a b, decEqItems as bs with
    | isTrue h, isTrue t => isTrue (by rw [h, t])
    | isFalse h, _ => isFalse (by simp [h])
    | _, isFalse t => isFalse (by simp [t])

/-- Decide whether two lists of members are equal. -/
def decEqMembers : (as bs : List (String × Json)) → Decidable (as = bs)
  | [], [] => isTrue rfl
  | [], _ :: _ | _ :: _, [] => isFalse (by simp)
  | (k, a) :: as, (l, b) :: bs =>
    if hk : k = l then
      match decEq a b, decEqMembers as bs with
      | isTrue h, isTrue t => isTrue (by rw [hk, h, t])
      | isFalse h, _ => isFalse (by simp [h])
      | _, isFalse t => isFalse (by simp [t])
    else isFalse (by simp [hk])

end

instance : DecidableEq Json := decEq

end Json

end SupplierSwitch
