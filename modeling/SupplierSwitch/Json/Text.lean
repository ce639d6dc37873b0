import SupplierSwitch.Json.Value
import SupplierSwitch.Text.Hexadecimal

namespace SupplierSwitch

/-!
# JSON texts

Reading a JSON value from its text and writing it without blanks. Of several members with one key
the last one counts. Main definitions:

* `Json.parse`: the value that a text writes, or why it writes none.
* `Json.render`: the text of a value.
-/

namespace Json

/-- Why a text writes no JSON value. -/
inductive TextError where
  /-- The text ran out. -/
  | tooShort
  /-- A character that cannot stand where it does. -/
  | unexpected (c : Char)
  | invalidNumber
  | numberOutOfRange
  /-- A backslash before something that it cannot escape, or half of a surrogate pair. -/
  | invalidEscape
  /-- Something is left over. -/
  | trailing
  deriving DecidableEq, Repr

/-- The wording of an error. -/
def TextError.message : TextError → String
  | .tooShort => "unexpected end of text"
  | .unexpected c => "unexpected character " ++ Text.quoted (String.singleton c)
  | .invalidNumber => "invalid number"
  | .numberOutOfRange => "number out of range"
  | .invalidEscape => "invalid escape"
  | .trailing => "trailing characters"

/-! ### Reading -/

/-- A step that reads from the front of the text that is left. -/
abbrev Scan := StateT (List Char) (Except TextError)

namespace Scan

/-- Whether a character may stand between the parts of a value. -/
def isSpace (c : Char) : Bool :=
  c = ' ' || c = '\t' || c = '\n' || c = '\r'

/-- Skip the characters that may stand between the parts of a value. -/
def spaces : Scan Unit :=
  modify (·.dropWhile isSpace)

/-- The next character. -/
def next : Scan Char := do
  match ← get with
  | [] => throw .tooShort
  | c :: rest =>
    set rest
    pure c

/-- The next character if it is one of some; nothing is read otherwise. -/
def oneOf? (among : List Char) : Scan (Option Char) := do
  match ← get with
  | [] => pure none
  | c :: rest =>
    if c ∈ among then
      set rest
      pure (some c)
    else pure none

/-- A given character. -/
def symbol (c : Char) : Scan Unit := do
  let d ← next
  unless d = c do throw (.unexpected d)

/-- The digits at the front, at least one. -/
def digits : Scan (List Nat) := do
  let (ds, rest) := (← get).span Char.isDigit
  set rest
  match ds.filterMap Text.digit? with
  | [] => throw .invalidNumber
  | values => pure values

/-- The digits before a point: none may follow a leading zero. -/
def wholeDigits : Scan (List Nat) := do
  match ← digits with
  | 0 :: _ :: _ => throw .invalidNumber
  | values => pure values

/-- The exponent of a number after its letter. -/
def exponent : Scan Int := do
  let sign ← oneOf? ['+', '-']
  let size : Nat := (← digits).foldl (fun value d => 10 * value + d) 0
  pure (if sign = some '-' then -(size : Int) else size)

/-- The written form of a number. -/
def numeral : Scan Numeral := do
  let sign ← oneOf? ['-']
  let whole ← wholeDigits
  let point ← oneOf? ['.']
  let fraction ← if point.isSome then digits else pure []
  let letter ← oneOf? ['e', 'E']
  let power ← if letter.isSome then some <$> exponent else pure none
  pure { negative := sign.isSome, whole, fraction, exponent := power }

/-- A number. -/
def number : Scan Number := do
  match Number.ofNumeral? (← numeral) with
  | some n => pure n
  | none => throw .numberOutOfRange

/-- Four hexadecimal digits. -/
def codeUnit : Scan Nat := do
  let cs ← get
  set (cs.drop 4)
  if cs.length < 4 then throw .tooShort
  match Text.hexNumber? (cs.take 4) with
  | some n => pure n
  | none => throw .invalidEscape

/-- Whether a code unit of 16 bits is the first half of a surrogate pair. -/
def isHighSurrogate (code : Nat) : Bool :=
  0xD800 ≤ code ∧ code < 0xDC00

/-- Whether a code unit of 16 bits is the second half of a surrogate pair. -/
def isLowSurrogate (code : Nat) : Bool :=
  0xDC00 ≤ code ∧ code < 0xE000

/-- The character of one code unit, or of a surrogate pair with an escape for each half. -/
def escapedCode : Scan Char := do
  let code ← codeUnit
  if isHighSurrogate code then
    symbol '\\'
    symbol 'u'
    let low ← codeUnit
    unless isLowSurrogate low do throw .invalidEscape
    pure (Char.ofNat (0x10000 + (code - 0xD800) * 0x400 + (low - 0xDC00)))
  else if isLowSurrogate code then throw .invalidEscape
  else pure (Char.ofNat code)

/-- The character that a backslash and what follows it stand for. -/
def escaped : Scan Char := do
  match ← next with
  | '"' => pure '"'
  | '\\' => pure '\\'
  | '/' => pure '/'
  | 'b' => pure '\x08'
  | 'f' => pure '\x0c'
  | 'n' => pure '\n'
  | 'r' => pure '\r'
  | 't' => pure '\t'
  | 'u' => escapedCode
  | _ => throw .invalidEscape

/-- The rest of a text up to its closing quote, on top of the characters read so far, the last of
which comes first. -/
def quotedRest : Nat → List Char → Scan String
  | 0, _ => throw .tooShort
  | fuel + 1, read => do
    match ← next with
    | '"' => pure (String.ofList read.reverse)
    | '\\' => do
      let c ← escaped
      quotedRest fuel (c :: read)
    | c => if c.toNat < 32 then throw (.unexpected c) else quotedRest fuel (c :: read)

/-- The values that are written as words. -/
def words : List (List Char × Json) :=
  [("null".toList, .null), ("true".toList, .bool true), ("false".toList, .bool false)]

/-- A word. -/
def word : Scan Json := do
  let cs ← get
  match words.find? (fun (name, _) => name.isPrefixOf cs) with
  | some (name, j) =>
    set (cs.drop name.length)
    pure j
  | none => throw (.unexpected (← next))

/-- The key of a member and the colon after it. -/
def key (fuel : Nat) : Scan String := do
  spaces
  symbol '"'
  let name ← quotedRest fuel []
  spaces
  symbol ':'
  pure name

/-- Of members in order of their keys, the last one of each key. -/
def lastOfEach : List (String × Json) → List (String × Json)
  | a :: b :: rest => if a.1 = b.1 then lastOfEach (b :: rest) else a :: lastOfEach (b :: rest)
  | members => members

/-- The object of members as they are written. -/
def objectOf (members : List (String × Json)) : Json :=
  .object (lastOfEach (members.mergeSort fun a b => a.1 ≤ b.1))

mutual

/-- A value. Each step reads a character or leads to one that does, so twice the length of a text
and two more is fuel enough for all of it. -/
def value : Nat → Scan Json
  | 0 => throw .tooShort
  | fuel + 1 => do
    spaces
    match ← get with
    | [] => throw .tooShort
    | c :: rest =>
      if c = '"' then
        set rest
        Json.string <$> quotedRest fuel []
      else if c = '[' then
        set rest
        spaces
        if (← oneOf? [']']).isSome then pure (.array []) else Json.array <$> items fuel
      else if c = '\x7b' then
        set rest
        spaces
        if (← oneOf? ['\x7d']).isSome then pure (.object []) else objectOf <$> members fuel
      else if c = '-' || c.isDigit then Json.number <$> number
      else word

/-- The items of a list up to its closing bracket, at least one. -/
def items : Nat → Scan (List Json)
  | 0 => throw .tooShort
  | fuel + 1 => do
    let item ← value fuel
    spaces
    if (← oneOf? [',']).isSome then
      let rest ← items fuel
      pure (item :: rest)
    else
      symbol ']'
      pure [item]

/-- The members of an object up to its closing brace, at least one. -/
def members : Nat → Scan (List (String × Json))
  | 0 => throw .tooShort
  | fuel + 1 => do
    let name ← key fuel
    let item ← value fuel
    spaces
    if (← oneOf? [',']).isSome then
      let rest ← members fuel
      pure ((name, item) :: rest)
    else
      symbol '\x7d'
      pure [(name, item)]

end

/-- A whole text: one value and nothing after it. -/
def document (fuel : Nat) : Scan Json := do
  let j ← value fuel
  spaces
  unless (← get).isEmpty do throw .trailing
  pure j

end Scan

/-- The value that a text writes. -/
def parse (s : String) : Except TextError Json :=
  let cs := s.toList
  ((Scan.document (2 * cs.length + 2)).run cs).map Prod.fst

/-! ### Writing -/

/-- One character of a text between quotes. -/
def renderChar (c : Char) : List Char :=
  if c = '"' then ['\\', '"']
  else if c = '\\' then ['\\', '\\']
  else if c = '\x08' then ['\\', 'b']
  else if c = '\x0c' then ['\\', 'f']
  else if c = '\n' then ['\\', 'n']
  else if c = '\r' then ['\\', 'r']
  else if c = '\t' then ['\\', 't']
  else if c.toNat < 32 then ['\\', 'u'] ++ Text.hexDigits 4 c.toNat
  else [c]

/-- A text between quotes. -/
def renderText (s : String) : String :=
  String.ofList (['"'] ++ s.toList.flatMap renderChar ++ ['"'])

mutual

/-- The text of a value. -/
def render : Json → String
  | .null => "null"
  | .bool b => toString b
  | .number n => n.render
  | .string s => renderText s
  | .array items => "[" ++ ",".intercalate (renderItems items) ++ "]"
  | .object members => "\x7b" ++ ",".intercalate (renderMembers members) ++ "\x7d"

/-- The texts of the items of a list. -/
def renderItems : List Json → List String
  | [] => []
  | j :: rest => render j :: renderItems rest

/-- The texts of the members of an object. -/
def renderMembers : List (String × Json) → List String
  | [] => []
  | (name, j) :: rest => (renderText name ++ ":" ++ render j) :: renderMembers rest

end

end Json

end SupplierSwitch
