import SupplierSwitch.Text.Hexadecimal

namespace SupplierSwitch

open Text

/-!
# Universally unique identifiers

128-bit identifiers of commands, messages and claims. They are written as five groups of lower-case
hexadecimal digits joined by hyphens, and read from that form in either case, bare or in braces or
after `urn:uuid:`, and from 32 digits without hyphens.
-/

/-- A 128-bit identifier. -/
structure Uuid where
  bits : BitVec 128
  deriving DecidableEq

namespace Uuid

/-- The identifier of zeros only. -/
def zero : Uuid := ⟨0⟩

instance : Inhabited Uuid := ⟨zero⟩

/-- Identifiers are ordered as numbers. -/
instance : LT Uuid := ⟨fun a b => a.bits.toNat < b.bits.toNat⟩

instance : LE Uuid := ⟨fun a b => a.bits.toNat ≤ b.bits.toNat⟩

instance (a b : Uuid) : Decidable (a < b) :=
  inferInstanceAs (Decidable (a.bits.toNat < b.bits.toNat))

instance (a b : Uuid) : Decidable (a ≤ b) :=
  inferInstanceAs (Decidable (a.bits.toNat ≤ b.bits.toNat))

/-! ### Writing -/

/-- The five groups of digits joined by hyphens. -/
def hyphenated (digits : List Char) : List Char :=
  digits.take 8 ++ ['-'] ++ (digits.drop 8).take 4 ++ ['-'] ++ (digits.drop 12).take 4 ++ ['-'] ++
    (digits.drop 16).take 4 ++ ['-'] ++ digits.drop 20

/-- The written form of an identifier. -/
def render (u : Uuid) : String :=
  String.ofList (hyphenated (hexDigits 32 u.bits.toNat))

instance : ToString Uuid := ⟨render⟩

/-! ### Reading -/

/-- The digits of a hyphenated form, if its hyphens are in place. -/
def joined? (cs : List Char) : Option (List Char) :=
  let digits := cs.take 8 ++ (cs.drop 9).take 4 ++ (cs.drop 14).take 4 ++ (cs.drop 19).take 4 ++
    cs.drop 24
  if cs.length = 36 ∧ cs = hyphenated digits then some digits else none

/-- The 32 digits of any accepted form. -/
def digits? (cs : List Char) : Option (List Char) :=
  let scheme := "urn:uuid:".toList
  if cs.length = 32 then some cs
  else if cs.length = 36 then joined? cs
  else if cs.length = 38 ∧ cs.head? = some '\x7b' ∧ cs.getLast? = some '\x7d' then
    joined? (cs.drop 1).dropLast
  else if cs.length = 45 ∧ (cs.take 9).map Char.toLower = scheme then joined? (cs.drop 9)
  else none

/-- Read an identifier in any accepted form. -/
def parse? (s : String) : Option Uuid := do
  let digits ← digits? s.toList
  let value ← hexNumber? digits
  pure ⟨BitVec.ofNat 128 value⟩

/-! ### Fresh identifiers -/

/-- The version number that an identifier carries. -/
def version (u : Uuid) : Nat :=
  (u.bits.toNat >>> 76) % 16

/-- The identifier of version 7 for a time in milliseconds and a number that tells apart the
identifiers of one time. -/
def timeOrdered (milliseconds serial : Nat) : Uuid :=
  ⟨BitVec.ofNat 128
    ((milliseconds % Nat.pow 2 48) <<< 80 ||| 7 <<< 76 ||| 2 <<< 62 ||| serial % Nat.pow 2 62)⟩

end Uuid

end SupplierSwitch
