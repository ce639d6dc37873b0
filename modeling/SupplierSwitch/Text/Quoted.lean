import SupplierSwitch.Text.Hexadecimal
import SupplierSwitch.Text.VisibleTable

namespace SupplierSwitch.Text

/-!
# Quoted texts

The form in which texts appear inside diagnostics: between double quotes, with a backslash before a
quote or a backslash, short escapes for the common control characters, and the code point in braces
for every other character that would not show.
-/

/-- One character of a quoted text. -/
def quotedChar (c : Char) : List Char :=
  if c = '"' then ['\\', '"']
  else if c = '\\' then ['\\', '\\']
  else if c = '\x00' then ['\\', '0']
  else if c = '\t' then ['\\', 't']
  else if c = '\n' then ['\\', 'n']
  else if c = '\r' then ['\\', 'r']
  else if insideBoundaries visibleBoundaries c.toNat then [c]
  else ['\\', 'u', '\x7b'] ++ hexadecimal c.toNat ++ ['\x7d']

/-- A text between quotes. -/
def quoted (s : String) : String :=
  String.ofList (['"'] ++ s.toList.flatMap quotedChar ++ ['"'])

/-- A list of items in brackets, separated by a comma and a space. -/
def bracketed (items : List String) : String :=
  "[" ++ ", ".intercalate items ++ "]"

/-- A list of quoted texts. -/
def quotedList (texts : List String) : String :=
  bracketed (texts.map quoted)

end SupplierSwitch.Text
