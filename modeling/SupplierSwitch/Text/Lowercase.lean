import SupplierSwitch.Text.CaseTable

namespace SupplierSwitch.Text

/-!
# Lower case

The lower-case form of a text under the full Unicode mapping: the dotted capital I becomes two
characters, and a capital sigma becomes the final small sigma at the end of a word.
-/

/-- The property Cased, outside Case_Ignorable. -/
def isCased (c : Char) : Bool :=
  insideBoundaries casedBoundaries c.toNat

/-- The property Case_Ignorable. -/
def isCaseIgnorable (c : Char) : Bool :=
  insideBoundaries caseIgnorableBoundaries c.toNat

/-- The first character that is not ignorable is a cased one. -/
def startsCased (cs : List Char) : Bool :=
  match cs.dropWhile isCaseIgnorable with
  | [] => false
  | c :: _ => isCased c

/-- The lower-case form of a character on its own. -/
def lowerChar (c : Char) : List Char :=
  if c.toNat = 0x130 then ['i', Char.ofNat 0x307]
  else [((lowercaseRuns.findSome? (·.target? c.toNat)).map Char.ofNat).getD c]

/-- Lower-case the rest of a text whose characters before it, nearest first, are `before`. -/
def lowerAfter (before : List Char) : List Char → List Char
  | [] => []
  | c :: rest =>
    let lowered :=
      if c.toNat = 0x3a3 then
        [Char.ofNat (if startsCased before && !startsCased rest then 0x3c2 else 0x3c3)]
      else lowerChar c
    lowered ++ lowerAfter (c :: before) rest

/-- The lower-case form of a text. -/
def lowercase (s : String) : String :=
  String.ofList (lowerAfter [] s.toList)

/-- The lower-case form of an ASCII letter; every other character stays. -/
def asciiLowercase (s : String) : String :=
  String.ofList (s.toList.map Char.toLower)

end SupplierSwitch.Text
