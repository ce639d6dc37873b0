namespace SupplierSwitch.Text

/-!
# Blank characters

A character is blank if it has the Unicode property White_Space. Identifiers, header values and
settings are trimmed of blanks at both ends before they are read.
-/

/-- The Unicode property White_Space. -/
def isBlank (c : Char) : Bool :=
  let point := c.toNat
  (0x09 ≤ point && point ≤ 0x0d) || point == 0x20 || point == 0x85 || point == 0xa0 ||
    point == 0x1680 || (0x2000 ≤ point && point ≤ 0x200a) || point == 0x2028 ||
    point == 0x2029 || point == 0x202f || point == 0x205f || point == 0x3000

/-- Drop the blanks in front. -/
def skipBlanks (cs : List Char) : List Char :=
  cs.dropWhile isBlank

/-- Drop the blanks at the end. -/
def dropEndBlanks (cs : List Char) : List Char :=
  (cs.reverse.dropWhile isBlank).reverse

/-- Drop the blanks at both ends. -/
def trimmed (cs : List Char) : List Char :=
  dropEndBlanks (skipBlanks cs)

/-- Drop the blanks at both ends of a text. -/
def trim (s : String) : String :=
  String.ofList (trimmed s.toList)

/-! ### What trimming leaves -/

theorem head_skipBlanks {cs : List Char} {c : Char} (h : (skipBlanks cs).head? = some c) :
    isBlank c = false := by
  have := List.head?_dropWhile_not isBlank cs
  simp only [skipBlanks] at h
  simpa [h] using this

theorem skipBlanks_of_head {cs : List Char}
    (h : ∀ c, cs.head? = some c → isBlank c = false) : skipBlanks cs = cs := by
  cases cs with
  | nil => rfl
  | cons c cs => simp [skipBlanks, List.dropWhile, h c rfl]

theorem skipBlanks_skipBlanks (cs : List Char) : skipBlanks (skipBlanks cs) = skipBlanks cs :=
  skipBlanks_of_head fun _ h => head_skipBlanks h

theorem reverse_dropEndBlanks (cs : List Char) :
    (dropEndBlanks cs).reverse = skipBlanks cs.reverse := by
  simp [dropEndBlanks, skipBlanks]

theorem dropEndBlanks_dropEndBlanks (cs : List Char) :
    dropEndBlanks (dropEndBlanks cs) = dropEndBlanks cs := by
  rw [← List.reverse_inj, reverse_dropEndBlanks, reverse_dropEndBlanks, skipBlanks_skipBlanks]

/-- Blanks dropped at the end leave the front as it was, unless nothing is left. -/
theorem head_dropEndBlanks {cs : List Char} {c : Char}
    (h : (dropEndBlanks cs).head? = some c) : cs.head? = some c := by
  obtain ⟨rest, hrest⟩ : (cs.reverse.dropWhile isBlank) <:+ cs.reverse := List.dropWhile_suffix _
  have split : cs = dropEndBlanks cs ++ rest.reverse := by
    rw [dropEndBlanks, ← List.reverse_append, hrest, List.reverse_reverse]
  rw [split, List.head?_append, h]
  rfl

theorem toList_trim (s : String) : (trim s).toList = trimmed s.toList :=
  String.toList_ofList

theorem trimmed_trimmed (cs : List Char) : trimmed (trimmed cs) = trimmed cs := by
  have front : skipBlanks (trimmed cs) = trimmed cs :=
    skipBlanks_of_head fun _ h => head_skipBlanks (head_dropEndBlanks h)
  rw [trimmed, front, trimmed, dropEndBlanks_dropEndBlanks]

@[simp]
theorem trim_trim (s : String) : trim (trim s) = trim s := by
  simp [trim, trimmed_trimmed]

end SupplierSwitch.Text
