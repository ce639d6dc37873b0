import SupplierSwitch.Json.Reader

namespace SupplierSwitch

/-!
# What readers read

A property of whatever a reader reads is shown field by field: a record is put together from its
fields only, be it read from an object or from an array.

* `Reader.Gives`, `Fields.Gives` — a property of all that a reader, or the fields of a record, give;
* `Fields.Gives.readRecord` — a record has the property that its fields give;
* `Json.readList_ofList` — a list is read back if its items are.
-/

/-- Whatever a reader reads has a property. -/
def Reader.Gives {α : Type} (read : Reader α) (P : α → Prop) : Prop :=
  ∀ j a, read j = .ok a → P a

/-- Whatever is put together from fields has a property. -/
structure Fields.Gives {α : Type} (fields : Fields α) (P : α → Prop) : Prop where
  ofMembers : ∀ find a, fields.ofMembers find = .ok a → P a
  ofItems : ∀ position items a rest, fields.ofItems position items = .ok (a, rest) → P a

/-- A step that succeeded was followed by the next one. -/
theorem bind_ok {ε α β : Type} {x : Except ε α} {f : α → Except ε β} {b : β}
    (h : x >>= f = .ok b) : ∃ a, x = .ok a ∧ f a = .ok b := by
  cases x with
  | error e => cases h
  | ok a => exact ⟨a, rfl, h⟩

variable {α β : Type} {P : α → Prop} {read : Reader α}

namespace Fields.Gives

/-- One more field. -/
theorem seq {fields : Fields (α → β)} {x : Fields α} {Q : β → Prop}
    (h : fields.Gives fun make => ∀ a, P a → Q (make a)) (hx : x.Gives P) :
    (fields <*> x).Gives Q where
  ofMembers find b hb := by
    obtain ⟨make, hmake, hb⟩ := bind_ok hb
    obtain ⟨a, ha, hb⟩ := bind_ok hb
    cases hb
    exact h.ofMembers find make hmake a (hx.ofMembers find a ha)
  ofItems position items b rest hb := by
    obtain ⟨⟨make, more⟩, hmake, hb⟩ := bind_ok hb
    obtain ⟨⟨a, more'⟩, ha, hb⟩ := bind_ok hb
    cases hb
    exact h.ofItems _ _ make _ hmake a (hx.ofItems _ _ a _ ha)

/-- The first field. -/
theorem map {make : α → β} {x : Fields α} {Q : β → Prop} (h : ∀ a, P a → Q (make a))
    (hx : x.Gives P) : (make <$> x).Gives Q := by
  refine seq (⟨fun _ _ hm => ?_, fun _ _ _ _ hm => ?_⟩ :
    (Fields.pure make).Gives fun make => ∀ a, P a → Q (make a)) hx
  · cases hm
    exact h
  · cases hm
    exact h

theorem field {name : String} {absent : Except ReadError α} {ended : Option α}
    (h : read.Gives P) (missing : ∀ a, absent = .ok a → P a) (short : ∀ a, ended = some a → P a) :
    (Fields.field name read absent ended).Gives P where
  ofMembers find a ha := by
    simp only [Fields.field] at ha
    split at ha
    · exact h _ a ha
    · exact missing a ha
  ofItems position items a rest ha := by
    simp only [Fields.field] at ha
    split at ha
    · split at ha
      · rename_i ha'
        cases ha
        exact h _ a ha'
      · cases ha
    · split at ha
      · cases ha
        exact short a rfl
      · cases ha

theorem required {name : String} (h : read.Gives P) : (Fields.required name read).Gives P :=
  field h (by rintro a ⟨⟩) (by rintro a ⟨⟩)

/-- A field about which nothing is said. -/
theorem any (fields : Fields α) : fields.Gives fun _ => True :=
  ⟨fun _ _ _ => trivial, fun _ _ _ _ _ => trivial⟩

/-- A record has the property that its fields give. -/
theorem readRecord {name : String} {fields : Fields α} (h : fields.Gives P) :
    (Json.readRecord name fields : Reader α).Gives P := by
  intro j a ha
  simp only [Json.readRecord, Json.readFields] at ha
  split at ha
  · obtain ⟨_, -, ha⟩ := bind_ok ha
    exact h.ofMembers _ a ha
  · split at ha
    · rename_i items
      cases ha
      exact h.ofItems _ _ a _ items
    all_goals cases ha
  · cases ha

end Fields.Gives

namespace Json

/-- A list has a property of each of its items. -/
theorem readList_gives (h : read.Gives P) :
    (readList read : Reader (List α)).Gives fun as => ∀ a ∈ as, P a := by
  intro j as has
  cases j with
  | array items =>
    simp only [readList] at has
    induction items generalizing as with
    | nil =>
      cases has
      simp
    | cons item items ih =>
      rw [List.mapM_cons] at has
      obtain ⟨a, ha, has⟩ := bind_ok has
      obtain ⟨rest, hrest, has⟩ := bind_ok has
      cases has
      exact List.forall_mem_cons.mpr ⟨h item a ha, ih rest hrest⟩
  | _ => cases has

/-- A list is read back if its items are. -/
theorem readList_ofList {write : α → Json} {as : List α}
    (h : ∀ a ∈ as, read (write a) = .ok a) : readList read (ofList write as) = .ok as := by
  simp only [readList, ofList]
  induction as with
  | nil => rfl
  | cons a as ih =>
    obtain ⟨first, rest⟩ := List.forall_mem_cons.mp h
    rw [List.map_cons, List.mapM_cons, first, ih rest]
    rfl

/-- A value that may be missing is read back if it is never null. -/
theorem readOptional_ofOption {write : α → Json} (h : ∀ a, read (write a) = .ok a)
    (present : ∀ a, write a ≠ .null) (o : Option α) :
    readOptional read (ofOption write o) = .ok o := by
  cases o with
  | none => rfl
  | some a =>
    rw [ofOption, readOptional, h]
    · rfl
    · exact present a

end Json

end SupplierSwitch
