/-
What a schema has read when it found nothing wrong.

A good value came from a record without unknown fields, and each of its fields was read
from the value that the record gives.
-/
import UsageLedger.Schema.Field

namespace UsageLedger

theorem Validated.toExcept_eq_ok {α : Type} {x : Validated α} {a : α} :
    x.toExcept = .ok a ↔ x = .valid a := by
  cases x <;> simp [toExcept]

theorem Validated.map_eq_valid_iff {α β : Type} {f : α → β} {x : Validated α} {b : β} :
    f <$> x = .valid b ↔ ∃ a, x = .valid a ∧ f a = b := by
  cases x <;> simp

theorem Validated.under_eq_valid_iff {α : Type} {steps : List PathStep} {x : Validated α} {a : α} :
    x.under steps = .valid a ↔ x = .valid a := by
  cases x <;> simp [under]

namespace Schema

theorem shape_valid {α : Type} {name : String} {fields : List FieldName}
    {build : Record → Validated α} {v : Value} {a : α} (h : shape name fields build v = .valid a) :
    ∃ r, v = .record r ∧ build r = .valid a ∧ unknownFields fields r = [] := by
  unfold shape at h
  split at h
  · obtain ⟨hbuild, hunknown⟩ := Validated.also_eq_valid_iff.mp h
    exact ⟨_, rfl, hbuild, hunknown⟩
  · cases h

theorem atField_valid {α : Type} {spelling : String} {read : Value → Except SchemaDefect α}
    {v : Value} {a : α} (h : atField spelling read v = .valid a) : read v = .ok a := by
  unfold atField at h
  split at h
  · next heq =>
      cases h
      exact heq
  · cases h

/-- A field that is given under its name on the wire is read from there. -/
theorem required_valid {α : Type} {field : FieldName} {read : Value → Except SchemaDefect α}
    {r : Record} {v : Value} {a : α} (hv : r.get? field.wire = some v)
    (h : required field read r = .valid a) : read v = .ok a := by
  unfold required FieldName.find? at h
  rw [hv] at h
  exact atField_valid h

section Given

variable {α : Type} {field : FieldName} {r : Record} {v : Value} {a : α}

theorem required_of_get? {read : Value → Except SchemaDefect α} (hv : r.get? field.wire = some v)
    (h : read v = .ok a) : required field read r = .valid a := by
  unfold required FieldName.find?
  rw [hv]
  simp only [atField, h]

theorem requiredShape_of_get? {check : Value → Validated α} (hv : r.get? field.wire = some v)
    (h : check v = .valid a) : requiredShape field check r = .valid a := by
  unfold requiredShape FieldName.find?
  rw [hv]
  simp only [h, Validated.under]

theorem defaulted_of_get? {default : α} {read : Value → Except SchemaDefect α}
    (hv : r.get? field.wire = some v) (h : read v = .ok a) :
    defaulted field default read r = .valid a := by
  unfold defaulted FieldName.find?
  rw [hv]
  simp only [atField, h]

end Given

/-- A field that was read was read from some value. -/
theorem exists_of_required {α : Type} {field : FieldName} {read : Value → Except SchemaDefect α}
    {r : Record} {a : α} (h : required field read r = .valid a) : ∃ v, read v = .ok a := by
  unfold required at h
  split at h
  · exact ⟨_, atField_valid h⟩
  · cases h

/-- A shape that was read was read from some value. -/
theorem exists_of_requiredShape {α : Type} {field : FieldName} {check : Value → Validated α}
    {r : Record} {a : α} (h : requiredShape field check r = .valid a) :
    ∃ v, check v = .valid a := by
  unfold requiredShape at h
  split at h
  · exact ⟨_, Validated.under_eq_valid_iff.mp h⟩
  · cases h

/-- A text within limits is read again within them. -/
theorem readTextWithin_text {least most : Nat} {v : Value} {s : String}
    (h : readTextWithin least most v = .ok s) : readTextWithin least most (.text s) = .ok s := by
  unfold readTextWithin at h
  cases hread : readCharacters v with
  | error defect =>
      rw [hread] at h
      cases h
  | ok s' =>
      rw [hread] at h
      change (if s'.length < least then _ else if most < s'.length then _ else _) = _ at h
      obtain rfl : s' = s := by
        split at h
        · cases h
        · split at h <;> cases h
          rfl
      exact h

end Schema

end UsageLedger
