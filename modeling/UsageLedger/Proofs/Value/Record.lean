/-
Setting one name of a record leaves the others alone.

A record may give a name more than once, and setting the name sets it everywhere, so the
first value under it is the one that was set.
-/
import UsageLedger.Value

namespace UsageLedger.Record

variable {r : Record} {name other : String} {v : Value}

theorem get?_cons (field : String × Value) (r : Record) (name : String) :
    Record.get? (field :: r) name
      = if name = field.1 then some field.2 else Record.get? r name := by
  unfold get?
  by_cases hname : name = field.1
  · rw [if_pos hname, List.lookup_cons, hname, beq_self_eq_true]
  · rw [if_neg hname, List.lookup_cons, beq_false_of_ne hname]

theorem get?_of_get (h : r.get name = v) (hv : v ≠ .null) : r.get? name = some v := by
  unfold get at h
  cases hget : r.get? name with
  | none =>
      rw [hget] at h
      exact absurd h.symm hv
  | some w =>
      rw [hget] at h
      exact congrArg some h

/-- The value that was set is the one that counts. -/
theorem get?_set_self : (r.set name v).get? name = some v := by
  have hmap : ∀ r : Record, r.has name = true →
      Record.get? (r.map fun field => if field.1 = name then (name, v) else field) name
        = some v := by
    intro r
    induction r with
    | nil => intro h; cases h
    | cons field r ih =>
        intro h
        rw [List.map_cons, get?_cons]
        by_cases hname : field.1 = name
        · rw [if_pos hname, if_pos rfl]
        · rw [if_neg hname, if_neg (Ne.symm hname)]
          apply ih
          rwa [has, get?_cons, if_neg (Ne.symm hname)] at h
  unfold set
  by_cases h : r.has name = true
  · rw [if_pos h]
    exact hmap r h
  · have hnone : List.lookup name r = none := Option.not_isSome_iff_eq_none.mp h
    rw [if_neg h, get?, List.lookup_append, hnone, Option.none_or, List.lookup_cons_self]

theorem get?_set_of_ne (h : other ≠ name) : (r.set name v).get? other = r.get? other := by
  have hmap : ∀ r : Record,
      Record.get? (r.map fun field => if field.1 = name then (name, v) else field) other
        = r.get? other := by
    intro r
    induction r with
    | nil => rfl
    | cons field r ih =>
        rw [List.map_cons, get?_cons, get?_cons, ih]
        by_cases hname : field.1 = name
        · rw [if_pos hname, if_neg h, if_neg (hname ▸ h)]
        · rw [if_neg hname]
  unfold set
  by_cases hhas : r.has name = true
  · rw [if_pos hhas]
    exact hmap r
  · have hlast : List.lookup other [(name, v)] = none := by
      show Record.get? [(name, v)] other = none
      rw [get?_cons, if_neg h]
      rfl
    rw [if_neg hhas, get?, List.lookup_append, hlast, Option.or_none]
    rfl

theorem get_set_self : (r.set name v).get name = v := by rw [get, get?_set_self]; rfl

theorem get_set_of_ne (h : other ≠ name) : (r.set name v).get other = r.get other := by
  rw [get, get?_set_of_ne h]
  rfl

end UsageLedger.Record
