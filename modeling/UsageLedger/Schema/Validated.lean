/-
Checks that collect every violation.

A `Validated` is either a good value or all the violations found on the way to it.
Sequencing two checks runs both and keeps the violations of both, in order; that is
what tells it from a computation that stops at the first error.
-/
import UsageLedger.Schema.Violation

namespace UsageLedger

/-- A value that passed its checks, or everything that is wrong with it. -/
inductive Validated (α : Type) where
  | valid (value : α)
  | invalid (violations : List Violation)
  deriving Repr

namespace Validated

variable {α β : Type}

/-- The violations found; none when the value is good. -/
def violations : Validated α → List Violation
  | valid _ => []
  | invalid vs => vs

/-- Applies a function to a good value. -/
def map (f : α → β) : Validated α → Validated β
  | valid a => valid (f a)
  | invalid vs => invalid vs

/-- Runs two checks and keeps the violations of both. -/
def seq (f : Validated (α → β)) (x : Validated α) : Validated β :=
  match f, x with
  | valid g, valid a => valid (g a)
  | valid _, invalid vs => invalid vs
  | invalid vs, valid _ => invalid vs
  | invalid vs, invalid ws => invalid (vs ++ ws)

/-- Adds violations found elsewhere. -/
def also (x : Validated α) (more : List Violation) : Validated α :=
  match x, more with
  | valid a, [] => valid a
  | valid _, vs => invalid vs
  | invalid vs, ws => invalid (vs ++ ws)

/-- Every violation seen from outside. -/
def under (steps : List PathStep) : Validated α → Validated α
  | valid a => valid a
  | invalid vs => invalid (vs.map (Violation.under steps))

/-- The good value, or the violations as an error. -/
def toExcept : Validated α → Except (List Violation) α
  | valid a => .ok a
  | invalid vs => .error vs

instance : Functor Validated where
  map := map

instance : Applicative Validated where
  pure := valid
  seq f x := seq f (x ())

@[simp] theorem map_valid (f : α → β) (a : α) : f <$> valid a = valid (f a) := rfl

@[simp] theorem map_invalid (f : α → β) (vs : List Violation) :
    f <$> (invalid vs : Validated α) = invalid vs := rfl

@[simp] theorem seq_valid (g : α → β) (a : α) : valid g <*> valid a = valid (g a) := rfl

/-- Two checks pass together exactly when each passes. -/
theorem seq_eq_valid_iff {f : Validated (α → β)} {x : Validated α} {b : β} :
    f <*> x = valid b ↔ ∃ g a, f = valid g ∧ x = valid a ∧ g a = b := by
  cases f <;> cases x <;> simp [Seq.seq, seq]

/-- Nothing is added to a good value exactly when it stays good. -/
theorem also_eq_valid_iff {x : Validated α} {vs : List Violation} {a : α} :
    x.also vs = valid a ↔ x = valid a ∧ vs = [] := by
  cases x <;> cases vs <;> simp [also]

end Validated

end UsageLedger
