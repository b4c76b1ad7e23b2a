/-
Whether a refusal can be worded.

A refusal that shows a submitted value is decided first and worded then, and it is only the
wording that can be met by a fault: the value is nested too deeply or holds too long a number.
So what is accepted has nothing to do with it (`resolveKind_eq_ok`, `parseApiKeyId_eq_ok`), and
a fault says that something was refused which cannot be shown (`resolveKind_eq_fault`,
`parseApiKeyId_eq_fault`).  An event whose payload was not checked is met by faults of its own
when it is flattened (`unwrap_eq_fault`).
-/
import UsageLedger.Intake.Checks
import UsageLedger.Intake.Envelope
import UsageLedger.Proofs.Outcome

namespace UsageLedger

namespace Failure

variable {depth : Nat} {f : Failure} {x : Fault}

theorem told_eq_fault : f.told depth = .fault x ↔ f.unwritten? depth = some x := by
  unfold told
  cases f.unwritten? depth <;> simp

end Failure

namespace Intake

/-- No accepted kind stands in the record, and what does cannot be shown. -/
structure UnshownKind (depth : Nat) (record : Record) (accepted : List EventKind) (x : Fault) :
    Prop where
  refused : ∀ kind, acceptedKind record accepted ≠ .ok kind
  unwritten : (record.get Event.typeKey).unwritten? depth = some x

/-- The value names no key, and it cannot be shown. -/
structure UnshownKey (depth : Nat) (v : Value) (x : Fault) : Prop where
  refused : ∀ key, readApiKeyId v ≠ .ok key
  unwritten : v.unwritten? depth = some x

variable {depth : Nat} {record : Record} {accepted : List EventKind} {kind : EventKind}
  {f : Failure} {x : Fault} {v : Value} {key : Option Uuid}

theorem mapError_told_eq_fault {α : Type} {outcome : Except Failure α} :
    outcome.mapError (Failure.told depth) = .error (.fault x) ↔
      ∃ f, outcome = .error f ∧ f.unwritten? depth = some x := by
  cases outcome with
  | ok a => simp [Except.mapError]
  | error f => simp [Except.mapError, Failure.told_eq_fault]

/-! ### Kinds -/

theorem acceptedKind_eq_ok :
    acceptedKind record accepted = .ok kind ↔
      Event.kindOf? (record.get Event.typeKey) = some kind ∧ kind ∈ accepted := by
  unfold acceptedKind
  dsimp only
  cases Event.kindOf? (record.get Event.typeKey) with
  | none => simp
  | some given =>
      by_cases hmem : given ∈ accepted
      · simp only [if_pos hmem, Except.ok.injEq, Option.some.injEq]
        exact ⟨fun h => ⟨h, h ▸ hmem⟩, fun h => h.1⟩
      · simp only [if_neg hmem, reduceCtorEq, Option.some.injEq, false_iff, not_and]
        exact fun h => h ▸ hmem

/-- The refusal of a kind shows what stands in its place. -/
theorem acceptedKind_eq_error (h : acceptedKind record accepted = .error f) :
    f = .unknownEventType (record.get Event.typeKey) none := by
  unfold acceptedKind at h
  dsimp only at h
  cases hkind : Event.kindOf? (record.get Event.typeKey) with
  | none =>
      rw [hkind] at h
      exact (Except.error.inj h).symm
  | some given =>
      rw [hkind] at h
      dsimp only at h
      split at h
      · cases h
      · exact (Except.error.inj h).symm

theorem resolveKind_eq_ok :
    resolveKind depth record accepted = .ok kind ↔ acceptedKind record accepted = .ok kind :=
  mapError_eq_ok

theorem resolveKind_eq_fault : resolveKind depth record accepted = .error (.fault x) ↔
    UnshownKind depth record accepted x := by
  rw [resolveKind, mapError_told_eq_fault]
  cases h : acceptedKind record accepted with
  | ok kind => exact iff_of_false nofun fun hx => hx.refused kind h
  | error f =>
      obtain rfl := acceptedKind_eq_error h
      constructor
      · rintro ⟨f, ⟨⟩, hx⟩
        exact ⟨by simp [h], hx⟩
      · exact fun hx => ⟨_, rfl, hx.unwritten⟩

/-! ### Keys -/

theorem readApiKeyId_eq_error (h : readApiKeyId v = .error f) : f = .invalidApiKeyId v := by
  unfold readApiKeyId at h
  split at h
  · cases h
  · cases h
  · split at h <;> cases h
    rfl

theorem parseApiKeyId_eq_ok : parseApiKeyId depth v = .ok key ↔ readApiKeyId v = .ok key :=
  mapError_eq_ok

theorem parseApiKeyId_eq_fault :
    parseApiKeyId depth v = .error (.fault x) ↔ UnshownKey depth v x := by
  rw [parseApiKeyId, mapError_told_eq_fault]
  cases h : readApiKeyId v with
  | ok key => exact iff_of_false nofun fun hx => hx.refused key h
  | error f =>
      obtain rfl := readApiKeyId_eq_error h
      constructor
      · rintro ⟨f, ⟨⟩, hx⟩
        exact ⟨by simp [h], hx⟩
      · exact fun hx => ⟨_, rfl, hx.unwritten⟩

end Intake

/-! ### Submissions -/

/-- An event whose payload was not checked is met by a fault when it is flattened: by what goes
wrong with its data, unless that says that the data cannot be written, or by its kind, which is
none. -/
inductive Submission.Unflattened : Submission → Fault → Prop
  | data {e fault} : (∀ message, fault ≠ .unserializable message) →
      Unflattened (.untyped e (some fault)) fault
  | kind {e} : e.kind? = none → Unflattened (.untyped e none) e.unknownKind

theorem Intake.unwrap_eq_fault {s : Submission} {x : Fault} :
    unwrap s = .error (.fault x) ↔ s.Unflattened x := by
  constructor
  · intro h
    unfold unwrap at h
    split at h
    · cases h
    · unfold UntypedEvent.flatten at h
      split at h
      · cases h
      · next hdata =>
          cases h
          exact .data hdata
      · split at h <;> cases h
        next hkind => exact .kind hkind
    · split at h <;> cases h
    · cases h
  · rintro (⟨hdata⟩ | ⟨hkind⟩)
    · simp only [unwrap, UntypedEvent.flatten]
    · simp only [unwrap, UntypedEvent.flatten, hkind]

end UsageLedger
