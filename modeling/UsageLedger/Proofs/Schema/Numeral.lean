/-
Numbers that are read can be written out.

Whole numbers of more than `Text.maxDigits` digits are not written out, which would be a
fault.  A text of more digits is not read as a number either, and a double of a whole
number is only read within 64 bits.  So the numbers that a schema reads from a value can
be written out when those that stand in the value as numbers can (`Value.Printable`,
`readInteger_printable`).
-/
import Mathlib.Algebra.Order.Ring.Nat
import Mathlib.Data.List.TakeWhile
import UsageLedger.Fault
import UsageLedger.Proofs.Outcome
import UsageLedger.Proofs.Schema.Field

namespace UsageLedger

/-! ### Values that can be written out -/

theorem Text.isWritable_of_lt {n : Int} (h : n.natAbs < 10 ^ maxDigits) : isWritable n = true := by
  rw [isWritable, Nat.pow_eq, decide_eq_true h]

theorem Fault.checkLength_int {n : Int} (h : n.natAbs < 10 ^ Text.maxDigits) :
    checkLength (.int n) = .ok () := by
  rw [checkLength, if_pos (Text.isWritable_of_lt h)]

namespace Value

mutual

/-- Every whole number in the value can be written out, also one that stands as a decimal. -/
def Printable : Value → Prop
  | int n => n.natAbs < 10 ^ Text.maxDigits
  | decimal d => ∀ n, d.toInt? = some n → n.natAbs < 10 ^ Text.maxDigits
  | list items => PrintableItems items
  | record fields => PrintableFields fields
  | object _ _ _ wire => PrintableFields wire
  | _ => True

/-- The items can be written out. -/
def PrintableItems : List Value → Prop
  | [] => True
  | v :: rest => v.Printable ∧ PrintableItems rest

/-- The values of fields can be written out. -/
def PrintableFields : List (String × Value) → Prop
  | [] => True
  | (_, v) :: rest => v.Printable ∧ PrintableFields rest

end

theorem PrintableFields.of_get? {r : Record} {name : String} {v : Value}
    (h : PrintableFields r) (hv : r.get? name = some v) : v.Printable := by
  induction r with
  | nil => cases hv
  | cons field r ih =>
      obtain ⟨given, value⟩ := field
      obtain ⟨hvalue, hrest⟩ := h
      unfold Record.get? at hv
      rw [List.lookup_cons] at hv
      split at hv
      · cases hv
        exact hvalue
      · exact ih hrest hv

/-- What stands under a name in a record can be written out when the record can. -/
theorem PrintableFields.get {r : Record} (h : PrintableFields r) (name : String) :
    (r.get name).Printable := by
  unfold Record.get
  cases hv : r.get? name with
  | none => exact trivial
  | some v => exact h.of_get? hv

end Value

/-! ### Digits -/

namespace Text

theorem asciiDigit?_lt {c : Char} {d : Nat} (h : asciiDigit? c = some d) : d < 10 := by
  unfold asciiDigit? at h
  split at h
  · next hrange =>
      cases h
      have hle : c.toNat ≤ 57 := hrange.2
      omega
  · cases h

/-- Digits denote a number of no more digits. -/
theorem ofDigits_lt {ds : List Nat} (h : ∀ d ∈ ds, d < 10) : ofDigits 10 ds < 10 ^ ds.length := by
  have hfold : ∀ n, ds.foldl (fun n d => 10 * n + d) n < (n + 1) * 10 ^ ds.length := by
    induction ds with
    | nil => simp
    | cons d ds ih =>
        intro n
        rw [List.forall_mem_cons] at h
        rw [List.foldl_cons, List.length_cons]
        calc ds.foldl (fun n d => 10 * n + d) (10 * n + d)
            < (10 * n + d + 1) * 10 ^ ds.length := ih h.2 _
          _ ≤ ((n + 1) * 10) * 10 ^ ds.length := Nat.mul_le_mul_right _ (by omega)
          _ = (n + 1) * 10 ^ (ds.length + 1) := by rw [Nat.pow_succ', Nat.mul_assoc]
  simpa [ofDigits] using hfold 0

theorem natAbs_signed (negative : Bool) (n : Nat) : (signed negative n).natAbs = n := by
  cases negative <;> simp [signed]

end Text

theorem Decimal.leadingDigits_all {text : List Char} {ds : List Nat}
    (h : leadingDigits text = (ds, [])) :
    List.Forall₂ (fun c d => Text.asciiDigit? c = some d) text ds := by
  induction text generalizing ds with
  | nil =>
      cases h
      exact .nil
  | cons c rest ih =>
      unfold leadingDigits at h
      cases hdigit : Text.asciiDigit? c with
      | none =>
          rw [hdigit] at h
          cases h
      | some d =>
          rw [hdigit] at h
          obtain ⟨hds, hmore⟩ := Prod.mk.inj h
          subst hds
          exact .cons hdigit (ih (Prod.ext rfl hmore))

/-! ### Numerals -/

namespace Schema

variable {text : List Char} {n : Int}

/-- A text of digits that does not begin with a zero is too long when it has too many of them. -/
theorem isOversized_digits {ds : List Nat} {d : Nat}
    (hdigits : List.Forall₂ (fun c d => Text.asciiDigit? c = some d) (splitMinus text).2 (d :: ds))
    (hd : d ≠ 0) (hlong : isOversized text = false) : (d :: ds).length ≤ Text.maxDigits := by
  unfold isOversized at hlong
  generalize (splitMinus text).2 = rest at hdigits hlong
  have hspan : rest.takeWhile (fun c => (Text.asciiDigit? c).isSome) = rest := by
    rw [List.takeWhile_eq_self_iff]
    intro c hc
    obtain ⟨d, -, hdigit⟩ := exists_of_mem_forall₂ hdigits.flip hc
    rw [hdigit]
    rfl
  cases hdigits with
  | @cons c _ rest _ hdigit hrest =>
      have hleading : isLeadingDigit c = true := by
        unfold Text.asciiDigit? at hdigit
        split at hdigit
        · next hrange =>
            cases hdigit
            have hlow : '1' ≤ c := by
              show 49 ≤ c.toNat
              omega
            simp only [isLeadingDigit, hlow, hrange.2, decide_true, Bool.and_self]
        · cases hdigit
      dsimp only at hlong
      rw [hspan, List.head?_cons, Option.map_some, hleading, Option.getD_some,
        Bool.true_and] at hlong
      rw [List.length_cons, ← hrest.length_eq]
      exact not_lt.mp (of_decide_eq_false hlong)

/-- A plain numeral that is not too long denotes a number that can be written out. -/
theorem readPlainNumeral?_lt (hlong : isOversized text = false)
    (h : readPlainNumeral? text = some n) : n.natAbs < 10 ^ Text.maxDigits := by
  obtain ⟨m, hm, rfl⟩ := Option.map_eq_some_iff.mp h
  rw [Text.natAbs_signed]
  have hlt : ∀ {ds : List Nat}, Decimal.leadingDigits (splitMinus text).2 = (ds, []) →
      ∀ d ∈ ds, d < 10 := by
    intro ds hds d hd
    obtain ⟨c, -, hdigit⟩ := exists_of_mem_forall₂ (Decimal.leadingDigits_all hds) hd
    exact Text.asciiDigit?_lt hdigit
  unfold readPlainMagnitude? at hm
  split at hm
  · next hds =>
      cases hm
      have hdigit : m < 10 := hlt hds m (List.mem_singleton_self m)
      have hone : 10 ^ 1 ≤ 10 ^ Text.maxDigits := Nat.pow_le_pow_right (by decide) (by decide)
      omega
  · next d ds _ hds =>
      split at hm
      · cases hm
      · next hd =>
          cases hm
          refine (Text.ofDigits_lt (hlt hds)).trans_le (Nat.pow_le_pow_right (by decide) ?_)
          exact isOversized_digits (Decimal.leadingDigits_all hds) hd hlong
  · cases hm

theorem readIntegerText_lt {s : String} (h : readIntegerText s = .ok n) :
    n.natAbs < 10 ^ Text.maxDigits := by
  unfold readIntegerText at h
  dsimp only at h
  split at h
  · cases h
  next hgiven =>
  split at h
  · next hread =>
      cases h
      exact readPlainNumeral?_lt (Bool.eq_false_iff.mpr hgiven) hread
  split at h
  · cases h
  split at h
  · cases h
  next htidy =>
  split at h
  · next hread =>
      cases h
      exact readPlainNumeral?_lt (Bool.eq_false_iff.mpr htidy) hread
  · cases h

/-- **A number that is read from a value can be written out when the value can.** -/
theorem readInteger_printable {v : Value} (hv : v.Printable) (h : readInteger v = .ok n) :
    n.natAbs < 10 ^ Text.maxDigits := by
  cases v with
  | int m =>
      cases h
      exact hv
  | float x =>
      have hread : readIntegerFloat x = .ok n := h
      unfold readIntegerFloat at hread
      split at hread
      · cases hread
      split at hread
      · cases hread
      split at hread
      · next hbounds =>
          cases hread
          have hsize : 10 ^ 19 ≤ 10 ^ Text.maxDigits := Nat.pow_le_pow_right (by decide) (by decide)
          refine Nat.lt_of_lt_of_le ?_ hsize
          omega
      · cases hread
  | decimal d =>
      have hread : readIntegerDecimal d = .ok n := h
      unfold readIntegerDecimal at hread
      split at hread
      · cases hread
      split at hread
      · next hint =>
          cases hread
          exact hv n hint
      · cases hread
  | text s => exact readIntegerText_lt h
  | bytes b =>
      unfold readInteger at h
      dsimp only at h
      split at h
      · exact readIntegerText_lt h
      · cases h
  | _ => cases h

/-- A whole number that is required of a record can be written out when the record can. -/
theorem required_printable {field : FieldName} {r : Record} (hr : Value.PrintableFields r)
    (h : required field readInteger r = .valid n) : n.natAbs < 10 ^ Text.maxDigits := by
  unfold required at h
  split at h
  · next spelling v hfound =>
      refine readInteger_printable ?_ (atField_valid h)
      unfold FieldName.find? at hfound
      split at hfound
      · next hwire =>
          cases hfound
          exact hr.of_get? hwire
      · obtain ⟨_, hname, hpair⟩ := Option.map_eq_some_iff.mp hfound
        cases hpair
        exact hr.of_get? hname
  · cases h

end Schema

end UsageLedger
