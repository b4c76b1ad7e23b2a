/-
The amount of a payment that was checked.

The amount is looked at twice: as it was submitted, where it has to be above zero, and
as the schema reads it, which is the number that is stored.  Both look under the same
name, because a record with an amount under another name has none under this one.
-/
import Mathlib.Algebra.Order.Ring.Unbundled.Rat
import UsageLedger.Ledger.Ingest
import UsageLedger.Proofs.Outcome
import UsageLedger.Proofs.Intake.Aggregation
import UsageLedger.Proofs.Number.Range
import UsageLedger.Proofs.Schema.Field

namespace UsageLedger

theorem scaleTwo_eq_zero {m e : Int} : scaleTwo m e = 0 ↔ m = 0 := by
  unfold scaleTwo
  by_cases he : 0 ≤ e
  · have hpow : ((Nat.pow 2 e.toNat : Nat) : Int) ≠ 0 := by
      exact_mod_cast (Nat.two_pow_pos e.toNat).ne'
    rw [if_pos he, Rat.intCast_eq_zero_iff, Int.mul_eq_zero]
    exact or_iff_left hpow
  · rw [if_neg he]
    simp [Rat.mkRat_eq_zero]

namespace Ingest

open Schema

/-- A double that is read as a whole number compares as it does. -/
theorem readIntegerFloat_ok {x : Binary64} {n : Int} (h : readIntegerFloat x = .ok n) :
    x.isFinite = true ∧ (∀ bound : Int, x.isGe bound = decide (bound ≤ n) ∧
      x.isLe bound = decide (n ≤ bound)) ∧ x.isZero = decide (n = 0) ∧
      Intake.fitsInt64 n = true := by
  cases x with
  | nan | infinity _ => cases h
  | finite negative mantissa exponent =>
      unfold readIntegerFloat at h
      simp only [Binary64.toRat?] at h
      split at h
      · cases h
      next hden =>
      split at h <;> cases h
      next hfits =>
      have hvalue := Rat.coe_int_num_of_den_eq_one (not_not.mp hden)
      refine ⟨rfl, fun bound => ?_, ?_, ?_⟩
      · unfold Binary64.isGe Binary64.isLe
        dsimp only
        rw [← hvalue]
        exact ⟨decide_eq_decide.mpr Rat.intCast_le_intCast,
          decide_eq_decide.mpr Rat.intCast_le_intCast⟩
      · rw [Binary64.isZero, Bool.beq_eq_decide_eq, decide_eq_decide, Rat.num_eq_zero,
          scaleTwo_eq_zero]
        cases negative <;> simp [Text.signed]
      · refine Bool.and_eq_true_iff.mpr ⟨decide_eq_true ?_, decide_eq_true ?_⟩
        · unfold Intake.int64Min
          omega
        · unfold Intake.int64Max
          omega

/-- The value is a number as it is given: neither a text nor an exact decimal is. -/
def IsNumber : Value → Prop
  | .int _ | .float _ => True
  | _ => False

/-- A number is above zero when what is read of it is. -/
theorem isPositive_iff {v : Value} {n : Int} (hv : IsNumber v) (h : readInteger v = .ok n) :
    isPositive v = true ↔ 0 < n := by
  cases v with
  | int m =>
      cases h
      exact decide_eq_true_iff
  | float x =>
      obtain ⟨-, hcompare, hzero, -⟩ := readIntegerFloat_ok h
      have hge := (hcompare 0).1
      rw [Int.cast_zero] at hge
      rw [isPositive, hge, hzero, ← decide_not, ← Bool.decide_and, decide_eq_true_iff]
      omega
  | _ => cases hv

theorem requireInt64_number_iff {v : Value} {n : Int} (hv : IsNumber v)
    (h : readInteger v = .ok n) {field label : String} :
    Intake.requireInt64 v field label = .ok () ↔ Intake.fitsInt64 n = true := by
  cases v with
  | int m =>
      cases h
      exact ⟨Intake.requireInt64_int, fun hfits => Intake.requireInt64_of_fits hfits _ _⟩
  | float x =>
      obtain ⟨-, hcompare, -, hfits⟩ := readIntegerFloat_ok h
      have hwithin : Intake.withinInt64 (.float x) = .ok true := by
        rw [Intake.withinInt64, (hcompare _).1, (hcompare _).2]
        exact congrArg Except.ok hfits
      refine iff_of_true ?_ hfits
      unfold Intake.requireInt64
      rw [hwithin]
      rfl
  | _ => cases hv

/-- The amount of a checked payment is a number as it was submitted, above zero. -/
theorem isNumber_of_checkCredit {record : Record} (h : checkCredit record = .ok ()) :
    IsNumber (submittedCredit record) := by
  obtain ⟨_, hsize, -⟩ := bind_eq_ok.mp h
  cases hamount : submittedCredit record with
  | int n => trivial
  | float x => trivial
  | _ =>
      rw [hamount] at hsize
      cases hsize

theorem isPositive_of_checkCredit {record : Record} (h : checkCredit record = .ok ()) :
    isPositive (submittedCredit record) = true := by
  obtain ⟨_, -, h⟩ := bind_eq_ok.mp h
  cases hsign : isPositive (submittedCredit record) with
  | true => rfl
  | false =>
      rw [hsign] at h
      cases h

theorem fits_of_checkCredit {record : Record} {n : Int}
    (hread : readInteger (submittedCredit record) = .ok n) (h : checkCredit record = .ok ()) :
    Intake.fitsInt64 n = true := by
  have hpos := isPositive_of_checkCredit h
  have hnumber := isNumber_of_checkCredit h
  unfold checkCredit at h
  dsimp only at h
  obtain ⟨_, -, h⟩ := bind_eq_ok.mp h
  rw [hpos] at h
  exact (requireInt64_number_iff hnumber hread).mp h

/-- Every number of a column has a double. -/
theorem checkCreditSize_of_fits {n : Int} (h : Intake.fitsInt64 n = true) :
    checkCreditSize (.int n) = .ok () := by
  have hsome : Binary64.ofInt? n ≠ none := by
    rw [Ne, Binary64.ofInt?_eq_none, not_le]
    have hsmall : n.natAbs ≤ 2 ^ 63 := by
      simp only [Intake.fitsInt64, Bool.and_eq_true, decide_eq_true_eq] at h
      unfold Intake.int64Min Intake.int64Max at h
      omega
    exact hsmall.trans_lt (by decide +kernel)
  unfold checkCreditSize
  cases hdouble : Binary64.ofInt? n with
  | none => exact absurd hdouble hsome
  | some x => simp only [hdouble]

/-- A number that is read as one above zero and fits its column is an amount. -/
theorem checkCredit_of_number {record : Record} {n : Int}
    (hnumber : IsNumber (submittedCredit record))
    (hread : readInteger (submittedCredit record) = .ok n) (hpos : 0 < n)
    (hfits : Intake.fitsInt64 n = true) : checkCredit record = .ok () := by
  have hsize : checkCreditSize (submittedCredit record) = .ok () := by
    cases hamount : submittedCredit record with
    | int m =>
        rw [hamount] at hread
        cases hread
        exact checkCreditSize_of_fits hfits
    | float x =>
        rw [hamount] at hread
        exact if_pos (readIntegerFloat_ok hread).1
    | _ => rw [hamount] at hnumber; cases hnumber
  unfold checkCredit
  dsimp only
  rw [hsize, (isPositive_iff hnumber hread).mpr hpos]
  exact (requireInt64_number_iff hnumber hread).mpr hfits

theorem parsePayload_ok {α : Type} {check : Value → Validated α} {record : Record} {label : String}
    {a : α} (h : Raised.ofFailure (Intake.parsePayload check record label) = .ok a) :
    check (record.get Intake.dataKey) = .valid a := by
  have hparsed := mapError_eq_ok.mp h
  unfold Intake.parsePayload at hparsed
  dsimp only at hparsed
  split at hparsed
  · cases hparsed
  · exact Validated.toExcept_eq_ok.mp (mapError_eq_ok.mp hparsed)

theorem parsePayload_of_valid {α : Type} {check : Value → Validated α} {record r : Record} {a : α}
    (hr : record.get Intake.dataKey = .record r) (h : check (.record r) = .valid a)
    (label : String) :
    Raised.ofFailure (Intake.parsePayload check record label) = .ok a := by
  unfold Intake.parsePayload Raised.ofFailure
  rw [hr]
  dsimp only
  rw [h]
  rfl

/-- What a checked SDK call says. -/
theorem checkSdkCall_ok {scheme : IdScheme} {record : Record} {user : UserId} {data : SdkCallData}
    (h : checkSdkCall scheme record = .ok (user, data)) :
    Intake.requireUser scheme record EventKind.sdkCall.name = .ok user ∧
      SdkCallData.ofValue (record.get Intake.dataKey) = .valid data ∧
      Intake.requireInt64 (.int data.debitAmount) "debitAmount" EventKind.sdkCall.name
        = .ok () := by
  obtain ⟨_, huser, h⟩ := bind_eq_ok.mp h
  obtain ⟨_, hdata, h⟩ := bind_eq_ok.mp h
  obtain ⟨_, hcolumn, h⟩ := bind_eq_ok.mp h
  cases h
  exact ⟨mapError_eq_ok.mp huser, parsePayload_ok hdata, hcolumn⟩

/-- What a checked payment says. -/
theorem checkPayment_ok {scheme : IdScheme} {record : Record} {user : UserId} {data : PaymentData}
    (h : checkPayment scheme record = .ok (user, data)) :
    Intake.requireUser scheme record EventKind.payment.name = .ok user ∧
      checkCredit record = .ok () ∧
      PaymentData.ofValue (record.get Intake.dataKey) = .valid data := by
  obtain ⟨_, huser, h⟩ := bind_eq_ok.mp h
  obtain ⟨_, hcredit, h⟩ := bind_eq_ok.mp h
  obtain ⟨_, hdata, h⟩ := bind_eq_ok.mp h
  cases h
  exact ⟨mapError_eq_ok.mp huser, hcredit, parsePayload_ok hdata⟩

/-- What a checked grant of a key says. -/
theorem checkKeyGrant_ok {record : Record} {data : KeyGrantData}
    (h : checkKeyGrant record = .ok data) :
    KeyGrantData.ofValue (record.get Intake.dataKey) = .valid data ∧
      data.name.isBlank = false ∧ data.key.isBlank = false := by
  obtain ⟨_, hparsed, h⟩ := bind_eq_ok.mp h
  split at h
  · cases h
  · next hname =>
      split at h
      · cases h
      · next hkey =>
          cases h
          exact ⟨parsePayload_ok (mapError_eq_ok.mpr hparsed), by simpa using hname,
            by simpa using hkey⟩

/-- What is submitted as an amount is what the schema reads as one. -/
theorem readInteger_submittedCredit {record : Record} {data : PaymentData}
    (hdata : PaymentData.ofValue (record.get Intake.dataKey) = .valid data)
    (hnumber : IsNumber (submittedCredit record)) :
    readInteger (submittedCredit record) = .ok data.creditAmount := by
  obtain ⟨r, hr, hbuild, -⟩ := shape_valid hdata
  rw [submittedCredit, hr] at hnumber ⊢
  cases hfield : Record.get? r "creditAmount" with
  | none =>
      simp only [Record.get, hfield] at hnumber
      cases hnumber
  | some v =>
      simp only [Record.get, hfield]
      cases hread : required PaymentData.creditAmountField readInteger r with
      | invalid violations =>
          rw [hread] at hbuild
          cases hbuild
      | valid n =>
          rw [hread] at hbuild
          cases hbuild
          exact required_valid hfield hread

/-- The amount of an accepted payment is above zero. -/
theorem checkPayment_pos {scheme : IdScheme} {record : Record} {user : UserId} {data : PaymentData}
    (h : checkPayment scheme record = .ok (user, data)) : 0 < data.creditAmount := by
  obtain ⟨-, hcredit, hdata⟩ := checkPayment_ok h
  have hpos := isPositive_of_checkCredit hcredit
  have hnumber := isNumber_of_checkCredit hcredit
  exact (isPositive_iff hnumber (readInteger_submittedCredit hdata hnumber)).mp hpos

end Ingest

end UsageLedger
