/-
Checks of what was submitted.

A fault inside a transaction or a query becomes a failure, so a fault can only get out of a
call through its checks, which stand before the transaction.  They read every field into
what they want or refuse it (`Refuses`), and the numbers that they would have to write out
in a refusal are not too long (`required_printable`).  The one check that is met by a fault
is that of the amount of a payment, which is compared with doubles: a whole number that has
no double is no refusal but an overflow (`checkPayment_fault`).
-/
import UsageLedger.Proofs.Ledger.Accepted
import UsageLedger.Proofs.Ledger.Billing
import UsageLedger.Proofs.Ledger.Credit
import UsageLedger.Proofs.Ledger.Pricing
import UsageLedger.Proofs.Number.Range
import UsageLedger.Proofs.Schema.Numeral

namespace UsageLedger

/-! ### Outcomes without faults -/

/-- The outcome is good or a refusal. -/
def Refuses {α : Type} (x : Except Raised α) : Prop := ∀ fault, x ≠ .error (.fault fault)

namespace Refuses

variable {α β : Type} {t : Tables}

theorem ok (a : α) : Refuses (.ok a : Except Raised α) := nofun

theorem refuse (f : Failure) : Refuses (Raised.refuse f : Except Raised α) := nofun

theorem ofFailure (x : Except Failure α) : Refuses (Raised.ofFailure x) := by
  cases x with
  | error f => exact refuse f
  | ok a => exact ok a

theorem bind {x : Except Raised α} {f : α → Except Raised β} (hx : Refuses x)
    (hf : ∀ a, x = .ok a → Refuses (f a)) : Refuses (x >>= f) := by
  cases x with
  | error e => exact fun fault h => hx fault (by cases h; rfl)
  | ok a => exact hf a rfl

theorem forM {f : α → Except Raised Unit} {l : List α} (hf : ∀ a ∈ l, Refuses (f a)) :
    Refuses (l.forM f) := by
  induction l with
  | nil => exact ok ()
  | cons a l ih =>
      rw [List.forall_mem_cons] at hf
      exact hf.1.bind fun _ _ => ih hf.2

theorem mapM {f : α → Except Raised β} {l : List α} (hf : ∀ a ∈ l, Refuses (f a)) :
    Refuses (l.mapM f) := by
  induction l with
  | nil => exact ok []
  | cons a l ih =>
      rw [List.forall_mem_cons] at hf
      rw [List.mapM_cons]
      exact hf.1.bind fun _ _ => (ih hf.2).bind fun _ _ => ok _

theorem checked {check : Except Raised α} {next : α → Except Raised β × Tables}
    (hcheck : Refuses check) (hnext : ∀ a, check = .ok a → Refuses (next a).1) :
    Refuses (Ingest.checked check t next).1 := by
  cases check with
  | error e => exact fun fault h => hcheck fault (by cases h; rfl)
  | ok a => exact hnext a rfl

/-- Whatever happens in a transaction, its faults become failures. -/
theorem writeTransaction {c : Conditions} {description : String} {body : Txn α} :
    Refuses (Ingest.writeTransaction c description body t).1 := by
  unfold Ingest.writeTransaction
  rcases Txn.run c body t with ⟨(f | fault) | a, t'⟩
  · exact refuse f
  · exact refuse (.transaction description fault)
  · exact ok a

/-- Whatever a query meets, its faults become failures. -/
theorem guarded (x : Except Raised α) : Refuses (Pricing.guarded x) := by
  rcases x with (f | fault) | a
  · exact refuse f
  · exact refuse (.price .null fault)
  · exact ok a

end Refuses

/-! ### Checks -/

namespace Ingest

open Intake Schema

variable {scheme : IdScheme} {record : Record} {fault : Fault}

/-- A number that can be written out fits its column or is refused. -/
theorem refuses_requireInt64 {n : Int} (hn : n.natAbs < 10 ^ Text.maxDigits)
    (field label : String) : Refuses (requireInt64 (.int n) field label) := by
  have hchecked : requireInt64 (.int n) field label
      = if fitsInt64 n then .ok () else Raised.refuse (.outOfRange field label (.int n)) := by
    show (if fitsInt64 n then _ else
      (Fault.checkLength (.int n)).mapError Raised.fault >>= fun _ => _) = _
    rw [Fault.checkLength_int hn]
    rfl
  rw [hchecked]
  split
  · exact .ok ()
  · exact .refuse _

/-- The payload of a record that can be written out can be written out. -/
theorem payload_printable {α : Type} {name : String} {fields : List FieldName}
    {build : Record → Validated α} {a : α} (hrecord : Value.PrintableFields record)
    (h : shape name fields build (record.get dataKey) = .valid a) :
    ∃ r, Value.PrintableFields r ∧ build r = .valid a := by
  obtain ⟨r, hr, hbuild, -⟩ := shape_valid h
  have hdata := hrecord.get dataKey
  rw [hr] at hdata
  exact ⟨r, hdata, hbuild⟩

theorem sdkCall_printable {data : SdkCallData} (hrecord : Value.PrintableFields record)
    (h : SdkCallData.ofValue (record.get dataKey) = .valid data) :
    data.debitAmount.natAbs < 10 ^ Text.maxDigits := by
  obtain ⟨r, hr, hbuild⟩ := payload_printable hrecord h
  obtain ⟨make, debit, hmake, hdebit, rfl⟩ := Validated.seq_eq_valid_iff.mp hbuild
  obtain ⟨callType, -, rfl⟩ := Validated.map_eq_valid_iff.mp hmake
  exact required_printable hr hdebit

theorem tokenUsage_printable {data : TokenUsageData} (hrecord : Value.PrintableFields record)
    (h : TokenUsageData.ofValue (record.get dataKey) = .valid data) :
    ∀ counter ∈ UsageRecord.counters data, counter.2.natAbs < 10 ^ Text.maxDigits := by
  obtain ⟨r, hr, hbuild⟩ := payload_printable hrecord h
  obtain ⟨make₄, outputDebit, hmake₄, houtputDebit, rfl⟩ := Validated.seq_eq_valid_iff.mp hbuild
  obtain ⟨make₃, inputDebit, hmake₃, hinputDebit, rfl⟩ := Validated.seq_eq_valid_iff.mp hmake₄
  obtain ⟨make₂, output, hmake₂, houtput, rfl⟩ := Validated.seq_eq_valid_iff.mp hmake₃
  obtain ⟨make₁, input, hmake₁, hinput, rfl⟩ := Validated.seq_eq_valid_iff.mp hmake₂
  obtain ⟨model, -, rfl⟩ := Validated.map_eq_valid_iff.mp hmake₁
  simp only [UsageRecord.counters, List.forall_mem_cons]
  exact ⟨required_printable hr hinput, required_printable hr houtput,
    required_printable hr hinputDebit, required_printable hr houtputDebit, by simp⟩

theorem refuses_checkSdkCall (hrecord : Value.PrintableFields record) :
    Refuses (checkSdkCall scheme record) := by
  refine (Refuses.ofFailure _).bind fun user _ => (Refuses.ofFailure _).bind fun data hdata => ?_
  have hamount := sdkCall_printable hrecord (parsePayload_ok hdata)
  exact (refuses_requireInt64 hamount _ _).bind fun _ _ => .ok _

theorem refuses_checkCounter {user : UserId} {counter : String × Int}
    (hcounter : counter.2.natAbs < 10 ^ Text.maxDigits) :
    Refuses (UsageRecord.checkCounter user counter) := by
  unfold UsageRecord.checkCounter
  split
  · rw [Fault.checkLength_int hcounter]
    exact .refuse _
  · exact refuses_requireInt64 hcounter _ _

theorem refuses_ofRecord (hrecord : Value.PrintableFields record) :
    Refuses (UsageRecord.ofRecord scheme record) := by
  refine (Refuses.ofFailure _).bind fun user _ => ?_
  have hdata : Refuses ((TokenUsageData.ofValue (record.get dataKey)).toExcept.mapError
      fun violations => Raised.failure (.malformedUsage user violations)) := by
    cases (TokenUsageData.ofValue (record.get dataKey)).toExcept with
    | error violations => exact .refuse _
    | ok data => exact .ok data
  refine hdata.bind fun data hdata => ?_
  have hvalid : TokenUsageData.ofValue (record.get dataKey) = .valid data :=
    Validated.toExcept_eq_ok.mp (mapError_eq_ok.mp hdata)
  have hcounters : Refuses ((UsageRecord.counters data).forM (UsageRecord.checkCounter user)) :=
    .forM fun counter hcounter =>
      refuses_checkCounter (tokenUsage_printable hrecord hvalid counter hcounter)
  exact hcounters.bind fun _ _ => .ok _

/-! ### The amount of a payment -/

/-- What a whole number without a double brings about. -/
def creditOverflow : Fault := .overflow "int too large to convert to float"

theorem leastHuge_lt : Binary64.leastHuge < 10 ^ Text.maxDigits := by
  have hsize : Binary64.maxExponent.toNat - 1 + 54 ≤ Text.maxDigits := by decide
  have hstep : 0 < 2 ^ (Binary64.maxExponent.toNat - 1) := Nat.two_pow_pos _
  calc Binary64.leastHuge
      < 2 ^ 54 * 2 ^ (Binary64.maxExponent.toNat - 1) :=
        Nat.mul_lt_mul_of_pos_right (by decide) hstep
    _ = 2 ^ (Binary64.maxExponent.toNat - 1 + 54) := by rw [Nat.pow_add, Nat.mul_comm]
    _ ≤ 2 ^ Text.maxDigits := Nat.pow_le_pow_right (by decide) hsize
    _ ≤ 10 ^ Text.maxDigits := Nat.pow_le_pow_left (by decide) _

/-- The check of an amount is met by a fault when the amount is a whole number without a double. -/
theorem checkCredit_huge {n : Int} (hamount : submittedCredit record = .int n)
    (hn : Binary64.leastHuge ≤ n.natAbs) : checkCredit record = .error (.fault creditOverflow) := by
  unfold checkCredit checkCreditSize
  rw [hamount]
  dsimp only
  rw [Binary64.ofInt?_eq_none.mpr hn]
  rfl

theorem refuses_checkCreditSize {amount : Value}
    (hamount : ∀ n, amount = .int n → n.natAbs < Binary64.leastHuge) :
    Refuses (checkCreditSize amount) := by
  cases amount with
  | int n =>
      cases hdouble : Binary64.ofInt? n with
      | none => exact absurd (Binary64.ofInt?_eq_none.mp hdouble) (not_le.mpr (hamount n rfl))
      | some x =>
          unfold checkCreditSize
          dsimp only
          rw [hdouble]
          exact .ok ()
  | float x =>
      unfold checkCreditSize
      dsimp only
      split
      · exact .ok ()
      · exact .refuse _
  | _ => exact .refuse _

/-- Any other amount is good or refused. -/
theorem refuses_checkCredit
    (hamount : ∀ n, submittedCredit record = .int n → n.natAbs < Binary64.leastHuge) :
    Refuses (checkCredit record) := by
  unfold checkCredit
  dsimp only
  generalize submittedCredit record = amount at hamount ⊢
  refine (refuses_checkCreditSize hamount).bind fun _ hsize => ?_
  split
  · exact .refuse _
  -- what is left is a number, so it can be compared with the bounds of a column
  cases amount with
  | int n => exact refuses_requireInt64 ((hamount n rfl).trans leastHuge_lt) _ _
  | float x =>
      show Refuses (if x.isGe int64Min && x.isLe int64Max then .ok () else Raised.refuse _)
      split
      · exact .ok ()
      · exact .refuse _
  | _ => cases hsize

/-- The record names a user and a whole number without a double as the amount of a payment. -/
structure HugeCredit (scheme : IdScheme) (record : Record) : Prop where
  user : ∃ user, requireUser scheme record EventKind.payment.name = .ok user
  amount : ∃ n, submittedCredit record = .int n ∧ Binary64.leastHuge ≤ n.natAbs

theorem checkPayment_fault : checkPayment scheme record = .error (.fault fault) ↔
    fault = creditOverflow ∧ HugeCredit scheme record := by
  unfold checkPayment
  cases huser : requireUser scheme record EventKind.payment.name with
  | error f =>
      refine iff_of_false nofun ?_
      rintro ⟨-, ⟨user, hother⟩, -⟩
      rw [huser] at hother
      cases hother
  | ok user =>
      by_cases hhuge : ∃ n, submittedCredit record = .int n ∧ Binary64.leastHuge ≤ n.natAbs
      · obtain ⟨n, hamount, hn⟩ := hhuge
        show (checkCredit record >>= _) = _ ↔ _
        rw [checkCredit_huge hamount hn]
        constructor
        · intro h
          cases h
          exact ⟨rfl, ⟨user, huser⟩, n, hamount, hn⟩
        · rintro ⟨rfl, -⟩
          rfl
      · have hcredit : Refuses (checkCredit record) :=
          refuses_checkCredit fun n hamount => not_le.mp fun hn => hhuge ⟨n, hamount, hn⟩
        refine iff_of_false ?_ fun h => hhuge h.2.amount
        exact hcredit.bind (fun _ _ => (Refuses.ofFailure _).bind fun _ _ => .ok _) fault

end Ingest

end UsageLedger
