/-
Prices at the limits of 64 bits.

Debits are whole numbers that fit 64 bits each, but the database also adds them up in 64
bits, in the order of the rows.  A price of SDK calls is therefore exact or refused by the
running totals (`owed_sdkDebits`): debits may be negative, so a total can leave 64 bits on
the way to a sum that fits.  Debits of token usage are not negative, so their totals only
grow and the sum alone decides (`owed_tokenDebits`), provided that no row leaves 64 bits by
its own two debits.
-/
import UsageLedger.Proofs.Ledger.Billing

namespace UsageLedger

/-- The refusal of a price whose sum left 64 bits. -/
def Failure.sumOverflow (label : String) (user : UserId) : Failure :=
  .query label user (.database (.operational ⟨[.text "integer overflow"], none, none, none⟩))

namespace Consistent

open Pricing

variable {t : Tables} {user : UserId} {label : String}

/-- Rows of token usage do not lower what is owed. -/
theorem tokenAmounts_nonneg (ht : Consistent t) : ∀ n ∈ t.tokenAmounts user, 0 ≤ n := by
  intro n hn
  obtain ⟨d, hd, rfl⟩ := List.mem_map.mp hn
  obtain ⟨input, output, rfl, hinput, houtput⟩ := ht.tokenDebits_whole d hd
  exact Int.add_nonneg hinput houtput

/-- SDK calls are owed exactly as long as every running total fits, and are refused otherwise. -/
theorem owed_sdkDebits (ht : Consistent t) :
    (RunningTotalsFit (t.sdkAmounts user) →
        owed t (.sdkDebits user) user label = .ok (t.sdkAmounts user).sum) ∧
      (¬ RunningTotalsFit (t.sdkAmounts user) →
        owed t (.sdkDebits user) user label = Raised.refuse (.sumOverflow label user)) := by
  constructor
  · intro hfits
    exact owed_of_fits ht.answer_sdkDebits hfits
  · intro hover
    exact owed_error (ht.answer_sdkDebits.trans (sqlSum_overflow hover))

/-- Token usage is owed exactly when the sum fits, and is refused when only the sum does not. -/
theorem owed_tokenDebits (ht : Consistent t) :
    (Intake.fitsInt64 (t.tokenAmounts user).sum = true →
        owed t (.tokenDebits user) user label = .ok (t.tokenAmounts user).sum) ∧
      (Intake.fitsInt64 (t.tokenAmounts user).sum = false →
        (∀ n ∈ t.tokenAmounts user, Intake.fitsInt64 n = true) →
        owed t (.tokenDebits user) user label = Raised.refuse (.sumOverflow label user)) := by
  have hns : ∀ n ∈ t.tokenAmounts user, 0 ≤ n := ht.tokenAmounts_nonneg
  constructor
  · intro hsum
    have hrows : ∀ n ∈ t.tokenAmounts user, Intake.fitsInt64 n = true := by
      intro n hn
      exact Intake.fitsInt64_of_le hsum (hns n hn) (List.single_le_sum hns n hn)
    exact owed_of_fits (ht.answer_tokenDebits hrows) (runningTotalsFit_of_nonneg hns hsum)
  · intro hsum hrows
    have hover : ¬ RunningTotalsFit (t.tokenAmounts user) := not_runningTotalsFit hsum
    exact owed_error ((ht.answer_tokenDebits hrows).trans (sqlSum_overflow hover))

end Consistent

namespace Ledger

open Intake

/-- **A price is exact or refused.**  SDK calls are priced at the sum of their stored debits when
every running total in the order of the rows fits 64 bits, and are refused otherwise, so whenever
the sum does not fit.  Token usage is priced at the sum of its stored debits when the sum fits,
whatever the order of the rows, and is refused when it does not fit while each row's two debits
together do. -/
theorem prices_exact_or_refused (scheme : IdScheme) (depth : Nat)
    (calls : List (Circumstances × Call)) (user : UserId) {submission : Submission}
    {record : Record} {label : String}
    (hrecord : unwrap submission = .ok record)
    (huser : requireUser scheme record label = .ok user) :
    let t := runCalls scheme calls Tables.empty
    let sdk := t.sdkAmounts user
    let usage := t.tokenAmounts user
    (acceptedKind record priceKinds = .ok .requestSdkCall →
      (RunningTotalsFit sdk → Pricing.priceFrom scheme depth t submission = .ok sdk.sum) ∧
      (¬ RunningTotalsFit sdk → Pricing.priceFrom scheme depth t submission
        = Raised.refuse (.sumOverflow EventKind.sdkCall.name user)) ∧
      (fitsInt64 sdk.sum = false → Pricing.priceFrom scheme depth t submission
        = Raised.refuse (.sumOverflow EventKind.sdkCall.name user))) ∧
    (acceptedKind record priceKinds = .ok .requestTokenUsage →
      (fitsInt64 usage.sum = true → Pricing.priceFrom scheme depth t submission = .ok usage.sum) ∧
      (fitsInt64 usage.sum = false → (∀ n ∈ usage, fitsInt64 n = true) →
        Pricing.priceFrom scheme depth t submission
          = Raised.refuse (.sumOverflow EventKind.tokenUsage.name user))) := by
  intro t sdk usage
  have ht : Consistent t := consistent_runCalls calls consistent_empty
  constructor
  · intro hkind
    rw [Pricing.priceFrom_sdkCall hrecord hkind huser]
    refine ⟨ht.owed_sdkDebits.1, ht.owed_sdkDebits.2, fun hsum => ?_⟩
    exact ht.owed_sdkDebits.2 (not_runningTotalsFit hsum)
  · intro hkind
    rw [Pricing.priceFrom_tokenUsage hrecord hkind huser]
    exact ht.owed_tokenDebits

namespace Sample

/-- The question what user 7 owes for SDK calls. -/
def sdkQuestion : Event := ⟨Timestamp.first, .requestSdkCall (.number 7)⟩

/-- The question what user 7 owes for token usage. -/
def usageQuestion : Event := ⟨Timestamp.first, .requestTokenUsage (.number 7)⟩

/-- SDK calls that leave 64 bits and come back, and token usage up to a number of debits. -/
def extreme (debit : Int) : List (Circumstances × Call) :=
  [grant, (.quiet 2, .add (sdkCall int64Max) key), (.quiet 3, .add (sdkCall 1) key),
    (.quiet 4, .add (sdkCall (-1)) key), (.quiet 5, .add (usage debit) key)]

end Sample

theorem prices_exact_or_refused_sample :
    Pricing.priceFrom .bigint Conditions.usualDepth
        (runCalls .bigint (Sample.extreme (int64Max - 3)) Tables.empty) (.event Sample.sdkQuestion)
      = Raised.refuse (.sumOverflow EventKind.sdkCall.name (.number 7)) ∧
    Pricing.priceFrom .bigint Conditions.usualDepth
        (runCalls .bigint (Sample.extreme (int64Max - 3)) Tables.empty)
        (.event Sample.usageQuestion)
      = .ok int64Max := by
  have hsdk : (runCalls .bigint (Sample.extreme (int64Max - 3)) Tables.empty).sdkAmounts (.number 7)
      = [int64Max, 1, -1] := by decide +kernel
  have husage : (runCalls .bigint (Sample.extreme (int64Max - 3)) Tables.empty).tokenAmounts
      (.number 7) = [int64Max] := by decide +kernel
  have hover : ¬ RunningTotalsFit [int64Max, 1, -1] := by
    intro hfits
    exact absurd (hfits 2) (by decide)
  have hrecords : unwrap (.event Sample.sdkQuestion) = .ok Sample.sdkQuestion.record ∧
      unwrap (.event Sample.usageQuestion) = .ok Sample.usageQuestion.record := ⟨rfl, rfl⟩
  have husers :
      requireUser .bigint Sample.sdkQuestion.record EventKind.sdkCall.name = .ok (.number 7) ∧
      requireUser .bigint Sample.usageQuestion.record EventKind.tokenUsage.name
        = .ok (.number 7) := ⟨rfl, rfl⟩
  have hsdkPrice := (prices_exact_or_refused .bigint Conditions.usualDepth
    (Sample.extreme (int64Max - 3)) (.number 7) hrecords.1 husers.1).1 rfl
  have husagePrice := (prices_exact_or_refused .bigint Conditions.usualDepth
    (Sample.extreme (int64Max - 3)) (.number 7) hrecords.2 husers.2).2 rfl
  rw [hsdk] at hsdkPrice
  rw [husage] at husagePrice
  exact ⟨hsdkPrice.2.1 hover, husagePrice.1 (by decide)⟩

/-- A sum that fits is refused when a total on the way does not fit, and a row whose two debits do
not fit together is priced in doubles. -/
theorem overflow_on_the_way :
    let t := runCalls .bigint (Sample.extreme int64Max) Tables.empty
    ((t.sdkAmounts (.number 7)).sum = int64Max ∧
      (Pricing.priceFrom .bigint Conditions.usualDepth t (.event Sample.sdkQuestion)).toOption
        = none) ∧
    (t.tokenAmounts (.number 7)).sum = 9223372036854775810 ∧
      (Pricing.priceFrom .bigint Conditions.usualDepth t (.event Sample.usageQuestion)).toOption
        = some 9223372036854775808 := by
  decide +kernel

end Ledger

end UsageLedger
