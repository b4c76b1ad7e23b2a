/-
Sums of whole numbers are exact or refused.

A sum of whole numbers is whole as long as every running total fits 64 bits, and then it
is the sum; once a total does not fit, what comes after does not mend it, and there is an
error.  Two columns are added the same way.  So on tables whose debits are whole, a query
answers with the sum, and with null when there is nothing to add up.
-/
import Mathlib.Algebra.BigOperators.Group.List.Basic
import Mathlib.Algebra.Order.BigOperators.Group.List
import Mathlib.Tactic.Ring
import UsageLedger.Store.Query

namespace UsageLedger

/-- The number in a cell of whole numbers. -/
def Cell.amount : Cell → Int
  | whole n => n
  | _ => 0

/-- Every running total of numbers fits 64 bits. -/
def RunningTotalsFit (ns : List Int) : Prop := ∀ k, Intake.fitsInt64 (ns.take k).sum = true

theorem Intake.fitsInt64_iff {n : Int} : fitsInt64 n = true ↔ int64Min ≤ n ∧ n ≤ int64Max := by
  rw [fitsInt64, Bool.and_eq_true, decide_eq_true_eq, decide_eq_true_eq]

/-- The last running total is the sum. -/
theorem RunningTotalsFit.sum_fits {ns : List Int} (h : RunningTotalsFit ns) :
    Intake.fitsInt64 ns.sum = true := by
  have hlast := h ns.length
  rwa [List.take_length] at hlast

theorem not_runningTotalsFit {ns : List Int} (hsum : Intake.fitsInt64 ns.sum = false) :
    ¬ RunningTotalsFit ns := by
  intro hfits
  rw [hfits.sum_fits] at hsum
  cases hsum

/-- Between nothing and a number that fits, everything fits. -/
theorem Intake.fitsInt64_of_le {m n : Int} (hn : fitsInt64 n = true) (hm : 0 ≤ m) (hle : m ≤ n) :
    fitsInt64 m = true :=
  fitsInt64_iff.mpr ⟨le_trans (by decide) hm, hle.trans (fitsInt64_iff.mp hn).2⟩

/-- Totals of numbers that are not negative only grow, so they fit when the last one does. -/
theorem runningTotalsFit_of_nonneg {ns : List Int} (hns : ∀ n ∈ ns, 0 ≤ n)
    (hsum : Intake.fitsInt64 ns.sum = true) : RunningTotalsFit ns := by
  intro k
  have hsplit : (ns.take k).sum + (ns.drop k).sum = ns.sum := List.sum_take_add_sum_drop ns k
  have htake : 0 ≤ (ns.take k).sum := List.sum_nonneg fun n hn => hns n (List.mem_of_mem_take hn)
  have hdrop : 0 ≤ (ns.drop k).sum := List.sum_nonneg fun n hn => hns n (List.mem_of_mem_drop hn)
  exact Intake.fitsInt64_of_le hsum htake (by omega)

namespace RunningSum

/-- A running sum of whole numbers that was exact so far stays exact while every total fits. -/
theorem foldl_step_whole {ns : List Int} {s : RunningSum} (hexact : s.approximate = false)
    (hwithin : s.overflowed = false)
    (hfits : ∀ k, Intake.fitsInt64 (s.whole + (ns.take k).sum) = true) :
    ∃ real, (ns.map SqlNumber.whole).foldl step s = ⟨s.whole + ns.sum, real, false, false⟩ := by
  induction ns generalizing s with
  | nil =>
      refine ⟨s.real, ?_⟩
      cases s
      simp_all
  | cons n ns ih =>
      have hnext : step s (.whole n)
          = { s with real := s.real.add (SqlNumber.ofWhole n), whole := s.whole + n } := by
        have hfit := hfits 1
        rw [List.take_succ_cons, List.take_zero, List.sum_singleton] at hfit
        simp [step, hexact, hwithin, hfit]
      rw [List.map_cons, List.foldl_cons, hnext]
      obtain ⟨real, hreal⟩ := ih (s := { s with
          real := s.real.add (SqlNumber.ofWhole n), whole := s.whole + n }) hexact hwithin
        fun k => by
          have hfit := hfits (k + 1)
          rwa [List.take_succ_cons, List.sum_cons, ← Int.add_assoc] at hfit
      refine ⟨real, ?_⟩
      rw [hreal, List.sum_cons, Int.add_assoc]

/-- What left 64 bits stays so. -/
theorem foldl_step_overflowed {ns : List Int} {s : RunningSum} (h : s.overflowed = true) :
    ((ns.map SqlNumber.whole).foldl step s).overflowed = true := by
  induction ns generalizing s with
  | nil => exact h
  | cons n ns ih => exact ih (by simp [step, h])

/-- A running sum of whole numbers that was exact so far leaves 64 bits as soon as a total does. -/
theorem foldl_step_overflows {ns : List Int} {s : RunningSum} (hexact : s.approximate = false)
    (hwithin : s.overflowed = false) (hstart : Intake.fitsInt64 s.whole = true) {k : Nat}
    (hk : Intake.fitsInt64 (s.whole + (ns.take k).sum) = false) :
    ((ns.map SqlNumber.whole).foldl step s).overflowed = true := by
  induction ns generalizing s k with
  | nil => simp [hstart] at hk
  | cons n ns ih =>
      rw [List.map_cons, List.foldl_cons]
      by_cases hfit : Intake.fitsInt64 (s.whole + n) = true
      · have hnext : step s (.whole n)
            = { s with real := s.real.add (SqlNumber.ofWhole n), whole := s.whole + n } := by
          simp [step, hexact, hwithin, hfit]
        rw [hnext]
        cases k with
        | zero => simp [hstart] at hk
        | succ k =>
            rw [List.take_succ_cons, List.sum_cons, ← Int.add_assoc] at hk
            exact ih hexact hwithin hfit hk
      · apply foldl_step_overflowed
        simp [step, hexact, hwithin, hfit]

end RunningSum

/-- **A sum with a running total that does not fit is an error.** -/
theorem sqlSum_overflow {ns : List Int} (h : ¬ RunningTotalsFit ns) :
    sqlSum (ns.map SqlNumber.whole)
      = .error (.operational ⟨[.text "integer overflow"], none, none, none⟩) := by
  obtain ⟨k, hk⟩ := not_forall.mp h
  rw [Bool.not_eq_true] at hk
  cases ns with
  | nil => cases k <;> cases hk
  | cons n ns =>
      have hover : (((n :: ns).map SqlNumber.whole).foldl RunningSum.step
          RunningSum.start).overflowed = true := by
        apply RunningSum.foldl_step_overflows (k := k) rfl rfl rfl
        simpa [RunningSum.start] using hk
      show ((List.map SqlNumber.whole (n :: ns)).foldl RunningSum.step RunningSum.start).answer = _
      rw [RunningSum.answer, if_pos hover]

/-- **A sum whose running totals fit is exact.** -/
theorem sqlSum_whole {ns : List Int} (h : RunningTotalsFit ns) :
    sqlSum (ns.map SqlNumber.whole) = .ok (if ns = [] then .null else .int ns.sum) := by
  cases ns with
  | nil => rfl
  | cons n ns =>
      have hfits : ∀ k, Intake.fitsInt64
          (RunningSum.start.whole + ((n :: ns).take k).sum) = true := by
        intro k
        have hfit := h k
        simpa [RunningSum.start] using hfit
      obtain ⟨real, hreal⟩ := RunningSum.foldl_step_whole (s := RunningSum.start) rfl rfl hfits
      rw [if_neg (by simp)]
      show ((List.map SqlNumber.whole (n :: ns)).foldl RunningSum.step RunningSum.start).answer = _
      rw [hreal]
      simp [RunningSum.answer, RunningSum.start]

namespace Tables

variable {t : Tables} {user : UserId}

/-- The debits of the SDK calls of a user as numbers. -/
def sdkAmounts (t : Tables) (user : UserId) : List Int := (t.sdkDebits user).map Cell.amount

/-- The debits of the token usage of a user as numbers, input and output together. -/
def tokenAmounts (t : Tables) (user : UserId) : List Int :=
  (t.tokenDebits user).map fun d => d.1.amount + d.2.amount

/-- The query sums whole debits of SDK calls as they are. -/
theorem answer_sdkDebits (hwhole : ∀ cell ∈ t.sdkDebits user, ∃ n, cell = .whole n) :
    t.answer (.sdkDebits user) = sqlSum ((t.sdkAmounts user).map SqlNumber.whole) := by
  rw [answer, sdkAmounts, List.map_map]
  refine congrArg sqlSum (List.map_congr_left fun cell hcell => ?_)
  obtain ⟨n, rfl⟩ := hwhole cell hcell
  rfl

/-- The query sums whole debits of token usage as they are, as long as each row's two together
fit. -/
theorem answer_tokenDebits
    (hwhole : ∀ d ∈ t.tokenDebits user, ∃ m n, d = (.whole m, .whole n))
    (hrows : ∀ n ∈ t.tokenAmounts user, Intake.fitsInt64 n = true) :
    t.answer (.tokenDebits user) = sqlSum ((t.tokenAmounts user).map SqlNumber.whole) := by
  rw [answer, tokenAmounts, List.map_map, ← List.filterMap_eq_map]
  refine congrArg sqlSum (List.filterMap_congr fun d hd => ?_)
  have hfit := hrows _ (List.mem_map_of_mem hd)
  obtain ⟨m, n, rfl⟩ := hwhole d hd
  simp only [Cell.amount] at hfit
  simp [Cell.operand, SqlNumber.add?, hfit, Cell.amount]

end Tables

end UsageLedger
