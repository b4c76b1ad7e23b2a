/-
Whole numbers that are too large for doubles.

A whole number is rounded to 53 binary digits.  The greatest double is one step below
2 ^ 1024, and half a step below it the tie goes to the power itself, which is even and no
double any more.  So that is where whole numbers begin to have no double
(`ofInt?_eq_none`).
-/
import UsageLedger.Number.Binary64
import Mathlib.Algebra.Order.Ring.Nat
import Mathlib.Tactic.Ring

namespace UsageLedger

/-- A quotient below an even number is rounded up to it from half a step on. -/
theorem roundDiv_eq_iff {num den top : Nat} (hden : 0 < den) (hnum : num < top * den)
    (heven : top % 2 = 0) : roundDiv num den = top ↔ 2 * (top * den) ≤ 2 * num + den := by
  obtain ⟨q, r, hq, hr, rfl⟩ : ∃ q r, num / den = q ∧ num % den = r ∧ num = den * q + r :=
    ⟨_, _, rfl, rfl, (Nat.div_add_mod num den).symm⟩
  have hrlt : r < den := hr ▸ Nat.mod_lt _ hden
  have hqlt : q < top := hq ▸ (Nat.div_lt_iff_lt_mul hden).mpr hnum
  unfold roundDiv
  rw [hq, hr]
  -- the quotient is either the number before the even one, which is odd, or lower still
  rcases Nat.lt_or_ge (q + 1) top with hbelow | hlast
  · have hfar : den * (q + 2) ≤ top * den := by
      rw [Nat.mul_comm top]
      exact Nat.mul_le_mul_left den hbelow
    rw [Nat.mul_add] at hfar
    have hno : ¬ 2 * (top * den) ≤ 2 * (den * q + r) + den := by omega
    refine iff_of_false ?_ hno
    dsimp only
    split
    · omega
    split
    · omega
    split <;> omega
  · obtain rfl : top = q + 1 := by omega
    have htop : (q + 1) * den = den * q + den := by ring
    rw [htop]
    dsimp only
    split
    · omega
    split
    · omega
    split <;> omega

namespace Binary64

/-- The least magnitude of a whole number that has no double: 2 ^ 1024 less half of the last step,
2 ^ 970. -/
def leastHuge : Nat := (2 ^ 54 - 1) * 2 ^ (maxExponent.toNat - 1)

theorem binaryOrder_one {num : Nat} (hnum : num ≠ 0) : binaryOrder num 1 = num.log2 := by
  have hone : Nat.log2 1 = 0 := by decide
  have hle : 1 * Nat.pow 2 num.log2 ≤ num * Nat.pow 2 0 := by
    simpa using Nat.log2_self_le hnum
  unfold binaryOrder
  simpa [hone] using hle

/-- The double nearest to a whole number is infinite when the number has more than 1024 binary
digits, or has 1024 and is rounded up to one more. -/
theorem nearest_one {negative : Bool} {num : Nat} (hnum : num ≠ 0) :
    (∃ sign, nearest negative num 1 = infinity sign) ↔
      1023 < num.log2 ∨
        num.log2 = 1023 ∧ roundDiv num (Nat.pow 2 maxExponent.toNat) = Nat.pow 2 53 := by
  have he : max ((num.log2 : Int) - 52) minExponent = num.log2 - 52 := by
    unfold minExponent
    omega
  have hinfinite : ∀ {m : Nat} {e : Int}, (∃ sign, (if maxExponent < e then infinity negative
      else finite negative m e) = infinity sign) ↔ 971 < e := by
    intro m e
    unfold maxExponent
    split <;> simp [*]
  unfold nearest
  rw [if_neg hnum, binaryOrder_one hnum, he]
  dsimp only
  rcases Nat.lt_trichotomy num.log2 1023 with hbelow | hlast | habove
  · refine iff_of_false ?_ (by omega)
    split <;> rw [hinfinite] <;> omega
  · have hleft : (-((num.log2 : Int) - 52)).toNat = 0 := by omega
    have hright : ((num.log2 : Int) - 52).toNat = maxExponent.toNat := by
      unfold maxExponent
      omega
    have hm : ∀ d : Nat, roundDiv (num * Nat.pow 2 0) (1 * d) = roundDiv num d := by
      intro d
      rw [Nat.one_mul]
      exact congrArg (roundDiv · d) (Nat.mul_one num)
    rw [hleft, hright, hm]
    split
    · next htop =>
        rw [hinfinite]
        exact iff_of_true (by omega) (.inr ⟨hlast, htop⟩)
    · next htop =>
        rw [hinfinite]
        exact iff_of_false (by omega) fun h => h.elim (by omega) fun h => htop h.2
  · refine iff_of_true ?_ (.inl habove)
    split <;> rw [hinfinite] <;> omega

/-- A whole number has no double exactly from a magnitude on. -/
theorem ofInt?_eq_none {n : Int} : ofInt? n = none ↔ leastHuge ≤ n.natAbs := by
  have hinfinite : ofInt? n = none ↔
      ∃ sign, nearest (decide (n < 0)) n.natAbs 1 = infinity sign := by
    unfold ofInt?
    split <;> simp_all
  rw [hinfinite]
  -- the powers that matter are multiples of the half step
  obtain ⟨p, hp, hsize⟩ : ∃ p, maxExponent.toNat = p + 1 ∧ 1023 = p + 53 := ⟨970, rfl, rfl⟩
  have hleast : leastHuge = (2 ^ 54 - 1) * 2 ^ p := by
    rw [leastHuge, hp, Nat.add_sub_cancel]
  have hstep : 0 < 2 ^ p := Nat.two_pow_pos p
  generalize n.natAbs = num
  rcases Nat.eq_zero_or_pos num with rfl | hpos
  · refine iff_of_false ?_ (by omega)
    rintro ⟨sign, hzero⟩
    cases hzero
  have hnum : num ≠ 0 := hpos.ne'
  have hlast : 2 ^ (p + 53) = 2 ^ 53 * 2 ^ p := by rw [Nat.pow_add, Nat.mul_comm]
  have htop : 2 ^ (p + 54) = 2 ^ 54 * 2 ^ p := by rw [Nat.pow_add, Nat.mul_comm]
  have hlog : 1023 < num.log2 ↔ 2 ^ 54 * 2 ^ p ≤ num := by
    rw [hsize, ← htop]
    exact Nat.le_log2 hnum
  have hlog' : 1023 ≤ num.log2 ↔ 2 ^ 53 * 2 ^ p ≤ num := by
    rw [hsize, ← hlast]
    exact Nat.le_log2 hnum
  rw [nearest_one hnum, hleast]
  rcases Nat.lt_or_ge num (2 ^ 54 * 2 ^ p) with hbelow | habove
  · have hround : roundDiv num (Nat.pow 2 maxExponent.toNat) = Nat.pow 2 53 ↔
        2 * (2 ^ 53 * (2 * 2 ^ p)) ≤ 2 * num + 2 * 2 ^ p := by
      rw [hp]
      show roundDiv num (2 ^ (p + 1)) = 2 ^ 53 ↔ _
      rw [Nat.pow_succ']
      exact roundDiv_eq_iff (by omega) (by omega) (by decide)
    rw [hround]
    omega
  · exact iff_of_true (.inl (hlog.mpr habove)) (by omega)

end Binary64

end UsageLedger
