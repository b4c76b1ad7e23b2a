/-
Doubles and decimals that equal whole numbers.

A decimal can be written with any exponent, so 1200, 12E2 and 1200.00 are one whole number.
Cleared of its exponent, a decimal that equals a whole number is a coefficient and a number
that differ by powers of ten (`toRat?_eq_some_int`); that settles what is left when it is
cut off at the point and between which powers of ten it lies.  A quotient below 2 ^ 1023 is
rounded to a finite double (`isFinite_nearest`), so no such decimal is too large for doubles.
-/
import Mathlib.Algebra.Order.Field.Rat
import UsageLedger.Proofs.Intake.Spelling
import UsageLedger.Proofs.Schema.Numeral

namespace UsageLedger

/-! ### Doubles -/

namespace Binary64

variable {num den k : Nat} {negative : Bool} {x : Binary64} {n : Int}

/-- A quotient below a power of two has a lower order. -/
theorem binaryOrder_lt (hnum : num ≠ 0) (h : num < 2 ^ k * den) : binaryOrder num den < k := by
  unfold binaryOrder
  dsimp only
  split
  · next hreached =>
      by_contra hlarge
      have hnegative : (-((num.log2 : Int) - den.log2)).toNat = 0 := by omega
      have hpow : 2 ^ k ≤ 2 ^ ((num.log2 : Int) - den.log2).toNat :=
        Nat.pow_le_pow_right (by decide) (by omega)
      rw [hnegative] at hreached
      have hle : den * 2 ^ k ≤ num :=
        ((Nat.mul_le_mul_left den hpow).trans hreached).trans_eq (Nat.mul_one num)
      rw [Nat.mul_comm] at hle
      exact Nat.not_le.mpr h hle
  · by_contra hlarge
    have hden : den ≤ 2 ^ (den.log2 + 1) := Nat.lt_log2_self.le
    have hpow : 2 ^ (k + (den.log2 + 1)) ≤ 2 ^ num.log2 :=
      Nat.pow_le_pow_right (by decide) (by omega)
    have hbelow : num < num := calc
      num < 2 ^ k * den := h
      _ ≤ 2 ^ k * 2 ^ (den.log2 + 1) := Nat.mul_le_mul_left _ hden
      _ = 2 ^ (k + (den.log2 + 1)) := (Nat.pow_add 2 _ _).symm
      _ ≤ 2 ^ num.log2 := hpow
      _ ≤ num := Nat.log2_self_le hnum
    exact Nat.lt_irrefl num hbelow

/-- **A quotient below 2 ^ 1023 has a double.** -/
theorem isFinite_nearest (h : num < 2 ^ 1023 * den) :
    (nearest negative num den).isFinite = true := by
  unfold nearest
  by_cases hnum : num = 0
  · rw [if_pos hnum]
    rfl
  · have horder : binaryOrder num den < (1023 : Nat) := binaryOrder_lt hnum h
    have hexponent : max (binaryOrder num den - 52) minExponent ≤ 970 := by
      unfold minExponent
      omega
    rw [if_neg hnum]
    generalize max (binaryOrder num den - 52) minExponent = e at hexponent
    -- rounding up to the next power of two adds one to the exponent, which has room for it
    dsimp only
    split <;> rw [if_neg (by unfold maxExponent; omega)] <;> rfl

/-- A double that equals a whole number is cut off to it. -/
theorem truncate?_of_toRat? (h : x.toRat? = some (n : Rat)) : x.truncate? = some n := by
  rw [truncate?, h, Option.map_some, Rat.floor_intCast, Rat.ceil_intCast, ite_self]

end Binary64

/-! ### Decimals -/

namespace Decimal

variable {negative : Bool} {c m k : Nat} {e n : Int} {d : Decimal}

/-- The exact value of a finite decimal. -/
def toRat? : Decimal → Option Rat
  | finite negative coefficient exponent =>
    some ((Text.signed negative coefficient : Rat) * (10 : Rat) ^ exponent)
  | _ => none

/-- Cleared of its exponent, a decimal of a whole number is an equation of whole numbers. -/
theorem toRat?_eq_some_int : (finite negative c e).toRat? = some (n : Rat) ↔
    Text.signed negative c * 10 ^ e.toNat = n * 10 ^ (-e).toNat := by
  have hsplit : e = (e.toNat : Int) - ((-e).toNat : Int) := by omega
  have hpow : (10 : Rat) ^ e = 10 ^ e.toNat / 10 ^ (-e).toNat := by
    conv_lhs => rw [hsplit]
    rw [zpow_sub₀ (by norm_num), zpow_natCast, zpow_natCast]
  have hpos : (10 : Rat) ^ (-e).toNat ≠ 0 := by positivity
  rw [toRat?, Option.some.injEq, hpow, ← mul_div_assoc, div_eq_iff hpos]
  exact_mod_cast Iff.rfl

/-- The number of digits of a coefficient tells its size. -/
theorem length_decimal (hc : c ≠ 0) :
    10 ^ ((Text.decimal c).length - 1) ≤ c ∧ c < 10 ^ (Text.decimal c).length := by
  obtain ⟨hvalue, hdigits⟩ := Text.ofDigits_digits (by decide : 2 ≤ 10) c
  rw [Text.decimal, List.length_map]
  constructor
  · by_contra hsmall
    rw [not_le] at hsmall
    cases hlength : (Text.digits 10 c).length - 1 with
    | zero =>
        rw [hlength, Nat.pow_zero] at hsmall
        omega
    | succ k =>
        rw [hlength] at hsmall
        have hfew := Text.length_digits_le hsmall
        omega
  · have hlt := Text.ofDigits_lt hdigits
    rwa [hvalue] at hlt

/-- A decimal of a magnitude has as many places before the point as the magnitude has. -/
theorem places_bounds (h : c * 10 ^ e.toNat = m * 10 ^ (-e).toNat) (hc : c ≠ 0) (hm : m ≠ 0)
    (hlt : m < 10 ^ k) : 1 ≤ places c e ∧ places c e ≤ k := by
  obtain ⟨hlow, hhigh⟩ := length_decimal hc
  have hfirst : (-e).toNat < (Text.decimal c).length + e.toNat := by
    refine (Nat.pow_lt_pow_iff_right (a := 10) (by decide)).mp ?_
    calc 10 ^ (-e).toNat ≤ m * 10 ^ (-e).toNat := Nat.le_mul_of_pos_left _ (Nat.pos_of_ne_zero hm)
      _ = c * 10 ^ e.toNat := h.symm
      _ < 10 ^ (Text.decimal c).length * 10 ^ e.toNat :=
          Nat.mul_lt_mul_of_pos_right hhigh (by positivity)
      _ = 10 ^ ((Text.decimal c).length + e.toNat) := (Nat.pow_add 10 _ _).symm
  have hlast : (Text.decimal c).length - 1 + e.toNat < k + (-e).toNat := by
    refine (Nat.pow_lt_pow_iff_right (a := 10) (by decide)).mp ?_
    calc 10 ^ ((Text.decimal c).length - 1 + e.toNat)
        = 10 ^ ((Text.decimal c).length - 1) * 10 ^ e.toNat := Nat.pow_add 10 _ _
      _ ≤ c * 10 ^ e.toNat := Nat.mul_le_mul_right _ hlow
      _ = m * 10 ^ (-e).toNat := h
      _ < 10 ^ k * 10 ^ (-e).toNat := Nat.mul_lt_mul_of_pos_right hlt (by positivity)
      _ = 10 ^ (k + (-e).toNat) := (Nat.pow_add 10 _ _).symm
  unfold places
  omega

/-- A decimal has the magnitude and the sign of the whole number that it equals. -/
theorem magnitude_eq (h : (finite negative c e).toRat? = some (n : Rat)) :
    c * 10 ^ e.toNat = n.natAbs * 10 ^ (-e).toNat ∧ Text.signed negative n.natAbs = n := by
  have hvalue := toRat?_eq_some_int.mp h
  have hpos : (0 : Int) < 10 ^ (-e).toNat := by positivity
  constructor
  · have habs := congrArg Int.natAbs hvalue
    rwa [Int.natAbs_mul, Int.natAbs_mul, Text.natAbs_signed, Int.natAbs_pow, Int.natAbs_pow] at habs
  · cases negative with
    | false =>
        have hn : 0 ≤ n * 10 ^ (-e).toNat := by
          rw [← hvalue, Text.signed, if_neg Bool.false_ne_true]
          positivity
        exact Int.natAbs_of_nonneg (nonneg_of_mul_nonneg_left hn hpos)
    | true =>
        have hn : 0 ≤ -n * 10 ^ (-e).toNat := by
          rw [Int.neg_mul, ← hvalue, Text.signed, if_pos rfl, Int.neg_mul, Int.neg_neg]
          positivity
        have hneg := nonneg_of_mul_nonneg_left hn hpos
        rw [Text.signed, if_pos rfl]
        omega

theorem coefficient_eq_zero_iff (h : (finite negative c e).toRat? = some (n : Rat)) :
    c = 0 ↔ n = 0 := by
  have hpos : ∀ i : Nat, (10 : Nat) ^ i ≠ 0 := fun i => by positivity
  rw [← Int.natAbs_eq_zero, ← mul_eq_zero_iff_right (hpos e.toNat), (magnitude_eq h).1,
    mul_eq_zero_iff_right (hpos (-e).toNat)]

/-- **A decimal that equals a whole number is cut off to it.** -/
theorem truncate?_of_toRat? (h : d.toRat? = some (n : Rat)) : d.truncate? = some n := by
  cases d with
  | infinity _ => cases h
  | nan _ _ _ => cases h
  | finite negative c e =>
      obtain ⟨hmagnitude, hsign⟩ := magnitude_eq h
      by_cases hc : c = 0
      · rw [truncate?, if_pos (.inl hc), (coefficient_eq_zero_iff h).mp hc]
      · have hn : n ≠ 0 := mt (coefficient_eq_zero_iff h).mpr hc
        obtain ⟨hplaces, -⟩ := places_bounds hmagnitude hc (Int.natAbs_ne_zero.mpr hn)
          (Nat.lt_pow_self (by decide))
        have hcut : c * Nat.pow 10 e.toNat / Nat.pow 10 (-e).toNat = n.natAbs := by
          show c * 10 ^ e.toNat / 10 ^ (-e).toNat = _
          rw [hmagnitude, Nat.mul_div_cancel _ (by positivity)]
        rw [truncate?, if_neg (by omega), hcut, hsign]

/-- Three binary places are less than a decimal one. -/
theorem two_pow_le {i j : Nat} (h : i ≤ 3 * j) : 2 ^ i ≤ 10 ^ j := calc
  2 ^ i ≤ 2 ^ (3 * j) := Nat.pow_le_pow_right (by decide) h
  _ = (2 ^ 3) ^ j := Nat.pow_mul 2 3 j
  _ ≤ 10 ^ j := Nat.pow_le_pow_left (by decide) j

/-- **The double nearest to a decimal of a whole number below 2 ^ 1023 is finite.** -/
theorem isFinite_ofDecimal (h : d.toRat? = some (n : Rat)) (hlt : n.natAbs < 2 ^ 1023) :
    (Binary64.ofDecimal d).isFinite = true := by
  cases d with
  | infinity _ => cases h
  | nan _ _ _ => cases h
  | finite negative c e =>
      obtain ⟨hmagnitude, -⟩ := magnitude_eq h
      unfold Binary64.ofDecimal
      dsimp only
      by_cases hc : c = 0
      · rw [if_pos (.inl hc)]
        rfl
      · have hn : n ≠ 0 := mt (coefficient_eq_zero_iff h).mpr hc
        have hsmall : n.natAbs < 10 ^ 400 := hlt.trans_le (two_pow_le (by decide))
        obtain ⟨hlow, hhigh⟩ := places_bounds hmagnitude hc (Int.natAbs_ne_zero.mpr hn) hsmall
        rw [if_neg (by omega), if_neg (by omega)]
        refine Binary64.isFinite_nearest ?_
        show c * 10 ^ e.toNat < 2 ^ 1023 * 10 ^ (-e).toNat
        rw [hmagnitude]
        exact Nat.mul_lt_mul_of_pos_right hlt (by positivity)

end Decimal

end UsageLedger
