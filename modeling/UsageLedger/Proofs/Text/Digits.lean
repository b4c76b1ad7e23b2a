/-
Digits that were written are read back.

A digit has one character below a base of sixteen, in two cases from ten on, and its value is
read from both.  So a text of such characters is read as the values of its digits
(`digitRun?_eq_some`), and the digits of a number denote that number, in the shortest form
(`ofDigits_digits`), in a form of fixed width (`ofDigits_hexadecimal`) and with zeros in front.
-/
import Mathlib.Data.List.Forall2
import Mathlib.Tactic.Ring
import UsageLedger.Text.Integer

namespace UsageLedger.Text

/-! ### Characters -/

/-- The characters of hexadecimal digits in both cases. -/
def hexChars : List Char := "0123456789abcdefABCDEF".toList

/-- A letter has two cases. -/
theorem eq_or_eq_toUpper {c d : Char} (h : c.toLower = d) : c = d ∨ c = d.toUpper := by
  subst h
  by_cases hc : 65 ≤ c.toNat ∧ c.toNat ≤ 90
  · right
    have hall : ∀ n < 91, 65 ≤ n → Char.ofNat n = (Char.ofNat n).toLower.toUpper := by decide
    have hupper := hall c.toNat (by omega) hc.1
    rwa [Char.ofNat_toNat] at hupper
  · left
    unfold Char.toLower
    rw [dif_neg]
    exact hc

/-- A digit in any case is read as its value. -/
theorem hexDigit_of_toLower {c : Char} {d : Nat} (hd : d < 16) (h : c.toLower = digitChar d) :
    c ∈ hexChars ∧ hexDigit? c = some d := by
  have hcases : ∀ d < 16, (digitChar d ∈ hexChars ∧ hexDigit? (digitChar d) = some d) ∧
      (digitChar d).toUpper ∈ hexChars ∧ hexDigit? (digitChar d).toUpper = some d := by decide
  rcases eq_or_eq_toUpper h with rfl | rfl
  · exact (hcases d hd).1
  · exact (hcases d hd).2

theorem decimalDigit?_digitChar {d : Nat} (hd : d < 10) :
    decimalDigit? (digitChar d) = some d := by
  have hall : ∀ d < 10, decimalDigit? (digitChar d) = some d := by decide
  exact hall d hd

/-- A digit is no blank, no sign and no separator. -/
theorem digitChar_plain {d : Nat} (hd : d < 10) :
    isBlank (digitChar d) = false ∧ digitChar d ≠ '+' ∧ digitChar d ≠ '-' ∧
      digitChar d ≠ '_' := by
  have hall : ∀ d < 10, isBlank (digitChar d) = false ∧ digitChar d ≠ '+' ∧ digitChar d ≠ '-' ∧
      digitChar d ≠ '_' := by decide
  exact hall d hd

theorem hexChars_plain : ∀ c ∈ hexChars, isBlank c = false ∧ c ≠ '+' ∧ c ≠ '-' ∧ c ≠ '_' ∧
    c ≠ 'x' ∧ c ≠ 'X' ∧ c ≠ 'u' ∧ c ≠ '\x7b' ∧ c ≠ '\x7d' := by
  have hall : hexChars.all (fun c => !isBlank c && c != '+' && c != '-' && c != '_' && c != 'x' &&
      c != 'X' && c != 'u' && c != '\x7b' && c != '\x7d') = true := by decide
  intro c hc
  simpa [and_assoc] using List.all_eq_true.mp hall c hc

/-! ### Runs of digits -/

/-- A text of digits without separators is read as their values. -/
theorem digitRun?_eq_some {value : Char → Option Nat} {l : List Char} {ds : List Nat}
    (h : List.Forall₂ (fun c d => value c = some d) l ds) (hne : l ≠ [])
    (hplain : ∀ c ∈ l, c ≠ '_') : digitRun? value l = some ds := by
  induction h with
  | nil => exact absurd rfl hne
  | @cons c d l ds hc hl ih =>
      cases hl with
      | nil =>
          rw [digitRun?, hc]
          rfl
      | @cons c' d' l ds hc' hl =>
          rw [digitRun?, hc,
            ih (List.cons_ne_nil _ _) fun x hx => hplain x (List.mem_cons_of_mem _ hx)]
          · exact fun h => nomatch h
          · rintro rest ⟨⟩
            exact hplain '_' (by simp) rfl

/-! ### Numbers -/

/-- The digits in front count as often as there are places behind them. -/
theorem ofDigits_append (base : Nat) (l m : List Nat) :
    ofDigits base (l ++ m) = ofDigits base l * base ^ m.length + ofDigits base m := by
  have hfold : ∀ (m : List Nat) (n : Nat),
      m.foldl (fun n d => base * n + d) n = n * base ^ m.length + ofDigits base m := by
    intro m
    induction m with
    | nil => intro n; simp [ofDigits]
    | cons d m ih =>
        intro n
        rw [ofDigits, List.foldl_cons, List.foldl_cons, ih, ih (base * 0 + d), List.length_cons]
        ring
  rw [ofDigits, List.foldl_append, hfold]
  rfl

theorem ofDigits_zeros (base zeros : Nat) (ds : List Nat) :
    ofDigits base (List.replicate zeros 0 ++ ds) = ofDigits base ds := by
  have hzero : ∀ zeros, ofDigits base (List.replicate zeros 0) = 0 := by
    intro zeros
    induction zeros with
    | zero => rfl
    | succ zeros ih =>
        rw [List.replicate_succ', ofDigits_append, ih]
        simp [ofDigits]
  rw [ofDigits_append, hzero, Nat.zero_mul, Nat.zero_add]

/-- The digits of a number denote it. -/
theorem ofDigits_digits {base : Nat} (hbase : 2 ≤ base) (n : Nat) :
    ofDigits base (digits base n) = n ∧ ∀ d ∈ digits base n, d < base := by
  induction n using Nat.strongRecOn with
  | ind n ih =>
      rw [digits]
      by_cases hshort : n < base ∨ base < 2
      · rw [dif_pos hshort]
        have hn : n < base := hshort.resolve_right (Nat.not_lt.mpr hbase)
        refine ⟨?_, List.forall_mem_singleton.mpr hn⟩
        rw [ofDigits, List.foldl_cons, List.foldl_nil, Nat.mul_zero, Nat.zero_add]
      · rw [dif_neg hshort]
        obtain ⟨hvalue, hdigits⟩ := ih (n / base) (Nat.div_lt_self (by omega) hbase)
        constructor
        · rw [ofDigits_append, hvalue, List.length_singleton, Nat.pow_one, ofDigits,
            List.foldl_cons, List.foldl_nil, Nat.mul_zero, Nat.zero_add]
          exact Nat.div_add_mod' n base
        · rw [List.forall_mem_append, List.forall_mem_singleton]
          exact ⟨hdigits, Nat.mod_lt n (by omega)⟩

/-- The values of the digits that a number has in a form of fixed width. -/
def hexValues (width n : Nat) : List Nat := (List.range width).reverse.map fun i => n / 16 ^ i % 16

theorem hexadecimal_eq (width n : Nat) :
    hexadecimal width n = (hexValues width n).map digitChar := by
  rw [hexValues, List.map_map]
  rfl

theorem hexValues_lt {width n : Nat} : ∀ d ∈ hexValues width n, d < 16 := by
  intro d hd
  obtain ⟨i, -, rfl⟩ := List.mem_map.mp hd
  exact Nat.mod_lt _ (by decide)

theorem length_hexValues (width n : Nat) : (hexValues width n).length = width := by
  simp [hexValues]

/-- In a form of fixed width, as much of a number is left as there is place for. -/
theorem ofDigits_hexadecimal (width n : Nat) :
    ofDigits 16 (hexValues width n) = n % 16 ^ width := by
  induction width with
  | zero => simp [hexValues, ofDigits, Nat.mod_one]
  | succ width ih =>
      have hfront : hexValues (width + 1) n = [n / 16 ^ width % 16] ++ hexValues width n := by
        simp [hexValues, List.range_succ]
      rw [hfront, ofDigits_append, ih, length_hexValues, ofDigits, List.foldl_cons, List.foldl_nil,
        Nat.mul_zero, Nat.zero_add, Nat.pow_succ, Nat.mod_mul]
      ring

end UsageLedger.Text
