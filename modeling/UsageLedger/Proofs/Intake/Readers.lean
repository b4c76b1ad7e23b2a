/-
A text that is a time to the event model and to the ledger is one time.

The event model reads the bytes of a text as they are.  The ledger trims the text and spells `Z` out
before it reads it, but what the event model takes has no blank at either end (`isInk_ends`) and the
bytes of other characters are no ASCII, so the ledger reads the same bytes, with each `Z` spelt out
(`timestampText_bytes`).
-/
import UsageLedger.Proofs.Calendar.Agreement
import UsageLedger.Proofs.Intake.Timestamp

namespace UsageLedger

/-! ### Texts and their bytes -/

/-- A text that begins and ends with something is trimmed of nothing. -/
theorem Text.trim_eq_self_of_ends {p : Char → Bool} {l : List Char}
    (hfirst : ∀ c ∈ l.head?, p c = false) (hlast : ∀ c ∈ l.getLast?, p c = false) :
    trim p l = l := by
  have hkeep : ∀ m : List Char, (∀ c ∈ m.head?, p c = false) → m.dropWhile p = m := by
    intro m hm
    cases m with
    | nil => rfl
    | cons c m => rw [List.dropWhile_cons_of_neg (by simp [hm c rfl])]
  unfold trim
  rw [hkeep l hfirst, hkeep l.reverse (by rwa [List.head?_reverse]), List.reverse_reverse]

namespace Calendar

theorem encode_ascii {c : Char} (h : c.toNat < 128) :
    String.utf8EncodeChar c = [UInt8.ofNat c.toNat] := if_pos (Nat.le_of_lt_succ h)

/-- The bytes of other characters are no ASCII. -/
theorem le_of_mem_encode {c : Char} (h : ¬ c.toNat < 128) :
    ∀ x ∈ String.utf8EncodeChar c, 128 ≤ x.toNat := by
  have hbyte : ∀ n, 128 ≤ n → n < 256 → 128 ≤ (UInt8.ofNat n).toNat := by
    intro n hle hlt
    rwa [UInt8.toNat_ofNat', Nat.mod_eq_of_lt hlt]
  have hcode : c.val.toNat = c.toNat := rfl
  unfold String.utf8EncodeChar
  dsimp only
  rw [hcode, if_neg (by omega)]
  split
  · simp only [List.forall_mem_cons]
    exact ⟨hbyte _ (by omega) (by omega), hbyte _ (by omega) (by omega), nofun⟩
  · split
    · simp only [List.forall_mem_cons]
      exact ⟨hbyte _ (by omega) (by omega), hbyte _ (by omega) (by omega),
        hbyte _ (by omega) (by omega), nofun⟩
    · simp only [List.forall_mem_cons]
      exact ⟨hbyte _ (by omega) (by omega), hbyte _ (by omega) (by omega),
        hbyte _ (by omega) (by omega), hbyte _ (by omega) (by omega), nofun⟩

theorem toNat_of_mem_encode {c : Char} {x : UInt8} (h : x ∈ String.utf8EncodeChar c)
    (hx : x.toNat < 128) : c.toNat = x.toNat := by
  by_cases hc : c.toNat < 128
  · rw [encode_ascii hc] at h
    obtain rfl := List.mem_singleton.mp h
    rw [UInt8.toNat_ofNat', Nat.mod_eq_of_lt (by omega)]
  · exact absurd hx (Nat.not_lt.mpr (le_of_mem_encode hc x h))

theorem toUTF8_toList (s : String) : s.toUTF8.toList = s.toList.flatMap String.utf8EncodeChar := by
  rw [← toUTF8_ofList, String.ofList_toList]

/-- ASCII bytes are those of their characters. -/
theorem asciiChars_encode {l : List Char}
    (h : ∀ x ∈ l.flatMap String.utf8EncodeChar, x.toNat < 128) :
    asciiChars (l.flatMap String.utf8EncodeChar) = l := by
  induction l with
  | nil => rfl
  | cons c l ih =>
      rw [List.flatMap_cons, List.forall_mem_append] at h
      obtain ⟨x, hx⟩ := List.exists_mem_of_ne_nil _ (String.utf8EncodeChar_ne_nil (c := c))
      have hc : c.toNat < 128 := toNat_of_mem_encode hx (h.1 x hx) ▸ h.1 x hx
      have hchar : Char.ofNat (UInt8.ofNat c.toNat).toNat = c := by
        rw [UInt8.toNat_ofNat', Nat.mod_eq_of_lt (by omega), Char.ofNat_toNat]
      rw [List.flatMap_cons, encode_ascii hc, List.singleton_append, asciiChars, List.map_cons,
        hchar]
      exact congrArg (c :: ·) (ih h.2)

theorem IsNumeral.toNat_lt {l : List Char} (h : IsNumeral l) : ∀ c ∈ l, c.toNat < 128 := by
  intro c hc
  rcases h c hc with hdigit | rfl
  · have hrange := asciiDigit?_isSome.mp hdigit
    omega
  · decide

/-- A numeral is the same in bytes and in characters. -/
theorem isNumeral_of_asciiChars {l : List Char}
    (h : IsNumeral (asciiChars (l.flatMap String.utf8EncodeChar))) : IsNumeral l := by
  rwa [asciiChars_encode] at h
  intro x hx
  rw [← toNat_asciiChar]
  exact h.toNat_lt _ (List.mem_map_of_mem hx)

theorem asciiChars_of_isNumeral {l : List Char} (h : IsNumeral l) :
    asciiChars (l.flatMap String.utf8EncodeChar) = l := by
  refine asciiChars_encode fun x hx => ?_
  obtain ⟨c, hc, hx⟩ := List.mem_flatMap.mp hx
  have hlt := h.toNat_lt c hc
  rw [encode_ascii hlt] at hx
  obtain rfl := List.mem_singleton.mp hx
  rwa [UInt8.toNat_ofNat', Nat.mod_eq_of_lt (by omega)]

end Calendar

namespace Intake

open Calendar

theorem encode_spellOutZulu (l : List Char) :
    (spellOutZulu l).flatMap String.utf8EncodeChar
      = (l.flatMap String.utf8EncodeChar).flatMap spellByte := by
  induction l with
  | nil => rfl
  | cons c l ih =>
      have hspelt : spellOutZulu (c :: l) = spellOutZulu [c] ++ spellOutZulu l :=
        spellOutZulu_append [c] l
      rw [hspelt, List.flatMap_append, ih, List.flatMap_cons, List.flatMap_append]
      refine congrArg (· ++ _) ?_
      by_cases hc : c = 'Z'
      · rw [hc]
        decide
      · rw [spellOutZulu_eq_self (by simpa using hc), List.flatMap_singleton]
        refine (spell_eq_self fun x hx hz => hc ?_).symm
        have hcode : c.toNat = x.toNat := toNat_of_mem_encode hx (by rw [hz]; decide)
        rw [← Char.ofNat_toNat c, hcode, hz]
        rfl

/-- A visible ASCII character is no blank. -/
theorem isBlank_of_isInk {c : Char} {x : UInt8} (hx : IsInk x) (h : c.toNat = x.toNat) :
    Text.isBlank c = false := by
  unfold IsInk at hx
  simp only [Text.isBlank, Text.isWhiteSpace, h, Bool.or_eq_false_iff, Bool.and_eq_false_iff,
    decide_eq_false_iff_not, beq_eq_false_iff_ne]
  omega

/-- What the strict reader takes is what the lenient reader is given, but for `Z`. -/
theorem timestampText_bytes {s : String} {d : Timestamp} (h : readRfc3339 s = .ok d) :
    (timestampText s).toUTF8.toList = s.toUTF8.toList.flatMap spellByte := by
  obtain ⟨hfirst, hlast⟩ := isInk_ends h
  rw [toUTF8_toList] at hfirst hlast
  have htrim : Text.trim Text.isBlank s.toList = s.toList := by
    refine Text.trim_eq_self_of_ends (fun c hc => ?_) fun c hc => ?_
    · obtain ⟨l, hl⟩ := List.head?_eq_some_iff.mp hc
      obtain ⟨x, more, hx⟩ := List.exists_cons_of_ne_nil (String.utf8EncodeChar_ne_nil (c := c))
      rw [hl, List.flatMap_cons, hx] at hfirst
      have hink : IsInk x := hfirst x rfl
      have hmem : x ∈ String.utf8EncodeChar c := by rw [hx]; exact List.mem_cons_self
      exact isBlank_of_isInk hink (toNat_of_mem_encode hmem (hink.2.trans_lt (by decide)))
    · obtain ⟨l, hl⟩ := List.getLast?_eq_some_iff.mp hc
      have hne : String.utf8EncodeChar c ≠ [] := String.utf8EncodeChar_ne_nil
      rw [hl, List.flatMap_append, List.flatMap_singleton, List.getLast?_append_of_ne_nil _ hne,
        List.getLast?_eq_getLast_of_ne_nil hne] at hlast
      have hink := hlast _ rfl
      have hmem := List.getLast_mem hne
      exact isBlank_of_isInk hink (toNat_of_mem_encode hmem (hink.2.trans_lt (by decide)))
  rw [timestampText, htrim, toUTF8_ofList, encode_spellOutZulu, toUTF8_toList]

/-- **What both readers take is the same time to both, unless it is a numeral.** -/
theorem parseTimestamp_of_readRfc3339 {s : String} {d u : Timestamp} (hread : readRfc3339 s = .ok d)
    (hparse : parseTimestamp (.text s) = .ok u) (hs : ¬ IsNumeral s.toList) :
    parseTimestamp (.timestamp d) = .ok u := by
  have hbytes : ¬ IsNumeral (asciiChars s.toUTF8.toList) := by
    intro hnumeral
    rw [toUTF8_toList] at hnumeral
    exact hs (isNumeral_of_asciiChars hnumeral)
  unfold parseTimestamp at hparse
  dsimp only at hparse
  split at hparse
  · cases hparse
  · split at hparse
    · next d' hiso =>
        rw [readIso?, timestampText_bytes hread] at hiso
        obtain rfl := readIsoBytes?_of_readRfc3339Bytes hread hiso hbytes
        exact hparse
    · cases hparse

/-- A numeral is a Unix time to the strict reader. -/
theorem readUnixTime?_of_readRfc3339 {s : String} {d : Timestamp} (hread : readRfc3339 s = .ok d)
    (hs : IsNumeral s.toList) : readUnixTime? s.toList = some (.ok d) := by
  have hchars : asciiChars s.toUTF8.toList = s.toList := by
    rw [toUTF8_toList]
    exact asciiChars_of_isNumeral hs
  rw [← hchars] at hs ⊢
  exact readUnixTime?_of_isNumeral hread hs

end Intake

end UsageLedger
