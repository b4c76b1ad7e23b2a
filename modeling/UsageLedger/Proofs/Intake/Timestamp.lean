/-
Reading a time that was written gives its instant back.

`parseTimestamp` brings every time it accepts into universal time.  The texts of a timestamp
are read with blanks around them and with `Z` for the offset of universal time, and what is
heard of a timestamp is brought into universal time in its turn (`parseTimestamp_chars`).
So the text of a timestamp has the instant of the timestamp, as long as its offset is not
shorter than a second (`instants_kept`), and the stored form is a fixed point
(`canonicalTimestamp_stored`).
-/
import UsageLedger.Intake.Checks
import UsageLedger.Proofs.Calendar.IsoText
import UsageLedger.Proofs.Outcome

namespace UsageLedger

/-- Blanks around a text without blanks are trimmed, and nothing else. -/
theorem Text.trim_padded {p : Char → Bool} {before l after : List Char}
    (hbefore : ∀ c ∈ before, p c = true) (hafter : ∀ c ∈ after, p c = true)
    (hl : ∀ c ∈ l, p c = false) : trim p (before ++ l ++ after) = l := by
  have hself : ∀ m : List Char, (∀ c ∈ m, p c = false) → m.dropWhile p = m := by
    intro m hm
    cases m with
    | nil => rfl
    | cons c m => rw [List.dropWhile_cons_of_neg (by simp [hm c])]
  have hfront : (before ++ l ++ after).dropWhile p = l ++ after.dropWhile p ∨
      (before ++ l ++ after).dropWhile p = l ++ after := by
    rw [List.append_assoc, List.dropWhile_append_of_pos hbefore]
    cases l with
    | nil => exact .inl rfl
    | cons c l =>
        rw [List.cons_append, List.dropWhile_cons_of_neg (by simp [hl c])]
        exact .inr rfl
  have hback : ∀ m : List Char, (∀ c ∈ m, p c = true) →
      ((l ++ m).reverse.dropWhile p).reverse = l := by
    intro m hm
    rw [List.reverse_append, List.dropWhile_append_of_pos (by simpa using hm),
      hself l.reverse (by simpa using hl), List.reverse_reverse]
  unfold trim
  rcases hfront with h | h <;> rw [h]
  · exact hback _ fun c hc => hafter c ((List.dropWhile_sublist p).mem hc)
  · exact hback _ hafter

namespace Intake

/-! ### Texts -/

theorem spellOutZulu_append (l m : List Char) :
    spellOutZulu (l ++ m) = spellOutZulu l ++ spellOutZulu m := List.flatMap_append

theorem spellOutZulu_eq_self {l : List Char} (h : ∀ c ∈ l, c ≠ 'Z') : spellOutZulu l = l := by
  unfold spellOutZulu
  induction l with
  | nil => rfl
  | cons c l ih =>
      rw [List.flatMap_cons, if_neg (h c (by simp)), ih fun x hx => h x (by simp [hx])]
      rfl

section Padding

variable {before after : String} (hbefore : Text.allBlank before = true)
  (hafter : Text.allBlank after = true)

include hbefore hafter

/-- A text without blanks is read as it stands, whatever blanks are around it. -/
theorem parseTimestamp_padded {l : List Char} {t : Timestamp} (hne : l ≠ [])
    (hl : ∀ c ∈ l, Text.isBlank c = false)
    (hread : Calendar.readIso? (String.ofList (spellOutZulu l)) = some t) :
    parseTimestamp (.text (before ++ String.ofList l ++ after)) = normalize t := by
  have htext : timestampText (before ++ String.ofList l ++ after)
      = String.ofList (spellOutZulu l) := by
    rw [timestampText, String.toList_append, String.toList_append, String.toList_ofList,
      Text.trim_padded (List.all_eq_true.mp hbefore) (List.all_eq_true.mp hafter) hl]
  have hblank : Text.allBlank (before ++ String.ofList l ++ after) = false := by
    obtain ⟨c, hc⟩ := List.exists_mem_of_ne_nil l hne
    refine List.all_eq_false.mpr ⟨c, ?_, by simp [hl c hc]⟩
    rw [String.toList_append, String.toList_append, String.toList_ofList]
    exact List.mem_append_left _ (List.mem_append_right _ hc)
  unfold parseTimestamp
  simp only [hblank, htext, hread, Bool.false_eq_true, if_false]

/-- **What is heard of a timestamp is read from its texts.** -/
theorem parseTimestamp_chars {t : Timestamp} {form : Calendar.ClockForm}
    (hshows : form.Shows t.time) :
    parseTimestamp (.text (before ++ String.ofList (t.chars form) ++ after))
      = normalize t.heard := by
  have hplain : ∀ c ∈ t.chars form, Timestamp.IsPlain c := fun c hc => Timestamp.isPlain_chars hc
  refine parseTimestamp_padded hbefore hafter (by simp [Timestamp.chars])
    (fun c hc => (hplain c hc).2) ?_
  rw [spellOutZulu_eq_self fun c hc => (hplain c hc).1]
  exact Timestamp.readIso?_chars t hshows

/-- Universal time may be marked by `Z`. -/
theorem parseTimestamp_zulu {t : Timestamp} {form : Calendar.ClockForm}
    (hshows : form.Shows t.time) (h : t.offset = some 0) :
    parseTimestamp (.text (before ++ String.ofList (t.withoutOffset.chars form ++ ['Z']) ++ after))
      = normalize t.heard := by
  have hplain : ∀ c ∈ t.withoutOffset.chars form, Timestamp.IsPlain c :=
    fun c hc => Timestamp.isPlain_chars hc
  have hspelt : spellOutZulu (t.withoutOffset.chars form ++ ['Z']) = t.chars form := by
    rw [spellOutZulu_append, spellOutZulu_eq_self fun c hc => (hplain c hc).1,
      Timestamp.chars_universal h]
    rfl
  refine parseTimestamp_padded hbefore hafter (by simp) (fun c hc => ?_) ?_
  · rcases List.mem_append.mp hc with hc | hc
    · exact (hplain c hc).2
    · obtain rfl := List.mem_singleton.mp hc
      decide
  · rw [hspelt]
    exact Timestamp.readIso?_chars t hshows

end Padding

/-! ### Universal time -/

theorem normalize_eq_ok {t u : Timestamp} : normalize t = .ok u ↔ t.toUniversal? = some u := by
  unfold normalize
  cases t.toUniversal? <;> simp

theorem normalize_universal {t : Timestamp} (h : t.offset = some 0) : normalize t = .ok t :=
  normalize_eq_ok.mpr (Timestamp.toUniversal?_universal h)

/-- Bringing a time into universal time keeps its instant, and so does dropping the offset then. -/
theorem instant_of_normalize {t u : Timestamp} (h : normalize t = .ok u) :
    u.withoutOffset.instant = t.instant := by
  obtain ⟨hoffset, hinstant⟩ := Timestamp.toUniversal?_eq_some (normalize_eq_ok.mp h)
  rw [← hinstant, Timestamp.instant, Timestamp.instant, hoffset]
  rfl

/-- **The canonical text of a universal time is read as that time.** -/
theorem parseTimestamp_canonicalText {t : Timestamp} (h : t.offset = some 0) :
    parseTimestamp (.text t.canonicalText) = .ok t := by
  have hheard : t.heard = t := Timestamp.heard_eq_self fun o ho =>
    .inl (Option.some.inj (ho.symm.trans h))
  have hread : parseTimestamp (.text ("" ++ String.ofList (t.chars .micros) ++ ""))
      = normalize t.heard := parseTimestamp_chars rfl rfl trivial
  rw [hheard, normalize_universal h, String.append_empty, String.empty_append] at hread
  rw [Timestamp.canonicalText_eq, hread]

/-- A time is accepted only in universal time. -/
theorem parseTimestamp_offset {v : Value} {t : Timestamp} (h : parseTimestamp v = .ok t) :
    t.offset = some 0 := by
  have hnormal : ∀ {s : Timestamp}, normalize s = .ok t → t.offset = some 0 :=
    fun hs => (Timestamp.toUniversal?_eq_some (normalize_eq_ok.mp hs)).1
  unfold parseTimestamp at h
  split at h
  · split at h
    · cases h
    · split at h
      · exact hnormal h
      · cases h
  · split at h
    · exact hnormal h
    · cases h
  · exact hnormal h
  · cases h

theorem canonicalTimestamp_of_parseTimestamp {v : Value} {t : Timestamp}
    (h : parseTimestamp v = .ok t) : canonicalTimestamp v = .ok t.canonicalText := by
  rw [canonicalTimestamp, h]
  rfl

/-- **A time in its stored form is stored as it is.** -/
theorem canonicalTimestamp_stored {v : Value} {s : String} (h : canonicalTimestamp v = .ok s) :
    canonicalTimestamp (.text s) = .ok s := by
  unfold canonicalTimestamp at h ⊢
  cases ht : parseTimestamp v with
  | error e => rw [ht] at h; cases h
  | ok t =>
      rw [ht] at h
      cases h
      rw [parseTimestamp_canonicalText (parseTimestamp_offset ht)]
      rfl

/-! ### Instants -/

/-- **Reading a time keeps its instant.**  A timestamp is accepted as the same instant in
universal time, and so are its text, with blanks around it, and the text of a universal time that
ends in `Z`; only the text of an offset shorter than a second is another matter.  What is accepted
of a stored time is the time that was stored. -/
theorem instants_kept :
    (∀ d u : Timestamp, d.toUniversal? = some u →
      u.offset = some 0 ∧ u.instant = d.instant ∧ parseTimestamp (.timestamp d) = .ok u ∧
      ∀ before after : String, Text.allBlank before = true → Text.allBlank after = true →
        ((∀ o ∈ d.offset, o = 0 ∨ 1000000 ≤ o.natAbs) →
          parseTimestamp (.text (before ++ d.isoText ++ after)) = .ok u) ∧
        (d.offset = some 0 → d.isoText = d.withoutOffset.isoText ++ "+00:00" ∧
          parseTimestamp (.text (before ++ (d.withoutOffset.isoText ++ "Z") ++ after)) = .ok u)) ∧
    ∀ v s, canonicalTimestamp v = .ok s →
      canonicalTimestamp (.text s) = .ok s ∧ parseTimestamp (.text s) = parseTimestamp v := by
  refine ⟨fun d u hu => ?_, fun v s hs => ⟨canonicalTimestamp_stored hs, ?_⟩⟩
  · obtain ⟨hoffset, hinstant⟩ := Timestamp.toUniversal?_eq_some hu
    refine ⟨hoffset, hinstant, normalize_eq_ok.mpr hu, fun before after hbefore hafter =>
      ⟨fun hlong => ?_, fun hzero => ⟨?_, ?_⟩⟩⟩
    · rw [Timestamp.isoText_eq, parseTimestamp_chars hbefore hafter d.shows_isoForm,
        Timestamp.heard_eq_self hlong]
      exact normalize_eq_ok.mpr hu
    · rw [Timestamp.isoText_eq, Timestamp.chars_universal hzero, String.ofList_append,
        Timestamp.isoText_eq]
      rfl
    · have hheard : d.heard = d := Timestamp.heard_eq_self fun o ho =>
        .inl (Option.some.inj (ho.symm.trans hzero))
      have hmarked : d.withoutOffset.isoText ++ "Z"
          = String.ofList (d.withoutOffset.chars d.isoForm ++ ['Z']) := by
        rw [Timestamp.isoText_eq, String.ofList_append]
        rfl
      rw [hmarked, parseTimestamp_zulu hbefore hafter d.shows_isoForm hzero, hheard]
      exact normalize_eq_ok.mpr hu
  · obtain ⟨t, ht, rfl⟩ := map_eq_ok.mp hs
    rw [parseTimestamp_canonicalText (parseTimestamp_offset ht), ht]

namespace Sample

/-- New Year's Eve of 2024 at half past eleven, on a clock one hour behind universal time. -/
def eve : Timestamp :=
  ⟨63871284600000000, some (-3600000000), by decide, by
    rintro o ⟨rfl⟩
    decide⟩

/-- The same instant in universal time, where it is the year after. -/
def newYear : Timestamp :=
  { Timestamp.first with wall := 63871288200000000, wall_lt := by decide }

/-- Midnight on a clock that is half a millisecond ahead. -/
def ahead : Timestamp :=
  ⟨63839664000000000, some 500, by decide, by
    rintro o ⟨rfl⟩
    decide⟩

theorem isoText_eve : eve.isoText = "2024-12-31T23:30:00-01:00" := by decide +kernel

theorem isoText_newYear : newYear.withoutOffset.isoText = "2025-01-01T00:30:00" := by
  decide +kernel

theorem canonicalTimestamp_eve :
    canonicalTimestamp (.timestamp eve) = .ok "2025-01-01T00:30:00.000000+00:00" := by
  have htext : newYear.canonicalText = "2025-01-01T00:30:00.000000+00:00" := by decide +kernel
  rw [← htext]
  rfl

end Sample

/-- A year ends on the way to universal time, and the instant stays. -/
theorem instants_kept_sample :
    parseTimestamp (.text " 2024-12-31T23:30:00-01:00\n") = .ok Sample.newYear ∧
      parseTimestamp (.text "\t2025-01-01T00:30:00Z ") = .ok Sample.newYear ∧
      parseTimestamp (.text "2025-01-01T00:30:00.000000+00:00") = .ok Sample.newYear := by
  obtain ⟨htexts, hstored⟩ := instants_kept
  have heve : Sample.eve.toUniversal? = some Sample.newYear := rfl
  have hnewYear : Sample.newYear.toUniversal? = some Sample.newYear := rfl
  have hblank : ∀ s ∈ [" ", "\n", "\t"], Text.allBlank s = true := by decide
  refine ⟨?_, ?_, ?_⟩
  · obtain ⟨-, -, -, hread⟩ := htexts _ _ heve
    have htext := (hread " " "\n" (hblank _ (by simp)) (hblank _ (by simp))).1 fun o ho => by
      cases ho
      decide
    rwa [Sample.isoText_eve] at htext
  · obtain ⟨-, -, -, hread⟩ := htexts _ _ hnewYear
    have htext := ((hread "\t" " " (hblank _ (by simp)) (hblank _ (by simp))).2 rfl).2
    rwa [Sample.isoText_newYear] at htext
  · exact (hstored _ _ Sample.canonicalTimestamp_eve).2

/-- The text of an offset shorter than a second is read as another instant. -/
theorem parseTimestamp_isoText_moves :
    ¬ ∀ d u : Timestamp, d.toUniversal? = some u →
      parseTimestamp (.timestamp d) = .ok u ∧ parseTimestamp (.text d.isoText) = .ok u := by
  intro h
  have hread : parseTimestamp (.text ("" ++ String.ofList (Sample.ahead.chars Sample.ahead.isoForm)
      ++ "")) = normalize Sample.ahead.heard :=
    parseTimestamp_chars rfl rfl Sample.ahead.shows_isoForm
  rw [String.append_empty, String.empty_append, ← Timestamp.isoText_eq] at hread
  have hearlier := (h Sample.ahead _ rfl).2
  rw [hread] at hearlier
  exact absurd (congrArg Timestamp.wall (Except.ok.inj hearlier)) (by decide +kernel)

end Intake

end UsageLedger
