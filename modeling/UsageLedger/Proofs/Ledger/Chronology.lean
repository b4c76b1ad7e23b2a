/-
Stored times sort like time.

What is accepted as a time is stored as the canonical text of a universal time with the instant of
what was read (`StoredAt`), and canonical texts compare like instants (`canonicalText_lt_iff`).  So
nothing about the value that a time came from matters to the order, neither its offset nor whether
it was a text, and the latest of the stored times is found by comparing texts.
-/
import Mathlib.Order.Bounds.Defs
import UsageLedger.Proofs.Calendar.Order
import UsageLedger.Proofs.Ledger.Consistency
import UsageLedger.Proofs.Ledger.Run
import UsageLedger.Proofs.Ledger.Times

namespace UsageLedger.Intake

/-- The text is what is stored of a value that gives a reading with the instant. -/
def StoredAt (s : String) (instant : Int) : Prop :=
  ∃ v time, canonicalTimestamp v = .ok s ∧ Reads v time ∧ time.instant = instant

variable {v : Value} {s s' : String} {time : Timestamp} {instant instant' : Int}

/-- Only a value that gives a reading is accepted as a time. -/
theorem reads_of_canonicalTimestamp (h : canonicalTimestamp v = .ok s) : ∃ time, Reads v time := by
  by_contra hnone
  obtain ⟨f, hf, -⟩ := parseTimestamp_of_not_reads (not_exists.mp hnone)
  rw [canonicalTimestamp, hf] at h
  cases h

/-- What is stored of a reading depends on its instant only. -/
theorem canonicalTimestamp_of_reads (h : Reads v time) :
    canonicalTimestamp v = (match Timestamp.ofInstant? time.instant with
      | some u => .ok u.canonicalText
      | none => .error (.fault timeOverflow)) := by
  rw [canonicalTimestamp, parseTimestamp_of_reads h, normalize, Timestamp.toUniversal?]
  cases Timestamp.ofInstant? time.instant <;> rfl

namespace StoredAt

theorem of_canonicalTimestamp (h : canonicalTimestamp v = .ok s) :
    ∃ instant, StoredAt s instant := by
  obtain ⟨time, hreads⟩ := reads_of_canonicalTimestamp h
  exact ⟨time.instant, v, time, h, hreads, rfl⟩

/-- What is stored is the text of the instant in universal time. -/
theorem exists_universal (h : StoredAt s instant) :
    ∃ u : Timestamp, u.offset = some 0 ∧ u.instant = instant ∧ u.canonicalText = s := by
  obtain ⟨v, time, hstored, hreads, rfl⟩ := h
  rw [canonicalTimestamp, parseTimestamp_of_reads hreads] at hstored
  obtain ⟨u, hu, htext⟩ := map_eq_ok.mp hstored
  obtain ⟨hoffset, hinstant⟩ := Timestamp.toUniversal?_eq_some (normalize_eq_ok.mp hu)
  exact ⟨u, hoffset, hinstant, htext⟩

theorem length_eq (h : StoredAt s instant) : s.length = 32 := by
  obtain ⟨u, hoffset, -, rfl⟩ := h.exists_universal
  exact Timestamp.length_canonicalText hoffset

theorem lt_iff (h : StoredAt s instant) (h' : StoredAt s' instant') :
    s < s' ↔ instant < instant' := by
  obtain ⟨u, hu, rfl, rfl⟩ := h.exists_universal
  obtain ⟨u', hu', rfl, rfl⟩ := h'.exists_universal
  exact Timestamp.canonicalText_lt_iff hu hu'

theorem le_iff (h : StoredAt s instant) (h' : StoredAt s' instant') :
    s ≤ s' ↔ instant ≤ instant' := by
  rw [← not_lt, ← not_lt, h'.lt_iff h]

theorem eq_iff (h : StoredAt s instant) (h' : StoredAt s' instant') :
    s = s' ↔ instant = instant' := by
  rw [le_antisymm_iff, le_antisymm_iff, h.le_iff h', h'.le_iff h]

/-- The greatest of the texts is the one with the latest instant. -/
theorem isGreatest_iff {stored : Set String} (hstored : ∀ s ∈ stored, ∃ instant, StoredAt s instant)
    (h : StoredAt s instant) :
    IsGreatest stored s ↔ IsGreatest {i | ∃ s ∈ stored, StoredAt s i} instant := by
  constructor
  · rintro ⟨hmem, hgreatest⟩
    refine ⟨⟨s, hmem, h⟩, ?_⟩
    rintro i ⟨s', hs', hi⟩
    exact (hi.le_iff h).mp (hgreatest hs')
  · rintro ⟨⟨s', hmem, hs'⟩, hgreatest⟩
    obtain rfl := (hs'.eq_iff h).mpr rfl
    refine ⟨hmem, fun r hr => ?_⟩
    obtain ⟨i, hi⟩ := hstored r hr
    exact (hi.le_iff h).mpr (hgreatest ⟨r, hr, hi⟩)

end StoredAt

end UsageLedger.Intake

namespace UsageLedger.Ledger

open Intake

/-- **Stored times sort like time.**  A value that is accepted as a time gives a reading, and what
is stored of it has 32 characters.  Two stored texts compare like the instants of the readings they
come from; two texts whose readings have one instant are stored alike, whatever their offsets.
After every run the events hold such texts, and the greatest of any of them is the one whose instant
is the latest. -/
theorem stored_times_sort :
    (∀ v s, canonicalTimestamp v = .ok s → s.length = 32 ∧ ∃ time, Reads v time) ∧
    (∀ v v' s s' time time', canonicalTimestamp v = .ok s → canonicalTimestamp v' = .ok s' →
      Reads v time → Reads v' time' →
      (s < s' ↔ time.instant < time'.instant) ∧ (s = s' ↔ time.instant = time'.instant) ∧
        (s' < s ↔ time'.instant < time.instant)) ∧
    (∀ text text' time time', Reads (.text text) time → Reads (.text text') time' →
      time.instant = time'.instant →
      canonicalTimestamp (.text text) = canonicalTimestamp (.text text')) ∧
    ∀ scheme calls, ∀ stored : Set String,
      (∀ e ∈ (runCalls scheme calls Tables.empty).events,
        ∃ s instant, e.reportedTimestamp = .text s ∧ StoredAt s instant) ∧
      ((∀ s ∈ stored, ∃ e ∈ (runCalls scheme calls Tables.empty).events,
          e.reportedTimestamp = .text s) →
        ∀ latest instant, StoredAt latest instant →
          (IsGreatest stored latest ↔
            IsGreatest {i | ∃ s ∈ stored, StoredAt s i} instant)) := by
  refine ⟨fun v s h => ?_, fun v v' s s' time time' h h' hreads hreads' => ?_,
    fun text text' time time' hreads hreads' hinstant => ?_, fun scheme calls stored => ?_⟩
  · obtain ⟨instant, hstored⟩ := StoredAt.of_canonicalTimestamp h
    exact ⟨hstored.length_eq, reads_of_canonicalTimestamp h⟩
  · have hs : StoredAt s time.instant := ⟨v, time, h, hreads, rfl⟩
    have hs' : StoredAt s' time'.instant := ⟨v', time', h', hreads', rfl⟩
    exact ⟨hs.lt_iff hs', hs.eq_iff hs', hs'.lt_iff hs⟩
  · rw [canonicalTimestamp_of_reads hreads, canonicalTimestamp_of_reads hreads', hinstant]
  · have hrows : ∀ e ∈ (runCalls scheme calls Tables.empty).events,
        ∃ s instant, e.reportedTimestamp = .text s ∧ StoredAt s instant := by
      intro e he
      obtain ⟨s, hs, hcanonical⟩ := (consistent_runCalls calls consistent_empty).times e he
      obtain ⟨instant, hstored⟩ := StoredAt.of_canonicalTimestamp hcanonical
      exact ⟨s, instant, hs, hstored⟩
    refine ⟨hrows, fun hstored latest instant => StoredAt.isGreatest_iff fun s hs => ?_⟩
    obtain ⟨e, he, hcell⟩ := hstored s hs
    obtain ⟨s', instant', hcell', hs'⟩ := hrows e he
    obtain rfl : s = s' := Cell.text.inj (hcell.symm.trans hcell')
    exact ⟨instant', hs'⟩

namespace Sample

/-- A microsecond before the year 2025 in universal time. -/
def oldYear : Timestamp :=
  { Timestamp.first with wall := 63871286399999999, wall_lt := by decide }

/-- Two SDK calls of user 7, the later one first. -/
def twoYears : List (Circumstances × Call) :=
  [grant, (.quiet 2, .add (.event ⟨Intake.Sample.newYear, .sdkCall (.number 7) ⟨.raw, 5⟩⟩) key),
    (.quiet 3, .add (.event ⟨oldYear, .sdkCall (.number 7) ⟨.raw, 5⟩⟩) key)]

theorem times_twoYears : (runCalls .bigint twoYears Tables.empty).events.map (·.reportedTimestamp)
    = [.text "2025-01-01T00:30:00.000000+00:00", .text "2024-12-31T23:59:59.999999+00:00"] := by
  decide +kernel

end Sample

/-- A time of the old year on its clock is stored as the time of the new year that it is, and of
two stored times the greatest text has the latest instant. -/
theorem stored_times_sort_sample :
    canonicalTimestamp (.text "2024-12-31T23:30:00-01:00")
      = canonicalTimestamp (.text "2025-01-01T00:30:00Z") ∧
    Sample.oldYear.instant < Intake.Sample.eve.instant ∧
    IsGreatest {i | ∃ s ∈ ({"2025-01-01T00:30:00.000000+00:00",
        "2024-12-31T23:59:59.999999+00:00"} : Set String), StoredAt s i}
      Intake.Sample.eve.instant := by
  obtain ⟨-, hcompare, htexts, hruns⟩ := stored_times_sort
  have heve := Intake.Sample.canonicalTimestamp_eve
  have hold : canonicalTimestamp (.timestamp Sample.oldYear)
      = .ok "2024-12-31T23:59:59.999999+00:00" := by
    have htext : Sample.oldYear.canonicalText = "2024-12-31T23:59:59.999999+00:00" := by
      decide +kernel
    rw [← htext]
    rfl
  refine ⟨htexts _ _ Intake.Sample.eve Intake.Sample.newYear (.text (by decide) (by decide +kernel))
    (.text (by decide) (by decide +kernel)) rfl, ?_, ?_⟩
  · exact (hcompare _ _ _ _ _ _ hold heve (.timestamp _) (.timestamp _)).1.mp (by decide)
  · obtain ⟨-, hgreatest⟩ := hruns .bigint Sample.twoYears
      {"2025-01-01T00:30:00.000000+00:00", "2024-12-31T23:59:59.999999+00:00"}
    refine (hgreatest (fun s hs => ?_) _ _ ⟨_, _, heve, .timestamp _, rfl⟩).mp ⟨.inl rfl, ?_⟩
    · have hmem : Cell.text s ∈ (runCalls .bigint Sample.twoYears Tables.empty).events.map
          (·.reportedTimestamp) := by
        rw [Sample.times_twoYears]
        simpa using hs
      exact List.mem_map.mp hmem
    · rintro s (rfl | rfl)
      · exact le_refl _
      · decide

end UsageLedger.Ledger
