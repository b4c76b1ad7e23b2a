/-
What the groups of a batch are, said without the fold that makes them.

`UsageGroup.summary` gives each pair of a user and a model one group, in the order in
which the pairs were first seen, with the sums and the latest time of the records of the
pair.  The fold of `UsageGroup.aggregate` holds the summary of what it has read after
every prefix of a batch (`foldl_addTo_eq_summary`): one more record changes the group of
its own pair and no other, and a pair that was not seen yet comes last.  What is left of
`aggregate` is to read times before and to check sums after.
-/
import Mathlib.Algebra.Order.BigOperators.Group.List
import Mathlib.Data.List.MinMax
import UsageLedger.Proofs.Intake.Aggregation

namespace UsageLedger

/-! ### Items without repetitions -/

section eraseDups

variable {α : Type} [BEq α] [LawfulBEq α] {l l' : List α}

theorem eraseDups_concat_of_mem {a : α} (h : a ∈ l) : (l ++ [a]).eraseDups = l.eraseDups := by
  rw [List.eraseDups_append]
  simp [List.removeAll, h]

theorem eraseDups_concat_of_not_mem {a : α} (h : a ∉ l) :
    (l ++ [a]).eraseDups = l.eraseDups ++ [a] := by
  have hsingle : [a].eraseDups = [a] := by rw [List.eraseDups_cons]; rfl
  rw [List.eraseDups_append]
  simp [List.removeAll, h, hsingle]

theorem nodup_eraseDups (l : List α) : l.eraseDups.Nodup := by
  induction l using List.reverseRecOn with
  | nil => simp
  | append_singleton l a ih =>
      by_cases ha : a ∈ l
      · rwa [eraseDups_concat_of_mem ha]
      · rw [eraseDups_concat_of_not_mem ha, List.nodup_append]
        refine ⟨ih, List.pairwise_singleton _ _, ?_⟩
        intro b hb c hc hbc
        rw [hbc, List.mem_singleton.mp hc, List.mem_eraseDups] at hb
        exact ha hb

theorem length_eraseDups_le (l : List α) : l.eraseDups.length ≤ l.length :=
  List.Nodup.length_le_of_subset (nodup_eraseDups l) fun _ h => List.mem_eraseDups.mp h

theorem perm_eraseDups (h : l.Perm l') : l.eraseDups.Perm l'.eraseDups := by
  refine (List.perm_ext_iff_of_nodup (nodup_eraseDups l) (nodup_eraseDups l')).mpr fun a => ?_
  rw [List.mem_eraseDups, List.mem_eraseDups, h.mem_iff]

end eraseDups

/-! ### Summaries -/

namespace UsageRecord

/-- The user and the model that a record is about. -/
def pair (r : UsageRecord) : UserId × String := (r.user, r.data.model)

/-- The time of a record can be read. -/
def Readable (r : UsageRecord) : Prop :=
  ∃ t, Intake.parseTimestamp r.reportedTimestamp = .ok t

/-- The sum of a counter over records. -/
def total (counter : TokenUsageData → Int) (records : List UsageRecord) : Int :=
  (records.map fun r => counter r.data).sum

/-- The times of records, in universal time. -/
def times (records : List UsageRecord) : List Timestamp :=
  records.filterMap fun r => (Intake.parseTimestamp r.reportedTimestamp).toOption

/-- The latest time of records: the one that none of them is after. -/
def latest (records : List UsageRecord) : Timestamp :=
  ((times records).find? fun t => (times records).all fun s => s.instant ≤ t.instant).getD default

end UsageRecord

namespace UsageGroup

/-- The user and the model that a group is about. -/
def pair (g : UsageGroup) : UserId × String := (g.user, g.model)

/-- The group of a pair: the sums and the latest time of its records. -/
def summarize (records : List UsageRecord) (pair : UserId × String) : UsageGroup :=
  let own := records.filter (·.pair = pair)
  { user := pair.1
    model := pair.2
    inputTokens := UsageRecord.total (·.inputTokens) own
    outputTokens := UsageRecord.total (·.outputTokens) own
    inputDebitAmount := UsageRecord.total (·.inputDebitAmount) own
    outputDebitAmount := UsageRecord.total (·.outputDebitAmount) own
    reportedAt := UsageRecord.latest own }

/-- The group of each pair that occurs in records, in the order in which pairs were first seen. -/
def summary (records : List UsageRecord) : List UsageGroup :=
  (records.map (·.pair)).eraseDups.map (summarize records)

end UsageGroup

namespace UsageRecord

variable {records before : List UsageRecord} {r : UsageRecord} {t : Timestamp}
  {counter : TokenUsageData → Int}

theorem total_concat : total counter (records ++ [r]) = total counter records + counter r.data := by
  simp [total]

theorem times_concat (ht : Intake.parseTimestamp r.reportedTimestamp = .ok t) :
    times (records ++ [r]) = times records ++ [t] := by
  rw [times, List.filterMap_append]
  simp [ht, times, Except.toOption]

theorem times_ne_nil (hr : r ∈ records) (hreadable : r.Readable) : times records ≠ [] := by
  obtain ⟨t, ht⟩ := hreadable
  refine List.ne_nil_of_mem (a := t) (List.mem_filterMap.mpr ⟨r, hr, ?_⟩)
  rw [ht]
  rfl

/-- Universal times of one instant are one time. -/
theorem eq_of_mem_times {s : Timestamp} (hs : s ∈ times records) (ht : t ∈ times records)
    (hinstant : s.instant = t.instant) : s = t := by
  have hoffset : ∀ {u}, u ∈ times records → u.offset = some 0 := by
    intro u hu
    obtain ⟨r, -, hr⟩ := List.mem_filterMap.mp hu
    cases ht : Intake.parseTimestamp r.reportedTimestamp with
    | error e => rw [ht] at hr; cases hr
    | ok s =>
        rw [ht] at hr
        cases hr
        exact Intake.parseTimestamp_offset ht
  have hs := hoffset hs
  have ht := hoffset ht
  cases s
  cases t
  simp_all [Timestamp.instant]

/-- The latest time is one of the times, and none is later. -/
theorem latest_isGreatest (hsome : times records ≠ []) :
    latest records ∈ times records ∧
      ∀ t ∈ times records, t.instant ≤ (latest records).instant := by
  cases hmax : (times records).argmax Timestamp.instant with
  | none => exact absurd (List.argmax_eq_none.mp hmax) hsome
  | some m =>
      have hall : ((times records).all fun s => s.instant ≤ m.instant) = true :=
        List.all_eq_true.mpr fun s hs => decide_eq_true (List.le_of_mem_argmax hs hmax)
      cases hfind : (times records).find? fun t => (times records).all (·.instant ≤ t.instant) with
      | none => exact absurd hall (List.find?_eq_none.mp hfind m (List.argmax_mem hmax))
      | some t =>
          have hlatest : latest records = t := by rw [latest, hfind]; rfl
          have hnone := List.find?_some hfind
          rw [hlatest]
          refine ⟨List.mem_of_find?_eq_some hfind, fun s hs => ?_⟩
          exact of_decide_eq_true (List.all_eq_true.mp hnone s hs)

/-- There is one latest time. -/
theorem latest_eq (ht : t ∈ times records) (hle : ∀ s ∈ times records, s.instant ≤ t.instant) :
    latest records = t := by
  obtain ⟨hmem, hgreatest⟩ := latest_isGreatest (List.ne_nil_of_mem ht)
  exact eq_of_mem_times hmem ht (le_antisymm (hle _ hmem) (hgreatest _ ht))

/-- A later time takes the place of the latest one so far. -/
theorem latest_concat (ht : Intake.parseTimestamp r.reportedTimestamp = .ok t)
    (hsome : times records ≠ []) :
    latest (records ++ [r]) =
      if (latest records).instant < t.instant then t else latest records := by
  obtain ⟨hmem, hgreatest⟩ := latest_isGreatest hsome
  have hsplit : ∀ s ∈ times (records ++ [r]), s ∈ times records ∨ s = t := by
    intro s hs
    rwa [times_concat ht, List.mem_append, List.mem_singleton] at hs
  split
  · next hlater =>
      refine latest_eq (by simp [times_concat ht]) fun s hs => ?_
      rcases hsplit s hs with hs | rfl
      · exact (hgreatest s hs).trans hlater.le
      · exact le_rfl
  · next hearlier =>
      refine latest_eq (by simp [times_concat ht, hmem]) fun s hs => ?_
      rcases hsplit s hs with hs | rfl
      · exact hgreatest s hs
      · exact not_lt.mp hearlier

theorem latest_singleton (ht : Intake.parseTimestamp r.reportedTimestamp = .ok t) :
    latest [r] = t := by
  have htimes : times ([] ++ [r]) = [] ++ [t] := times_concat ht
  rw [List.nil_append, List.nil_append] at htimes
  exact latest_eq (by simp [htimes]) (by simp [htimes])

theorem total_perm {permuted : List UsageRecord} (h : records.Perm permuted) :
    total counter records = total counter permuted :=
  (h.map _).sum_eq

theorem latest_perm {permuted : List UsageRecord} (h : records.Perm permuted) :
    latest records = latest permuted := by
  have htimes : (times records).Perm (times permuted) := h.filterMap _
  by_cases hsome : times records = []
  · rw [hsome, List.nil_perm] at htimes
    rw [latest, latest, hsome, htimes]
  · obtain ⟨hmem, hgreatest⟩ := latest_isGreatest hsome
    exact (latest_eq (htimes.mem_iff.mp hmem) fun s hs =>
      hgreatest s (htimes.mem_iff.mpr hs)).symm

end UsageRecord

namespace UsageGroup

variable {records : List UsageRecord} {singles : List UsageGroup} {r : UsageRecord} {g : UsageGroup}
  {pair : UserId × String}

@[simp] theorem summarize_pair : (summarize records pair).pair = pair := rfl

theorem sameKey_iff_pair {h : UsageGroup} : g.sameKey h = true ↔ g.pair = h.pair := by
  rw [sameKey_iff, pair, pair, Prod.mk.injEq]

theorem pair_of_single (hg : single r = .ok g) : g.pair = r.pair := by
  obtain ⟨t, -, rfl⟩ := single_ok hg
  rfl

/-! ### One more record -/

theorem summarize_concat_of_ne (h : r.pair ≠ pair) :
    summarize (records ++ [r]) pair = summarize records pair := by
  have hown : (records ++ [r]).filter (·.pair = pair) = records.filter (·.pair = pair) := by
    simp [List.filter_append, h]
  unfold summarize
  rw [hown]

theorem filter_concat_self :
    (records ++ [r]).filter (·.pair = r.pair) = records.filter (·.pair = r.pair) ++ [r] := by
  simp [List.filter_append]

/-- The first record of a pair is its group. -/
theorem summarize_concat_of_not_mem (hg : single r = .ok g) (h : r.pair ∉ records.map (·.pair)) :
    summarize (records ++ [r]) r.pair = g := by
  obtain ⟨t, ht, rfl⟩ := single_ok hg
  have hnone : records.filter (·.pair = r.pair) = [] := by
    rw [List.filter_eq_nil_iff]
    intro r' hr' hpair
    exact h (List.mem_map.mpr ⟨r', hr', of_decide_eq_true hpair⟩)
  simp only [summarize, filter_concat_self, hnone, List.nil_append,
    UsageRecord.latest_singleton ht]
  simp [UsageRecord.total, UsageRecord.pair]

/-- A further record of a pair is merged into its group. -/
theorem summarize_concat_of_mem (hg : single r = .ok g) (hreadable : ∀ r ∈ records, r.Readable)
    (h : r.pair ∈ records.map (·.pair)) :
    summarize (records ++ [r]) r.pair = (summarize records r.pair).merge g := by
  obtain ⟨t, ht, rfl⟩ := single_ok hg
  obtain ⟨r', hr', hpair⟩ := List.mem_map.mp h
  have hsome : UsageRecord.times (records.filter (·.pair = r.pair)) ≠ [] :=
    UsageRecord.times_ne_nil (List.mem_filter.mpr ⟨hr', decide_eq_true hpair⟩) (hreadable r' hr')
  simp only [summarize, filter_concat_self, UsageRecord.latest_concat ht hsome,
    UsageRecord.total_concat, merge]
  rfl

/-- Adding a group to those of distinct pairs. -/
theorem addTo_map {pairs : List (UserId × String)} {f : UserId × String → UsageGroup}
    (hf : ∀ pair, (f pair).pair = pair) (hnodup : pairs.Nodup) :
    addTo (pairs.map f) g =
      if g.pair ∈ pairs then
        pairs.map fun pair => if pair = g.pair then (f pair).merge g else f pair
      else pairs.map f ++ [g] := by
  induction pairs with
  | nil => rfl
  | cons pair pairs ih =>
      rw [List.nodup_cons] at hnodup
      rw [List.map_cons, addTo]
      by_cases hpair : pair = g.pair
      · -- the group of the pair is found, and there is no other
        have hrest : pairs.map (fun pair => if pair = g.pair then (f pair).merge g else f pair)
            = pairs.map f := by
          refine List.map_congr_left fun p hp => if_neg fun hp' => hnodup.1 ?_
          rwa [hpair, ← hp']
        rw [if_pos (sameKey_iff_pair.mpr ((hf pair).trans hpair)), if_pos (by simp [hpair]),
          List.map_cons, if_pos hpair, hrest]
      · have hmem : g.pair ∈ pair :: pairs ↔ g.pair ∈ pairs := by
          rw [List.mem_cons, or_iff_right (Ne.symm hpair)]
        rw [if_neg (fun hkey => hpair ((hf pair).symm.trans (sameKey_iff_pair.mp hkey))),
          ih hnodup.2, if_congr hmem rfl rfl, List.map_cons, if_neg hpair, List.cons_append]
        split <;> rfl

theorem readable_of_singles (hsingles : records.mapM single = .ok singles) :
    ∀ r ∈ records, r.Readable := by
  intro r hr
  obtain ⟨g, hg⟩ := exists_mapM_eq_ok.mp ⟨singles, hsingles⟩ r hr
  obtain ⟨t, ht, -⟩ := single_ok hg
  exact ⟨t, ht⟩

/-- **Collapsing the groups of single records gives the summary of the records.** -/
theorem foldl_addTo_eq_summary (hsingles : records.mapM single = .ok singles) :
    singles.foldl addTo [] = summary records := by
  -- on the last record: the groups so far are the summary of the records before it
  induction records using List.reverseRecOn generalizing singles with
  | nil => cases hsingles; rfl
  | append_singleton records r ih =>
      rw [List.mapM_append] at hsingles
      obtain ⟨before, hbefore, hlast⟩ := bind_eq_ok.mp hsingles
      obtain ⟨_, hsingle, hsum⟩ := bind_eq_ok.mp hlast
      cases hsum
      rw [mapM_eq_ok] at hsingle
      obtain _ | ⟨hg, _ | _⟩ := hsingle
      have hpair := pair_of_single hg
      rw [List.foldl_append, ih hbefore, List.foldl_cons, List.foldl_nil, summary, summary,
        addTo_map (fun _ => summarize_pair) (nodup_eraseDups _), List.map_append,
        List.map_singleton, hpair]
      by_cases hmem : r.pair ∈ records.map (·.pair)
      · rw [if_pos (List.mem_eraseDups.mpr hmem), eraseDups_concat_of_mem hmem]
        refine List.map_congr_left fun pair _ => ?_
        by_cases hp : pair = r.pair
        · rw [if_pos hp, hp, summarize_concat_of_mem hg (readable_of_singles hbefore) hmem]
        · rw [if_neg hp, summarize_concat_of_ne (Ne.symm hp)]
      · rw [if_neg (mt List.mem_eraseDups.mp hmem), eraseDups_concat_of_not_mem hmem,
          List.map_append, List.map_singleton, summarize_concat_of_not_mem hg hmem]
        congr 1
        refine List.map_congr_left fun pair hp => (summarize_concat_of_ne ?_).symm
        rintro rfl
        exact hmem (List.mem_eraseDups.mp hp)

/-! ### Order -/

theorem summarize_perm {permuted : List UsageRecord} (h : records.Perm permuted) :
    summarize records pair = summarize permuted pair := by
  have hown := h.filter (·.pair = pair)
  simp only [summarize, UsageRecord.total_perm hown, UsageRecord.latest_perm hown]

/-- Records in another order have the same groups in another order. -/
theorem summary_perm {permuted : List UsageRecord} (h : records.Perm permuted) :
    (summary records).Perm (summary permuted) := by
  have hgroups : summary permuted = (permuted.map (·.pair)).eraseDups.map (summarize records) :=
    List.map_congr_left fun _ _ => (summarize_perm h).symm
  rw [hgroups]
  exact (perm_eraseDups (h.map _)).map _

/-! ### Sums -/

/-- The sums of natural numbers that fit a column are natural numbers, and there is a bound for them
in the number of records. -/
theorem bounds_summary (hchecked : ∀ r ∈ records, ∀ counter ∈ UsageRecord.counters r.data,
      0 ≤ counter.2 ∧ Intake.fitsInt64 counter.2 = true) :
    ∀ g ∈ summary records, ∀ counter ∈ g.counters,
      0 ≤ counter.2 ∧ counter.2 ≤ records.length * Intake.int64Max := by
  intro g hg counter hcounter
  obtain ⟨pair, -, rfl⟩ := List.mem_map.mp hg
  have htotal : ∀ c : TokenUsageData → Int, (∀ d, ∃ name, (name, c d) ∈ UsageRecord.counters d) →
      0 ≤ UsageRecord.total c (records.filter (·.pair = pair)) ∧
        UsageRecord.total c (records.filter (·.pair = pair)) ≤
          records.length * Intake.int64Max := by
    intro c hc
    have hterms : ∀ n ∈ (records.filter (·.pair = pair)).map (fun r => c r.data),
        0 ≤ n ∧ n ≤ Intake.int64Max := by
      intro n hn
      obtain ⟨r, hr, rfl⟩ := List.mem_map.mp hn
      obtain ⟨name, hmem⟩ := hc r.data
      obtain ⟨hnonneg, hfits⟩ := hchecked r (List.mem_of_mem_filter hr) _ hmem
      simp only [Intake.fitsInt64, Bool.and_eq_true, decide_eq_true_eq] at hfits
      exact ⟨hnonneg, hfits.2⟩
    refine ⟨List.sum_nonneg fun n hn => (hterms n hn).1, ?_⟩
    refine (List.sum_le_card_nsmul _ _ fun n hn => (hterms n hn).2).trans ?_
    have hlength : ((records.filter (·.pair = pair)).length : Int) ≤ records.length :=
      Int.ofNat_le.mpr (List.length_filter_le _ _)
    rw [List.length_map, nsmul_eq_mul]
    exact mul_le_mul_of_nonneg_right hlength (by decide)
  simp only [counters, summarize, List.mem_cons, List.not_mem_nil, or_false] at hcounter
  rcases hcounter with rfl | rfl | rfl | rfl
  · exact htotal _ fun d => ⟨"input_tokens", by simp [UsageRecord.counters]⟩
  · exact htotal _ fun d => ⟨"output_tokens", by simp [UsageRecord.counters]⟩
  · exact htotal _ fun d => ⟨"input_debit_amount", by simp [UsageRecord.counters]⟩
  · exact htotal _ fun d => ⟨"output_debit_amount", by simp [UsageRecord.counters]⟩

/-! ### Outcomes -/

theorem exists_singles_iff :
    (∃ singles, records.mapM single = .ok singles) ↔ ∀ r ∈ records, r.Readable := by
  constructor
  · rintro ⟨singles, hsingles⟩
    exact readable_of_singles hsingles
  · intro hreadable
    refine exists_mapM_eq_ok.mpr fun r hr => ?_
    obtain ⟨t, ht⟩ := hreadable r hr
    exact ⟨_, by rw [single, ht]; rfl⟩

/-- Once the times are read, a batch fares as the sums of its summary do. -/
theorem aggregate_of_readable (hreadable : ∀ r ∈ records, r.Readable) :
    aggregate records = (((summary records).flatMap counters).forM fun counter =>
      Intake.requireInt64 (.int counter.2) counter.1 EventKind.tokenUsage.name) >>= fun _ =>
        .ok (summary records) := by
  obtain ⟨singles, hsingles⟩ := exists_singles_iff.mpr hreadable
  rw [forM_flatMap, ← foldl_addTo_eq_summary hsingles, aggregate, hsingles]
  rfl

/-- **The first time that cannot be read decides, whatever the sums are.** -/
theorem aggregate_of_unreadable {before after : List UsageRecord} {e : Raised}
    (hbefore : ∀ r ∈ before, r.Readable)
    (he : Intake.parseTimestamp r.reportedTimestamp = .error e) :
    aggregate (before ++ r :: after) = .error e := by
  have hsingle : single r = .error e := by rw [single, he]; rfl
  have hsingles : (before ++ r :: after).mapM single = .error e :=
    mapM_eq_error_of_first (exists_mapM_eq_ok.mp (exists_singles_iff.mpr hbefore)) hsingle
  rw [aggregate, hsingles]
  rfl

/-- **A batch is accepted exactly when its times can be read and the sums of its summary fit, and
its groups are the summary then.** -/
theorem aggregate_eq_ok_iff {groups : List UsageGroup} :
    aggregate records = .ok groups ↔ (∀ r ∈ records, r.Readable) ∧
      (∀ g ∈ summary records, ∀ counter ∈ g.counters, Intake.fitsInt64 counter.2 = true) ∧
      groups = summary records := by
  constructor
  · intro h
    obtain ⟨singles, hsingles, -⟩ := bind_eq_ok.mp h
    have hreadable := readable_of_singles hsingles
    rw [aggregate_of_readable hreadable] at h
    obtain ⟨_, hsums, h⟩ := bind_eq_ok.mp h
    cases h
    refine ⟨hreadable, fun g hg counter hcounter => ?_, rfl⟩
    exact Intake.requireInt64_int
      (forM_eq_ok.mp hsums counter (List.mem_flatMap.mpr ⟨g, hg, hcounter⟩))
  · rintro ⟨hreadable, hfits, rfl⟩
    rw [aggregate_of_readable hreadable, forM_eq_ok.mpr]
    · rfl
    · intro counter hmem
      obtain ⟨g, hg, hcounter⟩ := List.mem_flatMap.mp hmem
      exact Intake.requireInt64_of_fits (hfits g hg counter hcounter) _ _

/-- The first sum that does not fit its column is refused when it can be written out. -/
theorem aggregate_of_too_large {before after : List (String × Int)} {sum : String × Int}
    (hreadable : ∀ r ∈ records, r.Readable)
    (hsplit : (summary records).flatMap counters = before ++ sum :: after)
    (hbefore : ∀ c ∈ before, Intake.fitsInt64 c.2 = true) (hlarge : Intake.fitsInt64 sum.2 = false)
    (hlength : sum.2.natAbs < 10 ^ Text.maxDigits) :
    aggregate records =
      .error (.failure (.outOfRange sum.1 EventKind.tokenUsage.name (.int sum.2))) := by
  rw [aggregate_of_readable hreadable, hsplit, forM_eq_error_of_first]
  · rfl
  · exact fun c hc => Intake.requireInt64_of_fits (hbefore c hc) _ _
  · exact Intake.requireInt64_of_not_fits hlarge hlength _ _

theorem natAbs_lt_of_le {n : Int} {length : Nat} (hlength : length < 2 ^ 63)
    (hn : 0 ≤ n ∧ n ≤ length * Intake.int64Max) : n.natAbs < 10 ^ Text.maxDigits := by
  have hbound : (length : Int) * Intake.int64Max ≤ (2 ^ 63 : Int) * (2 ^ 63 : Int) :=
    mul_le_mul (by exact_mod_cast hlength.le) (by decide) (by decide) (by decide)
  calc n.natAbs ≤ 2 ^ 126 := by omega
    _ < 10 ^ 126 := Nat.pow_lt_pow_left (by decide) (by decide)
    _ ≤ 10 ^ Text.maxDigits := Nat.pow_le_pow_right (by decide) (by decide)

/-- **A batch collapses to its summary.**  The first record whose time cannot be read decides over
all else.  If all times can be read, the groups are the summary when no sum of it is above the
greatest number of a column, and otherwise the first such sum is refused, by groups and within a
group by the order of the counters.  (A list has less than `2 ^ 63` items, which keeps the sum short
enough for the refusal to be worded.)  The order of the records decides neither whether a batch is
accepted nor which groups it has. -/
theorem aggregate_eq_summary (hchecked : ∀ r ∈ records, ∀ counter ∈ UsageRecord.counters r.data,
      0 ≤ counter.2 ∧ Intake.fitsInt64 counter.2 = true) :
    (∀ before r after e, records = before ++ r :: after → (∀ b ∈ before, b.Readable) →
      Intake.parseTimestamp r.reportedTimestamp = .error e → aggregate records = .error e) ∧
    ((∀ r ∈ records, r.Readable) →
      (∀ g ∈ summary records, ∀ counter ∈ g.counters, counter.2 ≤ Intake.int64Max) →
        aggregate records = .ok (summary records)) ∧
    ((∀ r ∈ records, r.Readable) → ∀ sum,
      ((summary records).flatMap counters).find? (fun c => Intake.int64Max < c.2) = some sum →
        (∀ groups, aggregate records ≠ .ok groups) ∧
        (records.length < 2 ^ 63 → aggregate records =
          .error (.failure (.outOfRange sum.1 EventKind.tokenUsage.name (.int sum.2))))) ∧
    ∀ permuted, records.Perm permuted →
      ((∃ groups, aggregate records = .ok groups) ↔ ∃ groups, aggregate permuted = .ok groups) ∧
      ∀ groups groups', aggregate records = .ok groups → aggregate permuted = .ok groups' →
        groups.Perm groups' := by
  have hbounds := bounds_summary hchecked
  have hfits : ∀ counter ∈ (summary records).flatMap counters,
      Intake.fitsInt64 counter.2 = decide (counter.2 ≤ Intake.int64Max) := by
    intro counter hcounter
    obtain ⟨g, hg, hmem⟩ := List.mem_flatMap.mp hcounter
    have hleast : Intake.int64Min ≤ counter.2 :=
      le_trans (by decide) (hbounds g hg counter hmem).1
    rw [Intake.fitsInt64, decide_eq_true hleast, Bool.true_and]
  refine ⟨?_, fun hreadable hsums => ?_, fun hreadable sum hfirst => ?_, fun permuted h => ?_⟩
  · rintro before r after e rfl hbefore he
    exact aggregate_of_unreadable hbefore he
  · refine aggregate_eq_ok_iff.mpr ⟨hreadable, fun g hg counter hcounter => ?_, rfl⟩
    rw [hfits counter (List.mem_flatMap.mpr ⟨g, hg, hcounter⟩)]
    exact decide_eq_true (hsums g hg counter hcounter)
  · obtain ⟨hlarge, before, after, hsplit, hbefore⟩ := List.find?_eq_some_iff_append.mp hfirst
    have hmem : sum ∈ (summary records).flatMap counters := by simp [hsplit]
    obtain ⟨g, hg, hcounter⟩ := List.mem_flatMap.mp hmem
    have hmisfit : Intake.fitsInt64 sum.2 = false := by
      rw [hfits sum hmem, decide_eq_false_iff_not, not_le]
      exact of_decide_eq_true hlarge
    constructor
    · intro groups hgroups
      rw [(aggregate_eq_ok_iff.mp hgroups).2.1 g hg sum hcounter] at hmisfit
      cases hmisfit
    · refine fun hlength => aggregate_of_too_large hreadable hsplit (fun c hc => ?_) hmisfit
        (natAbs_lt_of_le hlength (hbounds g hg sum hcounter))
      rw [hfits c (by simp [hsplit, hc])]
      simpa using hbefore c hc
  · have hsummary := summary_perm h
    simp only [aggregate_eq_ok_iff, h.mem_iff, hsummary.mem_iff]
    refine ⟨?_, ?_⟩
    · exact ⟨fun ⟨_, hr, hs, _⟩ => ⟨_, hr, hs, rfl⟩, fun ⟨_, hr, hs, _⟩ => ⟨_, hr, hs, rfl⟩⟩
    · rintro groups groups' ⟨-, -, rfl⟩ ⟨-, -, rfl⟩
      exact hsummary

namespace Sample

/-- A time after the first one. -/
def later : Timestamp := ⟨1, some 0, by decide, by simp [microsPerDay]⟩

/-- Input tokens that a user reports for a model. -/
def record (model : String) (tokens : Int) (time : Timestamp) : UsageRecord :=
  ⟨.number 7, ⟨model, tokens, 0, 0, 0⟩, .timestamp time⟩

/-- Two records of one model, with one of another between them. -/
def batch : List UsageRecord :=
  [record "large" 2 later, record "small" 5 .first, record "large" 3 .first]

end Sample

/-- The model seen first comes first, with the sum and the later time of its records. -/
theorem aggregate_eq_summary_sample :
    (∀ r ∈ Sample.batch, ∀ counter ∈ UsageRecord.counters r.data,
      0 ≤ counter.2 ∧ Intake.fitsInt64 counter.2 = true) ∧
    aggregate Sample.batch = .ok [⟨.number 7, "large", 5, 0, 0, 0, Sample.later⟩,
      ⟨.number 7, "small", 5, 0, 0, 0, .first⟩] := by
  have hchecked : ∀ r ∈ Sample.batch, ∀ counter ∈ UsageRecord.counters r.data,
      0 ≤ counter.2 ∧ Intake.fitsInt64 counter.2 = true := by decide
  have hreadable : ∀ r ∈ Sample.batch, r.Readable := by
    simp only [Sample.batch, List.forall_mem_cons]
    exact ⟨⟨_, rfl⟩, ⟨_, rfl⟩, ⟨_, rfl⟩, by simp⟩
  have hsummary : summary Sample.batch = [⟨.number 7, "large", 5, 0, 0, 0, Sample.later⟩,
      ⟨.number 7, "small", 5, 0, 0, 0, .first⟩] := by decide +kernel
  refine ⟨hchecked, ((aggregate_eq_summary hchecked).2.1 hreadable ?_).trans (by rw [hsummary])⟩
  rw [hsummary]
  decide

end UsageGroup

end UsageLedger
