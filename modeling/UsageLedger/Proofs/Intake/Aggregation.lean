/-
What collapsing a batch into groups keeps.

Adding a record to the groups either merges it into the one group of its user and model
or appends a group.  So whatever merging adds up is added up over the batch
(`Aggregates.sum_eq`), and whatever holds of a merged group exactly when it holds of both
parts holds of all groups exactly when it holds of all records
(`Aggregates.forall_mem_iff`).  Sums of counters are of the first sort; users, bounds on
counters and bounds on times are of the second.
-/
import Mathlib.Algebra.BigOperators.Group.List.Basic
import Mathlib.Tactic.Ring
import UsageLedger.Intake.Usage
import UsageLedger.Proofs.Intake.Timestamp
import UsageLedger.Proofs.Outcome
import UsageLedger.Proofs.Schema.Field
import UsageLedger.Proofs.Schema.Numeral

namespace UsageLedger

namespace Intake

/-- A whole number passes the check of a column exactly when it fits. -/
theorem requireInt64_int {n : Int} {field label : String}
    (h : requireInt64 (.int n) field label = .ok ()) : fitsInt64 n = true := by
  cases hfits : fitsInt64 n with
  | true => rfl
  | false =>
      obtain ⟨fits, hwithin, h⟩ := bind_eq_ok.mp h
      cases hwithin
      rw [if_neg (by simp [hfits])] at h
      obtain ⟨-, -, h⟩ := bind_eq_ok.mp h
      cases h

theorem requireInt64_of_fits {n : Int} (h : fitsInt64 n = true) (field label : String) :
    requireInt64 (.int n) field label = .ok () := by
  have hwithin : withinInt64 (.int n) = .ok true := congrArg Except.ok h
  unfold requireInt64
  rw [hwithin]
  rfl

theorem requireInt64_of_not_fits {n : Int} (hfits : fitsInt64 n = false)
    (hlength : n.natAbs < 10 ^ Text.maxDigits) (field label : String) :
    requireInt64 (.int n) field label = .error (.failure (.outOfRange field label (.int n))) := by
  have hwithin : withinInt64 (.int n) = .ok false := congrArg Except.ok hfits
  unfold requireInt64
  rw [hwithin, Fault.checkLength_int hlength]
  rfl

end Intake

namespace UsageRecord

variable {scheme : IdScheme} {record : Record} {r : UsageRecord}

/-- What a checked record of token usage says. -/
structure Checked (scheme : IdScheme) (record : Record) (r : UsageRecord) : Prop where
  user : Intake.requireUser scheme record EventKind.tokenUsage.name = .ok r.user
  data : TokenUsageData.ofValue (record.get Intake.dataKey) = .valid r.data
  time : r.reportedTimestamp = record.get Intake.timestampKey
  /-- Counters are natural numbers that fit their columns. -/
  counters : ∀ counter ∈ counters r.data, 0 ≤ counter.2 ∧ Intake.fitsInt64 counter.2 = true

theorem checkCounter_ok {user : UserId} {counter : String × Int}
    (h : checkCounter user counter = .ok ()) :
    0 ≤ counter.2 ∧ Intake.fitsInt64 counter.2 = true := by
  unfold checkCounter at h
  split at h
  · obtain ⟨-, -, h⟩ := bind_eq_ok.mp h
    cases h
  · next hnonneg => exact ⟨not_lt.mp hnonneg, Intake.requireInt64_int h⟩

theorem checkCounter_of_fits {counter : String × Int} (hnonneg : 0 ≤ counter.2)
    (hfits : Intake.fitsInt64 counter.2 = true) (user : UserId) :
    checkCounter user counter = .ok () := by
  rw [checkCounter, if_neg (not_lt.mpr hnonneg)]
  exact Intake.requireInt64_of_fits hfits _ _

theorem checked_of_ofRecord (h : ofRecord scheme record = .ok r) : Checked scheme record r := by
  obtain ⟨user, huser, h⟩ := bind_eq_ok.mp h
  obtain ⟨data, hdata, h⟩ := bind_eq_ok.mp h
  obtain ⟨_, hcounters, h⟩ := bind_eq_ok.mp h
  cases h
  refine ⟨mapError_eq_ok.mp huser, ?_, rfl, fun counter hmem => ?_⟩
  · exact Validated.toExcept_eq_ok.mp (mapError_eq_ok.mp hdata)
  · exact checkCounter_ok (forM_eq_ok.mp hcounters counter hmem)

theorem Checked.ofRecord (h : Checked scheme record r) : ofRecord scheme record = .ok r := by
  have hcounters : (UsageRecord.counters r.data).forM (checkCounter r.user) = .ok () := by
    refine forM_eq_ok.mpr fun counter hmem => ?_
    obtain ⟨hnonneg, hfits⟩ := h.counters counter hmem
    exact checkCounter_of_fits hnonneg hfits _
  unfold UsageRecord.ofRecord
  rw [h.user, h.data]
  show ((UsageRecord.counters r.data).forM (checkCounter r.user) >>= fun _ => _) = _
  rw [hcounters, ← h.time]
  rfl

end UsageRecord

namespace UsageGroup

variable {g h : UsageGroup} {groups singles : List UsageGroup}

/-! ### Merging -/

theorem sameKey_iff : g.sameKey h = true ↔ g.user = h.user ∧ g.model = h.model := by
  simp [sameKey]

/-- What merging adds up, adding a group adds to the groups. -/
theorem sum_addTo {m : UsageGroup → Int}
    (hm : ∀ g h : UsageGroup, g.sameKey h = true → m (g.merge h) = m g + m h) :
    ((addTo groups h).map m).sum = (groups.map m).sum + m h := by
  induction groups with
  | nil => simp [addTo]
  | cons g groups ih =>
      unfold addTo
      by_cases hkey : g.sameKey h = true
      · rw [if_pos hkey, List.map_cons, List.sum_cons, List.map_cons, List.sum_cons, hm g h hkey]
        ring
      · rw [if_neg hkey, List.map_cons, List.sum_cons, List.map_cons, List.sum_cons, ih]
        ring

theorem sum_foldl_addTo {m : UsageGroup → Int}
    (hm : ∀ g h : UsageGroup, g.sameKey h = true → m (g.merge h) = m g + m h) :
    ((singles.foldl addTo groups).map m).sum = (groups.map m).sum + (singles.map m).sum := by
  induction singles generalizing groups with
  | nil => simp
  | cons h singles ih =>
      rw [List.foldl_cons, ih, sum_addTo hm, List.map_cons, List.sum_cons]
      ring

/-- What holds of a merged group exactly when it holds of both parts, holds after adding a group
exactly when it holds of all groups before and of the one added. -/
theorem forall_mem_addTo {Q : UsageGroup → Prop}
    (hQ : ∀ g h : UsageGroup, g.sameKey h = true → (Q (g.merge h) ↔ Q g ∧ Q h)) :
    (∀ g ∈ addTo groups h, Q g) ↔ (∀ g ∈ groups, Q g) ∧ Q h := by
  induction groups with
  | nil => simp [addTo]
  | cons g groups ih =>
      unfold addTo
      by_cases hkey : g.sameKey h = true
      · rw [if_pos hkey, List.forall_mem_cons, List.forall_mem_cons, hQ g h hkey]
        tauto
      · rw [if_neg hkey, List.forall_mem_cons, List.forall_mem_cons, ih]
        tauto

theorem forall_mem_foldl_addTo {Q : UsageGroup → Prop}
    (hQ : ∀ g h : UsageGroup, g.sameKey h = true → (Q (g.merge h) ↔ Q g ∧ Q h)) :
    (∀ g ∈ singles.foldl addTo groups, Q g) ↔ (∀ g ∈ groups, Q g) ∧ ∀ g ∈ singles, Q g := by
  induction singles generalizing groups with
  | nil => simp
  | cons h singles ih =>
      rw [List.foldl_cons, ih, forall_mem_addTo hQ, List.forall_mem_cons, and_assoc]

/-- What merging keeps, holds of all groups when it holds of all that were added. -/
theorem forall_mem_foldl_addTo_of {Q : UsageGroup → Prop}
    (hQ : ∀ g h : UsageGroup, g.sameKey h = true → Q g → Q h → Q (g.merge h))
    (hgroups : ∀ g ∈ groups, Q g) (hsingles : ∀ g ∈ singles, Q g) :
    ∀ g ∈ singles.foldl addTo groups, Q g := by
  have hadd : ∀ {groups : List UsageGroup} {h : UsageGroup}, (∀ g ∈ groups, Q g) → Q h →
      ∀ g ∈ addTo groups h, Q g := by
    intro groups h hgroups hh
    induction groups with
    | nil => simpa [addTo] using hh
    | cons g groups ih =>
        rw [List.forall_mem_cons] at hgroups
        unfold addTo
        by_cases hkey : g.sameKey h = true
        · rw [if_pos hkey, List.forall_mem_cons]
          exact ⟨hQ g h hkey hgroups.1 hh, hgroups.2⟩
        · rw [if_neg hkey, List.forall_mem_cons]
          exact ⟨hgroups.1, ih hgroups.2⟩
  induction singles generalizing groups with
  | nil => exact hgroups
  | cons h singles ih =>
      rw [List.forall_mem_cons] at hsingles
      exact ih (hadd hgroups hsingles.1) hsingles.2

/-- The first group stays first, and stays about its user and model. -/
theorem exists_head_foldl_addTo {g : UsageGroup} :
    ∃ first rest, singles.foldl addTo (g :: groups) = first :: rest ∧
      first.user = g.user ∧ first.model = g.model := by
  induction singles generalizing g groups with
  | nil => exact ⟨g, groups, rfl, rfl, rfl⟩
  | cons h singles ih =>
      rw [List.foldl_cons, addTo]
      by_cases hkey : g.sameKey h = true
      · rw [if_pos hkey]
        exact ih (g := g.merge h)
      · rw [if_neg hkey]
        exact ih

/-- The group of one record is the record, with its time read. -/
theorem single_ok {r : UsageRecord} (hg : single r = .ok g) :
    ∃ t, Intake.parseTimestamp r.reportedTimestamp = .ok t ∧
      g = ⟨r.user, r.data.model, r.data.inputTokens, r.data.outputTokens, r.data.inputDebitAmount,
        r.data.outputDebitAmount, t⟩ := by
  obtain ⟨t, ht, hg⟩ := bind_eq_ok.mp hg
  cases hg
  exact ⟨t, ht, rfl⟩

/-! ### Batches -/

variable {records : List UsageRecord}

/-- What an accepted batch is made of: a group for each record, collapsed, with sums that fit. -/
structure Aggregates (records : List UsageRecord) (singles groups : List UsageGroup) : Prop where
  each : List.Forall₂ (fun r g => single r = .ok g) records singles
  collapsed : groups = singles.foldl addTo []
  sums : ∀ g ∈ groups, ∀ counter ∈ g.counters, Intake.fitsInt64 counter.2 = true

theorem aggregates_of_aggregate (hgroups : aggregate records = .ok groups) :
    ∃ singles, Aggregates records singles groups := by
  obtain ⟨singles, hsingles, hgroups⟩ := bind_eq_ok.mp hgroups
  obtain ⟨_, hsums, hgroups⟩ := bind_eq_ok.mp hgroups
  cases hgroups
  refine ⟨singles, mapM_eq_ok.mp hsingles, rfl, fun g hg counter hmem => ?_⟩
  exact Intake.requireInt64_int (forM_eq_ok.mp (forM_eq_ok.mp hsums g hg) counter hmem)

namespace Aggregates

/-- **What merging adds up, a batch adds up over its records.** -/
theorem sum_eq (ha : Aggregates records singles groups) {m : UsageGroup → Int}
    (hm : ∀ g h : UsageGroup, g.sameKey h = true → m (g.merge h) = m g + m h) :
    (groups.map m).sum = (singles.map m).sum := by
  rw [ha.collapsed, sum_foldl_addTo hm]
  simp

theorem forall_mem_iff (ha : Aggregates records singles groups) {Q : UsageGroup → Prop}
    (hQ : ∀ g h : UsageGroup, g.sameKey h = true → (Q (g.merge h) ↔ Q g ∧ Q h)) :
    (∀ g ∈ groups, Q g) ↔ ∀ g ∈ singles, Q g := by
  rw [ha.collapsed, forall_mem_foldl_addTo hQ]
  simp

theorem forall_mem_of (ha : Aggregates records singles groups) {Q : UsageGroup → Prop}
    (hQ : ∀ g h : UsageGroup, g.sameKey h = true → Q g → Q h → Q (g.merge h))
    (hsingles : ∀ g ∈ singles, Q g) : ∀ g ∈ groups, Q g := by
  rw [ha.collapsed]
  exact forall_mem_foldl_addTo_of hQ (by simp) hsingles

/-- The first group is about the user and the model of the first record. -/
theorem exists_head {r : UsageRecord} (ha : Aggregates (r :: records) singles groups) :
    ∃ first rest, groups = first :: rest ∧ first.user = r.user ∧ first.model = r.data.model := by
  obtain ⟨heach, hcollapsed, -⟩ := ha
  cases heach with
  | @cons _ g _ singles hg _ =>
      obtain ⟨first, rest, hfold, huser, hmodel⟩ : ∃ first rest, singles.foldl addTo [g] =
          first :: rest ∧ first.user = g.user ∧ first.model = g.model := exists_head_foldl_addTo
      obtain ⟨t, -, rfl⟩ := single_ok hg
      exact ⟨first, rest, hcollapsed.trans hfold, huser, hmodel⟩

end Aggregates

/-! ### Single records -/

/-- A batch of one record has one group. -/
theorem Aggregates.of_single {r : UsageRecord} (ha : Aggregates [r] singles groups) :
    ∃ g, single r = .ok g ∧ groups = [g] := by
  obtain ⟨heach, hcollapsed, -⟩ := ha
  cases heach with
  | @cons _ g _ _ hg hrest =>
      cases hrest
      exact ⟨g, hg, hcollapsed⟩

theorem aggregate_singleton {r : UsageRecord} (hg : single r = .ok g)
    (hfits : ∀ counter ∈ g.counters, Intake.fitsInt64 counter.2 = true) :
    aggregate [r] = .ok [g] := by
  have hsingles : [r].mapM single = .ok [g] := mapM_eq_ok.mpr (.cons hg .nil)
  have hsums : [g].forM checkSums = .ok () := by
    refine forM_eq_ok.mpr (List.forall_mem_singleton.mpr ?_)
    exact forM_eq_ok.mpr fun counter hmem => Intake.requireInt64_of_fits (hfits counter hmem) _ _
  rw [aggregate, hsingles]
  show ([g].forM checkSums >>= fun _ => .ok [g]) = _
  rw [hsums]
  rfl

/-- The times of groups are in universal time. -/
theorem Aggregates.offset (ha : Aggregates records singles groups) :
    ∀ g ∈ groups, g.reportedAt.offset = some 0 := by
  refine ha.forall_mem_of (fun g h _ hg hh => ?_) fun g hg => ?_
  · show (if g.reportedAt.instant < h.reportedAt.instant then h.reportedAt
      else g.reportedAt).offset = some 0
    split
    · exact hh
    · exact hg
  · obtain ⟨r, -, hr⟩ := exists_of_mem_forall₂ ha.each hg
    obtain ⟨t, ht, rfl⟩ := single_ok hr
    exact Intake.parseTimestamp_offset ht

/-- The counters of groups are natural numbers when those of the records are. -/
theorem Aggregates.nonneg (ha : Aggregates records singles groups)
    (hrecords : ∀ r ∈ records, ∀ counter ∈ UsageRecord.counters r.data, 0 ≤ counter.2) :
    ∀ g ∈ groups, ∀ counter ∈ g.counters, 0 ≤ counter.2 := by
  refine ha.forall_mem_of (fun g h _ hg hh => ?_) fun g hg => ?_
  · simp only [counters, merge, List.forall_mem_cons] at hg hh ⊢
    obtain ⟨hg₁, hg₂, hg₃, hg₄, -⟩ := hg
    obtain ⟨hh₁, hh₂, hh₃, hh₄, -⟩ := hh
    refine ⟨?_, ?_, ?_, ?_, by simp⟩ <;> omega
  · obtain ⟨r, hmem, hr⟩ := exists_of_mem_forall₂ ha.each hg
    obtain ⟨t, -, rfl⟩ := single_ok hr
    exact hrecords r hmem

end UsageGroup

end UsageLedger
