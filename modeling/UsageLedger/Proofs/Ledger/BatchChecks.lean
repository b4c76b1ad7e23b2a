/-
The first check that fails decides over a batch of token usage.

A record has to pass ten checks (`Check`): of its user, of its payload, and two for each of the four
counters.  They are made in the order of their places, so the first that fails tells
(`ofRecord_of_first`), and the records of a batch are checked in turn, so the first bad record tells
(`mapM_eq_error_of_first`).  Nothing behind it is looked at, and nothing is stored before all
records have passed.

Telling a counter means writing it out; so the numbers of the records must not be too long for that
(`PrintableFields`).
-/
import Mathlib.Order.WellFounded
import UsageLedger.Proofs.Ledger.Pricing
import UsageLedger.Proofs.Ledger.Refusals

namespace UsageLedger

namespace UsageRecord

open Intake

/-! ### Counters -/

/-- The counters of a payload. -/
inductive Counter
  | inputTokens
  | outputTokens
  | inputDebitAmount
  | outputDebitAmount
  deriving DecidableEq

namespace Counter

/-- All counters, in the order in which they are checked. -/
def all : List Counter := [inputTokens, outputTokens, inputDebitAmount, outputDebitAmount]

def name : Counter → String
  | inputTokens => "input_tokens"
  | outputTokens => "output_tokens"
  | inputDebitAmount => "input_debit_amount"
  | outputDebitAmount => "output_debit_amount"

/-- The count in a payload. -/
def count (data : TokenUsageData) : Counter → Int
  | inputTokens => data.inputTokens
  | outputTokens => data.outputTokens
  | inputDebitAmount => data.inputDebitAmount
  | outputDebitAmount => data.outputDebitAmount

/-- How many counters are checked before. -/
def place : Counter → Nat
  | inputTokens => 0
  | outputTokens => 1
  | inputDebitAmount => 2
  | outputDebitAmount => 3

theorem counters_eq (data : TokenUsageData) :
    counters data = all.map fun k => (k.name, k.count data) := rfl

theorem mem_counters (k : Counter) (data : TokenUsageData) :
    (k.name, k.count data) ∈ counters data := by
  rw [counters_eq]
  exact List.mem_map.mpr ⟨k, by cases k <;> decide, rfl⟩

/-- The counters in front of one are those that are checked before. -/
theorem exists_split (k : Counter) :
    ∃ before after, all = before ++ k :: after ∧ ∀ b ∈ before, b.place < k.place := by
  cases k with
  | inputTokens => exact ⟨[], _, rfl, by decide⟩
  | outputTokens => exact ⟨[inputTokens], _, rfl, by decide⟩
  | inputDebitAmount => exact ⟨[inputTokens, outputTokens], _, rfl, by decide⟩
  | outputDebitAmount => exact ⟨[inputTokens, outputTokens, inputDebitAmount], _, rfl, by decide⟩

end Counter

/-! ### Checks -/

/-- What is checked of a record. -/
inductive Check
  | user
  | payload
  /-- The counter is not negative. -/
  | sign (k : Counter)
  /-- The counter fits its column. -/
  | range (k : Counter)

/-- How many checks are made before. -/
def Check.place : Check → Nat
  | .user => 0
  | .payload => 1
  | .sign k => 2 + 2 * k.place
  | .range k => 3 + 2 * k.place

/-- A record passes a check.  Without a payload there are no counters to find fault with. -/
def Passes (scheme : IdScheme) (record : Record) : Check → Prop
  | .user => saysNothing (record.get userKey) = false ∧
    ∃ user, UserId.parse scheme (record.get userKey) = .ok user
  | .payload => ∃ data, TokenUsageData.ofValue (record.get dataKey) = .valid data
  | .sign k => ∀ data, TokenUsageData.ofValue (record.get dataKey) = .valid data →
    0 ≤ k.count data
  | .range k => ∀ data, TokenUsageData.ofValue (record.get dataKey) = .valid data →
    fitsInt64 (k.count data) = true

/-- The check is the first that the record does not pass. -/
structure FailsFirst (scheme : IdScheme) (record : Record) (check : Check) : Prop where
  fails : ¬ Passes scheme record check
  first : ∀ earlier : Check, earlier.place < check.place → Passes scheme record earlier

/-- What is told of the first check that a record does not pass. -/
inductive Told (scheme : IdScheme) (record : Record) : Check → Failure → Prop
  | noUser : saysNothing (record.get userKey) = true →
      Told scheme record .user (.missingUser EventKind.tokenUsage.name)
  | badUser {defect : UserIdDefect} : saysNothing (record.get userKey) = false →
      UserId.parse scheme (record.get userKey) = .error defect →
      Told scheme record .user (.invalidUser EventKind.tokenUsage.name defect)
  | payload {user : UserId} {violations : List Violation} :
      UserId.parse scheme (record.get userKey) = .ok user →
      TokenUsageData.ofValue (record.get dataKey) = .invalid violations →
      Told scheme record .payload (.malformedUsage user violations)
  | sign {user : UserId} {data : TokenUsageData} {k : Counter} :
      UserId.parse scheme (record.get userKey) = .ok user →
      TokenUsageData.ofValue (record.get dataKey) = .valid data →
      Told scheme record (.sign k) (.negativeCounter k.name user (k.count data))
  | range {data : TokenUsageData} {k : Counter} :
      TokenUsageData.ofValue (record.get dataKey) = .valid data →
      Told scheme record (.range k)
        (.outOfRange k.name EventKind.tokenUsage.name (.int (k.count data)))

variable {scheme : IdScheme} {record : Record} {check : Check} {f : Failure}

theorem Told.kind (h : Told scheme record check f) : f.kind = .invalidData := by
  cases h <;> rfl

theorem exists_failsFirst (h : ¬ Passes scheme record check) :
    ∃ check, FailsFirst scheme record check := by
  obtain ⟨first, hfails, hleast⟩ :=
    (measure Check.place).wf.has_min {check | ¬ Passes scheme record check} ⟨check, h⟩
  exact ⟨first, hfails, fun earlier hearlier =>
    not_not.mp fun hnot => hleast earlier hnot hearlier⟩

/-! ### Records -/

/-- A record is good exactly when it passes all checks. -/
theorem passes_iff_checked :
    (∀ check, Passes scheme record check) ↔ ∃ r, Checked scheme record r := by
  constructor
  · intro h
    obtain ⟨hgiven, user, huser⟩ := h .user
    obtain ⟨data, hdata⟩ := h .payload
    refine ⟨⟨user, data, record.get timestampKey⟩, requireUser_eq_ok.mpr ⟨hgiven, huser⟩, hdata,
      rfl, fun counter hcounter => ?_⟩
    rw [Counter.counters_eq] at hcounter
    obtain ⟨k, -, rfl⟩ := List.mem_map.mp hcounter
    exact ⟨h (.sign k) data hdata, h (.range k) data hdata⟩
  · rintro ⟨r, hr⟩ check
    have hcounter : ∀ (k : Counter) (data : TokenUsageData),
        TokenUsageData.ofValue (record.get dataKey) = .valid data →
          0 ≤ k.count data ∧ fitsInt64 (k.count data) = true := by
      intro k data hdata
      obtain rfl : r.data = data := Validated.valid.inj (hr.data.symm.trans hdata)
      exact hr.counters _ (k.mem_counters _)
    obtain ⟨hgiven, huser⟩ := requireUser_eq_ok.mp hr.user
    cases check with
    | user => exact ⟨hgiven, _, huser⟩
    | payload => exact ⟨_, hr.data⟩
    | sign k => exact fun data hdata => (hcounter k data hdata).1
    | range k => exact fun data hdata => (hcounter k data hdata).2

theorem exists_ofRecord_iff :
    (∃ r, ofRecord scheme record = .ok r) ↔ ∀ check, Passes scheme record check :=
  passes_iff_checked.trans
    ⟨fun ⟨r, hr⟩ => ⟨r, hr.ofRecord⟩, fun ⟨r, hr⟩ => ⟨r, checked_of_ofRecord hr⟩⟩ |>.symm

theorem requireUser_of_fails (h : ¬ Passes scheme record .user) :
    ∃ f, Told scheme record .user f ∧
      requireUser scheme record EventKind.tokenUsage.name = .error f := by
  unfold requireUser
  dsimp only
  cases hgiven : saysNothing (record.get userKey) with
  | true => exact ⟨_, .noUser hgiven, rfl⟩
  | false =>
      cases huser : UserId.parse scheme (record.get userKey) with
      | error defect => exact ⟨_, .badUser hgiven huser, rfl⟩
      | ok user => exact absurd ⟨hgiven, user, huser⟩ h

/-- With a good user and a good payload, the counters decide. -/
theorem ofRecord_of_counters {user : UserId} {data : TokenUsageData} {e : Raised}
    (huser : requireUser scheme record EventKind.tokenUsage.name = .ok user)
    (hdata : TokenUsageData.ofValue (record.get dataKey) = .valid data)
    (he : (counters data).forM (checkCounter user) = .error e) :
    ofRecord scheme record = .error e := by
  unfold ofRecord
  rw [huser, hdata]
  show ((counters data).forM (checkCounter user) >>= fun _ => _) = _
  rw [he]
  rfl

/-- The first counter that fails its check tells. -/
theorem forM_counters_of_first {user : UserId} {data : TokenUsageData} {k : Counter} {e : Raised}
    (hearlier : ∀ j : Counter, j.place < k.place →
      0 ≤ j.count data ∧ fitsInt64 (j.count data) = true)
    (he : checkCounter user (k.name, k.count data) = .error e) :
    (counters data).forM (checkCounter user) = .error e := by
  obtain ⟨before, after, hall, hbefore⟩ := k.exists_split
  rw [Counter.counters_eq, hall, List.map_append, List.map_cons]
  refine forM_eq_error_of_first (fun counter hcounter => ?_) he
  obtain ⟨j, hj, rfl⟩ := List.mem_map.mp hcounter
  obtain ⟨hnonneg, hfits⟩ := hearlier j (hbefore j hj)
  exact checkCounter_of_fits hnonneg hfits _

/-- Before a counter is checked there are a user and a payload, and the counters before it are
good. -/
theorem FailsFirst.before_counter (h : FailsFirst scheme record check) {k : Counter}
    (hk : (Check.sign k).place ≤ check.place) : ∃ user data,
      UserId.parse scheme (record.get userKey) = .ok user ∧
      requireUser scheme record EventKind.tokenUsage.name = .ok user ∧
      TokenUsageData.ofValue (record.get dataKey) = .valid data ∧
      ∀ j : Counter, j.place < k.place → 0 ≤ j.count data ∧ fitsInt64 (j.count data) = true := by
  change 2 + 2 * k.place ≤ _ at hk
  obtain ⟨hgiven, user, huser⟩ := h.first .user (by show 0 < _; omega)
  obtain ⟨data, hdata⟩ := h.first .payload (by show 1 < _; omega)
  refine ⟨user, data, huser, requireUser_eq_ok.mpr ⟨hgiven, huser⟩, hdata,
    fun j hj => ⟨h.first (.sign j) ?_ data hdata, h.first (.range j) ?_ data hdata⟩⟩
  · show 2 + 2 * j.place < _
    omega
  · show 3 + 2 * j.place < _
    omega

/-- **The first check that fails tells.** -/
theorem ofRecord_of_first (hprintable : Value.PrintableFields record)
    (h : FailsFirst scheme record check) :
    ∃ f, Told scheme record check f ∧ ofRecord scheme record = .error (.failure f) := by
  cases check with
  | user =>
      obtain ⟨f, htold, hf⟩ := requireUser_of_fails h.fails
      refine ⟨f, htold, ?_⟩
      unfold ofRecord
      rw [hf]
      rfl
  | payload =>
      obtain ⟨hgiven, user, huser⟩ := h.first .user (by decide)
      cases hdata : TokenUsageData.ofValue (record.get dataKey) with
      | valid data => exact absurd ⟨data, hdata⟩ h.fails
      | invalid violations =>
          refine ⟨_, .payload huser hdata, ?_⟩
          unfold ofRecord
          rw [requireUser_eq_ok.mpr ⟨hgiven, huser⟩, hdata]
          rfl
  | sign k =>
      obtain ⟨user, data, hparse, huser, hdata, hbefore⟩ := h.before_counter (le_refl _)
      have hlength := Ingest.tokenUsage_printable hprintable hdata _ (k.mem_counters data)
      have hnegative : k.count data < 0 := by
        by_contra hnot
        refine h.fails fun data' hdata' => ?_
        obtain rfl : data = data' := Validated.valid.inj (hdata.symm.trans hdata')
        exact not_lt.mp hnot
      refine ⟨_, .sign hparse hdata,
        ofRecord_of_counters huser hdata (forM_counters_of_first hbefore ?_)⟩
      rw [checkCounter, if_pos hnegative, Fault.checkLength_int hlength]
      rfl
  | range k =>
      have hplace : (Check.sign k).place < (Check.range k).place := by
        show 2 + 2 * k.place < 3 + 2 * k.place
        omega
      obtain ⟨user, data, hparse, huser, hdata, hbefore⟩ := h.before_counter hplace.le
      have hlength := Ingest.tokenUsage_printable hprintable hdata _ (k.mem_counters data)
      have hnonneg : 0 ≤ k.count data := h.first (.sign k) hplace data hdata
      have hlarge : fitsInt64 (k.count data) = false := by
        rw [← Bool.not_eq_true]
        intro hfits
        refine h.fails fun data' hdata' => ?_
        obtain rfl : data = data' := Validated.valid.inj (hdata.symm.trans hdata')
        exact hfits
      refine ⟨_, .range hdata,
        ofRecord_of_counters huser hdata (forM_counters_of_first hbefore ?_)⟩
      rw [checkCounter, if_neg (not_lt.mpr hnonneg)]
      exact requireInt64_of_not_fits hlarge hlength _ _

/-! ### Batches -/

/-- Of the records of a batch, all before this one are good, and the check is the first that this
one does not pass. -/
structure Culprit (scheme : IdScheme) (before : List Record) (record : Record) (check : Check) :
    Prop where
  before : ∀ b ∈ before, ∀ check, Passes scheme b check
  here : FailsFirst scheme record check

theorem exists_culprit {records : List Record}
    (h : ∃ record ∈ records, ∃ check, ¬ Passes scheme record check) :
    ∃ before record after check, records = before ++ record :: after ∧
      Culprit scheme before record check := by
  have hbad : ∃ record ∈ records, ¬ ∀ check, Passes scheme record check := by simpa using h
  obtain ⟨before, record, after, hsplit, hbefore, hrecord⟩ := exists_first hbad
  obtain ⟨check, hcheck⟩ := not_forall.mp hrecord
  obtain ⟨first, hfirst⟩ := exists_failsFirst hcheck
  exact ⟨before, record, after, first, hsplit, hbefore, hfirst⟩

theorem ofRecords_eq_ok_iff {records : List Record} {usage : List UsageRecord} :
    ofRecords scheme records = .ok usage ↔ List.Forall₂ (Checked scheme) records usage :=
  mapM_eq_ok.trans
    ⟨fun h => h.imp fun _ _ => checked_of_ofRecord, fun h => h.imp fun _ _ => Checked.ofRecord⟩

theorem exists_ofRecords_iff {records : List Record} :
    (∃ usage, ofRecords scheme records = .ok usage) ↔
      ∀ record ∈ records, ∀ check, Passes scheme record check := by
  simp only [← exists_ofRecord_iff]
  exact exists_mapM_eq_ok

/-- The first bad record tells, whatever comes behind it. -/
theorem ofRecords_of_culprit {before : List Record} (hprintable : Value.PrintableFields record)
    (h : Culprit scheme before record check) : ∃ f, Told scheme record check f ∧
      ∀ after, ofRecords scheme (before ++ record :: after) = .error (.failure f) := by
  obtain ⟨f, htold, hf⟩ := ofRecord_of_first hprintable h.here
  exact ⟨f, htold, fun after =>
    mapM_eq_error_of_first (fun b hb => exists_ofRecord_iff.mpr (h.before b hb)) hf⟩

end UsageRecord

namespace Ledger

open Intake UsageRecord

variable {c : Conditions} {submissions : List Submission} {apiKey : Value} {t : Tables}

theorem addBatch_of_bad_batch {records : List Record} {e : Raised}
    (haccept : acceptBatch c.depth submissions apiKey = .ok records)
    (he : ofRecords c.scheme records = .error e) :
    addBatch c submissions apiKey t = (.error e, t) := by
  have hne : records.isEmpty = false := by
    cases records with
    | nil => cases he
    | cons => rfl
  unfold addBatch Ingest.checked
  rw [haccept]
  show Ingest.addUsage c records apiKey t = _
  unfold Ingest.addUsage Ingest.checked
  rw [hne, he]
  rfl

/-- **One bad record keeps a whole delivery out.** -/
theorem addBatch_of_bad_record
    (h : ∃ submission ∈ submissions, ∃ record check, unwrap submission = .ok record ∧
      ¬ Passes c.scheme record check) :
    ∃ e, addBatch c submissions apiKey t = (.error e, t) := by
  cases haccept : acceptBatch c.depth submissions apiKey with
  | error e =>
      refine ⟨e, ?_⟩
      unfold addBatch Ingest.checked
      rw [haccept]
  | ok records =>
      cases husage : ofRecords c.scheme records with
      | error e => exact ⟨e, addBatch_of_bad_batch haccept husage⟩
      | ok usage =>
          obtain ⟨submission, hsubmission, record, check, hunwrap, hfails⟩ := h
          obtain ⟨hdelivers, -⟩ := acceptBatch_ok haccept
          cases hdelivers with
          | batch hrecords _ =>
              obtain ⟨record', hmem, hunwrap'⟩ :=
                exists_of_mem_forall₂ (mapM_eq_ok.mp hrecords).flip hsubmission
              cases hunwrap'.symm.trans hunwrap
              exact absurd (exists_ofRecords_iff.mp ⟨usage, husage⟩ record hmem check) hfails

/-- **A batch is checked as a whole, and its first culprit is named.**  Each record gives one
result, in order, exactly when all records are good: each has a user and a payload, and counters
that are natural numbers and fit their columns.  Otherwise the first check that the first bad record
does not pass is told, whatever comes behind that record; and a delivery with a bad record anywhere
leaves the tables alone. -/
theorem batch_names_first_culprit (c : Conditions) {records : List Record}
    (hprintable : ∀ record ∈ records, Value.PrintableFields record) :
    (∀ usage, ofRecords c.scheme records = .ok usage ↔
      List.Forall₂ (Checked c.scheme) records usage) ∧
    ((∃ usage, ofRecords c.scheme records = .ok usage) ↔
      ∀ record ∈ records, ∀ check, Passes c.scheme record check) ∧
    ((∃ record ∈ records, ∃ check, ¬ Passes c.scheme record check) →
      ∃ before record after check f, records = before ++ record :: after ∧
        Culprit c.scheme before record check ∧ Told c.scheme record check f ∧
        f.kind = .invalidData ∧
        (∀ after', ofRecords c.scheme (before ++ record :: after') = .error (.failure f)) ∧
        ∀ submissions apiKey t, acceptBatch c.depth submissions apiKey = .ok records →
          addBatch c submissions apiKey t = (.error (.failure f), t)) ∧
    ∀ submissions apiKey t,
      (∃ submission ∈ submissions, ∃ record check, unwrap submission = .ok record ∧
        ¬ Passes c.scheme record check) →
      ∃ e, addBatch c submissions apiKey t = (.error e, t) := by
  refine ⟨fun usage => ofRecords_eq_ok_iff, exists_ofRecords_iff, fun hbad => ?_,
    fun submissions apiKey t => addBatch_of_bad_record⟩
  obtain ⟨before, record, after, check, rfl, hculprit⟩ := exists_culprit hbad
  obtain ⟨f, htold, hf⟩ := ofRecords_of_culprit (hprintable record (by simp)) hculprit
  exact ⟨before, record, after, check, f, rfl, hculprit, htold, htold.kind, hf,
    fun submissions apiKey t haccept => addBatch_of_bad_batch haccept (hf after)⟩

namespace Sample

/-- Token usage of user 7 with given counters. -/
def counted (inputTokens outputTokens debit : Int) : Event :=
  ⟨Timestamp.first, .tokenUsage (.number 7) ⟨"model", inputTokens, outputTokens, 3, debit⟩⟩

/-- A good event between two bad ones, of which the first has two counters that are wrong. -/
def spoilt : List Event := [counted 1 2 5, counted 1 (-2) (int64Max + 1), counted (-1) 2 5]

theorem short_of_le {n : Int} (h : n.natAbs ≤ 2 ^ 63) : n.natAbs < 10 ^ Text.maxDigits :=
  calc n.natAbs ≤ 2 ^ 63 := h
    _ < 10 ^ 63 := Nat.pow_lt_pow_left (by decide) (by decide)
    _ ≤ 10 ^ Text.maxDigits := Nat.pow_le_pow_right (by decide) (by decide)

theorem printable_spoilt :
    ∀ record ∈ spoilt.map Event.record, Value.PrintableFields record := by
  have hcounted : ∀ {i o d : Int}, i.natAbs ≤ 2 ^ 63 → o.natAbs ≤ 2 ^ 63 → d.natAbs ≤ 2 ^ 63 →
      Value.PrintableFields (counted i o d).record := fun hi ho hd =>
    ⟨trivial, trivial, ⟨trivial, short_of_le hi, short_of_le ho, short_of_le (n := 3) (by decide),
      short_of_le hd, trivial⟩, short_of_le (n := 7) (by decide), trivial⟩
  intro record hrecord
  simp only [spoilt, List.map_cons, List.map_nil, List.mem_cons, List.not_mem_nil, or_false]
    at hrecord
  rcases hrecord with rfl | rfl | rfl <;>
    exact hcounted (by decide) (by decide) (by decide)

theorem ofRecord_spoilt : ofRecord .bigint (counted 1 (-2) (int64Max + 1)).record
    = .error (.failure (.negativeCounter "output_tokens" (.number 7) (-2))) := by
  have hcounter : checkCounter (.number 7) ("output_tokens", -2)
      = .error (.failure (.negativeCounter "output_tokens" (.number 7) (-2))) := by
    rw [checkCounter, if_pos (by decide), Fault.checkLength_int (short_of_le (by decide))]
    rfl
  have hcounters : (counters ⟨"model", 1, -2, 3, int64Max + 1⟩).forM (checkCounter (.number 7))
      = .error (.failure (.negativeCounter "output_tokens" (.number 7) (-2))) := by
    refine forM_counters_of_first (k := .outputTokens) (fun j hj => ?_) hcounter
    cases j <;> revert hj <;> decide
  exact ofRecord_of_counters rfl rfl hcounters

end Sample

/-- The first counter that is wrong in the first bad record is told, and nothing is stored. -/
theorem batch_names_first_culprit_sample :
    addBatch (Conditions.ideal .bigint Uuid.ofNat) (Sample.spoilt.map .event) Sample.key
        Sample.granted =
      (.error (.failure (.negativeCounter "output_tokens" (.number 7) (-2))), Sample.granted) := by
  have hbad : ∃ record ∈ Sample.spoilt.map Event.record, ∃ check,
      ¬ Passes .bigint record check := by
    refine ⟨(Sample.counted (-1) 2 5).record, by simp [Sample.spoilt], .sign .inputTokens,
      fun h => ?_⟩
    exact absurd (h _ rfl) (by decide)
  obtain ⟨-, -, hculprit, -⟩ :=
    batch_names_first_culprit (Conditions.ideal .bigint Uuid.ofNat) Sample.printable_spoilt
  obtain ⟨before, record, after, check, f, hsplit, -, -, -, hf, hadd⟩ := hculprit hbad
  have hgood : ∀ b ∈ [(Sample.counted 1 2 5).record], ∃ r, ofRecord .bigint b = .ok r :=
    List.forall_mem_singleton.mpr ⟨_, rfl⟩
  have hfirst : ofRecords .bigint (Sample.spoilt.map Event.record)
      = .error (.failure (.negativeCounter "output_tokens" (.number 7) (-2))) := by
    have hrecords : Sample.spoilt.map Event.record = [(Sample.counted 1 2 5).record] ++
        (Sample.counted 1 (-2) (int64Max + 1)).record :: [(Sample.counted (-1) 2 5).record] := rfl
    rw [hrecords]
    exact mapM_eq_error_of_first hgood Sample.ofRecord_spoilt
  have htold := hf after
  rw [← hsplit] at htold
  cases hfirst.symm.trans htold
  exact hadd _ _ _ rfl

end Ledger

end UsageLedger
