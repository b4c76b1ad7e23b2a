/-
What holds of the tables after every run.

`Consistent` ties the six tables together: every event has its particulars in exactly one
table, names a user and a key that are there, and no user is there without an event.
A posting keeps all of it because it is sound in itself (`Posting.Sound`), whatever call
it comes from, and because the tables admit it.  Rows only ever come at the end of their
tables (`Tables.Extends`), so no call changes or removes what an earlier one stored.
-/
import UsageLedger.Proofs.Intake.Aggregation
import UsageLedger.Proofs.Ledger.Accepted
import UsageLedger.Proofs.Ledger.Credit

namespace UsageLedger

/-- A whole number that fits its column, at least as great as a bound when there is one. -/
def Cell.IsAmount (cell : Cell) (least : Int) : Prop :=
  ∃ n, cell = .whole n ∧ least ≤ n ∧ Intake.fitsInt64 n = true

namespace TokenUsageRow

/-- The counters of a group. -/
def counters (row : TokenUsageRow) : List Cell :=
  [row.inputTokens, row.outputTokens, row.inputDebitAmount, row.outputDebitAmount]

end TokenUsageRow

/-- A time in the form in which it is stored. -/
def Cell.IsStoredTime (cell : Cell) : Prop :=
  ∃ s, cell = .text s ∧ Intake.canonicalTimestamp (.text s) = .ok s

/-- The identifiers of all particulars, of whatever table. -/
def Tables.detailIds (t : Tables) : List Uuid :=
  t.sdkCalls.map (·.id) ++ t.payments.map (·.id) ++ t.tokenUsages.map (·.id)

/-- What holds of the tables after every run. -/
structure Consistent (t : Tables) : Prop where
  /-- Each event has its particulars exactly once, in one of the three tables. -/
  detail : ∀ e ∈ t.events, t.detailIds.count e.id = 1
  /-- Particulars are those of an event. -/
  owner : ∀ id ∈ t.detailIds, ∃ e ∈ t.events, e.id = id
  /-- Each event names a user that is there. -/
  user : ∀ e ∈ t.events, ∃ user ∈ t.users, e.user = some user
  /-- The key of an event, when it has one, is there. -/
  apiKey : ∀ e ∈ t.events, ∀ key ∈ e.apiKey, ∃ row ∈ t.apiKeys, row.id = key
  /-- The events of SDK calls and of token usage have a key. -/
  keyed : ∀ e ∈ t.events,
    e.id ∈ t.sdkCalls.map (·.id) ∨ e.id ∈ t.tokenUsages.map (·.id) → e.apiKey ≠ none
  /-- Each user is named by an event. -/
  named : ∀ user ∈ t.users, ∃ e ∈ t.events, e.user = some user
  names : (t.apiKeys.map (·.name)).Nodup
  digests : (t.apiKeys.map (·.key)).Nodup
  debits : ∀ row ∈ t.sdkCalls, row.debitAmount.IsAmount Intake.int64Min
  credits : ∀ row ∈ t.payments, row.creditAmount.IsAmount 1
  counters : ∀ row ∈ t.tokenUsages, ∀ cell ∈ row.counters, cell.IsAmount 0
  times : ∀ e ∈ t.events, e.reportedTimestamp.IsStoredTime

theorem consistent_empty : Consistent Tables.empty := by
  constructor <;> simp [Tables.empty, Tables.detailIds]

/-! ### Postings that are sound -/

namespace Posting

/-- The identifiers of all particulars of a posting. -/
def detailIds (p : Posting) : List Uuid :=
  p.sdkCalls.map (·.id) ++ p.payments.map (·.id) ++ p.tokenUsages.map (·.id)

/-- What a posting has to be in itself. -/
structure Sound (p : Posting) : Prop where
  detail : p.detailIds = p.events.map (·.id)
  user : ∀ e ∈ p.events, ∃ user ∈ p.users, e.user = some user.toCell
  named : ∀ user ∈ p.users, ∃ e ∈ p.events, e.user = some user.toCell
  keyed : ∀ e ∈ p.events,
    e.id ∈ p.sdkCalls.map (·.id) ∨ e.id ∈ p.tokenUsages.map (·.id) → e.apiKey ≠ none
  debits : ∀ row ∈ p.sdkCalls, row.debitAmount.IsAmount Intake.int64Min
  credits : ∀ row ∈ p.payments, row.creditAmount.IsAmount 1
  counters : ∀ row ∈ p.tokenUsages, ∀ cell ∈ row.counters, cell.IsAmount 0
  times : ∀ e ∈ p.events, e.reportedTimestamp.IsStoredTime

end Posting

theorem isAmount_of_fits {n : Int} (h : Intake.fitsInt64 n = true) :
    (Cell.whole n).IsAmount Intake.int64Min := by
  refine ⟨n, rfl, ?_, h⟩
  simp only [Intake.fitsInt64, Bool.and_eq_true, decide_eq_true_eq] at h
  exact h.1

theorem isStoredTime_of_canonical {v : Value} {s : String}
    (h : Intake.canonicalTimestamp v = .ok s) : (Cell.text s).IsStoredTime :=
  ⟨s, rfl, Intake.canonicalTimestamp_stored h⟩

namespace Posting

variable {ids : List Uuid} {key : Uuid} {groups : List UsageGroup}

theorem usage_detailIds (hlength : ids.length = groups.length) :
    (usage ids key groups).detailIds = ids := by
  show (List.zipWith groupRow ids groups).map (·.id) = ids
  rw [List.map_zipWith]
  exact (zipWith_left id hlength).trans (List.map_id ids)

end Posting

/-- A posting of token usage is sound, because the counters of its records are natural numbers and
the sums were checked. -/
theorem sound_usage {scheme : IdScheme} {records : List Record} {usage : List UsageRecord}
    {groups : List UsageGroup} {ids : List Uuid} {key : Uuid}
    (husage : UsageRecord.ofRecords scheme records = .ok usage)
    (hgroups : UsageGroup.aggregate usage = .ok groups) (hlength : ids.length = groups.length) :
    (Posting.usage ids key groups).Sound := by
  obtain ⟨singles, ha⟩ := UsageGroup.aggregates_of_aggregate hgroups
  have hnonneg := ha.nonneg fun r hr counter hcounter => by
    obtain ⟨record, -, hrecord⟩ := exists_of_mem_forall₂ (mapM_eq_ok.mp husage) hr
    exact ((UsageRecord.checked_of_ofRecord hrecord).counters counter hcounter).1
  constructor
  case detail => rw [Posting.usage_detailIds hlength, Posting.usage_event_ids hlength]
  case user =>
    intro e he
    obtain ⟨id, -, g, hg, rfl⟩ := exists_of_mem_zipWith he
    exact ⟨g.user, List.mem_map_of_mem hg, rfl⟩
  case named =>
    intro user huser
    exact Posting.usage_named hlength huser
  case keyed =>
    intro e he _
    obtain ⟨id, -, g, -, rfl⟩ := exists_of_mem_zipWith he
    exact Option.some_ne_none key
  case debits => exact fun row hrow => absurd hrow List.not_mem_nil
  case credits => exact fun row hrow => absurd hrow List.not_mem_nil
  case counters =>
    intro row hrow cell hcell
    obtain ⟨id, -, g, hg, rfl⟩ := exists_of_mem_zipWith hrow
    have hcounter : ∃ counter ∈ g.counters, cell = .whole counter.2 := by
      simpa [TokenUsageRow.counters, Posting.groupRow, UsageGroup.counters] using hcell
    obtain ⟨counter, hmem, rfl⟩ := hcounter
    exact ⟨counter.2, rfl, hnonneg g hg counter hmem, ha.sums g hg counter hmem⟩
  case times =>
    -- a time that was read is in universal time, and so is the later of two
    intro e he
    obtain ⟨id, -, g, hg, rfl⟩ := exists_of_mem_zipWith he
    exact ⟨_, rfl, Intake.canonicalTimestamp_of_parseTimestamp
      (Intake.parseTimestamp_canonicalText (ha.offset g hg))⟩

/-- **What a call posts is sound**, whatever its records say. -/
theorem Posts.sound {scheme : IdScheme} {call : Ledger.Call} {o : Option Uuid} {p : Posting}
    (h : Posts scheme call o p) : p.Sound := by
  cases h with
  | @sdkCall _ _ _ user data key time id _ _ hchecked _ htime =>
      have hfits : Intake.fitsInt64 data.debitAmount = true :=
        Intake.requireInt64_int (Ingest.checkSdkCall_ok hchecked).2.2
      constructor <;> simp [Posting.sdkCall, Posting.event, Posting.detailIds]
      · exact isAmount_of_fits hfits
      · exact isStoredTime_of_canonical htime
  | @payment _ _ _ user data key time id _ _ hchecked _ htime hfits =>
      constructor <;> simp [Posting.payment, Posting.event, Posting.detailIds]
      · exact ⟨_, rfl, Ingest.checkPayment_pos hchecked, hfits⟩
      · exact isStoredTime_of_canonical htime
  | usage hdelivers husage hgroups hlength _ => exact sound_usage husage hgroups hlength
  | grant => constructor <;> simp [Posting.detailIds]

/-! ### One posting -/

section post

variable {t : Tables} {p : Posting}

theorem mem_post_users {cell : Cell} :
    cell ∈ (t.post p).users ↔ cell ∈ t.users ∨ ∃ user ∈ p.users, user.toCell = cell := by
  show cell ∈ (p.users.map UserId.toCell).foldl addNew t.users ↔ _
  rw [mem_foldl_addNew, List.mem_map]

theorem count_post_detailIds (id : Uuid) :
    (t.post p).detailIds.count id = t.detailIds.count id + p.detailIds.count id := by
  simp only [Tables.post, Tables.detailIds, Posting.detailIds, List.map_append, List.count_append]
  omega

theorem mem_post_detailIds {id : Uuid} :
    id ∈ (t.post p).detailIds ↔ id ∈ t.detailIds ∨ id ∈ p.detailIds := by
  rw [← List.count_pos_iff, count_post_detailIds, ← List.count_pos_iff, ← List.count_pos_iff]
  omega

/-- An old event cannot own new particulars. -/
theorem Posting.Sound.old_not_mem (hp : p.Sound) (hadmitted : p.Admitted t) {e : EventRow}
    (he : e ∈ t.events) : e.id ∉ p.detailIds := by
  rw [hp.detail]
  intro hid
  obtain ⟨e', he', hsame⟩ := List.mem_map.mp hid
  exact (hadmitted.events e' he').fresh (hsame ▸ List.mem_map_of_mem he)

/-- A new event cannot own old particulars. -/
theorem Consistent.new_not_mem (ht : Consistent t) (hadmitted : p.Admitted t) {e : EventRow}
    (he : e ∈ p.events) : e.id ∉ t.detailIds := by
  intro hid
  obtain ⟨e', he', hsame⟩ := ht.owner _ hid
  exact (hadmitted.events e he).fresh (hsame ▸ List.mem_map_of_mem he')

/-- **A sound posting keeps the tables consistent.** -/
theorem Consistent.post (ht : Consistent t) (hp : p.Sound) (hadmitted : p.Admitted t) :
    Consistent (t.post p) where
  detail e he := by
    -- particulars are counted among the old and among the new, and one of the counts is zero
    rw [count_post_detailIds]
    rcases List.mem_append.mp he with hold | hnew
    · rw [ht.detail e hold, List.count_eq_zero_of_not_mem (hp.old_not_mem hadmitted hold)]
    · rw [List.count_eq_zero_of_not_mem (ht.new_not_mem hadmitted hnew), hp.detail,
        hadmitted.nodup.count, if_pos (List.mem_map_of_mem hnew)]
  owner id hid := by
    rcases mem_post_detailIds.mp hid with hold | hnew
    · obtain ⟨e, he, hsame⟩ := ht.owner id hold
      exact ⟨e, List.mem_append_left _ he, hsame⟩
    · rw [hp.detail] at hnew
      obtain ⟨e, he, hsame⟩ := List.mem_map.mp hnew
      exact ⟨e, List.mem_append_right _ he, hsame⟩
  user e he := by
    rcases List.mem_append.mp he with hold | hnew
    · obtain ⟨user, huser, hname⟩ := ht.user e hold
      exact ⟨user, mem_post_users.mpr (.inl huser), hname⟩
    · obtain ⟨user, huser, hname⟩ := hp.user e hnew
      exact ⟨_, mem_post_users.mpr (.inr ⟨user, huser, rfl⟩), hname⟩
  apiKey e he key hkey := by
    rcases List.mem_append.mp he with hold | hnew
    · obtain ⟨row, hrow, hid⟩ := ht.apiKey e hold key hkey
      exact ⟨row, List.mem_append_left _ hrow, hid⟩
    · obtain ⟨row, hrow, hid⟩ := List.mem_map.mp ((hadmitted.events e hnew).apiKey key hkey)
      exact ⟨row, List.mem_append_left _ hrow, hid⟩
  keyed e he hid := by
    rcases List.mem_append.mp he with hold | hnew
    · have hother := hp.old_not_mem hadmitted hold
      simp only [Posting.detailIds, List.mem_append, not_or] at hother
      simp only [Tables.post, List.map_append, List.mem_append] at hid
      exact ht.keyed e hold (by tauto)
    · have hother := ht.new_not_mem hadmitted hnew
      simp only [Tables.detailIds, List.mem_append, not_or] at hother
      simp only [Tables.post, List.map_append, List.mem_append] at hid
      exact hp.keyed e hnew (by tauto)
  named cell hcell := by
    rcases mem_post_users.mp hcell with hold | ⟨user, huser, rfl⟩
    · obtain ⟨e, he, hname⟩ := ht.named cell hold
      exact ⟨e, List.mem_append_left _ he, hname⟩
    · obtain ⟨e, he, hname⟩ := hp.named user huser
      exact ⟨e, List.mem_append_right _ he, hname⟩
  names := by
    -- a posting has one key at most, and its name is new
    rcases hadmitted.apiKeys with hnone | ⟨row, hone, hname, -⟩
    · simpa [Tables.post, hnone] using ht.names
    · show ((t.apiKeys ++ p.apiKeys).map (·.name)).Nodup
      rw [hone, List.map_append, List.nodup_append]
      exact ⟨ht.names, by simp, by simpa using hname⟩
  digests := by
    rcases hadmitted.apiKeys with hnone | ⟨row, hone, -, hkey⟩
    · simpa [Tables.post, hnone] using ht.digests
    · show ((t.apiKeys ++ p.apiKeys).map (·.key)).Nodup
      rw [hone, List.map_append, List.nodup_append]
      exact ⟨ht.digests, by simp, by simpa using hkey⟩
  debits := List.forall_mem_append.mpr ⟨ht.debits, hp.debits⟩
  credits := List.forall_mem_append.mpr ⟨ht.credits, hp.credits⟩
  counters := List.forall_mem_append.mpr ⟨ht.counters, hp.counters⟩
  times := List.forall_mem_append.mpr ⟨ht.times, hp.times⟩

end post

/-! ### Nothing is changed or removed -/

/-- The rows of one state of the tables are the first rows of another, in the same order. -/
structure Tables.Extends (t t' : Tables) : Prop where
  users : t.users <+: t'.users
  apiKeys : t.apiKeys <+: t'.apiKeys
  events : t.events <+: t'.events
  sdkCalls : t.sdkCalls <+: t'.sdkCalls
  payments : t.payments <+: t'.payments
  tokenUsages : t.tokenUsages <+: t'.tokenUsages

namespace Tables.Extends

variable {t t' t'' : Tables}

theorem refl (t : Tables) : t.Extends t :=
  ⟨List.prefix_rfl, List.prefix_rfl, List.prefix_rfl, List.prefix_rfl, List.prefix_rfl,
    List.prefix_rfl⟩

theorem trans (h : t.Extends t') (h' : t'.Extends t'') : t.Extends t'' :=
  ⟨h.users.trans h'.users, h.apiKeys.trans h'.apiKeys, h.events.trans h'.events,
    h.sdkCalls.trans h'.sdkCalls, h.payments.trans h'.payments,
    h.tokenUsages.trans h'.tokenUsages⟩

theorem post (t : Tables) (p : Posting) : t.Extends (t.post p) :=
  ⟨prefix_foldl_addNew, List.prefix_append _ _, List.prefix_append _ _, List.prefix_append _ _,
    List.prefix_append _ _, List.prefix_append _ _⟩

theorem postings (ps : List Posting) (t : Tables) : t.Extends (ps.foldl Tables.post t) := by
  induction ps generalizing t with
  | nil => exact refl t
  | cons p ps ih => exact (post t p).trans (ih _)

end Tables.Extends

/-! ### Runs -/

namespace Ledger

variable {scheme : IdScheme}

theorem sound_of_posts {calls : List Call} {ps : List Posting}
    (hposts : List.Forall₂ (fun call p => ∃ o, Posts scheme call o p) calls ps) :
    ∀ p ∈ ps, p.Sound := by
  intro p hp
  obtain ⟨call, -, o, hposted⟩ := exists_of_mem_forall₂ hposts hp
  exact hposted.sound

theorem consistent_postings {calls : List Call} {ps : List Posting} {t : Tables}
    (hposts : List.Forall₂ (fun call p => ∃ o, Posts scheme call o p) calls ps)
    (hadmitted : AdmittedAll ps t) (ht : Consistent t) : Consistent (ps.foldl Tables.post t) := by
  induction hposts generalizing t with
  | nil => exact ht
  | cons hp _ ih =>
      obtain ⟨o, hp⟩ := hp
      exact ih hadmitted.2 (ht.post hp.sound hadmitted.1)

/-- A run keeps consistent tables consistent. -/
theorem consistent_runCalls (calls : List (Circumstances × Call)) {t : Tables}
    (ht : Consistent t) : Consistent (runCalls scheme calls t) := by
  obtain ⟨ps, hposts, hadmitted, hrun⟩ := exists_postings scheme calls t
  rw [hrun]
  exact consistent_postings hposts hadmitted ht

theorem extends_runCalls (calls : List (Circumstances × Call)) (t : Tables) :
    t.Extends (runCalls scheme calls t) := by
  obtain ⟨ps, -, -, hrun⟩ := exists_postings scheme calls t
  rw [hrun]
  exact .postings ps t

/-- **After every run from the empty tables the six tables agree with each other**, whatever was
called and whatever went wrong, and a longer run changes and removes nothing of it. -/
theorem runs_consistent (scheme : IdScheme) (calls more : List (Circumstances × Call)) :
    Consistent (runCalls scheme calls Tables.empty) ∧
      (runCalls scheme calls Tables.empty).Extends
        (runCalls scheme (calls ++ more) Tables.empty) := by
  refine ⟨consistent_runCalls calls consistent_empty, ?_⟩
  rw [runCalls_append]
  exact extends_runCalls more _

end Ledger

end UsageLedger
