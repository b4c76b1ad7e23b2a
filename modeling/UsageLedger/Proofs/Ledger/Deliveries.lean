/-
Deliveries of the same events.

Events of token usage may be delivered one by one or in batches, in any order.  The
databases after two such runs differ in their rows, but not in their users nor in what
the rows of a user and a model add up to: both show groups that bill what the single
events bill (`exists_groups`).  For a single event the two ways of delivery are the same
call (`run_add_eq_addBatch`), and another identifier changes nothing in its outcome but
the identifier itself (`run_add_agree`).
-/
import UsageLedger.Proofs.Ledger.Batching
import UsageLedger.Proofs.Ledger.Identifiers

namespace UsageLedger

/-- Rows of token usage add up to the same, and the latest of them is of the same time. -/
structure StoredUsage.Agree (rows rows' : List StoredUsage) : Prop where
  inputTokens : total (·.inputTokens) rows = total (·.inputTokens) rows'
  outputTokens : total (·.outputTokens) rows = total (·.outputTokens) rows'
  inputDebitAmount : total (·.inputDebitAmount) rows = total (·.inputDebitAmount) rows'
  outputDebitAmount : total (·.outputDebitAmount) rows = total (·.outputDebitAmount) rows'
  latest : latest rows = latest rows'

namespace Ledger

open Intake

variable {scheme : IdScheme} {t : Tables}

/-! ### One event -/

/-- A delivery of one record of token usage, if it has a key. -/
def deliverOne (c : Conditions) (record : Record) (apiKey : Value) (t : Tables) :
    Except Raised (Option Uuid) × Tables :=
  if apiKey.isPresent then Ingest.addUsage c [record] apiKey t
  else (.error (.failure .missingApiKey), t)

theorem run_add_usage {c : Conditions} {submission : Submission} {record : Record} {apiKey : Value}
    (hrecord : unwrap submission = .ok record)
    (hkind : acceptedKind record writeKinds = .ok .tokenUsage) :
    (Call.add submission apiKey).run c t = deliverOne c record apiKey t := by
  refine (add_of_kind hrecord hkind c t).trans ?_
  unfold deliverOne
  cases apiKey.isPresent <;> rfl

theorem run_addBatch_usage {c : Conditions} {submission : Submission} {record : Record}
    {apiKey : Value} (hrecord : unwrap submission = .ok record)
    (hkind : acceptedKind record writeKinds = .ok .tokenUsage) :
    (Call.addBatch [submission] apiKey).run c t = deliverOne c record apiKey t := by
  have hrecords : [submission].mapM unwrap = .ok [record] := mapM_eq_ok.mpr (.cons hrecord .nil)
  show Ingest.checked (acceptBatch c.depth [submission] apiKey) t _ = _
  rw [acceptBatch_of_kinds hrecords (List.forall_mem_singleton.mpr hkind), deliverOne]
  cases apiKey.isPresent <;> rfl

/-- An event of token usage is delivered alone as it is in a batch of its own. -/
theorem run_add_eq_addBatch {c : Conditions} {submission : Submission} {apiKey : Value}
    (husage : IsUsage submission) :
    (Call.add submission apiKey).run c t = (Call.addBatch [submission] apiKey).run c t := by
  obtain ⟨record, hrecord, hkind⟩ := husage
  rw [run_add_usage hrecord hkind, run_addBatch_usage hrecord hkind]

/-- The outcomes of deliveries of one event agree but for the identifier: the same error and
nothing stored, or the same rows under the one identifier and under the other. -/
def AgreeUpToId (t : Tables) (result₁ result₂ : Except Raised (Option Uuid) × Tables) : Prop :=
  (∃ e, result₁ = (.error e, t) ∧ result₂ = (.error e, t)) ∨
    ∃ id₁ id₂ key g, result₁ = (.ok (some id₁), t.post (Posting.usage [id₁] key [g])) ∧
      result₂ = (.ok (some id₂), t.post (Posting.usage [id₂] key [g]))

/-- An event that is accepted alone posts its one group under its key. -/
theorem posts_single {submission : Submission} {apiKey : Value} {o : Option Uuid} {p : Posting}
    (hposts : Posts scheme (.add submission apiKey) o p) (husage : IsUsage submission) :
    ∃ id key g, readApiKeyId apiKey = .ok (some key) ∧ groupOf scheme submission = .ok g ∧
      o = some id ∧ p = Posting.usage [id] key [g] := by
  cases hposts with
  | sdkCall hrecord hkind => cases husage.kind_eq hrecord hkind
  | payment hrecord hkind => cases husage.kind_eq hrecord hkind
  | grant hrecord hkind => cases husage.kind_eq hrecord hkind
  | @usage _ records usage groups ids key hdelivers hofRecords hgroups hlength hkey =>
      cases hdelivers with
      | @single _ _ record hrecord _ =>
          obtain ⟨r, hr, hrest⟩ := bind_eq_ok.mp hofRecords
          cases hrest
          obtain ⟨singles, ha⟩ := UsageGroup.aggregates_of_aggregate hgroups
          obtain ⟨g, hg, rfl⟩ := ha.of_single
          obtain ⟨id, rfl⟩ := List.length_eq_one_iff.mp hlength
          refine ⟨id, key, g, hkey.resolve_left (List.cons_ne_nil _ _), ?_, rfl, rfl⟩
          rw [groupOf, hrecord]
          show (UsageRecord.ofRecord scheme record >>= UsageGroup.single) = _
          rw [hr]
          exact hg

/-- **The identifier that is drawn makes no difference to a delivery of one event**, as long as no
row has it. -/
theorem run_add_agree {k : Circumstances} {other : Nat → Uuid} {submission : Submission}
    {apiKey : Value} (husage : IsUsage submission) (h₁ : ∀ n, t.Unused (k.fresh n))
    (h₂ : ∀ n, t.Unused (other n)) :
    AgreeUpToId t ((Call.add submission apiKey).run (k.onSqlite scheme) t)
      ((Call.add submission apiKey).run ((k.drawing other).onSqlite scheme) t) := by
  have hfate : SameFate ((Call.add submission apiKey).run (k.onSqlite scheme) t).1
      ((Call.add submission apiKey).run ((k.drawing other).onSqlite scheme) t).1
      fun _ _ => True := by
    obtain ⟨record, hrecord, hkind⟩ := husage
    rw [run_add_usage hrecord hkind, run_add_usage hrecord hkind, deliverOne, deliverOne]
    split
    · exact Ingest.sameFate_addUsage h₁ h₂
    · exact .inl ⟨_, rfl, rfl⟩
  rcases hfirst : (Call.add submission apiKey).run (k.onSqlite scheme) t with ⟨o₁, t₁⟩
  rcases hsecond : (Call.add submission apiKey).run ((k.drawing other).onSqlite scheme) t
    with ⟨o₂, t₂⟩
  rw [hfirst, hsecond] at hfate
  rcases hfate with ⟨e, ho₁, ho₂⟩ | ⟨o₁', o₂', ho₁, ho₂, -⟩
  · subst ho₁ ho₂
    have hsame₁ := leaves_run (.add submission apiKey) (k.onSqlite scheme) t e
    have hsame₂ := leaves_run (.add submission apiKey) ((k.drawing other).onSqlite scheme) t e
    rw [hfirst] at hsame₁
    rw [hsecond] at hsame₂
    obtain rfl : t₁ = t := hsame₁ rfl
    exact .inl ⟨e, rfl, Prod.ext rfl (hsame₂ rfl)⟩
  · subst ho₁ ho₂
    obtain ⟨p₁, hp₁, -, -, rfl⟩ := posts_of_accepted (k.constrained scheme) hfirst
    obtain ⟨p₂, hp₂, -, -, rfl⟩ := posts_of_accepted ((k.drawing other).constrained scheme) hsecond
    obtain ⟨id₁, key₁, g₁, hkey₁, hg₁, rfl, rfl⟩ := posts_single hp₁ husage
    obtain ⟨id₂, key₂, g₂, hkey₂, hg₂, rfl, rfl⟩ := posts_single hp₂ husage
    have hkey : some key₁ = some key₂ := Except.ok.inj (hkey₁.symm.trans hkey₂)
    have hg : g₁ = g₂ := Except.ok.inj (hg₁.symm.trans hg₂)
    cases hkey
    subst hg
    exact .inr ⟨id₁, id₂, key₁, g₁, rfl, rfl⟩

/-! ### The same events in other deliveries -/

/-- Two runs from the same tables deliver the same events of token usage, cut into deliveries and
ordered in any two ways, and every delivery of both is accepted. -/
structure Rebatched (scheme : IdScheme) (t : Tables) (calls₁ calls₂ : List (Circumstances × Call)) :
    Prop where
  usage : ∀ s ∈ calls₁.flatMap fun call => call.2.submissions, IsUsage s
  same : (calls₁.flatMap fun call => call.2.submissions).Perm
    (calls₂.flatMap fun call => call.2.submissions)
  first : accepted scheme calls₁ t = calls₁.map (·.2)
  second : accepted scheme calls₂ t = calls₂.map (·.2)

/-- What a run stores whose calls are all deliveries of token usage and accepted. -/
theorem exists_billed {calls : List (Circumstances × Call)}
    (husage : ∀ s ∈ calls.flatMap fun call => call.2.submissions, IsUsage s)
    (haccepted : accepted scheme calls t = calls.map (·.2)) :
    ∃ groups, (runCalls scheme calls t).users
        = ((groups.map (·.user)).map UserId.toCell).foldl addNew t.users ∧
      List.Forall₂ StoredUsage.Shows ((runCalls scheme calls t).usageSince t) groups ∧
      UsageGroup.SameBill groups
        ((calls.flatMap fun call => call.2.submissions).filterMap
          fun s => (groupOf scheme s).toOption) := by
  obtain ⟨ps, hposts, hadmitted, hrun⟩ := exists_postings scheme calls t
  have hsubmissions : (accepted scheme calls t).flatMap Call.submissions
      = calls.flatMap fun call => call.2.submissions := by
    rw [haccepted, List.flatMap_map]
  obtain ⟨groups, husers, hrows, hbilled⟩ :=
    exists_groups hposts hadmitted (hsubmissions ▸ husage)
  rw [hsubmissions] at hbilled
  refine ⟨groups, ?_, ?_, hbilled⟩
  · rw [hrun, users_postings, husers]
  · rw [hrun, usageSince_postings hadmitted (sound_of_posts hposts)]
    exact hrows

/-- Two such runs leave the same users, and rows that agree for each user and model. -/
theorem Rebatched.agree {calls₁ calls₂ : List (Circumstances × Call)}
    (h : Rebatched scheme t calls₁ calls₂) :
    (runCalls scheme calls₁ t).users.Perm (runCalls scheme calls₂ t).users ∧
      ∀ user model, StoredUsage.Agree
        (StoredUsage.forPair user model ((runCalls scheme calls₁ t).usageSince t))
        (StoredUsage.forPair user model ((runCalls scheme calls₂ t).usageSince t)) := by
  have husage₂ : ∀ s ∈ calls₂.flatMap fun call => call.2.submissions, IsUsage s :=
    fun s hs => h.usage s (h.same.mem_iff.mpr hs)
  obtain ⟨groups₁, husers₁, hrows₁, hbilled₁⟩ := exists_billed h.usage h.first
  obtain ⟨groups₂, husers₂, hrows₂, hbilled₂⟩ := exists_billed husage₂ h.second
  have hbill : UsageGroup.SameBill groups₁ groups₂ :=
    (hbilled₁.trans (.perm (h.same.filterMap _))).trans hbilled₂.symm
  constructor
  · rw [husers₁, husers₂]
    apply perm_foldl_addNew
    intro cell
    rw [List.mem_map, List.mem_map]
    simp only [hbill.users]
  · intro user model
    have htotal : ∀ {counter : TokenUsageRow → Cell} {count : UsageGroup → Int},
        (∀ id g, counter (Posting.groupRow id g) = .whole (count g)) → UsageGroup.Counts count →
        StoredUsage.total counter
            (StoredUsage.forPair user model ((runCalls scheme calls₁ t).usageSince t))
          = StoredUsage.total counter
            (StoredUsage.forPair user model ((runCalls scheme calls₂ t).usageSince t)) := by
      intro counter count hcounter hcounts
      rw [StoredUsage.total_of_shows hrows₁ hcounter, StoredUsage.total_of_shows hrows₂ hcounter,
        hbill.totals user model count hcounts]
    exact {
      inputTokens := htotal (fun _ _ => rfl) fun _ _ => rfl
      outputTokens := htotal (fun _ _ => rfl) fun _ _ => rfl
      inputDebitAmount := htotal (fun _ _ => rfl) fun _ _ => rfl
      outputDebitAmount := htotal (fun _ _ => rfl) fun _ _ => rfl
      latest := by
        rw [StoredUsage.latest_of_shows hrows₁, StoredUsage.latest_of_shows hrows₂,
          hbill.latest user model] }

/-- **Batching does not change what is billed**: however the same events are ordered and cut into
deliveries, the users are the same, and the new rows of a user and a model add up to the same and
are of the same latest time.  One event is delivered alone as it is in a batch, and it matters for
neither which unused identifier is drawn. -/
theorem batching_keeps_bill (scheme : IdScheme) (t : Tables) :
    (∀ calls₁ calls₂, Rebatched scheme t calls₁ calls₂ →
      (runCalls scheme calls₁ t).users.Perm (runCalls scheme calls₂ t).users ∧
        ∀ user model, StoredUsage.Agree
          (StoredUsage.forPair user model ((runCalls scheme calls₁ t).usageSince t))
          (StoredUsage.forPair user model ((runCalls scheme calls₂ t).usageSince t))) ∧
    (∀ submission apiKey, IsUsage submission →
      (∀ c, (Call.add submission apiKey).run c t = (Call.addBatch [submission] apiKey).run c t) ∧
      ∀ k other, (∀ n, t.Unused (k.fresh n)) → (∀ n, t.Unused (other n)) →
        AgreeUpToId t (outcome scheme (k, .add submission apiKey) t)
          (outcome scheme (k.drawing other, .addBatch [submission] apiKey) t)) := by
  refine ⟨fun _ _ h => h.agree, fun submission apiKey husage => ⟨fun c => ?_, ?_⟩⟩
  · exact run_add_eq_addBatch husage
  · intro k other h₁ h₂
    have hbatch : outcome scheme (k.drawing other, .addBatch [submission] apiKey) t
        = (Call.add submission apiKey).run ((k.drawing other).onSqlite scheme) t :=
      (run_add_eq_addBatch husage).symm
    rw [hbatch]
    exact run_add_agree husage h₁ h₂

namespace Sample

/-- Two records in one delivery. -/
def together : List (Circumstances × Call) := [(.quiet 2, .addBatch [usage 5, usage 6] key)]

/-- The same records one by one in the other order. -/
def alone : List (Circumstances × Call) :=
  [(.quiet 2, .add (usage 6) key), (.quiet 3, .add (usage 5) key)]

set_option maxRecDepth 4000 in
theorem rebatched : Rebatched .bigint granted together alone := by
  refine ⟨fun s hs => ?_, .swap _ _ _, rfl, rfl⟩
  have hs : s ∈ [usage 5, usage 6] := hs
  rcases List.mem_pair.mp hs with rfl | rfl <;> exact ⟨_, rfl, rfl⟩

end Sample

/-- Two events of one user and model make one row together and two rows alone, and both are billed
alike. -/
theorem batching_keeps_bill_sample :
    ((runCalls .bigint Sample.together Sample.granted).usageSince Sample.granted).length = 1 ∧
      ((runCalls .bigint Sample.alone Sample.granted).usageSince Sample.granted).length = 2 ∧
      (runCalls .bigint Sample.together Sample.granted).users.Perm
        (runCalls .bigint Sample.alone Sample.granted).users ∧
      StoredUsage.Agree
        (StoredUsage.forPair (.number 7) "model"
          ((runCalls .bigint Sample.together Sample.granted).usageSince Sample.granted))
        (StoredUsage.forPair (.number 7) "model"
          ((runCalls .bigint Sample.alone Sample.granted).usageSince Sample.granted)) := by
  obtain ⟨husers, hagree⟩ := (batching_keeps_bill .bigint Sample.granted).1
    Sample.together Sample.alone Sample.rebatched
  exact ⟨by decide +kernel, by decide +kernel, husers, hagree (.number 7) "model"⟩

end Ledger

end UsageLedger
