/-
What an accepted call stores.

Whatever a call is about, what it stores is a posting: users, a key, events and the
particulars of events, all of which come after what is there (`Tables.post`).  `Posts`
says which postings a call can have, from its records alone; `Admitted` says what the
tables have to be like for a posting.  Every accepted call has a posting that its tables
admit (`posts_of_accepted`), and everything about runs is proved from that.
-/
import UsageLedger.Proofs.Ledger.Run

namespace UsageLedger

/-- Rows that are stored together. -/
structure Posting where
  users : List UserId := []
  apiKeys : List ApiKeyRow := []
  events : List EventRow := []
  sdkCalls : List SdkCallRow := []
  payments : List PaymentRow := []
  tokenUsages : List TokenUsageRow := []

/-- The tables after a posting. -/
def Tables.post (t : Tables) (p : Posting) : Tables where
  users := (t.withUsers p.users).users
  apiKeys := t.apiKeys ++ p.apiKeys
  events := t.events ++ p.events
  sdkCalls := t.sdkCalls ++ p.sdkCalls
  payments := t.payments ++ p.payments
  tokenUsages := t.tokenUsages ++ p.tokenUsages

/-- What the constraints of the tables ask of a posting. -/
structure Posting.Admitted (p : Posting) (t : Tables) : Prop where
  /-- Events have new identifiers and refer to what is there. -/
  events : ∀ e ∈ p.events, (t.withUsers p.users).Takes e
  /-- The identifiers of events are all different. -/
  nodup : (p.events.map (·.id)).Nodup
  /-- Names and digests of keys are new, and no posting has two keys. -/
  apiKeys : p.apiKeys = [] ∨ ∃ row, p.apiKeys = [row] ∧
    row.name ∉ t.apiKeys.map (·.name) ∧ row.key ∉ t.apiKeys.map (·.key)

namespace Posting

/-- The event of one user under an identifier. -/
def event (id : Uuid) (time : String) (user : UserId) (apiKey : Option Uuid) : EventRow :=
  ⟨id, .text time, some user.toCell, apiKey⟩

/-- A call of an SDK. -/
def sdkCall (id : Uuid) (time : String) (user : UserId) (apiKey : Uuid) (data : SdkCallData) :
    Posting where
  users := [user]
  events := [event id time user (some apiKey)]
  sdkCalls := [⟨id, .text data.callType.name, .whole data.debitAmount⟩]

/-- A payment. -/
def payment (id : Uuid) (time : String) (user : UserId) (apiKey : Option Uuid)
    (data : PaymentData) : Posting where
  users := [user]
  events := [event id time user apiKey]
  payments := [⟨id, .whole data.creditAmount⟩]

/-- The event of a group of token usage. -/
def groupEvent (apiKey : Uuid) (id : Uuid) (g : UsageGroup) : EventRow :=
  event id g.reportedAt.canonicalText g.user (some apiKey)

/-- The particulars of a group of token usage. -/
def groupRow (id : Uuid) (g : UsageGroup) : TokenUsageRow :=
  ⟨id, .text g.model, .whole g.inputTokens, .whole g.outputTokens, .whole g.inputDebitAmount,
    .whole g.outputDebitAmount⟩

/-- Groups of token usage, one under each identifier. -/
def usage (ids : List Uuid) (apiKey : Uuid) (groups : List UsageGroup) : Posting where
  users := groups.map (·.user)
  events := List.zipWith (groupEvent apiKey) ids groups
  tokenUsages := List.zipWith groupRow ids groups

end Posting

/-! ### Rows -/

section zipWith

variable {α β γ δ : Type}

theorem zipWith_left {as : List α} {bs : List β} (f : α → γ) (h : as.length = bs.length) :
    List.zipWith (fun a _ => f a) as bs = as.map f := by
  induction as generalizing bs with
  | nil => rfl
  | cons a as ih =>
      obtain ⟨b, bs, rfl⟩ := List.exists_cons_of_length_eq_add_one h.symm
      rw [List.zipWith_cons_cons, ih (by simpa using h), List.map_cons]

theorem zipWith_right {as : List α} {bs : List β} (f : β → γ) (h : as.length = bs.length) :
    List.zipWith (fun _ b => f b) as bs = bs.map f := by
  rw [List.zipWith_comm]
  exact zipWith_left f h.symm

theorem eq_zipWith_of_forall₂ {R : γ → δ → Prop} {f : α → β → γ} {g : α → β → δ} {as : List α}
    {bs : List β} {ds : List δ} (h : List.Forall₂ R (List.zipWith f as bs) ds)
    (hfg : ∀ {a b d}, R (f a b) d → d = g a b) : ds = List.zipWith g as bs := by
  induction as generalizing bs ds with
  | nil =>
      cases h
      rfl
  | cons a as ih =>
      cases bs with
      | nil =>
          cases h
          rfl
      | cons b bs =>
          cases h with
          | cons hhead htail => rw [hfg hhead, ih htail, List.zipWith_cons_cons]

theorem forall₂_zipWith {R : γ → δ → Prop} {f : α → β → γ} {g : α → β → δ} {as : List α}
    {bs : List β} (h : ∀ a ∈ as, ∀ b ∈ bs, R (f a b) (g a b)) :
    List.Forall₂ R (List.zipWith f as bs) (List.zipWith g as bs) := by
  rw [← List.map_uncurry_zip_eq_zipWith, ← List.map_uncurry_zip_eq_zipWith,
    List.forall₂_map_left_iff, List.forall₂_map_right_iff, List.forall₂_same]
  rintro ⟨a, b⟩ hmem
  exact h a (List.of_mem_zip hmem).1 b (List.of_mem_zip hmem).2

theorem exists_of_mem_zipWith {f : α → β → γ} {as : List α} {bs : List β} {c : γ}
    (h : c ∈ List.zipWith f as bs) : ∃ a ∈ as, ∃ b ∈ bs, c = f a b := by
  rw [← List.map_uncurry_zip_eq_zipWith] at h
  obtain ⟨⟨a, b⟩, hmem, rfl⟩ := List.mem_map.mp h
  exact ⟨a, (List.of_mem_zip hmem).1, b, (List.of_mem_zip hmem).2, rfl⟩

end zipWith

/-- The events of groups have the identifiers of the posting, in their order. -/
theorem Posting.usage_event_ids {ids : List Uuid} {key : Uuid} {groups : List UsageGroup}
    (hlength : ids.length = groups.length) : (usage ids key groups).events.map (·.id) = ids := by
  show (List.zipWith (groupEvent key) ids groups).map (·.id) = ids
  rw [List.map_zipWith]
  exact (zipWith_left id hlength).trans (List.map_id ids)

/-- Each user of the groups is named by the event of a group. -/
theorem Posting.usage_named {ids : List Uuid} {key : Uuid} {groups : List UsageGroup}
    (hlength : ids.length = groups.length) {user : UserId} (huser : user ∈ groups.map (·.user)) :
    ∃ e ∈ (usage ids key groups).events, e.user = some user.toCell := by
  have hnames : (usage ids key groups).events.map (·.user)
      = groups.map fun g => some g.user.toCell := by
    show (List.zipWith (groupEvent key) ids groups).map (·.user) = _
    rw [List.map_zipWith]
    exact zipWith_right _ hlength
  obtain ⟨g, hg, rfl⟩ := List.mem_map.mp huser
  have hmem : some g.user.toCell ∈ (usage ids key groups).events.map (·.user) := by
    rw [hnames]
    exact List.mem_map_of_mem hg
  exact List.mem_map.mp hmem

section Rows

variable {scheme : IdScheme} {id : Uuid}

theorem eventRow_eq {time : String} {user : UserId} {key : Option Uuid} :
    Store.eventRow scheme (Table.events.mentioned
      (Repository.withId (Repository.userEventRow time user key) id))
      = (do
          let user ← Store.bindUser scheme user.toValue
          return ⟨id, .text time, user, key⟩) := by
  cases user <;> cases key <;> rfl

theorem eventRow_ok {time : String} {user : UserId} {key : Option Uuid} {e : EventRow}
    (h : Store.eventRow scheme (Table.events.mentioned
      (Repository.withId (Repository.userEventRow time user key) id)) = .ok e) :
    e = Posting.event id time user key := by
  rw [eventRow_eq] at h
  obtain ⟨cell, hcell, h⟩ := bind_eq_ok.mp h
  rw [UserId.bindUser_toValue hcell] at h
  cases h
  rfl

theorem bindNumber_int {n : Int} {cell : Option Cell} (h : Store.bindNumber (.int n) = .ok cell) :
    cell = some (.whole n) ∧ Intake.fitsInt64 n = true := by
  obtain ⟨bound, hbound, hcell⟩ := bind_eq_ok.mp h
  simp only [Store.bindCell] at hbound
  split at hbound
  · next hfits =>
      cases hbound
      cases hcell
      exact ⟨rfl, hfits⟩
  · cases hbound

theorem sdkCallRow_ok {data : SdkCallData} {row : SdkCallRow}
    (h : Store.sdkCallRow (Table.sdkCalls.mentioned
      (Repository.detailRow (.uuid id) (Ingest.sdkCallValues data))) = .ok row) :
    row = ⟨id, .text data.callType.name, .whole data.debitAmount⟩ ∧
      Intake.fitsInt64 data.debitAmount = true := by
  have hrow : Store.sdkCallRow (Table.sdkCalls.mentioned
      (Repository.detailRow (.uuid id) (Ingest.sdkCallValues data)))
        = (do
            let debit ← Store.bindNumber (.int data.debitAmount)
            let debit ← Store.needed "sdk_call_events" "debit_amount" debit
            return ⟨id, .text data.callType.name, debit⟩) := rfl
  rw [hrow] at h
  obtain ⟨cell, hcell, h⟩ := bind_eq_ok.mp h
  obtain ⟨rfl, hfits⟩ := bindNumber_int hcell
  cases h
  exact ⟨rfl, hfits⟩

theorem paymentRow_ok {data : PaymentData} {row : PaymentRow}
    (h : Store.paymentRow (Table.payments.mentioned
      (Repository.detailRow (.uuid id) (Ingest.paymentValues data))) = .ok row) :
    row = ⟨id, .whole data.creditAmount⟩ ∧ Intake.fitsInt64 data.creditAmount = true := by
  have hrow : Store.paymentRow (Table.payments.mentioned
      (Repository.detailRow (.uuid id) (Ingest.paymentValues data)))
        = (do
            let credit ← Store.bindNumber (.int data.creditAmount)
            let credit ← Store.needed "payment_events" "credit_amount" credit
            return ⟨id, credit⟩) := rfl
  rw [hrow] at h
  obtain ⟨cell, hcell, h⟩ := bind_eq_ok.mp h
  obtain ⟨rfl, hfits⟩ := bindNumber_int hcell
  cases h
  exact ⟨rfl, hfits⟩

theorem tokenUsageRow_eq {g : UsageGroup} :
    Store.tokenUsageRow (Table.tokenUsages.mentioned (Ingest.usageValues id g))
      = (do
          let a ← Store.bindNumber (.int g.inputTokens)
          let b ← Store.bindNumber (.int g.outputTokens)
          let c ← Store.bindNumber (.int g.inputDebitAmount)
          let d ← Store.bindNumber (.int g.outputDebitAmount)
          let a ← Store.needed "ai_token_usage_events" "input_tokens" a
          let b ← Store.needed "ai_token_usage_events" "output_tokens" b
          let c ← Store.needed "ai_token_usage_events" "input_debit_amount" c
          let d ← Store.needed "ai_token_usage_events" "output_debit_amount" d
          return ⟨id, .text g.model, a, b, c, d⟩) := rfl

theorem tokenUsageRow_ok {g : UsageGroup} {row : TokenUsageRow}
    (h : Store.tokenUsageRow (Table.tokenUsages.mentioned (Ingest.usageValues id g)) = .ok row) :
    row = Posting.groupRow id g := by
  rw [tokenUsageRow_eq] at h
  obtain ⟨a, ha, h⟩ := bind_eq_ok.mp h
  obtain ⟨b, hb, h⟩ := bind_eq_ok.mp h
  obtain ⟨c, hc, h⟩ := bind_eq_ok.mp h
  obtain ⟨d, hd, h⟩ := bind_eq_ok.mp h
  obtain ⟨rfl, -⟩ := bindNumber_int ha
  obtain ⟨rfl, -⟩ := bindNumber_int hb
  obtain ⟨rfl, -⟩ := bindNumber_int hc
  obtain ⟨rfl, -⟩ := bindNumber_int hd
  cases h
  rfl

end Rows

/-! ### What calls post -/

/-- The records of token usage that a call delivers. -/
inductive Ledger.Delivers : Ledger.Call → List Record → Prop
  | single {submission apiKey record} :
      Intake.unwrap submission = .ok record →
      Intake.acceptedKind record Intake.writeKinds = .ok .tokenUsage →
      Delivers (.add submission apiKey) [record]
  | batch {submissions apiKey records} :
      submissions.mapM Intake.unwrap = .ok records →
      (∀ record ∈ records, Intake.acceptedKind record Intake.writeKinds = .ok .tokenUsage) →
      Delivers (.addBatch submissions apiKey) records

open Ledger Intake in
/-- What an accepted call tells and posts, by what its records say. -/
inductive Posts (scheme : IdScheme) : Call → Option Uuid → Posting → Prop
  | sdkCall {submission apiKey record user data key time id} :
      unwrap submission = .ok record → acceptedKind record writeKinds = .ok .sdkCall →
      Ingest.checkSdkCall scheme record = .ok (user, data) →
      readApiKeyId apiKey = .ok (some key) →
      canonicalTimestamp (record.get timestampKey) = .ok time →
      Posts scheme (.add submission apiKey) (some id) (Posting.sdkCall id time user key data)
  | payment {submission apiKey record user data key time id} :
      unwrap submission = .ok record → acceptedKind record writeKinds = .ok .payment →
      Ingest.checkPayment scheme record = .ok (user, data) →
      readApiKeyId apiKey = .ok key →
      canonicalTimestamp (record.get timestampKey) = .ok time →
      fitsInt64 data.creditAmount = true →
      Posts scheme (.add submission apiKey) (some id) (Posting.payment id time user key data)
  | usage {call records usage groups ids key} :
      Delivers call records → UsageRecord.ofRecords scheme records = .ok usage →
      UsageGroup.aggregate usage = .ok groups → ids.length = groups.length →
      records = [] ∨ readApiKeyId call.apiKey = .ok (some key) →
      Posts scheme call ids.head? (Posting.usage ids key groups)
  | grant {submission apiKey record given expiresAt id} {name key : String} :
      unwrap submission = .ok record → acceptedKind record writeKinds = .ok .addKey →
      Ingest.checkKeyGrant record = .ok ⟨name, key, given⟩ →
      parseTimestamp (.timestamp given) = .ok expiresAt →
      Posts scheme (.add submission apiKey) (some id)
        { apiKeys := [⟨id, .text name, .text key, expiresAt.withoutOffset, false⟩] }

end UsageLedger
