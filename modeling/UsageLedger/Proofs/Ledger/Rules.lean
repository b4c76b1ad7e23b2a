/-
Which rules are left for an event.

An event is read once when it comes in, and once more when it is written: its record is
taken apart again, its user is looked for and its payload goes through the schema of its
kind.  The second reading finds what the first has found (`Event.Sound.ofValue_record`), so
it refuses nothing, and what is stored is what the event says.  What can still go wrong
is said by `Event.KeepsRules`: amounts, blank keys, keys that are no runs of characters,
times outside the calendar, and the keys that there are.  On a database that nothing
disturbs an event is written exactly when it keeps these rules (`events_survive`).
-/
import UsageLedger.Proofs.Ledger.Acceptance
import UsageLedger.Proofs.Ledger.Deliveries
import UsageLedger.Proofs.Number.Range

namespace UsageLedger

open Intake

/-! ### Times -/

/-- A time in universal time, where the calendar has it. -/
def Timestamp.universal (time : Timestamp) : Timestamp := time.toUniversal?.getD time

namespace Intake

variable {time u : Timestamp} {s : String}

theorem parseTimestamp_timestamp :
    parseTimestamp (.timestamp time) = .ok u ↔
      time.toUniversal?.isSome = true ∧ u = time.universal := by
  refine normalize_eq_ok.trans ?_
  unfold Timestamp.universal
  cases time.toUniversal? with
  | none => simp
  | some v => simp [eq_comm]

theorem canonicalTimestamp_timestamp : canonicalTimestamp (.timestamp time) = .ok s ↔
    time.toUniversal?.isSome = true ∧ s = time.universal.canonicalText := by
  rw [canonicalTimestamp, map_eq_ok]
  constructor
  · rintro ⟨u, hu, rfl⟩
    obtain ⟨hsome, rfl⟩ := parseTimestamp_timestamp.mp hu
    exact ⟨hsome, rfl⟩
  · rintro ⟨hsome, rfl⟩
    exact ⟨_, parseTimestamp_timestamp.mpr ⟨hsome, rfl⟩, rfl⟩

/-- The key that a value names, if it names one. -/
def apiKey? (v : Value) : Option Uuid := (readApiKeyId v).toOption.join

theorem apiKey?_eq_some {v : Value} {key : Uuid} :
    apiKey? v = some key ↔ readApiKeyId v = .ok (some key) := by
  unfold apiKey?
  rcases readApiKeyId v with e | o <;> simp [Except.toOption]

theorem readApiKeyId_none {v : Value} (h : readApiKeyId v = .ok none) : v = .null := by
  unfold readApiKeyId at h
  split at h
  · rfl
  · cases h
  · split at h <;> cases h

theorem apiKey?_of_ok {v : Value} {key : Option Uuid} (h : readApiKeyId v = .ok key) :
    apiKey? v = key := by
  rw [apiKey?, h]
  rfl

end Intake

/-! ### The rules -/

/-- The value names a key that is there. -/
def Tables.Knows (t : Tables) (apiKey : Value) : Prop :=
  ∃ key, Intake.apiKey? apiKey = some key ∧ key ∈ t.apiKeys.map (·.id)

/-- The rules that an event may still break when it was read: whether its numbers are in range,
whether its times are, and what there is to say about keys.  A name or a key that is no run of
characters is read, but no database takes it. -/
def Event.KeepsRules (t : Tables) (apiKey : Value) (e : Event) : Prop :=
  e.reportedAt.toUniversal?.isSome = true ∧
    match e.body with
    | .sdkCall _ data =>
      apiKey.isPresent = true ∧ t.Knows apiKey ∧ fitsInt64 data.debitAmount = true
    | .payment _ data =>
      (apiKey = .null ∨ t.Knows apiKey) ∧
        0 < data.creditAmount ∧ fitsInt64 data.creditAmount = true
    | .tokenUsage _ data =>
      apiKey.isPresent = true ∧ t.Knows apiKey ∧
        ∀ counter ∈ UsageRecord.counters data, 0 ≤ counter.2 ∧ fitsInt64 counter.2 = true
    | .addKey ⟨.whole name, .whole key, expiresAt⟩ =>
      Text.allBlank name = false ∧ Text.allBlank key = false ∧
        expiresAt.toUniversal?.isSome = true ∧
        Cell.text name ∉ t.apiKeys.map (·.name) ∧ Cell.text key ∉ t.apiKeys.map (·.key)
    | .addKey _ | .requestSdkCall _ | .requestTokenUsage _ | .requestPayment _ => False

/-- The group of one event of token usage. -/
def TokenUsageData.group (data : TokenUsageData) (user : UserId) (time : Timestamp) : UsageGroup :=
  ⟨user, data.model, data.inputTokens, data.outputTokens, data.inputDebitAmount,
    data.outputDebitAmount, time.universal⟩

/-- The rows that say what an event says. -/
def Event.posting (e : Event) (id : Uuid) (key : Option Uuid) : Posting :=
  let event (user : UserId) : EventRow :=
    Posting.event id e.reportedAt.universal.canonicalText user key
  match e.body with
  | .sdkCall user data =>
    { users := [user], events := [event user]
      sdkCalls := [⟨id, .text data.callType.name, .whole data.debitAmount⟩] }
  | .payment user data =>
    { users := [user], events := [event user], payments := [⟨id, .whole data.creditAmount⟩] }
  | .tokenUsage user data =>
    { users := [user], events := [event user]
      tokenUsages := [Posting.groupRow id (data.group user e.reportedAt)] }
  | .addKey ⟨.whole name, .whole key, expiresAt⟩ =>
    { apiKeys := [⟨id, .text name, .text key, expiresAt.universal.withoutOffset, false⟩] }
  | .addKey _ | .requestSdkCall _ | .requestTokenUsage _ | .requestPayment _ => {}

/-! ### Checks of what was read -/

namespace Ingest

variable {scheme : IdScheme} {record : Record} {user : UserId}

theorem checkSdkCall_of_valid {r : Record} {data : SdkCallData}
    (huser : requireUser scheme record EventKind.sdkCall.name = .ok user)
    (hr : record.get dataKey = .record r) (hdata : SdkCallData.ofValue (.record r) = .valid data)
    (hfits : fitsInt64 data.debitAmount = true) :
    checkSdkCall scheme record = .ok (user, data) := by
  unfold checkSdkCall
  rw [huser, parsePayload_of_valid hr hdata]
  show (requireInt64 (.int data.debitAmount) _ _ >>= fun _ => _) = _
  rw [requireInt64_of_fits hfits]
  rfl

theorem checkPayment_of_valid {r : Record} {data : PaymentData}
    (huser : requireUser scheme record EventKind.payment.name = .ok user)
    (hr : record.get dataKey = .record r) (hdata : PaymentData.ofValue (.record r) = .valid data)
    (hamount : Record.get r "creditAmount" = .int data.creditAmount)
    (hpos : 0 < data.creditAmount) (hfits : fitsInt64 data.creditAmount = true) :
    checkPayment scheme record = .ok (user, data) := by
  have hsubmitted : submittedCredit record = .int data.creditAmount := by
    rw [submittedCredit, hr]
    exact hamount
  have hcredit : checkCredit record = .ok () := by
    refine checkCredit_of_number ?_ ?_ hpos hfits
    · rw [hsubmitted]
      trivial
    · rw [hsubmitted]
      rfl
  unfold checkPayment
  rw [huser, hcredit, parsePayload_of_valid hr hdata]
  rfl

theorem checkKeyGrant_of_valid {r : Record} {data : KeyGrantData}
    (hr : record.get dataKey = .record r) (hdata : KeyGrantData.ofValue (.record r) = .valid data)
    (hname : data.name.isBlank = false) (hkey : data.key.isBlank = false) :
    checkKeyGrant record = .ok data := by
  unfold checkKeyGrant
  rw [ofFailure_ok.mp (parsePayload_of_valid hr hdata _)]
  show (if data.name.isBlank = true then _ else _) = _
  rw [hname, if_neg Bool.false_ne_true, hkey, if_neg Bool.false_ne_true]
  rfl

end Ingest

/-! ### Writing by kind -/

/-- A write is good exactly under some rules, and tells and leaves the given things then. -/
def GoodUnder {α : Type} (rules : Prop) (result : Except Raised α × Tables) (told : α)
    (left : Tables) : Prop :=
  (rules → result = (.ok told, left)) ∧ ∀ a t', result = (.ok a, t') → rules

namespace GoodUnder

variable {α : Type} {rules : Prop} {result : Except Raised α × Tables} {told : α} {left : Tables}

theorem iff (h : GoodUnder rules result told left) {a : α} {t' : Tables} :
    result = (.ok a, t') ↔ rules ∧ a = told ∧ t' = left := by
  constructor
  · intro hresult
    have hrules := h.2 a t' hresult
    rw [h.1 hrules] at hresult
    cases hresult
    exact ⟨hrules, rfl, rfl⟩
  · rintro ⟨hrules, rfl, rfl⟩
    exact h.1 hrules

theorem map_some (h : GoodUnder rules result told left) :
    GoodUnder rules (result.1.map some, result.2) (some told) left := by
  refine ⟨fun hrules => by rw [h.1 hrules]; rfl, fun o t' hresult => ?_⟩
  obtain ⟨houtcome, htables⟩ := Prod.mk.inj hresult
  obtain ⟨a, ha, -⟩ := map_eq_ok.mp houtcome
  exact h.2 a t' (Prod.ext ha htables)

theorem refused {e : Raised} {t : Tables} (h : ¬ rules) : GoodUnder rules (.error e, t) told left :=
  ⟨fun hrules => absurd hrules h, fun _ _ hresult => by cases hresult⟩

end GoodUnder

namespace Ledger

variable {c : Conditions} {t : Tables} {time : Timestamp} {apiKey : Value}

section Kinds

variable (hc : c.Undisturbed) (hfree : t.Free (c.fresh 0))

include hc hfree

theorem goodUnder_addSdkCall {user : UserId} {data : SdkCallData}
    (he : Event.Sound c.scheme ⟨time, .sdkCall user data⟩) (hpresent : apiKey.isPresent = true) :
    let e : Event := ⟨time, .sdkCall user data⟩
    GoodUnder (e.KeepsRules t apiKey) (Ingest.addSdkCall c e.record apiKey t) (c.fresh 0)
      (t.post (e.posting (c.fresh 0) (apiKey? apiKey))) := by
  have huser := he.requireUser EventKind.sdkCall.name user rfl
  have hdata : SdkCallData.ofValue (.record (Payload.sdkCall data).wire) = .valid data :=
    he.isReadFrom _ rfl
  constructor
  · rintro ⟨htime, -, ⟨key, hnamed, hknown⟩, hfits⟩
    unfold Ingest.addSdkCall
    rw [Ingest.checkSdkCall_of_valid huser rfl hdata hfits, hnamed]
    refine Ingest.storeSingle_accepted hc rfl (he.fits user rfl) (apiKey?_eq_some.mp hnamed)
      (canonicalTimestamp_timestamp.mpr ⟨htime, rfl⟩)
      (Tables.takes_of_free hfree (by simpa using hknown)) (Engine.addRows_sdkCall hfree hfits)
  · intro id t' h
    obtain ⟨⟨_, data'⟩, hchecked, h⟩ := Ingest.checked_ok h
    obtain ⟨key, _, hkey, htime, -, htakes, -⟩ := Ingest.storeSingle_ok hc.constrained h
    obtain ⟨-, hdata', hfits⟩ := Ingest.checkSdkCall_ok hchecked
    obtain rfl : data = data' := Validated.valid.inj (hdata.symm.trans hdata')
    obtain ⟨key, rfl⟩ := Ingest.readApiKeyId_present hpresent hkey
    exact ⟨(canonicalTimestamp_timestamp.mp htime).1, hpresent,
      ⟨key, apiKey?_eq_some.mpr hkey, htakes.apiKey key rfl⟩, requireInt64_int hfits⟩

theorem goodUnder_addPayment {user : UserId} {data : PaymentData}
    (he : Event.Sound c.scheme ⟨time, .payment user data⟩) :
    let e : Event := ⟨time, .payment user data⟩
    GoodUnder (e.KeepsRules t apiKey) (Ingest.addPayment c e.record apiKey t) (c.fresh 0)
      (t.post (e.posting (c.fresh 0) (apiKey? apiKey))) := by
  have huser := he.requireUser EventKind.payment.name user rfl
  have hdata : PaymentData.ofValue (.record (Payload.payment data).wire) = .valid data :=
    he.isReadFrom _ rfl
  constructor
  · rintro ⟨htime, hkey, hpos, hfits⟩
    obtain ⟨key, hparsed, hknown⟩ : ∃ key, readApiKeyId apiKey = .ok key ∧
        ∀ k ∈ key, k ∈ t.apiKeys.map (·.id) := by
      rcases hkey with rfl | ⟨key, hnamed, hknown⟩
      · exact ⟨none, rfl, by simp⟩
      · exact ⟨some key, apiKey?_eq_some.mp hnamed, by simpa using hknown⟩
    unfold Ingest.addPayment
    rw [Ingest.checkPayment_of_valid huser rfl hdata rfl hpos hfits, apiKey?_of_ok hparsed]
    exact Ingest.storeSingle_accepted hc rfl (he.fits user rfl) hparsed
      (canonicalTimestamp_timestamp.mpr ⟨htime, rfl⟩) (Tables.takes_of_free hfree hknown)
      (Engine.addRows_payment hfree hfits)
  · intro id t' h
    obtain ⟨⟨_, data'⟩, hchecked, h⟩ := Ingest.checked_ok h
    obtain ⟨key, _, hkey, htime, -, htakes, hdetail⟩ := Ingest.storeSingle_ok hc.constrained h
    obtain ⟨-, -, hdata'⟩ := Ingest.checkPayment_ok hchecked
    obtain rfl : data = data' := Validated.valid.inj (hdata.symm.trans hdata')
    obtain ⟨row, hrow, -⟩ := bind_eq_ok.mp hdetail
    refine ⟨(canonicalTimestamp_timestamp.mp htime).1, ?_, Ingest.checkPayment_pos hchecked,
      (paymentRow_ok hrow).2⟩
    cases key with
    | none => exact .inl (readApiKeyId_none hkey)
    | some key => exact .inr ⟨key, apiKey?_eq_some.mpr hkey, htakes.apiKey key rfl⟩

theorem goodUnder_addUsage {user : UserId} {data : TokenUsageData}
    (he : Event.Sound c.scheme ⟨time, .tokenUsage user data⟩) (hpresent : apiKey.isPresent = true) :
    let e : Event := ⟨time, .tokenUsage user data⟩
    GoodUnder (e.KeepsRules t apiKey) (Ingest.addUsage c [e.record] apiKey t) (some (c.fresh 0))
      (t.post (e.posting (c.fresh 0) (apiKey? apiKey))) := by
  intro e
  have huser := he.requireUser EventKind.tokenUsage.name user rfl
  have hdata : TokenUsageData.ofValue (.record (Payload.tokenUsage data).wire) = .valid data :=
    he.isReadFrom _ rfl
  constructor
  · rintro ⟨htime, -, ⟨key, hnamed, hknown⟩, hcounters⟩
    have hchecked : UsageRecord.Checked c.scheme e.record ⟨user, data, .timestamp time⟩ :=
      ⟨huser, hdata, rfl, hcounters⟩
    have hgroup : UsageGroup.single ⟨user, data, .timestamp time⟩ = .ok (data.group user time) := by
      unfold UsageGroup.single
      rw [parseTimestamp_timestamp.mpr ⟨htime, rfl⟩]
      rfl
    have hfit : ∀ counter ∈ (data.group user time).counters, fitsInt64 counter.2 = true :=
      fun counter hmem => (hcounters counter hmem).2
    rw [hnamed]
    exact Ingest.addUsage_accepted hc rfl (mapM_eq_ok.mpr (.cons hchecked.ofRecord .nil))
      (UsageGroup.aggregate_singleton hgroup hfit) (List.cons_ne_nil _ _)
      (List.forall_mem_singleton.mpr hfit) (List.forall_mem_singleton.mpr (he.fits user rfl))
      (by exact (by decide : 1 ≤ Engine.maxValues)) (apiKey?_eq_some.mp hnamed) hknown
      (List.forall_mem_singleton.mpr hfree) (by simp)
  · intro o t' h
    have hdelivers : Delivers (.add (.event e) apiKey) [e.record] := .single rfl rfl
    obtain ⟨p, hposts, hadmitted, -⟩ := posts_of_addUsage hc.constrained hdelivers hpresent h
    obtain ⟨id, key, g, hkey, hgroup, -, rfl⟩ := posts_single hposts ⟨_, rfl, rfl⟩
    obtain ⟨_, ⟨⟩, hgroup⟩ := bind_eq_ok.mp hgroup
    obtain ⟨r, hrecord, hgroup⟩ := bind_eq_ok.mp hgroup
    have hchecked := UsageRecord.checked_of_ofRecord hrecord
    have hsame : data = r.data := Validated.valid.inj (hdata.symm.trans hchecked.data)
    obtain ⟨_, htime, -⟩ := UsageGroup.single_ok hgroup
    rw [hchecked.time] at htime
    have htakes := hadmitted.events _ (List.mem_singleton_self _)
    exact ⟨(parseTimestamp_timestamp.mp htime).1, hpresent,
      ⟨key, apiKey?_eq_some.mpr hkey, htakes.apiKey key rfl⟩, hsame ▸ hchecked.counters⟩

theorem goodUnder_addKey {data : KeyGrantData}
    (he : Event.Sound c.scheme ⟨time, .addKey data⟩) :
    let e : Event := ⟨time, .addKey data⟩
    GoodUnder (e.KeepsRules t apiKey) (Ingest.addKey c e.record t) (c.fresh 0)
      (t.post (e.posting (c.fresh 0) (apiKey? apiKey))) := by
  have hdata : KeyGrantData.ofValue (.record (Payload.keyGrant data).wire) = .valid data :=
    he.isReadFrom _ rfl
  constructor
  · rintro ⟨htime, hrules⟩
    -- a name or a key that is no run of characters keeps no rules
    rcases data with ⟨name | _, key | _, given⟩ <;> try exact hrules.elim
    obtain ⟨hname, hkey, hexpires, hnew, hnewKey⟩ := hrules
    exact Ingest.addKey_accepted hc rfl (Ingest.checkKeyGrant_of_valid rfl hdata hname hkey)
      (canonicalTimestamp_timestamp.mpr ⟨htime, rfl⟩)
      (parseTimestamp_timestamp.mpr ⟨hexpires, rfl⟩) hnew hnewKey hfree.apiKey
  · intro id t' h
    obtain ⟨data', hchecked, h⟩ := Ingest.checked_ok h
    have hgives := Ingest.gives_of_writeTransaction h
    obtain ⟨_, htime, -⟩ := Txn.gives_after_check hgives
    obtain ⟨hdata', hname, hkey⟩ := Ingest.checkKeyGrant_ok (Ingest.ofFailure_ok.mp hchecked)
    obtain rfl : data = data' := Validated.valid.inj (hdata.symm.trans hdata')
    obtain ⟨name, key, given, _, rfl, hexpires, hadded⟩ :=
      Ingest.gives_storeKey hc.constrained hgives
    obtain ⟨hnewKey, hnew, -⟩ := Tables.addApiKey_ok hadded
    exact ⟨(canonicalTimestamp_timestamp.mp htime).1, hname, hkey,
      (parseTimestamp_timestamp.mp hexpires).1, hnew, hnewKey⟩

end Kinds

/-! ### Writing -/

/-- An event is written exactly when it keeps the rules, and its rows say what it says. -/
theorem goodUnder_add (hc : c.Undisturbed) (hfree : t.Free (c.fresh 0)) {e : Event}
    (he : e.Sound c.scheme) {submission : Submission} (hrecord : unwrap submission = .ok e.record)
    (hkind : e.kind ∈ writeKinds) :
    GoodUnder (e.KeepsRules t apiKey) (add c submission apiKey t) (some (c.fresh 0))
      (t.post (e.posting (c.fresh 0) (apiKey? apiKey))) := by
  have hnamed : acceptedKind e.record writeKinds = .ok e.kind :=
    acceptedKind_eq_ok.mpr ⟨EventKind.ofName?_name e.kind, hkind⟩
  rw [add_of_kind hrecord hnamed]
  rcases e with ⟨time, body⟩
  cases body with
  | sdkCall user data =>
      cases hpresent : apiKey.isPresent with
      | false => exact .refused fun hrules => Bool.false_ne_true (hpresent.symm.trans hrules.2.1)
      | true => exact (goodUnder_addSdkCall hc hfree he hpresent).map_some
  | payment user data => exact (goodUnder_addPayment hc hfree he).map_some
  | tokenUsage user data =>
      cases hpresent : apiKey.isPresent with
      | false => exact .refused fun hrules => Bool.false_ne_true (hpresent.symm.trans hrules.2.1)
      | true => exact goodUnder_addUsage hc hfree he hpresent
  | addKey data => exact (goodUnder_addKey hc hfree he).map_some
  | requestSdkCall | requestTokenUsage | requestPayment =>
      simp [Event.kind, EventBody.kind, writeKinds] at hkind

end Ledger

/-- Whoever reads the record of an event finds what the event says. -/
structure Event.ReadBack (scheme : IdScheme) (e : Event) : Prop where
  unwrapped : unwrap (.envelope e.envelope) = .ok e.record
  event : ∀ now, ofValue scheme now (.record e.record) = .valid e
  user : ∀ user ∈ e.body.user?, ∀ label, requireUser scheme e.record label = .ok user
  payload : ∀ p ∈ e.body.payload?, p.IsReadFrom (e.record.get dataKey)

namespace Ledger

/-- **An event survives its envelope.**  It is read back from its record as the same event, and what
writes it finds its user and its payload.  So only the rules can refuse it: it is written exactly
when it keeps them, and the rows that are stored say what it says. -/
theorem events_survive {scheme : IdScheme} {e : Event} (he : e.Made scheme) :
    e.ReadBack scheme ∧
      ∀ {c : Conditions} {t : Tables} {submission : Submission}, c.scheme = scheme →
        c.Undisturbed → t.Free (c.fresh 0) → unwrap submission = .ok e.record →
        e.kind ∈ writeKinds → ∀ apiKey o t',
          add c submission apiKey t = (.ok o, t') ↔ e.KeepsRules t apiKey ∧ o = some (c.fresh 0) ∧
            t' = t.post (e.posting (c.fresh 0) (apiKey? apiKey)) := by
  have hsound := he.sound
  refine ⟨⟨rfl, hsound.ofValue_record, fun user huser label => ?_, hsound.isReadFrom⟩, ?_⟩
  · exact hsound.requireUser label user huser
  · rintro c t submission rfl hc hfree hrecord hkind apiKey o t'
    exact (goodUnder_add hc hfree hsound hrecord hkind).iff

namespace Sample

/-- An SDK call that is reported with its numbers spelt out. -/
def spelt (debit : String) : Value :=
  .record [("type", .text "SDK_CALL"), ("reported_timestamp", .timestamp Timestamp.first),
    ("data", .record [("sdkCallType", .text "RAW"), ("debitAmount", .text debit)]),
    ("userId", .text "7")]

/-- The event of an SDK call of user 7. -/
def sdkCallEvent (debit : Int) : Event :=
  ⟨Timestamp.first, .sdkCall (.number 7) ⟨.raw, debit⟩⟩

theorem made_sdkCall : (sdkCallEvent 5).Made .bigint ∧ (sdkCallEvent (2 ^ 63)).Made .bigint :=
  ⟨.read (show Event.ofValue .bigint Timestamp.first (spelt "5") = _ from rfl),
    .read (show Event.ofValue .bigint Timestamp.first (spelt "9223372036854775808") = _ from rfl)⟩

end Sample

/-- What is said in texts is stored in numbers, and a number beyond 64 bits breaks a rule, though it
was read. -/
theorem events_survive_sample :
    let c := Conditions.ideal .bigint fun n => Uuid.ofNat (2 + n)
    (Sample.sdkCallEvent 5).ReadBack .bigint ∧
      add c (.envelope (Sample.sdkCallEvent 5).envelope) Sample.key Sample.granted
        = (.ok (some (Uuid.ofNat 2)), Sample.granted.post
            { users := [.number 7]
              events := [⟨Uuid.ofNat 2, .text "0001-01-01T00:00:00.000000+00:00", some (.whole 7),
                some (Uuid.ofNat 1)⟩]
              sdkCalls := [⟨Uuid.ofNat 2, .text "RAW", .whole 5⟩] }) ∧
      (Sample.sdkCallEvent (2 ^ 63)).ReadBack .bigint ∧
      ¬ ∃ o t', add c (.event (Sample.sdkCallEvent (2 ^ 63))) Sample.key Sample.granted
        = (.ok o, t') := by
  intro c
  have hc : c.Undisturbed := Conditions.undisturbed_ideal _ _
  obtain ⟨hread, hadd⟩ := events_survive Sample.made_sdkCall.1
  obtain ⟨hread', hadd'⟩ := events_survive Sample.made_sdkCall.2
  have htime : Timestamp.first.universal.canonicalText = "0001-01-01T00:00:00.000000+00:00" := by
    decide +kernel
  refine ⟨hread, ?_, hread', ?_⟩
  · rw [← htime]
    refine (hadd rfl hc Sample.free_granted rfl (by decide) _ _ _).mpr ⟨?_, rfl, rfl⟩
    exact ⟨rfl, rfl, ⟨Uuid.ofNat 1, rfl, by decide +kernel⟩, by decide⟩
  · rintro ⟨o, t', h⟩
    obtain ⟨⟨-, -, -, hfits⟩, -⟩ := (hadd' rfl hc Sample.free_granted rfl (by decide) _ _ _).mp h
    exact absurd hfits (by decide)

namespace Sample

/-- Half of a pair, which is a text but no character. -/
def half : BrokenText := ⟨[0xD800], by decide, by decide⟩

/-- The grant of a key under such a name. -/
def halfNamed : Event := ⟨Timestamp.first, .addKey ⟨.broken half, "key", Timestamp.first⟩⟩

/-- The grant as it is reported. -/
def halfNamedReport : Value :=
  .record [("type", .text "ADD_KEY"), ("reported_timestamp", .timestamp Timestamp.first),
    ("data", .record [("name", .brokenText half), ("key", .text "key"),
      ("expiresAt", .timestamp Timestamp.first)])]

end Sample

/-- A name that is no run of characters is read, it is not blank and no other key has it, and both
times lie in the calendar.  Still the grant is refused, when the name is handed to the database. -/
theorem half_name_refused :
    let c := Conditions.ideal .bigint fun n => Uuid.ofNat (2 + n)
    Sample.halfNamed.Made .bigint ∧ AnyText.isBlank (.broken Sample.half) = false ∧
      Timestamp.first.toUniversal?.isSome = true ∧
      ∀ apiKey, add c (.event Sample.halfNamed) apiKey Tables.empty
        = (Raised.refuse (.transaction "ADD_KEY event" (.unencodable Sample.half)),
          Tables.empty) := by
  refine ⟨.read (show Event.ofValue .bigint Timestamp.first Sample.halfNamedReport = _ from rfl),
    rfl, rfl, fun apiKey => rfl⟩

end Ledger

end UsageLedger
