/-
An event that is written as a record is read back from it.

A record holds values, not texts: the user as an identifier, the time as a time, numbers as
whole numbers.  So each field is read back by the reader's own case for its kind, whatever
the spelling was that the event came from; only the model of token usage is looked at again, and
its length was checked the first time (`Event.Made`).  The readers of the ledger find what the
event says as well: its user, and its payload by the schema of its kind.
-/
import UsageLedger.Intake.Checks
import UsageLedger.Intake.Envelope
import UsageLedger.Proofs.Outcome
import UsageLedger.Proofs.Schema.Field

namespace UsageLedger

/-! ### Users -/

/-- The identifier of a user of a scheme. -/
def UserId.Fits (scheme : IdScheme) (user : UserId) : Prop :=
  UserId.parse scheme user.toValue = .ok user

/-- Whatever an identifier was read from, it is read from itself. -/
theorem UserId.fits_of_parse {scheme : IdScheme} {v : Value} {user : UserId}
    (h : UserId.parse scheme v = .ok user) : user.Fits scheme := by
  unfold Fits
  unfold parse at h ⊢
  cases hbounds : scheme.bounds? with
  | none =>
      rw [hbounds] at h
      have huuid : ∃ u, user = .uuid u := by
        change parseUuid v = .ok user at h
        unfold parseUuid at h
        split at h
        · cases h
          exact ⟨_, rfl⟩
        · split at h <;> cases h
          exact ⟨_, rfl⟩
        · cases h
        · cases h
      obtain ⟨u, rfl⟩ := huuid
      rfl
  | some bounds =>
      rw [hbounds] at h
      have hnumber : ∃ n, ofNumber scheme bounds n = .ok user := by
        change parseNumber scheme bounds v = .ok user at h
        unfold parseNumber at h
        split at h
        · cases h
        · exact ⟨_, h⟩
        · split at h
          · exact ⟨_, h⟩
          · cases h
        · cases h
        · cases h
      obtain ⟨n, hn⟩ := hnumber
      have huser : user = .number n := by
        unfold ofNumber at hn
        split at hn <;> cases hn
        rfl
      rw [huser] at hn ⊢
      exact hn

/-! ### Payloads -/

/-- The schema of a payload reads it from a value. -/
def Payload.IsReadFrom (v : Value) : Payload → Prop
  | sdkCall data => SdkCallData.ofValue v = .valid data
  | payment data => PaymentData.ofValue v = .valid data
  | tokenUsage data => TokenUsageData.ofValue v = .valid data
  | keyGrant data => KeyGrantData.ofValue v = .valid data

theorem SdkCallData.ofValue_wire (data : SdkCallData) :
    ofValue (.record (Payload.sdkCall data).wire) = .valid data := by
  rcases data with ⟨_ | _, debit⟩ <;> rfl

theorem PaymentData.ofValue_wire (data : PaymentData) :
    ofValue (.record (Payload.payment data).wire) = .valid data := rfl

theorem KeyGrantData.ofValue_wire (data : KeyGrantData) :
    ofValue (.record (Payload.keyGrant data).wire) = .valid data := by
  rcases data with ⟨_ | _, _ | _, expiresAt⟩ <;> rfl

/-- The length of a model was checked when it was read. -/
theorem TokenUsageData.ofValue_wire {v : Value} {data : TokenUsageData}
    (h : ofValue v = .valid data) :
    ofValue (.record (Payload.tokenUsage data).wire) = .valid data := by
  obtain ⟨r, -, hbuild, -⟩ := Schema.shape_valid h
  simp only [Validated.seq_eq_valid_iff, Validated.map_eq_valid_iff] at hbuild
  obtain ⟨_, _, ⟨_, _, ⟨_, _, ⟨_, _, ⟨model, hmodel, rfl⟩, -, rfl⟩, -, rfl⟩, -, rfl⟩, -, rfl⟩ :=
    hbuild
  obtain ⟨given, hgiven⟩ := Schema.exists_of_required hmodel
  unfold ofValue Schema.shape
  dsimp only
  rw [Schema.required_of_get? (v := .text model) rfl (Schema.readTextWithin_text hgiven)]
  rfl

/-- A payload that was read from something is read from what it is written as. -/
theorem Payload.isReadFrom_wire {p : Payload} {v : Value} (h : p.IsReadFrom v) :
    p.IsReadFrom (.record p.wire) := by
  cases p with
  | sdkCall data => exact SdkCallData.ofValue_wire data
  | payment data => exact PaymentData.ofValue_wire data
  | tokenUsage data => exact TokenUsageData.ofValue_wire h
  | keyGrant data => exact KeyGrantData.ofValue_wire data

/-! ### Events that were read -/

namespace Event

variable {scheme : IdScheme} {now : Timestamp} {r : Record} {e : Event}

theorem user_of_required {user : UserId}
    (h : Schema.required userField (readUser scheme) r = .valid user) :
    ∃ v, UserId.parse scheme v = .ok user := by
  obtain ⟨v, hv⟩ := Schema.exists_of_required h
  exact ⟨v, mapError_eq_ok.mp hv⟩

/-- What a report is read from. -/
theorem readReport_eq_valid {α : Type} {check : Value → Validated α}
    {make : UserId → α → EventBody} :
    readReport scheme now check make r = .valid e ↔ ∃ time data user,
      Schema.defaulted timestampField now Schema.readTimestamp r = .valid time ∧
        Schema.requiredShape dataField check r = .valid data ∧
        Schema.required userField (readUser scheme) r = .valid user ∧
        e = ⟨time, make user data⟩ := by
  constructor
  · intro h
    obtain ⟨ofUser, user, hpart, huser, rfl⟩ := Validated.seq_eq_valid_iff.mp h
    obtain ⟨ofData, data, hmade, hdata, rfl⟩ := Validated.seq_eq_valid_iff.mp hpart
    obtain ⟨time, htime, rfl⟩ := Validated.map_eq_valid_iff.mp hmade
    exact ⟨time, data, user, htime, hdata, huser, rfl⟩
  · rintro ⟨time, data, user, htime, hdata, huser, rfl⟩
    unfold readReport
    rw [htime, hdata, huser]
    rfl

theorem readReport_valid {α : Type} {check : Value → Validated α} {make : UserId → α → EventBody}
    (h : readReport scheme now check make r = .valid e) :
    ∃ user data, e.body = make user data ∧ (∃ v, UserId.parse scheme v = .ok user) ∧
      ∃ v, check v = .valid data := by
  obtain ⟨time, data, user, -, hshape, huser, rfl⟩ := readReport_eq_valid.mp h
  exact ⟨user, data, rfl, user_of_required huser, Schema.exists_of_requiredShape hshape⟩

theorem readRequest_valid {make : UserId → EventBody}
    (h : readRequest scheme now make r = .valid e) :
    ∃ user, e.body = make user ∧ ∃ v, UserId.parse scheme v = .ok user := by
  obtain ⟨ofUser, user, hnone, huser, rfl⟩ := Validated.seq_eq_valid_iff.mp h
  obtain ⟨ofNone, _, htime, -, rfl⟩ := Validated.seq_eq_valid_iff.mp hnone
  obtain ⟨time, -, rfl⟩ := Validated.map_eq_valid_iff.mp htime
  exact ⟨user, rfl, user_of_required huser⟩

theorem readGrant_valid (h : readGrant now r = .valid e) :
    ∃ data, e.body = .addKey data ∧ ∃ v, KeyGrantData.ofValue v = .valid data := by
  obtain ⟨ofData, data, htime, hshape, rfl⟩ := Validated.seq_eq_valid_iff.mp h
  obtain ⟨time, -, rfl⟩ := Validated.map_eq_valid_iff.mp htime
  exact ⟨data, rfl, Schema.exists_of_requiredShape hshape⟩

/-- An event is of the kind that it was read as. -/
theorem kind_of_ofRecord {kind : EventKind} (h : ofRecord scheme now kind r = .valid e) :
    e.kind = kind := by
  unfold Event.kind
  cases kind with
  | sdkCall | payment | tokenUsage =>
      obtain ⟨user, data, hbody, -⟩ := readReport_valid h
      rw [hbody]
      rfl
  | requestSdkCall | requestTokenUsage | requestPayment =>
      obtain ⟨user, hbody, -⟩ := readRequest_valid h
      rw [hbody]
      rfl
  | addKey =>
      obtain ⟨data, hbody, -⟩ := readGrant_valid h
      rw [hbody]
      rfl

/-- An event is of the kind that the record names it by. -/
theorem kind_of_ofValue (h : ofValue scheme now (.record r) = .valid e) :
    kindOf? (r.get typeKey) = some e.kind := by
  unfold ofValue at h
  dsimp only at h
  split at h
  · cases h
  · next given hgiven =>
      have hget : r.get typeKey = given := by rw [Record.get, hgiven, Option.getD_some]
      split at h
      · cases h
      · next kind hkind =>
          rw [hget, hkind, kind_of_ofRecord (Validated.under_eq_valid_iff.mp h)]

/-! ### Events that can be -/

/-- What an event is made of: a user of the scheme, and a payload that its schema has read. -/
structure Sound (scheme : IdScheme) (e : Event) : Prop where
  user : ∀ user ∈ e.body.user?, ∃ v, UserId.parse scheme v = .ok user
  payload : ∀ p ∈ e.body.payload?, ∃ v, p.IsReadFrom v

/-- An event that can be: it was read from something, or put together from a time, a user and a
payload. -/
inductive Made (scheme : IdScheme) : Event → Prop
  | read {now : Timestamp} {payload : Value} {e : Event} :
      ofValue scheme now payload = .valid e → Made scheme e
  | built {e : Event} : e.Sound scheme → Made scheme e

theorem sound_of_ofRecord {kind : EventKind} (h : ofRecord scheme now kind r = .valid e) :
    e.Sound scheme := by
  have hof : ∀ {body : EventBody}, e.body = body →
      (∀ user ∈ body.user?, ∃ v, UserId.parse scheme v = .ok user) →
      (∀ p ∈ body.payload?, ∃ v, p.IsReadFrom v) → e.Sound scheme := by
    rintro _ rfl huser hpayload
    exact ⟨huser, hpayload⟩
  cases kind with
  | sdkCall | payment | tokenUsage =>
      obtain ⟨user, data, hbody, huser, hdata⟩ := readReport_valid h
      exact hof hbody (fun _ hu => Option.some.inj hu ▸ huser)
        fun _ hp => Option.some.inj hp ▸ hdata
  | addKey =>
      obtain ⟨data, hbody, hdata⟩ := readGrant_valid h
      exact hof hbody (fun _ hu => by cases hu) fun _ hp => Option.some.inj hp ▸ hdata
  | requestSdkCall | requestTokenUsage | requestPayment =>
      obtain ⟨user, hbody, huser⟩ := readRequest_valid h
      exact hof hbody (fun _ hu => Option.some.inj hu ▸ huser) fun _ hp => by cases hp

/-- What can be read as an event is read as one of a kind. -/
theorem exists_record_of_ofValue {payload : Value} (h : ofValue scheme now payload = .valid e) :
    ∃ kind r, ofRecord scheme now kind r = .valid e := by
  unfold ofValue at h
  split at h
  · split at h
    · cases h
    · split at h
      · cases h
      · exact ⟨_, _, Validated.under_eq_valid_iff.mp h⟩
  · split at h
    · exact ⟨_, _, Validated.under_eq_valid_iff.mp h⟩
    · cases h
  · cases h
  · cases h
  · cases h

theorem Made.sound (h : e.Made scheme) : e.Sound scheme := by
  cases h with
  | read hread =>
      obtain ⟨kind, r, hrecord⟩ := exists_record_of_ofValue hread
      exact sound_of_ofRecord hrecord
  | built hsound => exact hsound

/-! ### Reading back what was written -/

section Given

theorem time_of_get? (h : r.get? timestampField.wire = some (.timestamp e.reportedAt)) :
    Schema.defaulted timestampField now Schema.readTimestamp r = .valid e.reportedAt :=
  Schema.defaulted_of_get? h rfl

theorem user_of_get? {user : UserId} (h : r.get? userField.wire = some user.toValue)
    (hfits : user.Fits scheme) :
    Schema.required userField (readUser scheme) r = .valid user := by
  refine Schema.required_of_get? h ?_
  rw [readUser, hfits]
  rfl

variable {user : UserId} (htime : r.get? timestampField.wire = some (.timestamp e.reportedAt))
  (huser : r.get? userField.wire = some user.toValue) (hfits : user.Fits scheme)

include htime huser hfits

theorem readReport_of_get? {α : Type} {check : Value → Validated α} {v : Value} {data : α}
    {make : UserId → α → EventBody} (hv : r.get? dataField.wire = some v)
    (hdata : check v = .valid data) (hbody : e.body = make user data) :
    readReport scheme now check make r = .valid e := by
  unfold readReport
  rw [time_of_get? htime, Schema.requiredShape_of_get? hv hdata, user_of_get? huser hfits,
    Validated.map_valid, Validated.seq_valid, Validated.seq_valid, ← hbody]

theorem readRequest_of_get? {make : UserId → EventBody}
    (hnone : r.get? dataField.wire = some .null) (hbody : e.body = make user) :
    readRequest scheme now make r = .valid e := by
  have hnull : Schema.defaulted dataField () Schema.readNull r = .valid () :=
    Schema.defaulted_of_get? hnone rfl
  unfold readRequest
  rw [time_of_get? htime, hnull, user_of_get? huser hfits, Validated.map_valid,
    Validated.seq_valid, Validated.seq_valid, ← hbody]

end Given

theorem readGrant_of_get? {v : Value} {data : KeyGrantData}
    (htime : r.get? timestampField.wire = some (.timestamp e.reportedAt))
    (hv : r.get? dataField.wire = some v) (hdata : KeyGrantData.ofValue v = .valid data)
    (hbody : e.body = .addKey data) : readGrant now r = .valid e := by
  unfold readGrant
  rw [time_of_get? htime, Schema.requiredShape_of_get? hv hdata, Validated.map_valid,
    Validated.seq_valid, ← hbody]

/-- The payload of an event is read from the data of its record. -/
theorem Sound.isReadFrom (h : e.Sound scheme) :
    ∀ p ∈ e.body.payload?, p.IsReadFrom (e.record.get Intake.dataKey) := by
  intro p hp
  obtain ⟨v, hv⟩ := h.payload p hp
  have hdata : e.record.get Intake.dataKey = .record p.wire := by
    rw [Option.mem_def] at hp
    unfold record
    rw [hp]
    rfl
  rw [hdata]
  exact Payload.isReadFrom_wire hv

theorem Sound.fits (h : e.Sound scheme) : ∀ user ∈ e.body.user?, user.Fits scheme :=
  fun user huser => (h.user user huser).elim fun _ => UserId.fits_of_parse

/-- The user of an event is the one that its record requires. -/
theorem Sound.requireUser (h : e.Sound scheme) (label : String) :
    ∀ user ∈ e.body.user?, Intake.requireUser scheme e.record label = .ok user := by
  intro user huser
  have hget : e.record.get Intake.userKey = user.toValue := by
    rw [Option.mem_def] at huser
    unfold record
    rw [huser]
    rfl
  have hnamed : Intake.saysNothing user.toValue = false := by cases user <;> rfl
  unfold Intake.requireUser
  rw [hget]
  dsimp only
  rw [hnamed, if_neg Bool.false_ne_true, h.fits user huser]
  rfl

/-- **An event is read back from the record that it is written as.** -/
theorem Sound.ofValue_record (h : e.Sound scheme) (now : Timestamp) :
    ofValue scheme now (.record e.record) = .valid e := by
  have hkind : ofValue scheme now (.record e.record)
      = (ofRecord scheme now e.kind e.record).under [.field e.kind.name] := by
    have hgiven : Record.get? e.record typeKey = some (.text e.kind.name) := rfl
    have hnamed : kindOf? (.text e.kind.name) = some e.kind := EventKind.ofName?_name e.kind
    unfold ofValue
    simp only [hgiven, hnamed]
  rw [hkind, Validated.under_eq_valid_iff]
  have hfits := h.fits
  have hdata := h.isReadFrom
  rcases e with ⟨time, body⟩
  cases body with
  | sdkCall user data =>
      exact readReport_of_get? rfl rfl (hfits user rfl) rfl (hdata _ rfl) rfl
  | payment user data =>
      exact readReport_of_get? rfl rfl (hfits user rfl) rfl (hdata _ rfl) rfl
  | tokenUsage user data =>
      exact readReport_of_get? rfl rfl (hfits user rfl) rfl (hdata _ rfl) rfl
  | addKey data => exact readGrant_of_get? rfl rfl (hdata _ rfl) rfl
  | requestSdkCall user => exact readRequest_of_get? rfl rfl (hfits user rfl) rfl rfl
  | requestTokenUsage user => exact readRequest_of_get? rfl rfl (hfits user rfl) rfl rfl
  | requestPayment user => exact readRequest_of_get? rfl rfl (hfits user rfl) rfl rfl

end Event

end UsageLedger
