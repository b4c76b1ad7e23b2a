/-
What decides over the write of a single event.

An SDK call or a payment has to meet six demands (`Demand`), and they are looked at in a
fixed order: five before anything is stored, by the record and the key alone, and the last
by the database, which has to have the key.  A write that meets them all is stored under
the identifier that is drawn first.  One that does not is refused for the first demand
that it does not meet, and leaves the tables alone.  So the proof goes demand by demand,
each with those before it met, and what is stored stands at the end of the same chain.
-/
import UsageLedger.Proofs.Ledger.Acceptance
import UsageLedger.Proofs.Ledger.Pricing

namespace UsageLedger

/-! ### A key that is not there -/

namespace Repository

open Txn

variable {c : Conditions} {t : Tables} {done : List Statement} {n : Nat}

theorem result_insertWithIds_error (hc : c.Undisturbed) {table : Table} {rows : List Record}
    {fault : Fault} (h : Engine.addRows c.scheme table t
      (List.zipWith withId rows ((List.range' n rows.length).map c.fresh)) = .error fault) :
    result (insertWithIds c table rows) ⟨t, done, n⟩ = .error (.fault fault) := by
  have hexecute : ∀ w : Work, w.tables = t → result (execute c (.insert table
      (List.zipWith withId rows ((List.range' n rows.length).map c.fresh)) false)) w
        = .error (.fault fault) := by
    rintro w rfl
    rw [result_execute, hc.engine]
    show (((Engine.addRows c.scheme table w.tables _).map _).mapError _).map _ = _
    rw [h]
    rfl
  unfold insertWithIds
  rw [result_after_meet (hc.broken _), hc.drawn, if_neg Bool.false_ne_true,
    result_after (result_drawFor rows), result_bind, hexecute _ rfl]
  rfl

/-- An event that breaks a constraint is told as rejected. -/
theorem result_insertEvent_rejected (hc : c.Undisturbed) {row : Record} {report : DriverReport}
    (h : Engine.addRows c.scheme .events t [withId row (c.fresh n)]
      = .error (.database (.integrity report))) :
    result (insertEvent c row) ⟨t, done, n⟩ = .error (.failure (.eventRejected report)) := by
  have hinsert : result (insertWithIds c .events [row]) ⟨t, done, n⟩
      = .error (.fault (.database (.integrity report))) := result_insertWithIds_error hc h
  unfold insertEvent
  rw [result_after_meet (hc.broken _), result_bind]
  unfold insertEvents
  rw [result_after_meet (hc.broken _), if_neg (List.cons_ne_nil row []), result_bind,
    result_classify reject_eq_throw, hinsert]
  rfl

end Repository

theorem Engine.addRows_event_unknown {scheme : IdScheme} {t : Tables} {id key : Uuid}
    {time : String} {user : UserId} (hfits : user.Fits scheme) (hnew : id ∉ t.events.map (·.id))
    (huser : user.toCell ∈ t.users) (hunknown : key ∉ t.apiKeys.map (·.id)) :
    addRows scheme .events t
        [Repository.withId (Repository.userEventRow time user (some key)) id]
      = .error (.database (.integrity Constraint.foreignKey)) := by
  have hevent : ¬ t.hasEvent id = true := fun h => hnew (Tables.hasEvent_eq_true.mp h)
  have hknown : ¬ (some user.toCell).any (fun user => user ∉ t.users) = true := by
    simpa using huser
  have hkey : (some key).any (fun key => !t.apiKeys.any (·.id = key)) = true := by
    simpa using hunknown
  have hadd : t.addEvent (Posting.event id time user (some key))
      = .error Constraint.foreignKey := by
    unfold Tables.addEvent Posting.event
    rw [if_neg hevent, if_neg hknown, if_pos hkey]
  rw [addRows_single, checkRow_event hfits]
  show addRow scheme .events t _ = _
  simp only [addRow, eventRow_of_fits hfits]
  show (t.addEvent (Posting.event id time user (some key))).mapError Store.broken = _
  rw [hadd]
  rfl

namespace Ingest

open Intake

variable {c : Conditions} {t : Tables} {kind : EventKind} {user : UserId} {record : Record}
  {apiKey : Value} {table : Table} {values : Record}

theorem storeSingle_of_bad_key {e : Raised} (h : parseApiKeyId c.depth apiKey = .error e) :
    storeSingle c kind user record apiKey table values t = (.error e, t) := by
  unfold storeSingle checked
  rw [h]

theorem storeSingle_of_bad_time (hc : c.Undisturbed) {key : Option Uuid} {e : Raised}
    (hfits : user.Fits c.scheme) (hkey : readApiKeyId apiKey = .ok key)
    (he : parseTimestamp (record.get timestampKey) = .error e) :
    storeSingle c kind user record apiKey table values t
      = (.error (explain (kind.name ++ " event") e), t) := by
  have htime : canonicalTimestamp (record.get timestampKey) = .error e := by
    rw [canonicalTimestamp, he]
    rfl
  have hresult : Txn.result (storeEvent c user record key table values) ⟨t, [], 0⟩ = .error e := by
    unfold storeEvent
    rw [Txn.result_after (Repository.result_ensureUser hc hfits), htime]
    rfl
  unfold storeSingle checked
  rw [parseApiKeyId_eq_ok.mpr hkey]
  exact writeTransaction_of_error hc.opening hresult _

theorem storeSingle_of_unknown_key (hc : c.Undisturbed) (hfree : t.Free (c.fresh 0)) {key : Uuid}
    {time : Timestamp} (hfits : user.Fits c.scheme) (hkey : readApiKeyId apiKey = .ok (some key))
    (htime : parseTimestamp (record.get timestampKey) = .ok time)
    (hunknown : key ∉ t.apiKeys.map (·.id)) :
    storeSingle c kind user record apiKey table values t
      = (.error (.failure (.eventRejected Constraint.foreignKey)), t) := by
  have hcanonical : canonicalTimestamp (record.get timestampKey) = .ok time.canonicalText :=
    canonicalTimestamp_of_parseTimestamp htime
  have huser : user.toCell ∈ (t.withUsers [user]).users :=
    mem_foldl_addNew.mpr (.inr (List.mem_singleton_self _))
  have hrejected : Engine.addRows c.scheme .events (t.withUsers [user])
      [Repository.withId (Repository.userEventRow time.canonicalText user (some key)) (c.fresh 0)]
        = .error (.database (.integrity Constraint.foreignKey)) :=
    Engine.addRows_event_unknown hfits hfree.event huser hunknown
  have hresult : Txn.result (storeEvent c user record (some key) table values) ⟨t, [], 0⟩
      = .error (.failure (.eventRejected Constraint.foreignKey)) := by
    unfold storeEvent
    rw [Txn.result_after (Repository.result_ensureUser hc hfits), Txn.result_after_check hcanonical,
      Txn.result_bind, Repository.result_insertEvent_rejected hc hrejected]
    rfl
  unfold storeSingle checked
  rw [parseApiKeyId_eq_ok.mpr hkey]
  exact writeTransaction_of_error hc.opening hresult _

end Ingest

/-! ### Demands -/

namespace Ledger

open Intake

/-- The kinds that are written as one event with its particulars. -/
inductive SingleKind
  | sdkCall
  | payment
  deriving DecidableEq

def SingleKind.kind : SingleKind → EventKind
  | sdkCall => .sdkCall
  | payment => .payment

/-- The particulars of such an event. -/
inductive Particulars
  | sdkCall (data : SdkCallData)
  | payment (data : PaymentData)

namespace Particulars

def table : Particulars → Table
  | sdkCall _ => .sdkCalls
  | payment _ => .payments

def values : Particulars → Record
  | sdkCall data => Ingest.sdkCallValues data
  | payment data => Ingest.paymentValues data

/-- One event of a user, and its particulars under the same identifier. -/
def posting (id : Uuid) (time : Timestamp) (user : UserId) (key : Option Uuid) :
    Particulars → Posting
  | sdkCall data =>
    { users := [user]
      events := [Posting.event id time.canonicalText user key]
      sdkCalls := [⟨id, .text data.callType.name, .whole data.debitAmount⟩] }
  | payment data =>
    { users := [user]
      events := [Posting.event id time.canonicalText user key]
      payments := [⟨id, .whole data.creditAmount⟩] }

/-- The amount fits its column. -/
def Fits : Particulars → Prop
  | sdkCall data => fitsInt64 data.debitAmount = true
  | payment data => fitsInt64 data.creditAmount = true

end Particulars

/-- A record that is to be written, and the key that it was reported with. -/
structure SingleWrite where
  kind : SingleKind
  record : Record
  apiKey : Value

/-- What is asked of a write. -/
inductive Demand
  /-- An SDK call names a key. -/
  | key
  | user
  | payload
  /-- The key can be read, if there is one. -/
  | keyId
  | time
  /-- The key is there, if there is one. -/
  | known

/-- The place of a demand in the order in which they are looked at. -/
def Demand.place : Demand → Nat
  | key => 0
  | user => 1
  | payload => 2
  | keyId => 3
  | time => 4
  | known => 5

namespace SingleWrite

variable {c : Conditions} {scheme : IdScheme} {t : Tables} {w : SingleWrite}
  {submission : Submission}

/-- The payload says the particulars by its schema, with an amount that its kind allows: any that
fits its column for an SDK call, and a number above zero for a payment. -/
def Says (w : SingleWrite) (particulars : Particulars) : Prop :=
  match w.kind, particulars with
  | .sdkCall, .sdkCall data =>
    SdkCallData.ofValue (w.record.get dataKey) = .valid data ∧ fitsInt64 data.debitAmount = true
  | .payment, .payment data =>
    PaymentData.ofValue (w.record.get dataKey) = .valid data ∧
      Ingest.IsNumber (Ingest.submittedCredit w.record) ∧
      0 < data.creditAmount ∧ fitsInt64 data.creditAmount = true
  | _, _ => False

/-- The write meets a demand. -/
def Meets (w : SingleWrite) (scheme : IdScheme) (t : Tables) : Demand → Prop
  | .key => w.kind = .sdkCall → w.apiKey.isPresent = true
  | .user => saysNothing (w.record.get userKey) = false ∧
      ∃ user, UserId.parse scheme (w.record.get userKey) = .ok user
  | .payload => ∃ particulars, w.Says particulars
  | .keyId => ∃ key, readApiKeyId w.apiKey = .ok key
  | .time => ∃ time, parseTimestamp (w.record.get timestampKey) = .ok time
  | .known => ∀ key, readApiKeyId w.apiKey = .ok (some key) → key ∈ t.apiKeys.map (·.id)

/-- The check of the payload, where the amount of a payment is looked at before the schema. -/
def payload (w : SingleWrite) : Except Raised Particulars :=
  match w.kind with
  | .sdkCall => do
    let data ← Raised.ofFailure
      (parsePayload SdkCallData.ofValue w.record EventKind.sdkCall.name)
    requireInt64 (.int data.debitAmount) "debitAmount" EventKind.sdkCall.name
    return .sdkCall data
  | .payment => do
    Ingest.checkCredit w.record
    let data ← Raised.ofFailure
      (parsePayload PaymentData.ofValue w.record EventKind.payment.name)
    return .payment data

/-- What is told of a demand that is not met.  Of a value that names no key it is what can be worded
with that value in it. -/
inductive Refusal (w : SingleWrite) (c : Conditions) : Demand → Raised → Prop
  | key : Refusal w c .key (.failure .missingApiKey)
  | noUser : saysNothing (w.record.get userKey) = true →
      Refusal w c .user (.failure (.missingUser w.kind.kind.name))
  | badUser {defect} : saysNothing (w.record.get userKey) = false →
      UserId.parse c.scheme (w.record.get userKey) = .error defect →
      Refusal w c .user (.failure (.invalidUser w.kind.kind.name defect))
  | payload {e} : w.payload = .error e → Refusal w c .payload e
  | keyId : Refusal w c .keyId ((Failure.invalidApiKeyId w.apiKey).told c.depth)
  | time {e} : parseTimestamp (w.record.get timestampKey) = .error e →
      Refusal w c .time (Ingest.explain (w.kind.kind.name ++ " event") e)
  | known : Refusal w c .known (.failure (.eventRejected Constraint.foreignKey))

/-- What a write that meets its demands says. -/
structure Reads (w : SingleWrite) (scheme : IdScheme) (user : UserId) (particulars : Particulars)
    (key : Option Uuid) (time : Timestamp) : Prop where
  user : UserId.parse scheme (w.record.get userKey) = .ok user
  particulars : w.Says particulars
  key : readApiKeyId w.apiKey = .ok key
  time : parseTimestamp (w.record.get timestampKey) = .ok time

/-! ### Payloads -/

theorem payload_eq_ok_iff {particulars : Particulars} :
    w.payload = .ok particulars ↔ w.Says particulars := by
  obtain ⟨kind, record, apiKey⟩ := w
  cases kind with
  | sdkCall =>
      constructor
      · intro h
        obtain ⟨data, hdata, h⟩ := bind_eq_ok.mp h
        obtain ⟨_, hfits, h⟩ := bind_eq_ok.mp h
        cases h
        exact ⟨Ingest.parsePayload_ok hdata, requireInt64_int hfits⟩
      · cases particulars with
        | payment data => exact False.elim
        | sdkCall data =>
            rintro ⟨hdata, hfits⟩
            obtain ⟨r, hr, -⟩ := Schema.shape_valid hdata
            dsimp only at hr hdata
            rw [hr] at hdata
            unfold payload
            dsimp only
            rw [Ingest.parsePayload_of_valid hr hdata]
            show (requireInt64 (.int data.debitAmount) _ _ >>= fun _ => _) = _
            rw [requireInt64_of_fits hfits]
            rfl
  | payment =>
      constructor
      · intro h
        obtain ⟨_, hcredit, h⟩ := bind_eq_ok.mp h
        obtain ⟨data, hdata, h⟩ := bind_eq_ok.mp h
        cases h
        have hvalid := Ingest.parsePayload_ok hdata
        have hnumber := Ingest.isNumber_of_checkCredit hcredit
        have hread := Ingest.readInteger_submittedCredit hvalid hnumber
        exact ⟨hvalid, hnumber,
          (Ingest.isPositive_iff hnumber hread).mp (Ingest.isPositive_of_checkCredit hcredit),
          Ingest.fits_of_checkCredit hread hcredit⟩
      · cases particulars with
        | sdkCall data => exact False.elim
        | payment data =>
            rintro ⟨hdata, hnumber, hpos, hfits⟩
            have hcredit := Ingest.checkCredit_of_number hnumber
              (Ingest.readInteger_submittedCredit hdata hnumber) hpos hfits
            obtain ⟨r, hr, -⟩ := Schema.shape_valid hdata
            dsimp only at hr hdata
            rw [hr] at hdata
            unfold payload
            dsimp only
            rw [hcredit, Ingest.parsePayload_of_valid hr hdata]
            rfl

theorem Says.fits {particulars : Particulars} (h : w.Says particulars) : particulars.Fits := by
  obtain ⟨kind, record, apiKey⟩ := w
  cases kind <;> cases particulars
  case sdkCall.sdkCall => exact h.2
  case payment.payment => exact h.2.2.2
  all_goals exact h.elim

/-! ### The chain of checks -/

theorem add_of_no_key (hrecord : unwrap submission = .ok w.record)
    (hkind : acceptedKind w.record writeKinds = .ok w.kind.kind)
    (hkey : ¬ w.Meets scheme t .key) :
    add c submission w.apiKey t = (.error (.failure .missingApiKey), t) := by
  obtain ⟨kind, record, apiKey⟩ := w
  obtain ⟨rfl, habsent⟩ := Classical.not_imp.mp hkey
  refine (add_of_kind hrecord hkind c t).trans (if_pos ?_)
  simpa [SingleKind.kind, EventKind.needsApiKey] using habsent

theorem add_of_key (hrecord : unwrap submission = .ok w.record)
    (hkind : acceptedKind w.record writeKinds = .ok w.kind.kind) (hkey : w.Meets scheme t .key) :
    add c submission w.apiKey t = write c w.kind.kind w.record w.apiKey t := by
  obtain ⟨kind, record, apiKey⟩ := w
  refine (add_of_kind hrecord hkind c t).trans (if_neg ?_)
  cases kind with
  | sdkCall => simpa [SingleKind.kind, EventKind.needsApiKey] using hkey rfl
  | payment => exact Bool.false_ne_true

/-- Both kinds are checked and stored in the same way. -/
theorem write_eq (w : SingleWrite) (c : Conditions) (t : Tables) :
    write c w.kind.kind w.record w.apiKey t =
      Ingest.checked (Raised.ofFailure (requireUser c.scheme w.record w.kind.kind.name)) t
        fun user => Ingest.checked w.payload t fun particulars =>
          let stored := Ingest.storeSingle c w.kind.kind user w.record w.apiKey particulars.table
            particulars.values t
          (stored.1.map some, stored.2) := by
  obtain ⟨kind, record, apiKey⟩ := w
  cases kind with
  | sdkCall =>
      show (let stored := Ingest.addSdkCall c record apiKey t; (stored.1.map some, stored.2)) = _
      unfold Ingest.addSdkCall Ingest.checkSdkCall payload
      dsimp only [SingleKind.kind]
      cases Raised.ofFailure (requireUser c.scheme record EventKind.sdkCall.name) with
      | error e => rfl
      | ok user =>
          cases Raised.ofFailure
            (parsePayload SdkCallData.ofValue record EventKind.sdkCall.name) with
          | error e => rfl
          | ok data =>
              dsimp only [bind, Except.bind]
              cases requireInt64 (.int data.debitAmount) "debitAmount" EventKind.sdkCall.name <;>
                rfl
  | payment =>
      show (let stored := Ingest.addPayment c record apiKey t; (stored.1.map some, stored.2)) = _
      unfold Ingest.addPayment Ingest.checkPayment payload
      dsimp only [SingleKind.kind]
      cases Raised.ofFailure (requireUser c.scheme record EventKind.payment.name) with
      | error e => rfl
      | ok user =>
          cases Ingest.checkCredit record with
          | error e => rfl
          | ok _ =>
              cases Raised.ofFailure
                (parsePayload PaymentData.ofValue record EventKind.payment.name) <;> rfl

/-! ### Demand by demand -/

theorem meets_user_iff : w.Meets scheme t .user ↔
    ∃ user, requireUser scheme w.record w.kind.kind.name = .ok user := by
  simp only [Meets, requireUser_eq_ok, exists_and_left]

theorem refusal_user (h : ¬ w.Meets c.scheme t .user) : ∃ f,
    requireUser c.scheme w.record w.kind.kind.name = .error f ∧
      w.Refusal c .user (.failure f) := by
  unfold requireUser
  dsimp only
  cases hsilent : saysNothing (w.record.get userKey) with
  | true => exact ⟨_, rfl, .noUser hsilent⟩
  | false =>
      cases hparse : UserId.parse c.scheme (w.record.get userKey) with
      | error defect => exact ⟨_, rfl, .badUser hsilent hparse⟩
      | ok user => exact absurd ⟨hsilent, user, hparse⟩ h

theorem refusal_keyId (h : ¬ w.Meets scheme t .keyId) :
    parseApiKeyId c.depth w.apiKey = .error ((Failure.invalidApiKeyId w.apiKey).told c.depth) := by
  cases hkey : readApiKeyId w.apiKey with
  | ok key => exact absurd ⟨key, hkey⟩ h
  | error f => rw [parseApiKeyId, hkey, ← readApiKeyId_eq_error hkey, Except.mapError]

/-- What is stored for particulars that fit, when the key is there. -/
theorem addRows_particulars {particulars : Particulars} {id : Uuid} {time : Timestamp}
    {user : UserId} {key : Option Uuid} (hfree : t.Free id) (hfits : particulars.Fits) :
    Engine.addRows c.scheme particulars.table
        ((t.withUsers [user]).withEvent (Posting.event id time.canonicalText user key))
        [Repository.detailRow (.uuid id) particulars.values]
      = .ok (t.post (particulars.posting id time user key)) := by
  cases particulars with
  | sdkCall data => exact Engine.addRows_sdkCall hfree hfits
  | payment data => exact Engine.addRows_payment hfree hfits

section Decision

variable (hrecord : unwrap submission = .ok w.record)
  (hkind : acceptedKind w.record writeKinds = .ok w.kind.kind) (hc : c.Undisturbed)

include hrecord hkind

theorem add_of_refused_user {f : Failure} (hkey : w.Meets c.scheme t .key)
    (hf : requireUser c.scheme w.record w.kind.kind.name = .error f) :
    add c submission w.apiKey t = (.error (.failure f), t) := by
  rw [add_of_key hrecord hkind hkey, write_eq, hf]
  rfl

theorem add_of_refused_payload {e : Raised} {user : UserId} (hkey : w.Meets c.scheme t .key)
    (huser : requireUser c.scheme w.record w.kind.kind.name = .ok user)
    (he : w.payload = .error e) : add c submission w.apiKey t = (.error e, t) := by
  rw [add_of_key hrecord hkind hkey, write_eq, huser, he]
  rfl

/-- With a good user and a good payload, all depends on storing the event. -/
theorem add_of_payload {user : UserId} {particulars : Particulars}
    (hkey : w.Meets c.scheme t .key)
    (huser : requireUser c.scheme w.record w.kind.kind.name = .ok user)
    (hpayload : w.payload = .ok particulars) {result : Except Raised Uuid × Tables}
    (hstored : Ingest.storeSingle c w.kind.kind user w.record w.apiKey particulars.table
      particulars.values t = result) :
    add c submission w.apiKey t = (result.1.map some, result.2) := by
  rw [add_of_key hrecord hkind hkey, write_eq, huser, hpayload, ← hstored]
  rfl

include hc

/-- A write that meets its demands is stored as what it says. -/
theorem add_of_met (hfree : t.Free (c.fresh 0)) (hmet : ∀ d, w.Meets c.scheme t d)
    {user : UserId} {particulars : Particulars} {key : Option Uuid} {time : Timestamp}
    (hreads : w.Reads c.scheme user particulars key time) :
    add c submission w.apiKey t
      = (.ok (some (c.fresh 0)), t.post (particulars.posting (c.fresh 0) time user key)) := by
  have hfits : user.Fits c.scheme := UserId.fits_of_parse hreads.user
  have huser : requireUser c.scheme w.record w.kind.kind.name = .ok user :=
    requireUser_eq_ok.mpr ⟨(hmet .user).1, hreads.user⟩
  have hcanonical : canonicalTimestamp (w.record.get timestampKey) = .ok time.canonicalText :=
    canonicalTimestamp_of_parseTimestamp hreads.time
  have htakes : ∀ k ∈ key, k ∈ t.apiKeys.map (·.id) := by
    rintro k rfl
    exact hmet .known k hreads.key
  exact add_of_payload hrecord hkind (hmet .key) huser (payload_eq_ok_iff.mpr hreads.particulars)
    (Ingest.storeSingle_accepted hc rfl hfits hreads.key hcanonical
      (Tables.takes_of_free hfree htakes) (addRows_particulars hfree hreads.particulars.fits))

/-- **The first demand that is not met decides.** -/
theorem add_of_unmet {d : Demand}
    (hfirst : ∀ d' : Demand, d'.place < d.place → w.Meets c.scheme t d')
    (hunmet : ¬ w.Meets c.scheme t d) (hfree : d = .known → t.Free (c.fresh 0)) :
    ∃ e, w.Refusal c d e ∧ add c submission w.apiKey t = (.error e, t) := by
  -- what the demands before the payload, the key and the time have to say, once they are met
  have hkey : 0 < d.place → w.Meets c.scheme t .key := hfirst .key
  have huser : 1 < d.place → ∃ user, requireUser c.scheme w.record w.kind.kind.name = .ok user :=
    fun hplace => meets_user_iff.mp (hfirst .user hplace)
  have hpayload : 2 < d.place → ∃ particulars, w.payload = .ok particulars := by
    intro hplace
    obtain ⟨particulars, hsays⟩ := hfirst .payload hplace
    exact ⟨particulars, payload_eq_ok_iff.mpr hsays⟩
  cases d with
  | key => exact ⟨_, .key, add_of_no_key hrecord hkind hunmet⟩
  | user =>
      obtain ⟨f, hf, hrefusal⟩ := refusal_user hunmet
      exact ⟨_, hrefusal, add_of_refused_user hrecord hkind (hkey (by decide)) hf⟩
  | payload =>
      obtain ⟨user, huser⟩ := huser (by decide)
      cases he : w.payload with
      | ok particulars => exact absurd ⟨particulars, payload_eq_ok_iff.mp he⟩ hunmet
      | error e =>
          exact ⟨e, .payload he, add_of_refused_payload hrecord hkind (hkey (by decide)) huser he⟩
  | keyId =>
      obtain ⟨user, huser⟩ := huser (by decide)
      obtain ⟨particulars, hpayload⟩ := hpayload (by decide)
      exact ⟨_, .keyId, add_of_payload hrecord hkind (hkey (by decide)) huser hpayload
        (Ingest.storeSingle_of_bad_key (refusal_keyId hunmet))⟩
  | time =>
      obtain ⟨user, huser⟩ := huser (by decide)
      obtain ⟨particulars, hpayload⟩ := hpayload (by decide)
      obtain ⟨key, hparsed⟩ := hfirst .keyId (by decide)
      have hfits : user.Fits c.scheme := UserId.fits_of_parse (requireUser_eq_ok.mp huser).2
      cases he : parseTimestamp (w.record.get timestampKey) with
      | ok time => exact absurd ⟨time, he⟩ hunmet
      | error e =>
          exact ⟨_, .time he, add_of_payload hrecord hkind (hkey (by decide)) huser hpayload
            (Ingest.storeSingle_of_bad_time hc hfits hparsed he)⟩
  | known =>
      obtain ⟨user, huser⟩ := huser (by decide)
      obtain ⟨particulars, hpayload⟩ := hpayload (by decide)
      obtain ⟨time, htime⟩ := hfirst .time (by decide)
      obtain ⟨key, hunmet⟩ := not_forall.mp hunmet
      obtain ⟨hparsed, hunknown⟩ := Classical.not_imp.mp hunmet
      have hfits : user.Fits c.scheme := UserId.fits_of_parse (requireUser_eq_ok.mp huser).2
      exact ⟨_, .known, add_of_payload hrecord hkind (hkey (by decide)) huser hpayload
        (Ingest.storeSingle_of_unknown_key hc (hfree rfl) hfits hparsed htime hunknown)⟩

/-- A write that goes through met its demands. -/
theorem meets_of_add (hfree : t.Free (c.fresh 0)) {o : Option Uuid} {t' : Tables}
    (h : add c submission w.apiKey t = (.ok o, t')) (d : Demand) : w.Meets c.scheme t d := by
  -- by induction on the place of the demand, since only the first that is not met is told
  induction hplace : d.place using Nat.strongRecOn generalizing d with
  | ind n ih =>
      subst hplace
      by_contra hunmet
      obtain ⟨e, -, herror⟩ := add_of_unmet hrecord hkind hc
        (fun d' hearlier => ih d'.place hearlier d' rfl) hunmet fun _ => hfree
      rw [herror] at h
      cases h

end Decision

/-! ### The decision -/

/-- Only the last demand is made of the tables. -/
theorem meets_tables_iff {d : Demand} (hd : d ≠ .known) (t' : Tables) :
    w.Meets scheme t d ↔ w.Meets scheme t' d := by
  cases d with
  | known => exact absurd rfl hd
  | _ => exact Iff.rfl

/-- One thing is told of a demand that is not met. -/
theorem Refusal.unique {d : Demand} {e e' : Raised} (h : w.Refusal c d e)
    (h' : w.Refusal c d e') : e = e' := by
  cases h with
  | key | keyId | known => cases h'; rfl
  | noUser hsilent =>
      cases h' with
      | noUser => rfl
      | badUser hsaid => exact absurd (hsilent.symm.trans hsaid) Bool.true_eq_false.mp
  | badUser hsaid hparse =>
      cases h' with
      | noUser hsilent => exact absurd (hsilent.symm.trans hsaid) Bool.true_eq_false.mp
      | badUser _ hparse' =>
          cases hparse.symm.trans hparse'
          rfl
  | payload he =>
      cases h' with
      | payload he' => exact Except.error.inj (he.symm.trans he')
  | time he =>
      cases h' with
      | time he' => rw [Except.error.inj (he.symm.trans he')]

theorem exists_reads (hmet : ∀ d, w.Meets scheme t d) : ∃ user particulars key time,
    w.Reads scheme user particulars key time := by
  obtain ⟨-, user, huser⟩ := hmet .user
  obtain ⟨particulars, hsays⟩ := hmet .payload
  obtain ⟨key, hkey⟩ := hmet .keyId
  obtain ⟨time, htime⟩ := hmet .time
  exact ⟨user, particulars, key, time, huser, hsays, hkey, htime⟩

end SingleWrite

/-- **A single event is stored exactly when it meets every demand**, and then its row, the row of
its particulars and its user are all that is new.  Otherwise the first demand that is not met is
told and nothing changes; and what is told before the database is asked does not depend on what
it holds. -/
theorem add_single_decided {c : Conditions} {t : Tables} {w : SingleWrite}
    {submission : Submission} (hrecord : unwrap submission = .ok w.record)
    (hkind : acceptedKind w.record writeKinds = .ok w.kind.kind) (hc : c.Undisturbed)
    (hfree : t.Free (c.fresh 0)) :
    (∀ o t', add c submission w.apiKey t = (.ok o, t') ↔
      (∀ d, w.Meets c.scheme t d) ∧ o = some (c.fresh 0) ∧
        ∃ user particulars key time, w.Reads c.scheme user particulars key time ∧
          t' = t.post (particulars.posting (c.fresh 0) time user key)) ∧
    ∀ d : Demand, (∀ d' : Demand, d'.place < d.place → w.Meets c.scheme t d') →
      ¬ w.Meets c.scheme t d → ∃ e, w.Refusal c d e ∧
        add c submission w.apiKey t = (.error e, t) ∧
        (d ≠ .known → ∀ t', add c submission w.apiKey t' = (.error e, t')) := by
  refine ⟨fun o t' => ⟨fun h => ?_, ?_⟩, fun d hfirst hunmet => ?_⟩
  · have hmet := SingleWrite.meets_of_add hrecord hkind hc hfree h
    obtain ⟨user, particulars, key, time, hreads⟩ := SingleWrite.exists_reads hmet
    rw [SingleWrite.add_of_met hrecord hkind hc hfree hmet hreads] at h
    cases h
    exact ⟨hmet, rfl, user, particulars, key, time, hreads, rfl⟩
  · rintro ⟨hmet, rfl, user, particulars, key, time, hreads, rfl⟩
    exact SingleWrite.add_of_met hrecord hkind hc hfree hmet hreads
  · obtain ⟨e, hrefusal, herror⟩ :=
      SingleWrite.add_of_unmet hrecord hkind hc hfirst hunmet fun _ => hfree
    refine ⟨e, hrefusal, herror, fun hd t' => ?_⟩
    -- the demands before are made of the record and the key as well
    have hfirst' : ∀ d' : Demand, d'.place < d.place → w.Meets c.scheme t' d' := by
      intro d' hearlier
      have hd' : d' ≠ .known := by
        rintro rfl
        cases d <;> revert hearlier <;> decide
      exact (SingleWrite.meets_tables_iff hd' t').mp (hfirst d' hearlier)
    obtain ⟨e', hrefusal', herror'⟩ := SingleWrite.add_of_unmet hrecord hkind hc hfirst'
      (fun hmet => hunmet ((SingleWrite.meets_tables_iff hd t').mpr hmet)) (fun h => absurd h hd)
    rwa [hrefusal.unique hrefusal']

/-- An SDK call is stored under a key that is there; under the same key the database refuses it
where the key is not there, and without a key it is refused everywhere. -/
theorem add_single_decided_sample :
    let c := Conditions.ideal .bigint fun n => Uuid.ofNat (2 + n)
    add c (Sample.sdkCall 5) Sample.key Sample.granted
      = (.ok (some (Uuid.ofNat 2)), Sample.granted.post
          { users := [.number 7]
            events := [⟨Uuid.ofNat 2, .text "0001-01-01T00:00:00.000000+00:00", some (.whole 7),
              some (Uuid.ofNat 1)⟩]
            sdkCalls := [⟨Uuid.ofNat 2, .text "RAW", .whole 5⟩] }) ∧
      add c (Sample.sdkCall 5) Sample.key Tables.empty
        = (.error (.failure (.eventRejected Constraint.foreignKey)), Tables.empty) ∧
      ∀ t, add c (Sample.sdkCall 5) .null t = (.error (.failure .missingApiKey), t) := by
  intro c
  let call (apiKey : Value) : SingleWrite :=
    ⟨.sdkCall, Event.record ⟨Timestamp.first, .sdkCall (.number 7) ⟨.raw, 5⟩⟩, apiKey⟩
  have hrecord : ∀ apiKey, unwrap (Sample.sdkCall 5) = .ok (call apiKey).record := fun _ => rfl
  have hc : c.Undisturbed := Conditions.undisturbed_ideal _ _
  have hempty : Tables.empty.Free (Uuid.ofNat 2) :=
    ⟨List.not_mem_nil, List.not_mem_nil, List.not_mem_nil⟩
  have htime : Timestamp.first.canonicalText = "0001-01-01T00:00:00.000000+00:00" := by
    decide +kernel
  have hreads : (call Sample.key).Reads .bigint (.number 7) (.sdkCall ⟨.raw, 5⟩)
      (some (Uuid.ofNat 1)) Timestamp.first := ⟨rfl, ⟨rfl, by decide⟩, rfl, rfl⟩
  -- what is asked before the database is asked is met
  have hearlier : ∀ t, ∀ d : Demand, d ≠ .known → (call Sample.key).Meets .bigint t d := by
    intro t d hd
    cases d with
    | key => exact fun _ => rfl
    | user => exact ⟨rfl, _, hreads.user⟩
    | payload => exact ⟨_, hreads.particulars⟩
    | keyId => exact ⟨_, hreads.key⟩
    | time => exact ⟨_, hreads.time⟩
    | known => exact absurd rfl hd
  refine ⟨?_, ?_, ?_⟩
  · have hmet : ∀ d, (call Sample.key).Meets .bigint Sample.granted d := by
      intro d
      by_cases hd : d = .known
      · subst hd
        intro key hkey
        cases hkey
        decide +kernel
      · exact hearlier _ d hd
    rw [← htime]
    exact ((add_single_decided (hrecord Sample.key) rfl hc Sample.free_granted).1 _ _).mpr
      ⟨hmet, rfl, _, _, _, _, hreads, rfl⟩
  · have hunknown : ¬ (call Sample.key).Meets .bigint Tables.empty .known :=
      fun h => List.not_mem_nil (h (Uuid.ofNat 1) rfl)
    obtain ⟨e, hrefusal, herror, -⟩ :=
      (add_single_decided (hrecord Sample.key) rfl hc hempty).2 .known
        (fun d' hd' => hearlier _ d' fun h => by simp [h] at hd') hunknown
    cases hrefusal
    exact herror
  · have hno : ¬ (call .null).Meets .bigint Tables.empty .key := fun h => absurd (h rfl) (by decide)
    obtain ⟨e, hrefusal, -, hall⟩ :=
      (add_single_decided (hrecord .null) rfl hc hempty).2 .key
        (fun _ hd' => absurd hd' (Nat.not_lt_zero _)) hno
    cases hrefusal
    exact hall nofun

end Ledger

end UsageLedger
