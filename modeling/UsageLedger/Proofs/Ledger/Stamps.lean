/-
A report is stored under one time, whether it is handed in as a record or as the event that is read
of it.

The event model reads the time of a record by the strict reader, and the ledger by the lenient one.
A text that both take is one time to both, but for a numeral (`parseTimestamp_of_readRfc3339`), and
a record that passes the checks of the ledger passes them alike as its event
(`checkedAlike_of_passes`), so the ledger does with the event what it does with the record
(`add_readAs`, `addBatch_readAs`).
-/
import UsageLedger.Proofs.Intake.Readers
import UsageLedger.Proofs.Ledger.Accounts
import UsageLedger.Proofs.Ledger.Rules
import UsageLedger.Proofs.Ledger.Times

namespace UsageLedger

open Intake

/-! ### What is read of a record -/

namespace Event

open Schema

variable {scheme : IdScheme} {now : Timestamp} {r : Record} {e : Event}

/-- An event is read as one of the kind that its record names. -/
theorem ofRecord_of_ofValue (h : ofValue scheme now (.record r) = .valid e) :
    r.get typeKey = .text e.kind.name ∧ ofRecord scheme now e.kind r = .valid e := by
  have hkind := kind_of_ofValue h
  have hname : r.get typeKey = .text e.kind.name := by
    cases hgiven : r.get typeKey with
    | text name =>
        rw [hgiven] at hkind
        rw [EventKind.name_of_ofName? hkind]
    | _ =>
        rw [hgiven] at hkind
        cases hkind
  refine ⟨hname, ?_⟩
  have hgiven := Record.get?_of_get hname nofun
  unfold ofValue at h
  simp only [hgiven] at h
  rw [hname] at hkind
  rw [hkind] at h
  exact Validated.under_eq_valid_iff.mp h

/-- A time that is given as a text is read by the strict reader. -/
theorem defaulted_text {s : String} {time : Timestamp} (hs : r.get timestampKey = .text s) :
    defaulted timestampField now readTimestamp r = .valid time ↔
      Calendar.readRfc3339 s = .ok time := by
  have hgiven : r.get? timestampField.wire = some (.text s) := Record.get?_of_get hs nofun
  constructor
  · intro h
    unfold defaulted FieldName.find? at h
    rw [hgiven] at h
    exact mapError_eq_ok.mp (atField_valid h)
  · intro h
    exact defaulted_of_get? hgiven (mapError_eq_ok.mpr h)

/-- The ledger finds the user in a record where the event model looks first. -/
theorem required_user_of_requireUser {label : String} {user : UserId}
    (h : requireUser scheme r label = .ok user) :
    required userField (readUser scheme) r = .valid user := by
  obtain ⟨hgiven, hparse⟩ := requireUser_eq_ok.mp h
  refine required_user ⟨_, Record.get?_of_get rfl fun hnull => ?_, hparse⟩
  rw [hnull] at hgiven
  cases hgiven

/-- A report is about the user and the payload that the ledger finds in its record. -/
theorem body_of_readReport {α : Type} {check : Value → Validated α} {make : UserId → α → EventBody}
    {label : String} {user : UserId} {data : α} {fields : Record}
    (h : readReport scheme now check make r = .valid e)
    (huser : requireUser scheme r label = .ok user) (hfields : r.get dataKey = .record fields)
    (hdata : check (.record fields) = .valid data) : e.body = make user data := by
  have hgiven : r.get? dataField.wire = some (.record fields) := Record.get?_of_get hfields nofun
  obtain ⟨time, data', user', -, hdata', huser', rfl⟩ := readReport_eq_valid.mp h
  rw [required_user_of_requireUser huser] at huser'
  rw [requiredShape_of_get? hgiven hdata] at hdata'
  cases huser'
  cases hdata'
  rfl

/-- The kinds that report an event of a user. -/
def reportKinds : List EventKind := [.sdkCall, .payment, .tokenUsage]

/-- The time of a report is the one that the strict reader finds in its record. -/
theorem readRfc3339_of_ofValue {s : String} (h : ofValue scheme now (.record r) = .valid e)
    (hkind : e.kind ∈ Event.reportKinds) (hs : r.get timestampKey = .text s) :
    Calendar.readRfc3339 s = .ok e.reportedAt := by
  have hreport : ∀ {α : Type} {check : Value → Validated α} {make : UserId → α → EventBody},
      readReport scheme now check make r = .valid e →
      Calendar.readRfc3339 s = .ok e.reportedAt := by
    intro α check make hread
    obtain ⟨time, data, user, htime, -, -, rfl⟩ := readReport_eq_valid.mp hread
    exact (defaulted_text hs).mp htime
  obtain ⟨-, hread⟩ := ofRecord_of_ofValue h
  generalize e.kind = kind at hkind hread
  cases kind with
  | sdkCall | payment | tokenUsage => exact hreport hread
  | addKey | requestSdkCall | requestTokenUsage | requestPayment => exact absurd hkind (by decide)

end Event

/-! ### The checks of a record and of its event -/

namespace Ledger

open Ingest

variable {scheme : IdScheme} {now : Timestamp} {r : Record} {e : Event} {s : String}

/-- The record passes the checks of a kind that reports an event of a user. -/
def Passes (scheme : IdScheme) (r : Record) : EventKind → Prop
  | .sdkCall => ∃ user data, checkSdkCall scheme r = .ok (user, data)
  | .payment => ∃ user data, checkPayment scheme r = .ok (user, data)
  | .tokenUsage => ∃ u, UsageRecord.ofRecord scheme r = .ok u
  | .addKey | .requestSdkCall | .requestTokenUsage | .requestPayment => False

/-- **A record that passes the checks passes them alike as the event that it is read as.** -/
theorem checkedAlike_of_passes (he : Event.ofValue scheme now (.record r) = .valid e)
    (hr : Passes scheme r e.kind) : CheckedAlike scheme r e.record e.kind := by
  have hsound : e.Sound scheme := (Event.Made.read he).sound
  obtain ⟨-, hread⟩ := Event.ofRecord_of_ofValue he
  obtain ⟨time, body⟩ := e
  generalize Event.kind ⟨time, body⟩ = kind at hr hread ⊢
  cases kind with
  | sdkCall =>
      obtain ⟨user, data, hchecked⟩ := hr
      obtain ⟨huser, hdata, hfits⟩ := checkSdkCall_ok hchecked
      obtain ⟨fields, hfields, -, -⟩ := Schema.shape_valid hdata
      rw [hfields] at hdata
      obtain rfl := Event.body_of_readReport hread huser hfields hdata
      refine hchecked.trans (Eq.symm ?_)
      exact checkSdkCall_of_valid (hsound.requireUser _ user rfl) rfl (hsound.isReadFrom _ rfl)
        (requireInt64_int hfits)
  | payment =>
      obtain ⟨user, data, hchecked⟩ := hr
      obtain ⟨huser, hcredit, hdata⟩ := checkPayment_ok hchecked
      have hnumber := readInteger_submittedCredit hdata (isNumber_of_checkCredit hcredit)
      obtain ⟨fields, hfields, -, -⟩ := Schema.shape_valid hdata
      rw [hfields] at hdata
      obtain rfl := Event.body_of_readReport hread huser hfields hdata
      refine hchecked.trans (Eq.symm ?_)
      exact checkPayment_of_valid (hsound.requireUser _ user rfl) rfl (hsound.isReadFrom _ rfl) rfl
        (checkPayment_pos hchecked) (fits_of_checkCredit hnumber hcredit)
  | tokenUsage =>
      obtain ⟨u, hofRecord⟩ := hr
      have hchecked := UsageRecord.checked_of_ofRecord hofRecord
      have hdata := hchecked.data
      obtain ⟨fields, hfields, -, -⟩ := Schema.shape_valid hdata
      rw [hfields] at hdata
      obtain rfl := Event.body_of_readReport hread hchecked.user hfields hdata
      refine .inr ⟨u, ⟨u.user, u.data, .timestamp time⟩, hofRecord, ?_, rfl, rfl⟩
      exact UsageRecord.Checked.ofRecord ⟨hsound.requireUser _ u.user rfl,
        hsound.isReadFrom _ rfl, rfl, hchecked.counters⟩
  | addKey | requestSdkCall | requestTokenUsage | requestPayment => exact hr.elim

theorem passes_of_addUsage {c : Conditions} {rs : List Record} {apiKey : Value} {t t' : Tables}
    {o : Option Uuid} (h : addUsage c rs apiKey t = (.ok o, t')) :
    ∀ r ∈ rs, Passes c.scheme r .tokenUsage := by
  unfold addUsage at h
  split at h
  · next hempty =>
      rw [List.isEmpty_iff.mp hempty]
      exact nofun
  · obtain ⟨us, hus, -⟩ := checked_ok h
    intro r hr
    obtain ⟨u, -, hu⟩ := exists_of_mem_forall₂ (mapM_eq_ok.mp hus).flip hr
    exact ⟨u, hu⟩

theorem passes_of_write {c : Conditions} {kind : EventKind} {apiKey : Value} {t t' : Tables}
    {o : Option Uuid} (hkind : kind ∈ Event.reportKinds)
    (h : write c kind r apiKey t = (.ok o, t')) : Passes c.scheme r kind := by
  cases kind with
  | sdkCall =>
      obtain ⟨id, hid, -⟩ := map_some_eq_ok h
      obtain ⟨⟨user, data⟩, hchecked, -⟩ := checked_ok hid
      exact ⟨user, data, hchecked⟩
  | payment =>
      obtain ⟨id, hid, -⟩ := map_some_eq_ok h
      obtain ⟨⟨user, data⟩, hchecked, -⟩ := checked_ok hid
      exact ⟨user, data, hchecked⟩
  | tokenUsage => exact passes_of_addUsage h r (List.mem_singleton_self r)
  | addKey | requestSdkCall | requestTokenUsage | requestPayment => exact absurd hkind (by decide)

/-- The event model reads the record as a report of an event, and the time in the record is a text
that the ledger reads as well, and no numeral. -/
structure ReadAs (scheme : IdScheme) (r : Record) (e : Event) (u : Timestamp) : Prop where
  read : ∃ now, Event.ofValue scheme now (.record r) = .valid e
  kind : e.kind ∈ Event.reportKinds
  time : ∃ s, r.get timestampKey = .text s ∧ ¬ Calendar.IsNumeral s.toList ∧
    parseTimestamp (.text s) = .ok u

/-- The record that the envelope holds. -/
def enveloped (r : Record) : Submission := .envelope (Event.wrap r)

theorem unwrap_enveloped (r : Record) : unwrap (enveloped r) = .ok r := rfl

namespace ReadAs

variable {u : Timestamp}

theorem typeKey (h : ReadAs scheme r e u) :
    r.get Event.typeKey = e.record.get Event.typeKey := by
  obtain ⟨now, he⟩ := h.read
  exact (Event.ofRecord_of_ofValue he).1

/-- The record names the kind of the event. -/
theorem kind_eq (h : ReadAs scheme r e u) {kind : EventKind}
    (hr : acceptedKind r writeKinds = .ok kind) : e.kind = kind := by
  obtain ⟨now, he⟩ := h.read
  exact Option.some.inj ((Event.kind_of_ofValue he).symm.trans (acceptedKind_eq_ok.mp hr).1)

theorem time_record (h : ReadAs scheme r e u) : parseTimestamp (r.get timestampKey) = .ok u := by
  obtain ⟨s, hs, -, hu⟩ := h.time
  rw [hs, hu]

/-- The time of the event is the same time to the ledger. -/
theorem time_event (h : ReadAs scheme r e u) :
    parseTimestamp (e.record.get timestampKey) = .ok u := by
  obtain ⟨now, he⟩ := h.read
  obtain ⟨s, hs, hnumeral, hu⟩ := h.time
  exact parseTimestamp_of_readRfc3339 (Event.readRfc3339_of_ofValue he h.kind hs) hu hnumeral

theorem checkedAlike (h : ReadAs scheme r e u) (hr : Passes scheme r e.kind) :
    CheckedAlike scheme r e.record e.kind := by
  obtain ⟨now, he⟩ := h.read
  exact checkedAlike_of_passes he hr

theorem timedAlike (h : ReadAs scheme r e u) : TimedAlike r e.record :=
  h.time_record.trans h.time_event.symm

end ReadAs

/-! ### Writing the record and writing the event -/

section Writing

variable {c : Conditions} {apiKey : Value} {t t' : Tables} {o : Option Uuid} {u : Timestamp}

theorem mapM_unwrap_map {α : Type} {f : α → Submission} {g : α → Record} {l : List α}
    (h : ∀ a, unwrap (f a) = .ok (g a)) : (l.map f).mapM unwrap = .ok (l.map g) := by
  rw [mapM_eq_ok, List.forall₂_map_left_iff, List.forall₂_map_right_iff, List.forall₂_same]
  exact fun a _ => h a

theorem mapM_unwrap_enveloped (rs : List Record) : (rs.map enveloped).mapM unwrap = .ok rs := by
  have hmap := mapM_unwrap_map (l := rs) unwrap_enveloped
  rwa [List.map_id'] at hmap

/-- Times that are read alike are written alike. -/
theorem add_sameButTime {r' : Record} (hsame : SameButTime r r') (htimed : TimedAlike r r') :
    add c (enveloped r) apiKey t = add c (enveloped r') apiKey t :=
  add_alike (unwrap_enveloped r) (unwrap_enveloped r') (hsame Event.typeKey (by decide))
    (fun kind _ => hsame.checkedAlike c.scheme kind) htimed

theorem addBatch_sameButTime {rs rs' : List Record}
    (h : List.Forall₂ (fun r r' => SameButTime r r' ∧ TimedAlike r r') rs rs') :
    addBatch c (rs.map enveloped) apiKey t = addBatch c (rs'.map enveloped) apiKey t :=
  addBatch_alike (mapM_unwrap_enveloped rs) (mapM_unwrap_enveloped rs')
    (h.imp fun r r' hsame => hsame.1 Event.typeKey (by decide))
    (h.imp fun r r' hsame => ⟨hsame.1.checkedAlike c.scheme .tokenUsage, hsame.2⟩)

theorem add_readAs (h : ReadAs c.scheme r e u)
    (hok : add c (enveloped r) apiKey t = (.ok o, t')) :
    add c (.event e) apiKey t = (.ok o, t') := by
  rw [← hok]
  obtain ⟨⟨kind, record⟩, haccept, hwrite⟩ := checked_ok hok
  obtain ⟨hrecord, hresolved, -⟩ := accept_ok haccept
  cases (unwrap_enveloped r).symm.trans hrecord
  obtain rfl := h.kind_eq hresolved
  refine (add_alike (unwrap_enveloped r) rfl h.typeKey (fun kind hresolved' => ?_)
    h.timedAlike).symm
  cases hresolved.symm.trans hresolved'
  exact h.checkedAlike (passes_of_write h.kind hwrite)

theorem addBatch_readAs {rs : List Record} {es : List Event}
    (h : List.Forall₂ (fun r e => ∃ u, ReadAs c.scheme r e u) rs es)
    (hok : addBatch c (rs.map enveloped) apiKey t = (.ok o, t')) :
    addBatch c (es.map .event) apiKey t = (.ok o, t') := by
  rw [← hok]
  obtain ⟨records, haccept, hwrite⟩ := checked_ok hok
  have hrecords := mapM_unwrap_enveloped rs
  have hevents : (es.map Submission.event).mapM unwrap = .ok (es.map Event.record) :=
    mapM_unwrap_map fun _ => rfl
  cases records_of_acceptBatch hrecords haccept
  obtain ⟨hdelivers, -⟩ := acceptBatch_ok haccept
  have husage : ∀ r ∈ rs, acceptedKind r writeKinds = .ok .tokenUsage := by
    cases hdelivers with
    | batch _ hkinds => exact hkinds
  have hkinds : List.Forall₂ (fun r r' : Record => r.get Event.typeKey = r'.get Event.typeKey) rs
      (es.map Event.record) :=
    List.forall₂_map_right_iff.mpr (h.imp fun _ _ ⟨_, hread⟩ => hread.typeKey)
  refine (addBatch_alike hrecords hevents hkinds (List.forall₂_map_right_iff.mpr ?_)).symm
  have hgood : ∀ r ∈ rs, acceptedKind r writeKinds = .ok .tokenUsage ∧
      Passes c.scheme r .tokenUsage :=
    fun r hr => ⟨husage r hr, passes_of_addUsage hwrite r hr⟩
  refine ((List.forall₂_and_left rs es).mpr ⟨hgood, h⟩).imp ?_
  rintro r e ⟨⟨hresolved, hr⟩, u, hread⟩
  have hkind := hread.kind_eq hresolved
  exact ⟨hkind ▸ hread.checkedAlike (hkind ▸ hr), hread.timedAlike⟩

end Writing

/-! ### The time that is stored -/

/-- A write of a report adds one event, with the time of the record. -/
theorem events_of_add {c : Conditions} (hc : c.Constrained) {submission : Submission}
    {record : Record} {kind : EventKind} {apiKey : Value} {t t' : Tables} {o : Option Uuid}
    {u : Timestamp} (hrecord : unwrap submission = .ok record)
    (hresolved : acceptedKind record writeKinds = .ok kind) (hkind : kind ∈ Event.reportKinds)
    (hu : parseTimestamp (record.get timestampKey) = .ok u)
    (hok : add c submission apiKey t = (.ok o, t')) :
    ∃ id user key, t'.events = t.events ++ [Posting.event id u.canonicalText user key] := by
  have hrun : (Call.add submission apiKey).run c t = (.ok o, t') := hok
  obtain ⟨p, hposts, -, -, rfl⟩ := posts_of_accepted hc hrun
  have hcanonical : canonicalTimestamp (record.get timestampKey) = .ok u.canonicalText :=
    canonicalTimestamp_of_parseTimestamp hu
  have hsame := hposts
  cases hposts with
  | sdkCall hunwrap _ _ _ htime =>
      cases hunwrap.symm.trans hrecord
      cases htime.symm.trans hcanonical
      exact ⟨_, _, _, rfl⟩
  | payment hunwrap _ _ _ htime _ =>
      cases hunwrap.symm.trans hrecord
      cases htime.symm.trans hcanonical
      exact ⟨_, _, _, rfl⟩
  | grant hunwrap hgrant _ _ =>
      cases hunwrap.symm.trans hrecord
      cases hgrant.symm.trans hresolved
      exact absurd hkind (by decide)
  | usage hdelivers _ _ _ _ =>
      cases hdelivers with
      | single hunwrap husage =>
          cases hunwrap.symm.trans hrecord
          obtain ⟨id, key, g, -, hgroup, -, hp⟩ := posts_single hsame ⟨record, hrecord, husage⟩
          rw [groupOf, hrecord] at hgroup
          obtain ⟨_, ⟨⟩, hgroup⟩ := bind_eq_ok.mp hgroup
          obtain ⟨r', hr', hgroup⟩ := bind_eq_ok.mp hgroup
          obtain ⟨time, htime, rfl⟩ := UsageGroup.single_ok hgroup
          rw [(UsageRecord.checked_of_ofRecord hr').time, hu] at htime
          cases htime
          rw [hp]
          exact ⟨_, _, _, rfl⟩

/-- So does a write of the record or of the event that is read of it. -/
theorem ReadAs.events_of_add {c : Conditions} (hc : c.Constrained) {submission : Submission}
    {apiKey : Value} {t t' : Tables} {o : Option Uuid} {u : Timestamp} (h : ReadAs scheme r e u)
    (hmem : submission ∈ [Submission.event e, enveloped r])
    (hok : add c submission apiKey t = (.ok o, t')) :
    ∃ id user key, t'.events = t.events ++ [Posting.event id u.canonicalText user key] := by
  obtain ⟨⟨kind, record⟩, haccept, -⟩ := checked_ok hok
  obtain ⟨hrecord, hresolved, -⟩ := accept_ok haccept
  have htimed : parseTimestamp (record.get timestampKey) = .ok u ∧ e.kind = kind := by
    simp only [List.mem_cons, List.not_mem_nil, or_false] at hmem
    rcases hmem with rfl | rfl
    · cases hrecord
      rw [← acceptedKind_of_get h.typeKey] at hresolved
      exact ⟨h.time_event, h.kind_eq hresolved⟩
    · cases hrecord
      exact ⟨h.time_record, h.kind_eq hresolved⟩
  obtain ⟨htime, rfl⟩ := htimed
  exact Ledger.events_of_add hc hrecord hresolved h.kind htime hok

namespace Sample

/-- Token usage of user 7 at a time. -/
def usageAt (time : Value) : Record :=
  [(Event.typeKey, .text EventKind.tokenUsage.name), (userKey, .int 7), (timestampKey, time),
    (dataKey, .record [("model", .text "model"), ("inputTokens", .int 1), ("outputTokens", .int 2),
      ("inputDebitAmount", .int 3), ("outputDebitAmount", .int 5)])]

/-- The event that it is read as. -/
def usedAt (time : Timestamp) : Event := ⟨time, .tokenUsage (.number 7) ⟨"model", 1, 2, 3, 5⟩⟩

/-- Half a second before the end of a leap day, on a clock that is an hour behind. -/
def leapEve : Timestamp :=
  { Intake.Sample.eve with wall := 63844847999500000, wall_lt := by decide }

/-- The same time on the universal clock. -/
def marchEve : Timestamp := { Timestamp.first with wall := 63844851599500000, wall_lt := by decide }

/-- 20240101 as a Unix time, in August 1970. -/
def unixTime : Timestamp := { Timestamp.first with wall := 62155836901000000, wall_lt := by decide }

/-- 20240101 as a date. -/
def newYearsDay : Timestamp := { Timestamp.first with
  wall := Intake.Sample.ahead.wall
  wall_lt := Intake.Sample.ahead.wall_lt }

theorem ofValue_usageAt {s : String} {time : Timestamp} (h : Calendar.readRfc3339 s = .ok time) :
    Event.ofValue .bigint .first (.record (usageAt (.text s))) = .valid (usedAt time) := by
  refine Validated.under_eq_valid_iff.mpr (Event.readReport_eq_valid.mpr ?_)
  exact ⟨time, _, .number 7, (Event.defaulted_text rfl).mpr h, rfl, rfl, rfl⟩

theorem sameButTime_usageAt (time time' : Value) : SameButTime (usageAt time) (usageAt time') := by
  intro name hname
  simp only [usageAt, Record.get, Record.get?_cons, if_neg hname]

theorem readRfc3339_leapEve :
    Calendar.readRfc3339 "2024-02-29 23:59:59,5-01:00" = .ok leapEve := by decide +kernel

theorem parseTimestamp_leapEve :
    parseTimestamp (.text "2024-02-29 23:59:59,5-01:00") = .ok marchEve := by
  have hreads : Reads (.text "2024-02-29 23:59:59,5-01:00") leapEve :=
    .text (by decide) (by decide +kernel)
  exact parseTimestamp_of_reads hreads

theorem readRfc3339_numeral : Calendar.readRfc3339 "20240101" = .ok unixTime := by decide +kernel

theorem parseTimestamp_numeral : parseTimestamp (.text "20240101") = .ok newYearsDay := by
  have hreads : Reads (.text "20240101") newYearsDay.withoutOffset :=
    .text (by decide) (by decide +kernel)
  exact parseTimestamp_of_reads hreads

end Sample

end Ledger

end UsageLedger
