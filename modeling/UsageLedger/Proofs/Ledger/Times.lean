/-
What becomes of a write whose time cannot be read.

A value that gives no reading of a clock is refused, and one that gives a reading is brought into
universal time, which is not checked: a reading whose instant is outside the calendar is met by a
fault (`parseTimestamp_fault_iff`).  A write reads its time inside its transaction, so what would be
written under another time is undone, and a refusal is told as it is, but a fault is told as a
failure of the transaction (`add_of_unreadable_time`, `addBatch_of_unreadable_time`).
-/
import UsageLedger.Proofs.Intake.Summary
import UsageLedger.Proofs.Intake.Timestamp
import UsageLedger.Proofs.Ledger.Accepted
import UsageLedger.Proofs.Ledger.Readings
import UsageLedger.Proofs.Value.Record

namespace UsageLedger

namespace Intake

/-! ### Times -/

/-- The reading of a clock that a value gives.  A text with half of a pair in it gives one when that
stands between the day and the clock. -/
inductive Reads : Value → Timestamp → Prop
  | timestamp (time : Timestamp) : Reads (.timestamp time) time
  | text {s : String} {time : Timestamp} : Text.allBlank s = false →
      Calendar.readIso? (timestampText s) = some time → Reads (.text s) time
  | broken {t : BrokenText} {time : Timestamp} :
      Calendar.readIsoCodes? (timestampCodes t) = some time → Reads (.brokenText t) time

/-- The instant of the reading that a value gives is before year 1 or after year 9999. -/
def OutsideCalendar (v : Value) : Prop :=
  ∃ time, Reads v time ∧ (time.instant < 0 ∨ (microsInRange : Int) ≤ time.instant)

/-- What an instant outside the calendar brings about. -/
def timeOverflow : Fault := .overflow "date value out of range"

variable {v : Value} {time : Timestamp} {fault : Fault} {f : Failure}

theorem toUniversal?_eq_none :
    time.toUniversal? = none ↔ time.instant < 0 ∨ (microsInRange : Int) ≤ time.instant := by
  unfold Timestamp.toUniversal? Timestamp.ofInstant?
  split
  · next h => exact iff_of_false (Option.some_ne_none _) (by omega)
  · next h => exact iff_of_true rfl (by omega)

theorem normalize_fault_iff : normalize time = .error (.fault fault) ↔
    fault = timeOverflow ∧ (time.instant < 0 ∨ (microsInRange : Int) ≤ time.instant) := by
  rw [← toUniversal?_eq_none]
  unfold normalize
  cases time.toUniversal? with
  | none => simp [timeOverflow, eq_comm]
  | some u => simp

theorem not_normalize_failure : normalize time ≠ .error (.failure f) := by
  unfold normalize
  cases time.toUniversal? <;> simp

/-- A value that gives a reading is brought into universal time. -/
theorem parseTimestamp_of_reads (h : Reads v time) : parseTimestamp v = normalize time := by
  cases h with
  | timestamp => rfl
  | text hblank hread =>
      unfold parseTimestamp
      simp only [hblank, hread, Bool.false_eq_true, if_false]
  | broken hread =>
      unfold parseTimestamp
      simp only [hread]

/-- A value that gives none is refused for its time. -/
theorem parseTimestamp_of_not_reads (h : ∀ time, ¬ Reads v time) :
    ∃ f, parseTimestamp v = .error (.failure f) ∧ f.kind = .invalidTimestamp := by
  cases v with
  | timestamp time => exact absurd (.timestamp time) (h time)
  | text s =>
      cases hblank : Text.allBlank s with
      | true =>
          refine ⟨.emptyTimestamp, ?_, rfl⟩
          unfold parseTimestamp
          dsimp only
          rw [if_pos hblank]
          rfl
      | false =>
          cases hread : Calendar.readIso? (timestampText s) with
          | none =>
              refine ⟨.unreadableTimestamp s, ?_, rfl⟩
              unfold parseTimestamp
              simp only [hblank, hread, Bool.false_eq_true, if_false]
              rfl
          | some time => exact absurd (.text hblank hread) (h time)
  | brokenText t =>
      cases hread : Calendar.readIsoCodes? (timestampCodes t) with
      | none =>
          refine ⟨.unreadableTimestamp (.broken t), ?_, rfl⟩
          unfold parseTimestamp
          simp only [hread]
          rfl
      | some time => exact absurd (.broken hread) (h time)
  | _ => exact ⟨.notTimestamp _, rfl, rfl⟩

/-- **The one fault of a time is that its instant is outside the calendar.** -/
theorem parseTimestamp_fault_iff :
    parseTimestamp v = .error (.fault fault) ↔ fault = timeOverflow ∧ OutsideCalendar v := by
  by_cases hreads : ∃ time, Reads v time
  · obtain ⟨time, hreads⟩ := hreads
    have hsame : ∀ time', Reads v time' → time' = time := by
      intro time' hreads'
      cases hreads with
      | timestamp => cases hreads'; rfl
      | text _ hread =>
          cases hreads' with
          | text _ hread' => exact Option.some.inj (hread'.symm.trans hread)
      | broken hread =>
          cases hreads' with
          | broken hread' => exact Option.some.inj (hread'.symm.trans hread)
    rw [parseTimestamp_of_reads hreads, normalize_fault_iff]
    refine and_congr_right fun _ => ⟨fun hinstant => ⟨time, hreads, hinstant⟩, ?_⟩
    rintro ⟨time', hreads', hinstant⟩
    rwa [← hsame time' hreads']
  · obtain ⟨f, hf, -⟩ := parseTimestamp_of_not_reads (not_exists.mp hreads)
    rw [hf]
    exact iff_of_false nofun fun h => hreads (h.2.imp fun _ => And.left)

/-- A refusal of a time is told as one. -/
theorem kind_of_parseTimestamp (h : parseTimestamp v = .error (.failure f)) :
    f.kind = .invalidTimestamp := by
  by_cases hreads : ∃ time, Reads v time
  · obtain ⟨time, hreads⟩ := hreads
    rw [parseTimestamp_of_reads hreads] at h
    exact absurd h not_normalize_failure
  · obtain ⟨f', hf', hkind⟩ := parseTimestamp_of_not_reads (not_exists.mp hreads)
    rw [h] at hf'
    cases hf'
    exact hkind

end Intake

/-! ### Transactions -/

namespace Ingest

open Intake Txn

variable {c : Conditions} {apiKey : Value} {t t' : Tables} {e : Raised} {r r' : Record}

/-- What a write tells of a time that cannot be read: it is refused, unless its instant is outside
the calendar, which is told as a failure of the transaction. -/
structure ToldOfTime (v : Value) (f : Failure) : Prop where
  refused : ¬ OutsideCalendar v → f.kind = .invalidTimestamp ∧ f.status = 400
  failed : OutsideCalendar v →
    f.kind = .transactionFailed ∧ f.status = 500 ∧ f.cause? = some timeOverflow

theorem exists_told {v : Value} (he : parseTimestamp v = .error e) (description : String) :
    ∃ f, ToldOfTime v f ∧ explain description e = .failure f := by
  cases e with
  | failure f =>
      have hkind := kind_of_parseTimestamp he
      refine ⟨f, ⟨fun _ => ⟨hkind, by rw [Failure.status, hkind]; rfl⟩, fun houtside => ?_⟩, rfl⟩
      cases he.symm.trans (parseTimestamp_fault_iff.mpr ⟨rfl, houtside⟩)
  | fault fault =>
      obtain ⟨rfl, houtside⟩ := parseTimestamp_fault_iff.mp he
      exact ⟨_, ⟨fun hinside => absurd houtside hinside, fun _ => ⟨rfl, rfl, rfl⟩⟩, rfl⟩

theorem writeTransaction_ok {α : Type} {description : String} {body : Txn α} {a : α}
    (h : writeTransaction c description body t = (.ok a, t')) :
    c.opening = none ∧ ∃ w, result body ⟨t, [], 0⟩ = .ok (a, w) := by
  unfold writeTransaction at h
  obtain ⟨houtcome, htables⟩ := Prod.mk.inj h
  obtain ⟨hopening, -, hresult⟩ := run_eq_ok (Prod.ext (mapError_eq_ok.mp houtcome) htables)
  exact ⟨hopening, hresult⟩

/-- A time that cannot be read is told by the transaction that was opened, and nothing is stored. -/
theorem writeTransaction_of_unreadable_time {α : Type} {body : Txn α} {v : Value}
    (hopening : c.opening = none) (he : parseTimestamp v = .error e)
    (h : result body ⟨t, [], 0⟩ = .error e) (description : String) :
    ∃ f, ToldOfTime v f ∧
      writeTransaction c description body t = (.error (.failure f), t) := by
  obtain ⟨f, htold, hf⟩ := exists_told he description
  refine ⟨f, htold, ?_⟩
  unfold writeTransaction
  rw [run_of_error hopening h, ← hf]
  rfl

/-- The time of an event is read after its user was added. -/
theorem storeSingle_of_unreadable_time {kind : EventKind} {user : UserId} {table : Table}
    {values : Record} {id : Uuid}
    (hok : storeSingle c kind user r' apiKey table values t = (.ok id, t'))
    (he : parseTimestamp (r.get timestampKey) = .error e) : ∃ f, ToldOfTime (r.get timestampKey) f ∧
      storeSingle c kind user r apiKey table values t = (.error (.failure f), t) := by
  obtain ⟨key, hkey, hok⟩ := checked_ok hok
  obtain ⟨hopening, w, hresult⟩ := writeTransaction_ok hok
  have hbad : result (storeEvent c user r key table values) ⟨t, [], 0⟩ = .error e := by
    unfold storeEvent at hresult ⊢
    rw [result_bind] at hresult ⊢
    obtain ⟨⟨_, w₁⟩, huser, -⟩ := bind_eq_ok.mp hresult
    rw [huser]
    show result (Txn.ofExcept (canonicalTimestamp (r.get timestampKey)) >>= _) w₁ = _
    rw [canonicalTimestamp, he]
    rfl
  obtain ⟨f, htold, hf⟩ :=
    writeTransaction_of_unreadable_time hopening he hbad (kind.name ++ " event")
  refine ⟨f, htold, ?_⟩
  unfold storeSingle
  rw [hkey]
  exact hf

/-- The times of a batch are read first, and the first that cannot be read decides. -/
theorem addUsage_of_unreadable_time {rs' before after : List Record} {o : Option Uuid}
    (hchecked : List.Forall₂ (fun r r' => CheckedAlike c.scheme r r' .tokenUsage)
      (before ++ r :: after) rs')
    (hok : addUsage c rs' apiKey t = (.ok o, t'))
    (hbefore : ∀ b ∈ before, ∃ time, parseTimestamp (b.get timestampKey) = .ok time)
    (he : parseTimestamp (r.get timestampKey) = .error e) :
    ∃ f, ToldOfTime (r.get timestampKey) f ∧
      addUsage c (before ++ r :: after) apiKey t = (.error (.failure f), t) := by
  have hempty : rs'.isEmpty = false ∧ (before ++ r :: after).isEmpty = false := by
    have hlength := hchecked.length_eq
    simp only [List.length_append, List.length_cons] at hlength
    exact ⟨List.isEmpty_eq_false_iff.mpr (List.ne_nil_of_length_pos (by omega)), by simp⟩
  unfold addUsage at hok ⊢
  rw [hempty.1] at hok
  rw [hempty.2]
  obtain ⟨us', hus', hok⟩ := checked_ok hok
  obtain ⟨key, hkey, hok⟩ := checked_ok hok
  obtain ⟨houtcome, htables⟩ := Prod.mk.inj hok
  obtain ⟨id, hid, rfl⟩ := map_eq_ok.mp houtcome
  obtain ⟨hopening, -⟩ := writeTransaction_ok (Prod.ext hid htables)
  -- the records say what the others say, up to the first whose time cannot be read
  obtain ⟨us, hus⟩ : ∃ us, UsageRecord.ofRecords c.scheme (before ++ r :: after) = .ok us := by
    rcases SameFate.mapM hchecked with ⟨e', -, he'⟩ | ⟨us, -, hus, -, -⟩
    · cases he'.symm.trans hus'
    · exact ⟨us, hus⟩
  have hgroups : UsageGroup.aggregate us = .error e := by
    have hus := hus
    rw [UsageRecord.ofRecords, List.mapM_append] at hus
    obtain ⟨earlier, hearlier, hus⟩ := bind_eq_ok.mp hus
    obtain ⟨later, hlater, hus⟩ := bind_eq_ok.mp hus
    rw [List.mapM_cons] at hlater
    obtain ⟨u, hu, hlater⟩ := bind_eq_ok.mp hlater
    obtain ⟨rest, -, hlater⟩ := bind_eq_ok.mp hlater
    cases hlater
    cases hus
    refine UsageGroup.aggregate_of_unreadable (fun u hu => ?_) ?_
    · obtain ⟨b, hb, hread⟩ := exists_of_mem_forall₂ (mapM_eq_ok.mp hearlier) hu
      obtain ⟨time, htime⟩ := hbefore b hb
      exact ⟨time, (UsageRecord.checked_of_ofRecord hread).time ▸ htime⟩
    · rw [(UsageRecord.checked_of_ofRecord hu).time]
      exact he
  have hbad : result (storeUsage c us key) ⟨t, [], 0⟩ = .error e := by
    unfold storeUsage
    rw [hgroups]
    rfl
  obtain ⟨f, htold, hf⟩ := writeTransaction_of_unreadable_time hopening he hbad
    (Text.integer (before ++ r :: after).length ++ " AI_TOKEN_USAGE event(s)")
  refine ⟨f, htold, ?_⟩
  rw [hus, hkey]
  simp only [checked, hf, Bool.false_eq_true, if_false]
  rfl

end Ingest

namespace Ledger

open Ingest Intake

variable {c : Conditions} {apiKey : Value} {t t' : Tables} {e : Raised} {r r' : Record}
  {o : Option Uuid}

/-- Two records say the same, but for their times. -/
def SameButTime (r r' : Record) : Prop := ∀ name, name ≠ timestampKey → r.get name = r'.get name

theorem SameButTime.checkedAlike (h : SameButTime r r') (scheme : IdScheme) (kind : EventKind) :
    CheckedAlike scheme r r' kind := by
  refine checkedAlike_of_get (fun label => ?_) (h dataKey (by decide)) kind
  unfold requireUser
  rw [h userKey (by decide)]

/-- A write that would be accepted with another time tells of its own. -/
theorem write_of_unreadable_time {kind : EventKind} (h : SameButTime r r')
    (hok : write c kind r' apiKey t = (.ok o, t'))
    (he : parseTimestamp (r.get timestampKey) = .error e) :
    ∃ f, ToldOfTime (r.get timestampKey) f ∧
      write c kind r apiKey t = (.error (.failure f), t) := by
  have hchecked := h.checkedAlike c.scheme
  cases kind with
  | sdkCall =>
      obtain ⟨id, hid, -⟩ := map_some_eq_ok hok
      obtain ⟨⟨user, data⟩, hcheck, hstored⟩ := checked_ok hid
      obtain ⟨f, htold, hf⟩ := storeSingle_of_unreadable_time hstored he
      refine ⟨f, htold, ?_⟩
      unfold write addSdkCall
      rw [show checkSdkCall c.scheme r = .ok (user, data) from (hchecked .sdkCall).trans hcheck]
      simp only [checked, hf]
      rfl
  | payment =>
      obtain ⟨id, hid, -⟩ := map_some_eq_ok hok
      obtain ⟨⟨user, data⟩, hcheck, hstored⟩ := checked_ok hid
      obtain ⟨f, htold, hf⟩ := storeSingle_of_unreadable_time hstored he
      refine ⟨f, htold, ?_⟩
      unfold write addPayment
      rw [show checkPayment c.scheme r = .ok (user, data) from (hchecked .payment).trans hcheck]
      simp only [checked, hf]
      rfl
  | tokenUsage =>
      have hone :
          List.Forall₂ (fun r r' => CheckedAlike c.scheme r r' .tokenUsage) ([] ++ [r]) [r'] :=
        .cons (hchecked .tokenUsage) .nil
      exact addUsage_of_unreadable_time hone hok (by simp) he
  | addKey =>
      obtain ⟨id, hid, -⟩ := map_some_eq_ok hok
      obtain ⟨data, hcheck, hstored⟩ := checked_ok hid
      obtain ⟨hopening, -⟩ := writeTransaction_ok hstored
      have hbad : Txn.result (storeKey c r data) ⟨t, [], 0⟩ = .error e := by
        unfold storeKey
        rw [canonicalTimestamp, he]
        rfl
      obtain ⟨f, htold, hf⟩ := writeTransaction_of_unreadable_time hopening he hbad "ADD_KEY event"
      refine ⟨f, htold, ?_⟩
      unfold write addKey
      rw [show checkKeyGrant r = checkKeyGrant r' from hchecked .addKey, hcheck]
      simp only [checked, hf]
      rfl
  | requestSdkCall | requestTokenUsage | requestPayment => cases hok

theorem add_of_unreadable_time {s s' : Submission} (hs : unwrap s = .ok r)
    (hs' : unwrap s' = .ok r') (h : SameButTime r r') (hok : add c s' apiKey t = (.ok o, t'))
    (he : parseTimestamp (r.get timestampKey) = .error e) :
    ∃ f, ToldOfTime (r.get timestampKey) f ∧ add c s apiKey t = (.error (.failure f), t) := by
  obtain ⟨⟨kind, record⟩, haccept, hok⟩ := checked_ok hok
  obtain ⟨hrecord, -, -⟩ := accept_ok haccept
  cases hs'.symm.trans hrecord
  obtain ⟨f, htold, hf⟩ := write_of_unreadable_time h hok he
  refine ⟨f, htold, ?_⟩
  unfold add
  rw [accept_alike hs hs' (h Event.typeKey (by decide)), haccept]
  exact hf

theorem addBatch_of_unreadable_time {ss ss' : List Submission} {before after rs' : List Record}
    (hs : ss.mapM unwrap = .ok (before ++ r :: after)) (hs' : ss'.mapM unwrap = .ok rs')
    (h : List.Forall₂ SameButTime (before ++ r :: after) rs')
    (hok : addBatch c ss' apiKey t = (.ok o, t'))
    (hbefore : ∀ b ∈ before, ∃ time, parseTimestamp (b.get timestampKey) = .ok time)
    (he : parseTimestamp (r.get timestampKey) = .error e) :
    ∃ f, ToldOfTime (r.get timestampKey) f ∧ addBatch c ss apiKey t = (.error (.failure f), t) := by
  obtain ⟨records, haccept, hok⟩ := checked_ok hok
  cases records_of_acceptBatch hs' haccept
  obtain ⟨f, htold, hf⟩ := addUsage_of_unreadable_time
    (h.imp fun r r' hsame => hsame.checkedAlike c.scheme .tokenUsage) hok hbefore he
  refine ⟨f, htold, ?_⟩
  unfold addBatch
  rw [acceptBatch_alike hs hs' (h.imp fun r r' hsame => hsame Event.typeKey (by decide)), haccept]
  exact hf

/-- **A time that cannot be read is refused, unless its instant is outside the calendar.**  A
value is read as a universal time or refused for its time, but for a reading whose instant is before
year 1 or after year 9999, which is met by a fault.  A write that would be accepted with another
time is refused and leaves the tables alone, but such a reading is told as a failure of the
transaction; and a batch, in the ledger and before it, fares as the first of its records whose time
cannot be read. -/
theorem unreadable_times_told (v : Value) :
    ((∃ time, parseTimestamp v = .ok time ∧ time.offset = some 0) ∨
      (¬ OutsideCalendar v ∧
        ∃ f, parseTimestamp v = .error (.failure f) ∧ f.kind = .invalidTimestamp) ∨
      (OutsideCalendar v ∧ parseTimestamp v = .error (.fault timeOverflow))) ∧
    (∀ c apiKey t s s' r r' o t', unwrap s = .ok r → unwrap s' = .ok r' → SameButTime r r' →
      add c s' apiKey t = (.ok o, t') → r.get timestampKey = v →
      (∀ time, parseTimestamp v ≠ .ok time) →
        ∃ f, ToldOfTime v f ∧ add c s apiKey t = (.error (.failure f), t)) ∧
    (∀ c apiKey t ss ss' before r after rs' o t', ss.mapM unwrap = .ok (before ++ r :: after) →
      ss'.mapM unwrap = .ok rs' → List.Forall₂ SameButTime (before ++ r :: after) rs' →
      addBatch c ss' apiKey t = (.ok o, t') →
      (∀ b ∈ before, ∃ time, parseTimestamp (b.get timestampKey) = .ok time) →
      r.get timestampKey = v → (∀ time, parseTimestamp v ≠ .ok time) →
        ∃ f, ToldOfTime v f ∧ addBatch c ss apiKey t = (.error (.failure f), t)) ∧
    ∀ before (u : UsageRecord) after, (∀ b ∈ before, b.Readable) → u.reportedTimestamp = v →
      (∀ time, parseTimestamp v ≠ .ok time) →
      (¬ OutsideCalendar v → ∃ f,
        UsageGroup.aggregate (before ++ u :: after) = .error (.failure f) ∧
          f.kind = .invalidTimestamp) ∧
      (OutsideCalendar v →
        UsageGroup.aggregate (before ++ u :: after) = .error (.fault timeOverflow)) := by
  have herror : (∀ time, parseTimestamp v ≠ .ok time) → ∃ e, parseTimestamp v = .error e := by
    intro hnone
    cases hv : parseTimestamp v with
    | error e => exact ⟨e, rfl⟩
    | ok time => exact absurd hv (hnone time)
  have htold : (∀ time, parseTimestamp v ≠ .ok time) → ¬ OutsideCalendar v →
      ∃ f, parseTimestamp v = .error (.failure f) ∧ f.kind = .invalidTimestamp := by
    intro hnone hinside
    obtain ⟨e, he⟩ := herror hnone
    cases e with
    | failure f => exact ⟨f, he, kind_of_parseTimestamp he⟩
    | fault fault => exact absurd (parseTimestamp_fault_iff.mp he).2 hinside
  refine ⟨?_, ?_, ?_, ?_⟩
  · by_cases houtside : OutsideCalendar v
    · exact .inr (.inr ⟨houtside, parseTimestamp_fault_iff.mpr ⟨rfl, houtside⟩⟩)
    · by_cases hread : ∃ time, parseTimestamp v = .ok time
      · obtain ⟨time, htime⟩ := hread
        exact .inl ⟨time, htime, parseTimestamp_offset htime⟩
      · exact .inr (.inl ⟨houtside, htold (not_exists.mp hread) houtside⟩)
  · rintro c apiKey t s s' r r' o t' hs hs' hsame hok rfl hnone
    obtain ⟨e, he⟩ := herror hnone
    exact add_of_unreadable_time hs hs' hsame hok he
  · rintro c apiKey t ss ss' before r after rs' o t' hs hs' hsame hok hbefore rfl hnone
    obtain ⟨e, he⟩ := herror hnone
    exact addBatch_of_unreadable_time hs hs' hsame hok hbefore he
  · rintro before u after hbefore rfl hnone
    refine ⟨fun hinside => ?_, fun houtside => ?_⟩
    · obtain ⟨f, hf, hkind⟩ := htold hnone hinside
      exact ⟨f, UsageGroup.aggregate_of_unreadable hbefore hf, hkind⟩
    · have hfault := parseTimestamp_fault_iff.mpr ⟨rfl, houtside⟩
      exact UsageGroup.aggregate_of_unreadable hbefore hfault

namespace Sample

/-- A payment of user 7 at a time. -/
def paymentAt (time : Value) : Record :=
  [(Event.typeKey, .text EventKind.payment.name), (userKey, .int 7), (timestampKey, time),
    (dataKey, .record [("creditAmount", .int 5)])]

/-- Midnight of the first day on a clock that is an hour ahead, with half of a pair between the day
and the clock. -/
def early : BrokenText :=
  ⟨"0001-01-01".toList.map Char.toNat ++ 0xD800 :: "00:00:00+01:00".toList.map Char.toNat,
    by decide, by decide⟩

theorem outsideCalendar_early : ∀ time ∈ [.text "0001-01-01T00:00:00+01:00", .brokenText early],
    OutsideCalendar time := by
  intro time htime
  refine ⟨⟨0, some 3600000000, by decide, by simp [microsPerDay]⟩, ?_, .inl (by decide)⟩
  rcases List.mem_pair.mp htime with rfl | rfl
  · exact .text (by decide) (by decide +kernel)
  · exact .broken (by decide +kernel)

end Sample

/-- What is no time is refused.  Midnight of the first day on a clock that is an hour ahead is a
time before the calendar begins, and fails the transaction, whatever stands before the clock. -/
theorem unreadable_times_told_sample :
    let c := Conditions.ideal .bigint Uuid.ofNat
    let pay (time : Value) :=
      add c (.envelope (Event.wrap (Sample.paymentAt time))) .null Tables.empty
    (∃ f, pay (.text "half past") = (.error (.failure f), Tables.empty) ∧
        f.kind = .invalidTimestamp ∧ f.status = 400) ∧
      ∀ time ∈ [.text "0001-01-01T00:00:00+01:00", .brokenText Sample.early],
        ∃ f, pay time = (.error (.failure f), Tables.empty) ∧
          f.kind = .transactionFailed ∧ f.status = 500 ∧
            f.cause? = some (.overflow "date value out of range") := by
  intro c pay
  have hsame : ∀ time,
      SameButTime (Sample.paymentAt time) (Sample.paymentAt (.timestamp .first)) := by
    intro time name hname
    simp only [Sample.paymentAt, Record.get, Record.get?_cons, if_neg hname]
  have htold : ∀ time, (∀ u, parseTimestamp time ≠ .ok u) →
      ∃ f, ToldOfTime time f ∧ pay time = (.error (.failure f), Tables.empty) := by
    intro time hnone
    have hunwrap : ∀ time, unwrap (.envelope (Event.wrap (Sample.paymentAt time)))
        = .ok (Sample.paymentAt time) := fun _ => rfl
    have hok : pay (.timestamp .first) = (.ok (some (Uuid.ofNat 0)), _) := rfl
    exact (unreadable_times_told time).2.1 c .null Tables.empty _ _ _ _ _ _ (hunwrap time)
      (hunwrap _) (hsame time) hok rfl hnone
  constructor
  · have hnone : ∀ u, ¬ Reads (.text "half past") u := by
      intro u h
      cases h with
      | text _ hread =>
          rw [show Calendar.readIso? (timestampText "half past") = none by decide +kernel] at hread
          cases hread
    obtain ⟨f', hf', -⟩ := parseTimestamp_of_not_reads hnone
    obtain ⟨f, hrefused, hf⟩ := htold (.text "half past") fun u hu => by
      cases hu.symm.trans hf'
    exact ⟨f, hf, hrefused.refused fun h => h.elim fun u hu => hnone u hu.1⟩
  · intro time htime
    have houtside := Sample.outsideCalendar_early time htime
    have hfault := parseTimestamp_fault_iff.mpr ⟨rfl, houtside⟩
    obtain ⟨f, hfailed, hf⟩ := htold _ fun u hu => by
      cases hu.symm.trans hfault
    exact ⟨f, hf, hfailed.failed houtside⟩

end Ledger

end UsageLedger
