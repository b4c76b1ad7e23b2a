/-
The amount of a payment that is stored is the one that was given.

A payment is checked twice before it is stored: its amount is compared as it was given, and
then the schema reads the payload.  The first check looks under one name only and takes
nothing but numbers, and the second refuses every other name and reads a number as the whole
number it equals (`readInteger_eq_ok_iff`).  So the two agree on what an amount is
(`says_payment_iff`), and what they agree on is what is stored.
-/
import UsageLedger.Proofs.Ledger.Refusals
import UsageLedger.Proofs.Ledger.SingleWrites

namespace UsageLedger

/-! ### Whole numbers -/

/-- A number that equals a whole number: a double does when it is one, a text never does. -/
def Value.Equals (n : Int) : Value → Prop
  | .int m => m = n
  | .float x => x.toRat? = some (n : Rat)
  | _ => False

namespace Ingest

open Schema Intake

variable {v : Value} {r : Record} {record : Record} {n : Int}

/-- A double is read as the whole number that it equals, within the bounds of 64 bits. -/
theorem readIntegerFloat_eq_ok_iff {x : Binary64} :
    readIntegerFloat x = .ok n ↔
      x.toRat? = some (n : Rat) ∧ -9223372036854775808 < n ∧ n < 9223372036854775808 := by
  unfold readIntegerFloat
  cases hx : x.toRat? with
  | none => simp
  | some q =>
      dsimp only
      by_cases hden : q.den = 1
      · have hvalue : (q.num : Rat) = q := Rat.coe_int_num_of_den_eq_one hden
        have hequal : q = (n : Rat) ↔ q.num = n := by rw [← hvalue]; exact Rat.intCast_inj
        rw [if_neg (not_not.mpr hden), Option.some.injEq, hequal]
        by_cases hrange : -9223372036854775808 < q.num ∧ q.num < 9223372036854775808
        · rw [if_pos hrange, Except.ok.injEq]
          exact ⟨fun h => ⟨h, h ▸ hrange⟩, fun h => h.1⟩
        · rw [if_neg hrange]
          exact iff_of_false nofun fun h => hrange (h.1 ▸ h.2)
      · rw [if_pos hden]
        refine iff_of_false nofun fun h => hden ?_
        rw [Option.some.inj h.1]
        exact Rat.den_intCast n

/-- A number within the bounds of a column is read as the whole number that it equals. -/
theorem readInteger_eq_ok_iff (hpos : 0 < n) (hfits : fitsInt64 n = true) :
    v.Equals n ↔ IsNumber v ∧ readInteger v = .ok n := by
  have hle : n ≤ 9223372036854775807 := (fitsInt64_iff.mp hfits).2
  cases v with
  | int m =>
      show m = n ↔ True ∧ Except.ok m = Except.ok n
      simp
  | float x =>
      show x.toRat? = _ ↔ True ∧ readIntegerFloat x = _
      rw [readIntegerFloat_eq_ok_iff, true_and]
      exact ⟨fun h => ⟨h, by omega, by omega⟩, fun h => h.1⟩
  | _ => exact iff_of_false id fun h => h.1

/-! ### Payloads -/

/-- The payload gives an amount: a number above zero that equals it and fits its column, under the
name that it travels by, and nothing else. -/
inductive GivesAmount (n : Int) : Value → Prop
  | record {r : Record} {v : Value} (given : r.get? "creditAmount" = some v)
      (alone : ∀ field ∈ r, field.1 = "creditAmount") (equals : v.Equals n)
      (pos : 1 ≤ n) (le : n ≤ 2 ^ 63 - 1) : GivesAmount n (.record r)

/-- A record with an amount has no unknown fields exactly when it has nothing else. -/
theorem unknownFields_credit (hv : r.get? "creditAmount" = some v) :
    unknownFields PaymentData.fields r = [] ↔ ∀ field ∈ r, field.1 = "creditAmount" := by
  have hspellings : spellings PaymentData.fields r = ["creditAmount"] := by
    simp [spellings, PaymentData.fields, PaymentData.creditAmountField, FieldName.find?, hv]
  unfold unknownFields
  rw [List.map_eq_nil_iff, List.filter_eq_nil_iff, hspellings]
  simp

/-- The schema reads an amount where it is given alone. -/
theorem ofValue_record_iff (hv : r.get? "creditAmount" = some v) :
    PaymentData.ofValue (.record r) = .valid ⟨n⟩ ↔
      readInteger v = .ok n ∧ ∀ field ∈ r, field.1 = "creditAmount" := by
  rw [← unknownFields_credit hv]
  show (_ <$> required PaymentData.creditAmountField readInteger r).also _ = _ ↔ _
  rw [Validated.also_eq_valid_iff, Validated.map_eq_valid_iff]
  refine and_congr_left fun _ => ⟨?_, fun h => ⟨n, required_of_get? hv h, rfl⟩⟩
  rintro ⟨m, hm, hdata⟩
  cases hdata
  exact required_valid hv hm

/-- Both looks at the amount of a payment find the one that its payload gives. -/
theorem givesAmount_iff : GivesAmount n (record.get dataKey) ↔
    PaymentData.ofValue (record.get dataKey) = .valid ⟨n⟩ ∧ IsNumber (submittedCredit record) ∧
      0 < n ∧ fitsInt64 n = true := by
  have hbounds : fitsInt64 n = true ↔ -2 ^ 63 ≤ n ∧ n ≤ 2 ^ 63 - 1 := fitsInt64_iff
  unfold submittedCredit
  generalize record.get dataKey = data
  constructor
  · rintro ⟨hv, halone, hequals, hpos, hle⟩
    have hfits : fitsInt64 n = true := hbounds.mpr ⟨by omega, hle⟩
    obtain ⟨hnumber, hread⟩ := (readInteger_eq_ok_iff hpos hfits).mp hequals
    refine ⟨(ofValue_record_iff hv).mpr ⟨hread, halone⟩, ?_, hpos, hfits⟩
    simp only [Record.get, hv]
    exact hnumber
  · rintro ⟨hvalid, hnumber, hpos, hfits⟩
    obtain ⟨r, rfl, -⟩ := shape_valid hvalid
    cases hv : Record.get? r "creditAmount" with
    | none =>
        simp only [Record.get, hv] at hnumber
        exact hnumber.elim
    | some v =>
        simp only [Record.get, hv] at hnumber
        obtain ⟨hread, halone⟩ := (ofValue_record_iff hv).mp hvalid
        exact .record hv halone ((readInteger_eq_ok_iff hpos hfits).mpr ⟨hnumber, hread⟩) hpos
          (hbounds.mp hfits).2

/-! ### What is told of other payloads -/

/-- What is refused is refused as invalid data. -/
def RefusesAsInvalid {α : Type} (x : Except Raised α) : Prop :=
  ∀ f, x = .error (.failure f) → f.kind = .invalidData

namespace RefusesAsInvalid

variable {α β : Type}

theorem ok (a : α) : RefusesAsInvalid (.ok a : Except Raised α) := by
  intro f h
  cases h

theorem fault (fault : Fault) :
    RefusesAsInvalid (.error (.fault fault) : Except Raised α) := by
  intro f h
  cases h

theorem refuse {f : Failure} (h : f.kind = .invalidData) :
    RefusesAsInvalid (Raised.refuse f : Except Raised α) := by
  rintro _ ⟨⟩
  exact h

theorem bind {x : Except Raised α} {f : α → Except Raised β} (hx : RefusesAsInvalid x)
    (hf : ∀ a, x = .ok a → RefusesAsInvalid (f a)) : RefusesAsInvalid (x >>= f) := by
  cases x with
  | error e => exact fun failure h => hx failure (by cases h; rfl)
  | ok a => exact hf a rfl

theorem requireInt64 {field label : String} :
    RefusesAsInvalid (Intake.requireInt64 v field label) := by
  have hfault : ∀ {γ : Type} (x : Except Fault γ), RefusesAsInvalid (x.mapError .fault) := by
    intro γ x
    cases x with
    | error e => exact fault e
    | ok a => exact ok a
  unfold Intake.requireInt64
  refine (hfault _).bind fun within _ => ?_
  split
  · exact ok ()
  · exact (hfault _).bind fun _ _ => refuse rfl

theorem checkCredit : RefusesAsInvalid (Ingest.checkCredit record) := by
  have hsize : ∀ amount, RefusesAsInvalid (checkCreditSize amount) := by
    intro amount
    unfold checkCreditSize
    split
    · split
      · exact ok ()
      · exact fault creditOverflow
    · split
      · exact ok ()
      · exact refuse rfl
    · exact refuse rfl
  unfold Ingest.checkCredit
  refine (hsize _).bind fun _ _ => ?_
  dsimp only
  split
  · exact refuse rfl
  · exact requireInt64

theorem parsePayload {check : Value → Validated α} {label : String} :
    RefusesAsInvalid (Raised.ofFailure (Intake.parsePayload check record label)) := by
  unfold Intake.parsePayload
  dsimp only
  split
  · exact refuse rfl
  · cases (check (record.get dataKey)).toExcept with
    | error violations => exact refuse rfl
    | ok a => exact ok a

end RefusesAsInvalid

end Ingest

/-! ### Payments -/

namespace Ledger

open Ingest Intake

/-- What is told of a payload without an amount: that it is invalid data, or that it is a whole
number which no double comes near. -/
def ToldOfAmount (record : Record) : Raised → Prop
  | .failure f => f.kind = .invalidData
  | .fault fault => fault = creditOverflow ∧
      ∃ n, submittedCredit record = .int n ∧ Binary64.leastHuge ≤ n.natAbs

namespace SingleWrite

variable {w : SingleWrite} {n : Int}

/-- The payload of a payment says what it gives. -/
theorem says_payment_iff (hw : w.kind = .payment) {particulars : Particulars} :
    w.Says particulars ↔
      ∃ n, GivesAmount n (w.record.get dataKey) ∧ particulars = .payment ⟨n⟩ := by
  simp only [givesAmount_iff]
  unfold Says
  rw [hw]
  cases particulars with
  | sdkCall data => simp
  | payment data =>
      constructor
      · exact fun h => ⟨data.creditAmount, h, rfl⟩
      · rintro ⟨n, h, heq⟩
        cases heq
        exact h

theorem toldOfAmount_payload (hw : w.kind = .payment) {e : Raised} (h : w.payload = .error e) :
    ToldOfAmount w.record e := by
  have hpayload : w.payload = (do
      checkCredit w.record
      let data ← Raised.ofFailure
        (parsePayload PaymentData.ofValue w.record EventKind.payment.name)
      return .payment data) := by
    rw [payload, hw]
  have hinvalid : RefusesAsInvalid w.payload := by
    rw [hpayload]
    exact RefusesAsInvalid.checkCredit.bind fun _ _ =>
      RefusesAsInvalid.parsePayload.bind fun _ _ => .ok _
  cases e with
  | failure f => exact hinvalid f h
  | fault fault =>
      by_cases hhuge : ∃ n, submittedCredit w.record = .int n ∧ Binary64.leastHuge ≤ n.natAbs
      · obtain ⟨n, hamount, hn⟩ := hhuge
        rw [hpayload, checkCredit_huge hamount hn] at h
        cases h
        exact ⟨rfl, n, hamount, hn⟩
      · have hrefuses : Refuses w.payload := by
          rw [hpayload]
          exact (refuses_checkCredit fun n hamount => not_le.mp fun hn =>
            hhuge ⟨n, hamount, hn⟩).bind fun _ _ => (Refuses.ofFailure _).bind fun _ _ => .ok _
        exact absurd h (hrefuses fault)

end SingleWrite

/-- **The amount of a payment that is stored is the one that was given.**  A payment with
nothing else wrong is stored exactly when its payload gives an amount, and then that number is in
its row.  Any other payload is refused, whatever the database does, and nothing changes. -/
theorem checked_amount_stored {c : Conditions} {t : Tables} {w : SingleWrite}
    {submission : Submission} (hw : w.kind = .payment) (hrecord : unwrap submission = .ok w.record)
    (hkind : acceptedKind w.record writeKinds = .ok .payment)
    (hmet : ∀ d : Demand, d ≠ .payload → w.Meets c.scheme t d) :
    (c.Undisturbed → t.Free (c.fresh 0) →
      ∃ user key time, UserId.parse c.scheme (w.record.get userKey) = .ok user ∧
        readApiKeyId w.apiKey = .ok key ∧
        parseTimestamp (w.record.get timestampKey) = .ok time ∧
        ∀ o t', add c submission w.apiKey t = (.ok o, t') ↔
          ∃ n, GivesAmount n (w.record.get dataKey) ∧ o = some (c.fresh 0) ∧
            t' = t.post
              { users := [user]
                events := [Posting.event (c.fresh 0) time.canonicalText user key]
                payments := [⟨c.fresh 0, .whole n⟩] }) ∧
      ((∀ n, ¬ GivesAmount n (w.record.get dataKey)) →
        ∃ e, add c submission w.apiKey t = (.error e, t) ∧ ToldOfAmount w.record e) := by
  have hkind' : acceptedKind w.record writeKinds = .ok w.kind.kind := by rw [hw]; exact hkind
  have hrefused : (∀ n, ¬ GivesAmount n (w.record.get dataKey)) →
      ∃ e, add c submission w.apiKey t = (.error e, t) ∧ ToldOfAmount w.record e := by
    intro hnone
    obtain ⟨user, huser⟩ := SingleWrite.meets_user_iff.mp (hmet .user nofun)
    cases hpayload : w.payload with
    | ok particulars =>
        obtain ⟨n, hgives, -⟩ :=
          (SingleWrite.says_payment_iff hw).mp (SingleWrite.payload_eq_ok_iff.mp hpayload)
        exact absurd hgives (hnone n)
    | error e =>
        exact ⟨e,
          SingleWrite.add_of_refused_payload hrecord hkind' (hmet .key nofun) huser hpayload,
          SingleWrite.toldOfAmount_payload hw hpayload⟩
  refine ⟨fun hc hfree => ?_, hrefused⟩
  obtain ⟨-, user, huser⟩ := hmet .user nofun
  obtain ⟨key, hkey⟩ := hmet .keyId nofun
  obtain ⟨time, htime⟩ := hmet .time nofun
  refine ⟨user, key, time, huser, hkey, htime, fun o t' => ?_⟩
  have hstored : ∀ {n}, GivesAmount n (w.record.get dataKey) → add c submission w.apiKey t
      = (.ok (some (c.fresh 0)),
          t.post (Particulars.posting (c.fresh 0) time user key (.payment ⟨n⟩))) := by
    intro n hgives
    have hsays : w.Says (.payment ⟨n⟩) := (SingleWrite.says_payment_iff hw).mpr ⟨n, hgives, rfl⟩
    refine SingleWrite.add_of_met hrecord hkind' hc hfree (fun d => ?_) ⟨huser, hsays, hkey, htime⟩
    by_cases hd : d = .payload
    · subst hd
      exact ⟨_, hsays⟩
    · exact hmet d hd
  constructor
  · intro h
    by_cases hgives : ∃ n, GivesAmount n (w.record.get dataKey)
    · obtain ⟨n, hgives⟩ := hgives
      rw [hstored hgives] at h
      cases h
      exact ⟨n, hgives, rfl, rfl⟩
    · obtain ⟨e, herror, -⟩ := hrefused (not_exists.mp hgives)
      rw [herror] at h
      cases h
  · rintro ⟨n, hgives, rfl, rfl⟩
    exact hstored hgives

/-- A payment of user 7. -/
def Sample.payment (amount : Value) : SingleWrite where
  kind := .payment
  record := [(Event.typeKey, .text EventKind.payment.name), (userKey, .int 7),
    (timestampKey, .timestamp .first), (dataKey, .record [("creditAmount", amount)])]
  apiKey := .null

/-- A double that is a whole number is stored as that number, and a numeral is refused. -/
theorem checked_amount_stored_sample :
    let c := Conditions.ideal .bigint fun n => Uuid.ofNat (2 + n)
    let pay (amount : Value) :=
      add c (.envelope (Event.wrap (Sample.payment amount).record)) .null Tables.empty
    pay (.float (.finite false 5 0)) = (.ok (some (Uuid.ofNat 2)), Tables.empty.post
        { users := [.number 7]
          events := [⟨Uuid.ofNat 2, .text "0001-01-01T00:00:00.000000+00:00", some (.whole 7),
            none⟩]
          payments := [⟨Uuid.ofNat 2, .whole 5⟩] }) ∧
      ∃ f, pay (.text "5") = (.error (.failure f), Tables.empty) ∧ f.kind = .invalidData := by
  intro c pay
  have hc : c.Undisturbed := Conditions.undisturbed_ideal _ _
  have hempty : Tables.empty.Free (Uuid.ofNat 2) :=
    ⟨List.not_mem_nil, List.not_mem_nil, List.not_mem_nil⟩
  have hmet : ∀ amount, ∀ d : Demand, d ≠ .payload →
      (Sample.payment amount).Meets .bigint Tables.empty d := by
    intro amount d hd
    cases d with
    | key => exact nofun
    | user => exact ⟨rfl, .number 7, rfl⟩
    | payload => exact absurd rfl hd
    | keyId => exact ⟨none, rfl⟩
    | time => exact ⟨.first, rfl⟩
    | known => exact nofun
  constructor
  · have hgives :
        GivesAmount 5 ((Sample.payment (.float (.finite false 5 0))).record.get dataKey) :=
      .record rfl (by simp) (congrArg some (by decide +kernel)) (by decide) (by decide)
    have hunwrap : unwrap (.envelope (Event.wrap
        (Sample.payment (.float (.finite false 5 0))).record)) = .ok _ := rfl
    obtain ⟨user, key, time, huser, hkey, htime, hstored⟩ :=
      (checked_amount_stored (c := c) rfl hunwrap rfl (hmet _)).1 hc hempty
    cases huser
    cases hkey
    cases htime
    have htext : Timestamp.first.canonicalText = "0001-01-01T00:00:00.000000+00:00" := by
      decide +kernel
    rw [← htext]
    exact (hstored _ _).mpr ⟨5, hgives, rfl, rfl⟩
  · have hnone : ∀ n, ¬ GivesAmount n ((Sample.payment (.text "5")).record.get dataKey) := by
      rintro n ⟨hgiven, -, hequals, -, -⟩
      cases hgiven
      exact hequals
    have hunwrap :
        unwrap (.envelope (Event.wrap (Sample.payment (.text "5")).record)) = .ok _ := rfl
    obtain ⟨e, herror, htold⟩ :=
      (checked_amount_stored (c := c) rfl hunwrap rfl (hmet _)).2 hnone
    cases e with
    | failure f => exact ⟨f, herror, htold⟩
    | fault fault =>
        obtain ⟨-, n, hamount, -⟩ := htold
        cases hamount

end Ledger

end UsageLedger
