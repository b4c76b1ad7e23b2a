/-
What decides over the grant of a key.

A record either grants a key or does not, whatever is stored (`Grants`): its payload is valid,
its name and its digest are runs of characters and neither is blank, and both of its times lie in
the calendar.  The database has one say besides, that no key of the same name or the same digest is
there (`Unclaimed`), and it is asked last.  So a record that grants nothing is refused in the same
way by all tables (`addKey_of_no_grant`), and one that does is stored or told as a clash.
-/
import UsageLedger.Proofs.Ledger.Rules
import UsageLedger.Proofs.Ledger.SingleWrites
import UsageLedger.Proofs.Ledger.Times

namespace UsageLedger

open Intake

/-- Some character of the text is not blank. -/
theorem Text.allBlank_eq_false {s : String} :
    allBlank s = false ↔ ∃ x ∈ s.toList, isBlank x = false := by
  simp only [allBlank, List.all_eq_false, Bool.not_eq_true]

/-! ### Grants -/

/-- The record grants a key under a name with a digest, for a time that is given in universal time
as well. -/
structure Grants (record : Record) (name key : String) (given expiresAt : Timestamp) : Prop where
  payload : KeyGrantData.ofValue (record.get dataKey) = .valid ⟨name, key, given⟩
  name : ∃ x ∈ name.toList, Text.isBlank x = false
  key : ∃ x ∈ key.toList, Text.isBlank x = false
  /-- The record has to have a time, which is not kept. -/
  reported : ∃ time, parseTimestamp (record.get timestampKey) = .ok time
  expires : given.toUniversal? = some expiresAt

/-- No key has the name, and none has the digest. -/
structure Unclaimed (t : Tables) (name key : String) : Prop where
  name : ∀ row ∈ t.apiKeys, row.name ≠ .text name
  key : ∀ row ∈ t.apiKeys, row.key ≠ .text key

/-- The row of a key that is granted. -/
def grantedRow (id : Uuid) (name key : String) (expiresAt : Timestamp) : ApiKeyRow :=
  ⟨id, .text name, .text key, expiresAt.withoutOffset, false⟩

variable {c : Conditions} {t : Tables} {record : Record} {name key : String}
  {given expiresAt : Timestamp}

/-- The check of a record finds what its payload says, if neither text of it is blank. -/
theorem checkKeyGrant_eq_ok_iff {data : KeyGrantData} : Ingest.checkKeyGrant record = .ok data ↔
    KeyGrantData.ofValue (record.get dataKey) = .valid data ∧
      data.name.isBlank = false ∧ data.key.isBlank = false := by
  refine ⟨Ingest.checkKeyGrant_ok, fun ⟨hvalid, hname, hkey⟩ => ?_⟩
  obtain ⟨r, hr, -⟩ := Schema.shape_valid hvalid
  rw [hr] at hvalid
  exact Ingest.checkKeyGrant_of_valid hr hvalid hname hkey

theorem Grants.checked (h : Grants record name key given expiresAt) :
    Ingest.checkKeyGrant record = .ok ⟨name, key, given⟩ :=
  checkKeyGrant_eq_ok_iff.mpr
    ⟨h.payload, Text.allBlank_eq_false.mpr h.name, Text.allBlank_eq_false.mpr h.key⟩

theorem Grants.parsed (h : Grants record name key given expiresAt) :
    parseTimestamp (.timestamp given) = .ok expiresAt := normalize_eq_ok.mpr h.expires

theorem kind_of_checkKeyGrant {f : Failure} (h : Ingest.checkKeyGrant record = .error f) :
    f.kind = .invalidData := by
  have hpayload : ∀ {f}, parsePayload KeyGrantData.ofValue record EventKind.addKey.name = .error f →
      f.kind = .invalidData := by
    intro f hf
    unfold parsePayload at hf
    dsimp only at hf
    split at hf
    · cases hf
      rfl
    · cases hdata : KeyGrantData.ofValue (record.get dataKey) with
      | valid data => rw [hdata] at hf; cases hf
      | invalid violations => rw [hdata] at hf; cases hf; rfl
  unfold Ingest.checkKeyGrant at h
  cases hdata : parsePayload KeyGrantData.ofValue record EventKind.addKey.name with
  | error f' =>
      rw [hdata] at h
      cases h
      exact hpayload hdata
  | ok data =>
      rw [hdata] at h
      change (if data.name.isBlank = true then _ else _) = _ at h
      split at h
      · cases h
        rfl
      · split at h <;> cases h
        rfl

/-! ### Keys that the database does not take -/

theorem Engine.addRows_apiKey_clash (scheme : IdScheme) (id : Uuid) (expiresAt : Timestamp)
    (h : ¬ Unclaimed t name key) : ∃ column, addRows scheme .apiKeys t
        [Repository.withId [("name", .text name), ("key", .text key),
          ("expires_at", .timestamp expiresAt)] id]
      = .error (.database (.integrity (Constraint.unique "api_keys" column))) := by
  have hadd : ∃ column, t.addApiKey (grantedRow id name key expiresAt)
      = .error (Constraint.unique "api_keys" column) := by
    unfold Tables.addApiKey
    by_cases hkey : t.apiKeys.any (·.key = .text key) = true
    · exact ⟨"key", if_pos hkey⟩
    by_cases hname : t.apiKeys.any (·.name = .text name) = true
    · exact ⟨"name", (if_neg hkey).trans (if_pos hname)⟩
    exact absurd ⟨by simpa using hname, by simpa using hkey⟩ h
  obtain ⟨column, hadd⟩ := hadd
  refine ⟨column, ?_⟩
  rw [addRows_single]
  show (t.addApiKey (grantedRow id name key expiresAt)).mapError Store.broken = _
  rw [hadd]
  rfl

/-- A name or a digest that is no run of characters has no encoding, whatever is stored. -/
theorem Engine.addRows_apiKey_broken (scheme : IdScheme) (id : Uuid) {name key : AnyText}
    (expiresAt : Timestamp) (h : ∀ s s' : String, name = s → key ≠ s') :
    ∃ broken, ∀ t, addRows scheme .apiKeys t
        [Repository.withId [("name", .ofText name), ("key", .ofText key),
          ("expires_at", .timestamp expiresAt)] id] = .error (.unencodable broken) := by
  cases name with
  | broken b => exact ⟨b, fun t => by cases key <;> rfl⟩
  | whole s =>
      cases key with
      | broken b => exact ⟨b, fun t => rfl⟩
      | whole s' => exact absurd rfl (h s s' rfl)

namespace Repository

/-- As what a key is told that is not taken. -/
def keyDefect (name : Value) : Fault → Raised
  | .database e => told (.keyRejected name) (.keyInsert name) e
  | fault => .fault fault

theorem result_insertApiKey_error (hc : c.Undisturbed) {values : Record}
    {done : List Statement} {n : Nat} {fault : Fault}
    (h : Engine.addRows c.scheme .apiKeys t [withId values (c.fresh n)] = .error fault) :
    Txn.result (insertApiKey c values) ⟨t, done, n⟩
      = .error (keyDefect (values.get "name") fault) := by
  have hinsert : Txn.result (insertWithIds c .apiKeys [values]) ⟨t, done, n⟩
      = .error (.fault fault) := result_insertWithIds_error hc h
  unfold insertApiKey
  rw [Txn.result_after_meet (hc.broken _)]
  dsimp only
  rw [Txn.result_bind, Txn.result_classify reject_eq_throw, hinsert]
  cases fault <;> rfl

end Repository

namespace Ingest

open Txn

/-- A grant is stored under the identifier that is drawn first, when nothing claims it. -/
theorem addKey_of_grant (hc : c.Undisturbed) (hfresh : c.fresh 0 ∉ t.apiKeys.map (·.id))
    (hgrants : Grants record name key given expiresAt) (hunclaimed : Unclaimed t name key) :
    addKey c record t = (.ok (c.fresh 0),
      { t with apiKeys := t.apiKeys ++ [grantedRow (c.fresh 0) name key expiresAt] }) := by
  obtain ⟨time, htime⟩ := hgrants.reported
  have hcanonical := canonicalTimestamp_of_parseTimestamp htime
  rw [addKey_accepted hc rfl hgrants.checked hcanonical hgrants.parsed
    (by simpa using hunclaimed.name) (by simpa using hunclaimed.key) hfresh]
  simp [Tables.post, Tables.withUsers, grantedRow]

/-- The transaction of a key whose times can be read depends on the row that is inserted. -/
theorem result_storeKey {data : KeyGrantData} {time : Timestamp}
    (htime : parseTimestamp (record.get timestampKey) = .ok time)
    (hexpires : parseTimestamp (.timestamp data.expiresAt) = .ok expiresAt) (w : Work) :
    result (storeKey c record data) w = result (Repository.insertApiKey c [("name",
      .ofText data.name), ("key", .ofText data.key), ("expires_at", .timestamp expiresAt)]) w := by
  unfold storeKey
  rw [result_after_check (canonicalTimestamp_of_parseTimestamp htime), result_after_check hexpires]

/-- A transaction that fails is told as it is, or as a failure of the transaction. -/
theorem addKey_of_error {data : KeyGrantData} {e : Raised} (hc : c.Undisturbed)
    (hdata : checkKeyGrant record = .ok data)
    (h : result (storeKey c record data) ⟨t, [], 0⟩ = .error e) :
    addKey c record t = (.error (explain "ADD_KEY event" e), t) := by
  unfold addKey checked Raised.ofFailure
  rw [hdata]
  exact writeTransaction_of_error hc.opening h _

/-- A grant of what is claimed is told as a clash. -/
theorem addKey_of_clash (hc : c.Undisturbed) (hgrants : Grants record name key given expiresAt)
    (hclaimed : ¬ Unclaimed t name key) : ∃ column, addKey c record t
      = (.error (.failure (.keyRejected (.text name)
          (Constraint.unique "api_keys" column))), t) := by
  obtain ⟨column, hrejected⟩ :=
    Engine.addRows_apiKey_clash c.scheme (c.fresh 0) expiresAt hclaimed
  obtain ⟨time, htime⟩ := hgrants.reported
  have hstored : result (storeKey c record ⟨name, key, given⟩) ⟨t, [], 0⟩
      = .error (.failure (.keyRejected (.text name) (Constraint.unique "api_keys" column))) :=
    (result_storeKey htime hgrants.parsed _).trans
      (Repository.result_insertApiKey_error hc hrejected)
  exact ⟨column, addKey_of_error hc hgrants.checked hstored⟩

/-- A time that cannot be read is told in the same way by all tables. -/
theorem addKey_of_bad_time {data : KeyGrantData} (hc : c.Undisturbed) {v : Value} {e : Raised}
    (hdata : checkKeyGrant record = .ok data) (he : parseTimestamp v = .error e)
    (h : ∀ t, result (storeKey c record data) ⟨t, [], 0⟩ = .error e) :
    ∃ f, f.kind ≠ .constraintViolation ∧
      ∀ t, addKey c record t = (.error (.failure f), t) := by
  obtain ⟨f, htold, hf⟩ := exists_told he "ADD_KEY event"
  refine ⟨f, ?_, fun t => hf ▸ addKey_of_error hc hdata (h t)⟩
  by_cases houtside : OutsideCalendar v
  · rw [(htold.failed houtside).1]
    decide
  · rw [(htold.refused houtside).1]
    decide

/-- A name or a digest that is no run of characters fails the transaction. -/
theorem addKey_of_broken {data : KeyGrantData} {time : Timestamp} (hc : c.Undisturbed)
    (hdata : checkKeyGrant record = .ok data)
    (htime : parseTimestamp (record.get timestampKey) = .ok time)
    (hexpires : parseTimestamp (.timestamp data.expiresAt) = .ok expiresAt)
    (hbroken : ∀ name key : String, data.name = name → data.key ≠ key) :
    ∃ f, f.kind ≠ .constraintViolation ∧
      ∀ t, addKey c record t = (.error (.failure f), t) := by
  obtain ⟨broken, hrows⟩ :=
    Engine.addRows_apiKey_broken c.scheme (c.fresh 0) expiresAt hbroken
  have hstored : ∀ t, result (storeKey c record data) ⟨t, [], 0⟩
      = .error (.fault (.unencodable broken)) := fun t =>
    (result_storeKey htime hexpires _).trans
      (Repository.result_insertApiKey_error hc (hrows t))
  exact ⟨.transaction "ADD_KEY event" (.unencodable broken), nofun,
    fun t => addKey_of_error hc hdata (hstored t)⟩

/-- **A record that grants nothing is refused in the same way by all tables.** -/
theorem addKey_of_no_grant (hc : c.Undisturbed)
    (h : ∀ name key given expiresAt, ¬ Grants record name key given expiresAt) :
    ∃ f, f.kind ≠ .constraintViolation ∧
      ∀ t, addKey c record t = (.error (.failure f), t) := by
  cases hdata : checkKeyGrant record with
  | error f =>
      refine ⟨f, by rw [kind_of_checkKeyGrant hdata]; decide, fun t => ?_⟩
      unfold addKey checked Raised.ofFailure
      rw [hdata]
      rfl
  | ok data =>
      cases htime : parseTimestamp (record.get timestampKey) with
      | error e =>
          refine addKey_of_bad_time hc hdata htime fun t => ?_
          unfold storeKey
          rw [canonicalTimestamp, htime]
          rfl
      | ok time =>
          cases hexpires : parseTimestamp (.timestamp data.expiresAt) with
          | error e =>
              refine addKey_of_bad_time hc hdata hexpires fun t => ?_
              unfold storeKey
              rw [result_after_check (canonicalTimestamp_of_parseTimestamp htime), hexpires]
              rfl
          | ok expiresAt =>
              refine addKey_of_broken hc hdata htime hexpires fun name key hname hkey => ?_
              obtain ⟨_, _, given⟩ := data
              cases hname
              cases hkey
              obtain ⟨hvalid, hname, hkey⟩ := checkKeyGrant_eq_ok_iff.mp hdata
              exact h name key given expiresAt ⟨hvalid, Text.allBlank_eq_false.mp hname,
                Text.allBlank_eq_false.mp hkey, ⟨time, htime⟩, normalize_eq_ok.mp hexpires⟩

end Ingest

namespace Ledger

/-- The grant of a key needs no key. -/
theorem add_key_eq {submission : Submission} (hrecord : unwrap submission = .ok record)
    (hkind : acceptedKind record writeKinds = .ok .addKey) (c : Conditions) (apiKey : Value)
    (t : Tables) :
    add c submission apiKey t =
      ((Ingest.addKey c record t).1.map some, (Ingest.addKey c record t).2) :=
  add_of_kind hrecord hkind c t

namespace Sample

/-- The grant of a key under a name, until the beginning of a year. -/
def granting (name : String) : Event :=
  ⟨Timestamp.first, .addKey ⟨name, "digest", Intake.Sample.eve⟩⟩

theorem unwrap_granting (name : String) :
    unwrap (.event (granting name)) = .ok (granting name).record := rfl

theorem acceptedKind_granting (name : String) :
    acceptedKind (granting name).record writeKinds = .ok .addKey := rfl

theorem payload_granting (name : String) :
    KeyGrantData.ofValue ((granting name).record.get dataKey)
      = .valid ⟨name, "digest", Intake.Sample.eve⟩ := rfl

theorem grants_granting {name : String} (h : ∃ x ∈ name.toList, Text.isBlank x = false) :
    Grants (granting name).record name "digest" Intake.Sample.eve Intake.Sample.newYear := by
  have htime : (granting name).record.get timestampKey = .timestamp Timestamp.first := rfl
  have hreported : parseTimestamp (.timestamp Timestamp.first) = .ok Timestamp.first :=
    normalize_universal (t := Timestamp.first) rfl
  have hexpires : Intake.Sample.eve.toUniversal? = some Intake.Sample.newYear := rfl
  have hkey : ∃ x ∈ "digest".toList, Text.isBlank x = false := ⟨'d', by decide, by decide⟩
  exact ⟨payload_granting name, h, hkey, ⟨_, htime ▸ hreported⟩, hexpires⟩

end Sample

/-- The grant of a key whose digest is half of a pair. -/
def Sample.halfDigest : Event :=
  ⟨Timestamp.first, .addKey ⟨"name", .broken Sample.half, Timestamp.first⟩⟩

end Ledger

end UsageLedger
