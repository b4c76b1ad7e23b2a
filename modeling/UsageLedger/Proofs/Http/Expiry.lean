/-
A key expires at the instant it was granted until.

The column that keeps the expiry of a key has no offset, so the time is brought into
universal time when it is written and taken for universal time when it is read: the instant
comes back whatever the offset was (`Intake.instant_of_normalize`).  What happens after the
grant does not reach the row: postings come behind it, and a revocation touches the rows of
one name only (`activeKey?_runActs`).  So the raw key of the digest opens the row up to and
including that instant, and is told that it has expired from then on (`expiry_kept`).
-/
import UsageLedger.Proofs.Http.Authorisation
import UsageLedger.Proofs.Intake.Timestamp

namespace UsageLedger

/-! ### The row that is found -/

/-- What is found first is still found when everything is changed, if it stays as it is and nothing
is found that was not before. -/
theorem find?_map_of_eq_some {α : Type} {p : α → Bool} {f : α → α} {l : List α} {a : α}
    (hf : ∀ x, p (f x) = true → p x = true) (ha : f a = a) (h : l.find? p = some a) :
    (l.map f).find? p = some a := by
  obtain ⟨hpa, before, after, rfl, hbefore⟩ := List.find?_eq_some_iff_append.mp h
  refine List.find?_eq_some_iff_append.mpr ⟨hpa, before.map f, after.map f, ?_, ?_⟩
  · rw [List.map_append, List.map_cons, ha]
  · intro y hy
    obtain ⟨x, hx, rfl⟩ := List.mem_map.mp hy
    have hnot : p x = false := by simpa using hbefore x hx
    cases hy : p (f x) with
    | false => rfl
    | true => rw [hf x hy] at hnot; cases hnot

namespace Tables

variable {t : Tables} {digest : String} {row : ApiKeyRow}

/-- Rows that come behind the one that is found do not count. -/
theorem activeKey?_post (h : t.activeKey? digest = some row) (p : Posting) :
    (t.post p).activeKey? digest = some row := by
  unfold activeKey? at h ⊢
  show (t.apiKeys ++ p.apiKeys).find? _ = some row
  rw [List.find?_append, h, Option.some_or]

/-- A new row is found by its digest if no other has it. -/
theorem activeKey?_new (hkey : row.key = .text digest) (hactive : row.revoked = false)
    (hnew : row.key ∉ t.apiKeys.map (·.key)) :
    (t.post { apiKeys := [row] }).activeKey? digest = some row := by
  have hnone : t.activeKey? digest = none := by
    refine List.find?_eq_none.mpr fun other hother => ?_
    have hne : other.key ≠ .text digest := fun hsame =>
      hnew (hkey ▸ hsame ▸ List.mem_map_of_mem hother)
    simp [hne]
  unfold activeKey? at hnone ⊢
  show (t.apiKeys ++ [row]).find? _ = some row
  rw [List.find?_append, hnone, Option.none_or]
  simp [hkey, hactive]

/-- A row is found until the keys of its name are revoked. -/
theorem activeKey?_revoke {name : Cell} (h : t.activeKey? digest = some row)
    (hname : row.name ≠ name.asText) : (t.revoke name).activeKey? digest = some row := by
  refine find?_map_of_eq_some (fun other hcounts => ?_) (if_neg hname) h
  split at hcounts
  · simp at hcounts
  · exact hcounts

end Tables

namespace Http

open Ledger Intake

variable {scheme : IdScheme} {t : Tables}

/-- A request that shows a raw key is identified by the row that is found by its digest, unless the
row has expired. -/
theorem Service.authenticate_of_activeKey {s : Service} {request : Request} {raw : String}
    {row : ApiKeyRow} (hshown : (request.header? "authorization").bind Access.bearer? = some raw)
    (h : t.activeKey? (Digest.sha256Hex raw) = some row) :
    s.authenticate request t
      = if row.expiresAt.instant < s.clock.instant then .error .expiredKey else .ok row.id := by
  have hresolve : Access.resolve t s.clock raw
      = if row.expiresAt.instant < s.clock.instant then .error .expired else .ok row.id := by
    rw [Access.resolve, h]
  unfold authenticate
  rw [hshown]
  by_cases hexpired : row.expiresAt.instant < s.clock.instant
  · simp only [hresolve, if_pos hexpired]
  · simp only [hresolve, if_neg hexpired]

/-! ### After the grant -/

/-- What can happen to the tables revokes keys of a name, does nothing, or adds a posting. -/
theorem Act.run_cases (act : Act) (t : Tables) :
    (∃ name, act = .revoke name) ∨ act.run scheme t = t ∨
      ∃ p : Posting, p.Admitted t ∧ act.run scheme t = t.post p := by
  have hcall : ∀ (k : Circumstances) (call : Call), (outcome scheme (k, call) t).2 = t ∨
      ∃ p : Posting, p.Admitted t ∧ (outcome scheme (k, call) t).2 = t.post p := by
    intro k call
    rcases hrun : outcome scheme (k, call) t with ⟨e | o, t'⟩
    · exact .inl (outcome_error hrun)
    · obtain ⟨p, -, hadmitted, -, rfl⟩ := posts_of_accepted (k.constrained scheme) hrun
      exact .inr ⟨p, hadmitted, rfl⟩
  cases act with
  | call k call => exact .inr (hcall k call)
  | request s k request =>
      rcases Service.answer_makes (s.onSqlite scheme k) request t with hsame | ⟨call, -, hmade⟩
      · exact .inr (.inl hsame)
      · rcases hcall k call with hsame | ⟨p, hadmitted, hpost⟩
        · exact .inr (.inl (hmade.trans hsame))
        · exact .inr (.inr ⟨p, hadmitted, hmade.trans hpost⟩)
  | revoke name => exact .inl ⟨name, rfl⟩

theorem activeKey?_act {digest : String} {row : ApiKeyRow} (act : Act)
    (hkept : ∀ name, act = .revoke name → row.name ≠ name.asText)
    (h : t.activeKey? digest = some row) : (act.run scheme t).activeKey? digest = some row := by
  rcases act.run_cases t with ⟨name, rfl⟩ | hsame | ⟨p, -, hpost⟩
  · exact Tables.activeKey?_revoke h (hkept name rfl)
  · rw [hsame]
    exact h
  · rw [hpost]
    exact Tables.activeKey?_post h p

/-- **A row that is found by its digest is found after any history** that does not revoke it. -/
theorem activeKey?_runActs {digest : String} {row : ApiKeyRow} (acts : List Act)
    (hkept : ∀ name, .revoke name ∈ acts → row.name ≠ name.asText)
    (h : t.activeKey? digest = some row) :
    (runActs scheme acts t).activeKey? digest = some row := by
  induction acts generalizing t with
  | nil => exact h
  | cons act acts ih =>
      refine ih (fun name hmem => hkept name (List.mem_cons_of_mem _ hmem)) ?_
      exact activeKey?_act act (fun name hact => hkept name (hact ▸ List.mem_cons_self)) h

/-! ### The instant of expiry -/

/-- The posting of a grant is one row.  It is found by its digest, and expires at the instant that
the grant says. -/
theorem exists_row_of_posts {submission : Submission} {apiKey : Value} {o : Option Uuid}
    {p : Posting} {record : Record} {data : KeyGrantData}
    (hrecord : unwrap submission = .ok record)
    (hkind : acceptedKind record writeKinds = .ok .addKey)
    (hdata : KeyGrantData.ofValue (record.get dataKey) = .valid data)
    (hp : Posts scheme (.add submission apiKey) o p) (hadmitted : p.Admitted t) :
    ∃ (row : ApiKeyRow) (name key : String), data.name = name ∧ data.key = key ∧
      p = { apiKeys := [row] } ∧ o = some row.id ∧
      (t.post p).activeKey? key = some row ∧ row.name = .text name ∧
      row.key = .text key ∧ row.revoked = false ∧ row.expiresAt.offset = none ∧
      row.expiresAt.instant = data.expiresAt.instant := by
  have hgrants : ∀ {record' kind}, unwrap submission = .ok record' →
      acceptedKind record' writeKinds = .ok kind → record' = record ∧ kind = .addKey := by
    intro record' kind hrecord' hkind'
    cases hrecord.symm.trans hrecord'
    exact ⟨rfl, Except.ok.inj (hkind'.symm.trans hkind)⟩
  cases hp with
  | grant hrecord' hkind' hchecked hexpires =>
      obtain ⟨rfl, -⟩ := hgrants hrecord' hkind'
      cases hdata.symm.trans (Ingest.checkKeyGrant_ok hchecked).1
      refine ⟨_, _, _, rfl, rfl, rfl, rfl, Tables.activeKey?_new rfl rfl ?_, rfl, rfl, rfl, rfl,
        instant_of_normalize hexpires⟩
      rcases hadmitted.apiKeys with hnone | ⟨row, hrow, -, hnew⟩
      · cases hnone
      · cases hrow
        exact hnew
  | sdkCall hrecord' hother => cases (hgrants hrecord' hother).2
  | payment hrecord' hother => cases (hgrants hrecord' hother).2
  | usage hdelivers =>
      cases hdelivers with
      | single hrecord' hother => cases (hgrants hrecord' hother).2

/-- **A key expires at the instant it was granted until, whatever offset that was written with.**
An accepted grant tells the identifier of a key whose column keeps the instant without its offset.
After any history that does not revoke the key, a request that shows a raw key of the digest is
identified by it up to and including that instant, and is told after it, with status 401, that the
key has expired. -/
theorem expiry_kept {k : Circumstances} {submission : Submission} {apiKey : Value}
    {o : Option Uuid} {t' : Tables} {record : Record} {data : KeyGrantData} {raw : String}
    {acts : List Act}
    (hrecord : unwrap submission = .ok record)
    (hkind : acceptedKind record writeKinds = .ok .addKey)
    (hdata : KeyGrantData.ofValue (record.get dataKey) = .valid data)
    (haccepted : outcome scheme (k, .add submission apiKey) t = (.ok o, t'))
    (hdigest : data.key = Digest.sha256Hex raw)
    (hkept : ∀ name, .revoke name ∈ acts →
      ∀ granted : String, data.name = granted → Cell.text granted ≠ name.asText) :
    ∃ row : ApiKeyRow, o = some row.id ∧ row ∈ (runActs scheme acts t').apiKeys ∧
      row.expiresAt.offset = none ∧ row.expiresAt.instant = data.expiresAt.instant ∧
      ∀ (s : Service) (request : Request),
        (request.header? "authorization").bind Access.bearer? = some raw →
        (s.clock.instant ≤ data.expiresAt.instant →
          s.authenticate request (runActs scheme acts t') = .ok row.id) ∧
        (data.expiresAt.instant < s.clock.instant →
          ∃ problem, s.authenticate request (runActs scheme acts t') = .error problem ∧
            problem.status = 401 ∧ problem.detail = .text "API key has expired") := by
  obtain ⟨p, hp, hadmitted, -, rfl⟩ := posts_of_accepted (k.constrained scheme) haccepted
  obtain ⟨row, granted, key, hgranted, hkey, -, ho, hfound, hname, -, -, hoffset, hinstant⟩ :=
    exists_row_of_posts hrecord hkind hdata hp hadmitted
  obtain rfl : key = Digest.sha256Hex raw := AnyText.whole.inj (hkey.symm.trans hdigest)
  have hlater : (runActs scheme acts (t.post p)).activeKey? (Digest.sha256Hex raw) = some row :=
    activeKey?_runActs acts (fun name hmem => hname ▸ hkept name hmem granted hgranted) hfound
  refine ⟨row, ho, List.mem_of_find?_eq_some hlater, hoffset, hinstant, fun s request hshown => ?_⟩
  have hasked := Service.authenticate_of_activeKey (s := s) hshown hlater
  rw [hinstant] at hasked
  constructor
  · intro hcurrent
    rw [hasked, if_neg (not_lt.mpr hcurrent)]
  · intro hexpired
    rw [hasked, if_pos hexpired]
    exact ⟨_, rfl, rfl, rfl⟩

namespace Sample

/-- One in the morning of New Year's Day 2024, on a clock two and a half hours ahead. -/
def newYear : Timestamp :=
  ⟨63839667600000000, some 9000000000, by decide, by
    intro o ho
    obtain rfl : 9000000000 = o := by simpa using ho
    decide⟩

/-- A key is granted until then. -/
def grantUntil : Submission :=
  .event ⟨Timestamp.first, .addKey ⟨"second", Digest.sha256Hex "msk_second", newYear⟩⟩

/-- A request with the raw key of the grant. -/
def showing : Request :=
  ⟨"GET", "/v1/users/7/price", [("Authorization", "Bearer msk_second")], []⟩

/-- A service whose clock shows a time on New Year's Eve, so many microseconds after half past ten
in the evening of universal time. -/
def serviceAt (n : Fin 1000) : Service :=
  { service with clock := ⟨63839658600000000 + n, some 0, by
      show 63839658600000000 + (n : Nat) < 315537897600000000
      omega, Timestamp.first.offset_lt⟩ }

end Sample

theorem expiry_kept_sample :
    let granted := outcome .bigint (.quiet 1, .add Sample.grantUntil .null) Tables.empty
    let t := runActs .bigint [.call (.quiet 2) Ledger.Sample.grant.2, .revoke (.text "key")]
      granted.2
    (Sample.serviceAt 0).authenticate Sample.showing t = .ok (Uuid.ofNat 1) ∧
      ∃ problem, (Sample.serviceAt 1).authenticate Sample.showing t = .error problem ∧
        problem.status = 401 := by
  intro granted t
  have htold : granted.1.toOption = some (some (Uuid.ofNat 1)) := by decide +kernel
  have haccepted : granted = (.ok (some (Uuid.ofNat 1)), granted.2) := by
    rcases granted with ⟨e | o, t'⟩
    · cases htold
    · cases htold
      rfl
  have hkept : ∀ name : Cell, Act.revoke name ∈
      [.call (.quiet 2) Ledger.Sample.grant.2, .revoke (.text "key")] →
      ∀ granted : String, AnyText.whole "second" = granted → Cell.text granted ≠ name.asText := by
    rintro name hname granted hgranted
    obtain rfl : name = .text "key" := by simpa using hname
    cases hgranted
    decide
  obtain ⟨row, hrow, -, -, -, h⟩ := expiry_kept rfl rfl rfl haccepted rfl hkept
  rw [← Option.some.inj hrow] at h
  have hshown : (Sample.showing.header? "authorization").bind Access.bearer?
      = some "msk_second" := by decide
  refine ⟨(h (Sample.serviceAt 0) Sample.showing hshown).1 (by decide), ?_⟩
  obtain ⟨problem, hrefused, hstatus, -⟩ :=
    (h (Sample.serviceAt 1) Sample.showing hshown).2 (by decide)
  exact ⟨problem, hrefused, hstatus⟩

end Http

end UsageLedger
