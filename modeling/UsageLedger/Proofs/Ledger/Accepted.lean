/-
Every accepted call posts what its records say.

A call is accepted when its checks pass and its transaction commits.  What the
transaction gives is read off step by step, and it is a posting that the tables admit
(`posts_of_accepted`).  A call that is not accepted has no posting and no effect, so a
run stores the postings of the calls that it accepts (`exists_postings`).
-/
import UsageLedger.Proofs.Intake.Wording
import UsageLedger.Proofs.Ledger.Atomicity
import UsageLedger.Proofs.Ledger.Posting

namespace UsageLedger

namespace Ingest

open Txn Repository Intake

variable {c : Conditions} {t t' : Tables}

/-! ### What the handlers post -/

/-- Users that are named by events which the tables take are there, whether or not they were added
just before. -/
theorem withUsers_of_takes {users : List UserId} {events : List EventRow}
    (hensured : t' = t ∨ t' = t.withUsers users) (htakes : ∀ e ∈ events, t'.Takes e)
    (hnamed : ∀ user ∈ users, ∃ e ∈ events, e.user = some user.toCell) :
    t' = t.withUsers users := by
  rcases hensured with rfl | rfl
  · have hcells : ∀ cell ∈ users.map UserId.toCell, cell ∈ t'.users := by
      intro cell hcell
      obtain ⟨user, huser, rfl⟩ := List.mem_map.mp hcell
      obtain ⟨e, he, hname⟩ := hnamed user huser
      exact (htakes e he).user _ hname
    unfold Tables.withUsers
    rw [foldl_addNew_of_subset hcells]
  · rfl

theorem gives_storeEvent (hc : c.Constrained) {user : UserId} {record : Record}
    {key : Option Uuid} {table : Table} {values : Record} {id : Uuid}
    (h : Gives (storeEvent c user record key table values) t id t') :
    ∃ time, canonicalTimestamp (record.get timestampKey) = .ok time ∧ Drawn c [id] ∧
      (t.withUsers [user]).Takes (Posting.event id time user key) ∧
      Engine.addRow c.scheme table
        { t.withUsers [user] with events := t.events ++ [Posting.event id time user key] }
        (table.mentioned (detailRow (.uuid id) values)) = .ok t' := by
  obtain ⟨_, t₁, huser, h⟩ := gives_of_bind h
  obtain ⟨time, htime, h⟩ := gives_after_check h
  obtain ⟨id', t₂, hevent, h⟩ := gives_of_bind h
  obtain ⟨_, t₃, hdetail, h⟩ := gives_of_bind h
  obtain ⟨rfl, rfl⟩ := gives_of_pure h
  obtain ⟨hdrawn, hevent⟩ := gives_insertEvent hc hevent
  obtain ⟨e, hrow, hadded⟩ := bind_eq_ok.mp hevent
  obtain rfl := eventRow_ok hrow
  obtain ⟨htakes, rfl⟩ := Tables.addEvent_ok (mapError_eq_ok.mp hadded)
  obtain rfl := withUsers_of_takes (gives_ensureUser hc huser)
    (List.forall_mem_singleton.mpr htakes)
    (List.forall_mem_singleton.mpr ⟨_, List.mem_singleton_self _, rfl⟩)
  exact ⟨time, htime, hdrawn, htakes, gives_insertDetail hc hdetail⟩

theorem gives_storeUsage (hc : c.Constrained) {records : List UsageRecord} {key id : Uuid}
    (h : Gives (storeUsage c records (some key)) t id t') :
    ∃ (groups : List UsageGroup) (ids : List Uuid), UsageGroup.aggregate records = .ok groups ∧
      ids.length = groups.length ∧ ids.head? = some id ∧ Drawn c ids ∧
      (Posting.usage ids key groups).Admitted t ∧ t' = t.post (Posting.usage ids key groups) := by
  obtain ⟨groups, hgroups, h⟩ := gives_after_check h
  obtain ⟨_, t₁, husers, h⟩ := gives_of_bind h
  obtain ⟨ids, t₂, hevents, h⟩ := gives_of_bind h
  obtain ⟨_, t₃, hdetails, h⟩ := gives_of_bind h
  -- the last step reads the first identifier back, or there is none and it raises
  have hhead : ids.head? = some id ∧ t' = t₃ := by
    cases ids with
    | nil => exact absurd h not_gives_throw
    | cons first ids =>
        obtain ⟨rfl, rfl⟩ := gives_of_pure h
        exact ⟨rfl, rfl⟩
  obtain ⟨hhead, rfl⟩ := hhead
  obtain ⟨hlength, hdrawn, hevents⟩ := gives_insertEvents hc hevents
  rw [List.length_map] at hlength
  obtain ⟨es, hrows, htakes, hnodup, rfl⟩ := Engine.addEvents_ok hevents
  obtain ⟨ds, hdrows, rfl⟩ := Engine.addTokenUsages_ok (gives_insertDetails hc hdetails)
  have hes : es = List.zipWith (Posting.groupEvent key) ids groups := by
    rw [List.zipWith_map_left, List.map_zipWith, List.zipWith_comm] at hrows
    exact eq_zipWith_of_forall₂ hrows eventRow_ok
  have hds : ds = List.zipWith Posting.groupRow ids groups := by
    rw [List.map_zipWith] at hdrows
    exact eq_zipWith_of_forall₂ hdrows tokenUsageRow_ok
  have husers' : groups.map (·.user.toValue) = (groups.map (·.user)).map UserId.toValue := by
    rw [List.map_map]
    rfl
  rw [husers'] at husers
  rw [hes] at htakes hnodup
  obtain rfl := withUsers_of_takes (gives_ensureUsers hc husers) htakes
    fun user => Posting.usage_named hlength
  refine ⟨groups, ids, hgroups, hlength, hhead, hdrawn, ⟨htakes, hnodup, .inl rfl⟩, ?_⟩
  rw [hes, hds]
  simp [Tables.post, Posting.usage, Tables.withUsers]

/-- Only a name and a key that are runs of characters are stored. -/
theorem gives_storeKey (hc : c.Constrained) {record : Record} {data : KeyGrantData} {id : Uuid}
    (h : Gives (storeKey c record data) t id t') :
    ∃ (name key : String) (given expiresAt : Timestamp), data = ⟨name, key, given⟩ ∧
      parseTimestamp (.timestamp given) = .ok expiresAt ∧
      t.addApiKey ⟨id, .text name, .text key, expiresAt.withoutOffset, false⟩ = .ok t' := by
  obtain ⟨_, -, h⟩ := gives_after_check h
  obtain ⟨expiresAt, hexpires, h⟩ := gives_after_check h
  obtain ⟨row, hrow, hadded⟩ := bind_eq_ok.mp (gives_insertApiKey hc h)
  rcases data with ⟨name | _, key | _, given⟩ <;> cases hrow
  exact ⟨name, key, given, expiresAt, rfl, hexpires, mapError_eq_ok.mp hadded⟩

/-! ### Around transactions -/

theorem checked_ok {α β : Type} {check : Except Raised α} {next : α → Except Raised β × Tables}
    {b : β} (h : checked check t next = (.ok b, t')) :
    ∃ a, check = .ok a ∧ next a = (.ok b, t') := by
  cases check with
  | error e => cases h
  | ok a => exact ⟨a, rfl, h⟩

theorem ofFailure_ok {α : Type} {x : Except Failure α} {a : α} :
    Raised.ofFailure x = .ok a ↔ x = .ok a := mapError_eq_ok

theorem gives_of_writeTransaction {α : Type} {description : String} {body : Txn α} {a : α}
    (h : writeTransaction c description body t = (.ok a, t')) : Gives body t a t' := by
  unfold writeTransaction at h
  obtain ⟨houtcome, htables⟩ := Prod.mk.inj h
  exact gives_of_run (Prod.ext (mapError_eq_ok.mp houtcome) htables)

theorem storeSingle_ok (hc : c.Constrained) {kind : EventKind} {user : UserId} {record : Record}
    {apiKey : Value} {table : Table} {values : Record} {id : Uuid}
    (h : storeSingle c kind user record apiKey table values t = (.ok id, t')) :
    ∃ key time, readApiKeyId apiKey = .ok key ∧
      canonicalTimestamp (record.get timestampKey) = .ok time ∧ Drawn c [id] ∧
      (t.withUsers [user]).Takes (Posting.event id time user key) ∧
      Engine.addRow c.scheme table
        { t.withUsers [user] with events := t.events ++ [Posting.event id time user key] }
        (table.mentioned (detailRow (.uuid id) values)) = .ok t' := by
  obtain ⟨key, hkey, h⟩ := checked_ok h
  obtain ⟨time, htime, hstored⟩ := gives_storeEvent hc (gives_of_writeTransaction h)
  exact ⟨key, time, parseApiKeyId_eq_ok.mp hkey, htime, hstored⟩

/-- The key of a call that has to bring one. -/
theorem readApiKeyId_present {apiKey : Value} {key : Option Uuid}
    (hpresent : apiKey.isPresent = true) (h : readApiKeyId apiKey = .ok key) :
    ∃ k, key = some k := by
  unfold readApiKeyId at h
  split at h
  · cases hpresent
  · cases h
    exact ⟨_, rfl⟩
  · split at h <;> cases h
    exact ⟨_, rfl⟩

end Ingest

namespace Ledger

open Intake

variable {c : Conditions} {t t' : Tables}

theorem admitted_single {p : Posting} {e : EventRow} (hevents : p.events = [e])
    (hkeys : p.apiKeys = []) (h : (t.withUsers p.users).Takes e) : p.Admitted t where
  events := by simpa [hevents] using h
  nodup := by simp [hevents]
  apiKeys := .inl hkeys

theorem posts_of_addSdkCall (hc : c.Constrained) {submission : Submission} {record : Record}
    {apiKey : Value} {id : Uuid} (hrecord : unwrap submission = .ok record)
    (hkind : acceptedKind record writeKinds = .ok .sdkCall) (hpresent : apiKey.isPresent = true)
    (h : Ingest.addSdkCall c record apiKey t = (.ok id, t')) :
    ∃ p, Posts c.scheme (.add submission apiKey) (some id) p ∧ p.Admitted t ∧
      Txn.Drawn c (p.events.map (·.id)) ∧ t' = t.post p := by
  obtain ⟨⟨user, data⟩, hchecked, h⟩ := Ingest.checked_ok h
  obtain ⟨key, time, hkey, htime, hdrawn, htakes, hdetail⟩ := Ingest.storeSingle_ok hc h
  obtain ⟨key, rfl⟩ := Ingest.readApiKeyId_present hpresent hkey
  obtain ⟨row, hrow, hadded⟩ := bind_eq_ok.mp hdetail
  obtain ⟨rfl, -⟩ := sdkCallRow_ok hrow
  obtain rfl := Tables.addSdkCall_ok (mapError_eq_ok.mp hadded)
  refine ⟨_, .sdkCall hrecord hkind hchecked hkey htime, admitted_single rfl rfl htakes, hdrawn, ?_⟩
  simp [Tables.post, Posting.sdkCall, Tables.withUsers]

theorem posts_of_addPayment (hc : c.Constrained) {submission : Submission} {record : Record}
    {apiKey : Value} {id : Uuid} (hrecord : unwrap submission = .ok record)
    (hkind : acceptedKind record writeKinds = .ok .payment)
    (h : Ingest.addPayment c record apiKey t = (.ok id, t')) :
    ∃ p, Posts c.scheme (.add submission apiKey) (some id) p ∧ p.Admitted t ∧
      Txn.Drawn c (p.events.map (·.id)) ∧ t' = t.post p := by
  obtain ⟨⟨user, data⟩, hchecked, h⟩ := Ingest.checked_ok h
  obtain ⟨key, time, hkey, htime, hdrawn, htakes, hdetail⟩ := Ingest.storeSingle_ok hc h
  obtain ⟨row, hrow, hadded⟩ := bind_eq_ok.mp hdetail
  obtain ⟨rfl, hfits⟩ := paymentRow_ok hrow
  obtain rfl := Tables.addPayment_ok (mapError_eq_ok.mp hadded)
  refine ⟨_, .payment hrecord hkind hchecked hkey htime hfits,
    admitted_single rfl rfl htakes, hdrawn, ?_⟩
  simp [Tables.post, Posting.payment, Tables.withUsers]

theorem posts_of_addKey (hc : c.Constrained) {submission : Submission} {record : Record}
    {apiKey : Value} {id : Uuid} (hrecord : unwrap submission = .ok record)
    (hkind : acceptedKind record writeKinds = .ok .addKey)
    (h : Ingest.addKey c record t = (.ok id, t')) :
    ∃ p, Posts c.scheme (.add submission apiKey) (some id) p ∧ p.Admitted t ∧
      Txn.Drawn c (p.events.map (·.id)) ∧ t' = t.post p := by
  obtain ⟨data, hdata, h⟩ := Ingest.checked_ok h
  obtain ⟨name, key, given, expiresAt, rfl, hexpires, hadded⟩ :=
    Ingest.gives_storeKey hc (Ingest.gives_of_writeTransaction h)
  obtain ⟨hkey, hname, rfl⟩ := Tables.addApiKey_ok hadded
  refine ⟨_, .grant hrecord hkind (Ingest.ofFailure_ok.mp hdata) hexpires,
    ⟨by simp, by simp, .inr ⟨_, rfl, hname, hkey⟩⟩, by simp [Txn.Drawn], ?_⟩
  simp [Tables.post, Tables.withUsers]

theorem posts_of_addUsage (hc : c.Constrained) {call : Call} {records : List Record}
    {o : Option Uuid} (hdelivers : Delivers call records)
    (hpresent : call.apiKey.isPresent = true)
    (h : Ingest.addUsage c records call.apiKey t = (.ok o, t')) :
    ∃ p, Posts c.scheme call o p ∧ p.Admitted t ∧ Txn.Drawn c (p.events.map (·.id)) ∧
      t' = t.post p := by
  unfold Ingest.addUsage at h
  split at h
  -- a delivery of nothing posts nothing
  · next hnone =>
      obtain rfl := List.isEmpty_iff.mp hnone
      cases h
      have hposts : Posts c.scheme call ([] : List Uuid).head? (Posting.usage [] default []) :=
        .usage hdelivers rfl rfl rfl (.inl rfl)
      refine ⟨_, hposts, ⟨by simp [Posting.usage], by simp [Posting.usage], .inl rfl⟩,
        by simp [Txn.Drawn, Posting.usage], ?_⟩
      simp [Tables.post, Posting.usage, Tables.withUsers]
  · obtain ⟨usage, husage, h⟩ := Ingest.checked_ok h
    obtain ⟨key, hkey, h⟩ := Ingest.checked_ok h
    obtain ⟨key, rfl⟩ := Ingest.readApiKeyId_present hpresent (parseApiKeyId_eq_ok.mp hkey)
    obtain ⟨houtcome, htables⟩ := Prod.mk.inj h
    obtain ⟨id, hid, rfl⟩ := map_eq_ok.mp houtcome
    obtain ⟨groups, ids, hgroups, hlength, hhead, hdrawn, hadmitted, htables⟩ :=
      Ingest.gives_storeUsage hc (Ingest.gives_of_writeTransaction (Prod.ext hid htables))
    refine ⟨_, ?_, hadmitted, ?_, htables⟩
    · rw [← hhead]
      exact .usage hdelivers husage hgroups hlength (.inr (parseApiKeyId_eq_ok.mp hkey))
    · rw [Posting.usage_event_ids hlength]
      exact hdrawn

theorem accept_ok {depth : Nat} {submission : Submission} {apiKey : Value} {kind : EventKind}
    {record : Record} (h : accept depth submission apiKey = .ok (kind, record)) :
    unwrap submission = .ok record ∧ acceptedKind record writeKinds = .ok kind ∧
      (kind.needsApiKey = true → apiKey.isPresent = true) := by
  obtain ⟨record', hrecord, h⟩ := bind_eq_ok.mp h
  obtain ⟨kind', hkind, h⟩ := bind_eq_ok.mp h
  split at h
  · cases h
  · next hneeds =>
      cases h
      exact ⟨hrecord, resolveKind_eq_ok.mp hkind, by simpa using hneeds⟩

/-- What has a kind that is written is accepted, unless it lacks the key that its kind needs. -/
theorem accept_of_kind {depth : Nat} {submission : Submission} {apiKey : Value} {kind : EventKind}
    {record : Record} (hrecord : unwrap submission = .ok record)
    (hkind : acceptedKind record writeKinds = .ok kind) :
    accept depth submission apiKey
      = if kind.needsApiKey && !apiKey.isPresent then Raised.refuse .missingApiKey
        else .ok (kind, record) := by
  unfold accept
  rw [hrecord]
  show (resolveKind depth record writeKinds >>= fun kind => _) = _
  rw [resolveKind_eq_ok.mpr hkind]
  rfl

theorem add_of_kind {submission : Submission} {apiKey : Value} {kind : EventKind} {record : Record}
    (hrecord : unwrap submission = .ok record)
    (hkind : acceptedKind record writeKinds = .ok kind) (c : Conditions) (t : Tables) :
    add c submission apiKey t
      = if kind.needsApiKey && !apiKey.isPresent then (.error (.failure .missingApiKey), t)
        else write c kind record apiKey t := by
  unfold add
  rw [accept_of_kind hrecord hkind]
  split <;> rfl

theorem checkBatchable_eq_ok {depth : Nat} {record : Record} :
    checkBatchable depth record = .ok () ↔ acceptedKind record writeKinds = .ok .tokenUsage := by
  refine bind_eq_ok.trans ?_
  simp only [resolveKind_eq_ok]
  constructor
  · rintro ⟨kind, hkind, h⟩
    split at h
    · next husage => rw [hkind, husage]
    · cases h
  · exact fun hkind => ⟨_, hkind, rfl⟩

theorem acceptBatch_ok {depth : Nat} {submissions : List Submission} {apiKey : Value}
    {records : List Record} (h : acceptBatch depth submissions apiKey = .ok records) :
    Delivers (.addBatch submissions apiKey) records ∧ apiKey.isPresent = true := by
  obtain ⟨records', hrecords, h⟩ := bind_eq_ok.mp h
  obtain ⟨_, hkinds, h⟩ := bind_eq_ok.mp h
  split at h
  · next hpresent =>
      cases h
      exact ⟨.batch hrecords fun record hrecord =>
        checkBatchable_eq_ok.mp (forM_eq_ok.mp hkinds record hrecord), hpresent⟩
  · cases h

/-- Records of token usage are accepted together, unless there is no key. -/
theorem acceptBatch_of_kinds {depth : Nat} {submissions : List Submission} {apiKey : Value}
    {records : List Record} (hrecords : submissions.mapM unwrap = .ok records)
    (hkinds : ∀ record ∈ records, acceptedKind record writeKinds = .ok .tokenUsage) :
    acceptBatch depth submissions apiKey
      = if apiKey.isPresent then .ok records else Raised.refuse .missingApiKey := by
  have hbatchable : records.forM (checkBatchable depth) = .ok () :=
    forM_eq_ok.mpr fun record hrecord => checkBatchable_eq_ok.mpr (hkinds record hrecord)
  rw [acceptBatch, hrecords]
  show (records.forM (checkBatchable depth) >>= fun _ => _) = _
  rw [hbatchable]
  rfl

/-- **An accepted call posts what its records say** under identifiers that were drawn, and its
tables admit the posting. -/
theorem posts_of_accepted (hc : c.Constrained) {call : Call} {o : Option Uuid}
    (h : call.run c t = (.ok o, t')) :
    ∃ p, Posts c.scheme call o p ∧ p.Admitted t ∧ Txn.Drawn c (p.events.map (·.id)) ∧
      t' = t.post p := by
  cases call with
  | add submission apiKey =>
      obtain ⟨⟨kind, record⟩, haccept, h⟩ := Ingest.checked_ok h
      obtain ⟨hrecord, hkind, hneeds⟩ := accept_ok haccept
      cases kind with
      | sdkCall =>
          obtain ⟨id, hid, rfl⟩ := map_some_eq_ok h
          exact posts_of_addSdkCall hc hrecord hkind (hneeds rfl) hid
      | payment =>
          obtain ⟨id, hid, rfl⟩ := map_some_eq_ok h
          exact posts_of_addPayment hc hrecord hkind hid
      | tokenUsage => exact posts_of_addUsage hc (.single hrecord hkind) (hneeds rfl) h
      | addKey =>
          obtain ⟨id, hid, rfl⟩ := map_some_eq_ok h
          exact posts_of_addKey hc hrecord hkind hid
      | requestSdkCall | requestTokenUsage | requestPayment => cases h
  | addBatch submissions apiKey =>
      obtain ⟨records, haccept, h⟩ := Ingest.checked_ok h
      obtain ⟨hdelivers, hpresent⟩ := acceptBatch_ok haccept
      exact posts_of_addUsage hc hdelivers hpresent h

/-! ### Runs -/

variable {scheme : IdScheme}

/-- Postings that tables admit one after the other. -/
def AdmittedAll : List Posting → Tables → Prop
  | [], _ => True
  | p :: ps, t => p.Admitted t ∧ AdmittedAll ps (t.post p)

/-- **A run stores one posting for each call that it accepts**, and nothing else. -/
theorem exists_postings (scheme : IdScheme) (calls : List (Circumstances × Call)) (t : Tables) :
    ∃ ps, List.Forall₂ (fun call p => ∃ o, Posts scheme call o p) (accepted scheme calls t) ps ∧
      AdmittedAll ps t ∧ runCalls scheme calls t = ps.foldl Tables.post t := by
  induction calls generalizing t with
  | nil => exact ⟨[], .nil, trivial, rfl⟩
  | cons call calls ih =>
      rcases hcall : outcome scheme call t with ⟨e | o, t₁⟩
      · -- the call leaves the tables as they were, so the rest of the run starts from them
        obtain rfl := outcome_error hcall
        obtain ⟨ps, hposts, hadmitted, hrun⟩ := ih t₁
        refine ⟨ps, ?_, hadmitted, ?_⟩
        · rw [accepted, hcall]
          exact hposts
        · rw [runCalls, hcall]
          exact hrun
      · obtain ⟨p, hp, hpt, -, rfl⟩ := posts_of_accepted (call.1.constrained scheme) hcall
        obtain ⟨ps, hposts, hadmitted, hrun⟩ := ih (t.post p)
        refine ⟨p :: ps, ?_, ⟨hpt, hadmitted⟩, ?_⟩
        · rw [accepted, hcall]
          exact .cons ⟨o, hp⟩ hposts
        · rw [runCalls, hcall]
          exact hrun

end Ledger

end UsageLedger
