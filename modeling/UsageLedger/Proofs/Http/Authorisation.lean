/-
Who can change the tables through requests.

A history is any sequence of calls of the ledger, requests and revocations, and keeps the
tables consistent (`consistent_runActs`); in consistent tables no two keys have the same
digest, so a raw key opens one row at most (`Access.opens_of_resolve`).  A request changes the
tables by a call that it makes (`Service.answer_makes`), and what an accepted call stores is
a posting: one with a key stores events under this key and no other key, and the
operator's call stores a key and nothing else (`changes_authorised`).
-/
import UsageLedger.Proofs.Http.Requests
import UsageLedger.Proofs.Ledger.Consistency
import UsageLedger.Proofs.Ledger.Pricing

namespace UsageLedger

/-! ### Postings of calls with a key -/

namespace Posts

open Ledger Intake

variable {scheme : IdScheme} {call : Call} {o : Option Uuid} {p : Posting} {e : Event}
  {apiKey : Value}

/-- Every event of a posting has the key that the call brought. -/
theorem event_apiKey {key : Uuid} (h : Posts scheme call o p) (hkey : call.apiKey = .uuid key) :
    ∀ event ∈ p.events, event.apiKey = some key := by
  cases h with
  | sdkCall _ _ _ hparsed =>
      change _ = Value.uuid key at hkey
      subst hkey
      cases hparsed
      exact List.forall_mem_singleton.mpr rfl
  | payment _ _ _ hparsed =>
      change _ = Value.uuid key at hkey
      subst hkey
      cases hparsed
      exact List.forall_mem_singleton.mpr rfl
  | usage _ husage hgroups hlength hparsed =>
      intro event hevent
      obtain ⟨id, -, g, hg, rfl⟩ := exists_of_mem_zipWith hevent
      rcases hparsed with rfl | hparsed
      · cases husage
        cases hgroups
        cases hg
      · rw [hkey] at hparsed
        cases hparsed
        rfl
  | grant => exact fun event hevent => absurd hevent List.not_mem_nil

/-- The record of an event is of the kind of the event. -/
theorem kind_of_record {kind : EventKind} {record : Record}
    (hrecord : unwrap (.event e) = .ok record) (h : acceptedKind record writeKinds = .ok kind) :
    kind = e.kind := by
  cases hrecord
  have hgiven : Event.kindOf? (e.record.get Event.typeKey) = some e.kind :=
    EventKind.ofName?_name e.kind
  exact Option.some.inj ((acceptedKind_eq_ok.mp h).1.symm.trans hgiven)

theorem apiKeys_event (h : Posts scheme (.add (.event e) apiKey) o p) (hkind : e.kind ≠ .addKey) :
    p.apiKeys = [] := by
  cases h with
  | grant hrecord hgrant => exact absurd (kind_of_record hrecord hgrant).symm hkind
  | sdkCall | payment | usage => rfl

theorem apiKeys_batch {submissions : List Submission}
    (h : Posts scheme (.addBatch submissions apiKey) o p) : p.apiKeys = [] := by
  cases h with
  | usage => rfl

/-- The grant of a key stores this key, not revoked, and nothing else. -/
theorem posting_grant (h : Posts scheme (.add (.event e) apiKey) o p) (hkind : e.kind = .addKey) :
    ∃ row, row.revoked = false ∧ p = { apiKeys := [row] } := by
  cases h with
  | grant => exact ⟨_, rfl, rfl⟩
  | sdkCall hrecord hother => exact absurd ((kind_of_record hrecord hother).trans hkind) (by decide)
  | payment hrecord hother => exact absurd ((kind_of_record hrecord hother).trans hkind) (by decide)
  | usage hdelivers =>
      cases hdelivers with
      | single hrecord hother =>
          exact absurd ((kind_of_record hrecord hother).trans hkind) (by decide)

end Posts

/-! ### The row that a raw key opens -/

/-- The row is the only one with the digest of a raw key, was not revoked and has not expired. -/
structure ApiKeyRow.Opens (row : ApiKeyRow) (raw : String) (t : Tables) (clock : Timestamp) :
    Prop where
  only : t.apiKeys.filter (fun other => other.key = .text (Digest.sha256Hex raw)) = [row]
  active : row.revoked = false
  current : ¬ row.expiresAt.instant < clock.instant

/-- Of rows that differ in a column, one alone has what a given one has in it. -/
theorem filter_eq_singleton {α β : Type} [DecidableEq β] {f : α → β} {l : List α} {a : α}
    (hnodup : (l.map f).Nodup) (ha : a ∈ l) : l.filter (fun x => f x = f a) = [a] := by
  induction l with
  | nil => cases ha
  | cons first l ih =>
      rw [List.map_cons, List.nodup_cons] at hnodup
      rcases List.mem_cons.mp ha with rfl | hrest
      · rw [List.filter_cons_of_pos (by simp), List.filter_eq_nil_iff.mpr]
        intro x hx hsame
        exact hnodup.1 (of_decide_eq_true hsame ▸ List.mem_map_of_mem hx)
      · have hne : f first ≠ f a := fun hsame => hnodup.1 (hsame ▸ List.mem_map_of_mem hrest)
        rw [List.filter_cons_of_neg (by simpa using hne), ih hnodup.2 hrest]

/-- A raw key that is accepted opens a row. -/
theorem Access.opens_of_resolve {t : Tables} {clock : Timestamp} {raw : String} {id : Uuid}
    (hdigests : (t.apiKeys.map (·.key)).Nodup) (h : resolve t clock raw = .ok id) :
    ∃ row : ApiKeyRow, row.Opens raw t clock ∧ row.id = id := by
  unfold resolve at h
  split at h
  · cases h
  · next row hfound =>
      split at h
      · cases h
      · next hcurrent =>
          cases h
          have hrow : row.key = .text (Digest.sha256Hex raw) ∧ row.revoked = false := by
            simpa using List.find?_some hfound
          refine ⟨row, ⟨?_, hrow.2, hcurrent⟩, rfl⟩
          rw [← hrow.1]
          exact filter_eq_singleton hdigests (List.mem_of_find?_eq_some hfound)

namespace Http

open Ledger

/-! ### Histories -/

/-- The service on an SQLite database. -/
def Service.onSqlite (s : Service) (scheme : IdScheme) (k : Circumstances) : Service :=
  { s with conditions := k.onSqlite scheme }

/-- What can happen to the tables. -/
inductive Act
  | call (k : Circumstances) (call : Call)
  | request (s : Service) (k : Circumstances) (request : Request)
  /-- The key with a name is revoked. -/
  | revoke (name : Cell)

/-- The tables after something has happened. -/
def Act.run (scheme : IdScheme) (t : Tables) : Act → Tables
  | .call k made => (outcome scheme (k, made) t).2
  | .request s k asked => ((s.onSqlite scheme k).answer asked t).2
  | .revoke name => t.revoke name

/-- The tables after a history. -/
def runActs (scheme : IdScheme) (acts : List Act) (t : Tables) : Tables :=
  acts.foldl (Act.run scheme) t

end Http

/-- Revoking a key changes neither names nor digests of keys, and nothing else at all. -/
theorem Consistent.revoke {t : Tables} (ht : Consistent t) (name : Cell) :
    Consistent (t.revoke name) := by
  have hcolumn : ∀ {β : Type} (f : ApiKeyRow → β),
      (∀ row : ApiKeyRow, f { row with revoked := true } = f row) →
      (t.revoke name).apiKeys.map f = t.apiKeys.map f := by
    intro β f hf
    simp only [Tables.revoke, List.map_map]
    apply List.map_congr_left
    intro row _
    dsimp only [Function.comp]
    split
    · exact hf row
    · rfl
  refine { ht with apiKey := ?_, names := ?_, digests := ?_ }
  · intro e he key hkey
    obtain ⟨row, hrow, rfl⟩ := ht.apiKey e he key hkey
    apply List.mem_map.mp
    rw [hcolumn (·.id) fun _ => rfl]
    exact List.mem_map_of_mem hrow
  · rw [hcolumn (·.name) fun _ => rfl]
    exact ht.names
  · rw [hcolumn (·.key) fun _ => rfl]
    exact ht.digests

namespace Http

open Ledger

variable {scheme : IdScheme} {t : Tables}

theorem consistent_act (act : Act) (ht : Consistent t) : Consistent (act.run scheme t) := by
  cases act with
  | call k call => exact consistent_runCalls [(k, call)] ht
  | request s k request =>
      show Consistent ((s.onSqlite scheme k).answer request t).2
      rcases Service.answer_makes (s.onSqlite scheme k) request t with hsame | ⟨call, -, hcall⟩
      · rw [hsame]
        exact ht
      · rw [hcall]
        exact consistent_runCalls [(k, call)] ht
  | revoke name => exact ht.revoke name

theorem consistent_runActs (acts : List Act) (ht : Consistent t) :
    Consistent (runActs scheme acts t) := by
  induction acts generalizing t with
  | nil => exact ht
  | cons act acts ih => exact ih (consistent_act act ht)

/-! ### The two ways to change the tables -/

/-- A request with the raw key of a row reported events, and they have this key. -/
structure Service.ByKey (s : Service) (request : Request) (t t' : Tables) : Prop where
  asks : request.Asks "POST" ["", "v1", "events"] ∨
    request.Asks "POST" ["", "v1", "events", "batch"]
  key : ∃ (credential raw : String) (row : ApiKeyRow),
    request.header? "authorization" = some credential ∧ Access.bearer? credential = some raw ∧
      row.Opens raw t s.clock ∧
      ∃ added, t'.events = t.events ++ added ∧ ∀ e ∈ added, e.apiKey = some row.id
  apiKeys : t'.apiKeys = t.apiKeys

/-- A request with the token of the operator had a key made. -/
structure Service.ByOperator (s : Service) (request : Request) (t t' : Tables) : Prop where
  asks : request.Asks "POST" ["", "v1", "api-keys"]
  configured : s.adminToken ≠ ""
  token : request.header? "x-admin-token" = some s.adminToken
  granted : ∃ row, row.revoked = false ∧ t' = { t with apiKeys := t.apiKeys ++ [row] }

theorem Service.authenticate_ok {s : Service} {request : Request} {key : Uuid}
    (ht : Consistent t) (h : s.authenticate request t = .ok key) :
    ∃ (credential raw : String) (row : ApiKeyRow),
      request.header? "authorization" = some credential ∧ Access.bearer? credential = some raw ∧
        row.Opens raw t s.clock ∧ row.id = key := by
  unfold authenticate at h
  split at h
  · cases h
  · next raw hraw =>
      obtain ⟨credential, hcredential, hbearer⟩ := Option.bind_eq_some_iff.mp hraw
      split at h
      · next id hresolved =>
          cases h
          obtain ⟨row, hopens, hid⟩ := Access.opens_of_resolve ht.digests hresolved
          exact ⟨credential, raw, row, hcredential, hbearer, hopens, hid⟩
      · cases h
      · cases h

theorem Service.checkAdmin_ok {s : Service} {request : Request}
    (h : s.checkAdmin request = .ok ()) :
    s.adminToken ≠ "" ∧ request.header? "x-admin-token" = some s.adminToken := by
  unfold checkAdmin at h
  split at h
  · cases h
  · next hconfigured =>
      split at h
      · cases h
      · next token htoken =>
          split at h
          · next hsame =>
              refine ⟨fun hempty => hconfigured (by rw [hempty]; rfl), ?_⟩
              unfold Access.compareTokens at hsame
              split at hsame
              · split at hsame
                · next heq => rw [htoken, heq]
                · cases hsame
              · cases hsame
          · cases h
          · cases h

/-- A call with a key stores events under this key and grants no key. -/
theorem byKey_of_posts {s : Service} {request : Request} {key : Uuid} {call : Call}
    {o : Option Uuid} {p : Posting} (ht : Consistent t)
    (hasks : request.Asks "POST" ["", "v1", "events"] ∨
      request.Asks "POST" ["", "v1", "events", "batch"])
    (hkey : s.authenticate request t = .ok key) (hp : Posts scheme call o p)
    (hbrings : call.apiKey = .uuid key) (hno : p.apiKeys = []) :
    s.ByKey request t (t.post p) := by
  obtain ⟨credential, raw, row, hcredential, hbearer, hopens, rfl⟩ :=
    Service.authenticate_ok ht hkey
  refine ⟨hasks, ⟨credential, raw, row, hcredential, hbearer, hopens, p.events, rfl,
    hp.event_apiKey hbrings⟩, ?_⟩
  show t.apiKeys ++ p.apiKeys = t.apiKeys
  rw [hno, List.append_nil]

/-- **No request changes the tables without authority.**  After any history, a request that
changes them either reports events with the raw key of the one row that has its digest, is not
revoked and has not expired, and then adds events under this key and no key; or it has the token
that the operator configured, and then adds a key and nothing else.  A request by any other method
than `POST` changes nothing. -/
theorem changes_authorised (scheme : IdScheme) (acts : List Act) (s : Service) (k : Circumstances)
    (request : Request) :
    let t := runActs scheme acts Tables.empty
    let t' := ((s.onSqlite scheme k).answer request t).2
    (t' ≠ t → s.ByKey request t t' ∨ s.ByOperator request t t') ∧
      (request.method ≠ "POST" → t' = t) := by
  intro t t'
  have ht : Consistent t := consistent_runActs acts consistent_empty
  have hchange : t' ≠ t → s.ByKey request t t' ∨ s.ByOperator request t t' := by
    intro hne
    obtain hsame | ⟨call, hmakes, hcall⟩ := Service.answer_makes (s.onSqlite scheme k) request t
    · exact absurd hsame hne
    · rcases hrun : call.run (k.onSqlite scheme) t with ⟨e | o, t₁⟩
      · -- a call that is not accepted leaves the tables as they were
        have hleaves := leaves_run call (k.onSqlite scheme) t e
        rw [hrun] at hleaves
        exact absurd (hcall.trans (congrArg Prod.snd hrun) |>.trans (hleaves rfl)) hne
      · obtain ⟨p, hp, -, -, rfl⟩ := posts_of_accepted (k.constrained scheme) hrun
        have ht' : t' = t.post p := hcall.trans (congrArg Prod.snd hrun)
        rw [ht']
        cases hmakes with
        | event hasks hkey hkind =>
            exact .inl (byKey_of_posts ht (.inl hasks) hkey hp rfl (hp.apiKeys_event hkind))
        | batch hasks hkey =>
            exact .inl (byKey_of_posts ht (.inr hasks) hkey hp rfl hp.apiKeys_batch)
        | grant hasks hadmin =>
            obtain ⟨hconfigured, htoken⟩ := Service.checkAdmin_ok hadmin
            obtain ⟨row, hactive, rfl⟩ := hp.posting_grant rfl
            refine .inr ⟨hasks, hconfigured, htoken, row, hactive, ?_⟩
            simp [Tables.post, Tables.withUsers]
  refine ⟨hchange, fun hmethod => ?_⟩
  by_contra hne
  rcases hchange hne with hkey | hoperator
  · exact hmethod (hkey.asks.elim And.left And.left)
  · exact hmethod hoperator.asks.1

namespace Sample

/-- A service whose operator has a token. -/
def service : Service :=
  ⟨Conditions.ideal .bigint Uuid.ofNat, "token", Timestamp.first, "secret"⟩

/-- A key was granted that a raw key opens. -/
def keyed : List Act :=
  [.call (.quiet 1) (.add (.event ⟨Timestamp.first,
    .addKey ⟨"first", Digest.sha256Hex "msk_first", Timestamp.first⟩⟩) .null)]

/-- A payment of user 7 is reported with the raw key. -/
def report : Request where
  method := "POST"
  target := "/v1/events"
  headers := [("Authorization", "Bearer msk_first"), ("Content-Type", "application/json")]
  body :=
    "\x7b\"type\":\"PAYMENT\",\"userId\":7,\"data\":\x7b\"creditAmount\":5\x7d\x7d".toUTF8.toList

/-- The operator asks for another key. -/
def provision : Request where
  method := "POST"
  target := "/v1/api-keys"
  headers := [("X-Admin-Token", "token"), ("Content-Type", "application/json")]
  body := "\x7b\"name\":\"second\",\"expires_at\":\"2024-01-01T00:00:00Z\"\x7d".toUTF8.toList

end Sample

theorem changes_authorised_sample :
    let t := runActs .bigint Sample.keyed Tables.empty
    let s := Sample.service.onSqlite .bigint (.quiet 2)
    Sample.service.ByKey Sample.report t (s.answer Sample.report t).2 ∧
      Sample.service.ByOperator Sample.provision t (s.answer Sample.provision t).2 := by
  intro t s
  have hreport : t.counts = [0, 1, 0, 0, 0, 0] ∧
      (s.answer Sample.report t).2.counts = [1, 1, 1, 0, 1, 0] := by decide +kernel
  have hprovision : (s.answer Sample.provision t).2.counts = [0, 2, 0, 0, 0, 0] := by
    decide +kernel
  have hroutes : Route.segments (Target.read Sample.report.target).path = ["", "v1", "events"] ∧
      Route.segments (Target.read Sample.provision.target).path = ["", "v1", "api-keys"] := by
    decide +kernel
  constructor
  · have hne : (s.answer Sample.report t).2 ≠ t := by
      intro hsame
      have hcounts := hreport.2
      rw [hsame, hreport.1] at hcounts
      exact absurd hcounts (by decide)
    rcases (changes_authorised .bigint Sample.keyed Sample.service (.quiet 2) Sample.report).1 hne
      with hkey | hoperator
    · exact hkey
    · exact absurd (hroutes.1.symm.trans hoperator.asks.2) (by decide)
  · have hne : (s.answer Sample.provision t).2 ≠ t := by
      intro hsame
      rw [hsame, hreport.1] at hprovision
      exact absurd hprovision (by decide)
    rcases (changes_authorised .bigint Sample.keyed Sample.service (.quiet 2) Sample.provision).1
      hne with hkey | hoperator
    · rcases hkey.asks with hevents | hbatch
      · exact absurd (hroutes.2.symm.trans hevents.2) (by decide)
      · exact absurd (hroutes.2.symm.trans hbatch.2) (by decide)
    · exact hoperator

end Http

end UsageLedger
