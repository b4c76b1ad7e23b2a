/-
An answer tells the truth about what was stored.

A request makes one call of the ledger at most (`carryOut_call`), and nothing that could fail
comes after the call: its answer is put together from what the call ended with, holds texts
only and so can always be sent.  A call that is accepted stores a posting, and a posting
that holds anything has the identifier that the call told: of its one event, of the group of
the first item of a list, or of a key (`answers_truthful`).  Whatever else is answered, the tables
are as they were.
-/
import UsageLedger.Proofs.Http.Expiry

namespace UsageLedger

open Ledger Intake

variable {scheme : IdScheme} {t : Tables}

/-! ### What a posting adds -/

/-- The tables after a posting with events are others than before. -/
theorem Tables.post_ne_of_events {p : Posting} (h : p.events ≠ []) : t.post p ≠ t := by
  intro hsame
  have hevents : t.events ++ p.events = t.events := congrArg Tables.events hsame
  exact h (List.append_right_eq_self.mp hevents)

/-- The tables after a posting with a key are others than before. -/
theorem Tables.post_ne_of_apiKeys {p : Posting} (h : p.apiKeys ≠ []) : t.post p ≠ t := by
  intro hsame
  have hkeys : t.apiKeys ++ p.apiKeys = t.apiKeys := congrArg Tables.apiKeys hsame
  exact h (List.append_right_eq_self.mp hkeys)

namespace Posts

variable {e : Event} {apiKey : Value} {o : Option Uuid} {p : Posting}

/-- A reported event is stored under the identifier that is told, with its particulars. -/
theorem of_event (h : Posts scheme (.add (.event e) apiKey) o p) (hkind : e.kind ≠ .addKey) :
    ∃ id, o = some id ∧ p.events.map (·.id) = [id] ∧ p.detailIds = [id] ∧ p.apiKeys = [] := by
  have hids : ∃ id, o = some id ∧ p.events.map (·.id) = [id] := by
    cases h with
    | @sdkCall _ _ _ _ _ _ _ id => exact ⟨id, rfl, rfl⟩
    | @payment _ _ _ _ _ _ _ id => exact ⟨id, rfl, rfl⟩
    | @usage _ _ _ _ ids _ hdelivers husage hgroups hlength =>
        cases hdelivers with
        | single =>
            obtain ⟨r, -, hrest⟩ := bind_eq_ok.mp husage
            cases hrest
            obtain ⟨singles, ha⟩ := UsageGroup.aggregates_of_aggregate hgroups
            obtain ⟨g, -, rfl⟩ := ha.of_single
            obtain ⟨id, rfl⟩ := List.length_eq_one_iff.mp hlength
            exact ⟨id, rfl, rfl⟩
    | grant hrecord hgrant => exact absurd (kind_of_record hrecord hgrant).symm hkind
  obtain ⟨id, ho, hid⟩ := hids
  exact ⟨id, ho, hid, h.sound.detail.trans hid, h.apiKeys_event hkind⟩

end Posts

namespace Http

/-! ### Responses -/

/-- What a response tells under a name. -/
def Response.field (response : Response) (name : String) : Value :=
  match response.content with
  | .json (.record fields) => Record.get fields name
  | _ => .null

/-- A response tells that something was stored, and under which identifier. -/
def Response.Tells (response : Response) (id : Uuid) : Prop :=
  response.status = 201 ∧ response.field "id" = .text id.text

/-- The response to what a request comes to. -/
def Response.ofOutcome : Except Problem Answer → Response
  | .ok a => ⟨a.status, .json a.body⟩
  | .error problem => problem.response

theorem Problem.status_ne (problem : Problem) : problem.status ≠ 201 := by
  cases problem with
  | refused failure =>
      show failure.kind.status ≠ 201
      cases failure.kind <;> decide
  | unreadableBody defect => cases defect <;> simp [Problem.status]
  | _ => simp [Problem.status]

/-! ### What is sent -/

namespace Response

variable {response : Response} {request : Request} {id : Uuid}

/-- Sending makes no creation of anything else. -/
theorem send_status_ne (h : response.status ≠ 201) : (response.send request).status ≠ 201 := by
  have hsent : ∀ sent : Response, sent.status ≠ 201 →
      (if request.method = "HEAD" then (⟨sent.status, .text ""⟩ : Response) else sent).status
        ≠ 201 := by
    intro sent hsent
    split <;> exact hsent
  unfold send
  refine hsent _ ?_
  split
  · split
    · exact h
    · decide
  · exact h

/-- A response of standard JSON to a request for more than the head is sent as it is. -/
theorem send_eq {status : Nat} {v : Value} (hmethod : request.method = "POST")
    (hv : Json.isStandard v = true) :
    Response.send ⟨status, .json v⟩ request = ⟨status, .json v⟩ := by
  simp [send, hmethod, hv]

/-- A response tells an identifier exactly when the tables have changed, and then of what was
stored. -/
structure Truthful (response : Response) (t t' : Tables) (Stored : Uuid → Prop) : Prop where
  told : (∃ id, response.Tells id) ↔ t' ≠ t
  stored : t' ≠ t → ∃ id, response.Tells id ∧ Stored id

theorem Truthful.unchanged {Stored : Uuid → Prop} (h : ∀ id, ¬ response.Tells id) :
    response.Truthful t t Stored :=
  ⟨⟨fun ⟨id, hid⟩ => absurd hid (h id), fun hne => absurd rfl hne⟩, fun hne => absurd rfl hne⟩

theorem Truthful.changed {Stored : Uuid → Prop} {t' : Tables} (htold : response.Tells id)
    (hne : t' ≠ t) (hstored : Stored id) : response.Truthful t t' Stored :=
  ⟨⟨fun _ => hne, fun _ => ⟨id, htold⟩⟩, fun _ => ⟨id, htold, hstored⟩⟩

theorem not_tells_problem {problem : Problem} : ¬ (problem.response.send request).Tells id :=
  fun h => send_status_ne problem.status_ne h.1

end Response

theorem Route.find_of_asks {request : Request} {route : Route}
    (hroute : route = .createKey ∨ route = .registerEvent ∨ route = .registerBatch)
    (h : request.Asks route.method route.path) :
    Route.find request.method (Target.read request.target).path = .ok route := by
  have hpath : Route.ofPath? (Target.read request.target).path = some route := by
    have hsegments := h.2
    unfold segments at hsegments
    unfold ofPath?
    dsimp only
    rw [hsegments]
    rcases hroute with rfl | rfl | rfl <;> rfl
  unfold Route.find
  rw [hpath]
  exact if_pos h.1.symm

namespace Service

variable {s : Service} {request : Request}

theorem answer_eq (s : Service) (request : Request) (t : Tables) :
    s.answer request t
      = ((Response.ofOutcome (s.handle request t).1).send request, (s.handle request t).2) := by
  unfold answer
  rcases s.handle request t with ⟨problem | a, t'⟩ <;> rfl

/-- A request that writes is answered by what its route makes of it. -/
theorem answer_of_asks {route : Route}
    (hroute : route = .createKey ∨ route = .registerEvent ∨ route = .registerBatch)
    (hasks : request.Asks route.method route.path) :
    s.answer request t =
      let result := match route with
        | .createKey => s.createKey request t
        | .registerEvent => s.registerEvent request t
        | .registerBatch => s.registerBatch request t
        | _ => s.handle request t
      ((Response.ofOutcome result.1).send request, result.2) := by
  rw [answer_eq, handle]
  dsimp only
  rw [Route.find_of_asks hroute hasks]
  rcases hroute with rfl | rfl | rfl <;> rfl

/-- **What was prepared makes one call**: either there is a problem, and the tables are as they
were, or the call has stored its posting, and the answer is put together from what the call told. -/
theorem carryOut_call {α : Type} (k : Circumstances) (prepared : Except Problem α) (call : α → Call)
    (tell : α → Option Uuid → Answer) {result : Except Problem Answer × Tables}
    (hresult : carryOut prepared t (fun a => outcome scheme (k, call a) t) tell = result) :
    (∃ problem, result = (.error problem, t)) ∨
      ∃ a o p, prepared = .ok a ∧ Posts scheme (call a) o p ∧ p.Admitted t ∧
        result = (.ok (tell a o), t.post p) := by
  subst hresult
  cases prepared with
  | error problem => exact .inl ⟨problem, rfl⟩
  | ok a =>
      rcases hrun : outcome scheme (k, call a) t with ⟨e | o, t'⟩
      · obtain rfl := outcome_error hrun
        refine .inl ⟨.ofRaised e, ?_⟩
        simp only [carryOut, hrun]
        rfl
      · obtain ⟨p, hp, hadmitted, -, rfl⟩ := posts_of_accepted (k.constrained scheme) hrun
        refine .inr ⟨a, o, p, rfl, hp, hadmitted, ?_⟩
        simp only [carryOut, hrun]
        rfl

/-! ### One event -/

/-- The event that a request reports was stored under an identifier: it and its particulars, and
nothing else but its user. -/
def StoresEvent (s : Service) (request : Request) (t t' : Tables) (id : Uuid) : Prop :=
  ∃ key e p, s.prepareEvent request t = .ok (key, e) ∧
    Posts s.conditions.scheme (.add (.event e) (.uuid key)) (some id) p ∧
    p.events.map (·.id) = [id] ∧ p.detailIds = [id] ∧ p.apiKeys = [] ∧ t' = t.post p

theorem tells_created {id : Uuid} (hmethod : request.method = "POST") :
    ((Response.ofOutcome (.ok (created (some id)))).send request).Tells id := by
  have hsent : (Response.ofOutcome (.ok (created (some id)))).send request
      = ⟨201, .json (.record [("id", .text id.text)])⟩ := Response.send_eq hmethod rfl
  rw [hsent]
  exact ⟨rfl, rfl⟩

theorem send_created_none (hmethod : request.method = "POST") :
    (Response.ofOutcome (.ok (created none))).send request = ⟨201, .json .null⟩ :=
  Response.send_eq hmethod rfl

theorem registerEvent_truthful (s : Service) (k : Circumstances) (request : Request)
    (hmethod : request.method = "POST") :
    let s := s.onSqlite scheme k
    let result := s.registerEvent request t
    ((Response.ofOutcome result.1).send request).Truthful t result.2
      (s.StoresEvent request t result.2) := by
  intro s result
  have hcall := carryOut_call (t := t) k (s.prepareEvent request t)
    (fun a => .add (.event a.2) (.uuid a.1)) (fun _ o => created o)
    (show _ = result from rfl)
  rcases hcall with ⟨problem, hresult⟩ | ⟨⟨key, e⟩, o, p, hprepared, hp, -, hresult⟩
  · rw [hresult]
    exact .unchanged fun id => Response.not_tells_problem
  · obtain ⟨id, rfl, hids, hdetails, hkeys⟩ := hp.of_event (prepareEvent_ok hprepared).2
    rw [hresult]
    refine .changed (tells_created hmethod) (Tables.post_ne_of_events fun hnone => ?_)
      ⟨key, e, p, hprepared, hp, hids, hdetails, hkeys, rfl⟩
    rw [hnone] at hids
    cases hids

/-! ### A list -/

/-- The whole list that a request reports was stored, a group for each user and model of it, and an
identifier is that of the group of its first item. -/
def StoresBatch (s : Service) (request : Request) (t t' : Tables) (id : Uuid) : Prop :=
  ∃ key events usage groups ids, s.prepareBatch request t = .ok (key, events) ∧
    UsageRecord.ofRecords s.conditions.scheme (events.map Event.record) = .ok usage ∧
    UsageGroup.aggregate usage = .ok groups ∧ ids.length = groups.length ∧ ids.Nodup ∧
    t' = t.post (Posting.usage ids key groups) ∧ ids.head? = some id ∧
    groups.head?.map (fun g => (g.user, g.model))
      = usage.head?.map fun r => (r.user, r.data.model)

/-- A list that is stored is stored as a whole. -/
theorem posts_batch {events : List Event} {key : Uuid} {o : Option Uuid} {p : Posting}
    (hp : Posts scheme (.addBatch (events.map .event) (.uuid key)) o p) :
    ∃ usage groups ids, UsageRecord.ofRecords scheme (events.map Event.record) = .ok usage ∧
      UsageGroup.aggregate usage = .ok groups ∧ ids.length = groups.length ∧ o = ids.head? ∧
      p = Posting.usage ids key groups := by
  cases hp with
  | usage hdelivers husage hgroups hlength hkey =>
      cases hdelivers with
      | batch hrecords hkinds =>
          have hsame :
              (events.map Submission.event).mapM unwrap = .ok (events.map Event.record) := by
            rw [mapM_eq_ok, List.forall₂_map_left_iff, List.forall₂_map_right_iff,
              List.forall₂_same]
            exact fun _ _ => rfl
          obtain rfl := Except.ok.inj (hsame.symm.trans hrecords)
          refine ⟨_, _, _, husage, hgroups, hlength, rfl, ?_⟩
          rcases hkey with hnone | hkey
          · rw [hnone] at husage
            cases husage
            cases hgroups
            rw [List.length_eq_zero_iff.mp hlength]
            rfl
          · cases hkey
            rfl

theorem registerBatch_truthful (s : Service) (k : Circumstances) (request : Request)
    (hmethod : request.method = "POST") :
    let s := s.onSqlite scheme k
    let result := s.registerBatch request t
    ((Response.ofOutcome result.1).send request).Truthful t result.2
      (s.StoresBatch request t result.2) := by
  intro s result
  have hcall := carryOut_call (t := t) k (s.prepareBatch request t)
    (fun a => .addBatch (a.2.map .event) (.uuid a.1)) (fun _ o => created o)
    (show _ = result from rfl)
  rcases hcall with ⟨problem, hresult⟩ | ⟨⟨key, events⟩, o, p, hprepared, hp, hadmitted, hresult⟩
  · rw [hresult]
    exact .unchanged fun id => Response.not_tells_problem
  · obtain ⟨usage, groups, ids, husage, hgroups, hlength, rfl, rfl⟩ := posts_batch hp
    obtain ⟨singles, ha⟩ := UsageGroup.aggregates_of_aggregate hgroups
    rw [hresult]
    cases usage with
    | nil =>
        obtain rfl : [] = groups := Except.ok.inj hgroups
        obtain rfl := List.length_eq_zero_iff.mp hlength
        have hsame : t.post (Posting.usage [] key []) = t := by
          simp [Tables.post, Posting.usage, Tables.withUsers]
        dsimp only
        rw [hsame]
        exact .unchanged fun id => by
          rw [List.head?_nil, send_created_none hmethod]
          exact fun h => Value.noConfusion h.2
    | cons r usage =>
        obtain ⟨g, rest, rfl, huser, hmodel⟩ := ha.exists_head
        obtain ⟨id, ids, rfl⟩ := List.exists_cons_of_length_eq_add_one hlength
        have hnodup := hadmitted.nodup
        rw [Posting.usage_event_ids hlength] at hnodup
        refine .changed (tells_created hmethod) (Tables.post_ne_of_events (List.cons_ne_nil _ _))
          ⟨key, events, _, _, _, hprepared, husage, hgroups, hlength, hnodup, rfl, rfl, ?_⟩
        simp [huser, hmodel]

/-! ### A key -/

/-- The key that a request asks for was made under an identifier: a row with the digest of the raw
key that the response tells.  The raw key stands for it until it expires. -/
def MakesKey (s : Service) (request : Request) (response : Response) (t t' : Tables) (id : Uuid) :
    Prop :=
  ∃ wanted raw, ∃ row : ApiKeyRow, s.prepareKey request = .ok wanted ∧
    response.field "raw_key" = .text raw ∧ row.id = id ∧
    row.key = .text (Digest.sha256Hex raw) ∧ row.revoked = false ∧
    row.expiresAt.instant = wanted.expiresAt.instant ∧
    t' = { t with apiKeys := t.apiKeys ++ [row] } ∧
    ∀ (s' : Service) (later : Request),
      (later.header? "authorization").bind Access.bearer? = some raw →
      s'.authenticate later t' = if row.expiresAt.instant < s'.clock.instant
        then .error .expiredKey else .ok id

theorem createKey_truthful (s : Service) (k : Circumstances) (request : Request)
    (hmethod : request.method = "POST") :
    let s := s.onSqlite scheme k
    let result := s.createKey request t
    let response := (Response.ofOutcome result.1).send request
    response.Truthful t result.2 (s.MakesKey request response t result.2) := by
  intro s result response
  have hcall := carryOut_call (t := t) k (s.prepareKey request)
    (fun wanted => .add (.event (s.keyGrant wanted)) .null) _ (show _ = result from rfl)
  rcases hcall with ⟨problem, hresult⟩ | ⟨wanted, o, p, hprepared, hp, hadmitted, hresult⟩
  · have hresponse : response = problem.response.send request := by
      show (Response.ofOutcome result.1).send request = _
      rw [hresult]
      rfl
    rw [hresponse, hresult]
    exact .unchanged fun id => Response.not_tells_problem
  · have hdata : KeyGrantData.ofValue ((s.keyGrant wanted).record.get dataKey)
        = .valid ⟨wanted.name, Digest.sha256Hex s.rawKey, wanted.expiresAt⟩ :=
      KeyGrantData.ofValue_wire _
    obtain ⟨row, _, _, hname, hdigest, rfl, rfl, hfound, -, hkey, hactive, -, hinstant⟩ :=
      exists_row_of_posts rfl rfl hdata hp hadmitted
    cases hname
    cases hdigest
    have hresponse : response = ⟨201, .json (.record [("id", .text row.id.text),
        ("name", .text wanted.name), ("expires_at", .text wanted.expiresAt.answerText),
        ("raw_key", .text s.rawKey)])⟩ := by
      show (Response.ofOutcome result.1).send request = _
      rw [hresult]
      exact Response.send_eq hmethod rfl
    rw [hresponse, hresult]
    refine .changed ⟨rfl, rfl⟩ (Tables.post_ne_of_apiKeys (List.cons_ne_nil _ _))
      ⟨wanted, s.rawKey, row, hprepared, rfl, rfl, hkey, hactive, hinstant, ?_,
        fun s' later hshown => ?_⟩
    · simp [Tables.post, Tables.withUsers]
    · exact authenticate_of_activeKey hshown hfound

end Service

/-! ### All answers -/

/-- **Answers tell the truth about what was stored.**  A request that writes is told an identifier,
with status 201, exactly when the tables have changed: that of the one event it reports, that of the
group of the first item of a list, all of which was stored, or that of the key it asks for, which
the raw key it is told stands for until it expires.  An empty list of a caller who is known is told
201 and nothing else, and any other answer leaves the tables as they were. -/
theorem answers_truthful (scheme : IdScheme) (t : Tables) (s : Service) (k : Circumstances)
    (request : Request) :
    let s := s.onSqlite scheme k
    let response := (s.answer request t).1
    let t' := (s.answer request t).2
    (request.Asks "POST" ["", "v1", "events"] →
      response.Truthful t t' (s.StoresEvent request t t')) ∧
    (request.Asks "POST" ["", "v1", "events", "batch"] →
      response.Truthful t t' (s.StoresBatch request t t') ∧
        ∀ key, request.readBody = .ok (some (.list [])) → s.authenticate request t = .ok key →
          response = ⟨201, .json .null⟩ ∧ t' = t) ∧
    (request.Asks "POST" ["", "v1", "api-keys"] →
      response.Truthful t t' (s.MakesKey request response t t')) := by
  intro s₁ response t'
  refine ⟨fun hasks => ?_, fun hasks => ⟨?_, fun key hbody hkey => ?_⟩, fun hasks => ?_⟩
  · have hanswered := Service.answer_of_asks (s := s₁) (t := t) (.inr (.inl rfl)) hasks
    show Response.Truthful (s₁.answer request t).1 t (s₁.answer request t).2
      (s₁.StoresEvent request t (s₁.answer request t).2)
    rw [hanswered]
    exact Service.registerEvent_truthful s k request hasks.1
  · have hanswered := Service.answer_of_asks (s := s₁) (t := t) (.inr (.inr rfl)) hasks
    show Response.Truthful (s₁.answer request t).1 t (s₁.answer request t).2
      (s₁.StoresBatch request t (s₁.answer request t).2)
    rw [hanswered]
    exact Service.registerBatch_truthful s k request hasks.1
  · have hanswered := Service.answer_of_asks (s := s₁) (t := t) (.inr (.inr rfl)) hasks
    have hprepared : s₁.prepareBatch request t = .ok (key, []) := by
      unfold Service.prepareBatch Service.readBody
      rw [hbody, hkey]
      rfl
    have hempty : s₁.registerBatch request t = (.ok (Service.created none), t) := by
      unfold Service.registerBatch
      rw [hprepared]
      rfl
    show (s₁.answer request t).1 = _ ∧ (s₁.answer request t).2 = t
    rw [hanswered]
    show Response.send (Response.ofOutcome (s₁.registerBatch request t).1) request = _ ∧
      (s₁.registerBatch request t).2 = t
    rw [hempty]
    exact ⟨Service.send_created_none hasks.1, rfl⟩
  · have hanswered := Service.answer_of_asks (s := s₁) (t := t) (.inl rfl) hasks
    show Response.Truthful (s₁.answer request t).1 t (s₁.answer request t).2
      (s₁.MakesKey request (s₁.answer request t).1 t (s₁.answer request t).2)
    rw [hanswered]
    exact Service.createKey_truthful s k request hasks.1

namespace Sample

/-- A request with the raw key that reports a list. -/
def listing (body : String) : Request where
  method := "POST"
  target := "/v1/events/batch"
  headers := [("Authorization", "Bearer msk_first"), ("Content-Type", "application/json")]
  body := body.toUTF8.toList

/-- Token usage of user 7. -/
def usages : Request := listing
  ("[\x7b\"type\":\"AI_TOKEN_USAGE\",\"userId\":7,\"data\":\x7b\"model\":\"m\"," ++
    "\"inputTokens\":1,\"outputTokens\":2,\"inputDebitAmount\":3,\"outputDebitAmount\":4\x7d\x7d]")

/-- A body was read as a list of nothing. -/
def isEmptyList : Except BodyDefect (Option Value) → Bool
  | .ok (some (.list [])) => true
  | _ => false

end Sample

theorem answers_truthful_sample :
    let t := runActs .bigint Sample.keyed Tables.empty
    let s := Sample.service.onSqlite .bigint (.quiet 2)
    (∃ id, (s.answer Sample.report t).1.Tells id ∧
        s.StoresEvent Sample.report t (s.answer Sample.report t).2 id) ∧
      (∃ id, (s.answer Sample.usages t).1.Tells id ∧
        s.StoresBatch Sample.usages t (s.answer Sample.usages t).2 id) ∧
      ((s.answer (Sample.listing "[]") t).1 = ⟨201, .json .null⟩ ∧
        (s.answer (Sample.listing "[]") t).2 = t) ∧
      ∃ id, (s.answer Sample.provision t).1.Tells id ∧
        s.MakesKey Sample.provision (s.answer Sample.provision t).1 t
          (s.answer Sample.provision t).2 id := by
  intro t s
  have hchanged : ∀ {request : Request}, (s.answer request t).2.counts ≠ t.counts →
      (s.answer request t).2 ≠ t :=
    fun hcounts hsame => hcounts (congrArg Tables.counts hsame)
  have hevents : Sample.report.Asks "POST" ["", "v1", "events"] := ⟨rfl, by decide +kernel⟩
  have hbatch : ∀ body, (Sample.listing body).Asks "POST" ["", "v1", "events", "batch"] := by
    have hpath : Route.segments (Target.read "/v1/events/batch").path
        = ["", "v1", "events", "batch"] := by decide +kernel
    exact fun body => ⟨rfl, hpath⟩
  have hkeys : Sample.provision.Asks "POST" ["", "v1", "api-keys"] := ⟨rfl, by decide +kernel⟩
  have hreport : (s.answer Sample.report t).2.counts ≠ t.counts := by decide +kernel
  have husages : (s.answer Sample.usages t).2.counts ≠ t.counts := by decide +kernel
  have hprovision : (s.answer Sample.provision t).2.counts ≠ t.counts := by decide +kernel
  have hempty : (Sample.listing "[]").readBody = .ok (some (.list [])) := by
    have hread : Sample.isEmptyList (Sample.listing "[]").readBody = true := by decide +kernel
    unfold Sample.isEmptyList at hread
    split at hread
    · assumption
    · cases hread
  obtain ⟨key, hkey⟩ : ∃ key, s.authenticate (Sample.listing "[]") t = .ok key := by
    have hknown : (s.authenticate (Sample.listing "[]") t).toBool = true := by decide +kernel
    cases hasked : s.authenticate (Sample.listing "[]") t with
    | ok key => exact ⟨key, rfl⟩
    | error problem =>
        rw [hasked] at hknown
        cases hknown
  obtain ⟨htold, -⟩ := answers_truthful .bigint t Sample.service (.quiet 2) Sample.report
  obtain ⟨-, htoldList, -⟩ := answers_truthful .bigint t Sample.service (.quiet 2) Sample.usages
  obtain ⟨-, htoldNone, -⟩ :=
    answers_truthful .bigint t Sample.service (.quiet 2) (Sample.listing "[]")
  obtain ⟨-, -, htoldKey⟩ := answers_truthful .bigint t Sample.service (.quiet 2) Sample.provision
  refine ⟨(htold hevents).stored (hchanged hreport), ?_, ?_, ?_⟩
  · exact (htoldList (hbatch _)).1.stored (hchanged husages)
  · exact (htoldNone (hbatch _)).2 key hempty hkey
  · exact (htoldKey hkeys).stored (hchanged hprovision)

end Http

end UsageLedger
