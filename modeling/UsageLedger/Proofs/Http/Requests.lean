/-
What requests do to the tables.

A request changes the tables by one call of the ledger at most, and that call is one that
its route makes (`Service.answer_makes`): reported events are added with the key that the
request showed, and only the operator's route grants a key.  Whatever fails before the
call, or answers without one, leaves the tables as they were.
-/
import UsageLedger.Http.Service
import UsageLedger.Proofs.Event.RoundTrip
import UsageLedger.Proofs.Ledger.Run

namespace UsageLedger

namespace Http

namespace Route

/-- The texts of the segments of a path.  A line feed at its end does not count. -/
def segments (path : List (List Char)) : List String :=
  (path.dropLast ++ [dropFinalLineFeed (path.getLast?.getD [])]).map String.ofList

/-- The segments of the path of a route. -/
def path : Route → List String
  | health => ["", "health"]
  | createKey => ["", "v1", "api-keys"]
  | registerEvent => ["", "v1", "events"]
  | registerBatch => ["", "v1", "events", "batch"]
  | price user => ["", "v1", "users", user, "price"]

theorem segments_of_ofPath? {given : List (List Char)} {route : Route}
    (h : ofPath? given = some route) : segments given = route.path := by
  unfold ofPath? at h
  dsimp only at h
  split at h
  case h_5 user hpath =>
    split at h
    · cases h
    · cases h
      exact hpath
  case h_6 => cases h
  all_goals
    cases h
    assumption

/-- A route that is found is the one of the method and the path. -/
theorem of_find {method : String} {given : List (List Char)} {route : Route}
    (h : find method given = .ok route) : method = route.method ∧ segments given = route.path := by
  unfold find at h
  split at h
  · next found hfound =>
      split at h
      · next hmethod =>
          cases h
          exact ⟨hmethod.symm, segments_of_ofPath? hfound⟩
      · cases h
  · split at h <;> cases h

end Route

/-- A request asks for a path by a method. -/
def Request.Asks (request : Request) (method : String) (path : List String) : Prop :=
  request.method = method ∧ Route.segments (Target.read request.target).path = path

namespace Service

variable {s : Service} {request : Request} {t : Tables}

/-- The calls that a request can make. -/
inductive Makes (s : Service) (request : Request) (t : Tables) : Ledger.Call → Prop
  | event {key e} :
      request.Asks "POST" ["", "v1", "events"] → s.authenticate request t = .ok key →
      e.kind ≠ .addKey → Makes s request t (.add (.event e) (.uuid key))
  | batch {key} {events : List Event} :
      request.Asks "POST" ["", "v1", "events", "batch"] → s.authenticate request t = .ok key →
      Makes s request t (.addBatch (events.map .event) (.uuid key))
  | grant {wanted} :
      request.Asks "POST" ["", "v1", "api-keys"] → s.checkAdmin request = .ok () →
      Makes s request t (.add (.event (s.keyGrant wanted)) .null)

end Service

end Http

namespace Http

/-- **No reported event grants a key.** -/
theorem buildEvent_ok {scheme : IdScheme} {depth : Nat} {now : Timestamp} {payload : Value}
    {e : Event} (h : buildEvent scheme depth now payload = .ok e) : e.kind ≠ .addKey := by
  unfold buildEvent at h
  split at h
  · next r =>
      dsimp only at h
      split at h
      · cases h
      · cases h
      · next kind hother hkind =>
          have hread := Event.kind_of_ofValue (Validated.toExcept_eq_ok.mp (mapError_eq_ok.mp h))
          intro hgrant
          rw [hread, hgrant] at hkind
          exact hother (Option.some.inj hkind).symm
  · cases h

namespace Service

variable {s : Service} {request : Request} {t : Tables}

theorem prepareEvent_ok {key : Uuid} {e : Event} (h : s.prepareEvent request t = .ok (key, e)) :
    s.authenticate request t = .ok key ∧ e.kind ≠ .addKey := by
  obtain ⟨body, -, h⟩ := bind_eq_ok.mp h
  obtain ⟨key', hkey, h⟩ := bind_eq_ok.mp h
  obtain ⟨v, -, h⟩ := bind_eq_ok.mp h
  obtain ⟨payload, -, h⟩ := bind_eq_ok.mp h
  obtain ⟨e', he, h⟩ := bind_eq_ok.mp h
  cases h
  exact ⟨hkey, buildEvent_ok he⟩

theorem prepareBatch_ok {key : Uuid} {events : List Event}
    (h : s.prepareBatch request t = .ok (key, events)) : s.authenticate request t = .ok key := by
  obtain ⟨body, -, h⟩ := bind_eq_ok.mp h
  obtain ⟨key', hkey, h⟩ := bind_eq_ok.mp h
  obtain ⟨v, -, h⟩ := bind_eq_ok.mp h
  obtain ⟨payloads, -, h⟩ := bind_eq_ok.mp h
  obtain ⟨events', -, h⟩ := bind_eq_ok.mp h
  cases h
  exact hkey

theorem prepareKey_ok {wanted : KeyRequest} (h : s.prepareKey request = .ok wanted) :
    s.checkAdmin request = .ok () := by
  obtain ⟨body, -, h⟩ := bind_eq_ok.mp h
  obtain ⟨v, -, h⟩ := bind_eq_ok.mp h
  obtain ⟨wanted', -, h⟩ := bind_eq_ok.mp h
  obtain ⟨_, hadmin, -⟩ := bind_eq_ok.mp h
  exact hadmin

/-- **A request changes the tables by a call that its route makes**, or leaves them as they were. -/
theorem answer_makes (s : Service) (request : Request) (t : Tables) :
    (s.answer request t).2 = t ∨ ∃ call, s.Makes request t call ∧
      (s.answer request t).2 = (call.run s.conditions t).2 := by
  rw [answer, handle]
  dsimp only
  cases hroute : Route.find request.method (Target.read request.target).path with
  | error problem => exact .inl rfl
  | ok route =>
      have hasks : request.Asks route.method route.path := Route.of_find hroute
      cases route with
      | health => exact .inl rfl
      | price user => exact .inl rfl
      | createKey =>
          unfold createKey
          cases hprepared : s.prepareKey request with
          | error problem => exact .inl rfl
          | ok wanted => exact .inr ⟨_, .grant hasks (prepareKey_ok hprepared), rfl⟩
      | registerEvent =>
          unfold registerEvent
          cases hprepared : s.prepareEvent request t with
          | error problem => exact .inl rfl
          | ok prepared =>
              obtain ⟨hkey, hkind⟩ := prepareEvent_ok hprepared
              exact .inr ⟨_, .event hasks hkey hkind, rfl⟩
      | registerBatch =>
          unfold registerBatch
          cases hprepared : s.prepareBatch request t with
          | error problem => exact .inl rfl
          | ok prepared => exact .inr ⟨_, .batch hasks (prepareBatch_ok hprepared), rfl⟩

end Service

end Http

end UsageLedger
