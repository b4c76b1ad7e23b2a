/-
Answering requests.

`Service.answer` takes a request and the stored tables, and gives the response with the
tables after it.  The order of the checks is the same for every route: the body is read,
the caller is identified, the body or query is compared with its schema, and only then is
anything done.  Making a key is the exception: the token of the operator is looked at
after the body.
-/
import UsageLedger.Access
import UsageLedger.Http.Payload
import UsageLedger.Http.Route
import UsageLedger.Ledger.Basic

namespace UsageLedger.Http

/-- The circumstances in which a request is answered. -/
structure Service where
  conditions : Conditions
  adminToken : String
  clock : Timestamp
  /-- The secret of a key that is made. -/
  secret : String

/-- What is answered to a request that is carried out. -/
structure Answer where
  status : Nat
  body : Value
  deriving Repr

namespace Service

/-- The key that a request shows. -/
def authenticate (s : Service) (request : Request) (t : Tables) : Except Problem Uuid :=
  match (request.header? "authorization").bind Access.bearer? with
  | none => .error .notAuthenticated
  | some raw =>
    match Access.resolve t s.clock raw with
    | .ok id => .ok id
    | .error .unknown => .error .unknownKey
    | .error .expired => .error .expiredKey

/-- The body of a request. -/
def readBody (request : Request) : Except Problem (Option Value) :=
  request.readBody.mapError .unreadableBody

/-- Carries out what was prepared. -/
def carryOut {α : Type} (prepared : Except Problem α) (t : Tables)
    (act : α → Except Raised (Option Uuid) × Tables) (tell : α → Option Uuid → Answer) :
    Except Problem Answer × Tables :=
  match prepared with
  | .error problem => (.error problem, t)
  | .ok a =>
    let (outcome, t) := act a
    ((outcome.mapError Problem.ofRaised).map (tell a), t)

/-- An identifier in an answer. -/
def idValue (id : Option Uuid) : Value :=
  match id with
  | some id => .text id.text
  | none => .null

/-- The answer that tells what was stored. -/
def created (id : Option Uuid) : Answer :=
  ⟨201, if id.isSome then .record [("id", idValue id)] else .null⟩

/-- The key and the event of a request to register one. -/
def prepareEvent (s : Service) (request : Request) (t : Tables) :
    Except Problem (Uuid × Event) := do
  let body ← readBody request
  let key ← s.authenticate request t
  let payload ← inBody (asRecord (← requireBody body))
  return (key, ← buildEvent s.conditions.scheme s.conditions.depth s.clock (.record payload))

/-- Registers an event. -/
def registerEvent (s : Service) (request : Request) (t : Tables) : Except Problem Answer × Tables :=
  carryOut (s.prepareEvent request t) t
    (fun (key, event) => Ledger.add s.conditions (.event event) (.uuid key) t)
    fun _ id => created id

/-- The key and the events of a request to register many. -/
def prepareBatch (s : Service) (request : Request) (t : Tables) :
    Except Problem (Uuid × List Event) := do
  let body ← readBody request
  let key ← s.authenticate request t
  let payloads ← inBody (asRecordList (← requireBody body))
  return (key, ← payloads.mapM fun r =>
    buildEvent s.conditions.scheme s.conditions.depth s.clock (.record r))

/-- Registers a delivery of token usage. -/
def registerBatch (s : Service) (request : Request) (t : Tables) : Except Problem Answer × Tables :=
  carryOut (s.prepareBatch request t) t
    (fun (key, events) => Ledger.addBatch s.conditions (events.map .event) (.uuid key) t)
    fun _ id => created id

/-- Checks that the operator asks. -/
def checkAdmin (s : Service) (request : Request) : Except Problem Unit :=
  if s.adminToken.isEmpty then .error .provisioningDisabled
  else match request.header? "x-admin-token" with
    | none => .error .wrongAdminToken
    | some token =>
      match Access.compareTokens token s.adminToken with
      | .same => .ok ()
      | .different => .error .wrongAdminToken
      | .incomparable => .error .crashed

/-- The key that a request of the operator asks for. -/
def prepareKey (s : Service) (request : Request) : Except Problem KeyRequest := do
  let body ← readBody request
  let wanted ← inBody (KeyRequest.ofValue (← requireBody body))
  s.checkAdmin request
  return wanted

/-- The raw key that is made. -/
def rawKey (s : Service) : String := Access.rawKey s.secret

/-- The event that grants a key. -/
def keyGrant (s : Service) (wanted : KeyRequest) : Event :=
  ⟨s.clock, .addKey ⟨wanted.name, Digest.sha256Hex s.rawKey, wanted.expiresAt⟩⟩

/-- Makes a key.  The raw key is told once and never again. -/
def createKey (s : Service) (request : Request) (t : Tables) : Except Problem Answer × Tables :=
  carryOut (s.prepareKey request) t
    (fun wanted => Ledger.add s.conditions (.event (s.keyGrant wanted)) .null t)
    fun wanted id => ⟨201, .record [("id", idValue id), ("name", .text wanted.name),
      ("expires_at", .text wanted.expiresAt.answerText), ("raw_key", .text s.rawKey)]⟩

/-- Tells what a user owes. -/
def price (s : Service) (request : Request) (target : Target) (user : String) (t : Tables) :
    Except Problem Answer := do
  let _ ← s.authenticate request t
  let kind ← PriceKind.ofTarget target
  let scheme := s.conditions.scheme
  let id ← (UserId.parse scheme (.text user)).mapError fun _ => .invalidUser user
  let event : Event := ⟨s.clock, kind.event id⟩
  let amount ← (Pricing.priceFrom scheme s.conditions.depth t (.event event)).mapError .ofRaised
  return ⟨200,
    .record [("user_id", .text user), ("kind", .text kind.name), ("amount", .int amount)]⟩

/-- Tells that the service is there. -/
def health (s : Service) : Answer :=
  ⟨200, .record [("status", .text "ok"), ("backend", .text s.conditions.dialect.name)]⟩

/-- Carries out a request. -/
def handle (s : Service) (request : Request) (t : Tables) : Except Problem Answer × Tables :=
  let target := Target.read request.target
  match Route.find request.method target.path with
  | .error problem => (.error problem, t)
  | .ok .health => (.ok s.health, t)
  | .ok .createKey => s.createKey request t
  | .ok .registerEvent => s.registerEvent request t
  | .ok .registerBatch => s.registerBatch request t
  | .ok (.price user) => (s.price request target user t, t)

/-- Answers a request. -/
def answer (s : Service) (request : Request) (t : Tables) : Response × Tables :=
  let (outcome, t) := s.handle request t
  let response : Response := match outcome with
    | .ok a => ⟨a.status, .json a.body⟩
    | .error problem => problem.response
  (response.send request, t)

end Service

end UsageLedger.Http
