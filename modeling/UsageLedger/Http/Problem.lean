/-
What is answered instead of what was asked for.

`Problem` lists every reason for which a request is not carried out; `Problem.response`
gives the status and the wording of each.  Most responses tell what is wrong under the
name `detail`: in words, or as a list with one entry for each violation.
-/
import UsageLedger.Failure
import UsageLedger.Http.Message

namespace UsageLedger.Http

/-- Why a request is not carried out. -/
inductive Problem
  /- Finding the way -/
  | notFound
  | wrongMethod
  /-- There is something under the path without its last slash. -/
  | misplaced
  /- Who asks -/
  | notAuthenticated
  | unknownKey
  | expiredKey
  | provisioningDisabled
  | wrongAdminToken
  /- What is asked -/
  | unreadableBody (defect : BodyDefect)
  /-- The body or the query does not fit its schema. -/
  | invalidRequest (violations : List Violation)
  | notEvent
  | keyGrantElsewhere
  /-- An event does not fit its schema. -/
  | invalidEvent (violations : List Violation)
  | invalidUser (text : String)
  /- What comes of it -/
  | refused (failure : Failure)
  | crashed
  deriving Repr

namespace Problem

/-- A problem that an operation of the ledger ends with. -/
def ofRaised : Raised → Problem
  | .failure f => refused f
  | .fault _ => crashed

/-- The status of the response. -/
def status : Problem → Nat
  | notFound => 404
  | wrongMethod => 405
  | misplaced => 307
  | notAuthenticated | unknownKey | expiredKey | wrongAdminToken => 401
  | provisioningDisabled => 403
  | unreadableBody .unreadable | keyGrantElsewhere => 400
  | unreadableBody (.malformed ..) | invalidRequest _ | notEvent | invalidEvent _
  | invalidUser _ => 422
  | refused failure => failure.status
  | crashed => 500

/-! ### Details -/

/-- The path of a violation. -/
def pathValue (path : List PathStep) : Value :=
  .list (path.map fun step => match step with
    | .field name => .text name
    | .index i => .int i)

/-- The name of a field is private to the store. -/
def isPrivate (name : String) : Bool := "_sa".toList.isPrefixOf name.toList

mutual

/-- A value without private fields. -/
def publicPart : Value → Value
  | .list items => .list (publicItems items)
  | .record fields => .record (publicFields fields)
  | v => v

/-- Items without private fields. -/
def publicItems : List Value → List Value
  | [] => []
  | v :: rest => publicPart v :: publicItems rest

/-- The fields that are not private. -/
def publicFields : List (String × Value) → List (String × Value)
  | [] => []
  | (name, v) :: rest =>
    if isPrivate name then publicFields rest else (name, publicPart v) :: publicFields rest

end

/-- The entry of a violation of an event's schema. -/
def eventEntry (v : Violation) : Record :=
  [("type", .text v.defect.code), ("loc", pathValue v.path), ("msg", .text v.defect.message),
    ("input", v.input)]

/-- The entry of a violation of a request's schema, which also tells the limits concerned. -/
def requestEntry (v : Violation) : Record :=
  eventEntry { v with input := publicPart v.input } ++
    (if v.defect.context.isEmpty then [] else [("ctx", .record v.defect.context)])

/-- The entry of a body that is not JSON. -/
def malformedEntry (defect : Json.Defect) (position : Nat) : Record :=
  [("type", .text "json_invalid"), ("loc", .list [.text "body", .int position]),
    ("msg", .text "JSON decode error"), ("input", .record []),
    ("ctx", .record [("error", .text defect.message)])]

/-- What is wrong, as the response tells it. -/
def detail : Problem → Value
  | notFound => .text "Not Found"
  | wrongMethod => .text "Method Not Allowed"
  | misplaced => .null
  | notAuthenticated => .text "Not authenticated"
  | unknownKey => .text "Invalid or revoked API key"
  | expiredKey => .text "API key has expired"
  | provisioningDisabled => .text "API key provisioning is disabled"
  | wrongAdminToken => .text "Invalid admin token"
  | unreadableBody (.malformed defect position) => .list [.record (malformedEntry defect position)]
  | unreadableBody .unreadable => .text "There was an error parsing the body"
  | invalidRequest violations => .list (violations.map fun v => .record (requestEntry v))
  | notEvent => .text "Event must be a JSON object"
  | keyGrantElsewhere => .text "API keys are created through /v1/api-keys"
  | invalidEvent violations => .list (violations.map fun v => .record (eventEntry v))
  | invalidUser text => .text ("Invalid user id: " ++ text)
  | refused failure => .text failure.message
  | crashed => .null

/-- The content of the response. -/
def content : Problem → Content
  | misplaced => .text ""
  | crashed => .text "Internal Server Error"
  | refused failure =>
    .json (.record [("error", .text failure.kind.name), ("detail", .text failure.message)])
  | problem => .json (.record [("detail", problem.detail)])

/-- The response to a request that is not carried out. -/
def response (problem : Problem) : Response := ⟨problem.status, problem.content⟩

end Problem

end UsageLedger.Http
