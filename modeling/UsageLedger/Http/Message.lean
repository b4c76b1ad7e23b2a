/-
Requests and responses.

The body of a request is read before anything else is decided: as JSON when its content
type says so, in the encoding that its first bytes tell, and as one text or byte string
otherwise.  An empty body is none at all, which differs from a null.
-/
import UsageLedger.Json.Encoding
import UsageLedger.Json.Reader
import UsageLedger.Json.Writer
import UsageLedger.Text.Utf8

namespace UsageLedger.Http

/-- A request. -/
structure Request where
  method : String
  target : String
  headers : List (String × String)
  body : List UInt8
  deriving DecidableEq, Repr

/-- What a response holds. -/
inductive Content
  | text (s : String)
  | json (v : Value)
  deriving Repr

/-- A response. -/
structure Response where
  status : Nat
  content : Content
  deriving Repr

/-- A text with ASCII letters in lower case. -/
def lowerAscii (s : String) : String := String.ofList (s.toList.map Char.toLower)

/-- The first header with a name; names are told apart without regard to case. -/
def Request.header? (request : Request) (name : String) : Option String :=
  (request.headers.find? fun h => lowerAscii h.1 = name).map (·.2)

/-- Why a body cannot be read. -/
inductive BodyDefect
  /-- The defect, and how many characters come before it. -/
  | malformed (defect : Json.Defect) (position : Nat)
  /-- It is in no encoding, holds a number that is too long or is nested too deeply. -/
  | unreadable
  deriving Repr

/-- The content type is one of JSON.  Parameters after it do not matter. -/
def isJsonType (contentType : String) : Bool :=
  let name := Text.trim Text.isBlank (contentType.toList.takeWhile (· ≠ ';'))
  let lower := name.map Char.toLower
  let main := lower.takeWhile (· ≠ '/')
  let sub := (lower.dropWhile (· ≠ '/')).drop 1
  main = "application".toList && !sub.contains '/' &&
    (sub = "json".toList || "+json".toList.isSuffixOf sub)

/-- How deeply lists and records of a body may be nested. -/
def maxDepth : Nat := 900

/-- Reads a body as JSON. -/
def readJson (body : List UInt8) : Except BodyDefect Value :=
  match (Json.Encoding.ofBytes body).decode? body with
  | none => .error .unreadable
  | some cs =>
    match Json.readWithin maxDepth cs with
    | .ok v => .ok v
    | .error (.tooManyDigits, _) | .error (.tooDeep, _) => .error .unreadable
    | .error (defect, position) => .error (.malformed defect position)

/-- A body that is not JSON: a text, or bytes that encode none. -/
def plainBody (body : List UInt8) : Value :=
  match Text.readUtf8? body with
  | some s => .text s
  | none => .bytes body

/-- The body of a request, if it has one. -/
def Request.readBody (request : Request) : Except BodyDefect (Option Value) :=
  if request.body.isEmpty then .ok none
  else if ((request.header? "content-type").map isJsonType).getD false then
    (readJson request.body).map some
  else .ok (some (plainBody request.body))

/-- The response as it is sent.  One that has no standard form becomes a failure of the server, and
a request for the head alone gets no content. -/
def Response.send (response : Response) (request : Request) : Response :=
  let sent : Response := match response.content with
    | .json v => if Json.isStandard v then response else ⟨500, .text "Internal Server Error"⟩
    | .text _ => response
  if request.method = "HEAD" then ⟨sent.status, .text ""⟩ else sent

end UsageLedger.Http
