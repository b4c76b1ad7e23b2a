/-
What a user owes.

A price is a sum of stored debits, read from the answer of a query.  The total is no
query of its own: it asks a dispatcher for the two sums and adds them, so its outcome is
settled by theirs (`totalPrice`).  A record that asks for no price is refused by what stands
in the place of its kind, which can be nested too deeply to be shown; `depth` is the room
that there is for it.  Whoever answers a query or a dispatch may keep a
state, which is handed through.
-/
import UsageLedger.Intake.Envelope
import UsageLedger.Intake.Checks
import UsageLedger.Store.Query
import UsageLedger.Text.Numeral

namespace UsageLedger.Pricing

/-- Something that is asked and may change a state by it. -/
abbrev Asked (σ ι α : Type) := ι → σ → Except Raised α × σ

/-- A whole number, or why there is none. -/
def wholeNumber (v : Value) : Except Fault Int :=
  match v with
  | .bool _ => .error (.badType "boolean is not a price")
  | .int n => .ok n
  | .float x =>
    match x.truncate? with
    | some n => .ok n
    | none => .error (.badValue ("non-finite aggregate " ++ v.plain))
  | .decimal d =>
    if (Binary64.ofDecimal d).isFinite then .ok (d.truncate?.getD 0)
    else .error (.badValue ("non-finite aggregate " ++ v.plain))
  | v =>
    (Text.readWhole (String.ofList (Text.trim Text.isBlank v.plain.toList))).mapError
      fun defect => .badValue defect.message

/-- Reads the answer of a query; no rows are worth nothing. -/
def parsePrice (v user : Value) : Except Failure Int :=
  match v with
  | .null => .ok 0
  | v => (wholeNumber v).mapError fun fault => .price user fault

/-- Asks a query and reads the answer. -/
def sumFor {σ : Type} (ask : Asked σ Query Value) (query : Query) (user : UserId) (label : String)
    (s : σ) : Except Raised Int × σ :=
  match ask query s with
  | (.ok v, s) => (Raised.ofFailure (parsePrice v user.toValue), s)
  | (.error (.fault (.database e)), s) => (Raised.refuse (.query label user (.database e)), s)
  | (.error e, s) => (.error e, s)

/-- An outcome in which every fault has become a failure. -/
def guarded {α : Type} (outcome : Except Raised α) : Except Raised α :=
  outcome.mapError fun e =>
    match e with
    | .fault fault => .failure (.price .null fault)
    | .failure f => .failure f

/-- The price of the SDK calls of the user of a record. -/
def sdkCallPrice {σ : Type} (scheme : IdScheme) (ask : Asked σ Query Value) (record : Record)
    (s : σ) : Except Raised Int × σ :=
  match Intake.requireUser scheme record EventKind.requestSdkCall.name with
  | .error f => (Raised.refuse f, s)
  | .ok user =>
    let (outcome, s) := sumFor ask (.sdkDebits user) user EventKind.sdkCall.name s
    (guarded outcome, s)

/-- The price of the token usage of the user of a record. -/
def tokenUsagePrice {σ : Type} (scheme : IdScheme) (ask : Asked σ Query Value) (record : Record)
    (s : σ) : Except Raised Int × σ :=
  match Intake.requireUser scheme record EventKind.requestTokenUsage.name with
  | .error f => (Raised.refuse f, s)
  | .ok user =>
    let (outcome, s) := sumFor ask (.tokenDebits user) user EventKind.tokenUsage.name s
    (guarded outcome, s)

/-- The kinds whose prices make up the total. -/
def components : List EventKind := [.requestSdkCall, .requestTokenUsage]

/-- The record as a request of another kind. -/
def retyped (record : Record) (kind : EventKind) : Record :=
  (record.set Event.typeKey (.text kind.name)).set Intake.dataKey .null

/-- The price of a component, as a dispatcher answered it. -/
def componentPrice (user : UserId) (kind : EventKind) : Value → Except Raised Int
  | .int n => .ok n
  | v => Raised.refuse (.price user.toValue
      (.badValue ("Invalid " ++ kind.name ++ " price value returned: " ++ v.literal)))

/-- Adds the prices of components to a sum, up to the first that has none. -/
def addComponents {σ : Type} (user : UserId) (record : Record) (dispatch : Asked σ Record Value) :
    List EventKind → Int → σ → Except Raised Int × σ
  | [], total, s => (.ok total, s)
  | kind :: rest, total, s =>
    match dispatch (retyped record kind) s with
    | (.error e, s) => (.error e, s)
    | (.ok v, s) =>
      match componentPrice user kind v with
      | .error e => (.error e, s)
      | .ok n => addComponents user record dispatch rest (total + n) s

/-- All that the user of a record owes. -/
def totalPrice {σ : Type} (scheme : IdScheme) (record : Record) (dispatch : Asked σ Record Value)
    (s : σ) : Except Raised Int × σ :=
  match Intake.requireUser scheme record EventKind.requestPayment.name with
  | .error f => (Raised.refuse f, s)
  | .ok user =>
    let (outcome, s) := addComponents user record dispatch components 0 s
    (guarded outcome, s)

/-- The price of a component of the total. -/
def priceComponent {σ : Type} (scheme : IdScheme) (depth : Nat) (ask : Asked σ Query Value)
    (record : Record) (s : σ) : Except Raised Int × σ :=
  match Intake.resolveKind depth record components with
  | .ok .requestSdkCall => sdkCallPrice scheme ask record s
  | .ok .requestTokenUsage => tokenUsagePrice scheme ask record s
  | .ok kind => (Raised.refuse (.unknownEventType (.text kind.name) none), s)
  | .error e => (.error e, s)

/-- The price of a component, as the answer of a dispatcher. -/
def dispatchComponent {σ : Type} (scheme : IdScheme) (depth : Nat) (ask : Asked σ Query Value) :
    Asked σ Record Value := fun record s =>
  let (outcome, s) := priceComponent scheme depth ask record s
  (outcome.map Value.int, s)

/-- The price that a record asks for. -/
def priceRecord {σ : Type} (scheme : IdScheme) (depth : Nat) (ask : Asked σ Query Value)
    (record : Record) (s : σ) : Except Raised Int × σ :=
  match Intake.resolveKind depth record Intake.priceKinds with
  | .error e => (.error e, s)
  | .ok .requestPayment => totalPrice scheme record (dispatchComponent scheme depth ask) s
  | .ok _ => priceComponent scheme depth ask record s

/-- The price that a submission asks for. -/
def price {σ : Type} (scheme : IdScheme) (depth : Nat) (ask : Asked σ Query Value)
    (submission : Submission) (s : σ) : Except Raised Int × σ :=
  match Intake.unwrap submission with
  | .error e => (.error e, s)
  | .ok record => priceRecord scheme depth ask record s

/-- The tables answer every query and do not change by it. -/
def askTables (t : Tables) : Asked Unit Query Value := fun query s =>
  ((t.answer query).mapError fun e => .fault (.database e), s)

/-- The price that a submission asks for, from the stored tables. -/
def priceFrom (scheme : IdScheme) (depth : Nat) (t : Tables) (submission : Submission) :
    Except Raised Int :=
  (price scheme depth (askTables t) submission ()).1

end UsageLedger.Pricing
