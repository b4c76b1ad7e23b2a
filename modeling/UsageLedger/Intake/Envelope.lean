/-
From what is submitted to the record inside, and from the record to its kind.

An event can be submitted as an event, with its payload checked or not, or as the record
it is written as inside its envelope.  Which kinds are written and which are priced is laid
down in two lists; `checkDispatch` refuses lists that leave a kind out or name one twice, and
`dispatch_complete` says that the ledger's own lists pass.
-/
import UsageLedger.Event.Untyped

namespace UsageLedger

/-- What is handed to the ledger: an event, or the envelope of one. -/
inductive Submission
  | event (e : Event)
  /-- An event whose payload was not checked, and what goes wrong when it is flattened. -/
  | untyped (e : UntypedEvent) (flattening : Option Fault)
  | envelope (v : Value)
  deriving Repr

namespace Intake

/-- The record inside a submission. -/
def unwrap : Submission → Except Raised Record
  | .event e => .ok e.record
  | .untyped e flattening => e.flatten flattening
  | .envelope (.record fields) =>
    match Record.get fields Event.envelopeKey with
    | .null => Raised.refuse .missingRecord
    | .record r => .ok r
    | v => Raised.refuse (.notMapping v.kindName)
  | .envelope v => Raised.refuse (.notEnvelope v.kindName)

/-- The kinds that are written. -/
def writeKinds : List EventKind := [.sdkCall, .payment, .tokenUsage, .addKey]

/-- The kinds that are priced. -/
def priceKinds : List EventKind := [.requestSdkCall, .requestTokenUsage, .requestPayment]

/-- The kind of a record, if it is one of those accepted. -/
def acceptedKind (record : Record) (accepted : List EventKind) : Except Failure EventKind :=
  let given := record.get Event.typeKey
  match Event.kindOf? given with
  | some kind => if kind ∈ accepted then .ok kind else .error (.unknownEventType given none)
  | none => .error (.unknownEventType given none)

/-- The kind of a record.  The refusal shows what stands in its place, and only what is not nested
too deeply can be shown. -/
def resolveKind (depth : Nat) (record : Record) (accepted : List EventKind) :
    Except Raised EventKind :=
  (acceptedKind record accepted).mapError (Failure.told depth)

/-- Kinds as they are told in a message. -/
def listKinds (kinds : List EventKind) : String :=
  "[" ++ Value.joinWith ", " ((EventKind.sorted kinds).map EventKind.listed) ++ "]"

/-- Every kind has to be either written or priced, and none both. -/
def checkDispatch (write price : List EventKind) : Except Fault Unit :=
  let both := EventKind.all.filter fun kind => write.contains kind && price.contains kind
  let neither := EventKind.all.filter fun kind => !write.contains kind && !price.contains kind
  if both ≠ [] then
    .error (.runtime ("Event types registered as both write and price: " ++ listKinds both))
  else if neither ≠ [] then
    .error (.runtime ("Event types without a storage handler: " ++ listKinds neither))
  else .ok ()

theorem dispatch_complete : checkDispatch writeKinds priceKinds = .ok () := by rfl

end Intake

end UsageLedger
