/-
Events whose payload was not checked.

An untyped event has a name for its kind, a time, any data and perhaps a user.  It can be
written as a record only when its kind exists.  Flattening it can fail on account of its
data: what says that the data cannot be written is told as a refusal, anything else is not.
-/
import UsageLedger.Event.Basic
import UsageLedger.Failure

namespace UsageLedger

/-- An event with any data. -/
structure UntypedEvent where
  kindName : AnyText
  reportedAt : Timestamp
  data : Value
  user : Option UserId
  deriving Repr

namespace UntypedEvent

open Schema

/-- The fields, in the order in which they are checked. -/
def kindField : FieldName := ⟨Event.typeKey, Event.typeKey⟩

/-- Reads an untyped event without a user; fields that nobody asked for are let be. -/
def ofRecord (now : Timestamp) (r : Record) : Validated UntypedEvent :=
  (mk · · · none) <$> required kindField readText r
    <*> defaulted Event.timestampField now readTimestamp r
    <*> defaulted Event.dataField .null (fun v => .ok v) r

/-- The kind of the event. -/
def kind? (e : UntypedEvent) : Option EventKind :=
  match e.kindName with
  | .whole s => EventKind.ofName? s
  | .broken _ => none

/-- The record of the event, of a kind that exists. -/
def record (e : UntypedEvent) (kind : EventKind) : Record :=
  [(Event.typeKey, .text kind.name), (Event.timestampField.wire, .timestamp e.reportedAt),
    (Event.dataField.wire, e.data.written)] ++
  (match e.user with | some user => [(Event.userField.wire, user.toValue)] | none => [])

/-- What is met when an event has a kind that does not exist. -/
def unknownKind (e : UntypedEvent) : Fault :=
  .badValue (e.kindName.quoted ++ " is not a valid EventType")

/-- The record that an untyped event is flattened to; `flattening` is what goes wrong with its
data. -/
def flatten (e : UntypedEvent) (flattening : Option Fault) : Except Raised Record :=
  match flattening with
  | some (.unserializable message) =>
    Raised.refuse (.unflattenable e.kindName (.unserializable message))
  | some fault => .error (.fault fault)
  | none =>
    match e.kind? with
    | none => .error (.fault e.unknownKind)
    | some kind => .ok (e.record kind)

/-- The record of an untyped event, wrapped. -/
def envelope (e : UntypedEvent) (flattening : Option Fault) : Except Raised Value :=
  (e.flatten flattening).map Event.wrap

end UntypedEvent

end UsageLedger
