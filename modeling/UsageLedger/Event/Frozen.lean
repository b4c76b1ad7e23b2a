/-
Events do not change.

Setting a field of an event is refused, whether there is such a field or not.  What belongs
to the class of an event is not for one event to set.  A name that begins with an underscore
is no field: it is a note beside the event, which stays the same.  Under a few such names an
event has what makes it an object, and this is not set to anything else.
-/
import UsageLedger.Event.Basic
import UsageLedger.Fault

namespace UsageLedger.Event

/-- What the class of an event says about all its events. -/
def classField : String := "carries_user"

/-- The refusal to set what belongs to a class. -/
def classFieldMessage (className field : String) : String :=
  "'" ++ field ++ "' is a ClassVar of \x60" ++ className ++
    "\x60 and cannot be set on an instance. If you want to set a value on the class, use \x60" ++
    className ++ "." ++ field ++ " = value\x60."

/-- Sets what is kept beside an event. -/
def setNote (className name : String) (value : Value) : Except Fault Unit :=
  match name with
  | "__class__" =>
    .error (.badType ("__class__ must be set to a class, not '" ++ value.qualifiedKindName ++
      "' object"))
  | "__dict__" =>
    match value with
    | .record _ => .ok ()
    | v =>
      .error (.badType ("__dict__ must be set to a dictionary, not a '" ++ v.qualifiedKindName ++
        "'"))
  | "__weakref__" =>
    .error (.badAttribute "attribute '__weakref__' of 'BaseEvent' objects is not writable")
  | "__fields__" | "__fields_set__" =>
    .error (.badAttribute ("property '" ++ name ++ "' of '" ++ className ++
      "' object has no setter"))
  | _ => .ok ()

/-- Sets a field of an event, as far as that is possible. -/
def setField (e : Event) (field : Value) (value : Value) : Except Fault Unit :=
  let className := e.kind.className
  match field with
  | .text name =>
    if name = classField then .error (.badAttribute (classFieldMessage className name))
    else if name.toList.head? = some '_' then setNote className name value
    else .error (.invalid (Schema.violation .frozen [.field name] value))
  | v => .error (.badType ("attribute name must be string, not '" ++ v.qualifiedKindName ++ "'"))

end UsageLedger.Event
