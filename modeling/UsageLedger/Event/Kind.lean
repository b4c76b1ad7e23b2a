/-
The kinds of events.

Four kinds change the ledger and three ask for a price.  The name of a kind is how it
travels; `EventKind.ofName?_name` says that no two kinds share one.
-/

namespace UsageLedger

/-- What an event is about. -/
inductive EventKind
  | sdkCall
  | payment
  | tokenUsage
  | addKey
  | requestSdkCall
  | requestTokenUsage
  | requestPayment
  deriving DecidableEq, Repr, Inhabited

namespace EventKind

/-- All kinds, in the order of their declaration. -/
def all : List EventKind :=
  [sdkCall, payment, tokenUsage, addKey, requestSdkCall, requestTokenUsage, requestPayment]

/-- The name under which a kind travels. -/
def name : EventKind → String
  | sdkCall => "SDK_CALL"
  | payment => "PAYMENT"
  | tokenUsage => "AI_TOKEN_USAGE"
  | addKey => "ADD_KEY"
  | requestSdkCall => "REQUEST_SDK_CALL"
  | requestTokenUsage => "REQUEST_AI_TOKEN_USAGE"
  | requestPayment => "REQUEST_PAYMENT"

/-- The kind with a name. -/
def ofName? (name : String) : Option EventKind := all.find? (·.name = name)

theorem ofName?_name (kind : EventKind) : ofName? kind.name = some kind := by
  cases kind <;> decide

theorem name_of_ofName? {name : String} {kind : EventKind} (h : ofName? name = some kind) :
    kind.name = name := by
  unfold ofName? at h
  simpa using List.find?_some h

/-- The name of the class of events of a kind. -/
def className : EventKind → String
  | sdkCall => "SDKCall"
  | payment => "Payment"
  | tokenUsage => "AITokenUsage"
  | addKey => "AddKey"
  | requestSdkCall => "RequestSDKCall"
  | requestTokenUsage => "RequestAITokenUsage"
  | requestPayment => "RequestPayment"

/-- Events of the kind change the ledger. -/
def isMutating : EventKind → Bool
  | sdkCall | payment | tokenUsage | addKey => true
  | _ => false

/-- Events of the kind ask for a price. -/
def isRequest (kind : EventKind) : Bool := !kind.isMutating

/-- Events of the kind name a user. -/
def carriesUser : EventKind → Bool
  | addKey => false
  | _ => true

/-- Writing an event of the kind needs the key it was reported with. -/
def needsApiKey : EventKind → Bool
  | sdkCall | tokenUsage => true
  | _ => false

/-- Kinds in the alphabetical order of their names. -/
def sorted (kinds : List EventKind) : List EventKind :=
  [addKey, tokenUsage, payment, requestTokenUsage, requestPayment, requestSdkCall, sdkCall].filter
    fun kind => kinds.contains kind

/-- A kind as it is told in a list of kinds. -/
def listed (kind : EventKind) : String :=
  "<EventType." ++ kind.name ++ ": '" ++ kind.name ++ "'>"

end EventKind

end UsageLedger
