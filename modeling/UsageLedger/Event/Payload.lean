/-
What events carry.

Each mutating kind has a payload with typed fields.  A payload is read from a record by
its schema, which knows the fields, their aliases and nothing else, and is written back
under its aliases; writing and reading again gives the same payload.  Schemas describe
structure only: whether an amount may be negative is decided where events are stored.
-/
import UsageLedger.Schema.Field

namespace UsageLedger

/-- How an SDK was called. -/
inductive SdkCallType
  | raw
  | middlewareCall
  deriving DecidableEq, Repr

/-- The name of a call type. -/
def SdkCallType.name : SdkCallType → String
  | raw => "RAW"
  | middlewareCall => "MIDDLEWARE_CALL"

/-- A call type as a member of its enumeration. -/
def SdkCallType.literal (t : SdkCallType) : String :=
  "<SDKCallType." ++ t.name ++ ": '" ++ t.name ++ "'>"

/-- A call that is charged. -/
structure SdkCallData where
  callType : SdkCallType
  /-- Negative amounts are refunds. -/
  debitAmount : Int
  deriving DecidableEq, Repr

/-- Money received, in minor units. -/
structure PaymentData where
  creditAmount : Int
  deriving DecidableEq, Repr

/-- Use of a language model. -/
structure TokenUsageData where
  model : String
  inputTokens : Int
  outputTokens : Int
  inputDebitAmount : Int
  outputDebitAmount : Int
  deriving DecidableEq, Repr

/-- An API key to be created; the key itself is given by its digest. -/
structure KeyGrantData where
  name : AnyText
  key : AnyText
  expiresAt : Timestamp
  deriving DecidableEq, Repr

open Schema

namespace SdkCallData

def callTypeField : FieldName := ⟨"sdk_call_type", "sdkCallType"⟩
def debitAmountField : FieldName := ⟨"debit_amount", "debitAmount"⟩

/-- The fields, in the order in which they are checked. -/
def fields : List FieldName := [callTypeField, debitAmountField]

/-- Reads a call type. -/
def readCallType : Value → Except SchemaDefect SdkCallType :=
  readChoice [("RAW", .raw), ("MIDDLEWARE_CALL", .middlewareCall)] "'RAW' or 'MIDDLEWARE_CALL'"

/-- Reads the payload of an SDK call. -/
def ofValue : Value → Validated SdkCallData :=
  shape "SDKCallData" fields fun r =>
    mk <$> required callTypeField readCallType r <*> required debitAmountField readInteger r

/-- The values of the fields, in order. -/
def values (d : SdkCallData) : List Value := [.text d.callType.name, .int d.debitAmount]

end SdkCallData

namespace PaymentData

def creditAmountField : FieldName := ⟨"credit_amount", "creditAmount"⟩

/-- The fields, in the order in which they are checked. -/
def fields : List FieldName := [creditAmountField]

/-- Reads the payload of a payment. -/
def ofValue : Value → Validated PaymentData :=
  shape "PaymentData" fields fun r => mk <$> required creditAmountField readInteger r

/-- The values of the fields, in order. -/
def values (d : PaymentData) : List Value := [.int d.creditAmount]

end PaymentData

namespace TokenUsageData

def modelField : FieldName := ⟨"model", "model"⟩
def inputTokensField : FieldName := ⟨"input_tokens", "inputTokens"⟩
def outputTokensField : FieldName := ⟨"output_tokens", "outputTokens"⟩
def inputDebitAmountField : FieldName := ⟨"input_debit_amount", "inputDebitAmount"⟩
def outputDebitAmountField : FieldName := ⟨"output_debit_amount", "outputDebitAmount"⟩

/-- The fields, in the order in which they are checked. -/
def fields : List FieldName :=
  [modelField, inputTokensField, outputTokensField, inputDebitAmountField, outputDebitAmountField]

/-- Reads the payload of a use of a language model. -/
def ofValue : Value → Validated TokenUsageData :=
  shape "AITokenUsageData" fields fun r =>
    mk <$> required modelField (readTextWithin 1 100) r
      <*> required inputTokensField readInteger r
      <*> required outputTokensField readInteger r
      <*> required inputDebitAmountField readInteger r
      <*> required outputDebitAmountField readInteger r

/-- The values of the fields, in order. -/
def values (d : TokenUsageData) : List Value :=
  [.text d.model, .int d.inputTokens, .int d.outputTokens, .int d.inputDebitAmount,
    .int d.outputDebitAmount]

end TokenUsageData

namespace KeyGrantData

def nameField : FieldName := ⟨"name", "name"⟩
def keyField : FieldName := ⟨"key", "key"⟩
def expiresAtField : FieldName := ⟨"expires_at", "expiresAt"⟩

/-- The fields, in the order in which they are checked. -/
def fields : List FieldName := [nameField, keyField, expiresAtField]

/-- Reads the payload of a key grant. -/
def ofValue : Value → Validated KeyGrantData :=
  shape "AddKeyData" fields fun r =>
    mk <$> required nameField readText r <*> required keyField readText r
      <*> required expiresAtField readTimestamp r

/-- The values of the fields, in order. -/
def values (d : KeyGrantData) : List Value :=
  [.ofText d.name, .ofText d.key, .timestamp d.expiresAt]

end KeyGrantData

/-- A payload of some kind. -/
inductive Payload
  | sdkCall (data : SdkCallData)
  | payment (data : PaymentData)
  | tokenUsage (data : TokenUsageData)
  | keyGrant (data : KeyGrantData)
  deriving DecidableEq, Repr

namespace Payload

/-- The fields of a payload with their values, in order. -/
def fieldValues : Payload → List (FieldName × Value)
  | sdkCall d => SdkCallData.fields.zip d.values
  | payment d => PaymentData.fields.zip d.values
  | tokenUsage d => TokenUsageData.fields.zip d.values
  | keyGrant d => KeyGrantData.fields.zip d.values

/-- The payload under the aliases of its fields, as it travels. -/
def wire (p : Payload) : Record := p.fieldValues.map fun fv => (fv.1.wire, fv.2)

/-- The name of the class of a payload. -/
def className : Payload → String
  | sdkCall _ => "SDKCallData"
  | payment _ => "PaymentData"
  | tokenUsage _ => "AITokenUsageData"
  | keyGrant _ => "AddKeyData"

/-- The literals of the fields; a call type is shown as a member of its enumeration. -/
def fieldLiterals : Payload → List String
  | sdkCall d => [d.callType.literal, Text.integer d.debitAmount]
  | payment d => Value.literals d.values
  | tokenUsage d => Value.literals d.values
  | keyGrant d => Value.literals d.values

/-- The text of a payload that shows its class. -/
def literal (p : Payload) : String :=
  Value.objectLiteral p.className
    ((p.fieldValues.map fun fv => fv.1.name).zip p.fieldLiterals)

/-- The payload under the names of its fields. -/
def named (p : Payload) : Record := p.fieldValues.map fun fv => (fv.1.name, fv.2)

end Payload

end UsageLedger
