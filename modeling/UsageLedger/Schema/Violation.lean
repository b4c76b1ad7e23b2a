/-
What is wrong with a value, and where.

A schema compares a submitted value with the shape it should have.  Each difference is
a violation: a defect, the path from the whole value to the place, and the value found
there.  `SchemaDefect.code` is the short name of a defect, `SchemaDefect.message` its
wording.
-/
import UsageLedger.Calendar.Rfc3339
import UsageLedger.UserId

namespace UsageLedger

/-- One step from a value into it. -/
inductive PathStep
  | field (name : String)
  | index (i : Nat)
  deriving DecidableEq, Repr

/-- How a value differs from its schema. -/
inductive SchemaDefect
  | missing
  | unknownField
  /-- A record of a named shape was needed. -/
  | notShape (name : String)
  | notObject
  | notRecord
  | notList
  | kindMissing
  | kindUnknown (kind : Value)
  /-- A rule of the ledger was broken. -/
  | refused (reason : String)
  | notInteger
  | unreadableInteger
  | hugeInteger
  | fractionalNumber
  | infiniteNumber
  | notText
  | notUnicode
  | tooShort (least : Nat)
  | tooLong (most : Nat)
  /-- None of the listed choices; the list is given as it is worded. -/
  | notChoice (choices : String)
  /-- None of the listed spellings; the list is given as it is worded. -/
  | notLiteral (choices : String)
  | notNull
  | frozen
  | notTimestamp
  | badTimestamp (defect : Calendar.TimestampDefect)
  deriving Repr

/-- A difference between a value and its schema. -/
structure Violation where
  defect : SchemaDefect
  path : List PathStep
  /-- What was found there; the record around it when something is missing. -/
  input : Value
  deriving Repr

namespace SchemaDefect

/-- The wording for a Unix time beyond the last year. -/
def lateReason : String := "dates after 9999 are not supported as unix timestamps"

/-- The wording for a Unix time before the first year. -/
def earlyReason : String := "dates before 0000 are not supported as unix timestamps"

/-- The wording of what is wrong with a text as a date. -/
def dateReason : Calendar.DateDefect → String
  | .tooShort => "input is too short"
  | .yearCharacter => "invalid character in year"
  | .separator => "invalid date separator, expected \x60-\x60"
  | .monthCharacter => "invalid character in month"
  | .dayCharacter => "invalid character in day"
  | .monthRange => "month value is outside expected range of 1-12"
  | .dayRange => "day value is outside expected range"
  | .trailing => "unexpected extra characters at the end of the input"
  | .tooLate => lateReason
  | .tooEarly => earlyReason

/-- The reason why something is no timestamp. -/
def timestampReason : Calendar.TimestampDefect → String
  | .undefinedNumber => "NaN values not permitted"
  | .afterYear9999 => lateReason
  | .beforeYear0 => earlyReason
  | .yearZero => "year 0 is out of range"
  | .date defect => dateReason defect

/-- The kinds of events, as an unknown kind is told them. -/
def knownKinds : String :=
  "'SDK_CALL', 'PAYMENT', 'AI_TOKEN_USAGE', 'ADD_KEY', 'REQUEST_SDK_CALL', " ++
    "'REQUEST_AI_TOKEN_USAGE', 'REQUEST_PAYMENT'"

/-- A number of characters in words. -/
def characters (n : Nat) : String :=
  Text.integer n ++ (if n = 1 then " character" else " characters")

/-- The short name of a defect. -/
def code : SchemaDefect → String
  | missing => "missing"
  | unknownField => "extra_forbidden"
  | notShape _ => "model_type"
  | notObject => "model_attributes_type"
  | notRecord => "dict_type"
  | notList => "list_type"
  | kindMissing => "union_tag_not_found"
  | kindUnknown _ => "union_tag_invalid"
  | refused _ => "value_error"
  | notInteger => "int_type"
  | unreadableInteger => "int_parsing"
  | hugeInteger => "int_parsing_size"
  | fractionalNumber => "int_from_float"
  | infiniteNumber => "finite_number"
  | notText => "string_type"
  | notUnicode => "string_unicode"
  | tooShort _ => "string_too_short"
  | tooLong _ => "string_too_long"
  | notChoice _ => "enum"
  | notLiteral _ => "literal_error"
  | notNull => "none_required"
  | frozen => "frozen_instance"
  | notTimestamp => "datetime_type"
  | badTimestamp (.date _) => "datetime_from_date_parsing"
  | badTimestamp _ => "datetime_parsing"

/-- The wording of a defect. -/
def message : SchemaDefect → String
  | missing => "Field required"
  | unknownField => "Extra inputs are not permitted"
  | notShape name => "Input should be a valid dictionary or instance of " ++ name
  | notObject => "Input should be a valid dictionary or object to extract fields from"
  | notRecord => "Input should be a valid dictionary"
  | notList => "Input should be a valid list"
  | kindMissing => "Unable to extract tag using discriminator 'type'"
  | kindUnknown kind =>
    "Input tag '" ++ kind.plain ++
      "' found using 'type' does not match any of the expected tags: " ++ knownKinds
  | refused reason => "Value error, " ++ reason
  | notInteger => "Input should be a valid integer"
  | unreadableInteger => "Input should be a valid integer, unable to parse string as an integer"
  | hugeInteger => "Unable to parse input string as an integer, exceeded maximum size"
  | fractionalNumber => "Input should be a valid integer, got a number with a fractional part"
  | infiniteNumber => "Input should be a finite number"
  | notText => "Input should be a valid string"
  | notUnicode => "Input should be a valid string, unable to parse raw data as a unicode string"
  | tooShort least => "String should have at least " ++ characters least
  | tooLong most => "String should have at most " ++ characters most
  | notChoice choices => "Input should be " ++ choices
  | notLiteral choices => "Input should be " ++ choices
  | notNull => "Input should be None"
  | frozen => "Instance is frozen"
  | notTimestamp => "Input should be a valid datetime"
  | badTimestamp (.date defect) => "Input should be a valid datetime or date, " ++ dateReason defect
  | badTimestamp defect => "Input should be a valid datetime, " ++ timestampReason defect

/-- What an answer adds to the message: the limit, the reason or the choices concerned. -/
def context : SchemaDefect → Record
  | tooShort least => [("min_length", .int least)]
  | tooLong most => [("max_length", .int most)]
  | notChoice choices => [("expected", .text choices)]
  | badTimestamp defect => [("error", .text (timestampReason defect))]
  | _ => []

end SchemaDefect

/-- A violation seen from outside: the path begins with the given steps. -/
def Violation.under (steps : List PathStep) (v : Violation) : Violation :=
  { v with path := steps ++ v.path }

end UsageLedger
