import UsageLedger.Access
import UsageLedger.Calendar.Date
import UsageLedger.Calendar.Iso
import UsageLedger.Calendar.Rfc3339
import UsageLedger.Calendar.Timestamp
import UsageLedger.Config.Address
import UsageLedger.Config.Database
import UsageLedger.Config.Driver
import UsageLedger.Config.DriverOptions
import UsageLedger.Config.EnvFile
import UsageLedger.Config.LogLevel
import UsageLedger.Config.Settings
import UsageLedger.Digest.Sha256
import UsageLedger.Event.Basic
import UsageLedger.Event.Frozen
import UsageLedger.Event.Kind
import UsageLedger.Event.Payload
import UsageLedger.Event.Untyped
import UsageLedger.Failure
import UsageLedger.Fault
import UsageLedger.Http.Message
import UsageLedger.Http.Payload
import UsageLedger.Http.Problem
import UsageLedger.Http.Route
import UsageLedger.Http.Service
import UsageLedger.Http.Target
import UsageLedger.Intake.Checks
import UsageLedger.Intake.Envelope
import UsageLedger.Intake.Usage
import UsageLedger.Json.Encoding
import UsageLedger.Json.Reader
import UsageLedger.Json.Writer
import UsageLedger.Ledger.Basic
import UsageLedger.Ledger.Ingest
import UsageLedger.Ledger.Pricing
import UsageLedger.Number.Binary64
import UsageLedger.Number.Decimal
import UsageLedger.Number.Extended
import UsageLedger.Number.Shortest
import UsageLedger.Number.Significant
import UsageLedger.Proofs.Calendar.Agreement
import UsageLedger.Proofs.Calendar.Date
import UsageLedger.Proofs.Calendar.Forms
import UsageLedger.Proofs.Calendar.IsoText
import UsageLedger.Proofs.Calendar.Order
import UsageLedger.Proofs.Calendar.Reading
import UsageLedger.Proofs.Event.RoundTrip
import UsageLedger.Proofs.Http.Authorisation
import UsageLedger.Proofs.Http.Commits
import UsageLedger.Proofs.Http.Expiry
import UsageLedger.Proofs.Http.Requests
import UsageLedger.Proofs.Intake.Aggregation
import UsageLedger.Proofs.Intake.Readers
import UsageLedger.Proofs.Intake.Spelling
import UsageLedger.Proofs.Intake.Summary
import UsageLedger.Proofs.Intake.Timestamp
import UsageLedger.Proofs.Intake.Wording
import UsageLedger.Proofs.Ledger.Acceptance
import UsageLedger.Proofs.Ledger.Accepted
import UsageLedger.Proofs.Ledger.Accounts
import UsageLedger.Proofs.Ledger.Aggregates
import UsageLedger.Proofs.Ledger.Alike
import UsageLedger.Proofs.Ledger.Amounts
import UsageLedger.Proofs.Ledger.Atomicity
import UsageLedger.Proofs.Ledger.BatchChecks
import UsageLedger.Proofs.Ledger.BatchWrites
import UsageLedger.Proofs.Ledger.Batching
import UsageLedger.Proofs.Ledger.Billing
import UsageLedger.Proofs.Ledger.Chronology
import UsageLedger.Proofs.Ledger.Consistency
import UsageLedger.Proofs.Ledger.Credit
import UsageLedger.Proofs.Ledger.DatabaseFaults
import UsageLedger.Proofs.Ledger.Deliveries
import UsageLedger.Proofs.Ledger.Escapes
import UsageLedger.Proofs.Ledger.Identifiers
import UsageLedger.Proofs.Ledger.InStep
import UsageLedger.Proofs.Ledger.Isolation
import UsageLedger.Proofs.Ledger.KeyGrants
import UsageLedger.Proofs.Ledger.Limits
import UsageLedger.Proofs.Ledger.Pairing
import UsageLedger.Proofs.Ledger.Posting
import UsageLedger.Proofs.Ledger.Pricing
import UsageLedger.Proofs.Ledger.QueryFaults
import UsageLedger.Proofs.Ledger.Readings
import UsageLedger.Proofs.Ledger.Refusals
import UsageLedger.Proofs.Ledger.Rules
import UsageLedger.Proofs.Ledger.Run
import UsageLedger.Proofs.Ledger.SingleWrites
import UsageLedger.Proofs.Ledger.Stamps
import UsageLedger.Proofs.Ledger.Times
import UsageLedger.Proofs.Ledger.Totals
import UsageLedger.Proofs.Ledger.Users
import UsageLedger.Proofs.Number.Range
import UsageLedger.Proofs.Number.Whole
import UsageLedger.Proofs.Outcome
import UsageLedger.Proofs.Schema.Field
import UsageLedger.Proofs.Schema.Numeral
import UsageLedger.Proofs.Store.Agreement
import UsageLedger.Proofs.Store.Faults
import UsageLedger.Proofs.Store.Insertion
import UsageLedger.Proofs.Store.Repository
import UsageLedger.Proofs.Store.Sums
import UsageLedger.Proofs.Store.Transaction
import UsageLedger.Proofs.Text.Digits
import UsageLedger.Proofs.Text.Numeral
import UsageLedger.Proofs.Value.Record
import UsageLedger.Schema.Field
import UsageLedger.Schema.Numeral
import UsageLedger.Schema.Validated
import UsageLedger.Schema.Violation
import UsageLedger.Store.Cell
import UsageLedger.Store.Column
import UsageLedger.Store.Dialect
import UsageLedger.Store.Engine
import UsageLedger.Store.Query
import UsageLedger.Store.Repository
import UsageLedger.Store.Row
import UsageLedger.Store.Tables
import UsageLedger.Store.Transaction
import UsageLedger.Text.Blank
import UsageLedger.Text.Broken
import UsageLedger.Text.Cased
import UsageLedger.Text.Digit
import UsageLedger.Text.Integer
import UsageLedger.Text.LeadingNumber
import UsageLedger.Text.Lowercase
import UsageLedger.Text.Numeral
import UsageLedger.Text.Percent
import UsageLedger.Text.Printable
import UsageLedger.Text.Quoted
import UsageLedger.Text.Split
import UsageLedger.Text.Uppercase
import UsageLedger.Text.Utf8
import UsageLedger.Text.Word
import UsageLedger.UserId
import UsageLedger.Uuid
import UsageLedger.Value
import UsageLedger.Value.Key
import UsageLedger.Value.Shape
