/-
A call that raises has done nothing.

Every write goes through one transaction, and nothing comes after it that could raise.
So either a check refuses before the transaction was opened, or the transaction raised,
and its copy of the tables is dropped with whatever was put into it.  None of this
depends on the database: the engine may raise at any statement, hand back any
identifiers, and change its copy of the tables as it likes.
-/
import UsageLedger.Proofs.Ledger.Run
import UsageLedger.Proofs.Store.Transaction

namespace UsageLedger.Ledger

variable {α β : Type} {c : Conditions} {t : Tables}

/-- When a result is an error, its tables are those before. -/
def Leaves (t : Tables) (result : Except Raised α × Tables) : Prop :=
  ∀ e, result.1 = .error e → result.2 = t

/-! ### Around transactions -/

theorem leaves_checked {check : Except Raised α} {next : α → Except Raised β × Tables}
    (h : ∀ a, Leaves t (next a)) : Leaves t (Ingest.checked check t next) := by
  cases check with
  | error e => exact fun _ _ => rfl
  | ok a => exact h a

theorem leaves_map {result : Except Raised α × Tables} (f : α → β) (h : Leaves t result) :
    Leaves t (result.1.map f, result.2) := by
  rcases result with ⟨e | a, t'⟩
  · exact fun _ _ => h e rfl
  · intro e he
    cases he

theorem leaves_writeTransaction (description : String) (body : Txn α) :
    Leaves t (Ingest.writeTransaction c description body t) := by
  intro e he
  rcases hrun : Txn.run c body t with ⟨e' | a, t'⟩
  · rw [Ingest.writeTransaction, hrun]
    exact Txn.run_error hrun
  · rw [Ingest.writeTransaction, hrun] at he
    cases he

/-! ### Handlers -/

theorem leaves_storeSingle (kind : EventKind) (user : UserId) (record : Record) (apiKey : Value)
    (table : Table) (values : Record) :
    Leaves t (Ingest.storeSingle c kind user record apiKey table values t) :=
  leaves_checked fun _ => leaves_writeTransaction _ _

theorem leaves_addUsage (records : List Record) (apiKey : Value) :
    Leaves t (Ingest.addUsage c records apiKey t) := by
  unfold Ingest.addUsage
  split
  · intro e he
    cases he
  · refine leaves_checked fun usage => leaves_checked fun key => ?_
    exact leaves_map some (leaves_writeTransaction _ _)

theorem leaves_write (kind : EventKind) (record : Record) (apiKey : Value) :
    Leaves t (write c kind record apiKey t) := by
  cases kind with
  | sdkCall => exact leaves_map some (leaves_checked fun _ => leaves_storeSingle _ _ _ _ _ _)
  | payment => exact leaves_map some (leaves_checked fun _ => leaves_storeSingle _ _ _ _ _ _)
  | tokenUsage => exact leaves_addUsage _ _
  | addKey => exact leaves_map some (leaves_checked fun _ => leaves_writeTransaction _ _)
  | requestSdkCall | requestTokenUsage | requestPayment => exact fun _ _ => rfl

theorem leaves_run (call : Call) (c : Conditions) (t : Tables) : Leaves t (call.run c t) := by
  cases call with
  | add submission apiKey => exact leaves_checked fun _ => leaves_write _ _ _
  | addBatch submissions apiKey => exact leaves_checked fun _ => leaves_addUsage _ _

/-- A call of a run that is not accepted leaves nothing to the calls after it. -/
theorem outcome_error {scheme : IdScheme} {call : Circumstances × Call} {e : Raised}
    {t t' : Tables} (h : outcome scheme call t = (.error e, t')) : t' = t := by
  have hsame := leaves_run call.2 (call.1.onSqlite scheme) t e
  rw [outcome] at h
  rw [h] at hsame
  exact hsame rfl

/-- **A call that raises leaves every table as it was**, in whatever state, under whatever
circumstances and at whatever step it raises. -/
theorem call_atomic {c : Conditions} {call : Call} {t t' : Tables} {e : Raised}
    (h : call.run c t = (.error e, t')) : t' = t := by
  have hsame := leaves_run call c t e
  rw [h] at hsame
  exact hsame rfl

/-- The user of an SDK call is added before its key is missed, and is gone after. -/
theorem call_atomic_missing_key :
    let c := Conditions.ideal .bigint Uuid.ofNat
    let event : Event := ⟨Timestamp.first, .sdkCall (.number 7) ⟨.raw, 30⟩⟩
    let body := Ingest.storeEvent c (.number 7) event.record (some default) .sdkCalls
      (Ingest.sdkCallValues ⟨.raw, 30⟩)
    (Txn.exec body ⟨Tables.empty, [], 0⟩).2.tables.users = [.whole 7] ∧
      ∃ e t', (Call.add (.event event) (.uuid default)).run c Tables.empty = (.error e, t') ∧
        t' = Tables.empty := by
  have hraises : (Call.add (.event ⟨Timestamp.first, .sdkCall (.number 7) ⟨.raw, 30⟩⟩)
      (.uuid default)).run (Conditions.ideal .bigint Uuid.ofNat) Tables.empty
        = (.error (.failure (.eventRejected Constraint.foreignKey)), Tables.empty) := rfl
  exact ⟨rfl, _, _, hraises, call_atomic hraises⟩

end UsageLedger.Ledger
