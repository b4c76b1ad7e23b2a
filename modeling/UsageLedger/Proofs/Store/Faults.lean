/-
What a fault of the database comes to inside a transaction.

A transaction meets its database at a few moments: when it is opened, at each of its
statements, and when it is committed.  A fault is met by the one step whose statement it is
raised at, and the steps before and after do not see it (`Overrides`).  Each step tells
errors of the database in its own words and lets everything else through, and the transaction
tells what was let through, so moment and fault settle between them what a call ends with
(`Moment.verdict`).  Only the statement that adds users passes a fault over: a report that a
user is there already, when the dialect can make it out.  Steps that meet faults by their
verdicts do so one after the other as well (`StepsAt.bind`), which is all that a body is.
-/
import UsageLedger.Ledger.Ingest
import UsageLedger.Proofs.Store.Repository

namespace UsageLedger

/-- The moments at which a transaction meets its database. -/
inductive Moment
  | opening
  | users
  | events
  | details
  | key
  | commit
  deriving DecidableEq, Repr

/-- The moment at which rows are added to a table. -/
def Table.moment : Table → Moment
  | users => .users
  | apiKeys => .key
  | events => .events
  | sdkCalls | payments | tokenUsages => .details

/-- The moment at which a statement is executed. -/
def Statement.moment : Statement → Moment
  | ensureUsers _ => .users
  | insert table _ _ => table.moment

/-! ### Other answers -/

/-- What a database makes of a statement that it is not asked to execute. -/
abbrev Answering := Tables → Except Raised (Tables × List (Option Uuid))

namespace Conditions

/-- The circumstances with another answer to the statements of a moment. -/
def answering (c : Conditions) (m : Moment) (answer : Answering) : Conditions :=
  { c with engine := fun n statement t =>
      if statement.moment = m then answer t else c.engine n statement t }

/-- The circumstances with a fault at a moment. -/
def failing (c : Conditions) (m : Moment) (x : Fault) : Conditions :=
  { c.answering m fun _ => .error (.fault x) with
    opening := if m = .opening then some (.fault x) else c.opening
    commit := if m = .commit then some (.fault x) else c.commit }

/-- The circumstances in which nothing is done about users. -/
def passing (c : Conditions) : Conditions := c.answering .users fun t => .ok (t, [])

/-- Circumstances that differ in the answer to the statements of a moment, and perhaps in what
opening and committing raise. -/
structure Overrides (c' c : Conditions) (m : Moment) (answer : Answering) : Prop where
  scheme : c'.scheme = c.scheme
  dialect : c'.dialect = c.dialect
  fresh : c'.fresh = c.fresh
  broken : c'.broken = c.broken
  engine : ∀ n statement t, c'.engine n statement t
    = if statement.moment = m then answer t else c.engine n statement t

theorem overrides_failing (c : Conditions) (m : Moment) (x : Fault) :
    (c.failing m x).Overrides c m fun _ => .error (.fault x) :=
  ⟨rfl, rfl, rfl, rfl, fun _ _ _ => rfl⟩

theorem overrides_passing (c : Conditions) : c.passing.Overrides c .users fun t => .ok (t, []) :=
  ⟨rfl, rfl, rfl, rfl, fun _ _ _ => rfl⟩

end Conditions

/-! ### Duplicates -/

namespace Dialect

variable {dialect : Dialect} {error other : ErrorObject}

/-- Whether an error tells of a duplicate is read off its code, or off its text when it has none. -/
theorem isDuplicate_congr (hcode : dialect.duplicateCode error = dialect.duplicateCode other)
    (htext : dialect.duplicateCode error = .ok none → error.text = other.text) :
    dialect.isDuplicate error = dialect.isDuplicate other := by
  unfold isDuplicate
  rw [← hcode]
  rcases herror : dialect.duplicateCode error with defect | _ | verdict
  · rfl
  · rw [htext herror]
  · rfl

theorem exists_isDuplicate {code : Option Bool} (h : dialect.duplicateCode error = .ok code) :
    ∃ verdict, dialect.isDuplicate error = .ok verdict := by
  unfold isDuplicate
  rw [h]
  cases code with
  | none => exact ⟨_, rfl⟩
  | some verdict => exact ⟨verdict, rfl⟩

/-- A supported database says of every report whether it tells of a duplicate: what SQLite looks up
is a number. -/
theorem exists_isDuplicate_report (hdialect : dialect ∈ supported) (report : DriverReport) :
    ∃ verdict, dialect.isDuplicate report.error = .ok verdict := by
  simp only [supported, List.mem_cons, List.not_mem_nil, or_false] at hdialect
  rcases hdialect with rfl | rfl | rfl
  · exact exists_isDuplicate rfl
  · obtain ⟨code, hcode⟩ : ∃ code, mysqlCode report.error = .ok code := by
      unfold mysqlCode
      split <;> exact ⟨_, rfl⟩
    exact exists_isDuplicate hcode
  · obtain ⟨code, hcode⟩ : ∃ code, sqliteCode report.error = .ok code := by
      unfold sqliteCode DriverReport.error
      cases report.sqliteCode with
      | none => exact ⟨_, rfl⟩
      | some n => exact ⟨_, rfl⟩
    exact exists_isDuplicate hcode

end Dialect

/-! ### Verdicts -/

/-- The kind of failure that a fault is told as where rows are added: broken constraints and faults
that are none of the database have kinds of their own. -/
def Fault.insertKind (other : FailureKind) : Fault → FailureKind
  | database (.integrity _) => .constraintViolation
  | database _ => other
  | _ => .transactionFailed

/-- The kind of failure that a fault is told as where users are added. -/
def Fault.userKind : Fault → FailureKind
  | database _ => .userInsertFailed
  | _ => .transactionFailed

/-- What comes of a fault where users are added; nothing when it says that one is there already. -/
def Fault.userVerdict (dialect : Dialect) (x : Fault) : Option (FailureKind × Fault) :=
  match x with
  | database (.integrity report) =>
    match dialect.isDuplicate report.error with
    | .ok true => none
    | .ok false => some (.userInsertFailed, x)
    | .error defect => some (.transactionFailed, defect)
  | database _ => some (.userInsertFailed, x)
  | _ => some (.transactionFailed, x)

/-- On a supported database a fault where users are added is told as itself, unless it is a report
that one is there already. -/
theorem Fault.userVerdict_of_supported {dialect : Dialect} (hdialect : dialect ∈ Dialect.supported)
    (x : Fault) :
    x.userVerdict dialect = some (x.userKind, x) ∨
      x.userVerdict dialect = none ∧ ∃ report, x = .database (.integrity report) ∧
        dialect.isDuplicate report.error = .ok true := by
  unfold userVerdict
  split
  · next report =>
      obtain ⟨verdict, hverdict⟩ := Dialect.exists_isDuplicate_report hdialect report
      rw [hverdict]
      cases verdict with
      | true => exact .inr ⟨rfl, report, rfl, hverdict⟩
      | false => exact .inl rfl
  · exact .inl rfl
  · next hother =>
      left
      cases x with
      | database error => exact absurd rfl (hother error)
      | _ => rfl

/-- The kind of failure and the cause that a fault at a moment is told as, unless it is passed
over. -/
def Moment.verdict (dialect : Dialect) (m : Moment) (x : Fault) : Option (FailureKind × Fault) :=
  match m with
  | opening | commit => some (.transactionFailed, x)
  | users => x.userVerdict dialect
  | events => some (x.insertKind .eventInsertFailed, x)
  | details | key => some (x.insertKind .insertFailed, x)

/-- An outcome is a failure of a kind with a cause. -/
def Refused {α : Type} (kind : FailureKind) (cause : Fault) (outcome : Except Raised α) : Prop :=
  ∃ f : Failure, outcome = .error (.failure f) ∧ f.kind = kind ∧ f.cause? = some cause

/-- An outcome is an error that a transaction tells as a failure of a kind with a cause. -/
def Fails {α : Type} (kind : FailureKind) (cause : Fault) (outcome : Except Raised α) : Prop :=
  ∀ description, Refused kind cause (outcome.mapError (Ingest.explain description))

namespace Fails

variable {α β : Type} {kind : FailureKind} {cause x : Fault}

theorem of_failure {f : Failure} (hkind : f.kind = kind) (hcause : f.cause? = some cause) :
    Fails kind cause (.error (.failure f) : Except Raised α) :=
  fun _ => ⟨f, rfl, hkind, hcause⟩

theorem of_fault : Fails .transactionFailed x (.error (.fault x) : Except Raised α) :=
  fun _ => ⟨_, rfl, rfl, rfl⟩

theorem exists_error {outcome : Except Raised α} (h : Fails kind cause outcome) :
    ∃ e, outcome = .error e := by
  obtain ⟨f, hf, -⟩ := h ""
  cases outcome with
  | error e => exact ⟨e, rfl⟩
  | ok a => cases hf

theorem bind {outcome : Except Raised α} (h : Fails kind cause outcome)
    (next : α → Except Raised β) : Fails kind cause (outcome >>= next) := by
  obtain ⟨e, rfl⟩ := h.exists_error
  intro description
  obtain ⟨f, hf, hkind, hcause⟩ := h description
  exact ⟨f, congrArg Except.error (Except.error.inj hf), hkind, hcause⟩

end Fails

/-- What comes of a fault: an error of its verdict, or another outcome when it is passed over. -/
def Settles {α : Type} (verdict : Option (FailureKind × Fault))
    (outcome passed : Except Raised α) : Prop :=
  match verdict with
  | none => outcome = passed
  | some (kind, cause) => Fails kind cause outcome

/-- Faults are passed over only where users are added. -/
theorem Moment.eq_users_of_verdict {dialect : Dialect} {m : Moment} {x : Fault}
    (h : m.verdict dialect x = none) : m = .users := by
  cases m with
  | users => rfl
  | opening | commit | events | details | key => cases h

namespace Txn

variable {α β : Type} {c c' : Conditions} {m : Moment} {answer : Answering} {w : Work}

/-! ### Steps that meet faults -/

theorem drawFor_of_overrides (h : c'.Overrides c m answer) (items : List α) :
    drawFor c' items = drawFor c items := by
  unfold drawFor draw
  rw [h.fresh]

theorem exec_execute_of_overrides {statement : Statement}
    (h : c'.Overrides c statement.moment answer) : exec (execute c' statement) w
      = match answer w.tables with
        | .error e => (.error e, { w with executed := w.executed ++ [statement] })
        | .ok (t, ids) => (.ok ids, ⟨t, w.executed ++ [statement], w.drawn⟩) := by
  have hexec := exec_execute (c := c') statement w
  rw [h.engine, if_pos rfl] at hexec
  exact hexec

/-- A part that raises the faults of a moment and does not see any others. -/
structure RaisesAt (c : Conditions) (m : Moment) (part : Conditions → Txn α) : Prop where
  elsewhere : ∀ {c' : Conditions} {m' : Moment} {answer : Answering}, c'.Overrides c m' answer →
    m' ≠ m → part c' = part c
  raises : ∀ {c' : Conditions} {e : Raised} {w : Work} {r : α × Work},
    c'.Overrides c m (fun _ => .error e) → result (part c) w = .ok r →
      result (part c') w = .error e

/-- A part that meets the faults of some moments by their verdicts and does not see any others. -/
structure StepsAt (c : Conditions) (moments : List Moment) (part : Conditions → Txn α) : Prop where
  elsewhere : ∀ {c' : Conditions} {m : Moment} {answer : Answering}, c'.Overrides c m answer →
    m ∉ moments → part c' = part c
  settles : ∀ {m : Moment} {x : Fault} {w : Work} {r : α × Work}, m ∈ moments →
    result (part c) w = .ok r →
      Settles (m.verdict c.dialect x) (result (part (c.failing m x)) w) (result (part c.passing) w)

theorem stepsAt_const (x : Txn α) : StepsAt c [] fun _ => x :=
  ⟨fun _ _ => rfl, fun hm => absurd hm List.not_mem_nil⟩

theorem stepsAt_meet (step : Step) : StepsAt c [] fun c => meet (c.broken step) :=
  ⟨fun h _ => by rw [h.broken], fun hm => absurd hm List.not_mem_nil⟩

/-- What is checked before a part meets nothing, and the part only matters when the check passes. -/
theorem StepsAt.after_check {moments : List Moment} {check : Except Raised α}
    {next : Conditions → α → Txn β}
    (hnext : ∀ a, check = .ok a → StepsAt c moments fun c => next c a) :
    StepsAt c moments fun c => ofExcept check >>= next c := by
  cases check with
  | ok a => exact hnext a rfl
  | error e =>
      refine ⟨fun _ _ => rfl, fun _ hok => ?_⟩
      cases hok

/-- One part after the other meets the faults of both. -/
theorem StepsAt.bind {firsts nexts : List Moment} {first : Conditions → Txn α}
    {next : Conditions → α → Txn β} (hfirst : StepsAt c firsts first)
    (hapart : ∀ m ∈ firsts, m ∉ nexts) (hnext : ∀ a, StepsAt c nexts fun c => next c a) :
    StepsAt c (firsts ++ nexts) fun c => first c >>= next c where
  elsewhere h hm := by
    rw [List.mem_append, not_or] at hm
    have hnext' : next _ = next c := funext fun a => (hnext a).elsewhere h hm.2
    rw [hfirst.elsewhere h hm.1, hnext']
  settles {m x w r} hm hok := by
    have hfailing := c.overrides_failing m x
    have hpassing := c.overrides_passing
    rw [result_bind] at hok
    obtain ⟨⟨a, w₁⟩, ha, hok⟩ := bind_eq_ok.mp hok
    rcases List.mem_append.mp hm with hm | hm
    · -- the first part meets the fault, and the second is the same whatever comes of it
      have hnext_failing : next (c.failing m x) = next c :=
        funext fun a => (hnext a).elsewhere hfailing (hapart m hm)
      have hsettles := hfirst.settles (x := x) hm ha
      rw [result_bind, result_bind]
      cases hverdict : m.verdict c.dialect x with
      | some told =>
          rw [hverdict] at hsettles
          exact Fails.bind hsettles _
      | none =>
          obtain rfl := Moment.eq_users_of_verdict hverdict
          have hnext_passing : next c.passing = next c :=
            funext fun a => (hnext a).elsewhere hpassing (hapart .users hm)
          rw [hverdict] at hsettles
          rw [hnext_failing, hnext_passing]
          exact congrArg (· >>= _) hsettles
    · -- the first part does not see the fault, and the second meets it where the first ended
      have hapart' : m ∉ firsts := fun hm' => hapart m hm' hm
      have hsettles := (hnext a).settles (x := x) hm hok
      rw [hfirst.elsewhere hfailing hapart', result_after ha]
      cases hverdict : m.verdict c.dialect x with
      | some told =>
          rw [hverdict] at hsettles
          exact hsettles
      | none =>
          obtain rfl := Moment.eq_users_of_verdict hverdict
          rw [hverdict] at hsettles
          rw [hfirst.elsewhere hpassing hapart', result_after ha]
          exact hsettles

theorem StepsAt.quiet_bind {moments : List Moment} {first : Conditions → Txn α}
    {next : Conditions → α → Txn β} (hfirst : StepsAt c [] first)
    (hnext : ∀ a, StepsAt c moments fun c => next c a) :
    StepsAt c moments fun c => first c >>= next c :=
  hfirst.bind (fun _ hm => absurd hm List.not_mem_nil) hnext

theorem StepsAt.bind_quiet {moments : List Moment} {first : Conditions → Txn α}
    (hfirst : StepsAt c moments first) (next : α → Txn β) :
    StepsAt c moments fun c => first c >>= next :=
  List.append_nil moments ▸
    hfirst.bind (fun _ _ => List.not_mem_nil) fun a => stepsAt_const (next a)

theorem result_execute_raises {statement : Statement} {e : Raised}
    (h : c'.Overrides c statement.moment fun _ => .error e) :
    result (execute c' statement) w = .error e := by
  rw [result_execute, h.engine, if_pos rfl]
  rfl

theorem raisesAt_execute (statement : Statement) :
    RaisesAt c statement.moment fun c => execute c statement where
  elsewhere h hm := by
    unfold execute
    simp only [h.engine, if_neg (Ne.symm hm)]
  raises h _ := result_execute_raises h

theorem RaisesAt.bind {first : Conditions → Txn α} (h : RaisesAt c m first) (next : α → Txn β) :
    RaisesAt c m fun c => first c >>= next where
  elsewhere hc hm := by rw [h.elsewhere hc hm]
  raises hc hok := by
    rw [result_bind] at hok
    obtain ⟨r, hr, -⟩ := bind_eq_ok.mp hok
    rw [result_bind, h.raises hc hr]
    rfl

theorem result_of_reject_ok {part : Txn α} {onBroken : DriverReport → Failure}
    {onOther : Fault → Failure} {r : α × Work}
    (h : result (classify part (Repository.reject onBroken onOther)) w = .ok r) :
    result part w = .ok r := by
  rw [result_classify Repository.reject_eq_throw] at h
  exact mapError_eq_ok.mp h

/-- A part whose errors are told by a rejection meets its faults as the rejection says. -/
theorem RaisesAt.reject {part : Conditions → Txn α} (h : RaisesAt c m part) {other : FailureKind}
    (hverdict : ∀ dialect x, m.verdict dialect x = some (x.insertKind other, x))
    {onBroken : DriverReport → Failure} {onOther : Fault → Failure}
    (hbroken : ∀ report, (onBroken report).kind = .constraintViolation ∧
      (onBroken report).cause? = some (.database (.integrity report)))
    (hother : ∀ e, (onOther e).kind = other ∧ (onOther e).cause? = some e) :
    StepsAt c [m] fun c => classify (part c) (Repository.reject onBroken onOther) where
  elsewhere hc hm := by rw [h.elsewhere hc (List.ne_of_not_mem_cons hm)]
  settles {m' x w r} hm hok := by
    obtain rfl := List.mem_singleton.mp hm
    rw [hverdict, result_classify Repository.reject_eq_throw,
      h.raises (c.overrides_failing _ x) (result_of_reject_ok hok)]
    cases x with
    | database e =>
        cases e with
        | integrity report => exact .of_failure (hbroken report).1 (hbroken report).2
        | _ => exact .of_failure (hother _).1 (hother _).2
    | _ => exact .of_fault

end Txn

namespace Repository

open Txn

variable {c : Conditions}

/-! ### Users -/

/-- What is told of an error of the database where users are added. -/
def tellUsers (dialect : Dialect) (users : List Value) (e : DatabaseError) : Txn Unit :=
  match e with
  | .integrity report =>
    match dialect.isDuplicate report.error with
    | .ok true => pure ()
    | .ok false => throw (.failure (.userInsert users (.database e)))
    | .error fault => throw (.fault fault)
  | e => throw (.failure (.userInsert users (.database e)))

/-- A fault where users are added either ends the step or leaves it as if nothing had been done. -/
theorem stepsAt_tellUsers (users : List Value) :
    StepsAt c [.users] fun c =>
      classify (do let _ ← execute c (.ensureUsers users)) (tellUsers c.dialect users) where
  elsewhere h hm := by
    rw [h.dialect, (raisesAt_execute (.ensureUsers users)).elsewhere h (List.ne_of_not_mem_cons hm)]
  settles {m x w r} hm _ := by
    obtain rfl := List.mem_singleton.mp hm
    let w₁ : Work := { w with executed := w.executed ++ [.ensureUsers users] }
    have hraised : exec (do let _ ← execute (c.failing .users x) (.ensureUsers users)) w
        = (.error (.fault x), w₁) := by
      rw [exec_bind, exec_execute_of_overrides (c.overrides_failing .users x)]
    have hpassed : result (do let _ ← execute c.passing (.ensureUsers users)) w = .ok ((), w₁) := by
      rw [result, exec_bind, exec_execute_of_overrides c.overrides_passing]
      rfl
    rw [result_classify_of_ok hpassed, result, exec_classify, hraised]
    cases x with
    | database e =>
        cases e with
        | integrity report =>
            dsimp only [Moment.verdict, Fault.userVerdict, tellUsers]
            rw [(c.overrides_failing .users _).dialect]
            cases c.dialect.isDuplicate report.error with
            | error defect => exact .of_fault
            | ok duplicate =>
                cases duplicate with
                | true => rfl
                | false => exact .of_failure rfl rfl
        | _ => exact .of_failure rfl rfl
    | _ => exact .of_fault

theorem stepsAt_ensureUsers {users : List UserId} (hne : users ≠ []) :
    StepsAt c [.users] fun c => ensureUsers c (users.map UserId.toValue) := by
  have hadded := stepsAt_tellUsers (c := c) (Value.distinctKeys (users.map UserId.toValue))
  refine (stepsAt_meet .ensureUsers).quiet_bind fun _ => (stepsAt_const _).quiet_bind fun _ => ?_
  simp only [UserId.distinctKeys_isEmpty hne]
  exact hadded

theorem stepsAt_ensureUser (user : UserId) :
    StepsAt c [.users] fun c => ensureUser c user.toValue := by
  have hsteps : StepsAt c [.users] fun c => ensureUsers c ([user].map UserId.toValue) :=
    stepsAt_ensureUsers (List.cons_ne_nil user [])
  exact (stepsAt_meet .ensureUser).quiet_bind fun _ => hsteps

/-! ### Rows -/

theorem raisesAt_insertWithIds (table : Table) (rows : List Record) :
    RaisesAt c table.moment fun c => insertWithIds c table rows where
  elsewhere h hm := by
    unfold insertWithIds
    rw [h.broken, h.dialect, drawFor_of_overrides h]
    simp only [(raisesAt_execute (.insert table _ _)).elsewhere h hm]
  raises {c' e w r} h hok := by
    have hraises : ∀ (rows : List Record) (returning : Bool) (w : Work),
        result (execute c' (.insert table rows returning)) w = .error e :=
      fun _ _ _ => result_execute_raises h
    unfold insertWithIds at hok ⊢
    obtain ⟨hmeet, hok⟩ := meet_of_result_ok hok
    rw [h.broken, hmeet, h.dialect, drawFor_of_overrides h, result_after_meet rfl]
    split at hok
    · next hreturning =>
        rw [if_pos hreturning]
        exact hraises _ _ _
    · next hreturning =>
        rw [result_bind] at hok
        obtain ⟨drawn, hdrawn, -⟩ := bind_eq_ok.mp hok
        rw [if_neg hreturning, result_after hdrawn, result_bind, hraises]
        rfl

theorem stepsAt_insertEvents {rows : List Record} (hne : rows ≠ []) :
    StepsAt c [.events] fun c => insertEvents c rows := by
  have hreject : StepsAt c [.events] fun c => classify (insertWithIds c .events rows)
      (reject .eventRejected (.eventInsert rows.length)) :=
    (raisesAt_insertWithIds .events rows).reject (fun _ _ => rfl) (fun _ => ⟨rfl, rfl⟩)
      fun _ => ⟨rfl, rfl⟩
  unfold insertEvents
  simp only [if_neg hne]
  exact (stepsAt_meet .insertEvents).quiet_bind fun _ => hreject.bind_quiet _

theorem stepsAt_insertEvent (row : Record) : StepsAt c [.events] fun c => insertEvent c row :=
  (stepsAt_meet .insertEvent).quiet_bind fun _ =>
    (stepsAt_insertEvents (List.cons_ne_nil row [])).bind_quiet _

theorem stepsAt_insertDetails {table : Table} (htable : table.moment = .details)
    {rows : List Record} (hne : rows ≠ []) :
    StepsAt c [.details] fun c => insertDetails c table rows := by
  have hexecute : RaisesAt c .details
      fun c => (do let _ ← execute c (.insert table rows false)) :=
    htable ▸ (raisesAt_execute (.insert table rows false)).bind fun _ => pure ()
  unfold insertDetails
  simp only [if_pos hne]
  exact (stepsAt_meet .insertDetails).quiet_bind fun _ =>
    hexecute.reject (fun _ _ => rfl) (fun _ => ⟨rfl, rfl⟩) fun _ => ⟨rfl, rfl⟩

theorem stepsAt_insertDetail {table : Table} (htable : table.moment = .details) (event : Value)
    (values : Record) : StepsAt c [.details] fun c => insertDetail c table event values :=
  (stepsAt_meet .insertDetail).quiet_bind fun _ =>
    stepsAt_insertDetails htable (List.cons_ne_nil _ [])

theorem stepsAt_insertApiKey (values : Record) :
    StepsAt c [.key] fun c => insertApiKey c values := by
  have hreject : StepsAt c [.key] fun c => classify (insertWithIds c .apiKeys [values])
      (reject (.keyRejected (values.get "name")) (.keyInsert (values.get "name"))) :=
    (raisesAt_insertWithIds .apiKeys [values]).reject (fun _ _ => rfl) (fun _ => ⟨rfl, rfl⟩)
      fun _ => ⟨rfl, rfl⟩
  exact (stepsAt_meet .insertApiKey).quiet_bind fun _ => hreject.bind_quiet _

end Repository

end UsageLedger
