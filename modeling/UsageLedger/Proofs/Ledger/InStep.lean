/-
Transactions that keep step on two states of the tables.

A part of a transaction is in step from one relation of tables to another when, on two
related states and with as many statements executed and identifiers drawn, it ends with
the same error or with the same result on related states (`Txn.InStep`).  Sequences of
such parts are such parts, so a transaction is in step when its statements are.  Here the
states agree on some events, the identifiers that are drawn are those of such events, and
the statements are those of `sameFate_addRows`.
-/
import UsageLedger.Proofs.Ledger.Posting
import UsageLedger.Proofs.Store.Agreement

namespace UsageLedger

/-- No statement reports that a user is there already who is not. -/
def Ledger.Circumstances.Honest (k : Ledger.Circumstances) : Prop :=
  ∀ n report, k.plan n = some (.fault (.database (.integrity report))) →
    Dialect.sqlite.isDuplicate report.error ≠ .ok true

namespace Txn

variable {α β : Type} {R R' R'' : Tables → Tables → Prop} {P : α → Prop} {Q : β → Prop}
  {c : Conditions}

/-- Two pieces of work that are as far and whose tables are related. -/
structure Parallel (R : Tables → Tables → Prop) (w₁ w₂ : Work) : Prop where
  executed : w₁.executed.length = w₂.executed.length
  drawn : w₁.drawn = w₂.drawn
  tables : R w₁.tables w₂.tables

/-- From related tables a part of a transaction ends with the same error, or with one result, which
has a property, and related tables. -/
def InStep (R R' : Tables → Tables → Prop) (P : α → Prop) (x : Txn α) : Prop :=
  ∀ w₁ w₂, Parallel R w₁ w₂ → SameFate (result x w₁) (result x w₂) fun p q =>
    p.1 = q.1 ∧ P p.1 ∧ Parallel R' p.2 q.2

namespace InStep

theorem pure {a : α} (h : P a) : InStep R R P (pure a) :=
  fun _ _ hw => .ok ⟨rfl, h, hw⟩

theorem throw (e : Raised) : InStep R R' P (throw e) := fun _ _ _ => .inl ⟨e, rfl, rfl⟩

theorem bind {x : Txn α} {f : α → Txn β} (hx : InStep R R' P x)
    (hf : ∀ a, P a → InStep R' R'' Q (f a)) : InStep R R'' Q (x >>= f) := by
  intro w₁ w₂ hw
  rw [result_bind, result_bind]
  refine (hx w₁ w₂ hw).bind ?_
  rintro ⟨a, w₁'⟩ ⟨_, w₂'⟩ ⟨rfl, ha, hw'⟩
  exact hf a ha w₁' w₂' hw'

theorem weaken {P' : α → Prop} {x : Txn α} (h : InStep R R' P x)
    (hR : ∀ t₁ t₂, R' t₁ t₂ → R'' t₁ t₂) (hP : ∀ a, P a → P' a) : InStep R R'' P' x := by
  intro w₁ w₂ hw
  rcases h w₁ w₂ hw with herror | ⟨p, q, hp, hq, hsame, ha, hafter⟩
  · exact .inl herror
  · exact .inr ⟨p, q, hp, hq, hsame, hP _ ha, ⟨hafter.executed, hafter.drawn, hR _ _ hafter.tables⟩⟩

theorem ofExcept (x : Except Raised α) : InStep R R (fun a => x = .ok a) (ofExcept x) := by
  cases x with
  | error e => exact throw e
  | ok a => exact pure rfl

theorem meet (fault : Option Raised) : InStep R R (fun _ => True) (meet fault) := by
  cases fault with
  | some e => exact throw e
  | none => exact pure trivial

/-- Errors of the database that are all told by raising something are told alike. -/
theorem classify {x : Txn α} {tell : DatabaseError → Txn α} (hx : InStep R R' P x)
    (htell : ∀ w d w', exec x w = (.error (.fault (.database d)), w') →
      ∃ told, tell d = MonadExcept.throw told) : InStep R R' P (classify x tell) := by
  intro w₁ w₂ hw
  have herror : ∀ {e : Raised} {w w' : Work}, exec x w = (.error e, w') →
      (∀ d, e ≠ .fault (.database d)) → result (Txn.classify x tell) w = .error e := by
    intro e w w' hexec hother
    unfold result
    rw [exec_classify, hexec]
    split
    · next heq =>
        cases heq
        exact absurd rfl (hother _)
    · rfl
  have htold : ∀ {d : DatabaseError} {told : Raised} {w w' : Work},
      exec x w = (.error (.fault (.database d)), w') → tell d = MonadExcept.throw told →
      result (Txn.classify x tell) w = .error told := by
    intro d told w w' hexec hd
    unfold result
    rw [exec_classify, hexec]
    simp only [hd]
    rfl
  have hok : ∀ {a : α} {w w' : Work}, result x w = .ok (a, w') →
      result (Txn.classify x tell) w = .ok (a, w') := by
    intro a w w' hresult
    unfold result
    rw [exec_classify, exec_of_result_ok hresult]
    rfl
  rcases hx w₁ w₂ hw with ⟨e, h₁, h₂⟩ | ⟨p, q, h₁, h₂, hpq⟩
  · obtain ⟨w₁', hexec₁⟩ := exec_of_result_error h₁
    obtain ⟨w₂', hexec₂⟩ := exec_of_result_error h₂
    by_cases hdatabase : ∃ d, e = .fault (.database d)
    · obtain ⟨d, rfl⟩ := hdatabase
      obtain ⟨told, hd⟩ := htell w₁ d w₁' hexec₁
      exact .inl ⟨told, htold hexec₁ hd, htold hexec₂ hd⟩
    · have hother : ∀ d, e ≠ .fault (.database d) := fun d hd => hdatabase ⟨d, hd⟩
      exact .inl ⟨e, herror hexec₁ hother, herror hexec₂ hother⟩
  · exact .inr ⟨p, q, hok h₁, hok h₂, hpq⟩

theorem reject {x : Txn α} {onBroken : DriverReport → Failure} {onOther : Fault → Failure}
    (h : InStep R R' P x) : InStep R R' P (Txn.classify x (Repository.reject onBroken onOther)) :=
  h.classify fun _ d _ _ => ⟨_, Repository.reject_eq_throw d⟩

/-- Identifiers are drawn alike, one for each item. -/
theorem drawFor (items : List α) :
    InStep R R (fun ids => ids.length = items.length ∧ Drawn c ids) (drawFor c items) := by
  induction items with
  | nil => exact pure ⟨rfl, fun id hid => absurd hid List.not_mem_nil⟩
  | cons item items ih =>
      have hdraw : InStep R R (fun id => ∃ n, c.fresh n = id) (draw c) := by
        intro w₁ w₂ hw
        refine .ok ⟨?_, ⟨_, rfl⟩, hw.executed, ?_, hw.tables⟩
        · exact congrArg c.fresh hw.drawn
        · exact congrArg (· + 1) hw.drawn
      rw [Txn.drawFor, List.mapM_cons]
      refine hdraw.bind fun id hid => ih.bind fun ids hids => pure ⟨?_, ?_⟩
      · rw [List.length_cons, List.length_cons, hids.1]
      · exact List.forall_mem_cons.mpr ⟨hid, hids.2⟩

/-- A statement keeps step when the engine does. -/
theorem execute {statement : Statement}
    (h : ∀ n t₁ t₂, R t₁ t₂ → SameFate (c.engine n statement t₁) (c.engine n statement t₂)
      fun p q => p.2 = q.2 ∧ R' p.1 q.1) :
    InStep R R' (fun _ => True) (execute c statement) := by
  intro w₁ w₂ hw
  rw [result_execute, result_execute, hw.executed]
  refine .map (h _ _ _ hw.tables) fun p q hpq => ⟨hpq.1, trivial, ?_, hw.drawn, hpq.2⟩
  simp [hw.executed]

end InStep

/-! ### Whole transactions -/

/-- Two calls end alike and leave tables that agree. -/
def SameEnd (S : Uuid → Bool) (x y : Except Raised α × Tables) : Prop :=
  x.1 = y.1 ∧ x.2.AgreeOn S y.2

theorem sameEnd_run {S : Uuid → Bool} {body : Txn α} {t₁ t₂ : Tables}
    (hbody : InStep (Tables.AgreeOn S) (Tables.AgreeOn S) P body) (h : t₁.AgreeOn S t₂) :
    SameEnd S (run c body t₁) (run c body t₂) := by
  rw [run_eq, run_eq]
  cases c.opening with
  | some e => exact ⟨rfl, h⟩
  | none =>
      rcases hbody ⟨t₁, [], 0⟩ ⟨t₂, [], 0⟩ ⟨rfl, rfl, h⟩
        with ⟨e, h₁, h₂⟩ | ⟨⟨a, w₁⟩, ⟨_, w₂⟩, h₁, h₂, rfl, -, hw⟩
      · rw [h₁, h₂]
        exact ⟨rfl, h⟩
      · rw [h₁, h₂]
        cases c.commit with
        | some e => exact ⟨rfl, h⟩
        | none => exact ⟨rfl, hw.tables⟩

end Txn

/-! ### Steps -/

namespace Repository

open Txn Engine

variable {S : Uuid → Bool} {users : List UserId} {scheme : IdScheme} {k : Ledger.Circumstances}

/-- A row that is added to both of two states or to none. -/
def AddedAlike (scheme : IdScheme) (S : Uuid → Bool) (users : List UserId) (table : Table)
    (row : Record) : Prop :=
  ∀ t₁ t₂, Tables.Joint S users t₁ t₂ →
    SameFate (addRow scheme table t₁ (table.mentioned row))
      (addRow scheme table t₂ (table.mentioned row)) (Tables.Joint S users)

theorem inStep_insert {table : Table} {rows : List Record} {returning : Bool}
    (hrows : ∀ row ∈ rows, AddedAlike scheme S users table row) :
    InStep (Tables.Joint S users) (Tables.Joint S users) (fun _ => True)
      (execute (k.onSqlite scheme) (.insert table rows returning)) := by
  refine .execute fun n t₁ t₂ h => ?_
  show SameFate (interrupted k.plan (relational scheme) n _ t₁)
    (interrupted k.plan (relational scheme) n _ t₂) _
  unfold interrupted
  cases k.plan n with
  | some e => exact .inl ⟨e, rfl, rfl⟩
  | none => exact .mapError _ (.map (sameFate_addRows hrows h) fun _ _ hR => ⟨rfl, hR⟩)

/-- Rows get identifiers of the set, which are told. -/
theorem inStep_insertWithIds {table : Table} {rows : List Record}
    (hdrawn : ∀ n, S (k.fresh n) = true)
    (hrows : ∀ row ∈ rows, ∀ id, S id = true →
      AddedAlike scheme S users table (withId row id)) :
    InStep (Tables.Joint S users) (Tables.Joint S users)
      (fun handed => ∃ ids : List Uuid, handed = ids.map some ∧ ids.length = rows.length ∧
        ∀ id ∈ ids, S id = true)
      (insertWithIds (k.onSqlite scheme) table rows) := by
  refine (InStep.meet _).bind fun _ _ => ?_
  rw [if_neg (show ¬ (k.onSqlite scheme).dialect.returning = true from Bool.false_ne_true)]
  refine (InStep.drawFor rows).bind fun ids hids => ?_
  have hset : ∀ id ∈ ids, S id = true := by
    intro id hid
    obtain ⟨n, rfl⟩ := hids.2 id hid
    exact hdrawn n
  refine (inStep_insert fun row hrow => ?_).bind fun _ _ => .pure ⟨ids, rfl, hids.1, hset⟩
  obtain ⟨given, hgiven, id, hid, rfl⟩ := exists_of_mem_zipWith hrow
  exact hrows given hgiven id (hset id hid)

theorem inStep_insertEvents {rows : List Record} (hdrawn : ∀ n, S (k.fresh n) = true)
    (hrows : ∀ row ∈ rows, ∀ id, S id = true →
      AddedAlike scheme S users .events (withId row id)) :
    InStep (Tables.Joint S users) (Tables.Joint S users)
      (fun ids => ids.length = rows.length ∧ ∀ id ∈ ids, S id = true)
      (insertEvents (k.onSqlite scheme) rows) := by
  refine (InStep.meet _).bind fun _ _ => ?_
  split
  · next hnone =>
      rw [hnone]
      exact .pure ⟨rfl, fun id hid => absurd hid List.not_mem_nil⟩
  · refine (inStep_insertWithIds hdrawn hrows).reject.bind fun handed hhanded => ?_
    obtain ⟨ids, rfl, hlength, hset⟩ := hhanded
    rw [allIds?_map_some]
    split
    · exact .throw _
    · exact .throw _
    · next heq =>
        cases heq
        rw [if_pos hlength]
        exact .pure ⟨hlength, hset⟩

theorem inStep_insertEvent {row : Record} (hdrawn : ∀ n, S (k.fresh n) = true)
    (hrow : ∀ id, S id = true → AddedAlike scheme S users .events (withId row id)) :
    InStep (Tables.Joint S users) (Tables.Joint S users) (fun id => S id = true)
      (insertEvent (k.onSqlite scheme) row) := by
  refine (InStep.meet _).bind fun _ _ => ?_
  refine (inStep_insertEvents hdrawn (List.forall_mem_singleton.mpr hrow)).bind fun ids hids => ?_
  split
  · exact .pure (hids.2 _ (by simp))
  · exact .throw _

theorem inStep_insertDetails {table : Table} {rows : List Record}
    (hrows : ∀ row ∈ rows, AddedAlike scheme S users table row) :
    InStep (Tables.Joint S users) (Tables.Joint S users) (fun _ => True)
      (insertDetails (k.onSqlite scheme) table rows) := by
  refine (InStep.meet _).bind fun _ _ => ?_
  split
  · exact ((inStep_insert hrows).bind fun _ _ => .pure trivial).reject
  · exact .pure trivial

theorem inStep_insertDetail {table : Table} {event : Value} {values : Record}
    (hrow : AddedAlike scheme S users table (detailRow event values)) :
    InStep (Tables.Joint S users) (Tables.Joint S users) (fun _ => True)
      (insertDetail (k.onSqlite scheme) table event values) :=
  (InStep.meet _).bind fun _ _ => inStep_insertDetails (List.forall_mem_singleton.mpr hrow)

/-- Any key is added alike, because the keys are the same. -/
theorem inStep_insertApiKey {values : Record} (hdrawn : ∀ n, S (k.fresh n) = true) :
    InStep (Tables.Joint S users) (Tables.Joint S users) (fun _ => True)
      (insertApiKey (k.onSqlite scheme) values) := by
  have hrow : ∀ row, AddedAlike scheme S users .apiKeys row := fun row t₁ t₂ h =>
    .after _ fun bound _ => .mapError _ (h.addApiKey bound)
  refine (InStep.meet _).bind fun _ _ => ?_
  refine (inStep_insertWithIds hdrawn fun _ _ _ _ => hrow _).reject.bind fun handed _ => ?_
  split
  · exact .pure trivial
  · exact .throw _

/-- An error of the statement that makes sure of users is no report that is passed over, so it is
told by raising something. -/
theorem raises_ensureUsers (hhonest : k.Honest) {w w' : Work} {d : DatabaseError}
    (h : exec (do
      let _ ← execute (k.onSqlite scheme)
        (.ensureUsers (Value.distinctKeys (users.map UserId.toValue)))) w
        = (.error (.fault (.database d)), w')) :
    ∀ report, d = .integrity report → Dialect.sqlite.isDuplicate report.error ≠ .ok true := by
  rintro report rfl
  have hengine : interrupted k.plan (relational scheme) w.executed.length
      (.ensureUsers (Value.distinctKeys (users.map UserId.toValue))) w.tables
        = .error (.fault (.database (.integrity report))) := by
    rw [exec_bind, exec_execute] at h
    split at h
    · cases h
    · next hexec =>
        split at hexec
        · next hengine =>
            cases hexec
            cases h
            exact hengine
        · cases hexec
  unfold interrupted at hengine
  split at hengine
  · next e hplan =>
      cases hengine
      exact hhonest _ _ hplan
  · -- the database itself reports no broken constraint here
    obtain ⟨check, hunbroken, hcheck⟩ := exists_check_ensureUsers scheme users
    replace hengine : ((Engine.ensureUsers scheme w.tables (Value.distinctKeys
        (users.map UserId.toValue))).map (·, [])).mapError Raised.fault
          = (.error (.fault (.database (.integrity report))) :
            Except Raised (Tables × List (Option Uuid))) := hengine
    rw [hcheck] at hengine
    cases hresult : check with
    | error fault =>
        rw [hresult] at hengine
        cases hengine
        exact absurd hresult (hunbroken report)
    | ok u =>
        rw [hresult] at hengine
        cases hengine

/-- Users that are made sure of are there in both states: whether they can be made sure of does not
depend on the tables. -/
theorem inStep_ensureUsers (hhonest : k.Honest) (users : List UserId) :
    InStep (Tables.AgreeOn S) (Tables.Joint S users) (fun _ => True)
      (ensureUsers (k.onSqlite scheme) (users.map UserId.toValue)) := by
  refine (InStep.meet _).bind fun _ _ => (InStep.ofExcept _).bind fun _ _ => ?_
  dsimp only
  split
  case isFalse hnone =>
    -- no users are named
    have hempty : ∀ user, user ∉ users := by
      intro user huser
      have hmem : user.toValue ∈ Value.distinctKeys (users.map UserId.toValue) := by
        rw [UserId.distinctKeys_toValue]
        exact List.mem_map_of_mem (mem_foldl_addNew.mpr (.inr huser))
      cases hdistinct : Value.distinctKeys (users.map UserId.toValue) with
      | nil =>
          rw [hdistinct] at hmem
          cases hmem
      | cons first rest =>
          rw [hdistinct] at hnone
          exact hnone rfl
    intro w₁ w₂ hw
    exact .ok ⟨rfl, trivial, hw.executed, hw.drawn, hw.tables,
      fun user huser => absurd huser (hempty user), fun user huser => absurd huser (hempty user)⟩
  case isTrue =>
    refine InStep.classify ((InStep.execute fun n t₁ t₂ h => ?_).bind fun _ _ => .pure trivial) ?_
    · obtain ⟨check, -, hcheck⟩ := exists_check_ensureUsers scheme users
      show SameFate (interrupted k.plan (relational scheme) n _ t₁)
        (interrupted k.plan (relational scheme) n _ t₂) _
      unfold interrupted
      cases k.plan n with
      | some e => exact .inl ⟨e, rfl, rfl⟩
      | none =>
          refine .mapError _ ?_
          rw [hcheck, hcheck]
          cases check with
          | error fault => exact .inl ⟨fault, rfl, rfl⟩
          | ok u => exact .ok ⟨rfl, h.withUsers users⟩
    · intro w d w' hexec
      have hnot := raises_ensureUsers hhonest hexec
      cases d with
      | integrity report =>
          dsimp only
          split
          · next hduplicate => exact absurd hduplicate (hnot report rfl)
          · exact ⟨_, rfl⟩
          · exact ⟨_, rfl⟩
      | _ => exact ⟨_, rfl⟩

end Repository

end UsageLedger
