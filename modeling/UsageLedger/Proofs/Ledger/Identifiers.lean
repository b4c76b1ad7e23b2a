/-
Which identifier is drawn makes no difference.

A delivery of one record of token usage draws one identifier.  With another one that is
not in use either the delivery fares the same (`SameFate`): it meets the same errors at
the same steps, or it is accepted both times.  The only checks that look at the
identifier are those of primary keys and of the event that particulars belong to, and
they pass for every identifier that is new.
-/
import UsageLedger.Proofs.Intake.Aggregation
import UsageLedger.Proofs.Ledger.Accepted

namespace UsageLedger

/-! ### New rows under new identifiers -/

namespace Tables

/-- No row has the identifier. -/
structure Unused (t : Tables) (id : Uuid) : Prop where
  event : t.hasEvent id = false
  particulars : t.tokenUsages.any (·.id = id) = false

/-- The identifier is that of an event whose particulars are to come. -/
structure Awaits (t : Tables) (id : Uuid) : Prop where
  event : t.hasEvent id = true
  particulars : t.tokenUsages.any (·.id = id) = false

end Tables

namespace Engine

open Store

variable {scheme : IdScheme} {t t₁ t₂ : Tables} {id₁ id₂ : Uuid}

/-- An event is added under one new identifier exactly when it is under another. -/
theorem sameFate_addEvent {time : String} {user : UserId} {key : Option Uuid}
    (h₁ : t.Unused id₁) (h₂ : t.Unused id₂) : SameFate
      (addRows scheme .events t [Repository.withId (Repository.userEventRow time user key) id₁])
      (addRows scheme .events t [Repository.withId (Repository.userEventRow time user key) id₂])
      fun t₁ t₂ => t₁.Awaits id₁ ∧ t₂.Awaits id₂ := by
  have hcheck : checkRow scheme .events (Table.events.mentioned
      (Repository.withId (Repository.userEventRow time user key) id₁))
        = checkRow scheme .events (Table.events.mentioned
          (Repository.withId (Repository.userEventRow time user key) id₂)) := by
    cases user <;> cases key <;> rfl
  rw [addRows_single, addRows_single, hcheck]
  refine .after _ fun _ _ => ?_
  simp only [addRow, eventRow_eq, bind_assoc, pure_bind]
  -- what is left to be checked are references, and they are the same
  refine .after _ fun cell _ => .mapError _ ?_
  unfold Tables.addEvent
  simp only [h₁.event, h₂.event, Bool.false_eq_true, if_false]
  split
  · exact .inl ⟨_, rfl, rfl⟩
  split
  · exact .inl ⟨_, rfl, rfl⟩
  · exact .ok ⟨⟨by simp [Tables.hasEvent], h₁.particulars⟩,
      ⟨by simp [Tables.hasEvent], h₂.particulars⟩⟩

/-- The particulars of a group are added to one event exactly when they are to another. -/
theorem sameFate_addTokenUsage {g : UsageGroup} (h₁ : t₁.Awaits id₁) (h₂ : t₂.Awaits id₂) :
    SameFate (addRows scheme .tokenUsages t₁ [Ingest.usageValues id₁ g])
      (addRows scheme .tokenUsages t₂ [Ingest.usageValues id₂ g]) fun _ _ => True := by
  have hcheck : checkRow scheme .tokenUsages (Table.tokenUsages.mentioned
      (Ingest.usageValues id₁ g))
        = checkRow scheme .tokenUsages (Table.tokenUsages.mentioned
          (Ingest.usageValues id₂ g)) := rfl
  rw [addRows_single, addRows_single, hcheck]
  refine .after _ fun _ _ => ?_
  simp only [addRow, tokenUsageRow_eq, bind_assoc, pure_bind]
  refine .after _ fun a _ => .after _ fun b _ => .after _ fun c _ => .after _ fun d _ => ?_
  refine .after _ fun a _ => .after _ fun b _ => .after _ fun c _ => .after _ fun d _ => ?_
  simp only [Tables.addTokenUsage, h₁.event, h₁.particulars, h₂.event, h₂.particulars]
  exact .ok trivial

end Engine

/-! ### Steps under two streams of identifiers -/

/-- The same circumstances with other identifiers to draw. -/
def Ledger.Circumstances.drawing (k : Ledger.Circumstances) (fresh : Nat → Uuid) :
    Ledger.Circumstances :=
  { k with fresh }

namespace Txn

open Repository Engine

variable {α β : Type} {k : Ledger.Circumstances} {scheme : IdScheme} {other : Nat → Uuid}
  {Q : α × Work → β × Work → Prop} {w w₁ w₂ : Work}

/-- Two pieces of work that have executed as many statements, each with the event of an identifier
of its own. -/
structure Lockstep (w₁ w₂ : Work) (id₁ id₂ : Uuid) : Prop where
  executed : w₁.executed.length = w₂.executed.length
  first : w₁.tables.Awaits id₁
  second : w₂.tables.Awaits id₂

theorem sameFate_execute {table : Table} {rows₁ rows₂ : List Record}
    {R : Tables → Tables → Prop} (hexecuted : w₁.executed.length = w₂.executed.length)
    (h : SameFate (addRows scheme table w₁.tables rows₁) (addRows scheme table w₂.tables rows₂) R) :
    SameFate (result (execute (k.onSqlite scheme) (.insert table rows₁ false)) w₁)
      (result (execute ((k.drawing other).onSqlite scheme) (.insert table rows₂ false)) w₂)
      fun p q => p.2.executed.length = q.2.executed.length ∧ R p.2.tables q.2.tables := by
  rw [result_execute, result_execute, hexecuted]
  have hengine : SameFate
      ((k.onSqlite scheme).engine w₂.executed.length (.insert table rows₁ false) w₁.tables)
      (((k.drawing other).onSqlite scheme).engine w₂.executed.length (.insert table rows₂ false)
        w₂.tables) fun p q => R p.1 q.1 := by
    show SameFate (interrupted k.plan (relational scheme) _ _ _)
      (interrupted k.plan (relational scheme) _ _ _) _
    unfold interrupted
    cases k.plan w₂.executed.length with
    | some e => exact .inl ⟨e, rfl, rfl⟩
    | none => exact .mapError _ (.map h fun _ _ hR => hR)
  refine .map hengine fun p q hR => ⟨?_, hR⟩
  simp [hexecuted]

/-- An event is stored under the one new identifier exactly when it is under the other. -/
theorem sameFate_insertEvents {time : String} {user : UserId} {key : Option Uuid}
    (h₁ : w.tables.Unused (k.fresh w.drawn)) (h₂ : w.tables.Unused (other w.drawn)) :
    SameFate (result (insertEvents (k.onSqlite scheme) [userEventRow time user key]) w)
      (result (insertEvents ((k.drawing other).onSqlite scheme) [userEventRow time user key]) w)
      fun p q => ∃ id₁ id₂, p.1 = [id₁] ∧ q.1 = [id₂] ∧ Lockstep p.2 q.2 id₁ id₂ := by
  have hinsert : SameFate
      (result (insertWithIds (k.onSqlite scheme) .events [userEventRow time user key]) w)
      (result (insertWithIds ((k.drawing other).onSqlite scheme) .events
        [userEventRow time user key]) w)
      fun p q => ∃ id₁ id₂, p.1 = [some id₁] ∧ q.1 = [some id₂] ∧ Lockstep p.2 q.2 id₁ id₂ := by
    have hdrawn : ∀ k : Ledger.Circumstances, ¬ (k.onSqlite scheme).dialect.returning = true :=
      fun _ => Bool.false_ne_true
    have hdraw : ∀ {c : Conditions} {row : Record} {f : List Uuid → Txn (List (Option Uuid))},
        result (drawFor c [row] >>= f) w
          = result (f [c.fresh w.drawn]) { w with drawn := w.drawn + 1 } := rfl
    refine sameFate_after_meet ?_
    rw [if_neg (hdrawn k), if_neg (hdrawn (k.drawing other)), hdraw, hdraw, result_bind,
      result_bind]
    refine .bind (sameFate_execute (R := fun t₁ t₂ =>
      t₁.Awaits (k.fresh w.drawn) ∧ t₂.Awaits (other w.drawn)) rfl (sameFate_addEvent h₁ h₂)) ?_
    exact fun p q ⟨hexecuted, hfirst, hsecond⟩ =>
      .ok ⟨_, _, rfl, rfl, hexecuted, hfirst, hsecond⟩
  refine sameFate_after_meet ?_
  rw [if_neg (by simp), if_neg (by simp), result_bind, result_bind]
  refine (sameFate_reject hinsert).bind ?_
  rintro ⟨_, w₁⟩ ⟨_, w₂⟩ ⟨id₁, id₂, rfl, rfl, hlock⟩
  exact .ok ⟨id₁, id₂, rfl, rfl, hlock⟩

/-- The particulars of a group are stored in the one case exactly when they are in the other. -/
theorem sameFate_insertDetails {g : UsageGroup} {id₁ id₂ : Uuid} (h : Lockstep w₁ w₂ id₁ id₂) :
    SameFate
      (result (insertDetails (k.onSqlite scheme) .tokenUsages [Ingest.usageValues id₁ g]) w₁)
      (result (insertDetails ((k.drawing other).onSqlite scheme) .tokenUsages
        [Ingest.usageValues id₂ g]) w₂) fun _ _ => True := by
  refine sameFate_after_meet ?_
  rw [if_pos (by simp), if_pos (by simp)]
  refine sameFate_reject ?_
  rw [result_bind, result_bind]
  refine (sameFate_execute h.executed (sameFate_addTokenUsage h.first h.second)).bind ?_
  exact fun _ _ _ => .ok trivial

/-- Whole transactions under two streams fare as their bodies do. -/
theorem sameFate_run {t : Tables} {body₁ : Txn α} {body₂ : Txn β}
    (h : SameFate (result body₁ ⟨t, [], 0⟩) (result body₂ ⟨t, [], 0⟩) Q) :
    SameFate (run (k.onSqlite scheme) body₁ t).1
      (run ((k.drawing other).onSqlite scheme) body₂ t).1 fun _ _ => True := by
  have hopening : ((k.drawing other).onSqlite scheme).opening = (k.onSqlite scheme).opening := rfl
  have hcommit : ((k.drawing other).onSqlite scheme).commit = (k.onSqlite scheme).commit := rfl
  rw [run_eq_result, run_eq_result, hopening, hcommit]
  cases (k.onSqlite scheme).opening with
  | some e => exact .inl ⟨e, rfl, rfl⟩
  | none =>
      refine .bind h fun p q _ => ?_
      cases (k.onSqlite scheme).commit with
      | some e => exact .inl ⟨e, rfl, rfl⟩
      | none => exact .ok trivial

end Txn

/-! ### A delivery of one record -/

namespace Ingest

open Txn Repository Engine Intake

variable {k : Ledger.Circumstances} {scheme : IdScheme} {other : Nat → Uuid} {t : Tables}

/-- Making sure of users does not add rows, so what was unused still is. -/
theorem unused_ensureUsers {c : Conditions} (hc : c.Constrained) {users : List UserId} {u : Unit}
    {w w' : Work} {id : Uuid}
    (h : result (ensureUsers c (users.map UserId.toValue)) w = .ok (u, w'))
    (hid : w.tables.Unused id) : w'.tables.Unused id := by
  have hgives := gives_ensureUsers hc (gives_of_result h)
  rcases hgives with heq | heq <;> rw [heq] <;> exact ⟨hid.event, hid.particulars⟩

theorem sameFate_storeUsage {records : List UsageRecord} {key : Option Uuid}
    (hsingle : ∀ groups, UsageGroup.aggregate records = .ok groups → ∃ g, groups = [g])
    (h₁ : ∀ n, t.Unused (k.fresh n)) (h₂ : ∀ n, t.Unused (other n)) :
    SameFate (result (storeUsage (k.onSqlite scheme) records key) ⟨t, [], 0⟩)
      (result (storeUsage ((k.drawing other).onSqlite scheme) records key) ⟨t, [], 0⟩)
      fun _ _ => True := by
  unfold storeUsage
  rw [result_bind, result_bind]
  refine .after _ fun ⟨groups, w₀⟩ hgroups => ?_
  rw [result_ofExcept] at hgroups
  obtain ⟨groups, haggregate, hpair⟩ := map_eq_ok.mp hgroups
  cases hpair
  obtain ⟨g, rfl⟩ := hsingle groups haggregate
  rw [result_bind, result_bind]
  -- users are named before any identifier is drawn, so this step is the same one
  refine .after _ fun ⟨u, w⟩ husers => ?_
  have husers : result (ensureUsers (k.onSqlite scheme) ([g.user].map UserId.toValue)) ⟨t, [], 0⟩
      = .ok (u, w) := husers
  have hunused : ∀ {id : Uuid}, t.Unused id → w.tables.Unused id :=
    unused_ensureUsers (k.constrained scheme) husers
  rw [result_bind, result_bind]
  refine .bind (sameFate_insertEvents (hunused (h₁ _)) (hunused (h₂ _))) ?_
  rintro ⟨_, w₁⟩ ⟨_, w₂⟩ ⟨id₁, id₂, rfl, rfl, hlock⟩
  rw [result_bind, result_bind]
  refine .bind (sameFate_insertDetails hlock) fun _ _ _ => ?_
  exact .ok trivial

/-- **A delivery of one record of token usage fares the same whatever identifier it draws**, as long
as no row has the identifier. -/
theorem sameFate_addUsage {record : Record} {apiKey : Value}
    (h₁ : ∀ n, t.Unused (k.fresh n)) (h₂ : ∀ n, t.Unused (other n)) :
    SameFate (addUsage (k.onSqlite scheme) [record] apiKey t).1
      (addUsage ((k.drawing other).onSqlite scheme) [record] apiKey t).1 fun _ _ => True := by
  have hchecked : ∀ {α β : Type} {check : Except Raised α}
      {next₁ next₂ : α → Except Raised β × Tables},
      (∀ a, check = .ok a → SameFate (next₁ a).1 (next₂ a).1 fun _ _ => True) →
      SameFate (checked check t next₁).1 (checked check t next₂).1 fun _ _ => True := by
    intro α β check next₁ next₂ h
    cases check with
    | error e => exact .inl ⟨e, rfl, rfl⟩
    | ok a => exact h a rfl
  refine hchecked fun usage husage => hchecked fun key _ => ?_
  have hsingle : ∀ groups, UsageGroup.aggregate usage = .ok groups → ∃ g, groups = [g] := by
    intro groups hgroups
    obtain ⟨singles, ha⟩ := UsageGroup.aggregates_of_aggregate hgroups
    obtain ⟨r, hr, hrest⟩ := bind_eq_ok.mp husage
    cases hrest
    obtain ⟨g, -, hg⟩ := ha.of_single
    exact ⟨g, hg⟩
  have hrun : SameFate (run (k.onSqlite scheme) (storeUsage (k.onSqlite scheme) usage key) t).1
      (run ((k.drawing other).onSqlite scheme)
        (storeUsage ((k.drawing other).onSqlite scheme) usage key) t).1 fun _ _ => True :=
    sameFate_run (sameFate_storeUsage hsingle h₁ h₂)
  exact .map (hrun.mapError _) fun _ _ _ => trivial

end Ingest

end UsageLedger
