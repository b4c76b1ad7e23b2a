/-
What the steps of a transaction have done when they succeed.

The database may raise whatever it likes, but when it succeeds it has kept its
constraints (`Constrained`), and it hands back no identifiers, so they are drawn.  Only
one failure is passed over: a report that a user is there already.  Then nothing was
added, which is as good, for the events that follow name the user and would be refused
without it.
-/
import UsageLedger.Proofs.Store.Insertion
import UsageLedger.Proofs.Store.Transaction
import UsageLedger.Store.Repository

namespace UsageLedger

/-- The tables with users added that are not there yet. -/
def Tables.withUsers (t : Tables) (users : List UserId) : Tables :=
  { t with users := (users.map UserId.toCell).foldl addNew t.users }

/-- A database that has kept its constraints whenever it succeeds and hands back no identifiers. -/
structure Conditions.Constrained (c : Conditions) : Prop where
  /-- Identifiers are drawn, not handed back. -/
  drawn : c.dialect.returning = false
  /-- What succeeds is what a database does that keeps its constraints. -/
  kept : ∀ {n statement t r}, c.engine n statement t = .ok r →
    Engine.relational c.scheme n statement t = .ok r

/-! ### Users -/

namespace UserId

theorem sameKey_toValue (u v : UserId) : Value.sameKey u.toValue v.toValue = decide (u = v) := by
  cases u <;> cases v <;> simp [toValue, Value.sameKey, Value.number?]

/-- A user is bound to its cell, if at all. -/
theorem bindUser_toValue {scheme : IdScheme} {u : UserId} {cell : Option Cell}
    (h : Store.bindUser scheme u.toValue = .ok cell) : cell = some u.toCell := by
  have hnumber : ∀ {n : Int}, Store.bindNumber (.int n) = .ok cell → cell = some (.whole n) := by
    intro n hn
    obtain ⟨bound, hbound, hcell⟩ := bind_eq_ok.mp hn
    simp only [Store.bindCell] at hbound
    split at hbound <;> cases hbound
    cases hcell
    rfl
  cases scheme <;> cases u
  case uuid.uuid u =>
    cases h
    rfl
  case bigint.number n => exact hnumber h
  case int.number n => exact hnumber h
  all_goals cases h

theorem distinctKeys_toValue (users : List UserId) :
    Value.distinctKeys (users.map toValue) = (users.foldl addNew []).map toValue := by
  have hfrom : ∀ seen : List UserId, (users.map toValue).foldl
      (fun seen v => if seen.any (Value.sameKey v) then seen else seen ++ [v]) (seen.map toValue)
        = (users.foldl addNew seen).map toValue := by
    induction users with
    | nil => intro seen; rfl
    | cons u users ih =>
        intro seen
        have hany : (seen.map toValue).any (Value.sameKey u.toValue) = decide (u ∈ seen) := by
          rw [List.any_map, ← List.contains_eq_mem, List.contains_eq_any_beq]
          congr 1
          funext v
          simp [sameKey_toValue, beq_eq_decide]
        rw [List.map_cons, List.foldl_cons, List.foldl_cons, ← ih (addNew seen u), hany, addNew]
        by_cases hu : u ∈ seen <;> simp [hu]
  exact hfrom []

theorem distinctKeys_isEmpty {users : List UserId} (h : users ≠ []) :
    (Value.distinctKeys (users.map toValue)).isEmpty = false := by
  obtain ⟨user, huser⟩ := List.exists_mem_of_ne_nil users h
  rw [distinctKeys_toValue, List.isEmpty_eq_false_iff, ne_eq, List.map_eq_nil_iff]
  exact List.ne_nil_of_mem (mem_foldl_addNew.mpr (.inr huser))

/-- Users that are named twice are added once. -/
theorem foldl_addNew_distinct (users : List UserId) (cells : List Cell) :
    ((users.foldl addNew []).map toCell).foldl addNew cells
      = (users.map toCell).foldl addNew cells := by
  have hfrom : ∀ seen : List UserId, ((users.foldl addNew seen).map toCell).foldl addNew cells
      = (users.map toCell).foldl addNew ((seen.map toCell).foldl addNew cells) := by
    induction users with
    | nil => intro seen; rfl
    | cons u users ih =>
        intro seen
        rw [List.foldl_cons, ih, List.map_cons, List.foldl_cons]
        congr 1
        by_cases hu : u ∈ seen
        · rw [addNew_of_mem hu, addNew_of_mem]
          exact mem_foldl_addNew.mpr (.inr (List.mem_map_of_mem hu))
        · rw [addNew, if_neg hu, List.map_append, List.foldl_append]
          rfl
  exact hfrom []

end UserId

namespace Engine

variable {scheme : IdScheme} {t t' : Tables}

/-- A check does not report a broken constraint. -/
def Unbroken {α : Type} (check : Except Fault α) : Prop :=
  ∀ report, check ≠ .error (.database (.integrity report))

namespace Unbroken

variable {α β : Type}

theorem bind {x : Except Fault α} {f : α → Except Fault β} (hx : Unbroken x)
    (hf : ∀ a, Unbroken (f a)) : Unbroken (x >>= f) := by
  intro report h
  cases x with
  | error e =>
      cases h
      exact hx report rfl
  | ok a => exact hf a report h

theorem forM {f : α → Except Fault Unit} {l : List α} (hf : ∀ a ∈ l, Unbroken (f a)) :
    Unbroken (l.forM f) := by
  induction l with
  | nil =>
      intro report h
      cases h
  | cons a l ih =>
      exact (hf a (by simp)).bind fun _ => ih fun a ha => hf a (by simp [ha])

theorem mapM {f : α → Except Fault β} {l : List α} (hf : ∀ a ∈ l, Unbroken (f a)) :
    Unbroken (l.mapM f) := by
  induction l with
  | nil =>
      intro report h
      cases h
  | cons a l ih =>
      rw [List.mapM_cons]
      refine (hf a (by simp)).bind fun b => (ih fun a ha => hf a (by simp [ha])).bind fun bs => ?_
      intro report h
      cases h

end Unbroken

theorem bindUser_unbroken (u : UserId) : Unbroken (Store.bindUser scheme u.toValue) := by
  have hnumber : ∀ n : Int, Unbroken (Store.bindNumber (.int n)) := by
    intro n
    refine .bind (fun report h => ?_) fun cell report h => by cases h
    simp only [Store.bindCell] at h
    split at h <;> cases h
  have hidentifier : ∀ v : Value, Unbroken (Store.bindIdentifier v) := by
    intro v report h
    unfold Store.bindIdentifier at h
    split at h <;> cases h
  cases scheme with
  | uuid => exact (hidentifier _).bind fun u report h => by cases h
  | bigint | int =>
      cases u with
      | number n => exact hnumber n
      | uuid u =>
          intro report h
          cases h

/-- A user that can be bound is added unless it is there. -/
theorem ensureUser_bound {u : UserId} {cell : Option Cell}
    (h : Store.bindUser scheme u.toValue = .ok cell) (t : Tables) :
    t.ensureUser scheme cell = .ok (t.withUsers [u]) := by
  rw [UserId.bindUser_toValue h]
  cases u with
  | number n => rfl
  | uuid u =>
      cases scheme with
      | uuid => rfl
      | bigint | int => cases h

/-- Users that can be bound are added unless they are there. -/
theorem foldlM_ensureUser {us : List UserId} {bound : List (Option Cell)} (t : Tables)
    (hbound : List.Forall₂ (fun u cell => Store.bindUser scheme u.toValue = .ok cell) us bound) :
    bound.foldlM (Tables.ensureUser · scheme) t = .ok (t.withUsers us) := by
  induction hbound generalizing t with
  | nil => rfl
  | cons hu _ ih =>
      rw [List.foldlM_cons, ensureUser_bound hu]
      exact ih _

/-- Whether users can be made sure of does not depend on the tables, nor is a constraint broken by
it; if they can, those are added that were not there. -/
theorem exists_check_ensureUsers (scheme : IdScheme) (users : List UserId) :
    ∃ check : Except Fault Unit, Unbroken check ∧
      ∀ t, ensureUsers scheme t (Value.distinctKeys (users.map UserId.toValue))
        = check.map fun _ => t.withUsers users := by
  rw [UserId.distinctKeys_toValue]
  let us := users.foldl addNew []
  let look : Value → Except Fault Unit := fun user =>
    if user.isNull || ColumnKind.user.accepts scheme user then .ok ()
    else .error (Store.unbound "id")
  let count : Except Fault Unit := if maxValues < (us.map UserId.toValue).length
    then .error tooManyValues else .ok ()
  let bind : Except Fault (List (Option Cell)) :=
    (us.map UserId.toValue).mapM (Store.bindUser scheme)
  have hlook : ∀ user, Unbroken (look user) := by
    intro user report h
    dsimp only [look] at h
    split at h <;> cases h
  have hcount : Unbroken count := by
    intro report h
    dsimp only [count] at h
    split at h <;> cases h
  have hbind : Unbroken bind := by
    refine Unbroken.mapM fun v hv => ?_
    obtain ⟨u, -, rfl⟩ := List.mem_map.mp hv
    exact bindUser_unbroken u
  refine ⟨(us.map UserId.toValue).forM look >>= fun _ => count >>= fun _ => bind >>= fun _ =>
    .ok (), ?_, fun t => ?_⟩
  · exact (Unbroken.forM fun user _ => hlook user).bind fun _ => hcount.bind fun _ =>
      hbind.bind fun _ report h => by cases h
  · have hbody : ensureUsers scheme t (us.map UserId.toValue)
        = (us.map UserId.toValue).forM look >>= fun _ => count >>= fun _ => bind >>= fun bound =>
            (bound.foldlM (Tables.ensureUser · scheme) t).mapError Store.broken := by
      show (_ >>= fun _ => _) = _
      dsimp only [count]
      split <;> rfl
    rw [hbody]
    cases (us.map UserId.toValue).forM look with
    | error e => rfl
    | ok _ =>
        cases count with
        | error e => rfl
        | ok _ =>
            cases hbound : bind with
            | error e => rfl
            | ok bound =>
                have hall := mapM_eq_ok.mp hbound
                rw [List.forall₂_map_left_iff] at hall
                show (bound.foldlM (Tables.ensureUser · scheme) t).mapError Store.broken
                  = .ok (t.withUsers users)
                rw [foldlM_ensureUser t hall]
                exact congrArg (fun users => Except.ok { t with users })
                  (UserId.foldl_addNew_distinct users t.users)

/-- Making sure of users adds those that were not there. -/
theorem ensureUsers_ok {users : List UserId}
    (h : ensureUsers scheme t (Value.distinctKeys (users.map UserId.toValue)) = .ok t') :
    t' = t.withUsers users := by
  obtain ⟨check, -, hcheck⟩ := exists_check_ensureUsers scheme users
  rw [hcheck] at h
  obtain ⟨_, -, rfl⟩ := map_eq_ok.mp h
  rfl

end Engine

/-! ### Steps -/

namespace Repository

open Txn

variable {c : Conditions} {t t' : Tables}

/-- Making sure of users adds those that were not there, or a report of a duplicate was passed over
and nothing was added. -/
theorem gives_ensureUsers (hc : c.Constrained) {users : List UserId} {u : Unit}
    (h : Gives (ensureUsers c (users.map UserId.toValue)) t u t') :
    t' = t ∨ t' = t.withUsers users := by
  unfold ensureUsers at h
  replace h := gives_after_meet h
  obtain ⟨-, -, h⟩ := gives_after_check h
  dsimp only at h
  split at h
  · rcases gives_of_classify h with hbody | ⟨e, w, w₁, w', rfl, rfl, hbody, htell⟩
    · obtain ⟨ids, t₃, hexecute, h⟩ := gives_of_bind hbody
      obtain ⟨-, rfl⟩ := gives_of_pure h
      obtain ⟨n, hengine⟩ := gives_of_execute hexecute
      obtain ⟨t₄, hensured, heq⟩ := map_eq_ok.mp (mapError_eq_ok.mp (hc.kept hengine))
      cases heq
      exact .inr (Engine.ensureUsers_ok hensured)
    · -- the one report that is passed over: the statement failed, so nothing was added
      left
      have hsame : w₁.tables = w.tables := by
        rw [exec_bind, exec_execute] at hbody
        split at hbody
        · cases hbody
        · next hexec =>
            split at hexec <;> cases hexec
            cases hbody
            rfl
      have hquiet : w' = w₁ := by
        split at htell
        · split at htell <;> cases htell
          rfl
        · cases htell
      rw [hquiet, hsame]
  · exact .inl (gives_of_pure h).2

theorem gives_ensureUser (hc : c.Constrained) {user : UserId} {u : Unit}
    (h : Gives (ensureUser c user.toValue) t u t') : t' = t ∨ t' = t.withUsers [user] := by
  replace h := gives_after_meet h
  exact gives_ensureUsers hc h

/-- As what a broken constraint or another error of the database is told. -/
def told (onBroken : DriverReport → Failure) (onOther : Fault → Failure) : DatabaseError → Raised
  | .integrity report => .failure (onBroken report)
  | e => .failure (onOther (.database e))

theorem reject_eq_throw {α : Type} {onBroken : DriverReport → Failure}
    {onOther : Fault → Failure} (e : DatabaseError) :
    (reject onBroken onOther e : Txn α) = throw (told onBroken onOther e) := by
  cases e <;> rfl

/-- Parts whose errors are told alike fare alike when they did before the telling. -/
theorem sameFate_reject {α β : Type} {x : Txn α} {y : Txn β} {w₁ w₂ : Work}
    {Q : α × Work → β × Work → Prop} {onBroken : DriverReport → Failure}
    {onOther : Fault → Failure} (h : SameFate (result x w₁) (result y w₂) Q) :
    SameFate (result (classify x (reject onBroken onOther)) w₁)
      (result (classify y (reject onBroken onOther)) w₂) Q := by
  rw [result_classify reject_eq_throw, result_classify reject_eq_throw]
  exact h.mapError _

theorem gives_execute_insert (hc : c.Constrained) {table : Table} {rows : List Record}
    {returning : Bool} {ids : List (Option Uuid)}
    (h : Gives (execute c (.insert table rows returning)) t ids t') :
    (rows.map table.mentioned).foldlM (Engine.addRow c.scheme table) t = .ok t' := by
  obtain ⟨n, hengine⟩ := gives_of_execute h
  obtain ⟨t₁, hadded, heq⟩ := map_eq_ok.mp (mapError_eq_ok.mp (hc.kept hengine))
  cases heq
  exact Engine.addRows_ok hadded

/-- Rows that get identifiers are added under identifiers that were drawn, one for each. -/
theorem gives_insertWithIds (hc : c.Constrained) {table : Table} {rows : List Record}
    {handed : List (Option Uuid)} (h : Gives (insertWithIds c table rows) t handed t') :
    ∃ ids, handed = ids.map some ∧ ids.length = rows.length ∧ Drawn c ids ∧
      ((List.zipWith withId rows ids).map table.mentioned).foldlM
        (Engine.addRow c.scheme table) t = .ok t' := by
  unfold insertWithIds at h
  replace h := gives_after_meet h
  rw [if_neg (by simp [hc.drawn])] at h
  obtain ⟨ids, hlength, hdrawn, h⟩ := gives_after_drawFor h
  obtain ⟨_, t₁, hexecute, h⟩ := gives_of_bind h
  obtain ⟨rfl, rfl⟩ := gives_of_pure h
  exact ⟨ids, rfl, hlength, hdrawn, gives_execute_insert hc hexecute⟩

theorem allIds?_map_some (ids : List Uuid) : allIds? (ids.map some) = some ids := by
  unfold allIds?
  induction ids with
  | nil => rfl
  | cons id ids ih => simp [ih]

/-- Events are added under identifiers of their own, which are told in the order of the rows. -/
theorem gives_insertEvents (hc : c.Constrained) {rows : List Record} {ids : List Uuid}
    (h : Gives (insertEvents c rows) t ids t') :
    ids.length = rows.length ∧ Drawn c ids ∧
      ((List.zipWith withId rows ids).map Table.events.mentioned).foldlM
        (Engine.addRow c.scheme .events) t = .ok t' := by
  unfold insertEvents at h
  replace h := gives_after_meet h
  split at h
  · next hrows =>
      obtain ⟨rfl, rfl⟩ := gives_of_pure h
      rw [hrows]
      exact ⟨rfl, fun id hid => absurd hid List.not_mem_nil, rfl⟩
  · obtain ⟨handed, t₂, hinsert, h⟩ := gives_of_bind h
    obtain ⟨drawn, rfl, hlength, hdrawn, hadded⟩ :=
      gives_insertWithIds hc (gives_of_classify_refusing reject_eq_throw hinsert)
    rw [allIds?_map_some] at h
    split at h
    · exact absurd h not_gives_throw
    · exact absurd h not_gives_throw
    · next heq =>
        cases heq
        rw [if_pos hlength] at h
        obtain ⟨rfl, rfl⟩ := gives_of_pure h
        exact ⟨hlength, hdrawn, hadded⟩

theorem gives_insertEvent (hc : c.Constrained) {row : Record} {id : Uuid}
    (h : Gives (insertEvent c row) t id t') :
    Drawn c [id] ∧
      Engine.addRow c.scheme .events t (Table.events.mentioned (withId row id)) = .ok t' := by
  unfold insertEvent at h
  replace h := gives_after_meet h
  obtain ⟨ids, t₂, hinsert, h⟩ := gives_of_bind h
  obtain ⟨hlength, hdrawn, hadded⟩ := gives_insertEvents hc hinsert
  obtain ⟨first, rfl⟩ := List.length_eq_one_iff.mp hlength
  obtain ⟨rfl, rfl⟩ := gives_of_pure h
  obtain ⟨t₃, hadded, heq⟩ := bind_eq_ok.mp hadded
  cases heq
  exact ⟨hdrawn, hadded⟩

theorem gives_insertDetails (hc : c.Constrained) {table : Table} {rows : List Record} {u : Unit}
    (h : Gives (insertDetails c table rows) t u t') :
    (rows.map table.mentioned).foldlM (Engine.addRow c.scheme table) t = .ok t' := by
  unfold insertDetails at h
  replace h := gives_after_meet h
  split at h
  · obtain ⟨ids, t₂, hexecute, h⟩ :=
      gives_of_bind (gives_of_classify_refusing reject_eq_throw h)
    obtain ⟨-, rfl⟩ := gives_of_pure h
    exact gives_execute_insert hc hexecute
  · next hrows =>
      obtain ⟨-, rfl⟩ := gives_of_pure h
      rw [not_not.mp hrows]
      rfl

theorem gives_insertDetail (hc : c.Constrained) {table : Table} {event : Value} {values : Record}
    {u : Unit} (h : Gives (insertDetail c table event values) t u t') :
    Engine.addRow c.scheme table t (table.mentioned (detailRow event values)) = .ok t' := by
  unfold insertDetail at h
  replace h := gives_after_meet h
  obtain ⟨t₂, hadded, heq⟩ := bind_eq_ok.mp (gives_insertDetails hc h)
  cases heq
  exact hadded

theorem gives_insertApiKey (hc : c.Constrained) {values : Record} {id : Uuid}
    (h : Gives (insertApiKey c values) t id t') :
    Engine.addRow c.scheme .apiKeys t (Table.apiKeys.mentioned (withId values id)) = .ok t' := by
  unfold insertApiKey at h
  replace h := gives_after_meet h
  obtain ⟨handed, t₂, hinsert, h⟩ := gives_of_bind h
  obtain ⟨ids, rfl, hlength, -, hadded⟩ :=
    gives_insertWithIds hc (gives_of_classify_refusing reject_eq_throw hinsert)
  obtain ⟨first, rfl⟩ := List.length_eq_one_iff.mp hlength
  obtain ⟨rfl, rfl⟩ := gives_of_pure h
  obtain ⟨t₃, hadded, heq⟩ := bind_eq_ok.mp hadded
  cases heq
  exact hadded

end Repository

end UsageLedger
