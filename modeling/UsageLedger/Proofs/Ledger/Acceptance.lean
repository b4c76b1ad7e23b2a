/-
What is accepted when nothing goes wrong.

A database without faults executes every statement whose rows fit, so the steps of a
transaction can be followed forwards: users of the scheme are added unless they are there,
an event is taken under a new identifier when what it refers to is there, and its
particulars under the identifier that was just added.  `Accepted` says what has been stored
when a call is accepted; here it is shown that what keeps the rules is.
-/
import UsageLedger.Proofs.Event.RoundTrip
import UsageLedger.Proofs.Ledger.Consistency

namespace UsageLedger

/-- A database that keeps its constraints, hands back no identifiers and meets no fault. -/
structure Conditions.Undisturbed (c : Conditions) : Prop where
  drawn : c.dialect.returning = false
  engine : ∀ n statement t, c.engine n statement t = Engine.relational c.scheme n statement t
  opening : c.opening = none
  commit : c.commit = none
  broken : ∀ step, c.broken step = none

theorem Conditions.Undisturbed.constrained {c : Conditions} (hc : c.Undisturbed) :
    c.Constrained where
  drawn := hc.drawn
  kept h := (hc.engine _ _ _).symm.trans h

theorem Conditions.undisturbed_ideal (scheme : IdScheme) (fresh : Nat → Uuid) :
    (ideal scheme fresh).Undisturbed :=
  ⟨rfl, fun _ _ _ => rfl, rfl, rfl, fun _ => rfl⟩

/-! ### What tables take -/

namespace Tables

variable {t : Tables}

/-- No row has the identifier. -/
structure Free (t : Tables) (id : Uuid) : Prop where
  apiKey : id ∉ t.apiKeys.map (·.id)
  event : id ∉ t.events.map (·.id)
  detail : id ∉ t.detailIds

/-- The tables with an event added. -/
def withEvent (t : Tables) (e : EventRow) : Tables := { t with events := t.events ++ [e] }

/-- The tables with events added. -/
def withEvents (t : Tables) (es : List EventRow) : Tables := { t with events := t.events ++ es }

theorem addEvent_of_takes {e : EventRow} (h : t.Takes e) : t.addEvent e = .ok (t.withEvent e) := by
  have hnew : ¬ t.hasEvent e.id = true := fun hid => h.fresh (hasEvent_eq_true.mp hid)
  have huser : ¬ e.user.any (fun user => user ∉ t.users) = true := by
    intro hany
    obtain ⟨user, hmem, hno⟩ := (Option.any_eq_true _ _).mp hany
    exact of_decide_eq_true hno (h.user user hmem)
  have hkey : ¬ e.apiKey.any (fun key => !t.apiKeys.any (·.id = key)) = true := by
    intro hany
    obtain ⟨key, hmem, hno⟩ := (Option.any_eq_true _ _).mp hany
    obtain ⟨row, hrow, hid⟩ := List.mem_map.mp (h.apiKey key hmem)
    simp only [Bool.not_eq_true', List.any_eq_false] at hno
    exact hno row hrow (by simpa using hid)
  rw [addEvent, if_neg hnew, if_neg huser, if_neg hkey]
  rfl

theorem Free.particulars {id : Uuid} (h : t.Free id) :
    id ∉ t.sdkCalls.map (·.id) ∧ id ∉ t.payments.map (·.id) ∧ id ∉ t.tokenUsages.map (·.id) := by
  have hnone := h.detail
  simp only [detailIds, List.mem_append, not_or] at hnone
  exact ⟨hnone.1.1, hnone.1.2, hnone.2⟩

section Event

variable {id : Uuid} {time : String} {user : UserId} {key : Option Uuid}

theorem takes_of_free (hfree : t.Free id) (hkey : ∀ k ∈ key, k ∈ t.apiKeys.map (·.id)) :
    (t.withUsers [user]).Takes (Posting.event id time user key) where
  fresh := hfree.event
  user := by
    rintro _ ⟨⟩
    exact mem_foldl_addNew.mpr (.inr (List.mem_singleton_self _))
  apiKey := hkey

theorem hasEvent_withEvent : (t.withEvent (Posting.event id time user key)).hasEvent id = true := by
  simp [hasEvent, withEvent, Posting.event]

end Event

end Tables

/-! ### Users of the scheme -/

theorem Store.bindNumber_of_fits {n : Int} (h : Intake.fitsInt64 n = true) :
    bindNumber (.int n) = .ok (some (.whole n)) := by
  show (do return Option.map Cell.asNumber (← bindCell (.int n))) = _
  rw [bindCell, if_pos h]
  rfl

namespace UserId

variable {scheme : IdScheme} {user : UserId}

/-- A numeric identifier of a scheme fits a column of 64 bits. -/
theorem Fits.number {n : Int} (h : (UserId.number n).Fits scheme) :
    scheme ≠ .uuid ∧ Intake.fitsInt64 n = true := by
  have hbounds : ∀ {bounds : Int × Int}, Intake.int64Min ≤ bounds.1 → bounds.2 ≤ Intake.int64Max →
      ofNumber scheme bounds n = .ok (.number n) → Intake.fitsInt64 n = true := by
    intro bounds hlow hhigh hn
    unfold ofNumber at hn
    split at hn
    · next hin =>
        simp only [Intake.fitsInt64, Bool.and_eq_true, decide_eq_true_eq]
        exact ⟨hlow.trans hin.1, hin.2.trans hhigh⟩
    · cases hn
  cases scheme with
  | uuid => cases h
  | bigint => exact ⟨by decide, hbounds (by decide) (by decide) h⟩
  | int => exact ⟨by decide, hbounds (by decide) (by decide) h⟩

theorem Fits.uuid {u : Uuid} (h : (UserId.uuid u).Fits scheme) : scheme = .uuid := by
  cases scheme <;> first | rfl | cases h

theorem Fits.bindUser (h : user.Fits scheme) :
    Store.bindUser scheme user.toValue = .ok (some user.toCell) := by
  cases user with
  | uuid u =>
      obtain rfl := h.uuid
      rfl
  | number n =>
      obtain ⟨hscheme, hfits⟩ := h.number
      cases scheme with
      | uuid => exact absurd rfl hscheme
      | bigint | int => exact Store.bindNumber_of_fits hfits

theorem Fits.accepts (h : user.Fits scheme) :
    ColumnKind.user.accepts scheme user.toValue = true := by
  cases user with
  | uuid u => simp [ColumnKind.accepts, toValue, Value.hasHexForm]
  | number n => simp [ColumnKind.accepts, h.number.1]

end UserId

namespace Engine

variable {scheme : IdScheme} {t : Tables}

/-- Users of the scheme are added unless they are there. -/
theorem ensureUsers_fits {users : List UserId} (hfits : ∀ user ∈ users, user.Fits scheme)
    (hlength : users.length ≤ maxValues) :
    ensureUsers scheme t (users.map UserId.toValue) = .ok (t.withUsers users) := by
  have hlook : (users.map UserId.toValue).forM (fun user =>
      if user.isNull || ColumnKind.user.accepts scheme user then .ok ()
      else .error (Store.unbound "id") : Value → Except Fault Unit) = .ok () := by
    refine forM_eq_ok.mpr fun v hv => ?_
    obtain ⟨user, huser, rfl⟩ := List.mem_map.mp hv
    rw [if_pos (by simp [(hfits user huser).accepts])]
  have hbound : (users.map UserId.toValue).mapM (Store.bindUser scheme)
      = .ok (users.map fun user : UserId => some user.toCell) := by
    refine mapM_eq_ok.mpr ?_
    rw [List.forall₂_map_left_iff, List.forall₂_map_right_iff, List.forall₂_same]
    exact fun user huser => (hfits user huser).bindUser
  have hensured : (users.map fun user : UserId => some user.toCell).foldlM
      (Tables.ensureUser · scheme) t = .ok (t.withUsers users) := by
    refine foldlM_ensureUser t ?_
    rw [List.forall₂_map_right_iff, List.forall₂_same]
    exact fun user huser => (hfits user huser).bindUser
  unfold ensureUsers
  rw [hlook]
  show (if maxValues < (users.map UserId.toValue).length then _ else _) = _
  rw [List.length_map, if_neg (not_lt.mpr hlength)]
  show ((users.map UserId.toValue).mapM (Store.bindUser scheme) >>= _) = _
  rw [hbound]
  show Except.mapError Store.broken ((users.map fun user : UserId => some user.toCell).foldlM
    (Tables.ensureUser · scheme) t) = _
  rw [hensured]
  rfl

/-- Rows that pass the look at each of them are added by groups as they are one after the other. -/
theorem addRows_of_foldlM {t' : Tables} {table : Table} {rows : List Record}
    (hcheck : ∀ row ∈ rows, Store.checkRow scheme table (table.mentioned row) = .ok ())
    (h : (rows.map table.mentioned).foldlM (addRow scheme table) t = .ok t') :
    addRows scheme table t rows = .ok t' := by
  have hgroups : ∀ (groups : List (List Record)) (t : Tables),
      (∀ row ∈ groups.flatten, Store.checkRow scheme table row = .ok ()) →
      groups.flatten.foldlM (addRow scheme table) t = .ok t' →
      groups.foldlM (addAlike scheme table) t = .ok t' := by
    intro groups
    induction groups with
    | nil => intro t _ h; exact h
    | cons group groups ih =>
        intro t hcheck h
        rw [List.flatten_cons, List.forall_mem_append] at hcheck
        rw [List.flatten_cons, List.foldlM_append] at h
        obtain ⟨t₁, hgroup, h⟩ := bind_eq_ok.mp h
        have halike : addAlike scheme table t group = .ok t₁ := by
          rw [addAlike, forM_eq_ok.mpr hcheck.1]
          exact hgroup
        rw [List.foldlM_cons, halike]
        exact ih t₁ hcheck.2 h
  refine hgroups _ t ?_ ?_
  · rw [List.flatten_splitBy, List.forall_mem_map]
    exact hcheck
  · rwa [List.flatten_splitBy]

/-- A row whose identifier is new has a new one still after another row was added. -/
theorem not_mem_map_concat {α : Type} {id : α → Uuid} {rows later : List α} {row x : α}
    (hnew : id x ∉ rows.map id) (hrow : id row ∉ later.map id) (hx : x ∈ later) :
    id x ∉ (rows ++ [row]).map id := by
  rw [List.map_append, List.mem_append, not_or]
  refine ⟨hnew, fun hsame => hrow ?_⟩
  rw [← List.mem_singleton.mp hsame]
  exact List.mem_map_of_mem hx

/-- Events with identifiers of their own that refer to what is there are added. -/
theorem addEvents_of_takes {rows : List Record} {es : List EventRow}
    (hrows : List.Forall₂ (fun row e => Store.eventRow scheme row = .ok e) rows es)
    (htakes : ∀ e ∈ es, t.Takes e) (hnodup : (es.map (·.id)).Nodup) :
    rows.foldlM (addRow scheme .events) t = .ok (t.withEvents es) := by
  induction hrows generalizing t with
  | nil =>
      rw [Tables.withEvents, List.append_nil]
      rfl
  | @cons row e rows es hrow _ ih =>
      rw [List.forall_mem_cons] at htakes
      rw [List.map_cons, List.nodup_cons] at hnodup
      have hadded : addRow scheme .events t row = .ok (t.withEvent e) := by
        simp only [addRow, hrow]
        show (t.addEvent e).mapError Store.broken = _
        rw [Tables.addEvent_of_takes htakes.1]
        rfl
      have hlater : ∀ e' ∈ es, (t.withEvent e).Takes e' := fun e' he' =>
        ⟨not_mem_map_concat (htakes.2 e' he').fresh hnodup.1 he', (htakes.2 e' he').user,
          (htakes.2 e' he').apiKey⟩
      rw [List.foldlM_cons, hadded]
      refine (ih hlater hnodup.2).trans ?_
      rw [Tables.withEvents, Tables.withEvents, Tables.withEvent, List.append_assoc]
      rfl

/-- Particulars of token usage with identifiers of events of their own are added. -/
theorem addTokenUsages_of_events {rows : List Record} {ds : List TokenUsageRow}
    (hrows : List.Forall₂ (fun row d => Store.tokenUsageRow row = .ok d) rows ds)
    (hnew : ∀ d ∈ ds, d.id ∉ t.tokenUsages.map (·.id)) (hnodup : (ds.map (·.id)).Nodup)
    (hevents : ∀ d ∈ ds, t.hasEvent d.id = true) :
    rows.foldlM (addRow scheme .tokenUsages) t
      = .ok { t with tokenUsages := t.tokenUsages ++ ds } := by
  induction hrows generalizing t with
  | nil =>
      rw [List.append_nil]
      rfl
  | @cons row d rows ds hrow _ ih =>
      rw [List.forall_mem_cons] at hnew hevents
      rw [List.map_cons, List.nodup_cons] at hnodup
      have hadded : addRow scheme .tokenUsages t row
          = .ok { t with tokenUsages := t.tokenUsages ++ [d] } := by
        have hno : ¬ t.tokenUsages.any (·.id = d.id) = true := by simpa using hnew.1
        simp only [addRow, hrow]
        show (t.addTokenUsage d).mapError Store.broken = _
        rw [Tables.addTokenUsage, if_neg hno, hevents.1, if_neg (by decide)]
        rfl
      have hlater : ∀ d' ∈ ds, d'.id ∉ (t.tokenUsages ++ [d]).map (·.id) := fun d' hd' =>
        not_mem_map_concat (hnew.2 d' hd') hnodup.1 hd'
      rw [List.foldlM_cons, hadded]
      refine (ih (t := { t with tokenUsages := t.tokenUsages ++ [d] }) hlater hnodup.2
        hevents.2).trans ?_
      rw [List.append_assoc]
      rfl

end Engine

/-! ### Steps that nothing disturbs -/

namespace Repository

open Txn

variable {c : Conditions} {t t' : Tables} {done : List Statement} {n : Nat}

theorem checkKey_toValue (user : UserId) : Fault.checkKey user.toValue = .ok () := by
  cases user <;> rfl

/-- Users are made sure of by one statement that names each once. -/
theorem result_ensureUsers_of_execute (hbroken : c.broken .ensureUsers = none)
    {users : List UserId} (hne : users ≠ []) {told : List (Option Uuid)} {w w' : Work}
    (h : result (execute c (.ensureUsers ((users.foldl addNew []).map UserId.toValue))) w
      = .ok (told, w')) :
    result (ensureUsers c (users.map UserId.toValue)) w = .ok ((), w') := by
  have hkeys : (users.map UserId.toValue).forM Fault.checkKey = .ok () := by
    refine forM_eq_ok.mpr fun v hv => ?_
    obtain ⟨user, -, rfl⟩ := List.mem_map.mp hv
    exact checkKey_toValue user
  have hsome := UserId.distinctKeys_isEmpty hne
  rw [UserId.distinctKeys_toValue] at hsome
  unfold ensureUsers
  rw [result_after_meet hbroken, result_after_check (by rw [hkeys]; rfl)]
  dsimp only
  rw [UserId.distinctKeys_toValue, hsome, if_pos (show (!false) = true from rfl)]
  refine result_classify_of_ok ?_ _
  rw [result_after h]
  rfl

/-- Users of the scheme are added with one statement that names each once. -/
theorem result_ensureUsers (hc : c.Undisturbed) {users : List UserId} (hne : users ≠ [])
    (hfits : ∀ user ∈ users, user.Fits c.scheme)
    (hlength : (users.foldl addNew []).length ≤ Engine.maxValues) :
    result (ensureUsers c (users.map UserId.toValue)) ⟨t, done, n⟩
      = .ok ((), ⟨t.withUsers users,
          done ++ [.ensureUsers ((users.foldl addNew []).map UserId.toValue)], n⟩) := by
  have hengine : Engine.ensureUsers c.scheme t ((users.foldl addNew []).map UserId.toValue)
      = .ok (t.withUsers users) := by
    rw [Engine.ensureUsers_fits (fun user huser => ?_) hlength, Tables.withUsers,
      UserId.foldl_addNew_distinct]
    · rfl
    · exact hfits user ((mem_foldl_addNew.mp huser).resolve_left List.not_mem_nil)
  have hexecute : result
      (execute c (.ensureUsers ((users.foldl addNew []).map UserId.toValue))) ⟨t, done, n⟩
      = .ok ([], ⟨t.withUsers users,
          done ++ [.ensureUsers ((users.foldl addNew []).map UserId.toValue)], n⟩) := by
    rw [result_execute, hc.engine]
    show (((Engine.ensureUsers c.scheme t _).map _).mapError _).map _ = _
    rw [hengine]
    rfl
  exact result_ensureUsers_of_execute (hc.broken _) hne hexecute

theorem result_ensureUsers_single (hc : c.Undisturbed) {user : UserId}
    (hfits : user.Fits c.scheme) :
    result (ensureUsers c [user.toValue]) ⟨t, done, n⟩
      = .ok ((), ⟨t.withUsers [user], done ++ [.ensureUsers [user.toValue]], n⟩) := by
  have hone : [user].foldl addNew [] = [user] := rfl
  have hensured : result (ensureUsers c ([user].map UserId.toValue)) ⟨t, done, n⟩ = _ :=
    result_ensureUsers hc (List.cons_ne_nil user []) (List.forall_mem_singleton.mpr hfits)
      (by rw [hone]; exact (by decide : 1 ≤ Engine.maxValues))
  rw [hone] at hensured
  exact hensured

theorem result_ensureUser (hc : c.Undisturbed) {user : UserId} (hfits : user.Fits c.scheme) :
    result (ensureUser c user.toValue) ⟨t, done, n⟩
      = .ok ((), ⟨t.withUsers [user], done ++ [.ensureUsers [user.toValue]], n⟩) := by
  unfold ensureUser
  rw [result_after_meet (hc.broken _)]
  exact result_ensureUsers_single hc hfits

theorem result_execute_insert (hc : c.Undisturbed) {table : Table} {rows : List Record}
    (h : Engine.addRows c.scheme table t rows = .ok t') :
    result (execute c (.insert table rows false)) ⟨t, done, n⟩
      = .ok ([], ⟨t', done ++ [.insert table rows false], n⟩) := by
  rw [result_execute, hc.engine]
  show (((Engine.addRows c.scheme table t rows).map _).mapError _).map _ = _
  rw [h]
  rfl

/-- Identifiers are drawn in their order. -/
theorem result_drawFor {α : Type} (items : List α) :
    result (drawFor c items) ⟨t, done, n⟩
      = .ok ((List.range' n items.length).map c.fresh, ⟨t, done, n + items.length⟩) := by
  induction items generalizing n with
  | nil => rfl
  | cons item items ih =>
      have hdraw : result (draw c) ⟨t, done, n⟩ = .ok (c.fresh n, ⟨t, done, n + 1⟩) := rfl
      have hrest : result (items.mapM fun _ => draw c) ⟨t, done, n + 1⟩ = _ := ih
      unfold drawFor
      rw [List.mapM_cons, result_after hdraw, result_after hrest, List.length_cons,
        Nat.add_right_comm, Nat.add_assoc]
      rfl

/-- Rows that get identifiers are added under the next ones that are drawn. -/
theorem result_insertWithIds (hc : c.Undisturbed) {table : Table} {rows : List Record}
    (h : Engine.addRows c.scheme table t
      (List.zipWith withId rows ((List.range' n rows.length).map c.fresh)) = .ok t') :
    result (insertWithIds c table rows) ⟨t, done, n⟩
      = .ok (((List.range' n rows.length).map c.fresh).map some, ⟨t',
          done ++ [.insert table
            (List.zipWith withId rows ((List.range' n rows.length).map c.fresh)) false],
          n + rows.length⟩) := by
  unfold insertWithIds
  rw [result_after_meet (hc.broken _), hc.drawn, if_neg Bool.false_ne_true,
    result_after (result_drawFor rows), result_after (result_execute_insert hc h)]
  rfl

/-- What comes of the identifiers that are handed back for a number of rows. -/
def settleIds (count : Nat) (handed : List (Option Uuid)) : Except Raised (List Uuid) :=
  match allIds? handed with
  | none | some [] => .error (.failure .eventWithoutId)
  | some ids =>
    if ids.length = count then .ok ids
    else .error (.failure (.idCountMismatch count ids.length))

theorem settleIds_map_some {ids : List Uuid} (hne : ids ≠ []) :
    settleIds ids.length (ids.map some) = .ok ids := by
  obtain ⟨id, rest, rfl⟩ := List.exists_cons_of_ne_nil hne
  rw [settleIds, allIds?_map_some]
  exact if_pos rfl

/-- The identifiers that are handed back decide over the addition of events. -/
theorem exec_insertEvents (hbroken : c.broken .insertEvents = none) {rows : List Record}
    (hne : rows ≠ []) {handed : List (Option Uuid)} {w w' : Work}
    (h : result (insertWithIds c .events rows) w = .ok (handed, w')) :
    exec (insertEvents c rows) w = (settleIds rows.length handed, w') := by
  have hhanded := exec_of_result_ok (result_classify_of_ok h
    (reject .eventRejected (.eventInsert rows.length)))
  unfold insertEvents settleIds
  rw [exec_after_meet hbroken, if_neg hne, exec_after hhanded]
  rcases allIds? handed with _ | (_ | ⟨id, ids⟩)
  · rfl
  · rfl
  · dsimp only
    by_cases hlength : (id :: ids).length = rows.length
    · rw [if_pos hlength, if_pos hlength]
      rfl
    · rw [if_neg hlength, if_neg hlength]
      rfl

theorem result_insertEvents (hc : c.Undisturbed) {rows : List Record} (hne : rows ≠ [])
    (h : Engine.addRows c.scheme .events t
      (List.zipWith withId rows ((List.range' n rows.length).map c.fresh)) = .ok t') :
    result (insertEvents c rows) ⟨t, done, n⟩
      = .ok ((List.range' n rows.length).map c.fresh, ⟨t',
          done ++ [.insert .events
            (List.zipWith withId rows ((List.range' n rows.length).map c.fresh)) false],
          n + rows.length⟩) := by
  have hlength : ((List.range' n rows.length).map c.fresh).length = rows.length := by simp
  have hsettled := settleIds_map_some (List.ne_nil_of_length_pos
    (hlength.symm ▸ List.length_pos_iff.mpr hne))
  rw [hlength] at hsettled
  rw [result, exec_insertEvents (hc.broken _) hne (result_insertWithIds hc h), hsettled]
  rfl

theorem result_insertEvent (hc : c.Undisturbed) {row : Record}
    (h : Engine.addRows c.scheme .events t [withId row (c.fresh n)] = .ok t') :
    result (insertEvent c row) ⟨t, done, n⟩
      = .ok (c.fresh n, ⟨t',
          done ++ [.insert .events [withId row (c.fresh n)] false], n + 1⟩) := by
  unfold insertEvent
  rw [result_after_meet (hc.broken _),
    result_after (result_insertEvents hc (List.cons_ne_nil row []) h)]
  rfl

theorem result_insertDetails_of_execute (hbroken : c.broken .insertDetails = none) {table : Table}
    {rows : List Record} (hne : rows ≠ []) {told : List (Option Uuid)} {w w' : Work}
    (h : result (execute c (.insert table rows false)) w = .ok (told, w')) :
    result (insertDetails c table rows) w = .ok ((), w') := by
  unfold insertDetails
  rw [result_after_meet hbroken, if_pos hne]
  refine result_classify_of_ok ?_ _
  rw [result_after h]
  rfl

theorem result_insertDetails (hc : c.Undisturbed) {table : Table} {rows : List Record}
    (hne : rows ≠ []) (h : Engine.addRows c.scheme table t rows = .ok t') :
    result (insertDetails c table rows) ⟨t, done, n⟩
      = .ok ((), ⟨t', done ++ [.insert table rows false], n⟩) :=
  result_insertDetails_of_execute (hc.broken _) hne (result_execute_insert hc h)

theorem result_insertDetail (hc : c.Undisturbed) {table : Table} {event : Value} {values : Record}
    (h : Engine.addRows c.scheme table t [detailRow event values] = .ok t') :
    result (insertDetail c table event values) ⟨t, done, n⟩
      = .ok ((), ⟨t', done ++ [.insert table [detailRow event values] false], n⟩) := by
  unfold insertDetail
  rw [result_after_meet (hc.broken _)]
  exact result_insertDetails hc (List.cons_ne_nil _ _) h

theorem result_insertApiKey (hc : c.Undisturbed) {values : Record}
    (h : Engine.addRows c.scheme .apiKeys t [withId values (c.fresh n)] = .ok t') :
    result (insertApiKey c values) ⟨t, done, n⟩
      = .ok (c.fresh n, ⟨t',
          done ++ [.insert .apiKeys [withId values (c.fresh n)] false],
          n + 1⟩) := by
  unfold insertApiKey
  rw [result_after_meet (hc.broken _)]
  dsimp only
  rw [result_after (result_classify_of_ok (result_insertWithIds hc h) _)]
  rfl

end Repository

/-! ### Rows -/

namespace Engine

open Store Repository

variable {scheme : IdScheme} {t : Tables} {id : Uuid} {time : String} {user : UserId}
  {key : Option Uuid}

theorem checkRow_event (hfits : user.Fits scheme) :
    checkRow scheme .events (Table.events.mentioned
      (withId (userEventRow time user key) id)) = .ok () := by
  have haccepts := hfits.accepts
  cases user with
  | uuid u =>
      obtain rfl := hfits.uuid
      cases key <;> rfl
  | number n =>
      cases scheme with
      | uuid => exact absurd rfl hfits.number.1
      | bigint | int => cases key <;> rfl

theorem eventRow_of_fits (hfits : user.Fits scheme) :
    Store.eventRow scheme (Table.events.mentioned (withId (userEventRow time user key) id))
      = .ok (Posting.event id time user key) := by
  rw [eventRow_eq, hfits.bindUser]
  rfl

theorem addRows_event (hfits : user.Fits scheme) (h : t.Takes (Posting.event id time user key)) :
    addRows scheme .events t [withId (userEventRow time user key) id]
      = .ok (t.withEvent (Posting.event id time user key)) :=
  addRows_of_foldlM (List.forall_mem_singleton.mpr (checkRow_event hfits))
    (addEvents_of_takes (.cons (eventRow_of_fits hfits) .nil) (List.forall_mem_singleton.mpr h)
      (by simp))

theorem addRows_sdkCall {data : SdkCallData} (hfree : t.Free id)
    (hfits : Intake.fitsInt64 data.debitAmount = true) :
    addRows scheme .sdkCalls ((t.withUsers [user]).withEvent (Posting.event id time user key))
        [detailRow (.uuid id) (Ingest.sdkCallValues data)]
      = .ok (t.post
          { users := [user], events := [Posting.event id time user key]
            sdkCalls := [⟨id, .text data.callType.name, .whole data.debitAmount⟩] }) := by
  have hrow : sdkCallRow (Table.sdkCalls.mentioned
      (detailRow (.uuid id) (Ingest.sdkCallValues data)))
        = .ok ⟨id, .text data.callType.name, .whole data.debitAmount⟩ := by
    show (do
      let debit ← bindNumber (.int data.debitAmount)
      let debit ← needed "sdk_call_events" "debit_amount" debit
      return (⟨id, .text data.callType.name, debit⟩ : SdkCallRow)) = _
    rw [bindNumber_of_fits hfits]
    rfl
  have hno : ¬ t.sdkCalls.any (·.id = id) = true := by simpa using hfree.particulars.1
  rw [addRows_single]
  show (do addRow scheme .sdkCalls _ _) = _
  simp only [addRow, hrow]
  show (Tables.addSdkCall _ _).mapError broken = _
  rw [Tables.addSdkCall, if_neg (by exact hno), Tables.hasEvent_withEvent, if_neg (by decide)]
  simp [Except.mapError, Tables.post, Tables.withEvent, Tables.withUsers]

theorem addRows_payment {data : PaymentData} (hfree : t.Free id)
    (hfits : Intake.fitsInt64 data.creditAmount = true) :
    addRows scheme .payments ((t.withUsers [user]).withEvent (Posting.event id time user key))
        [detailRow (.uuid id) (Ingest.paymentValues data)]
      = .ok (t.post (Posting.payment id time user key data)) := by
  have hrow : paymentRow (Table.payments.mentioned
      (detailRow (.uuid id) (Ingest.paymentValues data))) = .ok ⟨id, .whole data.creditAmount⟩ := by
    show (do
      let credit ← bindNumber (.int data.creditAmount)
      let credit ← needed "payment_events" "credit_amount" credit
      return (⟨id, credit⟩ : PaymentRow)) = _
    rw [bindNumber_of_fits hfits]
    rfl
  have hno : ¬ t.payments.any (·.id = id) = true := by simpa using hfree.particulars.2.1
  rw [addRows_single]
  show (do addRow scheme .payments _ _) = _
  simp only [addRow, hrow]
  show (Tables.addPayment _ _).mapError broken = _
  rw [Tables.addPayment, if_neg (by exact hno), Tables.hasEvent_withEvent, if_neg (by decide)]
  simp [Except.mapError, Tables.post, Tables.withEvent, Tables.withUsers, Posting.payment]

theorem tokenUsageRow_of_fits {g : UsageGroup}
    (hfits : ∀ counter ∈ g.counters, Intake.fitsInt64 counter.2 = true) :
    tokenUsageRow (Table.tokenUsages.mentioned (Ingest.usageValues id g))
      = .ok (Posting.groupRow id g) := by
  simp only [UsageGroup.counters, List.forall_mem_cons] at hfits
  obtain ⟨ha, hb, hc, hd, -⟩ := hfits
  rw [tokenUsageRow_eq, bindNumber_of_fits ha, bindNumber_of_fits hb, bindNumber_of_fits hc,
    bindNumber_of_fits hd]
  rfl

section Usage

variable {ids : List Uuid} {groups : List UsageGroup} {key : Uuid}

/-- The events of groups are added under identifiers that are free. -/
theorem addRows_usageEvents (hfits : ∀ g ∈ groups, g.user.Fits scheme)
    (hlength : ids.length = groups.length) (hnodup : ids.Nodup) (hfree : ∀ id ∈ ids, t.Free id)
    (hknown : key ∈ t.apiKeys.map (·.id)) :
    addRows scheme .events (t.withUsers (groups.map (·.user)))
        (List.zipWith withId (groups.map fun g =>
          userEventRow g.reportedAt.canonicalText g.user (some key)) ids)
      = .ok ((t.withUsers (groups.map (·.user))).withEvents
          (Posting.usage ids key groups).events) := by
  have hrows : List.zipWith withId (groups.map fun g =>
      userEventRow g.reportedAt.canonicalText g.user (some key)) ids
        = List.zipWith (fun id g =>
            withId (userEventRow g.reportedAt.canonicalText g.user (some key)) id) ids groups := by
    rw [List.zipWith_map_left, List.zipWith_comm]
  have htakes : ∀ e ∈ (Posting.usage ids key groups).events,
      (t.withUsers (groups.map (·.user))).Takes e := by
    intro e he
    obtain ⟨id, hid, g, hg, rfl⟩ := exists_of_mem_zipWith he
    refine ⟨(hfree id hid).event, ?_, ?_⟩
    · rintro _ ⟨⟩
      exact mem_foldl_addNew.mpr (.inr (List.mem_map_of_mem (List.mem_map_of_mem hg)))
    · rintro _ ⟨⟩
      exact hknown
  rw [hrows]
  refine addRows_of_foldlM ?_ (addEvents_of_takes ?_ htakes ?_)
  · intro row hrow
    obtain ⟨id, -, g, hg, rfl⟩ := exists_of_mem_zipWith hrow
    exact checkRow_event (hfits g hg)
  · rw [List.map_zipWith]
    exact forall₂_zipWith fun id _ g hg => eventRow_of_fits (hfits g hg)
  · rwa [Posting.usage_event_ids hlength]

/-- Their particulars are added under the same identifiers. -/
theorem addRows_usageDetails
    (hfits : ∀ g ∈ groups, ∀ counter ∈ g.counters, Intake.fitsInt64 counter.2 = true)
    (hlength : ids.length = groups.length) (hnodup : ids.Nodup) (hfree : ∀ id ∈ ids, t.Free id) :
    addRows scheme .tokenUsages
        ((t.withUsers (groups.map (·.user))).withEvents (Posting.usage ids key groups).events)
        (List.zipWith Ingest.usageValues ids groups)
      = .ok (t.post (Posting.usage ids key groups)) := by
  have hids : (Posting.usage ids key groups).tokenUsages.map (·.id) = ids := by
    show (List.zipWith Posting.groupRow ids groups).map (·.id) = ids
    rw [List.map_zipWith]
    exact (zipWith_left id hlength).trans (List.map_id ids)
  have hmem : ∀ d ∈ (Posting.usage ids key groups).tokenUsages, d.id ∈ ids := by
    intro d hd
    rw [← hids]
    exact List.mem_map_of_mem hd
  have hrows : List.Forall₂ (fun row d => tokenUsageRow row = .ok d)
      ((List.zipWith Ingest.usageValues ids groups).map Table.tokenUsages.mentioned)
      (Posting.usage ids key groups).tokenUsages := by
    rw [List.map_zipWith]
    exact forall₂_zipWith fun id _ g hg => tokenUsageRow_of_fits (hfits g hg)
  have hnew : ∀ d ∈ (Posting.usage ids key groups).tokenUsages,
      d.id ∉ ((t.withUsers (groups.map (·.user))).withEvents
        (Posting.usage ids key groups).events).tokenUsages.map (·.id) :=
    fun d hd => (hfree d.id (hmem d hd)).particulars.2.2
  have hevents : ∀ d ∈ (Posting.usage ids key groups).tokenUsages,
      ((t.withUsers (groups.map (·.user))).withEvents
        (Posting.usage ids key groups).events).hasEvent d.id = true := by
    intro d hd
    rw [Tables.hasEvent_eq_true, Tables.withEvents, List.map_append,
      Posting.usage_event_ids hlength]
    exact List.mem_append_right _ (hmem d hd)
  refine (addRows_of_foldlM (fun row hrow => ?_)
    (addTokenUsages_of_events hrows hnew (by rwa [hids]) hevents)).trans ?_
  · obtain ⟨id, -, g, -, rfl⟩ := exists_of_mem_zipWith hrow
    rfl
  · simp [Tables.post, Tables.withUsers, Tables.withEvents, Posting.usage]

end Usage

theorem addRows_apiKey {name digest : String} {expiresAt : Timestamp}
    (hname : Cell.text name ∉ t.apiKeys.map (·.name))
    (hdigest : Cell.text digest ∉ t.apiKeys.map (·.key)) (hnew : id ∉ t.apiKeys.map (·.id)) :
    addRows scheme .apiKeys t [withId [("name", .text name), ("key", .text digest),
        ("expires_at", .timestamp expiresAt)] id]
      = .ok { t with apiKeys := t.apiKeys ++
          [⟨id, .text name, .text digest, expiresAt.withoutOffset, false⟩] } := by
  have hdigest' : ¬ t.apiKeys.any (·.key = .text digest) = true := by simpa using hdigest
  have hname' : ¬ t.apiKeys.any (·.name = .text name) = true := by simpa using hname
  have hnew' : ¬ t.apiKeys.any (·.id = id) = true := by simpa using hnew
  rw [addRows_single]
  show (t.addApiKey ⟨id, .text name, .text digest, expiresAt.withoutOffset, false⟩).mapError
    broken = _
  rw [Tables.addApiKey, if_neg hdigest', if_neg hname', if_neg hnew']
  rfl

end Engine

/-! ### Transactions -/

namespace Ingest

open Txn Repository Intake

variable {c : Conditions} {t t' : Tables} {id : Uuid}

/-- A transaction that ends well is committed. -/
theorem writeTransaction_of_result (hopening : c.opening = none) (hcommit : c.commit = none)
    {α : Type} {body : Txn α} {a : α} {w' : Work} (h : result body ⟨t, [], 0⟩ = .ok (a, w'))
    (description : String) : writeTransaction c description body t = (.ok a, w'.tables) := by
  unfold writeTransaction
  rw [run_of_result hopening hcommit h]
  rfl

/-- One that does not is told as it is, or explained, and nothing is stored. -/
theorem writeTransaction_of_error (hopening : c.opening = none) {α : Type} {body : Txn α}
    {e : Raised} (h : result body ⟨t, [], 0⟩ = .error e) (description : String) :
    writeTransaction c description body t = (.error (explain description e), t) := by
  unfold writeTransaction
  rw [run_of_error hopening h]
  rfl

/-- An event of a user of the scheme is stored under the first identifier that is drawn, when the
tables take it and its particulars. -/
theorem storeSingle_accepted (hc : c.Undisturbed) (hid : c.fresh 0 = id) {kind : EventKind}
    {user : UserId} {record : Record} {apiKey : Value} {key : Option Uuid} {time : String}
    {table : Table} {values : Record} (hfits : user.Fits c.scheme)
    (hkey : readApiKeyId apiKey = .ok key)
    (htime : canonicalTimestamp (record.get timestampKey) = .ok time)
    (htakes : (t.withUsers [user]).Takes (Posting.event id time user key))
    (hdetail : Engine.addRows c.scheme table
      ((t.withUsers [user]).withEvent (Posting.event id time user key))
      [detailRow (.uuid id) values] = .ok t') :
    storeSingle c kind user record apiKey table values t = (.ok id, t') := by
  subst hid
  have hadded := Engine.addRows_event hfits htakes
  have hstored : ∃ w', result (storeEvent c user record key table values) ⟨t, [], 0⟩
      = .ok (c.fresh 0, w') ∧ w'.tables = t' := by
    unfold storeEvent
    rw [result_after (result_ensureUser hc hfits), result_after_check htime,
      result_after (result_insertEvent hc hadded), result_after (result_insertDetail hc hdetail)]
    exact ⟨_, rfl, rfl⟩
  obtain ⟨w', hresult, rfl⟩ := hstored
  unfold storeSingle checked
  rw [parseApiKeyId_eq_ok.mpr hkey]
  exact writeTransaction_of_result hc.opening hc.commit hresult _

/-- Token usage is stored under the identifiers that are drawn first, one for each group, when they
are free and the key is there. -/
theorem addUsage_accepted (hc : c.Undisturbed) {ids : List Uuid} {records : List Record}
    {apiKey : Value} {key : Uuid} {usage : List UsageRecord} {groups : List UsageGroup}
    (hids : ids = (List.range groups.length).map c.fresh)
    (hrecords : UsageRecord.ofRecords c.scheme records = .ok usage)
    (hgroups : UsageGroup.aggregate usage = .ok groups) (hne : groups ≠ [])
    (hsums : ∀ g ∈ groups, ∀ counter ∈ g.counters, fitsInt64 counter.2 = true)
    (hfits : ∀ g ∈ groups, g.user.Fits c.scheme)
    (husers : ((groups.map (·.user)).foldl addNew []).length ≤ Engine.maxValues)
    (hkey : readApiKeyId apiKey = .ok (some key)) (hknown : key ∈ t.apiKeys.map (·.id))
    (hfree : ∀ id ∈ ids, t.Free id) (hnodup : ids.Nodup) :
    addUsage c records apiKey t
      = (.ok (some (c.fresh 0)), t.post (Posting.usage ids key groups)) := by
  have hlength : ids.length = groups.length := by simp [hids]
  let rows := groups.map fun g => userEventRow g.reportedAt.canonicalText g.user (some key)
  have hrows : rows ≠ [] := mt List.map_eq_nil_iff.mp hne
  have hrange : (List.range' 0 rows.length).map c.fresh = ids := by
    rw [List.length_map, ← List.range_eq_range', hids]
  have hvalues : groups.map (·.user.toValue) = (groups.map (·.user)).map UserId.toValue := by
    rw [List.map_map]
    rfl
  have hevents : Engine.addRows c.scheme .events (t.withUsers (groups.map (·.user)))
      (List.zipWith withId rows ((List.range' 0 rows.length).map c.fresh))
        = .ok ((t.withUsers (groups.map (·.user))).withEvents
            (Posting.usage ids key groups).events) := by
    rw [hrange]
    exact Engine.addRows_usageEvents hfits hlength hnodup hfree hknown
  obtain ⟨rest, hfirst⟩ : ∃ rest, ids = c.fresh 0 :: rest := by
    obtain ⟨g, groups, rfl⟩ := List.exists_cons_of_ne_nil hne
    rw [List.length_cons, List.range_succ_eq_map] at hids
    exact ⟨_, hids⟩
  have hstored : ∃ w', result (storeUsage c usage (some key)) ⟨t, [], 0⟩ = .ok (c.fresh 0, w') ∧
      w'.tables = t.post (Posting.usage ids key groups) := by
    unfold storeUsage
    rw [result_after_check hgroups, hvalues,
      result_after (result_ensureUsers hc (by simpa using hne) (by simpa using hfits) husers),
      result_after (result_insertEvents hc hrows hevents), hrange,
      result_after (result_insertDetails hc (by simp [hfirst, hne])
        (Engine.addRows_usageDetails hsums hlength hnodup hfree)), hfirst]
    exact ⟨⟨_, _, _⟩, rfl, rfl⟩
  obtain ⟨w', hresult, htables⟩ := hstored
  have hwritten := writeTransaction_of_result hc.opening hc.commit hresult
    (Text.integer records.length ++ " AI_TOKEN_USAGE event(s)")
  have hsome : records ≠ [] := by
    rintro rfl
    cases hrecords
    cases hgroups
    exact hne rfl
  unfold addUsage checked
  rw [if_neg (by simpa using hsome), hrecords, parseApiKeyId_eq_ok.mpr hkey, ← htables]
  exact congrArg (fun p : Except Raised Uuid × Tables => (p.1.map some, p.2)) hwritten

/-- A key is stored under the first identifier that is drawn, when its name and its digest are
new. -/
theorem addKey_accepted (hc : c.Undisturbed) (hid : c.fresh 0 = id) {record : Record}
    {name key time : String} {given expiresAt : Timestamp}
    (hdata : checkKeyGrant record = .ok ⟨name, key, given⟩)
    (htime : canonicalTimestamp (record.get timestampKey) = .ok time)
    (hexpires : parseTimestamp (.timestamp given) = .ok expiresAt)
    (hname : Cell.text name ∉ t.apiKeys.map (·.name))
    (hkey : Cell.text key ∉ t.apiKeys.map (·.key)) (hnew : id ∉ t.apiKeys.map (·.id)) :
    addKey c record t = (.ok id, t.post { apiKeys :=
      [⟨id, .text name, .text key, expiresAt.withoutOffset, false⟩] }) := by
  subst hid
  have hinsert : result (insertApiKey c [("name", .text name), ("key", .text key),
      ("expires_at", .timestamp expiresAt)]) ⟨t, [], 0⟩ = _ :=
    result_insertApiKey hc (Engine.addRows_apiKey hname hkey hnew)
  have hstored : ∃ w', result (storeKey c record ⟨name, key, given⟩) ⟨t, [], 0⟩
        = .ok (c.fresh 0, w') ∧
      w'.tables = t.post { apiKeys :=
        [⟨c.fresh 0, .text name, .text key, expiresAt.withoutOffset, false⟩] } := by
    unfold storeKey
    rw [result_after_check htime, result_after_check hexpires]
    refine ⟨⟨_, _, _⟩, hinsert, ?_⟩
    simp [Tables.post, Tables.withUsers]
  obtain ⟨w', hresult, htables⟩ := hstored
  unfold addKey checked Raised.ofFailure
  rw [hdata, ← htables]
  exact writeTransaction_of_result hc.opening hc.commit hresult _

end Ingest

theorem Ledger.Sample.free_granted : granted.Free (Uuid.ofNat 2) :=
  ⟨by decide +kernel, by decide +kernel, by decide +kernel⟩

end UsageLedger
