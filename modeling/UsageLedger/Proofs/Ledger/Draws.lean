/-
What a call draws.

A call draws its identifiers in one go, one for each row of events or keys that it adds,
and what comes before draws none.  So of all the identifiers that it might be given only
as many matter as it has records (`run_drawing`): with other identifiers after them it
is the same call.
-/
import UsageLedger.Proofs.Ledger.Billing
import UsageLedger.Proofs.Ledger.Identifiers

namespace UsageLedger

namespace Txn

variable {α β : Type} {c : Conditions}

/-! ### Parts that draw nothing -/

/-- A part of a transaction draws no identifiers. -/
def Undrawing (x : Txn α) : Prop := ∀ w, (exec x w).2.drawn = w.drawn

namespace Undrawing

theorem pure (a : α) : Undrawing (pure a : Txn α) := fun _ => rfl

theorem throw (e : Raised) : Undrawing (throw e : Txn α) := fun _ => rfl

theorem bind {x : Txn α} {f : α → Txn β} (hx : Undrawing x) (hf : ∀ a, Undrawing (f a)) :
    Undrawing (x >>= f) := by
  intro w
  have hx := hx w
  rw [exec_bind]
  rcases hexec : exec x w with ⟨e | a, w'⟩
  · rw [hexec] at hx
    exact hx
  · rw [hexec] at hx
    exact (hf a w').trans hx

theorem meet (fault : Option Raised) : Undrawing (meet fault) := by
  cases fault with
  | some e => exact throw e
  | none => exact pure ()

theorem ofExcept (x : Except Raised α) : Undrawing (ofExcept x) := by
  cases x with
  | error e => exact throw e
  | ok a => exact pure a

theorem execute (statement : Statement) : Undrawing (execute c statement) := by
  intro w
  rw [exec_execute]
  split <;> rfl

theorem classify {x : Txn α} {tell : DatabaseError → Txn α} (hx : Undrawing x)
    (htell : ∀ d, Undrawing (tell d)) : Undrawing (classify x tell) := by
  intro w
  have hx := hx w
  rw [exec_classify]
  split
  · next hexec =>
      rw [hexec] at hx
      exact (htell _ _).trans hx
  · exact hx

theorem ensureUsers (users : List Value) : Undrawing (Repository.ensureUsers c users) := by
  refine (meet _).bind fun _ => (ofExcept _).bind fun _ => ?_
  dsimp only
  split
  · refine classify ((execute _).bind fun _ => pure ()) fun d => ?_
    cases d with
    | integrity report =>
        dsimp only
        split
        · exact pure ()
        · exact throw _
        · exact throw _
    | _ => exact throw _
  · exact pure ()

end Undrawing

/-! ### Parts that are the same as long as nothing was drawn -/

/-- Two parts of transactions do the same when nothing was drawn before. -/
def SameAtStart (x y : Txn α) : Prop := ∀ w, w.drawn = 0 → exec x w = exec y w

namespace SameAtStart

theorem refl (x : Txn α) : SameAtStart x x := fun _ _ => rfl

/-- What two parts do the same before anything was drawn may be followed by anything. -/
theorem bind {x y : Txn α} (h : SameAtStart x y) (f : α → Txn β) :
    SameAtStart (x >>= f) (y >>= f) := by
  intro w hw
  rw [exec_bind, exec_bind, h w hw]

/-- After a part that draws nothing still nothing was drawn. -/
theorem after {x : Txn α} {f g : α → Txn β} (hx : Undrawing x)
    (h : ∀ a, SameAtStart (f a) (g a)) : SameAtStart (x >>= f) (x >>= g) := by
  intro w hw
  have hx := hx w
  rw [exec_bind, exec_bind]
  rcases hexec : exec x w with ⟨e | a, w'⟩
  · rfl
  · rw [hexec] at hx
    exact h a w' (hx.trans hw)

theorem afterCheck {x : Except Raised α} {f g : α → Txn β}
    (h : ∀ a, x = .ok a → SameAtStart (f a) (g a)) :
    SameAtStart (Txn.ofExcept x >>= f) (Txn.ofExcept x >>= g) := by
  cases x with
  | error e => exact fun _ _ => rfl
  | ok a => exact h a rfl

theorem classify {x y : Txn α} (h : SameAtStart x y) (tell : DatabaseError → Txn α) :
    SameAtStart (classify x tell) (classify y tell) := by
  intro w hw
  rw [exec_classify, exec_classify, h w hw]

end SameAtStart

end Txn

/-! ### As many identifiers as records -/

namespace UsageGroup

variable {records : List UsageRecord} {singles groups : List UsageGroup}

theorem length_addTo_le (groups : List UsageGroup) (h : UsageGroup) :
    (addTo groups h).length ≤ groups.length + 1 := by
  induction groups with
  | nil => exact le_rfl
  | cons g groups ih =>
      unfold addTo
      split
      · exact Nat.le_succ _
      · exact Nat.succ_le_succ ih

theorem length_foldl_addTo_le (singles groups : List UsageGroup) :
    (singles.foldl addTo groups).length ≤ groups.length + singles.length := by
  induction singles generalizing groups with
  | nil => exact le_rfl
  | cons h singles ih =>
      have hstep := length_addTo_le groups h
      have hrest := ih (addTo groups h)
      rw [List.foldl_cons, List.length_cons]
      omega

/-- A batch has no more groups than records. -/
theorem Aggregates.length_le (ha : Aggregates records singles groups) :
    groups.length ≤ records.length := by
  have hcollapsed := length_foldl_addTo_le singles []
  rw [← ha.collapsed] at hcollapsed
  simpa [ha.each.length_eq] using hcollapsed

end UsageGroup

/-! ### Calls under streams that begin alike -/

/-- The same conditions with other identifiers to draw. -/
def Conditions.drawing (c : Conditions) (fresh : Nat → Uuid) : Conditions := { c with fresh }

/-- The first identifiers to be drawn are those of another stream. -/
def Conditions.StartsAs (c : Conditions) (other : Nat → Uuid) (m : Nat) : Prop :=
  ∀ n < m, c.fresh n = other n

namespace Repository

open Txn

variable {c : Conditions} {other : Nat → Uuid}

theorem exec_drawFor {α : Type} {items : List α} {w : Work}
    (h : ∀ n < items.length, c.fresh (w.drawn + n) = other (w.drawn + n)) :
    exec (drawFor c items) w = exec (drawFor (c.drawing other) items) w := by
  induction items generalizing w with
  | nil => rfl
  | cons item items ih =>
      have hfirst : c.fresh w.drawn = other w.drawn := h 0 (Nat.succ_pos _)
      have hrest := ih (w := { w with drawn := w.drawn + 1 }) fun n hn => by
        have hnext := h (n + 1) (Nat.succ_lt_succ hn)
        rwa [← Nat.add_assoc, Nat.add_right_comm] at hnext
      have hcons : ∀ c : Conditions, exec (drawFor c (item :: items)) w
          = exec (drawFor c items >>= fun ids => pure (c.fresh w.drawn :: ids))
            { w with drawn := w.drawn + 1 } := by
        intro c
        unfold drawFor
        rw [List.mapM_cons]
        rfl
      rw [hcons, hcons, exec_bind, exec_bind, hrest, hfirst]
      rfl

theorem sameAtStart_insertWithIds {table : Table} {rows : List Record}
    (h : c.StartsAs other rows.length) :
    SameAtStart (insertWithIds c table rows) (insertWithIds (c.drawing other) table rows) := by
  refine .after (.meet _) fun _ => ?_
  show SameAtStart _ (if c.dialect.returning then _ else _)
  split
  · exact .refl _
  · have hdraw : SameAtStart (drawFor c rows) (drawFor (c.drawing other) rows) := by
      intro w hw
      exact exec_drawFor fun n hn => by rw [hw, Nat.zero_add, h n hn]
    exact hdraw.bind _

theorem sameAtStart_insertEvents {rows : List Record}
    (h : c.StartsAs other rows.length) :
    SameAtStart (insertEvents c rows) (insertEvents (c.drawing other) rows) := by
  refine .after (.meet _) fun _ => ?_
  split
  · exact .refl _
  · exact ((sameAtStart_insertWithIds h).classify _).bind _

theorem sameAtStart_insertEvent {row : Record} (h : c.StartsAs other 1) :
    SameAtStart (insertEvent c row) (insertEvent (c.drawing other) row) := by
  refine .after (.meet _) fun _ => ?_
  exact (sameAtStart_insertEvents h).bind _

theorem sameAtStart_insertApiKey {values : Record} (h : c.StartsAs other 1) :
    SameAtStart (insertApiKey c values) (insertApiKey (c.drawing other) values) := by
  refine .after (.meet _) fun _ => ?_
  exact ((sameAtStart_insertWithIds h).classify _).bind _

end Repository

namespace Ingest

open Txn Repository

variable {c : Conditions} {other : Nat → Uuid} {t : Tables}

theorem sameAtStart_storeEvent {user : UserId} {record : Record} {key : Option Uuid}
    {table : Table} {values : Record} (h : c.StartsAs other 1) :
    SameAtStart (storeEvent c user record key table values)
      (storeEvent (c.drawing other) user record key table values) := by
  have huser : Undrawing (ensureUser c user.toValue) :=
    (Undrawing.meet _).bind fun _ => .ensureUsers _
  refine .after huser fun _ => .afterCheck fun time _ => ?_
  exact (sameAtStart_insertEvent h).bind _

theorem sameAtStart_storeUsage {records : List UsageRecord} {key : Option Uuid}
    (h : c.StartsAs other records.length) :
    SameAtStart (storeUsage c records key) (storeUsage (c.drawing other) records key) := by
  refine .afterCheck fun groups hgroups => .after (.ensureUsers _) fun _ => ?_
  obtain ⟨singles, ha⟩ := UsageGroup.aggregates_of_aggregate hgroups
  refine (sameAtStart_insertEvents fun n hn => ?_).bind _
  rw [List.length_map] at hn
  exact h n (hn.trans_le ha.length_le)

theorem sameAtStart_storeKey {record : Record} {data : KeyGrantData} (h : c.StartsAs other 1) :
    SameAtStart (storeKey c record data) (storeKey (c.drawing other) record data) :=
  .afterCheck fun _ _ => .afterCheck fun _ _ => sameAtStart_insertApiKey h

theorem writeTransaction_drawing {α : Type} {description : String} {body body' : Txn α}
    (h : SameAtStart body body') :
    writeTransaction c description body t
      = writeTransaction (c.drawing other) description body' t := by
  have hbody : StateT.run (ExceptT.run body) ⟨t, [], 0⟩
      = StateT.run (ExceptT.run body') ⟨t, [], 0⟩ := h ⟨t, [], 0⟩ rfl
  have hrun : run c body t = run (c.drawing other) body' t := by
    unfold run
    rw [hbody]
    rfl
  unfold writeTransaction
  rw [hrun]

theorem checked_congr {α β : Type} {check : Except Raised α}
    {next next' : α → Except Raised β × Tables} (h : ∀ a, check = .ok a → next a = next' a) :
    checked check t next = checked check t next' := by
  cases check with
  | error e => rfl
  | ok a => exact h a rfl

theorem storeSingle_drawing {kind : EventKind} {user : UserId} {record : Record} {apiKey : Value}
    {table : Table} {values : Record} (h : c.StartsAs other 1) :
    storeSingle c kind user record apiKey table values t
      = storeSingle (c.drawing other) kind user record apiKey table values t :=
  checked_congr fun _ _ => writeTransaction_drawing (sameAtStart_storeEvent h)

theorem addUsage_drawing {records : List Record} {apiKey : Value}
    (h : c.StartsAs other records.length) :
    addUsage c records apiKey t = addUsage (c.drawing other) records apiKey t := by
  unfold addUsage
  split
  · rfl
  · refine checked_congr fun usage husage => checked_congr fun key _ => ?_
    have hlength : records.length = usage.length := (mapM_eq_ok.mp husage).length_eq
    rw [hlength] at h
    exact congrArg (fun result : Except Raised Uuid × Tables => (result.1.map some, result.2))
      (writeTransaction_drawing (sameAtStart_storeUsage h))

end Ingest

namespace Ledger

open Ingest

variable {c : Conditions} {other : Nat → Uuid} {t : Tables}

theorem write_drawing {kind : EventKind} {record : Record} {apiKey : Value}
    (h : c.StartsAs other 1) :
    write c kind record apiKey t = write (c.drawing other) kind record apiKey t := by
  cases kind with
  | sdkCall =>
      have hsame : addSdkCall c record apiKey t = addSdkCall (c.drawing other) record apiKey t :=
        checked_congr fun _ _ => storeSingle_drawing h
      unfold write
      rw [hsame]
  | payment =>
      have hsame : addPayment c record apiKey t = addPayment (c.drawing other) record apiKey t :=
        checked_congr fun _ _ => storeSingle_drawing h
      unfold write
      rw [hsame]
  | tokenUsage => exact addUsage_drawing h
  | addKey =>
      have hsame : addKey c record t = addKey (c.drawing other) record t :=
        checked_congr fun _ _ => writeTransaction_drawing (sameAtStart_storeKey h)
      unfold write
      rw [hsame]
  | requestSdkCall | requestTokenUsage | requestPayment => rfl

/-- **Of the identifiers that a call might draw only as many matter as it has records.** -/
theorem run_drawing {call : Call} (h : c.StartsAs other call.records.length) :
    call.run c t = call.run (c.drawing other) t := by
  cases call with
  | add submission apiKey =>
      refine checked_congr fun ⟨kind, record⟩ haccept => ?_
      obtain ⟨hrecord, -⟩ := accept_ok haccept
      rw [records_add hrecord] at h
      exact write_drawing h
  | addBatch submissions apiKey =>
      refine checked_congr fun records haccept => ?_
      obtain ⟨hdelivers, -⟩ := acceptBatch_ok haccept
      rw [hdelivers.records.1] at h
      exact addUsage_drawing h

/-- The same circumstances, in which only the first identifiers are ever drawn. -/
def Circumstances.upTo (k : Circumstances) (m : Nat) : Circumstances :=
  k.drawing fun n => if n < m then k.fresh n else k.fresh 0

theorem Circumstances.upTo_fresh (k : Circumstances) {m : Nat} (hm : 0 < m) (n : Nat) :
    ∃ i < m, (k.upTo m).fresh n = k.fresh i := by
  show ∃ i < m, (if n < m then k.fresh n else k.fresh 0) = k.fresh i
  split
  · next hn => exact ⟨n, hn, rfl⟩
  · exact ⟨0, hm, rfl⟩

/-- A call ends as if it could draw no more identifiers than it has records. -/
theorem outcome_upTo (scheme : IdScheme) (call : Circumstances × Call) (t : Tables) :
    outcome scheme call t
      = outcome scheme (call.1.upTo call.2.records.length, call.2) t :=
  run_drawing fun _ hn => (if_pos hn).symm

end Ledger

end UsageLedger
