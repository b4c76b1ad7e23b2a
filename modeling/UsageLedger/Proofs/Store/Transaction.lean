/-
What a transaction can do when it succeeds.

`Gives body t a t'` says that a part of a transaction, at work on the tables `t`, may end
with `a` and leave the tables `t'`.  It forgets the statements executed and the
identifiers drawn, which settle whether a part succeeds but not what it has done then.
A sequence gives what its parts give one after the other, and a transaction that
commits gives what its body gives (`gives_of_run`), so what is stored is read off
part by part.  Where errors count as well, `result` keeps them, and the work after a part
that ended well.
-/
import UsageLedger.Proofs.Outcome
import UsageLedger.Store.Transaction

namespace UsageLedger.Txn

variable {α β : Type} {c : Conditions} {t t' : Tables}

/-- What a part of a transaction ends with, and the work after it. -/
def exec (body : Txn α) (w : Work) : Except Raised α × Work := StateT.run (ExceptT.run body) w

/-- A part of a transaction may end with a result and leave some tables. -/
def Gives (body : Txn α) (t : Tables) (a : α) (t' : Tables) : Prop :=
  ∃ w w' : Work, w.tables = t ∧ w'.tables = t' ∧ exec body w = (.ok a, w')

/-! ### Executing parts -/

theorem exec_bind (x : Txn α) (f : α → Txn β) (w : Work) :
    exec (x >>= f) w = match exec x w with
      | (.ok a, w') => exec (f a) w'
      | (.error e, w') => (.error e, w') := by
  show StateT.run (ExceptT.run (x >>= f)) w = _
  unfold exec
  simp only [ExceptT.run_bind, StateT.run_bind]
  rcases StateT.run (ExceptT.run x) w with ⟨_ | _, _⟩ <;> rfl

theorem exec_execute (statement : Statement) (w : Work) :
    exec (execute c statement) w
      = match c.engine w.executed.length statement w.tables with
        | .error e => (.error e, { w with executed := w.executed ++ [statement] })
        | .ok (t, ids) => (.ok ids, ⟨t, w.executed ++ [statement], w.drawn⟩) := by
  have hhead : exec (execute c statement) w
      = exec (match c.engine w.executed.length statement w.tables with
          | .error e => throw e
          | .ok (tables, ids) => do
              modify fun work => { work with tables }
              return ids) { w with executed := w.executed ++ [statement] } := rfl
  rw [hhead]
  rcases c.engine w.executed.length statement w.tables with e | ⟨t, ids⟩ <;> rfl

theorem exec_tryCatch (body : Txn α) (handle : Raised → Txn α) (w : Work) :
    exec (tryCatch body handle) w = match exec body w with
      | (.ok a, w') => (.ok a, w')
      | (.error e, w') => exec (handle e) w' := by
  unfold exec
  simp only [tryCatch, tryCatchThe, MonadExceptOf.tryCatch, ExceptT.tryCatch, ExceptT.run_mk,
    StateT.run_bind]
  show (do let p ← StateT.run (ExceptT.run body) w; _) = _
  rcases StateT.run (ExceptT.run body) w with ⟨_ | _, _⟩ <;> rfl

theorem exec_classify (body : Txn α) (tell : DatabaseError → Txn α) (w : Work) :
    exec (classify body tell) w = match exec body w with
      | (.error (.fault (.database e)), w') => exec (tell e) w'
      | result => result := by
  unfold classify
  rw [exec_tryCatch]
  rcases exec body w with ⟨(_ | f) | a, w'⟩
  case error.fault => cases f <;> rfl
  all_goals rfl

/-! ### What parts give -/

theorem gives_of_pure {a b : α} (h : Gives (pure a) t b t') : b = a ∧ t' = t := by
  obtain ⟨w, w', rfl, rfl, hexec⟩ := h
  cases hexec
  exact ⟨rfl, rfl⟩

theorem not_gives_throw {e : Raised} {a : α} : ¬ Gives (throw e) t a t' := by
  rintro ⟨w, w', -, -, hexec⟩
  cases hexec

/-- What a sequence gives, its parts give one after the other. -/
theorem gives_of_bind {x : Txn α} {f : α → Txn β} {b : β} (h : Gives (x >>= f) t b t') :
    ∃ a t₁, Gives x t a t₁ ∧ Gives (f a) t₁ b t' := by
  obtain ⟨w, w', hbefore, hafter, hexec⟩ := h
  rw [exec_bind] at hexec
  rcases hx : exec x w with ⟨e | a, w₁⟩
  · rw [hx] at hexec
    cases hexec
  · rw [hx] at hexec
    exact ⟨a, w₁.tables, ⟨w, w₁, hbefore, rfl, hx⟩, ⟨w₁, w', rfl, hafter, hexec⟩⟩

/-- A check inside a transaction passes and leaves the tables alone. -/
theorem gives_after_check {x : Except Raised α} {f : α → Txn β} {b : β}
    (h : Gives (ofExcept x >>= f) t b t') : ∃ a, x = .ok a ∧ Gives (f a) t b t' := by
  obtain ⟨a, t₁, hx, h⟩ := gives_of_bind h
  cases x with
  | error e => exact absurd hx not_gives_throw
  | ok a' =>
      obtain ⟨rfl, rfl⟩ := gives_of_pure hx
      exact ⟨a, rfl, h⟩

/-- A step that meets no fault goes on with the tables as they were. -/
theorem gives_after_meet {fault : Option Raised} {f : Unit → Txn β} {b : β}
    (h : Gives (meet fault >>= f) t b t') : Gives (f ()) t b t' := by
  obtain ⟨u, t₁, hmeet, h⟩ := gives_of_bind h
  cases fault with
  | none =>
      obtain ⟨rfl, rfl⟩ := gives_of_pure hmeet
      exact h
  | some e => exact absurd hmeet not_gives_throw

theorem gives_of_execute {statement : Statement} {ids : List (Option Uuid)}
    (h : Gives (execute c statement) t ids t') :
    ∃ n, c.engine n statement t = .ok (t', ids) := by
  obtain ⟨w, w', rfl, rfl, hexec⟩ := h
  rw [exec_execute] at hexec
  refine ⟨w.executed.length, ?_⟩
  split at hexec
  · cases hexec
  · next heq =>
      cases hexec
      exact heq

/-- What a part gives whose database errors are told as failures: the same, unless the telling
gives something after all. -/
theorem gives_of_classify {body : Txn α} {tell : DatabaseError → Txn α} {a : α}
    (h : Gives (classify body tell) t a t') :
    Gives body t a t' ∨ ∃ e w w₁ w', w.tables = t ∧ w'.tables = t' ∧
      exec body w = (.error (.fault (.database e)), w₁) ∧ exec (tell e) w₁ = (.ok a, w') := by
  obtain ⟨w, w', hbefore, hafter, hexec⟩ := h
  rw [exec_classify] at hexec
  split at hexec
  · next e w₁ hbody => exact .inr ⟨e, w, w₁, w', hbefore, hafter, hbody, hexec⟩
  · exact .inl ⟨w, w', hbefore, hafter, hexec⟩

/-- A part whose database errors are all failures gives what it gives without the telling. -/
theorem gives_of_classify_refusing {body : Txn α} {tell : DatabaseError → Txn α}
    {told : DatabaseError → Raised} {a : α} (hrefuse : ∀ e, tell e = throw (told e))
    (h : Gives (classify body tell) t a t') : Gives body t a t' := by
  rcases gives_of_classify h with hbody | ⟨e, w, w₁, w', -, -, -, htell⟩
  · exact hbody
  · rw [hrefuse e] at htell
    cases htell

/-- Every identifier of a list is among those that are drawn. -/
def Drawn (c : Conditions) (ids : List Uuid) : Prop := ∀ id ∈ ids, ∃ n, c.fresh n = id

/-- Drawing identifiers gives one for each item and leaves the tables alone. -/
theorem gives_after_drawFor {items : List α} {f : List Uuid → Txn β} {b : β}
    (h : Gives (drawFor c items >>= f) t b t') :
    ∃ ids, ids.length = items.length ∧ Drawn c ids ∧ Gives (f ids) t b t' := by
  have hdraw : ∀ (items : List α) {t t₁ : Tables} {ids : List Uuid},
      Gives (drawFor c items) t ids t₁ → ids.length = items.length ∧ Drawn c ids ∧ t = t₁ := by
    intro items
    induction items with
    | nil =>
        intro t t₁ ids h
        obtain ⟨rfl, rfl⟩ := gives_of_pure h
        exact ⟨rfl, fun id hid => absurd hid List.not_mem_nil, rfl⟩
    | cons item items ih =>
        intro t t₁ ids h
        rw [drawFor, List.mapM_cons] at h
        obtain ⟨id, t₂, ⟨w, w', rfl, rfl, hexec⟩, h⟩ := gives_of_bind h
        obtain ⟨rest, t₃, hrest, h⟩ := gives_of_bind h
        obtain ⟨rfl, rfl⟩ := gives_of_pure h
        cases hexec
        obtain ⟨hlength, hdrawn, ht⟩ := ih hrest
        exact ⟨by rw [List.length_cons, List.length_cons, hlength],
          List.forall_mem_cons.mpr ⟨⟨_, rfl⟩, hdrawn⟩, ht⟩
  obtain ⟨ids, t₁, hids, h⟩ := gives_of_bind h
  obtain ⟨hlength, hdrawn, rfl⟩ := hdraw items hids
  exact ⟨ids, hlength, hdrawn, h⟩

/-! ### Whole transactions -/

/-- **A transaction that commits gives what its body gives.** -/
theorem gives_of_run {body : Txn α} {a : α} (h : run c body t = (.ok a, t')) :
    Gives body t a t' := by
  unfold run at h
  split at h
  · cases h
  · split at h
    · cases h
    · next hexec =>
        split at h
        · cases h
        · cases h
          exact ⟨⟨t, [], 0⟩, _, rfl, rfl, hexec⟩

/-! ### Results of parts of transactions -/

/-- What a part of a transaction ends with, together with the work after it when it ends well. -/
def result (body : Txn α) (w : Work) : Except Raised (α × Work) :=
  (exec body w).1.map fun a => (a, (exec body w).2)

theorem result_bind (x : Txn α) (f : α → Txn β) (w : Work) :
    result (x >>= f) w = result x w >>= fun p => result (f p.1) p.2 := by
  unfold result
  rw [exec_bind]
  rcases exec x w with ⟨e | a, w₁⟩ <;> rfl

theorem exec_of_result_error {body : Txn α} {w : Work} {e : Raised}
    (h : result body w = .error e) : ∃ w', exec body w = (.error e, w') := by
  unfold result at h
  rcases hexec : exec body w with ⟨e' | a, w'⟩
  · rw [hexec] at h
    cases h
    exact ⟨w', rfl⟩
  · rw [hexec] at h
    cases h

theorem exec_of_result_ok {body : Txn α} {w w' : Work} {a : α}
    (h : result body w = .ok (a, w')) : exec body w = (.ok a, w') := by
  obtain ⟨a', hexec, hpair⟩ := map_eq_ok.mp h
  cases hpair
  exact Prod.ext hexec rfl

theorem result_of_exec_error {body : Txn α} {w w' : Work} {e : Raised}
    (h : exec body w = (.error e, w')) : result body w = .error e := by
  rw [result, h]
  rfl

theorem result_of_exec_ok {body : Txn α} {w w' : Work} {a : α}
    (h : exec body w = (.ok a, w')) : result body w = .ok (a, w') := by
  rw [result, h]
  rfl

/-- A part that ends well gives what it ends with. -/
theorem gives_of_result {body : Txn α} {a : α} {w w' : Work} (h : result body w = .ok (a, w')) :
    Gives body w.tables a w'.tables := by
  exact ⟨w, w', rfl, rfl, exec_of_result_ok h⟩

theorem result_ofExcept (x : Except Raised α) (w : Work) :
    result (ofExcept x) w = x.map fun a => (a, w) := by
  cases x <;> rfl

theorem result_execute (statement : Statement) (w : Work) :
    result (execute c statement) w
      = (c.engine w.executed.length statement w.tables).map fun p =>
          (p.2, ⟨p.1, w.executed ++ [statement], w.drawn⟩) := by
  unfold result
  rw [exec_execute]
  rcases c.engine w.executed.length statement w.tables with e | ⟨t, ids⟩ <;> rfl

/-- A transaction ends with what its body ends with and puts its work in the place of the tables,
unless opening or committing it fails. -/
theorem run_eq (body : Txn α) (t : Tables) :
    run c body t = match c.opening with
      | some e => (.error e, t)
      | none => match result body ⟨t, [], 0⟩ with
        | .error e => (.error e, t)
        | .ok (a, w) => match c.commit with
          | some e => (.error e, t)
          | none => (.ok a, w.tables) := by
  unfold run result exec
  cases c.opening with
  | some e => rfl
  | none =>
      rcases StateT.run (ExceptT.run body) ⟨t, [], 0⟩ with ⟨e | a, w⟩
      · rfl
      · cases c.commit <;> rfl

/-- A transaction whose body ends well ends with what the body ends with. -/
theorem run_of_result (hopening : c.opening = none) (hcommit : c.commit = none) {body : Txn α}
    {a : α} {w : Work} (h : result body ⟨t, [], 0⟩ = .ok (a, w)) :
    run c body t = (.ok a, w.tables) := by
  rw [run_eq, hopening, h, hcommit]

/-- One whose body ends with an error leaves the tables as they were. -/
theorem run_of_error (hopening : c.opening = none) {body : Txn α} {e : Raised}
    (h : result body ⟨t, [], 0⟩ = .error e) : run c body t = (.error e, t) := by
  rw [run_eq, hopening, h]

theorem run_eq_ok {body : Txn α} {a : α} (h : run c body t = (.ok a, t')) :
    c.opening = none ∧ c.commit = none ∧ ∃ w, result body ⟨t, [], 0⟩ = .ok (a, w) := by
  rw [run_eq] at h
  split at h
  · cases h
  next hopening =>
  split at h
  · cases h
  next hbody =>
  split at h
  · cases h
  next hcommit =>
  cases h
  exact ⟨hopening, hcommit, _, hbody⟩

/-- A transaction ends with what its body ends with, unless opening or committing it fails. -/
theorem run_eq_result (body : Txn α) (t : Tables) :
    (run c body t).1 = match c.opening with
      | some e => .error e
      | none => result body ⟨t, [], 0⟩ >>= fun p =>
          match c.commit with
          | some e => .error e
          | none => .ok p.1 := by
  rw [run_eq]
  cases c.opening with
  | some e => rfl
  | none =>
      rcases result body ⟨t, [], 0⟩ with e | ⟨a, w⟩
      · rfl
      · cases c.commit <;> rfl

/-- A part whose database errors are all failures has its errors told, and nothing else. -/
theorem result_classify {tell : DatabaseError → Txn α} {told : DatabaseError → Raised}
    (htell : ∀ e, tell e = throw (told e)) (body : Txn α) (w : Work) :
    result (classify body tell) w = (result body w).mapError fun
      | .fault (.database e) => told e
      | e => e := by
  unfold result
  rw [exec_classify]
  rcases exec body w with ⟨(_ | f) | a, w'⟩
  case error.fault =>
    cases f with
    | database e =>
        simp only [htell]
        rfl
    | _ => rfl
  all_goals rfl

section After

variable {w w' : Work} {a : α}

theorem exec_after_meet {fault : Option Raised} (h : fault = none) (f : Unit → Txn β) :
    exec (meet fault >>= f) w = exec (f ()) w := by
  rw [h]
  rfl

theorem exec_after {x : Txn α} (h : exec x w = (.ok a, w')) (f : α → Txn β) :
    exec (x >>= f) w = exec (f a) w' := by
  rw [exec_bind, h]

theorem result_after_meet {fault : Option Raised} (h : fault = none) (f : Unit → Txn β) :
    result (meet fault >>= f) w = result (f ()) w := by
  rw [h]
  rfl

/-- A step that ends well meets nothing. -/
theorem meet_of_result_ok {fault : Option Raised} {f : Unit → Txn α} {r : α × Work}
    (h : result (meet fault >>= f) w = .ok r) : fault = none ∧ result (f ()) w = .ok r := by
  cases fault with
  | none => exact ⟨rfl, h⟩
  | some e => cases h

theorem result_after_check {x : Except Raised α} (h : x = .ok a) (f : α → Txn β) :
    result (ofExcept x >>= f) w = result (f a) w := by
  rw [h]
  rfl

theorem result_after {x : Txn α} (h : result x w = .ok (a, w')) (f : α → Txn β) :
    result (x >>= f) w = result (f a) w' := by
  rw [result_bind, h]
  rfl

/-- What ends well is not told at all. -/
theorem result_classify_of_ok {body : Txn α} (h : result body w = .ok (a, w'))
    (tell : DatabaseError → Txn α) : result (classify body tell) w = .ok (a, w') := by
  rw [result, exec_classify, exec_of_result_ok h]
  rfl

end After

/-! ### Results of the same fate -/

section SameFate

variable {w₁ w₂ : Work} {Q : α × Work → β × Work → Prop}

theorem sameFate_after_meet {fault : Option Raised} {f : Unit → Txn α} {g : Unit → Txn β}
    (h : SameFate (result (f ()) w₁) (result (g ()) w₂) Q) :
    SameFate (result (meet fault >>= f) w₁) (result (meet fault >>= g) w₂) Q := by
  cases fault with
  | some e => exact .inl ⟨e, rfl, rfl⟩
  | none => exact h

end SameFate

end UsageLedger.Txn
