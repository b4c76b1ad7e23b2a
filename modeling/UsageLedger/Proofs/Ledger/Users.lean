/-
Making sure of users is a union.

Users are named by one statement, each once in the order in which they were first seen, and
the database adds those of them that are not there yet.  Both steps take repetitions out by
the same rule (`addNew`), so what is left of them is the rule: the users there were, and after
them the new ones, each once (`withUsers_eq_append`).  A union does not mind order,
repetition or being made twice, and one union after another is the union with all
(`foldl_withUsers`), so neither do the statements, as long as none has to name more users
than it can (`Nameable`).
-/
import UsageLedger.Proofs.Intake.Summary
import UsageLedger.Proofs.Ledger.Acceptance
import UsageLedger.Proofs.Ledger.Batching

namespace UsageLedger

/-- Items that are added one after the other to nothing are the items without repetitions. -/
theorem foldl_addNew_nil {α : Type} [DecidableEq α] (xs : List α) :
    xs.foldl addNew [] = xs.eraseDups := by
  induction xs using List.reverseRecOn with
  | nil => rfl
  | append_singleton xs x ih =>
      rw [List.foldl_append, ih, List.foldl_cons, List.foldl_nil]
      by_cases hx : x ∈ xs
      · rw [eraseDups_concat_of_mem hx, addNew_of_mem (List.mem_eraseDups.mpr hx)]
      · rw [eraseDups_concat_of_not_mem hx, addNew, if_neg (mt List.mem_eraseDups.mp hx)]

/-! ### Unions with users -/

namespace Tables

variable {t : Tables} {us vs : List UserId}

/-- **The users there were, and after them the new ones, each once.** -/
theorem withUsers_eq_append (t : Tables) (us : List UserId) :
    ∃ new, t.withUsers us = { t with users := t.users ++ new } ∧ new.Nodup ∧
      ∀ cell, cell ∈ new ↔ (∃ user ∈ us, user.toCell = cell) ∧ cell ∉ t.users := by
  obtain ⟨new, hfold, hnodup, hmem⟩ := foldl_addNew_eq_append t.users (us.map UserId.toCell)
  refine ⟨new, by rw [withUsers, hfold], hnodup, fun cell => ?_⟩
  rw [hmem, List.mem_map]

theorem withUsers_withUsers (t : Tables) (us vs : List UserId) :
    (t.withUsers us).withUsers vs = t.withUsers (us ++ vs) := by
  simp only [withUsers, List.map_append, List.foldl_append]

theorem foldl_withUsers (t : Tables) (lists : List (List UserId)) :
    lists.foldl withUsers t = t.withUsers lists.flatten := by
  induction lists generalizing t with
  | nil => rfl
  | cons users lists ih => rw [List.foldl_cons, ih, withUsers_withUsers, List.flatten_cons]

theorem withUsers_self (t : Tables) (us : List UserId) :
    (t.withUsers us).withUsers us = t.withUsers us := by
  have hthere : ∀ cell ∈ us.map UserId.toCell, cell ∈ (t.withUsers us).users :=
    fun cell hcell => mem_foldl_addNew.mpr (.inr hcell)
  rw [withUsers, foldl_addNew_of_subset hthere]

/-- Lists of the same users add the same users. -/
theorem perm_withUsers (h : ∀ user, user ∈ us ↔ user ∈ vs) :
    (t.withUsers us).users.Perm (t.withUsers vs).users := by
  apply perm_foldl_addNew
  intro cell
  simp only [List.mem_map, h]

end Tables

/-- Users that one statement can name: they are of the scheme, and no more than it can carry. -/
structure Nameable (scheme : IdScheme) (users : List UserId) : Prop where
  fits : ∀ user ∈ users, user.Fits scheme
  few : users.eraseDups.length ≤ Engine.maxValues

theorem Nameable.of_subset {scheme : IdScheme} {us vs : List UserId} (h : Nameable scheme us)
    (hsub : vs ⊆ us) : Nameable scheme vs where
  fits user huser := h.fits user (hsub huser)
  few := by
    refine (List.Nodup.length_le_of_subset (nodup_eraseDups vs) fun user huser => ?_).trans h.few
    exact List.mem_eraseDups.mpr (hsub (List.mem_eraseDups.mp huser))

/-! ### Statements about users -/

namespace Repository

open Txn

/-- The statements that make sure of users: one that names each once, or none for no users. -/
def naming (users : List UserId) : List Statement :=
  if users = [] then [] else [.ensureUsers (users.eraseDups.map UserId.toValue)]

/-- Makes sure of users of the scheme. -/
def ensure (c : Conditions) (users : List UserId) : Txn Unit :=
  ensureUsers c (users.map UserId.toValue)

section Ensuring

variable {c : Conditions} {t : Tables} {done : List Statement} {n : Nat} {users : List UserId}
  {lists : List (List UserId)}

theorem result_ensure (hc : c.Undisturbed) (h : Nameable c.scheme users) :
    result (ensure c users) ⟨t, done, n⟩
      = .ok ((), ⟨t.withUsers users, done ++ naming users, n⟩) := by
  by_cases hne : users = []
  · subst hne
    rw [naming, if_pos rfl, List.append_nil]
    unfold ensure ensureUsers
    rw [result_after_meet (hc.broken _)]
    rfl
  · rw [naming, if_neg hne, ← foldl_addNew_nil]
    exact result_ensureUsers hc hne h.fits (by rw [foldl_addNew_nil]; exact h.few)

/-- In one transaction, users of one list after the other are made sure of. -/
theorem result_forM_ensure (hc : c.Undisturbed) (h : ∀ users ∈ lists, Nameable c.scheme users) :
    result (lists.forM (ensure c)) ⟨t, done, n⟩
      = .ok ((), ⟨t.withUsers lists.flatten, done ++ lists.flatMap naming, n⟩) := by
  induction lists generalizing t done with
  | nil => simp only [List.flatMap_nil, List.append_nil]; rfl
  | cons users lists ih =>
      rw [List.forall_mem_cons] at h
      show result (ensure c users >>= fun _ => lists.forM (ensure c)) _ = _
      rw [result_after (result_ensure hc h.1), ih h.2, Tables.withUsers_withUsers,
        List.flatten_cons, List.flatMap_cons, List.append_assoc]

theorem run_ensure (hc : c.Undisturbed) (h : Nameable c.scheme users) :
    run c (ensure c users) t = (.ok (), t.withUsers users) :=
  run_of_result hc.opening hc.commit (result_ensure hc h)

/-- Transactions one after the other, each of which makes sure of the users of one list. -/
theorem foldl_run_ensure (hc : c.Undisturbed) (h : ∀ users ∈ lists, Nameable c.scheme users) :
    lists.foldl (fun t users => (run c (ensure c users) t).2) t = t.withUsers lists.flatten := by
  rw [← Tables.foldl_withUsers]
  refine List.foldl_ext _ _ _ fun t users hmem => ?_
  rw [run_ensure hc (h users hmem)]

end Ensuring

/-- **Making sure of users is a union.**  The users there were stay, and the users of the list that
were not there follow, each once; no other table changes, and one statement names each user once in
the order in which they were first seen, or none is executed for an empty list.  So it can be made
twice, in another order and with other repetitions, and list by list, inside one transaction or in
one after the other; a single user is a list of one. -/
theorem ensure_is_union (scheme : IdScheme) (fresh : Nat → Uuid) (t : Tables) :
    let c := Conditions.ideal scheme fresh
    (∀ users, Nameable scheme users → ∃ new : List Cell, new.Nodup ∧
      (∀ cell, cell ∈ new ↔ (∃ user ∈ users, user.toCell = cell) ∧ cell ∉ t.users) ∧
      (t.users.Nodup → (t.users ++ new).Nodup) ∧
      (∀ done n, result (ensure c users) ⟨t, done, n⟩
        = .ok ((), ⟨{ t with users := t.users ++ new }, done ++ (if users = [] then []
            else [.ensureUsers (users.eraseDups.map UserId.toValue)]), n⟩)) ∧
      run c (ensure c users) t = (.ok (), { t with users := t.users ++ new })) ∧
    (∀ users, Nameable scheme users →
      run c (ensure c users) (run c (ensure c users) t).2 = run c (ensure c users) t) ∧
    (∀ us vs, Nameable scheme us → (∀ user, user ∈ us ↔ user ∈ vs) → ∃ t₁ t₂,
      run c (ensure c us) t = (.ok (), t₁) ∧ run c (ensure c vs) t = (.ok (), t₂) ∧
      t₁.users.Perm t₂.users ∧ t₂ = { t₁ with users := t₂.users }) ∧
    (∀ lists : List (List UserId), Nameable scheme lists.flatten → ∃ t',
      run c (ensure c lists.flatten) t = (.ok (), t') ∧
      run c (lists.forM (ensure c)) t = (.ok (), t') ∧
      lists.foldl (fun t users => (run c (ensure c users) t).2) t = t') ∧
    ∀ user : UserId, run c (ensureUser c user.toValue) t = run c (ensure c [user]) t := by
  intro c
  have hc : c.Undisturbed := Conditions.undisturbed_ideal scheme fresh
  refine ⟨fun users h => ?_, fun users h => ?_, fun us vs h hsame => ?_, fun lists h => ?_,
    fun user => rfl⟩
  · obtain ⟨new, hunion, hnodup, hmem⟩ := t.withUsers_eq_append users
    refine ⟨new, hnodup, hmem, fun hold => ?_, fun done n => ?_, ?_⟩
    · refine List.nodup_append.mpr ⟨hold, hnodup, ?_⟩
      rintro cell hcell _ hnew rfl
      exact ((hmem cell).mp hnew).2 hcell
    · rw [result_ensure hc h, hunion]
      rfl
    · rw [run_ensure hc h, hunion]
  · rw [run_ensure hc h, run_ensure hc h, Tables.withUsers_self]
  · have hother : Nameable scheme vs := h.of_subset fun user huser => (hsame user).mpr huser
    exact ⟨_, _, run_ensure hc h, run_ensure hc hother, Tables.perm_withUsers hsame, rfl⟩
  · have hlists : ∀ users ∈ lists, Nameable scheme users := fun users hmem =>
      h.of_subset fun user huser => List.mem_flatten.mpr ⟨users, hmem, huser⟩
    exact ⟨_, run_ensure hc h,
      run_of_result hc.opening hc.commit (result_forM_ensure hc hlists), foldl_run_ensure hc hlists⟩

namespace Sample

/-- Tables with the user 9 alone. -/
def nine : Tables := { Tables.empty with users := [.whole 9] }

/-- The users 7, 9 and 8, with repetitions. -/
def seen : List UserId := [.number 7, .number 9, .number 7, .number 8, .number 9]

theorem nameable_seen : Nameable .bigint seen := by
  refine ⟨fun user huser => ?_, by decide⟩
  simp only [seen, List.mem_cons, List.not_mem_nil, or_false] at huser
  rcases huser with rfl | rfl | rfl | rfl | rfl <;> rfl

end Sample

/-- Three users of whom one is there, named with repetitions, twice, backwards and in two lists. -/
theorem ensure_is_union_sample :
    let c := Conditions.ideal .bigint fun n => Uuid.ofNat n
    Nameable .bigint Sample.seen ∧
    (∃ new : List Cell, new.Nodup ∧
      run c (ensure c Sample.seen) Sample.nine
        = (.ok (), { Sample.nine with users := [.whole 9] ++ new }) ∧
      result (ensure c Sample.seen) ⟨Sample.nine, [], 0⟩
        = .ok ((), ⟨{ Sample.nine with users := [.whole 9] ++ new },
            [.ensureUsers [.int 7, .int 9, .int 8]], 0⟩) ∧
      ∀ cell, cell ∈ new ↔ (∃ user ∈ Sample.seen, user.toCell = cell) ∧ cell ∉ [Cell.whole 9]) ∧
    run c (ensure c Sample.seen) (run c (ensure c Sample.seen) Sample.nine).2
      = run c (ensure c Sample.seen) Sample.nine ∧
    (∃ t₁ t₂, run c (ensure c Sample.seen) Sample.nine = (.ok (), t₁) ∧
      run c (ensure c Sample.seen.reverse) Sample.nine = (.ok (), t₂) ∧
      t₁.users.Perm t₂.users ∧ t₂ = { t₁ with users := t₂.users }) ∧
    ∃ t', run c (ensure c Sample.seen) Sample.nine = (.ok (), t') ∧
      run c ([Sample.seen.take 2, Sample.seen.drop 2].forM (ensure c)) Sample.nine = (.ok (), t') ∧
      [Sample.seen.take 2, Sample.seen.drop 2].foldl
        (fun t users => (run c (ensure c users) t).2) Sample.nine = t' := by
  intro c
  obtain ⟨hunion, htwice, hsame, hlists, -⟩ :=
    ensure_is_union .bigint (fun n => Uuid.ofNat n) Sample.nine
  obtain ⟨new, hnodup, hmem, -, hresult, hrun⟩ := hunion Sample.seen Sample.nameable_seen
  refine ⟨Sample.nameable_seen, ⟨new, hnodup, hrun, hresult [] 0, hmem⟩,
    htwice _ Sample.nameable_seen, hsame _ _ Sample.nameable_seen (by simp), ?_⟩
  exact hlists [Sample.seen.take 2, Sample.seen.drop 2] Sample.nameable_seen

end Repository

end UsageLedger
