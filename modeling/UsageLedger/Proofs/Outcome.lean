/-
How outcomes come about.

A chain of checks is good exactly when each of them is, and a list of checks gives one
result for each item.  Two chains whose checks fare alike step by step fare alike
(`SameFate`).
-/
import Mathlib.Data.List.Forall2

namespace UsageLedger

variable {ε ε' α β : Type}

theorem bind_eq_ok {x : Except ε α} {f : α → Except ε β} {b : β} :
    (x >>= f) = .ok b ↔ ∃ a, x = .ok a ∧ f a = .ok b := by
  cases x with
  | error e => simp [bind, Except.bind]
  | ok a => simp [bind, Except.bind]

theorem bind_eq_error {x : Except ε α} {f : α → Except ε β} {e : ε} :
    (x >>= f) = .error e ↔ x = .error e ∨ ∃ a, x = .ok a ∧ f a = .error e := by
  cases x with
  | error e' => simp [bind, Except.bind]
  | ok a => simp [bind, Except.bind]

theorem mapError_eq_ok {x : Except ε α} {f : ε → ε'} {a : α} :
    x.mapError f = .ok a ↔ x = .ok a := by
  cases x <;> simp [Except.mapError]

theorem map_eq_ok {x : Except ε α} {f : α → β} {b : β} :
    x.map f = .ok b ↔ ∃ a, x = .ok a ∧ f a = b := by
  cases x <;> simp [Except.map]

theorem map_eq_error {x : Except ε α} {f : α → β} {e : ε} : x.map f = .error e ↔ x = .error e := by
  cases x <;> simp [Except.map]

/-- An operation whose results are wrapped gave what is wrapped. -/
theorem map_some_eq_ok {σ : Type} {result : Except ε α × σ} {o : Option α} {s : σ}
    (h : (result.1.map some, result.2) = (.ok o, s)) : ∃ a, result = (.ok a, s) ∧ some a = o := by
  obtain ⟨houtcome, hstate⟩ := Prod.mk.inj h
  obtain ⟨a, ha, ho⟩ := map_eq_ok.mp houtcome
  exact ⟨a, Prod.ext ha hstate, ho⟩

theorem mapM_eq_ok {f : α → Except ε β} {l : List α} {bs : List β} :
    l.mapM f = .ok bs ↔ List.Forall₂ (fun a b => f a = .ok b) l bs := by
  induction l generalizing bs with
  | nil =>
      rw [List.mapM_nil, List.forall₂_nil_left_iff]
      exact ⟨fun h => by cases h; rfl, fun h => by rw [h]; rfl⟩
  | cons a l ih =>
      rw [List.mapM_cons, List.forall₂_cons_left_iff, bind_eq_ok]
      constructor
      · rintro ⟨b, ha, h⟩
        obtain ⟨rest, hl, h⟩ := bind_eq_ok.mp h
        cases h
        exact ⟨b, rest, ha, ih.mp hl, rfl⟩
      · rintro ⟨b, rest, ha, hl, rfl⟩
        exact ⟨b, ha, bind_eq_ok.mpr ⟨rest, ih.mpr hl, rfl⟩⟩

/-- The results of a list of checks that are all good. -/
theorem filterMap_of_mapM {f : α → Except ε β} {l : List α} {bs : List β} (h : l.mapM f = .ok bs) :
    l.filterMap (fun a => (f a).toOption) = bs := by
  rw [mapM_eq_ok] at h
  induction h with
  | nil => rfl
  | cons hab _ ih => rw [List.filterMap_cons_some (by rw [hab]; rfl), ih]

theorem filterMap_eq_of_forall₂ {γ : Type} {R : α → β → Prop} {f : α → Option γ}
    {g : β → Option γ} {as : List α} {bs : List β} (h : List.Forall₂ R as bs)
    (hR : ∀ a ∈ as, ∀ b, R a b → f a = g b) : as.filterMap f = bs.filterMap g := by
  induction h with
  | nil => rfl
  | cons hab _ ih =>
      rw [List.filterMap_cons, List.filterMap_cons, hR _ (by simp) _ hab,
        ih fun a ha => hR a (by simp [ha])]

theorem map_eq_of_forall₂ {γ : Type} {R : α → β → Prop} {f : α → γ} {g : β → γ} {as : List α}
    {bs : List β} (h : List.Forall₂ R as bs) (hR : ∀ {a b}, R a b → f a = g b) :
    as.map f = bs.map g := by
  induction h with
  | nil => rfl
  | cons hab _ ih => rw [List.map_cons, List.map_cons, hR hab, ih]

theorem forall₂_filter {R : α → β → Prop} {p : α → Bool} {q : β → Bool} {as : List α}
    {bs : List β} (h : List.Forall₂ R as bs) (hR : ∀ {a b}, R a b → p a = q b) :
    List.Forall₂ R (as.filter p) (bs.filter q) := by
  induction h with
  | nil => exact .nil
  | cons hab _ ih =>
      rw [List.filter_cons, List.filter_cons, hR hab]
      split
      · exact .cons hab ih
      · exact ih

theorem exists_of_mem_forall₂ {R : α → β → Prop} {as : List α} {bs : List β} {b : β}
    (h : List.Forall₂ R as bs) (hb : b ∈ bs) : ∃ a ∈ as, R a b := by
  induction h with
  | nil => cases hb
  | cons hab _ ih =>
      rcases List.mem_cons.mp hb with rfl | hb
      · exact ⟨_, by simp, hab⟩
      · obtain ⟨a, ha, hR⟩ := ih hb
        exact ⟨a, by simp [ha], hR⟩

theorem forM_eq_ok {f : α → Except ε Unit} {l : List α} :
    l.forM f = .ok () ↔ ∀ a ∈ l, f a = .ok () := by
  induction l with
  | nil => exact ⟨fun _ _ h => absurd h (List.not_mem_nil), fun _ => rfl⟩
  | cons a l ih =>
      show (f a >>= fun _ => l.forM f) = .ok () ↔ _
      rw [List.forall_mem_cons, ← ih, bind_eq_ok]
      exact ⟨fun ⟨_, ha, hl⟩ => ⟨ha, hl⟩, fun ⟨ha, hl⟩ => ⟨(), ha, hl⟩⟩

/-- A list of checks has results when each of them has one. -/
theorem exists_mapM_eq_ok {f : α → Except ε β} {l : List α} :
    (∃ bs, l.mapM f = .ok bs) ↔ ∀ a ∈ l, ∃ b, f a = .ok b := by
  simp only [mapM_eq_ok]
  induction l with
  | nil => exact ⟨fun _ _ h => absurd h List.not_mem_nil, fun _ => ⟨[], .nil⟩⟩
  | cons a l ih =>
      rw [List.forall_mem_cons, ← ih]
      constructor
      · rintro ⟨_, _ | ⟨hab, hl⟩⟩
        exact ⟨⟨_, hab⟩, ⟨_, hl⟩⟩
      · rintro ⟨⟨b, hab⟩, ⟨bs, hl⟩⟩
        exact ⟨b :: bs, .cons hab hl⟩

/-- When something in a list fails, something fails first. -/
theorem exists_first {α : Type} {p : α → Prop} {l : List α} (h : ∃ a ∈ l, ¬ p a) :
    ∃ before a after, l = before ++ a :: after ∧ (∀ b ∈ before, p b) ∧ ¬ p a := by
  induction l with
  | nil =>
      obtain ⟨a, ha, -⟩ := h
      cases ha
  | cons a l ih =>
      by_cases ha : p a
      · have hrest : ∃ a ∈ l, ¬ p a := by simpa [ha] using h
        obtain ⟨before, b, after, rfl, hbefore, hb⟩ := ih hrest
        exact ⟨a :: before, b, after, rfl, List.forall_mem_cons.mpr ⟨ha, hbefore⟩, hb⟩
      · exact ⟨[], a, l, rfl, fun _ hmem => absurd hmem List.not_mem_nil, ha⟩

/-- A list of checks goes wrong as the first of them that does. -/
theorem mapM_eq_error_of_first {f : α → Except ε β} {before after : List α} {a : α} {e : ε}
    (hbefore : ∀ b ∈ before, ∃ c, f b = .ok c) (ha : f a = .error e) :
    (before ++ a :: after).mapM f = .error e := by
  obtain ⟨results, hresults⟩ := exists_mapM_eq_ok.mpr hbefore
  rw [List.mapM_append, hresults, List.mapM_cons, ha]
  rfl

theorem forM_eq_error_of_first {f : α → Except ε Unit} {before after : List α} {a : α} {e : ε}
    (hbefore : ∀ b ∈ before, f b = .ok ()) (ha : f a = .error e) :
    (before ++ a :: after).forM f = .error e := by
  induction before with
  | nil =>
      show (f a >>= fun _ => after.forM f) = .error e
      rw [ha]
      rfl
  | cons b before ih =>
      rw [List.forall_mem_cons] at hbefore
      show (f b >>= fun _ => (before ++ a :: after).forM f) = .error e
      rw [hbefore.1]
      exact ih hbefore.2

theorem mapM_eq_error {f : α → Except ε β} {l : List α} {e : ε} :
    l.mapM f = .error e ↔ ∃ before a after, l = before ++ a :: after ∧
      (∀ b ∈ before, ∃ c, f b = .ok c) ∧ f a = .error e := by
  constructor
  · intro h
    have hbad : ∃ a ∈ l, ¬ ∃ c, f a = .ok c := by
      by_contra hgood
      obtain ⟨bs, hbs⟩ := exists_mapM_eq_ok.mpr fun a ha =>
        Classical.not_not.mp fun hnone => hgood ⟨a, ha, hnone⟩
      cases hbs.symm.trans h
    obtain ⟨before, a, after, rfl, hbefore, ha⟩ := exists_first hbad
    refine ⟨before, a, after, rfl, hbefore, ?_⟩
    cases ha' : f a with
    | ok c => exact absurd ⟨c, ha'⟩ ha
    | error e' =>
        cases (mapM_eq_error_of_first hbefore ha').symm.trans h
        rfl
  · rintro ⟨before, a, after, rfl, hbefore, ha⟩
    exact mapM_eq_error_of_first hbefore ha

theorem forM_eq_error {f : α → Except ε Unit} {l : List α} {e : ε} :
    l.forM f = .error e ↔ ∃ before a after, l = before ++ a :: after ∧
      (∀ b ∈ before, f b = .ok ()) ∧ f a = .error e := by
  constructor
  · intro h
    have hbad : ∃ a ∈ l, ¬ f a = .ok () := by
      by_contra hgood
      have hall := forM_eq_ok.mpr fun a ha => Classical.not_not.mp fun hc => hgood ⟨a, ha, hc⟩
      cases hall.symm.trans h
    obtain ⟨before, a, after, rfl, hbefore, ha⟩ := exists_first hbad
    refine ⟨before, a, after, rfl, hbefore, ?_⟩
    cases ha' : f a with
    | ok _ => exact absurd ha' ha
    | error e' => exact (forM_eq_error_of_first hbefore ha').symm.trans h
  · rintro ⟨before, a, after, rfl, hbefore, ha⟩
    exact forM_eq_error_of_first hbefore ha

/-- Checks made list by list are the checks of all of them in turn. -/
theorem forM_flatMap {f : β → Except ε Unit} {g : α → List β} {l : List α} :
    (l.flatMap g).forM f = l.forM fun a => (g a).forM f := by
  induction l with
  | nil => rfl
  | cons a l ih =>
      rw [List.flatMap_cons]
      show (g a ++ l.flatMap g).forM f = ((g a).forM f >>= fun _ => l.forM fun a => (g a).forM f)
      rw [← ih]
      exact List.forM_append

/-! ### Outcomes of the same fate -/

/-- Both outcomes are the same error, or both are good and related. -/
def SameFate (x : Except ε α) (y : Except ε β) (Q : α → β → Prop) : Prop :=
  (∃ e, x = .error e ∧ y = .error e) ∨ ∃ a b, x = .ok a ∧ y = .ok b ∧ Q a b

namespace SameFate

variable {γ δ : Type} {Q : α → β → Prop} {R : γ → δ → Prop}

theorem ok {a : α} {b : β} (h : Q a b) : SameFate (.ok a : Except ε α) (.ok b) Q :=
  .inr ⟨a, b, rfl, rfl, h⟩

theorem bind {x : Except ε α} {y : Except ε β} {f : α → Except ε γ} {g : β → Except ε δ}
    (h : SameFate x y Q) (hnext : ∀ a b, Q a b → SameFate (f a) (g b) R) :
    SameFate (x >>= f) (y >>= g) R := by
  rcases h with ⟨e, rfl, rfl⟩ | ⟨a, b, rfl, rfl, hab⟩
  · exact .inl ⟨e, rfl, rfl⟩
  · exact hnext a b hab

/-- What begins alike fares the same when it goes on so. -/
theorem after (x : Except ε α) {f : α → Except ε γ} {g : α → Except ε δ}
    (h : ∀ a, x = .ok a → SameFate (f a) (g a) R) : SameFate (x >>= f) (x >>= g) R := by
  cases x with
  | error e => exact .inl ⟨e, rfl, rfl⟩
  | ok a => exact h a rfl

theorem mapError {x : Except ε α} {y : Except ε β} (f : ε → ε') (h : SameFate x y Q) :
    SameFate (x.mapError f) (y.mapError f) Q := by
  rcases h with ⟨e, rfl, rfl⟩ | ⟨a, b, rfl, rfl, hab⟩
  · exact .inl ⟨f e, rfl, rfl⟩
  · exact ok hab

theorem map {x : Except ε α} {y : Except ε β} {f : α → γ} {g : β → δ} (h : SameFate x y Q)
    (hR : ∀ a b, Q a b → R (f a) (g b)) : SameFate (x.map f) (y.map g) R := by
  rcases h with ⟨e, rfl, rfl⟩ | ⟨a, b, rfl, rfl, hab⟩
  · exact .inl ⟨e, rfl, rfl⟩
  · exact ok (hR a b hab)

/-- Two folds fare the same when their steps do. -/
theorem foldlM {R : α → β → Prop} {f : α → γ → Except ε α} {g : β → γ → Except ε β} {l : List γ}
    (hstep : ∀ x ∈ l, ∀ a b, R a b → SameFate (f a x) (g b x) R) {a : α} {b : β} (h : R a b) :
    SameFate (l.foldlM f a) (l.foldlM g b) R := by
  induction l generalizing a b with
  | nil => exact ok h
  | cons x l ih =>
      rw [List.foldlM_cons, List.foldlM_cons]
      refine (hstep x (by simp) a b h).bind fun a b hab => ?_
      exact ih (fun y hy => hstep y (by simp [hy])) hab

end SameFate

end UsageLedger
