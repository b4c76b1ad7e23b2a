/-
What a database that keeps its constraints has done when a statement succeeds.

Rows come at the end of their table and nothing else changes.  An accepted event has an
identifier of its own and names a user and a key that are there; that is why a reader
may go from rows of particulars to events and back.  Users are added that were not there
yet, each once.
-/
import Mathlib.Data.List.SplitBy
import UsageLedger.Proofs.Outcome
import UsageLedger.Store.Engine

namespace UsageLedger

/-! ### Adding what is new -/

section addNew

variable {α : Type} [DecidableEq α] {items : List α} {x y : α}

theorem mem_addNew : y ∈ addNew items x ↔ y ∈ items ∨ y = x := by
  unfold addNew
  by_cases hx : x ∈ items
  · rw [if_pos hx]
    exact ⟨.inl, fun h => h.elim id fun hy => hy ▸ hx⟩
  · rw [if_neg hx, List.mem_append, List.mem_singleton]

theorem addNew_of_mem (h : x ∈ items) : addNew items x = items := if_pos h

theorem prefix_addNew : items <+: addNew items x := by
  unfold addNew
  by_cases hx : x ∈ items
  · exact (if_pos hx).symm ▸ List.prefix_rfl
  · exact (if_neg hx).symm ▸ List.prefix_append _ _

theorem mem_foldl_addNew {xs : List α} : y ∈ xs.foldl addNew items ↔ y ∈ items ∨ y ∈ xs := by
  induction xs generalizing items with
  | nil => simp
  | cons x xs ih => rw [List.foldl_cons, ih, mem_addNew, List.mem_cons, or_assoc]

theorem foldl_addNew_of_subset {xs : List α} (h : ∀ x ∈ xs, x ∈ items) :
    xs.foldl addNew items = items := by
  induction xs with
  | nil => rfl
  | cons x xs ih =>
      rw [List.foldl_cons, addNew_of_mem (h x (by simp))]
      exact ih fun y hy => h y (by simp [hy])

theorem prefix_foldl_addNew {xs : List α} : items <+: xs.foldl addNew items := by
  induction xs generalizing items with
  | nil => exact List.prefix_rfl
  | cons x xs ih => exact prefix_addNew.trans ih

/-- What is added comes after what was there, each item once. -/
theorem foldl_addNew_eq_append (items xs : List α) :
    ∃ new, xs.foldl addNew items = items ++ new ∧ new.Nodup ∧
      ∀ x, x ∈ new ↔ x ∈ xs ∧ x ∉ items := by
  -- on the last item, which is there already or comes at the end
  induction xs using List.reverseRecOn with
  | nil => exact ⟨[], by simp, by simp, by simp⟩
  | append_singleton xs z ih =>
      obtain ⟨new, hfold, hnodup, hmem⟩ := ih
      rw [List.foldl_append, List.foldl_cons, List.foldl_nil, hfold]
      by_cases hz : z ∈ items ++ new
      · refine ⟨new, addNew_of_mem hz, hnodup, ?_⟩
        intro x
        rw [List.mem_append, hmem z] at hz
        rw [hmem x, List.mem_append, List.mem_singleton]
        constructor
        · rintro ⟨hx, hxi⟩
          exact ⟨.inl hx, hxi⟩
        · rintro ⟨hx | rfl, hxi⟩
          · exact ⟨hx, hxi⟩
          · exact hz.resolve_left hxi
      · rw [List.mem_append, not_or] at hz
        have hfresh : addNew (items ++ new) z = items ++ (new ++ [z]) := by
          rw [addNew, if_neg (by simp [hz]), List.append_assoc]
        refine ⟨new ++ [z], hfresh, ?_, ?_⟩
        · rw [List.nodup_append]
          refine ⟨hnodup, by simp, ?_⟩
          intro x hx y hy
          rw [List.mem_singleton] at hy
          rintro rfl
          exact hz.2 (hy ▸ hx)
        · intro x
          rw [List.mem_append, List.mem_singleton, hmem x, List.mem_append, List.mem_singleton]
          constructor
          · rintro (⟨hx, hxi⟩ | rfl)
            · exact ⟨.inl hx, hxi⟩
            · exact ⟨.inr rfl, hz.1⟩
          · rintro ⟨hx | rfl, hxi⟩
            · exact .inl ⟨hx, hxi⟩
            · exact .inr rfl

end addNew

/-! ### Single rows -/

namespace Tables

variable {t t' : Tables}

theorem hasEvent_eq_true {id : Uuid} : t.hasEvent id = true ↔ id ∈ t.events.map (·.id) := by
  simp [hasEvent]

/-- An event that a table takes: its identifier is new, and what it refers to is there. -/
structure Takes (t : Tables) (e : EventRow) : Prop where
  fresh : e.id ∉ t.events.map (·.id)
  user : ∀ user ∈ e.user, user ∈ t.users
  apiKey : ∀ key ∈ e.apiKey, key ∈ t.apiKeys.map (·.id)

theorem addEvent_ok {e : EventRow} (h : t.addEvent e = .ok t') :
    t.Takes e ∧ t' = { t with events := t.events ++ [e] } := by
  unfold addEvent at h
  split at h
  · cases h
  split at h
  · cases h
  split at h
  · cases h
  next hfresh huser hkey =>
    cases h
    refine ⟨⟨fun hid => hfresh (hasEvent_eq_true.mpr hid), ?_, ?_⟩, rfl⟩
    · intro user hmem
      rw [Option.mem_def] at hmem
      simpa [hmem] using huser
    · intro key hmem
      rw [Option.mem_def] at hmem
      simpa [hmem] using hkey

theorem addSdkCall_ok {row : SdkCallRow} (h : t.addSdkCall row = .ok t') :
    t' = { t with sdkCalls := t.sdkCalls ++ [row] } := by
  unfold addSdkCall at h
  split at h
  · cases h
  split at h <;> cases h
  rfl

theorem addPayment_ok {row : PaymentRow} (h : t.addPayment row = .ok t') :
    t' = { t with payments := t.payments ++ [row] } := by
  unfold addPayment at h
  split at h
  · cases h
  split at h <;> cases h
  rfl

theorem addTokenUsage_ok {row : TokenUsageRow} (h : t.addTokenUsage row = .ok t') :
    t' = { t with tokenUsages := t.tokenUsages ++ [row] } := by
  unfold addTokenUsage at h
  split at h
  · cases h
  split at h <;> cases h
  rfl

theorem addApiKey_ok {row : ApiKeyRow} (h : t.addApiKey row = .ok t') :
    row.key ∉ t.apiKeys.map (·.key) ∧ row.name ∉ t.apiKeys.map (·.name) ∧
      t' = { t with apiKeys := t.apiKeys ++ [row] } := by
  unfold addApiKey at h
  split at h
  · cases h
  split at h
  · cases h
  split at h <;> cases h
  next hkey hname _ =>
    exact ⟨by simpa using hkey, by simpa using hname, rfl⟩

end Tables

/-! ### Statements -/

namespace Engine

variable {scheme : IdScheme} {t t' : Tables}

/-- Rows that are added by groups are added one after the other. -/
theorem addRows_ok {table : Table} {rows : List Record}
    (h : addRows scheme table t rows = .ok t') :
    (rows.map table.mentioned).foldlM (addRow scheme table) t = .ok t' := by
  have hgroups : ∀ (groups : List (List Record)) (t : Tables),
      groups.foldlM (addAlike scheme table) t = .ok t' →
      groups.flatten.foldlM (addRow scheme table) t = .ok t' := by
    intro groups
    induction groups with
    | nil => intro t h; exact h
    | cons group groups ih =>
        intro t h
        obtain ⟨t₁, hgroup, h⟩ := bind_eq_ok.mp h
        obtain ⟨-, -, hgroup⟩ := bind_eq_ok.mp hgroup
        rw [List.flatten_cons, List.foldlM_append]
        exact bind_eq_ok.mpr ⟨t₁, hgroup, ih t₁ h⟩
  have hflat := hgroups _ t h
  rwa [List.flatten_splitBy] at hflat

/-- A single row is looked at and added. -/
theorem addRows_single (table : Table) (row : Record) :
    addRows scheme table t [row] = (do
      Store.checkRow scheme table (table.mentioned row)
      addRow scheme table t (table.mentioned row)) := by
  show (do
    let t ← (do
      (do Store.checkRow scheme table (table.mentioned row); .ok ())
      (do let t ← addRow scheme table t (table.mentioned row); .ok t))
    .ok t : Except Fault Tables) = _
  cases Store.checkRow scheme table (table.mentioned row) with
  | error e => rfl
  | ok u => cases addRow scheme table t (table.mentioned row) <;> rfl

/-- **Events that are added have identifiers of their own**, new and all different. -/
theorem addEvents_ok {rows : List Record}
    (h : rows.foldlM (addRow scheme .events) t = .ok t') :
    ∃ es, List.Forall₂ (fun row e => Store.eventRow scheme row = .ok e) rows es ∧
      (∀ e ∈ es, t.Takes e) ∧ (es.map (·.id)).Nodup ∧
      t' = { t with events := t.events ++ es } := by
  induction rows generalizing t with
  | nil =>
      cases h
      exact ⟨[], .nil, by simp, by simp, by simp⟩
  | cons row rows ih =>
      rw [List.foldlM_cons] at h
      obtain ⟨t₁, hrow, h⟩ := bind_eq_ok.mp h
      obtain ⟨e, hbound, hadded⟩ := bind_eq_ok.mp hrow
      obtain ⟨htakes, rfl⟩ := Tables.addEvent_ok (mapError_eq_ok.mp hadded)
      obtain ⟨es, hrows, htaken, hnodup, rfl⟩ := ih h
      refine ⟨e :: es, .cons hbound hrows, ?_, ?_, by simp⟩
      · rw [List.forall_mem_cons]
        refine ⟨htakes, fun e' he' => ⟨?_, (htaken e' he').user, (htaken e' he').apiKey⟩⟩
        have := (htaken e' he').fresh
        simp only [List.map_append, List.mem_append, not_or] at this
        exact this.1
      · rw [List.map_cons, List.nodup_cons]
        refine ⟨fun hid => ?_, hnodup⟩
        obtain ⟨e', he', hsame⟩ := List.mem_map.mp hid
        have := (htaken e' he').fresh
        simp [hsame] at this

/-- Groups of token usage that are added come at the end of their table. -/
theorem addTokenUsages_ok {rows : List Record}
    (h : rows.foldlM (addRow scheme .tokenUsages) t = .ok t') :
    ∃ ds, List.Forall₂ (fun row d => Store.tokenUsageRow row = .ok d) rows ds ∧
      t' = { t with tokenUsages := t.tokenUsages ++ ds } := by
  induction rows generalizing t with
  | nil =>
      cases h
      exact ⟨[], .nil, by simp⟩
  | cons row rows ih =>
      rw [List.foldlM_cons] at h
      obtain ⟨t₁, hrow, h⟩ := bind_eq_ok.mp h
      obtain ⟨d, hbound, hadded⟩ := bind_eq_ok.mp hrow
      obtain rfl := Tables.addTokenUsage_ok (mapError_eq_ok.mp hadded)
      obtain ⟨ds, hrows, rfl⟩ := ih h
      exact ⟨d :: ds, .cons hbound hrows, by simp⟩

end Engine

end UsageLedger
