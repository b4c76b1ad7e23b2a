/-
Tables that agree on some events.

Two states of the tables agree on a set of identifiers when they have the same keys and,
under the identifiers of the set, the same rows in the same order (`Tables.AgreeOn`).
Users and the rows of other events may differ.  A statement whose rows come under
identifiers of the set cannot tell such states apart: it meets the same errors on both, or
leaves states that agree again (`Engine.sameFate_addRows`).  The one thing that it would
notice is a missing user, so the users that events name are made sure of first and are
part of the relation of the steps (`Tables.Joint`).
-/
import UsageLedger.Proofs.Store.Repository

namespace UsageLedger

/-! ### Rows under some identifiers -/

section filter

variable {ρ : Type} {S : Uuid → Bool} {ident : ρ → Uuid} {rows₁ rows₂ : List ρ} {id : Uuid}

theorem find?_of_filter (hid : S id = true)
    (h : rows₁.filter (fun row => S (ident row)) = rows₂.filter fun row => S (ident row)) :
    (rows₁.find? fun row => ident row = id) = rows₂.find? fun row => ident row = id := by
  have hinner : ∀ rows : List ρ, (rows.find? fun row => ident row = id)
      = (rows.filter fun row => S (ident row)).find? fun row => ident row = id := by
    intro rows
    rw [List.find?_filter]
    congr 1
    funext row
    by_cases hrow : ident row = id
    · simp [hrow, hid]
    · simp [hrow]
  rw [hinner, hinner rows₂, h]

theorem any_of_filter (hid : S id = true)
    (h : rows₁.filter (fun row => S (ident row)) = rows₂.filter fun row => S (ident row)) :
    (rows₁.any fun row => ident row = id) = rows₂.any fun row => ident row = id := by
  rw [← List.isSome_find?, ← List.isSome_find?, find?_of_filter hid h]

/-- Rows that agree still do when the same rows come after them. -/
theorem filter_append_congr {p : ρ → Bool} {more : List ρ}
    (h : rows₁.filter p = rows₂.filter p) :
    (rows₁ ++ more).filter p = (rows₂ ++ more).filter p := by
  rw [List.filter_append, List.filter_append, h]

end filter

namespace Tables

variable {S : Uuid → Bool} {users : List UserId} {t t₁ t₂ t₃ : Tables}

/-- The keys are the same, and so are the rows under the identifiers of a set. -/
structure AgreeOn (S : Uuid → Bool) (t₁ t₂ : Tables) : Prop where
  apiKeys : t₁.apiKeys = t₂.apiKeys
  events : t₁.events.filter (fun e => S e.id) = t₂.events.filter fun e => S e.id
  sdkCalls : t₁.sdkCalls.filter (fun row => S row.id) = t₂.sdkCalls.filter fun row => S row.id
  payments : t₁.payments.filter (fun row => S row.id) = t₂.payments.filter fun row => S row.id
  tokenUsages :
    t₁.tokenUsages.filter (fun row => S row.id) = t₂.tokenUsages.filter fun row => S row.id

namespace AgreeOn

theorem refl (S : Uuid → Bool) (t : Tables) : t.AgreeOn S t := ⟨rfl, rfl, rfl, rfl, rfl⟩

theorem symm (h : t₁.AgreeOn S t₂) : t₂.AgreeOn S t₁ :=
  ⟨h.apiKeys.symm, h.events.symm, h.sdkCalls.symm, h.payments.symm, h.tokenUsages.symm⟩

theorem trans (h : t₁.AgreeOn S t₂) (h' : t₂.AgreeOn S t₃) : t₁.AgreeOn S t₃ :=
  ⟨h.apiKeys.trans h'.apiKeys, h.events.trans h'.events, h.sdkCalls.trans h'.sdkCalls,
    h.payments.trans h'.payments, h.tokenUsages.trans h'.tokenUsages⟩

theorem hasEvent (h : t₁.AgreeOn S t₂) {id : Uuid} (hid : S id = true) :
    t₁.hasEvent id = t₂.hasEvent id :=
  any_of_filter hid h.events

end AgreeOn

/-- The states agree, and some users are there in both. -/
structure Joint (S : Uuid → Bool) (users : List UserId) (t₁ t₂ : Tables) : Prop where
  agree : t₁.AgreeOn S t₂
  first : ∀ user ∈ users, user.toCell ∈ t₁.users
  second : ∀ user ∈ users, user.toCell ∈ t₂.users

/-- Users that are made sure of are there. -/
theorem AgreeOn.withUsers (h : t₁.AgreeOn S t₂) (users : List UserId) :
    Joint S users (t₁.withUsers users) (t₂.withUsers users) where
  agree := ⟨h.apiKeys, h.events, h.sdkCalls, h.payments, h.tokenUsages⟩
  first _ huser := mem_foldl_addNew.mpr (.inr (List.mem_map_of_mem huser))
  second _ huser := mem_foldl_addNew.mpr (.inr (List.mem_map_of_mem huser))

/-! ### Adding a row to both -/

namespace Joint

/-- An event of a user that is there is added to both or to none. -/
theorem addEvent (h : Joint S users t₁ t₂) {e : EventRow} (hid : S e.id = true)
    (huser : ∀ cell ∈ e.user, ∃ user ∈ users, user.toCell = cell) :
    SameFate (t₁.addEvent e) (t₂.addEvent e) (Joint S users) := by
  have hthere : ∀ t : Tables, (∀ user ∈ users, user.toCell ∈ t.users) →
      e.user.any (fun cell => cell ∉ t.users) = false := by
    intro t ht
    rw [Option.any_eq_false]
    intro cell hcell
    obtain ⟨user, hmem, rfl⟩ := huser cell hcell
    simpa using ht user hmem
  unfold Tables.addEvent
  rw [h.agree.hasEvent hid, hthere t₁ h.first, hthere t₂ h.second, h.agree.apiKeys]
  split
  · exact .inl ⟨_, rfl, rfl⟩
  split
  · exact .inl ⟨_, rfl, rfl⟩
  split
  · exact .inl ⟨_, rfl, rfl⟩
  · exact .ok ⟨{ h.agree with apiKeys := rfl, events := filter_append_congr h.agree.events },
      h.first, h.second⟩

theorem addSdkCall (h : Joint S users t₁ t₂) {row : SdkCallRow} (hid : S row.id = true) :
    SameFate (t₁.addSdkCall row) (t₂.addSdkCall row) (Joint S users) := by
  unfold Tables.addSdkCall
  rw [h.agree.hasEvent hid, any_of_filter hid h.agree.sdkCalls]
  split
  · exact .inl ⟨_, rfl, rfl⟩
  split
  · exact .inl ⟨_, rfl, rfl⟩
  · exact .ok
      ⟨{ h.agree with sdkCalls := filter_append_congr h.agree.sdkCalls }, h.first, h.second⟩

theorem addPayment (h : Joint S users t₁ t₂) {row : PaymentRow} (hid : S row.id = true) :
    SameFate (t₁.addPayment row) (t₂.addPayment row) (Joint S users) := by
  unfold Tables.addPayment
  rw [h.agree.hasEvent hid, any_of_filter hid h.agree.payments]
  split
  · exact .inl ⟨_, rfl, rfl⟩
  split
  · exact .inl ⟨_, rfl, rfl⟩
  · exact .ok
      ⟨{ h.agree with payments := filter_append_congr h.agree.payments }, h.first, h.second⟩

theorem addTokenUsage (h : Joint S users t₁ t₂) {row : TokenUsageRow} (hid : S row.id = true) :
    SameFate (t₁.addTokenUsage row) (t₂.addTokenUsage row) (Joint S users) := by
  unfold Tables.addTokenUsage
  rw [h.agree.hasEvent hid, any_of_filter hid h.agree.tokenUsages]
  split
  · exact .inl ⟨_, rfl, rfl⟩
  split
  · exact .inl ⟨_, rfl, rfl⟩
  · exact .ok
      ⟨{ h.agree with tokenUsages := filter_append_congr h.agree.tokenUsages }, h.first, h.second⟩

/-- Keys are the same in both, so any key is added to both or to none. -/
theorem addApiKey (h : Joint S users t₁ t₂) (row : ApiKeyRow) :
    SameFate (t₁.addApiKey row) (t₂.addApiKey row) (Joint S users) := by
  unfold Tables.addApiKey
  rw [h.agree.apiKeys]
  split
  · exact .inl ⟨_, rfl, rfl⟩
  split
  · exact .inl ⟨_, rfl, rfl⟩
  split
  · exact .inl ⟨_, rfl, rfl⟩
  · exact .ok ⟨{ h.agree with apiKeys := rfl }, h.first, h.second⟩

end Joint

end Tables

/-! ### Statements -/

namespace Engine

variable {S : Uuid → Bool} {users : List UserId} {scheme : IdScheme} {t₁ t₂ : Tables}

/-- Rows are added to both states or to none when each of them is. -/
theorem sameFate_addRows {table : Table} {rows : List Record}
    (hrows : ∀ row ∈ rows, ∀ t₁ t₂, Tables.Joint S users t₁ t₂ →
      SameFate (addRow scheme table t₁ (table.mentioned row))
        (addRow scheme table t₂ (table.mentioned row)) (Tables.Joint S users))
    (h : Tables.Joint S users t₁ t₂) :
    SameFate (addRows scheme table t₁ rows) (addRows scheme table t₂ rows)
      (Tables.Joint S users) := by
  refine .foldlM (fun group hgroup t₁ t₂ h => ?_) h
  refine .after _ fun _ _ => .foldlM (fun row hrow t₁ t₂ h => ?_) h
  -- the groups are made of the rows as they are mentioned
  have hmem : row ∈ rows.map table.mentioned := by
    rw [← List.flatten_splitBy alike (rows.map table.mentioned)]
    exact List.mem_flatten_of_mem hgroup hrow
  obtain ⟨given, hgiven, rfl⟩ := List.mem_map.mp hmem
  exact hrows given hgiven t₁ t₂ h

end Engine

end UsageLedger
