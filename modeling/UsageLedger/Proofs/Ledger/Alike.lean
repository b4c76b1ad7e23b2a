/-
Calls that end alike on states that agree.

A call whose identifiers are of a set takes its steps alike on two states that agree on the
set, whatever else the states hold (`sameEnd_run`): the checks do not look at the tables,
users are made sure of before events name them, and everything else that constraints
compare is a key or comes under an identifier of the set.
-/
import UsageLedger.Proofs.Ledger.Accepted
import UsageLedger.Proofs.Ledger.InStep

namespace UsageLedger

namespace Ingest

open Txn Repository Intake

variable {S : Uuid → Bool} {users : List UserId} {scheme : IdScheme} {k : Ledger.Circumstances}
  {t₁ t₂ : Tables} {id : Uuid}

/-! ### Rows -/

theorem addedAlike_event {time : String} {user : UserId} {key : Option Uuid} (huser : user ∈ users)
    (hid : S id = true) :
    AddedAlike scheme S users .events (withId (userEventRow time user key) id) := by
  intro t₁ t₂ h
  refine .after _ fun e he => .mapError _ ?_
  obtain rfl := eventRow_ok he
  refine h.addEvent hid fun cell hcell => ?_
  cases hcell
  exact ⟨user, huser, rfl⟩

theorem addedAlike_sdkCall {data : SdkCallData} (hid : S id = true) :
    AddedAlike scheme S users .sdkCalls (detailRow (.uuid id) (sdkCallValues data)) := by
  intro t₁ t₂ h
  refine .after _ fun row hrow => .mapError _ ?_
  obtain ⟨rfl, -⟩ := sdkCallRow_ok hrow
  exact h.addSdkCall hid

theorem addedAlike_payment {data : PaymentData} (hid : S id = true) :
    AddedAlike scheme S users .payments (detailRow (.uuid id) (paymentValues data)) := by
  intro t₁ t₂ h
  refine .after _ fun row hrow => .mapError _ ?_
  obtain ⟨rfl, -⟩ := paymentRow_ok hrow
  exact h.addPayment hid

theorem addedAlike_tokenUsage {g : UsageGroup} (hid : S id = true) :
    AddedAlike scheme S users .tokenUsages (usageValues id g) := by
  intro t₁ t₂ h
  refine .after _ fun row hrow => .mapError _ ?_
  obtain rfl := tokenUsageRow_ok hrow
  exact h.addTokenUsage hid

/-! ### Transactions -/

theorem inStep_storeEvent (hhonest : k.Honest) (hdrawn : ∀ n, S (k.fresh n) = true) {user : UserId}
    {record : Record} {key : Option Uuid} {table : Table} {values : Record}
    (hdetail : ∀ id, S id = true →
      AddedAlike scheme S [user] table (detailRow (.uuid id) values)) :
    InStep (Tables.AgreeOn S) (Tables.AgreeOn S) (fun _ => True)
      (storeEvent (k.onSqlite scheme) user record key table values) := by
  have husers : InStep (Tables.AgreeOn S) (Tables.Joint S [user]) (fun _ => True)
      (ensureUser (k.onSqlite scheme) user.toValue) :=
    (InStep.meet _).bind fun _ _ => inStep_ensureUsers hhonest [user]
  have hsteps : InStep (Tables.AgreeOn S) (Tables.Joint S [user]) (fun _ => True)
      (storeEvent (k.onSqlite scheme) user record key table values) := by
    refine husers.bind fun _ _ => (InStep.ofExcept _).bind fun time _ => ?_
    refine (inStep_insertEvent hdrawn fun id hid => ?_).bind fun id hid => ?_
    · exact addedAlike_event (List.mem_singleton_self user) hid
    · exact (inStep_insertDetail (hdetail id hid)).bind fun _ _ => .pure trivial
  exact hsteps.weaken (fun _ _ h => h.agree) fun _ h => h

theorem inStep_storeUsage (hhonest : k.Honest) (hdrawn : ∀ n, S (k.fresh n) = true)
    {records : List UsageRecord} {key : Option Uuid} :
    InStep (Tables.AgreeOn S) (Tables.AgreeOn S) (fun _ => True)
      (storeUsage (k.onSqlite scheme) records key) := by
  refine (InStep.ofExcept _).bind fun groups _ => ?_
  have husers : InStep (Tables.AgreeOn S) (Tables.Joint S (groups.map (·.user))) (fun _ => True)
      (ensureUsers (k.onSqlite scheme) (groups.map (·.user.toValue))) := by
    have hvalues : groups.map (·.user.toValue) = (groups.map (·.user)).map UserId.toValue := by
      rw [List.map_map]
      rfl
    rw [hvalues]
    exact inStep_ensureUsers hhonest _
  refine husers.bind fun _ _ => ?_
  refine (inStep_insertEvents hdrawn fun row hrow id hid => ?_).bind fun ids hids => ?_
  · obtain ⟨g, hg, rfl⟩ := List.mem_map.mp hrow
    exact addedAlike_event (List.mem_map_of_mem hg) hid
  have hdetails : InStep (Tables.Joint S (groups.map (·.user))) (Tables.AgreeOn S) (fun _ => True)
      (insertDetails (k.onSqlite scheme) .tokenUsages (List.zipWith usageValues ids groups)) := by
    refine (inStep_insertDetails fun row hrow => ?_).weaken (fun _ _ h => h.agree) fun _ h => h
    obtain ⟨id, hid, g, -, rfl⟩ := exists_of_mem_zipWith hrow
    exact addedAlike_tokenUsage (hids.2 id hid)
  refine hdetails.bind fun _ _ => ?_
  split
  · exact .pure trivial
  · exact .throw _

/-- The row of a key is added by its keys, which the states have in common. -/
theorem inStep_storeKey (hdrawn : ∀ n, S (k.fresh n) = true) {record : Record}
    {data : KeyGrantData} :
    InStep (Tables.AgreeOn S) (Tables.AgreeOn S) (fun _ => True)
      (storeKey (k.onSqlite scheme) record data) := by
  refine (InStep.ofExcept _).bind fun _ _ => (InStep.ofExcept _).bind fun expiresAt _ => ?_
  intro w₁ w₂ hw
  -- no users are needed
  have hjoint : Parallel (Tables.Joint S []) w₁ w₂ :=
    ⟨hw.executed, hw.drawn, hw.tables, fun _ h => absurd h List.not_mem_nil,
      fun _ h => absurd h List.not_mem_nil⟩
  exact (inStep_insertApiKey hdrawn).weaken (fun _ _ h => h.agree) (fun _ h => h) w₁ w₂ hjoint

/-! ### Handlers -/

theorem sameEnd_checked {α β : Type} {check : Except Raised α}
    {next₁ next₂ : α → Except Raised β × Tables} (h : t₁.AgreeOn S t₂)
    (hnext : ∀ a, SameEnd S (next₁ a) (next₂ a)) :
    SameEnd S (checked check t₁ next₁) (checked check t₂ next₂) := by
  cases check with
  | error e => exact ⟨rfl, h⟩
  | ok a => exact hnext a

theorem sameEnd_map {α β : Type} {x y : Except Raised α × Tables} (f : α → β)
    (h : SameEnd S x y) : SameEnd S (x.1.map f, x.2) (y.1.map f, y.2) :=
  ⟨congrArg (Except.map f) h.1, h.2⟩

theorem sameEnd_writeTransaction {α : Type} {description : String} {body : Txn α} {P : α → Prop}
    (hbody : InStep (Tables.AgreeOn S) (Tables.AgreeOn S) P body) (h : t₁.AgreeOn S t₂) :
    SameEnd S (writeTransaction (k.onSqlite scheme) description body t₁)
      (writeTransaction (k.onSqlite scheme) description body t₂) := by
  obtain ⟨houtcome, htables⟩ := sameEnd_run (c := k.onSqlite scheme) hbody h
  exact ⟨congrArg (Except.mapError (explain description)) houtcome, htables⟩

theorem sameEnd_storeSingle (hhonest : k.Honest) (hdrawn : ∀ n, S (k.fresh n) = true)
    {kind : EventKind} {user : UserId} {record : Record} {apiKey : Value} {table : Table}
    {values : Record} (hdetail : ∀ id, S id = true →
      AddedAlike scheme S [user] table (detailRow (.uuid id) values)) (h : t₁.AgreeOn S t₂) :
    SameEnd S (storeSingle (k.onSqlite scheme) kind user record apiKey table values t₁)
      (storeSingle (k.onSqlite scheme) kind user record apiKey table values t₂) :=
  sameEnd_checked h fun _ =>
    sameEnd_writeTransaction (inStep_storeEvent hhonest hdrawn hdetail) h

theorem sameEnd_addUsage (hhonest : k.Honest) (hdrawn : ∀ n, S (k.fresh n) = true)
    {records : List Record} {apiKey : Value} (h : t₁.AgreeOn S t₂) :
    SameEnd S (addUsage (k.onSqlite scheme) records apiKey t₁)
      (addUsage (k.onSqlite scheme) records apiKey t₂) := by
  unfold addUsage
  split
  · exact ⟨rfl, h⟩
  · refine sameEnd_checked h fun usage => sameEnd_checked h fun key => ?_
    exact sameEnd_map some (sameEnd_writeTransaction (inStep_storeUsage hhonest hdrawn) h)

end Ingest

namespace Ledger

open Txn Ingest

variable {S : Uuid → Bool} {scheme : IdScheme} {k : Circumstances} {t₁ t₂ : Tables}

theorem sameEnd_write (hhonest : k.Honest) (hdrawn : ∀ n, S (k.fresh n) = true) (kind : EventKind)
    (record : Record) (apiKey : Value) (h : t₁.AgreeOn S t₂) :
    SameEnd S (write (k.onSqlite scheme) kind record apiKey t₁)
      (write (k.onSqlite scheme) kind record apiKey t₂) := by
  cases kind with
  | sdkCall =>
      refine sameEnd_map some (sameEnd_checked h fun ⟨user, data⟩ => ?_)
      exact sameEnd_storeSingle hhonest hdrawn (fun _ => addedAlike_sdkCall) h
  | payment =>
      refine sameEnd_map some (sameEnd_checked h fun ⟨user, data⟩ => ?_)
      exact sameEnd_storeSingle hhonest hdrawn (fun _ => addedAlike_payment) h
  | tokenUsage => exact sameEnd_addUsage hhonest hdrawn h
  | addKey =>
      refine sameEnd_map some (sameEnd_checked h fun data => ?_)
      exact sameEnd_writeTransaction (inStep_storeKey hdrawn) h
  | requestSdkCall | requestTokenUsage | requestPayment => exact ⟨rfl, h⟩

/-- **A call ends alike on states that agree** on the identifiers that it can draw. -/
theorem sameEnd_call (call : Call) (hhonest : k.Honest) (hdrawn : ∀ n, S (k.fresh n) = true)
    (h : t₁.AgreeOn S t₂) :
    SameEnd S (call.run (k.onSqlite scheme) t₁) (call.run (k.onSqlite scheme) t₂) := by
  cases call with
  | add submission apiKey =>
      exact sameEnd_checked h fun ⟨kind, record⟩ =>
        sameEnd_write hhonest hdrawn kind record apiKey h
  | addBatch submissions apiKey =>
      exact sameEnd_checked h fun _ => sameEnd_addUsage hhonest hdrawn h

end Ledger

end UsageLedger
