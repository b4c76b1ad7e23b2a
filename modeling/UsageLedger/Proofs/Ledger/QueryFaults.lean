/-
What a fault of a query comes to in a price.

A price asks one query, or both when it is the total, and reads each answer before it asks
the next.  An error of the database is told as a failed query, any other fault as a price
that cannot be had, and the total passes on what a component was told.
-/
import UsageLedger.Proofs.Ledger.Pricing
import UsageLedger.Proofs.Store.Faults

namespace UsageLedger

/-- The kind of failure that a fault is told as where a query is asked. -/
def Fault.queryKind : Fault → FailureKind
  | database _ => .queryFailed
  | _ => .priceCalculationFailed

namespace Pricing

open Intake

/-- The queries that the price of a user asks. -/
def queries (user : UserId) : EventKind → List Query
  | .requestSdkCall => [.sdkDebits user]
  | .requestTokenUsage => [.tokenDebits user]
  | .requestPayment => [.sdkDebits user, .tokenDebits user]
  | _ => []

/-- The queries that the price of a submission asks. -/
def queriesOf (scheme : IdScheme) (submission : Submission) : List Query :=
  match unwrap submission with
  | .error _ => []
  | .ok record =>
    match acceptedKind record priceKinds, UserId.parse scheme (record.get userKey) with
    | .ok kind, .ok user => queries user kind
    | _, _ => []

section Asking

variable {σ : Type} {scheme : IdScheme} {depth : Nat} {ask : Asked σ Query Value}
  {record : Record} {submission : Submission} {user : UserId} {label : String} {q : Query}
  {x : Fault} {s : σ}

/-- The same answers, but for a fault in the place of one. -/
def failing (ask : Asked σ Query Value) (q : Query) (x : Fault) : Asked σ Query Value :=
  fun query s => if query = q then (.error (.fault x), s) else ask query s

theorem owedBy_failing_of_ne {query : Query} (h : query ≠ q) :
    owedBy (failing ask q x) query user label s = owedBy ask query user label s := by
  unfold owedBy sumFor failing
  rw [if_neg h]

theorem owedBy_failing (ask : Asked σ Query Value) (q : Query) (x : Fault) (user : UserId)
    (label : String) (s : σ) :
    ∃ f : Failure, owedBy (failing ask q x) q user label s = (.error (.failure f), s) ∧
      f.kind = x.queryKind ∧ f.cause? = some x := by
  unfold owedBy sumFor failing
  rw [if_pos rfl]
  cases x with
  | database e => exact ⟨_, rfl, rfl, rfl⟩
  | _ => exact ⟨_, rfl, rfl, rfl⟩

/-- An answer that is owed by a query meets the faults of this query and of no other. -/
theorem owedBy_meets {query : Query} :
    (q ∈ [query] → Refused x.queryKind x (owedBy (failing ask q x) query user label s).1) ∧
    (q ∉ [query] →
      owedBy (failing ask q x) query user label s = owedBy ask query user label s) := by
  refine ⟨fun hq => ?_, fun hq => owedBy_failing_of_ne (Ne.symm (List.ne_of_not_mem_cons hq))⟩
  obtain rfl := List.mem_singleton.mp hq
  obtain ⟨f, hf, htold⟩ := owedBy_failing ask q x user label s
  exact ⟨f, congrArg Prod.fst hf, htold⟩

/-- Only a record that has a kind with a price, and a user, has a price. -/
theorem exists_of_price_ok {n : Int} {s' : σ}
    (h : price scheme depth ask submission s = (.ok n, s')) :
    ∃ record kind user, unwrap submission = .ok record ∧
      acceptedKind record priceKinds = .ok kind ∧
      ∀ label, requireUser scheme record label = .ok user := by
  unfold price at h
  split at h
  · cases h
  next record hrecord =>
  cases hresolved : resolveKind depth record priceKinds with
  | error e =>
      rw [priceRecord, hresolved] at h
      cases h
  | ok kind =>
      have hkind := resolveKind_eq_ok.mp hresolved
      suffices huser : ∃ label user, requireUser scheme record label = .ok user by
        obtain ⟨label, user, huser⟩ := huser
        exact ⟨record, kind, user, hrecord, hkind, requireUser_relabel huser⟩
      have hmem := (acceptedKind_eq_ok.mp hkind).2
      simp only [priceKinds, List.mem_cons, List.not_mem_nil, or_false] at hmem
      simp only [priceRecord, hresolved, priceComponent] at h
      rcases hmem with rfl | rfl | rfl
      · simp only [resolveKind_component hkind (by decide), sdkCallPrice] at h
        split at h
        · cases h
        next user huser => exact ⟨_, user, huser⟩
      · simp only [resolveKind_component hkind (by decide), tokenUsagePrice] at h
        split at h
        · cases h
        next user huser => exact ⟨_, user, huser⟩
      · simp only [totalPrice] at h
        split at h
        · cases h
        next user huser => exact ⟨_, user, huser⟩

theorem totalBy_failing {n : Int} {s' : σ} (h : totalBy ask user s = (.ok n, s'))
    (hq : q ∈ queries user .requestPayment) :
    Refused x.queryKind x (totalBy (failing ask q x) user s).1 := by
  simp only [queries, List.mem_cons, List.not_mem_nil, or_false] at hq
  unfold totalBy at h ⊢
  rcases hq with rfl | rfl
  · obtain ⟨f, hf, htold⟩ :=
      owedBy_failing ask (.sdkDebits user) x user EventKind.sdkCall.name s
    rw [hf]
    exact ⟨f, rfl, htold⟩
  · rw [owedBy_failing_of_ne (by simp)]
    rcases hfirst : owedBy ask (.sdkDebits user) user EventKind.sdkCall.name s with ⟨e | m, s₁⟩
    · rw [hfirst] at h
      cases h
    · obtain ⟨f, hf, htold⟩ :=
        owedBy_failing ask (.tokenDebits user) x user EventKind.tokenUsage.name s₁
      simp only [hf]
      exact ⟨f, rfl, htold⟩

theorem totalBy_failing_of_not_mem (hq : q ∉ queries user .requestPayment) :
    totalBy (failing ask q x) user s = totalBy ask user s := by
  simp only [queries, List.mem_cons, List.not_mem_nil, or_false, not_or] at hq
  unfold totalBy
  simp only [owedBy_failing_of_ne (Ne.symm hq.1), owedBy_failing_of_ne (Ne.symm hq.2)]

/-- **A fault of a query is told as a price that failed**, and a fault of any other query is not
met. -/
theorem price_failing {n : Int} {s' : σ} (h : price scheme depth ask submission s = (.ok n, s')) :
    (q ∈ queriesOf scheme submission →
      Refused x.queryKind x (price scheme depth (failing ask q x) submission s).1) ∧
    (q ∉ queriesOf scheme submission →
      price scheme depth (failing ask q x) submission s = price scheme depth ask submission s) := by
  obtain ⟨record, kind, user, hrecord, hkind, huser⟩ := exists_of_price_ok h
  have hqueries : queriesOf scheme submission = queries user kind := by
    simp only [queriesOf, hrecord, hkind, (requireUser_eq_ok.mp (huser "")).2]
  rw [hqueries, price_eq hrecord hkind (huser ""), price_eq hrecord hkind (huser "")]
  rw [price_eq hrecord hkind (huser "")] at h
  have hmem := (acceptedKind_eq_ok.mp hkind).2
  simp only [priceKinds, List.mem_cons, List.not_mem_nil, or_false] at hmem
  rcases hmem with rfl | rfl | rfl
  · exact owedBy_meets
  · exact owedBy_meets
  · exact ⟨totalBy_failing h, totalBy_failing_of_not_mem⟩

end Asking

end Pricing

end UsageLedger
