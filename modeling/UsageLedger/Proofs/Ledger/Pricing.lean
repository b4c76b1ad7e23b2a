/-
Prices are answers of queries.

A request names a user, and its price is read from the sum that the database answers for
this user.  The total asks for the two sums under a record whose kind and payload were
set, which leaves the user as it was, so it is the sum of the two prices.  Kind and user
settle which queries are asked, whoever answers them (`price_eq`).
-/
import UsageLedger.Ledger.Pricing
import UsageLedger.Proofs.Intake.Wording
import UsageLedger.Proofs.Value.Record

namespace UsageLedger

namespace Intake

theorem requireUser_eq_ok {scheme : IdScheme} {record : Record} {label : String} {user : UserId} :
    requireUser scheme record label = .ok user ↔
      saysNothing (record.get userKey) = false ∧
        UserId.parse scheme (record.get userKey) = .ok user := by
  unfold requireUser
  dsimp only
  cases saysNothing (record.get userKey) with
  | true => simp
  | false => simp [mapError_eq_ok]

/-- The label of a check only tells in its refusals. -/
theorem requireUser_relabel {scheme : IdScheme} {record : Record} {label : String} {user : UserId}
    (h : requireUser scheme record label = .ok user) (other : String) :
    requireUser scheme record other = .ok user :=
  requireUser_eq_ok.mpr (requireUser_eq_ok.mp h)

end Intake

namespace Pricing

open Intake

variable {scheme : IdScheme} {depth : Nat} {t : Tables} {submission : Submission}
  {record : Record} {kind : EventKind} {user : UserId} {label : String} {v : Value} {n : Int}

/-- The record of a component names the user that the record of the total names. -/
theorem requireUser_retyped (kind : EventKind) (h : requireUser scheme record label = .ok user)
    (other : String) : requireUser scheme (retyped record kind) other = .ok user := by
  have hsame : (retyped record kind).get userKey = record.get userKey := by
    rw [retyped, Record.get_set_of_ne (by decide), Record.get_set_of_ne (by decide)]
  rw [requireUser_eq_ok, hsame]
  exact requireUser_eq_ok.mp h

theorem acceptedKind_retyped (h : kind ∈ components) :
    acceptedKind (retyped record kind) components = .ok kind := by
  rw [acceptedKind_eq_ok, retyped, Record.get_set_of_ne (by decide), Record.get_set_self]
  exact ⟨EventKind.ofName?_name kind, h⟩

section Asking

variable {σ : Type} {ask : Asked σ Query Value} {s : σ}

/-- What is owed by the answer to one query, and the state after it was asked. -/
def owedBy (ask : Asked σ Query Value) (query : Query) (user : UserId) (label : String) (s : σ) :
    Except Raised Int × σ :=
  let (outcome, s) := sumFor ask query user label s
  (guarded outcome, s)

theorem sdkCallPrice_eq (huser : requireUser scheme record label = .ok user) :
    sdkCallPrice scheme ask record s
      = owedBy ask (.sdkDebits user) user EventKind.sdkCall.name s := by
  rw [sdkCallPrice, requireUser_relabel huser]
  rfl

theorem tokenUsagePrice_eq (huser : requireUser scheme record label = .ok user) :
    tokenUsagePrice scheme ask record s
      = owedBy ask (.tokenDebits user) user EventKind.tokenUsage.name s := by
  rw [tokenUsagePrice, requireUser_relabel huser]
  rfl

/-- The sum of what is owed by the two answers; the second is not asked for without the first. -/
def totalBy (ask : Asked σ Query Value) (user : UserId) (s : σ) : Except Raised Int × σ :=
  match owedBy ask (.sdkDebits user) user EventKind.sdkCall.name s with
  | (.error e, s) => (guarded (.error e), s)
  | (.ok m, s) =>
    match owedBy ask (.tokenDebits user) user EventKind.tokenUsage.name s with
    | (.error e, s) => (guarded (.error e), s)
    | (.ok n, s) => (.ok (0 + m + n), s)

theorem totalPrice_eq (huser : requireUser scheme record label = .ok user) :
    totalPrice scheme record (dispatchComponent scheme depth ask) s = totalBy ask user s := by
  have hsdk : resolveKind depth (retyped record .requestSdkCall) components = .ok .requestSdkCall :=
    resolveKind_eq_ok.mpr (acceptedKind_retyped (by decide))
  have husage : resolveKind depth (retyped record .requestTokenUsage) components
      = .ok .requestTokenUsage := resolveKind_eq_ok.mpr (acceptedKind_retyped (by decide))
  have hfirst : ∀ s, dispatchComponent scheme depth ask (retyped record .requestSdkCall) s
      = let (outcome, s) := owedBy ask (.sdkDebits user) user EventKind.sdkCall.name s
        (outcome.map Value.int, s) := by
    intro s
    simp only [dispatchComponent, priceComponent, hsdk,
      sdkCallPrice_eq (requireUser_retyped _ huser label)]
  have hsecond : ∀ s, dispatchComponent scheme depth ask (retyped record .requestTokenUsage) s
      = let (outcome, s) := owedBy ask (.tokenDebits user) user EventKind.tokenUsage.name s
        (outcome.map Value.int, s) := by
    intro s
    simp only [dispatchComponent, priceComponent, husage,
      tokenUsagePrice_eq (requireUser_retyped _ huser label)]
  simp only [totalPrice, requireUser_relabel huser, components, addComponents, hfirst, totalBy]
  rcases owedBy ask (.sdkDebits user) user EventKind.sdkCall.name s with ⟨e | m, s₁⟩
  · rfl
  · simp only [Except.map, componentPrice, hsecond]
    rcases owedBy ask (.tokenDebits user) user EventKind.tokenUsage.name s₁ with ⟨e | n, s₂⟩ <;> rfl

/-- The price of a kind for a user, from the answers of its queries. -/
def priceBy (ask : Asked σ Query Value) (user : UserId) (kind : EventKind) (s : σ) :
    Except Raised Int × σ :=
  match kind with
  | .requestSdkCall => owedBy ask (.sdkDebits user) user EventKind.sdkCall.name s
  | .requestTokenUsage => owedBy ask (.tokenDebits user) user EventKind.tokenUsage.name s
  | _ => totalBy ask user s

theorem resolveKind_component (hkind : acceptedKind record priceKinds = .ok kind)
    (hcomponent : kind ∈ components) : resolveKind depth record components = .ok kind :=
  resolveKind_eq_ok.mpr (acceptedKind_eq_ok.mpr ⟨(acceptedKind_eq_ok.mp hkind).1, hcomponent⟩)

theorem price_eq (hrecord : unwrap submission = .ok record)
    (hkind : acceptedKind record priceKinds = .ok kind)
    (huser : requireUser scheme record label = .ok user) :
    price scheme depth ask submission s = priceBy ask user kind s := by
  have hmem := (acceptedKind_eq_ok.mp hkind).2
  simp only [priceKinds, List.mem_cons, List.not_mem_nil, or_false] at hmem
  have hcomponent : kind ∈ components → resolveKind depth record components = .ok kind :=
    resolveKind_component hkind
  simp only [price, hrecord, priceRecord, resolveKind_eq_ok.mpr hkind, priceComponent]
  rcases hmem with rfl | rfl | rfl
  · simp only [hcomponent (by decide)]
    exact sdkCallPrice_eq huser
  · simp only [hcomponent (by decide)]
    exact tokenUsagePrice_eq huser
  · exact totalPrice_eq huser

end Asking

/-- What is owed by the answer to one query. -/
def owed (t : Tables) (query : Query) (user : UserId) (label : String) : Except Raised Int :=
  guarded (sumFor (askTables t) query user label ()).1

theorem owed_ok {query : Query} (hanswer : t.answer query = .ok v)
    (hv : parsePrice v user.toValue = .ok n) : owed t query user label = .ok n := by
  simp only [owed, sumFor, askTables, hanswer, Except.mapError, hv, Raised.ofFailure, guarded]

/-- An error of the database is a failed query. -/
theorem owed_error {query : Query} {e : DatabaseError} (hanswer : t.answer query = .error e) :
    owed t query user label = Raised.refuse (.query label user (.database e)) := by
  simp only [owed, sumFor, askTables, hanswer, Except.mapError, Raised.refuse, guarded]

theorem owedBy_askTables {query : Query} :
    owedBy (askTables t) query user label () = (owed t query user label, ()) := rfl

theorem total_askTables : (totalBy (askTables t) user ()).1 = guarded (do
    let m ← owed t (.sdkDebits user) user EventKind.sdkCall.name
    let n ← owed t (.tokenDebits user) user EventKind.tokenUsage.name
    return m + n) := by
  unfold totalBy
  rw [owedBy_askTables]
  cases owed t (.sdkDebits user) user EventKind.sdkCall.name with
  | error e => rfl
  | ok m =>
      simp only [owedBy_askTables]
      cases owed t (.tokenDebits user) user EventKind.tokenUsage.name with
      | error e => rfl
      | ok n =>
          show Except.ok (0 + m + n) = Except.ok (m + n)
          rw [Int.zero_add]

/-- The price of SDK calls is what the database answers. -/
theorem priceFrom_sdkCall (hrecord : unwrap submission = .ok record)
    (hkind : acceptedKind record priceKinds = .ok .requestSdkCall)
    (huser : requireUser scheme record label = .ok user) :
    priceFrom scheme depth t submission = owed t (.sdkDebits user) user EventKind.sdkCall.name := by
  rw [priceFrom, price_eq hrecord hkind huser]
  rfl

/-- The price of token usage is what the database answers. -/
theorem priceFrom_tokenUsage (hrecord : unwrap submission = .ok record)
    (hkind : acceptedKind record priceKinds = .ok .requestTokenUsage)
    (huser : requireUser scheme record label = .ok user) :
    priceFrom scheme depth t submission
      = owed t (.tokenDebits user) user EventKind.tokenUsage.name := by
  rw [priceFrom, price_eq hrecord hkind huser]
  rfl

/-- The total is the sum of the two prices, and has no price when one of them has none. -/
theorem priceFrom_payment (hrecord : unwrap submission = .ok record)
    (hkind : acceptedKind record priceKinds = .ok .requestPayment)
    (huser : requireUser scheme record label = .ok user) :
    priceFrom scheme depth t submission = guarded (do
      let m ← owed t (.sdkDebits user) user EventKind.sdkCall.name
      let n ← owed t (.tokenDebits user) user EventKind.tokenUsage.name
      return m + n) := by
  rw [priceFrom, price_eq hrecord hkind huser]
  exact total_askTables

end Pricing

end UsageLedger
