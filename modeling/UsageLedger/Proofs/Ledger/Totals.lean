/-
A total agrees with its parts.

A total is no query of its own: it asks a dispatcher for the price of one component after the
other and adds up what it is answered.  So two things settle it, whoever the dispatcher is: the
component that is reached first without a price (`addComponents_of_reaches`), and, when there is
none, the prices (`addComponents_eq_ok_iff`).  The dispatcher is asked for components and
nothing else (`addComponents_recording`), which is why the ledger can ask itself
(`priceRecord_payment`) and does not go round in circles.  From stored tables the components
are what the same record is priced at under the other kinds (`priceFrom_eq_parts`).
-/
import UsageLedger.Proofs.Ledger.Limits
import UsageLedger.Proofs.Ledger.QueryFaults

namespace UsageLedger

namespace Pricing

open Intake

section Dispatching

variable {σ : Type} {dispatch other : Asked σ Record Value} {record : Record} {user : UserId}
  {kind : EventKind} {kinds : List EventKind} {total n : Int} {s s₁ s₂ s' : σ}
  {outcome : Except Raised Value}

/-! ### Components one after the other -/

/-- The components of a list are answered with whole numbers, one after the other. -/
inductive Answers (dispatch : Asked σ Record Value) (record : Record) :
    List EventKind → σ → List Int → σ → Prop
  | nil {s : σ} : Answers dispatch record [] s [] s
  | cons {kind : EventKind} {kinds : List EventKind} {n : Int} {ns : List Int} {s s₁ s' : σ} :
      dispatch (retyped record kind) s = (.ok (.int n), s₁) →
      Answers dispatch record kinds s₁ ns s' →
      Answers dispatch record (kind :: kinds) s (n :: ns) s'

/-- A component is reached, in some state, when those before it have prices. -/
inductive Reaches (dispatch : Asked σ Record Value) (record : Record) :
    List EventKind → σ → EventKind → σ → Prop
  | here {kind : EventKind} {kinds : List EventKind} {s : σ} :
      Reaches dispatch record (kind :: kinds) s kind s
  | later {first kind : EventKind} {kinds : List EventKind} {n : Int} {s s₁ s₂ : σ} :
      dispatch (retyped record first) s = (.ok (.int n), s₁) →
      Reaches dispatch record kinds s₁ kind s₂ → Reaches dispatch record (first :: kinds) s kind s₂

/-- What is answered for a component that has no price, as it ends the total. -/
def obstacle? (user : UserId) (kind : EventKind) : Except Raised Value → Option Raised
  | .error e => some e
  | .ok v => match componentPrice user kind v with
    | .error e => some e
    | .ok _ => none

theorem obstacle?_eq_none : obstacle? user kind outcome = none ↔ ∃ n, outcome = .ok (.int n) := by
  rcases outcome with e | v
  · simp [obstacle?]
  · cases v <;> simp [obstacle?, componentPrice, Raised.refuse]

/-- A component with a price is added, and the next one is asked for. -/
theorem addComponents_of_price (h : dispatch (retyped record kind) s = (.ok (.int n), s₁)) :
    addComponents user record dispatch (kind :: kinds) total s
      = addComponents user record dispatch kinds (total + n) s₁ := by
  rw [addComponents, h]
  rfl

/-- A component without a price ends the total, and nothing more is asked for. -/
theorem addComponents_of_obstacle {e : Raised}
    (h : dispatch (retyped record kind) s = (outcome, s₁))
    (hobstacle : obstacle? user kind outcome = some e) :
    addComponents user record dispatch (kind :: kinds) total s = (.error e, s₁) := by
  rw [addComponents, h]
  rcases outcome with e' | v
  · cases hobstacle
    rfl
  · cases hprice : componentPrice user kind v with
    | ok n =>
        simp only [obstacle?, hprice] at hobstacle
        cases hobstacle
    | error e' =>
        simp only [obstacle?, hprice] at hobstacle ⊢
        cases hobstacle
        rfl

/-- **Components that all have prices add up to the sum of these.** -/
theorem addComponents_eq_ok_iff : addComponents user record dispatch kinds total s = (.ok n, s') ↔
    ∃ ns, Answers dispatch record kinds s ns s' ∧ n = total + ns.sum := by
  induction kinds generalizing total s with
  | nil =>
      constructor
      · intro h
        cases h
        exact ⟨[], .nil, by simp⟩
      · rintro ⟨ns, hns, rfl⟩
        cases hns
        simp [addComponents]
  | cons kind kinds ih =>
      obtain ⟨outcome, s₁, hdispatch⟩ : ∃ outcome s₁,
          dispatch (retyped record kind) s = (outcome, s₁) := ⟨_, _, rfl⟩
      cases hobstacle : obstacle? user kind outcome with
      | some e =>
          rw [addComponents_of_obstacle hdispatch hobstacle]
          refine iff_of_false (by simp) ?_
          rintro ⟨ns, hns, -⟩
          cases hns with
          | cons hanswer _ =>
              cases hdispatch.symm.trans hanswer
              cases hobstacle
      | none =>
          obtain ⟨m, rfl⟩ := obstacle?_eq_none.mp hobstacle
          rw [addComponents_of_price hdispatch, ih]
          constructor
          · rintro ⟨ns, hns, rfl⟩
            exact ⟨m :: ns, .cons hdispatch hns, by rw [List.sum_cons, Int.add_assoc]⟩
          · rintro ⟨ns, hns, rfl⟩
            cases hns with
            | @cons _ _ m' ns _ _ _ hanswer hns =>
                cases hdispatch.symm.trans hanswer
                exact ⟨ns, hns, by rw [List.sum_cons, Int.add_assoc]⟩

/-- **The first component without a price is what a total comes to.** -/
theorem addComponents_of_reaches {e : Raised} (h : Reaches dispatch record kinds s kind s₁)
    (hdispatch : dispatch (retyped record kind) s₁ = (outcome, s₂))
    (hobstacle : obstacle? user kind outcome = some e) :
    addComponents user record dispatch kinds total s = (.error e, s₂) := by
  induction h generalizing total with
  | here => exact addComponents_of_obstacle hdispatch hobstacle
  | later hprice _ ih =>
      rw [addComponents_of_price hprice]
      exact ih hdispatch hobstacle

/-- Dispatchers that answer alike for the components have the same total. -/
theorem addComponents_congr
    (h : ∀ kind ∈ kinds, ∀ s, dispatch (retyped record kind) s = other (retyped record kind) s) :
    addComponents user record dispatch kinds total s
      = addComponents user record other kinds total s := by
  induction kinds generalizing total s with
  | nil => rfl
  | cons kind kinds ih =>
      rw [List.forall_mem_cons] at h
      rw [addComponents, addComponents, h.1]
      rcases other (retyped record kind) s with ⟨e | v, s₁⟩
      · rfl
      · dsimp only
        cases componentPrice user kind v with
        | error e => rfl
        | ok n => exact ih h.2

/-! ### What a dispatcher is asked for -/

/-- The dispatcher with a list of the records that it was asked for beside its state. -/
def recording (dispatch : Asked σ Record Value) : Asked (σ × List Record) Record Value :=
  fun record s => ((dispatch record s.1).1, (dispatch record s.1).2, s.2 ++ [record])

/-- **Components are asked for in their order**, each at most once, and nothing else is. -/
theorem addComponents_recording (total : Int) (s : σ) (asked : List Record) :
    ∃ front, front <+: kinds ∧ addComponents user record (recording dispatch) kinds total (s, asked)
      = ((addComponents user record dispatch kinds total s).1,
        (addComponents user record dispatch kinds total s).2,
        asked ++ front.map (retyped record)) := by
  induction kinds generalizing total s asked with
  | nil => exact ⟨[], List.prefix_rfl, by simp [addComponents]⟩
  | cons kind kinds ih =>
      obtain ⟨outcome, s₁, hdispatch⟩ : ∃ outcome s₁,
          dispatch (retyped record kind) s = (outcome, s₁) := ⟨_, _, rfl⟩
      have hrecording : recording dispatch (retyped record kind) (s, asked)
          = (outcome, s₁, asked ++ [retyped record kind]) := by
        rw [recording, hdispatch]
      cases hobstacle : obstacle? user kind outcome with
      | some e =>
          refine ⟨[kind], by simp, ?_⟩
          rw [addComponents_of_obstacle hrecording hobstacle,
            addComponents_of_obstacle hdispatch hobstacle]
          rfl
      | none =>
          obtain ⟨m, rfl⟩ := obstacle?_eq_none.mp hobstacle
          obtain ⟨front, hfront, heq⟩ := ih (total + m) s₁ (asked ++ [retyped record kind])
          refine ⟨kind :: front, List.cons_prefix_cons.mpr ⟨rfl, hfront⟩, ?_⟩
          rw [addComponents_of_price hrecording, addComponents_of_price hdispatch, heq,
            List.append_assoc]
          rfl

end Dispatching

/-! ### Whole totals -/

section Totals

variable {σ : Type} {scheme : IdScheme} {depth : Nat} {dispatch : Asked σ Record Value}
  {ask : Asked σ Query Value} {record : Record} {user : UserId} {label : String} {kind : EventKind}
  {n : Int} {s s₁ s₂ s' : σ} {outcome : Except Raised Value}

theorem totalPrice_of_user (huser : requireUser scheme record label = .ok user) :
    totalPrice scheme record dispatch s
      = (guarded (addComponents user record dispatch components 0 s).1,
        (addComponents user record dispatch components 0 s).2) := by
  rw [totalPrice, requireUser_relabel huser]

/-- A total is a sum exactly when both components are answered with whole numbers. -/
theorem totalPrice_eq_ok_iff (huser : requireUser scheme record label = .ok user) :
    totalPrice scheme record dispatch s = (.ok n, s') ↔ ∃ a b s₁,
      dispatch (retyped record .requestSdkCall) s = (.ok (.int a), s₁) ∧
      dispatch (retyped record .requestTokenUsage) s₁ = (.ok (.int b), s') ∧ n = a + b := by
  have hguarded : totalPrice scheme record dispatch s = (.ok n, s') ↔
      addComponents user record dispatch components 0 s = (.ok n, s') := by
    rw [totalPrice_of_user huser]
    rcases addComponents user record dispatch components 0 s with ⟨e | m, s₁⟩ <;>
      simp [guarded, Except.mapError]
  rw [hguarded, addComponents_eq_ok_iff]
  constructor
  · rintro ⟨ns, hns, rfl⟩
    cases hns with
    | cons hfirst hns =>
        cases hns with
        | cons hsecond hns =>
            cases hns
            exact ⟨_, _, _, hfirst, hsecond, by simp⟩
  · rintro ⟨a, b, s₁, hfirst, hsecond, rfl⟩
    exact ⟨[a, b], .cons hfirst (.cons hsecond .nil), by simp⟩

/-- A component that is reached and has no price is what the total is refused for. -/
theorem totalPrice_of_reaches {e : Raised} (huser : requireUser scheme record label = .ok user)
    (h : Reaches dispatch record components s kind s₁)
    (hdispatch : dispatch (retyped record kind) s₁ = (outcome, s₂))
    (hobstacle : obstacle? user kind outcome = some e) :
    totalPrice scheme record dispatch s = (guarded (.error e), s₂) := by
  rw [totalPrice_of_user huser, addComponents_of_reaches h hdispatch hobstacle]

/-- An answer that is no whole number, or an error that is no refusal, is told as a price that
cannot be had. -/
theorem guarded_obstacle (hvalue : ∀ n, outcome ≠ .ok (.int n))
    (hfailure : ∀ f, outcome ≠ .error (.failure f)) : ∃ e, obstacle? user kind outcome = some e ∧
      ∃ f : Failure, (guarded (.error e) : Except Raised Int) = .error (.failure f) ∧
        f.kind = .priceCalculationFailed := by
  rcases outcome with (f | x) | v
  · exact absurd rfl (hfailure f)
  · exact ⟨_, rfl, _, rfl, rfl⟩
  · cases v with
    | int n => exact absurd rfl (hvalue n)
    | _ => exact ⟨_, rfl, _, rfl, rfl⟩

theorem totalPrice_recording (asked : List Record) : ∃ front, front <+: components ∧
    totalPrice scheme record (recording dispatch) (s, asked)
      = ((totalPrice scheme record dispatch s).1, (totalPrice scheme record dispatch s).2,
        asked ++ front.map (retyped record)) := by
  cases huser : requireUser scheme record EventKind.requestPayment.name with
  | error f =>
      refine ⟨[], List.nil_prefix, ?_⟩
      simp [totalPrice, huser]
  | ok user =>
      obtain ⟨front, hfront, heq⟩ : ∃ front, front <+: components ∧
          addComponents user record (recording dispatch) components 0 (s, asked)
            = ((addComponents user record dispatch components 0 s).1,
              (addComponents user record dispatch components 0 s).2,
              asked ++ front.map (retyped record)) := addComponents_recording 0 s asked
      refine ⟨front, hfront, ?_⟩
      rw [totalPrice_of_user huser, totalPrice_of_user huser, heq]

/-- The ledger as a dispatcher: the price that a record asks for, whatever its kind. -/
def dispatchRecord (scheme : IdScheme) (depth : Nat) (ask : Asked σ Query Value) :
    Asked σ Record Value :=
  fun record s =>
    let (outcome, s) := priceRecord scheme depth ask record s
    (outcome.map Value.int, s)

theorem ne_requestPayment_of_mem_components (h : kind ∈ components) : kind ≠ .requestPayment :=
  (by decide : ∀ kind ∈ components, kind ≠ .requestPayment) kind h

theorem acceptedKind_retyped_priced (h : kind ∈ components) :
    acceptedKind (retyped record kind) priceKinds = .ok kind := by
  refine acceptedKind_eq_ok.mpr ⟨(acceptedKind_eq_ok.mp (acceptedKind_retyped h)).1, ?_⟩
  exact (by decide : ∀ kind ∈ components, kind ∈ priceKinds) kind h

/-- **The total is composed by the ledger itself**, which is asked again for each component. -/
theorem priceRecord_payment (hkind : acceptedKind record priceKinds = .ok .requestPayment) :
    priceRecord scheme depth ask record s
      = totalPrice scheme record (dispatchRecord scheme depth ask) s := by
  have hagain : ∀ kind ∈ components, ∀ s, dispatchComponent scheme depth ask (retyped record kind) s
      = dispatchRecord scheme depth ask (retyped record kind) s := by
    intro kind hmem s
    have hnot := ne_requestPayment_of_mem_components hmem
    unfold dispatchComponent dispatchRecord priceRecord
    rw [resolveKind_eq_ok.mpr (acceptedKind_retyped_priced hmem)]
    cases kind with
    | requestPayment => exact absurd rfl hnot
    | _ => rfl
  have htotal : priceRecord scheme depth ask record s
      = totalPrice scheme record (dispatchComponent scheme depth ask) s := by
    rw [priceRecord, resolveKind_eq_ok.mpr hkind]
  rw [htotal, totalPrice, totalPrice]
  cases requireUser scheme record EventKind.requestPayment.name with
  | error f => rfl
  | ok user =>
      dsimp only
      rw [addComponents_congr hagain]

end Totals

/-! ### Totals of stored tables -/

theorem guarded_guarded {α : Type} (outcome : Except Raised α) :
    guarded (guarded outcome) = guarded outcome := by
  rcases outcome with (f | x) | a <;> rfl

theorem guarded_bind {α β : Type} (outcome : Except Raised α) (next : α → Except Raised β) :
    guarded (outcome >>= next) = guarded outcome >>= fun a => guarded (next a) := by
  rcases outcome with e | a <;> rfl

section Stored

variable {scheme : IdScheme} {depth : Nat} {t : Tables} {submission : Submission}
  {record : Record} {user : UserId} {label : String} {kind : EventKind}

/-- The price that a record asks for when it is submitted as a record of some kind. -/
def priceAs (scheme : IdScheme) (depth : Nat) (t : Tables) (record : Record) (kind : EventKind) :
    Except Raised Int :=
  priceFrom scheme depth t (.envelope (Event.wrap (record.set Event.typeKey (.text kind.name))))

/-- A record names the same user under every kind. -/
theorem requireUser_set_type : requireUser scheme (record.set Event.typeKey (.text kind.name)) label
    = .ok user ↔ requireUser scheme record label = .ok user := by
  have hsame : (record.set Event.typeKey (.text kind.name)).get userKey = record.get userKey :=
    Record.get_set_of_ne (by decide)
  rw [requireUser_eq_ok, requireUser_eq_ok, hsame]

theorem acceptedKind_set_type (hkind : kind ∈ priceKinds) :
    acceptedKind (record.set Event.typeKey (.text kind.name)) priceKinds = .ok kind := by
  rw [acceptedKind_eq_ok, Record.get_set_self]
  exact ⟨EventKind.ofName?_name kind, hkind⟩

theorem priceAs_sdkCall (huser : requireUser scheme record label = .ok user) :
    priceAs scheme depth t record .requestSdkCall
      = owed t (.sdkDebits user) user EventKind.sdkCall.name :=
  priceFrom_sdkCall rfl (acceptedKind_set_type (by decide)) (requireUser_set_type.mpr huser)

theorem priceAs_tokenUsage (huser : requireUser scheme record label = .ok user) :
    priceAs scheme depth t record .requestTokenUsage
      = owed t (.tokenDebits user) user EventKind.tokenUsage.name :=
  priceFrom_tokenUsage rfl (acceptedKind_set_type (by decide)) (requireUser_set_type.mpr huser)

/-- **The total of a user is made of the prices of the same record under the other kinds.** -/
theorem priceFrom_eq_parts (hrecord : unwrap submission = .ok record)
    (hkind : acceptedKind record priceKinds = .ok .requestPayment)
    (huser : requireUser scheme record label = .ok user) :
    priceFrom scheme depth t submission = do
      let a ← priceAs scheme depth t record .requestSdkCall
      let b ← priceAs scheme depth t record .requestTokenUsage
      return a + b := by
  rw [priceFrom_payment hrecord hkind huser, priceAs_sdkCall huser, priceAs_tokenUsage huser,
    guarded_bind, owed, guarded_guarded]
  refine bind_congr fun a => ?_
  rw [guarded_bind, owed, guarded_guarded]
  rfl

/-- A price of a kind is had by those alone whose record names a user. -/
theorem exists_user_of_priceAs {n : Int} (h : priceAs scheme depth t record kind = .ok n) :
    ∃ user, ∀ label, requireUser scheme record label = .ok user := by
  obtain ⟨record', -, user, hrecord, -, huser⟩ := exists_of_price_ok (Prod.ext h rfl)
  cases hrecord
  exact ⟨user, fun label => requireUser_set_type.mp (huser label)⟩

theorem priceFrom_eq_ok_iff_parts {n : Int} (hrecord : unwrap submission = .ok record)
    (hkind : acceptedKind record priceKinds = .ok .requestPayment) :
    priceFrom scheme depth t submission = .ok n ↔ ∃ a b,
      priceAs scheme depth t record .requestSdkCall = .ok a ∧
      priceAs scheme depth t record .requestTokenUsage = .ok b ∧ n = a + b := by
  constructor
  · intro h
    obtain ⟨record', -, user, hrecord', -, huser⟩ := exists_of_price_ok (Prod.ext h rfl)
    cases hrecord.symm.trans hrecord'
    rw [priceFrom_eq_parts hrecord hkind (huser "")] at h
    obtain ⟨a, ha, h⟩ := bind_eq_ok.mp h
    obtain ⟨b, hb, h⟩ := bind_eq_ok.mp h
    cases h
    exact ⟨a, b, ha, hb, rfl⟩
  · rintro ⟨a, b, ha, hb, rfl⟩
    obtain ⟨user, huser⟩ := exists_user_of_priceAs ha
    rw [priceFrom_eq_parts hrecord hkind (huser ""), ha, hb]
    rfl

theorem priceFrom_eq_error_iff_parts {e : Raised} (hrecord : unwrap submission = .ok record)
    (hkind : acceptedKind record priceKinds = .ok .requestPayment)
    (huser : requireUser scheme record label = .ok user) :
    priceFrom scheme depth t submission = .error e ↔
      priceAs scheme depth t record .requestSdkCall = .error e ∨
        ∃ a, priceAs scheme depth t record .requestSdkCall = .ok a ∧
          priceAs scheme depth t record .requestTokenUsage = .error e := by
  rw [priceFrom_eq_parts hrecord hkind huser, bind_eq_error]
  refine or_congr_right (exists_congr fun a => and_congr_right fun _ => ?_)
  rw [bind_eq_error]
  exact or_iff_left (by rintro ⟨b, -, h⟩; cases h)

end Stored

end Pricing

namespace Ledger

open Intake Pricing

/-- **A total agrees with its parts in every outcome.**  From stored tables it is a price exactly
when both parts are, then their sum, and for a valid user it is otherwise the error of the first
part that has no price.  Whoever else is dispatched to, two whole numbers are added, a failure is
passed on and everything else becomes one; only the two components are dispatched, and the ledger
dispatches to itself. -/
theorem total_agrees_with_parts (scheme : IdScheme) (depth : Nat) :
    (∀ (t : Tables) {submission : Submission} {record : Record},
      unwrap submission = .ok record → acceptedKind record priceKinds = .ok .requestPayment →
      (∀ n, priceFrom scheme depth t submission = .ok n ↔ ∃ a b,
        priceAs scheme depth t record .requestSdkCall = .ok a ∧
        priceAs scheme depth t record .requestTokenUsage = .ok b ∧ n = a + b) ∧
      ∀ {label : String} {user : UserId}, requireUser scheme record label = .ok user →
        ∀ e, priceFrom scheme depth t submission = .error e ↔
          priceAs scheme depth t record .requestSdkCall = .error e ∨
            ∃ a, priceAs scheme depth t record .requestSdkCall = .ok a ∧
              priceAs scheme depth t record .requestTokenUsage = .error e) ∧
    (∀ {σ : Type} (dispatch : Asked σ Record Value) (s : σ) {record : Record} {label : String}
      {user : UserId}, requireUser scheme record label = .ok user →
      (∀ n s', totalPrice scheme record dispatch s = (.ok n, s') ↔ ∃ a b s₁,
        dispatch (retyped record .requestSdkCall) s = (.ok (.int a), s₁) ∧
        dispatch (retyped record .requestTokenUsage) s₁ = (.ok (.int b), s') ∧ n = a + b) ∧
      (∀ {kind : EventKind} {s₁ s₂ : σ} {outcome : Except Raised Value},
        Reaches dispatch record components s kind s₁ →
        dispatch (retyped record kind) s₁ = (outcome, s₂) →
        (∀ f, outcome = .error (.failure f) →
          totalPrice scheme record dispatch s = (.error (.failure f), s₂)) ∧
        ((∀ n, outcome ≠ .ok (.int n)) → (∀ f, outcome ≠ .error (.failure f)) →
          ∃ f : Failure, totalPrice scheme record dispatch s = (.error (.failure f), s₂) ∧
            f.kind = .priceCalculationFailed)) ∧
      ∀ asked, ∃ front, front <+: [.requestSdkCall, .requestTokenUsage] ∧
        totalPrice scheme record (recording dispatch) (s, asked)
          = ((totalPrice scheme record dispatch s).1, (totalPrice scheme record dispatch s).2,
            asked ++ front.map (retyped record)) ∧
        ∀ kind ∈ front, kind ≠ .requestPayment ∧
          acceptedKind (retyped record kind) priceKinds = .ok kind) ∧
    ∀ {σ : Type} (ask : Asked σ Query Value) (s : σ) {record : Record},
      acceptedKind record priceKinds = .ok .requestPayment →
      priceRecord scheme depth ask record s
        = totalPrice scheme record (dispatchRecord scheme depth ask) s := by
  refine ⟨fun t submission record hrecord hkind => ?_, fun dispatch s record label user huser => ?_,
    fun ask s record hkind => priceRecord_payment hkind⟩
  · exact ⟨fun n => priceFrom_eq_ok_iff_parts hrecord hkind,
      fun huser e => priceFrom_eq_error_iff_parts hrecord hkind huser⟩
  · refine ⟨fun n s' => totalPrice_eq_ok_iff huser, fun hreaches hdispatch => ⟨?_, ?_⟩,
      fun asked => ?_⟩
    · rintro f rfl
      exact totalPrice_of_reaches huser hreaches hdispatch rfl
    · intro hvalue hfailure
      obtain ⟨e, hobstacle, f, htold, hprice⟩ := guarded_obstacle hvalue hfailure
      refine ⟨f, ?_, hprice⟩
      rw [totalPrice_of_reaches huser hreaches hdispatch hobstacle, htold]
    · obtain ⟨front, hfront, hasked⟩ := totalPrice_recording asked
      refine ⟨front, hfront, hasked, fun kind hmem => ?_⟩
      have hcomponent : kind ∈ components := hfront.subset hmem
      exact ⟨ne_requestPayment_of_mem_components hcomponent, acceptedKind_retyped_priced hcomponent⟩

namespace Sample

/-- A question what user 7 owes, with the user spelt at length and a key that nothing reads. -/
def inquiry : Record :=
  [(Event.typeKey, .text EventKind.requestPayment.name), (userKey, .text " +007"),
    ("note", .bool true)]

/-- A dispatcher that gives answers from a list, one after the other. -/
def scripted : Asked (List (Except Raised Value)) Record Value := fun _ answers =>
  match answers with
  | [] => (.ok .null, [])
  | answer :: rest => (answer, rest)

end Sample

/-- A total of two parts, one whose first part overflows, and dispatchers that answer with two
numbers, with a boolean, with a failure, and with a fault after a number. -/
theorem total_agrees_with_parts_sample :
    let asked : Submission := .envelope (Event.wrap Sample.inquiry)
    let overflown := Raised.refuse (.sumOverflow EventKind.sdkCall.name (.number 7))
    let gone : Fault := .runtime "connection lost"
    priceFrom .bigint Conditions.usualDepth (runCalls .bigint Sample.charged Tables.empty) asked
      = .ok 47 ∧
    priceFrom .bigint Conditions.usualDepth (runCalls .bigint (Sample.extreme 0) Tables.empty) asked
      = overflown ∧
    totalPrice .bigint Sample.inquiry Sample.scripted [.ok (.int 2), .ok (.int (-5))]
      = (.ok (-3), []) ∧
    (∃ f : Failure, totalPrice .bigint Sample.inquiry Sample.scripted [.ok (.bool true)]
      = (.error (.failure f), []) ∧ f.kind = .priceCalculationFailed) ∧
    totalPrice .bigint Sample.inquiry Sample.scripted
        [.error (.failure .missingRecord), .ok (.int 1)]
      = (.error (.failure .missingRecord), [.ok (.int 1)]) ∧
    (∃ f : Failure, totalPrice .bigint Sample.inquiry Sample.scripted
      [.ok (.int 1), .error (.fault gone)] = (.error (.failure f), []) ∧
      f.kind = .priceCalculationFailed) ∧
    (∃ front, front <+: [.requestSdkCall, .requestTokenUsage] ∧
      totalPrice .bigint Sample.inquiry (recording Sample.scripted) ([.ok .null], [])
        = ((totalPrice .bigint Sample.inquiry Sample.scripted [.ok .null]).1,
          (totalPrice .bigint Sample.inquiry Sample.scripted [.ok .null]).2,
          [] ++ front.map (retyped Sample.inquiry)) ∧
      ∀ kind ∈ front, kind ≠ .requestPayment ∧
        acceptedKind (retyped Sample.inquiry kind) priceKinds = .ok kind) ∧
    priceRecord .bigint Conditions.usualDepth (askTables Tables.empty) Sample.inquiry ()
      = totalPrice .bigint Sample.inquiry
        (dispatchRecord .bigint Conditions.usualDepth (askTables Tables.empty)) () := by
  intro asked overflown gone
  have hrecord : unwrap asked = .ok Sample.inquiry := rfl
  have hkind : acceptedKind Sample.inquiry priceKinds = .ok .requestPayment := rfl
  have huser : requireUser .bigint Sample.inquiry "" = .ok (.number 7) := rfl
  have hboolean : Sample.scripted (retyped Sample.inquiry .requestSdkCall) [.ok (.bool true)]
      = (.ok (.bool true), []) := rfl
  have hgone : Sample.scripted (retyped Sample.inquiry .requestTokenUsage) [.error (.fault gone)]
      = (.error (.fault gone), []) := rfl
  obtain ⟨hstored, hdispatched, hagain⟩ := total_agrees_with_parts .bigint Conditions.usualDepth
  have hcharged := hstored (runCalls .bigint Sample.charged Tables.empty) hrecord hkind
  have hextreme := hstored (runCalls .bigint (Sample.extreme 0) Tables.empty) hrecord hkind
  have hconsistent : Consistent (runCalls .bigint Sample.charged Tables.empty) :=
    consistent_runCalls Sample.charged consistent_empty
  have hsdk : (runCalls .bigint Sample.charged Tables.empty).sdkAmounts (.number 7) = [30] := by
    decide +kernel
  have husage : (runCalls .bigint Sample.charged Tables.empty).tokenAmounts (.number 7) = [17] := by
    decide +kernel
  have hdebits : (runCalls .bigint (Sample.extreme 0) Tables.empty).sdkAmounts (.number 7)
      = [int64Max, 1, -1] := by decide +kernel
  refine ⟨(hcharged.1 47).mpr ⟨30, 17, ?_, ?_, rfl⟩, (hextreme.2 huser _).mpr (.inl ?_),
    ((hdispatched Sample.scripted _ huser).1 _ _).mpr ⟨2, -5, _, rfl, rfl, rfl⟩,
    ((hdispatched Sample.scripted _ huser).2.1 .here hboolean).2 (by simp) (by simp),
    ((hdispatched Sample.scripted _ huser).2.1 .here rfl).1 _ rfl,
    ((hdispatched Sample.scripted _ huser).2.1 (.later rfl .here) hgone).2 (by simp) (by simp),
    (hdispatched Sample.scripted _ huser).2.2 [], hagain _ () hkind⟩
  · rw [priceAs_sdkCall huser, ← (List.sum_singleton : [(30 : Int)].sum = 30), ← hsdk]
    exact hconsistent.owed_sdkDebits.1 (hsdk ▸ runningTotalsFit_of_nonneg (by simp) (by decide))
  · rw [priceAs_tokenUsage huser, ← (List.sum_singleton : [(17 : Int)].sum = 17), ← husage]
    exact hconsistent.owed_tokenDebits.1 (husage ▸ by decide)
  · rw [priceAs_sdkCall huser]
    have hover : ¬ RunningTotalsFit [int64Max, 1, -1] := fun hfits => absurd (hfits 2) (by decide)
    exact (consistent_runCalls _ consistent_empty).owed_sdkDebits.2 (hdebits ▸ hover)

end Ledger

end UsageLedger
