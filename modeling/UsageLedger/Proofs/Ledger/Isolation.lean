/-
Users are isolated from each other.

A run concerns a user by the calls that name the user and by the grants of keys.  A call
that does neither stores no key and only events of other users, so it leaves the tables in
agreement with what they were, on the identifiers of the user (`Alike.after_other`).  A call
of concern cannot tell such tables apart (`Alike.after_concern`).  So whatever else is called,
a run is to the user like the run of the calls of concern alone (`alike_concerns`), and two
runs with the same calls of concern are alike (`users_isolated`).
-/
import UsageLedger.Proofs.Ledger.Alike
import UsageLedger.Proofs.Ledger.Draws

namespace UsageLedger

/-! ### What belongs to a user -/

/-- The events that name a user and their particulars, each in the order of their table. -/
structure Holdings where
  events : List EventRow
  sdkCalls : List SdkCallRow
  payments : List PaymentRow
  tokenUsages : List TokenUsageRow
  deriving DecidableEq, Repr

namespace Tables

variable {S : Uuid → Bool} {user : UserId} {t t₁ t₂ : Tables}

/-- What belongs to a user. -/
def holdings (t : Tables) (user : UserId) : Holdings where
  events := t.events.filter fun e => e.user = some user.toCell
  sdkCalls := t.sdkCalls.filter fun row => row.id ∈ t.eventsOf user
  payments := t.payments.filter fun row => row.id ∈ t.eventsOf user
  tokenUsages := t.tokenUsages.filter fun row => row.id ∈ t.eventsOf user

/-- The events of a user come under identifiers of a set. -/
def Within (t : Tables) (S : Uuid → Bool) (user : UserId) : Prop :=
  ∀ e ∈ t.events, e.user = some user.toCell → S e.id = true

/-- The tables agree on a set, and it has the events of a user in both. -/
structure Alike (S : Uuid → Bool) (user : UserId) (t₁ t₂ : Tables) : Prop where
  agree : t₁.AgreeOn S t₂
  first : t₁.Within S user
  second : t₂.Within S user

namespace Alike

theorem symm (h : Alike S user t₁ t₂) : Alike S user t₂ t₁ := ⟨h.agree.symm, h.second, h.first⟩

theorem trans {t₃ : Tables} (h : Alike S user t₁ t₂) (h' : Alike S user t₂ t₃) :
    Alike S user t₁ t₃ :=
  ⟨h.agree.trans h'.agree, h.first, h'.second⟩

theorem events (h : Alike S user t₁ t₂) :
    t₁.events.filter (fun e => e.user = some user.toCell)
      = t₂.events.filter fun e => e.user = some user.toCell := by
  have hwithin : ∀ {t : Tables}, t.Within S user →
      t.events.filter (fun e => e.user = some user.toCell)
        = (t.events.filter fun e => S e.id).filter fun e => e.user = some user.toCell := by
    intro t ht
    rw [List.filter_filter]
    apply List.filter_congr
    intro e he
    by_cases hname : e.user = some user.toCell
    · simp [hname, ht e he hname]
    · simp [hname]
  rw [hwithin h.first, hwithin h.second, h.agree.events]

theorem eventsOf (h : Alike S user t₁ t₂) : t₁.eventsOf user = t₂.eventsOf user :=
  congrArg (List.map fun e : EventRow => e.id) h.events

theorem mem_eventsOf (h : Alike S user t₁ t₂) {id : Uuid} (hid : id ∈ t₁.eventsOf user) :
    S id = true := by
  obtain ⟨e, he, rfl⟩ := List.mem_map.mp hid
  obtain ⟨hmem, hname⟩ := List.mem_filter.mp he
  exact h.first e hmem (of_decide_eq_true hname)

/-- Particulars that agree on the set agree on the events of the user. -/
theorem particulars {ρ : Type} {ident : ρ → Uuid} {rows₁ rows₂ : List ρ}
    (h : Alike S user t₁ t₂)
    (hrows : rows₁.filter (fun row => S (ident row)) = rows₂.filter fun row => S (ident row)) :
    rows₁.filter (fun row => ident row ∈ t₁.eventsOf user)
      = rows₂.filter fun row => ident row ∈ t₂.eventsOf user := by
  have hwithin : ∀ rows : List ρ, rows.filter (fun row => ident row ∈ t₁.eventsOf user)
      = (rows.filter fun row => S (ident row)).filter fun row => ident row ∈ t₁.eventsOf user := by
    intro rows
    rw [List.filter_filter]
    apply List.filter_congr
    intro row _
    by_cases hid : ident row ∈ t₁.eventsOf user
    · simp [hid, h.mem_eventsOf hid]
    · simp [hid]
  rw [← h.eventsOf, hwithin, hwithin rows₂, hrows]

theorem holdings (h : Alike S user t₁ t₂) : t₁.holdings user = t₂.holdings user := by
  unfold Tables.holdings
  rw [h.events, h.particulars h.agree.sdkCalls, h.particulars h.agree.payments,
    h.particulars h.agree.tokenUsages]

/-- What the database answers about the user is the same. -/
theorem answer (h : Alike S user t₁ t₂) :
    t₁.answer (.sdkDebits user) = t₂.answer (.sdkDebits user) ∧
      t₁.answer (.tokenDebits user) = t₂.answer (.tokenDebits user) := by
  have hsdk : t₁.sdkDebits user = t₂.sdkDebits user := by
    unfold sdkDebits
    rw [← h.eventsOf]
    apply List.filterMap_congr
    intro id hid
    rw [find?_of_filter (h.mem_eventsOf hid) h.agree.sdkCalls]
  have htoken : t₁.tokenDebits user = t₂.tokenDebits user := by
    unfold tokenDebits
    rw [← h.eventsOf]
    apply List.filterMap_congr
    intro id hid
    rw [find?_of_filter (h.mem_eventsOf hid) h.agree.tokenUsages]
  constructor
  · simp only [Tables.answer, hsdk]
  · simp only [Tables.answer, htoken]

end Alike

end Tables

/-! ### What is asked about a user -/

namespace Pricing

open Intake

/-- The submission asks for a price of the user. -/
def Asks (scheme : IdScheme) (user : UserId) (submission : Submission) : Prop :=
  ∃ record kind, unwrap submission = .ok record ∧ acceptedKind record priceKinds = .ok kind ∧
    requireUser scheme record kind.name = .ok user

theorem owed_congr {t₁ t₂ : Tables} {query : Query} {user : UserId} {label : String}
    (h : t₁.answer query = t₂.answer query) :
    owed t₁ query user label = owed t₂ query user label := by
  simp only [owed, sumFor, askTables, h]

/-- A price depends on what the database answers about the user. -/
theorem priceFrom_congr {scheme : IdScheme} {depth : Nat} {user : UserId}
    {submission : Submission} {t₁ t₂ : Tables} (hasks : Asks scheme user submission)
    (hsdk : t₁.answer (.sdkDebits user) = t₂.answer (.sdkDebits user))
    (htoken : t₁.answer (.tokenDebits user) = t₂.answer (.tokenDebits user)) :
    priceFrom scheme depth t₁ submission = priceFrom scheme depth t₂ submission := by
  obtain ⟨record, kind, hrecord, hkind, huser⟩ := hasks
  have hmem : kind ∈ priceKinds := (acceptedKind_eq_ok.mp hkind).2
  have hcases : kind = .requestSdkCall ∨ kind = .requestTokenUsage ∨ kind = .requestPayment := by
    simpa [priceKinds] using hmem
  rcases hcases with rfl | rfl | rfl
  · rw [priceFrom_sdkCall hrecord hkind huser, priceFrom_sdkCall hrecord hkind huser,
      owed_congr hsdk]
  · rw [priceFrom_tokenUsage hrecord hkind huser, priceFrom_tokenUsage hrecord hkind huser,
      owed_congr htoken]
  · rw [priceFrom_payment hrecord hkind huser, priceFrom_payment hrecord hkind huser,
      owed_congr hsdk, owed_congr htoken]

end Pricing

/-! ### Calls of concern -/

namespace Ledger

open Intake

variable {scheme : IdScheme} {user : UserId}

/-- A record of the call names the user. -/
def Call.names (scheme : IdScheme) (user : UserId) (call : Call) : Bool :=
  call.records.any fun record =>
    (UserId.parse scheme (record.get userKey)).toOption = some user

/-- The call grants a key. -/
def Call.grants : Call → Bool
  | .add submission _ =>
    match unwrap submission with
    | .ok record => (acceptedKind record writeKinds).toOption = some .addKey
    | .error _ => false
  | .addBatch _ _ => false

/-- The call names the user or grants a key. -/
def concerns (scheme : IdScheme) (user : UserId) (call : Circumstances × Call) : Bool :=
  call.2.names scheme user || call.2.grants

theorem names_of_record {call : Call} {record : Record} {label : String}
    (hrecord : record ∈ call.records) (huser : requireUser scheme record label = .ok user) :
    call.names scheme user = true := by
  refine List.any_eq_true.mpr ⟨record, hrecord, ?_⟩
  rw [(requireUser_eq_ok.mp huser).2]
  exact decide_eq_true rfl

theorem records_pos_of_names {call : Call} (h : call.names scheme user = true) :
    0 < call.records.length := by
  obtain ⟨record, hrecord, -⟩ := List.any_eq_true.mp h
  exact List.length_pos_of_mem hrecord

theorem records_pos_of_concerns {call : Circumstances × Call}
    (h : concerns scheme user call = true) : 0 < call.2.records.length := by
  rcases Bool.or_eq_true_iff.mp h with hnames | hgrants
  · exact records_pos_of_names hnames
  · obtain ⟨k, call⟩ := call
    cases call with
    | add submission apiKey =>
        cases hrecord : unwrap submission with
        | error e => simp [Call.grants, hrecord] at hgrants
        | ok record =>
            rw [records_add hrecord]
            exact Nat.one_pos
    | addBatch submissions apiKey => cases hgrants

theorem names_add {submission : Submission} {apiKey : Value} {record : Record} {label : String}
    (hrecord : unwrap submission = .ok record)
    (huser : requireUser scheme record label = .ok user) :
    (Call.add submission apiKey).names scheme user = true := by
  have hmem : record ∈ (Call.add submission apiKey).records := by
    rw [records_add hrecord]
    exact List.mem_singleton_self record
  exact names_of_record hmem huser

end Ledger

namespace Posts

open Ledger Intake

variable {scheme : IdScheme} {call : Call} {o : Option Uuid} {p : Posting}

/-- The users of a posting are named by its call. -/
theorem names (h : Posts scheme call o p) :
    ∀ user ∈ p.users, call.names scheme user = true := by
  cases h with
  | sdkCall hrecord _ hchecked =>
      obtain ⟨huser, -⟩ := Ingest.checkSdkCall_ok hchecked
      exact List.forall_mem_singleton.mpr (names_add hrecord huser)
  | payment hrecord _ hchecked =>
      obtain ⟨huser, -⟩ := Ingest.checkPayment_ok hchecked
      exact List.forall_mem_singleton.mpr (names_add hrecord huser)
  | @usage _ records usage groups ids key hdelivers husage hgroups hlength =>
      obtain ⟨singles, ha⟩ := UsageGroup.aggregates_of_aggregate hgroups
      have hnamed : ∀ g ∈ groups, call.names scheme g.user = true := by
        refine ha.forall_mem_of (fun g h _ hg _ => hg) fun g hg => ?_
        obtain ⟨r, hr, hsingle⟩ := exists_of_mem_forall₂ ha.each hg
        obtain ⟨_, -, rfl⟩ := UsageGroup.single_ok hsingle
        obtain ⟨record, hrecord, hchecked⟩ := exists_of_mem_forall₂ (mapM_eq_ok.mp husage) hr
        rw [← hdelivers.records.1] at hrecord
        exact names_of_record hrecord (UsageRecord.checked_of_ofRecord hchecked).user
      intro user huser
      obtain ⟨g, hg, rfl⟩ := List.mem_map.mp huser
      exact hnamed g hg
  | grant => exact fun user huser => absurd huser List.not_mem_nil

/-- Only the grant of a key stores a key. -/
theorem apiKeys (h : Posts scheme call o p) (hcall : call.grants = false) : p.apiKeys = [] := by
  cases h with
  | grant hrecord hkind =>
      simp only [Call.grants, hrecord, hkind] at hcall
      cases hcall
  | sdkCall | payment | usage => rfl

end Posts

/-! ### Steps -/

namespace Ledger

variable {S : Uuid → Bool} {scheme : IdScheme} {user : UserId} {call : Circumstances × Call}
  {t t₁ t₂ : Tables}

/-- A sound posting without a key leaves the tables in agreement where its events are not. -/
theorem agreeOn_post {p : Posting} (hp : p.Sound) (hkeys : p.apiKeys = [])
    (hids : ∀ e ∈ p.events, S e.id = false) : (t.post p).AgreeOn S t := by
  have hdetails : ∀ id ∈ p.detailIds, S id = false := by
    intro id hid
    rw [hp.detail] at hid
    obtain ⟨e, he, rfl⟩ := List.mem_map.mp hid
    exact hids e he
  have hsame : ∀ {ρ : Type} {ident : ρ → Uuid} {rows more : List ρ},
      (∀ row ∈ more, S (ident row) = false) →
      (rows ++ more).filter (fun row => S (ident row)) = rows.filter fun row => S (ident row) := by
    intro ρ ident rows more hmore
    have hnone : more.filter (fun row => S (ident row)) = [] := by
      rw [List.filter_eq_nil_iff]
      intro row hrow
      simp [hmore row hrow]
    rw [List.filter_append, hnone, List.append_nil]
  simp only [Posting.detailIds, List.forall_mem_append, List.forall_mem_map] at hdetails
  constructor
  case apiKeys =>
    show t.apiKeys ++ p.apiKeys = t.apiKeys
    rw [hkeys, List.append_nil]
  case events => exact hsame hids
  case sdkCalls => exact hsame hdetails.1.1
  case payments => exact hsame hdetails.1.2
  case tokenUsages => exact hsame hdetails.2

/-- A call can draw an identifier: it is among the first ones, as many as the call has records. -/
def Draws (call : Circumstances × Call) (id : Uuid) : Prop :=
  ∃ n < call.2.records.length, call.1.fresh n = id

/-- The events of an accepted call come under identifiers that the call can draw. -/
theorem posts_of_outcome {o : Option Uuid} {t' : Tables}
    (h : outcome scheme call t = (.ok o, t')) :
    ∃ p, Posts scheme call.2 o p ∧ p.Admitted t ∧ (∀ e ∈ p.events, Draws call e.id) ∧
      t' = t.post p := by
  rw [outcome_upTo] at h
  obtain ⟨p, hposts, hadmitted, hids, rfl⟩ :=
    posts_of_accepted (Circumstances.constrained _ scheme) h
  refine ⟨p, hposts, hadmitted, fun e he => ?_, rfl⟩
  -- an event names a user, so the call has a record
  obtain ⟨named, hmem, -⟩ := hposts.sound.user e he
  have hrecords : 0 < call.2.records.length := records_pos_of_names (hposts.names named hmem)
  obtain ⟨n, hn⟩ := hids e.id (List.mem_map_of_mem he)
  obtain ⟨i, hi, hfresh⟩ := call.1.upTo_fresh hrecords n
  exact ⟨i, hi, hfresh.symm.trans hn⟩

/-- A call that draws from a set puts its events into the set. -/
theorem within_outcome (hdrawn : ∀ id, Draws call id → S id = true) (h : t.Within S user) :
    (outcome scheme call t).2.Within S user := by
  rcases hcall : outcome scheme call t with ⟨e | o, t'⟩
  · obtain rfl := outcome_error hcall
    exact h
  · obtain ⟨p, -, -, hids, rfl⟩ := posts_of_outcome hcall
    intro e he hname
    rcases List.mem_append.mp he with hold | hnew
    · exact h e hold hname
    · exact hdrawn e.id (hids e hnew)

/-- A call of concern has the same outcome on tables that are alike and leaves them so. -/
theorem Alike.after_concern (h : Tables.Alike S user t₁ t₂)
    (hcall : concerns scheme user call = true) (hhonest : call.1.Honest)
    (hdrawn : ∀ id, Draws call id → S id = true) :
    (outcome scheme call t₁).1 = (outcome scheme call t₂).1 ∧
      Tables.Alike S user (outcome scheme call t₁).2 (outcome scheme call t₂).2 := by
  have hset : ∀ n, S ((call.1.upTo call.2.records.length).fresh n) = true := by
    intro n
    obtain ⟨i, hi, hfresh⟩ := call.1.upTo_fresh (records_pos_of_concerns hcall) n
    exact hdrawn _ ⟨i, hi, hfresh.symm⟩
  have hend : Txn.SameEnd S (outcome scheme call t₁) (outcome scheme call t₂) := by
    rw [outcome_upTo scheme call t₁, outcome_upTo scheme call t₂]
    exact sameEnd_call call.2 hhonest hset h.agree
  exact ⟨hend.1, hend.2, within_outcome hdrawn h.first, within_outcome hdrawn h.second⟩

/-- Any other call leaves the tables alike to what they were. -/
theorem Alike.after_other (h : Tables.Alike S user t₁ t₂)
    (hcall : concerns scheme user call = false)
    (hdrawn : ∀ id, Draws call id → S id = true → id ∈ t₁.events.map (·.id)) :
    Tables.Alike S user (outcome scheme call t₁).2 t₂ := by
  obtain ⟨hnames, hgrants⟩ := Bool.or_eq_false_iff.mp hcall
  rcases houtcome : outcome scheme call t₁ with ⟨e | o, t'⟩
  · obtain rfl := outcome_error houtcome
    exact h
  · obtain ⟨p, hposts, hadmitted, hids, rfl⟩ := posts_of_outcome houtcome
    have hnew : ∀ e ∈ p.events, S e.id = false := by
      intro e he
      rw [Bool.eq_false_iff]
      intro hid
      -- an identifier of the set would be that of an event which is there
      exact (hadmitted.events e he).fresh (hdrawn e.id (hids e he) hid)
    have hothers : ∀ e ∈ p.events, e.user ≠ some user.toCell := by
      intro e he hname
      obtain ⟨named, hmem, hcell⟩ := hposts.sound.user e he
      obtain rfl := UserId.toCell_injective (Option.some.inj (hcell.symm.trans hname))
      rw [hposts.names named hmem] at hnames
      cases hnames
    refine ⟨(agreeOn_post hposts.sound (hposts.apiKeys hgrants) hnew).trans h.agree, ?_, h.second⟩
    intro e he hname
    rcases List.mem_append.mp he with hold | hnew
    · exact h.first e hold hname
    · exact absurd hname (hothers e hnew)

/-! ### Runs -/

/-- The outcomes of the calls of a run that are of concern to a user. -/
def outcomesFor (scheme : IdScheme) (user : UserId) :
    List (Circumstances × Call) → Tables → List (Except Raised (Option Uuid))
  | [], _ => []
  | call :: rest, t =>
    let (result, t) := outcome scheme call t
    if concerns scheme user call then result :: outcomesFor scheme user rest t
    else outcomesFor scheme user rest t

/-- No other call of the run can draw an identifier that a call of concern can draw. -/
def Apart (scheme : IdScheme) (user : UserId) (calls : List (Circumstances × Call)) : Prop :=
  ∀ x ∈ calls, ∀ y ∈ calls, concerns scheme user x = true → concerns scheme user y = false →
    ∀ id, Draws x id → ¬ Draws y id

/-- A run and the run of its calls of concern alone, from tables that are alike. -/
theorem lockstep {calls : List (Circumstances × Call)} (h : Tables.Alike S user t₁ t₂)
    (hconcern : ∀ call ∈ calls, concerns scheme user call = true →
      call.1.Honest ∧ ∀ id, Draws call id → S id = true)
    (hother : ∀ call ∈ calls, concerns scheme user call = false →
      ∀ id, Draws call id → S id = true → id ∈ t₁.events.map (·.id)) :
    outcomesFor scheme user calls t₁
        = outcomesFor scheme user (calls.filter (concerns scheme user)) t₂ ∧
      Tables.Alike S user (runCalls scheme calls t₁)
        (runCalls scheme (calls.filter (concerns scheme user)) t₂) := by
  induction calls generalizing t₁ t₂ with
  | nil => exact ⟨rfl, h⟩
  | cons call calls ih =>
      rw [List.forall_mem_cons] at hconcern hother
      -- what is there stays, so what other calls would have to draw is still taken
      have hstill : ∀ call' ∈ calls, concerns scheme user call' = false →
          ∀ id, Draws call' id → S id = true →
            id ∈ (outcome scheme call t₁).2.events.map (·.id) := by
        intro call' hmem hcall' id hdraws hset
        have hextends : t₁.Extends (outcome scheme call t₁).2 := extends_runCalls [call] t₁
        obtain ⟨e, he, hid⟩ := List.mem_map.mp (hother.2 call' hmem hcall' id hdraws hset)
        exact List.mem_map.mpr ⟨e, hextends.events.subset he, hid⟩
      cases hcall : concerns scheme user call with
      | true =>
          obtain ⟨hhonest, hdrawn⟩ := hconcern.1 hcall
          obtain ⟨hsame, halike⟩ := Alike.after_concern h hcall hhonest hdrawn
          obtain ⟨houtcomes, hruns⟩ := ih halike hconcern.2 hstill
          rw [List.filter_cons_of_pos hcall]
          refine ⟨?_, hruns⟩
          simp only [outcomesFor, hcall, if_true, hsame, houtcomes]
      | false =>
          obtain ⟨houtcomes, hruns⟩ :=
            ih (Alike.after_other h hcall (hother.1 hcall)) hconcern.2 hstill
          rw [List.filter_cons_of_neg (by simp [hcall])]
          refine ⟨?_, hruns⟩
          simp only [outcomesFor, hcall, Bool.false_eq_true, if_false, houtcomes]

open Classical in
/-- The identifiers of the events that are there and those that some calls can draw. -/
noncomputable def idsOf (calls : List (Circumstances × Call)) (t : Tables) (id : Uuid) : Bool :=
  decide (id ∈ t.events.map (·.id) ∨ ∃ call ∈ calls, Draws call id)

theorem idsOf_eq_true {calls : List (Circumstances × Call)} {id : Uuid} :
    idsOf calls t id = true ↔ id ∈ t.events.map (·.id) ∨ ∃ call ∈ calls, Draws call id := by
  simp only [idsOf, decide_eq_true_iff]

/-- **To a user a run is like the run of its calls of concern.** -/
theorem alike_concerns {calls : List (Circumstances × Call)} (t : Tables)
    (hhonest : ∀ call ∈ calls, concerns scheme user call = true → call.1.Honest)
    (hapart : Apart scheme user calls) :
    outcomesFor scheme user calls t
        = outcomesFor scheme user (calls.filter (concerns scheme user)) t ∧
      Tables.Alike (idsOf (calls.filter (concerns scheme user)) t) user (runCalls scheme calls t)
        (runCalls scheme (calls.filter (concerns scheme user)) t) := by
  have hwithin : t.Within (idsOf (calls.filter (concerns scheme user)) t) user :=
    fun e he _ => idsOf_eq_true.mpr (.inl (List.mem_map_of_mem he))
  refine lockstep ⟨.refl _ t, hwithin, hwithin⟩ (fun call hcall hconcern => ?_) ?_
  · exact ⟨hhonest call hcall hconcern, fun id hdraws =>
      idsOf_eq_true.mpr (.inr ⟨call, List.mem_filter.mpr ⟨hcall, hconcern⟩, hdraws⟩)⟩
  · intro call hcall hother id hdraws hset
    rcases idsOf_eq_true.mp hset with hthere | ⟨own, hown, howned⟩
    · exact hthere
    · obtain ⟨hmem, hconcern⟩ := List.mem_filter.mp hown
      exact absurd hdraws (hapart own hmem call hcall hconcern hother id howned)

/-- **Users are isolated.**  Two runs from the same tables, with the same calls that name a user and
the same grants of keys, end these calls with the same outcomes and leave the user the same
events and particulars in the same order, and the same prices, whatever else was called.  New
identifiers are new: no other call can draw one that these calls can draw.  Nothing is asked of the
faults that other calls meet, and of those that these calls meet only that no user is reported as
there who is not. -/
theorem users_isolated {calls₁ calls₂ : List (Circumstances × Call)} {t : Tables}
    (hsame : calls₁.filter (concerns scheme user) = calls₂.filter (concerns scheme user))
    (hhonest : ∀ call ∈ calls₁, concerns scheme user call = true → call.1.Honest)
    (hfirst : Apart scheme user calls₁) (hsecond : Apart scheme user calls₂) :
    outcomesFor scheme user calls₁ t = outcomesFor scheme user calls₂ t ∧
      (runCalls scheme calls₁ t).holdings user = (runCalls scheme calls₂ t).holdings user ∧
      ∀ depth submission, Pricing.Asks scheme user submission →
        Pricing.priceFrom scheme depth (runCalls scheme calls₁ t) submission
          = Pricing.priceFrom scheme depth (runCalls scheme calls₂ t) submission := by
  have hhonest₂ : ∀ call ∈ calls₂, concerns scheme user call = true → call.1.Honest := by
    intro call hcall hconcern
    have hmem : call ∈ calls₁.filter (concerns scheme user) := by
      rw [hsame]
      exact List.mem_filter.mpr ⟨hcall, hconcern⟩
    exact hhonest call (List.mem_filter.mp hmem).1 hconcern
  obtain ⟨houtcomes₁, halike₁⟩ := alike_concerns t hhonest hfirst
  obtain ⟨houtcomes₂, halike₂⟩ := alike_concerns t hhonest₂ hsecond
  rw [← hsame] at houtcomes₂ halike₂
  have halike := halike₁.trans halike₂.symm
  refine ⟨houtcomes₁.trans houtcomes₂.symm, halike.holdings, fun depth submission hasks => ?_⟩
  exact Pricing.priceFrom_congr hasks halike.answer.1 halike.answer.2

namespace Sample

/-- A call of user 7 after one of user 8. -/
def beside (id : Nat) (debit : Int) (apiKey : Value) : List (Circumstances × Call) :=
  [(.quiet id, .add (.event ⟨Timestamp.first, .sdkCall (.number 8) ⟨.raw, debit⟩⟩) apiKey),
    (.quiet 2, .add (sdkCall 5) key)]

theorem apart_beside {id : Nat} {debit : Int} {apiKey : Value}
    (hid : Uuid.ofNat id ≠ Uuid.ofNat 2) : Apart .bigint (.number 7) (beside id debit apiKey) := by
  intro x hx y hy hconcern hother drawn hx' hy'
  rcases List.mem_pair.mp hx with rfl | rfl
  · cases hconcern
  · rcases List.mem_pair.mp hy with rfl | rfl
    · obtain ⟨m, hm, rfl⟩ := hx'
      obtain ⟨n, hn, hsame⟩ := hy'
      obtain rfl : m = 0 := Nat.lt_one_iff.mp hm
      obtain rfl : n = 0 := Nat.lt_one_iff.mp hn
      exact hid hsame
    · cases hother

end Sample

/-- User 8 has a key in one run and none in the other, which user 7 does not notice. -/
theorem users_isolated_sample :
    let t := Sample.granted
    let first := Sample.beside 3 9 Sample.key
    let second := Sample.beside 4 1 .null
    (runCalls .bigint first t).users = [.whole 8, .whole 7] ∧
      (runCalls .bigint second t).users = [.whole 7] ∧
      outcomesFor .bigint (.number 7) first t = outcomesFor .bigint (.number 7) second t ∧
      (runCalls .bigint first t).holdings (.number 7)
        = (runCalls .bigint second t).holdings (.number 7) ∧
      ∀ depth submission, Pricing.Asks .bigint (.number 7) submission →
        Pricing.priceFrom .bigint depth (runCalls .bigint first t) submission
          = Pricing.priceFrom .bigint depth (runCalls .bigint second t) submission := by
  have hhonest : ∀ call ∈ Sample.beside 3 9 Sample.key,
      concerns .bigint (.number 7) call = true → call.1.Honest := by
    intro call hcall _ n report hplan
    rcases List.mem_pair.mp hcall with rfl | rfl <;> cases hplan
  refine ⟨by decide +kernel, by decide +kernel, ?_⟩
  exact users_isolated rfl hhonest (Sample.apart_beside (by decide))
    (Sample.apart_beside (by decide))

end Ledger

end UsageLedger
