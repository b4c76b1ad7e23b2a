/-
What a fault of the database comes to in a call.

A call that would end well has one fault put into it.  Its checks are made before the
transaction and do not see the fault, the body of the transaction meets it at one of its
steps or not at all (`StepsAt`), and the transaction tells what its body let through.  So
the call ends as the verdict of the moment says, and its tables are those before, or it
goes on as if nothing had been done about the users (`Meets`).
-/
import UsageLedger.Proofs.Intake.Aggregation
import UsageLedger.Proofs.Ledger.Accepted
import UsageLedger.Proofs.Ledger.QueryFaults

namespace UsageLedger

namespace Ingest

open Txn Repository Intake

variable {c : Conditions}

/-! ### Bodies of transactions -/

theorem stepsAt_storeEvent {user : UserId} {record : Record} {key : Option Uuid} {table : Table}
    {values : Record} (htable : table.moment = .details) :
    StepsAt c [.users, .events, .details] fun c => storeEvent c user record key table values :=
  (stepsAt_ensureUser user).bind (by decide) fun _ => (stepsAt_const _).quiet_bind fun _ =>
    (stepsAt_insertEvent _).bind (by decide) fun id =>
      (stepsAt_insertDetail htable (.uuid id) values).bind_quiet _

/-- Without an identifier there are no rows to add, but then nothing is told either. -/
theorem stepsAt_usageRows (ids : List Uuid) (g : UsageGroup) (gs : List UsageGroup) :
    StepsAt c [.details] fun c => (do
      insertDetails c .tokenUsages (List.zipWith usageValues ids (g :: gs))
      match ids with
      | id :: _ => return id
      | [] => throw (.failure .eventWithoutId)) := by
  cases ids with
  | cons id ids =>
      exact (stepsAt_insertDetails rfl (List.cons_ne_nil _ _)).bind_quiet _
  | nil =>
      constructor
      · intro c' m answer h _
        unfold insertDetails
        simp only [h.broken, List.zipWith_nil_left, ne_eq, not_true_eq_false, if_false]
      · intro m x w r _ hok
        rw [result_bind] at hok
        obtain ⟨_, -, hok⟩ := bind_eq_ok.mp hok
        cases hok

theorem stepsAt_storeUsage {records : List UsageRecord} {key : Option Uuid} (hne : records ≠ []) :
    StepsAt c [.users, .events, .details] fun c => storeUsage c records key := by
  refine StepsAt.after_check fun groups hgroups => ?_
  obtain ⟨g, gs, rfl⟩ : ∃ g gs, groups = g :: gs := by
    obtain ⟨first, rest, rfl⟩ := List.exists_cons_of_ne_nil hne
    obtain ⟨singles, ha⟩ := UsageGroup.aggregates_of_aggregate hgroups
    obtain ⟨g, gs, hgs, -⟩ := ha.exists_head
    exact ⟨g, gs, hgs⟩
  have husers : StepsAt c [.users]
      fun c => ensureUsers c (((g :: gs).map (·.user)).map UserId.toValue) :=
    stepsAt_ensureUsers (List.cons_ne_nil _ _)
  simp only [List.map_map] at husers
  exact husers.bind (by decide) fun _ =>
    (stepsAt_insertEvents (List.cons_ne_nil _ _)).bind (by decide) fun ids =>
      stepsAt_usageRows ids g gs

theorem stepsAt_storeKey {record : Record} {data : KeyGrantData} :
    StepsAt c [.key] fun c => storeKey c record data :=
  (stepsAt_const _).quiet_bind fun _ => (stepsAt_const _).quiet_bind fun _ => stepsAt_insertApiKey _

/-! ### Transactions -/

/-- What comes of a fault in a call: a failure of a verdict that leaves the tables as they were, or
what passing the fault over comes to when there is none. -/
def Settled {α : Type} (verdict : Option (FailureKind × Fault)) (t : Tables)
    (outcome passed : Except Raised α × Tables) : Prop :=
  match verdict with
  | none => outcome = passed
  | some (kind, cause) => Refused kind cause outcome.1 ∧ outcome.2 = t

/-- A part of a call meets the faults of some moments by their verdicts and does not see any
others. -/
def Meets {α : Type} (c : Conditions) (t : Tables) (moments : List Moment)
    (part : Conditions → Except Raised α × Tables) : Prop :=
  ∀ m x, (m ∈ moments → Settled (m.verdict c.dialect x) t (part (c.failing m x)) (part c.passing)) ∧
    (m ∉ moments → part (c.failing m x) = part c)

variable {α β : Type} {t t' : Tables}

section Transaction

variable {c' c'' : Conditions} {description : String} {body body' body'' : Txn α} {e : Raised}

theorem writeTransaction_congr (hopening : c'.opening = c''.opening)
    (hcommit : c'.commit = c''.commit)
    (hbody : result body' ⟨t, [], 0⟩ = result body'' ⟨t, [], 0⟩) :
    writeTransaction c' description body' t = writeTransaction c'' description body'' t := by
  unfold writeTransaction
  rw [Txn.run_eq, Txn.run_eq, hopening, hcommit, hbody]

theorem writeTransaction_of_run (description : String) (h : Txn.run c' body' t = (.error e, t)) :
    writeTransaction c' description body' t = (.error (explain description e), t) := by
  unfold writeTransaction
  rw [h]
  rfl

theorem refused_writeTransaction {kind : FailureKind} {cause : Fault}
    (hopening : c'.opening = none) (h : Fails kind cause (result body' ⟨t, [], 0⟩)) :
    Refused kind cause (writeTransaction c' description body' t).1 ∧
      (writeTransaction c' description body' t).2 = t := by
  obtain ⟨e, he⟩ := h.exists_error
  obtain ⟨f, hf, htold⟩ := h description
  rw [he] at hf
  rw [writeTransaction_of_run description (show Txn.run c' body' t = (.error e, t) by
    rw [Txn.run_eq, hopening, he])]
  exact ⟨⟨f, congrArg Except.error (Except.error.inj hf), htold⟩, rfl⟩

theorem settled_writeTransaction {verdict : Option (FailureKind × Fault)}
    (hopening : c'.opening = none ∧ c''.opening = none) (hcommit : c'.commit = c''.commit)
    (h : Settles verdict (result body' ⟨t, [], 0⟩) (result body'' ⟨t, [], 0⟩)) :
    Settled verdict t (writeTransaction c' description body' t)
      (writeTransaction c'' description body'' t) := by
  cases verdict with
  | none => exact writeTransaction_congr (hopening.1.trans hopening.2.symm) hcommit h
  | some told => exact refused_writeTransaction hopening.1 h

end Transaction

/-- A transaction meets the faults of its body, and those of opening and committing it. -/
theorem meets_writeTransaction {description : String} {body : Conditions → Txn α}
    {moments : List Moment} {a : α} (hbody : StepsAt c moments body)
    (hmoments : .opening ∉ moments ∧ .commit ∉ moments)
    (h : writeTransaction c description (body c) t = (.ok a, t')) :
    Meets c t (.opening :: (moments ++ [.commit]))
      fun c => writeTransaction c description (body c) t := by
  obtain ⟨houtcome, htables⟩ := Prod.mk.inj h
  obtain ⟨hopening, hcommit, w, hok⟩ :=
    Txn.run_eq_ok (Prod.ext (mapError_eq_ok.mp houtcome) htables)
  intro m x
  have hopened : m ≠ .opening → (c.failing m x).opening = c.opening := fun hm => if_neg hm
  have hcommitted : m ≠ .commit → (c.failing m x).commit = c.commit := fun hm => if_neg hm
  have helsewhere : m ∉ moments → body (c.failing m x) = body c :=
    hbody.elsewhere (c.overrides_failing m x)
  simp only [List.mem_cons, List.mem_append, List.not_mem_nil, or_false]
  refine ⟨?_, fun hm => ?_⟩
  -- the transaction is not opened, or its body meets the fault, or its work is not committed
  · rintro (rfl | hm | rfl)
    · have hraises := writeTransaction_of_run description (show Txn.run (c.failing .opening x)
        (body (c.failing .opening x)) t = (.error (.fault x), t) from rfl)
      exact ⟨⟨_, congrArg Prod.fst hraises, rfl, rfl⟩, congrArg Prod.snd hraises⟩
    · have hne : m ≠ .opening ∧ m ≠ .commit :=
        ⟨fun he => hmoments.1 (he ▸ hm), fun he => hmoments.2 (he ▸ hm)⟩
      exact settled_writeTransaction ⟨(hopened hne.1).trans hopening, hopening⟩ (hcommitted hne.2)
        (hbody.settles hm hok)
    · have hraises := writeTransaction_of_run description (show Txn.run (c.failing .commit x)
        (body (c.failing .commit x)) t = (.error (.fault x), t) by
          rw [Txn.run_eq, hopened (by decide), hopening, helsewhere hmoments.2, hok]
          rfl)
      exact ⟨⟨_, congrArg Prod.fst hraises, rfl, rfl⟩, congrArg Prod.snd hraises⟩
  · rw [not_or, not_or] at hm
    exact writeTransaction_congr (hopened hm.1) (hcommitted hm.2.2)
      (congrArg (result · _) (helsewhere hm.2.1))

/-! ### Handlers -/

theorem Settled.map {verdict : Option (FailureKind × Fault)}
    {outcome passed : Except Raised α × Tables} (h : Settled verdict t outcome passed)
    (g : α → β) : Settled verdict t (outcome.1.map g, outcome.2) (passed.1.map g, passed.2) := by
  cases verdict with
  | none => exact congrArg (fun r : Except Raised α × Tables => (r.1.map g, r.2)) h
  | some told =>
      obtain ⟨⟨f, hf, htold⟩, htables⟩ := h
      exact ⟨⟨f, by rw [hf]; rfl, htold⟩, htables⟩

variable {moments : List Moment}

theorem meets_map {part : Conditions → Except Raised α × Tables} (h : Meets c t moments part)
    (g : α → β) : Meets c t moments fun c => ((part c).1.map g, (part c).2) :=
  fun m x => ⟨fun hm => ((h m x).1 hm).map g,
    fun hm => congrArg (fun r : Except Raised α × Tables => (r.1.map g, r.2)) ((h m x).2 hm)⟩

/-- A check that passes meets no fault. -/
theorem meets_checked {check : Conditions → Except Raised α} {a : α}
    {next : Conditions → α → Except Raised β × Tables}
    (hsame : ∀ c', c'.scheme = c.scheme → c'.depth = c.depth → check c' = check c)
    (hcheck : check c = .ok a)
    (h : Meets c t moments fun c => next c a) :
    Meets c t moments fun c => checked (check c) t (next c) := by
  intro m x
  have hfailing : check (c.failing m x) = .ok a := (hsame (c.failing m x) rfl rfl).trans hcheck
  have hpassing : check c.passing = .ok a := (hsame c.passing rfl rfl).trans hcheck
  simp only [checked, hcheck, hfailing, hpassing]
  exact h m x

theorem meets_storeSingle {kind : EventKind} {user : UserId} {record : Record} {apiKey : Value}
    {table : Table} {values : Record} {id : Uuid} (htable : table.moment = .details)
    (h : storeSingle c kind user record apiKey table values t = (.ok id, t')) :
    Meets c t [.opening, .users, .events, .details, .commit]
      fun c => storeSingle c kind user record apiKey table values t := by
  obtain ⟨key, hkey, h⟩ := checked_ok h
  exact meets_checked (fun c' _ hdepth => by rw [hdepth]) hkey
    (meets_writeTransaction (stepsAt_storeEvent htable) (by decide) h)

theorem meets_addUsage {records : List Record} {apiKey : Value} {o : Option Uuid}
    (hne : records ≠ []) (h : addUsage c records apiKey t = (.ok o, t')) :
    Meets c t [.opening, .users, .events, .details, .commit]
      fun c => addUsage c records apiKey t := by
  have hsome : records.isEmpty = false := by simpa using hne
  unfold addUsage at h ⊢
  simp only [hsome] at h ⊢
  obtain ⟨usage, husage, h⟩ := checked_ok h
  obtain ⟨key, hkey, h⟩ := checked_ok h
  obtain ⟨houtcome, htables⟩ := Prod.mk.inj h
  obtain ⟨id, hid, -⟩ := map_eq_ok.mp houtcome
  have hrecords : usage ≠ [] := by
    rintro rfl
    exact hne (List.forall₂_nil_right_iff.mp (mapM_eq_ok.mp husage))
  refine meets_checked (fun c' hscheme _ => by rw [hscheme]) husage ?_
  refine meets_checked (fun c' _ hdepth => by rw [hdepth]) hkey ?_
  exact meets_map
    (meets_writeTransaction (stepsAt_storeUsage hrecords) (by decide) (Prod.ext hid htables)) some

end Ingest

namespace Ledger

open Ingest Intake

variable {c : Conditions} {t t' : Tables}

/-- The moments at which the call of a kind meets its database. -/
def momentsOf : EventKind → List Moment
  | .sdkCall | .payment | .tokenUsage => [.opening, .users, .events, .details, .commit]
  | .addKey => [.opening, .key, .commit]
  | _ => []

/-- The moments at which a call meets its database; a batch of nothing does not meet it. -/
def Call.moments : Call → List Moment
  | .add submission _ =>
    match unwrap submission with
    | .error _ => []
    | .ok record =>
      match acceptedKind record writeKinds with
      | .error _ => []
      | .ok kind => momentsOf kind
  | .addBatch [] _ => []
  | .addBatch _ _ => momentsOf .tokenUsage

theorem meets_write {kind : EventKind} {record : Record} {apiKey : Value} {o : Option Uuid}
    (h : write c kind record apiKey t = (.ok o, t')) :
    Meets c t (momentsOf kind) fun c => write c kind record apiKey t := by
  cases kind with
  | sdkCall =>
      obtain ⟨id, h, -⟩ := map_some_eq_ok h
      obtain ⟨⟨user, data⟩, hcheck, h⟩ := checked_ok h
      refine meets_map (meets_checked (fun c' hscheme _ => by rw [hscheme]) hcheck ?_) some
      exact meets_storeSingle rfl h
  | payment =>
      obtain ⟨id, h, -⟩ := map_some_eq_ok h
      obtain ⟨⟨user, data⟩, hcheck, h⟩ := checked_ok h
      refine meets_map (meets_checked (fun c' hscheme _ => by rw [hscheme]) hcheck ?_) some
      exact meets_storeSingle rfl h
  | tokenUsage => exact meets_addUsage (List.cons_ne_nil record []) h
  | addKey =>
      obtain ⟨id, h, -⟩ := map_some_eq_ok h
      obtain ⟨data, hcheck, h⟩ := checked_ok h
      refine meets_map (meets_checked (fun _ _ _ => rfl) hcheck ?_) some
      exact meets_writeTransaction stepsAt_storeKey (by decide) h
  | requestSdkCall | requestTokenUsage | requestPayment => cases h

theorem meets_run {call : Call} {o : Option Uuid} (h : call.run c t = (.ok o, t')) :
    Meets c t call.moments fun c => call.run c t := by
  cases call with
  | add submission apiKey =>
      obtain ⟨⟨kind, record⟩, haccept, h⟩ := checked_ok h
      obtain ⟨hrecord, hkind, -⟩ := accept_ok haccept
      have hmoments : (Call.add submission apiKey).moments = momentsOf kind := by
        simp only [Call.moments, hrecord, hkind]
      rw [hmoments]
      exact meets_checked (fun c' _ hdepth => by rw [hdepth]) haccept (meets_write h)
  | addBatch submissions apiKey =>
      obtain ⟨records, haccept, h⟩ := checked_ok h
      refine meets_checked (fun c' _ hdepth => by rw [hdepth]) haccept ?_
      obtain ⟨hdelivers, -⟩ := acceptBatch_ok haccept
      cases hdelivers with
      | batch hrecords _ =>
          cases mapM_eq_ok.mp hrecords with
          | nil =>
              have hnone : ∀ c, addUsage c [] apiKey t = (.ok none, t) := fun _ => rfl
              exact fun m x => ⟨fun hm => absurd hm List.not_mem_nil,
                fun _ => (hnone _).trans (hnone c).symm⟩
          | cons _ _ => exact meets_addUsage (List.cons_ne_nil _ _) h

/-! ### Calls and prices -/

/-- **Faults of the database are told by what they are and when they were met.**  One fault is put
into a call or a price that would end well, at any moment of the call or in the place of any query.
What the caller is told is a failure whose kind is fixed by moment and fault and whose cause is the
fault, and the tables are left as they were.  On a supported database this is so where users are
added as well, but for a report that a user is there already, which is passed over.  Whether a
report is one is read off its code, or off its text when it has none. -/
theorem database_faults_told :
    (∀ {c : Conditions} {call : Call} {o : Option Uuid} {t t' : Tables},
      call.run c t = (.ok o, t') → Meets c t call.moments fun c => call.run c t) ∧
    (∀ {σ : Type} {scheme : IdScheme} {depth : Nat} {ask : Pricing.Asked σ Query Value}
      {submission : Submission} {n : Int} {s s' : σ},
      Pricing.price scheme depth ask submission s = (.ok n, s') → ∀ query x,
      (query ∈ Pricing.queriesOf scheme submission →
        Refused x.queryKind x
          (Pricing.price scheme depth (Pricing.failing ask query x) submission s).1) ∧
      (query ∉ Pricing.queriesOf scheme submission →
        Pricing.price scheme depth (Pricing.failing ask query x) submission s
          = Pricing.price scheme depth ask submission s)) ∧
    (∀ {dialect : Dialect}, dialect ∈ Dialect.supported → ∀ x : Fault,
      Moment.users.verdict dialect x = some (x.userKind, x) ∨
        Moment.users.verdict dialect x = none ∧ ∃ report, x = .database (.integrity report) ∧
          dialect.isDuplicate report.error = .ok true) ∧
    (∀ {dialect : Dialect} {error other : ErrorObject},
      dialect.duplicateCode error = dialect.duplicateCode other →
      (dialect.duplicateCode error = .ok none → error.text = other.text) →
      dialect.isDuplicate error = dialect.isDuplicate other) :=
  ⟨meets_run, fun h _ _ => Pricing.price_failing h, Fault.userVerdict_of_supported,
    Dialect.isDuplicate_congr⟩

namespace Sample

/-- An SDK call of user 7 under the granted key. -/
def charge : Call := .add (sdkCall 30) key

/-- The circumstances of a later call, whose identifiers count up from a number. -/
def later (first : Nat) : Conditions := .ideal .bigint fun n => Uuid.ofNat (first + n)

/-- The tables after one SDK call of user 7. -/
def once : Tables := (charge.run (later 2) granted).2

/-- The total of user 7. -/
def total : Submission := .event ⟨Timestamp.first, .requestPayment (.number 7)⟩

/-- A report of a broken constraint, by the code that SQLite gives. -/
def broken (code : Int) : Fault := .database (.integrity ⟨[.text "x"], none, none, some code⟩)

/-- A report of MySQL about a duplicate. -/
def duplicate (text : String) : ErrorObject := ⟨[.int 1062, .text text], none, none, none⟩

end Sample

/-- A broken constraint where the event is added, a connection lost at the commit, a user who is
there already, a query that times out, and reports of drivers. -/
theorem database_faults_told_sample :
    let forbidden : Fault := Sample.broken 787
    let lost : Fault := .runtime "connection lost"
    let late : Fault := .database (.operational ⟨[.text "timed out"], none, none, none⟩)
    (∃ o, Sample.charge.run (Sample.later 2) Sample.granted = (.ok o, Sample.once)) ∧
    Settled (some (.constraintViolation, forbidden)) Sample.granted
      (Sample.charge.run ((Sample.later 2).failing .events forbidden) Sample.granted)
      (Sample.charge.run (Sample.later 2).passing Sample.granted) ∧
    Settled (some (.transactionFailed, lost)) Sample.granted
      (Sample.charge.run ((Sample.later 2).failing .commit lost) Sample.granted)
      (Sample.charge.run (Sample.later 2).passing Sample.granted) ∧
    (∃ o t', Sample.charge.run (Sample.later 3) Sample.once = (.ok o, t') ∧
      Sample.charge.run ((Sample.later 3).failing .users (Sample.broken 1555)) Sample.once
        = Sample.charge.run (Sample.later 3).passing Sample.once) ∧
    Pricing.price .bigint Conditions.usualDepth (Pricing.askTables Sample.granted) Sample.total ()
      = (.ok 0, ()) ∧
    Refused .queryFailed late (Pricing.price .bigint Conditions.usualDepth (Pricing.failing
      (Pricing.askTables Sample.granted) (.tokenDebits (.number 7)) late) Sample.total ()).1 ∧
    (Moment.users.verdict Dialect.sqlite forbidden = some (.userInsertFailed, forbidden) ∨
      Moment.users.verdict Dialect.sqlite forbidden = none ∧ ∃ report,
        forbidden = .database (.integrity report) ∧
          Dialect.sqlite.isDuplicate report.error = .ok true) ∧
    Dialect.mysql.isDuplicate (Sample.duplicate "a")
      = Dialect.mysql.isDuplicate (Sample.duplicate "b") := by
  have hcharge : ∃ o, Sample.charge.run (Sample.later 2) Sample.granted = (.ok o, Sample.once) :=
    ⟨_, rfl⟩
  have hagain : ∃ o t', Sample.charge.run (Sample.later 3) Sample.once = (.ok o, t') := ⟨_, _, rfl⟩
  have htotal : Pricing.price .bigint Conditions.usualDepth (Pricing.askTables Sample.granted)
      Sample.total () = (.ok 0, ()) := rfl
  obtain ⟨o, hok⟩ := hcharge
  obtain ⟨o', t', hok'⟩ := hagain
  exact ⟨⟨o, hok⟩, (database_faults_told.1 hok .events _).1 (by decide),
    (database_faults_told.1 hok .commit _).1 (by decide),
    ⟨o', t', hok',
      (database_faults_told.1 hok' .users (Sample.broken 1555)).1 (by decide)⟩, htotal,
    (database_faults_told.2.1 htotal (.tokenDebits (.number 7)) _).1 (by decide),
    database_faults_told.2.2.1 (by simp [Dialect.supported]) _,
    database_faults_told.2.2.2 rfl (fun h => by cases h)⟩

end Ledger

end UsageLedger
