/-
What gets out of a call that is no refusal.

Everything inside a transaction or a query is told as a failure, so what a call can be met by stands
before: an event of unchecked data is flattened, a refusal is worded with the value that was
submitted, and the amount of a payment is compared with doubles.  `Call.Escapes` says when each of
these is reached and met by a fault, and a call ends with a fault in no other case (`run_fault`).
A price reads no key and no amount, so only the first two are left (`price_fault`).
-/
import UsageLedger.Proofs.Intake.Wording
import UsageLedger.Proofs.Ledger.Refusals

namespace UsageLedger

namespace Ingest

open Intake

variable {c : Conditions} {record : Record} {apiKey : Value} {t : Tables} {x : Fault}

/-! ### Handlers -/

theorem checked_eq_error {α β : Type} {check : Except Raised α}
    {next : α → Except Raised β × Tables} {e : Raised} :
    (checked check t next).1 = .error e ↔
      check = .error e ∨ ∃ a, check = .ok a ∧ (next a).1 = .error e := by
  cases check <;> simp [checked]

/-- After a check that meets no fault, a fault is met behind it if at all. -/
theorem checked_fault {α β : Type} {check : Except Raised α}
    {next : α → Except Raised β × Tables} {P : Prop} (hcheck : Refuses check)
    (h : ∀ a, (next a).1 = .error (.fault x) ↔ P) :
    (checked check t next).1 = .error (.fault x) ↔ (∃ a, check = .ok a) ∧ P := by
  rw [checked_eq_error, or_iff_right (hcheck x)]
  simp only [h, exists_and_right]

/-- The key of an event is read before its transaction, in which faults become failures. -/
theorem storeSingle_fault {kind : EventKind} {user : UserId} {table : Table} {values : Record} :
    (storeSingle c kind user record apiKey table values t).1 = .error (.fault x) ↔
      UnshownKey c.depth apiKey x := by
  unfold storeSingle
  rw [checked_eq_error, parseApiKeyId_eq_fault]
  exact or_iff_left fun ⟨_, _, h⟩ => Refuses.writeTransaction x h

theorem addUsage_fault {records : List Record}
    (hrecords : ∀ record ∈ records, Value.PrintableFields record) :
    (addUsage c records apiKey t).1 = .error (.fault x) ↔
      records ≠ [] ∧ (∃ usage, UsageRecord.ofRecords c.scheme records = .ok usage) ∧
        UnshownKey c.depth apiKey x := by
  unfold addUsage
  cases records with
  | nil => exact iff_of_false nofun fun h => h.1 rfl
  | cons record rest =>
      have husage : Refuses (UsageRecord.ofRecords c.scheme (record :: rest)) :=
        .mapM fun record hrecord => refuses_ofRecord (hrecords record hrecord)
      rw [if_neg (by simp)]
      refine (checked_fault husage fun usage => ?_).trans
        (and_iff_right (List.cons_ne_nil record rest)).symm
      rw [checked_eq_error, parseApiKeyId_eq_fault]
      exact or_iff_left fun ⟨_, _, h⟩ => Refuses.writeTransaction x (map_eq_error.mp h)

end Ingest

namespace Ledger

open Intake Ingest

/-- The record passes what is checked before its key is read.  A grant reads no key, and other kinds
are not written. -/
def PassesChecks (scheme : IdScheme) (record : Record) : EventKind → Prop
  | .sdkCall => ∃ accepted, checkSdkCall scheme record = .ok accepted
  | .payment => ∃ accepted, checkPayment scheme record = .ok accepted
  | .tokenUsage => ∃ usage, UsageRecord.ofRecord scheme record = .ok usage
  | _ => False

/-- Every whole number in the records of a call can be written out. -/
def Call.Printable (call : Call) : Prop :=
  ∀ record ∈ call.records, Value.PrintableFields record

/-- What a call is met by that is no refusal.  An event of unchecked data cannot be flattened, a
kind or a key that is refused cannot be shown, or the amount of a payment has no double.  In a
batch the first submission that cannot be flattened counts, and then the first record of a wrong
kind; a key is read when all else was found good. -/
inductive Call.Escapes (c : Conditions) : Call → Fault → Prop
  | event {submission apiKey x} : submission.Unflattened x → Escapes c (.add submission apiKey) x
  | kind {submission apiKey record x} : unwrap submission = .ok record →
      UnshownKind c.depth record writeKinds x → Escapes c (.add submission apiKey) x
  | amount {submission apiKey record} : unwrap submission = .ok record →
      acceptedKind record writeKinds = .ok .payment → HugeCredit c.scheme record →
      Escapes c (.add submission apiKey) creditOverflow
  | key {submission apiKey kind record x} :
      accept c.depth submission apiKey = .ok (kind, record) →
      PassesChecks c.scheme record kind → UnshownKey c.depth apiKey x →
      Escapes c (.add submission apiKey) x
  | batchEvent {before submission after apiKey x} :
      (∀ b ∈ before, ∃ record, unwrap b = .ok record) → submission.Unflattened x →
      Escapes c (.addBatch (before ++ submission :: after) apiKey) x
  | batchKind {submissions before record after apiKey x} :
      submissions.mapM unwrap = .ok (before ++ record :: after) →
      (∀ b ∈ before, acceptedKind b writeKinds = .ok .tokenUsage) →
      UnshownKind c.depth record writeKinds x → Escapes c (.addBatch submissions apiKey) x
  | batchKey {submissions records usage apiKey x} :
      acceptBatch c.depth submissions apiKey = .ok records → records ≠ [] →
      UsageRecord.ofRecords c.scheme records = .ok usage → UnshownKey c.depth apiKey x →
      Escapes c (.addBatch submissions apiKey) x

variable {c : Conditions} {depth : Nat} {kind : EventKind} {record : Record} {apiKey : Value}
  {t : Tables} {submission : Submission} {submissions : List Submission} {x : Fault}

/-! ### Records and kinds -/

theorem write_fault (hrecord : Value.PrintableFields record) :
    (write c kind record apiKey t).1 = .error (.fault x) ↔
      (kind = .payment ∧ x = creditOverflow ∧ HugeCredit c.scheme record) ∨
        (PassesChecks c.scheme record kind ∧ UnshownKey c.depth apiKey x) := by
  cases kind with
  | sdkCall =>
      refine map_eq_error.trans (Iff.trans ?_ (or_iff_right nofun).symm)
      exact checked_fault (refuses_checkSdkCall hrecord) fun _ => storeSingle_fault
  | payment =>
      refine map_eq_error.trans (checked_eq_error.trans (or_congr ?_ ?_))
      · exact checkPayment_fault.trans (and_iff_right rfl).symm
      · simp only [storeSingle_fault, exists_and_right, PassesChecks]
  | tokenUsage =>
      have hone : (∃ usage, UsageRecord.ofRecords c.scheme [record] = .ok usage) ↔
          ∃ usage, UsageRecord.ofRecord c.scheme record = .ok usage :=
        exists_mapM_eq_ok.trans List.forall_mem_singleton
      refine (addUsage_fault (List.forall_mem_singleton.mpr hrecord)).trans ?_
      rw [hone, and_iff_right (List.cons_ne_nil record []), or_iff_right nofun]
      rfl
  | addKey =>
      refine iff_of_false (fun h => ?_) (by simp [PassesChecks])
      exact Refuses.checked (.ofFailure _) (fun _ _ => .writeTransaction) x (map_eq_error.mp h)
  | requestSdkCall | requestTokenUsage | requestPayment =>
      exact iff_of_false nofun (by simp [PassesChecks])

theorem accept_fault : accept depth submission apiKey = .error (.fault x) ↔
    submission.Unflattened x ∨
      ∃ record, unwrap submission = .ok record ∧ UnshownKind depth record writeKinds x := by
  refine bind_eq_error.trans (or_congr unwrap_eq_fault (exists_congr fun record =>
    and_congr_right fun _ => bind_eq_error.trans ?_))
  rw [resolveKind_eq_fault]
  refine or_iff_left ?_
  rintro ⟨kind, -, h⟩
  split at h <;> cases h

theorem checkBatchable_fault : checkBatchable depth record = .error (.fault x) ↔
    UnshownKind depth record writeKinds x := by
  rw [← resolveKind_eq_fault]
  refine bind_eq_error.trans (or_iff_left ?_)
  rintro ⟨kind, -, h⟩
  split at h <;> cases h

/-- The first submission that goes wrong is met, and then the first record of a wrong kind. -/
theorem acceptBatch_fault : acceptBatch depth submissions apiKey = .error (.fault x) ↔
    (∃ before submission after, submissions = before ++ submission :: after ∧
      (∀ b ∈ before, ∃ record, unwrap b = .ok record) ∧ submission.Unflattened x) ∨
    ∃ before record after, submissions.mapM unwrap = .ok (before ++ record :: after) ∧
      (∀ b ∈ before, acceptedKind b writeKinds = .ok .tokenUsage) ∧
        UnshownKind depth record writeKinds x := by
  refine bind_eq_error.trans (or_congr ?_ ?_)
  · simp only [mapM_eq_error, unwrap_eq_fault]
  · have hkinds : ∀ records : List Record,
        ((records.forM (checkBatchable depth) >>= fun _ =>
          if apiKey.isPresent then pure records else Raised.refuse .missingApiKey)
            = .error (.fault x)) ↔
        ∃ before record after, records = before ++ record :: after ∧
          (∀ b ∈ before, acceptedKind b writeKinds = .ok .tokenUsage) ∧
            UnshownKind depth record writeKinds x := by
      intro records
      refine bind_eq_error.trans ?_
      simp only [forM_eq_error, checkBatchable_eq_ok, checkBatchable_fault]
      refine or_iff_left ?_
      rintro ⟨-, -, h⟩
      split at h <;> cases h
    constructor
    · rintro ⟨records, hrecords, h⟩
      obtain ⟨before, record, after, rfl, hbefore, hrecord⟩ := (hkinds records).mp h
      exact ⟨before, record, after, hrecords, hbefore, hrecord⟩
    · rintro ⟨before, record, after, hrecords, hbefore, hrecord⟩
      exact ⟨_, hrecords, (hkinds _).mpr ⟨before, record, after, rfl, hbefore, hrecord⟩⟩

/-! ### Calls -/

/-- A write of one submission ends with a fault when it escapes, and only then. -/
theorem add_fault (hcall : (Call.add submission apiKey).Printable) :
    (add c submission apiKey t).1 = .error (.fault x) ↔
      (Call.add submission apiKey).Escapes c x := by
  have hprintable : ∀ {record}, unwrap submission = .ok record → Value.PrintableFields record := by
    intro record hrecord
    apply hcall
    rw [records_add hrecord]
    exact List.mem_singleton_self _
  refine checked_eq_error.trans ?_
  rw [accept_fault]
  constructor
  · rintro ((hevent | ⟨record, hrecord, hkind⟩) | ⟨⟨kind, record⟩, haccept, h⟩)
    · exact .event hevent
    · exact .kind hrecord hkind
    · obtain ⟨hrecord, hkind, -⟩ := accept_ok haccept
      rcases (write_fault (hprintable hrecord)).mp h with ⟨rfl, rfl, hhuge⟩ | ⟨hchecks, hkey⟩
      · exact .amount hrecord hkind hhuge
      · exact .key haccept hchecks hkey
  · intro h
    cases h with
    | event hevent => exact .inl (.inl hevent)
    | kind hrecord hkind => exact .inl (.inr ⟨_, hrecord, hkind⟩)
    | amount hrecord hkind hhuge =>
        exact .inr ⟨_, accept_of_kind hrecord hkind,
          (write_fault (hprintable hrecord)).mpr (.inl ⟨rfl, rfl, hhuge⟩)⟩
    | key haccept hchecks hkey =>
        obtain ⟨hrecord, -⟩ := accept_ok haccept
        exact .inr ⟨_, haccept, (write_fault (hprintable hrecord)).mpr (.inr ⟨hchecks, hkey⟩)⟩

theorem addBatch_fault (hcall : (Call.addBatch submissions apiKey).Printable) :
    (addBatch c submissions apiKey t).1 = .error (.fault x) ↔
      (Call.addBatch submissions apiKey).Escapes c x := by
  have hprintable : ∀ {records}, acceptBatch c.depth submissions apiKey = .ok records →
      ∀ record ∈ records, Value.PrintableFields record := by
    intro records haccept
    rw [← (acceptBatch_ok haccept).1.records.1]
    exact hcall
  refine checked_eq_error.trans ?_
  rw [acceptBatch_fault]
  constructor
  · rintro ((⟨before, s, after, rfl, hbefore, hevent⟩ | ⟨before, record, after, hrecords, hbefore,
      hkind⟩) | ⟨records, haccept, h⟩)
    · exact .batchEvent hbefore hevent
    · exact .batchKind hrecords hbefore hkind
    · obtain ⟨hne, ⟨usage, husage⟩, hkey⟩ := (addUsage_fault (hprintable haccept)).mp h
      exact .batchKey haccept hne husage hkey
  · intro h
    cases h with
    | batchEvent hbefore hevent => exact .inl (.inl ⟨_, _, _, rfl, hbefore, hevent⟩)
    | batchKind hrecords hbefore hkind =>
        exact .inl (.inr ⟨_, _, _, hrecords, hbefore, hkind⟩)
    | batchKey haccept hne husage hkey =>
        exact .inr ⟨_, haccept,
          (addUsage_fault (hprintable haccept)).mpr ⟨hne, ⟨_, husage⟩, hkey⟩⟩

/-- **A call ends with a fault exactly when one escapes from it**, under whatever circumstances. -/
theorem run_fault {call : Call} (hcall : call.Printable) :
    (call.run c t).1 = .error (.fault x) ↔ call.Escapes c x := by
  cases call with
  | add submission apiKey => exact add_fault hcall
  | addBatch submissions apiKey => exact addBatch_fault hcall

end Ledger

/-! ### Prices -/

namespace Pricing

open Intake

variable {σ : Type} {scheme : IdScheme} {depth : Nat} {ask : Asked σ Query Value}
  {record : Record} {kind : EventKind} {s : σ} {x : Fault}

theorem refuses_sdkCallPrice : Refuses (sdkCallPrice scheme ask record s).1 := by
  unfold sdkCallPrice
  split
  · exact .refuse _
  · exact .guarded _

theorem refuses_tokenUsagePrice : Refuses (tokenUsagePrice scheme ask record s).1 := by
  unfold tokenUsagePrice
  split
  · exact .refuse _
  · exact .guarded _

theorem refuses_totalPrice {dispatch : Asked σ Record Value} :
    Refuses (totalPrice scheme record dispatch s).1 := by
  unfold totalPrice
  split
  · exact .refuse _
  · exact .guarded _

/-- What has a kind with a price is never met by a fault, whatever queries meet. -/
theorem refuses_priceRecord (hresolved : resolveKind depth record priceKinds = .ok kind) :
    Refuses (priceRecord scheme depth ask record s).1 := by
  have hkind := resolveKind_eq_ok.mp hresolved
  have hmem := (acceptedKind_eq_ok.mp hkind).2
  simp only [priceKinds, List.mem_cons, List.not_mem_nil, or_false] at hmem
  unfold priceRecord
  rw [hresolved]
  rcases hmem with rfl | rfl | rfl
  · simp only [priceComponent, resolveKind_component hkind (by decide)]
    exact refuses_sdkCallPrice
  · simp only [priceComponent, resolveKind_component hkind (by decide)]
    exact refuses_tokenUsagePrice
  · exact refuses_totalPrice

/-- A price is a fault only on account of what asks for it. -/
theorem price_fault (submission : Submission) :
    (price scheme depth ask submission s).1 = .error (.fault x) ↔ submission.Unflattened x ∨
      ∃ record, unwrap submission = .ok record ∧ UnshownKind depth record priceKinds x := by
  unfold price
  rw [← unwrap_eq_fault]
  cases hrecord : unwrap submission with
  | error e => simp
  | ok record =>
      simp only [reduceCtorEq, Except.ok.injEq, exists_eq_left', false_or]
      rw [← resolveKind_eq_fault]
      cases hresolved : resolveKind depth record priceKinds with
      | error e =>
          unfold priceRecord
          simp only [hresolved, Except.error.injEq]
      | ok kind => exact iff_of_false (refuses_priceRecord hresolved x) nofun

end Pricing

namespace Ledger

open Intake

/-- **Bad input is refused, but for what escapes.**  Under whatever circumstances, a call whose
records can be written out ends with a fault exactly when one escapes from it: from an event of
unchecked data that cannot be flattened, from a kind or a key that is refused and cannot be shown,
and from a payment of a user whose amount is a whole number without a double.  Whatever else is
wrong is refused.  A price ends with a fault exactly when what asks for it cannot be flattened, or
has no kind with a price and cannot be shown. -/
theorem bad_input_refused {c : Conditions} {call : Call} (t : Tables) (hcall : call.Printable) :
    (∀ x, (call.run c t).1 = .error (.fault x) ↔ call.Escapes c x) ∧
    ∀ submission x, Pricing.priceFrom c.scheme c.depth t submission = .error (.fault x) ↔
      submission.Unflattened x ∨
        ∃ record, unwrap submission = .ok record ∧ UnshownKind c.depth record priceKinds x :=
  ⟨fun _ => run_fault hcall, fun submission _ => Pricing.price_fault submission⟩

/-- The least amount without a double can be written out and ends with an overflow, and an event of
no kind has no price but a fault. -/
theorem bad_input_refused_least :
    let c := Conditions.ideal .uuid Uuid.ofNat
    let call : Call :=
      .add (.event ⟨Timestamp.first, .payment (.uuid default) ⟨Binary64.leastHuge⟩⟩) .null
    let bogus : UntypedEvent := ⟨"bogus", Timestamp.first, .null, none⟩
    call.Printable ∧ (call.run c Tables.empty).1 = .error (.fault Ingest.creditOverflow) ∧
      Pricing.priceFrom c.scheme c.depth Tables.empty (.untyped bogus none)
        = .error (.fault (.badValue "'bogus' is not a valid EventType")) := by
  intro c call bogus
  have hsize : (Binary64.leastHuge : Int).natAbs = Binary64.leastHuge := Int.natAbs_natCast _
  have hcall : call.Printable := by
    refine List.forall_mem_singleton.mpr ?_
    refine ⟨trivial, trivial, ⟨?_, trivial⟩, trivial, trivial⟩
    show (Binary64.leastHuge : Int).natAbs < 10 ^ Text.maxDigits
    rw [hsize]
    exact Ingest.leastHuge_lt
  obtain ⟨hrun, hprice⟩ := bad_input_refused Tables.empty hcall
  refine ⟨hcall, (hrun _).mpr (.amount rfl rfl ⟨⟨_, rfl⟩, _, rfl, hsize.ge⟩), ?_⟩
  have hunknown : bogus.unknownKind = .badValue "'bogus' is not a valid EventType" :=
    congrArg Fault.badValue (by decide +kernel)
  rw [← hunknown]
  exact (hprice _ _).mpr (.inl (.kind rfl))

end Ledger

end UsageLedger
