/-
What a write reads of its record.

A record goes into a write in two ways only: through the checks of its kind, which take the user
and the payload out of it, and through the time that is read of it.  So two records that pass the
checks alike (`CheckedAlike`) are written alike when their times are read alike (`add_alike`,
`addBatch_alike`), however differently they say what they say.
-/
import UsageLedger.Proofs.Intake.Aggregation
import UsageLedger.Proofs.Ledger.Accepted

namespace UsageLedger

open Intake

/-! ### Lists of checks -/

/-- Lists of checks that fare alike item by item fare alike. -/
theorem SameFate.mapM {ε α β γ δ : Type} {R : γ → δ → Prop} {f : α → Except ε γ}
    {g : β → Except ε δ} {as : List α} {bs : List β}
    (h : List.Forall₂ (fun a b => SameFate (f a) (g b) R) as bs) :
    SameFate (as.mapM f) (bs.mapM g) (List.Forall₂ R) := by
  induction h with
  | nil => exact .ok .nil
  | cons hab _ ih =>
      rw [List.mapM_cons, List.mapM_cons]
      refine hab.bind fun c d hcd => ih.bind fun cs ds hrest => ?_
      exact .ok (.cons hcd hrest)

/-- Lists of checks with the same outcomes have the same outcome. -/
theorem mapM_eq_of_forall₂ {ε α β γ : Type} {f : α → Except ε γ} {g : β → Except ε γ} {as : List α}
    {bs : List β} (h : List.Forall₂ (fun a b => f a = g b) as bs) : as.mapM f = bs.mapM g := by
  induction h with
  | nil => rfl
  | cons hab _ ih => rw [List.mapM_cons, List.mapM_cons, hab, ih]

theorem forM_eq_of_forall₂ {ε α β : Type} {f : α → Except ε Unit} {g : β → Except ε Unit}
    {as : List α} {bs : List β} (h : List.Forall₂ (fun a b => f a = g b) as bs) :
    as.forM f = bs.forM g := by
  induction h with
  | nil => rfl
  | @cons a b as bs hab _ ih =>
      show (f a >>= fun _ => as.forM f) = (g b >>= fun _ => bs.forM g)
      rw [hab, ih]

/-! ### Checks -/

/-- Two records have times that are read alike. -/
def TimedAlike (r r' : Record) : Prop :=
  parseTimestamp (r.get timestampKey) = parseTimestamp (r'.get timestampKey)

/-- Two checked records say the same, but for their times. -/
def UsageRecord.SaysAlike (u u' : UsageRecord) : Prop := u.user = u'.user ∧ u.data = u'.data

/-- Two records pass the checks of a kind alike. -/
def CheckedAlike (scheme : IdScheme) (r r' : Record) : EventKind → Prop
  | .sdkCall => Ingest.checkSdkCall scheme r = Ingest.checkSdkCall scheme r'
  | .payment => Ingest.checkPayment scheme r = Ingest.checkPayment scheme r'
  | .tokenUsage =>
    SameFate (UsageRecord.ofRecord scheme r) (UsageRecord.ofRecord scheme r') UsageRecord.SaysAlike
  | .addKey => Ingest.checkKeyGrant r = Ingest.checkKeyGrant r'
  | .requestSdkCall | .requestTokenUsage | .requestPayment => True

variable {scheme : IdScheme} {r r' : Record} {kind : EventKind}

theorem parsePayload_of_get (hdata : r.get dataKey = r'.get dataKey) {α : Type}
    (check : Value → Validated α) (label : String) :
    parsePayload check r label = parsePayload check r' label := by
  unfold parsePayload
  rw [hdata]

/-- The checks look at the user and the payload. -/
theorem checkedAlike_of_get
    (huser : ∀ label, requireUser scheme r label = requireUser scheme r' label)
    (hdata : r.get dataKey = r'.get dataKey) (kind : EventKind) :
    CheckedAlike scheme r r' kind := by
  cases kind with
  | sdkCall =>
      unfold CheckedAlike Ingest.checkSdkCall
      rw [huser, parsePayload_of_get hdata]
  | payment =>
      unfold CheckedAlike Ingest.checkPayment Ingest.checkCredit Ingest.submittedCredit
      rw [huser, parsePayload_of_get hdata, hdata]
  | tokenUsage =>
      unfold CheckedAlike UsageRecord.ofRecord
      rw [huser, hdata]
      refine .after _ fun user _ => .after _ fun data _ => .after _ fun _ _ => .ok ⟨rfl, rfl⟩
  | addKey =>
      unfold CheckedAlike Ingest.checkKeyGrant
      rw [parsePayload_of_get hdata]
  | requestSdkCall | requestTokenUsage | requestPayment => trivial

theorem acceptedKind_of_get (h : r.get Event.typeKey = r'.get Event.typeKey)
    (accepted : List EventKind) : acceptedKind r accepted = acceptedKind r' accepted := by
  unfold acceptedKind
  rw [h]

theorem resolveKind_of_get (h : r.get Event.typeKey = r'.get Event.typeKey) {depth : Nat}
    {accepted : List EventKind} :
    resolveKind depth r accepted = resolveKind depth r' accepted := by
  rw [resolveKind, resolveKind, acceptedKind_of_get h]

namespace UsageRecord

/-- Records that say the same with times that are read alike have the same groups. -/
theorem aggregate_alike {us us' : List UsageRecord}
    (h : List.Forall₂ (fun u u' => SaysAlike u u' ∧
      parseTimestamp u.reportedTimestamp = parseTimestamp u'.reportedTimestamp) us us') :
    UsageGroup.aggregate us = UsageGroup.aggregate us' := by
  have hsingles : us.mapM UsageGroup.single = us'.mapM UsageGroup.single := by
    refine mapM_eq_of_forall₂ (h.imp ?_)
    rintro u u' ⟨⟨huser, hdata⟩, htime⟩
    unfold UsageGroup.single
    rw [huser, hdata, htime]
  unfold UsageGroup.aggregate
  rw [hsingles]

end UsageRecord

/-! ### Writes -/

namespace Ingest

variable {c : Conditions} {apiKey : Value} {t : Tables}

theorem storeSingle_alike (h : TimedAlike r r') {user : UserId} {table : Table} {values : Record} :
    storeSingle c kind user r apiKey table values t
      = storeSingle c kind user r' apiKey table values t := by
  unfold storeSingle storeEvent canonicalTimestamp
  rw [h]

theorem addUsage_alike {rs rs' : List Record}
    (h : List.Forall₂ (fun r r' => CheckedAlike c.scheme r r' .tokenUsage ∧ TimedAlike r r')
      rs rs') :
    addUsage c rs apiKey t = addUsage c rs' apiKey t := by
  have hchecked : SameFate (UsageRecord.ofRecords c.scheme rs) (UsageRecord.ofRecords c.scheme rs')
      (List.Forall₂ fun u u' => UsageRecord.SaysAlike u u' ∧
        parseTimestamp u.reportedTimestamp = parseTimestamp u'.reportedTimestamp) := by
    refine SameFate.mapM (h.imp ?_)
    rintro r r' ⟨hchecked, htimed⟩
    rcases hchecked with he | ⟨u, u', hu, hu', hsays⟩
    · exact .inl he
    · have htime : u.reportedTimestamp = r.get timestampKey :=
        (UsageRecord.checked_of_ofRecord hu).time
      have htime' : u'.reportedTimestamp = r'.get timestampKey :=
        (UsageRecord.checked_of_ofRecord hu').time
      refine .inr ⟨u, u', hu, hu', hsays, ?_⟩
      rw [htime, htime']
      exact htimed
  have hempty : rs.isEmpty = rs'.isEmpty := by cases h <;> rfl
  unfold addUsage
  rw [hempty, h.length_eq]
  rcases hchecked with ⟨e, hrs, hrs'⟩ | ⟨us, us', hrs, hrs', halike⟩
  · rw [hrs, hrs']
  · have hstore : ∀ key, storeUsage c us key = storeUsage c us' key := by
      intro key
      unfold storeUsage
      rw [UsageRecord.aggregate_alike halike]
    rw [hrs, hrs']
    simp only [checked, hstore]

end Ingest

namespace Ledger

open Ingest

variable {c : Conditions} {apiKey : Value} {t : Tables} {s s' : Submission}

theorem records_of_acceptBatch {ss : List Submission} {rs records : List Record}
    (hs : ss.mapM unwrap = .ok rs) (h : acceptBatch c.depth ss apiKey = .ok records) :
    records = rs := by
  obtain ⟨hdelivers, -⟩ := acceptBatch_ok h
  cases hdelivers with
  | batch hrecords _ => exact Except.ok.inj (hrecords.symm.trans hs)

/-- **Records that pass the checks alike and have times that are read alike are written alike.** -/
theorem write_alike (hchecked : CheckedAlike c.scheme r r' kind) (htimed : TimedAlike r r') :
    write c kind r apiKey t = write c kind r' apiKey t := by
  have hstore : ∀ {kind user table values}, storeSingle c kind user r apiKey table values t
      = storeSingle c kind user r' apiKey table values t := storeSingle_alike htimed
  unfold write
  cases kind with
  | sdkCall =>
      have hcheck : checkSdkCall c.scheme r = checkSdkCall c.scheme r' := hchecked
      simp only [addSdkCall, hcheck, hstore]
  | payment =>
      have hcheck : checkPayment c.scheme r = checkPayment c.scheme r' := hchecked
      simp only [addPayment, hcheck, hstore]
  | tokenUsage => exact addUsage_alike (.cons ⟨hchecked, htimed⟩ .nil)
  | addKey =>
      have hcheck : checkKeyGrant r = checkKeyGrant r' := hchecked
      have hstoreKey : ∀ data, storeKey c r data = storeKey c r' data := by
        intro data
        unfold storeKey canonicalTimestamp
        rw [htimed]
      simp only [addKey, hcheck, hstoreKey]
  | requestSdkCall | requestTokenUsage | requestPayment => rfl

section Accepting

variable (hs : unwrap s = .ok r) (hs' : unwrap s' = .ok r')
  (hkind : r.get Event.typeKey = r'.get Event.typeKey)

include hs hs' hkind

/-- The kind of a record decides whether it is accepted. -/
theorem accept_alike :
    accept c.depth s apiKey
      = (accept c.depth s' apiKey).map fun accepted => (accepted.1, r) := by
  unfold accept
  rw [hs, hs']
  show (resolveKind c.depth r writeKinds >>= _) = (resolveKind c.depth r' writeKinds >>= _).map _
  rw [resolveKind_of_get hkind]
  cases resolveKind c.depth r' writeKinds with
  | error f => rfl
  | ok kind =>
      show (if _ then _ else _) = Except.map _ (if _ then _ else _)
      split <;> rfl

theorem add_alike
    (hchecked : ∀ kind, acceptedKind r writeKinds = .ok kind → CheckedAlike c.scheme r r' kind)
    (htimed : TimedAlike r r') : add c s apiKey t = add c s' apiKey t := by
  unfold add
  rw [accept_alike hs hs' hkind]
  cases haccept : accept c.depth s' apiKey with
  | error f => rfl
  | ok accepted =>
      obtain ⟨kind, record⟩ := accepted
      obtain ⟨hrecord, hresolved, -⟩ := accept_ok haccept
      cases hs'.symm.trans hrecord
      have hchecked' := hchecked kind ((acceptedKind_of_get hkind writeKinds).trans hresolved)
      exact write_alike hchecked' htimed

end Accepting

section Batches

variable {ss ss' : List Submission} {rs rs' : List Record} (hs : ss.mapM unwrap = .ok rs)
  (hs' : ss'.mapM unwrap = .ok rs')
  (hkinds : List.Forall₂ (fun r r' : Record => r.get Event.typeKey = r'.get Event.typeKey) rs rs')

include hs hs' hkinds

/-- The kinds of the records decide whether a batch is accepted. -/
theorem acceptBatch_alike :
    acceptBatch c.depth ss apiKey = (acceptBatch c.depth ss' apiKey).map fun _ => rs := by
  have hbatchable : rs.forM (checkBatchable c.depth) = rs'.forM (checkBatchable c.depth) := by
    refine forM_eq_of_forall₂ (hkinds.imp fun r r' hkind => ?_)
    unfold checkBatchable
    rw [resolveKind_of_get hkind]
  unfold acceptBatch
  rw [hs, hs']
  show (rs.forM (checkBatchable c.depth) >>= _) = (rs'.forM (checkBatchable c.depth) >>= _).map _
  rw [hbatchable]
  cases rs'.forM (checkBatchable c.depth) with
  | error f => rfl
  | ok _ =>
      show (if _ then _ else _) = Except.map _ (if _ then _ else _)
      split <;> rfl

theorem addBatch_alike
    (halike : List.Forall₂ (fun r r' => CheckedAlike c.scheme r r' .tokenUsage ∧ TimedAlike r r')
      rs rs') : addBatch c ss apiKey t = addBatch c ss' apiKey t := by
  unfold addBatch
  rw [acceptBatch_alike hs hs' hkinds]
  cases haccept : acceptBatch c.depth ss' apiKey with
  | error f => rfl
  | ok records =>
      cases records_of_acceptBatch hs' haccept
      exact addUsage_alike halike

end Batches

end Ledger

end UsageLedger
