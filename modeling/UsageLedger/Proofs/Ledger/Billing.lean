/-
What users are charged for is what accepted calls reported.

A query reads the debits of a user off the events of the user, each through the
identifier of its particulars (`drawn`).  A posting adds its own debits to those there
are, because identifiers of events are new and particulars belong to an event
(`drawn_append`).  So the debits of a user grow by what each accepted call charges the
user: SDK calls one by one, token usage by groups whose sums are those of the records.
What does not overflow on the way is priced exactly (`runs_priced`).
-/
import UsageLedger.Proofs.Ledger.Consistency
import UsageLedger.Proofs.Ledger.Pricing
import UsageLedger.Proofs.Store.Sums

namespace UsageLedger

/-! ### What calls charge -/

namespace Ledger

open Intake

/-- The records that a call submits. -/
def Call.records : Call → List Record
  | .add submission _ => (unwrap submission).toOption.toList
  | .addBatch submissions _ => submissions.filterMap fun s => (unwrap s).toOption

/-- What a record of an SDK call charges a user, when it is one and names the user. -/
def sdkDebit? (scheme : IdScheme) (user : UserId) (record : Record) : Option Int :=
  match acceptedKind record writeKinds, requireUser scheme record EventKind.sdkCall.name,
    SdkCallData.ofValue (record.get dataKey) with
  | .ok .sdkCall, .ok payer, .valid data => if payer = user then some data.debitAmount else none
  | _, _, _ => none

/-- What a record of token usage charges a user, when it is one and names the user. -/
def usageDebit? (scheme : IdScheme) (user : UserId) (record : Record) : Option Int :=
  match acceptedKind record writeKinds, requireUser scheme record EventKind.tokenUsage.name,
    TokenUsageData.ofValue (record.get dataKey) with
  | .ok .tokenUsage, .ok payer, .valid data =>
    if payer = user then some (data.inputDebitAmount + data.outputDebitAmount) else none
  | _, _, _ => none

/-- The debits that calls report for a user, one for each SDK call. -/
def sdkCharges (scheme : IdScheme) (user : UserId) (calls : List Call) : List Int :=
  (calls.flatMap Call.records).filterMap (sdkDebit? scheme user)

/-- The debits that calls report for a user, one for each record of token usage. -/
def usageCharges (scheme : IdScheme) (user : UserId) (calls : List Call) : List Int :=
  (calls.flatMap Call.records).filterMap (usageDebit? scheme user)

end Ledger

/-! ### Reading debits through events -/

section drawn

variable {ρ γ : Type} {ident : ρ → Uuid} {f : ρ → γ} {user : UserId}

/-- What the events of a user draw from particulars. -/
def drawn (ident : ρ → Uuid) (f : ρ → γ) (user : UserId) (rows : List ρ)
    (events : List EventRow) : List γ :=
  events.filterMap fun e =>
    if e.user = some user.toCell then (rows.find? fun row => ident row = e.id).map f else none

theorem drawn_nil_rows {events : List EventRow} : drawn ident f user [] events = [] := by
  simp [drawn]

/-- Particulars that belong to other events draw nothing, so what is posted draws on its own. -/
theorem drawn_append {rows rows' : List ρ} {events events' : List EventRow}
    (hold : ∀ e ∈ events, e.id ∉ rows'.map ident) (hnew : ∀ e ∈ events', e.id ∉ rows.map ident) :
    drawn ident f user (rows ++ rows') (events ++ events')
      = drawn ident f user rows events ++ drawn ident f user rows' events' := by
  have hnone : ∀ {rows : List ρ} {id : Uuid}, id ∉ rows.map ident →
      (rows.find? fun row => ident row = id) = none := by
    intro rows id hid
    rw [List.find?_eq_none]
    intro row hrow hsame
    exact hid (List.mem_map.mpr ⟨row, hrow, of_decide_eq_true hsame⟩)
  unfold drawn
  rw [List.filterMap_append]
  congr 1
  · apply List.filterMap_congr
    intro e he
    rw [List.find?_append, hnone (hold e he), Option.or_none]
  · apply List.filterMap_congr
    intro e he
    rw [List.find?_append, hnone (hnew e he), Option.none_or]

theorem mem_of_mem_drawn {rows : List ρ} {events : List EventRow} {x : γ}
    (h : x ∈ drawn ident f user rows events) :
    ∃ row ∈ rows, x = f row := by
  obtain ⟨e, -, hx⟩ := List.mem_filterMap.mp h
  split at hx
  · obtain ⟨row, hrow, rfl⟩ := Option.map_eq_some_iff.mp hx
    exact ⟨row, List.mem_of_find?_eq_some hrow, rfl⟩
  · cases hx

end drawn

namespace Tables

variable {t : Tables} {user : UserId}

theorem sdkDebits_eq_drawn :
    t.sdkDebits user = drawn (·.id) (·.debitAmount) user t.sdkCalls t.events := by
  rw [sdkDebits, eventsOf, List.filterMap_map, List.filterMap_filter]
  apply List.filterMap_congr
  intro e _
  by_cases hname : e.user = some user.toCell <;> simp [hname]

theorem tokenDebits_eq_drawn :
    t.tokenDebits user = drawn (·.id) (fun row => (row.inputDebitAmount, row.outputDebitAmount))
      user t.tokenUsages t.events := by
  rw [tokenDebits, eventsOf, List.filterMap_map, List.filterMap_filter]
  apply List.filterMap_congr
  intro e _
  by_cases hname : e.user = some user.toCell <;> simp [hname]

end Tables

/-! ### What postings charge -/

namespace Ledger

open Intake

variable {scheme : IdScheme} {user : UserId} {record : Record}

theorem records_add {submission : Submission} {apiKey : Value}
    (hrecord : unwrap submission = .ok record) :
    (Call.add submission apiKey).records = [record] := by
  rw [Call.records, hrecord]
  rfl

theorem Delivers.records {call : Call} {records : List Record} (h : Delivers call records) :
    call.records = records ∧
      ∀ record ∈ records, acceptedKind record writeKinds = .ok .tokenUsage := by
  cases h with
  | single hrecord hkind => exact ⟨records_add hrecord, by simpa using hkind⟩
  | batch hrecords hkinds => exact ⟨filterMap_of_mapM hrecords, hkinds⟩

theorem sdkDebit?_of_kind {kind : EventKind} (hkind : acceptedKind record writeKinds = .ok kind)
    (hother : kind ≠ .sdkCall) : sdkDebit? scheme user record = none := by
  unfold sdkDebit?
  rw [hkind]
  cases kind <;> first | rfl | exact absurd rfl hother

theorem usageDebit?_of_kind {kind : EventKind} (hkind : acceptedKind record writeKinds = .ok kind)
    (hother : kind ≠ .tokenUsage) : usageDebit? scheme user record = none := by
  unfold usageDebit?
  rw [hkind]
  cases kind <;> first | rfl | exact absurd rfl hother

end Ledger

theorem UserId.toCell_injective {u v : UserId} (h : u.toCell = v.toCell) : u = v := by
  cases u <;> cases v <;> cases h <;> rfl

namespace Posting

/-- The debits of the SDK calls of a user that a posting has. -/
def sdkAmounts (p : Posting) (user : UserId) : List Int :=
  (drawn (·.id) (·.debitAmount) user p.sdkCalls p.events).map Cell.amount

/-- The debits of the token usage of a user that a posting has, by groups. -/
def tokenAmounts (p : Posting) (user : UserId) : List Int :=
  (drawn (·.id) (fun row => (row.inputDebitAmount, row.outputDebitAmount)) user p.tokenUsages
    p.events).map fun d => d.1.amount + d.2.amount

/-- What a group charges a user, when it is about the user. -/
def groupDebit? (user : UserId) (g : UsageGroup) : Option Int :=
  if g.user = user then some (g.inputDebitAmount + g.outputDebitAmount) else none

end Posting

namespace UsageGroup.Aggregates

variable {records : List UsageRecord} {singles groups : List UsageGroup}

/-- What the groups of a batch charge a user adds up to what its records charge. -/
theorem sum_debits (ha : Aggregates records singles groups) (user : UserId) :
    (groups.filterMap (Posting.groupDebit? user)).sum
      = (singles.filterMap (Posting.groupDebit? user)).sum := by
  have hsum : ∀ gs : List UsageGroup, (gs.filterMap (Posting.groupDebit? user)).sum
      = (gs.map fun g => (Posting.groupDebit? user g).getD 0).sum := by
    intro gs
    induction gs with
    | nil => rfl
    | cons g gs ih =>
        rw [List.filterMap_cons, List.map_cons, List.sum_cons, ← ih]
        cases Posting.groupDebit? user g <;> simp
  rw [hsum, hsum]
  apply ha.sum_eq
  intro g h hkey
  obtain ⟨huser, -⟩ := sameKey_iff.mp hkey
  simp only [Posting.groupDebit?, merge, huser]
  split
  · simp only [Option.getD_some]
    ring
  · rfl

/-- A batch has a group of a user only if it has a record of the user. -/
theorem no_debits (ha : Aggregates records singles groups) (user : UserId) :
    groups.filterMap (Posting.groupDebit? user) = []
      ↔ singles.filterMap (Posting.groupDebit? user) = [] := by
  rw [List.filterMap_eq_nil_iff, List.filterMap_eq_nil_iff]
  apply ha.forall_mem_iff
  intro g h hkey
  obtain ⟨huser, -⟩ := sameKey_iff.mp hkey
  simp only [Posting.groupDebit?, merge, huser]
  split <;> simp

end UsageGroup.Aggregates

namespace Posting

/-- Rows under different identifiers are found by their identifiers. -/
theorem find?_zipWith {ρ : Type} {row : Uuid → UsageGroup → ρ} {ident : ρ → Uuid}
    (hident : ∀ id g, ident (row id g) = id) {ids : List Uuid} {groups : List UsageGroup}
    (hnodup : ids.Nodup) {id : Uuid} {g : UsageGroup} (h : (id, g) ∈ ids.zip groups) :
    ((List.zipWith row ids groups).find? fun r => ident r = id) = some (row id g) := by
  induction ids generalizing groups with
  | nil => cases h
  | cons first ids ih =>
      cases groups with
      | nil => cases h
      | cons h' groups =>
          rw [List.nodup_cons] at hnodup
          rw [List.zip_cons_cons, List.mem_cons] at h
          rw [List.zipWith_cons_cons, List.find?_cons, hident]
          rcases h with heq | hrest
          · cases heq
            rw [decide_eq_true rfl]
          · have hne : first ≠ id := fun heq => hnodup.1 (heq ▸ (List.of_mem_zip hrest).1)
            rw [decide_eq_false hne]
            exact ih hnodup.2 hrest

/-- A posting of token usage has the debits of the groups of a user. -/
theorem tokenAmounts_usage {ids : List Uuid} {key : Uuid} {groups : List UsageGroup}
    {user : UserId} (hlength : ids.length = groups.length) (hnodup : ids.Nodup) :
    (usage ids key groups).tokenAmounts user = groups.filterMap (groupDebit? user) := by
  have hname : ∀ g : UsageGroup, some g.user.toCell = some user.toCell ↔ g.user = user :=
    fun g => ⟨fun h => UserId.toCell_injective (Option.some.inj h), fun h => by rw [h]⟩
  have hevents : (usage ids key groups).events
      = (ids.zip groups).map fun pair => groupEvent key pair.1 pair.2 :=
    List.map_uncurry_zip_eq_zipWith.symm
  have hgroups : groups = (ids.zip groups).map Prod.snd := (List.map_snd_zip hlength.ge).symm
  unfold tokenAmounts drawn
  rw [hevents, List.filterMap_map, List.map_filterMap]
  conv_rhs => rw [hgroups]
  rw [List.filterMap_map]
  apply List.filterMap_congr
  rintro ⟨id, g⟩ hmem
  show Option.map _ (if some g.user.toCell = some user.toCell then
      Option.map _ ((List.zipWith groupRow ids groups).find? fun row => row.id = id) else none)
    = if g.user = user then some (g.inputDebitAmount + g.outputDebitAmount) else none
  rw [find?_zipWith (fun _ _ => rfl) hnodup hmem]
  by_cases huser : g.user = user
  · rw [if_pos ((hname g).mpr huser), if_pos huser]
    rfl
  · rw [if_neg (mt (hname g).mp huser), if_neg huser]
    rfl

end Posting

namespace Posts

open Ledger Intake

variable {scheme : IdScheme} {call : Call} {o : Option Uuid} {p : Posting}

/-- A posting has the debits of the SDK calls that its call reports. -/
theorem sdkAmounts_eq (h : Posts scheme call o p) (user : UserId) :
    p.sdkAmounts user = call.records.filterMap (sdkDebit? scheme user) := by
  have hnone : ∀ {record : Record} {kind : EventKind},
      acceptedKind record writeKinds = .ok kind → kind ≠ .sdkCall →
      [record].filterMap (sdkDebit? scheme user) = [] := by
    intro record kind hkind hother
    rw [List.filterMap_cons_none (sdkDebit?_of_kind hkind hother), List.filterMap_nil]
  cases h with
  | @sdkCall submission apiKey record payer data key time id hrecord hkind hchecked _ _ =>
      obtain ⟨huser, hdata, -⟩ := Ingest.checkSdkCall_ok hchecked
      have hdebit : sdkDebit? scheme user record
          = if payer = user then some data.debitAmount else none := by
        unfold sdkDebit?
        rw [hkind, huser, hdata]
      rw [records_add hrecord]
      by_cases hpayer : payer = user
      · rw [List.filterMap_cons_some (by rw [hdebit, if_pos hpayer])]
        simp [Posting.sdkAmounts, Posting.sdkCall, Posting.event, drawn, hpayer, Cell.amount]
      · have hcell : payer.toCell ≠ user.toCell := mt UserId.toCell_injective hpayer
        rw [List.filterMap_cons_none (by rw [hdebit, if_neg hpayer])]
        simp [Posting.sdkAmounts, Posting.sdkCall, Posting.event, drawn, hcell]
  | payment hrecord hkind =>
      rw [records_add hrecord, hnone hkind (by decide), Posting.sdkAmounts, Posting.payment,
        drawn_nil_rows, List.map_nil]
  | usage hdelivers =>
      obtain ⟨hrecords, hkinds⟩ := hdelivers.records
      rw [hrecords, Posting.sdkAmounts, Posting.usage, drawn_nil_rows, List.map_nil, eq_comm,
        List.filterMap_eq_nil_iff]
      exact fun record hrecord => sdkDebit?_of_kind (hkinds record hrecord) (by decide)
  | grant hrecord hkind =>
      rw [records_add hrecord, hnone hkind (by decide)]
      rfl

/-- The groups of single records charge a user what the records report. -/
theorem singles_debits {records : List Record} {usage : List UsageRecord}
    {groups singles : List UsageGroup} (hkinds : ∀ record ∈ records,
      acceptedKind record writeKinds = .ok .tokenUsage)
    (husage : UsageRecord.ofRecords scheme records = .ok usage)
    (ha : UsageGroup.Aggregates usage singles groups) (user : UserId) :
    singles.filterMap (Posting.groupDebit? user) = records.filterMap (usageDebit? scheme user) := by
  let debit? (r : UsageRecord) : Option Int :=
    if r.user = user then some (r.data.inputDebitAmount + r.data.outputDebitAmount) else none
  have hsingles : usage.filterMap debit? = singles.filterMap (Posting.groupDebit? user) := by
    apply filterMap_eq_of_forall₂ ha.each
    intro r _ g hg
    obtain ⟨t, -, rfl⟩ := UsageGroup.single_ok hg
    rfl
  rw [← hsingles, eq_comm]
  apply filterMap_eq_of_forall₂ (mapM_eq_ok.mp husage)
  intro record hrecord r hr
  have hchecked := UsageRecord.checked_of_ofRecord hr
  unfold usageDebit?
  rw [hkinds record hrecord, hchecked.user, hchecked.data]

/-- A posting has debits of token usage that add up to what its call reports, and has none when its
call reports none. -/
theorem tokenAmounts_sum (h : Posts scheme call o p) (hnodup : (p.events.map (·.id)).Nodup)
    (user : UserId) :
    (p.tokenAmounts user).sum = (call.records.filterMap (usageDebit? scheme user)).sum ∧
      (call.records.filterMap (usageDebit? scheme user) = [] → p.tokenAmounts user = []) := by
  have hnone : ∀ {record : Record} {kind : EventKind},
      acceptedKind record writeKinds = .ok kind → kind ≠ .tokenUsage →
      [record].filterMap (usageDebit? scheme user) = [] := by
    intro record kind hkind hother
    rw [List.filterMap_cons_none (usageDebit?_of_kind hkind hother), List.filterMap_nil]
  cases h with
  | sdkCall hrecord hkind =>
      rw [records_add hrecord, hnone hkind (by decide), Posting.tokenAmounts, Posting.sdkCall,
        drawn_nil_rows]
      exact ⟨rfl, fun _ => rfl⟩
  | payment hrecord hkind =>
      rw [records_add hrecord, hnone hkind (by decide), Posting.tokenAmounts, Posting.payment,
        drawn_nil_rows]
      exact ⟨rfl, fun _ => rfl⟩
  | grant hrecord hkind =>
      rw [records_add hrecord, hnone hkind (by decide)]
      exact ⟨rfl, fun _ => rfl⟩
  | @usage _ records usage groups ids key hdelivers husage hgroups hlength =>
      obtain ⟨hrecords, hkinds⟩ := hdelivers.records
      obtain ⟨singles, ha⟩ := UsageGroup.aggregates_of_aggregate hgroups
      rw [Posting.usage_event_ids hlength] at hnodup
      rw [hrecords, Posting.tokenAmounts_usage hlength hnodup,
        ← singles_debits hkinds husage ha user]
      exact ⟨ha.sum_debits user, (ha.no_debits user).mpr⟩

end Posts

/-! ### One posting -/

section post

variable {t : Tables} {p : Posting}

theorem sdkAmounts_post (ht : Consistent t) (hp : p.Sound) (hadmitted : p.Admitted t)
    (user : UserId) : (t.post p).sdkAmounts user = t.sdkAmounts user ++ p.sdkAmounts user := by
  rw [Tables.sdkAmounts, Tables.sdkAmounts, Posting.sdkAmounts, Tables.sdkDebits_eq_drawn,
    Tables.sdkDebits_eq_drawn, ← List.map_append]
  refine congrArg _ (drawn_append (fun e he hid => ?_) fun e he hid => ?_)
  · exact hp.old_not_mem hadmitted he (by simp [Posting.detailIds, hid])
  · exact ht.new_not_mem hadmitted he (by simp [Tables.detailIds, hid])

theorem tokenAmounts_post (ht : Consistent t) (hp : p.Sound) (hadmitted : p.Admitted t)
    (user : UserId) :
    (t.post p).tokenAmounts user = t.tokenAmounts user ++ p.tokenAmounts user := by
  rw [Tables.tokenAmounts, Tables.tokenAmounts, Posting.tokenAmounts, Tables.tokenDebits_eq_drawn,
    Tables.tokenDebits_eq_drawn, ← List.map_append]
  refine congrArg _ (drawn_append (fun e he hid => ?_) fun e he hid => ?_)
  · exact hp.old_not_mem hadmitted he (by simp [Posting.detailIds, hid])
  · exact ht.new_not_mem hadmitted he (by simp [Tables.detailIds, hid])

end post

/-! ### Debits of consistent tables -/

namespace Consistent

variable {t : Tables} {user : UserId}

theorem sdkDebits_whole (ht : Consistent t) : ∀ cell ∈ t.sdkDebits user, ∃ n, cell = .whole n := by
  intro cell hcell
  rw [Tables.sdkDebits_eq_drawn] at hcell
  obtain ⟨row, hrow, rfl⟩ := mem_of_mem_drawn hcell
  obtain ⟨n, hn, -⟩ := ht.debits row hrow
  exact ⟨n, hn⟩

/-- The two debits of a row of token usage are whole and not negative. -/
theorem tokenDebits_whole (ht : Consistent t) :
    ∀ d ∈ t.tokenDebits user, ∃ m n, d = (.whole m, .whole n) ∧ 0 ≤ m ∧ 0 ≤ n := by
  intro d hd
  rw [Tables.tokenDebits_eq_drawn] at hd
  obtain ⟨row, hrow, rfl⟩ := mem_of_mem_drawn hd
  obtain ⟨m, hm, hm', -⟩ := ht.counters row hrow row.inputDebitAmount
    (by simp [TokenUsageRow.counters])
  obtain ⟨n, hn, hn', -⟩ := ht.counters row hrow row.outputDebitAmount
    (by simp [TokenUsageRow.counters])
  exact ⟨m, n, Prod.ext hm hn, hm', hn'⟩

theorem answer_sdkDebits (ht : Consistent t) :
    t.answer (.sdkDebits user) = sqlSum ((t.sdkAmounts user).map SqlNumber.whole) :=
  Tables.answer_sdkDebits (sdkDebits_whole ht)

theorem answer_tokenDebits (ht : Consistent t)
    (hrows : ∀ n ∈ t.tokenAmounts user, Intake.fitsInt64 n = true) :
    t.answer (.tokenDebits user) = sqlSum ((t.tokenAmounts user).map SqlNumber.whole) := by
  refine Tables.answer_tokenDebits (fun d hd => ?_) hrows
  obtain ⟨m, n, rfl, -⟩ := tokenDebits_whole ht d hd
  exact ⟨m, n, rfl⟩

end Consistent

/-- No rows are owed nothing, and a sum is owed as it is. -/
theorem Pricing.owed_of_fits {t : Tables} {query : Query} {user : UserId} {label : String}
    {ns : List Int} (hanswer : t.answer query = sqlSum (ns.map SqlNumber.whole))
    (hfits : RunningTotalsFit ns) :
    owed t query user label = .ok ns.sum := by
  rw [sqlSum_whole hfits] at hanswer
  cases ns with
  | nil => exact owed_ok hanswer rfl
  | cons n ns => exact owed_ok hanswer rfl

/-! ### Runs -/

namespace Ledger

open Intake

variable {scheme : IdScheme}

/-- The debits of SDK calls after postings are those before and those that the calls report. -/
theorem sdkAmounts_postings {calls : List Call} {ps : List Posting} {t : Tables}
    (hposts : List.Forall₂ (fun call p => ∃ o, Posts scheme call o p) calls ps)
    (hadmitted : AdmittedAll ps t) (ht : Consistent t) (user : UserId) :
    (ps.foldl Tables.post t).sdkAmounts user
      = t.sdkAmounts user ++ sdkCharges scheme user calls := by
  induction hposts generalizing t with
  | nil => simp [sdkCharges]
  | cons hp _ ih =>
      obtain ⟨o, hp⟩ := hp
      rw [List.foldl_cons, ih hadmitted.2 (ht.post hp.sound hadmitted.1),
        sdkAmounts_post ht hp.sound hadmitted.1, hp.sdkAmounts_eq, List.append_assoc, sdkCharges,
        sdkCharges, List.flatMap_cons, List.filterMap_append]

/-- The debits of token usage after postings add up to those before and those that the calls
report, and calls that report none leave them as they were. -/
theorem tokenAmounts_postings {calls : List Call} {ps : List Posting} {t : Tables}
    (hposts : List.Forall₂ (fun call p => ∃ o, Posts scheme call o p) calls ps)
    (hadmitted : AdmittedAll ps t) (ht : Consistent t) (user : UserId) :
    ((ps.foldl Tables.post t).tokenAmounts user).sum
        = (t.tokenAmounts user).sum + (usageCharges scheme user calls).sum ∧
      (usageCharges scheme user calls = [] →
        (ps.foldl Tables.post t).tokenAmounts user = t.tokenAmounts user) := by
  induction hposts generalizing t with
  | nil => simp [usageCharges]
  | @cons call p calls ps hp _ ih =>
      obtain ⟨o, hp⟩ := hp
      obtain ⟨hsum, hnone⟩ := hp.tokenAmounts_sum hadmitted.1.nodup user
      obtain ⟨ihsum, ihnone⟩ := ih hadmitted.2 (ht.post hp.sound hadmitted.1)
      have hcharges : usageCharges scheme user (call :: calls)
          = call.records.filterMap (usageDebit? scheme user) ++ usageCharges scheme user calls := by
        rw [usageCharges, usageCharges, List.flatMap_cons, List.filterMap_append]
      rw [tokenAmounts_post ht hp.sound hadmitted.1] at ihsum ihnone
      rw [hcharges, List.foldl_cons]
      constructor
      · rw [ihsum, List.sum_append, List.sum_append, hsum]
        ring
      · intro hempty
        obtain ⟨hfirst, hrest⟩ := List.append_eq_nil_iff.mp hempty
        rw [ihnone hrest, hnone hfirst, List.append_nil]

/-- What has to fit 64 bits for the prices of a user to be exact: the running totals in the order
of the rows, and the two debits of a row together. -/
structure SumsFit (t : Tables) (user : UserId) : Prop where
  sdkTotals : RunningTotalsFit (t.sdkAmounts user)
  tokenRows : ∀ n ∈ t.tokenAmounts user, fitsInt64 n = true
  tokenTotals : RunningTotalsFit (t.tokenAmounts user)

/-- Prices from consistent tables are the sums of the stored debits. -/
theorem priceFrom_consistent {depth : Nat} {t : Tables} {user : UserId} (ht : Consistent t)
    (hfits : SumsFit t user) {submission : Submission} {record : Record} {label : String}
    (hrecord : unwrap submission = .ok record)
    (huser : requireUser scheme record label = .ok user) :
    (acceptedKind record priceKinds = .ok .requestSdkCall →
        Pricing.priceFrom scheme depth t submission = .ok (t.sdkAmounts user).sum) ∧
      (acceptedKind record priceKinds = .ok .requestTokenUsage →
        Pricing.priceFrom scheme depth t submission = .ok (t.tokenAmounts user).sum) ∧
      (acceptedKind record priceKinds = .ok .requestPayment →
        Pricing.priceFrom scheme depth t submission
          = .ok ((t.sdkAmounts user).sum + (t.tokenAmounts user).sum)) := by
  have hsdk : ∀ label, Pricing.owed t (.sdkDebits user) user label
      = .ok (t.sdkAmounts user).sum := fun _ =>
    Pricing.owed_of_fits ht.answer_sdkDebits hfits.sdkTotals
  have htoken : ∀ label, Pricing.owed t (.tokenDebits user) user label
      = .ok (t.tokenAmounts user).sum := fun _ =>
    Pricing.owed_of_fits (ht.answer_tokenDebits hfits.tokenRows) hfits.tokenTotals
  refine ⟨fun hkind => ?_, fun hkind => ?_, fun hkind => ?_⟩
  · rw [Pricing.priceFrom_sdkCall hrecord hkind huser, hsdk]
  · rw [Pricing.priceFrom_tokenUsage hrecord hkind huser, htoken]
  · rw [Pricing.priceFrom_payment hrecord hkind huser, hsdk, htoken]
    rfl

/-- **A user owes what accepted calls reported**, each SDK call and each record of token usage
once, as long as the sums fit; a user whom no accepted call charges owes nothing. -/
theorem runs_priced (scheme : IdScheme) (depth : Nat) (calls : List (Circumstances × Call))
    (user : UserId) {submission : Submission} {record : Record} {label : String} {kind : EventKind}
    (hrecord : unwrap submission = .ok record)
    (huser : requireUser scheme record label = .ok user)
    (hkind : acceptedKind record priceKinds = .ok kind) :
    let t := runCalls scheme calls Tables.empty
    let sdk := sdkCharges scheme user (accepted scheme calls Tables.empty)
    let usage := usageCharges scheme user (accepted scheme calls Tables.empty)
    (SumsFit t user →
      (kind = .requestSdkCall → Pricing.priceFrom scheme depth t submission = .ok sdk.sum) ∧
      (kind = .requestTokenUsage → Pricing.priceFrom scheme depth t submission = .ok usage.sum) ∧
      (kind = .requestPayment →
        Pricing.priceFrom scheme depth t submission = .ok (sdk.sum + usage.sum))) ∧
    (sdk = [] → usage = [] → Pricing.priceFrom scheme depth t submission = .ok 0) := by
  intro t sdk usage
  obtain ⟨ps, hposts, hadmitted, hrun⟩ := exists_postings scheme calls Tables.empty
  have ht : Consistent t := consistent_runCalls calls consistent_empty
  have hsdk : t.sdkAmounts user = sdk := by
    show (runCalls scheme calls Tables.empty).sdkAmounts user = _
    rw [hrun, sdkAmounts_postings hposts hadmitted consistent_empty]
    rfl
  obtain ⟨husage, hunused⟩ := tokenAmounts_postings hposts hadmitted consistent_empty user
  rw [← hrun] at husage hunused
  have hsum : (t.tokenAmounts user).sum = usage.sum := husage.trans (Int.zero_add _)
  have hprices : SumsFit t user →
      (kind = .requestSdkCall → Pricing.priceFrom scheme depth t submission = .ok sdk.sum) ∧
      (kind = .requestTokenUsage → Pricing.priceFrom scheme depth t submission = .ok usage.sum) ∧
      (kind = .requestPayment →
        Pricing.priceFrom scheme depth t submission = .ok (sdk.sum + usage.sum)) := by
    intro hfits
    obtain ⟨hcalls, htokens, htotal⟩ := priceFrom_consistent ht hfits hrecord huser
    rw [hsdk] at hcalls htotal
    rw [hsum] at htokens htotal
    exact ⟨fun h => hcalls (h ▸ hkind), fun h => htokens (h ▸ hkind), fun h => htotal (h ▸ hkind)⟩
  refine ⟨hprices, fun hnosdk hnousage => ?_⟩
  -- without debits there is nothing that could overflow
  have hnone : RunningTotalsFit [] := fun k => by
    rw [List.take_nil]
    decide
  have hempty : t.tokenAmounts user = [] := hunused hnousage
  have hfits : SumsFit t user :=
    ⟨by rw [hsdk, hnosdk]; exact hnone, by simp [hempty], by rw [hempty]; exact hnone⟩
  obtain ⟨hcalls, htokens, htotal⟩ := hprices hfits
  rw [hnosdk] at hcalls htotal
  rw [hnousage] at htokens htotal
  have hpriced := (acceptedKind_eq_ok.mp hkind).2
  simp only [priceKinds, List.mem_cons, List.not_mem_nil, or_false] at hpriced
  rcases hpriced with rfl | rfl | rfl
  · exact hcalls rfl
  · exact htokens rfl
  · exact htotal rfl

namespace Sample

/-- A grant, an SDK call, a batch of two records, and an SDK call that is refused for its key. -/
def charged : List (Circumstances × Call) :=
  [grant, (.quiet 2, .add (sdkCall 30) key), (.quiet 3, .addBatch [usage 5, usage 6] key),
    (.quiet 4, .add (sdkCall 40) .null)]

/-- The question what user 7 owes. -/
def question : Event := ⟨Timestamp.first, .requestPayment (.number 7)⟩

end Sample

theorem runs_priced_sample :
    SumsFit (runCalls .bigint Sample.charged Tables.empty) (.number 7) ∧
      Pricing.priceFrom .bigint Conditions.usualDepth (runCalls .bigint Sample.charged Tables.empty)
        (.event Sample.question) = .ok (30 + (8 + 9)) := by
  have hsdk : (runCalls .bigint Sample.charged Tables.empty).sdkAmounts (.number 7) = [30] := by
    decide +kernel
  have htoken : (runCalls .bigint Sample.charged Tables.empty).tokenAmounts (.number 7) = [17] := by
    decide +kernel
  have hsingle : ∀ n : Int, fitsInt64 n = true → RunningTotalsFit [n] := by
    rintro n hn (_ | k)
    · rfl
    · simpa using hn
  have hfits : SumsFit (runCalls .bigint Sample.charged Tables.empty) (.number 7) :=
    ⟨by rw [hsdk]; exact hsingle 30 (by decide), by rw [htoken]; decide,
      by rw [htoken]; exact hsingle 17 (by decide)⟩
  have hcharges :
      sdkCharges .bigint (.number 7) (accepted .bigint Sample.charged Tables.empty) = [30] ∧
        usageCharges .bigint (.number 7) (accepted .bigint Sample.charged Tables.empty)
          = [8, 9] := by
    decide +kernel
  have hrecord : unwrap (.event Sample.question) = .ok Sample.question.record := rfl
  have huser : requireUser .bigint Sample.question.record EventKind.requestPayment.name
      = .ok (.number 7) := rfl
  have hkind : acceptedKind Sample.question.record priceKinds = .ok .requestPayment := rfl
  have hpriced := (runs_priced .bigint Conditions.usualDepth Sample.charged (.number 7)
    hrecord huser hkind).1 hfits
  have howed := hpriced.2.2 rfl
  rw [hcharges.1, hcharges.2] at howed
  exact ⟨hfits, howed⟩

end Ledger

end UsageLedger
