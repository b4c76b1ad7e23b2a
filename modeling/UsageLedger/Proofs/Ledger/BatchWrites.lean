/-
Which deliveries of token usage are stored, and as what.

A delivery is checked as a whole: every submission has to tell a record of token usage,
the records have to collapse into groups whose sums fit, and the key has to be there
(`Storable`).  What is stored then is one event and one row of particulars for each group
of the summary, under the identifiers that are drawn first.  One direction follows the
transaction step by step under a database without faults; the other reads the conditions
off what an accepted call has posted, and then the first direction says what that was.
-/
import UsageLedger.Proofs.Intake.Summary
import UsageLedger.Proofs.Ledger.Acceptance
import UsageLedger.Proofs.Ledger.Pricing

namespace UsageLedger.Ledger

open Intake

variable {c : Conditions} {scheme : IdScheme} {submissions : List Submission} {apiKey : Value}
  {t t' : Tables} {usage : List UsageRecord} {key : Uuid}

/-- A submission tells a record of token usage that passes its checks. -/
def Tells (scheme : IdScheme) (submission : Submission) (r : UsageRecord) : Prop :=
  ∃ record, unwrap submission = .ok record ∧
    acceptedKind record writeKinds = .ok .tokenUsage ∧ UsageRecord.ofRecord scheme record = .ok r

/-- What has to be so for a delivery to be stored. -/
structure Storable (scheme : IdScheme) (submissions : List Submission) (apiKey : Value) (t : Tables)
    (usage : List UsageRecord) (key : Uuid) : Prop where
  records : List.Forall₂ (Tells scheme) submissions usage
  present : apiKey.isPresent = true
  parsed : readApiKeyId apiKey = .ok (some key)
  readable : ∀ r ∈ usage, r.Readable
  sums : ∀ g ∈ UsageGroup.summary usage, ∀ counter ∈ g.counters, fitsInt64 counter.2 = true
  known : key ∈ t.apiKeys.map (·.id)

/-! ### Records of a delivery -/

/-- The records of a delivery are unwrapped, told apart and checked one list after the other, which
comes to the same as doing so submission by submission. -/
theorem tells_iff (apiKey : Value) : List.Forall₂ (Tells scheme) submissions usage ↔
    ∃ records, Delivers (.addBatch submissions apiKey) records ∧
      UsageRecord.ofRecords scheme records = .ok usage := by
  constructor
  · intro h
    induction h with
    | nil => exact ⟨[], .batch rfl (by simp), rfl⟩
    | @cons submission r submissions usage htells _ ih =>
        obtain ⟨record, hrecord, hkind, hr⟩ := htells
        obtain ⟨records, ⟨_, _⟩ | ⟨hrecords, hkinds⟩, husage⟩ := ih
        refine ⟨record :: records, .batch ?_ (List.forall_mem_cons.mpr ⟨hkind, hkinds⟩), ?_⟩
        · exact mapM_eq_ok.mpr (.cons hrecord (mapM_eq_ok.mp hrecords))
        · exact mapM_eq_ok.mpr (.cons hr (mapM_eq_ok.mp husage))
  · rintro ⟨records, ⟨_, _⟩ | ⟨hrecords, hkinds⟩, husage⟩
    rw [mapM_eq_ok] at hrecords
    rw [UsageRecord.ofRecords, mapM_eq_ok] at husage
    induction hrecords generalizing usage with
    | nil =>
        cases husage
        exact .nil
    | @cons submission record submissions records hrecord _ ih =>
        obtain _ | ⟨hr, husage⟩ := husage
        rw [List.forall_mem_cons] at hkinds
        exact .cons ⟨record, hrecord, hkinds.1, hr⟩ (ih husage hkinds.2)

theorem acceptBatch_of_delivers {records : List Record} (depth : Nat)
    (h : Delivers (.addBatch submissions apiKey) records) (hpresent : apiKey.isPresent = true) :
    acceptBatch depth submissions apiKey = .ok records := by
  obtain ⟨_, _⟩ | ⟨hrecords, hkinds⟩ := h
  rw [acceptBatch_of_kinds hrecords hkinds, if_pos hpresent]

/-- The users of checked records are of the scheme. -/
theorem fits_of_tells (h : List.Forall₂ (Tells scheme) submissions usage) :
    ∀ r ∈ usage, r.user.Fits scheme := by
  intro r hr
  obtain ⟨_, -, record, -, -, hchecked⟩ := exists_of_mem_forall₂ h hr
  exact UserId.fits_of_parse
    (requireUser_eq_ok.mp (UsageRecord.checked_of_ofRecord hchecked).user).2

/-! ### Groups of a delivery -/

theorem exists_of_mem_summary {g : UsageGroup} (hg : g ∈ UsageGroup.summary usage) :
    ∃ r ∈ usage, g.user = r.user ∧ g.model = r.data.model := by
  obtain ⟨pair, hpair, rfl⟩ := List.mem_map.mp hg
  obtain ⟨r, hr, rfl⟩ := List.mem_map.mp (List.mem_eraseDups.mp hpair)
  exact ⟨r, hr, rfl, rfl⟩

theorem summary_ne_nil (h : usage ≠ []) : UsageGroup.summary usage ≠ [] := by
  obtain ⟨r, hr⟩ := List.exists_mem_of_ne_nil usage h
  exact List.ne_nil_of_mem
    (List.mem_map_of_mem (List.mem_eraseDups.mpr (List.mem_map_of_mem hr)))

/-- There are no more groups than records. -/
theorem length_summary_le : (UsageGroup.summary usage).length ≤ usage.length := by
  have hle := length_eraseDups_le (usage.map (·.pair))
  rw [List.length_map] at hle
  rwa [UsageGroup.summary, List.length_map]

/-- The users of the groups are those of the records. -/
theorem length_users_summary_le :
    (((UsageGroup.summary usage).map (·.user)).foldl addNew []).length ≤
      (usage.map (·.user)).eraseDups.length := by
  obtain ⟨new, hfold, hnodup, hmem⟩ :=
    foldl_addNew_eq_append [] ((UsageGroup.summary usage).map (·.user))
  rw [hfold, List.nil_append]
  refine List.Nodup.length_le_of_subset hnodup fun user huser => ?_
  obtain ⟨g, hg, rfl⟩ := List.mem_map.mp ((hmem user).mp huser).1
  obtain ⟨r, hr, hsame, -⟩ := exists_of_mem_summary hg
  rw [hsame, List.mem_eraseDups]
  exact List.mem_map_of_mem hr

/-! ### Both directions -/

/-- The identifiers that are drawn first. -/
def drawnIds (c : Conditions) (n : Nat) : List Uuid := (List.range n).map c.fresh

/-- A delivery that may be stored is stored as its summary. -/
theorem addBatch_of_storable (hc : c.Undisturbed) (hne : submissions ≠ [])
    (hfree : ∀ id ∈ drawnIds c submissions.length, t.Free id)
    (hnodup : (drawnIds c submissions.length).Nodup)
    (hlimit : (usage.map (·.user)).eraseDups.length ≤ Engine.maxValues)
    (h : Storable c.scheme submissions apiKey t usage key) :
    addBatch c submissions apiKey t = (.ok (some (c.fresh 0)),
      t.post (Posting.usage (drawnIds c (UsageGroup.summary usage).length) key
        (UsageGroup.summary usage))) := by
  obtain ⟨records, hdelivers, husage⟩ := (tells_iff apiKey).mp h.records
  have hsome : usage ≠ [] := by
    rintro rfl
    exact hne (List.forall₂_nil_right_iff.mp h.records)
  have hfewer : (UsageGroup.summary usage).length ≤ submissions.length :=
    length_summary_le.trans h.records.length_eq.ge
  have hdrawn : (drawnIds c (UsageGroup.summary usage).length).Sublist
      (drawnIds c submissions.length) := (List.range_sublist.mpr hfewer).map _
  have hfits : ∀ g ∈ UsageGroup.summary usage, g.user.Fits c.scheme := by
    intro g hg
    obtain ⟨r, hr, hsame, -⟩ := exists_of_mem_summary hg
    rw [hsame]
    exact fits_of_tells h.records r hr
  unfold addBatch
  rw [acceptBatch_of_delivers c.depth hdelivers h.present]
  exact Ingest.addUsage_accepted hc rfl husage
    (UsageGroup.aggregate_eq_ok_iff.mpr ⟨h.readable, h.sums, rfl⟩) (summary_ne_nil hsome) h.sums
    hfits (length_users_summary_le.trans hlimit) h.parsed h.known
    (fun id hid => hfree id (hdrawn.subset hid)) (hnodup.sublist hdrawn)

/-- What is stored may be stored. -/
theorem storable_of_addBatch (hc : c.Constrained) (hne : submissions ≠ []) {o : Option Uuid}
    (h : addBatch c submissions apiKey t = (.ok o, t')) :
    ∃ usage key, Storable c.scheme submissions apiKey t usage key := by
  obtain ⟨records, haccept, h⟩ := Ingest.checked_ok h
  obtain ⟨hdelivers, hpresent⟩ := acceptBatch_ok haccept
  obtain ⟨p, hposts, hadmitted, -, -⟩ := posts_of_addUsage hc hdelivers hpresent h
  cases hposts with
  | @usage _ records usage groups ids key hdelivers husage hgroups hlength hkey =>
      obtain ⟨hreadable, hsums, rfl⟩ := UsageGroup.aggregate_eq_ok_iff.mp hgroups
      have htells := (tells_iff apiKey).mpr ⟨records, hdelivers, husage⟩
      have hsome : usage ≠ [] := by
        rintro rfl
        exact hne (List.forall₂_nil_right_iff.mp htells)
      -- the event of any group names the key, and the tables took it
      obtain ⟨g, hg⟩ := List.exists_mem_of_ne_nil _ (summary_ne_nil hsome)
      obtain ⟨e, he, -⟩ : ∃ e ∈ (Posting.usage ids key (UsageGroup.summary usage)).events, _ :=
        Posting.usage_named hlength (List.mem_map_of_mem hg)
      have htakes := hadmitted.events e he
      obtain ⟨id, -, g, -, rfl⟩ := exists_of_mem_zipWith he
      have hkey := hkey.resolve_left fun hnil => by
        subst hnil
        cases husage
        exact hsome rfl
      exact ⟨usage, key, htells, hpresent, hkey, hreadable, hsums, htakes.apiKey key rfl⟩

/-- **Which deliveries are stored, and as what.**  On a database without faults, with new
identifiers and no more users than one statement can name, a delivery is stored exactly when all of
its submissions tell records of token usage with readable times, its key is there, and the sums of
its summary fit.  Then the tables have the users, one event and one row of particulars for each
group of the summary, under the identifiers in the order in which they are drawn, and nothing else
is new; the first identifier is told.  An empty delivery with a key is nothing to do. -/
theorem addBatch_stored_iff (hc : c.Undisturbed)
    (hfree : ∀ id ∈ drawnIds c submissions.length, t.Free id)
    (hnodup : (drawnIds c submissions.length).Nodup)
    (hlimit : ∀ usage, List.Forall₂ (Tells c.scheme) submissions usage →
      (usage.map (·.user)).eraseDups.length ≤ Engine.maxValues) :
    (submissions ≠ [] → ∀ o t', addBatch c submissions apiKey t = (.ok o, t') ↔
      ∃ usage key, Storable c.scheme submissions apiKey t usage key ∧ o = some (c.fresh 0) ∧
        t' = t.post (Posting.usage (drawnIds c (UsageGroup.summary usage).length) key
          (UsageGroup.summary usage))) ∧
    (submissions = [] → apiKey.isPresent = true →
      addBatch c submissions apiKey t = (.ok none, t)) := by
  refine ⟨fun hne o t' => ⟨fun h => ?_, ?_⟩, ?_⟩
  · obtain ⟨usage, key, hstorable⟩ := storable_of_addBatch hc.constrained hne h
    have hstored := addBatch_of_storable hc hne hfree hnodup (hlimit usage hstorable.records)
      hstorable
    rw [h] at hstored
    cases hstored
    exact ⟨usage, key, hstorable, rfl, rfl⟩
  · rintro ⟨usage, key, hstorable, rfl, rfl⟩
    exact addBatch_of_storable hc hne hfree hnodup (hlimit usage hstorable.records) hstorable
  · rintro rfl hpresent
    unfold addBatch
    rw [acceptBatch_of_delivers c.depth (.batch rfl (by simp)) hpresent]
    rfl

namespace Sample

/-- What the submissions of token usage tell. -/
def usageRecord (debit : Int) : UsageRecord :=
  ⟨.number 7, ⟨"model", 1, 2, 3, debit⟩, .timestamp Timestamp.first⟩

theorem tells_usage :
    List.Forall₂ (Tells .bigint) [Sample.usage 5, Sample.usage 6]
      [usageRecord 5, usageRecord 6] :=
  .cons ⟨_, rfl, rfl, rfl⟩ (.cons ⟨_, rfl, rfl, rfl⟩ .nil)

end Sample

/-- Two records of one user and model are stored as one event with their sums; under a key that is
not there the same records are refused. -/
theorem addBatch_stored_iff_sample :
    let c := Conditions.ideal .bigint fun n => Uuid.ofNat (2 + n)
    let submissions := [Sample.usage 5, Sample.usage 6]
    addBatch c submissions Sample.key Sample.granted
      = (.ok (some (Uuid.ofNat 2)), Sample.granted.post
          { users := [.number 7]
            events := [⟨Uuid.ofNat 2, .text "0001-01-01T00:00:00.000000+00:00", some (.whole 7),
              some (Uuid.ofNat 1)⟩]
            tokenUsages := [⟨Uuid.ofNat 2, .text "model", .whole 2, .whole 4, .whole 6,
              .whole 11⟩] }) ∧
      ¬ ∃ o t', addBatch c submissions Sample.key Tables.empty = (.ok o, t') := by
  intro c submissions
  have hc : c.Undisturbed := Conditions.undisturbed_ideal _ _
  have hnodup : (drawnIds c submissions.length).Nodup := by decide
  have hgranted : ∀ id ∈ drawnIds c submissions.length, Sample.granted.Free id := by
    intro id hid
    rcases List.mem_pair.mp hid with rfl | rfl
    all_goals exact ⟨by decide +kernel, by decide +kernel, by decide +kernel⟩
  have hempty : ∀ id ∈ drawnIds c submissions.length, Tables.empty.Free id :=
    fun id _ => ⟨List.not_mem_nil, List.not_mem_nil, List.not_mem_nil⟩
  have hlimit : ∀ usage, List.Forall₂ (Tells c.scheme) submissions usage →
      (usage.map (·.user)).eraseDups.length ≤ Engine.maxValues := by
    intro usage h
    refine (length_eraseDups_le _).trans ?_
    rw [List.length_map, ← h.length_eq]
    decide
  have hsummary : UsageGroup.summary [Sample.usageRecord 5, Sample.usageRecord 6]
      = [⟨.number 7, "model", 2, 4, 6, 11, Timestamp.first⟩] := by decide +kernel
  have htime : Timestamp.first.canonicalText = "0001-01-01T00:00:00.000000+00:00" := by
    decide +kernel
  constructor
  · have hstorable : Storable .bigint submissions Sample.key Sample.granted
        [Sample.usageRecord 5, Sample.usageRecord 6] (Uuid.ofNat 1) := by
      refine ⟨Sample.tells_usage, rfl, rfl, ?_, ?_, by decide +kernel⟩
      · rintro r hr
        rcases List.mem_pair.mp hr with rfl | rfl <;> exact ⟨_, rfl⟩
      · rw [hsummary]
        decide
    rw [← htime]
    refine ((addBatch_stored_iff hc hgranted hnodup hlimit).1 (List.cons_ne_nil _ _) _ _).mpr
      ⟨_, _, hstorable, rfl, ?_⟩
    rw [hsummary]
    rfl
  · rintro ⟨o, t', h⟩
    obtain ⟨_, key, hstorable, -⟩ :=
      ((addBatch_stored_iff hc hempty hnodup hlimit).1 (List.cons_ne_nil _ _) _ _).mp h
    cases hstorable.known

end UsageLedger.Ledger
