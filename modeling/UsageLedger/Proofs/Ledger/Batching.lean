/-
How token usage is cut into deliveries does not change what is billed.

Two runs that deliver the same events in other orders and other batches store other rows,
since a batch has one row for each user and model.  What they store agrees all the same
once it is added up by user and model: a row has the sums and the latest time of the
records behind it, and sums and latest times of sums and latest times are those of all
records.  So each run is compared with the groups of its single records
(`Delivered.billed`), and these are the same for both up to their order.
-/
import UsageLedger.Proofs.Ledger.Billing

namespace UsageLedger

/-! ### Lists with the same members -/

/-- Adding the same new items in another order gives the same items in another order. -/
theorem perm_foldl_addNew {α : Type} [DecidableEq α] {items xs ys : List α}
    (h : ∀ x, x ∈ xs ↔ x ∈ ys) : (xs.foldl addNew items).Perm (ys.foldl addNew items) := by
  obtain ⟨new, hfold, hnodup, hmem⟩ := foldl_addNew_eq_append items xs
  obtain ⟨new', hfold', hnodup', hmem'⟩ := foldl_addNew_eq_append items ys
  rw [hfold, hfold']
  refine .append_left items ((List.perm_ext_iff_of_nodup hnodup hnodup').mpr fun x => ?_)
  rw [hmem, hmem', h]

/-- Numbers with the same upper bounds have the same greatest one. -/
theorem max?_eq_of_bounds {l l' : List Int} (h : ∀ b, (∀ x ∈ l, x ≤ b) ↔ ∀ x ∈ l', x ≤ b) :
    l.max? = l'.max? := by
  have hnil : ∀ {l l' : List Int},
      (∀ b, (∀ x ∈ l, x ≤ b) ↔ ∀ x ∈ l', x ≤ b) → l = [] → l' = [] := by
    intro l l' h hl
    subst hl
    cases l' with
    | nil => rfl
    | cons x l' =>
        have hbelow := (h (x - 1)).mp (by simp) x (by simp)
        omega
  cases hmax : l.max? with
  | none => rw [hnil h (List.max?_eq_none_iff.mp hmax), List.max?_nil]
  | some a =>
      cases hmax' : l'.max? with
      | none =>
          have := hnil (fun b => (h b).symm) (List.max?_eq_none_iff.mp hmax')
          rw [this, List.max?_nil] at hmax
          exact hmax.symm
      | some a' =>
          have hbounds : ∀ b, a ≤ b ↔ a' ≤ b := fun b => by
            rw [List.max?_le_iff hmax, List.max?_le_iff hmax', h b]
          rw [le_antisymm ((hbounds a').mpr le_rfl) ((hbounds a).mp le_rfl)]

/-! ### What is billed -/

namespace UsageGroup

/-- The group is about the user and the model. -/
def IsFor (user : UserId) (model : String) (g : UsageGroup) : Prop :=
  g.user = user ∧ g.model = model

instance (user : UserId) (model : String) : DecidablePred (IsFor user model) := fun g =>
  inferInstanceAs (Decidable (g.user = user ∧ g.model = model))

/-- The sum of a counter over the groups of a user and a model. -/
def total (user : UserId) (model : String) (counter : UsageGroup → Int) (groups : List UsageGroup) :
    Int :=
  ((groups.filter (IsFor user model)).map counter).sum

/-- The latest instant among the groups of a user and a model. -/
def latest (user : UserId) (model : String) (groups : List UsageGroup) : Option Int :=
  ((groups.filter (IsFor user model)).map (·.reportedAt.instant)).max?

/-- Merging adds the counter up. -/
def Counts (counter : UsageGroup → Int) : Prop :=
  ∀ g h : UsageGroup, counter (g.merge h) = counter g + counter h

theorem total_eq_sum {user : UserId} {model : String} {counter : UsageGroup → Int}
    {groups : List UsageGroup} : total user model counter groups
      = (groups.map fun g => if IsFor user model g then counter g else 0).sum := by
  unfold total
  induction groups with
  | nil => rfl
  | cons g groups ih =>
      rw [List.filter_cons, List.map_cons, List.sum_cons, ← ih]
      by_cases hg : IsFor user model g <;> simp [hg]

theorem isFor_of_sameKey {user : UserId} {model : String} {g h : UsageGroup}
    (hkey : g.sameKey h = true) : IsFor user model h ↔ IsFor user model g := by
  obtain ⟨huser, hmodel⟩ := sameKey_iff.mp hkey
  rw [IsFor, IsFor, huser, hmodel]

/-- Two lists of groups bill the same: the same users, the same sums and the same latest times. -/
structure SameBill (groups groups' : List UsageGroup) : Prop where
  users : ∀ user, user ∈ groups.map (·.user) ↔ user ∈ groups'.map (·.user)
  totals : ∀ user model counter, Counts counter →
    total user model counter groups = total user model counter groups'
  /-- The same bounds on times, from which the latest times are the same. -/
  bounds : ∀ user model b, (∀ g ∈ groups, IsFor user model g → g.reportedAt.instant ≤ b) ↔
    ∀ g ∈ groups', IsFor user model g → g.reportedAt.instant ≤ b

namespace SameBill

variable {groups groups' groups'' more more' : List UsageGroup}

theorem trans (h : SameBill groups groups') (h' : SameBill groups' groups'') :
    SameBill groups groups'' where
  users user := (h.users user).trans (h'.users user)
  totals user model counter hc := (h.totals user model counter hc).trans (h'.totals _ _ _ hc)
  bounds user model b := (h.bounds user model b).trans (h'.bounds user model b)

theorem symm (h : SameBill groups groups') : SameBill groups' groups where
  users user := (h.users user).symm
  totals user model counter hc := (h.totals user model counter hc).symm
  bounds user model b := (h.bounds user model b).symm

theorem perm (h : groups.Perm groups') : SameBill groups groups' where
  users _ := (h.map _).mem_iff
  totals _ _ _ _ := ((h.filter _).map _).sum_eq
  bounds _ _ _ := by
    constructor
    · exact fun hg g hmem => hg g (h.mem_iff.mpr hmem)
    · exact fun hg g hmem => hg g (h.mem_iff.mp hmem)

theorem append (h : SameBill groups groups') (h' : SameBill more more') :
    SameBill (groups ++ more) (groups' ++ more') where
  users user := by
    rw [List.map_append, List.map_append, List.mem_append, List.mem_append, h.users, h'.users]
  totals user model counter hc := by
    have hsum := h.totals user model counter hc
    have hsum' := h'.totals user model counter hc
    rw [total_eq_sum, total_eq_sum] at hsum hsum' ⊢
    rw [List.map_append, List.map_append, List.sum_append, List.sum_append, hsum, hsum']
  bounds user model b := by
    rw [List.forall_mem_append, List.forall_mem_append, h.bounds, h'.bounds]

theorem latest (h : SameBill groups groups') (user : UserId) (model : String) :
    latest user model groups = latest user model groups' := by
  apply max?_eq_of_bounds
  intro b
  simp only [List.forall_mem_map, List.mem_filter, decide_eq_true_eq, and_imp]
  exact h.bounds user model b

end SameBill

/-- **A batch bills what its records bill.** -/
theorem Aggregates.sameBill {records : List UsageRecord} {singles groups : List UsageGroup}
    (ha : Aggregates records singles groups) : SameBill groups singles where
  users user := by
    -- all groups are of other users exactly when all records are
    have hother := ha.forall_mem_iff (Q := fun g => g.user ≠ user) fun g h hkey => by
      obtain ⟨huser, -⟩ := sameKey_iff.mp hkey
      rw [← huser]
      exact (and_self_iff).symm
    rw [← not_iff_not, List.mem_map, List.mem_map, not_exists, not_exists]
    simpa only [not_and, ne_eq] using hother
  totals user model counter hc := by
    rw [total_eq_sum, total_eq_sum]
    apply ha.sum_eq
    intro g h hkey
    have hmerge : IsFor user model (g.merge h) ↔ IsFor user model g := Iff.rfl
    simp only [hmerge, isFor_of_sameKey hkey]
    split
    · exact hc g h
    · rfl
  bounds user model b := by
    apply ha.forall_mem_iff
    intro g h hkey
    have hmerge : IsFor user model (g.merge h) ↔ IsFor user model g := Iff.rfl
    have hlater : (g.merge h).reportedAt.instant ≤ b ↔
        g.reportedAt.instant ≤ b ∧ h.reportedAt.instant ≤ b := by
      show (if g.reportedAt.instant < h.reportedAt.instant then h.reportedAt
        else g.reportedAt).instant ≤ b ↔ _
      split <;> constructor <;> omega
    rw [hmerge, isFor_of_sameKey hkey, hlater]
    exact ⟨fun h => ⟨fun hg => (h hg).1, fun hg => (h hg).2⟩, fun h hg => ⟨h.1 hg, h.2 hg⟩⟩

end UsageGroup

/-! ### Rows that show groups -/

/-- The instant of a stored time. -/
def Cell.instant? (cell : Cell) : Option Int :=
  (Intake.parseTimestamp cell.toValue).toOption.map Timestamp.instant

/-- A row of token usage with its event. -/
abbrev StoredUsage := EventRow × TokenUsageRow

namespace StoredUsage

/-- The rows of a user and a model. -/
def forPair (user : UserId) (model : String) (rows : List StoredUsage) : List StoredUsage :=
  rows.filter fun row => row.1.user = some user.toCell ∧ row.2.model = .text model

/-- The latest time of rows as an instant. -/
def latest (rows : List StoredUsage) : Option Int :=
  (rows.filterMap fun row => row.1.reportedTimestamp.instant?).max?

/-- The sum of a counter over rows. -/
def total (counter : TokenUsageRow → Cell) (rows : List StoredUsage) : Int :=
  (rows.map fun row => (counter row.2).amount).sum

/-- A row is the one that a group is stored as. -/
structure Shows (row : StoredUsage) (g : UsageGroup) : Prop where
  user : row.1.user = some g.user.toCell
  particulars : row.2 = Posting.groupRow row.2.id g
  time : row.1.reportedTimestamp.instant? = some g.reportedAt.instant

variable {rows : List StoredUsage} {groups : List UsageGroup} {user : UserId} {model : String}

theorem shows_forPair (h : List.Forall₂ Shows rows groups) :
    List.Forall₂ Shows (forPair user model rows)
      (groups.filter (UsageGroup.IsFor user model)) := by
  refine forall₂_filter h fun {row g} hrow => ?_
  have huser : row.1.user = some user.toCell ↔ g.user = user := by
    rw [hrow.user]
    exact ⟨fun h => UserId.toCell_injective (Option.some.inj h), fun h => by rw [h]⟩
  have hmodel : row.2.model = .text model ↔ g.model = model := by
    rw [hrow.particulars]
    exact ⟨fun h => Cell.text.inj h, fun h => congrArg Cell.text h⟩
  rw [decide_eq_decide, huser, hmodel]
  rfl

theorem total_of_shows (h : List.Forall₂ Shows rows groups) {counter : TokenUsageRow → Cell}
    {count : UsageGroup → Int}
    (hcounter : ∀ id g, counter (Posting.groupRow id g) = .whole (count g)) :
    total counter (forPair user model rows) = UsageGroup.total user model count groups := by
  unfold total UsageGroup.total
  rw [map_eq_of_forall₂ (shows_forPair h) fun {row g} hrow => ?_]
  rw [hrow.particulars, hcounter]
  rfl

theorem latest_of_shows (h : List.Forall₂ Shows rows groups) :
    latest (forPair user model rows) = UsageGroup.latest user model groups := by
  unfold latest UsageGroup.latest
  rw [← List.filterMap_eq_map,
    filterMap_eq_of_forall₂ (shows_forPair h) fun row _ g hrow => hrow.time]
  rfl

end StoredUsage

/-! ### Rows since a state -/

namespace Tables

/-- The rows of token usage that were stored since an earlier state, each with its event. -/
def usageSince (t before : Tables) : List StoredUsage :=
  (t.tokenUsages.drop before.tokenUsages.length).filterMap fun row =>
    (t.events.find? fun e => e.id = row.id).map fun e => (e, row)

end Tables

namespace Posting

/-- The rows of token usage of a posting, each with its event. -/
def storedUsages (p : Posting) : List StoredUsage :=
  p.tokenUsages.filterMap fun row =>
    (p.events.find? fun e => e.id = row.id).map fun e => (e, row)

theorem Sound.find?_event {p : Posting} (hp : p.Sound) {row : TokenUsageRow}
    (hrow : row ∈ p.tokenUsages) : (p.events.find? fun e => e.id = row.id).isSome := by
  have hid : row.id ∈ p.events.map (·.id) := by
    rw [← hp.detail]
    exact List.mem_append_right _ (List.mem_map_of_mem hrow)
  obtain ⟨e, he, hsame⟩ := List.mem_map.mp hid
  rw [List.find?_isSome]
  exact ⟨e, he, decide_eq_true hsame⟩

theorem Sound.storedUsages_rows {p : Posting} (hp : p.Sound) :
    p.storedUsages.map (·.2) = p.tokenUsages := by
  have hrows : p.storedUsages.map (·.2) = p.tokenUsages.filterMap some := by
    rw [storedUsages, List.map_filterMap]
    apply List.filterMap_congr
    intro row hrow
    obtain ⟨e, he⟩ := Option.isSome_iff_exists.mp (hp.find?_event hrow)
    rw [he]
    rfl
  rw [hrows, List.filterMap_some]

/-- A posting of token usage shows its groups. -/
theorem shows_usage {ids : List Uuid} {key : Uuid} {groups : List UsageGroup}
    (hlength : ids.length = groups.length) (hnodup : ids.Nodup)
    (htimes : ∀ g ∈ groups, g.reportedAt.offset = some 0) :
    List.Forall₂ StoredUsage.Shows (usage ids key groups).storedUsages groups := by
  have hrows : (usage ids key groups).storedUsages
      = (ids.zip groups).map
          fun pair => (groupEvent key pair.1 pair.2, groupRow pair.1 pair.2) := by
    show (List.zipWith groupRow ids groups).filterMap _ = _
    rw [← List.map_uncurry_zip_eq_zipWith, List.filterMap_map, ← List.filterMap_eq_map]
    apply List.filterMap_congr
    rintro ⟨id, g⟩ hmem
    show Option.map _ ((List.zipWith (groupEvent key) ids groups).find? fun e => e.id = id) = _
    rw [find?_zipWith (fun _ _ => rfl) hnodup hmem]
    rfl
  have hgroups : groups = (ids.zip groups).map Prod.snd := (List.map_snd_zip hlength.ge).symm
  have hshows : ∀ pair ∈ ids.zip groups,
      StoredUsage.Shows (groupEvent key pair.1 pair.2, groupRow pair.1 pair.2) pair.2 := by
    rintro ⟨id, g⟩ hmem
    refine ⟨rfl, rfl, ?_⟩
    show (Intake.parseTimestamp (.text g.reportedAt.canonicalText)).toOption.map _ = _
    rw [Intake.parseTimestamp_canonicalText (htimes g (List.of_mem_zip hmem).2)]
    rfl
  rw [hrows]
  conv => arg 3; rw [hgroups]
  rw [List.forall₂_map_left_iff, List.forall₂_map_right_iff, List.forall₂_same]
  exact hshows

end Posting

namespace Ledger

/-- What postings stored since is what each of them stored. -/
theorem usageSince_postings {ps : List Posting} {t : Tables} (hadmitted : AdmittedAll ps t)
    (hsound : ∀ p ∈ ps, p.Sound) :
    (ps.foldl Tables.post t).usageSince t = ps.flatMap Posting.storedUsages := by
  induction ps generalizing t with
  | nil => simp [Tables.usageSince]
  | cons p ps ih =>
      rw [List.forall_mem_cons] at hsound
      rw [List.foldl_cons, List.flatMap_cons, ← ih hadmitted.2 hsound.2]
      obtain ⟨later, hlater⟩ := (Tables.Extends.postings ps (t.post p)).events
      obtain ⟨rest, hrest⟩ := (Tables.Extends.postings ps (t.post p)).tokenUsages
      -- what the posting stored is found among its own events, for identifiers are new
      have hfound : ∀ row ∈ p.tokenUsages,
          ((ps.foldl Tables.post (t.post p)).events.find? fun e => e.id = row.id)
            = p.events.find? fun e => e.id = row.id := by
        intro row hrow
        have hid : row.id ∈ p.events.map (·.id) := by
          rw [← hsound.1.detail]
          exact List.mem_append_right _ (List.mem_map_of_mem hrow)
        obtain ⟨e, he, hsame⟩ := List.mem_map.mp hid
        have hnone : (t.events.find? fun e => e.id = row.id) = none := by
          rw [List.find?_eq_none]
          intro e' he' hsame'
          apply (hadmitted.1.events e he).fresh
          rw [hsame, ← of_decide_eq_true hsame']
          exact List.mem_map_of_mem he'
        rw [← hlater]
        show (((t.events ++ p.events) ++ later).find? fun e => e.id = row.id) = _
        rw [List.find?_append, List.find?_append, hnone, Option.none_or,
          Option.or_of_isSome (hsound.1.find?_event hrow)]
      have hrows : (t.post p).tokenUsages = t.tokenUsages ++ p.tokenUsages := rfl
      rw [Tables.usageSince, Tables.usageSince, ← hrest, List.drop_left, hrows, List.append_assoc,
        List.drop_left, List.filterMap_append]
      congr 1
      apply List.filterMap_congr
      intro row hrow
      rw [hfound row hrow]

theorem users_postings (ps : List Posting) (t : Tables) :
    (ps.foldl Tables.post t).users
      = ((ps.flatMap (·.users)).map UserId.toCell).foldl addNew t.users := by
  induction ps generalizing t with
  | nil => rfl
  | cons p ps ih =>
      rw [List.foldl_cons, ih, List.flatMap_cons, List.map_append, List.foldl_append]
      rfl

theorem tokenUsages_postings (ps : List Posting) (t : Tables) :
    (ps.foldl Tables.post t).tokenUsages = t.tokenUsages ++ ps.flatMap (·.tokenUsages) := by
  induction ps generalizing t with
  | nil => simp
  | cons p ps ih =>
      rw [List.foldl_cons, ih, List.flatMap_cons, ← List.append_assoc]
      rfl

/-- No row is left out of those stored since: each has its event. -/
theorem rows_usageSince (scheme : IdScheme) (calls : List (Circumstances × Call)) (t : Tables) :
    ((runCalls scheme calls t).usageSince t).map (·.2)
      = (runCalls scheme calls t).tokenUsages.drop t.tokenUsages.length := by
  obtain ⟨ps, hposts, hadmitted, hrun⟩ := exists_postings scheme calls t
  have hsound := sound_of_posts hposts
  rw [hrun, usageSince_postings hadmitted hsound, tokenUsages_postings, List.drop_left,
    List.map_flatMap]
  exact List.flatMap_congr fun p hp => (hsound p hp).storedUsages_rows

/-! ### Deliveries -/

open Intake

/-- What a call submits. -/
def Call.submissions : Call → List Submission
  | .add submission _ => [submission]
  | .addBatch submissions _ => submissions

/-- The submission is of token usage. -/
def IsUsage (submission : Submission) : Prop :=
  ∃ record, unwrap submission = .ok record ∧
    acceptedKind record writeKinds = .ok .tokenUsage

theorem IsUsage.kind_eq {submission : Submission} {record : Record} {kind : EventKind}
    (h : IsUsage submission) (hrecord : unwrap submission = .ok record)
    (hkind : acceptedKind record writeKinds = .ok kind) : kind = .tokenUsage := by
  obtain ⟨record', hrecord', hkind'⟩ := h
  rw [hrecord] at hrecord'
  cases hrecord'
  rw [hkind] at hkind'
  exact Except.ok.inj hkind'

/-- The group of a submission that is delivered alone. -/
def groupOf (scheme : IdScheme) (submission : Submission) : Except Raised UsageGroup := do
  let record ← unwrap submission
  let r ← UsageRecord.ofRecord scheme record
  UsageGroup.single r

variable {scheme : IdScheme}

/-- The groups of single records are those of the submissions that they came in. -/
theorem singles_eq {submissions : List Submission} {records : List Record}
    {usage : List UsageRecord} {singles groups : List UsageGroup}
    (hrecords : submissions.mapM unwrap = .ok records)
    (husage : UsageRecord.ofRecords scheme records = .ok usage)
    (ha : UsageGroup.Aggregates usage singles groups) :
    submissions.filterMap (fun s => (groupOf scheme s).toOption) = singles := by
  have hsubmissions : submissions.filterMap (fun s => (groupOf scheme s).toOption)
      = records.filterMap fun record =>
          (UsageRecord.ofRecord scheme record >>= UsageGroup.single).toOption :=
    filterMap_eq_of_forall₂ (mapM_eq_ok.mp hrecords) fun s _ record h => by
      rw [groupOf, h]
      rfl
  have hchecked : records.filterMap (fun record =>
      (UsageRecord.ofRecord scheme record >>= UsageGroup.single).toOption)
        = usage.filterMap fun r => (UsageGroup.single r).toOption :=
    filterMap_eq_of_forall₂ (mapM_eq_ok.mp husage) fun record _ r h => by
      rw [h]
      rfl
  rw [hsubmissions, hchecked]
  exact filterMap_of_mapM (mapM_eq_ok.mpr ha.each)

/-- What a delivery of token usage posts: groups that bill what its submissions bill one by one. -/
structure Delivered (scheme : IdScheme) (call : Call) (p : Posting) (groups : List UsageGroup) :
    Prop where
  users : p.users = groups.map (·.user)
  rows : List.Forall₂ StoredUsage.Shows p.storedUsages groups
  billed : UsageGroup.SameBill groups
    (call.submissions.filterMap fun s => (groupOf scheme s).toOption)

theorem delivered_of_posts {call : Call} {o : Option Uuid} {p : Posting}
    (hposts : Posts scheme call o p) (hnodup : (p.events.map (·.id)).Nodup)
    (husage : ∀ s ∈ call.submissions, IsUsage s) : ∃ groups, Delivered scheme call p groups := by
  have hsingle : ∀ {submission : Submission} {apiKey : Value},
      call = .add submission apiKey → IsUsage submission := by
    rintro submission apiKey rfl
    exact husage submission (List.mem_singleton_self _)
  cases hposts with
  | sdkCall hrecord hkind => cases (hsingle rfl).kind_eq hrecord hkind
  | payment hrecord hkind => cases (hsingle rfl).kind_eq hrecord hkind
  | grant hrecord hkind => cases (hsingle rfl).kind_eq hrecord hkind
  | @usage _ records usage groups ids key hdelivers hofRecords hgroups hlength =>
      obtain ⟨singles, ha⟩ := UsageGroup.aggregates_of_aggregate hgroups
      rw [Posting.usage_event_ids hlength] at hnodup
      have hrecords : call.submissions.mapM unwrap = .ok records := by
        cases hdelivers with
        | single hrecord _ => rw [Call.submissions, List.mapM_cons, hrecord]; rfl
        | batch hrecords _ => exact hrecords
      refine ⟨groups, rfl, Posting.shows_usage hlength hnodup ha.offset, ?_⟩
      rw [singles_eq hrecords hofRecords ha]
      exact ha.sameBill

/-- What a run of deliveries stored, added up by users and models: its rows show groups that bill
what all its submissions bill one by one. -/
theorem exists_groups {calls : List Call} {ps : List Posting} {t : Tables}
    (hposts : List.Forall₂ (fun call p => ∃ o, Posts scheme call o p) calls ps)
    (hadmitted : AdmittedAll ps t) (husage : ∀ s ∈ calls.flatMap Call.submissions, IsUsage s) :
    ∃ groups, ps.flatMap (·.users) = groups.map (·.user) ∧
      List.Forall₂ StoredUsage.Shows (ps.flatMap Posting.storedUsages) groups ∧
      UsageGroup.SameBill groups
        ((calls.flatMap Call.submissions).filterMap fun s => (groupOf scheme s).toOption) := by
  induction hposts generalizing t with
  | nil => exact ⟨[], rfl, .nil, .perm (List.Perm.refl _)⟩
  | @cons call p calls ps hp _ ih =>
      obtain ⟨o, hp⟩ := hp
      rw [List.flatMap_cons, List.forall_mem_append] at husage
      obtain ⟨first, hfirst⟩ := delivered_of_posts hp hadmitted.1.nodup husage.1
      obtain ⟨rest, husers, hrows, hbilled⟩ := ih hadmitted.2 husage.2
      refine ⟨first ++ rest, ?_, ?_, ?_⟩
      · rw [List.flatMap_cons, hfirst.users, husers, List.map_append]
      · rw [List.flatMap_cons]
        exact List.rel_append hfirst.rows hrows
      · rw [List.flatMap_cons, List.filterMap_append]
        exact hfirst.billed.append hbilled

end Ledger

end UsageLedger
