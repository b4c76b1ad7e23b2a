/-
Particulars of token usage go to the event of their group.

The rows of events and of particulars are made in separate passes over the groups, and what pairs
them is a list of identifiers that comes from outside: the database hands it back, or it was drawn.
Pairing stops at the shorter list without a word, so that no group is lost rests on the look at the
identifiers before (`settleIds`): they go on only when there is one for each row and none is
missing.  Then the identifiers and the groups have one length, and the rows of both passes are in
the order of the groups.
-/
import UsageLedger.Proofs.Ledger.Acceptance

namespace UsageLedger

open Intake Txn Repository

/-! ### Identifiers that are handed back -/

namespace Repository

theorem allIds?_eq_none {handed : List (Option Uuid)} (h : none ∈ handed) :
    allIds? handed = none := by
  unfold allIds?
  induction handed with
  | nil => cases h
  | cons id handed ih =>
      rw [List.mapM_cons]
      cases id with
      | none => rfl
      | some id =>
          rw [ih ((List.mem_cons.mp h).resolve_left nofun)]
          rfl

theorem exists_ids {handed : List (Option Uuid)} (h : none ∉ handed) :
    ∃ ids : List Uuid, handed = ids.map some := by
  induction handed with
  | nil => exact ⟨[], rfl⟩
  | cons id handed ih =>
      rw [List.mem_cons, not_or] at h
      obtain ⟨ids, rfl⟩ := ih h.2
      cases id with
      | none => exact absurd rfl h.1
      | some id => exact ⟨id :: ids, rfl⟩

variable {count : Nat} {handed : List (Option Uuid)}

/-- No identifier, or one that is missing. -/
theorem settleIds_missing (h : handed = [] ∨ none ∈ handed) :
    settleIds count handed = .error (.failure .eventWithoutId) := by
  unfold settleIds
  rcases h with rfl | h
  · rfl
  · rw [allIds?_eq_none h]

/-- Another number of identifiers than of rows. -/
theorem settleIds_miscounted (hne : handed ≠ []) (hall : none ∉ handed)
    (hcount : handed.length ≠ count) :
    settleIds count handed = .error (.failure (.idCountMismatch count handed.length)) := by
  obtain ⟨ids, rfl⟩ := exists_ids hall
  obtain ⟨id, rest, rfl⟩ := List.exists_cons_of_ne_nil (mt List.map_eq_nil_iff.mpr hne)
  rw [List.length_map] at hcount ⊢
  rw [settleIds, allIds?_map_some]
  exact if_neg hcount

end Repository

/-! ### Groups -/

namespace Ingest

/-- Adds the particulars of groups under the identifiers of their events, and tells the first. -/
def attachDetails (c : Conditions) (groups : List UsageGroup) (ids : List Uuid) : Txn Uuid := do
  insertDetails c .tokenUsages (List.zipWith usageValues ids groups)
  match ids with
  | id :: _ => return id
  | [] => throw (.failure .eventWithoutId)

/-- The rows of the events of groups. -/
def groupRows (groups : List UsageGroup) (key : Option Uuid) : List Record :=
  groups.map fun g => userEventRow g.reportedAt.canonicalText g.user key

theorem length_groupRows (groups : List UsageGroup) (key : Option Uuid) :
    (groupRows groups key).length = groups.length := List.length_map _

/-- The part of the transaction of a batch that stores its groups. -/
def storeGroups (c : Conditions) (groups : List UsageGroup) (key : Option Uuid) : Txn Uuid := do
  ensureUsers c (groups.map (·.user.toValue))
  attachDetails c groups (← insertEvents c (groupRows groups key))

theorem storeUsage_eq {usage : List UsageRecord} {groups : List UsageGroup}
    (h : UsageGroup.aggregate usage = .ok groups) (c : Conditions) (key : Option Uuid) :
    storeUsage c usage key = storeGroups c groups key := by
  unfold storeUsage
  rw [h]
  rfl

/-! ### Statements -/

/-- The statement that makes sure of the users of groups. -/
def usersStatement (groups : List UsageGroup) : Statement :=
  .ensureUsers (((groups.map (·.user)).foldl addNew []).map UserId.toValue)

/-- The rows of the events of groups as they are sent: with identifiers when these are drawn. -/
def sentRows (c : Conditions) (groups : List UsageGroup) (key : Option Uuid) : List Record :=
  if c.dialect.returning then groupRows groups key
  else List.zipWith withId (groupRows groups key) ((List.range groups.length).map c.fresh)

/-- The statement that adds the events of groups. -/
def eventsStatement (c : Conditions) (groups : List UsageGroup) (key : Option Uuid) : Statement :=
  .insert .events (sentRows c groups key) c.dialect.returning

/-- The identifiers of the events of groups: those of the answer, or those that were drawn. -/
def handedIds (c : Conditions) (groups : List UsageGroup) (answer : List (Option Uuid)) :
    List (Option Uuid) :=
  if c.dialect.returning then answer else ((List.range groups.length).map c.fresh).map some

/-- Nothing is raised while groups are stored, and the database answers the statement that adds
their events with some list of identifiers. -/
structure Answers (c : Conditions) (t : Tables) (groups : List UsageGroup) (key : Option Uuid)
    (answer : List (Option Uuid)) : Prop where
  opening : c.opening = none
  commit : c.commit = none
  broken : ∀ step, c.broken step = none
  statements : ∃ told t₁ t₂, c.engine 0 (usersStatement groups) t = .ok (t₁, told) ∧
    c.engine 1 (eventsStatement c groups key) t₁ = .ok (t₂, answer) ∧
    ∀ details, ∃ t₃ told, c.engine 2 (.insert .tokenUsages details false) t₂ = .ok (t₃, told)

variable {c : Conditions} {t t' : Tables} {groups : List UsageGroup} {key : Option Uuid}
  {answer ids : List (Option Uuid)} {w : Work}

theorem result_execute_of_answer {statement : Statement}
    (h : c.engine w.executed.length statement w.tables = .ok (t', ids)) :
    result (execute c statement) w = .ok (ids, ⟨t', w.executed ++ [statement], w.drawn⟩) := by
  rw [result_execute, h]
  rfl

/-- The events of groups are sent in one statement, whatever becomes of their identifiers. -/
theorem result_insertGroups (hbroken : c.broken .insertWithIds = none) (hdrawn : w.drawn = 0)
    (h : c.engine w.executed.length (eventsStatement c groups key) w.tables = .ok (t', answer)) :
    ∃ drawn, result (insertWithIds c .events (groupRows groups key)) w
      = .ok (handedIds c groups answer,
          ⟨t', w.executed ++ [eventsStatement c groups key], drawn⟩) := by
  unfold insertWithIds
  rw [result_after_meet hbroken]
  unfold eventsStatement sentRows handedIds at *
  cases hreturning : c.dialect.returning with
  | true =>
      simp only [hreturning, if_true] at h ⊢
      exact ⟨_, result_execute_of_answer h⟩
  | false =>
      obtain ⟨tables, executed, drawn⟩ := w
      obtain rfl : drawn = 0 := hdrawn
      simp only [hreturning, Bool.false_eq_true, if_false] at h ⊢
      rw [result_after (result_drawFor _), length_groupRows, ← List.range_eq_range',
        result_after (result_execute_of_answer h)]
      exact ⟨_, rfl⟩

/-- The particulars of all groups are sent in one statement when there is an identifier for each. -/
theorem exec_attachDetails (hbroken : c.broken .insertDetails = none) (hne : groups ≠ [])
    {ids : List Uuid} (hlength : ids.length = groups.length) {told : List (Option Uuid)} {w' : Work}
    (h : result (execute c (.insert .tokenUsages (List.zipWith usageValues ids groups) false)) w
      = .ok (told, w')) :
    ∃ first, ids.head? = some first ∧ exec (attachDetails c groups ids) w = (.ok first, w') := by
  obtain ⟨g, groups, rfl⟩ := List.exists_cons_of_ne_nil hne
  obtain ⟨first, rest, rfl⟩ : ∃ first rest, ids = first :: rest :=
    List.exists_cons_of_ne_nil (List.ne_nil_of_length_pos (by rw [hlength]; exact Nat.succ_pos _))
  have hdetails : List.zipWith usageValues (first :: rest) (g :: groups) ≠ [] :=
    List.cons_ne_nil _ _
  refine ⟨first, rfl, ?_⟩
  unfold attachDetails
  rw [exec_after (exec_of_result_ok (result_insertDetails_of_execute hbroken hdetails h))]
  rfl

/-- The users and the events of groups are sent first, and then the identifiers that are handed back
decide. -/
theorem exec_storeGroups (hne : groups ≠ []) (h : Answers c t groups key answer) :
    ∃ w, w.executed = [usersStatement groups, eventsStatement c groups key] ∧
      (∀ details, ∃ t₃ told, c.engine 2 (.insert .tokenUsages details false) w.tables
        = .ok (t₃, told)) ∧
      exec (storeGroups c groups key) ⟨t, [], 0⟩
        = match settleIds groups.length (handedIds c groups answer) with
          | .ok ids => exec (attachDetails c groups ids) w
          | .error e => (.error e, w) := by
  obtain ⟨told, t₁, t₂, husers, hevents, hdetails⟩ := h.statements
  have hensured : result (ensureUsers c ((groups.map (·.user)).map UserId.toValue)) ⟨t, [], 0⟩
      = .ok ((), ⟨t₁, [usersStatement groups], 0⟩) :=
    result_ensureUsers_of_execute (h.broken _) (mt List.map_eq_nil_iff.mp hne)
      (result_execute_of_answer husers)
  obtain ⟨drawn, hinserted⟩ :=
    result_insertGroups (w := ⟨t₁, [usersStatement groups], 0⟩) (h.broken _) rfl hevents
  have hrows : groupRows groups key ≠ [] := mt List.map_eq_nil_iff.mp hne
  have hsettled := exec_insertEvents (h.broken _) hrows hinserted
  rw [length_groupRows] at hsettled
  have hvalues : groups.map (·.user.toValue) = (groups.map (·.user)).map UserId.toValue := by
    rw [List.map_map]
    rfl
  refine ⟨⟨t₂, [usersStatement groups, eventsStatement c groups key], drawn⟩, rfl, hdetails, ?_⟩
  unfold storeGroups
  rw [hvalues, exec_after (exec_of_result_ok hensured), exec_bind, hsettled]
  cases settleIds groups.length (handedIds c groups answer) <;> rfl

/-! ### Rows -/

/-- The row of the event of a group as it is sent. -/
def sentRow (c : Conditions) (key : Option Uuid) (id : Uuid) (g : UsageGroup) : Record :=
  let row := userEventRow g.reportedAt.canonicalText g.user key
  if c.dialect.returning then row else withId row id

/-- Each group has one row for its event and one for its particulars, and those at one place are the
rows of the group there, the particulars under the identifier there. -/
structure Attached (c : Conditions) (groups : List UsageGroup) (key : Option Uuid)
    (ids : List Uuid) (details : List Record) : Prop where
  idCount : ids.length = groups.length
  eventCount : (sentRows c groups key).length = groups.length
  detailCount : details.length = groups.length
  place : ∀ (i : Nat) (id : Uuid) (g : UsageGroup), ids[i]? = some id → groups[i]? = some g →
    (sentRows c groups key)[i]? = some (sentRow c key id g) ∧
      details[i]? = some (usageValues id g)

theorem attached_zipWith {ids : List Uuid} (hids : handedIds c groups answer = ids.map some)
    (hlength : ids.length = groups.length) :
    Attached c groups key ids (List.zipWith usageValues ids groups) := by
  constructor
  case idCount => exact hlength
  case eventCount =>
    unfold sentRows
    split <;> simp [length_groupRows]
  case detailCount => simp [hlength]
  case place =>
    intro i id g hid hg
    constructor
    · unfold sentRows sentRow groupRows
      cases hreturning : c.dialect.returning with
      | true => simp [hg]
      | false =>
          have hdrawn : (List.range groups.length).map c.fresh = ids := by
            rw [handedIds, hreturning] at hids
            exact List.map_injective_iff.mpr (Option.some_injective _) hids
          simp [hdrawn, List.getElem?_zipWith, hid, hg]
    · rw [List.getElem?_zipWith, hid, hg]

/-- Identifiers that are drawn are there for all groups. -/
theorem handedIds_drawn (hdrawn : c.dialect.returning = false) :
    none ∉ handedIds c groups answer ∧ (handedIds c groups answer).length = groups.length := by
  simp [handedIds, hdrawn]

/-- The statements that are sent while groups are stored. -/
def issued (c : Conditions) (t : Tables) (groups : List UsageGroup) (key : Option Uuid) :
    List Statement :=
  (exec (storeGroups c groups key) ⟨t, [], 0⟩).2.executed

/-- A batch of records is stored as its groups are. -/
theorem addUsage_eq (hne : groups ≠ []) {records : List Record} {usage : List UsageRecord}
    {apiKey : Value} (hrecords : UsageRecord.ofRecords c.scheme records = .ok usage)
    (hgroups : UsageGroup.aggregate usage = .ok groups) (hkey : readApiKeyId apiKey = .ok key) :
    addUsage c records apiKey t =
      let stored := writeTransaction c (Text.integer records.length ++ " AI_TOKEN_USAGE event(s)")
        (storeGroups c groups key) t
      (stored.1.map some, stored.2) := by
  have hsome : records.isEmpty = false := by
    rw [List.isEmpty_eq_false_iff]
    rintro rfl
    cases hrecords
    cases hgroups
    exact hne rfl
  unfold addUsage checked
  rw [hsome, hrecords, parseApiKeyId_eq_ok.mpr hkey, ← storeUsage_eq hgroups]
  rfl

/-- **Particulars go to the event of their group**, whatever identifiers are handed back for the
events, and whether the database hands them back or they are drawn.  When one is missing, or none or
another number than of groups is there, this is told, nothing is sent for the particulars, and the
tables stay as they were.  Otherwise one row of particulars is sent for each group: at each place
are the identifier that was handed back there, the group there, and the row of its event. -/
theorem details_follow_events (hne : groups ≠ []) (h : Answers c t groups key answer) :
    let handed := handedIds c groups answer
    let before := [usersStatement groups, eventsStatement c groups key]
    let stored := fun description => writeTransaction c description (storeGroups c groups key) t
    (c.dialect.returning = false → none ∉ handed ∧ handed.length = groups.length) ∧
    (handed = [] ∨ none ∈ handed → issued c t groups key = before ∧
      ∃ f, f.kind = .emptyResult ∧ ∀ description, stored description = (.error (.failure f), t)) ∧
    (handed ≠ [] → none ∉ handed → handed.length ≠ groups.length →
      issued c t groups key = before ∧
      ∃ f, f.kind = .insertFailed ∧ ∀ description, stored description = (.error (.failure f), t)) ∧
    (none ∉ handed → handed.length = groups.length →
      ∃ (ids : List Uuid) (details : List Record) (first : Uuid) (t' : Tables),
        handed = ids.map some ∧ ids.head? = some first ∧ Attached c groups key ids details ∧
        issued c t groups key = before ++ [.insert .tokenUsages details false] ∧
        ∀ description, stored description = (.ok first, t')) ∧
    ∀ records usage apiKey, UsageRecord.ofRecords c.scheme records = .ok usage →
      UsageGroup.aggregate usage = .ok groups → readApiKeyId apiKey = .ok key →
      storeUsage c usage key = storeGroups c groups key ∧ ∃ description,
        addUsage c records apiKey t
          = ((stored description).1.map some, (stored description).2) := by
  obtain ⟨w, hexecuted, hdetails, hexec⟩ := exec_storeGroups hne h
  refine ⟨handedIds_drawn, fun hmissing => ?_, fun hsome hall hcount => ?_, fun hall hcount => ?_,
    fun records usage apiKey hrecords hgroups hkey =>
      ⟨storeUsage_eq hgroups c key, _, addUsage_eq hne hrecords hgroups hkey⟩⟩
  · rw [settleIds_missing hmissing] at hexec
    exact ⟨by rw [issued, hexec, hexecuted], _, rfl,
      writeTransaction_of_error h.opening (result_of_exec_error hexec)⟩
  · rw [settleIds_miscounted hsome hall hcount] at hexec
    refine ⟨by rw [issued, hexec, hexecuted], .idCountMismatch _ _, rfl,
      writeTransaction_of_error h.opening (result_of_exec_error hexec)⟩
  · obtain ⟨ids, hids⟩ := exists_ids hall
    have hlength : ids.length = groups.length := by rw [← hcount, hids, List.length_map]
    have hidsne : ids ≠ [] := List.ne_nil_of_length_pos (by
      rw [hlength]
      exact List.length_pos_iff.mpr hne)
    rw [hids, ← hlength, settleIds_map_some hidsne] at hexec
    obtain ⟨t₃, told, hanswer⟩ := hdetails (List.zipWith usageValues ids groups)
    rw [show 2 = w.executed.length by rw [hexecuted]; rfl] at hanswer
    obtain ⟨first, hfirst, hattached⟩ :=
      exec_attachDetails (h.broken _) hne hlength (result_execute_of_answer hanswer)
    have hstored := hexec.trans hattached
    refine ⟨ids, _, first, t₃, hids, hfirst, attached_zipWith hids hlength, ?_,
      writeTransaction_of_result h.opening h.commit (result_of_exec_ok hstored)⟩
    rw [issued, hstored, hexecuted]

namespace Sample

/-- The usage of two users. -/
def twoGroups : List UsageGroup :=
  [⟨.number 7, "small", 1, 2, 3, 4, Timestamp.first⟩,
    ⟨.number 8, "large", 5, 6, 7, 8, Timestamp.first⟩]

/-- A PostgreSQL database that hands back some identifiers for events. -/
def handing (answer : List (Option Uuid)) : Conditions :=
  ⟨.bigint, Conditions.usualDepth, Dialect.postgresql,
    Engine.scripted [.hands [], .hands answer], Uuid.ofNat, none, none, fun _ => none⟩

theorem answers_handing (answer : List (Option Uuid)) :
    Answers (handing answer) Tables.empty twoGroups none answer :=
  ⟨rfl, rfl, fun _ => rfl, [], Tables.empty, Tables.empty, rfl, rfl,
    fun _ => ⟨Tables.empty, [], rfl⟩⟩

end Sample

/-- With two identifiers, whatever they are, the second group has its particulars under the second;
one identifier is too few, and one of two is missing. -/
theorem details_follow_events_sample :
    (∃ details : List Record, details.length = 2 ∧
      details[1]? = some (usageValues (Uuid.ofNat 4)
        ⟨.number 8, "large", 5, 6, 7, 8, Timestamp.first⟩) ∧
      .insert .tokenUsages details false ∈ issued
        (Sample.handing [some (.ofNat 5), some (.ofNat 4)]) Tables.empty Sample.twoGroups none) ∧
    (∃ f, f.kind = .insertFailed ∧ writeTransaction (Sample.handing [some (.ofNat 5)]) "usage"
      (storeGroups (Sample.handing [some (.ofNat 5)]) Sample.twoGroups none) Tables.empty
        = (.error (.failure f), Tables.empty)) ∧
    ∃ f, f.kind = .emptyResult ∧ writeTransaction (Sample.handing [some (.ofNat 5), none]) "usage"
      (storeGroups (Sample.handing [some (.ofNat 5), none]) Sample.twoGroups none) Tables.empty
        = (.error (.failure f), Tables.empty) := by
  have hne : Sample.twoGroups ≠ [] := List.cons_ne_nil _ _
  refine ⟨?_, ?_, ?_⟩
  · obtain ⟨-, -, -, hpaired, -⟩ := details_follow_events hne
      (Sample.answers_handing [some (Uuid.ofNat 5), some (Uuid.ofNat 4)])
    obtain ⟨ids, details, first, t', hids, -, hattached, hissued, -⟩ :=
      hpaired (by decide) (by decide)
    obtain rfl : [Uuid.ofNat 5, Uuid.ofNat 4] = ids :=
      List.map_injective_iff.mpr (Option.some_injective _) hids
    refine ⟨details, hattached.detailCount, (hattached.place 1 _ _ rfl rfl).2, ?_⟩
    rw [hissued]
    simp
  · obtain ⟨-, -, hmiscounted, -⟩ :=
      details_follow_events hne (Sample.answers_handing [some (Uuid.ofNat 5)])
    obtain ⟨-, f, hf, hstored⟩ := hmiscounted (by decide) (by decide) (by decide)
    exact ⟨f, hf, hstored _⟩
  · obtain ⟨-, hmissing, -⟩ :=
      details_follow_events hne (Sample.answers_handing [some (Uuid.ofNat 5), none])
    obtain ⟨-, f, hf, hstored⟩ := hmissing (.inr (by decide))
    exact ⟨f, hf, hstored _⟩

end Ingest

end UsageLedger
