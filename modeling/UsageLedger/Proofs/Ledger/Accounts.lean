/-
One user, one account, whatever the spelling.

The ledger looks at the user of a record once, to read who it is, and from then on the identifier
stands for the user (`requireUser_of_names`).  So records that name one user in different spellings
are the same event, are written alike, and are priced by the same queries; and what is written
about a user goes to the one row of this user (`posts_of_about`).
-/
import UsageLedger.Proofs.Intake.Spelling
import UsageLedger.Proofs.Ledger.Accepted
import UsageLedger.Proofs.Ledger.Billing
import UsageLedger.Proofs.Ledger.Pricing
import UsageLedger.Proofs.Ledger.Readings

namespace UsageLedger

open Intake

/-- The record names the user, in some spelling. -/
def Names (scheme : IdScheme) (user : UserId) (r : Record) : Prop :=
  ∃ v, r.get? userKey = some v ∧ UserId.parse scheme v = .ok user

/-- Two records name one user and say the same besides; the spellings may differ. -/
structure Respelt (scheme : IdScheme) (r r' : Record) : Prop where
  user : ∃ user, Names scheme user r ∧ Names scheme user r'
  rest : ∀ name, name ≠ userKey → r.get? name = r'.get? name

variable {scheme : IdScheme} {user : UserId} {r r' : Record}

theorem requireUser_of_names (h : Names scheme user r) (label : String) :
    requireUser scheme r label = .ok user := by
  obtain ⟨v, hv, hparse⟩ := h
  have hget : r.get userKey = v := by rw [Record.get, hv, Option.getD_some]
  rw [requireUser_eq_ok, hget]
  exact ⟨UserId.saysNothing_of_parse hparse, hparse⟩

theorem Respelt.get (h : Respelt scheme r r') {name : String} (hname : name ≠ userKey) :
    r.get name = r'.get name := by rw [Record.get, h.rest name hname, ← Record.get]

theorem Respelt.requireUser (h : Respelt scheme r r') (label : String) :
    requireUser scheme r label = requireUser scheme r' label := by
  obtain ⟨user, hleft, hright⟩ := h.user
  rw [requireUser_of_names hleft, requireUser_of_names hright]

/-- The spelling of the user is nothing to a write. -/
theorem Respelt.checkedAlike (h : Respelt scheme r r') (kind : EventKind) :
    CheckedAlike scheme r r' kind ∧ TimedAlike r r' :=
  ⟨checkedAlike_of_get h.requireUser (h.get (by decide)) kind,
    congrArg parseTimestamp (h.get (by decide))⟩

/-! ### Events -/

namespace Event

open Schema

variable {now : Timestamp} {e : Event}

theorem find?_respelt (h : Respelt scheme r r') {field : FieldName} (hwire : field.wire ≠ userKey)
    (hname : field.name ≠ userKey) : field.find? r = field.find? r' := by
  unfold FieldName.find?
  rw [h.rest _ hwire, h.rest _ hname]

theorem required_user (h : Names scheme user r) :
    required userField (readUser scheme) r = .valid user := by
  obtain ⟨v, hv, hparse⟩ := h
  refine required_of_get? hv ?_
  rw [readUser, hparse]
  rfl

theorem requiredShape_respelt {α : Type} (h : Respelt scheme r r') {check : Value → Validated α}
    {a : α} (hr : requiredShape dataField check r = .valid a) :
    requiredShape dataField check r' = .valid a := by
  unfold requiredShape at hr ⊢
  rw [← find?_respelt h (by decide) (by decide)]
  cases hfind : dataField.find? r with
  | none =>
      rw [hfind] at hr
      cases hr
  | some given =>
      rw [hfind] at hr
      exact hr

/-- Records that name one user are read as one event. -/
theorem ofRecord_respelt (h : Respelt scheme r r') {kind : EventKind}
    (he : ofRecord scheme now kind r = .valid e) : ofRecord scheme now kind r' = .valid e := by
  obtain ⟨user, hleft, hright⟩ := h.user
  have htime : defaulted timestampField now readTimestamp r
      = defaulted timestampField now readTimestamp r' := by
    unfold defaulted
    rw [find?_respelt h (by decide) (by decide)]
  have hnone : defaulted dataField () readNull r = defaulted dataField () readNull r' := by
    unfold defaulted
    rw [find?_respelt h (by decide) (by decide)]
  have hreport : ∀ {α : Type} {check : Value → Validated α} {make : UserId → α → EventBody},
      readReport scheme now check make r = .valid e →
      readReport scheme now check make r' = .valid e := by
    intro α check make hreport
    obtain ⟨time, data, user', hread, hshape, huser, rfl⟩ := readReport_eq_valid.mp hreport
    rw [required_user hleft] at huser
    cases huser
    rw [htime] at hread
    exact readReport_eq_valid.mpr
      ⟨time, data, user, hread, requiredShape_respelt h hshape, required_user hright, rfl⟩
  have hrequest : ∀ make : UserId → EventBody, readRequest scheme now make r
      = readRequest scheme now make r' := by
    intro make
    unfold readRequest
    rw [htime, hnone, required_user hleft, required_user hright]
  cases kind with
  | sdkCall | payment | tokenUsage => exact hreport he
  | requestSdkCall | requestTokenUsage | requestPayment => exact (hrequest _).symm.trans he
  | addKey =>
      change readGrant now r = .valid e at he
      change readGrant now r' = .valid e
      unfold readGrant at he ⊢
      obtain ⟨ofData, data, hmade, hshape, he⟩ := Validated.seq_eq_valid_iff.mp he
      rw [← htime, hmade, requiredShape_respelt h hshape, ← he]
      rfl

theorem ofValue_respelt (h : Respelt scheme r r') (he : ofValue scheme now (.record r) = .valid e) :
    ofValue scheme now (.record r') = .valid e := by
  unfold ofValue at he ⊢
  dsimp only at he ⊢
  rw [← h.rest typeKey (by decide)]
  cases hgiven : Record.get? r typeKey with
  | none =>
      rw [hgiven] at he
      cases he
  | some given =>
      rw [hgiven] at he
      dsimp only at he ⊢
      cases hkind : kindOf? given with
      | none =>
          rw [hkind] at he
          cases he
      | some kind =>
          rw [hkind] at he
          exact Validated.under_eq_valid_iff.mpr
            (ofRecord_respelt h (Validated.under_eq_valid_iff.mp he))

end Event

/-! ### Writes -/

namespace Ledger

open Ingest Pricing

variable {c : Conditions} {apiKey : Value} {t : Tables} {s s' : Submission}

/-- Two submissions of one event, but for the spelling of its user. -/
def SameButSpelling (scheme : IdScheme) (s s' : Submission) : Prop :=
  ∃ r r', unwrap s = .ok r ∧ unwrap s' = .ok r' ∧ Respelt scheme r r'

theorem add_respelt (h : SameButSpelling c.scheme s s') :
    add c s apiKey t = add c s' apiKey t := by
  obtain ⟨r, r', hs, hs', h⟩ := h
  exact add_alike hs hs' (h.get (by decide)) (fun kind _ => (h.checkedAlike kind).1)
    (h.checkedAlike .tokenUsage).2

theorem addBatch_respelt {ss ss' : List Submission}
    (h : List.Forall₂ (SameButSpelling c.scheme) ss ss') :
    addBatch c ss apiKey t = addBatch c ss' apiKey t := by
  obtain ⟨rs, rs', hrs, hrs', hrespelt⟩ : ∃ rs rs', ss.mapM unwrap = .ok rs ∧
      ss'.mapM unwrap = .ok rs' ∧ List.Forall₂ (Respelt c.scheme) rs rs' := by
    simp only [mapM_eq_ok]
    induction h with
    | nil => exact ⟨[], [], .nil, .nil, .nil⟩
    | cons hs _ ih =>
        obtain ⟨r, r', hr, hr', hrespelt⟩ := hs
        obtain ⟨rs, rs', hrs, hrs', hrest⟩ := ih
        exact ⟨r :: rs, r' :: rs', .cons hr hrs, .cons hr' hrs', .cons hrespelt hrest⟩
  exact addBatch_alike hrs hrs' (hrespelt.imp fun r r' h => h.get (by decide))
    (hrespelt.imp fun r r' h => h.checkedAlike .tokenUsage)

/-! ### One account -/

/-- Every record of the call reports an event of the user. -/
def Call.About (scheme : IdScheme) (user : UserId) (call : Call) : Prop :=
  ∀ r ∈ call.records, Names scheme user r ∧ acceptedKind r writeKinds ≠ .ok .addKey

/-- What a call about one user posts is about this user, and is something when an identifier is
told. -/
theorem posts_of_about {call : Call} {o : Option Uuid} {p : Posting}
    (hposts : Posts scheme call o p)
    (hcall : call.About scheme user) : (∀ u ∈ p.users, u = user) ∧
      (∀ e ∈ p.events, e.user = some user.toCell) ∧
      (o.isSome = true → p.users ≠ [] ∧ p.events ≠ []) := by
  unfold Call.About at hcall
  have hsingle : ∀ {s : Submission} {apiKey : Value} {r : Record} {payer : UserId} {label : String},
      unwrap s = .ok r → (∀ r ∈ (Call.add s apiKey).records, Names scheme user r ∧
        acceptedKind r writeKinds ≠ .ok .addKey) →
      requireUser scheme r label = .ok payer → payer = user := by
    intro s apiKey r payer label hs hnames hpayer
    rw [records_add hs, List.forall_mem_singleton] at hnames
    exact Except.ok.inj (hpayer.symm.trans (requireUser_of_names hnames.1 label))
  cases hposts with
  | sdkCall hs _ hcheck _ _ =>
      obtain rfl := hsingle hs hcall (checkSdkCall_ok hcheck).1
      simp [Posting.sdkCall, Posting.event]
  | payment hs _ hcheck _ _ _ =>
      obtain rfl := hsingle hs hcall (checkPayment_ok hcheck).1
      simp [Posting.payment, Posting.event]
  | grant hs hkind _ _ =>
      rw [records_add hs, List.forall_mem_singleton] at hcall
      exact absurd hkind hcall.2
  | @usage _ records usage groups ids key hdelivers hofRecords hgroups hlength _ =>
      rw [hdelivers.records.1] at hcall
      obtain ⟨singles, ha⟩ := UsageGroup.aggregates_of_aggregate hgroups
      have hgroup : ∀ g ∈ groups, g.user = user := by
        refine ha.forall_mem_of (fun _ _ _ hg _ => hg) fun g hg => ?_
        obtain ⟨u, hu, hsingle⟩ := exists_of_mem_forall₂ ha.each hg
        obtain ⟨r, hr, hchecked⟩ := exists_of_mem_forall₂ (mapM_eq_ok.mp hofRecords) hu
        obtain ⟨time, -, rfl⟩ := UsageGroup.single_ok hsingle
        have hpayer := (UsageRecord.checked_of_ofRecord hchecked).user
        exact Except.ok.inj (hpayer.symm.trans (requireUser_of_names (hcall r hr).1 _))
      refine ⟨fun u hu => ?_, fun e he => ?_, fun hsome => ?_⟩
      · obtain ⟨g, hg, rfl⟩ := List.mem_map.mp hu
        exact hgroup g hg
      · obtain ⟨id, -, g, hg, rfl⟩ := exists_of_mem_zipWith he
        rw [← hgroup g hg]
        rfl
      · have hids : 0 < ids.length := by
          cases ids with
          | nil => cases hsome
          | cons id ids => exact Nat.succ_pos _
        have husers : 0 < (Posting.usage ids key groups).users.length := by
          simpa [Posting.usage, ← hlength] using hids
        have hevents : 0 < (Posting.usage ids key groups).events.length := by
          simpa [Posting.usage, ← hlength] using hids
        exact ⟨List.ne_nil_of_length_pos husers, List.ne_nil_of_length_pos hevents⟩

/-- Adding one thing again and again adds it once. -/
theorem foldl_addNew_const {α : Type} [DecidableEq α] {items xs : List α} {x : α} (hne : xs ≠ [])
    (hxs : ∀ y ∈ xs, y = x) : xs.foldl addNew items = addNew items x := by
  cases xs with
  | nil => exact absurd rfl hne
  | cons y xs =>
      rw [List.forall_mem_cons] at hxs
      rw [List.foldl_cons, hxs.1]
      refine foldl_addNew_of_subset fun z hz => ?_
      rw [hxs.2 z hz]
      exact mem_addNew.mpr (.inr rfl)

/-- **One user has one account, whatever the spelling.**  What is read as an identifier is one of
the scheme, and is read again from itself and from its text; and every spelling is read as the
identifier that it spells.  Records that differ in the spelling of one user are read as one event
and are written alike, one by one and in batches.  What a call about one user stores goes to the one
row of this user, which is the one that a price of the user is asked for. -/
theorem one_user_one_account (scheme : IdScheme) (depth : Nat) :
    (∀ v user, UserId.parse scheme v = .ok user →
      user.Within scheme ∧ UserId.parse scheme user.toValue = .ok user ∧
        UserId.parse scheme (.text user.text) = .ok user) ∧
      (∀ (user : UserId) text, user.Within scheme → user.Spelling text →
        UserId.parse scheme (.text text) = .ok user) ∧
      (∀ now r r' e, Respelt scheme r r' → Event.ofValue scheme now (.record r) = .valid e →
        Event.ofValue scheme now (.record r') = .valid e) ∧
      (∀ c apiKey t, c.scheme = scheme →
        (∀ s s', SameButSpelling scheme s s' → add c s apiKey t = add c s' apiKey t) ∧
        ∀ ss ss', List.Forall₂ (SameButSpelling scheme) ss ss' →
          addBatch c ss apiKey t = addBatch c ss' apiKey t) ∧
      ∀ user,
        (∀ c (call : Call) t id t', c.scheme = scheme → c.Constrained → call.About scheme user →
          call.run c t = (.ok (some id), t') →
          t'.users = addNew t.users user.toCell ∧
            ∃ es, es ≠ [] ∧ t'.events = t.events ++ es ∧ ∀ e ∈ es, e.user = some user.toCell) ∧
        ∀ s r kind, unwrap s = .ok r → acceptedKind r priceKinds = .ok kind → Names scheme user r →
          ∀ (σ : Type) (ask : Asked σ Query Value) state,
            price scheme depth ask s state = priceBy ask user kind state := by
  refine ⟨fun v user h => UserId.parse_text h, fun user text => UserId.parse_of_spelling,
    fun now r r' e => Event.ofValue_respelt, ?_, fun user => ⟨?_, ?_⟩⟩
  · rintro c apiKey t rfl
    exact ⟨fun s s' => add_respelt, fun ss ss' => addBatch_respelt⟩
  · rintro c call t id t' rfl hc hcall hrun
    obtain ⟨p, hposts, -, -, rfl⟩ := posts_of_accepted hc hrun
    obtain ⟨husers, hevents, hsome⟩ := posts_of_about hposts hcall
    obtain ⟨husers', hevents'⟩ := hsome rfl
    refine ⟨?_, p.events, hevents', rfl, hevents⟩
    refine foldl_addNew_const (by simpa using husers') ?_
    rintro cell hcell
    obtain ⟨u, hu, rfl⟩ := List.mem_map.mp hcell
    rw [husers u hu]
  · intro s r kind hs hkind hnames σ ask state
    exact price_eq hs hkind (requireUser_of_names hnames "")

/-- The digits of an identifier in upper case, in braces after the marker, and a number with a sign
and zeros, with blanks around them. -/
theorem one_user_one_account_sample :
    UserId.parse .uuid
        (.text "\turn:uuid:\x7b00000000-0000-0000-0000-0000000000AB\x7d ")
      = .ok (.uuid (Uuid.ofNat 171)) ∧
      UserId.parse .int (.text " +007\n") = .ok (.number 7) ∧
      ∀ c apiKey t, c.scheme = .int →
        let payment (user : Value) : Submission := .envelope (Event.wrap
          [(Event.typeKey, .text EventKind.payment.name), (userKey, user),
            (timestampKey, .timestamp .first), (dataKey, .record [("creditAmount", .int 5)])])
        add c (payment (.text " +007\n")) apiKey t = add c (payment (.int 7)) apiKey t := by
  have hdigits : (Uuid.ofNat 171).Spells "00000000-0000-0000-0000-0000000000AB".toList :=
    .digits (by decide +kernel)
  have huuid : UserId.parse .uuid
      (.text ("\t" ++ String.ofList ("urn:uuid:".toList ++
        ('\x7b' :: "00000000-0000-0000-0000-0000000000AB".toList ++ ['\x7d'])) ++ " "))
      = .ok (.uuid (Uuid.ofNat 171)) :=
    (one_user_one_account .uuid Conditions.usualDepth).2.1 _ _ trivial
      (.uuid (.named (.braced hdigits)) (by decide) (by decide))
  have hnumber : UserId.parse .int (.text (" " ++ String.ofList ('+' :: Text.padded 2 7) ++ "\n"))
      = .ok (.number 7) :=
    (one_user_one_account .int Conditions.usualDepth).2.1 (.number 7) _ ⟨by decide, by decide⟩
      (.number (.plus (n := 7) (by decide) (by decide +kernel)) (by decide) (by decide))
  have htext : " " ++ String.ofList ('+' :: Text.padded 2 7) ++ "\n" = " +007\n" := by
    decide +kernel
  rw [htext] at hnumber
  refine ⟨huuid, hnumber, fun c apiKey t hc => ?_⟩
  refine ((one_user_one_account .int Conditions.usualDepth).2.2.2.1 c apiKey t hc).1 _ _
    ⟨_, _, rfl, rfl, ⟨.number 7, ⟨_, rfl, hnumber⟩, ⟨_, rfl, rfl⟩⟩, fun name hname => ?_⟩
  simp only [Record.get?_cons, if_neg hname]

end Ledger

end UsageLedger
