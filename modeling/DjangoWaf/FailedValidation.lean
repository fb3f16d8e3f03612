import DjangoWaf.Forms.Mixin
import DjangoWaf.Forms.Rendering
import DjangoWaf.Lib.Run
import DjangoWaf.TokenBinding

/-!
# Does a failed validation keep the token?

A form is rendered once and submitted several times with the same token: at first in vain, because
the form does not validate although the defences would pass, and then corrected. Redis may be up or
down at each of these moments, and others use it in between.

The marker goes **with the first submission whose defences run while Redis is up**, since `clean`
deletes it on `PASSED` and knows nothing of the errors before and after (`token_cell_session`). So
the token is kept exactly when every failed submission stopped ahead of the defences
(`failed_validation_keeps_token_iff`).
-/

namespace DjangoWaf

open PyBytes IsoDatetime

/-! ### Blocked as replayed -/

/-- `evaluate` ends at once, with the outcome of a spent token. -/
def BlockedAsReplayed (cf : FormConf) (fp : FormProtection) (reads : FormReads) (now : Civil)
    (req : FormRequest) (data : Submitted) : Prop :=
  ∃ r, fp.evaluate cf reads now req data = .ok r ∧
    r.outcomes = [.blocked "render_token:replayed" 5]

section

variable {cf : FormConf} {fp : FormProtection} {reads : FormReads} {now : Civil} {req : FormRequest}
  {data : Submitted}

/-- The first outcome is that of the render token. -/
theorem outcome_of_blockedAsReplayed (henabled : cf.enabled = true)
    (hmem : .renderToken ∈ fp.defenceNames)
    (h : BlockedAsReplayed cf fp reads now req data) : ∃ payload,
      fp.threadedPayload cf data = .ok payload ∧
      fp.outcomeOf cf reads now req data payload .renderToken =
        .blocked "render_token:replayed" 5 := by
  obtain ⟨r, hr, houtcomes⟩ := h
  obtain ⟨hraises, hresults⟩ := fp.evaluate_spec cf reads now req data henabled
  rcases hthreaded : fp.threadedPayload cf data with e | payload
  · rw [hraises e hthreaded] at hr
    cases hr
  · obtain ⟨r', hr', hfor⟩ := hresults payload hthreaded
    obtain rfl := Except.ok.inj (hr.symm.trans hr')
    refine ⟨payload, rfl, ?_⟩
    rcases renderToken_cases (fp.runningNames_sublist req) with hnot | ⟨rest, hnames, -⟩
    · exact absurd ((fp.renderToken_mem_runningNames req).2 hmem) hnot
    · have hfirst := hfor.outcomes
      rw [houtcomes, FormProtection.outcomes, hnames, List.map_cons, throughBlock] at hfirst
      split_ifs at hfirst
      · exact (List.singleton_inj.1 hfirst).symm
      · exact (List.cons.inj hfirst).1.symm

/-- **When a verified token is blocked as replayed.** -/
theorem blockedAsReplayed_iff (henabled : cf.enabled = true) (hmem : .renderToken ∈ fp.defenceNames)
    {p : TokenPayload}
    (hv : verifyToken cf.toSigning (data.text RenderTokenDefence.fieldName) = .ok p) :
    BlockedAsReplayed cf fp reads now req data ↔
      ¬RenderTokenDefence.Expired cf fp now p ∧ fp.Spent cf reads now p := by
  have hthreaded := fp.threadedPayload_verified hmem hv
  have houtcome : fp.outcomeOf cf reads now req data (some p) .renderToken =
      .blocked "render_token:replayed" 5 ↔
        ¬RenderTokenDefence.Expired cf fp now p ∧ fp.Spent cf reads now p := by
    rw [FormProtection.outcomeOf, Defence.evaluate, evaluate_of_verified fp hv, evaluatePayload_eq,
      RenderTokenDefence.Expired, FormProtection.Spent]
    rcases RenderTokenDefence.expiry cf fp p with - | e
    · simp [Outcome.passed, Outcome.blocked]
    · by_cases hexpired : e < now.micros
      · simp [hexpired, Outcome.blocked]
      · by_cases hreplayed : RenderTokenDefence.Replayed reads now p
        · simp [hexpired, hreplayed]
        · by_cases hchanged : RenderTokenDefence.IpChanged req p
          · simp [hexpired, hreplayed, hchanged, Outcome.flagged, Outcome.blocked]
          · simp [hexpired, hreplayed, hchanged, Outcome.passed, Outcome.blocked]
  rw [← houtcome]
  constructor
  · intro h
    obtain ⟨payload, hpayload, hreplayed⟩ := outcome_of_blockedAsReplayed henabled hmem h
    obtain rfl := Except.ok.inj (hthreaded.symm.trans hpayload)
    exact hreplayed
  · intro hreplayed
    obtain ⟨r, hr, hfor⟩ := (fp.evaluate_spec cf reads now req data henabled).2 _ hthreaded
    refine ⟨r, hr, ?_⟩
    rcases renderToken_cases (fp.runningNames_sublist req) with hnot | ⟨rest, hnames, -⟩
    · exact absurd ((fp.renderToken_mem_runningNames req).2 hmem) hnot
    · rw [hfor.outcomes, FormProtection.outcomes, hnames, List.map_cons, throughBlock, hreplayed,
        if_pos]
      rfl

/-- A token that is refused is not blocked as replayed. -/
theorem not_blockedAsReplayed_of_refused (henabled : cf.enabled = true)
    (hmem : .renderToken ∈ fp.defenceNames) {message : String}
    (hv : verifyToken cf.toSigning (data.text RenderTokenDefence.fieldName) =
      .error (.valueError message)) : ¬BlockedAsReplayed cf fp reads now req data := by
  intro h
  obtain ⟨payload, -, hreplayed⟩ := outcome_of_blockedAsReplayed henabled hmem h
  rw [FormProtection.outcomeOf, Defence.evaluate, RenderTokenDefence.evaluate,
    FormProtection.context] at hreplayed
  simp only [hv] at hreplayed
  split_ifs at hreplayed
  · simp [Outcome.blocked] at hreplayed
  · simp [Outcome.blocked] at hreplayed

end

/-! ### Sessions -/

/-- A render of a form. -/
structure FormRender where
  req : FormRequest
  time : Civil
  /-- `secrets.token_hex`. -/
  nonce : String
  isHex_nonce : ∀ c ∈ nonce.toList, IsHex c
  /-- Redis is up. -/
  up : Bool
  store : FormStore
  fresh : store.token.cell nonce = none

namespace FormRender

variable (cf : FormConf) (fp : FormProtection) (d : FormRender)

/-- The token of the page. -/
def token : String := (RenderTokenDefence.issue cf fp d.req d.time d.nonce).1

/-- Its payload. -/
def payload : TokenPayload := (RenderTokenDefence.issue cf fp d.req d.time d.nonce).2

/-- The lifetime of the token. -/
def ttl : ℤ := fp.perFormConfig.tokenTtl.getD cf.tokenTtl

/-- What the render leaves in Redis. -/
def after : FormStore := fp.renderStore cf d.up d.req d.time d.nonce d.store

/-- The marker, as the render sets it. -/
def marker : TtlCell ℚ Unit := ⟨(), some (d.time.seconds + (ttl cf fp : ℤ))⟩

/-- A submission of the page, within the lifetime of its token. -/
structure Submits (x : FormSubmission) : Prop where
  text : (scalariseSubmittedData x.data).text RenderTokenDefence.fieldName = d.token cf fp
  after_render : 0 ≤ x.now.since d.time.utc
  lt_ttl : x.now.since d.time.utc < (ttl cf fp : ℤ)

/-- One that fails validation, while the defences would pass. -/
structure FailsValidation (s : FormStore) (x : FormSubmission) : Prop
    extends d.Submits cf fp x where
  fails : x.validation.Fails
  would_pass : ∃ r, fp.evaluate cf (x.reads s).unspent x.now x.req
    (scalariseSubmittedData x.data) = .ok r ∧ r.verdict = .passed

end FormRender

/-- What happens after the render. -/
inductive SessionEvent
  | submit (x : FormSubmission)
  /-- Others use Redis. -/
  | other

/-- One step: a submission, or anything that leaves the marker alone. -/
inductive SessionStep (cf : FormConf) (fp : FormProtection) (nonce : String) :
    FormStore → SessionEvent → FormStore → Prop
  | submit {s : FormStore} (x : FormSubmission) :
    SessionStep cf fp nonce s (.submit x) (fp.storeAfter cf x s)
  | other {s s' : FormStore} (h : s'.token.cell nonce = s.token.cell nonce) :
    SessionStep cf fp nonce s .other s'

/-- A session whose submissions fail validation. -/
abbrev FailingSession (cf : FormConf) (fp : FormProtection) (d : FormRender)
    (es : List SessionEvent) (t : FormStore) : Prop :=
  Run (fun s e s' ↦ SessionStep cf fp d.nonce s e s' ∧
    ∀ x, e = .submit x → d.FailsValidation cf fp s x) (d.after cf fp) es t

/-- The defences of a submission run while Redis is up. -/
def FormSubmission.Reaches (x : FormSubmission) : Prop :=
  ¬x.validation.raisesBefore = true ∧ x.up = true

instance : DecidablePred FormSubmission.Reaches := fun x ↦
  inferInstanceAs (Decidable (¬x.validation.raisesBefore = true ∧ x.up = true))

section

variable {cf : FormConf} {fp : FormProtection} {d : FormRender}

theorem FormRender.Submits.ttl_pos {x : FormSubmission} (h : d.Submits cf fp x) :
    0 < FormRender.ttl cf fp := by
  exact_mod_cast h.after_render.trans_lt h.lt_ttl

/-- The marker lives as long as the token. -/
theorem FormRender.Submits.live {x : FormSubmission} (h : d.Submits cf fp x) :
    (d.marker cf fp).Live x.now.seconds := by
  have hlt := h.lt_ttl
  rw [Civil.since_utc, sub_lt_iff_lt_add'] at hlt
  exact TtlCell.live_some.2 hlt

/-- A token that is submitted in time is not expired. -/
theorem FormRender.Submits.not_expired {x : FormSubmission} (h : d.Submits cf fp x) :
    ¬RenderTokenDefence.Expired cf fp x.now (d.payload cf fp) := by
  rintro ⟨e, he, hlt⟩
  have heq := DateTime.eq_of_mem_addSeconds he
  have hle : (x.now.micros : ℤ) ≤ e := by
    rw [heq]
    exact (Civil.since_lt_iff.1 h.lt_ttl).le
  exact absurd hlt (not_lt.2 hle)

theorem token_cell_after (henabled : cf.enabled = true) (hmem : .renderToken ∈ fp.defenceNames)
    (hpos : 0 < FormRender.ttl cf fp) :
    (d.after cf fp).token.cell d.nonce = if d.up = true then some (d.marker cf fp) else none := by
  have hrun := (fp.renderToken_mem_runningNames d.req).2 hmem
  rw [FormRender.after, FormProtection.renderStore, if_pos ⟨henabled, hrun⟩,
    RenderTokenDefence.issueMarker, FormStore.issueMarker]
  split_ifs with hset hup hup
  · exact Function.update_self _ _ _
  · exact absurd hset.1 hup
  · exact absurd ⟨hup, hpos⟩ hset
  · exact d.fresh

/-- A submission that would pass has a token without delimiters. -/
theorem FormRender.FailsValidation.undelimited {s : FormStore} {x : FormSubmission}
    (henabled : cf.enabled = true) (hmem : .renderToken ∈ fp.defenceNames)
    (h : d.FailsValidation cf fp s x) : RenderTokenDefence.Undelimited fp d.req := by
  by_contra hdelimited
  obtain ⟨message, hv⟩ :=
    RenderTokenDefence.verifyToken_issue_delimited cf d.time d.isHex_nonce hdelimited
  rw [← FormRender.token, ← h.text] at hv
  obtain ⟨r, hr, hpassed⟩ := h.would_pass
  obtain ⟨r', hr', hblocked⟩ :=
    fp.evaluate_refused (x.reads s).unspent x.now x.req henabled hmem hv
  obtain rfl := Except.ok.inj (hr.symm.trans hr')
  rw [hpassed] at hblocked
  cases hblocked

theorem FormRender.Submits.verifyToken {x : FormSubmission} (h : d.Submits cf fp x)
    (hundelimited : RenderTokenDefence.Undelimited fp d.req) :
    verifyToken cf.toSigning ((scalariseSubmittedData x.data).text
      RenderTokenDefence.fieldName) = .ok (d.payload cf fp) := by
  rw [h.text]
  exact RenderTokenDefence.verifyToken_issue cf d.time d.isHex_nonce hundelimited

/-- What Redis answers of the marker. -/
theorem reads_token {x : FormSubmission} (s : FormStore) (nonce : String) :
    ((x.reads s).token nonce).getD true = false ↔
      x.up = true ∧ s.token.get x.now.seconds nonce = none := by
  rw [FormSubmission.reads, FormStore.reads]
  rcases x.up with - | -
  · simp
  · simp

/-- **One failed submission** takes the marker away if its defences run while Redis is up, and
leaves it alone otherwise. -/
theorem token_cell_storeAfter {s : FormStore} {x : FormSubmission} (henabled : cf.enabled = true)
    (hmem : .renderToken ∈ fp.defenceNames) (h : d.FailsValidation cf fp s x)
    (hcell : s.token.cell d.nonce = none ∨ s.token.cell d.nonce = some (d.marker cf fp)) :
    (fp.storeAfter cf x s).token.cell d.nonce =
      if x.Reaches then none else s.token.cell d.nonce := by
  by_cases hraises : x.validation.raisesBefore = true
  · rw [FormProtection.storeAfter_of_raisesBefore hraises, if_neg fun hreaches ↦ hreaches.1 hraises]
  have hundelimited := h.undelimited henabled hmem
  have hv := h.verifyToken hundelimited
  obtain ⟨r, hr, -⟩ := fp.evaluate_verified (x.reads s) x.now x.req henabled hmem hv
  have hreads : (x.reads s).token (d.payload cf fp).nonce = (x.reads s).token d.nonce := rfl
  rw [FormProtection.storeAfter_of_evaluate hraises hr]
  rcases FormProtection.consumeOnPass_cases x.up r s with hkept | ⟨hup, hpassed, p, hp, hdeleted⟩
  · rw [hkept]
    split_ifs with hreaches
    · rcases hcell with hnone | hmarker
      · exact hnone
      · -- The marker is there, so the submission passes, and takes it away.
        have hget : s.token.get x.now.seconds d.nonce = some () := by
          rw [KeySpace.get, hmarker]
          exact if_pos h.live
        have hspent : ¬fp.Spent cf (x.reads s) x.now (d.payload cf fp) := by
          rintro ⟨-, hfalse, -⟩
          rw [hreads, reads_token, hget] at hfalse
          cases hfalse.2
        have hacceptable := (fp.evaluate_unspent_passed_iff henabled hmem hv).1 h.would_pass
        obtain ⟨r', hr', hpassed⟩ :=
          (fp.evaluate_passed_iff henabled hmem hv).2 ⟨hacceptable, hspent⟩
        obtain rfl := Except.ok.inj (hr.symm.trans hr')
        rw [FormProtection.consumeOnPass, if_pos hpassed,
          fp.tokenPayload_of_passed henabled hmem hv hr hpassed] at hkept
        rw [← hkept]
        have hdeleted : FormProtection.consumeTokenMarker x.up (some (d.payload cf fp)) s =
            { s with token := s.token.delete d.nonce } := if_pos hreaches.2
        rw [hdeleted]
        exact Function.update_self _ _ _
    · rfl
  · rw [hdeleted, if_pos ⟨hraises, hup⟩]
    rw [fp.tokenPayload_of_passed henabled hmem hv hr hpassed] at hp
    obtain rfl := Option.some.inj hp
    exact Function.update_self _ _ _

/-- No submission of a session has taken the marker away. -/
def MarkerKept (d : FormRender) (es : List SessionEvent) : Prop :=
  d.up = true ∧ ∀ x, .submit x ∈ es → ¬x.Reaches

theorem markerKept_append_submit {es : List SessionEvent} {x : FormSubmission} :
    MarkerKept d (es ++ [.submit x]) ↔ MarkerKept d es ∧ ¬x.Reaches := by
  simp only [MarkerKept, List.mem_append, List.mem_singleton, SessionEvent.submit.injEq, or_imp,
    forall_and, forall_eq, and_assoc]

theorem markerKept_append_other {es : List SessionEvent} :
    MarkerKept d (es ++ [.other]) ↔ MarkerKept d es := by
  simp only [MarkerKept, List.mem_append, List.mem_singleton, reduceCtorEq, or_false]

/-- **The marker after any session of failed submissions.** -/
theorem token_cell_session (henabled : cf.enabled = true) (hmem : .renderToken ∈ fp.defenceNames)
    (hpos : 0 < FormRender.ttl cf fp) {es : List SessionEvent} {t : FormStore}
    (h : FailingSession cf fp d es t) :
    (MarkerKept d es ∧ t.token.cell d.nonce = some (d.marker cf fp)) ∨
      (¬MarkerKept d es ∧ t.token.cell d.nonce = none) := by
  refine Run.invariant (P := fun es t ↦
    (MarkerKept d es ∧ t.token.cell d.nonce = some (d.marker cf fp)) ∨
      (¬MarkerKept d es ∧ t.token.cell d.nonce = none)) ?_ ?_ h
  · rw [token_cell_after henabled hmem hpos]
    by_cases hup : d.up = true
    · exact Or.inl ⟨⟨hup, fun x hx ↦ absurd hx List.not_mem_nil⟩, if_pos hup⟩
    · exact Or.inr ⟨fun hkept ↦ hup hkept.1, if_neg hup⟩
  · rintro es s u e - ih ⟨hstep, hfails⟩
    cases hstep with
    | submit x =>
      have hcell := token_cell_storeAfter henabled hmem (hfails x rfl)
        (ih.symm.imp And.right And.right)
      rw [markerKept_append_submit, hcell]
      by_cases hreaches : x.Reaches
      · exact Or.inr ⟨fun hkept ↦ hkept.2 hreaches, if_pos hreaches⟩
      · rw [if_neg hreaches]
        simpa only [hreaches, not_false_eq_true, and_true] using ih
    | other hsame =>
      rw [markerKept_append_other, hsame]
      exact ih

/-- When a submission of the page is blocked as replayed. -/
theorem blockedAsReplayed_submits_iff (henabled : cf.enabled = true)
    (hmem : .renderToken ∈ fp.defenceNames) {t : FormStore} {y : FormSubmission}
    (hy : d.Submits cf fp y) :
    BlockedAsReplayed cf fp (y.reads t) y.now y.req (scalariseSubmittedData y.data) ↔
      RenderTokenDefence.Undelimited fp d.req ∧
        RenderTokenDefence.expiry cf fp (d.payload cf fp) ≠ none ∧ y.up = true ∧
        RenderTokenDefence.markerGraceSeconds < y.now.since d.time.utc ∧
        t.token.get y.now.seconds d.nonce = none := by
  by_cases hundelimited : RenderTokenDefence.Undelimited fp d.req
  · have hreads : (y.reads t).token (d.payload cf fp).nonce = (y.reads t).token d.nonce := rfl
    have hsince : y.now.since (d.payload cf fp).renderTime = y.now.since d.time.utc := rfl
    rw [blockedAsReplayed_iff henabled hmem (hy.verifyToken hundelimited),
      and_iff_right hy.not_expired, FormProtection.Spent, RenderTokenDefence.Replayed, hreads,
      hsince, reads_token, Option.isSome_iff_ne_none]
    tauto
  · obtain ⟨message, hv⟩ :=
      RenderTokenDefence.verifyToken_issue_delimited cf d.time d.isHex_nonce hundelimited
    rw [← FormRender.token, ← hy.text] at hv
    exact iff_of_false (not_blockedAsReplayed_of_refused henabled hmem hv) fun h ↦ hundelimited h.1

/-- **When a failed validation keeps the token.** -/
theorem failed_validation_keeps_token_iff (henabled : cf.enabled = true)
    (hmem : .renderToken ∈ fp.defenceNames) {es : List SessionEvent} {t : FormStore}
    (hsession : FailingSession cf fp d es t) {y : FormSubmission} (hy : d.Submits cf fp y) :
    (¬BlockedAsReplayed cf fp (y.reads t) y.now y.req (scalariseSubmittedData y.data) ∧
        t.token.cell d.nonce = (d.after cf fp).token.cell d.nonce) ↔
      (d.up = true → ∀ x, .submit x ∈ es → ¬x.Reaches) ∧
        (d.up = true ∨ ¬RenderTokenDefence.Undelimited fp d.req ∨
          RenderTokenDefence.expiry cf fp (d.payload cf fp) = none ∨ y.up = false ∨
          y.now.since d.time.utc ≤ RenderTokenDefence.markerGraceSeconds) := by
  have hcell := token_cell_session henabled hmem hy.ttl_pos hsession
  rw [blockedAsReplayed_submits_iff henabled hmem hy, token_cell_after henabled hmem hy.ttl_pos]
  by_cases hup : d.up = true
  · rw [if_pos hup]
    simp only [hup, forall_const, true_or, and_true]
    rcases hcell with ⟨hkept, hmarker⟩ | ⟨hlost, hnone⟩
    · have hget : t.token.get y.now.seconds d.nonce = some () := by
        rw [KeySpace.get, hmarker]
        exact if_pos hy.live
      refine iff_of_true ⟨fun h ↦ ?_, hmarker⟩ hkept.2
      rw [hget] at h
      cases h.2.2.2.2
    · refine iff_of_false (fun h ↦ ?_) fun h ↦ hlost ⟨hup, h⟩
      rw [hnone] at h
      cases h.2
  · have hnone : t.token.cell d.nonce = none := by
      rcases hcell with ⟨hkept, -⟩ | ⟨-, hnone⟩
      · exact absurd hkept.1 hup
      · exact hnone
    have hget : t.token.get y.now.seconds d.nonce = none := by
      rw [KeySpace.get, hnone]
    rw [if_neg hup, hnone, hget]
    simp only [hup, Bool.false_eq_true, false_imp_iff, true_and, and_true, false_or, not_and_or,
      ne_eq, not_not, Bool.not_eq_true, not_lt]

end

/-! ### Two submissions -/

/-- The visitor's render of the contact form. -/
def leapRender : FormRender where
  req := visitor
  time := leapNoon
  nonce := "00ff"
  isHex_nonce := isHex_leapNonce
  up := true
  store := .empty
  fresh := FormStore.cell_token_empty "00ff"

/-- A submission of it. -/
def leapSubmission (validation : Validation) (now : Civil) : FormSubmission where
  validation
  req := visitor
  data := ⟨[("waf_token", [leapRender.token keyedConf (tokenForm "contact")])],
    List.nodup_singleton _⟩
  now
  up := true

theorem text_leapSubmission (validation : Validation) (now : Civil) :
    (scalariseSubmittedData (leapSubmission validation now).data).text
      RenderTokenDefence.fieldName = leapRender.token keyedConf (tokenForm "contact") := by
  have hlist : (leapSubmission validation now).data.getlist RenderTokenDefence.fieldName =
      [leapRender.token keyedConf (tokenForm "contact")] := by
    rw [QueryDict.getlist, leapSubmission, RenderTokenDefence.fieldName, List.lookup_cons_self]
    rfl
  rw [text_scalariseSubmittedData, hlist]
  rfl

/-- Two minutes after noon. -/
def leapLater : Civil := { leapNoon with minute := 2, minute_lt := by decide }

theorem submits_minute (validation : Validation) :
    leapRender.Submits keyedConf (tokenForm "contact") (leapSubmission validation leapMinute) :=
  ⟨text_leapSubmission _ _, show 0 ≤ leapMinute.since leapNoon.utc by decide +kernel,
    show leapMinute.since leapNoon.utc < (3600 : ℤ) by decide +kernel⟩

theorem submits_later (validation : Validation) : leapRender.Submits keyedConf (tokenForm "contact")
    (leapSubmission validation leapLater) :=
  ⟨text_leapSubmission _ _, show 0 ≤ leapLater.since leapNoon.utc by decide +kernel,
    show leapLater.since leapNoon.utc < (3600 : ℤ) by decide +kernel⟩

/-- One failed submission after a minute. -/
theorem failingSession_minute (validation : Validation) (hfails : validation.Fails) :
    FailingSession keyedConf (tokenForm "contact") leapRender
      [.submit (leapSubmission validation leapMinute)]
      ((tokenForm "contact").storeAfter keyedConf (leapSubmission validation leapMinute)
        (leapRender.after keyedConf (tokenForm "contact"))) := by
  have hacceptable : (tokenForm "contact").Acceptable keyedConf
      ((leapRender.after keyedConf (tokenForm "contact")).reads true leapMinute.seconds) leapMinute
      visitor (scalariseSubmittedData (leapSubmission ⟨true, true, true⟩ leapMinute).data)
      (leapRender.payload keyedConf (tokenForm "contact")) := by
    decide
  have hv := (submits_minute validation).verifyToken (by decide)
  have hfailing : ∀ x, SessionEvent.submit (leapSubmission validation leapMinute) = .submit x →
      leapRender.FailsValidation keyedConf (tokenForm "contact")
        (leapRender.after keyedConf (tokenForm "contact")) x := by
    intro x hx
    obtain rfl := SessionEvent.submit.inj hx
    exact ⟨submits_minute validation, hfails,
      ((tokenForm "contact").evaluate_unspent_passed_iff rfl (by decide) hv).2 hacceptable⟩
  have hrun : FailingSession keyedConf (tokenForm "contact") leapRender
      ([] ++ [.submit (leapSubmission validation leapMinute)]) _ :=
    .snoc .nil ⟨.submit _, hfailing⟩
  exact hrun

/-- A `clean` that raises ahead of the defences keeps the token. -/
theorem failed_validation_keeps_token_early :
    ¬BlockedAsReplayed keyedConf (tokenForm "contact")
        ((leapSubmission ⟨false, false, false⟩ leapLater).reads
          ((tokenForm "contact").storeAfter keyedConf
            (leapSubmission ⟨true, true, false⟩ leapMinute)
            (leapRender.after keyedConf (tokenForm "contact"))))
        leapLater visitor
        (scalariseSubmittedData (leapSubmission ⟨false, false, false⟩ leapLater).data) ∧
      ((tokenForm "contact").storeAfter keyedConf (leapSubmission ⟨true, true, false⟩ leapMinute)
          (leapRender.after keyedConf (tokenForm "contact"))).token.cell "00ff" =
        (leapRender.after keyedConf (tokenForm "contact")).token.cell "00ff" := by
  refine (failed_validation_keeps_token_iff rfl (by decide)
    (failingSession_minute ⟨true, true, false⟩ (Or.inl rfl))
    (submits_later ⟨false, false, false⟩)).2 ⟨fun _ x hx ↦ ?_, Or.inl rfl⟩
  obtain rfl := SessionEvent.submit.inj (List.mem_singleton.1 hx)
  exact fun hreaches ↦ hreaches.1 rfl

/-- **A missing field** costs the token: the corrected submission is blocked as replayed. -/
theorem failed_validation_spends_token :
    ¬∀ (cf : FormConf) (fp : FormProtection) (d : FormRender) (es : List SessionEvent)
      (t : FormStore) (y : FormSubmission), cf.enabled = true → .renderToken ∈ fp.defenceNames →
      FailingSession cf fp d es t → d.Submits cf fp y → d.up = true →
      ¬BlockedAsReplayed cf fp (y.reads t) y.now y.req (scalariseSubmittedData y.data) ∧
        t.token.cell d.nonce = (d.after cf fp).token.cell d.nonce := by
  intro hall
  have hsession := failingSession_minute ⟨true, false, false⟩ (Or.inl rfl)
  have hkept := hall _ _ _ _ _ _ rfl (by decide) hsession (submits_later ⟨false, false, false⟩) rfl
  exact ((failed_validation_keeps_token_iff rfl (by decide) hsession
    (submits_later ⟨false, false, false⟩)).1 hkept).1 rfl _ List.mem_cons_self
      ⟨by decide, rfl⟩

end DjangoWaf
