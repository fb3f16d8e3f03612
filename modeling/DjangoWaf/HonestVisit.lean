import DjangoWaf.Forms.Rendering

/-!
# Honest visits

A browser renders a form and submits it once: same address, same `User-Agent`, same user, honeypots
left empty, scripts run, in time. Redis may be up or down at either moment, and others may have used
it in between.

The data of such a submission is known field by field (`text_token`, `text_honeypot`,
`text_jsTouch`, `text_powNonce`, `text_powToken`), and of the eight defences only two can turn
against it: the render token, **when the marker was never written**, and without it the puzzle,
**when the identifier of the form is not read back** out of the attribute it was written into.
-/

namespace DjangoWaf

open PyBytes IsoDatetime

/-- The names of the rendered inputs, honeypots apart. -/
def wafNames : List String :=
  [RenderTokenDefence.fieldName, JsTouchDefence.fieldName, PowGateDefence.nonceField,
    PowGateDefence.tokenBindField]

/-- A render and the first submission of it, by one browser. -/
structure HonestVisit (cf : FormConf) (fp : FormProtection) where
  req : FormRequest
  renderTime : Civil
  submitTime : Civil
  /-- `secrets.token_hex`. -/
  nonce : String
  isHex_nonce : ∀ c ∈ nonce.toList, IsHex c
  browser : Browser
  /-- The rendered fragments, as the page arranges them. -/
  shown : List Fragment
  shown_perm : shown.Perm ((fp.renderFields cf req renderTime nonce).map Prod.snd)
  /-- The other inputs of the page, before and after the rendered ones. -/
  before : List (String × String)
  after : List (String × String)
  own_apart : ∀ p ∈ before ++ after, p.1 ∉ wafNames ∧ p.1 ∉ HoneypotDefence.pool cf fp
  /-- No honeypot has one of the other names, as it is configured or as it is rendered. -/
  pool_apart : ∀ name ∈ HoneypotDefence.pool cf fp,
    name ∉ wafNames ∧ HoneypotDefence.safeName cf name ∉ wafNames
  /-- What the solver finds. -/
  counter : ℕ
  half_le : TimeTrapDefence.tooFastThresholdSeconds ≤ submitTime.since renderTime.utc
  min_le : TimeTrapDefence.minSeconds cf fp.perFormConfig ≤ submitTime.since renderTime.utc
  le_max : submitTime.since renderTime.utc ≤ TimeTrapDefence.maxSeconds cf fp.perFormConfig
  lt_ttl : submitTime.since renderTime.utc < (fp.perFormConfig.tokenTtl.getD cf.tokenTtl : ℤ)
  /-- Redis at the render. -/
  renderUp : Bool
  store : FormStore
  fresh : store.token.cell nonce = none
  /-- Redis at the submission: what others did in between left the marker alone. -/
  submitUp : Bool
  later : FormStore
  later_token : later.token.cell nonce =
    (fp.renderStore cf renderUp req renderTime nonce store).token.cell nonce
  credentials_lt : readCount (some (later.credFailIp.get submitTime.seconds req.ip)) <
    fp.perFormConfig.ipLimit.getD cf.credentialIpLimit
  signups_lt : readCount (some (later.signup.get submitTime.seconds req.ip)) <
    fp.perFormConfig.limit.getD cf.signupVelocityLimit

namespace HonestVisit

variable {cf : FormConf} {fp : FormProtection} (v : HonestVisit cf fp)

/-- What the browser submits. -/
def data : Submitted := submittedData v.browser v.before v.shown v.counter v.after

/-- What Redis answers to the submission. -/
def reads : FormReads := v.later.reads v.submitUp v.submitTime.seconds

/-- The token of the page. -/
def token : String := (RenderTokenDefence.issue cf fp v.req v.renderTime v.nonce).1

/-- Its payload. -/
def payload : TokenPayload := (RenderTokenDefence.issue cf fp v.req v.renderTime v.nonce).2

/-- The nonce the rendered fields are bound to. -/
def pageNonce : String := fp.pageNonce cf v.req v.renderTime v.nonce

/-! ### The submitted fields -/

/-- The form has no field of its own under one of the rendered names. -/
theorem own_ne {name : String} (h : name ∈ wafNames ∨ name ∈ HoneypotDefence.pool cf fp) :
    ∀ p ∈ v.before ++ v.after, p.1 ≠ name := by
  rintro p hp rfl
  rcases h with h | h
  · exact (v.own_apart p hp).1 h
  · exact (v.own_apart p hp).2 h

include v in
/-- No honeypot is rendered under one of the other names. -/
theorem safeName_ne {name : String} (hname : name ∈ wafNames) {honeypot : String}
    (h : honeypot ∈ HoneypotDefence.names cf fp.formId fp.perFormConfig) :
    name ≠ HoneypotDefence.safeName cf honeypot := by
  rintro rfl
  exact (v.pool_apart honeypot (HoneypotDefence.mem_pool_of_mem_names h)).2 hname

section Fields

variable (henabled : cf.enabled = true)

include henabled

/-- A field of the page with one value. -/
theorem text_of_pageInput {name value : String}
    (hown : ∀ p ∈ v.before ++ v.after, p.1 ≠ name)
    (huniq : ∀ value',
      fp.PageInput cf v.req v.renderTime v.nonce v.browser v.counter (name, value') →
        value' = value)
    (hsome : value = "" ∨
      fp.PageInput cf v.req v.renderTime v.nonce v.browser v.counter (name, value)) :
    v.data.text name = value := by
  have hpage : ∀ p, p ∈ v.shown.flatMap (Fragment.filled v.browser v.counter) ↔
      fp.PageInput cf v.req v.renderTime v.nonce v.browser v.counter p := by
    intro p
    rw [← fp.mem_filled_iff cf v.req v.renderTime v.nonce henabled, List.mem_flatMap]
    constructor
    · rintro ⟨f, hf, hp⟩
      obtain ⟨e, he, rfl⟩ := List.mem_map.1 (v.shown_perm.mem_iff.1 hf)
      exact ⟨e, he, hp⟩
    · rintro ⟨e, he, hp⟩
      exact ⟨e.2, v.shown_perm.mem_iff.2 (List.mem_map_of_mem he), hp⟩
  refine text_submittedData (fun p hp hname ↦ ?_) ?_
  · rcases List.mem_append.1 hp with hp | hp
    · rcases List.mem_append.1 hp with hp | hp
      · exact absurd hname (hown p (List.mem_append_left _ hp))
      · rw [hpage] at hp
        rw [← hname] at huniq
        exact huniq p.2 hp
    · exact absurd hname (hown p (List.mem_append_right _ hp))
  · refine hsome.imp id fun h ↦ ?_
    exact List.mem_append_left _ (List.mem_append_right _ ((hpage _).2 h))

theorem text_token (hrun : .renderToken ∈ fp.runningNames v.req) :
    v.data.text RenderTokenDefence.fieldName = v.token := by
  refine v.text_of_pageInput henabled (v.own_ne (Or.inl (by decide))) ?_
    (Or.inr (Or.inl ⟨hrun, rfl⟩))
  rintro value' (⟨-, h⟩ | ⟨-, honeypot, hmem, -, h⟩ | ⟨-, h⟩ | ⟨-, h | h⟩)
  · exact (Prod.mk.inj h).2
  · exact absurd (Prod.mk.inj h).1 (v.safeName_ne (by decide) hmem)
  · exact absurd (Prod.mk.inj h).1 (by decide)
  · exact absurd (Prod.mk.inj h).1 (by decide)
  · exact absurd (Prod.mk.inj h).1 (by decide)

theorem text_jsTouch (hrun : .jsTouch ∈ fp.runningNames v.req) :
    v.data.text JsTouchDefence.fieldName =
      JsTouchDefence.expectedValue cf.toSigning v.pageNonce := by
  refine v.text_of_pageInput henabled (v.own_ne (Or.inl (by decide))) ?_
    (Or.inr (Or.inr (Or.inr (Or.inl ⟨hrun, rfl⟩))))
  rintro value' (⟨-, h⟩ | ⟨-, honeypot, hmem, -, h⟩ | ⟨-, h⟩ | ⟨-, h | h⟩)
  · exact absurd (Prod.mk.inj h).1 (by decide)
  · exact absurd (Prod.mk.inj h).1 (v.safeName_ne (by decide) hmem)
  · exact (Prod.mk.inj h).2
  · exact absurd (Prod.mk.inj h).1 (by decide)
  · exact absurd (Prod.mk.inj h).1 (by decide)

theorem text_powNonce (hrun : .powGate ∈ fp.runningNames v.req) :
    v.data.text PowGateDefence.nonceField = toString v.counter := by
  refine v.text_of_pageInput henabled (v.own_ne (Or.inl (by decide))) ?_
    (Or.inr (Or.inr (Or.inr (Or.inr ⟨hrun, Or.inl rfl⟩))))
  rintro value' (⟨-, h⟩ | ⟨-, honeypot, hmem, -, h⟩ | ⟨-, h⟩ | ⟨-, h | h⟩)
  · exact absurd (Prod.mk.inj h).1 (by decide)
  · exact absurd (Prod.mk.inj h).1 (v.safeName_ne (by decide) hmem)
  · exact absurd (Prod.mk.inj h).1 (by decide)
  · exact (Prod.mk.inj h).2
  · exact absurd (Prod.mk.inj h).1 (by decide)

theorem text_powToken (hrun : .powGate ∈ fp.runningNames v.req) :
    v.data.text PowGateDefence.tokenBindField = v.browser.attrValue v.pageNonce := by
  refine v.text_of_pageInput henabled (v.own_ne (Or.inl (by decide))) ?_
    (Or.inr (Or.inr (Or.inr (Or.inr ⟨hrun, Or.inr rfl⟩))))
  rintro value' (⟨-, h⟩ | ⟨-, honeypot, hmem, -, h⟩ | ⟨-, h⟩ | ⟨-, h | h⟩)
  · exact absurd (Prod.mk.inj h).1 (by decide)
  · exact absurd (Prod.mk.inj h).1 (v.safeName_ne (by decide) hmem)
  · exact absurd (Prod.mk.inj h).1 (by decide)
  · exact absurd (Prod.mk.inj h).1 (by decide)
  · exact (Prod.mk.inj h).2

/-- The honeypots stay empty. -/
theorem text_honeypot {name : String}
    (hname : name ∈ HoneypotDefence.names cf fp.formId fp.perFormConfig) :
    v.data.text name = "" := by
  have hpool := HoneypotDefence.mem_pool_of_mem_names hname
  have hwaf : ∀ other ∈ wafNames, name ≠ other := by
    rintro other hother rfl
    exact (v.pool_apart name hpool).1 hother
  refine v.text_of_pageInput henabled (v.own_ne (Or.inr hpool)) ?_ (Or.inl rfl)
  rintro value' (⟨-, h⟩ | ⟨-, honeypot, hmem, -, h⟩ | ⟨-, h⟩ | ⟨-, h | h⟩)
  · exact absurd (Prod.mk.inj h).1 (hwaf _ (by decide))
  · exact (Prod.mk.inj h).2
  · exact absurd (Prod.mk.inj h).1 (hwaf _ (by decide))
  · exact absurd (Prod.mk.inj h).1 (hwaf _ (by decide))
  · exact absurd (Prod.mk.inj h).1 (hwaf _ (by decide))

end Fields

/-! ### The marker -/

/-- A token is accepted as long as it lives. -/
theorem le_expiry {e : ℤ} (he : e ∈ RenderTokenDefence.expiry cf fp v.payload) :
    v.submitTime.micros ≤ e := by
  rw [DateTime.eq_of_mem_addSeconds he]
  exact (Civil.since_lt_iff.1 v.lt_ttl).le

/-- The time from the render to the submission. -/
def elapsed : ℚ := v.submitTime.since v.renderTime.utc

include v in
theorem ttl_pos : 0 < fp.perFormConfig.tokenTtl.getD cf.tokenTtl := by
  have hhalf : (0 : ℚ) < TimeTrapDefence.tooFastThresholdSeconds := by decide +kernel
  exact_mod_cast hhalf.trans (v.half_le.trans_lt v.lt_ttl)

/-- What Redis has of the marker when the form is submitted. -/
theorem get_marker (henabled : cf.enabled = true) (hrun : .renderToken ∈ fp.runningNames v.req) :
    v.later.token.get v.submitTime.seconds v.nonce =
      if v.renderUp = true then some () else none := by
  have hlater := v.later_token
  rw [FormProtection.renderStore, if_pos ⟨henabled, hrun⟩, RenderTokenDefence.issueMarker,
    FormStore.issueMarker] at hlater
  rw [KeySpace.get]
  split_ifs with hup
  · have hlive := v.lt_ttl
    rw [Civil.since_utc, sub_lt_iff_lt_add'] at hlive
    rw [if_pos ⟨hup, v.ttl_pos⟩] at hlater
    have hcell : v.later.token.cell v.nonce =
        some ⟨(), some (v.renderTime.seconds +
          (fp.perFormConfig.tokenTtl.getD cf.tokenTtl : ℤ))⟩ := by
      rw [hlater]
      exact Function.update_self _ _ _
    rw [hcell]
    exact if_pos (TtlCell.live_some.2 hlive)
  · rw [if_neg fun h ↦ hup h.1, v.fresh] at hlater
    rw [hlater]

/-- The marker was never written, and is looked for. -/
def MarkerLost : Prop :=
  v.renderUp = false ∧ v.submitUp = true ∧ RenderTokenDefence.markerGraceSeconds < v.elapsed

instance : Decidable v.MarkerLost :=
  inferInstanceAs (Decidable (v.renderUp = false ∧ v.submitUp = true ∧
    RenderTokenDefence.markerGraceSeconds < v.elapsed))

theorem replayed_iff (henabled : cf.enabled = true)
    (hrun : .renderToken ∈ fp.runningNames v.req) :
    RenderTokenDefence.Replayed v.reads v.submitTime v.payload ↔ v.MarkerLost := by
  have hget := v.get_marker henabled hrun
  have hreads : v.reads.token v.payload.nonce =
      if v.submitUp = true then some (v.later.token.get v.submitTime.seconds v.nonce).isSome
      else none := rfl
  have hsince : v.submitTime.since v.payload.renderTime = v.elapsed := rfl
  rw [RenderTokenDefence.Replayed, MarkerLost, hreads, hget, hsince, ← and_assoc]
  refine and_congr_left fun _ ↦ ?_
  rcases v.renderUp with - | -
  · rcases v.submitUp with - | -
    · decide
    · decide
  · rcases v.submitUp with - | -
    · decide
    · decide

/-! ### The defences -/

/-- The counter solves the puzzle of the script. -/
def Solved : Prop := .powGate ∈ fp.runningNames v.req →
  PowGateDefence.verifyNonce cf.toSigning (v.browser.literal v.pageNonce) (toString v.counter)
    (PowGateDefence.difficulty cf fp.perFormConfig) = true

/-- The nonce the counter is checked with when there is no render token: what the browser has read
out of the hidden input, or the identifier of the form. -/
def boundNonce : String :=
  if v.browser.attrValue v.pageNonce = "" then fp.formId else v.browser.attrValue v.pageNonce

/-- The puzzle that is checked is another one than the puzzle that was solved, and the counter is
not a solution of it. -/
def PuzzleLost : Prop := .powGate ∈ fp.runningNames v.req ∧ .renderToken ∉ fp.runningNames v.req ∧
  PowGateDefence.verifyNonce cf.toSigning v.boundNonce (toString v.counter)
    (PowGateDefence.difficulty cf fp.perFormConfig) = false

instance : Decidable v.PuzzleLost :=
  inferInstanceAs (Decidable (.powGate ∈ fp.runningNames v.req ∧
    .renderToken ∉ fp.runningNames v.req ∧
      PowGateDefence.verifyNonce cf.toSigning v.boundNonce (toString v.counter)
        (PowGateDefence.difficulty cf fp.perFormConfig) = false))

/-- A counter below its limit does not flag, also when it cannot be read. -/
theorem not_le_readCount {limit : ℤ} {n : Option ℕ} (h : readCount (some n) < limit) (up : Bool) :
    ¬limit ≤ readCount (if up = true then some n else none) := by
  have hnonneg : 0 ≤ readCount (some n) := Int.natCast_nonneg _
  have hnone : readCount none = 0 := rfl
  split_ifs
  · exact not_le.2 h
  · rw [hnone]
    omega

section Verified

variable (henabled : cf.enabled = true) (hrun : .renderToken ∈ fp.runningNames v.req)
  (hundelimited : RenderTokenDefence.Undelimited fp v.req)

include henabled hrun hundelimited

theorem verifyToken_data :
    verifyToken cf.toSigning (v.data.text RenderTokenDefence.fieldName) = .ok v.payload := by
  rw [v.text_token henabled hrun]
  exact RenderTokenDefence.verifyToken_issue cf v.renderTime v.isHex_nonce hundelimited

omit henabled in
theorem pageNonce_eq : v.pageNonce = v.nonce := by
  rw [pageNonce, FormProtection.pageNonce, FormProtection.tokenNonce, if_pos hrun,
    FormProtection.renderedNonce_issue cf v.renderTime v.isHex_nonce hundelimited]
  rfl

/-- No defence flags. -/
theorem not_flags {d : Defence} (hd : d ∈ fp.runningNames v.req) :
    ¬d.Flags cf fp v.reads v.submitTime v.req v.data v.payload := by
  cases d with
  | renderToken => exact fun h ↦ h.2.2 rfl
  | timeTrap => exact not_or.2 ⟨not_lt.2 v.min_le, not_lt.2 v.le_max⟩
  | uaConsistency => exact fun h ↦ h rfl
  | jsTouch =>
    have htext := v.text_jsTouch henabled hd
    rw [v.pageNonce_eq hrun hundelimited] at htext
    obtain ⟨hempty, hunset⟩ := JsTouchDefence.expectedValue_ne cf.toSigning v.nonce
    rw [Defence.Flags, htext]
    exact not_or.2 ⟨hunset, not_or.2 ⟨hempty, fun h ↦ h rfl⟩⟩
  | credentialThrottle => exact fun h ↦ not_le_readCount v.credentials_lt v.submitUp h.2
  | signupVelocity => exact fun h ↦ not_le_readCount v.signups_lt v.submitUp h.2
  | honeypot => exact id
  | powGate => exact id

/-- **What can block**: a token whose marker was lost. -/
theorem blocks_iff (hsolved : v.Solved) {d : Defence} (hd : d ∈ fp.runningNames v.req) :
    d.Blocks cf fp v.reads v.submitTime v.data v.payload ↔
      d = .renderToken ∧ (RenderTokenDefence.expiry cf fp v.payload).isSome = true ∧
        v.MarkerLost := by
  cases d with
  | renderToken =>
    have hexpired : ¬RenderTokenDefence.Expired cf fp v.submitTime v.payload := by
      rintro ⟨e, he, hlt⟩
      exact absurd hlt (not_lt.2 (v.le_expiry he))
    rw [Defence.Blocks, v.replayed_iff henabled hrun]
    simp only [hexpired, false_or, true_and]
  | honeypot =>
    refine iff_of_false ?_ fun h ↦ absurd h.1 (by decide)
    rintro ⟨name, hname, hfilled⟩
    exact hfilled (v.text_honeypot henabled hname)
  | timeTrap => exact iff_of_false (not_lt.2 v.half_le) fun h ↦ absurd h.1 (by decide)
  | powGate =>
    have hverify := hsolved hd
    have hplain : ∀ c ∈ v.nonce.toList, IsPlain c := fun c hc ↦
      isPlain_of_isHex (v.isHex_nonce c hc)
    rw [v.pageNonce_eq hrun hundelimited, v.browser.literal_plain hplain] at hverify
    refine iff_of_false ?_ fun h ↦ absurd h.1 (by decide)
    rw [Defence.Blocks, v.text_powNonce henabled hd]
    rintro (hempty | hinvalid)
    · exact Nat.repr_ne_empty hempty
    · have htrue : (true : Bool) = false := hverify.symm.trans hinvalid
      cases htrue
  | uaConsistency => exact iff_of_false id fun h ↦ absurd h.1 (by decide)
  | jsTouch => exact iff_of_false id fun h ↦ absurd h.1 (by decide)
  | credentialThrottle => exact iff_of_false id fun h ↦ absurd h.1 (by decide)
  | signupVelocity => exact iff_of_false id fun h ↦ absurd h.1 (by decide)

end Verified

/-- **Without a render token** the puzzle is checked with what the browser has read. -/
theorem outcomeOf_powGate (henabled : cf.enabled = true) (hpow : .powGate ∈ fp.runningNames v.req) :
    fp.outcomeOf cf v.reads v.submitTime v.req v.data none .powGate =
      if PowGateDefence.verifyNonce cf.toSigning v.boundNonce (toString v.counter)
          (PowGateDefence.difficulty cf fp.perFormConfig) = false then
        .blocked "pow_gate:invalid" 5
      else .passed := by
  have heval : fp.outcomeOf cf v.reads v.submitTime v.req v.data none .powGate =
      if v.data.text PowGateDefence.nonceField = "" then .blocked "pow_gate:missing" 5
      else if PowGateDefence.verifyNonce cf.toSigning
          (if v.data.text PowGateDefence.tokenBindField = "" then fp.formId
            else v.data.text PowGateDefence.tokenBindField)
          (v.data.text PowGateDefence.nonceField)
          (PowGateDefence.difficulty cf fp.perFormConfig) = false then
        .blocked "pow_gate:invalid" 5
      else .passed := by
    rw [FormProtection.outcomeOf, Defence.evaluate, PowGateDefence.evaluate]
    rfl
  rw [heval, v.text_powNonce henabled hpow, v.text_powToken henabled hpow,
    if_neg (show ¬toString v.counter = "" from Nat.repr_ne_empty)]
  rfl

/-- **Without a render token** nothing else is held against the visit. -/
theorem outcomeOf_of_not_mem (henabled : cf.enabled = true)
    (hrun : .renderToken ∉ fp.runningNames v.req) (hlost : ¬v.PuzzleLost) {d : Defence}
    (hd : d ∈ fp.runningNames v.req) :
    fp.outcomeOf cf v.reads v.submitTime v.req v.data none d = .passed := by
  have hpage : v.pageNonce = fp.perFormConfig.tokenNonce.getD fp.formId := by
    rw [pageNonce, FormProtection.pageNonce, FormProtection.tokenNonce, if_neg hrun]
    rfl
  cases d with
  | renderToken => exact absurd hd hrun
  | honeypot =>
    have hnone : ∀ name ∈ HoneypotDefence.names cf fp.formId fp.perFormConfig,
        v.data.text name = "" := fun name hname ↦ v.text_honeypot henabled hname
    exact HoneypotDefence.evaluate_of_forall (show ∀ name ∈ HoneypotDefence.names cf _
      (fp.context v.req v.data none).config, _ from hnone)
  | timeTrap => rfl
  | uaConsistency => rfl
  | jsTouch =>
    have heval : fp.outcomeOf cf v.reads v.submitTime v.req v.data none .jsTouch =
        if v.data.text JsTouchDefence.fieldName = JsTouchDefence.sentinelUnset then
          .flagged (3 / 2) "js_touch:not_set"
        else if v.data.text JsTouchDefence.fieldName = "" then
          .flagged (3 / 2) "js_touch:missing"
        else if v.data.text JsTouchDefence.fieldName ≠ JsTouchDefence.expectedValue cf.toSigning
            (fp.perFormConfig.tokenNonce.getD fp.formId) then
          .flagged (3 / 2) "js_touch:invalid"
        else .passed := rfl
    obtain ⟨hempty, hunset⟩ := JsTouchDefence.expectedValue_ne cf.toSigning v.pageNonce
    rw [heval, ← hpage, v.text_jsTouch henabled hd, if_neg hunset, if_neg hempty,
      if_neg (not_not.2 rfl)]
  | credentialThrottle =>
    refine (throttle_outcome _ _ _ _).trans ?_
    exact if_neg fun h ↦ not_le_readCount v.credentials_lt v.submitUp h.2
  | signupVelocity =>
    refine (throttle_outcome _ _ _ _).trans ?_
    exact if_neg fun h ↦ not_le_readCount v.signups_lt v.submitUp h.2
  | powGate =>
    rw [v.outcomeOf_powGate henabled hd]
    exact if_neg fun hfalse ↦ hlost ⟨hd, hrun, hfalse⟩

/-! ### The verdict -/

/-- The token turns against the visit: it is spoilt by a delimiter, or its marker was lost. -/
def TokenRefused : Prop :=
  .renderToken ∈ fp.defenceNames ∧ (¬RenderTokenDefence.Undelimited fp v.req ∨
    (RenderTokenDefence.expiry cf fp v.payload).isSome = true ∧ v.MarkerLost)

instance : Decidable v.TokenRefused :=
  inferInstanceAs (Decidable (.renderToken ∈ fp.defenceNames ∧
    (¬RenderTokenDefence.Undelimited fp v.req ∨
      (RenderTokenDefence.expiry cf fp v.payload).isSome = true ∧ v.MarkerLost)))

/-- A delimiter spoils the token. -/
theorem evaluate_of_delimited (henabled : cf.enabled = true) (hmem : .renderToken ∈ fp.defenceNames)
    (h : ¬RenderTokenDefence.Undelimited fp v.req) :
    ∃ r, fp.evaluate cf v.reads v.submitTime v.req v.data = .ok r ∧ r.verdict = .blocked := by
  obtain ⟨message, hv⟩ :=
    RenderTokenDefence.verifyToken_issue_delimited cf v.renderTime v.isHex_nonce h
  have htext := v.text_token henabled ((fp.renderToken_mem_runningNames v.req).2 hmem)
  rw [token] at htext
  rw [← htext] at hv
  exact fp.evaluate_refused v.reads v.submitTime v.req henabled hmem hv

section Verdict

variable (henabled : cf.enabled = true) (hsolved : v.Solved)

include henabled hsolved

/-- **Any other honest visit scores nothing.** -/
theorem evaluate_of_not_tokenRefused (h : ¬v.TokenRefused) (hpuzzle : ¬v.PuzzleLost) :
    ∃ r, fp.evaluate cf v.reads v.submitTime v.req v.data = .ok r ∧
      r.verdict = FormProtection.resolveVerdict cf 0 ∧ r.totalScore = 0 := by
  by_cases hmem : .renderToken ∈ fp.defenceNames
  · have hrun := (fp.renderToken_mem_runningNames v.req).2 hmem
    obtain ⟨hundelimited, hlost⟩ := not_or.1 fun h' ↦ h ⟨hmem, h'⟩
    rw [not_not] at hundelimited
    obtain ⟨r, hr, hresult⟩ := fp.evaluate_verified v.reads v.submitTime v.req henabled hmem
      (v.verifyToken_data henabled hrun hundelimited)
    have hblocks : ¬fp.SomeBlocks cf v.reads v.submitTime v.req v.data v.payload := by
      rintro ⟨d, hd, hb⟩
      exact hlost ((v.blocks_iff henabled hrun hundelimited hsolved hd).1 hb).2
    have htotal : fp.flaggedTotal cf v.reads v.submitTime v.req v.data v.payload = 0 := by
      have hnil : (fp.runningNames v.req).filter (fun d ↦
          d.Flags cf fp v.reads v.submitTime v.req v.data v.payload) = [] := by
        rw [List.filter_eq_nil_iff]
        exact fun d hd hflags ↦ v.not_flags henabled hrun hundelimited hd (of_decide_eq_true hflags)
      rw [FormProtection.flaggedTotal, hnil]
      rfl
    refine ⟨r, hr, ?_, ?_⟩
    · rw [hresult.verdict, if_neg hblocks, htotal]
    · rw [hresult.totalScore hblocks, htotal]
  · have hrun := mt (fp.renderToken_mem_runningNames v.req).1 hmem
    have hthreaded : fp.threadedPayload cf v.data = .ok none := by
      rw [FormProtection.threadedPayload, if_neg hmem]
    obtain ⟨r, hr, hfor⟩ :=
      (fp.evaluate_spec cf v.reads v.submitTime v.req v.data henabled).2 _ hthreaded
    have hpassed : ∀ d ∈ fp.runningNames v.req,
        fp.outcomeOf cf v.reads v.submitTime v.req v.data none d = .passed :=
      fun d hd ↦ v.outcomeOf_of_not_mem henabled hrun hpuzzle hd
    have hnone : ∀ d ∈ fp.runningNames v.req,
        ¬(fp.outcomeOf cf v.reads v.submitTime v.req v.data none d).Blocks := by
      intro d hd
      rw [hpassed d hd]
      exact not_blocks_passed
    have htotal : fp.total cf v.reads v.submitTime v.req v.data none = 0 := by
      rw [FormProtection.total]
      refine List.sum_eq_zero fun x hx ↦ ?_
      obtain ⟨d, hd, rfl⟩ := List.mem_map.1 hx
      rw [hpassed d hd]
      rfl
    have hno : ¬∃ d ∈ fp.runningNames v.req,
        (fp.outcomeOf cf v.reads v.submitTime v.req v.data none d).Blocks := by
      rintro ⟨d, hd, hb⟩
      exact hnone d hd hb
    refine ⟨r, hr, ?_, ?_⟩
    · rw [hfor.verdict_eq, FormProtection.verdictOn_outcomes, if_neg hno, htotal]
    · rw [hfor.totalScore_eq cf fp v.reads v.submitTime v.req v.data hnone, htotal]

end Verdict

end HonestVisit

end DjangoWaf
