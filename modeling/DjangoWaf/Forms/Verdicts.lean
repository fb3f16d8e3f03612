import DjangoWaf.Forms.Protection

/-!
# Verdicts on a verified token

What the chain makes of a submission whose render token is verified to a given payload, as
conditions on the submission: when a defence blocks (`Defence.Blocks`), when it flags
(`Defence.Flags`) and with which score of its own.

`evaluate_verified` is the whole of it: `BLOCKED` when a running defence blocks, and otherwise what
the weights of the flagging ones add up to.
-/

namespace DjangoWaf

open PyBytes IsoDatetime

variable (cf : FormConf) (fp : FormProtection) (reads : FormReads) (now : Civil) (req : FormRequest)
  (data : Submitted) (p : TokenPayload)

/-! ### Blocks and flags -/

namespace RenderTokenDefence

/-- The last moment a payload is accepted at; `none` when it cannot be represented, where the
defence raises. -/
def expiry : Option ℤ := p.renderTime.addSeconds (fp.perFormConfig.tokenTtl.getD cf.tokenTtl)

/-- The payload is past its lifetime. -/
def Expired : Prop := ∃ e ∈ expiry cf fp p, e < now.micros

/-- The marker of the payload is gone, and the grace period is over. -/
def Replayed : Prop :=
  (reads.token p.nonce).getD true = false ∧ markerGraceSeconds < now.since p.renderTime

/-- The payload was issued to another address. -/
def IpChanged : Prop := p.ip ≠ "" ∧ p.ip ≠ req.ip

instance : Decidable (Expired cf fp now p) :=
  inferInstanceAs (Decidable (∃ e ∈ expiry cf fp p, e < now.micros))

instance : Decidable (Replayed reads now p) :=
  inferInstanceAs (Decidable ((reads.token p.nonce).getD true = false ∧
    markerGraceSeconds < now.since p.renderTime))

instance : Decidable (IpChanged req p) :=
  inferInstanceAs (Decidable (p.ip ≠ "" ∧ p.ip ≠ req.ip))

end RenderTokenDefence

namespace Defence

/-- When a defence blocks a submission whose token is verified to `p`. -/
def Blocks : Defence → Prop
  | renderToken => RenderTokenDefence.Expired cf fp now p ∨
      ((RenderTokenDefence.expiry cf fp p).isSome = true ∧
        RenderTokenDefence.Replayed reads now p)
  | honeypot => ∃ name ∈ HoneypotDefence.names cf fp.formId fp.perFormConfig, data.text name ≠ ""
  | timeTrap => now.since p.renderTime < TimeTrapDefence.tooFastThresholdSeconds
  | powGate => data.text PowGateDefence.nonceField = "" ∨
      PowGateDefence.verifyNonce cf.toSigning p.nonce (data.text PowGateDefence.nonceField)
        (PowGateDefence.difficulty cf fp.perFormConfig) = false
  | _ => False

/-- When a defence that does not block flags such a submission. -/
def Flags : Defence → Prop
  | renderToken => (RenderTokenDefence.expiry cf fp p).isSome = true ∧
      RenderTokenDefence.IpChanged req p
  | timeTrap => now.since p.renderTime < TimeTrapDefence.minSeconds cf fp.perFormConfig ∨
      TimeTrapDefence.maxSeconds cf fp.perFormConfig < now.since p.renderTime
  | uaConsistency => cf.hashUserAgent req.userAgent ≠ p.uaHash
  | jsTouch => data.text JsTouchDefence.fieldName = JsTouchDefence.sentinelUnset ∨
      data.text JsTouchDefence.fieldName = "" ∨
      data.text JsTouchDefence.fieldName ≠ JsTouchDefence.expectedValue cf.toSigning p.nonce
  | credentialThrottle => req.ip ≠ "" ∧
      fp.perFormConfig.ipLimit.getD cf.credentialIpLimit ≤ readCount (reads.credFailIp req.ip)
  | signupVelocity => req.ip ≠ "" ∧
      fp.perFormConfig.limit.getD cf.signupVelocityLimit ≤ readCount (reads.signup req.ip)
  | _ => False

/-- The score a flagging defence returns. -/
def flagScore : Defence → ℚ
  | renderToken => 3
  | timeTrap => 2
  | uaConsistency => 2
  | jsTouch => 3 / 2
  | credentialThrottle => 5
  | signupVelocity => 5
  | honeypot => 0
  | powGate => 0

instance (d : Defence) : Decidable (d.Blocks cf fp reads now data p) :=
  match d with
  | renderToken => inferInstanceAs (Decidable (_ ∨ _))
  | honeypot => inferInstanceAs (Decidable (∃ name ∈ HoneypotDefence.names cf fp.formId
      fp.perFormConfig, data.text name ≠ ""))
  | timeTrap => inferInstanceAs (Decidable (_ < _))
  | powGate => inferInstanceAs (Decidable (_ ∨ _))
  | uaConsistency => inferInstanceAs (Decidable False)
  | jsTouch => inferInstanceAs (Decidable False)
  | credentialThrottle => inferInstanceAs (Decidable False)
  | signupVelocity => inferInstanceAs (Decidable False)

instance (d : Defence) : Decidable (d.Flags cf fp reads now req data p) :=
  match d with
  | renderToken => inferInstanceAs (Decidable (_ ∧ _))
  | timeTrap => inferInstanceAs (Decidable (_ ∨ _))
  | uaConsistency => inferInstanceAs (Decidable (_ ≠ _))
  | jsTouch => inferInstanceAs (Decidable (_ ∨ _))
  | credentialThrottle => inferInstanceAs (Decidable (_ ∧ _))
  | signupVelocity => inferInstanceAs (Decidable (_ ∧ _))
  | honeypot => inferInstanceAs (Decidable False)
  | powGate => inferInstanceAs (Decidable False)

end Defence

/-! ### Outcomes -/

/-- The outcome of a defence with a given condition for a block and for a flag. -/
def tabled (blocks flags : Prop) [Decidable blocks] [Decidable flags] (score : ℚ)
    (reason : String) : Outcome :=
  if blocks then .blocked reason 5 else if flags then .flagged score reason else .passed

theorem not_blocks_flagged (score : ℚ) (reason : String) :
    ¬(Outcome.flagged score reason).Blocks := by
  intro h
  cases h

theorem not_blocks_passed : ¬Outcome.passed.Blocks := by decide

section Tabled

variable {blocks flags : Prop} [Decidable blocks] [Decidable flags] (score : ℚ) (reason : String)

theorem tabled_of_blocks (h : blocks) : tabled blocks flags score reason = .blocked reason 5 := by
  rw [tabled, if_pos h]

theorem tabled_of_flags (hb : ¬blocks) (hf : flags) :
    tabled blocks flags score reason = .flagged score reason := by
  rw [tabled, if_neg hb, if_pos hf]

theorem tabled_of_neither (hb : ¬blocks) (hf : ¬flags) :
    tabled blocks flags score reason = .passed := by
  rw [tabled, if_neg hb, if_neg hf]

/-- A defence that flags at most. -/
theorem exists_eq_tabled (hb : ¬blocks) :
    ∃ r, (if flags then .flagged score reason else .passed) = tabled blocks flags score r := by
  split_ifs with hflags
  · exact ⟨reason, (tabled_of_flags _ _ hb hflags).symm⟩
  · exact ⟨reason, (tabled_of_neither _ _ hb hflags).symm⟩

end Tabled

section Outcomes

variable {cf reads now req data p}

theorem verifyToken_empty (k : Signing) :
    verifyToken k "" = .error (.valueError "token has no signature delimiter") := by
  have hdecoded : (decodeToken "").bind utf8Decode = some "" :=
    utf8Decode_utf8Encode ""
  rw [verifyToken, hdecoded]
  rfl

theorem text_ne_empty_of_verified
    (hv : verifyToken cf.toSigning (data.text RenderTokenDefence.fieldName) = .ok p) :
    data.text RenderTokenDefence.fieldName ≠ "" := by
  intro hempty
  rw [hempty, verifyToken_empty] at hv
  cases hv

/-- A verified token is checked on its payload. -/
theorem evaluate_of_verified
    (hv : verifyToken cf.toSigning (data.text RenderTokenDefence.fieldName) = .ok p) :
    RenderTokenDefence.evaluate cf reads now (fp.context req data (some p)) =
      RenderTokenDefence.evaluatePayload cf reads now (fp.context req data (some p)) p := by
  have hne := text_ne_empty_of_verified hv
  rw [RenderTokenDefence.evaluate]
  simp only [FormProtection.context, if_neg hne, hv]

/-- The branches of the render token's own check. -/
theorem evaluatePayload_eq : RenderTokenDefence.evaluatePayload cf reads now
      (fp.context req data (some p)) p =
    match RenderTokenDefence.expiry cf fp p with
    | none => .error .overflowError
    | some e =>
      if e < now.micros then .ok (.blocked "render_token:expired" 5)
      else if RenderTokenDefence.Replayed reads now p then .ok (.blocked "render_token:replayed" 5)
      else if RenderTokenDefence.IpChanged req p then .ok (.flagged 3 "render_token:ip_changed")
      else .ok .passed := rfl

theorem outcomeOf_renderToken_verified
    (hv : verifyToken cf.toSigning (data.text RenderTokenDefence.fieldName) = .ok p) :
    ∃ reason, fp.outcomeOf cf reads now req data (some p) .renderToken =
      tabled (Defence.renderToken.Blocks cf fp reads now data p)
        (Defence.renderToken.Flags cf fp reads now req data p) 3 reason := by
  rw [FormProtection.outcomeOf, Defence.evaluate, evaluate_of_verified fp hv, evaluatePayload_eq]
  rcases hexpiry : RenderTokenDefence.expiry cf fp p with - | e
  · have hblocks : ¬Defence.renderToken.Blocks cf fp reads now data p := by
      simp [Defence.Blocks, RenderTokenDefence.Expired, hexpiry]
    have hflags : ¬Defence.renderToken.Flags cf fp reads now req data p := by
      simp [Defence.Flags, hexpiry]
    exact ⟨"", (tabled_of_neither _ _ hblocks hflags).symm⟩
  · have hblocks : Defence.renderToken.Blocks cf fp reads now data p ↔
        e < now.micros ∨ RenderTokenDefence.Replayed reads now p := by
      simp [Defence.Blocks, RenderTokenDefence.Expired, hexpiry]
    have hflags : Defence.renderToken.Flags cf fp reads now req data p ↔
        RenderTokenDefence.IpChanged req p := by
      simp [Defence.Flags, hexpiry]
    by_cases hexpired : e < now.micros
    · refine ⟨"render_token:expired", ?_⟩
      simp only [if_pos hexpired]
      exact (tabled_of_blocks _ _ (hblocks.2 (Or.inl hexpired))).symm
    by_cases hreplayed : RenderTokenDefence.Replayed reads now p
    · refine ⟨"render_token:replayed", ?_⟩
      simp only [if_neg hexpired, if_pos hreplayed]
      exact (tabled_of_blocks _ _ (hblocks.2 (Or.inr hreplayed))).symm
    have hb : ¬Defence.renderToken.Blocks cf fp reads now data p :=
      mt hblocks.1 (not_or.2 ⟨hexpired, hreplayed⟩)
    by_cases hchanged : RenderTokenDefence.IpChanged req p
    · refine ⟨"render_token:ip_changed", ?_⟩
      simp only [if_neg hexpired, if_neg hreplayed, if_pos hchanged]
      exact (tabled_of_flags _ _ hb (hflags.2 hchanged)).symm
    · refine ⟨"", ?_⟩
      simp only [if_neg hexpired, if_neg hreplayed, if_neg hchanged]
      exact (tabled_of_neither _ _ hb (mt hflags.1 hchanged)).symm

theorem outcomeOf_honeypot_verified : ∃ reason,
    fp.outcomeOf cf reads now req data (some p) .honeypot =
      tabled (Defence.honeypot.Blocks cf fp reads now data p)
        (Defence.honeypot.Flags cf fp reads now req data p) 0 reason := by
  have heval : fp.outcomeOf cf reads now req data (some p) .honeypot =
      HoneypotDefence.evaluate cf (fp.context req data (some p)) := rfl
  rw [heval]
  rcases Classical.em (Defence.honeypot.Blocks cf fp reads now data p) with hblocks | hblocks
  · obtain ⟨reason, houtcome⟩ := HoneypotDefence.evaluate_of_exists
      (show ∃ name ∈ HoneypotDefence.names cf _ (fp.context req data (some p)).config, _
        from hblocks)
    rw [houtcome]
    exact ⟨reason, (tabled_of_blocks _ _ hblocks).symm⟩
  · have hnone : ∀ name ∈ HoneypotDefence.names cf fp.formId fp.perFormConfig,
        data.text name = "" := by
      intro name hname
      by_contra hfilled
      exact hblocks ⟨name, hname, hfilled⟩
    rw [HoneypotDefence.evaluate_of_forall hnone]
    exact ⟨"", (tabled_of_neither _ _ hblocks id).symm⟩

theorem outcomeOf_timeTrap_verified : ∃ reason,
    fp.outcomeOf cf reads now req data (some p) .timeTrap =
      tabled (Defence.timeTrap.Blocks cf fp reads now data p)
        (Defence.timeTrap.Flags cf fp reads now req data p) 2 reason := by
  have heval : fp.outcomeOf cf reads now req data (some p) .timeTrap =
      if Defence.timeTrap.Blocks cf fp reads now data p then .blocked "time_trap:too_fast" 5
      else if now.since p.renderTime < TimeTrapDefence.minSeconds cf fp.perFormConfig then
        .flagged 2 "time_trap:fast"
      else if TimeTrapDefence.maxSeconds cf fp.perFormConfig < now.since p.renderTime then
        .flagged 2 "time_trap:expired"
      else .passed := rfl
  rw [heval]
  split_ifs with hblocks hfast hlate
  · exact ⟨_, (tabled_of_blocks _ _ hblocks).symm⟩
  · exact ⟨_, (tabled_of_flags _ _ hblocks (Or.inl hfast)).symm⟩
  · exact ⟨_, (tabled_of_flags _ _ hblocks (Or.inr hlate)).symm⟩
  · exact ⟨"", (tabled_of_neither _ _ hblocks (not_or.2 ⟨hfast, hlate⟩)).symm⟩

theorem outcomeOf_uaConsistency_verified : ∃ reason,
    fp.outcomeOf cf reads now req data (some p) .uaConsistency =
      tabled (Defence.uaConsistency.Blocks cf fp reads now data p)
        (Defence.uaConsistency.Flags cf fp reads now req data p) 2 reason := by
  have heval : fp.outcomeOf cf reads now req data (some p) .uaConsistency =
      if Defence.uaConsistency.Flags cf fp reads now req data p then
        .flagged 2 "ua_consistency:changed"
      else .passed := rfl
  rw [heval]
  exact exists_eq_tabled _ _ id

theorem outcomeOf_jsTouch_verified : ∃ reason,
    fp.outcomeOf cf reads now req data (some p) .jsTouch =
      tabled (Defence.jsTouch.Blocks cf fp reads now data p)
        (Defence.jsTouch.Flags cf fp reads now req data p) (3 / 2) reason := by
  have heval : fp.outcomeOf cf reads now req data (some p) .jsTouch =
      if data.text JsTouchDefence.fieldName = JsTouchDefence.sentinelUnset then
        .flagged (3 / 2) "js_touch:not_set"
      else if data.text JsTouchDefence.fieldName = "" then .flagged (3 / 2) "js_touch:missing"
      else if data.text JsTouchDefence.fieldName ≠
          JsTouchDefence.expectedValue cf.toSigning p.nonce then
        .flagged (3 / 2) "js_touch:invalid"
      else .passed := rfl
  rw [heval]
  split_ifs with hunset hempty hother
  · exact ⟨_, (tabled_of_flags _ _ id (Or.inl hunset)).symm⟩
  · exact ⟨_, (tabled_of_flags _ _ id (Or.inr (Or.inl hempty))).symm⟩
  · exact ⟨_, (tabled_of_flags _ _ id (Or.inr (Or.inr hother))).symm⟩
  · have hflags : ¬Defence.jsTouch.Flags cf fp reads now req data p :=
      not_or.2 ⟨hunset, not_or.2 ⟨hempty, hother⟩⟩
    exact ⟨"", (tabled_of_neither _ _ id hflags).symm⟩

/-- The two counters are read in the same way, blank addresses apart. -/
theorem throttle_outcome (ip : String) (limit : ℤ) (count : ℤ) (reason : String) :
    (if ip = "" then Outcome.passed else if limit ≤ count then .flagged 5 reason else .passed) =
      if ip ≠ "" ∧ limit ≤ count then .flagged 5 reason else .passed := by
  by_cases hip : ip = ""
  · rw [if_pos hip, if_neg fun h ↦ h.1 hip]
  · by_cases hlimit : limit ≤ count
    · rw [if_neg hip, if_pos hlimit, if_pos ⟨hip, hlimit⟩]
    · rw [if_neg hip, if_neg hlimit, if_neg fun h ↦ hlimit h.2]

theorem outcomeOf_credentialThrottle_verified : ∃ reason,
    fp.outcomeOf cf reads now req data (some p) .credentialThrottle =
      tabled (Defence.credentialThrottle.Blocks cf fp reads now data p)
        (Defence.credentialThrottle.Flags cf fp reads now req data p) 5 reason := by
  have heval : fp.outcomeOf cf reads now req data (some p) .credentialThrottle =
      if Defence.credentialThrottle.Flags cf fp reads now req data p then
        .flagged 5 "credential_throttle:ip"
      else .passed := throttle_outcome _ _ _ _
  rw [heval]
  exact exists_eq_tabled _ _ id

theorem outcomeOf_signupVelocity_verified : ∃ reason,
    fp.outcomeOf cf reads now req data (some p) .signupVelocity =
      tabled (Defence.signupVelocity.Blocks cf fp reads now data p)
        (Defence.signupVelocity.Flags cf fp reads now req data p) 5 reason := by
  have heval : fp.outcomeOf cf reads now req data (some p) .signupVelocity =
      if Defence.signupVelocity.Flags cf fp reads now req data p then
        .flagged 5 "signup_velocity:ip"
      else .passed := throttle_outcome _ _ _ _
  rw [heval]
  exact exists_eq_tabled _ _ id

theorem outcomeOf_powGate_verified : ∃ reason,
    fp.outcomeOf cf reads now req data (some p) .powGate =
      tabled (Defence.powGate.Blocks cf fp reads now data p)
        (Defence.powGate.Flags cf fp reads now req data p) 0 reason := by
  have heval : fp.outcomeOf cf reads now req data (some p) .powGate =
      if data.text PowGateDefence.nonceField = "" then .blocked "pow_gate:missing" 5
      else if PowGateDefence.verifyNonce cf.toSigning p.nonce
          (data.text PowGateDefence.nonceField)
          (PowGateDefence.difficulty cf fp.perFormConfig) = false then
        .blocked "pow_gate:invalid" 5
      else .passed := by
    rw [FormProtection.outcomeOf, Defence.evaluate, PowGateDefence.evaluate]
    rfl
  rw [heval]
  split_ifs with hempty hinvalid
  · exact ⟨_, (tabled_of_blocks _ _ (Or.inl hempty)).symm⟩
  · exact ⟨_, (tabled_of_blocks _ _ (Or.inr hinvalid)).symm⟩
  · exact ⟨"", (tabled_of_neither _ _ (not_or.2 ⟨hempty, hinvalid⟩) id).symm⟩

/-- **The outcome of every defence** on a submission whose token is verified to `p`. -/
theorem outcomeOf_verified
    (hv : verifyToken cf.toSigning (data.text RenderTokenDefence.fieldName) = .ok p)
    (d : Defence) : ∃ reason, fp.outcomeOf cf reads now req data (some p) d =
      tabled (d.Blocks cf fp reads now data p) (d.Flags cf fp reads now req data p) d.flagScore
        reason := by
  cases d with
  | renderToken => exact outcomeOf_renderToken_verified fp hv
  | honeypot => exact outcomeOf_honeypot_verified fp
  | timeTrap => exact outcomeOf_timeTrap_verified fp
  | uaConsistency => exact outcomeOf_uaConsistency_verified fp
  | jsTouch => exact outcomeOf_jsTouch_verified fp
  | credentialThrottle => exact outcomeOf_credentialThrottle_verified fp
  | signupVelocity => exact outcomeOf_signupVelocity_verified fp
  | powGate => exact outcomeOf_powGate_verified fp

end Outcomes

/-! ### The verdict -/

namespace FormProtection

/-- What the flagging defences of a submission add up to. -/
def flaggedTotal : ℚ :=
  (((fp.runningNames req).filter fun d ↦ d.Flags cf fp reads now req data p).map fun d ↦
    (fp.weight cf d).getD d.flagScore).sum

/-- Some running defence blocks. -/
def SomeBlocks : Prop := ∃ d ∈ fp.runningNames req, d.Blocks cf fp reads now data p

instance : Decidable (fp.SomeBlocks cf reads now req data p) :=
  inferInstanceAs (Decidable (∃ d ∈ fp.runningNames req, d.Blocks cf fp reads now data p))

section

variable {cf reads now req data p}

theorem blocks_outcomeOf_iff
    (hv : verifyToken cf.toSigning (data.text RenderTokenDefence.fieldName) = .ok p)
    (d : Defence) : (fp.outcomeOf cf reads now req data (some p) d).Blocks ↔
      d.Blocks cf fp reads now data p := by
  obtain ⟨reason, houtcome⟩ := outcomeOf_verified fp hv d
  rw [houtcome, tabled]
  split_ifs with hblocks hflags
  · exact ⟨fun _ ↦ hblocks, fun _ ↦ rfl⟩
  · exact iff_of_false (not_blocks_flagged _ _) hblocks
  · exact iff_of_false not_blocks_passed hblocks

/-- A defence that does not block adds its weight when it flags. -/
theorem contribution_verified
    (hv : verifyToken cf.toSigning (data.text RenderTokenDefence.fieldName) = .ok p)
    {d : Defence} (hblocks : ¬d.Blocks cf fp reads now data p) :
    fp.contribution cf d (fp.outcomeOf cf reads now req data (some p) d) =
      if d.Flags cf fp reads now req data p then (fp.weight cf d).getD d.flagScore else 0 := by
  obtain ⟨reason, houtcome⟩ := outcomeOf_verified fp hv d
  rw [houtcome, tabled, if_neg hblocks]
  split_ifs
  · rfl
  · rfl

theorem sum_contribution_verified
    (hv : verifyToken cf.toSigning (data.text RenderTokenDefence.fieldName) = .ok p)
    {ds : List Defence} (hds : ∀ d ∈ ds, ¬d.Blocks cf fp reads now data p) :
    (ds.map fun d ↦ fp.contribution cf d (fp.outcomeOf cf reads now req data (some p) d)).sum =
      ((ds.filter fun d ↦ d.Flags cf fp reads now req data p).map fun d ↦
        (fp.weight cf d).getD d.flagScore).sum := by
  induction ds with
  | nil => rfl
  | cons d ds ih =>
    rw [List.map_cons, List.sum_cons, ih fun d' hd' ↦ hds d' (List.mem_cons_of_mem d hd'),
      fp.contribution_verified hv (hds d List.mem_cons_self), List.filter_cons]
    by_cases hflags : d.Flags cf fp reads now req data p
    · rw [if_pos hflags, if_pos (decide_eq_true hflags), List.map_cons, List.sum_cons]
    · rw [if_neg hflags, if_neg (by simpa using hflags), zero_add]

end

section

variable {cf data p}

theorem threadedPayload_verified (hmem : .renderToken ∈ fp.defenceNames)
    (hv : verifyToken cf.toSigning (data.text RenderTokenDefence.fieldName) = .ok p) :
    fp.threadedPayload cf data = .ok (some p) := by
  rw [threadedPayload, if_pos hmem, parseSubmittedPayload, if_neg (text_ne_empty_of_verified hv),
    hv]

/-- What verification raises, other than `ValueError`, is what the chain raises. -/
theorem threadedPayload_of_raises (hmem : .renderToken ∈ fp.defenceNames) {e : FormError}
    (hv : verifyToken cf.toSigning (data.text RenderTokenDefence.fieldName) = .error e)
    (he : ∀ message, e ≠ .valueError message) : fp.threadedPayload cf data = .error e := by
  have hne : data.text RenderTokenDefence.fieldName ≠ "" := by
    intro hempty
    rw [hempty, verifyToken_empty] at hv
    exact he _ (Except.error.inj hv).symm
  rw [threadedPayload, if_pos hmem, parseSubmittedPayload, if_neg hne, hv]
  cases e with
  | valueError message => exact absurd rfl (he message)
  | typeError message => rfl
  | overflowError => rfl

/-- The result of `evaluate` for a verified payload. -/
structure VerifiedResult (cf : FormConf) (fp : FormProtection) (reads : FormReads) (now : Civil)
    (req : FormRequest) (data : Submitted) (p : TokenPayload) (r : FormEvaluationResult) :
    Prop where
  verdict : r.verdict =
    if fp.SomeBlocks cf reads now req data p then .blocked
    else resolveVerdict cf (fp.flaggedTotal cf reads now req data p)
  totalScore : ¬fp.SomeBlocks cf reads now req data p →
    r.totalScore = fp.flaggedTotal cf reads now req data p
  tokenPayload : ¬fp.SomeBlocks cf reads now req data p → r.tokenPayload = some p

/-- **What a verified token is worth**: a block where a running defence blocks, else the verdict on
what the flagging ones add up to. -/
theorem evaluate_verified (henabled : cf.enabled = true) (hmem : .renderToken ∈ fp.defenceNames)
    (hv : verifyToken cf.toSigning (data.text RenderTokenDefence.fieldName) = .ok p) :
    ∃ r, fp.evaluate cf reads now req data = .ok r ∧
      VerifiedResult cf fp reads now req data p r := by
  obtain ⟨r, hr, hfor⟩ := (fp.evaluate_spec cf reads now req data henabled).2 _
    (fp.threadedPayload_verified hmem hv)
  have hsome : (∃ d ∈ fp.runningNames req,
      (fp.outcomeOf cf reads now req data (some p) d).Blocks) ↔
        fp.SomeBlocks cf reads now req data p :=
    exists_congr fun d ↦ and_congr_right fun _ ↦ fp.blocks_outcomeOf_iff hv d
  have htotal : ¬fp.SomeBlocks cf reads now req data p →
      fp.total cf reads now req data (some p) = fp.flaggedTotal cf reads now req data p :=
    fun hno ↦ fp.sum_contribution_verified hv fun d hd hb ↦ hno ⟨d, hd, hb⟩
  have hnone : ¬fp.SomeBlocks cf reads now req data p →
      ∀ d ∈ fp.runningNames req, ¬(fp.outcomeOf cf reads now req data (some p) d).Blocks :=
    fun hno d hd hb ↦ hno (hsome.1 ⟨d, hd, hb⟩)
  refine ⟨r, hr, ?_, fun hno ↦ ?_, fun hno ↦ hfor.tokenPayload fun o ho ↦ ?_⟩
  · rw [hfor.verdict_eq, verdictOn_outcomes]
    by_cases hblock : fp.SomeBlocks cf reads now req data p
    · rw [if_pos (hsome.2 hblock), if_pos hblock]
    · rw [if_neg (mt hsome.1 hblock), if_neg hblock, htotal hblock]
  · rw [hfor.totalScore_eq cf fp reads now req data (hnone hno), htotal hno]
  · obtain ⟨d, hd, rfl⟩ := List.mem_map.1 ho
    exact hnone hno d hd

/-- A token that raises `ValueError` is a block of the render token. -/
theorem blocks_renderToken_of_valueError {message : String}
    (hv : verifyToken cf.toSigning (data.text RenderTokenDefence.fieldName) =
      .error (.valueError message)) (payload : Option TokenPayload) :
    (fp.outcomeOf cf reads now req data payload .renderToken).Blocks := by
  rw [outcomeOf, Defence.evaluate, RenderTokenDefence.evaluate, context]
  simp only [hv]
  split_ifs with hempty
  · rfl
  · rfl

/-- **A refused token** is a blocked submission. -/
theorem evaluate_refused (henabled : cf.enabled = true) (hmem : .renderToken ∈ fp.defenceNames)
    {message : String} (hv : verifyToken cf.toSigning (data.text RenderTokenDefence.fieldName) =
      .error (.valueError message)) :
    ∃ r, fp.evaluate cf reads now req data = .ok r ∧ r.verdict = .blocked := by
  have hthreaded : fp.threadedPayload cf data = .ok none := by
    rw [threadedPayload, if_pos hmem, parseSubmittedPayload]
    split_ifs
    · rfl
    · rw [hv]
  obtain ⟨r, hr, hfor⟩ := (fp.evaluate_spec cf reads now req data henabled).2 _ hthreaded
  refine ⟨r, hr, ?_⟩
  rw [hfor.verdict_eq, verdictOn_outcomes, if_pos]
  exact ⟨.renderToken, (fp.renderToken_mem_runningNames req).2 hmem,
    fp.blocks_renderToken_of_valueError reads now req hv none⟩

end

end FormProtection

/-! ### Spent tokens -/

/-- The answers to a submission, were its marker there. -/
def FormReads.unspent (reads : FormReads) : FormReads := { reads with token := fun _ ↦ some true }

namespace FormProtection

/-- Nothing but a spent token keeps a submission from passing. -/
structure Acceptable : Prop where
  unblocked : ¬fp.SomeBlocks cf reads.unspent now req data p
  lt_block : fp.flaggedTotal cf reads now req data p < cf.blockThreshold
  lt_flag : fp.flaggedTotal cf reads now req data p < cf.flagThreshold

/-- The token of a submission is accepted and spent. -/
def Spent : Prop :=
  (RenderTokenDefence.expiry cf fp p).isSome = true ∧ RenderTokenDefence.Replayed reads now p

instance : Decidable (fp.Acceptable cf reads now req data p) :=
  decidable_of_iff (¬fp.SomeBlocks cf reads.unspent now req data p ∧
      fp.flaggedTotal cf reads now req data p < cf.blockThreshold ∧
      fp.flaggedTotal cf reads now req data p < cf.flagThreshold)
    ⟨fun h ↦ ⟨h.1, h.2.1, h.2.2⟩, fun h ↦ ⟨h.unblocked, h.lt_block, h.lt_flag⟩⟩

instance : Decidable (fp.Spent cf reads now p) :=
  inferInstanceAs (Decidable (_ ∧ _))

section

variable {cf reads now req data p}

/-- A marker that is there is not one that was spent. -/
theorem blocks_iff_unspent (d : Defence) : d.Blocks cf fp reads now data p ↔
    d.Blocks cf fp reads.unspent now data p ∨ (d = .renderToken ∧ fp.Spent cf reads now p) := by
  have hunspent : ¬RenderTokenDefence.Replayed reads.unspent now p := by
    rintro ⟨hfalse, -⟩
    cases hfalse
  cases d with
  | renderToken => simp only [Defence.Blocks, Spent, hunspent, and_false, or_false, true_and]
  | honeypot => simp only [Defence.Blocks, reduceCtorEq, false_and, or_false]
  | timeTrap => simp only [Defence.Blocks, reduceCtorEq, false_and, or_false]
  | powGate => simp only [Defence.Blocks, reduceCtorEq, false_and, or_false]
  | uaConsistency => simp only [Defence.Blocks, reduceCtorEq, false_and, or_false]
  | jsTouch => simp only [Defence.Blocks, reduceCtorEq, false_and, or_false]
  | credentialThrottle => simp only [Defence.Blocks, reduceCtorEq, false_and, or_false]
  | signupVelocity => simp only [Defence.Blocks, reduceCtorEq, false_and, or_false]

theorem someBlocks_iff_unspent (hmem : .renderToken ∈ fp.defenceNames) :
    fp.SomeBlocks cf reads now req data p ↔
      fp.SomeBlocks cf reads.unspent now req data p ∨ fp.Spent cf reads now p := by
  constructor
  · rintro ⟨d, hd, hblocks⟩
    exact ((fp.blocks_iff_unspent d).1 hblocks).imp (fun h ↦ ⟨d, hd, h⟩) And.right
  · rintro (⟨d, hd, hblocks⟩ | hspent)
    · exact ⟨d, hd, (fp.blocks_iff_unspent d).2 (Or.inl hblocks)⟩
    · exact ⟨.renderToken, (fp.renderToken_mem_runningNames req).2 hmem,
        (fp.blocks_iff_unspent .renderToken).2 (Or.inr ⟨rfl, hspent⟩)⟩

/-- **What passes**: an acceptable submission with a token that is not spent. -/
theorem evaluate_passed_iff (henabled : cf.enabled = true) (hmem : .renderToken ∈ fp.defenceNames)
    (hv : verifyToken cf.toSigning (data.text RenderTokenDefence.fieldName) = .ok p) :
    (∃ r, fp.evaluate cf reads now req data = .ok r ∧ r.verdict = .passed) ↔
      fp.Acceptable cf reads now req data p ∧ ¬fp.Spent cf reads now p := by
  obtain ⟨r, hr, hresult⟩ := fp.evaluate_verified reads now req henabled hmem hv
  simp only [hr, Except.ok.injEq, exists_eq_left']
  rw [hresult.verdict]
  split_ifs with hblocks
  · rw [someBlocks_iff_unspent _ hmem] at hblocks
    exact iff_of_false (by decide) fun h ↦ hblocks.elim h.1.unblocked h.2
  · rw [someBlocks_iff_unspent _ hmem, not_or] at hblocks
    rw [resolveVerdict_eq_passed_iff]
    exact ⟨fun h ↦ ⟨⟨hblocks.1, h.1, h.2⟩, hblocks.2⟩, fun h ↦ ⟨h.1.lt_block, h.1.lt_flag⟩⟩

theorem flags_unspent (d : Defence) :
    d.Flags cf fp reads.unspent now req data p ↔ d.Flags cf fp reads now req data p := by
  cases d with
  | renderToken => rfl
  | honeypot => rfl
  | timeTrap => rfl
  | uaConsistency => rfl
  | jsTouch => rfl
  | credentialThrottle => rfl
  | signupVelocity => rfl
  | powGate => rfl

theorem acceptable_unspent : fp.Acceptable cf reads.unspent now req data p ↔
    fp.Acceptable cf reads now req data p := by
  have htotal : fp.flaggedTotal cf reads.unspent now req data p =
      fp.flaggedTotal cf reads now req data p := by
    rw [flaggedTotal, flaggedTotal]
    simp only [flags_unspent]
  constructor
  · exact fun h ↦ ⟨h.unblocked, htotal ▸ h.lt_block, htotal ▸ h.lt_flag⟩
  · exact fun h ↦ ⟨h.unblocked, htotal.symm ▸ h.lt_block, htotal.symm ▸ h.lt_flag⟩

/-- What would pass, were its marker there. -/
theorem evaluate_unspent_passed_iff (henabled : cf.enabled = true)
    (hmem : .renderToken ∈ fp.defenceNames)
    (hv : verifyToken cf.toSigning (data.text RenderTokenDefence.fieldName) = .ok p) :
    (∃ r, fp.evaluate cf reads.unspent now req data = .ok r ∧ r.verdict = .passed) ↔
      fp.Acceptable cf reads now req data p := by
  have hunspent : ¬fp.Spent cf reads.unspent now p := by
    rintro ⟨-, hfalse, -⟩
    cases hfalse
  rw [evaluate_passed_iff fp henabled hmem hv, acceptable_unspent, and_iff_left hunspent]

/-- Its payload is handed back. -/
theorem tokenPayload_of_passed (henabled : cf.enabled = true)
    (hmem : .renderToken ∈ fp.defenceNames)
    (hv : verifyToken cf.toSigning (data.text RenderTokenDefence.fieldName) = .ok p)
    {r : FormEvaluationResult} (hr : fp.evaluate cf reads now req data = .ok r)
    (hpassed : r.verdict = .passed) : r.tokenPayload = some p := by
  obtain ⟨r', hr', hresult⟩ := fp.evaluate_verified reads now req henabled hmem hv
  obtain rfl := Except.ok.inj (hr.symm.trans hr')
  refine hresult.tokenPayload fun hblocks ↦ ?_
  have hverdict := hresult.verdict
  rw [if_pos hblocks, hpassed] at hverdict
  cases hverdict

end

end FormProtection

end DjangoWaf
