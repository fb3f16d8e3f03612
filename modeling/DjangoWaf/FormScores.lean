import DjangoWaf.Forms.Verdicts
import DjangoWaf.TokenBinding

/-!
# Scores and weights

The specification adds up the scores the flagging defences return. The code adds up **the weights of
their table**, which by default repeat these scores, one defence excepted: the render token returns
3 for a changed address and has a weight of 5.

`form_scores_agree_iff`: under the default weights the verdict is the specified one unless an
address has changed, nothing blocks, and the two points of difference carry the total across a
threshold. With the default thresholds of 2 and 5 they do so on their own.
-/

namespace DjangoWaf

open PyBytes IsoDatetime

/-- What the specification counts of an outcome. -/
def specifiedScore (o : Outcome) : ℚ := if o.verdict = .flag then o.score else 0

/-- The `resolve_verdict` of the specification. -/
def specifiedVerdict (cf : FormConf) (outcomes : List Outcome) : FormVerdict :=
  if ∃ o ∈ outcomes, o.Blocks then .blocked
  else FormProtection.resolveVerdict cf (outcomes.map specifiedScore).sum

/-- The two points between the score of a changed address and its weight. -/
def surplus (d : Defence) (o : Outcome) : ℚ := if d = .renderToken ∧ o.verdict = .flag then 2 else 0

/-! ### One defence -/

section

variable {cf : FormConf} {fp : FormProtection} (reads : FormReads) (now : Civil)
  (req : FormRequest) (data : Submitted) (payload : Option TokenPayload)

/-- What a defence may answer: nothing, a block, or a flag with a score of its own. -/
def Answers (score : ℚ) (o : Outcome) : Prop :=
  o = .passed ∨ (∃ reason, o = .blocked reason 5) ∨ ∃ reason, o = .flagged score reason

theorem answers_passed (score : ℚ) : Answers score .passed := Or.inl rfl

theorem answers_blocked (score : ℚ) (reason : String) : Answers score (.blocked reason 5) :=
  Or.inr (Or.inl ⟨reason, rfl⟩)

theorem answers_flagged (score : ℚ) (reason : String) : Answers score (.flagged score reason) :=
  Or.inr (Or.inr ⟨reason, rfl⟩)

theorem answers_tabled {blocks flags : Prop} [Decidable blocks] [Decidable flags] (score : ℚ)
    (reason : String) : Answers score (tabled blocks flags score reason) := by
  rw [tabled]
  split_ifs
  · exact answers_blocked _ _
  · exact answers_flagged _ _
  · exact answers_passed _

theorem answers_ite_blocked {blocks : Prop} [Decidable blocks] {score : ℚ} {o : Outcome}
    (h : Answers score o) (reason : String) :
    Answers score (if blocks then .blocked reason 5 else o) := by
  split_ifs
  · exact answers_blocked _ _
  · exact h

theorem answers_renderToken :
    Answers 3 (fp.outcomeOf cf reads now req data payload .renderToken) := by
  rw [FormProtection.outcomeOf, Defence.evaluate, RenderTokenDefence.evaluate,
    FormProtection.context]
  simp only
  split_ifs with hempty
  · exact answers_blocked _ _
  · rcases verifyToken cf.toSigning (data.text RenderTokenDefence.fieldName) with e | p
    · rcases e with m | m | -
      · exact answers_blocked _ _
      · exact answers_passed _
      · exact answers_passed _
    · simp only [RenderTokenDefence.evaluatePayload]
      rcases p.renderTime.addSeconds ((fp.configFor (payload.map TokenPayload.nonce)).tokenTtl.getD
        cf.tokenTtl) with - | e
      · exact answers_passed _
      · simp only
        split_ifs
        · exact answers_blocked _ _
        · exact answers_blocked _ _
        · exact answers_flagged _ _
        · exact answers_passed _

theorem answers_honeypot (score : ℚ) :
    Answers score (fp.outcomeOf cf reads now req data payload .honeypot) := by
  rw [FormProtection.outcomeOf, Defence.evaluate, HoneypotDefence.evaluate]
  simp only
  split
  · exact answers_blocked _ _
  · exact answers_passed _

theorem answers_timeTrap : Answers 2 (fp.outcomeOf cf reads now req data payload .timeTrap) := by
  rcases payload with - | p
  · exact answers_passed _
  · obtain ⟨reason, houtcome⟩ := outcomeOf_timeTrap_verified fp
    rw [houtcome]
    exact answers_tabled _ _

theorem answers_uaConsistency :
    Answers 2 (fp.outcomeOf cf reads now req data payload .uaConsistency) := by
  rcases payload with - | p
  · exact answers_passed _
  · obtain ⟨reason, houtcome⟩ := outcomeOf_uaConsistency_verified fp
    rw [houtcome]
    exact answers_tabled _ _

theorem answers_jsTouch :
    Answers (3 / 2) (fp.outcomeOf cf reads now req data payload .jsTouch) := by
  rw [FormProtection.outcomeOf, Defence.evaluate, JsTouchDefence.evaluate]
  simp only
  split_ifs
  · exact answers_flagged _ _
  · exact answers_flagged _ _
  · exact answers_flagged _ _
  · exact answers_passed _

theorem answers_credentialThrottle :
    Answers 5 (fp.outcomeOf cf reads now req data payload .credentialThrottle) := by
  rw [FormProtection.outcomeOf, Defence.evaluate, CredentialThrottleDefence.evaluate]
  split_ifs
  · exact answers_passed _
  · exact answers_flagged _ _
  · exact answers_passed _

theorem answers_signupVelocity :
    Answers 5 (fp.outcomeOf cf reads now req data payload .signupVelocity) := by
  rw [FormProtection.outcomeOf, Defence.evaluate, SignupVelocityDefence.evaluate]
  split_ifs
  · exact answers_passed _
  · exact answers_flagged _ _
  · exact answers_passed _

theorem answers_powGate (score : ℚ) :
    Answers score (fp.outcomeOf cf reads now req data payload .powGate) := by
  rw [FormProtection.outcomeOf, Defence.evaluate, PowGateDefence.evaluate]
  exact answers_ite_blocked (answers_ite_blocked (answers_passed _) _) _

/-! ### Weights and scores -/

theorem contribution_of_answers {d : Defence} {score : ℚ} {o : Outcome} (h : Answers score o)
    (hblocks : ¬o.Blocks)
    (hweight : fp.weight cf d = some (score + if d = .renderToken then 2 else 0)) :
    fp.contribution cf d o = specifiedScore o + surplus d o := by
  rcases h with rfl | ⟨reason, rfl⟩ | ⟨reason, rfl⟩
  · have hpass : Outcome.passed.verdict = .pass := rfl
    have hnot : ¬Outcome.passed.verdict = .flag := by decide
    rw [FormProtection.contribution, specifiedScore, surplus, if_pos hpass, if_neg hnot,
      if_neg fun h ↦ hnot h.2, add_zero]
  · exact absurd rfl hblocks
  · have hflag : (Outcome.flagged score reason).verdict = .flag := rfl
    have hnot : ¬(Outcome.flagged score reason).verdict = .pass := by
      rw [hflag]
      decide
    rw [FormProtection.contribution, specifiedScore, surplus, if_neg hnot, hweight, if_pos hflag]
    simp only [hflag, and_true, Option.getD_some]
    rfl

/-- **A flag weighs what it scores**, but for the surplus of the render token. -/
theorem contribution_eq (hweights : fp.weights = [])
    (hdefault : cf.defenceWeights = defaultDefenceWeights) {d : Defence}
    (hblocks : ¬(fp.outcomeOf cf reads now req data payload d).Blocks) :
    fp.contribution cf d (fp.outcomeOf cf reads now req data payload d) =
      specifiedScore (fp.outcomeOf cf reads now req data payload d) +
        surplus d (fp.outcomeOf cf reads now req data payload d) := by
  have hweight : ∀ d : Defence, fp.weight cf d = defaultDefenceWeights.lookup d.name := by
    intro d
    rw [FormProtection.weight, hweights, hdefault]
    rfl
  cases d with
  | renderToken =>
    exact contribution_of_answers (answers_renderToken _ _ _ _ _) hblocks
      ((hweight _).trans (by decide +kernel))
  | honeypot =>
    exact contribution_of_answers (answers_honeypot _ _ _ _ _ 5) hblocks
      ((hweight _).trans (by decide +kernel))
  | timeTrap =>
    exact contribution_of_answers (answers_timeTrap _ _ _ _ _) hblocks
      ((hweight _).trans (by decide +kernel))
  | uaConsistency =>
    exact contribution_of_answers (answers_uaConsistency _ _ _ _ _) hblocks
      ((hweight _).trans (by decide +kernel))
  | jsTouch =>
    exact contribution_of_answers (answers_jsTouch _ _ _ _ _) hblocks
      ((hweight _).trans (by decide +kernel))
  | credentialThrottle =>
    exact contribution_of_answers (answers_credentialThrottle _ _ _ _ _) hblocks
      ((hweight _).trans (by decide +kernel))
  | signupVelocity =>
    exact contribution_of_answers (answers_signupVelocity _ _ _ _ _) hblocks
      ((hweight _).trans (by decide +kernel))
  | powGate =>
    exact contribution_of_answers (answers_powGate _ _ _ _ _ 5) hblocks
      ((hweight _).trans (by decide +kernel))

/-! ### The chain -/

/-- What the specification counts of some defences. -/
def specifiedSum (cf : FormConf) (fp : FormProtection) (reads : FormReads) (now : Civil)
    (req : FormRequest) (data : Submitted) (payload : Option TokenPayload)
    (ds : List Defence) : ℚ :=
  (ds.map fun d ↦ specifiedScore (fp.outcomeOf cf reads now req data payload d)).sum

/-- Without the render token the weights are the scores. -/
theorem sum_contribution_of_not_mem (hweights : fp.weights = [])
    (hdefault : cf.defenceWeights = defaultDefenceWeights) {ds : List Defence}
    (hds : .renderToken ∉ ds)
    (hnone : ∀ d ∈ ds, ¬(fp.outcomeOf cf reads now req data payload d).Blocks) :
    (ds.map fun d ↦ fp.contribution cf d (fp.outcomeOf cf reads now req data payload d)).sum =
      specifiedSum cf fp reads now req data payload ds := by
  rw [specifiedSum]
  congr 1
  refine List.map_congr_left fun d hd ↦ ?_
  have hne : ¬(d = .renderToken ∧
      (fp.outcomeOf cf reads now req data payload d).verdict = .flag) := by
    rintro ⟨rfl, -⟩
    exact hds hd
  rw [contribution_eq reads now req data payload hweights hdefault (hnone d hd), surplus,
    if_neg hne, add_zero]

/-- **The total** is the specified one, with the surplus of a render token that flags. -/
theorem total_eq (hweights : fp.weights = [])
    (hdefault : cf.defenceWeights = defaultDefenceWeights)
    (hnone : ∀ d ∈ fp.runningNames req,
      ¬(fp.outcomeOf cf reads now req data payload d).Blocks) :
    fp.total cf reads now req data payload =
      specifiedSum cf fp reads now req data payload (fp.runningNames req) +
        if .renderToken ∈ fp.runningNames req ∧
            (fp.outcomeOf cf reads now req data payload .renderToken).verdict = .flag then 2
        else 0 := by
  rw [FormProtection.total]
  rcases renderToken_cases (fp.runningNames_sublist req) with hnot | ⟨rest, hnames, hrest⟩
  · rw [sum_contribution_of_not_mem reads now req data payload hweights hdefault hnot hnone,
      if_neg fun h ↦ hnot h.1, add_zero]
  · rw [hnames] at hnone ⊢
    have hhead := hnone .renderToken List.mem_cons_self
    rw [List.map_cons, List.sum_cons,
      contribution_eq reads now req data payload hweights hdefault hhead,
      sum_contribution_of_not_mem reads now req data payload hweights hdefault hrest
        fun d hd ↦ hnone d (List.mem_cons_of_mem _ hd),
      specifiedSum, specifiedSum, List.map_cons, List.sum_cons, surplus]
    simp only [true_and, List.mem_cons_self]
    ring

/-- The specified verdict on the outcomes of a chain, with a block and without one. -/
theorem specifiedVerdict_outcomes {payload : Option TokenPayload} {r : FormEvaluationResult}
    (hfor : fp.ResultFor cf (fp.outcomes cf reads now req data payload) payload r) :
    specifiedVerdict cf r.outcomes =
      if ∃ d ∈ fp.runningNames req, (fp.outcomeOf cf reads now req data payload d).Blocks then
        .blocked
      else FormProtection.resolveVerdict cf
        (specifiedSum cf fp reads now req data payload (fp.runningNames req)) := by
  have hsome : (∃ o ∈ fp.outcomes cf reads now req data payload, o.Blocks) ↔
      ∃ d ∈ fp.runningNames req, (fp.outcomeOf cf reads now req data payload d).Blocks := by
    simp only [FormProtection.outcomes, List.mem_map, exists_exists_and_eq_and]
  rw [specifiedVerdict, hfor.outcomes]
  by_cases hblock : ∃ d ∈ fp.runningNames req,
      (fp.outcomeOf cf reads now req data payload d).Blocks
  · rw [if_pos (exists_blocks_throughBlock.2 (hsome.2 hblock)), if_pos hblock]
  · have hnone : ∀ o ∈ fp.outcomes cf reads now req data payload, ¬o.Blocks :=
      fun o ho hb ↦ hblock (hsome.1 ⟨o, ho, hb⟩)
    rw [if_neg (mt exists_blocks_throughBlock.1 (mt hsome.1 hblock)), if_neg hblock,
      throughBlock_of_forall hnone, FormProtection.outcomes, List.map_map]
    rfl

/-- The two verdicts on a chain agree, if its render token flags, only when the surplus makes no
difference. -/
theorem verdict_eq_specifiedVerdict_iff (hweights : fp.weights = [])
    (hdefault : cf.defenceWeights = defaultDefenceWeights) {payload : Option TokenPayload}
    {r : FormEvaluationResult}
    (hfor : fp.ResultFor cf (fp.outcomes cf reads now req data payload) payload r) :
    r.verdict = specifiedVerdict cf r.outcomes ↔
      ((∀ d ∈ fp.runningNames req,
          ¬(fp.outcomeOf cf reads now req data payload d).Blocks) →
        .renderToken ∈ fp.runningNames req →
        (fp.outcomeOf cf reads now req data payload .renderToken).verdict = .flag →
        FormProtection.resolveVerdict cf
            (specifiedSum cf fp reads now req data payload (fp.runningNames req) + 2) =
          FormProtection.resolveVerdict cf
            (specifiedSum cf fp reads now req data payload (fp.runningNames req))) := by
  rw [hfor.verdict_eq, FormProtection.verdictOn_outcomes, specifiedVerdict_outcomes _ _ _ _ hfor]
  by_cases hblock : ∃ d ∈ fp.runningNames req,
      (fp.outcomeOf cf reads now req data payload d).Blocks
  · rw [if_pos hblock, if_pos hblock]
    obtain ⟨d, hd, hb⟩ := hblock
    exact iff_of_true rfl fun hnone ↦ absurd hb (hnone d hd)
  · have hnone : ∀ d ∈ fp.runningNames req,
        ¬(fp.outcomeOf cf reads now req data payload d).Blocks :=
      fun d hd hb ↦ hblock ⟨d, hd, hb⟩
    rw [if_neg hblock, if_neg hblock,
      total_eq reads now req data payload hweights hdefault hnone]
    by_cases hflag : .renderToken ∈ fp.runningNames req ∧
        (fp.outcomeOf cf reads now req data payload .renderToken).verdict = .flag
    · rw [if_pos hflag]
      exact ⟨fun h _ _ _ ↦ h, fun h ↦ h hnone hflag.1 hflag.2⟩
    · rw [if_neg hflag, add_zero]
      exact iff_of_true rfl fun _ hrun hverdict ↦ absurd ⟨hrun, hverdict⟩ hflag

/-! ### Verified tokens -/

/-- The scores of the flagging defences but the render token. -/
def otherScores (cf : FormConf) (fp : FormProtection) (reads : FormReads) (now : Civil)
    (req : FormRequest) (data : Submitted) (p : TokenPayload) (ds : List Defence) : ℚ :=
  ((ds.filter fun d ↦ d ≠ .renderToken ∧ d.Flags cf fp reads now req data p).map
    Defence.flagScore).sum

section

variable {reads now req data} {p : TokenPayload}
  (hv : verifyToken cf.toSigning (data.text RenderTokenDefence.fieldName) = .ok p)

include hv

theorem specifiedScore_verified {d : Defence} (hblocks : ¬d.Blocks cf fp reads now data p) :
    specifiedScore (fp.outcomeOf cf reads now req data (some p) d) =
      if d.Flags cf fp reads now req data p then d.flagScore else 0 := by
  obtain ⟨reason, houtcome⟩ := outcomeOf_verified fp hv d
  rw [houtcome, tabled, if_neg hblocks]
  split_ifs
  · rfl
  · rfl

theorem specifiedSum_of_not_mem {ds : List Defence} (hds : .renderToken ∉ ds)
    (hnone : ∀ d ∈ ds, ¬d.Blocks cf fp reads now data p) :
    specifiedSum cf fp reads now req data (some p) ds =
      otherScores cf fp reads now req data p ds := by
  rw [specifiedSum, otherScores]
  induction ds with
  | nil => rfl
  | cons d ds ih =>
    rw [List.mem_cons, not_or] at hds
    rw [List.map_cons, List.sum_cons, ih hds.2 fun d' hd' ↦ hnone d' (List.mem_cons_of_mem d hd'),
      specifiedScore_verified hv (hnone d List.mem_cons_self), List.filter_cons]
    by_cases hflags : d.Flags cf fp reads now req data p
    · rw [if_pos hflags, if_pos (decide_eq_true ⟨Ne.symm hds.1, hflags⟩), List.map_cons,
        List.sum_cons]
    · rw [if_neg hflags, if_neg (by simp [hflags]), zero_add]

/-- A changed address counts three, beside the others. -/
theorem specifiedSum_of_flags (hrun : .renderToken ∈ fp.runningNames req)
    (hnone : ∀ d ∈ fp.runningNames req, ¬d.Blocks cf fp reads now data p)
    (hflags : Defence.renderToken.Flags cf fp reads now req data p) :
    specifiedSum cf fp reads now req data (some p) (fp.runningNames req) =
      3 + otherScores cf fp reads now req data p (fp.runningNames req) := by
  rcases renderToken_cases (fp.runningNames_sublist req) with hnot | ⟨rest, hnames, hrest⟩
  · exact absurd hrun hnot
  · rw [hnames] at hnone ⊢
    have hrest' : specifiedSum cf fp reads now req data (some p) rest =
        otherScores cf fp reads now req data p rest :=
      specifiedSum_of_not_mem hv hrest fun d hd ↦ hnone d (List.mem_cons_of_mem _ hd)
    have hother : otherScores cf fp reads now req data p (.renderToken :: rest) =
        otherScores cf fp reads now req data p rest := by
      rw [otherScores, otherScores, List.filter_cons_of_neg (by simp)]
    rw [hother, ← hrest', specifiedSum, specifiedSum, List.map_cons, List.sum_cons,
      specifiedScore_verified hv (hnone .renderToken List.mem_cons_self), if_pos hflags]
    rfl

end

end

/-- A token with a changed address, and nothing that blocks. -/
def AddressFlagged (cf : FormConf) (fp : FormProtection) (reads : FormReads) (now : Civil)
    (req : FormRequest) (data : Submitted) (p : TokenPayload) : Prop :=
  .renderToken ∈ fp.defenceNames ∧
    verifyToken cf.toSigning (data.text RenderTokenDefence.fieldName) = .ok p ∧
    ¬fp.SomeBlocks cf reads now req data p ∧
    Defence.renderToken.Flags cf fp reads now req data p

/-- A submission is one with such a token exactly when the render token flags and nothing blocks. -/
theorem exists_addressFlagged {cf : FormConf} {fp : FormProtection} {reads : FormReads}
    {now : Civil} {req : FormRequest} {data : Submitted} {payload : Option TokenPayload}
    (hthreaded : fp.threadedPayload cf data = .ok payload)
    (hnone : ∀ d ∈ fp.runningNames req,
      ¬(fp.outcomeOf cf reads now req data payload d).Blocks)
    (hrun : .renderToken ∈ fp.runningNames req)
    (hflag : (fp.outcomeOf cf reads now req data payload .renderToken).verdict = .flag) :
    ∃ p, payload = some p ∧ AddressFlagged cf fp reads now req data p := by
  have hmem := (fp.renderToken_mem_runningNames req).1 hrun
  rcases hv : verifyToken cf.toSigning (data.text RenderTokenDefence.fieldName) with e | p
  · by_cases he : ∃ message, e = .valueError message
    · obtain ⟨message, rfl⟩ := he
      exact absurd (fp.blocks_renderToken_of_valueError reads now req hv payload)
        (hnone .renderToken hrun)
    · rw [fp.threadedPayload_of_raises hmem hv fun message h ↦ he ⟨message, h⟩] at hthreaded
      cases hthreaded
  · obtain rfl : some p = payload :=
      Except.ok.inj ((fp.threadedPayload_verified hmem hv).symm.trans hthreaded)
    have hblocks : ∀ d ∈ fp.runningNames req, ¬d.Blocks cf fp reads now data p :=
      fun d hd hb ↦ hnone d hd ((fp.blocks_outcomeOf_iff hv d).2 hb)
    refine ⟨p, rfl, hmem, hv, fun h ↦ ?_, ?_⟩
    · obtain ⟨d, hd, hb⟩ := h
      exact hblocks d hd hb
    · by_contra hnot
      have houtcome : ∃ reason, fp.outcomeOf cf reads now req data (some p) .renderToken =
          tabled (Defence.renderToken.Blocks cf fp reads now data p)
            (Defence.renderToken.Flags cf fp reads now req data p) 3 reason :=
        outcomeOf_verified fp hv .renderToken
      obtain ⟨reason, houtcome⟩ := houtcome
      rw [houtcome, tabled_of_neither _ _ (hblocks _ hrun) hnot] at hflag
      cases hflag

/-- The render token's outcome for such a token. -/
theorem AddressFlagged.verdict_eq {cf : FormConf} {fp : FormProtection} {reads : FormReads}
    {now : Civil} {req : FormRequest} {data : Submitted} {p : TokenPayload}
    (h : AddressFlagged cf fp reads now req data p) :
    (fp.outcomeOf cf reads now req data (some p) .renderToken).verdict = .flag := by
  obtain ⟨hmem, hv, hblocks, hflags⟩ := h
  have hno : ¬Defence.renderToken.Blocks cf fp reads now data p :=
    fun hb ↦ hblocks ⟨.renderToken, (fp.renderToken_mem_runningNames req).2 hmem, hb⟩
  obtain ⟨reason, houtcome⟩ := outcomeOf_renderToken_verified fp hv
  rw [houtcome, tabled_of_flags _ _ hno hflags]
  rfl

/-- What the specification counts on such a token. -/
theorem AddressFlagged.specifiedSum_eq {cf : FormConf} {fp : FormProtection} {reads : FormReads}
    {now : Civil} {req : FormRequest} {data : Submitted} {p : TokenPayload}
    (h : AddressFlagged cf fp reads now req data p) :
    specifiedSum cf fp reads now req data (some p) (fp.runningNames req) =
      3 + otherScores cf fp reads now req data p (fp.runningNames req) := by
  obtain ⟨hmem, hv, hblocks, hflags⟩ := h
  exact specifiedSum_of_flags hv ((fp.renderToken_mem_runningNames req).2 hmem)
    (fun d hd hb ↦ hblocks ⟨d, hd, hb⟩) hflags

/-- **When the verdict is the specified one.** -/
theorem form_scores_agree_iff {cf : FormConf} {fp : FormProtection} (hweights : fp.weights = [])
    (hdefault : cf.defenceWeights = defaultDefenceWeights) (reads : FormReads) (now : Civil)
    (req : FormRequest) (data : Submitted) :
    (∀ r, fp.evaluate cf reads now req data = .ok r →
      r.verdict = specifiedVerdict cf r.outcomes) ↔
        (cf.enabled = false → 0 < cf.blockThreshold ∧ 0 < cf.flagThreshold) ∧
          (cf.enabled = true → ∀ p, AddressFlagged cf fp reads now req data p →
            FormProtection.resolveVerdict cf
                (5 + otherScores cf fp reads now req data p (fp.runningNames req)) =
              FormProtection.resolveVerdict cf
                (3 + otherScores cf fp reads now req data p (fp.runningNames req))) := by
  rcases henabled : cf.enabled with - | -
  · have hno : ¬∃ o ∈ ([] : List Outcome), o.Blocks := by simp
    simp only [FormProtection.evaluate, if_pos henabled, Except.ok.injEq, forall_eq',
      specifiedVerdict, if_neg hno, List.map_nil, List.sum_nil, forall_const, reduceCtorEq,
      false_imp_iff, and_true]
    rw [eq_comm, FormProtection.resolveVerdict_eq_passed_iff]
  · simp only [reduceCtorEq, false_imp_iff, true_and, forall_const]
    obtain ⟨hraises, hresults⟩ := fp.evaluate_spec cf reads now req data henabled
    rcases hthreaded : fp.threadedPayload cf data with e | payload
    · -- Nothing is returned, and no token is verified.
      refine iff_of_true (fun r hr ↦ ?_) fun p h ↦ ?_
      · rw [hraises e hthreaded] at hr
        cases hr
      · rw [fp.threadedPayload_verified h.1 h.2.1] at hthreaded
        cases hthreaded
    · obtain ⟨r, hr, hfor⟩ := hresults payload hthreaded
      have hshift : ∀ s : ℚ, 3 + s + 2 = 5 + s := fun s ↦ by ring
      simp only [hr, Except.ok.injEq, forall_eq']
      rw [verdict_eq_specifiedVerdict_iff reads now req data hweights hdefault hfor]
      constructor
      · intro hagree p h
        obtain rfl : some p = payload :=
          Except.ok.inj ((fp.threadedPayload_verified h.1 h.2.1).symm.trans hthreaded)
        have hnone : ∀ d ∈ fp.runningNames req,
            ¬(fp.outcomeOf cf reads now req data (some p) d).Blocks :=
          fun d hd hb ↦ h.2.2.1 ⟨d, hd, (fp.blocks_outcomeOf_iff h.2.1 d).1 hb⟩
        have hequal := hagree hnone ((fp.renderToken_mem_runningNames req).2 h.1) h.verdict_eq
        rw [h.specifiedSum_eq, hshift] at hequal
        exact hequal
      · intro hagree hnone hrun hflag
        obtain ⟨p, rfl, h⟩ := exists_addressFlagged hthreaded hnone hrun hflag
        rw [h.specifiedSum_eq, hshift]
        exact hagree p h

/-- What the visitor's token is verified to. -/
theorem verifyToken_contactData :
    verifyToken keyedConf.toSigning (contactData.text RenderTokenDefence.fieldName) =
      .ok (RenderTokenDefence.issue keyedConf (tokenForm "contact") visitor leapNoon
        "00ff").2 := by
  rw [text_contactData]
  exact RenderTokenDefence.verifyToken_issue _ _ (by decide) (by decide)

/-- The visitor, on another network. -/
def roamer : FormRequest := { visitor with ip := "198.51.100.4" }

/-- A block threshold of six points. -/
def lenientConf : FormConf := { keyedConf with blockThreshold := 6 }

/-- A changed address under that threshold: with three points or five, the submission is flagged. -/
theorem form_scores_agree_roamer :
    (∃ p, AddressFlagged lenientConf (tokenForm "contact") afterRender leapMinute roamer contactData
      p) ∧
    ∀ r, (tokenForm "contact").evaluate lenientConf afterRender leapMinute roamer contactData =
      .ok r → r.verdict = specifiedVerdict lenientConf r.outcomes := by
  refine ⟨⟨_, by decide, verifyToken_contactData, by decide +kernel, by decide +kernel⟩,
    (form_scores_agree_iff rfl rfl afterRender leapMinute roamer contactData).2
      ⟨fun hoff ↦ ?_, fun _ p h ↦ ?_⟩⟩
  · cases hoff
  · obtain rfl := Except.ok.inj (h.2.1.symm.trans verifyToken_contactData)
    decide +kernel

/-- **A changed address**: three points, and a blocked submission. -/
theorem form_scores_differ_roamer :
    ¬∀ (cf : FormConf) (fp : FormProtection) (reads : FormReads) (now : Civil)
      (req : FormRequest) (data : Submitted) (r : FormEvaluationResult), fp.weights = [] →
      cf.defenceWeights = defaultDefenceWeights → fp.evaluate cf reads now req data = .ok r →
      r.verdict = specifiedVerdict cf r.outcomes := by
  intro hall
  have hagree := (form_scores_agree_iff rfl rfl afterRender leapMinute roamer contactData).1
    fun r ↦ hall keyedConf (tokenForm "contact") afterRender leapMinute roamer contactData r
      rfl rfl
  have hequal := hagree.2 rfl _
    ⟨by decide, verifyToken_contactData, by decide +kernel, by decide +kernel⟩
  exact absurd hequal (by decide +kernel)

end DjangoWaf
