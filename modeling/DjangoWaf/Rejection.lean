import DjangoWaf.BlockedEntries

/-!
# An operator's rejection and escalation

An operator who rejects the auto rule of an address has decided that the address is not to be
blocked. `_create_escalation_rule` writes through the review guard, so **the row stays rejected and
inactive** whatever the address does (`rejected_request`). The gate itself never looks at the row it
gets back: it stores a blocked entry and answers `BLOCKED` all the same.

`rejected_run` says how far the rejection carries: a run of requests is free of blocks on account of
escalation exactly when no request that would be challenged arrives with the counter at the
threshold.
-/

namespace DjangoWaf

variable (cf : Conf) {ip : String}

/-! ### The rejected row -/

/-- A row with the key of the address's escalation rule. -/
def BlockRule.isEscalationRow (ip : String) (r : BlockRule) : Bool :=
  r.ruleType = .ip && r.pattern = ip && r.source = .auto && r.action = .block

/-- The auto rule of the address is rejected. The table holds one row of a key, by its unique
constraint. -/
def Db.Rejected (db : Db) (ip : String) : Prop :=
  ∃ r, db.blockRules.filter (BlockRule.isEscalationRow ip) = [r] ∧ r.reviewStatus = .rejected ∧
    r.isActive = false

/-- Refreshing the rows of a key keeps which rows have the key. -/
theorem filter_refreshAll (a : AutoRuleWrite) (rules : List BlockRule) :
    (a.refreshAll cf rules).filter a.finds = (rules.filter a.finds).map (a.refresh cf) := by
  induction rules with
  | nil => rfl
  | cons r rules ih =>
    rw [AutoRuleWrite.refreshAll, List.map_cons]
    by_cases hr : a.finds r = true
    · rw [if_pos hr, List.filter_cons_of_pos (by rw [finds_refresh, hr]),
        List.filter_cons_of_pos hr, List.map_cons]
      exact congrArg _ ih
    · rw [if_neg hr, List.filter_cons_of_neg hr, List.filter_cons_of_neg hr]
      exact ih

/-- **Escalation leaves a rejected row rejected and inactive.** -/
theorem rejected_createEscalationRule (env : Env) {w : World} (h : w.db.Rejected ip) :
    (createEscalationRule cf env ip w).2.db.Rejected ip := by
  rw [createEscalationRule]
  split
  · obtain ⟨r, hrow, hstatus, hactive⟩ := h
    have hfinds : w.db.blockRules.filter (escalationWrite cf env ip).finds = [r] := hrow
    have hdecided : r.reviewStatus.decided = true := by
      rw [hstatus]
      rfl
    obtain ⟨hstatus', hactive'⟩ := refresh_of_decided cf (a := escalationWrite cf env ip) hdecided
    refine ⟨(escalationWrite cf env ip).refresh cf r, ?_, hstatus'.trans hstatus,
      hactive'.trans hactive⟩
    have hrules := blockRules_getOrCreateAutoRule cf env hfinds
    have hfilter := filter_refreshAll cf (escalationWrite cf env ip) w.db.blockRules
    rw [hfinds] at hfilter
    exact (congrArg (List.filter _) hrules).trans hfilter
  · exact h

theorem rejected_request (env : Env) {req : Request} {w : World} (h : w.db.Rejected req.ipAddress) :
    (WafMiddleware.call cf env req w).2.db.Rejected req.ipAddress := by
  have hsame := sameVerdicts_ungated cf env req.query w
  have hspec := call_spec cf env req w
  generalize WafMiddleware.call cf env req w = out at hspec
  rcases out with ⟨handled, w'⟩
  rcases hspec with ⟨hw', -, -⟩ | ⟨hun, -⟩ | ⟨hun, -⟩ | ⟨hun, -⟩ | ⟨hun, -⟩ |
    @⟨e, w₁, w₂, fp, rule, hun, -, -, -, hrule⟩
  -- in the order of `CallSpec`; only an escalation writes to the tables
  · rwa [hw'.db]
  · rw [hun] at hsame
    rwa [hsame.db]
  · rw [hun] at hsame
    exact hsame.db ▸ h
  · rw [hun] at hsame
    exact hsame.db ▸ h
  · rw [hun] at hsame
    exact hsame.db ▸ h
  · rw [hun] at hsame
    have h₁ : (w₁.withRedis (getUnsolvedChallengeCount env req.ipAddress fp w₁.redis).2).db.Rejected
        req.ipAddress := hsame.db ▸ h
    have h₂ := rejected_createEscalationRule cf env h₁
    rw [← hrule] at h₂
    exact h₂

/-! ### Blocks on account of escalation -/

/-- The gate blocks a request exactly when it would be challenged and the count it reads has reached
the threshold. -/
theorem blockSite_eq_escalation_iff (env : Env) (req : Request) (w : World) :
    (WafMiddleware.call cf env req w).1.blockSite = some .escalation ↔
      WouldChallenge cf env req w ∧
        ∃ fp, classifyFingerprint req.query.userAgent req.requestMeta = .ok fp ∧
          cf.challengeEscalationThreshold ≤ unsolvedCount env req.ipAddress fp w.redis := by
  constructor
  · intro hsite
    have hstop : req.stoppedEarly cf = none := by
      rcases hs : req.stoppedEarly cf with - | response
      · rfl
      · rw [WafMiddleware.call, hs] at hsite
        cases hsite
    have hspec := call_spec cf env req w
    generalize WafMiddleware.call cf env req w = out at hspec hsite
    rcases out with ⟨handled, w'⟩
    rcases hspec with ⟨-, hev, -⟩ | ⟨-, hb, -, -⟩ | @⟨e, w₁, hun, hb⟩ | ⟨-, hv, -, -⟩ |
      ⟨-, hv, -, -⟩ | @⟨e, w₁, w₂, fp, rule, hun, hv, hfp, hge, -⟩
    · rw [Handled.blockSite] at hsite
      split at hsite
      · exact absurd (by assumption) (hev _)
      · cases hsite
    · cases hsite.symm.trans (blockSite_of_not_blocked hb _)
    · -- an ungated answer does not come from the gate
      have hesc : e.site = .escalation :=
        Option.some.inj ((blockSite_of_blocked hb .forbidden).symm.trans hsite)
      have hfits := ungated_fits cf env hun
      rw [Evaluated.Fits, hesc] at hfits
      exact hfits.elim
    · cases hsite.symm.trans (blockSite_of_not_blocked (by simp [hv]) _)
    · cases hsite.symm.trans (blockSite_of_not_blocked (by simp [hv]) _)
    · exact ⟨⟨hstop, ⟨fp, hfp⟩, e, w₁, hun, hv⟩, fp, hfp, hge⟩
  · rintro ⟨hwould, fp, hfp, hle⟩
    rcases call_of_wouldChallenge cf hwould hfp with ⟨hlt, -⟩ | ⟨-, hcall⟩
    · exact absurd hlt (not_lt.2 hle)
    · rw [hcall]
      rfl

/-- The step is no block on account of escalation: the gate does not block, and what the fast path
answers from is not an escalation's entry. -/
def NotByEscalation (s : World × Option Standing) (e : Event) : Prop :=
  ∀ env req h, e = .request env req h → h.blockSite ≠ some .escalation ∧
    (h.blockSite = some .blockedIp → ∃ st ∈ s.2, st.site ≠ .escalation)

/-- A request of the step that would be challenged finds the counter below the threshold. -/
def BelowThreshold (s : World × Option Standing) (e : Event) : Prop :=
  ∀ env req h, e = .request env req h → WouldChallenge cf env req s.1 →
    ∀ fp, classifyFingerprint req.query.userAgent req.requestMeta = .ok fp →
      unsolvedCount env req.ipAddress fp s.1.redis < cf.challengeEscalationThreshold

/-- The step is a request. -/
def Event.IsRequest : Event → Prop
  | .request _ _ _ => True
  | .verify _ _ _ | .other => False

theorem notByEscalation_of_not_isRequest {e : Event} (h : ¬ e.IsRequest)
    (s : World × Option Standing) : NotByEscalation s e :=
  fun _ _ _ he ↦ (h (he ▸ trivial)).elim

/-- One direction holds step by step: where the gate does not block, the counter was below. -/
theorem belowThreshold_of_notByEscalation {s s' : World × Option Standing} {e : Event}
    (hstep : StandingStep cf ip s e s') (h : NotByEscalation s e) : BelowThreshold cf s e := by
  rcases s with ⟨w, o⟩
  rcases s' with ⟨w', o'⟩
  replace hstep : ClientStep cf ip w e w' := hstep.1
  intro env req handled he hwould fp hfp
  subst he
  cases hstep with
  | request hip =>
    refine not_le.1 fun hle ↦ (h env req _ rfl).1 ?_
    exact (blockSite_eq_escalation_iff cf env req w).2 ⟨hwould, fp, hfp, hle⟩

/-- The run so far has left an entry of an escalation as it was at the start. -/
def EntryUntouched (ip : String) (s₁ s : World × Option Standing) : Prop :=
  ∀ st ∈ s.2, st.site = .escalation →
    (∃ st₁ ∈ s₁.2, st₁.site = .escalation) ∧
      s.1.redis.blocked.cell ip = s₁.1.redis.blocked.cell ip

variable {cf} {s₁ s s' : World × Option Standing} {es : List Event} {e : Event}

/-- **A step below the threshold is no block on account of escalation**, and leaves an escalation's
entry alone, when such an entry from before has run out. -/
theorem notByEscalation_step (hstep : StandingStep cf ip s e s') (hbelow : BelowThreshold cf s e)
    (hbacked : Backed cf ip es s) (huntouched : EntryUntouched ip s₁ s)
    (hdead : (∃ st ∈ s₁.2, st.site = .escalation) →
      ∀ env req h, e = .request env req h → s₁.1.redis.blocked.get env.now ip = none) :
    NotByEscalation s e ∧ EntryUntouched ip s₁ s' := by
  rcases s with ⟨w, o⟩
  rcases s' with ⟨w', o'⟩
  obtain ⟨hclient, hstand⟩ := hstep
  replace hstand : o' = e.stand cf o := hstand
  replace hclient : ClientStep cf ip w e w' := hclient
  subst hstand
  cases hclient with
  | @request env req hip =>
    subst hip
    -- a live entry of an escalation would be one from before the start
    have hlive : ∀ v, w.redis.blocked.get env.now req.ipAddress = some v →
        ∀ st ∈ o, st.site ≠ .escalation := by
      intro v hv st hst hesc
      obtain ⟨hold, hcell⟩ := huntouched st hst hesc
      have hnone := hdead hold env req _ rfl
      rw [KeySpace.get_congr hcell.symm, hv] at hnone
      cases hnone
    have hgate : (WafMiddleware.call cf env req w).1.blockSite ≠ some .escalation := by
      intro hsite
      obtain ⟨hwould, fp, hfp, hle⟩ := (blockSite_eq_escalation_iff cf env req w).1 hsite
      exact absurd (hbelow env req _ rfl hwould fp hfp) (not_lt.2 hle)
    rcases entry_request cf env req w with ⟨hsite, hcell⟩ | @⟨v, hsite, hget, -, -⟩ |
      @⟨site, id, hsite, hproper, -, -⟩ | ⟨hsite, -, -⟩
    · refine ⟨fun _ _ _ he ↦ ?_, fun st hst hesc ↦ ?_⟩
      · obtain ⟨rfl, rfl, rfl⟩ := Event.request.inj he
        refine ⟨hgate, fun hhit ↦ ?_⟩
        cases hsite.symm.trans hhit
      · simp only [Event.stand, hsite] at hst
        obtain ⟨hold, hsame⟩ := huntouched st hst hesc
        exact ⟨hold, hcell.trans hsame⟩
    · refine ⟨fun _ _ _ he ↦ ?_, fun st hst hesc ↦ ?_⟩
      · obtain ⟨rfl, rfl, rfl⟩ := Event.request.inj he
        obtain ⟨c, hc, -, -⟩ := KeySpace.get_eq_some_iff.1 hget
        obtain ⟨st, hst, -⟩ := hbacked.entry c hc
        exact ⟨hgate, fun _ ↦ ⟨st, hst, hlive v hget st hst⟩⟩
      · simp only [Event.stand, hsite] at hst
        obtain ⟨st₀, hst₀, rfl⟩ := Option.map_eq_some_iff.1 hst
        exact absurd hesc (hlive v hget st₀ hst₀)
    · refine ⟨fun _ _ _ he ↦ ?_, fun st hst hesc ↦ ?_⟩
      · obtain ⟨rfl, rfl, rfl⟩ := Event.request.inj he
        refine ⟨hgate, fun hhit ↦ ?_⟩
        rcases hproper with rfl | rfl <;> cases hsite.symm.trans hhit
      · rcases hproper with rfl | rfl
        all_goals
          simp only [Event.stand, hsite] at hst
          obtain rfl := Option.some.inj hst
          cases hesc
    · exact absurd hsite hgate
  | @verify env m solves =>
    refine ⟨notByEscalation_of_not_isRequest id _, fun st hst hesc ↦ ?_⟩
    obtain ⟨hold, hsame⟩ := huntouched st hst hesc
    exact ⟨hold, (congrArg (fun b ↦ b.cell ip) (counter_verify cf env ip m solves w).1).trans hsame⟩
  | other hother =>
    refine ⟨notByEscalation_of_not_isRequest id _, fun st hst hesc ↦ ?_⟩
    obtain ⟨hold, hsame⟩ := huntouched st hst hesc
    exact ⟨hold, hother.blocked.trans hsame⟩

/-! ### Over a run of requests -/

/-- The row stays rejected over any run of requests. -/
theorem rejected_requests (hrun : Run (StandingStep cf ip) s₁ es s)
    (hreq : ∀ e ∈ es, e.IsRequest) (h : s₁.1.db.Rejected ip) : s.1.db.Rejected ip := by
  induction hrun with
  | nil => exact h
  | @snoc s s' es e hrun hstep ih =>
    have hs := ih fun e' he' ↦ hreq e' (List.mem_append_left _ he')
    have he : e.IsRequest := hreq e (by simp)
    rcases s with ⟨w, o⟩
    rcases s' with ⟨w', o'⟩
    replace hstep : ClientStep cf ip w e w' := hstep.1
    cases hstep with
    | @request env req hip =>
      subst hip
      exact rejected_request cf env hs
    | verify => exact he.elim
    | other => exact he.elim

/-- A run below the threshold has no block on account of escalation. -/
theorem notByEscalation_run {pre post : List Event} (hbacked : Backed cf ip pre s₁)
    (hrun : Run (fun s e s' ↦ StandingStep cf ip s e s' ∧ BelowThreshold cf s e) s₁ post s)
    (hdead : (∃ st ∈ s₁.2, st.site = .escalation) →
      ∀ env req h, .request env req h ∈ post → s₁.1.redis.blocked.get env.now ip = none) :
    Run (fun s e s' ↦ StandingStep cf ip s e s' ∧ NotByEscalation s e) s₁ post s ∧
      Backed cf ip (pre ++ post) s ∧ EntryUntouched ip s₁ s := by
  induction hrun with
  | nil =>
    rw [List.append_nil]
    exact ⟨.nil, hbacked, fun st hst hesc ↦ ⟨⟨st, hst, hesc⟩, rfl⟩⟩
  | @snoc s s' es e hrun hstep ih =>
    obtain ⟨hrun', hb, huntouched⟩ := ih fun hold env req h hmem ↦
      hdead hold env req h (List.mem_append_left _ hmem)
    obtain ⟨hnot, huntouched'⟩ := notByEscalation_step hstep.1 hstep.2 hb huntouched
      fun hold env req h he ↦ hdead hold env req h (by simp [he])
    refine ⟨.snoc hrun' ⟨hstep.1, hnot⟩, ?_, huntouched'⟩
    rw [← List.append_assoc]
    exact backed_step hb hstep.1

/-- **How far an operator's rejection carries.** From a state a deployment reaches in which the auto
rule of the address is rejected, and in which an entry left by an escalation, if there is one, has
run out: the row stays rejected over every run of requests, and the run is free of blocks on account
of escalation exactly when none of its requests would be challenged with the counter at the
threshold. -/
theorem rejected_run {db : Db} {pre post : List Event}
    (hpre : Run (StandingStep cf ip) (World.start db, none) pre s₁)
    (hrejected : s₁.1.db.Rejected ip)
    (hdead : (∃ st ∈ s₁.2, st.site = .escalation) →
      ∀ env req h, .request env req h ∈ post → s₁.1.redis.blocked.get env.now ip = none)
    (hpost : Run (StandingStep cf ip) s₁ post s) (hreq : ∀ e ∈ post, e.IsRequest) :
    s.1.db.Rejected ip ∧
      (Run (fun s e s' ↦ StandingStep cf ip s e s' ∧ NotByEscalation s e) s₁ post s ↔
        Run (fun s e s' ↦ StandingStep cf ip s e s' ∧ BelowThreshold cf s e) s₁ post s) := by
  have hbacked : Backed cf ip pre s₁ :=
    Run.invariant (backed_nil rfl) (fun _ h hstep ↦ backed_step h hstep) hpre
  refine ⟨rejected_requests hpost hreq hrejected, fun hrun ↦ ?_, fun hrun ↦ ?_⟩
  · exact hrun.imp fun hstep ↦ ⟨hstep.1, belowThreshold_of_notByEscalation cf hstep.1 hstep.2⟩
  · exact (notByEscalation_run hbacked hrun hdead).1

/-! #### Two runs

An address a rule challenges, whose auto rule an operator has rejected. -/

/-- The rejected auto rule of the address. -/
def rejectedRow : BlockRule where
  ruleType := .ip
  matchType := .exact
  pattern := "192.0.2.1"
  id := 8
  name := "Auto: escalated from repeated challenges (192.0.2.1)"
  action := .block
  priority := 100
  isActive := false
  source := .auto
  expiresAt := some 3600
  reviewStatus := .rejected
  reviewedAt := some 0
  detectors := "challenge_escalation"
  createdAt := 0

/-- The tables of the two runs. -/
def rejectedDb : Db := ⟨[challengeRule, rejectedRow], []⟩

theorem rejected_rejectedDb : rejectedDb.Rejected "192.0.2.1" :=
  ⟨rejectedRow, by decide, rfl, rfl⟩

/-- The first request is challenged and not blocked. -/
theorem rejected_run_first_request : ∃ post s,
    Run (fun s e s' ↦ StandingStep twoChallenges "192.0.2.1" s e s' ∧ NotByEscalation s e)
      (World.start rejectedDb, none) post s ∧ post.length = 1 := by
  have hstep := StandingStep.request twoChallenges (Env.plain 0) headlessRequest
    (World.start rejectedDb) none
  refine ⟨_, _, (rejected_run .nil rejected_rejectedDb (fun ⟨_, hst, _⟩ ↦ nomatch hst)
    (.snoc .nil hstep) (by simp [Event.IsRequest])).2.2 (.snoc .nil ⟨hstep, ?_⟩), rfl⟩
  intro env req h he _ fp _
  obtain ⟨rfl, rfl, rfl⟩ := Event.request.inj he
  show 0 < 2
  omega

/-- **A rejected rule does not stop the gate.** After two redirects, the third request of the
address is answered `BLOCKED` by escalation, with its auto rule rejected and no active rule that
blocks it. -/
theorem rejected_escalates : rejectedDb.Rejected "192.0.2.1" ∧
    (∀ r ∈ rejectedDb.blockRules, r.isActive = true → r.action ≠ .block) ∧
    ∃ post s, Run (StandingStep twoChallenges "192.0.2.1") (World.start rejectedDb, none) post s ∧
      (∀ e ∈ post, e.IsRequest) ∧
      ∃ env req h, Event.request env req h ∈ post ∧ h.blockSite = some .escalation ∧
        h.response = .forbidden := by
  refine ⟨rejected_rejectedDb, by decide, _, _, .snoc (.snoc (.snoc .nil
    (StandingStep.request twoChallenges (Env.plain 0) headlessRequest _ _))
    (StandingStep.request twoChallenges (Env.plain 10) headlessRequest _ _))
    (StandingStep.request twoChallenges (Env.plain 20) headlessRequest _ _), ?_, ?_⟩
  · simp [Event.IsRequest]
  · refine ⟨Env.plain 20, headlessRequest, _, List.mem_append_right _ (List.mem_singleton.2 rfl),
      ?_, ?_⟩
    · decide +kernel
    · decide +kernel

end DjangoWaf
