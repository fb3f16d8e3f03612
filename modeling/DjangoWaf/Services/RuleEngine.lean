import DjangoWaf.Services.AutoRules
import DjangoWaf.Services.Fingerprint
import DjangoWaf.Services.RuleMatching

/-!
# Evaluating a request

`evaluate_request` of `services/rule_engine.py`, with the escalation gate and the blocked-IP
entries.

The three places that can challenge a request hand their verdict to the gate before returning it.
`evaluateSteps` takes that gate as an argument, so that one definition serves the code, whose gate
is `gateChallengeOrEscalate`, and the question the escalation rules turn on, **what evaluation would
have answered** (`ungated`, whose gate changes nothing). `evaluateSteps_eq` relates the two:
evaluation is the ungated answer, with the gate applied to it when it is a challenge.

An answer carries the return statement it came from (`Site`). No code reads it; it is how the
theorems tell a block by a rule from a block by the fast path or by escalation.
-/

namespace DjangoWaf

/-- `EvaluationResult.matched_rule_type`. -/
inductive MatchedRuleType
  | none
  | allow
  | block
  deriving DecidableEq, Repr

/-- `EvaluationResult`. -/
structure EvaluationResult where
  verdict : Verdict
  action : Option RuleAction
  matchedRuleId : Option Uuid
  matchedRuleType : MatchedRuleType
  anomalyScore : Option ℚ
  retryAfter : Option ℤ
  window : Option WindowName
  deriving DecidableEq

/-- A result no rule matched for. -/
def EvaluationResult.unmatched (verdict : Verdict) (action : Option RuleAction)
    (anomalyScore : Option ℚ) : EvaluationResult :=
  ⟨verdict, action, none, .none, anomalyScore, none, none⟩

/-- The return statement an answer came from. -/
inductive Site
  | allowRule
  | blockedIp
  | blockRule
  | rateLimit
  | noReferer
  | score
  | clean
  | escalation
  deriving DecidableEq, Repr

/-- An answer of `evaluate_request`. -/
structure Evaluated where
  result : EvaluationResult
  site : Site
  deriving DecidableEq

/-- The arguments of `evaluate_request` that describe the request. -/
structure Query where
  ipAddress : String
  userAgent : String
  path : String
  method : String
  referer : String
  requestMeta : Meta

variable (cf : Conf) (env : Env)

/-! ### Blocked entries -/

/-- `record_block_verdict`. -/
def recordBlockVerdict (now : ℚ) (ipAddress : String) (ttl : ℕ) (ruleId : Option Uuid)
    (redis : Redis) : Redis :=
  { redis with
    blocked := redis.blocked.setex now ipAddress ttl
      (match ruleId with | some id => .rule id | none => .sentinel)
    statsBlocked := redis.statsBlocked + 1 }

/-- The blocked-IP fast path: a live entry blocks, and a hit is counted for the rule it names. -/
def checkBlockedIp (ipAddress : String) (redis : Redis) : Option (Evaluated × Redis) :=
  (redis.blocked.get env.now ipAddress).map fun value ↦
    match value with
    | .rule id =>
      (⟨⟨.blocked, some .block, some id, .block, none, none, none⟩, .blockedIp⟩,
        recordRuleHit env.now id redis)
    | .sentinel | .malformed => (⟨.unmatched .blocked (some .block) none, .blockedIp⟩, redis)

/-! ### The escalation gate -/

/-- `_get_unsolved_challenge_count`. For anything but a bot, a solve clears the counter. -/
def getUnsolvedChallengeCount (ipAddress : String) (fingerprint : FingerprintVerdict)
    (redis : Redis) : ℕ × Redis :=
  match redis.challenged.get env.now ipAddress with
  | none => (0, redis)
  | some count =>
    if fingerprint = .bot then (count, redis)
    else if (redis.solved.get env.now ipAddress).isSome then
      (0, { redis with challenged := redis.challenged.delete ipAddress })
    else (count, redis)

/-- The write `_create_escalation_rule` asks for. -/
def escalationWrite (ipAddress : String) : AutoRuleWrite where
  ruleType := .ip
  matchType := .exact
  pattern := ipAddress
  name := "Auto: escalated from repeated challenges (" ++ ipAddress ++ ")"
  action := .block
  expiry := env.now + cf.escalationBlockTtl
  detectorName := "challenge_escalation"

/-- `_create_escalation_rule`: the rule, when the database accepts it. -/
def createEscalationRule (ipAddress : String) (w : World) : Option BlockRule × World :=
  if env.ruleWrite then
    let (rule, w') := getOrCreateAutoRule cf env (escalationWrite cf env ipAddress) w
    (some rule, w')
  else (none, w)

/-- `_gate_challenge_or_escalate`. -/
def gateChallengeOrEscalate (ipAddress : String) (fingerprint : FingerprintVerdict) (e : Evaluated)
    (w : World) : Evaluated × World :=
  let (count, redis) := getUnsolvedChallengeCount env ipAddress fingerprint w.redis
  let w₁ := w.withRedis redis
  if count < cf.challengeEscalationThreshold then (e, w₁)
  else
    let (rule, w₂) := createEscalationRule cf env ipAddress w₁
    -- only the rule's identifier is used: an inactive or rejected row blocks like any other
    (⟨.unmatched .blocked (some .block) none, .escalation⟩,
      w₂.withRedis (recordBlockVerdict env.now ipAddress cf.escalationBlockTtl
        (rule.map BlockRule.id) w₂.redis))

/-! ### The evaluation order -/

/-- Step 8: a request without a referer to a path that needs one. -/
def missesReferer (q : Query) : Bool :=
  cf.challengeNoReferer && q.referer = "" &&
    !cf.noRefererExemptPaths.any fun p ↦ PyStr.startsWith q.path p

/-- Steps 9 to 11: the score of the path, of the headers and of the user agent. -/
def totalScore (q : Query) (redis : Redis) : Except PyError ℚ :=
  match scorePath cf q.path with
  | .error x => .error x
  | .ok pathScore =>
    let fpScore : Except PyError ℚ :=
      if q.requestMeta = [] ∨
          isKnownFingerprint redis env.now (computeFingerprint cf q.requestMeta) = true then .ok 0
      else scoreFingerprintMismatch q.userAgent q.requestMeta
    -- the user agent is scored from the eleventh request in five minutes on
    let uaScore : ℚ :=
      if 10 < getRequestCount q.ipAddress redis.rate env.now .min5 then scoreUserAgent q.userAgent
      else 0
    fpScore.map fun fp ↦ uaScore + pathScore + fp

/-- Steps 7 to 11, which a request reaches when no rule and no blocked entry answered for it. -/
def evaluateUnmatched (gate : Evaluated → World → Evaluated × World) (q : Query) (w : World) :
    Except PyError Evaluated × World :=
  let (rate, store) := checkRateLimit cf.toRateLimitConf env.drop q.ipAddress w.redis.rate env.now
    q.path q.method
  let w₁ := w.withRedis { w.redis with rate := store }
  if rate.exceeded then
    (.ok ⟨⟨.throttled, some .throttle, none, .none, none, rate.retryAfter, rate.window⟩,
      .rateLimit⟩, w₁)
  else if missesReferer cf q then
    let (e, w₂) := gate ⟨.unmatched .challenged (some .challenge) none, .noReferer⟩ w₁
    (.ok e, w₂)
  else
    match totalScore cf env q w₁.redis with
    | .error x => (.error x, w₁)
    | .ok total =>
      if 0 < total then
        let (verdict, action) := scoreToVerdict cf total
        let e : Evaluated := ⟨.unmatched verdict action (some total), .score⟩
        if verdict = .challenged then
          let (e', w₂) := gate e w₁
          (.ok e', w₂)
        else (.ok e, w₁)
      else (.ok ⟨.unmatched .allowed none none, .clean⟩, w₁)

/-- Steps 5 and 6, and what follows them when neither answers. -/
def evaluateBlocks (gate : Evaluated → World → Evaluated × World) (q : Query) (cache : RuleCache)
    (w : World) : Except PyError Evaluated × World :=
  match checkBlockedIp env q.ipAddress w.redis with
  | some (e, redis) => (.ok e, w.withRedis redis)
  | none =>
    match checkBlockRules cf env q.ipAddress q.userAgent cache.blockRules w.redis with
    | .error x => (.error x, w)
    | .ok (some (rule, redis)) =>
      let verdict := actionToVerdict rule.action
      let e : Evaluated :=
        ⟨⟨verdict, some rule.action, some rule.id, .block, none, none, none⟩, .blockRule⟩
      if verdict = .challenged then
        let (e', w') := gate e (w.withRedis redis)
        (.ok e', w')
      else (.ok e, w.withRedis redis)
    | .ok none => evaluateUnmatched cf env gate q w

/-- Steps 4 to 11 of `evaluate_request`, with the gate that challenges go through. -/
def evaluateSteps (gate : Evaluated → World → Evaluated × World) (q : Query) (w : World) :
    Except PyError Evaluated × World :=
  match tryLoadRuleCache cf env w with
  | (.error x, w₁) => (.error x, w₁)
  | (.ok cache, w₁) =>
    match checkAllowRules cf env q.ipAddress q.userAgent cache.allowRules w₁.redis with
    | (.error x, redis) => (.error x, w₁.withRedis redis)
    | (.ok (some rule), redis) =>
      (.ok ⟨⟨.passed, none, some rule.id, .allow, none, none, none⟩, .allowRule⟩,
        w₁.withRedis redis)
    | (.ok none, redis) => evaluateBlocks cf env gate q cache (w₁.withRedis redis)

/-- `evaluate_request`. -/
def evaluateRequest (q : Query) (w : World) : Except PyError Evaluated × World :=
  match classifyFingerprint q.userAgent q.requestMeta with
  | .error x => (.error x, w)
  | .ok fingerprint =>
    evaluateSteps cf env (gateChallengeOrEscalate cf env q.ipAddress fingerprint) q w

/-- What evaluation would answer if a challenge were always a challenge. -/
def ungated (q : Query) (w : World) : Except PyError Evaluated × World :=
  evaluateSteps cf env (fun e w ↦ (e, w)) q w

/-- Put an answer through a gate when it is a challenge. -/
def applyGate (gate : Evaluated → World → Evaluated × World) :
    Except PyError Evaluated × World → Except PyError Evaluated × World
  | (.error x, w) => (.error x, w)
  | (.ok e, w) =>
    if e.result.verdict = .challenged then
      let (e', w') := gate e w
      (.ok e', w')
    else (.ok e, w)

/-! ### The gate is applied to the ungated answer -/

theorem evaluateUnmatched_eq (gate : Evaluated → World → Evaluated × World) (q : Query)
    (w : World) :
    evaluateUnmatched cf env gate q w =
      applyGate gate (evaluateUnmatched cf env (fun e w ↦ (e, w)) q w) := by
  rcases hrate : checkRateLimit cf.toRateLimitConf env.drop q.ipAddress w.redis.rate env.now q.path
    q.method with ⟨rate, store⟩
  simp only [evaluateUnmatched, hrate]
  split
  · rfl
  · split
    · rfl
    · split
      · rfl
      · rename_i total _
        split
        · split
          · rename_i hv
            simp only [applyGate, EvaluationResult.unmatched, hv, if_true]
          · rename_i hv
            simp only [applyGate, EvaluationResult.unmatched, hv, if_false]
        · rfl

theorem evaluateBlocks_eq (gate : Evaluated → World → Evaluated × World) (q : Query)
    (cache : RuleCache) (w : World) :
    evaluateBlocks cf env gate q cache w =
      applyGate gate (evaluateBlocks cf env (fun e w ↦ (e, w)) q cache w) := by
  rw [evaluateBlocks, evaluateBlocks]
  rcases hip : checkBlockedIp env q.ipAddress w.redis with - | ⟨e, redis⟩
  · rcases hrule : checkBlockRules cf env q.ipAddress q.userAgent cache.blockRules w.redis with
      x | (- | ⟨rule, redis⟩)
    · rfl
    · exact evaluateUnmatched_eq cf env gate q w
    · by_cases hv : actionToVerdict rule.action = .challenged
      · simp only [applyGate, hv, if_true]
      · simp only [applyGate, hv, if_false]
  · -- the fast path blocks, and no gate is asked about a block
    have hv : e.result.verdict ≠ .challenged := by
      rw [checkBlockedIp, Option.map_eq_some_iff] at hip
      obtain ⟨value, -, he⟩ := hip
      rcases value with - | id | - <;> obtain ⟨rfl, -⟩ := Prod.mk.inj he <;> exact nofun
    simp only [applyGate, hv, if_false]

/-- **Evaluation is the ungated answer with the gate applied to it.** -/
theorem evaluateSteps_eq (gate : Evaluated → World → Evaluated × World) (q : Query) (w : World) :
    evaluateSteps cf env gate q w = applyGate gate (ungated cf env q w) := by
  rcases hload : tryLoadRuleCache cf env w with ⟨x | cache, w₁⟩
  · simp only [evaluateSteps, ungated, hload, applyGate]
  · simp only [evaluateSteps, ungated, hload]
    rcases hallow : checkAllowRules cf env q.ipAddress q.userAgent cache.allowRules w₁.redis with
      ⟨x | (- | rule), redis⟩
    · rfl
    · exact evaluateBlocks_eq cf env gate q cache _
    · rfl

/-- The same, for a request that could be classified. -/
theorem evaluateRequest_of_classified {q : Query} {fingerprint : FingerprintVerdict}
    (h : classifyFingerprint q.userAgent q.requestMeta = .ok fingerprint) (w : World) :
    evaluateRequest cf env q w =
      applyGate (gateChallengeOrEscalate cf env q.ipAddress fingerprint) (ungated cf env q w) := by
  rw [evaluateRequest, h]
  exact evaluateSteps_eq cf env _ q w

/-! ### What the ungated answer leaves alone -/

theorem sameVerdicts_recordRuleHit (id : Uuid) (w : World) :
    w.SameVerdicts (w.withRedis (recordRuleHit env.now id w.redis)) :=
  ⟨rfl, rfl, rfl, rfl, rfl, rfl⟩

theorem sameVerdicts_evaluateUnmatched (q : Query) (w : World) :
    w.SameVerdicts (evaluateUnmatched cf env (fun e w ↦ (e, w)) q w).2 := by
  rcases hrate : checkRateLimit cf.toRateLimitConf env.drop q.ipAddress w.redis.rate env.now q.path
    q.method with ⟨rate, store⟩
  have h : w.SameVerdicts (w.withRedis { w.redis with rate := store }) :=
    ⟨rfl, rfl, rfl, rfl, rfl, rfl⟩
  simp only [evaluateUnmatched, hrate]
  split
  · exact h
  · split
    · exact h
    · split
      · exact h
      · split
        · split <;> exact h
        · exact h

theorem sameVerdicts_evaluateBlocks (q : Query) (cache : RuleCache) (w : World) :
    w.SameVerdicts (evaluateBlocks cf env (fun e w ↦ (e, w)) q cache w).2 := by
  rw [evaluateBlocks]
  rcases hip : checkBlockedIp env q.ipAddress w.redis with - | ⟨e, redis⟩
  · rcases hrule : checkBlockRules cf env q.ipAddress q.userAgent cache.blockRules w.redis with
      x | (- | ⟨rule, redis⟩)
    · exact .refl w
    · exact sameVerdicts_evaluateUnmatched cf env q w
    · obtain rfl := checkBlockRules_redis cf env q.ipAddress q.userAgent hrule
      show w.SameVerdicts (if _ then _ else _ : Except PyError Evaluated × World).2
      split <;> exact sameVerdicts_recordRuleHit env rule.id w
  · rw [checkBlockedIp, Option.map_eq_some_iff] at hip
    obtain ⟨value, -, he⟩ := hip
    rcases value with - | id | - <;> obtain ⟨rfl, rfl⟩ := Prod.mk.inj he
    · exact .refl w
    · exact sameVerdicts_recordRuleHit env id w
    · exact .refl w

/-- **How far an ungated evaluation gets**: the cache is loaded and the allow rules are tried, which
leaves the verdict keys and the hit counters alone, and then it raises, passes the request or goes
on to the blocks. -/
theorem ungated_cases (q : Query) (w : World) :
    ∃ w₁, w.SameVerdicts w₁ ∧ w₁.redis.ruleHits = w.redis.ruleHits ∧
      ((∃ x, ungated cf env q w = (.error x, w₁)) ∨
        (∃ rule : CachedAllowRule, ungated cf env q w =
          (.ok ⟨⟨.passed, none, some rule.id, .allow, none, none, none⟩, .allowRule⟩, w₁)) ∨
        ∃ cache, ungated cf env q w = evaluateBlocks cf env (fun e w ↦ (e, w)) q cache w₁) := by
  have hload := sameVerdicts_tryLoadRuleCache cf env w
  have hhits := ruleHits_tryLoadRuleCache cf env w
  rcases hl : tryLoadRuleCache cf env w with ⟨x | cache, w₁⟩
  · rw [hl] at hload hhits
    exact ⟨w₁, hload, hhits, Or.inl ⟨x, by simp only [ungated, evaluateSteps, hl]⟩⟩
  rw [hl] at hload hhits
  obtain ⟨fcrdns, hframe⟩ :=
    checkAllowRules_frame cf env q.ipAddress q.userAgent cache.allowRules w₁.redis
  rcases hc : checkAllowRules cf env q.ipAddress q.userAgent cache.allowRules w₁.redis with
    ⟨answer, redis⟩
  rw [hc] at hframe
  obtain rfl : redis = { w₁.redis with botFcrdns := fcrdns } := hframe
  refine ⟨w₁.withRedis { w₁.redis with botFcrdns := fcrdns },
    hload.trans ⟨rfl, rfl, rfl, rfl, rfl, rfl⟩, hhits, ?_⟩
  simp only [ungated, evaluateSteps, hl, hc]
  rcases answer with x | (- | rule)
  · exact Or.inl ⟨x, rfl⟩
  · exact Or.inr (Or.inr ⟨cache, rfl⟩)
  · exact Or.inr (Or.inl ⟨rule, rfl⟩)

/-- **Up to the gate, evaluation leaves the verdict keys and the tables alone.** -/
theorem sameVerdicts_ungated (q : Query) (w : World) :
    w.SameVerdicts (ungated cf env q w).2 := by
  obtain ⟨w₁, hsame, -, ⟨x, h⟩ | ⟨rule, h⟩ | ⟨cache, h⟩⟩ := ungated_cases cf env q w
  · rw [h]
    exact hsame
  · rw [h]
    exact hsame
  · rw [h]
    exact hsame.trans (sameVerdicts_evaluateBlocks cf env q cache w₁)

/-! ### Where an answer comes from -/

/-- What an ungated answer says about the blocked entry it found and about its own verdict. -/
def Evaluated.Fits (e : Evaluated) (entry : Option BlockedValue) : Prop :=
  match e.site with
  | .allowRule => e.result.verdict = .passed
  | .blockedIp => entry ≠ none ∧ e.result.verdict = .blocked
  | .blockRule | .score => entry = none
  | .rateLimit => entry = none ∧ e.result.verdict = .throttled
  | .noReferer => entry = none ∧ e.result.verdict = .challenged
  | .clean => entry = none ∧ e.result.verdict = .allowed
  | .escalation => False

theorem evaluateUnmatched_fits {q : Query} {w : World} {e : Evaluated} {entry : Option BlockedValue}
    (hentry : entry = none)
    (h : (evaluateUnmatched cf env (fun e w ↦ (e, w)) q w).1 = .ok e) : e.Fits entry := by
  rcases hrate : checkRateLimit cf.toRateLimitConf env.drop q.ipAddress w.redis.rate env.now q.path
    q.method with ⟨rate, store⟩
  simp only [evaluateUnmatched, hrate] at h
  split at h
  · obtain rfl := Except.ok.inj h
    exact ⟨hentry, rfl⟩
  · split at h
    · obtain rfl := Except.ok.inj h
      exact ⟨hentry, rfl⟩
    · split at h
      · cases h
      · split at h
        · split at h <;> obtain rfl := Except.ok.inj h <;> exact hentry
        · obtain rfl := Except.ok.inj h
          exact ⟨hentry, rfl⟩

/-- **An ungated answer fits the blocked entry the request found**: the fast path answers only from
a live entry, and every later step only without one. -/
theorem ungated_fits {q : Query} {w w₁ : World} {e : Evaluated}
    (h : ungated cf env q w = (.ok e, w₁)) : e.Fits (w.redis.blocked.get env.now q.ipAddress) := by
  obtain ⟨w₂, hsame, -, ⟨x, hun⟩ | ⟨rule, hun⟩ | ⟨cache, hun⟩⟩ := ungated_cases cf env q w
  · rw [hun] at h
    exact absurd (Prod.mk.inj h).1 nofun
  · obtain ⟨he, -⟩ := Prod.mk.inj (hun.symm.trans h)
    obtain rfl := Except.ok.inj he
    rfl
  · replace h : (evaluateBlocks cf env (fun e w ↦ (e, w)) q cache w₂).1 = .ok e :=
      congrArg Prod.fst (hun.symm.trans h)
    rw [evaluateBlocks] at h
    rcases hip : checkBlockedIp env q.ipAddress w₂.redis with - | ⟨e', redis'⟩
    · rw [hip] at h
      have hnone : w.redis.blocked.get env.now q.ipAddress = none := by
        rw [checkBlockedIp, Option.map_eq_none_iff, hsame.blocked] at hip
        exact hip
      rcases hrule : checkBlockRules cf env q.ipAddress q.userAgent cache.blockRules w₂.redis with
        x | (- | ⟨rule, redis'⟩)
      · rw [hrule] at h
        cases h
      · rw [hrule] at h
        exact evaluateUnmatched_fits cf env hnone h
      · rw [hrule] at h
        simp only at h
        split at h <;> obtain rfl := Except.ok.inj h <;> exact hnone
    · rw [hip] at h
      obtain rfl := Except.ok.inj h
      rw [checkBlockedIp, Option.map_eq_some_iff, hsame.blocked] at hip
      obtain ⟨value, hv, he⟩ := hip
      rw [hv]
      rcases value with - | id | - <;> obtain ⟨rfl, -⟩ := Prod.mk.inj he <;> exact ⟨nofun, rfl⟩

/-! ### What the gate does -/

/-- The count the gate compares with the threshold: the live counter, which a live solve hides from
it unless the client is a bot. -/
def unsolvedCount (ipAddress : String) (fingerprint : FingerprintVerdict) (redis : Redis) : ℕ :=
  (getUnsolvedChallengeCount env ipAddress fingerprint redis).1

/-- Reading the count clears the counter or leaves it. -/
theorem getUnsolvedChallengeCount_cases (ipAddress : String) (fingerprint : FingerprintVerdict)
    (redis : Redis) :
    ((getUnsolvedChallengeCount env ipAddress fingerprint redis).2 = redis ∧
        unsolvedCount env ipAddress fingerprint redis =
          (redis.challenged.get env.now ipAddress).getD 0) ∨
      ((getUnsolvedChallengeCount env ipAddress fingerprint redis).2 =
          { redis with challenged := redis.challenged.delete ipAddress } ∧
        unsolvedCount env ipAddress fingerprint redis = 0 ∧
        (redis.solved.get env.now ipAddress).isSome ∧ fingerprint ≠ .bot) := by
  rw [unsolvedCount, getUnsolvedChallengeCount]
  split
  · rename_i hnone
    exact Or.inl ⟨rfl, by rw [hnone]; rfl⟩
  · rename_i count hsome
    split
    · exact Or.inl ⟨rfl, by rw [hsome]; rfl⟩
    · rename_i hbot
      split
      · rename_i hsolved
        exact Or.inr ⟨rfl, rfl, hsolved, hbot⟩
      · exact Or.inl ⟨rfl, by rw [hsome]; rfl⟩

/-- The answer of the gate when it escalates. -/
def escalated : Evaluated := ⟨.unmatched .blocked (some .block) none, .escalation⟩

/-- **What the gate does**: below the threshold it returns the challenge; from the threshold on it
writes the escalation rule, if the database lets it, and a blocked entry under the rule's identifier
and for the escalation's own lifetime. -/
theorem gateChallengeOrEscalate_cases (ipAddress : String) (fingerprint : FingerprintVerdict)
    (e : Evaluated) (w : World) :
    (unsolvedCount env ipAddress fingerprint w.redis < cf.challengeEscalationThreshold ∧
        gateChallengeOrEscalate cf env ipAddress fingerprint e w =
          (e, w.withRedis (getUnsolvedChallengeCount env ipAddress fingerprint w.redis).2)) ∨
      (cf.challengeEscalationThreshold ≤ unsolvedCount env ipAddress fingerprint w.redis ∧
        ∃ rule w', (rule, w') = createEscalationRule cf env ipAddress
            (w.withRedis (getUnsolvedChallengeCount env ipAddress fingerprint w.redis).2) ∧
          gateChallengeOrEscalate cf env ipAddress fingerprint e w =
            (escalated, w'.withRedis (recordBlockVerdict env.now ipAddress cf.escalationBlockTtl
              (rule.map BlockRule.id) w'.redis))) := by
  rw [gateChallengeOrEscalate, unsolvedCount]
  rcases hcount : getUnsolvedChallengeCount env ipAddress fingerprint w.redis with ⟨count, redis⟩
  by_cases hlt : count < cf.challengeEscalationThreshold
  · exact Or.inl ⟨hlt, by simp only [hlt, if_true]⟩
  · rcases hrule : createEscalationRule cf env ipAddress (w.withRedis redis) with ⟨rule, w'⟩
    exact Or.inr ⟨not_lt.1 hlt, rule, w', rfl, by simp only [hlt, if_false, hrule, escalated]⟩

/-- Writing the escalation rule changes the rule-cache keys and the block rules only, and yields a
rule exactly when the database accepts it. -/
theorem createEscalationRule_frame (ipAddress : String) (w : World) :
    (createEscalationRule cf env ipAddress w).1.isSome = env.ruleWrite ∧
      ∃ k rules, (createEscalationRule cf env ipAddress w).2 =
        { w.withBlockRules rules with redis := { w.redis with rules := k } } := by
  rw [createEscalationRule]
  split
  · rename_i hwrite
    exact ⟨hwrite.symm, getOrCreateAutoRule_frame cf env (escalationWrite cf env ipAddress) w⟩
  · rename_i hwrite
    rw [Bool.not_eq_true] at hwrite
    exact ⟨hwrite.symm, w.redis.rules, w.db.blockRules, rfl⟩

end DjangoWaf
