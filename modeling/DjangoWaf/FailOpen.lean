import DjangoWaf.Middleware
import Mathlib.Data.List.TakeWhile

/-!
# When evaluation fails open

The middleware passes a request through unchecked when `evaluate_request` raises. Every helper on
the way catches what it expects, and this module says which inputs get past all of them: **exactly**
the user agents whose Chrome version is too long for `int`, the lookups of allow rules that the name
service answers with an exception that is not an `OSError`, and the patterns of rules and settings
on which `re` raises something other than `re.error`, where the request gets as far as them
(`returns_iff`).

The rest of the request, of the rules and of the state plays no part: patterns that `re` refuses
with `re.error` or `ipaddress` with `ValueError` do not match, and a corrupt JSON cache is rebuilt.
-/

namespace DjangoWaf

variable (cf : Conf) (env : Env)

/-- The request gets as far as the block rules: no allow rule passes it, and its address has no live
blocked entry. -/
def ReachesBlocks (q : Query) (w : World) : Prop :=
  (checkAllowRules cf env q.ipAddress q.userAgent (loadRuleCache env w).1.allowRules
      (loadRuleCache env w).2.redis).1 = .ok none ∧
    w.redis.blocked.get env.now q.ipAddress = none

/-- The request gets as far as the scores: no block rule answers for it either, it is within its
rate limits, and it has the referer it needs. -/
def ReachesScores (q : Query) (w : World) : Prop :=
  ReachesBlocks cf env q w ∧
    (∀ rule ∈ (loadRuleCache env w).1.blockRules, isExpired rule.expiresAt env.now = true ∨
      rule.toCriterion.endsSearch cf q.ipAddress q.userAgent = false) ∧
    (checkRateLimit cf.toRateLimitConf env.drop q.ipAddress w.redis.rate env.now q.path
      q.method).1.exceeded = false ∧
    missesReferer cf q = false

/-- **What a query needs for its evaluation to return**: a Chrome version that `int` converts, rules
whose compilation does not raise, no allow rule that raises, and, where the request gets as far as
them, no block rule and no pattern for paths that raises. -/
structure EvaluationReturns (q : Query) (w : World) : Prop where
  digits : ChromeDigitsFit q.userAgent
  load : loadRaises cf env w = false
  allow : ¬AllowRaises cf env q.ipAddress q.userAgent (loadRuleCache env w).1.allowRules
    (loadRuleCache env w).2.redis
  block : ReachesBlocks cf env q w →
    ¬BlockRaises cf env q.ipAddress q.userAgent (loadRuleCache env w).1.blockRules
  score : ReachesScores cf env q w → ¬ScoreRaises cf q.path cf.suspiciousPathPatterns 0

/-- A gate neither raises nor swallows an exception. -/
theorem applyGate_ok_iff (gate : Evaluated → World → Evaluated × World)
    (x : Except PyError Evaluated × World) :
    (∃ e, (applyGate gate x).1 = .ok e) ↔ ∃ e, x.1 = .ok e := by
  rcases x with ⟨err | e, w⟩
  · exact iff_of_false (by simp [applyGate]) (by simp)
  · rw [applyGate]
    refine ⟨fun _ ↦ ⟨e, rfl⟩, fun _ ↦ ?_⟩
    split <;> exact ⟨_, rfl⟩

/-- The scores of a classified user agent exist unless a pattern for paths raises. -/
theorem totalScore_ok_iff {q : Query} (redis : Redis) (h : ChromeDigitsFit q.userAgent) :
    (∃ total, totalScore cf env q redis = .ok total) ↔
      ¬ScoreRaises cf q.path cf.suspiciousPathPatterns 0 := by
  have hfp : ∃ fp, (if q.requestMeta = [] ∨
      isKnownFingerprint redis env.now (computeFingerprint cf q.requestMeta) = true then
        (.ok 0 : Except PyError ℚ)
      else scoreFingerprintMismatch q.userAgent q.requestMeta) = .ok fp := by
    split
    · exact ⟨0, rfl⟩
    · rcases scoreFingerprintMismatch_cases q.userAgent q.requestMeta with ⟨-, hs⟩ | ⟨hn, -⟩
      · exact hs
      · exact absurd h hn
  obtain ⟨fp, hfp⟩ := hfp
  rw [← scorePath_error_iff]
  rcases hpath : scorePath cf q.path with x | score
  · exact iff_of_false (by simp [totalScore, hpath]) fun hno ↦ hno ⟨x, rfl⟩
  · refine iff_of_true ?_ (by simp)
    simp only [totalScore, hpath, hfp]
    exact ⟨_, rfl⟩

theorem evaluateUnmatched_ok_iff {q : Query} (w : World) (h : ChromeDigitsFit q.userAgent) :
    (∃ e, (evaluateUnmatched cf env (fun e w ↦ (e, w)) q w).1 = .ok e) ↔
      ((checkRateLimit cf.toRateLimitConf env.drop q.ipAddress w.redis.rate env.now q.path
          q.method).1.exceeded = false → missesReferer cf q = false →
        ¬ScoreRaises cf q.path cf.suspiciousPathPatterns 0) := by
  rcases hrate : checkRateLimit cf.toRateLimitConf env.drop q.ipAddress w.redis.rate env.now q.path
    q.method with ⟨rate, store⟩
  have hscore := totalScore_ok_iff cf env (w.withRedis { w.redis with rate := store }).redis h
  simp only [evaluateUnmatched, hrate]
  split
  · rename_i hexceeded
    exact iff_of_true ⟨_, rfl⟩ fun hno ↦ absurd hexceeded (by simp [hno])
  · rename_i hexceeded
    split
    · rename_i hmiss
      exact iff_of_true ⟨_, rfl⟩ fun _ hno ↦ absurd hmiss (by simp [hno])
    · rename_i hmiss
      rw [← hscore]
      split
      · rename_i x htotal
        refine iff_of_false (by simp) fun hok ↦ ?_
        obtain ⟨total, hno⟩ := hok (by simpa using hexceeded) (by simpa using hmiss)
        rw [hno] at htotal
        cases htotal
      · rename_i total htotal
        refine iff_of_true ?_ fun _ _ ↦ ⟨total, htotal⟩
        split
        · split <;> exact ⟨_, rfl⟩
        · exact ⟨_, rfl⟩

/-- Past the allow rules, a block rule or a score can raise. -/
theorem evaluateBlocks_ok_iff {q : Query} (cache : RuleCache) (w : World)
    (h : ChromeDigitsFit q.userAgent) :
    (∃ e, (evaluateBlocks cf env (fun e w ↦ (e, w)) q cache w).1 = .ok e) ↔
      (w.redis.blocked.get env.now q.ipAddress = none →
        ¬BlockRaises cf env q.ipAddress q.userAgent cache.blockRules) ∧
      (w.redis.blocked.get env.now q.ipAddress = none →
        (∀ rule ∈ cache.blockRules, isExpired rule.expiresAt env.now = true ∨
          rule.toCriterion.endsSearch cf q.ipAddress q.userAgent = false) →
        (checkRateLimit cf.toRateLimitConf env.drop q.ipAddress w.redis.rate env.now q.path
          q.method).1.exceeded = false → missesReferer cf q = false →
        ¬ScoreRaises cf q.path cf.suspiciousPathPatterns 0) := by
  have hnone : (∀ rule ∈ cache.blockRules, isExpired rule.expiresAt env.now = true ∨
      rule.toCriterion.endsSearch cf q.ipAddress q.userAgent = false) ↔
      (cache.blockRules.find? fun rule ↦ !isExpired rule.expiresAt env.now &&
        rule.toCriterion.endsSearch cf q.ipAddress q.userAgent) = none := by
    simp [Decidable.imp_iff_not_or]
  rw [evaluateBlocks, hnone, ← checkBlockRules_error_iff cf env _ _ _ w.redis, checkBlockRules_eq]
  rcases hip : w.redis.blocked.get env.now q.ipAddress with - | value
  · simp only [checkBlockedIp, hip, Option.map_none, forall_const]
    rcases cache.blockRules.find? _ with - | rule
    · simp [evaluateUnmatched_ok_iff cf env w h]
    · rcases hraises : rule.toCriterion.raises cf with - | -
      · by_cases hv : actionToVerdict rule.action = .challenged <;> simp [hraises, hv]
      · simp [hraises]
  · exact iff_of_true (by simp [checkBlockedIp, hip]) (by simp)

/-- Past the classification, what raises is the load, a rule or a score. -/
theorem ungated_ok_iff {q : Query} (w : World) (h : ChromeDigitsFit q.userAgent) :
    (∃ e, (ungated cf env q w).1 = .ok e) ↔ EvaluationReturns cf env q w := by
  have hallow := checkAllowRules_error_iff cf env q.ipAddress q.userAgent
    (loadRuleCache env w).1.allowRules (loadRuleCache env w).2.redis
  have hsame := sameVerdicts_loadRuleCache env w
  have hrate := rate_loadRuleCache env w
  rcases hload : loadRaises cf env w with - | -
  · obtain ⟨fcrdns, hframe⟩ := checkAllowRules_frame cf env q.ipAddress q.userAgent
      (loadRuleCache env w).1.allowRules (loadRuleCache env w).2.redis
    rcases hc : checkAllowRules cf env q.ipAddress q.userAgent (loadRuleCache env w).1.allowRules
      (loadRuleCache env w).2.redis with ⟨x | (- | rule), redis⟩
    · rw [hc] at hallow
      refine iff_of_false ?_ fun hr ↦ hr.allow (hallow.1 ⟨x, rfl⟩)
      simp [ungated, evaluateSteps, tryLoadRuleCache_eq, hload, hc]
    · rw [hc] at hallow hframe
      obtain rfl : redis = { (loadRuleCache env w).2.redis with botFcrdns := fcrdns } := hframe
      have hno : ¬AllowRaises cf env q.ipAddress q.userAgent (loadRuleCache env w).1.allowRules
          (loadRuleCache env w).2.redis := fun hfails ↦ by
        obtain ⟨x, hx⟩ := hallow.2 hfails
        cases hx
      have hblocks := evaluateBlocks_ok_iff cf env (loadRuleCache env w).1
        ((loadRuleCache env w).2.withRedis
          { (loadRuleCache env w).2.redis with botFcrdns := fcrdns }) h
      have hun : ungated cf env q w = evaluateBlocks cf env (fun e w ↦ (e, w)) q
          (loadRuleCache env w).1 ((loadRuleCache env w).2.withRedis
            { (loadRuleCache env w).2.redis with botFcrdns := fcrdns }) := by
        simp [ungated, evaluateSteps, tryLoadRuleCache_eq, hload, hc]
      rw [hun, hblocks]
      simp only [World.withRedis, hsame.blocked, hrate]
      refine ⟨fun hok ↦ ⟨h, hload, hno, fun hr ↦ hok.1 hr.2, ?_⟩, fun hr ↦ ⟨fun hentry ↦ ?_, ?_⟩⟩
      · exact fun hr ↦ hok.2 hr.1.2 hr.2.1 hr.2.2.1 hr.2.2.2
      · exact hr.block ⟨by rw [hc], hentry⟩
      · exact fun hentry hrules hlimit hreferer ↦
          hr.score ⟨⟨by rw [hc], hentry⟩, hrules, hlimit, hreferer⟩
    · rw [hc] at hallow
      refine iff_of_true ?_ ⟨h, hload, fun hfails ↦ ?_, fun hr ↦ ?_, fun hr ↦ ?_⟩
      · simp [ungated, evaluateSteps, tryLoadRuleCache_eq, hload, hc]
      · obtain ⟨x, hx⟩ := hallow.2 hfails
        cases hx
      · exact absurd hr.1 (by rw [hc]; simp)
      · exact absurd hr.1.1 (by rw [hc]; simp)
  · refine iff_of_false ?_ fun hr ↦ absurd hr.load (by simp [hload])
    simp [ungated, evaluateSteps, tryLoadRuleCache_eq, hload]

theorem evaluateRequest_ok_iff (q : Query) (w : World) :
    (∃ e, (evaluateRequest cf env q w).1 = .ok e) ↔ EvaluationReturns cf env q w := by
  by_cases hfit : ChromeDigitsFit q.userAgent
  · obtain ⟨fingerprint, hfp⟩ := classifyFingerprint_of_fit q.requestMeta hfit
    rw [evaluateRequest_of_classified cf env hfp, applyGate_ok_iff, ungated_ok_iff cf env w hfit]
  · rw [evaluateRequest, classifyFingerprint_of_not_fit q.requestMeta hfit]
    exact iff_of_false (by simp) fun h ↦ hfit h.digits

/-- **When evaluation returns, and when the middleware fails open.** For every request, every state
and every environment, evaluation returns exactly when the Chrome version can be converted and
nothing the request gets as far as raises; and the middleware takes its fail-open branch exactly for
the requests that reach evaluation otherwise. -/
theorem returns_iff (cf : Conf) (env : Env) (w : World) :
    (∀ q : Query, (∃ e, (evaluateRequest cf env q w).1 = .ok e) ↔ EvaluationReturns cf env q w) ∧
      ∀ req : Request, (∃ x, (WafMiddleware.call cf env req w).1.evaluated = some (.error x)) ↔
        req.stoppedEarly cf = none ∧ ¬EvaluationReturns cf env req.query w := by
  refine ⟨fun q ↦ evaluateRequest_ok_iff cf env q w, fun req ↦ ?_⟩
  rw [← evaluateRequest_ok_iff, WafMiddleware.call]
  rcases hstop : req.stoppedEarly cf with - | response
  · rcases hev : evaluateRequest cf env req.query w with ⟨x | e, w'⟩
    · exact iff_of_true ⟨x, rfl⟩ ⟨rfl, by simp⟩
    · exact iff_of_false (by simp) fun h ↦ h.2 ⟨e, rfl⟩
  · exact iff_of_false (by simp) (by simp)

/-! ### A request that is not checked -/

/-- A user agent that claims a version of Chrome and nothing else. -/
def chromeClaim (digits : List Char) : String :=
  String.ofList (['C', 'h', 'r', 'o', 'm', 'e', '/'] ++ digits)

theorem chromeVersion_chromeClaim {digits : List Char} (hne : digits ≠ [])
    (hdigits : ∀ c ∈ digits, PyStr.isDigit c = true) :
    chromeVersion (chromeClaim digits) = some digits := by
  have hchars : "Chrome/".toList = ['C', 'h', 'r', 'o', 'm', 'e', '/'] := by decide
  have hlit : PyStr.literal "Chrome/" (['C', 'h', 'r', 'o', 'm', 'e', '/'] ++ digits) =
      some digits := by
    rw [PyStr.literal, hchars]
    rfl
  rw [chromeVersion, chromeClaim, String.toList_ofList, PyStr.search, List.cons_append, List.tails,
    List.findSome?_cons, ← List.cons_append, hlit, Option.bind_some,
    List.takeWhile_eq_self_iff.2 hdigits, if_neg hne]

/-- A claim of more digits than `int` converts. -/
theorem not_fit_chromeClaim {digits : List Char} (hlen : 4300 < digits.length)
    (hdigits : ∀ c ∈ digits, PyStr.isDigit c = true) : ¬ChromeDigitsFit (chromeClaim digits) := by
  have hne : digits ≠ [] := by
    rintro rfl
    simp at hlen
  intro h
  have hle := h digits (chromeVersion_chromeClaim hne hdigits)
  omega

/-- **One header turns the firewall off.** With default settings and no rules at all, the user agent
that claims a Chrome version of 4301 digits makes evaluation raise, and the request is passed on. -/
theorem failsOpen_chromeClaim :
    (evaluateRequest plainConf (Env.plain 0)
        (plainRequest (chromeClaim (List.replicate 4301 '1'))).query (World.start ⟨[], []⟩)).1 =
      .error .valueError ∧
    (WafMiddleware.call plainConf (Env.plain 0)
        (plainRequest (chromeClaim (List.replicate 4301 '1'))) (World.start ⟨[], []⟩)).1.evaluated =
      some (.error .valueError) := by
  have hfit : ¬ChromeDigitsFit (chromeClaim (List.replicate 4301 '1')) :=
    not_fit_chromeClaim (by rw [List.length_replicate]; omega)
      fun c hc ↦ List.eq_of_mem_replicate hc ▸ rfl
  generalize hua : chromeClaim (List.replicate 4301 '1') = ua at hfit
  have huser : (plainRequest ua).query.userAgent = ua := rfl
  have heval : evaluateRequest plainConf (Env.plain 0) (plainRequest ua).query
      (World.start ⟨[], []⟩) = (.error .valueError, World.start ⟨[], []⟩) := by
    rw [evaluateRequest, huser, classifyFingerprint_of_not_fit _ hfit]
  refine ⟨by rw [heval], ?_⟩
  rw [WafMiddleware.call, stoppedEarly_plainRequest, heval]

end DjangoWaf
