import DjangoWaf.Services.RuleEngine

/-!
# The middleware

`WafMiddleware.__call__` and `_handle_verdict` of `middleware.py`, and the part of `VerifyView.post`
that follows a submitted solution.

A request carries the client's own data and the answers of the gates in front of evaluation: the
address `resolve_client_ip` returns, whether the host is exempt, whether the site-password gate or
the country block answers, whether the user is staff, whether the pass cookie is valid, and where
the challenge pages are routed. `WafMiddleware.call` says which response is given, and what
evaluation answered when it was reached. An evaluation that raised is the **fail-open** branch.

`_handle_verdict` writes a blocked entry for *every* blocked verdict, the fast path's included, with
the default lifetime and under the identifier the result carries. What that does to the entry that
was there is the subject of the modules about blocked entries.

Response bodies, signals and the request log have no influence on later requests and are left out.
-/

namespace DjangoWaf

/-- A request as the middleware sees it. -/
structure Request where
  /-- `resolve_client_ip(request)`, empty when unavailable. -/
  ipAddress : String
  path : String
  method : String
  requestMeta : Meta
  /-- `_is_exempt_host`. -/
  exemptHost : Bool
  /-- `_check_site_password` answers the request itself. -/
  sitePassword : Bool
  /-- `_check_country_block` answers the request itself. -/
  countryBlocked : Bool
  /-- `_is_staff_user`. -/
  isStaff : Bool
  /-- The `waf_pass` cookie is there and valid for the address. -/
  passCookie : Bool
  /-- `_get_challenge_paths`, or nothing when the pages are not routed. -/
  routes : Option (String × String)

/-- The arguments the middleware calls `evaluate_request` with. -/
def Request.query (req : Request) : Query where
  ipAddress := req.ipAddress
  userAgent := req.requestMeta.get "HTTP_USER_AGENT"
  path := req.path
  method := req.method
  referer := req.requestMeta.get "HTTP_REFERER"
  requestMeta := req.requestMeta

/-- What the client gets. -/
inductive Response
  /-- The view's own response. -/
  | view
  /-- The site-password prompt. -/
  | prompt
  /-- `405`. -/
  | methodNotAllowed
  /-- The block response. -/
  | forbidden
  /-- `429` with its `Retry-After`. -/
  | tooManyRequests (retryAfter : ℤ)
  /-- A redirect to the challenge page. -/
  | redirect (url : String)
  deriving DecidableEq, Repr

/-- What became of a request: the answer of evaluation, if it was reached, and the response. -/
structure Handled where
  evaluated : Option (Except PyError Evaluated)
  response : Response

variable (cf : Conf) (env : Env)

/-- The guarded `record_block_verdict` of `_handle_verdict`: the default lifetime, and whichever of
its two commands went through. -/
def recordHandled (ipAddress : String) (ruleId : Option Uuid) (redis : Redis) : Redis :=
  match env.blockWrite with
  | .done => recordBlockVerdict env.now ipAddress 300 ruleId redis
  | .firstFails => redis
  | .secondFails =>
    { redis with blocked := (recordBlockVerdict env.now ipAddress 300 ruleId redis).blocked }

/-- The guarded increment of the challenge counter. -/
def countChallenge (ipAddress : String) (redis : Redis) : Redis :=
  match env.challengeWrite with
  | .done => { redis with
      challenged := (redis.challenged.incr env.now ipAddress).expire env.now ipAddress 3600 }
  | .firstFails => redis
  | .secondFails => { redis with challenged := redis.challenged.incr env.now ipAddress }

/-- `_handle_verdict`. -/
def handleVerdict (req : Request) (result : EvaluationResult) (w : World) : Response × World :=
  match result.verdict with
  | .blocked =>
    (.forbidden, w.withRedis (recordHandled env req.ipAddress result.matchedRuleId w.redis))
  | .throttled => (.tooManyRequests (result.retryAfter.getD 60), w)
  | .challenged =>
    match req.routes with
    -- `NoReverseMatch` is caught, and the request is passed on
    | none => (.view, w)
    | some (challengePath, verifyPath) =>
      -- the challenge pages themselves are not redirected, and do not count
      if PyStr.startsWith req.path challengePath || PyStr.startsWith req.path verifyPath then
        (.view, w)
      else
        (.redirect (challengePath ++ "?next=" ++ req.path),
          w.withRedis (countChallenge env req.ipAddress w.redis))
  | .allowed | .passed | .logged => (.view, w)

/-- The gates in front of evaluation, with the response of the one that answers. -/
def Request.stoppedEarly (req : Request) : Option Response :=
  if !cf.enabled then some .view
  else if cf.exemptPaths.any fun p ↦ PyStr.startsWith req.path p then some .view
  else if req.exemptHost then some .view
  else if req.sitePassword then some .prompt
  else if cf.allowedMethods.any fun allowed ↦ !allowed.contains req.method then
    some .methodNotAllowed
  else if req.ipAddress = "" then some .view
  else if req.countryBlocked then some .forbidden
  else if req.isStaff then some .view
  else if !cf.hasRedis then some .view
  else if req.passCookie then some .view
  else none

/-- `WafMiddleware.__call__`. -/
def WafMiddleware.call (req : Request) (w : World) : Handled × World :=
  match req.stoppedEarly cf with
  | some response => (⟨none, response⟩, w)
  | none =>
    match evaluateRequest cf env req.query w with
    | (.error x, w') => (⟨some (.error x), .view⟩, w')
    | (.ok e, w') =>
      let (response, w'') := handleVerdict env req e.result w'
      (⟨some (.ok e), response⟩, w'')

/-! ### The verify view -/

/-- `VerifyView.post` after its body has been read, for a solution that verifies or does not: the
rate limit comes first, and an accepted solution sets the solved flag, clears the challenge counter
and registers the fingerprint. The answer is whether the solution was accepted. -/
def verifyPost (ipAddress : String) (m : Meta) (solves : Bool) (w : World) : Bool × World :=
  let (rate, store) :=
    checkVerifyRateLimit cf.toRateLimitConf env.drop ipAddress w.redis.rate env.now
  let redis := { w.redis with rate := store }
  if rate.exceeded || !solves then (false, w.withRedis redis)
  else
    let redis' := { redis with
      solved := redis.solved.setex env.now ipAddress 86400 ()
      challenged := redis.challenged.delete ipAddress }
    (true, w.withRedis (registerKnownFingerprint redis' env.now (computeFingerprint cf m)))

/-! ### What one request does -/

/-- **Everything a request can do to the verdict keys and the tables**, one case for each way it can
end. `w₁` is the state evaluation reached before the gate. -/
inductive CallSpec (req : Request) (w : World) : Handled → World → Prop
  /-- Evaluation was not reached, or it raised. -/
  | unevaluated {h : Handled} {w' : World} : w.SameVerdicts w' →
      (∀ e, h.evaluated ≠ some (.ok e)) → (∀ url, h.response ≠ .redirect url) → CallSpec req w h w'
  /-- A verdict that neither blocks nor challenges. -/
  | settled {e : Evaluated} {response : Response} {w₁ : World} :
      ungated cf env req.query w = (.ok e, w₁) → e.result.verdict ≠ .blocked →
      e.result.verdict ≠ .challenged → (∀ url, response ≠ .redirect url) →
      CallSpec req w ⟨some (.ok e), response⟩ w₁
  /-- A block, by a rule, by score or by the fast path. -/
  | blocked {e : Evaluated} {w₁ : World} :
      ungated cf env req.query w = (.ok e, w₁) → e.result.verdict = .blocked →
      CallSpec req w ⟨some (.ok e), .forbidden⟩
        (w₁.withRedis (recordHandled env req.ipAddress e.result.matchedRuleId w₁.redis))
  /-- A challenge whose redirect is suppressed: no routes, or a challenge page itself. -/
  | suppressed {e : Evaluated} {w₁ : World} {fp : FingerprintVerdict} :
      ungated cf env req.query w = (.ok e, w₁) → e.result.verdict = .challenged →
      classifyFingerprint req.query.userAgent req.requestMeta = .ok fp →
      unsolvedCount env req.ipAddress fp w.redis < cf.challengeEscalationThreshold →
      CallSpec req w ⟨some (.ok e), .view⟩
        (w₁.withRedis (getUnsolvedChallengeCount env req.ipAddress fp w₁.redis).2)
  /-- A challenge redirect, which is counted. -/
  | redirected {e : Evaluated} {w₁ : World} {fp : FingerprintVerdict} {url : String} :
      ungated cf env req.query w = (.ok e, w₁) → e.result.verdict = .challenged →
      classifyFingerprint req.query.userAgent req.requestMeta = .ok fp →
      unsolvedCount env req.ipAddress fp w.redis < cf.challengeEscalationThreshold →
      CallSpec req w ⟨some (.ok e), .redirect url⟩
        (w₁.withRedis (countChallenge env req.ipAddress
          (getUnsolvedChallengeCount env req.ipAddress fp w₁.redis).2))
  /-- A challenge the gate turned into a block. -/
  | escalated {e : Evaluated} {w₁ w₂ : World} {fp : FingerprintVerdict} {rule : Option BlockRule} :
      ungated cf env req.query w = (.ok e, w₁) → e.result.verdict = .challenged →
      classifyFingerprint req.query.userAgent req.requestMeta = .ok fp →
      cf.challengeEscalationThreshold ≤ unsolvedCount env req.ipAddress fp w.redis →
      (rule, w₂) = createEscalationRule cf env req.ipAddress
        (w₁.withRedis (getUnsolvedChallengeCount env req.ipAddress fp w₁.redis).2) →
      CallSpec req w ⟨some (.ok DjangoWaf.escalated), .forbidden⟩
        (w₂.withRedis (recordHandled env req.ipAddress none
          (recordBlockVerdict env.now req.ipAddress cf.escalationBlockTtl (rule.map BlockRule.id)
            w₂.redis)))

/-- The count depends on the challenge counter and the solved flag alone. -/
theorem unsolvedCount_congr {r r' : Redis} (hc : r'.challenged = r.challenged)
    (hs : r'.solved = r.solved) (ipAddress : String) (fp : FingerprintVerdict) :
    unsolvedCount env ipAddress fp r' = unsolvedCount env ipAddress fp r := by
  simp only [unsolvedCount, getUnsolvedChallengeCount, hc, hs]
  split
  · rfl
  · split
    · rfl
    · split <;> rfl

theorem handleVerdict_settled (req : Request) {result : EvaluationResult} (w : World)
    (hb : result.verdict ≠ .blocked) (hc : result.verdict ≠ .challenged) :
    (handleVerdict env req result w).2 = w ∧
      ∀ url, (handleVerdict env req result w).1 ≠ .redirect url := by
  rw [handleVerdict]
  rcases hv : result.verdict with - | - | - | - | - | -
  · exact ⟨rfl, nofun⟩
  · exact absurd hv hb
  · exact absurd hv hc
  · exact ⟨rfl, nofun⟩
  · exact ⟨rfl, nofun⟩
  · exact ⟨rfl, nofun⟩

/-- No gate in front of evaluation redirects to a challenge. -/
theorem stoppedEarly_ne_redirect {req : Request} {response : Response}
    (h : req.stoppedEarly cf = some response) (url : String) : response ≠ .redirect url := by
  have hgate : ∀ {p : Prop} [Decidable p] {a b : Option Response}, a ≠ some (.redirect url) →
      b ≠ some (.redirect url) → (if p then a else b) ≠ some (.redirect url) := by
    intro p _ a b ha hb
    split
    · exact ha
    · exact hb
  have hnone : req.stoppedEarly cf ≠ some (.redirect url) := by
    rw [Request.stoppedEarly]
    -- ten gates, and the way past them
    iterate 10 refine hgate (by simp) ?_
    simp
  rintro rfl
  exact hnone h

/-- **A request does one of the things `CallSpec` lists.** -/
theorem call_spec (req : Request) (w : World) :
    CallSpec cf env req w (WafMiddleware.call cf env req w).1
      (WafMiddleware.call cf env req w).2 := by
  rw [WafMiddleware.call]
  rcases hstop : req.stoppedEarly cf with - | response
  · rcases hfp : classifyFingerprint req.query.userAgent req.query.requestMeta with x | fp
    · rw [evaluateRequest, hfp]
      exact .unevaluated (.refl w) (by simp) (by simp)
    · have hsame := sameVerdicts_ungated cf env req.query w
      rw [evaluateRequest_of_classified cf env hfp]
      rcases hun : ungated cf env req.query w with ⟨x | e, w₁⟩
      · rw [hun] at hsame
        exact .unevaluated hsame (by simp [applyGate]) (by simp [applyGate])
      · rw [hun] at hsame
        have hcount : unsolvedCount env req.ipAddress fp w₁.redis =
            unsolvedCount env req.ipAddress fp w.redis :=
          unsolvedCount_congr env hsame.challenged hsame.solved req.ipAddress fp
        by_cases hv : e.result.verdict = .challenged
        · -- a challenge goes through the gate
          simp only [applyGate, hv, if_true]
          rcases gateChallengeOrEscalate_cases cf env req.ipAddress fp e w₁ with
            ⟨hlt, hgate⟩ | ⟨hge, rule, w₂, hrule, hgate⟩
          · have hgate' : gateChallengeOrEscalate cf env req.query.ipAddress fp e w₁ = _ := hgate
            rw [hgate']
            rw [hcount] at hlt
            simp only [handleVerdict, hv]
            rcases req.routes with - | ⟨challengePath, verifyPath⟩
            · exact .suppressed hun hv hfp hlt
            · simp only
              split
              · exact .suppressed hun hv hfp hlt
              · exact .redirected hun hv hfp hlt
          · have hgate' : gateChallengeOrEscalate cf env req.query.ipAddress fp e w₁ = _ := hgate
            rw [hgate']
            rw [hcount] at hge
            exact .escalated hun hv hfp hge hrule
        · simp only [applyGate, hv, if_false]
          by_cases hb : e.result.verdict = .blocked
          · simp only [handleVerdict, hb]
            exact .blocked hun hb
          · obtain ⟨hw, hresp⟩ := handleVerdict_settled env req w₁ hb hv
            rw [hw]
            exact .settled hun hb hv hresp
  · exact .unevaluated (.refl w) (by simp) (stoppedEarly_ne_redirect cf hstop)

/-! ### A plain deployment

Default settings and the plainest of calls, for the concrete runs of the later modules. -/

/-- A name service that knows nobody. -/
def silentResolver : Resolver := ⟨fun _ ↦ .osError, fun _ ↦ .osError⟩

/-- A call at an instant by the first worker, with every guarded write going through. -/
def Env.plain (now : ℚ) : Env where
  now
  worker := 0
  resolver := silentResolver
  drop _ := false
  freshId := 1
  ruleWrite := true
  blockWrite := .done
  challengeWrite := .done

/-- The default settings, on a runtime whose digests are those of a request without fingerprint
headers. -/
def plainConf : Conf :=
  Conf.defaults (fun _ ↦ "") (fun _ ↦ .compiled fun _ ↦ false)
    fun _ ↦ "a55dc521fe991b76cf6ec104fabd3493396ee2f9d6c80266c5ab64055ce18ea0"

/-- A plain `GET` of the front page from one address, with one user agent. -/
def plainRequest (userAgent : String) : Request :=
  ⟨"192.0.2.1", "/", "GET", [("HTTP_USER_AGENT", userAgent)], false, false, false, false, false,
    some ("/waf/challenge/", "/waf/verify/")⟩

theorem stoppedEarly_plainRequest (userAgent : String) :
    (plainRequest userAgent).stoppedEarly plainConf = none := by
  show (plainRequest "").stoppedEarly plainConf = none
  decide

end DjangoWaf
