import DjangoWaf.Middleware
import DjangoWaf.Services.ChallengeService
import DjangoWaf.Services.TrustedUser

/-!
# The front door

`WafMiddleware.__call__` on a request as the web server delivers it: headers, cookies, body and peer
address. `Middleware.lean` starts from the answers of the gates in front of evaluation; here they
are computed, each by the function of the source that gives them.

* A request ends at the site-password gate, with an exception or a response, or it goes on.
* **What goes on is handled as `WafMiddleware.call` says** (`callHttp_cases`), for the summary of
  the request that the gates make (`HttpRequest.summary`). Whatever is proved about `call` is so
  proved about requests as they arrive.
* Where it gets as far as the cookies, it goes past evaluation exactly when it is staff's or its
  pass cookie is accepted (`callHttp_eq_bypass_iff`).

Looking up a country and reversing a URL are parameters. The first never raises.
-/

namespace DjangoWaf

/-! ### Settings, requests and surroundings -/

/-- The settings of a deployment. The hash functions, the keys, the proxies and the rate limits are
shared by all services. -/
structure SiteConf extends ChallengeConf, SitePasswordConf, TrustedConf where
  /-- The settings of evaluation. -/
  waf : Conf
  rate_eq : toRateLimitConf = waf.toRateLimitConf
  /-- `DJANGO_WAF_EXEMPT_HOSTS`. -/
  exemptHosts : List String
  /-- `DJANGO_WAF_BLOCKED_COUNTRIES`. -/
  blockedCountries : List String
  /-- `DJANGO_WAF_CHALLENGE_URL`, empty when unset. -/
  challengeUrl : String
  /-- `DJANGO_WAF_VERIFY_URL`, empty when unset. -/
  verifyUrl : String

/-- What a call finds around it beside the clock and the name service. -/
structure SiteEnv extends Env where
  /-- `lookup_country`. -/
  lookupCountry : String → String
  /-- `reverse` in the active URLconf, or `none` for `NoReverseMatch`. -/
  reverse : String → Option String
  /-- `secrets.token_hex(64)`. -/
  token : String
  /-- `expires_at.isoformat()`. -/
  expiresIso : String

/-- What `VerifyView.post` makes of the body. -/
inductive VerifyBody
  /-- Reading it raises, or its JSON is not an object. -/
  | unreadable
  /-- `JSONDecodeError` or another `ValueError`. -/
  | invalidJson
  /-- The three fields, where they are texts. JSON of other values is left out, and of lone
  surrogates in the token or the path. -/
  | fields (token : Option String) (nonce : Option PyText) (next : Option String)

/-- A request as it arrives. -/
structure HttpRequest extends SiteRequest where
  /-- `META`. -/
  requestMeta : Meta
  peer_eq : peer =
    ⟨requestMeta.lookup "REMOTE_ADDR", requestMeta.lookup "HTTP_X_FORWARDED_FOR"⟩
  /-- `request.user`, where the authentication middleware has run. -/
  user : Option AuthUser
  /-- `GET.get`, or `none` where Django refuses the query. -/
  query : Option (String → Option String)
  /-- The body, as the verify view reads it. -/
  verifyBody : VerifyBody

/-! ### The gates -/

/-- The host that is compared: without its port, or the inside of the brackets. -/
def hostName (host : String) : String :=
  let host :=
    if PyStr.startsWith host "[" then (host.toList.takeWhile (· ≠ ']')).dropWhile (· = '[')
    else
      match PyBytes.rsplitOnce ':' host.toList with
      | none => host.toList
      | some (front, _) => front
  PyStr.lower (String.ofList host)

/-- One entry of the exempt hosts. -/
def hostMatches (host entry : String) : Bool :=
  if PyStr.startsWith entry "." then
    host.toList = entry.toList.tail || entry.toList.isSuffixOf host.toList
  else host = entry

/-- `_is_exempt_host`. -/
def isExemptHost (req : HttpRequest) (exemptHosts : List String) : Bool :=
  let host := hostName (req.getHost.getD (req.requestMeta.get "HTTP_HOST"))
  exemptHosts.any fun entry ↦ hostMatches host (PyStr.lower entry)

variable (cf : SiteConf) (dj : DjangoHttp) (env : SiteEnv)

/-- `_extract_ip`. -/
def extractIp (req : HttpRequest) : String := resolveClientIp cf.toProxyConf req.peer

/-- `_check_country_block` answers the request. -/
def checkCountryBlock (ipAddress : String) : Bool :=
  let country := env.lookupCountry ipAddress
  if country = "" then false
  else (cf.blockedCountries.map PyStr.upper).contains (PyStr.upper country)

/-- `_get_challenge_paths`, or `none` for `NoReverseMatch`. -/
def getChallengePaths : Option (String × String) := do
  let challenge ←
    if cf.challengeUrl ≠ "" then some cf.challengeUrl else env.reverse "django_waf:challenge"
  let verify ← if cf.verifyUrl ≠ "" then some cf.verifyUrl else env.reverse "django_waf:verify"
  return (challenge, verify)

/-- The guarded check of the pass cookie: an exception is logged, and the request evaluated. -/
def hasPassCookie (now : ℚ) (cookies : String → Option String) (ipAddress : String) : Bool :=
  let cookieValue := (cookies "waf_pass").getD ""
  if cookieValue = "" then false
  else
    match validatePassCookie cf.toSigning cookieValue ipAddress now with
    | .error _ => false
    | .ok valid => valid

/-- `_get_redis_client`, for the guesses. -/
def guessRedis (w : World) : GuessRedis :=
  if cf.waf.hasRedis then .store w.redis.rate else .unavailable

/-- The store after a guess. -/
def World.withGuesses (w : World) : GuessRedis → World
  | .store rate => w.withRedis { w.redis with rate }
  | .unavailable | .broken => w

/-! ### The call -/

/-- How the middleware ends: with an exception, at the site-password gate, or past it. -/
inductive Door
  | raised (e : SiteError)
  | gate (response : SiteResponse)
  | handled (h : Handled)

/-- The request with the answers of the gates, as `WafMiddleware.call` and the handlers take it. -/
def HttpRequest.summary (req : HttpRequest) (w : World) : Request where
  ipAddress := extractIp cf req
  path := req.path
  method := req.method
  requestMeta := req.requestMeta
  exemptHost := isExemptHost req cf.exemptHosts
  sitePassword :=
    match (checkSitePassword cf.toSitePasswordConf dj env.drop env.now req.toSiteRequest
      (guessRedis cf w)).1 with
    | .ok none => false
    | _ => true
  countryBlocked := checkCountryBlock cf env (extractIp cf req)
  isStaff := isStaffUser cf.toTrustedConf dj env.now req.cookies req.peer req.user
  passCookie := hasPassCookie cf env.now req.cookies (extractIp cf req)
  routes := getChallengePaths cf env

/-- `WafMiddleware.__call__` after the site-password gate. -/
def WafMiddleware.pastGate (req : HttpRequest) (w : World) : Handled × World :=
  if cf.waf.allowedMethods.any fun allowed ↦ !allowed.contains req.method then
    (⟨none, .methodNotAllowed⟩, w)
  else
    let ipAddress := extractIp cf req
    if ipAddress = "" then (⟨none, .view⟩, w)
    else if checkCountryBlock cf env ipAddress then (⟨none, .forbidden⟩, w)
    else if isStaffUser cf.toTrustedConf dj env.now req.cookies req.peer req.user then
      (⟨none, .view⟩, w)
    else if !cf.waf.hasRedis then (⟨none, .view⟩, w)
    else if hasPassCookie cf env.now req.cookies ipAddress then (⟨none, .view⟩, w)
    else
      let summary := req.summary cf dj env w
      match evaluateRequest cf.waf env.toEnv summary.query w with
      | (.error x, w') => (⟨some (.error x), .view⟩, w')
      | (.ok e, w') =>
        let (response, w'') := handleVerdict env.toEnv summary e.result w'
        (⟨some (.ok e), response⟩, w'')

/-- `WafMiddleware.__call__`. -/
def WafMiddleware.callHttp (req : HttpRequest) (w : World) : Door × World :=
  if !cf.waf.enabled then (.handled ⟨none, .view⟩, w)
  else if cf.waf.exemptPaths.any fun p ↦ PyStr.startsWith req.path p then
    (.handled ⟨none, .view⟩, w)
  else if isExemptHost req cf.exemptHosts then (.handled ⟨none, .view⟩, w)
  else
    match checkSitePassword cf.toSitePasswordConf dj env.drop env.now req.toSiteRequest
      (guessRedis cf w) with
    | (.error e, redis) => (.raised e, w.withGuesses redis)
    | (.ok (some response), redis) => (.gate response, w.withGuesses redis)
    | (.ok none, redis) =>
      let (h, w') := WafMiddleware.pastGate cf dj env req (w.withGuesses redis)
      (.handled h, w')

/-! ### The two calls agree -/

variable {cf dj env} {req : HttpRequest} {w : World}

/-- A gate that lets a request pass has counted no guess. -/
theorem eq_of_checkSitePassword {cf : SitePasswordConf} {drop : RateKey → Bool} {now : ℚ}
    {req : SiteRequest} {redis redis' : GuessRedis}
    (h : checkSitePassword cf dj drop now req redis = (.ok none, redis')) : redis' = redis := by
  rw [checkSitePassword] at h
  split at h
  · exact (Prod.mk.inj h).2.symm
  · split at h
    · exact (Prod.mk.inj h).2.symm
    · split at h
      · cases h
      · split at h
        · exact (Prod.mk.inj h).2.symm
        · split at h
          · -- an answered guess never goes on
            rcases hanswer : handleSitePasswordVerify cf dj drop now req redis with ⟨e | r, redis''⟩
            · rw [hanswer] at h
              cases h
            · rw [hanswer] at h
              cases h
          · cases h

theorem withGuesses_guessRedis (w : World) : w.withGuesses (guessRedis cf w) = w := by
  rw [guessRedis]
  split_ifs
  · rfl
  · rfl

/-- The request gets as far as the site-password gate. -/
def HttpRequest.Gated (cf : SiteConf) (req : HttpRequest) : Prop :=
  cf.waf.enabled = true ∧ (cf.waf.exemptPaths.any fun p ↦ PyStr.startsWith req.path p) = false ∧
    isExemptHost req cf.exemptHosts = false

/-- What `call` makes of the answer of the gates. -/
def WafMiddleware.answer (cf : Conf) (env : Env) (r : Request) (w : World) :
    Option Response → Handled × World
  | some response => (⟨none, response⟩, w)
  | none =>
    match evaluateRequest cf env r.query w with
    | (.error x, w') => (⟨some (.error x), .view⟩, w')
    | (.ok e, w') =>
      let (response, w'') := handleVerdict env r e.result w'
      (⟨some (.ok e), response⟩, w'')

/-- Past the site-password gate, a request is handled as its summary is. -/
theorem pastGate_eq_call (hgated : req.Gated cf)
    (hgate : (req.summary cf dj env w).sitePassword = false) :
    WafMiddleware.pastGate cf dj env req w =
      WafMiddleware.call cf.waf env.toEnv (req.summary cf dj env w) w := by
  obtain ⟨henabled, hpath, hhost⟩ := hgated
  obtain ⟨r, hr⟩ : ∃ r, req.summary cf dj env w = r := ⟨_, rfl⟩
  have hpath' : (cf.waf.exemptPaths.any fun p ↦ PyStr.startsWith r.path p) = false := hr ▸ hpath
  have hhost' : r.exemptHost = false := hr ▸ hhost
  have hpast : WafMiddleware.pastGate cf dj env req w =
      if cf.waf.allowedMethods.any fun allowed ↦ !allowed.contains r.method then
        (⟨none, .methodNotAllowed⟩, w)
      else if r.ipAddress = "" then (⟨none, .view⟩, w)
      else if r.countryBlocked then (⟨none, .forbidden⟩, w)
      else if r.isStaff then (⟨none, .view⟩, w)
      else if !cf.waf.hasRedis then (⟨none, .view⟩, w)
      else if r.passCookie then (⟨none, .view⟩, w)
      else
        match evaluateRequest cf.waf env.toEnv r.query w with
        | (.error x, w') => (⟨some (.error x), .view⟩, w')
        | (.ok e, w') =>
          let (response, w'') := handleVerdict env.toEnv r e.result w'
          (⟨some (.ok e), response⟩, w'') := hr ▸ rfl
  rw [hr] at hgate ⊢
  have hcall : WafMiddleware.call cf.waf env.toEnv r w =
      WafMiddleware.answer cf.waf env.toEnv r w (r.stoppedEarly cf.waf) := rfl
  rw [hpast, hcall, Request.stoppedEarly, henabled, hpath', hhost', hgate]
  simp only [Bool.not_true, Bool.false_eq_true, if_false,
    apply_ite (WafMiddleware.answer cf.waf env.toEnv r w)]
  rfl

/-- Why a request is not gated. -/
theorem not_gated_iff : ¬req.Gated cf ↔ cf.waf.enabled = false ∨
    (cf.waf.exemptPaths.any fun p ↦ PyStr.startsWith req.path p) = true ∨
      isExemptHost req cf.exemptHosts = true := by
  rw [HttpRequest.Gated, not_and_or, not_and_or, Bool.not_eq_true, Bool.not_eq_false,
    Bool.not_eq_false]

variable (dj env w) in
/-- A request that is not gated goes to the view. -/
theorem callHttp_of_not_gated (h : ¬req.Gated cf) :
    (req.summary cf dj env w).stoppedEarly cf.waf = some .view ∧
      WafMiddleware.callHttp cf dj env req w = (.handled ⟨none, .view⟩, w) := by
  rw [Request.stoppedEarly, WafMiddleware.callHttp]
  rcases henabled : cf.waf.enabled with - | -
  · exact ⟨rfl, rfl⟩
  · rw [Bool.not_true, if_neg Bool.false_ne_true, if_neg Bool.false_ne_true]
    rcases hpath : (cf.waf.exemptPaths.any fun p ↦ PyStr.startsWith req.path p) with - | -
    · rcases not_gated_iff.1 h with hoff | hexempt | hhost
      · cases henabled.symm.trans hoff
      · cases hpath.symm.trans hexempt
      · rw [if_neg Bool.false_ne_true]
        exact ⟨(if_neg (Bool.not_eq_true _ ▸ hpath)).trans (if_pos hhost), if_pos hhost⟩
    · exact ⟨if_pos hpath, if_pos rfl⟩

/-- **The call on a request is the call on its summary**, unless the site-password gate ends it. -/
theorem callHttp_cases (cf : SiteConf) (dj : DjangoHttp) (env : SiteEnv) (req : HttpRequest)
    (w : World) :
    WafMiddleware.callHttp cf dj env req w =
        (.handled (WafMiddleware.call cf.waf env.toEnv (req.summary cf dj env w) w).1,
          (WafMiddleware.call cf.waf env.toEnv (req.summary cf dj env w) w).2) ∨
      (req.Gated cf ∧ (req.summary cf dj env w).sitePassword = true ∧
        ∀ h, (WafMiddleware.callHttp cf dj env req w).1 ≠ .handled h) := by
  by_cases hgated : req.Gated cf
  · obtain ⟨henabled, hpath, hhost⟩ := id hgated
    have hcall : WafMiddleware.callHttp cf dj env req w =
        match checkSitePassword cf.toSitePasswordConf dj env.drop env.now req.toSiteRequest
          (guessRedis cf w) with
        | (.error e, redis) => (.raised e, w.withGuesses redis)
        | (.ok (some response), redis) => (.gate response, w.withGuesses redis)
        | (.ok none, redis) =>
          let (h, w') := WafMiddleware.pastGate cf dj env req (w.withGuesses redis)
          (.handled h, w') := by
      rw [WafMiddleware.callHttp, henabled, hpath, hhost]
      rfl
    rcases hcheck : checkSitePassword cf.toSitePasswordConf dj env.drop env.now req.toSiteRequest
      (guessRedis cf w) with ⟨e | answer, redis⟩
    · rw [hcheck] at hcall
      have hanswers : (req.summary cf dj env w).sitePassword = true := by
        rw [HttpRequest.summary, hcheck]
      refine .inr ⟨hgated, hanswers, fun h hh ↦ ?_⟩
      cases (congrArg Prod.fst hcall).symm.trans hh
    · rcases answer with - | response
      · have hredis : redis = guessRedis cf w := eq_of_checkSitePassword hcheck
        have hpass : (req.summary cf dj env w).sitePassword = false := by
          rw [HttpRequest.summary, hcheck]
        rw [hcheck, hredis] at hcall
        refine .inl ?_
        rw [hcall]
        dsimp only
        rw [withGuesses_guessRedis, pastGate_eq_call hgated hpass]
      · rw [hcheck] at hcall
        have hanswers : (req.summary cf dj env w).sitePassword = true := by
          rw [HttpRequest.summary, hcheck]
        refine .inr ⟨hgated, hanswers, fun h hh ↦ ?_⟩
        cases (congrArg Prod.fst hcall).symm.trans hh
  · obtain ⟨hstop, hview⟩ := callHttp_of_not_gated dj env w hgated
    rw [hview, WafMiddleware.call, hstop]
    exact .inl rfl

/-! ### The way past evaluation -/

/-- What is not evaluated was stopped by a gate. -/
theorem unevaluated_iff {cf : Conf} {env : Env} {r : Request} {response : Response} :
    (WafMiddleware.call cf env r w).1 = ⟨none, response⟩ ↔ r.stoppedEarly cf = some response := by
  rw [WafMiddleware.call]
  rcases r.stoppedEarly cf with - | stopped
  · refine iff_of_false (fun h ↦ ?_) (by simp)
    rcases heval : evaluateRequest cf env r.query w with ⟨x | e, w'⟩
    · rw [heval] at h
      cases congrArg Handled.evaluated h
    · rw [heval] at h
      cases congrArg Handled.evaluated h
  · rw [Option.some.injEq]
    exact ⟨congrArg Handled.response, congrArg (Handled.mk none)⟩

/-- **A request that gets as far as the cookies goes past evaluation exactly when it is staff's or
its pass cookie is accepted.** -/
theorem callHttp_eq_bypass_iff (hgated : req.Gated cf)
    (hpassword : (req.summary cf dj env w).sitePassword = false)
    (hmethod : (cf.waf.allowedMethods.any fun allowed ↦ !allowed.contains req.method) = false)
    (haddress : extractIp cf req ≠ "")
    (hcountry : checkCountryBlock cf env (extractIp cf req) = false)
    (hredis : cf.waf.hasRedis = true) :
    (WafMiddleware.callHttp cf dj env req w).1 = .handled ⟨none, .view⟩ ↔
      isStaffUser cf.toTrustedConf dj env.now req.cookies req.peer req.user = true ∨
        hasPassCookie cf env.now req.cookies (extractIp cf req) = true := by
  rcases callHttp_cases cf dj env req w with hcall | ⟨-, hanswers, -⟩
  · rw [hcall, Door.handled.injEq, unevaluated_iff]
    obtain ⟨r, hr⟩ : ∃ r, req.summary cf dj env w = r := ⟨_, rfl⟩
    have hpath : (cf.waf.exemptPaths.any fun p ↦ PyStr.startsWith r.path p) = false :=
      hr ▸ hgated.2.1
    have hhost : r.exemptHost = false := hr ▸ hgated.2.2
    have hmethod' : (cf.waf.allowedMethods.any fun allowed ↦ !allowed.contains r.method) = false :=
      hr ▸ hmethod
    have haddress' : r.ipAddress ≠ "" := hr ▸ haddress
    have hcountry' : r.countryBlocked = false := hr ▸ hcountry
    have hstaff : isStaffUser cf.toTrustedConf dj env.now req.cookies req.peer req.user =
        r.isStaff := hr ▸ rfl
    have hpass : hasPassCookie cf env.now req.cookies (extractIp cf req) = r.passCookie := hr ▸ rfl
    rw [hr] at hpassword ⊢
    rw [hstaff, hpass, Request.stoppedEarly, hgated.1, hpath, hhost, hpassword, hmethod',
      if_neg haddress', hcountry', hredis]
    cases r.isStaff <;> cases r.passCookie <;> simp
  · cases hpassword.symm.trans hanswers

end DjangoWaf
