import DjangoWaf.Forms.Tokens
import DjangoWaf.Services.ClientIp
import DjangoWaf.Services.RateLimiter

/-!
# The site password

`services/site_password_service.py` and the gate of `middleware.py` that uses it: while the gate is
on, a request to a path that is not exempt continues with a signed cookie or is answered by the gate
itself. A `POST` to the verify path is a guess; a right one is answered with a redirect that sets
the cookie, a wrong one is counted against the rate limit of the address.

The guess and the stored password are compared **as texts** with `compare_digest`, which refuses
texts beyond ASCII. Nothing on the way to the middleware's caller catches what it raises.

Django's part is a parameter: its signer, which maps what is wrong with a cookie to one exception,
the check of a redirect's target, and the redirect itself. Of a request it may refuse to read the
body or the host, and it may refuse to build the redirect. Rendering the prompt is taken to succeed.
-/

namespace DjangoWaf

open PyBytes

/-! ### Settings, requests and responses -/

/-- The settings of the gate, with those of the signing key, the client address and the limiter. -/
structure SitePasswordConf extends Signing, ProxyConf, RateLimitConf where
  /-- `DJANGO_WAF_SITE_PASSWORD`. -/
  sitePassword : String
  /-- `DJANGO_WAF_SITE_PASSWORD_ENABLED`. -/
  sitePasswordEnabled : Bool
  /-- `DJANGO_WAF_SITE_PASSWORD_TTL`. -/
  sitePasswordTtl : ℤ
  /-- `DJANGO_WAF_SITE_PASSWORD_EXEMPT_PATHS`. -/
  sitePasswordExemptPaths : List String
  /-- `DJANGO_WAF_SITE_PASSWORD_VERIFY_PATH`. -/
  sitePasswordVerifyPath : String
  /-- `DJANGO_WAF_SITE_PASSWORD_COOKIE_DOMAIN`. -/
  sitePasswordCookieDomain : Option String
  /-- `SESSION_COOKIE_DOMAIN`. -/
  sessionCookieDomain : Option String

/-- The default settings for a password. -/
def SitePasswordConf.defaults (k : Signing) (pf : ProxyConf) (rate : RateLimitConf)
    (sitePassword : String) : SitePasswordConf where
  toSigning := k
  toProxyConf := pf
  toRateLimitConf := rate
  sitePassword := sitePassword
  sitePasswordEnabled := sitePassword ≠ ""
  sitePasswordTtl := 43200
  sitePasswordExemptPaths :=
    ["/health/", "/.well-known/", "/robots.txt", "/waf/challenge/", "/waf/verify/"]
  sitePasswordVerifyPath := "/waf/site-password/"
  sitePasswordCookieDomain := none
  sessionCookieDomain := none

/-- A `TimestampSigner`. -/
structure TimestampSigner where
  /-- `sign`, at a time. -/
  sign : ℚ → String → String
  /-- `unsign` with `max_age`, at a time; `none` for `BadSignature`, which `SignatureExpired` is. -/
  unsign : ℚ → String → ℤ → Option String

/-- What the gate uses of Django. -/
structure DjangoHttp where
  /-- `TimestampSigner(key=…, salt=…)`. -/
  timestampSigner : List UInt8 → String → TimestampSigner
  /-- `url_has_allowed_host_and_scheme`, for one allowed host. -/
  urlHasAllowedHostAndScheme : String → String → Bool → Bool
  /-- The `Location` of `HttpResponseRedirect`, or `none` where it raises `DisallowedRedirect`. -/
  httpResponseRedirect : String → Option String

/-- A request as the gate reads it. -/
structure SiteRequest where
  method : String
  /-- `path_info`. -/
  path : String
  /-- `get_full_path()`. -/
  fullPath : String
  /-- `COOKIES.get`. -/
  cookies : String → Option String
  /-- `POST.get`, or `none` where Django refuses the body. -/
  post : Option (String → Option String)
  /-- `get_host()`, or `none` for `DisallowedHost`. -/
  getHost : Option String
  isSecure : Bool
  /-- What `resolve_client_ip` reads of `META`. -/
  peer : PeerMeta

/-- What a request can end in other than a response. -/
inductive SiteError
  | typeError (message : String)
  /-- The body cannot be read. -/
  | badPost
  | disallowedHost
  | disallowedRedirect
  deriving DecidableEq, Repr

/-- The arguments of `set_cookie`. -/
structure SetCookie where
  name : String
  value : String
  maxAge : ℤ
  domain : Option String
  httponly : Bool
  secure : Bool
  samesite : String
  deriving DecidableEq

/-- The body of a response. -/
inductive SiteBody
  | empty
  | text (content : String)
  /-- `site_password.html` with its context. -/
  | prompt (error : Option String) (nextUrl verifyPath : String)
  deriving DecidableEq

/-- A response of the gate. -/
structure SiteResponse where
  status : ℕ
  headers : List (String × String)
  body : SiteBody
  cookie : Option SetCookie
  deriving DecidableEq

/-- What `_get_redis_client` returns. -/
inductive GuessRedis
  | unavailable
  /-- A client whose commands raise. -/
  | broken
  | store (rate : RateStore)

/-! ### The service -/

/-- `SITE_PASSWORD_COOKIE`. -/
def sitePasswordCookie : String := "waf_site_password"

/-- `_VERIFIED_MARKER`. -/
def verifiedMarker : String := "verified"

variable (cf : SitePasswordConf) (dj : DjangoHttp)

/-- `is_gate_enabled`. -/
def isGateEnabled : Bool := cf.sitePasswordEnabled

/-- `is_misconfigured`. -/
def isMisconfigured : Bool := cf.sitePasswordEnabled && cf.sitePassword = ""

/-- `is_exempt_path`. -/
def isExemptPath (path : String) : Bool := cf.sitePasswordExemptPaths.any (PyStr.startsWith path)

/-- `_get_signer`. -/
def getSigner : TimestampSigner := dj.timestampSigner cf.getSigningKey "django_waf.site_password"

/-- `has_valid_cookie`. -/
def hasValidCookie (now : ℚ) (req : SiteRequest) : Bool :=
  match req.cookies sitePasswordCookie with
  | none => false
  | some cookieValue =>
    if cookieValue = "" then false
    else
      match (getSigner cf dj).unsign now cookieValue cf.sitePasswordTtl with
      | none => false
      | some payload => payload = verifiedMarker

/-- `set_verified_cookie`, where `set_cookie` takes the settings it is given. -/
def setVerifiedCookie (now : ℚ) (req : SiteRequest) (response : SiteResponse) : SiteResponse :=
  { response with
    cookie := some
      { name := sitePasswordCookie
        value := (getSigner cf dj).sign now verifiedMarker
        maxAge := cf.sitePasswordTtl
        domain :=
          match cf.sitePasswordCookieDomain with
          | none => cf.sessionCookieDomain
          | some domain => domain
        httponly := true
        secure := req.isSecure
        samesite := "Lax" } }

/-- `hmac.compare_digest` for two texts. -/
def compareDigestText (a b : String) : Except SiteError Bool :=
  if a.toList.all isAscii && b.toList.all isAscii then .ok (a = b)
  else .error (.typeError "comparing strings with non-ASCII characters is not supported")

/-- `check_password`. -/
def checkPassword (submitted : String) : Except SiteError Bool :=
  if cf.sitePassword = "" ∨ submitted = "" then .ok false
  else compareDigestText submitted cf.sitePassword

/-- `record_guess_throttle_hit_detailed`. -/
def recordGuessThrottleHitDetailed (drop : RateKey → Bool) (now : ℚ) (ipAddress : String) :
    GuessRedis → RateLimitResult × GuessRedis
  | .unavailable => (.notExceeded, .unavailable)
  | .broken => (.notExceeded, .broken)
  | .store rate =>
    let (result, rate') :=
      checkRateLimit cf.toRateLimitConf drop ipAddress rate now cf.sitePasswordVerifyPath ""
    (result, .store rate')

/-! ### The gate of the middleware -/

/-- `_SITE_PASSWORD_NOINDEX_HEADER`. -/
def sitePasswordNoindexHeader : String := "noindex, nofollow, noarchive"

/-- `_SITE_PASSWORD_INCORRECT_ERROR`. -/
def sitePasswordIncorrectError : String := "Incorrect password. Please try again."

/-- `_SITE_PASSWORD_MISCONFIGURED_ERROR`. -/
def sitePasswordMisconfiguredError : String := "This site is temporarily unavailable."

/-- `_render_site_password_prompt`. -/
def renderSitePasswordPrompt (req : SiteRequest) (error nextUrl : Option String) :
    SiteResponse where
  status := 401
  headers := [("X-Robots-Tag", sitePasswordNoindexHeader)]
  body := .prompt error (nextUrl.getD req.fullPath) cf.sitePasswordVerifyPath
  cookie := none

/-- Where a right guess is sent: the validated `next`, or the front page. -/
def safeNext (req : SiteRequest) (nextParam : String) : Except SiteError String :=
  if nextParam = "" then .ok "/"
  else
    match req.getHost with
    | none => .error .disallowedHost
    | some host =>
      .ok (if dj.urlHasAllowedHostAndScheme nextParam host req.isSecure then nextParam else "/")

/-- The answer to a right guess. -/
def admitGuess (now : ℚ) (req : SiteRequest) (nextParam : String) :
    Except SiteError SiteResponse :=
  match safeNext dj req nextParam with
  | .error e => .error e
  | .ok target =>
    match dj.httpResponseRedirect target with
    | none => .error .disallowedRedirect
    | some location =>
      .ok (setVerifiedCookie cf dj now req ⟨302, [("Location", location)], .empty, none⟩)

/-- The answer to a wrong guess. -/
def refuseGuess (drop : RateKey → Bool) (now : ℚ) (req : SiteRequest) (nextParam : String)
    (redis : GuessRedis) : SiteResponse × GuessRedis :=
  let resolved := resolveClientIp cf.toProxyConf req.peer
  let ipAddress := if resolved = "" then "0.0.0.0" else resolved
  let (throttleResult, redis') := recordGuessThrottleHitDetailed cf drop now ipAddress redis
  if throttleResult.exceeded then
    ({ status := 429
       headers := [("Retry-After", (throttleResult.retryAfter.map toString).getD "60"),
         ("X-Robots-Tag", sitePasswordNoindexHeader)]
       body := .text "Too many attempts. Please retry later."
       cookie := none }, redis')
  else (renderSitePasswordPrompt cf req (some sitePasswordIncorrectError) (some nextParam), redis')

/-- `_handle_site_password_verify`. -/
def handleSitePasswordVerify (drop : RateKey → Bool) (now : ℚ) (req : SiteRequest)
    (redis : GuessRedis) : Except SiteError SiteResponse × GuessRedis :=
  match req.post with
  | none => (.error .badPost, redis)
  | some post =>
    let submitted := (post "password").getD ""
    let nextParam := (post "next").getD ""
    match checkPassword cf submitted with
    | .error e => (.error e, redis)
    | .ok true => (admitGuess cf dj now req nextParam, redis)
    | .ok false =>
      let (response, redis') := refuseGuess cf drop now req nextParam redis
      (.ok response, redis')

/-- `_check_site_password`: a response, or `none` to go on. -/
def checkSitePassword (drop : RateKey → Bool) (now : ℚ) (req : SiteRequest) (redis : GuessRedis) :
    Except SiteError (Option SiteResponse) × GuessRedis :=
  if !isGateEnabled cf then (.ok none, redis)
  else if isExemptPath cf req.path then (.ok none, redis)
  else if isMisconfigured cf then
    (.ok (some (renderSitePasswordPrompt cf req (some sitePasswordMisconfiguredError) none)), redis)
  else if hasValidCookie cf dj now req then (.ok none, redis)
  else if req.method = "POST" ∧ req.path = cf.sitePasswordVerifyPath then
    let (answer, redis') := handleSitePasswordVerify cf dj drop now req redis
    (answer.map some, redis')
  else (.ok (some (renderSitePasswordPrompt cf req none none)), redis)

/-! ### What the parts answer -/

/-- The default settings never deny every request. -/
theorem isMisconfigured_defaults (k : Signing) (pf : ProxyConf) (rate : RateLimitConf)
    (sitePassword : String) :
    isMisconfigured (.defaults k pf rate sitePassword) = false := by
  show (decide (sitePassword ≠ "") && decide (sitePassword = "")) = false
  rw [decide_not, Bool.not_and_self]

/-- The comparison answers for ASCII texts, and answers whether they are equal. -/
theorem compareDigestText_eq_ok_iff {a b : String} {equal : Bool} :
    compareDigestText a b = .ok equal ↔
      (a.toList.all isAscii = true ∧ b.toList.all isAscii = true) ∧ equal = decide (a = b) := by
  rw [compareDigestText, ← Bool.and_eq_true]
  split
  · rename_i hascii
    rw [Except.ok.injEq, hascii]
    simp [eq_comm]
  · rename_i hascii
    simp [hascii]

end DjangoWaf
