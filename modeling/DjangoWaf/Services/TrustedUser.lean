import DjangoWaf.Services.SitePassword

/-!
# Trusted users

`services/trusted_user_service.py`, the login receiver of `receivers.py`, and the two places of
`middleware.py` that use them: `_get_response` sets the signed cookie on the response of a login,
and `_is_staff_user` accepts it in place of `request.user`.

* The payload is a marker and the address the cookie was set for. An address may have colons of its
  own; the marker has none, so the **first colon** cuts it off again (`boundIp_buildPayload`).
* The receiver is connected at startup and reads the settings at each login; the cookie is checked
  against the settings of the request that carries it.
-/

namespace DjangoWaf

/-- The settings of the trusted-user cookie, with those of the signing key and the client
address. -/
structure TrustedConf extends Signing, ProxyConf where
  /-- `DJANGO_WAF_TRUSTED_COOKIE_ENABLED`. -/
  trustedCookieEnabled : Bool
  /-- `DJANGO_WAF_TRUSTED_COOKIE_TTL`. -/
  trustedCookieTtl : ℤ
  /-- `DJANGO_WAF_TRUSTED_COOKIE_DOMAIN`. -/
  trustedCookieDomain : Option String
  /-- `SESSION_COOKIE_DOMAIN`. -/
  sessionCookieDomain : Option String
  /-- `DJANGO_WAF_TRUSTED_COOKIE_TRUST_LEVEL`. -/
  trustedCookieTrustLevel : String

/-- The attributes of a user. -/
structure AuthUser where
  isAuthenticated : Bool
  isStaff : Bool
  isSuperuser : Bool
  deriving DecidableEq

/-- What `get_trust_level` returns. -/
inductive TrustLevel
  | staff
  | authenticated
  deriving DecidableEq

/-! ### The service -/

/-- `TRUSTED_USER_COOKIE`. -/
def trustedUserCookie : String := "waf_trusted"

/-- `_TRUSTED_MARKER`. -/
def trustedMarker : String := "trusted"

variable (cf : TrustedConf) (dj : DjangoHttp)

/-- `get_trust_level`. -/
def getTrustLevel : TrustLevel :=
  if cf.trustedCookieTrustLevel = "authenticated" then .authenticated else .staff

/-- `user_meets_trust_level`. -/
def userMeetsTrustLevel (user : AuthUser) : Bool :=
  if !user.isAuthenticated then false
  else
    match getTrustLevel cf with
    | .authenticated => true
    | .staff => user.isStaff || user.isSuperuser

/-- `_get_signer`. -/
def trustedSigner : TimestampSigner := dj.timestampSigner cf.getSigningKey "django_waf.trusted_user"

/-- `_build_payload`. -/
def buildPayload (ipAddress : String) : String := trustedMarker ++ ":" ++ ipAddress

/-- `payload.partition(":")`, without the separator. -/
def partitionColon (payload : String) : List Char × List Char :=
  (PyStr.splitOnce [':'] payload.toList).getD (payload.toList, [])

/-- `set_trusted_cookie`. -/
def setTrustedCookie (now : ℚ) (peer : PeerMeta) (isSecure : Bool) : SetCookie where
  name := trustedUserCookie
  value := (trustedSigner cf dj).sign now (buildPayload (resolveClientIp cf.toProxyConf peer))
  maxAge := cf.trustedCookieTtl
  domain :=
    match cf.trustedCookieDomain with
    | none => cf.sessionCookieDomain
    | some domain => domain
  httponly := true
  secure := isSecure
  samesite := "Lax"

/-- The end of `has_valid_trusted_cookie`: the marker and the bound address. -/
def boundIp (payload ipAddress : String) : Bool :=
  let (marker, bound) := partitionColon payload
  if marker ≠ trustedMarker.toList then false else bound = ipAddress.toList

/-- `has_valid_trusted_cookie`. -/
def hasValidTrustedCookie (now : ℚ) (cookies : String → Option String) (peer : PeerMeta) : Bool :=
  if !cf.trustedCookieEnabled then false
  else
    match cookies trustedUserCookie with
    | none => false
    | some cookieValue =>
      if cookieValue = "" then false
      else
        match (trustedSigner cf dj).unsign now cookieValue cf.trustedCookieTtl with
        | none => false
        | some payload => boundIp payload (resolveClientIp cf.toProxyConf peer)

/-! ### The receiver and the middleware -/

/-- `set_trusted_cookie_flag_on_login`, for one login. -/
def setTrustedCookieFlagOnLogin (user : AuthUser) : Bool :=
  if !cf.trustedCookieEnabled then false else userMeetsTrustLevel cf user

/-- The cookie `_get_response` sets on the response of a view, which logs in some users. The
receiver is there when the feature was on at startup. -/
def getResponseCookie (connected : Bool) (now : ℚ) (peer : PeerMeta) (isSecure : Bool)
    (logins : List AuthUser) : Option SetCookie :=
  if connected && logins.any (setTrustedCookieFlagOnLogin cf) then
    some (setTrustedCookie cf dj now peer isSecure)
  else none

/-- `_is_staff_user`. -/
def isStaffUser (now : ℚ) (cookies : String → Option String) (peer : PeerMeta)
    (user : Option AuthUser) : Bool :=
  if hasValidTrustedCookie cf dj now cookies peer then true
  else
    match user with
    | none => false
    | some user => user.isAuthenticated && (user.isStaff || user.isSuperuser)

/-! ### What a cookie is bound to -/

/-- **The address of a payload is read back**, whatever it is. -/
theorem boundIp_buildPayload (ip ipAddress : String) :
    boundIp (buildPayload ip) ipAddress = decide (ip = ipAddress) := by
  have hsplit : PyStr.splitOnce [':'] (buildPayload ip).toList =
      some (trustedMarker.toList, ip.toList) := by
    have htext : (buildPayload ip).toList = trustedMarker.toList ++ ':' :: ip.toList := by
      rw [buildPayload, String.toList_append, String.toList_append]
      simp
    have hmarker : ':' ∉ trustedMarker.toList := by decide
    rw [htext]
    exact PyStr.splitOnce_append hmarker ip.toList
  rw [boundIp, partitionColon, hsplit]
  show (if trustedMarker.toList ≠ trustedMarker.toList then false else _) = _
  rw [if_neg (not_not.2 rfl), decide_eq_decide, String.toList_inj]

/-- What is accepted as a trusted cookie. -/
theorem hasValidTrustedCookie_eq_true_iff {now : ℚ} {cookies : String → Option String}
    {peer : PeerMeta} :
    hasValidTrustedCookie cf dj now cookies peer = true ↔
      cf.trustedCookieEnabled = true ∧ ∃ text payload, cookies trustedUserCookie = some text ∧
        text ≠ "" ∧ (trustedSigner cf dj).unsign now text cf.trustedCookieTtl = some payload ∧
        boundIp payload (resolveClientIp cf.toProxyConf peer) = true := by
  rw [hasValidTrustedCookie]
  cases cf.trustedCookieEnabled with
  | false => simp
  | true =>
    rcases cookies trustedUserCookie with - | text
    · simp
    · by_cases hempty : text = ""
      · simp [hempty]
      · rcases hunsign : (trustedSigner cf dj).unsign now text cf.trustedCookieTtl with - | payload
        · simp [hempty, hunsign]
        · simp [hempty, hunsign]

/-- The two ways to be staff. -/
theorem isStaffUser_eq_true_iff {now : ℚ} {cookies : String → Option String} {peer : PeerMeta}
    {user : Option AuthUser} :
    isStaffUser cf dj now cookies peer user = true ↔
      hasValidTrustedCookie cf dj now cookies peer = true ∨
        ∃ u, user = some u ∧ u.isAuthenticated = true ∧ (u.isStaff || u.isSuperuser) = true := by
  rcases user with - | u
  · rw [isStaffUser]
    cases hasValidTrustedCookie cf dj now cookies peer <;> simp
  · rw [isStaffUser]
    cases hasValidTrustedCookie cf dj now cookies peer <;> simp

/-- A login sets the cookie for a user who meets the trust level, and no other does. -/
theorem getResponseCookie_eq_some_iff {connected : Bool} {now : ℚ} {peer : PeerMeta}
    {isSecure : Bool} {logins : List AuthUser} {cookie : SetCookie} :
    getResponseCookie cf dj connected now peer isSecure logins = some cookie ↔
      (connected = true ∧ cf.trustedCookieEnabled = true ∧
        ∃ user ∈ logins, userMeetsTrustLevel cf user = true) ∧
      cookie = setTrustedCookie cf dj now peer isSecure := by
  have hflag (user : AuthUser) : setTrustedCookieFlagOnLogin cf user = true ↔
      cf.trustedCookieEnabled = true ∧ userMeetsTrustLevel cf user = true := by
    rw [setTrustedCookieFlagOnLogin]
    cases cf.trustedCookieEnabled <;> simp
  rw [getResponseCookie]
  split
  · rename_i h
    rw [Bool.and_eq_true, List.any_eq_true] at h
    obtain ⟨hconnected, user, huser, hmeets⟩ := h
    obtain ⟨henabled, hmeets⟩ := (hflag user).1 hmeets
    rw [Option.some.injEq, and_iff_right ⟨hconnected, henabled, user, huser, hmeets⟩, eq_comm]
  · rename_i h
    refine iff_of_false (by simp) fun hall ↦ h ?_
    obtain ⟨⟨hconnected, henabled, user, huser, hmeets⟩, -⟩ := hall
    rw [Bool.and_eq_true, List.any_eq_true]
    exact ⟨hconnected, user, huser, (hflag user).2 ⟨henabled, hmeets⟩⟩

end DjangoWaf
