import DjangoWaf.Lib.IpAddressText
import DjangoWaf.PassCookie
import DjangoWaf.SiteRuns

/-!
# What lets a request past evaluation?

A request that gets as far as its cookies goes past evaluation exactly when it has earned it
(`bypass_iff_earned`): by being sent by staff, by an earlier login, or by an earlier solution.

* **A pass cookie is accepted exactly while a solution stands behind it** (`passed_iff_solved`), one
  that was sent from an address with the same normal form. Its lifetime is the one that was set at
  the solution.
* **A trusted cookie is accepted exactly while a login stands behind it** (`trusted_iff_logged_in`),
  one from the same address, compared as a text. Its lifetime is the one that is set now; the user
  and the trust level are those of the login.

The cookies are unforgeable: a text that carries a right signature was set by a response of the run.
The settings may change from request to request; the keys stay.
-/

namespace DjangoWaf

open PyBytes

/-! ### A pass cookie, for any address -/

theorem mem_dropWhile {α : Type*} {p : α → Bool} {a : α} {l : List α} (ha : a ∈ l)
    (hp : p a = false) : a ∈ l.dropWhile p := by
  rw [← List.takeWhile_append_dropWhile (p := p) (l := l)] at ha
  rcases List.mem_append.1 ha with htake | hdrop
  · rw [List.mem_takeWhile_imp htake] at hp
    cases hp
  · exact hdrop

/-- Nothing but digits and underscores is read as a number. -/
theorem of_readDigits {cs : List Char} {ds : List ℕ} (h : readDigits cs = some ds) :
    ∀ c ∈ cs, c = '_' ∨ (decimalValue c).isSome = true := by
  fun_induction readDigits cs generalizing ds with
  | case1 => cases h
  | case2 c cs hnone => cases h
  | case3 c d hd =>
    intro a ha
    rw [List.mem_singleton.1 ha, hd]
    exact .inr rfl
  | case4 c d cs hd ih =>
    obtain ⟨ds', hds', -⟩ := Option.map_eq_some_iff.1 h
    intro a ha
    rcases List.mem_cons.1 ha with rfl | ha
    · exact .inr (by rw [hd]; rfl)
    · rcases List.mem_cons.1 ha with rfl | ha
      · exact .inl rfl
      · exact ih hds' a ha
  | case5 c d c' cs hne hd ih =>
    obtain ⟨ds', hds', -⟩ := Option.map_eq_some_iff.1 h
    intro a ha
    rcases List.mem_cons.1 ha with rfl | ha
    · exact .inr (by rw [hd]; rfl)
    · exact ih hds' a ha

/-- The delimiter is no part of a number. -/
theorem pyIntOfText_of_delim {s : List Char} (h : '|' ∈ s) : pyIntOfText s = none := by
  have hstrip : '|' ∈ (PyStr.stripText (String.ofList s)).toList := by
    have hspace : PyStr.isSpaceChar '|' = false := by decide
    rw [PyStr.stripText, String.toList_ofList, String.toList_ofList, List.mem_reverse]
    exact mem_dropWhile (List.mem_reverse.2 (mem_dropWhile h hspace)) hspace
  have hread : ∀ {cs : List Char}, '|' ∈ cs → readDigits cs = none := by
    intro cs hcs
    rcases hds : readDigits cs with - | ds
    · rfl
    · rcases of_readDigits hds '|' hcs with hunder | hdigit
      · exact absurd hunder (by decide)
      · exact absurd hdigit (by decide)
  rw [pyIntOfText]
  generalize (PyStr.stripText (String.ofList s)).toList = cs at hstrip
  split
  rename_i negative digits hmatch
  have hdigits : '|' ∈ digits := by
    split at hmatch
    · obtain ⟨-, rfl⟩ := Prod.mk.inj hmatch
      exact (List.mem_cons.1 hstrip).resolve_left (by decide)
    · obtain ⟨-, rfl⟩ := Prod.mk.inj hmatch
      exact (List.mem_cons.1 hstrip).resolve_left (by decide)
    · obtain ⟨-, rfl⟩ := Prod.mk.inj hmatch
      exact hstrip
  rw [hread hdigits]

/-- **A cookie whose address has a delimiter admits nobody**, the address itself included. -/
theorem validatePassCookie_of_delim {cf : ChallengeConf} {token ip value : String} {t : ℚ}
    (hhex : ∀ c ∈ token.toList, IsHex c) (hdelim : '|' ∈ (normaliseIp ip).toList)
    (h : issuePassCookie cf token ip t = .ok value) (ipAddress : String) (time : ℚ) :
    validatePassCookie cf.toSigning value ipAddress time = .ok false := by
  obtain ⟨front, rest, hnot, haddress⟩ : ∃ front rest, '|' ∉ front ∧
      (normaliseIp ip).toList = front ++ '|' :: rest := by
    obtain ⟨front, rest, heq, hnot⟩ := List.eq_append_cons_of_mem hdelim
    exact ⟨front, rest, hnot, heq⟩
  rw [issuePassCookie] at h
  dsimp only at h
  split_ifs at h
  obtain rfl := Except.ok.inj h
  generalize PyStr.truncate t + cf.cookieTtl = expiry
  have htext : (passCookiePrefix token (normaliseIp ip) expiry).toList = "v2".toList ++ '|' ::
      (token.toList ++ '|' :: (front ++ '|' :: (rest ++ '|' :: intText expiry))) := by
    rw [passCookiePrefix, String.toList_ofList, PyStr.join_cons_cons, PyStr.join_cons_cons,
      PyStr.join_cons_cons, PyStr.join_singleton, haddress]
    simp
  have hsplit : splitPrefix (passCookiePrefix token (normaliseIp ip) expiry).toList =
      some ("v2".toList, token.toList, front, rest ++ '|' :: intText expiry) := by
    rw [htext, splitPrefix, PyStr.splitOnce_append (by decide)]
    simp only [Option.bind_eq_bind, Option.bind_some]
    rw [PyStr.splitOnce_append (delim_not_mem_of_isHex hhex)]
    simp only [Option.bind_some]
    rw [PyStr.splitOnce_append hnot]
    rfl
  generalize passCookiePrefix token (normaliseIp ip) expiry = signed at hsplit ⊢
  have hvalue : (signed ++ "|" ++ String.ofList (hmacSign cf.toSigning signed)).toList =
      signed.toList ++ '|' :: hmacSign cf.toSigning signed := by
    rw [String.toList_append, String.toList_append, String.toList_ofList]
    simp
  have hrsplit : rsplitOnce '|' (signed.toList ++ '|' :: hmacSign cf.toSigning signed) =
      some (signed.toList, hmacSign cf.toSigning signed) :=
    rsplitOnce_append '|' _ (delim_not_mem_hexdigest _)
  have hdigest : compareDigest (hmacSign cf.toSigning signed) (hmacSign cf.toSigning signed) =
      .ok true := compareDigest_self _
  have hnumber : pyIntOfText (rest ++ '|' :: intText expiry) = none :=
    pyIntOfText_of_delim (List.mem_append_right _ List.mem_cons_self)
  rw [validatePassCookie, readPassCookie, hvalue, hrsplit]
  dsimp only
  rw [String.ofList_toList, hdigest]
  dsimp only
  rw [hsplit]
  dsimp only
  rw [if_neg (not_not.2 rfl), hnumber]

/-- **Whom a cookie admits, and how long.** -/
theorem validatePassCookie_set_iff {cf : ChallengeConf} {token ip value : String} {t : ℚ}
    (hhex : ∀ c ∈ token.toList, IsHex c) (ht : 0 ≤ t)
    (h : issuePassCookie cf token ip t = .ok value) (ipAddress : String) (time : ℚ) :
    validatePassCookie cf.toSigning value ipAddress time = .ok true ↔
      '|' ∉ (normaliseIp ip).toList ∧ normaliseIp ip = normaliseIp ipAddress ∧
        time ≤ (t.floor + cf.cookieTtl : ℤ) := by
  by_cases hdelim : '|' ∈ (normaliseIp ip).toList
  · rw [validatePassCookie_of_delim hhex hdelim h]
    exact iff_of_false (by simp) fun hall ↦ hall.1 hdelim
  · have hissue : (PassCookieIssue.mk token ip t hhex hdelim ht).cookie cf = .ok value := h
    rw [validatePassCookie_issued hissue]
    simp [hdelim]

section Runs

variable {k : Signing} {dj : DjangoViews} {cols : ChallengeColumns} {s₀ s : SiteState}
  {es : List SiteEvent}

/-! ### Whom the cookies admit -/

/-- **Unforgeability** of the pass cookie of a request: a text that ends in the signature of what
stands before it was set by a response of the run. -/
def PassUnforged (k : Signing) (es : List SiteEvent) (cookies : String → Option String) : Prop :=
  ∀ text, cookies "waf_pass" = some text →
    (∃ front, text.toList = front ++ '|' :: hmacSign k (.ofList front)) → WasSet es "waf_pass" text

/-- What is accepted ends in the signature of what stands before it. -/
theorem signed_of_validatePassCookie {text ipAddress : String} {time : ℚ}
    (h : validatePassCookie k text ipAddress time = .ok true) :
    ∃ front, text.toList = front ++ '|' :: hmacSign k (.ofList front) := by
  refine signed_of_readPassCookie k text ipAddress time ?_
  rw [validatePassCookie] at h
  split at h
  · next hread => rw [hread, Except.ok.inj h]
  all_goals cases h

theorem hasPassCookie_eq_true_iff {cf : SiteConf} {now : ℚ} {cookies : String → Option String}
    {ipAddress : String} :
    hasPassCookie cf now cookies ipAddress = true ↔ ∃ text, cookies "waf_pass" = some text ∧
      validatePassCookie cf.toSigning text ipAddress now = .ok true := by
  rw [hasPassCookie]
  rcases cookies "waf_pass" with - | text
  · exact iff_of_false (by simp) (by simp)
  · simp only [Option.getD_some, Option.some.injEq, exists_eq_left']
    split
    · rename_i hempty
      -- an empty text has no delimiter
      refine iff_of_false (by simp) ?_
      rw [hempty]
      rintro ⟨⟩
    · rcases validatePassCookie cf.toSigning text ipAddress now with e | valid
      · simp
      · simp

/-- **Whom a pass cookie admits.** -/
theorem PassedIn.admits_iff {v : Arrival} {token : String} {nonce : PyText} {cookie : SetCookie}
    (h : PassedIn k cols es v token nonce cookie) (ipAddress : String) (time : ℚ) :
    validatePassCookie k cookie.value ipAddress time = .ok true ↔
      '|' ∉ (normaliseIp (getIp v.cf v.req)).toList ∧
        normaliseIp (getIp v.cf v.req) = normaliseIp ipAddress ∧
        time ≤ (v.env.now.floor + v.cf.cookieTtl : ℤ) := by
  have hcookie := h.cookie
  rw [passCookie] at hcookie
  split at hcookie
  · cases hcookie
  · rename_i value hissue
    obtain rfl := Option.some.inj hcookie
    rw [← h.key]
    exact validatePassCookie_set_iff h.isHex.2 h.time_nonneg hissue ipAddress time

/-- **A pass cookie is accepted exactly while a solution stands behind it**: it was set for an
accepted solution of the run, sent from an address with the same normal form, and its lifetime at
that time is not over. -/
theorem passed_iff_solved (hfresh : s₀.Fresh) (hrun : Run (SiteStep k dj cols) s₀ es s)
    (v : Arrival) (hkey : v.cf.toSigning = k) (hunforged : PassUnforged k es v.req.cookies) :
    hasPassCookie v.cf v.env.now v.req.cookies (extractIp v.cf v.req) = true ↔
      ∃ v' token nonce cookie, PassedIn k cols es v' token nonce cookie ∧
        v.req.cookies "waf_pass" = some cookie.value ∧
        '|' ∉ (normaliseIp (getIp v'.cf v'.req)).toList ∧
        normaliseIp (getIp v'.cf v'.req) = normaliseIp (extractIp v.cf v.req) ∧
        v.env.now ≤ (v'.env.now.floor + v'.cf.cookieTtl : ℤ) := by
  rw [hasPassCookie_eq_true_iff, hkey]
  constructor
  · rintro ⟨text, htext, hvalid⟩
    obtain ⟨v', reply, created, hmem, cookie, hcookie, hname, rfl⟩ :=
      hunforged text htext (signed_of_validatePassCookie hvalid)
    obtain ⟨token, nonce, hpassed⟩ := passedIn_of_mem hfresh hrun hmem hcookie hname
    exact ⟨v', token, nonce, cookie, hpassed, htext, (hpassed.admits_iff _ _).1 hvalid⟩
  · rintro ⟨v', token, nonce, cookie, hpassed, htext, hadmits⟩
    exact ⟨cookie.value, htext, (hpassed.admits_iff _ _).2 hadmits⟩

/-! ### Logins -/

/-- A `TimestampSigner` as Django documents it: what it signs it accepts, until the time of the
signature, in whole seconds, is too long ago. -/
structure TimestampSigner.Lawful (signer : TimestampSigner) : Prop where
  sign_ne_empty : ∀ t payload, signer.sign t payload ≠ ""
  unsign_sign : ∀ t payload now maxAge, 0 ≤ t → signer.unsign now (signer.sign t payload) maxAge =
    if now - t.floor ≤ maxAge then some payload else none

/-- The signer of the trusted cookie under a key. -/
def loginSigner (k : Signing) (dj : DjangoHttp) : TimestampSigner :=
  dj.timestampSigner k.getSigningKey "django_waf.trusted_user"

/-- **Unforgeability** of the trusted cookie of a request: a text the signer accepts at some time
was set by a response of the run. -/
def LoginUnforged (k : Signing) (dj : DjangoHttp) (es : List SiteEvent)
    (cookies : String → Option String) : Prop :=
  ∀ text, cookies trustedUserCookie = some text →
    (∃ now maxAge payload, (loginSigner k dj).unsign now text maxAge = some payload) →
      WasSet es trustedUserCookie text

/-- A login of the history that was answered with a cookie: the receiver was connected, the feature
was on, and a user who was logged in met the trust level. -/
structure LoginIn (k : Signing) (dj : DjangoHttp) (es : List SiteEvent) (v : Arrival)
    (user : AuthUser) (text : String) : Prop where
  served : ∃ reply created, .served v reply created ∈ es ∧ reply.view = some .site
  login : ∃ logins, v.routed = .site logins ∧ user ∈ logins
  connected : v.connected = true
  enabled : v.cf.trustedCookieEnabled = true
  meets : userMeetsTrustLevel v.cf.toTrustedConf user = true
  time_nonneg : 0 ≤ v.env.now
  text : text = (loginSigner k dj).sign v.env.now (buildPayload (extractIp v.cf v.req))

/-- **A trusted cookie was set for a login.** -/
theorem loggedIn_of_wasSet (hrun : Run (SiteStep k dj cols) s₀ es s) {text : String}
    (h : WasSet es trustedUserCookie text) :
    ∃ v user, LoginIn k dj.toDjangoHttp es v user text := by
  obtain ⟨v, reply, created, hmem, cookie, hcookie, hname, rfl⟩ := h
  obtain ⟨pre, post, rfl⟩ := List.append_of_mem hmem
  obtain ⟨u, w, -, hstep⟩ := hrun.at_label
  cases hstep with
  | served _ hkey hnow hhex =>
    cases cookieSpec_serve hcookie with
    | gate hgate => exact absurd (hname.symm.trans hgate) (by decide)
    | solved token hpass =>
      exact absurd ((name_of_passCookie hpass.cookie).symm.trans hname) (by decide)
    | login logins hrouted hview hset =>
      obtain ⟨⟨hconnected, henabled, user, huser, hmeets⟩, rfl⟩ :=
        (getResponseCookie_eq_some_iff _ _).1 hset
      refine ⟨v, user, ⟨_, _, hmem, hview⟩, ⟨logins, hrouted, huser⟩, hconnected, henabled, hmeets,
        hnow, ?_⟩
      rw [← hkey]
      rfl

/-- **A trusted cookie is accepted exactly while a login stands behind it**: the feature is on, the
cookie was set for a login of the run from the same address, and it is not older than the lifetime
that is set now. -/
theorem trusted_iff_logged_in (hsigner : (loginSigner k dj.toDjangoHttp).Lawful)
    (hrun : Run (SiteStep k dj cols) s₀ es s) (v : Arrival) (hkey : v.cf.toSigning = k)
    (hunforged : LoginUnforged k dj.toDjangoHttp es v.req.cookies) :
    hasValidTrustedCookie v.cf.toTrustedConf dj.toDjangoHttp v.env.now v.req.cookies v.req.peer =
        true ↔
      v.cf.trustedCookieEnabled = true ∧ ∃ v' user text,
        LoginIn k dj.toDjangoHttp es v' user text ∧
        v.req.cookies trustedUserCookie = some text ∧
        extractIp v'.cf v'.req = extractIp v.cf v.req ∧
        v.env.now - v'.env.now.floor ≤ v.cf.trustedCookieTtl := by
  rw [hasValidTrustedCookie_eq_true_iff]
  have hsign : trustedSigner v.cf.toTrustedConf dj.toDjangoHttp =
      loginSigner k dj.toDjangoHttp := by
    rw [← hkey]
    rfl
  rw [hsign]
  refine and_congr_right fun _ ↦ ⟨?_, ?_⟩
  · rintro ⟨text, payload, htext, -, hunsign, hbound⟩
    obtain ⟨v', user, hlogin⟩ :=
      loggedIn_of_wasSet hrun (hunforged text htext ⟨_, _, payload, hunsign⟩)
    rw [hlogin.text, hsigner.unsign_sign _ _ _ _ hlogin.time_nonneg] at hunsign
    split_ifs at hunsign with hage
    obtain rfl := Option.some.inj hunsign
    rw [boundIp_buildPayload] at hbound
    exact ⟨v', user, text, hlogin, htext, of_decide_eq_true hbound, hage⟩
  · rintro ⟨v', user, text, hlogin, htext, hip, hage⟩
    refine ⟨text, buildPayload (extractIp v'.cf v'.req), htext, ?_, ?_, ?_⟩
    · rw [hlogin.text]
      exact hsigner.sign_ne_empty _ _
    · rw [hlogin.text, hsigner.unsign_sign _ _ _ _ hlogin.time_nonneg, if_pos hage]
    · rw [boundIp_buildPayload]
      exact decide_eq_true hip

/-! ### Past evaluation -/

/-- The request gets as far as the cookies: no gate in front of them answers it or waves it
through, and there is a Redis to evaluate it with. -/
structure Arrival.Reaches (v : Arrival) (dj : DjangoHttp) (s : SiteState) : Prop where
  gated : v.req.Gated v.cf
  password : (v.req.summary v.cf dj v.env s.world).sitePassword = false
  method : (v.cf.waf.allowedMethods.any fun allowed ↦ !allowed.contains v.req.method) = false
  address : extractIp v.cf v.req ≠ ""
  country : checkCountryBlock v.cf v.env (extractIp v.cf v.req) = false
  redis : v.cf.waf.hasRedis = true

/-- What a request can have earned its way past evaluation with. -/
inductive Earned (k : Signing) (dj : DjangoHttp) (cols : ChallengeColumns) (es : List SiteEvent)
    (v : Arrival) : Prop
  /-- It is sent by staff. -/
  | staff (user : AuthUser) (huser : v.req.user = some user) (hauth : user.isAuthenticated = true)
    (hstaff : (user.isStaff || user.isSuperuser) = true)
  /-- An earlier login from the same address. -/
  | login (henabled : v.cf.trustedCookieEnabled = true) (v' : Arrival) (user : AuthUser)
    (text : String) (h : LoginIn k dj es v' user text)
    (htext : v.req.cookies trustedUserCookie = some text)
    (hip : extractIp v'.cf v'.req = extractIp v.cf v.req)
    (hage : v.env.now - v'.env.now.floor ≤ v.cf.trustedCookieTtl)
  /-- An earlier solution from the same address. -/
  | solution (v' : Arrival) (token : String) (nonce : PyText) (cookie : SetCookie)
    (h : PassedIn k cols es v' token nonce cookie)
    (htext : v.req.cookies "waf_pass" = some cookie.value)
    (hdelim : '|' ∉ (normaliseIp (getIp v'.cf v'.req)).toList)
    (hip : normaliseIp (getIp v'.cf v'.req) = normaliseIp (extractIp v.cf v.req))
    (hage : v.env.now ≤ (v'.env.now.floor + v'.cf.cookieTtl : ℤ))

end Runs

/-! ### A visitor who comes back -/

theorem lawful_decimalSigner (key : List UInt8) (salt : String) :
    (decimalSigner key salt).Lawful := by
  constructor
  case sign_ne_empty =>
    intro t payload h
    have hlist := congrArg String.toList h
    rw [decimalSigner, String.toList_ofList, List.append_assoc] at hlist
    simp at hlist
  case unsign_sign =>
    intro t payload now maxAge ht
    have hcolon (d : Digest) : ':' ∉ d.hexdigest := fun h ↦
      (Digest.isHex_of_mem_hexdigest h).ne_of_forall (by decide) rfl
    have hdigits (n : ℕ) : ':' ∉ Nat.toDigits 10 n := IpAddress.not_mem_toDigits (by decide) n
    have hstamp : (PyStr.ofDigits (Nat.toDigits 10 t.floor.toNat) : ℚ) = t.floor := by
      rw [IpAddress.pyOfDigits_toDigits]
      have hfloor : (0 : ℤ) ≤ t.floor := Rat.le_floor_iff.2 ht
      exact_mod_cast Int.toNat_of_nonneg hfloor
    rw [decimalSigner]
    dsimp only
    rw [String.toList_ofList, rsplitOnce_append ':' _ (hcolon _)]
    simp only [Option.bind_eq_bind, Option.bind_some, if_true]
    rw [rsplitOnce_append ':' _ (hdigits _)]
    simp only [Option.bind_some, hstamp, String.ofList_toList]

/-- The visitor comes back with the cookie. -/
def visitorReturn : Arrival :=
  ⟨visitorConf, visitorEnv 3, true,
    visitorRequest "GET" "/" (fun name ↦
      if name = "waf_pass" then
        (passCookie visitorConf (visitorEnv 1) visitorSolution.req (repeatedToken '2' '9')).map
          (·.value)
      else none) .invalidJson, .site []⟩

section

variable {k : Signing} {dj : DjangoViews} {cols : ChallengeColumns} {s₀ s : SiteState}
  {es : List SiteEvent}

/-- **Where a request gets as far as the cookies, it goes past evaluation exactly when it has earned
it**: by being sent by staff, by an earlier login from its address, or by the proof of work of an
earlier challenge for its address. -/
theorem bypass_iff_earned (hsigner : (loginSigner k dj.toDjangoHttp).Lawful) (hfresh : s₀.Fresh)
    (hrun : Run (SiteStep k dj cols) s₀ es s) (v : Arrival) (hkey : v.cf.toSigning = k)
    (hpass : PassUnforged k es v.req.cookies)
    (hlogin : LoginUnforged k dj.toDjangoHttp es v.req.cookies)
    (hreaches : v.Reaches dj.toDjangoHttp s) :
    (v.serve dj cols s).1.door = .handled ⟨none, .view⟩ ↔
      Earned k dj.toDjangoHttp cols es v := by
  rw [door_serve, callHttp_eq_bypass_iff hreaches.gated hreaches.password hreaches.method
    hreaches.address hreaches.country hreaches.redis, isStaffUser_eq_true_iff,
    trusted_iff_logged_in hsigner hrun v hkey hlogin, passed_iff_solved hfresh hrun v hkey hpass]
  constructor
  · rintro ((⟨henabled, v', user, text, hin, htext, hip, hage⟩ | ⟨user, huser, hauth, hstaff⟩) |
      ⟨v', token, nonce, cookie, hin, htext, hdelim, hip, hage⟩)
    · exact .login henabled v' user text hin htext hip hage
    · exact .staff user huser hauth hstaff
    · exact .solution v' token nonce cookie hin htext hdelim hip hage
  · rintro (⟨user, huser, hauth, hstaff⟩ | ⟨henabled, v', user, text, hin, htext, hip, hage⟩ |
      ⟨v', token, nonce, cookie, hin, htext, hdelim, hip, hage⟩)
    · exact .inl (.inr ⟨user, huser, hauth, hstaff⟩)
    · exact .inl (.inl ⟨henabled, v', user, text, hin, htext, hip, hage⟩)
    · exact .inr ⟨v', token, nonce, cookie, hin, htext, hdelim, hip, hage⟩

end

theorem bypass_iff_earned_visitor :
    (visitorReturn.serve visitorDjango solverColumns afterSolution).1.door =
      .handled ⟨none, .view⟩ := by
  obtain ⟨cookie, hmem, hname⟩ := exists_visitorPass
  obtain ⟨token, nonce, hpassed⟩ :=
    passedIn_of_mem fresh_emptySite visitor_run visitorSolution_mem hmem hname
  obtain rfl : repeatedToken '2' '9' = token := by
    obtain ⟨next, hbody⟩ := hpassed.body
    exact Option.some.inj (VerifyBody.fields.inj hbody).1
  have hsigner : (loginSigner (.standard "" []) visitorDjango.toDjangoHttp).Lawful :=
    lawful_decimalSigner _ _
  have hcookie : visitorReturn.req.cookies "waf_pass" = some cookie.value :=
    congrArg (Option.map SetCookie.value) hpassed.cookie
  refine (bypass_iff_earned hsigner fresh_emptySite visitor_run visitorReturn rfl ?_ ?_ ?_).2
    (.solution visitorSolution _ nonce cookie hpassed hcookie ?_ ?_ ?_)
  · intro text htext _
    rw [hcookie] at htext
    exact ⟨_, _, _, visitorSolution_mem, cookie, hmem, hname, Option.some.inj htext⟩
  · rintro text ⟨⟩
  · exact ⟨⟨rfl, by decide, by decide⟩, rfl, rfl, by decide, rfl, by decide⟩
  · decide
  · rfl
  · decide

end DjangoWaf
