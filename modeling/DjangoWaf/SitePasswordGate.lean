import DjangoWaf.Services.SitePassword

/-!
# Does the site-password gate answer every guess?

A request to a gated path should continue, with a valid cookie, or get a response of the gate; and
the cookie should be set for a right password alone.

* **The comparison answers exactly the guesses it has no need for and those in ASCII**
  (`checksPassword_iff`): an empty text on either side is refused before it, and any other pair with
  a character beyond ASCII raises `TypeError`, the right guess included.
* **The gate answers every other request** (`gate_answers_iff`). A guess is also left without an
  answer when Django refuses its body, and a right one when Django refuses the host that its `next`
  is checked against or the redirect.
* What does not go wrong is the cookie: it is set for a right guess alone, so under a password
  beyond ASCII for none (`all_isAscii_of_cookie`).
-/

namespace DjangoWaf

open PyBytes

variable (cf : SitePasswordConf) (dj : DjangoHttp) (drop : RateKey → Bool) (now : ℚ)
  (req : SiteRequest) (redis : GuessRedis)

/-! ### What is asked of the gate -/

/-- `check_password` answers whether both texts are there and equal. -/
def ChecksPassword (submitted : String) : Prop :=
  checkPassword cf submitted =
    .ok (cf.sitePassword ≠ "" ∧ submitted ≠ "" ∧ submitted = cf.sitePassword)

/-- A request that continues: the gate is off, the path is exempt, or its cookie is valid. -/
def LetsThrough : Prop :=
  isGateEnabled cf = false ∨ isExemptPath cf req.path = true ∨
    (isMisconfigured cf = false ∧ hasValidCookie cf dj now req = true)

/-- The stored password, submitted to the verify path. -/
def IsRightGuess : Prop :=
  req.method = "POST" ∧ req.path = cf.sitePasswordVerifyPath ∧
    ∃ post, req.post = some post ∧ cf.sitePassword ≠ "" ∧ post "password" = some cf.sitePassword

/-- The gate lets the request through or answers it, and sets the cookie for a right guess alone. -/
def GateAnswers : Prop :=
  ∃ answer, (checkSitePassword cf dj drop now req redis).1 = .ok answer ∧
    (answer = none ↔ LetsThrough cf dj now req) ∧
    ∀ response ∈ answer, response.cookie.isSome = true → IsRightGuess cf req

/-! ### When it does what is asked -/

/-- A guess that is not compared, or that can be. -/
def ComparableGuess (submitted : String) : Prop :=
  cf.sitePassword = "" ∨ submitted = "" ∨
    (submitted.toList.all isAscii = true ∧ cf.sitePassword.toList.all isAscii = true)

/-- A request whose body the gate reads. -/
def IsGuess : Prop :=
  ¬LetsThrough cf dj now req ∧ isMisconfigured cf = false ∧ req.method = "POST" ∧
    req.path = cf.sitePasswordVerifyPath

/-- Django builds the redirect for a `next`, and names the host when there is one to check. -/
def CanRedirect (nextParam : String) : Prop :=
  (nextParam = "" → (dj.httpResponseRedirect "/").isSome = true) ∧
    (nextParam ≠ "" → ∃ host, req.getHost = some host ∧
      (dj.httpResponseRedirect
        (if dj.urlHasAllowedHostAndScheme nextParam host req.isSecure then nextParam
          else "/")).isSome = true)

/-- A readable body with a guess that can be compared, and a redirect for it if it is right. -/
def AnswerableGuess : Prop :=
  ∃ post, req.post = some post ∧ ComparableGuess cf ((post "password").getD "") ∧
    (post "password" = some cf.sitePassword → CanRedirect dj req ((post "next").getD ""))

/-! ### The comparison -/

variable {cf dj drop now req redis}

theorem checkPassword_eq_ok_iff {submitted : String} {right : Bool} :
    checkPassword cf submitted = .ok right ↔ ComparableGuess cf submitted ∧
      right = decide (cf.sitePassword ≠ "" ∧ submitted ≠ "" ∧ submitted = cf.sitePassword) := by
  rw [checkPassword, ComparableGuess]
  split
  · rename_i hempty
    have hwrong : ¬(cf.sitePassword ≠ "" ∧ submitted ≠ "" ∧ submitted = cf.sitePassword) := by
      rintro ⟨hstored, hsubmitted, -⟩
      exact hempty.elim hstored hsubmitted
    rw [decide_eq_false hwrong, Except.ok.injEq]
    constructor
    · rintro rfl
      exact ⟨hempty.imp_right Or.inl, rfl⟩
    · rintro ⟨-, rfl⟩
      rfl
  · rename_i hempty
    obtain ⟨hstored, hsubmitted⟩ := not_or.1 hempty
    rw [compareDigestText_eq_ok_iff]
    simp only [hstored, hsubmitted, false_or, ne_eq, not_false_eq_true, true_and]

/-- **The comparison**: `check_password` does what is asked of it exactly when a text is empty or
both are ASCII. -/
theorem checksPassword_iff {submitted : String} :
    ChecksPassword cf submitted ↔ ComparableGuess cf submitted := by
  rw [ChecksPassword, checkPassword_eq_ok_iff]
  exact and_iff_left rfl

/-- The password of a body, when one is stored. -/
theorem checkPassword_field_iff {field : Option String} {right : Bool}
    (hstored : cf.sitePassword ≠ "") :
    checkPassword cf (field.getD "") = .ok right ↔ ComparableGuess cf (field.getD "") ∧
      right = decide (field = some cf.sitePassword) := by
  have hiff : (cf.sitePassword ≠ "" ∧ field.getD "" ≠ "" ∧ field.getD "" = cf.sitePassword) ↔
      field = some cf.sitePassword := by
    rcases field with - | submitted
    · simp
    · rw [Option.getD_some, Option.some.injEq]
      constructor
      · rintro ⟨-, -, h⟩
        exact h
      · rintro rfl
        exact ⟨hstored, hstored, rfl⟩
  rw [checkPassword_eq_ok_iff, decide_eq_decide.2 hiff]

/-! ### The answer to a guess -/

/-- A right guess is answered when there is a redirect for it. -/
theorem exists_admitGuess_iff {nextParam : String} :
    (∃ response, admitGuess cf dj now req nextParam = .ok response) ↔
      CanRedirect dj req nextParam := by
  rw [admitGuess, safeNext, CanRedirect]
  rcases eq_or_ne nextParam "" with rfl | hnext
  · rw [if_pos rfl]
    rcases hlocation : dj.httpResponseRedirect "/" with - | location
    · simp [hlocation]
    · simp [hlocation]
  · rw [if_neg hnext]
    rcases req.getHost with - | host
    · simp [hnext]
    · simp only [ne_eq, hnext, not_false_eq_true, forall_const, IsEmpty.forall_iff, true_and,
        Option.some.injEq, exists_eq_left']
      generalize (if dj.urlHasAllowedHostAndScheme nextParam host req.isSecure then nextParam
        else "/") = target
      rcases hlocation : dj.httpResponseRedirect target with - | location
      · simp
      · simp

/-- A wrong guess never gets the cookie. -/
theorem refuseGuess_cookie (nextParam : String) :
    (refuseGuess cf drop now req nextParam redis).1.cookie = none := by
  rw [refuseGuess]
  dsimp only
  generalize (if resolveClientIp cf.toProxyConf req.peer = "" then "0.0.0.0"
    else resolveClientIp cf.toProxyConf req.peer) = ipAddress
  split
  · rfl
  · rfl

/-- **The answer to a guess**: there is one exactly for the guesses that can be answered. -/
theorem exists_handle_iff (hstored : cf.sitePassword ≠ "") :
    (∃ response, (handleSitePasswordVerify cf dj drop now req redis).1 = .ok response) ↔
      AnswerableGuess cf dj req := by
  rw [handleSitePasswordVerify, AnswerableGuess]
  rcases req.post with - | post
  · simp
  · dsimp only
    simp only [Option.some.injEq, exists_eq_left']
    rcases hcheck : checkPassword cf ((post "password").getD "") with e | right
    · have hnot : ¬ComparableGuess cf ((post "password").getD "") := by
        intro hcomparable
        have hok := (checkPassword_field_iff hstored).2 ⟨hcomparable, rfl⟩
        cases hcheck.symm.trans hok
      simp [hnot]
    · obtain ⟨hcomparable, hright⟩ := (checkPassword_field_iff hstored).1 hcheck
      rcases right with - | -
      · have hwrong : post "password" ≠ some cf.sitePassword := of_decide_eq_false hright.symm
        simp [hcomparable, hwrong]
      · have heq : post "password" = some cf.sitePassword := of_decide_eq_true hright.symm
        rw [heq] at hcomparable
        simp only [heq, hcomparable, true_and, forall_const]
        exact exists_admitGuess_iff

/-- **The cookie** is set for the stored password, and only where it could be compared. -/
theorem right_of_handle_cookie {response : SiteResponse} (hstored : cf.sitePassword ≠ "")
    (h : (handleSitePasswordVerify cf dj drop now req redis).1 = .ok response)
    (hcookie : response.cookie.isSome = true) :
    ∃ post, req.post = some post ∧ post "password" = some cf.sitePassword ∧
      ComparableGuess cf cf.sitePassword := by
  rw [handleSitePasswordVerify] at h
  rcases hpost : req.post with - | post
  · rw [hpost] at h
    cases h
  · rw [hpost] at h
    dsimp only at h
    rcases hcheck : checkPassword cf ((post "password").getD "") with e | right
    · rw [hcheck] at h
      cases h
    · rw [hcheck] at h
      obtain ⟨hcomparable, hright⟩ := (checkPassword_field_iff hstored).1 hcheck
      rcases right with - | -
      · obtain rfl := Except.ok.inj h
        rw [refuseGuess_cookie] at hcookie
        cases hcookie
      · have heq : post "password" = some cf.sitePassword := of_decide_eq_true hright.symm
        rw [heq] at hcomparable
        exact ⟨post, rfl, heq, hcomparable⟩

/-! ### The gate -/

theorem sitePassword_ne (hsuspended : isMisconfigured cf = false) (hon : isGateEnabled cf = true) :
    cf.sitePassword ≠ "" := by
  rw [isGateEnabled] at hon
  rw [isMisconfigured, hon, Bool.true_and] at hsuspended
  exact of_decide_eq_false hsuspended

theorem checkSitePassword_of_letsThrough (h : LetsThrough cf dj now req) :
    checkSitePassword cf dj drop now req redis = (.ok none, redis) := by
  rw [checkSitePassword]
  rcases hon : isGateEnabled cf with - | -
  · rfl
  · rcases hexempt : isExemptPath cf req.path with - | -
    · obtain ⟨hconfigured, hcookie⟩ : isMisconfigured cf = false ∧
          hasValidCookie cf dj now req = true := by
        rw [LetsThrough, hon, hexempt] at h
        simpa using h
      rw [hconfigured, hcookie]
      rfl
    · rfl

/-- The gate with a request it does not let through: it handles a guess, and prompts any other. -/
theorem checkSitePassword_of_not_letsThrough (h : ¬LetsThrough cf dj now req) :
    (IsGuess cf dj now req ∧ cf.sitePassword ≠ "" ∧
      (checkSitePassword cf dj drop now req redis).1 =
        (handleSitePasswordVerify cf dj drop now req redis).1.map some) ∨
    (¬IsGuess cf dj now req ∧ ∃ error,
      checkSitePassword cf dj drop now req redis =
        (.ok (some (renderSitePasswordPrompt cf req error none)), redis)) := by
  have hnot := h
  rw [LetsThrough, not_or, not_or, Bool.not_eq_false, Bool.not_eq_true] at hnot
  obtain ⟨hon, hexempt, hcookie⟩ := hnot
  rw [checkSitePassword, hon, hexempt]
  rcases hconfigured : isMisconfigured cf with - | -
  · have hinvalid : hasValidCookie cf dj now req = false := by
      simpa [hconfigured] using hcookie
    rw [hinvalid]
    by_cases hpost : req.method = "POST" ∧ req.path = cf.sitePasswordVerifyPath
    · refine Or.inl ⟨⟨h, hconfigured, hpost⟩, sitePassword_ne hconfigured hon, ?_⟩
      simp only [hpost, and_self]
      rfl
    · refine Or.inr ⟨fun hguess ↦ hpost hguess.2.2, none, ?_⟩
      simp only [hpost]
      rfl
  · refine Or.inr ⟨?_, some sitePasswordMisconfiguredError, rfl⟩
    rintro ⟨-, hconfigured', -⟩
    cases hconfigured.symm.trans hconfigured'

/-- **The gate answers every guess it can compare.** -/
theorem gate_answers_iff (cf : SitePasswordConf) (dj : DjangoHttp) (drop : RateKey → Bool) :
    (∀ submitted, ChecksPassword cf submitted ↔ ComparableGuess cf submitted) ∧
    ∀ now req redis, GateAnswers cf dj drop now req redis ↔
      (IsGuess cf dj now req → AnswerableGuess cf dj req) := by
  refine ⟨fun _ ↦ checksPassword_iff, fun now req redis ↦ ?_⟩
  by_cases hthrough : LetsThrough cf dj now req
  · have hnone := @checkSitePassword_of_letsThrough cf dj drop now req redis hthrough
    refine iff_of_true ⟨none, by rw [hnone], iff_of_true rfl hthrough, ?_⟩ ?_
    · simp
    · exact fun hguess ↦ absurd hthrough hguess.1
  · rcases @checkSitePassword_of_not_letsThrough cf dj drop now req redis hthrough with
      ⟨hguess, hstored, hcheck⟩ | ⟨hguess, error, hcheck⟩
    · have hanswered := @exists_handle_iff cf dj drop now req redis hstored
      constructor
      · rintro ⟨answer, hok, -⟩ -
        rw [hcheck] at hok
        refine hanswered.1 ?_
        rcases hhandle : (handleSitePasswordVerify cf dj drop now req redis).1 with e | response
        · rw [hhandle] at hok
          cases hok
        · exact ⟨response, rfl⟩
      · intro h
        obtain ⟨response, hresponse⟩ := hanswered.2 (h hguess)
        refine ⟨some response, by rw [hcheck, hresponse]; rfl, ?_, ?_⟩
        · exact iff_of_false (by simp) hthrough
        · intro response' hmem hcookie
          obtain rfl := Option.some.inj hmem
          obtain ⟨post, hpost, heq, -⟩ := right_of_handle_cookie hstored hresponse hcookie
          exact ⟨hguess.2.2.1, hguess.2.2.2, post, hpost, hstored, heq⟩
    · refine iff_of_true ⟨_, by rw [hcheck], iff_of_false (by simp) hthrough, ?_⟩ ?_
      · intro response hmem hcookie
        obtain rfl := Option.some.inj hmem
        cases hcookie
      · exact fun hguess' ↦ absurd hguess' hguess

/-- A gate whose password is beyond ASCII sets no cookie: it never opens. -/
theorem all_isAscii_of_cookie {response : SiteResponse}
    (h : (checkSitePassword cf dj drop now req redis).1 = .ok (some response))
    (hcookie : response.cookie.isSome = true) : cf.sitePassword.toList.all isAscii = true := by
  by_cases hthrough : LetsThrough cf dj now req
  · rw [checkSitePassword_of_letsThrough hthrough] at h
    cases h
  · rcases checkSitePassword_of_not_letsThrough hthrough with
      ⟨-, hstored, hcheck⟩ | ⟨-, error, hcheck⟩
    · rw [hcheck] at h
      rcases hhandle : (handleSitePasswordVerify cf dj drop now req redis).1 with e | response'
      · rw [hhandle] at h
        cases h
      · rw [hhandle] at h
        obtain rfl := Option.some.inj (Except.ok.inj h)
        obtain ⟨post, -, -, hempty | hempty | hascii⟩ :=
          right_of_handle_cookie hstored hhandle hcookie
        · exact absurd hempty hstored
        · exact absurd hempty hstored
        · exact hascii.2
    · rw [hcheck] at h
      obtain rfl := Option.some.inj (Except.ok.inj h)
      cases hcookie

/-- The default gate, with an accent in its password. -/
def accentGate : SitePasswordConf :=
  .defaults (.standard "" []) ⟨[], false, false⟩
    { burst := 10
      perMinute := 120
      per5min := 600
      paths := []
      paths_nodup := List.nodup_nil
      verifyMax := 20
      verifyWindowSeconds := 300
      prefixHash := id }
    "café"

/-- A Django in which every cookie is bad and every target is allowed. -/
def lenientDjango : DjangoHttp where
  timestampSigner := fun _ _ ↦ ⟨fun _ value ↦ value, fun _ _ _ ↦ none⟩
  urlHasAllowedHostAndScheme := fun _ _ _ ↦ true
  httpResponseRedirect := some

/-- A right guess. -/
def accentGuess : SiteRequest where
  method := "POST"
  path := "/waf/site-password/"
  fullPath := "/waf/site-password/"
  cookies := fun _ ↦ none
  post := some fun name ↦ if name = "password" then some "café" else none
  getHost := some "example.com"
  isSecure := true
  peer := ⟨some "192.0.2.7", none⟩

theorem gate_raises_on_accent :
    checkPassword accentGate "café" =
        .error (.typeError "comparing strings with non-ASCII characters is not supported") ∧
      (checkSitePassword accentGate lenientDjango (fun _ ↦ false) 0 accentGuess .unavailable).1 =
        .error (.typeError "comparing strings with non-ASCII characters is not supported") ∧
      ¬ChecksPassword accentGate "café" ∧
      ¬GateAnswers accentGate lenientDjango (fun _ ↦ false) 0 accentGuess .unavailable := by
  have hpassword : checkPassword accentGate "café" =
      .error (.typeError "comparing strings with non-ASCII characters is not supported") := by
    decide +kernel
  have hgate :
      (checkSitePassword accentGate lenientDjango (fun _ ↦ false) 0 accentGuess .unavailable).1 =
        .error (.typeError "comparing strings with non-ASCII characters is not supported") := by
    decide +kernel
  refine ⟨hpassword, hgate, ?_, ?_⟩
  · intro h
    cases hpassword.symm.trans h
  · rintro ⟨answer, hok, -⟩
    cases hgate.symm.trans hok

end DjangoWaf
