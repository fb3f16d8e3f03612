import DjangoWaf.Store

/-!
# Fingerprints and user agents

`services/fingerprint.py` and `services/ua_analyser.py`: scores read off the request's own headers.
The patterns here are the package's own constants, so they are spelled out on the text instead of
being handed to `re`.

## The one conversion that can raise

`Chrome/(\d+)` captures a run of digits of the client's choosing and hands it to `int`, which
refuses more than `4300` digits with `ValueError`. Everything else in this module is total, so the
user agents that are classified are exactly those whose **first** such run is short enough
(`ChromeDigitsFit`, `classifyFingerprint_of_fit`, `classifyFingerprint_of_not_fit`).

Scores are sums of halves, exact in binary floating point and in `ℚ` alike.
-/

namespace DjangoWaf

/-- `request.META`, as a mapping. -/
abbrev Meta := List (String × String)

/-- `meta.get(header, "")`. -/
def Meta.get (m : Meta) (header : String) : String := (m.lookup header).getD ""

/-- `_FINGERPRINT_HEADERS`. -/
def fingerprintHeaders : List String :=
  ["HTTP_ACCEPT", "HTTP_ACCEPT_LANGUAGE", "HTTP_ACCEPT_ENCODING", "HTTP_SEC_CH_UA",
    "HTTP_SEC_CH_UA_MOBILE", "HTTP_SEC_CH_UA_PLATFORM", "HTTP_SEC_FETCH_SITE",
    "HTTP_SEC_FETCH_MODE", "HTTP_SEC_FETCH_DEST", "HTTP_SEC_FETCH_USER", "HTTP_CONNECTION",
    "HTTP_UPGRADE_INSECURE_REQUESTS"]

/-- `compute_fingerprint`. -/
def computeFingerprint (cf : Conf) (m : Meta) : String :=
  cf.sha256 ("|".intercalate
    (fingerprintHeaders.map fun h ↦ PyStr.lower (PyStr.stripText (m.get h))))

/-! ### The mismatch score -/

/-- The digits `_CHROMIUM_UA_RE` captures, where it first matches. -/
def chromeVersion (userAgent : String) : Option (List Char) :=
  PyStr.search (fun s ↦ (PyStr.literal "Chrome/" s).bind fun rest ↦
    let digits := rest.takeWhile PyStr.isDigit
    if digits = [] then none else some digits) userAgent.toList

/-- `_SEC_FETCH_BROWSERS_RE.search`. -/
def claimsSecFetchBrowser (userAgent : String) : Bool :=
  (PyStr.search (fun s ↦
    (PyStr.literals ["Chrome/", "Firefox/", "Safari/", "Edge/", "Opera/"] s).bind
      (PyStr.oneOf PyStr.isDigit)) userAgent.toList).isSome

/-- `int(digits)`: CPython converts at most `4300` digits. -/
def pyInt (digits : List Char) : Except PyError ℕ :=
  if digits.length ≤ 4300 then .ok (PyStr.ofDigits digits) else .error .valueError

/-- The four checks of `score_fingerprint_mismatch`, given the version the first one converted. -/
def mismatchScore (userAgent : String) (m : Meta) (version : Option ℕ) : ℚ :=
  let chromium : ℚ :=
    if (∃ v ∈ version, 89 ≤ v) ∧ m.get "HTTP_SEC_CH_UA" = "" then 2 else 0
  let secFetch : ℚ :=
    if claimsSecFetchBrowser userAgent ∧ m.get "HTTP_SEC_FETCH_SITE" = "" ∧
      m.get "HTTP_SEC_FETCH_MODE" = "" ∧ m.get "HTTP_SEC_FETCH_DEST" = "" then 3 / 2 else 0
  let acceptLang := PyStr.stripText (m.get "HTTP_ACCEPT_LANGUAGE")
  let language : ℚ :=
    if claimsSecFetchBrowser userAgent ∧ (acceptLang = "" ∨ acceptLang = "*") then 1 else 0
  let acceptValue := PyStr.stripText (m.get "HTTP_ACCEPT")
  let accept : ℚ :=
    if claimsSecFetchBrowser userAgent ∧ (acceptValue = "*/*" ∨ acceptValue = "") then 1 / 2 else 0
  min (chromium + secFetch + language + accept) 5

/-- `score_fingerprint_mismatch`. -/
def scoreFingerprintMismatch (userAgent : String) (m : Meta) : Except PyError ℚ :=
  if userAgent = "" then .ok 0
  else
    match chromeVersion userAgent with
    | none => .ok (mismatchScore userAgent m none)
    | some digits => (pyInt digits).map fun v ↦ mismatchScore userAgent m (some v)

/-- The values of `classify_fingerprint`. -/
inductive FingerprintVerdict
  | browser
  | bot
  | suspicious
  | unknown
  deriving DecidableEq, Repr

/-- `classify_fingerprint`. -/
def classifyFingerprint (userAgent : String) (m : Meta) : Except PyError FingerprintVerdict :=
  (scoreFingerprintMismatch userAgent m).map fun mismatch ↦
    if 3 ≤ mismatch then .bot
    else if 3 / 2 ≤ mismatch then .suspicious
    else if userAgent = "" then .unknown
    else if (chromeVersion userAgent).isNone ∧ claimsSecFetchBrowser userAgent = false then .unknown
    else .browser

/-- `is_known_fingerprint`. -/
def isKnownFingerprint (redis : Redis) (now : ℚ) (fpHash : String) : Bool :=
  if fpHash = "" then false else (redis.knownFp.get now fpHash).isSome

/-- `register_known_fingerprint`. -/
def registerKnownFingerprint (redis : Redis) (now : ℚ) (fpHash : String) : Redis :=
  if fpHash = "" then redis
  else { redis with knownFp := (redis.knownFp.incr now fpHash).expire now fpHash 2592000 }

/-! ### When the score exists -/

/-- The first version the user agent claims for Chrome is one `int` converts. -/
def ChromeDigitsFit (userAgent : String) : Prop :=
  ∀ digits ∈ chromeVersion userAgent, digits.length ≤ 4300

instance (userAgent : String) : Decidable (ChromeDigitsFit userAgent) :=
  match h : chromeVersion userAgent with
  | none => isTrue (by simp [ChromeDigitsFit, h])
  | some digits => decidable_of_iff (digits.length ≤ 4300) (by simp [ChromeDigitsFit, h])

/-- An empty user agent claims no version. -/
theorem chromeVersion_empty : chromeVersion "" = none := by decide

/-- **Which user agents the mismatch score refuses**, and with which exception. -/
theorem scoreFingerprintMismatch_cases (userAgent : String) (m : Meta) :
    (ChromeDigitsFit userAgent ∧ ∃ score, scoreFingerprintMismatch userAgent m = .ok score) ∨
      (¬ChromeDigitsFit userAgent ∧
        scoreFingerprintMismatch userAgent m = .error .valueError) := by
  rw [scoreFingerprintMismatch]
  split
  · rename_i hempty
    refine Or.inl ⟨?_, 0, rfl⟩
    intro digits hd
    rw [hempty, chromeVersion_empty] at hd
    exact absurd hd (Option.not_mem_none _)
  · rcases h : chromeVersion userAgent with - | digits
    · exact Or.inl ⟨fun digits hd ↦ absurd (h ▸ hd) (Option.not_mem_none _), _, rfl⟩
    · by_cases hfit : digits.length ≤ 4300
      · refine Or.inl ⟨fun digits' hd ↦ ?_, mismatchScore userAgent m (PyStr.ofDigits digits), ?_⟩
        · obtain rfl := Option.some.inj (h.symm.trans hd)
          exact hfit
        · simp [pyInt, hfit, Except.map]
      · refine Or.inr ⟨fun hall ↦ hfit (hall digits h), ?_⟩
        simp [pyInt, hfit, Except.map]

theorem classifyFingerprint_of_fit {userAgent : String} (m : Meta) (h : ChromeDigitsFit userAgent) :
    ∃ v, classifyFingerprint userAgent m = .ok v := by
  rcases scoreFingerprintMismatch_cases userAgent m with ⟨-, score, hs⟩ | ⟨hn, -⟩
  · rw [classifyFingerprint, hs]
    exact ⟨_, rfl⟩
  · exact absurd h hn

theorem classifyFingerprint_of_not_fit {userAgent : String} (m : Meta)
    (h : ¬ChromeDigitsFit userAgent) : classifyFingerprint userAgent m = .error .valueError := by
  rcases scoreFingerprintMismatch_cases userAgent m with ⟨hf, -⟩ | ⟨-, hs⟩
  · exact absurd hf h
  · rw [classifyFingerprint, hs]
    rfl

/-! ### User-agent anomalies -/

/-- `_RE_ANCIENT_BROWSER.search`. -/
def isAncientBrowser (userAgent : String) : Bool :=
  let msie := PyStr.search (fun s ↦ (PyStr.literal "MSIE" s).bind fun rest ↦
    let version := rest.dropWhile PyStr.isSpaceChar
    if version.length < rest.length then
      (PyStr.oneOf (fun c ↦ '1' ≤ c && c ≤ '7') version).bind (PyStr.literal ".")
    else none) userAgent.toList
  let numbered (name : String) (last : Char) := PyStr.search (fun s ↦ (PyStr.literal name s).bind
    fun rest ↦ (PyStr.oneOf (fun c ↦ '1' ≤ c && c ≤ last) rest).bind fun rest ↦
      (PyStr.literal "." rest).bind (PyStr.oneOf PyStr.isDigit)) userAgent.toList
  msie.isSome || (numbered "Firefox/" '3').isSome || (numbered "Opera/" '9').isSome

/-- The impossible combinations of an operating system and a device. -/
def isImpossibleCombo (userAgent : String) : Bool :=
  let then' (first : List String) (second : String) :=
    (PyStr.search (fun s ↦ (PyStr.literals first s).bind (PyStr.gap (PyStr.literal second)))
      userAgent.toList).isSome
  then' ["iPhone", "iPad", "iOS"] "Windows NT" || then' ["Android"] "iPhone" ||
    then' ["iPhone"] "Android" || then' ["Android"] "Windows NT"

/-- `_RE_VERSION_TOKEN.search`. -/
def hasVersionToken (userAgent : String) : Bool :=
  (PyStr.search (fun s ↦ (PyStr.oneOf PyStr.isWord s).bind fun rest ↦
    (PyStr.literal "/" rest).bind (PyStr.oneOf fun c ↦ PyStr.isDigit c || c == '.'))
    userAgent.toList).isSome

/-- `score_user_agent`. -/
def scoreUserAgent (userAgent : String) : ℚ :=
  if userAgent = "" then 1
  else
    let combo : ℚ := if isImpossibleCombo userAgent then 3 else 0
    let ancient : ℚ := if isAncientBrowser userAgent then 2 else 0
    let version : ℚ := if hasVersionToken userAgent then 0 else 3 / 2
    let short : ℚ := if userAgent.toList.length < 15 then 1 else 0
    min (combo + ancient + version + short) 10

end DjangoWaf
