import DjangoWaf.Forms.Tokens
import DjangoWaf.Lib.KeySpace
import DjangoWaf.Lib.ZeroBits
import Mathlib.Algebra.Order.Ring.Rat

/-!
# Form defences

`forms/defences/` with the Redis helpers of `forms/services/`: eight checks on a submission, each of
which answers with one `Outcome`.

What a defence reads from Redis comes in as `FormReads`, one answer for each command, so that the
answers of one submission may be given at different times. Scores and times are rational numbers.

* `render_token` is the only defence that raises: `TypeError` from the signature comparison and
  `OverflowError` from the expiry, both left to the orchestrator.
* `time_trap`, `ua_consistency`, `js_touch` and `pow_gate` read the payload the orchestrator hands
  them, which may be absent.
-/

namespace DjangoWaf

open PyBytes IsoDatetime

/-! ### Outcomes -/

/-- `Verdict`. -/
inductive Outcome.Verdict
  | pass
  | flag
  | block
  deriving DecidableEq, Repr

/-- `Outcome`. -/
structure Outcome where
  verdict : Outcome.Verdict
  score : ℚ
  reason : String
  deriving DecidableEq

/-- `passed`. -/
def Outcome.passed : Outcome := ⟨.pass, 0, ""⟩

/-- `flagged`. -/
def Outcome.flagged (score : ℚ) (reason : String) : Outcome := ⟨.flag, score, reason⟩

/-- `blocked`. -/
def Outcome.blocked (reason : String) (score : ℚ) : Outcome := ⟨.block, score, reason⟩

/-! ### Settings, requests and submissions -/

/-- The settings of form protection, with the runtime it is on. -/
structure FormConf extends Signing where
  /-- `DJANGO_WAF_FORM_PROTECTION_ENABLED`. -/
  enabled : Bool
  /-- `DJANGO_WAF_FORM_TOKEN_TTL`. -/
  tokenTtl : ℤ
  /-- `DJANGO_WAF_FORM_HONEYPOT_FIELD_NAMES`. -/
  honeypotFieldNames : List String
  /-- `DJANGO_WAF_FORM_TIME_TRAP_MIN_SECONDS`. -/
  timeTrapMinSeconds : ℚ
  /-- `DJANGO_WAF_FORM_TIME_TRAP_MAX_SECONDS`. -/
  timeTrapMaxSeconds : ℚ
  /-- `DJANGO_WAF_FORM_CREDENTIAL_IP_LIMIT`. -/
  credentialIpLimit : ℤ
  /-- `DJANGO_WAF_FORM_SIGNUP_VELOCITY_LIMIT`. -/
  signupVelocityLimit : ℤ
  /-- `DJANGO_WAF_FORM_POW_DIFFICULTY`. -/
  powDifficulty : ℤ
  /-- `DJANGO_WAF_FORM_DEFENCE_WEIGHTS`. -/
  defenceWeights : List (String × ℚ)
  /-- `DJANGO_WAF_FORM_FLAG_THRESHOLD`. -/
  flagThreshold : ℚ
  /-- `DJANGO_WAF_FORM_BLOCK_THRESHOLD`. -/
  blockThreshold : ℚ
  /-- `DJANGO_WAF_FORM_CHALLENGE_ON_FLAG`. -/
  challengeOnFlag : Bool
  /-- `str.isalnum` of one character. -/
  isAlnum : Char → Bool

/-- The default of `DJANGO_WAF_FORM_DEFENCE_WEIGHTS`. -/
def defaultDefenceWeights : List (String × ℚ) :=
  [("honeypot", 5), ("time_trap", 2), ("render_token", 5), ("ua_consistency", 2),
    ("js_touch", 3 / 2), ("credential_throttle", 5), ("signup_velocity", 5), ("pow_gate", 5)]

/-- The default settings, on a given runtime. -/
def FormConf.defaults (k : Signing) (isAlnum : Char → Bool) : FormConf where
  toSigning := k
  enabled := true
  tokenTtl := 3600
  honeypotFieldNames := ["url", "website", "homepage", "email_confirm"]
  timeTrapMinSeconds := 3 / 2
  timeTrapMaxSeconds := 3600
  credentialIpLimit := 20
  signupVelocityLimit := 5
  powDifficulty := 12
  defenceWeights := defaultDefenceWeights
  flagThreshold := 2
  blockThreshold := 5
  challengeOnFlag := true
  isAlnum

/-- What the defences read of a request. -/
structure FormRequest where
  /-- `resolve_client_ip(request)`. -/
  ip : String
  /-- `request.META.get("HTTP_USER_AGENT", "")`. -/
  userAgent : String
  /-- The authenticated user's primary key as text, which may be missing; `none` for a request
  without an authenticated user. -/
  user : Option (Option String)
  deriving DecidableEq

/-- `_is_authenticated`. -/
def FormRequest.isAuthenticated (req : FormRequest) : Bool := req.user.isSome

/-- `_user_id`. -/
def FormRequest.userId (req : FormRequest) : String := req.user.join.getD ""

/-- Submitted data with one value for each key; `none` is the empty list that stands for a key
without values. -/
abbrev Submitted := List (String × Option String)

/-- `data.get(name) or ""`. -/
def Submitted.text (data : Submitted) (name : String) : String := ((data.lookup name).join).getD ""

/-- The configuration a form gives its defences, as far as they read it. -/
structure DefenceConfig where
  tokenTtl : Option ℤ
  fieldNames : Option (List String)
  minFillSeconds : Option ℚ
  maxFillSeconds : Option ℚ
  ipLimit : Option ℤ
  limit : Option ℤ
  difficulty : Option ℤ
  tokenNonce : Option String
  deriving DecidableEq

/-- A form that overrides nothing. -/
def DefenceConfig.empty : DefenceConfig := ⟨none, none, none, none, none, none, none, none⟩

/-- `EvaluateContext`. -/
structure EvaluateContext where
  formId : String
  request : FormRequest
  submittedData : Submitted
  config : DefenceConfig
  tokenPayload : Option TokenPayload

/-! ### Redis -/

/-- The keys of the form services. -/
structure FormStore where
  /-- `waf:form:token:{nonce}`. -/
  token : KeySpace String ℚ Unit
  /-- `waf:form:cred_fail:ip:{ip}`. -/
  credFailIp : KeySpace String ℚ ℕ
  /-- `waf:form:signup:{ip}`. -/
  signup : KeySpace String ℚ ℕ

/-- What the commands of one submission answer; `none` where the client raises, or is missing. -/
structure FormReads where
  /-- `EXISTS waf:form:token:{nonce}`. -/
  token : String → Option Bool
  /-- `GET waf:form:cred_fail:ip:{ip}`. -/
  credFailIp : String → Option (Option ℕ)
  /-- `GET waf:form:signup:{ip}`. -/
  signup : String → Option (Option ℕ)

namespace FormStore

/-- A store without keys. -/
def empty : FormStore := ⟨.empty, .empty, .empty⟩

theorem cell_token_empty (nonce : String) : empty.token.cell nonce = none := rfl

/-- The answers of a Redis that is up, or down. -/
def reads (s : FormStore) (up : Bool) (now : ℚ) : FormReads where
  token nonce := if up then some (s.token.get now nonce).isSome else none
  credFailIp ip := if up then some (s.credFailIp.get now ip) else none
  signup ip := if up then some (s.signup.get now ip) else none

/-- `issue_marker`, where failures are suppressed. Redis refuses an expiry that is not positive. -/
def issueMarker (s : FormStore) (up : Bool) (now : ℚ) (nonce : String) (ttl : ℤ) : FormStore :=
  if up = true ∧ 0 < ttl then { s with token := s.token.setex now nonce ttl () } else s

/-- `consume_marker`, where failures are logged. -/
def consumeMarker (s : FormStore) (up : Bool) (nonce : String) : FormStore :=
  if up then { s with token := s.token.delete nonce } else s

/-- `record_signup`. -/
def recordSignup (s : FormStore) (up : Bool) (now : ℚ) (ip : String) (window : ℚ) : FormStore :=
  if ip ≠ "" ∧ up = true then
    { s with signup := (s.signup.incr now ip).expire now ip window }
  else s

end FormStore

/-- `credential_ip_count`, and `signup_count`: a failure and a missing key both count as zero. -/
def readCount (answer : Option (Option ℕ)) : ℤ := ((answer.join).getD 0 : ℕ)

/-! ### The defences -/

namespace RenderTokenDefence

/-- `TOKEN_FIELD_NAME`. -/
def fieldName : String := "waf_token"

/-- `_MARKER_GRACE_SECONDS`. -/
def markerGraceSeconds : ℚ := 5

/-- `_IP_CHANGED_SCORE`. -/
def ipChangedScore : ℚ := 3

/-- What is left of `evaluate` once the token is verified. -/
def evaluatePayload (cf : FormConf) (reads : FormReads) (now : Civil) (ctx : EvaluateContext)
    (payload : TokenPayload) : Except FormError Outcome :=
  match payload.renderTime.addSeconds (ctx.config.tokenTtl.getD cf.tokenTtl) with
  | none => .error .overflowError
  | some expiry =>
    if expiry < now.micros then .ok (.blocked "render_token:expired" 5)
    else if (reads.token payload.nonce).getD true = false ∧
        markerGraceSeconds < now.since payload.renderTime then
      .ok (.blocked "render_token:replayed" 5)
    else if payload.ip ≠ "" ∧ payload.ip ≠ ctx.request.ip then
      .ok (.flagged ipChangedScore "render_token:ip_changed")
    else .ok .passed

/-- `RenderTokenDefence.evaluate`. -/
def evaluate (cf : FormConf) (reads : FormReads) (now : Civil) (ctx : EvaluateContext) :
    Except FormError Outcome :=
  let raw := ctx.submittedData.text fieldName
  if raw = "" then .ok (.blocked "render_token:missing" 5)
  else
    match verifyToken cf.toSigning raw with
    | .error (.valueError _) => .ok (.blocked "render_token:invalid" 5)
    | .error e => .error e
    | .ok payload => evaluatePayload cf reads now ctx payload

end RenderTokenDefence

/-- `parse_submitted_payload`. -/
def parseSubmittedPayload (k : Signing) (data : Submitted) :
    Except FormError (Option TokenPayload) :=
  let raw := data.text RenderTokenDefence.fieldName
  if raw = "" then .ok none
  else
    match verifyToken k raw with
    | .error (.valueError _) => .ok none
    | .error e => .error e
    | .ok payload => .ok (some payload)

namespace HoneypotDefence

/-- `_FIELDS_PER_FORM`. -/
def fieldsPerForm : ℕ := 2

/-- `_pick_field_names`. -/
def pickFieldNames (k : Signing) (formId : String) (pool : List String) (count : ℕ) :
    List String :=
  let digest := (k.sha256 (utf8Encode formId)).bytes
  let offset := (digest.take 4).foldl (fun n b ↦ 256 * n + b.toNat) 0 % pool.length
  (List.range (min count pool.length)).map fun i ↦ pool.getD ((offset + i) % pool.length) ""

/-- The names of a form. -/
def names (cf : FormConf) (formId : String) (config : DefenceConfig) : List String :=
  pickFieldNames cf.toSigning formId (config.fieldNames.getD cf.honeypotFieldNames) fieldsPerForm

/-- `HoneypotDefence.evaluate`. -/
def evaluate (cf : FormConf) (ctx : EvaluateContext) : Outcome :=
  match (names cf ctx.formId ctx.config).find? fun name ↦ ctx.submittedData.text name ≠ "" with
  | some name => .blocked s!"honeypot:{name}" 5
  | none => .passed

theorem evaluate_of_forall {cf : FormConf} {ctx : EvaluateContext}
    (h : ∀ name ∈ names cf ctx.formId ctx.config, ctx.submittedData.text name = "") :
    evaluate cf ctx = .passed := by
  have hfind : (names cf ctx.formId ctx.config).find?
      (fun name ↦ ctx.submittedData.text name ≠ "") = none := by
    rw [List.find?_eq_none]
    intro name hname hfilled
    exact of_decide_eq_true hfilled (h name hname)
  rw [evaluate, hfind]

theorem evaluate_of_exists {cf : FormConf} {ctx : EvaluateContext}
    (h : ∃ name ∈ names cf ctx.formId ctx.config, ctx.submittedData.text name ≠ "") :
    ∃ reason, evaluate cf ctx = .blocked reason 5 := by
  rcases hfind : (names cf ctx.formId ctx.config).find?
    (fun name ↦ ctx.submittedData.text name ≠ "") with - | name
  · obtain ⟨name, hname, hfilled⟩ := h
    rw [List.find?_eq_none] at hfind
    exact absurd (decide_eq_true hfilled) (hfind name hname)
  · rw [evaluate, hfind]
    exact ⟨_, rfl⟩

end HoneypotDefence

namespace TimeTrapDefence

/-- `_TOO_FAST_THRESHOLD_SECONDS`. -/
def tooFastThresholdSeconds : ℚ := 1 / 2

/-- `min_fill_seconds`. -/
def minSeconds (cf : FormConf) (config : DefenceConfig) : ℚ :=
  config.minFillSeconds.getD cf.timeTrapMinSeconds

/-- `max_fill_seconds`. -/
def maxSeconds (cf : FormConf) (config : DefenceConfig) : ℚ :=
  config.maxFillSeconds.getD cf.timeTrapMaxSeconds

/-- `TimeTrapDefence.evaluate`. -/
def evaluate (cf : FormConf) (now : Civil) (ctx : EvaluateContext) : Outcome :=
  match ctx.tokenPayload with
  | none => .passed
  | some payload =>
    let delta := now.since payload.renderTime
    if delta < tooFastThresholdSeconds then .blocked "time_trap:too_fast" 5
    else if delta < minSeconds cf ctx.config then .flagged 2 "time_trap:fast"
    else if maxSeconds cf ctx.config < delta then .flagged 2 "time_trap:expired"
    else .passed

end TimeTrapDefence

/-- `UaConsistencyDefence.evaluate`. -/
def UaConsistencyDefence.evaluate (cf : FormConf) (ctx : EvaluateContext) : Outcome :=
  match ctx.tokenPayload with
  | none => .passed
  | some payload =>
    if cf.hashUserAgent ctx.request.userAgent ≠ payload.uaHash then
      .flagged 2 "ua_consistency:changed"
    else .passed

namespace JsTouchDefence

/-- `FIELD_NAME`. -/
def fieldName : String := "waf_js_touch"

/-- `_SENTINEL_UNSET`. -/
def sentinelUnset : String := "unset"

/-- `_expected_value`. -/
def expectedValue (k : Signing) (tokenNonce : String) : String :=
  String.ofList ((k.sign (utf8Encode ("js_touch:" ++ tokenNonce))).take 16)

/-- `JsTouchDefence.evaluate`. -/
def evaluate (cf : FormConf) (ctx : EvaluateContext) : Outcome :=
  let value := ctx.submittedData.text fieldName
  let nonce :=
    match ctx.tokenPayload with
    | some payload => payload.nonce
    | none => ctx.config.tokenNonce.getD ctx.formId
  if value = sentinelUnset then .flagged (3 / 2) "js_touch:not_set"
  else if value = "" then .flagged (3 / 2) "js_touch:missing"
  else if value ≠ expectedValue cf.toSigning nonce then .flagged (3 / 2) "js_touch:invalid"
  else .passed

end JsTouchDefence

/-- `CredentialThrottleDefence.evaluate`. -/
def CredentialThrottleDefence.evaluate (cf : FormConf) (reads : FormReads)
    (ctx : EvaluateContext) : Outcome :=
  if ctx.request.ip = "" then .passed
  else if ctx.config.ipLimit.getD cf.credentialIpLimit ≤
      readCount (reads.credFailIp ctx.request.ip) then
    .flagged 5 "credential_throttle:ip"
  else .passed

/-- `SignupVelocityDefence.evaluate`. -/
def SignupVelocityDefence.evaluate (cf : FormConf) (reads : FormReads) (ctx : EvaluateContext) :
    Outcome :=
  if ctx.request.ip = "" then .passed
  else if
      ctx.config.limit.getD cf.signupVelocityLimit ≤ readCount (reads.signup ctx.request.ip) then
    .flagged 5 "signup_velocity:ip"
  else .passed

/-- `_digest_has_leading_zero_bits`. -/
def digestHasLeadingZeroBits (digest : List UInt8) (bits : ℤ) : Bool :=
  if bits ≤ 0 then true
  else
    let fullBytes := bits.toNat / 8
    let remainder := bits.toNat % 8
    if digest.length < fullBytes + (if remainder = 0 then 0 else 1) then false
    else if (digest.take fullBytes).any (· != 0) then false
    else if remainder = 0 then true
    else
      let mask : UInt8 := UInt8.ofNat (0xFF <<< (8 - remainder) % 256)
      (digest.getD fullBytes 0 &&& mask) == 0

/-- **The check of the server**, on the number of zero bytes and the bits of the next one. -/
theorem digestHasLeadingZeroBits_iff (digest : Digest) {bits : ℕ} (hbits : 0 < bits) :
    digestHasLeadingZeroBits digest.bytes bits = true ↔
      bits ≤ 256 ∧ (∀ i < bits / 8, digest.bytes.getD i 0 = 0) ∧
        (bits % 8 = 0 ∨ (digest.bytes.getD (bits / 8) 0).toNat < 2 ^ (8 - bits % 8)) := by
  have hpos : ¬(bits : ℤ) ≤ 0 := by omega
  have hr : bits % 8 < 8 := Nat.mod_lt _ (by decide)
  have hlength : digest.bytes.length < bits / 8 + (if bits % 8 = 0 then 0 else 1) ↔
      256 < bits := by
    rw [digest.length_bytes]
    split_ifs <;> omega
  rw [digestHasLeadingZeroBits, if_neg hpos, Int.toNat_natCast]
  simp only [hlength, ← any_take_eq_false_iff, ← and_ofNat_beq_zero_iff _ hr]
  split_ifs with hlong hany hrem
  · exact iff_of_false id fun h ↦ absurd h.1 (not_le.2 hlong)
  · exact iff_of_false id fun h ↦ absurd (hany.symm.trans h.2.1) (by decide)
  · exact iff_of_true rfl ⟨not_lt.1 hlong, Bool.eq_false_iff.2 hany, .inl hrem⟩
  · exact ⟨fun h ↦ ⟨not_lt.1 hlong, Bool.eq_false_iff.2 hany, .inr h⟩,
      fun h ↦ h.2.2.resolve_left hrem⟩

namespace PowGateDefence

/-- `NONCE_FIELD`. -/
def nonceField : String := "waf_pow_nonce"

/-- `_TOKEN_BIND_FIELD`. -/
def tokenBindField : String := "waf_pow_token"

/-- `_verify_nonce`. -/
def verifyNonce (k : Signing) (tokenNonce candidateNonce : String) (difficulty : ℤ) : Bool :=
  digestHasLeadingZeroBits (k.sha256 (utf8Encode (tokenNonce ++ ":" ++ candidateNonce))).bytes
    difficulty

/-- `difficulty`. -/
def difficulty (cf : FormConf) (config : DefenceConfig) : ℤ :=
  config.difficulty.getD cf.powDifficulty

/-- `PowGateDefence.evaluate`. -/
def evaluate (cf : FormConf) (ctx : EvaluateContext) : Outcome :=
  let candidate := ctx.submittedData.text nonceField
  if candidate = "" then .blocked "pow_gate:missing" 5
  else
    let tokenNonce :=
      match ctx.tokenPayload with
      | some payload => payload.nonce
      | none =>
        let bind := ctx.submittedData.text tokenBindField
        if bind = "" then ctx.formId else bind
    if verifyNonce cf.toSigning tokenNonce candidate (difficulty cf ctx.config) = false then
      .blocked "pow_gate:invalid" 5
    else .passed

end PowGateDefence

/-! ### The chain's members -/

/-- The defences by name. -/
inductive Defence
  | renderToken
  | honeypot
  | timeTrap
  | uaConsistency
  | jsTouch
  | credentialThrottle
  | signupVelocity
  | powGate
  deriving DecidableEq, Repr

namespace Defence

/-- `name`. -/
def name : Defence → String
  | renderToken => "render_token"
  | honeypot => "honeypot"
  | timeTrap => "time_trap"
  | uaConsistency => "ua_consistency"
  | jsTouch => "js_touch"
  | credentialThrottle => "credential_throttle"
  | signupVelocity => "signup_velocity"
  | powGate => "pow_gate"

/-- `evaluate` of each defence. -/
def evaluate (cf : FormConf) (reads : FormReads) (now : Civil) (ctx : EvaluateContext) :
    Defence → Except FormError Outcome
  | renderToken => RenderTokenDefence.evaluate cf reads now ctx
  | honeypot => .ok (HoneypotDefence.evaluate cf ctx)
  | timeTrap => .ok (TimeTrapDefence.evaluate cf now ctx)
  | uaConsistency => .ok (UaConsistencyDefence.evaluate cf ctx)
  | jsTouch => .ok (JsTouchDefence.evaluate cf ctx)
  | credentialThrottle => .ok (CredentialThrottleDefence.evaluate cf reads ctx)
  | signupVelocity => .ok (SignupVelocityDefence.evaluate cf reads ctx)
  | powGate => .ok (PowGateDefence.evaluate cf ctx)

end Defence

end DjangoWaf
