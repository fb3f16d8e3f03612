import DjangoWaf.Forms.Mixin
import DjangoWaf.Forms.Rendering
import DjangoWaf.Lib.KeyFamilies

/-!
# Failed logins

`forms/credentials.py`, with the counters and markers of `forms/services/` as they are in Redis:
**one key space whose keys are texts**. A failed login counts the account, under the digest of what
was typed, and the address; both counters are written in one transaction and get one expiry.

`FormRedis.store` reads the families of keys the defences know back out of the texts. The commands
of the services do to these families what `FormStore` says they do (`store_render`,
`store_consumeOnPass`, `store_recordCredentialFailure`), since no text is a key of two families. The
counters of the accounts are a family `FormStore` does not have.
-/

namespace DjangoWaf

open PyBytes IsoDatetime

/-! ### Keys -/

/-- The keys of the form services, by their texts. A marker is stored as 1. -/
abbrev FormRedis := KeySpace String ℚ ℕ

/-- `_MARKER_KEY`. -/
def markerKey (nonce : String) : String := "waf:form:token:" ++ nonce

/-- `_CRED_ACCOUNT_KEY`. -/
def credAccountKey (identifierHash : String) : String :=
  "waf:form:cred_fail:account:" ++ identifierHash

/-- `_CRED_IP_KEY`. -/
def credIpKey (ip : String) : String := "waf:form:cred_fail:ip:" ++ ip

/-- `_SIGNUP_IP_KEY`. -/
def signupIpKey (ip : String) : String := "waf:form:signup:" ++ ip

/-- Texts that differ early on differ, whatever follows. -/
theorem append_ne_append {front front' : String} {n : ℕ} (hn : n ≤ front.toList.length)
    (hn' : n ≤ front'.toList.length) (hne : front.toList.take n ≠ front'.toList.take n)
    (back back' : String) : front ++ back ≠ front' ++ back' := by
  intro heq
  have hlist : front.toList ++ back.toList = front'.toList ++ back'.toList := by
    rw [← String.toList_append, ← String.toList_append, heq]
  have htake := congrArg (List.take n) hlist
  rw [List.take_append_of_le_length hn, List.take_append_of_le_length hn'] at htake
  exact hne htake

theorem append_injective (front : String) : Function.Injective (front ++ ·) := by
  intro back back' heq
  have hlist : front.toList ++ back.toList = front.toList ++ back'.toList := by
    rw [← String.toList_append, ← String.toList_append]
    exact congrArg String.toList heq
  exact String.toList_inj.1 (List.append_cancel_left hlist)

theorem markerKey_injective : Function.Injective markerKey := append_injective _

theorem credIpKey_injective : Function.Injective credIpKey := append_injective _

theorem markerKey_ne_credAccountKey (nonce hash : String) : markerKey nonce ≠ credAccountKey hash :=
  append_ne_append (n := 10) (by decide) (by decide) (by decide) nonce hash

theorem credIpKey_ne_credAccountKey (ip hash : String) : credIpKey ip ≠ credAccountKey hash :=
  append_ne_append (n := 20) (by decide) (by decide) (by decide) ip hash

theorem signupIpKey_ne_credAccountKey (ip hash : String) : signupIpKey ip ≠ credAccountKey hash :=
  append_ne_append (n := 10) (by decide) (by decide) (by decide) ip hash

theorem markerKey_ne_credIpKey (nonce ip : String) : markerKey nonce ≠ credIpKey ip :=
  append_ne_append (n := 10) (by decide) (by decide) (by decide) nonce ip

theorem signupIpKey_ne_credIpKey (ip ip' : String) : signupIpKey ip ≠ credIpKey ip' :=
  append_ne_append (n := 10) (by decide) (by decide) (by decide) ip ip'

theorem signupIpKey_ne_markerKey (ip nonce : String) : signupIpKey ip ≠ markerKey nonce :=
  append_ne_append (n := 10) (by decide) (by decide) (by decide) ip nonce

/-! ### The services -/

namespace FormRedis

/-- The families of keys the defences read. -/
def store (r : FormRedis) : FormStore where
  token := (r.family markerKey).presence
  credFailIp := r.family credIpKey
  signup := r.family signupIpKey

/-- `issue_marker`, where failures are suppressed. -/
def issueMarker (r : FormRedis) (up : Bool) (now : ℚ) (nonce : String) (ttl : ℤ) : FormRedis :=
  if up = true ∧ 0 < ttl then r.setex now (markerKey nonce) ttl 1 else r

/-- `consume_marker`, where failures are logged. -/
def consumeMarker (r : FormRedis) (up : Bool) (nonce : String) : FormRedis :=
  if up then r.delete (markerKey nonce) else r

theorem store_issueMarker (r : FormRedis) (up : Bool) (now : ℚ) (nonce : String) (ttl : ℤ) :
    (r.issueMarker up now nonce ttl).store = r.store.issueMarker up now nonce ttl := by
  have hlocal := KeySpace.localAt_setex (V := ℕ) now (markerKey nonce) (ttl : ℚ) 1
  rw [issueMarker, FormStore.issueMarker]
  split_ifs
  · rw [store, KeySpace.family_setex markerKey_injective, KeySpace.presence_setex,
      hlocal.family_eq fun ip ↦ (markerKey_ne_credIpKey nonce ip).symm,
      hlocal.family_eq fun ip ↦ signupIpKey_ne_markerKey ip nonce]
    rfl
  · rfl

theorem store_consumeMarker (r : FormRedis) (up : Bool) (nonce : String) :
    (r.consumeMarker up nonce).store = r.store.consumeMarker up nonce := by
  have hlocal := KeySpace.localAt_delete (T := ℚ) (V := ℕ) (markerKey nonce)
  rw [consumeMarker, FormStore.consumeMarker]
  split_ifs
  · rw [store, KeySpace.family_delete markerKey_injective, KeySpace.presence_delete,
      hlocal.family_eq fun ip ↦ (markerKey_ne_credIpKey nonce ip).symm,
      hlocal.family_eq fun ip ↦ signupIpKey_ne_markerKey ip nonce]
    rfl
  · rfl

end FormRedis

/-! ### Forms -/

/-- When the reads of a submission reach Redis; one that does not fails. -/
structure SubmissionReads where
  token : Option ℚ
  credFailIp : Option ℚ
  signup : Option ℚ

/-- All reads at one instant, or none. -/
def SubmissionReads.atOnce (up : Bool) (now : ℚ) : SubmissionReads :=
  if up then ⟨some now, some now, some now⟩ else ⟨none, none, none⟩

namespace FormRedis

/-- What Redis answers to a submission. -/
def reads (r : FormRedis) (x : SubmissionReads) : FormReads where
  token nonce := x.token.map fun now ↦ (r.store.token.get now nonce).isSome
  credFailIp ip := x.credFailIp.map fun now ↦ r.store.credFailIp.get now ip
  signup ip := x.signup.map fun now ↦ r.store.signup.get now ip

/-- What `FormProtection.render_fields` leaves. -/
def render (cf : FormConf) (fp : FormProtection) (up : Bool) (req : FormRequest) (now : Civil)
    (nonce : String) (r : FormRedis) : FormRedis :=
  if cf.enabled = true ∧ .renderToken ∈ fp.runningNames req then
    r.issueMarker up now.seconds nonce (fp.perFormConfig.tokenTtl.getD cf.tokenTtl)
  else r

/-- What `consume_token_marker` leaves, after a submission that passed. -/
def consumeOnPass (up : Bool) (result : FormEvaluationResult) (r : FormRedis) : FormRedis :=
  if result.verdict = .passed then
    match result.tokenPayload with
    | none => r
    | some payload => r.consumeMarker up payload.nonce
  else r

theorem store_render (cf : FormConf) (fp : FormProtection) (up : Bool) (req : FormRequest)
    (now : Civil) (nonce : String) (r : FormRedis) :
    (r.render cf fp up req now nonce).store = fp.renderStore cf up req now nonce r.store := by
  rw [render, FormProtection.renderStore]
  split_ifs
  · exact r.store_issueMarker up now.seconds nonce _
  · rfl

theorem store_consumeOnPass (up : Bool) (result : FormEvaluationResult) (r : FormRedis) :
    (r.consumeOnPass up result).store = FormProtection.consumeOnPass up result r.store := by
  rw [consumeOnPass, FormProtection.consumeOnPass]
  split_ifs
  · rcases result.tokenPayload with - | payload
    · rfl
    · exact r.store_consumeMarker up payload.nonce
  · rfl

theorem reads_atOnce (r : FormRedis) (up : Bool) (now : ℚ) :
    r.reads (.atOnce up now) = r.store.reads up now := by
  cases up with
  | false => rfl
  | true => rfl

end FormRedis

/-! ### Failed logins -/

/-- `hash_identifier`. -/
def Signing.hashIdentifier (k : Signing) (identifier : String) : String :=
  String.ofList (k.sha256 (utf8Encode identifier)).hexdigest

/-- How the transaction of a pipeline ends. -/
inductive PipelineEnd
  | done
  /-- It does not reach the server. -/
  | refused
  /-- The server executed it, and the answer was lost. -/
  | replyLost
  deriving DecidableEq

/-- The two counters of a failed login, counted up. -/
def FormRedis.countFailure (r : FormRedis) (now : ℚ) (accountKey ipKey : String) (window : ℤ) :
    FormRedis :=
  let r := (r.incr now accountKey).expire now accountKey window
  (r.incr now ipKey).expire now ipKey window

/-- What the counters of a failed login are to the defences: one more for the address. -/
theorem FormRedis.store_countFailure (r : FormRedis) (now : ℚ) (hash ip : String) (window : ℤ) :
    (r.countFailure now (credAccountKey hash) (credIpKey ip) window).store =
      { r.store with
        credFailIp := (r.store.credFailIp.incr now ip).expire now ip window } := by
  -- the families of the markers and signups see neither counter, the one of addresses its own
  have hip := KeySpace.localAt_incr_expire now (credIpKey ip) (window : ℚ)
  have haccount := KeySpace.localAt_incr_expire now (credAccountKey hash) (window : ℚ)
  rw [countFailure, store, KeySpace.family_incr_expire credIpKey_injective,
    hip.family_eq fun nonce ↦ markerKey_ne_credIpKey nonce ip,
    hip.family_eq fun ip' ↦ signupIpKey_ne_credIpKey ip' ip,
    haccount.family_eq fun nonce ↦ markerKey_ne_credAccountKey nonce hash,
    haccount.family_eq fun ip' ↦ credIpKey_ne_credAccountKey ip' hash,
    haccount.family_eq fun ip' ↦ signupIpKey_ne_credAccountKey ip' hash]
  rfl

/-- `record_credential_failure`: the counts of the account and of the address. -/
def recordCredentialFailure (k : Signing) (pipeline : PipelineEnd) (now : ℚ)
    (identifier ip : String) (window : ℤ) (r : FormRedis) : (ℕ × ℕ) × FormRedis :=
  if identifier = "" ∨ ip = "" then ((0, 0), r)
  else
    let accountKey := credAccountKey (k.hashIdentifier identifier)
    let r' := r.countFailure now accountKey (credIpKey ip) window
    -- the four commands are one transaction, so both counters are written or neither
    match pipeline with
    | .done =>
      (((r.get now accountKey).getD 0 + 1, (r.get now (credIpKey ip)).getD 0 + 1), r')
    | .refused => ((0, 0), r)
    | .replyLost => ((0, 0), r')

/-- **What a failed login is to the defences**: at most one more for its address, whoever it was. -/
theorem store_recordCredentialFailure (k : Signing) (pipeline : PipelineEnd) (now : ℚ)
    (identifier ip : String) (window : ℤ) (r : FormRedis) :
    (recordCredentialFailure k pipeline now identifier ip window r).2.store =
      if (identifier = "" ∨ ip = "") ∨ pipeline = .refused then r.store
      else
        { r.store with
          credFailIp := (r.store.credFailIp.incr now ip).expire now ip window } := by
  rw [recordCredentialFailure]
  rcases Decidable.em (identifier = "" ∨ ip = "") with hempty | hgiven
  · rw [if_pos hempty, if_pos (Or.inl hempty)]
  · rw [if_neg hgiven]
    cases pipeline with
    | done =>
      rw [if_neg (by simp [hgiven])]
      exact r.store_countFailure now _ ip window
    | refused =>
      rw [if_pos (Or.inr rfl)]
    | replyLost =>
      rw [if_neg (by simp [hgiven])]
      exact r.store_countFailure now _ ip window

/-- The settings of form protection, with those of the account counter. -/
structure CredentialConf extends FormConf where
  /-- `DJANGO_WAF_FORM_CREDENTIAL_THROTTLE_LIMIT`. -/
  credentialThrottleLimit : ℤ
  /-- `DJANGO_WAF_FORM_CREDENTIAL_THROTTLE_WINDOW`. -/
  credentialThrottleWindow : ℤ

/-- What `credential_attack_observed` is sent with. -/
structure CredentialAttack where
  identifierHash : String
  attemptCount : ℕ
  windowSeconds : ℤ
  ip : String
  deriving DecidableEq

/-- A call of `waf_record_credential_failure`. -/
structure FailedLogin where
  /-- `get_redis_client` returns a client. -/
  client : Bool
  pipeline : PipelineEnd
  now : ℚ
  /-- `resolve_client_ip(request)`, empty where there is no request. -/
  ip : String
  identifier : String

/-- `waf_record_credential_failure`: what it returns, the signal it sends, and what it leaves. -/
def wafRecordCredentialFailure (cf : CredentialConf) (x : FailedLogin) (r : FormRedis) :
    (ℕ × ℕ) × Option CredentialAttack × FormRedis :=
  if x.identifier = "" ∨ x.ip = "" ∨ x.client = false then ((0, 0), none, r)
  else
    let (counts, r') := recordCredentialFailure cf.toSigning x.pipeline x.now x.identifier x.ip
      cf.credentialThrottleWindow r
    let attack : Option CredentialAttack :=
      if 0 < counts.1 ∧ (counts.1 : ℤ) = cf.credentialThrottleLimit then
        some ⟨cf.toSigning.hashIdentifier x.identifier, counts.1, cf.credentialThrottleWindow, x.ip⟩
      else none
    (counts, attack, r')

/-- A call is seen by the defences as it is without its identifier, unless that is empty. -/
theorem store_wafRecordCredentialFailure (cf : CredentialConf) (x : FailedLogin) (r : FormRedis)
    (h : x.identifier ≠ "") : (wafRecordCredentialFailure cf x r).2.2.store =
      if x.ip = "" ∨ x.client = false ∨ x.pipeline = .refused then r.store
      else
        { r.store with
          credFailIp := (r.store.credFailIp.incr x.now x.ip).expire x.now x.ip
            cf.credentialThrottleWindow } := by
  rw [wafRecordCredentialFailure]
  rcases Decidable.em (x.ip = "" ∨ x.client = false) with hearly | hgiven
  · rw [if_pos (Or.inr hearly), if_pos (or_assoc.1 (Or.inl hearly))]
  · rw [if_neg (not_or.2 ⟨h, hgiven⟩)]
    show (recordCredentialFailure _ _ _ _ _ _ r).2.store = _
    rw [store_recordCredentialFailure]
    have hiff : (x.identifier = "" ∨ x.ip = "") ∨ x.pipeline = .refused ↔
        x.ip = "" ∨ x.client = false ∨ x.pipeline = .refused := by
      rw [not_or] at hgiven
      simp [h, hgiven]
    simp only [hiff]

end DjangoWaf
