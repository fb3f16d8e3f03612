import DjangoWaf.Lib.Run
import DjangoWaf.PageSolver
import DjangoWaf.Views
import Mathlib.Algebra.Order.Ring.Nat

/-!
# What does a pass cookie cost?

Runs of a whole site: requests arrive one after another, each with settings and surroundings of its
own, and anything else may happen in between, except that challenges are made up or changed.

* **A pass cookie costs work** (`pass_costs_work`): each was set for the proof of work of a
  challenge that an earlier request of the run was issued, and no challenge is used twice.
* The invariant is that every row and every entry was issued in the run (`ChallengesInv`), and that
  the pass cookies for a token and its pending challenge are no more than its challenges.

Requests are served one at a time. Two calls of the verifier that take turns are the subject of
`SolvedOnce.lean`.
-/

namespace DjangoWaf

open PyBytes

/-! ### Runs of a site -/

/-- What happens to a site. -/
inductive SiteEvent
  /-- A request is served, and may create a challenge. -/
  | served (v : Arrival) (reply : Reply) (created : Option ChallengeRow)
  | other

/-- The challenge a request has created. -/
def createdRow (token : String) (s s' : SiteState) : Option ChallengeRow :=
  if (s.rows token).isSome then none else s'.rows token

/-- The steps of a site under a key. -/
inductive SiteStep (k : Signing) (dj : DjangoViews) (cols : ChallengeColumns) :
    SiteState → SiteEvent → SiteState → Prop
  /-- A request, after the epoch and with a token of `secrets`. -/
  | served {s : SiteState} (v : Arrival) (hkey : v.cf.toSigning = k) (hnow : 0 ≤ v.env.now)
    (hhex : IsTokenHex v.env.token) :
    SiteStep k dj cols s
      (.served v (v.serve dj cols s).1 (createdRow v.env.token s (v.serve dj cols s).2))
      (v.serve dj cols s).2
  /-- Anything that leaves rows and entries as they are or removes them. -/
  | other {s t : SiteState} (hrows : ∀ token row, t.rows token = some row → s.rows token = some row)
    (hentries : ∀ token c, t.entries.cell token = some c → s.entries.cell token = some c) :
    SiteStep k dj cols s .other t

/-- No challenge yet. -/
structure SiteState.Fresh (s : SiteState) : Prop where
  rows : ∀ token, s.rows token = none
  entries : ∀ token, s.entries.cell token = none

/-- `prune_challenge_tokens`, on the rows. -/
def pruneChallengeTokens (cutoff : ℚ) (s : SiteState) : SiteState :=
  { s with
    rows := fun token ↦ (s.rows token).filter fun row ↦
      !((row.status = .pending || row.status = .failed) && row.expiresAt < cutoff) }

/-- Pruning is one of the other steps. -/
theorem siteStep_prune {k : Signing} {dj : DjangoViews} {cols : ChallengeColumns} (cutoff : ℚ)
    (s : SiteState) : SiteStep k dj cols s .other (pruneChallengeTokens cutoff s) :=
  .other (fun _ _ h ↦ (Option.filter_eq_some_iff.1 h).1) fun _ _ h ↦ h

/-! ### What a history says -/

/-- The text was set as a cookie. -/
def WasSet (es : List SiteEvent) (name text : String) : Prop :=
  ∃ v reply created, .served v reply created ∈ es ∧
    ∃ cookie ∈ reply.cookies, cookie.name = name ∧ cookie.value = text

/-- A challenge of the history, and the request it was created for. -/
structure IssuedIn (es : List SiteEvent) (cols : ChallengeColumns) (token : String) (v : Arrival)
    (row : ChallengeRow) : Prop where
  served : ∃ reply, .served v reply (some row) ∈ es
  token : row.token = token
  issued : IsIssued v.cf cols v.env v.req row

namespace SiteEvent

/-- The event creates a challenge with the token. -/
def creates (token : String) : SiteEvent → Bool
  | served _ _ created => created.any (·.token = token)
  | other => false

/-- The event sets a pass cookie for the token. -/
def passes (token : String) : SiteEvent → Bool
  | served v reply _ =>
    reply.cookies.any (·.name = "waf_pass") &&
      match v.req.verifyBody with
      | .fields (some submitted) _ _ => submitted = token
      | _ => false
  | other => false

end SiteEvent

theorem IssuedIn.mono {es es' : List SiteEvent} {cols : ChallengeColumns} {token : String}
    {v : Arrival} {row : ChallengeRow} (h : IssuedIn es cols token v row) (hes : es ⊆ es') :
    IssuedIn es' cols token v row :=
  ⟨h.served.imp fun _ hmem ↦ hes hmem, h.token, h.issued⟩

/-- The challenge can still be solved. -/
def SiteState.pending (s : SiteState) (token : String) : Bool :=
  (s.rows token).any (·.status = .pending)

/-- The invariant of the challenges. -/
structure ChallengesInv (cols : ChallengeColumns) (es : List SiteEvent) (s : SiteState) : Prop where
  row : ∀ token row, s.rows token = some row → IsTokenHex token ∧ row.token = token ∧
    ∃ v row₀, IssuedIn es cols token v row₀ ∧ row.ipAddress = row₀.ipAddress ∧
      row.difficulty = row₀.difficulty
  entry : ∀ token c, s.entries.cell token = some c → ∃ v row₀ iso, IssuedIn es cols token v row₀ ∧
    c.value = issuedEntry (getIp v.cf v.req) row₀.difficulty iso
  once : ∀ token, es.countP (SiteEvent.passes token) + (s.pending token).toNat ≤
    es.countP (SiteEvent.creates token)

/-! ### One request -/

section Step

variable {dj : DjangoViews} {cols : ChallengeColumns} {v : Arrival} {s s' : SiteState}

theorem createdRow_eq_some_iff {token : String} {row : ChallengeRow} :
    createdRow token s s' = some row ↔ s.rows token = none ∧ s'.rows token = some row := by
  rw [createdRow]
  rcases s.rows token with - | old
  · simp
  · simp

/-- What is created was issued for the request. -/
theorem ChallengeSpec.isIssued (h : ChallengeSpec v cols s s') {row : ChallengeRow}
    (hcreated : createdRow v.env.token s s' = some row) : IsIssued v.cf cols v.env v.req row := by
  obtain ⟨hfresh, hrow⟩ := createdRow_eq_some_iff.1 hcreated
  rcases h.row _ row hrow with ⟨old, hold, -⟩ | ⟨-, -, hissued⟩
  · cases hfresh.symm.trans hold
  · exact hissued

theorem pending_eq_true_iff {token : String} :
    s.pending token = true ↔ ∃ row, s.rows token = some row ∧ row.status = .pending := by
  rw [SiteState.pending]
  rcases s.rows token with - | row
  · simp
  · simp

/-- The name of the trusted cookie. -/
theorem name_of_getResponseCookie {cf : TrustedConf} {dj : DjangoHttp} {connected : Bool} {now : ℚ}
    {peer : PeerMeta} {isSecure : Bool} {logins : List AuthUser} {cookie : SetCookie}
    (h : getResponseCookie cf dj connected now peer isSecure logins = some cookie) :
    cookie.name = trustedUserCookie := by
  obtain ⟨-, rfl⟩ := (getResponseCookie_eq_some_iff cf dj).1 h
  rfl

theorem name_of_passCookie {cf : SiteConf} {env : SiteEnv} {req : HttpRequest} {token : String}
    {cookie : SetCookie} (h : passCookie cf env req token = some cookie) :
    cookie.name = "waf_pass" := by
  rw [passCookie] at h
  split at h
  · cases h
  · rw [← Option.some.inj h]

/-- **A pass cookie was set for an accepted solution.** -/
theorem passSpec_of_mem {cookie : SetCookie} (h : cookie ∈ (v.serve dj cols s).1.cookies)
    (hname : cookie.name = "waf_pass") :
    ∃ token, PassSpec v cols s (v.serve dj cols s).2 cookie token := by
  cases cookieSpec_serve h with
  | gate hgate => exact absurd (hname.symm.trans hgate) (by decide)
  | login logins _ _ hlogin =>
    exact absurd (hname.symm.trans (name_of_getResponseCookie hlogin)) (by decide)
  | solved token hpass => exact ⟨token, hpass⟩

/-- The token of an event that sets a pass cookie. -/
theorem passSpec_of_passes {token : String} {created : Option ChallengeRow}
    (h : SiteEvent.passes token (.served v (v.serve dj cols s).1 created) = true) :
    ∃ cookie, PassSpec v cols s (v.serve dj cols s).2 cookie token := by
  rw [SiteEvent.passes, Bool.and_eq_true, List.any_eq_true] at h
  obtain ⟨⟨cookie, hmem, hname⟩, hbody⟩ := h
  obtain ⟨token', hpass⟩ := passSpec_of_mem hmem (of_decide_eq_true hname)
  obtain ⟨nonce, next, hfields, -⟩ := hpass.body
  rw [hfields] at hbody
  obtain rfl := of_decide_eq_true hbody
  exact ⟨cookie, hpass⟩

theorem countP_concat (p : SiteEvent → Bool) (es : List SiteEvent) (e : SiteEvent) :
    (es ++ [e]).countP p = es.countP p + (p e).toNat := by
  rw [List.countP_append, List.countP_singleton]
  cases p e <;> rfl

variable (dj cols v s) in
/-- **A request uses up what it passes for**, and makes pending only what it creates. -/
theorem passes_add_pending_le (token : String) :
    (SiteEvent.passes token (.served v (v.serve dj cols s).1
        (createdRow v.env.token s (v.serve dj cols s).2))).toNat +
      ((v.serve dj cols s).2.pending token).toNat ≤
    (SiteEvent.creates token (.served v (v.serve dj cols s).1
        (createdRow v.env.token s (v.serve dj cols s).2))).toNat + (s.pending token).toNat := by
  rcases hpasses : SiteEvent.passes token (.served v (v.serve dj cols s).1
    (createdRow v.env.token s (v.serve dj cols s).2)) with - | -
  · rcases hpending : (v.serve dj cols s).2.pending token with - | -
    · exact Nat.zero_le _
    · obtain ⟨row', hrow', hstatus⟩ := pending_eq_true_iff.1 hpending
      rcases challengeSpec_serve.row token row' hrow' with ⟨row, hrow, hkeeps⟩ | ⟨rfl, hfresh, hnew⟩
      · rw [pending_eq_true_iff.2 ⟨row, hrow, hkeeps.status hstatus⟩]
        exact Nat.le_add_left _ _
      · have hcreated := createdRow_eq_some_iff.2 ⟨hfresh, hrow'⟩
        rw [hcreated]
        have hcreates : SiteEvent.creates v.env.token
            (.served v (v.serve dj cols s).1 (some row')) = true := decide_eq_true hnew.token
        rw [hcreates]
        exact Nat.le_add_right _ _
  · obtain ⟨cookie, hpass⟩ := passSpec_of_passes hpasses
    obtain ⟨nonce, next, -, row, hrow, hstatus, -⟩ := hpass.body
    have hspent : (v.serve dj cols s).2.pending token = false := by
      rw [Bool.eq_false_iff]
      intro hpending
      obtain ⟨row', hrow', hstatus'⟩ := pending_eq_true_iff.1 hpending
      exact hpass.spent row' hrow' hstatus'
    rw [hspent, pending_eq_true_iff.2 ⟨row, hrow, hstatus⟩]
    exact Nat.le_add_left _ _

/-- **A request keeps the invariant.** -/
theorem ChallengesInv.served {es : List SiteEvent} (hinv : ChallengesInv cols es s)
    (hhex : IsTokenHex v.env.token) :
    ChallengesInv cols (es ++ [.served v (v.serve dj cols s).1
      (createdRow v.env.token s (v.serve dj cols s).2)]) (v.serve dj cols s).2 := by
  have hspec : ChallengeSpec v cols s (v.serve dj cols s).2 := challengeSpec_serve
  have hissued : ∀ {row'}, s.rows v.env.token = none →
      (v.serve dj cols s).2.rows v.env.token = some row' →
        IssuedIn (es ++ [.served v (v.serve dj cols s).1
          (createdRow v.env.token s (v.serve dj cols s).2)]) cols v.env.token v row' := by
    intro row' hfresh hrow'
    have hcreated := createdRow_eq_some_iff.2 ⟨hfresh, hrow'⟩
    have hnew := hspec.isIssued hcreated
    exact ⟨⟨_, List.mem_append_right _ (by rw [hcreated]; exact List.mem_cons_self)⟩,
      hnew.token, hnew⟩
  constructor
  case row =>
    intro token row' hrow'
    rcases hspec.row token row' hrow' with ⟨row, hrow, hkeeps⟩ | ⟨rfl, hfresh, hnew⟩
    · obtain ⟨hhex', htoken, v₀, row₀, hin, haddress, hdifficulty⟩ := hinv.row token row hrow
      exact ⟨hhex', hkeeps.token.trans htoken, v₀, row₀, hin.mono (List.subset_append_left _ _),
        hkeeps.ipAddress.trans haddress, hkeeps.difficulty.trans hdifficulty⟩
    · exact ⟨hhex, hnew.token, v, row', hissued hfresh hrow', rfl, rfl⟩
  case entry =>
    intro token c hc
    rcases hspec.entry token c hc with hold | ⟨rfl, hfresh, row', hrow', -, hvalue⟩
    · obtain ⟨v₀, row₀, iso, hin, hvalue⟩ := hinv.entry token c hold
      exact ⟨v₀, row₀, iso, hin.mono (List.subset_append_left _ _), hvalue⟩
    · exact ⟨v, row', v.env.expiresIso, hissued hfresh hrow', hvalue⟩
  case once =>
    intro token
    have hstep := passes_add_pending_le dj cols v s token
    have hold := hinv.once token
    rw [countP_concat, countP_concat]
    omega

end Step

/-! ### Whole runs -/

section Runs

variable {k : Signing} {dj : DjangoViews} {cols : ChallengeColumns} {s₀ s t : SiteState}
  {es : List SiteEvent} {e : SiteEvent}

theorem ChallengesInv.start (h : s₀.Fresh) : ChallengesInv cols [] s₀ where
  row token row hrow := by cases (h.rows token).symm.trans hrow
  entry token c hc := by cases (h.entries token).symm.trans hc
  once token := by
    rw [SiteState.pending, h.rows token]
    exact le_rfl

/-- **One step keeps the invariant.** -/
theorem ChallengesInv.step (hinv : ChallengesInv cols es s) (hstep : SiteStep k dj cols s e t) :
    ChallengesInv cols (es ++ [e]) t := by
  cases hstep with
  | served v hkey hnow hhex => exact hinv.served hhex
  | other hrows hentries =>
    have hsub : es ⊆ es ++ [.other] := List.subset_append_left _ _
    constructor
    case row =>
      intro token row hrow
      obtain ⟨hhex, htoken, v, row₀, hin, heq⟩ := hinv.row token row (hrows token row hrow)
      exact ⟨hhex, htoken, v, row₀, hin.mono hsub, heq⟩
    case entry =>
      intro token c hc
      obtain ⟨v, row₀, iso, hin, hvalue⟩ := hinv.entry token c (hentries token c hc)
      exact ⟨v, row₀, iso, hin.mono hsub, hvalue⟩
    case once =>
      intro token
      have hold := hinv.once token
      have hpending : (t.pending token).toNat ≤ (s.pending token).toNat := by
        rcases hp : t.pending token with - | -
        · exact Nat.zero_le _
        · obtain ⟨row, hrow, hstatus⟩ := pending_eq_true_iff.1 hp
          rw [pending_eq_true_iff.2 ⟨row, hrows token row hrow, hstatus⟩]
      rw [countP_concat, countP_concat]
      show _ + 0 + _ ≤ _ + 0
      omega

theorem ChallengesInv.of_run (hfresh : s₀.Fresh) (hrun : Run (SiteStep k dj cols) s₀ es s) :
    ChallengesInv cols es s :=
  hrun.invariant (.start hfresh) fun _ hinv hstep ↦ hinv.step hstep

/-- The solution has the proof of work of a challenge of the history, which was issued to its
address, as that was sent or as the database keeps it. -/
def HasWork (k : Signing) (cols : ChallengeColumns) (es : List SiteEvent) (v : Arrival)
    (token : String) (nonce : PyText) : Prop :=
  ∃ v₀ row₀, IssuedIn es cols token v₀ row₀ ∧
    (getIp v.cf v.req = getIp v₀.cf v₀.req ∨
      getIp v.cf v.req = cols.ipAddress (getIp v₀.cf v₀.req)) ∧
    solvesPow k token nonce row₀.difficulty = some true

/-- **A solution that was checked has the work of its challenge.** -/
theorem ChallengesInv.hasWork (hinv : ChallengesInv cols es s) {v : Arrival} {now : ℚ}
    {token : String} {nonce : PyText} {row : ChallengeRow} (hrow : s.rows token = some row)
    (h : Solves k (s.record now token).entry.read row nonce (getIp v.cf v.req)) :
    HasWork k cols es v token nonce := by
  obtain ⟨-, htoken, v₀, row₀, hin, haddress, hdifficulty⟩ := hinv.row token row hrow
  rcases h with ⟨-, hip, hpow⟩ | ⟨storedIp, difficulty, hfound, hip, hpow⟩
  · rw [htoken, hdifficulty] at hpow
    exact ⟨v₀, row₀, hin, .inr (by rw [← hip, haddress, hin.issued.address]), hpow⟩
  · rw [SiteState.record] at hfound
    rcases hget : s.entries.get now token with - | value
    · rw [hget] at hfound
      cases hfound
    · obtain ⟨c, hc, -, rfl⟩ := KeySpace.get_eq_some_iff.1 hget
      obtain ⟨v₁, row₁, iso, hin₁, hvalue⟩ := hinv.entry token c hc
      rw [hget, Option.getD_some, hvalue, read_issuedEntry] at hfound
      cases hfound
      rw [htoken] at hpow
      exact ⟨v₁, row₁, hin₁, .inl (of_decide_eq_true hip).symm, hpow⟩

/-- A pass cookie of the history: the request it was set for, its token and its nonce. -/
structure PassedIn (k : Signing) (cols : ChallengeColumns) (es : List SiteEvent) (v : Arrival)
    (token : String) (nonce : PyText) (cookie : SetCookie) : Prop where
  /-- It came with a response of the history, which a challenge of an earlier request paid for. -/
  paid : ∃ pre reply created post, es = pre ++ .served v reply created :: post ∧
    cookie ∈ reply.cookies ∧ HasWork k cols pre v token nonce
  body : ∃ next, v.req.verifyBody = .fields (some token) (some nonce) next
  key : v.cf.toSigning = k
  isHex : IsTokenHex token
  time_nonneg : 0 ≤ v.env.now
  cookie : passCookie v.cf v.env v.req token = some cookie

/-- Every pass cookie of a run was set for a solution. -/
theorem passedIn_of_mem (hfresh : s₀.Fresh) (hrun : Run (SiteStep k dj cols) s₀ es s) {v : Arrival}
    {reply : Reply} {created : Option ChallengeRow} (hmem : .served v reply created ∈ es)
    {cookie : SetCookie} (hcookie : cookie ∈ reply.cookies) (hname : cookie.name = "waf_pass") :
    ∃ token nonce, PassedIn k cols es v token nonce cookie := by
  obtain ⟨pre, post, rfl⟩ := List.append_of_mem hmem
  obtain ⟨u, w, hpre, hstep⟩ := hrun.at_label
  have hinv := ChallengesInv.of_run hfresh hpre
  cases hstep with
  | served _ hkey hnow hhex =>
    obtain ⟨token, hpass⟩ := passSpec_of_mem hcookie hname
    obtain ⟨nonce, next, hbody, row, hrow, -, hsolves⟩ := hpass.body
    rw [hkey] at hsolves
    exact ⟨token, nonce, ⟨pre, _, _, post, rfl, hcookie, hinv.hasWork hrow hsolves⟩,
      ⟨next, hbody⟩, hkey, (hinv.row token row hrow).1, hnow, hpass.cookie⟩

end Runs

/-! ### A visitor -/

/-- A signer in Django's format, with decimal digits for the time and hexadecimal ones for the
signature. -/
def decimalSigner (key : List UInt8) (salt : String) : TimestampSigner where
  sign t payload :=
    let signed := payload.toList ++ ':' :: Nat.toDigits 10 t.floor.toNat
    let digest := Sha256.hmacSha256 key (utf8Encode (salt ++ .ofList signed))
    .ofList (signed ++ ':' :: digest.hexdigest)
  unsign now text maxAge := do
    let (signed, signature) ← rsplitOnce ':' text.toList
    let digest := Sha256.hmacSha256 key (utf8Encode (salt ++ .ofList signed))
    if signature = digest.hexdigest then
      let (payload, stamp) ← rsplitOnce ':' signed
      if now - PyStr.ofDigits stamp ≤ maxAge then some (.ofList payload) else none
    else none

/-- A site whose challenges any nonce solves, and which trusts staff that have logged in. -/
def visitorConf : SiteConf :=
  { ChallengeConf.defaults (.standard "" []),
    SitePasswordConf.defaults (.standard "" []) ⟨[], false, false⟩ plainConf.toRateLimitConf "" with
    difficulty := 0
    trustedCookieEnabled := true
    trustedCookieTtl := 43200
    trustedCookieDomain := none
    trustedCookieTrustLevel := "staff"
    waf := { plainConf with exemptPaths := ["/accounts/", "/waf/"] }
    rate_eq := rfl
    exemptHosts := []
    blockedCountries := []
    challengeUrl := ""
    verifyUrl := "" }

/-- A Django with that signer. -/
def visitorDjango : DjangoViews where
  timestampSigner := decimalSigner
  urlHasAllowedHostAndScheme := fun _ _ _ ↦ false
  httpResponseRedirect := some
  redirect := some
  buildAbsoluteUri := fun _ path ↦ some path

/-- A moment at the site. -/
def visitorEnv (now : ℚ) : SiteEnv :=
  { Env.plain now with
    lookupCountry := fun _ ↦ ""
    reverse := fun name ↦ some (if name = "django_waf:challenge" then "/waf/challenge/"
      else "/waf/verify/")
    token := repeatedToken '2' '9'
    expiresIso := "1970-01-02T00:00:00+00:00" }

/-- A request of the visitor. -/
def visitorRequest (method path : String) (cookies : String → Option String)
    (verifyBody : VerifyBody) : HttpRequest where
  method
  path
  fullPath := path
  cookies
  post := some fun _ ↦ none
  getHost := some "example.com"
  isSecure := true
  peer := ⟨some "192.0.2.1", none⟩
  requestMeta := [("REMOTE_ADDR", "192.0.2.1")]
  peer_eq := rfl
  user := none
  query := some fun _ ↦ none
  verifyBody

/-- The visitor asks for a challenge, and solves it a second later. -/
def visitorChallenge : Arrival :=
  ⟨visitorConf, visitorEnv 0, true,
    visitorRequest "GET" "/waf/challenge/" (fun _ ↦ none) .invalidJson, .challenge⟩

def visitorSolution : Arrival :=
  ⟨visitorConf, visitorEnv 1, true,
    visitorRequest "POST" "/waf/verify/" (fun _ ↦ none)
      (.fields (some (repeatedToken '2' '9')) (some "0") none), .verify⟩

/-- The site before them. -/
def emptySite : SiteState := ⟨World.start ⟨[], []⟩, fun _ ↦ none, .empty⟩

theorem fresh_emptySite : emptySite.Fresh := ⟨fun _ ↦ rfl, fun _ ↦ rfl⟩

/-- The states the visitor leaves. -/
def afterChallenge : SiteState := (visitorChallenge.serve visitorDjango solverColumns emptySite).2

def afterSolution : SiteState :=
  (visitorSolution.serve visitorDjango solverColumns afterChallenge).2

/-- What has happened until then. -/
def visitorHistory : List SiteEvent :=
  [.served visitorChallenge (visitorChallenge.serve visitorDjango solverColumns emptySite).1
      (createdRow (repeatedToken '2' '9') emptySite afterChallenge),
    .served visitorSolution (visitorSolution.serve visitorDjango solverColumns afterChallenge).1
      (createdRow (repeatedToken '2' '9') afterChallenge afterSolution)]

theorem visitor_run :
    Run (SiteStep (.standard "" []) visitorDjango solverColumns) emptySite visitorHistory
      afterSolution :=
  have hhex : IsTokenHex (repeatedToken '2' '9') := passesAtOnce_29.isHex
  .snoc (.snoc .nil (.served visitorChallenge rfl (by decide) hhex))
    (.served visitorSolution rfl (by decide) hhex)

theorem exists_visitorPass :
    ∃ cookie ∈ (visitorSolution.serve visitorDjango solverColumns afterChallenge).1.cookies,
      cookie.name = "waf_pass" := by
  have hany : ((visitorSolution.serve visitorDjango solverColumns afterChallenge).1.cookies.any
      fun cookie ↦ cookie.name = "waf_pass") = true := by decide +kernel
  obtain ⟨cookie, hmem, hname⟩ := List.any_eq_true.1 hany
  exact ⟨cookie, hmem, of_decide_eq_true hname⟩

theorem visitorSolution_mem :
    .served visitorSolution (visitorSolution.serve visitorDjango solverColumns afterChallenge).1
      (createdRow (repeatedToken '2' '9') afterChallenge afterSolution) ∈ visitorHistory :=
  List.mem_cons_of_mem _ List.mem_cons_self

/-! ### The price -/

section

variable {k : Signing} {dj : DjangoViews} {cols : ChallengeColumns} {s₀ s : SiteState}
  {es : List SiteEvent}

/-- **A pass cookie costs work.** Every pass cookie of a run was set for the proof of work of a
challenge that an earlier request was issued, and there are no more pass cookies for a token than
challenges. -/
theorem pass_costs_work (hfresh : s₀.Fresh) (hrun : Run (SiteStep k dj cols) s₀ es s) :
    (∀ v reply created, .served v reply created ∈ es → ∀ cookie ∈ reply.cookies,
      cookie.name = "waf_pass" → ∃ token nonce, PassedIn k cols es v token nonce cookie) ∧
    ∀ token, es.countP (SiteEvent.passes token) ≤ es.countP (SiteEvent.creates token) := by
  refine ⟨fun v reply created hmem cookie ↦ passedIn_of_mem hfresh hrun hmem, fun token ↦ ?_⟩
  have honce := (ChallengesInv.of_run hfresh hrun).once token
  omega

end

theorem pass_costs_work_visitor :
    (∃ cookie token nonce, PassedIn (.standard "" []) solverColumns visitorHistory visitorSolution
      token nonce cookie) ∧
    visitorHistory.countP (SiteEvent.passes (repeatedToken '2' '9')) ≤
      visitorHistory.countP (SiteEvent.creates (repeatedToken '2' '9')) := by
  obtain ⟨hpaid, honce⟩ := pass_costs_work fresh_emptySite visitor_run
  obtain ⟨cookie, hmem, hname⟩ := exists_visitorPass
  exact ⟨⟨cookie, hpaid _ _ _ visitorSolution_mem cookie hmem hname⟩, honce _⟩

end DjangoWaf
