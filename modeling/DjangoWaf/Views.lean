import DjangoWaf.FrontDoor
import DjangoWaf.Lib.UrlQuery
import DjangoWaf.SitePasswordGate
import DjangoWaf.SolvedOnce

/-!
# The challenge views

`ChallengeView.get` and `VerifyView.post` of `views.py`, the tables they work on, and one request
served from the front door to the cookies of its response.

* The row and the Redis entry of a challenge are written one after the other: an entry that Redis
  refuses leaves the **row without an entry**, and the view raises.
* An accepted solution is saved before the redirect is built. Where the redirect or the cookie
  raises, the challenge is spent and **no cookie is set**.
* `Served` lists what one request can do to the challenges and which cookies it can set
  (`serve_spec`).

The view a request is routed to is given: the URLconf is the project's own. What a site's own view
does, beside logging users in, is left out.
-/

namespace DjangoWaf

/-! ### The challenges -/

/-- The shared state, with the `ChallengeToken` table and the challenge entries. -/
structure SiteState where
  world : World
  rows : String → Option ChallengeRow
  /-- `waf:challenge:{token}`. -/
  entries : KeySpace String ℚ ChallengeCache

/-- What the views use of Django beside what the gate uses. -/
structure DjangoViews extends DjangoHttp where
  /-- The `Location` of `redirect(to)`, or `none` where it raises. -/
  redirect : String → Option String
  /-- `build_absolute_uri`, or `none` where it raises. -/
  buildAbsoluteUri : HttpRequest → String → Option String

/-- The answer of a view. -/
inductive ViewAnswer
  /-- Any answer of the site's own views. -/
  | site
  /-- The challenge page with its context. -/
  | challengePage (token : String) (difficulty : ℤ) (nextUrl postUrl : String)
  /-- `503`. -/
  | unavailable
  /-- `400` with an error, and the replacement token if there is one. -/
  | badRequest (newToken : Option String)
  /-- `429` with its `Retry-After`. -/
  | tooMany (retryAfter : ℤ)
  /-- The redirect of an accepted solution. -/
  | redirect (location : String)
  /-- An exception, which Django answers. -/
  | raised
  deriving DecidableEq

variable (cf : SiteConf) (dj : DjangoViews) (cols : ChallengeColumns) (env : SiteEnv)

/-- `issue_challenge`: the row, if everything went through. -/
def SiteState.issue (ipAddress userAgent : String) (s : SiteState) :
    Option ChallengeRow × SiteState :=
  -- `token` is unique in the table
  if (s.rows env.token).isSome then (none, s)
  else
    match issueChallenge cf.toChallengeConf cols ipAddress userAgent env.token env.now
      env.expiresIso with
    | none => (none, s)
    | some (row, entry) =>
      let s' := { s with rows := Function.update s.rows env.token (some row) }
      -- Redis refuses a lifetime that is not positive
      if cf.cookieTtl ≤ 0 then (none, s')
      else (some row, { s' with entries := s'.entries.setex env.now env.token cf.cookieTtl entry })

/-- What is kept of a token. -/
def SiteState.record (now : ℚ) (token : String) (s : SiteState) : ChallengeRecord :=
  ⟨s.rows token, (s.entries.get now token).getD .missing⟩

/-- `verify_challenge_solution`. -/
def SiteState.verify (token : String) (nonce : PyText) (ipAddress : String) (s : SiteState) :
    Except ChallengeError Bool × SiteState :=
  let (result, record) := verifyChallengeSolution cf.toSigning cols (s.record env.now token) nonce
    ipAddress env.now
  let s' := { s with rows := Function.update s.rows token record.row }
  match result with
  | .ok solved => (.ok solved, { s' with entries := s'.entries.delete token })
  | .error e => (.error e, s')

/-! ### The views -/

/-- `_get_ip`. -/
def getIp (req : HttpRequest) : String :=
  let resolved := resolveClientIp cf.toProxyConf req.peer
  if resolved = "" then "0.0.0.0" else resolved

/-- `urlencode` of one field whose name has nothing to encode. -/
def urlencodeField (name value : String) : String :=
  name ++ "=" ++ String.ofList ((UrlQuery.quote [' '] value.toList).map fun c ↦
    if c = ' ' then '+' else c)

/-- The way back with the replay token behind it. -/
def withFormReplay (nextUrl formReplay : String) : String :=
  if formReplay = "" then nextUrl
  else
    nextUrl ++ (if PyStr.contains nextUrl "?" then "&" else "?") ++
      urlencodeField "form_replay" formReplay

/-- `ChallengeView.get`. -/
def ChallengeView.get (req : HttpRequest) (s : SiteState) : ViewAnswer × SiteState :=
  match req.query with
  | none => (.raised, s)
  | some query =>
    match safeNext dj.toDjangoHttp req.toSiteRequest ((query "next").getD "") with
    | .error _ => (.raised, s)
    | .ok nextUrl =>
      if !cf.waf.hasRedis then (.unavailable, s)
      else
        match s.issue cf cols env (getIp cf req) (req.requestMeta.get "HTTP_USER_AGENT") with
        | (none, s') => (.raised, s')
        | (some row, s') =>
          let nextUrl := withFormReplay nextUrl ((query "form_replay").getD "")
          let verifyPath :=
            if cf.verifyUrl ≠ "" then some cf.verifyUrl else env.reverse "django_waf:verify"
          match verifyPath.bind (dj.buildAbsoluteUri req) with
          | none => (.raised, s')
          | some postUrl => (.challengePage row.token row.difficulty nextUrl postUrl, s')

/-- `issue_pass_cookie`, on the response to an accepted solution. -/
def passCookie (req : HttpRequest) (token : String) : Option SetCookie :=
  match issuePassCookie cf.toChallengeConf token (getIp cf req) env.now with
  | .error _ => none
  | .ok value => some
    { name := "waf_pass"
      value
      maxAge := cf.cookieTtl
      domain := none
      httponly := true
      secure := req.isSecure
      samesite := "Lax" }

/-- The end of `VerifyView.post`, for an accepted solution. -/
def acceptedResponse (req : HttpRequest) (token nextUrl : String) :
    ViewAnswer × Option SetCookie :=
  match dj.redirect nextUrl with
  | none => (.raised, none)
  | some location =>
    match passCookie cf env req token with
    | none => (.raised, none)
    | some cookie => (.redirect location, some cookie)

/-- The guarded replacement of `VerifyView.post`. -/
def replacement (req : HttpRequest) (s : SiteState) : ViewAnswer × SiteState :=
  let (row, s') := s.issue cf cols env (getIp cf req) (req.requestMeta.get "HTTP_USER_AGENT")
  (.badRequest (row.map (·.token)), s')

/-- `VerifyView.post` past the rate limit. -/
def VerifyView.solve (req : HttpRequest) (token : String) (nonce : PyText) (nextUrl : String)
    (s : SiteState) :
    ViewAnswer × Option SetCookie × SiteState :=
  match s.verify cf cols env token nonce (getIp cf req) with
  | (.ok _, s') =>
    let (answer, cookie) := acceptedResponse cf dj env req token nextUrl
    (answer, cookie, s')
  | (.error .other, s') => (.raised, none, s')
  | (.error _, s') =>
    let (answer, s'') := replacement cf cols env req s'
    (answer, none, s'')

/-- `VerifyView.post`. -/
def VerifyView.post (req : HttpRequest) (s : SiteState) :
    ViewAnswer × Option SetCookie × SiteState :=
  match req.verifyBody with
  | .unreadable => (.raised, none, s)
  | .invalidJson => (.badRequest none, none, s)
  | .fields token nonce next =>
    let token := token.getD ""
    let nonce : PyText := nonce.getD ""
    if token = "" ∨ nonce = ("" : String) then (.badRequest none, none, s)
    else
      match safeNext dj.toDjangoHttp req.toSiteRequest (next.getD "") with
      | .error _ => (.raised, none, s)
      | .ok nextUrl =>
        if !cf.waf.hasRedis then (.unavailable, none, s)
        else
          let rate := (checkVerifyRateLimit cf.waf.toRateLimitConf env.drop (getIp cf req)
            s.world.redis.rate env.now).1
          let solves := (s.verify cf cols env token nonce (getIp cf req)).1.toBool
          let world :=
            (verifyPost cf.waf env.toEnv (getIp cf req) req.requestMeta solves s.world).2
          if rate.exceeded then (.tooMany (rate.retryAfter.getD 60), none, { s with world })
          else
            let (answer, cookie, s') := VerifyView.solve cf dj cols env req token nonce nextUrl s
            (answer, cookie, { s' with world })

/-! ### One request -/

/-- The view a request is routed to. -/
inductive RoutedView
  /-- A view of the site, which logs in some users. -/
  | site (logins : List AuthUser)
  | challenge
  | verify

/-- A request, with the settings and the surroundings it is served in. -/
structure Arrival where
  cf : SiteConf
  env : SiteEnv
  /-- The login receiver was connected at startup. -/
  connected : Bool
  req : HttpRequest
  routed : RoutedView

/-- What the client gets: the end of the middleware, the answer of the view if it was reached, and
the cookies of the package. -/
structure Reply where
  door : Door
  view : Option ViewAnswer
  cookies : List SetCookie

/-- The view, behind `_get_response`. -/
def Arrival.respond (v : Arrival) (s : SiteState) : ViewAnswer × List SetCookie × SiteState :=
  match v.routed with
  | .site logins =>
    (.site, (getResponseCookie v.cf.toTrustedConf dj.toDjangoHttp v.connected v.env.now v.req.peer
      v.req.isSecure logins).toList, s)
  | .challenge =>
    let (answer, s') := ChallengeView.get v.cf dj cols v.env v.req s
    (answer, [], s')
  | .verify =>
    let (answer, cookie, s') := VerifyView.post v.cf dj cols v.env v.req s
    (answer, cookie.toList, s')

/-- A request, from the front door to the response. -/
def Arrival.serve (v : Arrival) (s : SiteState) : Reply × SiteState :=
  let (door, world) := WafMiddleware.callHttp v.cf dj.toDjangoHttp v.env v.req s.world
  let s := { s with world }
  match door with
  | .handled h =>
    if h.response = .view then
      let (answer, cookies, s') := v.respond dj cols s
      (⟨door, some answer, cookies⟩, s')
    else (⟨door, none, []⟩, s)
  | .gate response => (⟨door, none, response.cookie.toList⟩, s)
  | .raised _ => (⟨door, none, []⟩, s)

/-! ### What the services do to the challenges -/

/-- A row that `issue_challenge` makes for a request. -/
structure IsIssued (cf : SiteConf) (cols : ChallengeColumns) (env : SiteEnv) (req : HttpRequest)
    (row : ChallengeRow) : Prop where
  token : row.token = env.token
  address : row.ipAddress = cols.ipAddress (getIp cf req)
  difficulty : row.difficulty =
    pickDifficulty cf.toChallengeConf (req.requestMeta.get "HTTP_USER_AGENT")
  status : row.status = .pending

/-- A row after a call of `verify_challenge_solution`. -/
structure ChallengeRow.Keeps (row row' : ChallengeRow) : Prop where
  token : row'.token = row.token
  ipAddress : row'.ipAddress = row.ipAddress
  difficulty : row'.difficulty = row.difficulty
  status : row'.status = .pending → row.status = .pending

theorem ChallengeRow.Keeps.refl (row : ChallengeRow) : row.Keeps row := ⟨rfl, rfl, rfl, id⟩

theorem ChallengeRow.keeps_save (row : ChallengeRow) {status : ChallengeStatus}
    (h : status.Terminal) (nonce : PyText) (now : ℚ) : row.Keeps (row.save status nonce now) := by
  rw [ChallengeRow.save]
  split_ifs
  · exact ⟨rfl, rfl, rfl, fun hpending ↦ absurd hpending h⟩
  · exact ⟨rfl, rfl, rfl, fun hpending ↦ absurd hpending h⟩

/-- The entry of an issued row. -/
def issuedEntry (ipAddress : String) (difficulty : ℤ) (iso : String) : ChallengeCache :=
  .value (.obj [("ip", .str ipAddress), ("difficulty", .int difficulty), ("expires", .str iso)])

/-- The entry is read back. -/
theorem read_issuedEntry (ipAddress : String) (difficulty : ℤ) (iso : String) :
    (issuedEntry ipAddress difficulty iso).read = .found (.str ipAddress) difficulty := rfl

/-- **What a request does to the challenges**: the rows that were there keep what they were issued
with, and at most one row and its entry are new. -/
structure ChallengeSpec (v : Arrival) (cols : ChallengeColumns) (s s' : SiteState) : Prop where
  row : ∀ token row', s'.rows token = some row' →
    (∃ row, s.rows token = some row ∧ row.Keeps row') ∨
      (token = v.env.token ∧ s.rows token = none ∧ IsIssued v.cf cols v.env v.req row')
  entry : ∀ token c, s'.entries.cell token = some c →
    s.entries.cell token = some c ∨
      (token = v.env.token ∧ s.rows token = none ∧ ∃ row', s'.rows token = some row' ∧
        IsIssued v.cf cols v.env v.req row' ∧
        c.value = issuedEntry (getIp v.cf v.req) row'.difficulty v.env.expiresIso)

section Services

variable {v : Arrival} {cols : ChallengeColumns} {s s' : SiteState}

/-- Nothing is new: rows keep what they were issued with, and none goes missing. -/
structure SiteState.Kept (s s' : SiteState) : Prop where
  row : ∀ token row', s'.rows token = some row' → ∃ row, s.rows token = some row ∧ row.Keeps row'
  none : ∀ token, s'.rows token = none → s.rows token = none
  entry : ∀ token c, s'.entries.cell token = some c → s.entries.cell token = some c

theorem SiteState.Kept.of_eq (hrows : s'.rows = s.rows) (hentries : s'.entries = s.entries) :
    s.Kept s' where
  row _ row' h := ⟨row', hrows ▸ h, .refl row'⟩
  none _ h := hrows ▸ h
  entry _ _ h := hentries ▸ h

theorem SiteState.Kept.challengeSpec (h : s.Kept s') : ChallengeSpec v cols s s' where
  row token row' hrow := .inl (h.row token row' hrow)
  entry token c hc := .inl (h.entry token c hc)

theorem ChallengeRow.Keeps.trans {row row' row'' : ChallengeRow} (h : row.Keeps row')
    (h' : row'.Keeps row'') : row.Keeps row'' :=
  ⟨h'.token.trans h.token, h'.ipAddress.trans h.ipAddress, h'.difficulty.trans h.difficulty,
    fun hpending ↦ h.status (h'.status hpending)⟩

theorem ChallengeSpec.withWorld (h : ChallengeSpec v cols s s') (world : World) :
    ChallengeSpec v cols s { s' with world } := ⟨h.row, h.entry⟩

/-- A challenge may be created after another was verified. -/
theorem SiteState.Kept.trans_spec {t : SiteState} (h : s.Kept t) (h' : ChallengeSpec v cols t s') :
    ChallengeSpec v cols s s' where
  row token row' hrow := by
    rcases h'.row token row' hrow with ⟨row, hmid, hkeeps⟩ | ⟨htoken, hfresh, hnew⟩
    · obtain ⟨row₀, hold, hkeeps₀⟩ := h.row token row hmid
      exact .inl ⟨row₀, hold, hkeeps₀.trans hkeeps⟩
    · exact .inr ⟨htoken, h.none token hfresh, hnew⟩
  entry token c hc := by
    rcases h'.entry token c hc with hmid | ⟨htoken, hfresh, hnew⟩
    · exact .inl (h.entry token c hmid)
    · exact .inr ⟨htoken, h.none token hfresh, hnew⟩

/-- **A challenge is created or everything stays as it is.** -/
theorem challengeSpec_issue {created : Option ChallengeRow}
    (h : s.issue v.cf cols v.env (getIp v.cf v.req) (v.req.requestMeta.get "HTTP_USER_AGENT") =
      (created, s')) : ChallengeSpec v cols s s' := by
  rw [SiteState.issue] at h
  split at h
  · obtain ⟨-, rfl⟩ := Prod.mk.inj h
    exact (SiteState.Kept.of_eq rfl rfl).challengeSpec
  · rename_i hsome
    have hfresh : s.rows v.env.token = none := by simpa using hsome
    split at h
    · obtain ⟨-, rfl⟩ := Prod.mk.inj h
      exact (SiteState.Kept.of_eq rfl rfl).challengeSpec
    · rename_i row entry hissue
      have hnew : IsIssued v.cf cols v.env v.req row ∧
          entry = issuedEntry (getIp v.cf v.req) row.difficulty v.env.expiresIso := by
        rw [issueChallenge] at hissue
        split_ifs at hissue
        obtain ⟨rfl, rfl⟩ := Prod.mk.inj (Option.some.inj hissue)
        exact ⟨⟨rfl, rfl, rfl, rfl⟩, rfl⟩
      have hrows : s'.rows = Function.update s.rows v.env.token (some row) := by
        dsimp only at h
        split_ifs at h
        · rw [← (Prod.mk.inj h).2]
        · rw [← (Prod.mk.inj h).2]
      constructor
      · intro token row' hrow
        rw [hrows] at hrow
        by_cases htoken : token = v.env.token
        · subst htoken
          rw [Function.update_self] at hrow
          obtain rfl := Option.some.inj hrow
          exact .inr ⟨rfl, hfresh, hnew.1⟩
        · rw [Function.update_of_ne htoken] at hrow
          exact .inl ⟨row', hrow, .refl row'⟩
      · intro token c hc
        have hself : s'.rows v.env.token = some row := by rw [hrows, Function.update_self]
        dsimp only at h
        split_ifs at h
        · obtain ⟨-, rfl⟩ := Prod.mk.inj h
          exact .inl hc
        · obtain ⟨-, rfl⟩ := Prod.mk.inj h
          rcases KeySpace.cell_setex_eq_some hc with ⟨rfl, rfl⟩ | hold
          · exact .inr ⟨rfl, hfresh, row, hself, hnew.1, hnew.2⟩
          · exact .inl hold

/-- What is checked of a solution: it was issued to the address, and has the proof of work. -/
def Solves (k : Signing) (lookup : ChallengeLookup) (row : ChallengeRow)
    (nonce : PyText) (ipAddress : String) : Prop :=
  (lookup = .absent ∧ row.ipAddress = ipAddress ∧
      solvesPow k row.token nonce row.difficulty = some true) ∨
    ∃ storedIp difficulty, lookup = .found storedIp difficulty ∧
      storedIp.eqText ipAddress = true ∧ solvesPow k row.token nonce difficulty = some true

/-- **`SOLVED` is saved for a pending row and a solution that was checked.** -/
theorem decideChallenge_eq_solved {k : Signing} {entry : ChallengeLookup}
    {row : Option ChallengeRow} {nonce : PyText} {ipAddress : String} {now : ℚ}
    (h : decideChallenge k entry row nonce ipAddress now = .save .solved) :
    ∃ r, row = some r ∧ r.status = .pending ∧ Solves k entry r nonce ipAddress := by
  have hcheck : ∀ {r : ChallengeRow} {storedIp : Json} {difficulty : ℤ},
      checkChallenge k r storedIp difficulty nonce ipAddress now = .save .solved →
        storedIp.eqText ipAddress = true ∧ solvesPow k r.token nonce difficulty = some true := by
    intro r storedIp difficulty h
    rw [checkChallenge] at h
    split_ifs at h with hterminal hexpired hip
    · cases h
    · refine ⟨by simpa using hip, ?_⟩
      rcases hpow : solvesPow k r.token nonce difficulty with - | - | -
      · rw [hpow] at h
        cases h
      · rw [hpow] at h
        cases h
      · rfl
  obtain ⟨hpending, -⟩ := decideChallenge_eq_save k h
  rcases row with - | r
  · cases hpending
  · refine ⟨r, rfl, Option.some.inj hpending, ?_⟩
    cases entry with
    | raises => cases h
    | absent =>
      obtain ⟨hip, hpow⟩ := hcheck h
      exact .inl ⟨rfl, by simpa [Json.eqText] using hip, hpow⟩
    | found storedIp difficulty =>
      obtain ⟨hip, hpow⟩ := hcheck h
      exact .inr ⟨storedIp, difficulty, rfl, hip, hpow⟩

/-- A verification leaves the row alone, or saves what it has decided. -/
theorem verifyChallengeSolution_cases (k : Signing) (cols : ChallengeColumns) (r : ChallengeRecord)
    (nonce : PyText) (ipAddress : String) (now : ℚ) :
    ((∃ e, (verifyChallengeSolution k cols r nonce ipAddress now).1 = .error e) ∧
        (verifyChallengeSolution k cols r nonce ipAddress now).2.row = r.row) ∨
      ∃ status, decideChallenge k r.entry.read r.row nonce ipAddress now = .save status ∧
        (verifyChallengeSolution k cols r nonce ipAddress now).2.row =
          r.row.map (fun row ↦ row.save status nonce now) ∧
        ∀ solved, (verifyChallengeSolution k cols r nonce ipAddress now).1 = .ok solved →
          status = .solved := by
  rw [verifyChallengeSolution]
  rcases hdecide : decideChallenge k r.entry.read r.row nonce ipAddress now with e | status
  · exact .inl ⟨⟨e, rfl⟩, rfl⟩
  · dsimp only
    split_ifs with hfits
    · exact .inl ⟨⟨.other, rfl⟩, rfl⟩
    · refine .inr ⟨status, rfl, ?_, ?_⟩
      · cases status.error <;> rfl
      · obtain ⟨-, hterminal⟩ := decideChallenge_eq_save k hdecide
        cases status with
        | pending => exact absurd rfl hterminal
        | solved => exact fun _ _ ↦ rfl
        | expired => rintro solved ⟨⟩
        | failed => rintro solved ⟨⟩

section Verify

variable (cf : SiteConf) (env : SiteEnv) (cols : ChallengeColumns) (s : SiteState)
  (token : String) (nonce : PyText) (ipAddress : String)

/-- What a verification answers, and the rows and entries it leaves. -/
theorem verify_spec :
    (s.verify cf cols env token nonce ipAddress).1 = (verifyChallengeSolution cf.toSigning cols
        (s.record env.now token) nonce ipAddress env.now).1 ∧
      (s.verify cf cols env token nonce ipAddress).2.rows = Function.update s.rows token
        (verifyChallengeSolution cf.toSigning cols (s.record env.now token) nonce ipAddress
          env.now).2.row ∧
      ((s.verify cf cols env token nonce ipAddress).2.entries = s.entries ∨
        (s.verify cf cols env token nonce ipAddress).2.entries = s.entries.delete token) := by
  rw [SiteState.verify]
  rcases verifyChallengeSolution cf.toSigning cols (s.record env.now token) nonce ipAddress env.now
    with ⟨e | solved, record⟩
  · exact ⟨rfl, rfl, .inl rfl⟩
  · exact ⟨rfl, rfl, .inr rfl⟩

/-- The row of the token after a verification. -/
theorem row_verify_cases :
    (verifyChallengeSolution cf.toSigning cols (s.record env.now token) nonce ipAddress
        env.now).2.row = s.rows token ∨
      ∃ row status, s.rows token = some row ∧ status.Terminal ∧
        (verifyChallengeSolution cf.toSigning cols (s.record env.now token) nonce ipAddress
          env.now).2.row = some (row.save status nonce env.now) := by
  rcases verifyChallengeSolution_cases cf.toSigning cols (s.record env.now token) nonce ipAddress
    env.now with ⟨-, hrow⟩ | ⟨status, hdecide, hrow, -⟩
  · exact .inl hrow
  · obtain ⟨hpending, hterminal⟩ := decideChallenge_eq_save _ hdecide
    obtain ⟨row, hold, -⟩ := Option.map_eq_some_iff.1 hpending
    refine .inr ⟨row, status, hold, hterminal, ?_⟩
    rw [hrow, hold]
    rfl

/-- **A verification leaves every challenge what it was issued with.** -/
theorem kept_verify : s.Kept (s.verify cf cols env token nonce ipAddress).2 := by
  obtain ⟨-, hrows, hentries⟩ := verify_spec cf env cols s token nonce ipAddress
  constructor
  case row =>
    intro t row' hrow
    rw [hrows] at hrow
    by_cases ht : t = token
    · subst ht
      rw [Function.update_self] at hrow
      rcases row_verify_cases cf env cols s t nonce ipAddress with
        hsame | ⟨row, status, hold, hterminal, hnew⟩
      · exact ⟨row', hsame.symm.trans hrow, .refl row'⟩
      · obtain rfl := Option.some.inj (hnew.symm.trans hrow)
        exact ⟨row, hold, row.keeps_save hterminal nonce env.now⟩
    · rw [Function.update_of_ne ht] at hrow
      exact ⟨row', hrow, .refl row'⟩
  case none =>
    intro t hnone
    rw [hrows] at hnone
    by_cases ht : t = token
    · subst ht
      rw [Function.update_self] at hnone
      rcases row_verify_cases cf env cols s t nonce ipAddress with
        hsame | ⟨row, status, hold, hterminal, hnew⟩
      · exact hsame.symm.trans hnone
      · cases hnew.symm.trans hnone
    · rwa [Function.update_of_ne ht] at hnone
  case entry =>
    intro t c hc
    rcases hentries with hsame | hdelete
    · rwa [hsame] at hc
    · rw [hdelete] at hc
      exact KeySpace.cell_eq_some_of_delete hc

variable {cf env cols s token nonce ipAddress} in
/-- **An accepted solution was checked, and its challenge is spent.** -/
theorem verify_ok {solved : Bool}
    (h : (s.verify cf cols env token nonce ipAddress).1 = .ok solved) :
    (∃ row, s.rows token = some row ∧ row.status = .pending ∧
      Solves cf.toSigning (s.record env.now token).entry.read row nonce ipAddress) ∧
    ∀ row', (s.verify cf cols env token nonce ipAddress).2.rows token = some row' →
      row'.status ≠ .pending := by
  obtain ⟨hanswer, hrows, -⟩ := verify_spec cf env cols s token nonce ipAddress
  rw [hanswer] at h
  rcases verifyChallengeSolution_cases cf.toSigning cols (s.record env.now token) nonce ipAddress
    env.now with ⟨⟨e, herror⟩, -⟩ | ⟨status, hdecide, hrow, hok⟩
  · cases herror.symm.trans h
  · obtain rfl := hok solved h
    obtain ⟨row, hold, hpending, hsolves⟩ := decideChallenge_eq_solved hdecide
    have hold' : s.rows token = some row := hold
    refine ⟨⟨row, hold', hpending, hsolves⟩, fun row' hrow' ↦ ?_⟩
    rw [hrows, Function.update_self, hrow, hold] at hrow'
    obtain rfl := Option.some.inj hrow'
    show (row.save .solved nonce env.now).status ≠ .pending
    rw [ChallengeRow.save, if_pos rfl]
    rintro ⟨⟩

end Verify

end Services

/-! ### What a request does to the challenges -/

section Serve

variable {dj : DjangoViews} {cols : ChallengeColumns} {v : Arrival} {s : SiteState}

theorem challengeSpec_get :
    ChallengeSpec v cols s (ChallengeView.get v.cf dj cols v.env v.req s).2 := by
  have hrefl : ChallengeSpec v cols s s := (SiteState.Kept.of_eq rfl rfl).challengeSpec
  rw [ChallengeView.get]
  split
  · exact hrefl
  · split
    · exact hrefl
    · split
      · exact hrefl
      · split
        · rename_i hissue
          exact challengeSpec_issue hissue
        · rename_i hissue
          dsimp only
          split
          · exact challengeSpec_issue hissue
          · exact challengeSpec_issue hissue

theorem challengeSpec_solve {token : String} {nonce : PyText} {nextUrl : String} :
    ChallengeSpec v cols s
      (VerifyView.solve v.cf dj cols v.env v.req token nonce nextUrl s).2.2 := by
  have hkept := kept_verify v.cf v.env cols s token nonce (getIp v.cf v.req)
  rw [VerifyView.solve]
  split
  · rename_i h
    rw [h] at hkept
    exact hkept.challengeSpec
  · rename_i h
    rw [h] at hkept
    exact hkept.challengeSpec
  · rename_i h
    rw [h] at hkept
    exact hkept.trans_spec (challengeSpec_issue rfl)

theorem challengeSpec_post :
    ChallengeSpec v cols s (VerifyView.post v.cf dj cols v.env v.req s).2.2 := by
  have hrefl : ChallengeSpec v cols s s := (SiteState.Kept.of_eq rfl rfl).challengeSpec
  rw [VerifyView.post]
  split
  · exact hrefl
  · exact hrefl
  · dsimp only
    split
    · exact hrefl
    · split
      · exact hrefl
      · split
        · exact hrefl
        · split
          · exact hrefl.withWorld _
          · exact challengeSpec_solve.withWorld _

theorem challengeSpec_respond : ChallengeSpec v cols s (v.respond dj cols s).2.2 := by
  rw [Arrival.respond]
  rcases v.routed with logins | - | -
  · exact (SiteState.Kept.of_eq rfl rfl).challengeSpec
  · exact challengeSpec_get
  · exact challengeSpec_post

/-- **Every request leaves the challenges as `ChallengeSpec` says.** -/
theorem challengeSpec_serve : ChallengeSpec v cols s (v.serve dj cols s).2 := by
  have hworld (world : World) : s.Kept { s with world } := .of_eq rfl rfl
  rw [Arrival.serve]
  rcases WafMiddleware.callHttp v.cf dj.toDjangoHttp v.env v.req s.world with
    ⟨e | response | h, world⟩
  · exact (hworld world).challengeSpec
  · exact (hworld world).challengeSpec
  · dsimp only
    split
    · exact (hworld world).trans_spec challengeSpec_respond
    · exact (hworld world).challengeSpec

theorem door_serve : (v.serve dj cols s).1.door =
    (WafMiddleware.callHttp v.cf dj.toDjangoHttp v.env v.req s.world).1 := by
  rw [Arrival.serve]
  rcases WafMiddleware.callHttp v.cf dj.toDjangoHttp v.env v.req s.world with
    ⟨e | response | h, world⟩
  · rfl
  · rfl
  · dsimp only
    split
    · rfl
    · rfl

/-! ### The cookies of a response -/

/-- What a pass cookie was set for: an accepted solution, whose challenge is now spent. -/
structure PassSpec (v : Arrival) (cols : ChallengeColumns) (s s' : SiteState) (cookie : SetCookie)
    (token : String) : Prop where
  body : ∃ nonce next, v.req.verifyBody = .fields (some token) (some nonce) next ∧
    ∃ row, s.rows token = some row ∧ row.status = .pending ∧
      Solves v.cf.toSigning (s.record v.env.now token).entry.read row nonce (getIp v.cf v.req)
  spent : ∀ row', s'.rows token = some row' → row'.status ≠ .pending
  cookie : passCookie v.cf v.env v.req token = some cookie

/-- **What each cookie of a response was set for.** -/
inductive CookieSpec (v : Arrival) (dj : DjangoViews) (cols : ChallengeColumns) (s s' : SiteState)
    (reply : Reply) (cookie : SetCookie) : Prop
  /-- A right guess at the site-password gate. -/
  | gate (h : cookie.name = sitePasswordCookie)
  /-- A login. -/
  | login (logins : List AuthUser) (hrouted : v.routed = .site logins)
    (hview : reply.view = some .site)
    (h : getResponseCookie v.cf.toTrustedConf dj.toDjangoHttp v.connected v.env.now v.req.peer
      v.req.isSecure logins = some cookie)
  /-- An accepted solution. -/
  | solved (token : String) (h : PassSpec v cols s s' cookie token)

/-- The answer to a guess sets no other cookie than the gate's. -/
theorem name_of_handleSitePasswordVerify {cf : SitePasswordConf} {dj : DjangoHttp}
    {drop : RateKey → Bool} {now : ℚ} {req : SiteRequest} {redis : GuessRedis}
    {response : SiteResponse}
    (h : (handleSitePasswordVerify cf dj drop now req redis).1 = .ok response) :
    ∀ cookie ∈ response.cookie, cookie.name = sitePasswordCookie := by
  rw [handleSitePasswordVerify] at h
  split at h
  · cases h
  · dsimp only at h
    split at h
    · cases h
    · rw [admitGuess] at h
      split at h
      · cases h
      · split at h
        · cases h
        · obtain rfl := Except.ok.inj h
          rintro cookie ⟨⟩
          rfl
    · obtain rfl := Except.ok.inj h
      rw [refuseGuess_cookie]
      rintro cookie ⟨⟩

/-- A response of the gate sets no other cookie than its own. -/
theorem name_of_checkSitePassword {cf : SitePasswordConf} {dj : DjangoHttp} {drop : RateKey → Bool}
    {now : ℚ} {req : SiteRequest} {redis : GuessRedis} {response : SiteResponse}
    (h : (checkSitePassword cf dj drop now req redis).1 = .ok (some response)) :
    ∀ cookie ∈ response.cookie, cookie.name = sitePasswordCookie := by
  have hprompt {error nextUrl : Option String} :
      ∀ cookie ∈ (renderSitePasswordPrompt cf req error nextUrl).cookie,
        cookie.name = sitePasswordCookie := by
    rintro cookie ⟨⟩
  rw [checkSitePassword] at h
  split_ifs at h
  · cases h
  · cases h
  · obtain rfl := Option.some.inj (Except.ok.inj h)
    exact hprompt
  · cases h
  · rcases hanswer : handleSitePasswordVerify cf dj drop now req redis with ⟨e | response', redis'⟩
    · rw [hanswer] at h
      cases h
    · rw [hanswer] at h
      obtain rfl := Option.some.inj (Except.ok.inj h)
      exact name_of_handleSitePasswordVerify (congrArg Prod.fst hanswer)
  · obtain rfl := Option.some.inj (Except.ok.inj h)
    exact hprompt

theorem name_of_gate {response : SiteResponse} {world : World}
    (h : WafMiddleware.callHttp v.cf dj.toDjangoHttp v.env v.req s.world =
      (.gate response, world)) :
    ∀ cookie ∈ response.cookie, cookie.name = sitePasswordCookie := by
  rw [WafMiddleware.callHttp] at h
  split_ifs at h
  · cases h
  · cases h
  · cases h
  · split at h
    · cases h
    · rename_i hcheck
      cases h
      exact name_of_checkSitePassword (congrArg Prod.fst hcheck)
    · cases h

theorem cookie_solve {token : String} {nonce : PyText} {nextUrl : String} {cookie : SetCookie}
    (h : (VerifyView.solve v.cf dj cols v.env v.req token nonce nextUrl s).2.1 = some cookie) :
    (∃ row, s.rows token = some row ∧ row.status = .pending ∧
      Solves v.cf.toSigning (s.record v.env.now token).entry.read row nonce (getIp v.cf v.req)) ∧
    (∀ row', (VerifyView.solve v.cf dj cols v.env v.req token nonce nextUrl s).2.2.rows token =
      some row' → row'.status ≠ .pending) ∧
    passCookie v.cf v.env v.req token = some cookie := by
  rcases hverify : s.verify v.cf cols v.env token nonce (getIp v.cf v.req) with ⟨e | solved, s'⟩
  · rw [VerifyView.solve, hverify] at h
    cases e <;> cases h
  · obtain ⟨hsolved, hspent⟩ := verify_ok (congrArg Prod.fst hverify)
    rw [VerifyView.solve, hverify] at h ⊢
    rw [hverify] at hspent
    refine ⟨hsolved, hspent, ?_⟩
    dsimp only at h
    rw [acceptedResponse] at h
    split at h
    · cases h
    · split at h
      · cases h
      · rename_i hcookie
        rw [hcookie]
        exact h

theorem passSpec_post {cookie : SetCookie}
    (h : (VerifyView.post v.cf dj cols v.env v.req s).2.1 = some cookie) :
    ∃ token, PassSpec v cols s (VerifyView.post v.cf dj cols v.env v.req s).2.2 cookie token := by
  rw [VerifyView.post] at h ⊢
  rcases hbody : v.req.verifyBody with - | - | ⟨token, nonce, next⟩
  · rw [hbody] at h
    cases h
  · rw [hbody] at h
    cases h
  · rw [hbody] at h
    dsimp only at h ⊢
    rcases hnext : safeNext dj.toDjangoHttp v.req.toSiteRequest (next.getD "") with e | nextUrl
    · rw [hnext] at h
      dsimp only at h
      split_ifs at h
    · rw [hnext] at h
      dsimp only at h ⊢
      split_ifs at h ⊢ with hmissing
      obtain ⟨hsolved, hspent, hcookie⟩ := cookie_solve h
      have hget {α : Type} {field : Option α} {empty : α} (hne : field.getD empty ≠ empty) :
          field = some (field.getD empty) := by
        cases field with
        | none => exact absurd rfl hne
        | some text => rfl
      obtain ⟨htoken, hnonce⟩ := not_or.1 hmissing
      rw [hget htoken, hget hnonce] at hbody
      exact ⟨token.getD "", ⟨_, next, hbody, hsolved⟩, hspent, hcookie⟩

/-- **Every cookie was set for something.** -/
theorem cookieSpec_serve {cookie : SetCookie} (h : cookie ∈ (v.serve dj cols s).1.cookies) :
    CookieSpec v dj cols s (v.serve dj cols s).2 (v.serve dj cols s).1 cookie := by
  rw [Arrival.serve] at h ⊢
  rcases hcall : WafMiddleware.callHttp v.cf dj.toDjangoHttp v.env v.req s.world with
    ⟨e | response | handled, world⟩
  · rw [hcall] at h
    cases h
  · rw [hcall] at h
    exact .gate (name_of_gate hcall cookie (Option.mem_toList.1 h))
  · rw [hcall] at h
    dsimp only at h ⊢
    split_ifs at h ⊢
    · rw [Arrival.respond] at h ⊢
      rcases hrouted : v.routed with logins | - | -
      · rw [hrouted] at h
        exact .login logins hrouted rfl (Option.mem_toList.1 h)
      · rw [hrouted] at h
        cases h
      · rw [hrouted] at h
        obtain ⟨token, hpass⟩ := passSpec_post (Option.mem_toList.1 h)
        exact .solved token ⟨hpass.body, hpass.spent, hpass.cookie⟩
    · cases h

end Serve

end DjangoWaf
