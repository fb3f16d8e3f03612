import DjangoWaf.Forms.Decorators
import DjangoWaf.Forms.Verdicts
import DjangoWaf.TokenBinding

/-!
# What a challenge gives back

A flagged submission is stashed, the client solves a challenge, and the view is asked again with a
replay token. Two results on what comes of it.

* `replay_restores_iff`: what is rebuilt is the submission without its sensitive keys, provided that
  no other key has **more than one value**: it is scalarised on the way into the session.
* `challenge_never_rescues`: `waf_token` is a sensitive key, so what is rebuilt has no render token.
  It is evaluated like any other submission, and **the render token blocks it as missing**.
-/

namespace DjangoWaf

open PyBytes IsoDatetime

/-! ### The submission, restored -/

/-- A rebuilt body is the original one without its sensitive keys when no other key repeats. -/
theorem restorePost_eq_iff (q : QueryDict) :
    restorePost (filterSensitiveFields (scalariseSubmittedData q)) =
        q.filterKeys (fun name ↦ !isSensitiveField name) ↔
      ∀ p ∈ q.lists, isSensitiveField p.1 = false → p.2.length ≤ 1 := by
  have hlists : restorePost (filterSensitiveFields (scalariseSubmittedData q)) =
      q.filterKeys (fun name ↦ !isSensitiveField name) ↔
        (restorePost (filterSensitiveFields (scalariseSubmittedData q))).lists =
          (q.filterKeys fun name ↦ !isSensitiveField name).lists :=
    ⟨congrArg QueryDict.lists, QueryDict.ext_lists⟩
  have hkeep : ∀ p : String × List String,
      p ∈ (q.filterKeys fun name ↦ !isSensitiveField name).lists ↔
        p ∈ q.lists ∧ isSensitiveField p.1 = false := by
    intro p
    rw [QueryDict.filterKeys, List.mem_filter, Bool.not_eq_true']
  have hlast : ∀ p : String × List String,
      (p.1, p.2.getLast?.toList) = id p ↔ p.2.length ≤ 1 := by
    rintro ⟨key, values⟩
    rcases values with - | ⟨v, - | ⟨w, values⟩⟩
    · simp
    · simp
    · have hlength := Option.length_toList_le (o := (v :: w :: values).getLast?)
      refine iff_of_false (fun h ↦ ?_) (by simp)
      have hvalues : (v :: w :: values).getLast?.toList = v :: w :: values := (Prod.mk.inj h).2
      rw [hvalues] at hlength
      simp at hlength
  rw [hlists, lists_restorePost_filter]
  conv_lhs =>
    rhs
    rw [← List.map_id (q.filterKeys _).lists]
  rw [List.map_inj_left]
  simp only [hlast, hkeep, and_imp]

/-- **When a replay restores the submission.** -/
theorem replay_restores_iff {cf : FormConf} {env : FormEnv} {formId : String} {req : ViewRequest}
    {path next token : String} {stash : Stash}
    (hredirect : maybeRedirectToChallenge cf env formId req =
      some (.challenge path next token, stash))
    {env' : FormEnv} {back replayed : ViewRequest} (htoken : back.formReplay = token)
    (hsession : (back.session.getD []).lookup env.freshKey = stash.lookup env.freshKey)
    (hreplay : tryReplay cf.toSigning env' formId back = .ok (some replayed)) :
    (replayed.post = req.post.filterKeys (fun name ↦ !isSensitiveField name) ∧
        ∀ e ∈ stash, e ∈ req.session.getD [] ∨ ∀ p ∈ e.2.data, isSensitiveField p.1 = false) ↔
      ∀ p ∈ req.post.lists, isSensitiveField p.1 = false → p.2.length ≤ 1 := by
  obtain ⟨hresponse, hrecord, hstash⟩ := maybeRedirectToChallenge_cases hredirect
  obtain ⟨payload, record, hverify, hlookup, -, rfl⟩ := tryReplay_cases hreplay
  obtain rfl : token = issueReplayToken cf.toSigning formId req.ip env.freshKey env.time := by
    injection hresponse
  rw [htoken] at hverify
  obtain rfl := eq_of_verifyReplayToken_issue cf.toSigning hverify
  rw [hsession] at hlookup
  obtain rfl := hrecord record hlookup
  rw [restorePost_eq_iff, and_iff_left_iff_imp]
  refine fun _ e he ↦ (hstash e he).imp_right fun hdata p hp ↦ ?_
  rw [hdata] at hp
  exact not_isSensitiveField_of_mem hp

/-! ### The submission, evaluated again -/

/-- The view is called with a submission. -/
def ReachesView (answer : Except FormError (ViewResponse × Option Stash)) : Prop :=
  ∃ result session, answer = .ok (.view (some result), session)

/-- A disabled protection flags nothing. -/
theorem enabled_of_flagged {cf : FormConf} {fp : FormProtection} {reads : FormReads} {now : Civil}
    {req : FormRequest} {data : Submitted} {result : FormEvaluationResult}
    (heval : fp.evaluate cf reads now req data = .ok result)
    (hflagged : result.verdict = .flagged) : cf.enabled = true := by
  by_contra hoff
  rw [Bool.not_eq_true] at hoff
  rw [FormProtection.evaluate, if_pos hoff] at heval
  rw [← Except.ok.inj heval] at hflagged
  cases hflagged

/-- A body that is rebuilt from a stash is blocked: it has no token. -/
theorem handlePost_restored {cf : FormConf} {fp : FormProtection} (henabled : cf.enabled = true)
    (hmem : .renderToken ∈ fp.defenceNames) (env : FormEnv) {req : ViewRequest} {q : QueryDict}
    (hpost : req.post = restorePost (filterSensitiveFields (scalariseSubmittedData q))) :
    fp.handlePost cf env req = .ok (.rejected, req.session) := by
  have htoken : isSensitiveField RenderTokenDefence.fieldName = true := by decide
  have hnodup : ((filterSensitiveFields (scalariseSubmittedData q)).map Prod.fst).Nodup := by
    have hkeys : ((scalariseSubmittedData q).map Prod.fst).Nodup := by
      rw [scalariseSubmittedData, QueryDict.dict, List.map_map]
      exact q.nodup_keys
    exact hkeys.sublist (List.filter_sublist.map _)
  have htext : (scalariseSubmittedData req.post).text RenderTokenDefence.fieldName = "" := by
    rw [hpost]
    exact text_restorePost (fun p hp ↦ not_isSensitiveField_of_mem hp) hnodup htoken
  have hv := verifyToken_empty cf.toSigning
  rw [← htext] at hv
  obtain ⟨result, heval, hblocked⟩ :=
    fp.evaluate_refused env.reads env.now req.toFormRequest henabled hmem hv
  rw [FormProtection.handlePost, heval]
  simp only [if_pos hblocked]

/-- **A challenge never rescues a flagged submission**: what comes back is rejected, and the view
does not see it. -/
theorem challenge_never_rescues {cf : FormConf} {fp : FormProtection}
    (hmem : .renderToken ∈ fp.defenceNames) {env : FormEnv} {req : ViewRequest}
    {path next token : String} {session : Option Stash}
    (hflagged : fp.handlePost cf env req = .ok (.challenge path next token, session))
    (env' : FormEnv) {back : ViewRequest} (hget : back.method = .get)
    (htoken : back.formReplay = token)
    (hsession : (back.session.getD []).lookup env.freshKey =
      (session.getD []).lookup env.freshKey) :
    (∀ replayed, tryReplay cf.toSigning env' fp.formId back = .ok (some replayed) →
        fp.wrapper cf env' back = .ok (.rejected, replayed.session)) ∧
      ¬ReachesView (fp.wrapper cf env' back) := by
  obtain ⟨result, stash, heval, hverdict, rfl, hredirect⟩ :=
    FormProtection.handlePost_challenge hflagged
  have henabled := enabled_of_flagged heval hverdict
  obtain ⟨hresponse, hrecord, -⟩ := maybeRedirectToChallenge_cases hredirect
  obtain rfl : token = issueReplayToken cf.toSigning fp.formId req.ip env.freshKey env.time := by
    injection hresponse
  have hrejected : ∀ replayed, tryReplay cf.toSigning env' fp.formId back = .ok (some replayed) →
      fp.handlePost cf env' replayed = .ok (.rejected, replayed.session) := by
    intro replayed hreplay
    obtain ⟨payload, record, hverify, hlookup, -, rfl⟩ := tryReplay_cases hreplay
    rw [htoken] at hverify
    obtain rfl := eq_of_verifyReplayToken_issue cf.toSigning hverify
    rw [hsession] at hlookup
    obtain rfl := hrecord record hlookup
    exact handlePost_restored henabled hmem env' rfl
  have hnonempty : back.formReplay ≠ "" := by
    rw [htoken, issueReplayToken]
    exact encodeToken_ne_empty (by simp)
  rw [FormProtection.wrapper, if_pos ⟨hget, hnonempty⟩]
  refine ⟨fun replayed hreplay ↦ ?_, ?_⟩
  · rw [hreplay]
    exact hrejected replayed hreplay
  · rintro ⟨result', session', hview⟩
    rcases hreplay : tryReplay cf.toSigning env' fp.formId back with e | replayed
    · rw [hreplay] at hview
      cases hview
    · rcases replayed with - | replayed
      · rw [hreplay] at hview
        cases hview
      · rw [hreplay] at hview
        simp only at hview
        rw [hrejected replayed hreplay] at hview
        cases hview

/-! ### A hasty submission -/

/-- A form with a render token and a time trap. -/
def timedForm : FormProtection where
  formId := "contact"
  defenceNames := [.renderToken, .timeTrap]
  sublist := by decide
  weights := []
  skipForAuthenticated := false
  perFormConfig := .empty

/-- The token of the visitor's page. -/
def pageToken : String := (RenderTokenDefence.issue keyedConf timedForm visitor leapNoon "00ff").1

/-- A second after the render. -/
def hastyEnv : FormEnv where
  reads := (RenderTokenDefence.issueMarker keyedConf timedForm true leapNoon.seconds "00ff"
    .empty).reads true leapNoon.seconds
  now := { leapNoon with second := 1, second_lt := leapMinute.minute_lt }
  time := 1709208001
  freshKey := "0f0f"
  challengePath := "/waf/challenge/"

/-- A form that is sent a second after the render. -/
def hastyPost (topics : List String) : ViewRequest where
  toFormRequest := visitor
  method := .post
  path := "/contact/"
  formReplay := ""
  post := ⟨[("waf_token", [pageToken]), ("topic", topics)],
    show ["waf_token", "topic"].Nodup by decide⟩
  session := some []

/-- Its replay token. -/
def hastyToken : String :=
  issueReplayToken keyedConf.toSigning "contact" visitor.ip "0f0f" 1709208001

/-- Its stash. -/
def hastyStash (topics : List String) : Stash :=
  [("0f0f", ⟨"contact", "/contact/",
    filterSensitiveFields (scalariseSubmittedData (hastyPost topics).post), 1709208001⟩)]

/-- Forty seconds later, back from the challenge. -/
def returnEnv : FormEnv :=
  { hastyEnv with
    now := { leapNoon with second := 41, second_lt := by decide }
    time := 1709208041 }

/-- The request that comes back. -/
def hastyReturn (topics : List String) : ViewRequest :=
  { hastyPost topics with
    method := .get
    formReplay := hastyToken
    post := .empty
    session := some (hastyStash topics) }

/-- The request it is turned into. -/
def hastyReplay (topics : List String) : ViewRequest :=
  { hastyReturn topics with
    method := .post
    post := restorePost (filterSensitiveFields (scalariseSubmittedData (hastyPost topics).post))
    session := some [] }

theorem redirect_hastyPost (topics : List String) :
    maybeRedirectToChallenge keyedConf hastyEnv "contact" (hastyPost topics) =
      some (.challenge "/waf/challenge/" "/contact/" hastyToken, hastyStash topics) := rfl

theorem tryReplay_hastyReturn (topics : List String) :
    tryReplay keyedConf.toSigning returnEnv "contact" (hastyReturn topics) =
      .ok (some (hastyReplay topics)) := by
  have hverify : verifyReplayToken keyedConf.toSigning (hastyReturn topics).formReplay
      (hastyReturn topics).ip returnEnv.time = .ok (some ⟨"contact", "0f0f"⟩) :=
    verifyReplayToken_issue _ (by decide) (show '|' ∉ "203.0.113.9".toList by decide)
      (by decide) (by decide) (by decide)
  rw [tryReplay, hverify]
  rfl

theorem formReplay_hastyReturn (topics : List String) :
    (hastyReturn topics).formReplay = hastyToken := rfl

theorem lookup_hastyReturn (topics : List String) :
    ((hastyReturn topics).session.getD []).lookup hastyEnv.freshKey =
      (hastyStash topics).lookup hastyEnv.freshKey := rfl

/-- One topic is given back. -/
theorem replay_restores_topic :
    (hastyReplay ["news"]).post =
        (hastyPost ["news"]).post.filterKeys (fun name ↦ !isSensitiveField name) ∧
      ∀ e ∈ hastyStash ["news"], e ∈ (hastyPost ["news"]).session.getD [] ∨
        ∀ p ∈ e.2.data, isSensitiveField p.1 = false :=
  (replay_restores_iff (redirect_hastyPost ["news"]) (formReplay_hastyReturn ["news"])
    (lookup_hastyReturn ["news"]) (tryReplay_hastyReturn ["news"])).2 (by
      intro p hp _
      simp only [hastyPost, List.mem_cons, List.not_mem_nil, or_false] at hp
      rcases hp with rfl | rfl
      · exact le_rfl
      · exact le_rfl)

/-- **Of two topics**, the last is given back. -/
theorem replay_restores_last :
    ¬∀ (cf : FormConf) (env env' : FormEnv) (formId : String) (req back replayed : ViewRequest)
      (path next token : String) (stash : Stash),
      maybeRedirectToChallenge cf env formId req = some (.challenge path next token, stash) →
      back.formReplay = token → back.session = some stash →
      tryReplay cf.toSigning env' formId back = .ok (some replayed) →
      replayed.post = req.post.filterKeys (fun name ↦ !isSensitiveField name) ∧
        ∀ e ∈ stash, e ∈ req.session.getD [] ∨ ∀ p ∈ e.2.data, isSensitiveField p.1 = false := by
  intro hall
  have hrestored := hall keyedConf hastyEnv returnEnv "contact" (hastyPost ["news", "events"])
    (hastyReturn ["news", "events"]) (hastyReplay ["news", "events"]) _ _ _ _
    (redirect_hastyPost ["news", "events"]) (formReplay_hastyReturn ["news", "events"]) rfl
    (tryReplay_hastyReturn ["news", "events"])
  have hsingle := (replay_restores_iff (redirect_hastyPost ["news", "events"])
    (formReplay_hastyReturn ["news", "events"]) (lookup_hastyReturn ["news", "events"])
    (tryReplay_hastyReturn ["news", "events"])).1 hrestored
  have htopics := hsingle ("topic", ["news", "events"])
    (List.mem_cons_of_mem _ List.mem_cons_self) (by decide)
  exact absurd htopics (by decide)

/-- What the token of the page is verified to. -/
theorem verifyToken_hastyPost :
    verifyToken keyedConf.toSigning ((scalariseSubmittedData (hastyPost ["news"]).post).text
        RenderTokenDefence.fieldName) =
      .ok (RenderTokenDefence.issue keyedConf timedForm visitor leapNoon "00ff").2 := by
  have htext : (scalariseSubmittedData (hastyPost ["news"]).post).text
      RenderTokenDefence.fieldName = pageToken := by
    have hlist : (hastyPost ["news"]).post.getlist RenderTokenDefence.fieldName = [pageToken] := by
      rw [QueryDict.getlist, hastyPost, RenderTokenDefence.fieldName, List.lookup_cons_self]
      rfl
    rw [text_scalariseSubmittedData, hlist]
    rfl
  rw [htext]
  exact RenderTokenDefence.verifyToken_issue _ _ (by decide) (by decide)

/-- It is sent to the challenge. -/
theorem handlePost_hastyPost :
    timedForm.handlePost keyedConf hastyEnv (hastyPost ["news"]) =
      .ok (.challenge "/waf/challenge/" "/contact/" hastyToken, some (hastyStash ["news"])) := by
  obtain ⟨result, heval, hresult⟩ := timedForm.evaluate_verified hastyEnv.reads hastyEnv.now
    visitor rfl (by decide) verifyToken_hastyPost
  have hblocks : ¬timedForm.SomeBlocks keyedConf hastyEnv.reads hastyEnv.now visitor
      (scalariseSubmittedData (hastyPost ["news"]).post)
      (RenderTokenDefence.issue keyedConf timedForm visitor leapNoon "00ff").2 := by
    decide +kernel
  have htotal : FormProtection.resolveVerdict keyedConf (timedForm.flaggedTotal keyedConf
      hastyEnv.reads hastyEnv.now visitor (scalariseSubmittedData (hastyPost ["news"]).post)
      (RenderTokenDefence.issue keyedConf timedForm visitor leapNoon "00ff").2) = .flagged := by
    decide +kernel
  have hverdict := hresult.verdict
  rw [if_neg hblocks, htotal] at hverdict
  have hnot : ¬result.verdict = .blocked := by
    rw [hverdict]
    decide
  have hredirect : maybeRedirectToChallenge keyedConf hastyEnv timedForm.formId
      (hastyPost ["news"]) =
        some (.challenge "/waf/challenge/" "/contact/" hastyToken, hastyStash ["news"]) :=
    redirect_hastyPost ["news"]
  have hrequest : (hastyPost ["news"]).toFormRequest = visitor := rfl
  rw [FormProtection.handlePost, hrequest, heval]
  simp only [if_neg hnot, if_pos hverdict, hredirect]

/-- It comes back, and is rejected. -/
theorem challenge_never_rescues_hasty :
    (∀ replayed, tryReplay keyedConf.toSigning returnEnv timedForm.formId
        (hastyReturn ["news"]) = .ok (some replayed) →
          timedForm.wrapper keyedConf returnEnv (hastyReturn ["news"]) =
            .ok (.rejected, replayed.session)) ∧
      ¬ReachesView (timedForm.wrapper keyedConf returnEnv (hastyReturn ["news"])) :=
  challenge_never_rescues (by decide) handlePost_hastyPost returnEnv rfl
    (formReplay_hastyReturn ["news"]) (lookup_hastyReturn ["news"])

/-- **Flagged by the time trap alone**, and back in time with the right token, address and session:
the view is not reached. -/
theorem challenge_does_not_rescue :
    ¬∀ (cf : FormConf) (fp : FormProtection) (env env' : FormEnv) (req back : ViewRequest)
      (path next token : String) (session : Option Stash),
      .renderToken ∈ fp.defenceNames →
      fp.handlePost cf env req = .ok (.challenge path next token, session) →
      (∀ p, verifyToken cf.toSigning
          ((scalariseSubmittedData req.post).text RenderTokenDefence.fieldName) = .ok p →
        ¬RenderTokenDefence.Expired cf fp env'.now p ∧
          ∀ d ∈ fp.runningNames req.toFormRequest,
            d.Flags cf fp env.reads env.now req.toFormRequest (scalariseSubmittedData req.post) p →
              d ∈ [.timeTrap, .uaConsistency, .jsTouch]) →
      back.method = .get → back.formReplay = token → back.ip = req.ip → back.session = session →
      env'.time ≤ env.time + 60 → ReachesView (fp.wrapper cf env' back) := by
  intro hall
  have hreaches := hall keyedConf timedForm hastyEnv returnEnv (hastyPost ["news"])
    (hastyReturn ["news"]) _ _ _ _ (by decide) handlePost_hastyPost (fun p hp ↦ ?_) rfl
    (formReplay_hastyReturn ["news"]) rfl rfl (by decide)
  · exact (challenge_never_rescues (by decide) handlePost_hastyPost returnEnv rfl
      (formReplay_hastyReturn ["news"]) (lookup_hastyReturn ["news"])).2 hreaches
  · obtain rfl := Except.ok.inj (hp.symm.trans verifyToken_hastyPost)
    refine ⟨by decide, fun d hd hflags ↦ ?_⟩
    have hnames : d ∈ [.renderToken, .timeTrap] := hd
    have hd' : d = .renderToken ∨ d = .timeTrap := by simpa using hnames
    rcases hd' with rfl | rfl
    · exact absurd hflags (by decide)
    · exact List.mem_cons_self

end DjangoWaf
