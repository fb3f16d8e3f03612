import DjangoWaf.Forms.Protection
import DjangoWaf.Forms.Replay

/-!
# Protected views

`forms/decorators.py`: a view behind `waf_protect_post`. A `POST` is evaluated before the view sees
it; a blocked one is answered with 403, a flagged one is stashed in the session and sent to the
challenge, and the others reach the view, after which the marker of a passed one is deleted.

A `GET` that comes back from the challenge is turned into the `POST` it stands for and handled **as
any other `POST`**. What it is turned into was scalarised and filtered before it was stashed, so
`restorePost` rebuilds one value for each key that is not sensitive.
-/

namespace DjangoWaf

open PyBytes IsoDatetime

/-! ### Requests and responses -/

/-- `request.method`. -/
inductive Method
  | get
  | post
  | other
  deriving DecidableEq, Repr

/-- What a protected view reads of a request. -/
structure ViewRequest extends FormRequest where
  method : Method
  path : String
  /-- `request.GET.get("form_replay", "")`. -/
  formReplay : String
  /-- `request.POST`. -/
  post : QueryDict
  /-- The stash in `request.session`; `none` for a request without a session. -/
  session : Option Stash

/-- What a request meets: Redis, the clocks and a fresh key. Each clock is read once. -/
structure FormEnv where
  reads : FormReads
  /-- `timezone.now()`. -/
  now : Civil
  /-- `int(time.time())`. -/
  time : ℤ
  /-- `secrets.token_hex(8)`. -/
  freshKey : String
  /-- `DJANGO_WAF_CHALLENGE_URL`, or the reversed URL. -/
  challengePath : String

/-- How a request is answered. -/
inductive ViewResponse
  /-- 403, "Submission rejected. Please try again." -/
  | rejected
  /-- The redirect to the challenge, with its two parameters. -/
  | challenge (path next formReplay : String)
  /-- The view's own answer, with `request.waf_form_result`. -/
  | view (result : Option FormEvaluationResult)

/-- `scalarise_submitted_data`, on a `QueryDict`. -/
def scalariseSubmittedData (q : QueryDict) : Submitted := q.dict

/-- The `QueryDict` `_try_replay` rebuilds: an empty list is set as a list. -/
def restorePost (data : Submitted) : QueryDict :=
  data.foldl (fun q p ↦
    match p.2 with
    | some v => q.setItem p.1 v
    | none => q.setlist p.1 []) .empty

variable (cf : FormConf)

/-- `_maybe_redirect_to_challenge`: the response, and the session after it. -/
def maybeRedirectToChallenge (env : FormEnv) (formId : String) (req : ViewRequest) :
    Option (ViewResponse × Stash) :=
  if cf.challengeOnFlag = false then none
  else
    match storeInSession req.session formId req.path (scalariseSubmittedData req.post)
      env.freshKey env.time with
    | none => none
    | some (sessionKey, stash) =>
      let replayToken := issueReplayToken cf.toSigning formId req.ip sessionKey env.time
      some (.challenge env.challengePath req.path replayToken, stash)

/-- `_try_replay`: the request as the `POST` it stands for. -/
def tryReplay (k : Signing) (env : FormEnv) (formId : String) (req : ViewRequest) :
    Except FormError (Option ViewRequest) :=
  match verifyReplayToken k req.formReplay req.ip env.time with
  | .error e => .error e
  | .ok none => .ok none
  | .ok (some payload) =>
    if payload.formId ≠ formId then .ok none
    else
      match fetchFromSession req.session payload.sessionKey env.time with
      | none => .ok none
      | some record =>
        if record.formId ≠ formId then .ok none
        else .ok (some { req with
          post := restorePost record.data
          method := .post
          session := discardFromSession req.session payload.sessionKey })

namespace FormProtection

variable (fp : FormProtection)

/-- `_handle_post`, up to the view: the response, and the session after it. -/
def handlePost (env : FormEnv) (req : ViewRequest) :
    Except FormError (ViewResponse × Option Stash) :=
  match fp.evaluate cf env.reads env.now req.toFormRequest (scalariseSubmittedData req.post) with
  | .error e => .error e
  | .ok result =>
    if result.verdict = .blocked then .ok (.rejected, req.session)
    else
      let redirect := if result.verdict = .flagged then
        maybeRedirectToChallenge cf env fp.formId req else none
      match redirect with
      | some (response, stash) => .ok (response, some stash)
      | none => .ok (.view (some result), req.session)

/-- What `_handle_post` leaves in Redis once the view has returned. -/
def consumeOnPass (up : Bool) (result : FormEvaluationResult) (s : FormStore) : FormStore :=
  if result.verdict = .passed then consumeTokenMarker up result.tokenPayload s else s

/-- The wrapper of `waf_protect_post`. -/
def wrapper (env : FormEnv) (req : ViewRequest) :
    Except FormError (ViewResponse × Option Stash) :=
  if req.method = .get ∧ req.formReplay ≠ "" then
    match tryReplay cf.toSigning env fp.formId req with
    | .error e => .error e
    | .ok (some replayed) => fp.handlePost cf env replayed
    | .ok none => .ok (.view none, req.session)
  else if req.method ≠ .post then .ok (.view none, req.session)
  else fp.handlePost cf env req

end FormProtection

/-! ### What is rebuilt -/

theorem lists_restorePost {data : Submitted} (h : (data.map Prod.fst).Nodup) :
    (restorePost data).lists = data.map fun p ↦ (p.1, p.2.toList) := by
  have hfold : ∀ (data : Submitted) (q : QueryDict),
      (data.foldl (fun q p ↦
        match p.2 with
        | some v => q.setItem p.1 v
        | none => q.setlist p.1 []) q).lists =
          (data.map fun p ↦ (p.1, p.2.toList)).foldl (fun d p ↦ PyDict.set d p.1 p.2) q.lists := by
    intro data
    induction data with
    | nil => exact fun _ ↦ rfl
    | cons p data ih =>
      intro q
      rw [List.foldl_cons, ih, List.map_cons, List.foldl_cons]
      rcases p.2 with - | v
      · rfl
      · rfl
  have hnodup : ((data.map fun p ↦ (p.1, p.2.toList)).map Prod.fst).Nodup := by
    rw [List.map_map]
    exact h
  rw [restorePost, hfold]
  exact PyDict.foldl_set_of_nodup hnodup fun _ _ ↦ List.not_mem_nil

/-- **One value for each key that is not sensitive.** -/
theorem lists_restorePost_filter (q : QueryDict) :
    (restorePost (filterSensitiveFields (scalariseSubmittedData q))).lists =
      (q.filterKeys fun name ↦ !isSensitiveField name).lists.map fun p ↦
        (p.1, p.2.getLast?.toList) := by
  have hfilter : filterSensitiveFields (scalariseSubmittedData q) =
      (q.filterKeys fun name ↦ !isSensitiveField name).dict := by
    rw [filterSensitiveFields, scalariseSubmittedData, QueryDict.dict, List.filter_map]
    rfl
  have hnodup : ((q.filterKeys fun name ↦ !isSensitiveField name).dict.map Prod.fst).Nodup := by
    rw [QueryDict.dict, List.map_map]
    exact (q.filterKeys _).nodup_keys
  rw [hfilter, lists_restorePost hnodup, QueryDict.dict, List.map_map]
  rfl

/-- What a defence reads of a body: the last value of a name. -/
theorem text_scalariseSubmittedData (q : QueryDict) (name : String) :
    (scalariseSubmittedData q).text name = (q.getlist name).getLast?.getD "" := by
  rw [Submitted.text, scalariseSubmittedData, QueryDict.lookup_dict]

/-- A sensitive key is not among those that are stashed. -/
theorem not_isSensitiveField_of_mem {data : Submitted} {p : String × Option String}
    (h : p ∈ filterSensitiveFields data) : isSensitiveField p.1 = false := by
  have hkeep := (List.mem_filter.1 h).2
  rw [Bool.not_eq_true'] at hkeep
  exact hkeep

/-- It is not among those that are rebuilt. -/
theorem text_restorePost {data : Submitted} (h : ∀ p ∈ data, isSensitiveField p.1 = false)
    (hnodup : (data.map Prod.fst).Nodup) {name : String} (hname : isSensitiveField name = true) :
    (scalariseSubmittedData (restorePost data)).text name = "" := by
  have hlookup : (restorePost data).lists.lookup name = none := by
    rw [List.lookup_eq_none_iff]
    intro p hp
    rw [lists_restorePost hnodup] at hp
    obtain ⟨p', hp', rfl⟩ := List.mem_map.1 hp
    refine bne_iff_ne.2 fun heq ↦ ?_
    have hsafe := h p' hp'
    rw [← heq, hname] at hsafe
    cases hsafe
  rw [text_scalariseSubmittedData, QueryDict.getlist, hlookup]
  rfl

/-! ### What a request can be answered with -/

section

variable {cf : FormConf} {env : FormEnv}

/-- A redirect to the challenge: what it carries, and what is stashed for it. -/
theorem maybeRedirectToChallenge_cases {formId : String} {req : ViewRequest}
    {response : ViewResponse} {stash : Stash}
    (h : maybeRedirectToChallenge cf env formId req = some (response, stash)) :
    response = .challenge env.challengePath req.path
        (issueReplayToken cf.toSigning formId req.ip env.freshKey env.time) ∧
      (∀ record, stash.lookup env.freshKey = some record →
        record = ⟨formId, req.path, filterSensitiveFields (scalariseSubmittedData req.post),
          env.time⟩) ∧
      ∀ e ∈ stash, e ∈ req.session.getD [] ∨ e.2.data =
        filterSensitiveFields (scalariseSubmittedData req.post) := by
  rw [maybeRedirectToChallenge] at h
  split_ifs at h
  rcases hstore : storeInSession req.session formId req.path (scalariseSubmittedData req.post)
      env.freshKey env.time with - | ⟨sessionKey, stash'⟩
  · rw [hstore] at h
    cases h
  · rw [hstore] at h
    obtain ⟨rfl, rfl⟩ := Prod.mk.inj (Option.some.inj h)
    obtain ⟨rfl, hrecord⟩ := eq_of_lookup_storeInSession hstore
    refine ⟨rfl, hrecord, fun e he ↦ (mem_of_mem_storeInSession hstore he).imp_right ?_⟩
    rintro rfl
    rfl

/-- A replayed request: the token it came with, and the record it stands for. -/
theorem tryReplay_cases {k : Signing} {formId : String} {req replayed : ViewRequest}
    (h : tryReplay k env formId req = .ok (some replayed)) :
    ∃ payload record,
      verifyReplayToken k req.formReplay req.ip env.time = .ok (some payload) ∧
      (req.session.getD []).lookup payload.sessionKey = some record ∧
      record.formId = formId ∧
      replayed = { req with
        post := restorePost record.data
        method := .post
        session := discardFromSession req.session payload.sessionKey } := by
  rw [tryReplay] at h
  rcases hverify : verifyReplayToken k req.formReplay req.ip env.time with e | payload
  · rw [hverify] at h
    cases h
  rcases payload with - | payload
  · rw [hverify] at h
    cases h
  rw [hverify] at h
  simp only at h
  by_cases hform : payload.formId = formId
  · rw [if_neg (not_not.2 hform)] at h
    rcases hfetch : fetchFromSession req.session payload.sessionKey env.time with - | record
    · rw [hfetch] at h
      cases h
    rw [hfetch] at h
    simp only at h
    by_cases hrecord : record.formId = formId
    · rw [if_neg (not_not.2 hrecord)] at h
      rw [fetchFromSession, Option.filter_eq_some_iff] at hfetch
      exact ⟨payload, record, rfl, hfetch.1, hrecord, (Option.some.inj (Except.ok.inj h)).symm⟩
    · rw [if_pos hrecord] at h
      cases h
  · rw [if_pos hform] at h
    cases h

namespace FormProtection

variable {fp : FormProtection} {req : ViewRequest} {response : ViewResponse}
  {session : Option Stash}

/-- The branches of `_handle_post`. -/
theorem handlePost_cases (h : fp.handlePost cf env req = .ok (response, session)) :
    ∃ result, fp.evaluate cf env.reads env.now req.toFormRequest
        (scalariseSubmittedData req.post) = .ok result ∧
      ((result.verdict = .blocked ∧ response = .rejected ∧ session = req.session) ∨
        (result.verdict = .flagged ∧ ∃ stash, session = some stash ∧
          maybeRedirectToChallenge cf env fp.formId req = some (response, stash)) ∨
        (result.verdict ≠ .blocked ∧ response = .view (some result) ∧ session = req.session)) := by
  rw [handlePost] at h
  rcases heval : fp.evaluate cf env.reads env.now req.toFormRequest
      (scalariseSubmittedData req.post) with e | result
  · rw [heval] at h
    cases h
  refine ⟨result, rfl, ?_⟩
  rw [heval] at h
  simp only at h
  split_ifs at h with hblocked hflagged
  · obtain ⟨rfl, rfl⟩ := Prod.mk.inj (Except.ok.inj h)
    exact Or.inl ⟨hblocked, rfl, rfl⟩
  · rcases hredirect : maybeRedirectToChallenge cf env fp.formId req with - | ⟨response', stash⟩
    · rw [hredirect] at h
      obtain ⟨rfl, rfl⟩ := Prod.mk.inj (Except.ok.inj h)
      exact Or.inr (Or.inr ⟨hblocked, rfl, rfl⟩)
    · rw [hredirect] at h
      obtain ⟨rfl, rfl⟩ := Prod.mk.inj (Except.ok.inj h)
      exact Or.inr (Or.inl ⟨hflagged, stash, rfl, rfl⟩)
  · obtain ⟨rfl, rfl⟩ := Prod.mk.inj (Except.ok.inj h)
    exact Or.inr (Or.inr ⟨hblocked, rfl, rfl⟩)

/-- Only a flagged submission is sent to the challenge. -/
theorem handlePost_challenge {path next formReplay : String}
    (h : fp.handlePost cf env req = .ok (.challenge path next formReplay, session)) :
    ∃ result stash, fp.evaluate cf env.reads env.now req.toFormRequest
        (scalariseSubmittedData req.post) = .ok result ∧ result.verdict = .flagged ∧
      session = some stash ∧ maybeRedirectToChallenge cf env fp.formId req =
        some (.challenge path next formReplay, stash) := by
  obtain ⟨result, heval, ⟨-, hresponse, -⟩ | ⟨hflagged, stash, hsession, hredirect⟩ |
    ⟨-, hresponse, -⟩⟩ := handlePost_cases h
  · cases hresponse
  · exact ⟨result, stash, heval, hflagged, hsession, hredirect⟩
  · cases hresponse

end FormProtection

end

end DjangoWaf
