import DjangoWaf.FormScores
import DjangoWaf.Forms.Mixin
import DjangoWaf.Forms.Rendering
import DjangoWaf.Lib.Run

/-!
# Does signup velocity bite?

`SignupVelocityDefence` flags an address whose completed signups have reached a limit. By its
docstring the orchestrator calls `record_signup` for them, on a pass; **nothing calls it**. Neither
entry point writes anything after a passed submission but the deletion of its marker.

* `velocityFlagged_iff` says when the flag is given, by the counter.
* `signup_of_run` says what a run does to the counter: nothing, however many submissions pass in it.

So the flag is given to every submission that comes as far, when the limit is not positive, and to
none otherwise (`signup_velocity_bites_iff`).
-/

namespace DjangoWaf

open PyBytes IsoDatetime

/-! ### The flag -/

namespace FormProtection

variable (cf : FormConf) (fp : FormProtection) (reads : FormReads) (now : Civil) (req : FormRequest)
  (data : Submitted)

/-- `limit`: the form's own, else the project's. -/
def velocityLimit : ℤ := fp.perFormConfig.limit.getD cf.signupVelocityLimit

/-- Protection is on, and the chain comes as far as signup velocity: it runs for the request, and
none of the defences ahead of it blocks. -/
def ReachesVelocity : Prop :=
  cf.enabled = true ∧ ∃ payload, fp.threadedPayload cf data = .ok payload ∧
    ∃ before after, fp.runningNames req = before ++ .signupVelocity :: after ∧
      ∀ d ∈ before, ¬(fp.outcomeOf cf reads now req data payload d).Blocks

/-- `evaluate` gives the flag. -/
def VelocityFlagged : Prop :=
  ∃ r, fp.evaluate cf reads now req data = .ok r ∧
    .flagged 5 "signup_velocity:ip" ∈ r.outcomes

variable {cf fp reads now req data}

/-- What flags with a score of its own does not flag with another. -/
theorem ne_flagged_of_answers {score score' : ℚ} (hne : score ≠ score') {o : Outcome}
    (h : Answers score o) (reason : String) : o ≠ .flagged score' reason := by
  rintro rfl
  rcases h with h | ⟨_, h⟩ | ⟨_, h⟩
  · cases h
  · cases h
  · exact hne (Outcome.mk.inj h).2.1.symm

/-- **The flag is signup velocity's own.** -/
theorem eq_signupVelocity_of_flagged {payload : Option TokenPayload} {d : Defence}
    (h : fp.outcomeOf cf reads now req data payload d = .flagged 5 "signup_velocity:ip") :
    d = .signupVelocity := by
  cases d with
  | signupVelocity => rfl
  | renderToken =>
    exact absurd h
      (ne_flagged_of_answers (by decide) (answers_renderToken reads now req data payload) _)
  | honeypot =>
    exact absurd h
      (ne_flagged_of_answers (by decide) (answers_honeypot reads now req data payload 0) _)
  | timeTrap =>
    exact absurd h
      (ne_flagged_of_answers (by decide) (answers_timeTrap reads now req data payload) _)
  | uaConsistency =>
    exact absurd h
      (ne_flagged_of_answers (by decide) (answers_uaConsistency reads now req data payload) _)
  | jsTouch =>
    exact absurd h
      (ne_flagged_of_answers (by decide +kernel) (answers_jsTouch reads now req data payload) _)
  | powGate =>
    exact absurd h
      (ne_flagged_of_answers (by decide) (answers_powGate reads now req data payload 0) _)
  | credentialThrottle =>
    rw [outcomeOf, Defence.evaluate, CredentialThrottleDefence.evaluate] at h
    simp only at h
    split_ifs at h
    · cases h
    · exact absurd (Outcome.mk.inj h).2.2 (by decide)
    · cases h

/-- When signup velocity flags, whatever token there is. -/
theorem outcomeOf_signupVelocity_eq_flagged_iff {payload : Option TokenPayload} :
    fp.outcomeOf cf reads now req data payload .signupVelocity = .flagged 5 "signup_velocity:ip" ↔
      req.ip ≠ "" ∧ fp.velocityLimit cf ≤ readCount (reads.signup req.ip) := by
  have hlimit : (fp.configFor (payload.map TokenPayload.nonce)).limit = fp.perFormConfig.limit := by
    rcases payload with - | p
    · rfl
    · rfl
  have houtcome : fp.outcomeOf cf reads now req data payload .signupVelocity =
      if req.ip = "" then Outcome.passed
      else if (fp.configFor (payload.map TokenPayload.nonce)).limit.getD cf.signupVelocityLimit ≤
          readCount (reads.signup req.ip) then
        .flagged 5 "signup_velocity:ip"
      else .passed := rfl
  have hpassed : Outcome.passed ≠ .flagged 5 "signup_velocity:ip" := by
    intro h
    cases h
  rw [houtcome, hlimit, throttle_outcome, velocityLimit, ite_eq_left_iff, not_imp_comm]
  exact ⟨fun h ↦ h hpassed, fun h _ ↦ h⟩

/-- **When the flag is given**: the counter of the address has reached the limit. -/
theorem velocityFlagged_iff : fp.VelocityFlagged cf reads now req data ↔
    fp.ReachesVelocity cf reads now req data ∧ req.ip ≠ "" ∧
      fp.velocityLimit cf ≤ readCount (reads.signup req.ip) := by
  constructor
  · rintro ⟨r, hr, hflag⟩
    by_cases henabled : cf.enabled = true
    · have hspec := fp.evaluate_spec cf reads now req data henabled
      rcases hpayload : fp.threadedPayload cf data with e | payload
      · rw [hspec.1 e hpayload] at hr
        cases hr
      obtain ⟨r', hr', hfor⟩ := hspec.2 payload hpayload
      obtain rfl := Except.ok.inj (hr.symm.trans hr')
      rw [hfor.outcomes, mem_throughBlock_iff] at hflag
      obtain ⟨before, after, hsplit, hbefore⟩ := hflag
      obtain ⟨ds, rest, hnames, rfl, hrest⟩ := List.map_eq_append_iff.1 hsplit
      obtain ⟨d, ds', rfl, hd, -⟩ := List.map_eq_cons_iff.1 hrest
      obtain rfl := eq_signupVelocity_of_flagged hd
      refine ⟨⟨henabled, payload, hpayload, ds, ds', hnames, fun d hmem ↦ ?_⟩,
        outcomeOf_signupVelocity_eq_flagged_iff.1 hd⟩
      exact hbefore _ (List.mem_map_of_mem hmem)
    · rw [Bool.not_eq_true] at henabled
      rw [evaluate, if_pos henabled] at hr
      obtain rfl := Except.ok.inj hr
      cases hflag
  · rintro ⟨⟨henabled, payload, hpayload, before, after, hnames, hbefore⟩, hflag⟩
    obtain ⟨r, hr, hfor⟩ := (fp.evaluate_spec cf reads now req data henabled).2 payload hpayload
    refine ⟨r, hr, ?_⟩
    rw [hfor.outcomes, mem_throughBlock_iff, outcomes, hnames, List.map_append, List.map_cons,
      outcomeOf_signupVelocity_eq_flagged_iff.2 hflag]
    refine ⟨_, _, rfl, fun o ho ↦ ?_⟩
    obtain ⟨d, hd, rfl⟩ := List.mem_map.1 ho
    exact hbefore d hd

end FormProtection

/-! ### The runs of a site's forms -/

/-- The answer of a view that got a passed submission. -/
def ViewResponse.passed : ViewResponse → Bool
  | view (some result) => result.verdict = .passed
  | _ => false

/-- What happens to a site's protected forms, with what it came to. -/
inductive FormEvent
  | render
  /-- `full_clean` of a `ProtectedForm`. -/
  | clean (x : FormSubmission) (form : CleanedForm)
  /-- A request for a view behind `waf_protect_post`, up to the view. -/
  | handle (up : Bool) (env : FormEnv) (req : ViewRequest) (response : ViewResponse)
  /-- The view has returned. -/
  | returned
  /-- Anything that leaves the counters of signups alone. -/
  | other

/-- A submission from an address that passes, at a given time or later and with Redis up. -/
def FormEvent.passes (ip : String) (start : ℚ) : FormEvent → Bool
  | clean x form => x.up ∧ x.req.ip = ip ∧ start ≤ x.now.seconds ∧
      form.wafResult.any (·.verdict = .passed)
  | handle up env req response => up ∧ req.ip = ip ∧ start ≤ env.now.seconds ∧ response.passed
  | _ => false

/-- The steps, over any forms. -/
inductive FormStep (cf : FormConf) : FormStore → FormEvent → FormStore → Prop
  | render {s : FormStore} (fp : FormProtection) (up : Bool) (req : FormRequest) (now : Civil)
    (nonce : String) : FormStep cf s .render (fp.renderStore cf up req now nonce s)
  | clean {s s' : FormStore} {fp : FormProtection} {x : FormSubmission} {form : CleanedForm}
    (h : fp.fullClean cf x s = .ok (form, s')) : FormStep cf s (.clean x form) s'
  | handle {s : FormStore} {fp : FormProtection} {up : Bool} {env : FormEnv} {req : ViewRequest}
    {response : ViewResponse} {session : Option Stash}
    (hreads : env.reads = s.reads up env.now.seconds)
    (h : fp.wrapper cf env req = .ok (response, session)) :
    FormStep cf s (.handle up env req response) s
  | returned {s : FormStore} (up : Bool) (result : FormEvaluationResult) :
    FormStep cf s .returned (FormProtection.consumeOnPass up result s)
  | other {s s' : FormStore} (h : s'.signup = s.signup) : FormStep cf s .other s'

/-- `LIMIT` submissions from an address have passed in the window before `now`, and nothing was
ever counted before. -/
structure SignupBurst (cf : FormConf) (fp : FormProtection) (ip : String) (now : Civil)
    (window : ℚ) where
  start : FormStore
  fresh : start.signup.cell ip = none
  events : List FormEvent
  store : FormStore
  run : Run (FormStep cf) start events store
  enough : fp.velocityLimit cf ≤ (events.countP (FormEvent.passes ip (now.seconds - window)) : ℕ)

section

variable {cf : FormConf}

theorem signup_consumeOnPass (up : Bool) (result : FormEvaluationResult) (s : FormStore) :
    (FormProtection.consumeOnPass up result s).signup = s.signup := by
  rcases FormProtection.consumeOnPass_cases up result s with hkept | ⟨-, -, p, -, hdeleted⟩
  · rw [hkept]
  · rw [hdeleted]

theorem signup_renderStore (fp : FormProtection) (up : Bool) (req : FormRequest) (now : Civil)
    (nonce : String) (s : FormStore) :
    (fp.renderStore cf up req now nonce s).signup = s.signup := by
  rw [FormProtection.renderStore, RenderTokenDefence.issueMarker, FormStore.issueMarker]
  split_ifs
  · rfl
  · rfl
  · rfl

theorem signup_fullClean {fp : FormProtection} {x : FormSubmission} {s s' : FormStore}
    {form : CleanedForm} (h : fp.fullClean cf x s = .ok (form, s')) : s'.signup = s.signup := by
  rw [FormProtection.fullClean] at h
  split_ifs at h
  · rw [(Prod.mk.inj (Except.ok.inj h)).2]
  · rw [FormProtection.clean] at h
    rcases heval : fp.evaluate cf (x.reads s) x.now x.req (scalariseSubmittedData x.data)
      with e | result
    · rw [heval] at h
      cases h
    · rw [heval] at h
      rw [← (Prod.mk.inj (Except.ok.inj h)).2]
      exact signup_consumeOnPass _ _ _

/-- **No step counts a signup.** -/
theorem FormStep.signup_eq {s s' : FormStore} {e : FormEvent} (h : FormStep cf s e s') :
    s'.signup = s.signup := by
  cases h with
  | render fp up req now nonce => exact signup_renderStore fp up req now nonce s
  | clean h => exact signup_fullClean h
  | handle hreads h => rfl
  | returned up result => exact signup_consumeOnPass up result s
  | other h => exact h

theorem signup_of_run {s t : FormStore} {es : List FormEvent} (h : Run (FormStep cf) s es t) :
    t.signup = s.signup :=
  Run.invariant (P := fun _ t ↦ t.signup = s.signup) rfl (fun _ ih he ↦ he.signup_eq.trans ih) h

/-- **When signup velocity bites.** -/
theorem signup_velocity_bites_iff {fp : FormProtection} {ip : String} (hip : ip ≠ "") {now : Civil}
    {window : ℚ} (b : SignupBurst cf fp ip now window) {req : FormRequest} (hreq : req.ip = ip)
    (data : Submitted) :
    fp.VelocityFlagged cf (b.store.reads true now.seconds) now req data ↔
      fp.ReachesVelocity cf (b.store.reads true now.seconds) now req data ∧
        fp.velocityLimit cf ≤ 0 := by
  have hcount : readCount ((b.store.reads true now.seconds).signup req.ip) = 0 := by
    have hget : b.store.signup.get now.seconds ip = none := by
      rw [KeySpace.get, signup_of_run b.run, b.fresh]
    have hanswer : (b.store.reads true now.seconds).signup req.ip =
        some (b.store.signup.get now.seconds ip) := by
      rw [hreq]
      rfl
    rw [hanswer, hget]
    rfl
  have hne : req.ip ≠ "" := by
    rw [hreq]
    exact hip
  rw [FormProtection.velocityFlagged_iff, hcount, and_iff_right hne]

end

/-! ### Two forms -/

/-- A signup form with a limit of its own. -/
def signupForm (limit : Option ℤ) : FormProtection where
  formId := "signup"
  defenceNames := [.signupVelocity]
  sublist := by decide
  weights := []
  skipForAuthenticated := false
  perFormConfig := { DefenceConfig.empty with limit }

theorem reachesVelocity_signupForm (limit : Option ℤ) (reads : FormReads) (now : Civil)
    (req : FormRequest) (data : Submitted) :
    (signupForm limit).ReachesVelocity keyedConf reads now req data :=
  ⟨rfl, none, rfl, [], [], rfl, fun _ h ↦ absurd h List.not_mem_nil⟩

/-- A valid submission of the visitor. -/
def signupSubmission : FormSubmission where
  validation := ⟨false, false, false⟩
  req := visitor
  data := .empty
  now := leapNoon
  up := true

/-- The form it becomes. -/
def signedUp : CleanedForm := ⟨some ⟨.passed, 0, [.passed], none⟩, true⟩

theorem fullClean_signupSubmission :
    (signupForm none).fullClean keyedConf signupSubmission .empty = .ok (signedUp, .empty) := by
  have hscore : (signupForm none).aggregateScore keyedConf [.passed] = 0 := by decide +kernel
  have hverdict : FormProtection.resolveVerdict keyedConf 0 = .passed := by decide +kernel
  have heval : (signupForm none).evaluate keyedConf (signupSubmission.reads .empty) leapNoon visitor
      (scalariseSubmittedData .empty) = .ok ⟨.passed, 0, [.passed], none⟩ := by
    have hchain : (signupForm none).evaluate keyedConf (signupSubmission.reads .empty) leapNoon
        visitor (scalariseSubmittedData .empty) =
          .ok ⟨FormProtection.resolveVerdict keyedConf
              ((signupForm none).aggregateScore keyedConf [.passed]),
            (signupForm none).aggregateScore keyedConf [.passed], [.passed], none⟩ := by
      rfl
    rw [hchain, hscore, hverdict]
  have hraises : ¬signupSubmission.validation.raisesBefore = true := by decide
  rw [FormProtection.fullClean, if_neg hraises, FormProtection.clean]
  simp only [signupSubmission] at heval ⊢
  rw [heval]
  rfl

theorem run_signups (n : ℕ) : Run (FormStep keyedConf) .empty
    (List.replicate n (.clean signupSubmission signedUp)) .empty := by
  induction n with
  | zero => exact .nil
  | succ n ih =>
    rw [List.replicate_succ']
    exact ih.snoc (.clean fullClean_signupSubmission)

/-- As many signups as the default limit, a minute ago, before a form whose limit is no higher. -/
def fiveSignups (limit : Option ℤ) (h : (signupForm limit).velocityLimit keyedConf ≤ 5) :
    SignupBurst keyedConf (signupForm limit) "203.0.113.9" leapMinute 86400 where
  start := .empty
  fresh := rfl
  events := List.replicate 5 (.clean signupSubmission signedUp)
  store := .empty
  run := run_signups 5
  enough := h.trans (by decide +kernel)

/-- After five signups, a form with a limit of zero flags the sixth. -/
theorem signup_velocity_bites_zero : (signupForm (some 0)).VelocityFlagged keyedConf
    ((fiveSignups (some 0) (by decide)).store.reads true leapMinute.seconds) leapMinute visitor
    [] :=
  (signup_velocity_bites_iff (by decide) (fiveSignups (some 0) (by decide)) rfl []).2
    ⟨reachesVelocity_signupForm _ _ _ _ _, le_rfl⟩

/-- **Five signups of one address**, and the sixth is not flagged. -/
theorem signup_velocity_toothless :
    ¬∀ (cf : FormConf) (fp : FormProtection) (ip : String) (now : Civil) (window : ℚ)
      (b : SignupBurst cf fp ip now window) (req : FormRequest) (data : Submitted), ip ≠ "" →
      req.ip = ip → fp.ReachesVelocity cf (b.store.reads true now.seconds) now req data →
      fp.VelocityFlagged cf (b.store.reads true now.seconds) now req data := by
  intro hall
  have hflagged := hall keyedConf (signupForm none) _ leapMinute _ (fiveSignups none (by decide))
    visitor [] (by decide) rfl (reachesVelocity_signupForm _ _ _ _ _)
  have hlimit :=
    ((signup_velocity_bites_iff (by decide) (fiveSignups none (by decide)) rfl []).1 hflagged).2
  exact absurd hlimit (by decide)

end DjangoWaf
