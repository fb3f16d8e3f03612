import DjangoWaf.Client
import DjangoWaf.Lib.SlidingCounter

/-!
# Escalation of repeated challenges

What the challenge counter is worth over a whole run of one address. The invariant (`counts_run`)
ties the stored counter to the history: **the counter has counted the redirects since the last
accepted solution**, because the middleware counts every redirect it gives and `VerifyView.post`
deletes the key when it accepts a solution.

* `escalation_bound`: a client that never solves gets at most the threshold of redirects, and is
  blocked from then on.
* `solving_bot_isBlocked_iff`: a client classified as a bot is meant to escalate whether or not it
  solves, which is why the gate ignores the solved flag for it. It does so exactly when enough of
  its redirects came after its last accepted solution: the verify view has already deleted the
  others from the counter the gate reads.
-/

namespace DjangoWaf

variable {cf : Conf} {ip : String}

/-! ### The counter the gate reads -/

/-- The request is classified as a bot's. -/
def Request.IsBot (req : Request) : Prop :=
  classifyFingerprint req.query.userAgent req.requestMeta = .ok .bot

instance (req : Request) : Decidable req.IsBot :=
  inferInstanceAs (Decidable (_ = _))

/-- The gate reads the live counter when no solve hides it. -/
theorem unsolvedCount_of_visible {env : Env} {fp : FingerprintVerdict} {r : Redis}
    (h : fp = .bot ∨ r.solved.get env.now ip = none) :
    unsolvedCount env ip fp r = (r.challenged.get env.now ip).getD 0 := by
  rcases getUnsolvedChallengeCount_cases env ip fp r with ⟨-, hcount⟩ | ⟨-, -, hsolved, hbot⟩
  · exact hcount
  · exfalso
    rcases h with h | h
    · exact hbot h
    · rw [h] at hsolved
      cases hsolved

/-- **One step of a run keeps the counter in line with the history**, when a redirect of the step is
written and comes within an hour of the last, and no solve hides the counter from the step. -/
theorem counts_step {w w' : World} {es : List Event} {e : Event} {exactly : Prop}
    (hstep : ClientStep cf ip w e w')
    (hwritten : ∀ env req h, e = .request env req h → env.challengeWrite = .done)
    (hspaced : (redirects (es ++ [e])).IsChain fun s t ↦ t < s + 3600)
    (hvisible : ∀ env req h, e = .request env req h → req.IsBot ∨ w.redis.solved.cell ip = none)
    (h : SlidingCounter.Counts 3600 cf.challengeEscalationThreshold exactly (openRedirects es)
      (w.redis.challenged.cell ip)) :
    SlidingCounter.Counts 3600 cf.challengeEscalationThreshold (exactly ∨ e.IsSolve)
      (openRedirects (es ++ [e])) (w'.redis.challenged.cell ip) := by
  rw [redirects_concat] at hspaced
  rw [openRedirects_concat]
  -- a step that is neither a redirect nor a solve, and leaves the counter
  have keep : ¬ e.IsSolve → e.redirectAt = none →
      w'.redis.challenged.cell ip = w.redis.challenged.cell ip →
      SlidingCounter.Counts 3600 cf.challengeEscalationThreshold (exactly ∨ e.IsSolve)
        (if e.IsSolve then [] else openRedirects es ++ e.redirectAt.toList)
        (w'.redis.challenged.cell ip) := by
    intro hsolve hredirect hcell
    rw [if_neg hsolve, hredirect, hcell, Option.toList_none, List.append_nil]
    exact h.imp fun h' ↦ h'.resolve_right hsolve
  cases hstep with
  | @request env req hip =>
    subst hip
    obtain ⟨-, hcounter⟩ := counter_request cf env req w
    generalize WafMiddleware.call cf env req w = out at *
    rcases out with ⟨⟨evaluated, response⟩, w'⟩
    have hredirect : (∀ url, response ≠ .redirect url) →
        (Event.request env req ⟨evaluated, response⟩).redirectAt = none := by
      intro hresp
      rcases response with - | - | - | - | - | url
      all_goals first | rfl | exact absurd rfl (hresp url)
    rcases hcounter with @⟨url, fp, hurl, hfp, hlt, hcell⟩ | ⟨hresp, hcell⟩ |
      @⟨fp, hresp, hfp, hbot, hsolved, -⟩
    · obtain rfl : response = .redirect url := hurl
      have hsee : fp = .bot ∨ w.redis.solved.get env.now req.ipAddress = none := by
        rcases hvisible env req _ rfl with hb | hnone
        · exact Or.inl (Except.ok.inj (hfp.symm.trans hb))
        · exact Or.inr (KeySpace.get_of_cell_none hnone)
      have hnow : ∀ u ∈ (openRedirects es).getLast?, env.now < u + 3600 :=
        fun u hu ↦ lt_last_openRedirects hspaced hu
      rw [hcell (hwritten env req _ rfl), unsolvedCount_of_visible hsee]
      rw [unsolvedCount_of_visible hsee] at hlt
      exact (h.incr hnow hlt).imp fun h' ↦ h'.resolve_right id
    · exact keep id (hredirect hresp) hcell
    · -- the counter is cleared for solvers that are no bots only
      exfalso
      rcases hvisible env req _ rfl with hb | hnone
      · exact hbot (Except.ok.inj (hfp.symm.trans hb))
      · rw [KeySpace.get_of_cell_none hnone] at hsolved
        cases hsolved
  | @verify env m solves =>
    obtain ⟨-, ⟨haccepted, hcell⟩ | ⟨hrefused, hchallenged, -⟩⟩ :=
      counter_verify cf env ip m solves w
    · rw [hcell, haccepted]
      exact .start fun _ ↦ rfl
    · have hcell := congrArg (fun s ↦ s.cell ip) hchallenged
      rw [hrefused] at keep ⊢
      exact keep id rfl hcell
  | other hsame => exact keep id rfl hsame.challenged

/-! ### Over a run -/

/-- Every redirect of the history was counted: its guarded write went through, and it came within an
hour of the one before. -/
structure EveryRedirectCounts (es : List Event) : Prop where
  written : ∀ env req h, Event.request env req h ∈ es → env.challengeWrite = .done
  spaced : (redirects es).IsChain fun s t ↦ t < s + 3600

theorem EveryRedirectCounts.of_concat {es : List Event} {e : Event}
    (h : EveryRedirectCounts (es ++ [e])) : EveryRedirectCounts es where
  written env req handled hmem := h.written env req handled (List.mem_append_left _ hmem)
  spaced := by
    have hchain := h.spaced
    rw [redirects_concat] at hchain
    exact (List.isChain_append.1 hchain).1

/-- Without an accepted solution, the address gets no solved flag. -/
theorem solved_run {w₀ w : World} {es : List Event} (hrun : Run (ClientStep cf ip) w₀ es w)
    (hstart : w₀.redis.solved.cell ip = none) (hunsolved : ∀ e ∈ es, ¬ e.IsSolve) :
    w.redis.solved.cell ip = none := by
  induction hrun with
  | nil => exact hstart
  | @snoc w w' es e hrun hstep ih =>
    have hw := ih fun e' he' ↦ hunsolved e' (List.mem_append_left _ he')
    have he : ¬ e.IsSolve := hunsolved e (by simp)
    cases hstep with
    | @request env req hip => rw [(counter_request cf env req w).1, hw]
    | @verify env m solves =>
      obtain ⟨-, ⟨haccepted, -⟩ | ⟨-, -, hsolved⟩⟩ := counter_verify cf env ip m solves w
      · rw [haccepted] at he
        exact absurd trivial he
      · rw [hsolved, hw]
    | other hsame => rw [hsame.solved, hw]

/-- **The counter has counted the redirects since the last accepted solution**, and nothing else if
it was clear at the start or a solution was accepted, when the client's requests are all a bot's or
it never solves. -/
theorem counts_run {w₀ w : World} {es : List Event} (hrun : Run (ClientStep cf ip) w₀ es w)
    (hes : EveryRedirectCounts es)
    (hvisible : (∀ env req h, Event.request env req h ∈ es → req.IsBot) ∨
      (w₀.redis.solved.cell ip = none ∧ ∀ e ∈ es, ¬ e.IsSolve)) :
    SlidingCounter.Counts 3600 cf.challengeEscalationThreshold
      (w₀.redis.challenged.cell ip = none ∨ ∃ e ∈ es, e.IsSolve) (openRedirects es)
      (w.redis.challenged.cell ip) := by
  induction hrun with
  | nil => exact .start fun h ↦ h.resolve_right fun ⟨_, hmem, _⟩ ↦ List.not_mem_nil hmem
  | @snoc w w' es e hrun hstep ih =>
    have hbefore := ih hes.of_concat (hvisible.imp
      (fun hbot env req h hmem ↦ hbot env req h (List.mem_append_left _ hmem))
      (And.imp_right fun hns e' he' ↦ hns e' (List.mem_append_left _ he')))
    refine (counts_step hstep ?_ hes.spaced ?_ hbefore).imp ?_
    · intro env req h he
      exact hes.written env req h (by simp [he])
    · intro env req h he
      refine hvisible.imp (fun hbot ↦ hbot env req h (by simp [he])) fun ⟨hstart, hns⟩ ↦ ?_
      exact solved_run hrun hstart fun e' he' ↦ hns e' (List.mem_append_left _ he')
    · rintro (hstart | ⟨e', he', hsolve⟩)
      · exact Or.inl (Or.inl hstart)
      · rcases List.mem_append.1 he' with he' | he'
        · exact Or.inl (Or.inr ⟨e', he', hsolve⟩)
        · exact Or.inr (List.mem_singleton.1 he' ▸ hsolve)

/-! ### A client that never solves -/

/-- **A client that never solves gets at most the threshold of challenge redirects**, and once it
has had them, a request that would be challenged within an hour of the last is blocked. -/
theorem escalation_bound {w₀ w : World} {es : List Event} (hrun : Run (ClientStep cf ip) w₀ es w)
    (hchallenged : w₀.redis.challenged.cell ip = none) (hsolved : w₀.redis.solved.cell ip = none)
    (hunsolved : ∀ e ∈ es, ¬ e.IsSolve) (hes : EveryRedirectCounts es) :
    (redirects es).length ≤ cf.challengeEscalationThreshold ∧
      ∀ env req, req.ipAddress = ip → WouldChallenge cf env req w →
        cf.challengeEscalationThreshold ≤ (redirects es).length →
        (∀ t ∈ (redirects es).getLast?, env.now < t + 3600) →
        (WafMiddleware.call cf env req w).1.IsBlocked := by
  have hcounts := counts_run hrun hes (Or.inr ⟨hsolved, hunsolved⟩)
  rw [openRedirects_of_unsolved hunsolved] at hcounts
  refine ⟨(hcounts.eq_cell (Or.inl hchallenged)).2, fun env req hip hwould hall hnow ↦ ?_⟩
  subst hip
  obtain ⟨fp, hfp⟩ := hwould.2.1
  have hsee : w.redis.solved.get env.now req.ipAddress = none :=
    KeySpace.get_of_cell_none (solved_run hrun hsolved hunsolved)
  rw [isBlocked_iff_of_wouldChallenge cf hwould hfp, unsolvedCount_of_visible (Or.inr hsee)]
  exact hall.trans (hcounts.count hnow).1

/-! #### A run of it

One address that a rule challenges, and a threshold of two. -/

/-- Challenges every request of one address. -/
def challengeRule : BlockRule where
  ruleType := .ip
  matchType := .exact
  pattern := "192.0.2.1"
  id := 7
  name := "Challenge one address"
  action := .challenge
  priority := 100
  isActive := true
  source := .admin
  expiresAt := none
  reviewStatus := .notApplicable
  reviewedAt := none
  detectors := ""
  createdAt := 0

/-- The default settings with a threshold of two challenges. -/
def twoChallenges : Conf := { plainConf with challengeEscalationThreshold := 2 }

/-- A headless browser's request from that address: it claims to be Chrome and sends none of
Chrome's headers. -/
def headlessRequest : Request := plainRequest "Chrome/120"

/-- The state after the address has sent requests at some instants. -/
def afterRequests (w : World) : List ℚ → World
  | [] => w
  | t :: ts => afterRequests (WafMiddleware.call twoChallenges (Env.plain t) headlessRequest w).2 ts

/-- Two redirects, and the third request is blocked. -/
theorem escalation_bound_third_request :
    (WafMiddleware.call twoChallenges (Env.plain 20) headlessRequest
      (afterRequests (World.start ⟨[challengeRule], []⟩) [0, 10])).1.IsBlocked := by
  have hrun : Run (ClientStep twoChallenges "192.0.2.1") (World.start ⟨[challengeRule], []⟩) _
      (afterRequests (World.start ⟨[challengeRule], []⟩) [0, 10]) :=
    .snoc (.snoc .nil (.request rfl)) (.request rfl)
  refine (escalation_bound hrun rfl rfl ?_ ⟨forall_request ?_, ?_⟩).2 (Env.plain 20) headlessRequest
    rfl ?_ ?_ ?_
  all_goals decide +kernel

/-! ### A bot that solves -/

/-- **A bot that solves its challenges is blocked exactly when it has had enough redirects since its
last accepted solution.** Redirects before it are not counted, although the gate is told to
disregard the solved flag of a bot: the verify view has deleted the counter itself. -/
theorem solving_bot_isBlocked_iff {w₀ w : World} {es : List Event}
    (hrun : Run (ClientStep cf ip) w₀ es w)
    (hbot : ∀ env req h, Event.request env req h ∈ es → req.IsBot) (hes : EveryRedirectCounts es)
    (henough : cf.challengeEscalationThreshold ≤ (redirects es).length)
    {env : Env} {req : Request} (hip : req.ipAddress = ip) (hreq : req.IsBot)
    (hwould : WouldChallenge cf env req w)
    (hnow : ∀ t ∈ (redirects es).getLast?, env.now < t + 3600) :
    (WafMiddleware.call cf env req w).1.IsBlocked ↔
      cf.challengeEscalationThreshold ≤ (openRedirects es).length := by
  subst hip
  have hcounts := counts_run hrun hes (Or.inl hbot)
  have hnow' : ∀ t ∈ (openRedirects es).getLast?, env.now < t + 3600 := by
    obtain ⟨before, hbefore⟩ := openRedirects_suffix es
    rw [← hbefore] at hnow
    exact fun t ht ↦ hnow t (List.mem_getLast?_append_of_mem_getLast? ht)
  obtain ⟨hle, heq⟩ := hcounts.count hnow'
  rw [isBlocked_iff_of_wouldChallenge cf hwould hreq, unsolvedCount_of_visible (Or.inl rfl)]
  refine ⟨fun hblocked ↦ ?_, fun hopen ↦ hopen.trans hle⟩
  -- a solution makes the count exact; without one every redirect is still open
  by_cases hsolve : ∃ e ∈ es, e.IsSolve
  · rwa [heq (Or.inr hsolve)] at hblocked
  · rw [openRedirects_of_unsolved fun e he hs ↦ hsolve ⟨e, he, hs⟩]
    exact henough

/-- The state after the address has had one challenge, solved it, and then sent requests. -/
def afterSolve (ts : List ℚ) : World :=
  afterRequests (verifyPost twoChallenges (Env.plain 1) "192.0.2.1" headlessRequest.requestMeta true
    (afterRequests (World.start ⟨[challengeRule], []⟩) [0])).2 ts

/-- Two redirects after the solution: the next request is blocked. -/
theorem solving_bot_isBlocked_after_two :
    (WafMiddleware.call twoChallenges (Env.plain 4) headlessRequest
      (afterSolve [2, 3])).1.IsBlocked := by
  have hrun : Run (ClientStep twoChallenges "192.0.2.1") (World.start ⟨[challengeRule], []⟩) _
      (afterSolve [2, 3]) :=
    .snoc (.snoc (.snoc (.snoc .nil (.request rfl)) .verify) (.request rfl)) (.request rfl)
  refine (solving_bot_isBlocked_iff hrun (forall_request ?_) ⟨forall_request ?_, ?_⟩ ?_ rfl
    ?_ ?_ ?_).2 ?_
  all_goals decide +kernel

/-- **A solution resets a bot's escalation.** One redirect, an accepted solution, another redirect:
that makes two, and the next request that would be challenged is not blocked. -/
theorem solving_bot_not_blocked : ∃ es : List Event,
    Run (ClientStep twoChallenges "192.0.2.1") (World.start ⟨[challengeRule], []⟩) es
      (afterSolve [2]) ∧
    (∀ env req h, Event.request env req h ∈ es → req.IsBot ∧ req.passCookie = false) ∧
    EveryRedirectCounts es ∧ twoChallenges.challengeEscalationThreshold ≤ (redirects es).length ∧
    (∀ t ∈ (redirects es).getLast?, 3 < t + 3600) ∧ headlessRequest.IsBot ∧
    WouldChallenge twoChallenges (Env.plain 3) headlessRequest (afterSolve [2]) ∧
    ¬(WafMiddleware.call twoChallenges (Env.plain 3) headlessRequest
      (afterSolve [2])).1.IsBlocked := by
  refine ⟨_, .snoc (.snoc (.snoc .nil (.request rfl)) .verify) (.request rfl),
    forall_request ?_, ⟨forall_request ?_, ?_⟩, ?_⟩
  all_goals decide +kernel

end DjangoWaf
