import DjangoWaf.Lib.Run
import DjangoWaf.Middleware
import Mathlib.Data.List.Chain

/-!
# One client over time

Runs of everything that can happen to the keys of one address: requests it sends through the
middleware, solutions it posts to the verify view, and, in between, anything at all that leaves its
own three keys alone. That last step covers other clients, edits to the rules, expiry sweeps and the
caches of other workers, so the results over these runs hold whatever else the deployment does.

`counter_request` and `counter_verify` say what one step does to the challenge counter; the rest of
the module reads a run's redirects and solves off its history.
-/

namespace DjangoWaf

/-- Another client's step, or an operator's: the address's own keys stay as they are. -/
structure SameClient (ip : String) (w w' : World) : Prop where
  blocked : w'.redis.blocked.cell ip = w.redis.blocked.cell ip
  challenged : w'.redis.challenged.cell ip = w.redis.challenged.cell ip
  solved : w'.redis.solved.cell ip = w.redis.solved.cell ip

/-- What a step of a run was. -/
inductive Event
  /-- A request, what it found and what became of it. -/
  | request (env : Env) (req : Request) (h : Handled)
  /-- A post to the verify view, and whether the solution was accepted. -/
  | verify (env : Env) (m : Meta) (accepted : Bool)
  /-- Anything that leaves the address's keys alone. -/
  | other

/-- A property of the request of an event. -/
def Event.OnRequest (P : Env → Request → Handled → Prop) : Event → Prop
  | .request env req h => P env req h
  | .verify _ _ _ | .other => True

instance (P : Env → Request → Handled → Prop) [∀ env req h, Decidable (P env req h)] :
    DecidablePred (Event.OnRequest P)
  | .request env req h => inferInstanceAs (Decidable (P env req h))
  | .verify _ _ _ => isTrue trivial
  | .other => isTrue trivial

theorem forall_request {P : Env → Request → Handled → Prop} {es : List Event}
    (hes : ∀ e ∈ es, e.OnRequest P) : ∀ env req h, Event.request env req h ∈ es → P env req h :=
  fun _ _ _ hmem ↦ hes _ hmem

/-- The steps of a run of one address. -/
inductive ClientStep (cf : Conf) (ip : String) : World → Event → World → Prop
  | request {w : World} {env : Env} {req : Request} : req.ipAddress = ip →
      ClientStep cf ip w (.request env req (WafMiddleware.call cf env req w).1)
        (WafMiddleware.call cf env req w).2
  | verify {w : World} {env : Env} {m : Meta} {solves : Bool} :
      ClientStep cf ip w (.verify env m (verifyPost cf env ip m solves w).1)
        (verifyPost cf env ip m solves w).2
  | other {w w' : World} : SameClient ip w w' → ClientStep cf ip w .other w'

/-! ### What a request would be answered -/

variable (cf : Conf)

/-- Evaluation is reached and would challenge the request. -/
def WouldChallenge (env : Env) (req : Request) (w : World) : Prop :=
  req.stoppedEarly cf = none ∧
    (∃ fp, classifyFingerprint req.query.userAgent req.requestMeta = .ok fp) ∧
    ∃ e w₁, ungated cf env req.query w = (.ok e, w₁) ∧ e.result.verdict = .challenged

/-- The request is answered `BLOCKED`. -/
def Handled.IsBlocked (h : Handled) : Prop :=
  ∃ e, h.evaluated = some (.ok e) ∧ e.result.verdict = .blocked ∧ h.response = .forbidden

instance (env : Env) (req : Request) (w : World) : Decidable (WouldChallenge cf env req w) :=
  decidable_of_iff (req.stoppedEarly cf = none ∧
      (classifyFingerprint req.query.userAgent req.requestMeta).toOption.isSome ∧
      (ungated cf env req.query w).1.toOption.map (fun e ↦ e.result.verdict) =
        some .challenged) <| by
    rcases hfp : classifyFingerprint req.query.userAgent req.requestMeta with x | fp <;>
      rcases hun : ungated cf env req.query w with ⟨x | e, w₁⟩ <;>
      simp [WouldChallenge, hfp, hun, Except.toOption]

instance (h : Handled) : Decidable h.IsBlocked :=
  decidable_of_iff (h.evaluated.bind (fun r ↦ r.toOption.map fun e ↦ e.result.verdict) =
      some .blocked ∧ h.response = .forbidden) <| by
    rcases h with ⟨- | (x | e), response⟩ <;> simp [Handled.IsBlocked, Except.toOption]

/-- **What becomes of a request that would be challenged**: below the threshold it is, and from the
threshold on it is blocked. -/
theorem call_of_wouldChallenge {env : Env} {req : Request} {w : World} {fp : FingerprintVerdict}
    (h : WouldChallenge cf env req w)
    (hfp : classifyFingerprint req.query.userAgent req.requestMeta = .ok fp) :
    (unsolvedCount env req.ipAddress fp w.redis < cf.challengeEscalationThreshold ∧
        ∃ e, (WafMiddleware.call cf env req w).1.evaluated = some (.ok e) ∧
          e.result.verdict = .challenged) ∨
      (cf.challengeEscalationThreshold ≤ unsolvedCount env req.ipAddress fp w.redis ∧
        (WafMiddleware.call cf env req w).1 = ⟨some (.ok escalated), .forbidden⟩) := by
  obtain ⟨hstop, -, e, w₁, hun, hv⟩ := h
  have hsame := sameVerdicts_ungated cf env req.query w
  rw [hun] at hsame
  have hcount : unsolvedCount env req.ipAddress fp w₁.redis =
      unsolvedCount env req.ipAddress fp w.redis :=
    unsolvedCount_congr env hsame.challenged hsame.solved req.ipAddress fp
  rw [WafMiddleware.call, hstop, evaluateRequest_of_classified cf env hfp, hun]
  simp only [applyGate, hv, if_true]
  rcases gateChallengeOrEscalate_cases cf env req.ipAddress fp e w₁ with
    ⟨hlt, hgate⟩ | ⟨hge, rule, w₂, -, hgate⟩
  · replace hgate : gateChallengeOrEscalate cf env req.query.ipAddress fp e w₁ = _ := hgate
    rw [hgate]
    exact Or.inl ⟨hcount ▸ hlt, e, rfl, hv⟩
  · replace hgate : gateChallengeOrEscalate cf env req.query.ipAddress fp e w₁ = _ := hgate
    rw [hgate]
    exact Or.inr ⟨hcount ▸ hge, rfl⟩

/-- **A request that would be challenged is blocked exactly from the threshold on.** -/
theorem isBlocked_iff_of_wouldChallenge {env : Env} {req : Request} {w : World}
    {fp : FingerprintVerdict} (h : WouldChallenge cf env req w)
    (hfp : classifyFingerprint req.query.userAgent req.requestMeta = .ok fp) :
    (WafMiddleware.call cf env req w).1.IsBlocked ↔
      cf.challengeEscalationThreshold ≤ unsolvedCount env req.ipAddress fp w.redis := by
  rcases call_of_wouldChallenge cf h hfp with ⟨hlt, e, he, hv⟩ | ⟨hge, hcall⟩
  · refine ⟨fun ⟨e', he', hb, _⟩ ↦ ?_, fun hle ↦ absurd hlt (not_lt.2 hle)⟩
    obtain rfl := Except.ok.inj (Option.some.inj (he.symm.trans he'))
    exact absurd (hv.symm.trans hb) nofun
  · rw [hcall]
    exact ⟨fun _ ↦ hge, fun _ ↦ ⟨escalated, rfl, rfl, rfl⟩⟩

/-! ### The challenge counter, step by step -/

/-- What a request does to the challenge counter of its address. -/
inductive CounterSpec (env : Env) (req : Request) (w : World) (h : Handled) (w' : World) : Prop
  /-- A redirect below the threshold, which counts one more when the guarded write goes through. -/
  | redirected {url : String} {fp : FingerprintVerdict} : h.response = .redirect url →
      classifyFingerprint req.query.userAgent req.requestMeta = .ok fp →
      unsolvedCount env req.ipAddress fp w.redis < cf.challengeEscalationThreshold →
      (env.challengeWrite = .done → w'.redis.challenged.cell req.ipAddress =
        some ⟨unsolvedCount env req.ipAddress fp w.redis + 1, some (env.now + 3600)⟩) →
      CounterSpec env req w h w'
  /-- Any other answer leaves the counter, -/
  | kept : (∀ url, h.response ≠ .redirect url) →
      w'.redis.challenged.cell req.ipAddress = w.redis.challenged.cell req.ipAddress →
      CounterSpec env req w h w'
  /-- or clears it, for a client that is no bot and has solved a challenge. -/
  | cleared {fp : FingerprintVerdict} : (∀ url, h.response ≠ .redirect url) →
      classifyFingerprint req.query.userAgent req.requestMeta = .ok fp → fp ≠ .bot →
      (w.redis.solved.get env.now req.ipAddress).isSome →
      w'.redis.challenged.cell req.ipAddress = none → CounterSpec env req w h w'

/-- Reading the count leaves the solved flag alone, and the live count behind it is the one read. -/
theorem getUnsolvedChallengeCount_spec (env : Env) (ip : String) (fp : FingerprintVerdict)
    (r : Redis) :
    (getUnsolvedChallengeCount env ip fp r).2.solved = r.solved ∧
      ((getUnsolvedChallengeCount env ip fp r).2.challenged.get env.now ip).getD 0 =
        unsolvedCount env ip fp r := by
  rcases getUnsolvedChallengeCount_cases env ip fp r with ⟨hr, hcount⟩ | ⟨hr, hcount, -, -⟩
  · rw [hr, hcount]
    exact ⟨rfl, rfl⟩
  · rw [hr, hcount]
    refine ⟨rfl, ?_⟩
    rw [KeySpace.get_of_cell_none (r.challenged.cell_delete_self ip)]
    rfl

/-- Counting a redirect: one more than the live count, for another hour. -/
theorem cell_countChallenge {env : Env} (h : env.challengeWrite = .done) (ip : String) (r : Redis) :
    (countChallenge env ip r).challenged.cell ip =
      some ⟨(r.challenged.get env.now ip).getD 0 + 1, some (env.now + 3600)⟩ := by
  rw [countChallenge, h]
  exact r.challenged.cell_incr_expire_self env.now ip 3600

theorem solved_countChallenge (env : Env) (ip : String) (r : Redis) :
    (countChallenge env ip r).solved = r.solved := by
  rw [countChallenge]
  rcases env.challengeWrite <;> rfl

theorem recordHandled_frame (env : Env) (ip : String) (id : Option Uuid) (r : Redis) :
    (recordHandled env ip id r).challenged = r.challenged ∧
      (recordHandled env ip id r).solved = r.solved := by
  rw [recordHandled]
  rcases env.blockWrite <;> exact ⟨rfl, rfl⟩

/-- What is left of the counter after a count was read and no redirect was given. -/
theorem counter_read {env : Env} {req : Request} {w w₁ w' : World} {h : Handled}
    {fp : FingerprintVerdict} (hresp : ∀ url, h.response ≠ .redirect url)
    (hfp : classifyFingerprint req.query.userAgent req.requestMeta = .ok fp)
    (hsame : w.SameVerdicts w₁)
    (hw' : w'.redis.challenged =
      (getUnsolvedChallengeCount env req.ipAddress fp w₁.redis).2.challenged) :
    CounterSpec cf env req w h w' := by
  rcases getUnsolvedChallengeCount_cases env req.ipAddress fp w₁.redis with
    ⟨hr, -⟩ | ⟨hr, -, hsolved, hbot⟩
  · exact .kept hresp (by rw [hw', hr, hsame.challenged])
  · rw [hsame.solved] at hsolved
    refine .cleared hresp hfp hbot hsolved ?_
    rw [hw', hr]
    exact KeySpace.cell_delete_self _ _

/-- **What a request does to the keys of its address**: the solved flag stays, and the counter moves
as `CounterSpec` says. -/
theorem counter_request (env : Env) (req : Request) (w : World) :
    (WafMiddleware.call cf env req w).2.redis.solved = w.redis.solved ∧
      CounterSpec cf env req w (WafMiddleware.call cf env req w).1
        (WafMiddleware.call cf env req w).2 := by
  have hsame := sameVerdicts_ungated cf env req.query w
  have hspec := call_spec cf env req w
  generalize WafMiddleware.call cf env req w = out at hspec
  rcases out with ⟨h, w'⟩
  rcases hspec with ⟨hw', -, hresp⟩ | ⟨hun, -, -, hresp⟩ | ⟨hun, -⟩ | ⟨hun, -, hfp, -⟩ |
    ⟨hun, -, hfp, hlt⟩ | @⟨e, w₁, w₂, fp, rule, hun, -, hfp, -, hrule⟩
  -- in the order of `CallSpec`; only the last three read the count
  · exact ⟨hw'.solved, .kept hresp (by rw [hw'.challenged])⟩
  · rw [hun] at hsame
    exact ⟨hsame.solved, .kept hresp (by rw [hsame.challenged])⟩
  · rw [hun] at hsame
    obtain ⟨hc, hs⟩ := recordHandled_frame env req.ipAddress _ _
    refine ⟨hs.trans hsame.solved, .kept nofun ?_⟩
    show (recordHandled env _ _ _).challenged.cell _ = _
    rw [hc, hsame.challenged]
  · rw [hun] at hsame
    refine ⟨?_, counter_read cf nofun hfp hsame rfl⟩
    exact (getUnsolvedChallengeCount_spec _ _ _ _).1.trans hsame.solved
  · rw [hun] at hsame
    obtain ⟨hs, hcount⟩ := getUnsolvedChallengeCount_spec env req.ipAddress _ _
    refine ⟨(solved_countChallenge _ _ _).trans (hs.trans hsame.solved), ?_⟩
    refine .redirected rfl hfp hlt fun hdone ↦ ?_
    show (countChallenge env _ _).challenged.cell _ = _
    rw [cell_countChallenge hdone, hcount, unsolvedCount_congr env hsame.challenged hsame.solved]
  · rw [hun] at hsame
    obtain ⟨-, k, rules, hframe⟩ := createEscalationRule_frame cf env req.ipAddress
      (w₁.withRedis (getUnsolvedChallengeCount env req.ipAddress fp w₁.redis).2)
    rw [← hrule] at hframe
    obtain ⟨hc, hs⟩ := recordHandled_frame env req.ipAddress none
      (recordBlockVerdict env.now req.ipAddress cf.escalationBlockTtl (rule.map BlockRule.id)
        w₂.redis)
    have hc' : w₂.redis.challenged =
        (getUnsolvedChallengeCount env req.ipAddress fp w₁.redis).2.challenged :=
      congrArg (fun w : World ↦ w.redis.challenged) hframe
    have hs' : w₂.redis.solved =
        (getUnsolvedChallengeCount env req.ipAddress fp w₁.redis).2.solved :=
      congrArg (fun w : World ↦ w.redis.solved) hframe
    refine ⟨?_, counter_read cf nofun hfp hsame ?_⟩
    · exact hs.trans (hs'.trans ((getUnsolvedChallengeCount_spec _ _ _ _).1.trans hsame.solved))
    · exact hc.trans hc'

/-- **What a post to the verify view does to the counter**: an accepted solution deletes it. -/
theorem counter_verify (env : Env) (ip : String) (m : Meta) (solves : Bool) (w : World) :
    (verifyPost cf env ip m solves w).2.redis.blocked = w.redis.blocked ∧
      (((verifyPost cf env ip m solves w).1 = true ∧
          (verifyPost cf env ip m solves w).2.redis.challenged.cell ip = none) ∨
        ((verifyPost cf env ip m solves w).1 = false ∧
          (verifyPost cf env ip m solves w).2.redis.challenged = w.redis.challenged ∧
          (verifyPost cf env ip m solves w).2.redis.solved = w.redis.solved)) := by
  rcases hrate : checkVerifyRateLimit cf.toRateLimitConf env.drop ip w.redis.rate env.now with
    ⟨rate, store⟩
  simp only [verifyPost, hrate]
  split
  · exact ⟨rfl, Or.inr ⟨rfl, rfl, rfl⟩⟩
  · simp only [registerKnownFingerprint]
    split <;> exact ⟨rfl, Or.inl ⟨trivial, KeySpace.cell_delete_self _ _⟩⟩

/-! ### The redirects of a history -/

/-- The instant of a challenge redirect. -/
def Event.redirectAt : Event → Option ℚ
  | .request env _ ⟨_, .redirect _⟩ => some env.now
  | _ => none

/-- An accepted solution. -/
def Event.IsSolve : Event → Prop
  | .verify _ _ true => True
  | _ => False

instance : DecidablePred Event.IsSolve
  | .verify _ _ true => isTrue trivial
  | .verify _ _ false => isFalse id
  | .request _ _ _ => isFalse id
  | .other => isFalse id

/-- The instants of the challenge redirects of a history, in order. -/
def redirects (es : List Event) : List ℚ := es.filterMap Event.redirectAt

/-- The redirects of a history since its last accepted solution. -/
def openRedirects (es : List Event) : List ℚ :=
  es.foldl (fun ts e ↦ if e.IsSolve then [] else ts ++ e.redirectAt.toList) []

theorem redirects_concat (es : List Event) (e : Event) :
    redirects (es ++ [e]) = redirects es ++ e.redirectAt.toList := by
  rw [redirects, List.filterMap_append, redirects]
  rcases h : e.redirectAt with - | t
  · rw [List.filterMap_cons_none h]
    rfl
  · rw [List.filterMap_cons_some h]
    rfl

theorem openRedirects_concat (es : List Event) (e : Event) :
    openRedirects (es ++ [e]) =
      if e.IsSolve then [] else openRedirects es ++ e.redirectAt.toList := by
  rw [openRedirects, List.foldl_append]
  rfl

/-- The open redirects are the last ones of the history. -/
theorem openRedirects_suffix (es : List Event) : openRedirects es <:+ redirects es := by
  induction es using List.reverseRecOn with
  | nil => exact List.suffix_refl _
  | append_singleton es e ih =>
    rw [openRedirects_concat, redirects_concat]
    split
    · exact List.nil_suffix
    · obtain ⟨before, h⟩ := ih
      exact ⟨before, by rw [← List.append_assoc, h]⟩

/-- Without a solution, every redirect is open. -/
theorem openRedirects_of_unsolved {es : List Event} (h : ∀ e ∈ es, ¬ e.IsSolve) :
    openRedirects es = redirects es := by
  induction es using List.reverseRecOn with
  | nil => rfl
  | append_singleton es e ih =>
    rw [openRedirects_concat, redirects_concat, if_neg (h e (by simp)),
      ih fun e' he' ↦ h e' (by simp [he'])]

/-- A redirect within an hour of the one before it is within an hour of the last open one. -/
theorem lt_last_openRedirects {es : List Event} {s t : ℚ}
    (h : (redirects es ++ [t]).IsChain fun s t ↦ t < s + 3600)
    (hs : s ∈ (openRedirects es).getLast?) : t < s + 3600 := by
  obtain ⟨before, hbefore⟩ := openRedirects_suffix es
  have hlast : s ∈ (redirects es).getLast? := by
    rw [← hbefore]
    exact List.mem_getLast?_append_of_mem_getLast? hs
  exact (List.isChain_append.1 h).2.2 s hlast t rfl

end DjangoWaf
