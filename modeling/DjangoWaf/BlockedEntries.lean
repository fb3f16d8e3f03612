import DjangoWaf.Escalation

/-!
# Blocked entries

`waf:blocked:{ip}` lets a blocked address be refused without evaluating it again. Two places write
it: the escalation gate, with the escalation rule's identifier and lifetime, and `_handle_verdict`,
for **every** blocked verdict, with 300 seconds and the identifier the verdict carries.
`entry_request` says what one request does to the entry of its address.

* `escalation_entry_iff`: a request that escalates has both writes, in that order, and its verdict
  carries no identifier. The gate's entry survives exactly when the second write cannot replace it.
* `fastPath_backed`: a fast-path verdict is a blocked verdict, so a hit re-arms the entry it came
  from, and the entry may outlive the block behind it. Every hit is backed in the runs in which no
  request comes between the end of a block's own lifetime and the end of its entry's.
-/

namespace DjangoWaf

variable {cf : Conf} {ip : String}

/-- The identifier an entry names. -/
def BlockedValue.ruleId : BlockedValue → Option Uuid
  | .rule id => some id
  | .sentinel | .malformed => none

/-- The value `record_block_verdict` stores. -/
def BlockedValue.ofRuleId : Option Uuid → BlockedValue
  | some id => .rule id
  | none => .sentinel

/-- The return statement a request was blocked by. -/
def Handled.blockSite (h : Handled) : Option Site :=
  match h.evaluated with
  | some (.ok e) => if e.result.verdict = .blocked then some e.site else none
  | _ => none

theorem blockSite_of_blocked {e : Evaluated} (h : e.result.verdict = .blocked)
    (response : Response) : Handled.blockSite ⟨some (.ok e), response⟩ = some e.site := if_pos h

theorem blockSite_of_not_blocked {e : Evaluated} (h : e.result.verdict ≠ .blocked)
    (response : Response) : Handled.blockSite ⟨some (.ok e), response⟩ = none := if_neg h

/-- The cell the guarded write of `_handle_verdict` leaves. -/
def handledCell (env : Env) (id : Option Uuid) (c : Option (TtlCell ℚ BlockedValue)) :
    Option (TtlCell ℚ BlockedValue) :=
  match env.blockWrite with
  | .firstFails => c
  | .done | .secondFails => some ⟨.ofRuleId id, some (env.now + 300)⟩

/-! ### What one request does to the entry of its address -/

/-- The four things that can happen to the entry. -/
inductive EntrySpec (cf : Conf) (env : Env) (req : Request) (w : World) (h : Handled) (w' : World) :
    Prop
  /-- No block, no write. -/
  | kept : h.blockSite = none →
      w'.redis.blocked.cell req.ipAddress = w.redis.blocked.cell req.ipAddress →
      EntrySpec cf env req w h w'
  /-- A hit is counted for the rule the entry names, and the entry is written again. -/
  | hit {v : BlockedValue} : h.blockSite = some .blockedIp →
      w.redis.blocked.get env.now req.ipAddress = some v →
      (∀ id ∈ v.ruleId, w'.redis.ruleHits = (recordRuleHit env.now id w.redis).ruleHits) →
      w'.redis.blocked.cell req.ipAddress =
        handledCell env v.ruleId (w.redis.blocked.cell req.ipAddress) →
      EntrySpec cf env req w h w'
  /-- A block by a rule or by score, which finds no live entry. -/
  | proper {site : Site} {id : Option Uuid} : h.blockSite = some site →
      site = .blockRule ∨ site = .score →
      w.redis.blocked.get env.now req.ipAddress = none →
      w'.redis.blocked.cell req.ipAddress =
        handledCell env id (w.redis.blocked.cell req.ipAddress) →
      EntrySpec cf env req w h w'
  /-- An escalation, which finds none either and writes twice. -/
  | escalated : h.blockSite = some .escalation →
      w.redis.blocked.get env.now req.ipAddress = none →
      w'.redis.blocked.cell req.ipAddress = handledCell env none
        (some ⟨.ofRuleId ((createEscalationRule cf env req.ipAddress w).1.map BlockRule.id),
          some (env.now + cf.escalationBlockTtl)⟩) →
      EntrySpec cf env req w h w'

theorem cell_recordHandled (env : Env) (ip : String) (id : Option Uuid) (r : Redis) :
    (recordHandled env ip id r).blocked.cell ip = handledCell env id (r.blocked.cell ip) := by
  rw [recordHandled, handledCell]
  rcases env.blockWrite with - | - | - <;> rcases id with - | id
  all_goals first | rfl | exact KeySpace.cell_setex_self _ _ _ _ _

theorem ruleHits_recordHandled (env : Env) (ip : String) (id : Option Uuid) (r : Redis) :
    (recordHandled env ip id r).ruleHits = r.ruleHits := by
  rw [recordHandled]
  rcases env.blockWrite <;> rfl

/-- **A fast-path answer names the rule its entry names**, and a hit is counted for it. -/
theorem ungated_hit {env : Env} {q : Query} {w w₁ : World} {e : Evaluated}
    (h : ungated cf env q w = (.ok e, w₁)) (hsite : e.site = .blockedIp) :
    ∃ v, w.redis.blocked.get env.now q.ipAddress = some v ∧ e.result.matchedRuleId = v.ruleId ∧
      ∀ id ∈ v.ruleId, w₁.redis.ruleHits = (recordRuleHit env.now id w.redis).ruleHits := by
  have hfits := ungated_fits cf env h
  obtain ⟨w₂, hsame, hhits, ⟨x, hun⟩ | ⟨rule, hun⟩ | ⟨cache, hun⟩⟩ := ungated_cases cf env q w
  · rw [hun] at h
    cases (Prod.mk.inj h).1
  · obtain ⟨he, -⟩ := Prod.mk.inj (hun.symm.trans h)
    obtain rfl := Except.ok.inj he
    cases hsite
  · rw [hun, evaluateBlocks, checkBlockedIp, hsame.blocked] at h
    rcases hv : w.redis.blocked.get env.now q.ipAddress with - | v
    · rw [Evaluated.Fits, hsite, hv] at hfits
      exact absurd rfl hfits.1
    · rw [hv] at h
      refine ⟨v, rfl, ?_⟩
      rcases v with - | id | - <;> obtain ⟨he, rfl⟩ := Prod.mk.inj h <;>
        obtain rfl := Except.ok.inj he
      · exact ⟨rfl, fun id hid ↦ absurd hid (by simp [BlockedValue.ruleId])⟩
      · refine ⟨rfl, fun id' hid ↦ ?_⟩
        obtain rfl := Option.some.inj hid
        show ((w₂.redis.ruleHits.incr env.now id).expire env.now id 172800) = _
        rw [hhits]
        rfl
      · exact ⟨rfl, fun id hid ↦ absurd hid (by simp [BlockedValue.ruleId])⟩

/-- Only a live entry is answered by the fast path, and only the fast path answers for one. -/
theorem get_blocked_of_site_ne {env : Env} {q : Query} {w w₁ : World} {e : Evaluated}
    (h : ungated cf env q w = (.ok e, w₁)) (hsite : e.site ≠ .blockedIp)
    (hpass : e.result.verdict ≠ .passed) : w.redis.blocked.get env.now q.ipAddress = none := by
  have hfits := ungated_fits cf env h
  rw [Evaluated.Fits] at hfits
  rcases hs : e.site with - | - | - | - | - | - | - | - <;> rw [hs] at hfits
  · exact absurd hfits hpass
  · exact absurd hs hsite
  · exact hfits
  · exact hfits.1
  · exact hfits.1
  · exact hfits
  · exact hfits.1
  · exact hfits.elim

theorem blocked_getUnsolvedChallengeCount (env : Env) (ip : String) (fp : FingerprintVerdict)
    (r : Redis) : (getUnsolvedChallengeCount env ip fp r).2.blocked = r.blocked := by
  rcases getUnsolvedChallengeCount_cases env ip fp r with ⟨hr, -⟩ | ⟨hr, -⟩ <;> rw [hr]

theorem blocked_countChallenge (env : Env) (ip : String) (r : Redis) :
    (countChallenge env ip r).blocked = r.blocked := by
  rw [countChallenge]
  rcases env.challengeWrite <;> rfl

/-- The escalation rule depends on the table alone. -/
theorem createEscalationRule_congr {env : Env} {w w' : World} (h : w'.db = w.db) :
    (createEscalationRule cf env ip w').1 = (createEscalationRule cf env ip w).1 := by
  rw [createEscalationRule, createEscalationRule]
  split
  · simp only [getOrCreateAutoRule, h]
  · rfl

/-- **A request does one of the four things `EntrySpec` lists.** -/
theorem entry_request (cf : Conf) (env : Env) (req : Request) (w : World) :
    EntrySpec cf env req w (WafMiddleware.call cf env req w).1
      (WafMiddleware.call cf env req w).2 := by
  have hsame := sameVerdicts_ungated cf env req.query w
  have hspec := call_spec cf env req w
  generalize WafMiddleware.call cf env req w = out at hspec
  rcases out with ⟨h, w'⟩
  rcases hspec with ⟨hw', hev, -⟩ | ⟨hun, hb, -, -⟩ | @⟨e, w₁, hun, hb⟩ | ⟨hun, hv, -, -⟩ |
    ⟨hun, hv, -, -⟩ | @⟨e, w₁, w₂, fp, rule, hun, hv, -, -, hrule⟩
  -- in the order of `CallSpec`; only a block writes the entry, and an escalation writes it twice
  · refine .kept ?_ (by rw [hw'.blocked])
    rw [Handled.blockSite]
    rcases hh : h.evaluated with - | (x | e)
    · rfl
    · rfl
    · exact absurd hh (hev e)
  · rw [hun] at hsame
    exact .kept (blockSite_of_not_blocked hb _) (by rw [hsame.blocked])
  · rw [hun] at hsame
    have hsite := blockSite_of_blocked hb .forbidden
    have hcell : (recordHandled env req.ipAddress e.result.matchedRuleId w₁.redis).blocked.cell
        req.ipAddress = handledCell env e.result.matchedRuleId
          (w.redis.blocked.cell req.ipAddress) := by
      rw [cell_recordHandled, hsame.blocked]
    rcases hs : e.site with - | - | - | - | - | - | - | -
    all_goals
      have hfits := ungated_fits cf env hun
      rw [Evaluated.Fits, hs] at hfits
      rw [hs] at hsite
    · exact absurd (hfits.symm.trans hb) nofun
    · obtain ⟨v, hv, hid, hhits⟩ := ungated_hit hun hs
      refine .hit hsite hv (fun id hmem ↦ ?_) (hid ▸ hcell)
      exact (ruleHits_recordHandled _ _ _ _).trans (hhits id hmem)
    · exact .proper hsite (Or.inl rfl) hfits hcell
    · exact absurd (hfits.2.symm.trans hb) nofun
    · exact absurd (hfits.2.symm.trans hb) nofun
    · exact .proper hsite (Or.inr rfl) hfits hcell
    · exact absurd (hfits.2.symm.trans hb) nofun
    · exact hfits.elim
  · rw [hun] at hsame
    refine .kept (blockSite_of_not_blocked (hv ▸ nofun) _) ?_
    show (getUnsolvedChallengeCount env _ _ _).2.blocked.cell _ = _
    rw [blocked_getUnsolvedChallengeCount, hsame.blocked]
  · rw [hun] at hsame
    refine .kept (blockSite_of_not_blocked (hv ▸ nofun) _) ?_
    show (countChallenge env _ _).blocked.cell _ = _
    rw [blocked_countChallenge, blocked_getUnsolvedChallengeCount, hsame.blocked]
  · rw [hun] at hsame
    have hnone : w.redis.blocked.get env.now req.ipAddress = none := by
      refine get_blocked_of_site_ne hun (fun hs ↦ ?_) (hv ▸ nofun)
      have hfits := ungated_fits cf env hun
      rw [Evaluated.Fits, hs] at hfits
      exact absurd (hfits.2.symm.trans hv) nofun
    have hfst : rule = (createEscalationRule cf env req.ipAddress w).1 :=
      (congrArg Prod.fst hrule).trans (createEscalationRule_congr hsame.db)
    refine .escalated rfl hnone ?_
    show (recordHandled env _ _ _).blocked.cell _ = _
    rw [cell_recordHandled, hfst]
    congr 1
    rcases (createEscalationRule cf env req.ipAddress w).1 with - | r <;>
      exact KeySpace.cell_setex_self _ _ _ _ _

/-! ### The entry of an escalation -/

/-- From here on, as long as nothing but the fast path blocks the address, every fast-path hit is
counted for the rule. -/
def HitsCounted (cf : Conf) (ip : String) (id : Uuid) (w₀ : World) : Prop :=
  ∀ es w, Run (ClientStep cf ip) w₀ es w →
    (∀ env req h, Event.request env req h ∈ es →
      h.blockSite = none ∨ h.blockSite = some .blockedIp) →
    ∀ env req, req.ipAddress = ip →
      (WafMiddleware.call cf env req w).1.blockSite = some .blockedIp →
      (WafMiddleware.call cf env req w).2.redis.ruleHits =
        (recordRuleHit env.now id w.redis).ruleHits

/-- The fast path writes back the identifier it read. -/
theorem value_run {id : Uuid} {w₀ w : World} {es : List Event}
    (hrun : Run (ClientStep cf ip) w₀ es w)
    (hstart : ∀ c ∈ w₀.redis.blocked.cell ip, c.value = .rule id)
    (hes : ∀ env req h, Event.request env req h ∈ es →
      h.blockSite = none ∨ h.blockSite = some .blockedIp) :
    ∀ c ∈ w.redis.blocked.cell ip, c.value = .rule id := by
  induction hrun with
  | nil => exact hstart
  | @snoc w w' es e hrun hstep ih =>
    have hw := ih fun env req h he ↦ hes env req h (List.mem_append_left _ he)
    cases hstep with
    | @request env req hip =>
      subst hip
      have hsite := hes env req (WafMiddleware.call cf env req w).1 (by simp)
      rcases entry_request cf env req w with ⟨-, hcell⟩ | @⟨v, -, hget, -, hcell⟩ |
        ⟨hsite', hproper, -, -⟩ | ⟨hsite', -, -⟩
      · rwa [hcell]
      · obtain ⟨c, hc, -, rfl⟩ := KeySpace.get_eq_some_iff.1 hget
        -- a hit stores the identifier it found, or nothing when the write fails
        rw [hcell, handledCell]
        rcases env.blockWrite with - | - | -
        · intro c' hc'
          rw [hw c hc] at hc'
          obtain rfl := Option.some.inj hc'
          rfl
        · exact hw
        · intro c' hc'
          rw [hw c hc] at hc'
          obtain rfl := Option.some.inj hc'
          rfl
      · rw [hsite'] at hsite
        rcases hproper with rfl | rfl <;> rcases hsite with hsite | hsite <;> cases hsite
      · rw [hsite'] at hsite
        rcases hsite with hsite | hsite <;> cases hsite
    | @verify env m solves => rwa [(counter_verify cf env ip m solves w).1]
    | other hsame => rwa [hsame.blocked]

theorem hitsCounted_of_value {id : Uuid} {w₀ : World}
    (hstart : ∀ c ∈ w₀.redis.blocked.cell ip, c.value = .rule id) : HitsCounted cf ip id w₀ := by
  intro es w hrun hes env req hip hsite
  subst hip
  have hvalue := value_run hrun hstart hes
  rcases entry_request cf env req w with ⟨hsite', -⟩ | @⟨v, -, hget, hhits, -⟩ |
    ⟨hsite', hproper, -, -⟩ | ⟨hsite', -, -⟩
  · cases hsite'.symm.trans hsite
  · obtain ⟨c, hc, -, rfl⟩ := KeySpace.get_eq_some_iff.1 hget
    exact hhits id (by rw [hvalue c hc]; rfl)
  · rcases hproper with rfl | rfl <;> cases hsite'.symm.trans hsite
  · cases hsite'.symm.trans hsite

/-- After the request, the entry of its address names the rule the gate created, if it created one,
expires with the escalation's own lifetime, and its hits are counted for that rule. -/
def EscalationEntrySurvives (cf : Conf) (env : Env) (req : Request) (w : World) : Prop :=
  ∃ v, (WafMiddleware.call cf env req w).2.redis.blocked.cell req.ipAddress =
      some ⟨v, some (env.now + cf.escalationBlockTtl)⟩ ∧
    ∀ rule ∈ (createEscalationRule cf env req.ipAddress w).1, v = .rule rule.id ∧
      HitsCounted cf req.ipAddress rule.id (WafMiddleware.call cf env req w).2

/-- **The gate's entry survives the request that made it exactly when the middleware's own write
fails**, or when there is no rule to name and the two lifetimes are the same. -/
theorem escalation_entry_iff {env : Env} {req : Request} {w : World}
    (hesc : (WafMiddleware.call cf env req w).1.blockSite = some .escalation) :
    EscalationEntrySurvives cf env req w ↔
      env.blockWrite = .firstFails ∨ (env.ruleWrite = false ∧ cf.escalationBlockTtl = 300) := by
  have hsome := (createEscalationRule_frame cf env req.ipAddress w).1
  rw [EscalationEntrySurvives]
  rcases entry_request cf env req w with ⟨hsite, -⟩ | ⟨hsite, -⟩ | ⟨hsite, hproper, -⟩ |
    ⟨-, -, hcell⟩
  · cases hsite.symm.trans hesc
  · cases hsite.symm.trans hesc
  · rcases hproper with rfl | rfl <;> cases hsite.symm.trans hesc
  · -- the middleware writes the sentinel for 300 seconds over whatever the gate wrote
    have hover : env.blockWrite ≠ .firstFails → handledCell env none
        (some ⟨.ofRuleId ((createEscalationRule cf env req.ipAddress w).1.map BlockRule.id),
          some (env.now + cf.escalationBlockTtl)⟩) = some ⟨.sentinel, some (env.now + 300)⟩ := by
      intro hne
      rw [handledCell]
      rcases hw : env.blockWrite with - | - | -
      · rfl
      · exact absurd hw hne
      · rfl
    rw [hcell]
    by_cases hfails : env.blockWrite = .firstFails
    · refine iff_of_true ⟨_, by rw [handledCell, hfails], fun rule hrule ↦ ?_⟩ (Or.inl hfails)
      rw [Option.mem_def.1 hrule]
      refine ⟨rfl, hitsCounted_of_value fun c hc ↦ ?_⟩
      rw [hcell, handledCell, hfails, Option.mem_def.1 hrule] at hc
      obtain rfl := Option.some.inj hc
      rfl
    · rw [hover hfails]
      constructor
      · rintro ⟨v, hv, hrule⟩
        obtain ⟨rfl, hdeadline⟩ := TtlCell.mk.inj (Option.some.inj hv)
        refine Or.inr ⟨?_, ?_⟩
        · rcases hr : (createEscalationRule cf env req.ipAddress w).1 with - | rule
          · rw [← hsome, hr]
            rfl
          · cases (hrule rule hr).1
        · have httl : (300 : ℚ) = cf.escalationBlockTtl :=
            add_left_cancel (Option.some.inj hdeadline)
          exact_mod_cast httl.symm
      · rintro (hfails' | ⟨hrule, httl⟩)
        · exact absurd hfails' hfails
        · refine ⟨.sentinel, by rw [httl]; rfl, fun rule hr ↦ ?_⟩
          rw [Option.mem_def.1 hr, hrule] at hsome
          cases hsome

/-- An address at the threshold: the rule of `challengeRule` has challenged it twice. -/
def atThreshold : World := afterRequests (World.start ⟨[challengeRule], []⟩) [0, 10]

/-- The third request escalates; with the middleware's write failing, the gate's entry stays. -/
theorem escalation_entry_of_failed_write :
    EscalationEntrySurvives twoChallenges { Env.plain 20 with blockWrite := .firstFails }
      headlessRequest atThreshold :=
  (escalation_entry_iff (by decide +kernel)).2 (Or.inl rfl)

/-- **An escalation's entry is overwritten in the request that made it.** The entry should name the
new rule until 3620; it names no rule, and ends at 320. -/
theorem escalation_entry_overwritten :
    (WafMiddleware.call twoChallenges (Env.plain 20) headlessRequest atThreshold).1.blockSite =
      some .escalation ∧
    (createEscalationRule twoChallenges (Env.plain 20) "192.0.2.1" atThreshold).1.isSome ∧
    (WafMiddleware.call twoChallenges (Env.plain 20) headlessRequest
      atThreshold).2.redis.blocked.cell "192.0.2.1" = some ⟨.sentinel, some 320⟩ ∧
    ¬EscalationEntrySurvives twoChallenges (Env.plain 20) headlessRequest atThreshold := by
  have hcell : (WafMiddleware.call twoChallenges (Env.plain 20) headlessRequest
      atThreshold).2.redis.blocked.cell "192.0.2.1" = some ⟨.sentinel, some 320⟩ := by
    decide +kernel
  refine ⟨by decide +kernel, by decide +kernel, hcell, fun ⟨v, hv, _⟩ ↦ ?_⟩
  have hdeadline := (TtlCell.mk.inj (Option.some.inj (hcell.symm.trans hv))).2
  exact absurd (Option.some.inj hdeadline) (by decide +kernel)

/-! ### The block behind an entry -/

/-- How long a block from a return statement is meant to stand. -/
def Site.blockTtl (cf : Conf) : Site → ℚ
  | .escalation => cf.escalationBlockTtl
  | _ => 300

/-- Evaluation proper, and not the fast path. -/
def Site.IsProper (site : Site) : Prop := site = .blockRule ∨ site = .score ∨ site = .escalation

instance (site : Site) : Decidable site.IsProper := inferInstanceAs (Decidable (_ ∨ _))

/-- The last block of an address by evaluation proper. -/
structure Standing where
  since : ℚ
  site : Site
  /-- When the last write of the entry runs out. -/
  entryUntil : ℚ
  deriving DecidableEq

/-- When an entry that runs out at an instant does so after the write of `_handle_verdict`. -/
def Env.rewritten (env : Env) (t : ℚ) : ℚ :=
  match env.blockWrite with
  | .firstFails => t
  | .done | .secondFails => env.now + 300

/-- When the entry runs out that evaluation itself leaves at a block: only the gate writes one. -/
def Site.writtenUntil (cf : Conf) (now : ℚ) : Site → ℚ
  | .escalation => now + cf.escalationBlockTtl
  | _ => now

/-- The last block after one more event. -/
def Event.stand (cf : Conf) (o : Option Standing) : Event → Option Standing
  | .request env _ h =>
    match h.blockSite with
    | none => o
    | some .blockedIp => o.map fun st ↦ { st with entryUntil := env.rewritten st.entryUntil }
    | some site => some ⟨env.now, site, env.rewritten (site.writtenUntil cf env.now)⟩
  | .verify _ _ _ | .other => o

/-- The instants of the requests of a history. -/
def requestTimes (es : List Event) : List ℚ :=
  es.filterMap fun e ↦ match e with
    | .request env _ _ => some env.now
    | .verify _ _ _ | .other => none

/-- A step, together with the block that stands behind the entry. -/
def StandingStep (cf : Conf) (ip : String) (s : World × Option Standing) (e : Event)
    (s' : World × Option Standing) : Prop :=
  ClientStep cf ip s.1 e s'.1 ∧ s'.2 = e.stand cf s.2

/-- **No request comes late**, that is, between the end of the last block's own lifetime and the end
of its entry's. -/
def NoLateRequest (cf : Conf) (s : World × Option Standing) (e : Event) : Prop :=
  ∀ env req h, e = .request env req h → ∀ st ∈ s.2,
    st.since + st.site.blockTtl cf < env.now → st.entryUntil ≤ env.now

/-- What ties an entry to the history: the last block is a request of it, and the entry lives no
longer than its last write. -/
structure Backed (cf : Conf) (ip : String) (es : List Event) (s : World × Option Standing) :
    Prop where
  block : ∀ st ∈ s.2, st.site.IsProper ∧
    ∃ env req h, Event.request env req h ∈ es ∧ env.now = st.since ∧ h.blockSite = some st.site
  entry : ∀ c ∈ s.1.redis.blocked.cell ip, ∃ st ∈ s.2, ∃ d, c.deadline = some d ∧ d ≤ st.entryUntil

theorem backed_nil {w₀ : World} (h : w₀.redis.blocked.cell ip = none) :
    Backed cf ip [] (w₀, none) where
  block := nofun
  entry c hc := by
    rw [show (w₀, (none : Option Standing)).1.redis.blocked.cell ip = none from h] at hc
    cases hc

/-- A step that blocks nothing and leaves the entry. -/
theorem Backed.skip {es : List Event} {w w' : World} {o : Option Standing} (e : Event)
    (h : Backed cf ip es (w, o))
    (hcell : w'.redis.blocked.cell ip = w.redis.blocked.cell ip) :
    Backed cf ip (es ++ [e]) (w', o) where
  block st hst := by
    obtain ⟨hproper, env, req, h', hmem, hrest⟩ := h.block st hst
    exact ⟨hproper, env, req, h', List.mem_append_left _ hmem, hrest⟩
  entry c hc := h.entry c (by rwa [hcell] at hc)

/-- The write of `_handle_verdict` leaves a cell that runs out when `Env.rewritten` says. -/
theorem handledCell_deadline {env : Env} {id : Option Uuid} {o : Option (TtlCell ℚ BlockedValue)}
    {t : ℚ} (ho : ∀ c ∈ o, ∃ d, c.deadline = some d ∧ d ≤ t) :
    ∀ c ∈ handledCell env id o, ∃ d, c.deadline = some d ∧ d ≤ env.rewritten t := by
  rw [handledCell, Env.rewritten]
  rcases env.blockWrite with - | - | -
  · intro c hc
    obtain rfl := Option.some.inj hc
    exact ⟨_, rfl, le_rfl⟩
  · exact ho
  · intro c hc
    obtain rfl := Option.some.inj hc
    exact ⟨_, rfl, le_rfl⟩

/-- What is left of an entry that is not live has run out. -/
theorem Backed.dead {es : List Event} {w : World} {o : Option Standing} {now : ℚ}
    (h : Backed cf ip es (w, o)) (hnone : w.redis.blocked.get now ip = none) :
    ∀ c ∈ w.redis.blocked.cell ip, ∃ d, c.deadline = some d ∧ d ≤ now := by
  intro c hc
  obtain ⟨-, -, d, hd, -⟩ := h.entry c hc
  refine ⟨d, hd, not_lt.1 fun hlt ↦ ?_⟩
  have hlive : c.Live now := by
    intro d' hd'
    obtain rfl := Option.some.inj (hd.symm.trans hd')
    exact hlt
  exact absurd (hnone.symm.trans (KeySpace.get_eq_some_iff.2 ⟨c, hc, hlive, rfl⟩)) nofun

/-- A block by evaluation proper. -/
theorem Backed.renew {es : List Event} {w' : World} {env : Env} {req : Request} {handled : Handled}
    {site : Site} {t : ℚ} (hsite : handled.blockSite = some site) (hproper : site.IsProper)
    (hcell : ∀ c ∈ w'.redis.blocked.cell ip, ∃ d, c.deadline = some d ∧ d ≤ t) :
    Backed cf ip (es ++ [.request env req handled]) (w', some ⟨env.now, site, t⟩) where
  block st hst := by
    obtain rfl := Option.some.inj hst
    exact ⟨hproper, env, req, handled, by simp, rfl, hsite⟩
  entry c hc := ⟨_, rfl, hcell c hc⟩

/-- A hit, which writes the entry again. -/
theorem Backed.hit {es : List Event} {w w' : World} {o : Option Standing} {env : Env}
    {req : Request} {handled : Handled} {id : Option Uuid} (h : Backed cf ip es (w, o))
    (hlive : (w.redis.blocked.cell ip).isSome)
    (hcell : w'.redis.blocked.cell ip = handledCell env id (w.redis.blocked.cell ip)) :
    Backed cf ip (es ++ [.request env req handled])
      (w', o.map fun st ↦ { st with entryUntil := env.rewritten st.entryUntil }) where
  block st hst := by
    obtain ⟨st₀, hst₀, rfl⟩ := Option.map_eq_some_iff.1 hst
    obtain ⟨hproper, env, req, h', hmem, hrest⟩ := h.block st₀ hst₀
    exact ⟨hproper, env, req, h', List.mem_append_left _ hmem, hrest⟩
  entry c hc := by
    obtain ⟨c₀, hc₀⟩ := Option.isSome_iff_exists.1 hlive
    obtain ⟨st, hst, d, hd, hle⟩ := h.entry c₀ hc₀
    refine ⟨_, Option.map_eq_some_iff.2 ⟨st, hst, rfl⟩, ?_⟩
    refine handledCell_deadline (fun c' hc' ↦ ?_) c (hcell ▸ hc)
    obtain rfl := Option.some.inj (hc₀.symm.trans hc')
    exact ⟨d, hd, hle⟩

/-- **Every step keeps entries backed.** -/
theorem backed_step {es : List Event} {s s' : World × Option Standing} {e : Event}
    (h : Backed cf ip es s) (hstep : StandingStep cf ip s e s') : Backed cf ip (es ++ [e]) s' := by
  rcases s with ⟨w, o⟩
  rcases s' with ⟨w', o'⟩
  obtain ⟨hstep, hstand⟩ := hstep
  replace hstand : o' = e.stand cf o := hstand
  replace hstep : ClientStep cf ip w e w' := hstep
  subst hstand
  cases hstep with
  | @request env req hip =>
    subst hip
    rcases entry_request cf env req w with ⟨hsite, hcell⟩ | @⟨v, hsite, hget, -, hcell⟩ |
      @⟨site, id, hsite, hproper, hnone, hcell⟩ | ⟨hsite, hnone, hcell⟩
    · simp only [Event.stand, hsite]
      exact h.skip _ hcell
    · simp only [Event.stand, hsite]
      obtain ⟨c, hc, -, -⟩ := KeySpace.get_eq_some_iff.1 hget
      exact h.hit (by rw [hc]; rfl) hcell
    · -- what is left of an earlier entry has run out; the write makes a new one, or fails
      have hstand : Event.stand cf o (.request env req (WafMiddleware.call cf env req w).1) =
          some ⟨env.now, site, env.rewritten env.now⟩ := by
        rcases hproper with rfl | rfl <;> simp only [Event.stand, hsite, Site.writtenUntil]
      rw [hstand]
      refine .renew hsite (hproper.imp_right Or.inl) ?_
      rw [hcell]
      exact handledCell_deadline (h.dead hnone)
    · simp only [Event.stand, hsite]
      refine .renew hsite (Or.inr (Or.inr rfl)) ?_
      rw [hcell]
      refine handledCell_deadline fun c hc ↦ ?_
      obtain rfl := Option.some.inj hc
      exact ⟨_, rfl, le_rfl⟩
  | @verify env m solves =>
    exact h.skip _ (by rw [(counter_verify cf env ip m solves w).1])
  | other hsame => exact h.skip _ hsame.blocked

/-- **Every fast-path block is backed by a recent proper one**, in every run in which no request
comes late. -/
theorem fastPath_backed {w₀ : World} {s : World × Option Standing} {es : List Event}
    (hrun : Run (fun s e s' ↦ StandingStep cf ip s e s' ∧ NoLateRequest cf s e) (w₀, none) es s)
    (hstart : w₀.redis.blocked.cell ip = none) (hclock : (requestTimes es).Pairwise (· ≤ ·))
    {pre post : List Event} {env : Env} {req : Request} {h : Handled}
    (hes : es = pre ++ .request env req h :: post) (hhit : h.blockSite = some .blockedIp) :
    ∃ env' req' h' site, Event.request env' req' h' ∈ pre ∧ h'.blockSite = some site ∧
      site.IsProper ∧ env'.now ≤ env.now ∧ env.now ≤ env'.now + site.blockTtl cf := by
  subst hes
  obtain ⟨⟨w, o⟩, ⟨w', o'⟩, hpre, ⟨hstep, -⟩, hlate⟩ := hrun.at_label
  have hbacked : Backed cf ip pre (w, o) :=
    Run.invariant (backed_nil hstart) (fun _ h hstep ↦ backed_step h hstep.1) hpre
  replace hstep : ClientStep cf ip w (.request env req h) w' := hstep
  cases hstep with
  | request hip =>
    subst hip
    rcases entry_request cf env req w with ⟨hsite, -⟩ | @⟨v, hsite, hget, -, -⟩ |
      @⟨site, id, hsite, hproper, -, -⟩ | ⟨hsite, -, -⟩
    · cases hsite.symm.trans hhit
    · obtain ⟨c, hc, hlive, -⟩ := KeySpace.get_eq_some_iff.1 hget
      obtain ⟨st, hst, d, hd, huntil⟩ := hbacked.entry c hc
      obtain ⟨hproper, env', req', h', hmem, hsince, hsite'⟩ := hbacked.block st hst
      refine ⟨env', req', h', st.site, hmem, hsite', hproper, ?_, ?_⟩
      · -- the clock does not go back
        rw [requestTimes, List.filterMap_append] at hclock
        refine (List.pairwise_append.1 hclock).2.2 _ ?_ _ (by simp)
        exact List.mem_filterMap.2 ⟨_, hmem, rfl⟩
      · rw [hsince]
        refine not_lt.1 fun hover ↦ ?_
        have hle := hlate env req _ rfl st hst hover
        exact absurd (hlive d hd) (not_lt.2 (huntil.trans hle))
    · rcases hproper with rfl | rfl <;> cases hsite.symm.trans hhit
    · cases hsite.symm.trans hhit

/-! #### Two runs

A rule blocks one address; the second run deletes it after the first request. -/

theorem StandingStep.request (cf : Conf) (env : Env) (req : Request) (w : World)
    (o : Option Standing) :
    StandingStep cf req.ipAddress (w, o) (.request env req (WafMiddleware.call cf env req w).1)
      ((WafMiddleware.call cf env req w).2,
        Event.stand cf o (.request env req (WafMiddleware.call cf env req w).1)) :=
  ⟨.request rfl, rfl⟩

/-- Blocks every request of the address. -/
def addressRule : BlockRule := { challengeRule with action := .block }

/-- A request of the plain run. -/
def plainCall (now : ℚ) (w : World) : Handled × World :=
  WafMiddleware.call plainConf (Env.plain now) headlessRequest w

/-- The first request, which the rule blocks. -/
def firstBlock : Handled × World := plainCall 0 (World.start ⟨[addressRule], []⟩)

/-- The rules are deleted, with the signal handler's invalidation. -/
def deleteRules (w : World) : World := invalidateRuleCache plainConf { w with db := ⟨[], []⟩ }

theorem sameClient_deleteRules (w : World) : SameClient ip w (deleteRules w) := by
  obtain ⟨k, hk⟩ := invalidateRuleCache_eq plainConf { w with db := ⟨[], []⟩ }
  rw [deleteRules, hk]
  exact ⟨rfl, rfl, rfl⟩

/-- A hit at 200 is backed by the block at 0. -/
theorem fastPath_backed_at_200 : ∃ env' req' h' site,
    Event.request env' req' h' ∈ [Event.request (Env.plain 0) headlessRequest firstBlock.1] ∧
    h'.blockSite = some site ∧ site.IsProper ∧ env'.now ≤ 200 ∧
    200 ≤ env'.now + site.blockTtl plainConf := by
  have hstand : Event.stand plainConf none (.request (Env.plain 0) headlessRequest firstBlock.1) =
      some ⟨0, .blockRule, 300⟩ := by
    decide +kernel
  have hfirst : NoLateRequest plainConf (World.start ⟨[addressRule], []⟩, none)
      (.request (Env.plain 0) headlessRequest firstBlock.1) :=
    fun _ _ _ _ _ hst ↦ nomatch hst
  have hsecond : NoLateRequest plainConf
      (firstBlock.2,
        Event.stand plainConf none (.request (Env.plain 0) headlessRequest firstBlock.1))
      (.request (Env.plain 200) headlessRequest (plainCall 200 firstBlock.2).1) := by
    intro env req h he st hst hover
    obtain ⟨rfl, -, -⟩ := Event.request.inj he
    obtain rfl := Option.some.inj (hstand.symm.trans hst)
    exact absurd hover (by decide +kernel)
  exact fastPath_backed (.snoc (.snoc .nil
    ⟨StandingStep.request plainConf (Env.plain 0) headlessRequest _ _, hfirst⟩)
    ⟨StandingStep.request plainConf (Env.plain 200) headlessRequest _ _, hsecond⟩) rfl
    (by decide +kernel) rfl (by decide +kernel)

/-- **A deleted rule keeps blocking.** The address is blocked by the rule at 0, the rule is deleted,
and requests at 200 and 400 are answered by the fast path, the last one 400 seconds after the only
proper block. -/
theorem fastPath_not_backed : ∃ (pre : List Event) (h : Handled) (s : World × Option Standing),
    Run (StandingStep plainConf "192.0.2.1") (World.start ⟨[addressRule], []⟩, none)
      (pre ++ [.request (Env.plain 400) headlessRequest h]) s ∧
    (requestTimes (pre ++ [.request (Env.plain 400) headlessRequest h])).Pairwise (· ≤ ·) ∧
    h.blockSite = some .blockedIp ∧ s.1.db.blockRules = [] ∧
    ∀ env' req' h' site, Event.request env' req' h' ∈ pre → h'.blockSite = some site →
      site.IsProper → env'.now + site.blockTtl plainConf < 400 := by
  refine ⟨_, _, _, .snoc (.snoc (.snoc (.snoc .nil
    (StandingStep.request plainConf (Env.plain 0) headlessRequest _ _))
    (⟨.other (sameClient_deleteRules _), rfl⟩ :
      StandingStep plainConf "192.0.2.1" (firstBlock.2, _) .other (deleteRules firstBlock.2, _)))
    (StandingStep.request plainConf (Env.plain 200) headlessRequest _ _))
    (StandingStep.request plainConf (Env.plain 400) headlessRequest _ _), ?_, ?_, ?_, ?_⟩
  · decide +kernel
  · decide +kernel
  · decide +kernel
  · intro env' req' h' site hmem hsite hproper
    refine forall_request (P := fun env _ h ↦ ∀ site ∈ h.blockSite, site.IsProper →
      env.now + site.blockTtl plainConf < 400) ?_ env' req' h' hmem site hsite hproper
    decide +kernel

end DjangoWaf
