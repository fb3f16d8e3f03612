import DjangoWaf.Lib.Run
import DjangoWaf.Middleware
import DjangoWaf.Services.AnomalyDetector

/-!
# Two-stage promotion of a subnet

`detect_unsolved_challenges` never blocks a subnet at its first crossing: it writes a `CHALLENGE`
rule, and promotes to `BLOCK` only when it meets its own rule again. What it can see of its past is
the row: an active auto `CHALLENGE` rule of the subnet with its name among the `detectors`.

A **promotion state** keeps beside the table what really happened: `prior` is the rule this detector
itself wrote as `CHALLENGE`, for as long as it has been active and unexpired ever since. The row
tells less than that. A name never leaves it, so a rule that ran out comes back to life when a
sibling detector refreshes it; it is looked up by `is_active`, which is still set on an expired rule
until the sweep passes; and a rule that an operator confirms is no auto rule any more.

`stage_correct_of_leavesEpisodes`: over every run in which none of the three happens, each crossing
writes `BLOCK` exactly when `prior` stands, and `CHALLENGE` otherwise.
-/

namespace DjangoWaf

variable (cf : Conf) (subnet : String)

/-! ### Events -/

/-- What happens to the rules of subnets. -/
inductive PromotionEvent
  /-- The subnet half of `detect_unsolved_challenges` reaches a subnet that crosses. -/
  | crossing (expiry : ℚ) (s : SubnetAggregate)
  /-- Any other write of a detector. -/
  | write (a : AutoRuleWrite)
  | expireRules
  | confirm (id : Uuid)
  | reject (id : Uuid)

/-- The world after an event. -/
def PromotionEvent.apply (env : Env) (w : World) : PromotionEvent → World
  | .crossing expiry s => crossSubnet cf env expiry s w
  | .write a => RuleOp.apply cf env w (.autoRule a)
  | .expireRules => RuleOp.apply cf env w .expireRules
  | .confirm id => RuleOp.apply cf env w (.signalled (.confirm id))
  | .reject id => RuleOp.apply cf env w (.signalled (.reject id))

/-- **A run of the subnet half is its crossings**, one after another. -/
theorem detectUnsolvedChallengesBySubnet_eq (uc : UnsolvedSubnetConf) (envs : ℕ → Env)
    (rows : List ChallengedRow) (solvedIps : List String) (expiry : ℚ) (w : World) :
    detectUnsolvedChallengesBySubnet cf uc envs rows solvedIps expiry w =
      ((crossings uc rows solvedIps).zipIdx.map fun s ↦
        (envs s.2, PromotionEvent.crossing expiry s.1)).foldl (fun w e ↦ e.2.apply cf e.1 w) w := by
  rw [List.foldl_map]
  rfl

/-- The detectors there are have names without commas, and only the subnet half of
`detect_unsolved_challenges` writes subnet rules under its name. -/
def PromotionEvent.IsSibling : PromotionEvent → Prop
  | .write a => ',' ∉ a.detectorName.toList ∧
    (a.detectorName = detectUnsolvedChallengesName → a.ruleType ≠ .cidr)
  | .crossing _ _ | .expireRules | .confirm _ | .reject _ => True

/-! ### What really happened -/

/-- A world, the instant of the last event, and the `CHALLENGE` rule of the subnet that
`detect_unsolved_challenges` itself wrote and that has been active and unexpired ever since. -/
structure PromotionState where
  world : World
  clock : ℚ
  prior : Option Uuid

/-- The rule of a primary key is active and unexpired. -/
def World.enforces (w : World) (id : Uuid) (now : ℚ) : Bool :=
  w.db.blockRules.any fun r ↦ r.id = id && r.active now

/-- The rule that an event writes as this detector's `CHALLENGE` rule of the subnet. -/
def PromotionEvent.wrote (env : Env) (w : World) : PromotionEvent → Option Uuid
  | .crossing expiry s =>
    if s.subnet = subnet ∧ (s.write expiry w.db).action = .challenge then
      some (getOrCreateAutoRule cf env (s.write expiry w.db) w).1.id
    else none
  | .write _ | .expireRules | .confirm _ | .reject _ => none

/-- The state after an event: a rule stays `prior` while it is enforced before the event and after
it. -/
def PromotionState.after (s : PromotionState) (e : Env × PromotionEvent) : PromotionState where
  world := e.2.apply cf e.1 s.world
  clock := e.1.now
  prior := ((e.2.wrote cf subnet e.1 s.world).or
    (s.prior.filter fun id ↦ s.world.enforces id e.1.now)).filter fun id ↦
      (e.2.apply cf e.1 s.world).enforces id e.1.now

/-- One event. The clock does not run backwards, and the primary key of a new row is new. -/
def PromotionStep (s : PromotionState) (e : Env × PromotionEvent) (s' : PromotionState) : Prop :=
  s.clock ≤ e.1.now ∧ (∀ r ∈ s.world.db.blockRules, r.id ≠ e.1.freshId) ∧ e.2.IsSibling ∧
    s' = s.after cf subnet e

/-- **The stage of a crossing is right**: it is `BLOCK` when this detector wrote the `CHALLENGE`
rule at an earlier crossing and the rule has been enforced ever since, and `CHALLENGE` otherwise. -/
def StageCorrect (s : PromotionState) (e : Env × PromotionEvent) : Prop :=
  ∀ expiry c, e.2 = .crossing expiry c → c.subnet = subnet →
    ((c.write expiry s.world.db).action = .block ↔
      ∃ id ∈ s.prior, s.world.enforces id e.1.now = true) ∧
    ((c.write expiry s.world.db).action = .challenge ↔
      ¬∃ id ∈ s.prior, s.world.enforces id e.1.now = true)

/-! ### Rows that name the detector -/

/-- The key of the subnet's auto `CHALLENGE` rule. -/
def challengeKey : AutoKey := ⟨.cidr, subnet, .challenge⟩

/-- The subnet's auto `CHALLENGE` rule, with this detector among those that wrote it. -/
def OwnChallenge (r : BlockRule) : Prop :=
  (challengeKey subnet).holds r = true ∧
    detectUnsolvedChallengesName ∈ detectorNames r.detectors

/-- **The event leaves the episodes of the subnet apart.** A crossing does not find the rule expired
and still set active; no other write makes enforced a rule that is inactive or expired; and no
operator confirms a rule that is active and unexpired. -/
def LeavesEpisodes (w : World) (e : Env × PromotionEvent) : Prop :=
  ∀ r ∈ w.db.blockRules, OwnChallenge subnet r →
    match e.2 with
    | .crossing _ c => c.subnet = subnet → r.isActive = true → isExpired r.expiresAt e.1.now = false
    | .write a => a.finds r = true → r.active e.1.now = false → (a.refresh cf r).isActive = false
    | .confirm id => r.id = id → r.active e.1.now = false
    | .expireRules | .reject _ => True

instance : DecidablePred (OwnChallenge subnet) := fun r ↦
  inferInstanceAs (Decidable ((challengeKey subnet).holds r = true ∧
    detectUnsolvedChallengesName ∈ detectorNames r.detectors))

instance (w : World) : DecidablePred (LeavesEpisodes cf subnet w)
  | (env, .crossing _ c) => inferInstanceAs (Decidable (∀ r ∈ w.db.blockRules,
      OwnChallenge subnet r → c.subnet = subnet → r.isActive = true →
        isExpired r.expiresAt env.now = false))
  | (env, .write a) => inferInstanceAs (Decidable (∀ r ∈ w.db.blockRules, OwnChallenge subnet r →
      a.finds r = true → r.active env.now = false → (a.refresh cf r).isActive = false))
  | (env, .confirm id) => inferInstanceAs (Decidable (∀ r ∈ w.db.blockRules,
      OwnChallenge subnet r → r.id = id → r.active env.now = false))
  | (_, .expireRules) | (_, .reject _) => inferInstanceAs (Decidable (∀ r ∈ w.db.blockRules,
      OwnChallenge subnet r → True))

variable {cf subnet}

/-- A rewritten row is this detector's rule when it was, or when the detector has just written it.
-/
theorem ownChallenge_rewrite {a : AutoRuleWrite} (hcomma : ',' ∉ a.detectorName.toList)
    {r : BlockRule} :
    OwnChallenge subnet (a.rewrite cf r) ↔ OwnChallenge subnet r ∨
      (challengeKey subnet).holds r = true ∧ a.finds r = true ∧
        a.detectorName = detectUnsolvedChallengesName := by
  rw [OwnChallenge, OwnChallenge, (a.rewrite_key cf r).2]
  by_cases hfinds : a.finds r = true
  · have hmerge : detectUnsolvedChallengesName ∈ detectorNames (a.rewrite cf r).detectors ↔
        detectUnsolvedChallengesName ∈ detectorNames r.detectors ∨
          detectUnsolvedChallengesName = a.detectorName := by
      rw [AutoRuleWrite.rewrite, if_pos hfinds]
      exact mem_detectorNames_merge (by decide) hcomma
    rw [hmerge, and_or_left]
    refine or_congr_right ⟨fun h ↦ ⟨h.1, hfinds, h.2.symm⟩, fun h ↦ ⟨h.1, h.2.2.symm⟩⟩
  · rw [AutoRuleWrite.rewrite, if_neg hfinds]
    exact ⟨Or.inl, fun h ↦ h.resolve_right fun h' ↦ hfinds h'.2.1⟩

/-- A new row is this detector's rule when the detector has written it. -/
theorem ownChallenge_create {a : AutoRuleWrite} (hcomma : ',' ∉ a.detectorName.toList) {id : Uuid}
    {now : ℚ} :
    OwnChallenge subnet (a.create cf id now) ↔
      a.key = challengeKey subnet ∧ a.detectorName = detectUnsolvedChallengesName := by
  have hkey : (challengeKey subnet).holds (a.create cf id now) = true ↔
      a.key = challengeKey subnet := by
    rw [AutoKey.holds_iff]
    exact ⟨fun h ↦ h.2, fun h ↦ ⟨rfl, h⟩⟩
  have hmerge : detectUnsolvedChallengesName ∈ detectorNames (a.create cf id now).detectors ↔
      detectUnsolvedChallengesName ∈ detectorNames "" ∨
        detectUnsolvedChallengesName = a.detectorName :=
    mem_detectorNames_merge (by decide) hcomma
  have hnone : detectUnsolvedChallengesName ∉ detectorNames "" := by decide
  rw [OwnChallenge, hkey, hmerge, or_iff_right hnone, eq_comm (a := a.detectorName)]

/-! ### What an event does to an episode -/

/-- What an event may do to the rules of this detector: one that is enforced stays this detector's,
and one that is enforced afterwards was so before, or is the one it wrote. -/
structure EpisodeStep (subnet : String) (now : ℚ) (w w' : World) (wrote : Option Uuid) : Prop where
  constrained : w'.db.Constrained
  kept : ∀ r ∈ w.db.blockRules, OwnChallenge subnet r → r.active now = true →
    ∀ r' ∈ w'.db.blockRules, r'.id = r.id → OwnChallenge subnet r'
  grounded : ∀ r' ∈ w'.db.blockRules, OwnChallenge subnet r' → r'.active now = true →
    wrote = some r'.id ∨ wrote = none ∧
      ∃ r ∈ w.db.blockRules, r.id = r'.id ∧ OwnChallenge subnet r ∧ r.active now = true
  written : ∀ id ∈ wrote, ∀ r' ∈ w'.db.blockRules, r'.id = id → OwnChallenge subnet r'

variable {now : ℚ} {w w' : World}

/-- Rows rewritten in place. -/
theorem EpisodeStep.map (h : w.db.Constrained) {f : BlockRule → BlockRule}
    (hrules : w'.db.blockRules = w.db.blockRules.map f)
    (hid : ∀ r ∈ w.db.blockRules, (f r).id = r.id)
    (hkey : ∀ r ∈ w.db.blockRules, ∀ k : AutoKey, k.holds (f r) = true → k.holds r = true)
    (hkept : ∀ r ∈ w.db.blockRules, OwnChallenge subnet r → r.active now = true →
      OwnChallenge subnet (f r))
    (hgrounded : ∀ r ∈ w.db.blockRules, OwnChallenge subnet (f r) → (f r).active now = true →
      OwnChallenge subnet r ∧ r.active now = true) : EpisodeStep subnet now w w' none where
  constrained := h.map hid hkey hrules
  kept := by
    rw [hrules]
    intro r hr hown hactive r' hr' hsame
    obtain ⟨s, hs, rfl⟩ := List.mem_map.1 hr'
    rw [hid s hs] at hsame
    obtain rfl := h.primary s hs r hr hsame
    exact hkept s hs hown hactive
  grounded := by
    rw [hrules]
    intro r' hr' hown hactive
    obtain ⟨r, hr, rfl⟩ := List.mem_map.1 hr'
    obtain ⟨hown', hactive'⟩ := hgrounded r hr hown hactive
    exact Or.inr ⟨rfl, r, hr, (hid r hr).symm, hown', hactive'⟩
  written := fun _ h ↦ nomatch h

/-- The sweep deactivates, and renews nothing. -/
theorem episodeStep_expireRules (h : w.db.Constrained) {env : Env} :
    EpisodeStep subnet env.now w (RuleOp.expireRules.apply cf env w) none := by
  have hrules : (RuleOp.expireRules.apply cf env w).db.blockRules = w.db.blockRules.map
      ((fun r ↦ if r.source = .auto && r.reviewStatus = .pending && isExpired r.expiresAt env.now
        then { r with reviewStatus := .expiredUnreviewed } else r) ∘
        fun r ↦ if r.expired env.now then { r with isActive := false } else r) := by
    rw [db_apply_expireRules, ← List.map_map]
    rfl
  refine EpisodeStep.map h hrules (fun r _ ↦ ?_) (fun r _ k hk ↦ ?_) (fun r _ hown _ ↦ ?_)
    fun r _ hown hactive ↦ ?_
  · rw [Function.comp_apply]
    split <;> split <;> rfl
  · rw [Function.comp_apply] at hk
    split at hk <;> split at hk <;> exact hk
  · rw [Function.comp_apply]
    split <;> split <;> exact hown
  · rw [Function.comp_apply] at hown hactive
    split at hown <;> split at hown <;> simp_all [BlockRule.active, OwnChallenge]

/-- A rejection deactivates. -/
theorem episodeStep_reject (h : w.db.Constrained) {env : Env} (id : Uuid) :
    EpisodeStep subnet env.now w (RuleOp.apply cf env w (.signalled (.reject id))) none := by
  refine EpisodeStep.map h (h.blockRules_reject cf env id) (fun r _ ↦ ?_) (fun r _ k hk ↦ ?_)
    (fun r _ hown _ ↦ ?_) fun r _ hown hactive ↦ ?_
  · split <;> rfl
  · split at hk <;> exact hk
  · split <;> exact hown
  · split at hactive
    · cases hactive
    · rename_i hne
      rw [if_neg hne] at hown
      exact ⟨hown, hactive⟩

/-- A confirmation takes a rule away from the detector: not one that is enforced. -/
theorem episodeStep_confirm (h : w.db.Constrained) {env : Env} {id : Uuid}
    (hid : ∀ r ∈ w.db.blockRules, OwnChallenge subnet r → r.id = id → r.active env.now = false) :
    EpisodeStep subnet env.now w (RuleOp.apply cf env w (.signalled (.confirm id))) none := by
  have hadmin : ∀ (k : AutoKey) (r : BlockRule), k.holds (r.confirmed env.now) = false :=
    fun k r ↦ AutoKey.holds_of_source r.confirmed_source
  refine EpisodeStep.map h (h.blockRules_confirm cf env id) (fun r _ ↦ ?_) (fun r _ k hk ↦ ?_)
    (fun r hr hown hactive ↦ ?_) fun r _ hown hactive ↦ ?_
  · split <;> rfl
  · split at hk
    · rw [hadmin] at hk
      cases hk
    · exact hk
  · rw [if_neg fun hsame ↦ ?_]
    · exact hown
    · rw [hid r hr hown hsame] at hactive
      cases hactive
  · split at hown
    · have := hown.1
      rw [hadmin] at this
      cases this
    · rename_i hne
      rw [if_neg hne] at hactive
      exact ⟨hown, hactive⟩

/-- A row the write finds is of the write's key. -/
theorem key_eq_of_finds {a : AutoRuleWrite} {k : AutoKey} {r : BlockRule}
    (hfinds : a.finds r = true) (hk : k.holds r = true) : a.key = k := by
  rw [a.finds_eq] at hfinds
  exact (AutoKey.holds_iff.1 hfinds).2.symm.trans (AutoKey.holds_iff.1 hk).2

variable {env : Env} {a : AutoRuleWrite}

/-- After any write of a detector, this detector's rules are still its own. -/
theorem ownChallenge_kept (h : w.db.Constrained)
    (hfresh : ∀ r ∈ w.db.blockRules, r.id ≠ env.freshId) (hcomma : ',' ∉ a.detectorName.toList)
    {r r' : BlockRule} (hr : r ∈ w.db.blockRules) (hown : OwnChallenge subnet r)
    (hr' : r' ∈ (getOrCreateAutoRule cf env a w).2.db.blockRules) (hid : r'.id = r.id) :
    OwnChallenge subnet r' := by
  rw [h.eq_rewrite hfresh hr hr' hid]
  exact (ownChallenge_rewrite hcomma).2 (Or.inl hown)

/-- **A write of another rule, or by another detector**, that revives none of this detector's
rules. -/
theorem episodeStep_write (h : w.db.Constrained)
    (hfresh : ∀ r ∈ w.db.blockRules, r.id ≠ env.freshId) (hcomma : ',' ∉ a.detectorName.toList)
    (hother : a.key = challengeKey subnet → a.detectorName ≠ detectUnsolvedChallengesName)
    (hrevives : ∀ r ∈ w.db.blockRules, OwnChallenge subnet r → a.finds r = true →
      r.active env.now = false → (a.refresh cf r).isActive = false) :
    EpisodeStep subnet env.now w (getOrCreateAutoRule cf env a w).2 none where
  constrained := h.getOrCreateAutoRule hfresh
  kept := fun _ hr hown _ _ hr' hid ↦ ownChallenge_kept h hfresh hcomma hr hown hr' hid
  grounded := by
    intro r' hr' hown hactive
    refine Or.inr ⟨rfl, ?_⟩
    rcases h.mem_getOrCreateAutoRule.1 hr' with ⟨r, hr, rfl⟩ | ⟨-, rfl⟩
    · rcases (ownChallenge_rewrite hcomma).1 hown with hown | ⟨hk, hfinds, hname⟩
      · refine ⟨r, hr, (a.rewrite_key cf r).1.symm, hown, ?_⟩
        rw [AutoRuleWrite.rewrite] at hactive
        split at hactive
        · rename_i hfinds
          by_contra hdead
          have hinactive := hrevives r hr hown hfinds (Bool.not_eq_true _ ▸ hdead)
          rw [BlockRule.active, hinactive] at hactive
          cases hactive
        · exact hactive
      · exact absurd hname (hother (key_eq_of_finds hfinds hk))
    · obtain ⟨hkey, hname⟩ := (ownChallenge_create hcomma).1 hown
      exact absurd hname (hother hkey)
  written := fun _ h ↦ nomatch h

/-- **This detector's own `CHALLENGE` write** makes the row of the subnet its own. -/
theorem episodeStep_challenge (h : w.db.Constrained)
    (hfresh : ∀ r ∈ w.db.blockRules, r.id ≠ env.freshId) (hkey : a.key = challengeKey subnet)
    (hname : a.detectorName = detectUnsolvedChallengesName) :
    EpisodeStep subnet env.now w (getOrCreateAutoRule cf env a w).2
      (some (getOrCreateAutoRule cf env a w).1.id) := by
  have hcomma : ',' ∉ a.detectorName.toList := by
    rw [hname]
    decide
  have hconstrained : (getOrCreateAutoRule cf env a w).2.db.Constrained :=
    h.getOrCreateAutoRule hfresh
  have hmem : (getOrCreateAutoRule cf env a w).1 ∈
      (getOrCreateAutoRule cf env a w).2.db.blockRules := h.mem_written.1
  have hholds : (challengeKey subnet).holds (getOrCreateAutoRule cf env a w).1 = true :=
    hkey ▸ h.mem_written.2
  have hown : OwnChallenge subnet (getOrCreateAutoRule cf env a w).1 := by
    rcases h.written with ⟨r, -, hfinds, hrule⟩ | ⟨-, hrule⟩
    · have hk : (challengeKey subnet).holds r = true := hkey ▸ hfinds
      rw [hrule]
      exact (ownChallenge_rewrite hcomma).2 (Or.inr ⟨hk, hfinds, hname⟩)
    · rw [hrule]
      exact (ownChallenge_create hcomma).2 ⟨hkey, hname⟩
  refine ⟨hconstrained, fun _ hr hown _ _ hr' hid ↦
    ownChallenge_kept h hfresh hcomma hr hown hr' hid, fun r' hr' hown' _ ↦ Or.inl ?_,
    fun id hid r' hr' hsame ↦ ?_⟩
  · rw [hconstrained.eq_of_holds hmem hr' hholds hown'.1]
  · have hwritten : (getOrCreateAutoRule cf env a w).1.id = id := Option.some.inj hid
    rw [hconstrained.primary r' hr' _ hmem (hsame.trans hwritten.symm)]
    exact hown

/-- **One event of the system** that leaves the episodes apart. -/
theorem episodeStep_event (h : w.db.Constrained)
    (hfresh : ∀ r ∈ w.db.blockRules, r.id ≠ env.freshId) {e : PromotionEvent}
    (hsibling : e.IsSibling) (hleaves : LeavesEpisodes cf subnet w (env, e)) :
    EpisodeStep subnet env.now w (e.apply cf env w) (e.wrote cf subnet env w) := by
  cases e with
  | crossing expiry c =>
    have hcomma : ',' ∉ (c.write expiry w.db).detectorName.toList := by
      show ',' ∉ detectUnsolvedChallengesName.toList
      decide
    show EpisodeStep subnet env.now w (getOrCreateAutoRule cf env (c.write expiry w.db) w).2 _
    rw [PromotionEvent.wrote]
    split
    · rename_i hown
      refine episodeStep_challenge h hfresh ?_ rfl
      show AutoKey.mk .cidr c.subnet (c.write expiry w.db).action = challengeKey subnet
      rw [hown.1, hown.2]
      rfl
    · -- a crossing of another subnet, or one that blocks, writes a row of another key
      rename_i hother
      have hkey : (c.write expiry w.db).key ≠ challengeKey subnet := fun hkey ↦
        hother ⟨congrArg AutoKey.pattern hkey, congrArg AutoKey.action hkey⟩
      exact episodeStep_write h hfresh hcomma (fun hk ↦ absurd hk hkey) fun r _ hown hfinds _ ↦
        absurd (key_eq_of_finds hfinds hown.1) hkey
  | write a =>
    refine episodeStep_write h hfresh hsibling.1 (fun hkey hname ↦ ?_) hleaves
    exact hsibling.2 hname (congrArg AutoKey.ruleType hkey)
  | expireRules => exact episodeStep_expireRules h
  | confirm id => exact episodeStep_confirm h hleaves
  | reject id => exact episodeStep_reject h id

/-! ### The invariant -/

/-- **The table tells what happened**: `prior` is an active row of this detector, and a row of this
detector that was enforced at the last event is `prior`. -/
structure Tracks (subnet : String) (s : PromotionState) : Prop where
  constrained : s.world.db.Constrained
  standing : ∀ id ∈ s.prior, ∃ r ∈ s.world.db.blockRules, r.id = id ∧ OwnChallenge subnet r ∧
    r.isActive = true
  complete : ∀ r ∈ s.world.db.blockRules, OwnChallenge subnet r → r.active s.clock = true →
    s.prior = some r.id

theorem World.enforces_iff {id : Uuid} :
    w.enforces id now = true ↔ ∃ r ∈ w.db.blockRules, r.id = id ∧ r.active now = true := by
  simp [World.enforces]

/-- A row that is active at an instant was so before, as long as it did not change. -/
theorem BlockRule.active_mono {r : BlockRule} {s t : ℚ} (hst : s ≤ t) (h : r.active t = true) :
    r.active s = true := by
  rw [BlockRule.active, Bool.and_eq_true, Bool.not_eq_true'] at h ⊢
  exact ⟨h.1, isExpired_mono hst h.2⟩

variable {s s' : PromotionState}

/-- **What an event may do keeps the invariant.** -/
theorem Tracks.after (h : Tracks subnet s) {e : Env × PromotionEvent} (hclock : s.clock ≤ e.1.now)
    (hstep : EpisodeStep subnet e.1.now s.world (e.2.apply cf e.1 s.world)
      (e.2.wrote cf subnet e.1 s.world)) : Tracks subnet (s.after cf subnet e) where
  constrained := hstep.constrained
  standing := by
    intro id hid
    obtain ⟨hsource, henforced⟩ := Option.filter_eq_some_iff.1 hid
    obtain ⟨r', hr', hid', hactive'⟩ := World.enforces_iff.1 henforced
    refine ⟨r', hr', hid', ?_, (Bool.and_eq_true _ _ ▸ hactive').1⟩
    rcases Option.or_eq_some_iff.1 hsource with hwrote | ⟨-, hprior⟩
    · exact hstep.written id hwrote r' hr' hid'
    · obtain ⟨hprior, hbefore⟩ := Option.filter_eq_some_iff.1 hprior
      obtain ⟨r, hr, hrid, hown, -⟩ := h.standing id hprior
      obtain ⟨r₂, hr₂, hrid₂, hactive⟩ := World.enforces_iff.1 hbefore
      rw [h.constrained.primary r₂ hr₂ r hr (hrid₂.trans hrid.symm)] at hactive
      exact hstep.kept r hr hown hactive r' hr' (hid'.trans hrid.symm)
  complete := by
    intro r' hr' hown hactive
    refine Option.filter_eq_some_iff.2 ⟨?_, World.enforces_iff.2 ⟨r', hr', rfl, hactive⟩⟩
    rcases hstep.grounded r' hr' hown hactive with hwrote | ⟨hwrote, r, hr, hid, hown', hactive'⟩
    · exact Option.or_eq_some_iff.2 (Or.inl hwrote)
    · have hprior := h.complete r hr hown' (r.active_mono hclock hactive')
      rw [hid] at hprior
      refine Option.or_eq_some_iff.2 (Or.inr ⟨hwrote, Option.filter_eq_some_iff.2 ⟨hprior, ?_⟩⟩)
      exact World.enforces_iff.2 ⟨r, hr, hid, hactive'⟩

/-! ### The stage of a crossing -/

theorem isActiveChallenge_iff {r : BlockRule} : isActiveChallenge subnet r = true ↔
    (challengeKey subnet).holds r = true ∧ r.isActive = true := by
  rw [isActiveChallenge, Bool.and_eq_true]
  rfl

/-- What the existence check of a crossing answers: there is an active row of this detector. -/
theorem alreadyChallenged_iff {db : Db} (h : db.Constrained) : alreadyChallenged subnet db = true ↔
    ∃ r ∈ db.blockRules, OwnChallenge subnet r ∧ r.isActive = true := by
  rw [alreadyChallenged]
  constructor
  · intro hfirst
    split at hfirst
    · rename_i r hr
      have hmem := List.mem_of_find?_eq_some hr
      have hactive := List.find?_some hr
      obtain ⟨hkey, hactive⟩ := isActiveChallenge_iff.1 hactive
      exact ⟨r, hmem, ⟨hkey, List.contains_iff_mem.1 hfirst⟩, hactive⟩
    · cases hfirst
  · rintro ⟨r, hr, ⟨hkey, hname⟩, hactive⟩
    split
    · -- the row found first is the row, since a key names one
      rename_i r' hr'
      have hmem := List.mem_of_find?_eq_some hr'
      have hactive' := List.find?_some hr'
      rw [h.eq_of_holds hmem hr (isActiveChallenge_iff.1 hactive').1 hkey]
      exact List.contains_iff_mem.2 hname
    · rename_i hnone
      exact absurd (isActiveChallenge_iff.2 ⟨hkey, hactive⟩) (List.find?_eq_none.1 hnone r hr)

/-- **The stage of one crossing**, from the invariant. -/
theorem Tracks.stageCorrect (h : Tracks subnet s) {e : Env × PromotionEvent}
    (hclock : s.clock ≤ e.1.now) (hleaves : LeavesEpisodes cf subnet s.world e) :
    StageCorrect subnet s e := by
  rintro expiry c he rfl
  have hstage : alreadyChallenged c.subnet s.world.db = true ↔
      ∃ id ∈ s.prior, s.world.enforces id e.1.now = true := by
    rw [alreadyChallenged_iff h.constrained]
    constructor
    · rintro ⟨r, hr, hown, hactive⟩
      have hunexpired := hleaves r hr hown
      rw [he] at hunexpired
      have hactive' : r.active e.1.now = true := by
        rw [BlockRule.active, hactive, hunexpired rfl hactive]
        rfl
      exact ⟨r.id, h.complete r hr hown (r.active_mono hclock hactive'),
        World.enforces_iff.2 ⟨r, hr, rfl, hactive'⟩⟩
    · rintro ⟨id, hid, -⟩
      obtain ⟨r, hr, -, hown, hactive⟩ := h.standing id hid
      exact ⟨r, hr, hown, hactive⟩
  rw [← hstage]
  show (stageAction c.subnet s.world.db = .block ↔ _) ∧
    (stageAction c.subnet s.world.db = .challenge ↔ _)
  rw [stageAction]
  split
  · rename_i hyes
    exact ⟨iff_of_true rfl hyes, iff_of_false (by decide) fun hno ↦ hno hyes⟩
  · rename_i hno
    exact ⟨iff_of_false (by decide) hno, iff_of_true rfl hno⟩

/-! ### Runs -/

/-- **Two-stage promotion.** From any table in which this detector has written no rule of the
subnet, over every run of crossings, writes of the other detectors, sweeps and reviews, at any
instants: if no event of the run breaks the episodes of the subnet, every crossing writes `BLOCK`
exactly when this detector wrote the `CHALLENGE` rule at an earlier crossing and the rule has been
active and unexpired ever since, and `CHALLENGE` in every other case. -/
theorem stage_correct_of_leavesEpisodes (hdb : w.db.Constrained)
    (hnew : ∀ r ∈ w.db.blockRules, ¬OwnChallenge subnet r) {clock : ℚ}
    {es : List (Env × PromotionEvent)}
    (hrun : Run (fun s e s' ↦ PromotionStep cf subnet s e s' ∧ LeavesEpisodes cf subnet s.world e)
      ⟨w, clock, none⟩ es s) :
    Run (fun s e s' ↦ PromotionStep cf subnet s e s' ∧ StageCorrect subnet s e)
      ⟨w, clock, none⟩ es s := by
  have hinit : Tracks subnet ⟨w, clock, none⟩ :=
    ⟨hdb, fun _ h ↦ (nomatch h), fun r hr hown _ ↦ absurd hown (hnew r hr)⟩
  refine (Run.and_imp hinit (fun h hstep hleaves ↦ ?_) (fun h hstep hleaves ↦ ?_) hrun).2
  · obtain ⟨hclock, hfresh, hsibling, rfl⟩ := hstep
    exact h.after hclock (episodeStep_event h.constrained hfresh hsibling hleaves)
  · exact h.stageCorrect hstep.1 hleaves

/-! #### One subnet, two episodes -/

/-- A subnet with enough unsolved challenges, from four of its addresses. -/
def crowdedSubnet : SubnetAggregate where
  subnet := "192.0.2.0/24"
  total := 40
  ips := ["192.0.2.1", "192.0.2.2", "192.0.2.3", "192.0.2.4"]

/-- The subnet crosses, and its rule is to last an hour. -/
def crossingAt (now : ℚ) (freshId : Uuid) : Env × PromotionEvent :=
  ({ Env.plain now with freshId }, .crossing (now + 3600) crowdedSubnet)

/-- `expire_rules` runs. -/
def sweepAt (now : ℚ) (freshId : Uuid) : Env × PromotionEvent :=
  ({ Env.plain now with freshId }, .expireRules)

/-- The states of a deployment with an empty table. -/
def promotionAfter (es : List (Env × PromotionEvent)) : PromotionState :=
  es.foldl (PromotionState.after plainConf "192.0.2.0/24") ⟨World.start ⟨[], []⟩, 0, none⟩

/-- Two crossings within the hour: the first writes `CHALLENGE`, the second `BLOCK`. -/
theorem stage_correct_two_crossings :
    Run (fun s e s' ↦ PromotionStep plainConf "192.0.2.0/24" s e s' ∧
      StageCorrect "192.0.2.0/24" s e) ⟨World.start ⟨[], []⟩, 0, none⟩
      [crossingAt 0 1, crossingAt 600 2] (promotionAfter [crossingAt 0 1, crossingAt 600 2]) ∧
    ((promotionAfter [crossingAt 0 1, crossingAt 600 2]).world.db.blockRules.map
      BlockRule.action) = [.challenge, .block] := by
  have hempty : (World.start ⟨[], []⟩).db.Constrained :=
    ⟨fun _ h ↦ (List.not_mem_nil h).elim, fun _ ↦ Nat.zero_le 1⟩
  have hfirst : Run (fun s e s' ↦ PromotionStep plainConf "192.0.2.0/24" s e s' ∧
      LeavesEpisodes plainConf "192.0.2.0/24" s.world e) ⟨World.start ⟨[], []⟩, 0, none⟩
      ([] ++ [crossingAt 0 1]) (promotionAfter [crossingAt 0 1]) :=
    .snoc .nil ⟨⟨by decide, by decide, trivial, rfl⟩, by decide⟩
  refine ⟨stage_correct_of_leavesEpisodes hempty (fun _ h ↦ (List.not_mem_nil h).elim) ?_,
    by decide⟩
  show Run _ _ (([] ++ [crossingAt 0 1]) ++ [crossingAt 600 2]) _
  exact .snoc hfirst ⟨⟨by decide, by decide +kernel, trivial, rfl⟩, by decide +kernel⟩

/-- The first crossing, the sweep after the hour, and the subnet's rule refreshed by
`detect_cloud_spray`. -/
def revivedEpisode : List (Env × PromotionEvent) :=
  [crossingAt 0 1, sweepAt 4000 2, ({ Env.plain 4100 with freshId := 3 },
    .write (cloudSprayWrite "192.0.2.0/24" "curl/8.5" 3 90500))]

/-- **A sibling's write carries over the evidence of an episode that has ended.** The rule of the
first crossing runs out and the sweep deactivates it, so nothing stands; `detect_cloud_spray`
refreshes the row, which still names this detector; and the first crossing of the new episode writes
`BLOCK`. -/
theorem revived_rule_blocks :
    Run (PromotionStep plainConf "192.0.2.0/24") ⟨World.start ⟨[], []⟩, 0, none⟩ revivedEpisode
      (promotionAfter revivedEpisode) ∧
    (promotionAfter revivedEpisode).prior = none ∧
    (crowdedSubnet.write 7800 (promotionAfter revivedEpisode).world.db).action = .block ∧
    ¬StageCorrect "192.0.2.0/24" (promotionAfter revivedEpisode) (crossingAt 4200 4) := by
  have hprior : (promotionAfter revivedEpisode).prior = none := by decide +kernel
  have hblock : (crowdedSubnet.write 7800 (promotionAfter revivedEpisode).world.db).action =
      .block := by decide +kernel
  refine ⟨?_, hprior, hblock, fun h ↦ ?_⟩
  · have hfirst : Run (PromotionStep plainConf "192.0.2.0/24") ⟨World.start ⟨[], []⟩, 0, none⟩
        ([] ++ [crossingAt 0 1]) (promotionAfter [crossingAt 0 1]) :=
      .snoc .nil ⟨by decide, by decide, trivial, rfl⟩
    have hswept : Run (PromotionStep plainConf "192.0.2.0/24") ⟨World.start ⟨[], []⟩, 0, none⟩
        (([] ++ [crossingAt 0 1]) ++ [sweepAt 4000 2])
        (promotionAfter [crossingAt 0 1, sweepAt 4000 2]) :=
      .snoc hfirst ⟨by decide, by decide +kernel, trivial, rfl⟩
    exact .snoc hswept ⟨by decide, by decide +kernel, ⟨by decide, by decide⟩, rfl⟩
  · obtain ⟨id, hid, -⟩ := (h _ crowdedSubnet rfl rfl).1.1 (by decide +kernel)
    rw [hprior] at hid
    cases hid

end DjangoWaf
