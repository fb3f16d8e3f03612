import DjangoWaf.Lib.Run
import DjangoWaf.Middleware
import DjangoWaf.Services.AnomalyDetector

/-!
# A confirmed decision is asked for again

The re-detection guard of `_auto_rule_write_defaults` reads the review status of the row a write
**finds**, and a write finds rows of the source `auto` only. `DashboardAnomalyConfirmView` makes the
confirmed row the operator's: its source becomes `admin`. From then on the guard never sees the
decision, and the next write of the key creates a row of its own.

What that row asks for depends on its writer. Under the package-wide quarantine, or by an
observe-only detector, it is `PENDING`: the operator is asked what has been answered.
`not_asked_again_iff` says when that does not happen, over runs of any operations at any settings:
exactly when every write of the key, while the confirmed rule exists, is by a writer whose rules
**enforce** at once or **finds** an auto rule of the key.
-/

namespace DjangoWaf

/-! ### The row a write creates -/

/-- Deduplication keeps a row of its key, when there is one. -/
theorem exists_finds_deduplicate {a : AutoRuleWrite} {rules : List BlockRule} {r : BlockRule}
    (hr : r ∈ rules) (hfinds : a.finds r = true) :
    ∃ keep ∈ a.deduplicate rules, a.finds keep = true := by
  rw [AutoRuleWrite.deduplicate]
  split
  · rename_i keep hkeep
    obtain ⟨hmem, hkept⟩ := List.mem_filter.1 (List.argmax_mem hkeep)
    refine ⟨keep, List.mem_filter.2 ⟨hmem, ?_⟩, hkept⟩
    rw [Bool.or_eq_true]
    exact Or.inr (decide_eq_true rfl)
  · exact ⟨r, hr, hfinds⟩

/-- **The row a write creates**, in any table, duplicates of its key or not: there is one exactly
when the write finds no row. -/
theorem created_iff {cf : Conf} {env : Env} {a : AutoRuleWrite} {w : World} {r' : BlockRule}
    (hfresh : ∀ r ∈ w.db.blockRules, r.id ≠ env.freshId) :
    (r' ∈ (getOrCreateAutoRule cf env a w).2.db.blockRules ∧
        ∀ r ∈ w.db.blockRules, r.id ≠ r'.id) ↔
      (∀ r ∈ w.db.blockRules, a.finds r = false) ∧ r' = a.create cf env.freshId env.now := by
  set rules' := if (w.db.blockRules.filter a.finds).length ≤ 1 then w.db.blockRules
    else a.deduplicate w.db.blockRules with hrules'
  have hsub : ∀ r ∈ rules', r ∈ w.db.blockRules := by
    intro r hr
    rw [hrules'] at hr
    split at hr
    · exact hr
    · exact mem_deduplicate.1 hr
  have hkeeps : ∀ r ∈ w.db.blockRules, a.finds r = true → ∃ s ∈ rules', a.finds s = true := by
    intro r hr hfinds
    rw [hrules']
    split
    · exact ⟨r, hr, hfinds⟩
    · exact exists_finds_deduplicate hr hfinds
  rw [blockRules_getOrCreateAutoRule_eq, ← hrules', AutoRuleWrite.updateOrCreate]
  split
  · -- a row is found, so every row written is one there was
    rename_i s hs
    have hfound : a.finds s = true := List.find?_some hs
    have hmem : s ∈ w.db.blockRules := hsub s (List.mem_of_find?_eq_some hs)
    refine iff_of_false ?_ ?_
    · rintro ⟨hr', hnew⟩
      obtain ⟨r, hr, rfl⟩ := List.mem_map.1 hr'
      exact hnew r (hsub r hr) (a.rewrite_key cf r).1.symm
    · rintro ⟨hnone, -⟩
      rw [hnone s hmem] at hfound
      cases hfound
  · rename_i hnone
    have hnone' : ∀ r ∈ w.db.blockRules, a.finds r = false := by
      intro r hr
      rw [← Bool.not_eq_true]
      intro hfinds
      obtain ⟨s, hs, hfound⟩ := hkeeps r hr hfinds
      exact List.find?_eq_none.1 hnone s hs hfound
    rw [List.mem_append, List.mem_singleton]
    constructor
    · rintro ⟨hr' | rfl, hnew⟩
      · exact absurd rfl (hnew r' (hsub r' hr'))
      · exact ⟨hnone', rfl⟩
    · rintro ⟨-, rfl⟩
      exact ⟨Or.inr rfl, hfresh⟩

/-! ### Runs -/

/-- An operation, with the settings and the surroundings it runs in. -/
structure ConfiguredOp where
  conf : Conf
  env : Env
  op : RuleOp

/-- One operation. The primary key of a row that a write creates is new. -/
def ConfiguredStep (w : World) (e : ConfiguredOp) (w' : World) : Prop :=
  (∀ r ∈ w.db.blockRules, r.id ≠ e.env.freshId) ∧ w' = e.op.apply e.conf e.env w

/-- The confirmed rule of a key exists. -/
def Db.HasConfirmed (db : Db) (k : AutoKey) (id : Uuid) : Prop :=
  ∃ r ∈ db.blockRules, r.id = id ∧ r.autoKey = k ∧ r.reviewStatus = .confirmed

/-- **The decision is not asked for again**: while the confirmed rule exists, a write of a detector
or of the escalation creates no row of its key that is pending review. -/
def NotAskedAgain (k : AutoKey) (id : Uuid) (w : World) (e : ConfiguredOp) (w' : World) : Prop :=
  w.db.HasConfirmed k id → ∀ a, e.op = .autoRule a → ∀ r' ∈ w'.db.blockRules,
    (∀ r ∈ w.db.blockRules, r.id ≠ r'.id) → r'.autoKey = k → r'.reviewStatus ≠ .pending

/-- While the confirmed rule exists, a write of its key is by a writer whose rules enforce at once,
or finds an auto rule of the key. -/
def EnforcesOrFinds (k : AutoKey) (id : Uuid) (w : World) (e : ConfiguredOp) : Prop :=
  w.db.HasConfirmed k id → ∀ a, e.op = .autoRule a → a.key = k →
    isActiveOnCreate e.conf a.detectorName = true ∨ ∃ r ∈ w.db.blockRules, a.finds r = true

variable {k : AutoKey} {id : Uuid}

/-- What a writer's new row asks for. -/
theorem reviewStatus_create_eq_pending {cf : Conf} {a : AutoRuleWrite} {id : Uuid} {now : ℚ} :
    (a.create cf id now).reviewStatus = .pending ↔ isActiveOnCreate cf a.detectorName = false := by
  show (if isActiveOnCreate cf a.detectorName then ReviewStatus.notApplicable else .pending) = _ ↔ _
  rcases isActiveOnCreate cf a.detectorName with - | - <;> simp

/-- **One operation.** -/
theorem notAskedAgain_iff {w w' : World} {e : ConfiguredOp} (hstep : ConfiguredStep w e w') :
    NotAskedAgain k id w e w' ↔ EnforcesOrFinds k id w e := by
  obtain ⟨hfresh, rfl⟩ := hstep
  rcases e with ⟨cf, env, op⟩
  refine forall_congr' fun _ ↦ forall_congr' fun a ↦ forall_congr' ?_
  rintro rfl
  show (∀ r' ∈ (getOrCreateAutoRule cf env a w).2.db.blockRules, _) ↔ _
  constructor
  · intro h hkey
    by_contra hcon
    obtain ⟨hquarantined, hnone⟩ := not_or.1 hcon
    have hfinds : ∀ r ∈ w.db.blockRules, a.finds r = false := fun r hr ↦
      Bool.eq_false_iff.2 fun hfinds ↦ hnone ⟨r, hr, hfinds⟩
    obtain ⟨hmem, hnew⟩ := (created_iff hfresh).2 ⟨hfinds, rfl⟩
    refine h _ hmem hnew hkey (reviewStatus_create_eq_pending.2 ?_)
    exact Bool.eq_false_iff.2 hquarantined
  · intro h r' hr' hnew hkey hpending
    obtain ⟨hnone, rfl⟩ := (created_iff hfresh).1 ⟨hr', hnew⟩
    rcases h hkey with hactive | ⟨r, hr, hfinds⟩
    · rw [reviewStatus_create_eq_pending.1 hpending] at hactive
      cases hactive
    · rw [hnone r hr] at hfinds
      cases hfinds

/-- **When a confirmed decision is not asked for again.** An operator confirms an auto rule of a
constrained table. The confirmed rule is there, and no auto rule of its key is left; and in any run
of operations from then on, each at settings and an instant of its own, no write creates a pending
row of the key while the confirmed rule exists, exactly when each write of the key while it exists
is by a writer whose rules enforce at once or finds an auto rule of the key. -/
theorem not_asked_again_iff {cf : Conf} {env : Env} {w w₁ w' : World} {es : List ConfiguredOp}
    (hdb : w.db.Constrained) {r : BlockRule} (hr : r ∈ w.db.blockRules) (hauto : r.source = .auto)
    (hconfirm : w₁ = (RuleOp.signalled (.confirm r.id)).apply cf env w) :
    w₁.db.HasConfirmed r.autoKey r.id ∧
      (∀ s ∈ w₁.db.blockRules, r.autoKey.holds s = false) ∧
      (Run (fun w e w' ↦ ConfiguredStep w e w' ∧ NotAskedAgain r.autoKey r.id w e w') w₁ es w' ↔
        Run (fun w e w' ↦ ConfiguredStep w e w' ∧ EnforcesOrFinds r.autoKey r.id w e) w₁ es
          w') := by
  have hrules := hdb.blockRules_confirm cf env r.id
  rw [← hconfirm] at hrules
  refine ⟨⟨r.confirmed env.now, ?_, rfl, rfl, rfl⟩, ?_, ?_⟩
  · rw [hrules]
    exact List.mem_map.2 ⟨r, hr, if_pos rfl⟩
  · intro s hs
    rw [hrules] at hs
    obtain ⟨s, hmem, rfl⟩ := List.mem_map.1 hs
    split
    · exact AutoKey.holds_of_source s.confirmed_source
    · rename_i hne
      rw [← Bool.not_eq_true]
      intro hholds
      have hown : r.autoKey.holds r = true := AutoKey.holds_iff.2 ⟨hauto, rfl⟩
      exact hne (congrArg BlockRule.id (hdb.eq_of_holds hmem hr hholds hown))
  · exact Run.and_iff (I := fun _ ↦ True) trivial (fun _ _ ↦ trivial) fun _ hstep ↦
      notAskedAgain_iff hstep

/-! #### One confirmed subnet -/

/-- The default settings with the package-wide quarantine. -/
def quarantining : Conf := { plainConf with quarantineAutoRules := true }

/-- The rule of a subnet that `detect_subnet_burst` left for review. -/
def pendingBurst : BlockRule := (subnetBurstWrite "192.0.2.0/24" 86400).create quarantining 1 0

/-- The operator has confirmed it. -/
def confirmedBurst : World :=
  (RuleOp.signalled (.confirm 1)).apply quarantining (Env.plain 100)
    (World.start ⟨[pendingBurst], []⟩)

/-- `detect_subnet_burst` sees the subnet again. -/
def burstAgain (conf : Conf) (now : ℚ) (freshId : Uuid) : ConfiguredOp where
  conf
  env := { Env.plain now with freshId }
  op := .autoRule (subnetBurstWrite "192.0.2.0/24" (now + 86400))

/-- The world after some operations. -/
def afterOps (w : World) (es : List ConfiguredOp) : World :=
  es.foldl (fun w e ↦ e.op.apply e.conf e.env w) w

theorem constrained_pendingBurst : (World.start ⟨[pendingBurst], []⟩).db.Constrained where
  primary := by decide
  unique k := List.length_filter_le k.holds [pendingBurst]

/-- The subnet is seen again while rules enforce at once, and then under the quarantine: the second
write finds the rule of the first, and the operator is not asked for one that is new. -/
theorem not_asked_again_enforced_first :
    confirmedBurst.db.HasConfirmed pendingBurst.autoKey 1 ∧
      Run (fun w e w' ↦ ConfiguredStep w e w' ∧ NotAskedAgain pendingBurst.autoKey 1 w e w')
        confirmedBurst [burstAgain plainConf 600 2, burstAgain quarantining 1200 3]
        (afterOps confirmedBurst
          [burstAgain plainConf 600 2, burstAgain quarantining 1200 3]) := by
  have hconfirm : confirmedBurst = (RuleOp.signalled (.confirm pendingBurst.id)).apply quarantining
    (Env.plain 100) (World.start ⟨[pendingBurst], []⟩) := rfl
  obtain ⟨hconfirmed, -, hiff⟩ := not_asked_again_iff constrained_pendingBurst (by decide) rfl
    hconfirm
  refine ⟨hconfirmed, hiff.2 ?_⟩
  have hfirst : Run (fun w e w' ↦ ConfiguredStep w e w' ∧
      EnforcesOrFinds pendingBurst.autoKey pendingBurst.id w e) confirmedBurst
      ([] ++ [burstAgain plainConf 600 2])
      (afterOps confirmedBurst [burstAgain plainConf 600 2]) := by
    refine .snoc .nil ⟨⟨by decide, rfl⟩, fun _ a ha _ ↦ Or.inl ?_⟩
    obtain rfl := RuleOp.autoRule.inj ha
    decide
  show Run _ _ (([] ++ [burstAgain plainConf 600 2]) ++ [burstAgain quarantining 1200 3]) _
  refine .snoc hfirst ⟨⟨by decide, rfl⟩, fun _ a ha _ ↦ Or.inr ?_⟩
  obtain rfl := RuleOp.autoRule.inj ha
  decide

/-- **The operator is asked again.** Under the quarantine the operator confirms the rule of a
subnet, and the detector sees the subnet again: a second rule of the same key waits for review
beside the confirmed one. -/
theorem asked_again_under_quarantine :
    let w' := afterOps confirmedBurst [burstAgain quarantining 600 2]
    ConfiguredStep confirmedBurst (burstAgain quarantining 600 2) w' ∧
      (w'.db.blockRules.map fun r ↦ (r.id, r.source, r.isActive, r.reviewStatus)) =
        [(1, .admin, true, .confirmed), (2, .auto, false, .pending)] ∧
      (∀ r ∈ w'.db.blockRules, r.autoKey = pendingBurst.autoKey) ∧
      ¬NotAskedAgain pendingBurst.autoKey 1 confirmedBurst (burstAgain quarantining 600 2) w' := by
  refine ⟨⟨by decide, rfl⟩, by decide, by decide, fun h ↦ ?_⟩
  have hconfirmed : confirmedBurst.db.HasConfirmed pendingBurst.autoKey 1 :=
    ⟨pendingBurst.confirmed 100, by decide, rfl, rfl, rfl⟩
  exact absurd (h hconfirmed _ rfl) (by decide)

end DjangoWaf
