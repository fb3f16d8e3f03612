import DjangoWaf.Lib.Run
import DjangoWaf.Middleware
import DjangoWaf.Services.AnomalyDetector

/-!
# Observe-only detectors

An operator lists a detector in `DJANGO_WAF_ANOMALY_OBSERVE_ONLY_DETECTORS` to see what it would do
before it does anything. What the list decides is the `is_active` and `review_status` of the rows
the detector **writes**, and a write refreshes the row of its key whoever made it. Three detectors
share the rows of a subnet, so an observe-only write meets rows that enforce, and an enforcing write
meets rows that wait for review.

`observe_only_iff` says when a run of detector writes leaves alone what the operator expects it to:
no observe-only write changes whether an existing rule is enforced, and no rule that is pending
review is made active. It is exactly when each write that **finds an undecided row** finds one that
is as enforcing as the writer: an observe-only one finds no enforced row, and an enforcing one finds
no quarantined row.
-/

namespace DjangoWaf

variable (cf : Conf)

/-- A write by an observe-only detector. -/
def AutoRuleWrite.observeOnly (a : AutoRuleWrite) : Bool :=
  cf.observeOnlyDetectors.contains a.detectorName

/-- One write of a detector. The primary key of a row it creates is new. -/
def DetectorStep (w : World) (e : Env × AutoRuleWrite) (w' : World) : Prop :=
  (∀ r ∈ w.db.blockRules, r.id ≠ e.1.freshId) ∧ w' = (getOrCreateAutoRule cf e.1 e.2 w).2

/-- **What an operator expects of a write**: by an observe-only detector, that every rule is
enforced as it was; by any detector, that a rule which is pending review and not enforced stays so.
-/
structure OnlyObserves (w : World) (e : Env × AutoRuleWrite) (w' : World) : Prop where
  enforced : e.2.observeOnly cf = true → ∀ r ∈ w.db.blockRules,
    ∃ r' ∈ w'.db.blockRules, r'.id = r.id ∧ r'.isActive = r.isActive
  pending : ∀ r ∈ w.db.blockRules, r.reviewStatus = .pending → r.isActive = false →
    ∃ r' ∈ w'.db.blockRules, r'.id = r.id ∧ r'.isActive = false

/-- The write finds no row that is undecided and enforced, when it is by an observe-only detector,
and none that is pending and not enforced, when it is by another. -/
def FindsItsOwnKind (w : World) (e : Env × AutoRuleWrite) : Prop :=
  ∀ r ∈ w.db.blockRules, e.2.finds r = true → r.reviewStatus.decided = false →
    (e.2.observeOnly cf = true → r.isActive = false) ∧
      (r.reviewStatus = .pending → r.isActive = false → e.2.observeOnly cf = true)

instance (w : World) (e : Env × AutoRuleWrite) : Decidable (FindsItsOwnKind cf w e) :=
  inferInstanceAs (Decidable (∀ r ∈ w.db.blockRules, e.2.finds r = true →
    r.reviewStatus.decided = false → (e.2.observeOnly cf = true → r.isActive = false) ∧
      (r.reviewStatus = .pending → r.isActive = false → e.2.observeOnly cf = true)))

variable {cf}

/-- Without the package-wide quarantine, what a refreshed undecided row becomes depends on the
writer alone. -/
theorem isActive_rewrite (hq : cf.quarantineAutoRules = false) {a : AutoRuleWrite} {r : BlockRule}
    (hfinds : a.finds r = true) (hr : r.reviewStatus.decided = false) :
    (a.rewrite cf r).isActive = !a.observeOnly cf := by
  rw [AutoRuleWrite.rewrite, if_pos hfinds]
  show (if r.reviewStatus.decided then r.isActive else isActiveOnCreate cf a.detectorName) = _
  rw [hr, isActiveOnCreate, hq]
  rfl

/-- A row that is not found, or that an operator has decided on, is enforced as it was. -/
theorem isActive_rewrite_of_decided {a : AutoRuleWrite} {r : BlockRule}
    (h : a.finds r = true → r.reviewStatus.decided = true) :
    (a.rewrite cf r).isActive = r.isActive := by
  rw [AutoRuleWrite.rewrite]
  split
  · rename_i hfinds
    exact (refresh_of_decided cf (h hfinds)).2
  · rfl

/-- **One write, as its operator expects it**, from a constrained table. -/
theorem onlyObserves_iff (hq : cf.quarantineAutoRules = false) {w w' : World}
    {e : Env × AutoRuleWrite} (h : w.db.Constrained) (hstep : DetectorStep cf w e w') :
    OnlyObserves cf w e w' ↔ FindsItsOwnKind cf w e := by
  obtain ⟨hfresh, rfl⟩ := hstep
  have hmem : ∀ r ∈ w.db.blockRules, e.2.rewrite cf r ∈
      (getOrCreateAutoRule cf e.1 e.2 w).2.db.blockRules :=
    fun r hr ↦ h.mem_getOrCreateAutoRule.2 (Or.inl ⟨r, hr, rfl⟩)
  constructor
  · intro hexp r hr hfinds hundecided
    refine ⟨fun hobs ↦ ?_, fun hpending hinactive ↦ ?_⟩
    · obtain ⟨r', hr', hid, hsame⟩ := hexp.enforced hobs r hr
      rw [h.eq_rewrite hfresh hr hr' hid, isActive_rewrite hq hfinds hundecided, hobs] at hsame
      exact hsame.symm
    · obtain ⟨r', hr', hid, hsame⟩ := hexp.pending r hr hpending hinactive
      rw [h.eq_rewrite hfresh hr hr' hid, isActive_rewrite hq hfinds hundecided] at hsame
      rwa [Bool.not_eq_false'] at hsame
  · intro hkind
    refine ⟨fun hobs r hr ↦ ⟨_, hmem r hr, (e.2.rewrite_key cf r).1, ?_⟩,
      fun r hr hpending hinactive ↦ ⟨_, hmem r hr, (e.2.rewrite_key cf r).1, ?_⟩⟩
    · by_cases hfound : e.2.finds r = true ∧ r.reviewStatus.decided = false
      · rw [isActive_rewrite hq hfound.1 hfound.2, hobs, (hkind r hr hfound.1 hfound.2).1 hobs]
        rfl
      · refine isActive_rewrite_of_decided fun hfinds ↦ ?_
        rw [not_and, Bool.not_eq_false] at hfound
        exact hfound hfinds
    · have hundecided : r.reviewStatus.decided = false := by
        rw [hpending]
        rfl
      by_cases hfinds : e.2.finds r = true
      · rw [isActive_rewrite hq hfinds hundecided,
          (hkind r hr hfinds hundecided).2 hpending hinactive]
        rfl
      · rw [isActive_rewrite_of_decided fun hfinds' ↦ absurd hfinds' hfinds]
        exact hinactive

/-- **When observe-only detectors only observe.** Without the package-wide quarantine, from a
constrained table, over any run of detector writes: no observe-only write changes whether a rule is
enforced and no rule pending review is made active, exactly when no observe-only write of the run
finds an undecided row that is enforced and no other write finds a pending row that is not. -/
theorem observe_only_iff (hq : cf.quarantineAutoRules = false) {w w' : World}
    {es : List (Env × AutoRuleWrite)} (h : w.db.Constrained) :
    Run (fun w e w' ↦ DetectorStep cf w e w' ∧ OnlyObserves cf w e w') w es w' ↔
      Run (fun w e w' ↦ DetectorStep cf w e w' ∧ FindsItsOwnKind cf w e) w es w' := by
  refine Run.and_iff (I := fun w : World ↦ w.db.Constrained) h (fun hw hstep ↦ ?_) fun hw hstep ↦
    onlyObserves_iff hq hw hstep
  obtain ⟨hfresh, rfl⟩ := hstep
  exact hw.getOrCreateAutoRule hfresh

/-! #### One subnet, two detectors -/

/-- The default settings, with `detect_cloud_spray` on the observe-only list. -/
def observingSpray : Conf := { plainConf with observeOnlyDetectors := ["detect_cloud_spray"] }

/-- A write at an instant, with the primary key of the row it would create. -/
def writeAt (now : ℚ) (freshId : Uuid) (a : AutoRuleWrite) : Env × AutoRuleWrite :=
  ({ Env.plain now with freshId }, a)

/-- `detect_subnet_burst` writes the subnet's rule. -/
def burstAt (now : ℚ) (freshId : Uuid) : Env × AutoRuleWrite :=
  writeAt now freshId (subnetBurstWrite "192.0.2.0/24" (now + 86400))

/-- `detect_cloud_spray` writes the subnet's rule. -/
def sprayAt (now : ℚ) (freshId : Uuid) : Env × AutoRuleWrite :=
  writeAt now freshId (cloudSprayWrite "192.0.2.0/24" "curl/8.5" 3 (now + 86400))

/-- The world after some writes of detectors. -/
def afterWrites (es : List (Env × AutoRuleWrite)) : World :=
  es.foldl (fun w e ↦ (getOrCreateAutoRule observingSpray e.1 e.2 w).2) (World.start ⟨[], []⟩)

/-- The observe-only detector writes its own row, and refreshes it. -/
theorem observe_only_alone : ∃ w',
    Run (fun w e w' ↦ DetectorStep observingSpray w e w' ∧ OnlyObserves observingSpray w e w')
      (World.start ⟨[], []⟩) [sprayAt 0 1, sprayAt 600 2] w' := by
  have hempty : (World.start ⟨[], []⟩).db.Constrained :=
    ⟨fun _ h ↦ (List.not_mem_nil h).elim, fun _ ↦ Nat.zero_le 1⟩
  refine ⟨afterWrites [sprayAt 0 1, sprayAt 600 2], (observe_only_iff rfl hempty).2 ?_⟩
  have hfirst : Run (fun w e w' ↦ DetectorStep observingSpray w e w' ∧
      FindsItsOwnKind observingSpray w e) (World.start ⟨[], []⟩) ([] ++ [sprayAt 0 1])
      (afterWrites [sprayAt 0 1]) :=
    .snoc .nil ⟨⟨by decide, rfl⟩, by decide⟩
  show Run _ _ (([] ++ [sprayAt 0 1]) ++ [sprayAt 600 2]) _
  exact .snoc hfirst ⟨⟨by decide, rfl⟩, by decide⟩

/-- **An observe-only write switches a rule off, and an enforcing one switches it on unreviewed.**
`detect_subnet_burst` makes an enforced rule for a subnet; the observe-only `detect_cloud_spray`
finds it and leaves it quarantined, pending review; the next burst finds it pending and makes it
active, without an operator. -/
theorem observe_only_switches :
    let w₁ := afterWrites [burstAt 0 1]
    let w₂ := afterWrites [burstAt 0 1, sprayAt 600 2]
    let w₃ := afterWrites [burstAt 0 1, sprayAt 600 2, burstAt 1200 3]
    (w₁.db.blockRules.map fun r ↦ (r.id, r.isActive, r.reviewStatus)) =
        [(1, true, .notApplicable)] ∧
      (w₂.db.blockRules.map fun r ↦ (r.id, r.isActive, r.reviewStatus)) = [(1, false, .pending)] ∧
      (w₃.db.blockRules.map fun r ↦ (r.id, r.isActive, r.reviewStatus)) =
        [(1, true, .notApplicable)] ∧
      (DetectorStep observingSpray w₁ (sprayAt 600 2) w₂ ∧
        ¬OnlyObserves observingSpray w₁ (sprayAt 600 2) w₂) ∧
      DetectorStep observingSpray w₂ (burstAt 1200 3) w₃ ∧
        ¬OnlyObserves observingSpray w₂ (burstAt 1200 3) w₃ := by
  refine ⟨by decide, by decide, by decide, ⟨⟨by decide, rfl⟩, ?_⟩,
    ⟨by decide, rfl⟩, ?_⟩
  · intro h
    have hsame : ∀ r ∈ (afterWrites [burstAt 0 1]).db.blockRules,
        ∃ r' ∈ (afterWrites [burstAt 0 1, sprayAt 600 2]).db.blockRules,
          r'.id = r.id ∧ r'.isActive = r.isActive := h.enforced (by decide)
    exact absurd hsame (by decide)
  · intro h
    exact absurd h.pending (by decide)

end DjangoWaf
