import DjangoWaf.Lib.JoinedSet
import DjangoWaf.Lib.PyStr
import DjangoWaf.Services.RuleCache
import Mathlib.Data.Char
import Mathlib.Data.List.Lex
import Mathlib.Data.List.MinMax

/-!
# Writing auto-generated rules

`_get_or_create_auto_rule` of `services/anomaly_detector.py` with its helpers, as one transaction
that nothing interrupts: the path every detector and the challenge escalation take to write a rule.

An auto rule is found by its key: rule type, pattern and action, among the rows whose source is
`auto`. A row that is found is refreshed; otherwise one is created. Two things are protected on the
way: a row an operator has confirmed or rejected keeps `is_active` and `review_status`, and the
`detectors` column only ever grows.

Every row that is saved or deleted runs its signal handler, so each of them invalidates the rule
cache once.
-/

namespace DjangoWaf

/-- The arguments of one write. -/
structure AutoRuleWrite extends Criterion where
  name : String
  action : RuleAction
  expiry : ℚ
  detectorName : String

/-- The rows the `lookup` of a write finds. -/
def AutoRuleWrite.finds (a : AutoRuleWrite) (r : BlockRule) : Bool :=
  r.ruleType = a.ruleType && r.pattern = a.pattern && r.source = .auto && r.action = a.action

/-- `_merge_detector_names`. -/
def mergeDetectorNames (existingValue detectorName : String) : String :=
  let existing := ((PyStr.splitOn ',' existingValue.toList).map String.ofList).filter fun n ↦ n ≠ ""
  let names := if detectorName = "" then existing else detectorName :: existing
  ",".intercalate (names.dedup.insertionSort fun a b ↦ a.toList ≤ b.toList)

variable (cf : Conf)

/-- `is_active_on_create`. -/
def isActiveOnCreate (detectorName : String) : Bool :=
  !(cf.quarantineAutoRules || cf.observeOnlyDetectors.contains detectorName)

/-- `review_status_on_create`. -/
def reviewStatusOnCreate (detectorName : String) : ReviewStatus :=
  if isActiveOnCreate cf detectorName then .notApplicable else .pending

/-- A row an operator has decided on. -/
def ReviewStatus.decided : ReviewStatus → Bool
  | .confirmed | .rejected => true
  | .notApplicable | .pending | .expiredUnreviewed => false

/-- The row that is found, with the defaults `_auto_rule_write_defaults` derives from it. -/
def AutoRuleWrite.refresh (a : AutoRuleWrite) (r : BlockRule) : BlockRule :=
  { r with
    name := a.name
    matchType := a.matchType
    expiresAt := some a.expiry
    detectors := mergeDetectorNames r.detectors a.detectorName
    isActive := if r.reviewStatus.decided then r.isActive else isActiveOnCreate cf a.detectorName
    reviewStatus :=
      if r.reviewStatus.decided then r.reviewStatus else reviewStatusOnCreate cf a.detectorName }

/-- The row that is created, with the model's defaults for what the write does not set. -/
def AutoRuleWrite.create (a : AutoRuleWrite) (id : Uuid) (now : ℚ) : BlockRule :=
  { toCriterion := a.toCriterion, id, name := a.name, action := a.action, priority := 100,
    isActive := isActiveOnCreate cf a.detectorName, source := .auto, expiresAt := some a.expiry,
    reviewStatus := reviewStatusOnCreate cf a.detectorName, reviewedAt := none,
    detectors := mergeDetectorNames "" a.detectorName, createdAt := now }

/-- `_deduplicate_block_rules`: keep the newest of the rows that are found. -/
def AutoRuleWrite.deduplicate (a : AutoRuleWrite) (rules : List BlockRule) : List BlockRule :=
  match (rules.filter a.finds).argmax BlockRule.createdAt with
  | some keep => rules.filter fun r ↦ !a.finds r || r.id = keep.id
  | none => rules

/-- The table with the rows that are found refreshed. -/
def AutoRuleWrite.refreshAll (a : AutoRuleWrite) (rules : List BlockRule) : List BlockRule :=
  rules.map fun r ↦ if a.finds r then a.refresh cf r else r

/-- `_update_or_create_auto_rule`, on a table without duplicates: the row written and the table. -/
def AutoRuleWrite.updateOrCreate (a : AutoRuleWrite) (env : Env) (rules : List BlockRule) :
    BlockRule × List BlockRule :=
  match rules.find? a.finds with
  | some r => (a.refresh cf r, a.refreshAll cf rules)
  | none => (a.create cf env.freshId env.now, rules ++ [a.create cf env.freshId env.now])

/-- Another table of block rules. -/
def World.withBlockRules (w : World) (rules : List BlockRule) : World :=
  { w with db := { w.db with blockRules := rules } }

/-- `_get_or_create_auto_rule`. -/
def getOrCreateAutoRule (env : Env) (a : AutoRuleWrite) (w : World) : BlockRule × World :=
  let rules := w.db.blockRules
  let found := (rules.filter a.finds).length
  let rules' := if found ≤ 1 then rules else a.deduplicate rules
  let (rule, rules'') := a.updateOrCreate cf env rules'
  -- one handler run for each row the deduplication deletes, and one for the row written
  (rule, (invalidateRuleCache cf)^[rules.length - rules'.length + 1] (w.withBlockRules rules''))

/-! ### What a write does -/

theorem invalidateRuleCache_eq (w : World) : ∃ k, invalidateRuleCache cf w =
    { w with redis := { w.redis with rules := k } } := by
  rw [invalidateRuleCache]
  split
  · exact ⟨_, rfl⟩
  · exact ⟨w.redis.rules, rfl⟩

theorem invalidateRuleCache_iterate_eq (n : ℕ) (w : World) : ∃ k, (invalidateRuleCache cf)^[n] w =
    { w with redis := { w.redis with rules := k } } := by
  induction n generalizing w with
  | zero => exact ⟨w.redis.rules, rfl⟩
  | succ n ih =>
    obtain ⟨k, hk⟩ := invalidateRuleCache_eq cf w
    obtain ⟨k', hk'⟩ := ih (invalidateRuleCache cf w)
    refine ⟨k', ?_⟩
    rw [Function.iterate_succ_apply, hk', hk]

/-- A write changes the rule-cache keys and the block rules only. -/
theorem getOrCreateAutoRule_frame (env : Env) (a : AutoRuleWrite) (w : World) :
    ∃ k rules, (getOrCreateAutoRule cf env a w).2 =
      { w.withBlockRules rules with redis := { w.redis with rules := k } } := by
  set rules' := if (w.db.blockRules.filter a.finds).length ≤ 1 then w.db.blockRules
    else a.deduplicate w.db.blockRules
  obtain ⟨k, hk⟩ := invalidateRuleCache_iterate_eq cf (w.db.blockRules.length - rules'.length + 1)
    (w.withBlockRules (a.updateOrCreate cf env rules').2)
  exact ⟨k, (a.updateOrCreate cf env rules').2, hk⟩

/-- The one row of a key is refreshed in place. -/
theorem blockRules_getOrCreateAutoRule {a : AutoRuleWrite} {w : World} {r : BlockRule} (env : Env)
    (h : w.db.blockRules.filter a.finds = [r]) :
    (getOrCreateAutoRule cf env a w).2.db.blockRules = a.refreshAll cf w.db.blockRules := by
  have hfind : w.db.blockRules.find? a.finds = some r := by
    rw [← List.head?_filter, h]
    rfl
  have hrun : (getOrCreateAutoRule cf env a w).2 =
      (invalidateRuleCache cf)^[1] (w.withBlockRules (a.refreshAll cf w.db.blockRules)) := by
    simp only [getOrCreateAutoRule, h, List.length_singleton, le_refl, if_true, Nat.sub_self,
      AutoRuleWrite.updateOrCreate, hfind]
  obtain ⟨k, hk⟩ := invalidateRuleCache_iterate_eq cf 1
    (w.withBlockRules (a.refreshAll cf w.db.blockRules))
  rw [hrun, hk]
  rfl

/-! ### The detectors of a row -/

/-- `detectors.split(",")`. -/
def detectorNames (detectors : String) : List String :=
  (PyStr.splitOn ',' detectors.toList).map String.ofList

theorem mem_detectorNames_iff {detectors n : String} :
    n ∈ detectorNames detectors ↔ n.toList ∈ detectors.toList.splitOn ',' := by
  rw [detectorNames, PyStr.splitOn_eq, List.mem_map]
  constructor
  · rintro ⟨p, hp, rfl⟩
    rwa [String.toList_ofList]
  · intro h
    exact ⟨n.toList, h, String.ofList_toList⟩

/-- The names of a column are its pieces that are not empty. -/
theorem mem_pieces_iff {detectors n : String} :
    n.toList ∈ JoinedSet.pieces ',' detectors.toList ↔ n ∈ detectorNames detectors ∧ n ≠ "" := by
  rw [JoinedSet.pieces, List.mem_filter, mem_detectorNames_iff, decide_eq_true_eq, ne_eq, ne_eq,
    String.toList_eq_nil_iff]

/-- **A merge adds a word to the set a column keeps.** -/
theorem toList_mergeDetectorNames (existingValue detectorName : String) :
    (mergeDetectorNames existingValue detectorName).toList =
      JoinedSet.add ',' existingValue.toList detectorName.toList := by
  set existing := (detectorNames existingValue).filter fun n ↦ n ≠ "" with hexisting
  set names := if detectorName = "" then existing else detectorName :: existing with hnames
  set sorted := names.dedup.insertionSort fun a b ↦ a.toList ≤ b.toList with hsorted
  have hinjective : Function.Injective String.toList := fun _ _ ↦ String.toList_inj.1
  have horder : (sorted.map String.toList).Pairwise (· ≤ ·) :=
    List.pairwise_map.2 (List.pairwise_insertionSort _ _)
  have hnodup : (sorted.map String.toList).Nodup :=
    ((List.perm_insertionSort _ _).nodup_iff.2 names.nodup_dedup).map hinjective
  have hmem : ∀ n, n ∈ existing ↔ n.toList ∈ JoinedSet.pieces ',' existingValue.toList := by
    intro n
    rw [mem_pieces_iff, hexisting, List.mem_filter, decide_eq_true_eq]
  have hset : (sorted.map String.toList).toFinset = JoinedSet.insertWord detectorName.toList
      (JoinedSet.pieces ',' existingValue.toList).toFinset := by
    ext p
    obtain ⟨n, rfl⟩ : ∃ n : String, n.toList = p := ⟨String.ofList p, String.toList_ofList⟩
    rw [List.mem_toFinset, List.mem_map_of_injective hinjective, hsorted, List.mem_insertionSort,
      List.mem_dedup, hnames, JoinedSet.insertWord]
    rcases eq_or_ne detectorName "" with hd | hd
    · rw [if_pos hd, if_pos (String.toList_eq_nil_iff.2 hd), hmem, List.mem_toFinset]
    · rw [if_neg hd, if_neg (mt String.toList_eq_nil_iff.1 hd), List.mem_cons, hmem,
        Finset.mem_insert, List.mem_toFinset, String.toList_inj]
  rw [JoinedSet.add, JoinedSet.join, ← hset, (List.toFinset_sort _ hnodup).2 horder]
  exact String.toList_intercalate

/-- **The set of detectors grows by the writer's name**, and by nothing else. -/
theorem mem_detectorNames_merge {detectors d n : String} (hn : n ≠ "") (hd : ',' ∉ d.toList) :
    n ∈ detectorNames (mergeDetectorNames detectors d) ↔ n ∈ detectorNames detectors ∨ n = d := by
  have hpieces : ∀ v : String, n ∈ detectorNames v ↔ n.toList ∈ JoinedSet.pieces ',' v.toList :=
    fun v ↦ (and_iff_left hn).symm.trans mem_pieces_iff.symm
  have hnil : n.toList ≠ [] := fun h ↦ hn (String.toList_eq_nil_iff.1 h)
  rw [hpieces, hpieces, toList_mergeDetectorNames, (JoinedSet.keeps_add _ hd).pieces_eq,
    Finset.mem_sort, JoinedSet.mem_insertWord hnil, List.mem_toFinset, String.toList_inj]

/-- A refreshed row has the key it had. -/
theorem finds_refresh (a : AutoRuleWrite) (r : BlockRule) :
    a.finds (a.refresh cf r) = a.finds r := rfl

/-- **A decision survives a write**: the row keeps its review status and whether it is enforced. -/
theorem refresh_of_decided {a : AutoRuleWrite} {r : BlockRule} (h : r.reviewStatus.decided = true) :
    (a.refresh cf r).reviewStatus = r.reviewStatus ∧ (a.refresh cf r).isActive = r.isActive := by
  simp [AutoRuleWrite.refresh, h]

end DjangoWaf
