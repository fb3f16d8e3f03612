import DjangoWaf.Lib.Insertions
import DjangoWaf.Promotion
import DjangoWaf.Services.Detectors

/-!
# What a dry run reports

A dry run of the detectors reads the tables as they are; a real run changes them as it goes. So a
dry run counts a rule wherever the table has **no auto rule of its key**, and a real run counts it
once: the second write of a key finds the row of the first.

The detectors meet on keys in several ways. `detect_subnet_burst`, the subnet half of
`detect_unsolved_challenges` and `detect_cloud_spray` write `CHALLENGE` rules for subnets, the last
of them once for each user agent; `detect_challenge_farms` and the per-IP half write `BLOCK` rules
for addresses; `detect_scraper_404_ratio` writes either. Two effects go further than a shared key.
A burst that refreshes the rule of a subnet can switch it on or off, and with it the stage of the
crossing that comes after; and the writes of a real run invalidate the rule cache, so its last
detector may be told of other allow rules.

`dry_run_honest_iff` says when none of this shows in the counts. Each of the first three detectors
counts right in every state. The others do exactly when what a real run **loses** to its own earlier
writes is made up by what it **gains** from them.
-/

namespace DjangoWaf

/-! ### Keys that are held -/

/-- The table has an auto rule of the key. -/
def Db.held (db : Db) (k : AutoKey) : Bool := db.blockRules.any k.holds

theorem isNone_find?_finds (a : AutoRuleWrite) (db : Db) :
    (db.blockRules.find? a.finds).isNone = !db.held a.key := by
  rw [Db.held, ← a.finds_eq, Bool.eq_iff_iff, Option.isNone_iff_eq_none, List.find?_eq_none,
    Bool.not_eq_true', List.any_eq_false]

theorem isNone_find?_deduplicated {a : AutoRuleWrite} {db : Db} (h : db.Constrained) :
    ((a.deduplicated db.blockRules).find? a.finds).isNone = !db.held a.key := by
  have hle : (db.blockRules.filter a.finds).length ≤ 1 := h.unique a.key
  rw [AutoRuleWrite.deduplicated, if_pos hle, isNone_find?_finds]

/-! ### The world after some writes -/

/-- **What writes of some keys leave behind**: their keys are held, the rules of other keys are what
they were, the allow rules too, and each write has invalidated the rule cache once. No detector
writes a regular expression, so those in the table are the ones it had under other keys. -/
structure WroteKeys (cf : Conf) (ks : List AutoKey) (w w' : World) : Prop where
  constrained : w'.db.Constrained
  held : ∀ k, w'.db.held k = (w.db.held k || decide (k ∈ ks))
  others : ∀ k, k ∉ ks →
    w'.db.blockRules.filter k.holds = w.db.blockRules.filter k.holds
  regexes : ∀ r : BlockRule, r.matchType = .regex →
    (r ∈ w'.db.blockRules ↔ r ∈ w.db.blockRules ∧ ∀ k ∈ ks, k.holds r = false)
  allowRules : w'.db.allowRules = w.db.allowRules
  frame : w' = { (invalidateRuleCache cf)^[ks.length] w with db := w'.db }

variable {cf : Conf}

theorem invalidateRuleCache_withDb (w : World) (db : Db) :
    invalidateRuleCache cf { w with db := db } = { invalidateRuleCache cf w with db := db } := by
  rw [invalidateRuleCache, invalidateRuleCache]
  split <;> rfl

theorem invalidateRuleCache_iterate_withDb (n : ℕ) (w : World) (db : Db) :
    (invalidateRuleCache cf)^[n] { w with db := db } =
      { (invalidateRuleCache cf)^[n] w with db := db } := by
  induction n generalizing w with
  | zero => rfl
  | succ n ih => rw [Function.iterate_succ_apply, Function.iterate_succ_apply,
      invalidateRuleCache_withDb, ih]

theorem WroteKeys.nil {w : World} (h : w.db.Constrained) : WroteKeys cf [] w w where
  constrained := h
  held k := by simp
  others _ _ := rfl
  regexes r _ := ⟨fun hr ↦ ⟨hr, fun _ hk ↦ (List.not_mem_nil hk).elim⟩, And.left⟩
  allowRules := rfl
  frame := rfl

theorem WroteKeys.append {ks ks' : List AutoKey} {w w' w'' : World} (h : WroteKeys cf ks w w')
    (h' : WroteKeys cf ks' w' w'') : WroteKeys cf (ks ++ ks') w w'' where
  constrained := h'.constrained
  held k := by
    rw [h'.held, h.held, Bool.or_assoc]
    simp [List.mem_append]
  others k hk := by
    rw [List.mem_append, not_or] at hk
    rw [h'.others k hk.2, h.others k hk.1]
  regexes r hr := by
    rw [h'.regexes r hr, h.regexes r hr, and_assoc]
    simp only [List.mem_append, or_imp, forall_and]
  allowRules := h'.allowRules.trans h.allowRules
  frame := by
    have hiter : (invalidateRuleCache cf)^[ks'.length] w' =
        { (invalidateRuleCache cf)^[ks.length + ks'.length] w with db := w'.db } := by
      rw [h.frame, invalidateRuleCache_iterate_withDb, Nat.add_comm, Function.iterate_add_apply]
    rw [h'.frame, hiter, List.length_append]

/-- **One write** of a constrained table. -/
theorem wroteKeys_write {w : World} (h : w.db.Constrained) {env : Env} {a : AutoRuleWrite}
    (hplain : a.matchType ≠ .regex) (hfresh : ∀ r ∈ w.db.blockRules, r.id ≠ env.freshId) :
    WroteKeys cf [a.key] w (getOrCreateAutoRule cf env a w).2 := by
  have hle : (w.db.blockRules.filter a.finds).length ≤ 1 := h.unique a.key
  refine ⟨h.getOrCreateAutoRule hfresh, fun k ↦ ?_, fun k hk ↦ ?_, fun r hregex ↦ ?_, ?_, ?_⟩
  · rw [Db.held, Db.held]
    rcases h.blockRules_eq with ⟨hrules, r, hr, hfinds⟩ | ⟨hrules, -⟩
    · have hheld : (w.db.blockRules.map (a.rewrite cf)).any k.holds =
          w.db.blockRules.any k.holds := by
        rw [List.any_map]
        congr 1
        exact funext fun r ↦ (a.rewrite_key cf r).2 k
      rw [hrules, hheld]
      by_cases hk : k = a.key
      · have hany : w.db.blockRules.any k.holds = true :=
          List.any_eq_true.2 ⟨r, hr, by rw [hk]; exact hfinds⟩
        rw [hany]
        rfl
      · simp [hk]
    · have hnew : k.holds (a.create cf env.freshId env.now) = decide (k ∈ [a.key]) := by
        rw [Bool.eq_iff_iff, AutoKey.holds_iff, decide_eq_true_eq, List.mem_singleton]
        exact ⟨fun hk ↦ hk.2.symm, fun hk ↦ ⟨rfl, hk.symm⟩⟩
      rw [hrules, List.any_append, List.any_cons, List.any_nil, hnew, Bool.or_false]
  · rw [List.mem_singleton] at hk
    rcases h.blockRules_eq with ⟨hrules, -⟩ | ⟨hrules, -⟩
    · have hcomp : (k.holds ∘ a.rewrite cf) = k.holds := funext fun r ↦ (a.rewrite_key cf r).2 k
      rw [hrules, List.filter_map, hcomp]
      refine (List.map_congr_left fun r hr ↦ ?_).trans (List.map_id _)
      have hfinds : ¬a.finds r = true := by
        rw [a.finds_eq, AutoKey.holds_of_ne hk (List.mem_filter.1 hr).2]
        exact Bool.false_ne_true
      rw [AutoRuleWrite.rewrite, if_neg hfinds]
      rfl
    · have hnew : ¬k.holds (a.create cf env.freshId env.now) = true := by
        rw [AutoKey.holds_of_ne (Ne.symm hk) (AutoKey.holds_iff.2 ⟨rfl, rfl⟩)]
        exact Bool.false_ne_true
      rw [hrules, List.filter_append, List.filter_cons_of_neg hnew, List.filter_nil,
        List.append_nil]
  · rw [h.mem_getOrCreateAutoRule, List.forall_mem_singleton]
    constructor
    · rintro (⟨r, hr, rfl⟩ | ⟨-, rfl⟩)
      · rw [AutoRuleWrite.rewrite] at hregex ⊢
        split at hregex
        · exact absurd hregex hplain
        · rename_i hfinds
          rw [if_neg hfinds]
          exact ⟨hr, by rwa [← a.finds_eq, ← Bool.not_eq_true]⟩
      · exact absurd hregex hplain
    · rintro ⟨hr, hkey⟩
      refine Or.inl ⟨r, hr, ?_⟩
      rw [AutoRuleWrite.rewrite, a.finds_eq, hkey, if_neg Bool.false_ne_true]
  · obtain ⟨k, rules, hframe⟩ := getOrCreateAutoRule_frame cf env a w
    rw [hframe]
    rfl
  · have hrun : (getOrCreateAutoRule cf env a w).2 =
        (invalidateRuleCache cf)^[1] (w.withBlockRules
          (a.updateOrCreate cf env w.db.blockRules).2) := by
      simp only [getOrCreateAutoRule, if_pos hle, Nat.sub_self, Nat.zero_add]
    rw [hrun, World.withBlockRules, invalidateRuleCache_iterate_withDb]
    rfl

/-! ### The loops -/

section Loops

variable {fresh : Db → Uuid} {env : Env}

/-- The primary keys of new rows are new. -/
def FreshIds (fresh : Db → Uuid) : Prop := ∀ db : Db, ∀ r ∈ db.blockRules, r.id ≠ fresh db

/-- **A dry run counts the keys that are not held**, and writes nothing, when what it would write
depends on the tables alone. -/
theorem detectEach_dry {ι : Type*} (f : ι → Db → AutoRuleWrite) (is : List ι) (w : World) :
    detectEach cf fresh env (fun i w ↦ (some (f i w.db), w)) true is w =
      (is.countP fun i ↦ !w.db.held (f i w.db).key, w) := by
  induction is with
  | nil => rfl
  | cons i is ih =>
    simp only [detectEach, autoRuleCall, if_true] at ih ⊢
    rw [ih, isNone_find?_finds, List.countP_cons, Nat.add_comm]
    rcases w.db.held (f i w.db).key with - | - <;> rfl

theorem detectEach_always_dry (as : List AutoRuleWrite) (w : World) :
    detectEach cf fresh env always true as w = (as.countP fun a ↦ !w.db.held a.key, w) :=
  detectEach_dry (fun a _ ↦ a) as w

/-- A real run counts the insertions. -/
theorem detectEach_always (hfresh : FreshIds fresh) {as : List AutoRuleWrite}
    (hplain : ∀ a ∈ as, a.matchType ≠ .regex) {w : World} (h : w.db.Constrained) :
    (detectEach cf fresh env always false as w).1 = insertions w.db.held
        (as.map AutoRuleWrite.key) ∧
      WroteKeys cf (as.map AutoRuleWrite.key) w (detectEach cf fresh env always false as w).2 := by
  induction as generalizing w with
  | nil => exact ⟨rfl, .nil h⟩
  | cons a as ih =>
    have hwrote : WroteKeys cf [a.key] w
        (getOrCreateAutoRule cf { env with freshId := fresh w.db } a w).2 :=
      wroteKeys_write h (hplain a List.mem_cons_self) (hfresh w.db)
    obtain ⟨hcount, hrest⟩ := ih (fun b hb ↦ hplain b (List.mem_cons_of_mem a hb))
      hwrote.constrained
    simp only [detectEach, always, autoRuleCall, Bool.false_eq_true, if_false] at hcount hrest ⊢
    refine ⟨?_, hwrote.append hrest⟩
    rw [hcount, isNone_find?_deduplicated h, List.map_cons, insertions]
    congr 1
    refine insertions_congr fun k _ ↦ ?_
    rw [hwrote.held]
    simp

/-- The same, for writes of some texts. -/
theorem detectEach_map (hfresh : FreshIds fresh) {f : String → AutoRuleWrite} {g : String → AutoKey}
    (hkey : ∀ x, (f x).key = g x) (hplain : ∀ x, (f x).matchType ≠ .regex) (xs : List String)
    {w : World} (h : w.db.Constrained) :
    (detectEach cf fresh env always false (xs.map f) w).1 = insertions w.db.held (xs.map g) ∧
      WroteKeys cf (xs.map g) w (detectEach cf fresh env always false (xs.map f) w).2 := by
  have hkeys : (xs.map f).map AutoRuleWrite.key = xs.map g := by
    rw [List.map_map]
    exact List.map_congr_left fun x _ ↦ hkey x
  rw [← hkeys]
  refine detectEach_always hfresh (fun a ha ↦ ?_) h
  obtain ⟨x, -, rfl⟩ := List.mem_map.1 ha
  exact hplain x

/-- The stage of a crossing depends on the challenge rules of its subnet. -/
theorem stageAction_congr {db db' : Db} {subnet : String}
    (h : db'.blockRules.filter (challengeKey subnet).holds =
      db.blockRules.filter (challengeKey subnet).holds) :
    stageAction subnet db' = stageAction subnet db := by
  have hfilter : ∀ db : Db, db.blockRules.filter (isActiveChallenge subnet) =
      (db.blockRules.filter (challengeKey subnet).holds).filter BlockRule.isActive := by
    intro db
    rw [List.filter_filter]
    refine List.filter_congr fun r _ ↦ ?_
    rw [isActiveChallenge, Bool.and_comm]
    rfl
  rw [stageAction, stageAction, alreadyChallenged, alreadyChallenged, ← List.head?_filter,
    ← List.head?_filter, hfilter, hfilter, h]

/-- The key a crossing writes. -/
def SubnetAggregate.stageKey (db : Db) (s : SubnetAggregate) : AutoKey :=
  ⟨.cidr, s.subnet, stageAction s.subnet db⟩

theorem detectEach_atStage_dry (expiry : ℚ) (ss : List SubnetAggregate) (w : World) :
    detectEach cf fresh env (atStage expiry) true ss w =
      (ss.countP fun s ↦ !w.db.held (s.stageKey w.db), w) :=
  detectEach_dry (fun s db ↦ s.write expiry db) ss w

/-- **A real run crosses** as the table it starts from says: a crossing writes rules of its own
subnet only. -/
theorem detectEach_atStage (hfresh : FreshIds fresh) (expiry : ℚ) (ss : List SubnetAggregate)
    (hss : (ss.map SubnetAggregate.subnet).Nodup) {w : World} (h : w.db.Constrained) :
    (detectEach cf fresh env (atStage expiry) false ss w).1 =
        (ss.countP fun s ↦ !w.db.held (s.stageKey w.db)) ∧
      WroteKeys cf (ss.map (SubnetAggregate.stageKey w.db)) w
        (detectEach cf fresh env (atStage expiry) false ss w).2 := by
  induction ss generalizing w with
  | nil => exact ⟨rfl, .nil h⟩
  | cons s ss ih =>
    rw [List.map_cons, List.nodup_cons] at hss
    have hplain : (s.write expiry w.db).matchType ≠ .regex := MatchType.noConfusion
    have hwrote : WroteKeys cf [s.stageKey w.db] w (getOrCreateAutoRule cf
        { env with freshId := fresh w.db } (s.write expiry w.db) w).2 :=
      wroteKeys_write h hplain (hfresh w.db)
    set w' := (getOrCreateAutoRule cf { env with freshId := fresh w.db } (s.write expiry w.db) w).2
    have hother : ∀ t ∈ ss, t.subnet ≠ s.subnet := fun t ht heq ↦
      hss.1 (List.mem_map.2 ⟨t, ht, heq⟩)
    have hstage : ∀ t ∈ ss, t.stageKey w'.db = t.stageKey w.db := by
      intro t ht
      rw [SubnetAggregate.stageKey, SubnetAggregate.stageKey, stageAction_congr]
      refine hwrote.others _ fun hmem ↦ hother t ht ?_
      exact congrArg AutoKey.pattern (List.mem_singleton.1 hmem)
    have hheld : ∀ t ∈ ss, w'.db.held (t.stageKey w'.db) = w.db.held (t.stageKey w.db) := by
      intro t ht
      rw [hstage t ht, hwrote.held, decide_eq_false, Bool.or_false]
      intro hmem
      exact hother t ht (congrArg AutoKey.pattern (List.mem_singleton.1 hmem))
    obtain ⟨hcount, hrest⟩ := ih hss.2 hwrote.constrained
    simp only [detectEach, atStage, autoRuleCall, Bool.false_eq_true, if_false] at hcount hrest ⊢
    rw [List.map_congr_left hstage] at hrest
    refine ⟨?_, hwrote.append hrest⟩
    rw [hcount, isNone_find?_deduplicated h, List.countP_cons, Nat.add_comm]
    have hcongr : (ss.countP fun t ↦ !w'.db.held (t.stageKey w'.db)) =
        ss.countP fun t ↦ !w.db.held (t.stageKey w.db) :=
      List.countP_congr fun t ht ↦ by rw [hheld t ht]
    rw [hcongr]
    show _ + (!w.db.held (s.stageKey w.db)).toNat = _
    rcases w.db.held (s.stageKey w.db) with - | - <;> rfl

/-! ### The candidates of the last detector -/

/-- The candidates no allow rule excludes, by some allow rules. -/
def keptCandidates (cf : Conf) (env : Env) (rules : List CachedAllowRule) :
    List (String × List String) → Redis → List String
  | [], _ => []
  | c :: rest, redis =>
    let (excluded, redis') := scraperCandidateMatchesAllowRule cf env c.1 rules
      (if c.2 = [] then [""] else c.2) redis
    if excluded then keptCandidates cf env rules rest redis'
    else c.1 :: keptCandidates cf env rules rest redis'

/-- The candidates no allow rule of a load excludes: none where the load raises. -/
def keptByLoad (cf : Conf) (env : Env) (w : World) (cs : List (String × List String)) :
    List String :=
  if loadRaises cf env w then []
  else keptCandidates cf env (loadRuleCache env w).1.allowRules cs w.redis

theorem keptCandidates_sublist (rules : List CachedAllowRule) (cs : List (String × List String))
    (redis : Redis) : (keptCandidates cf env rules cs redis).Sublist (cs.map Prod.fst) := by
  induction cs generalizing redis with
  | nil => exact .slnil
  | cons c cs ih =>
    rw [keptCandidates, List.map_cons]
    split
    split
    · exact (ih _).cons _
    · exact (ih _).cons_cons _

theorem scraperCandidateMatchesAllowRule_withRules (ip : String) (rules : List CachedAllowRule)
    (uas : List String) (redis : Redis) (k : RuleKeys) :
    scraperCandidateMatchesAllowRule cf env ip rules uas { redis with rules := k } =
      ((scraperCandidateMatchesAllowRule cf env ip rules uas redis).1,
        { (scraperCandidateMatchesAllowRule cf env ip rules uas redis).2 with rules := k }) := by
  induction uas generalizing redis with
  | nil => rfl
  | cons ua uas ih =>
    rw [scraperCandidateMatchesAllowRule, scraperCandidateMatchesAllowRule,
      checkAllowRules_rules]
    rcases checkAllowRules cf env ip ua rules redis with ⟨e | (- | r), redis'⟩
    · rfl
    · exact ih redis'
    · rfl

theorem keptCandidates_withRules (rules : List CachedAllowRule) (cs : List (String × List String))
    (redis : Redis) (k : RuleKeys) :
    keptCandidates cf env rules cs { redis with rules := k } =
      keptCandidates cf env rules cs redis := by
  induction cs generalizing redis with
  | nil => rfl
  | cons c cs ih =>
    rw [keptCandidates, keptCandidates, scraperCandidateMatchesAllowRule_withRules]
    simp only [ih]

variable (dc : DetectorConf) (expiry : ℚ) (rules : List CachedAllowRule)

/-- A dry run counts the candidates that are kept and whose key is not held. -/
theorem detectEach_unlessAllowed_dry (cs : List (String × List String)) (w : World) :
    (detectEach cf fresh env (unlessAllowed cf env dc expiry rules) true cs w).1 =
        ((keptCandidates cf env rules cs w.redis).countP fun ip ↦
          !w.db.held (scraper404Write dc expiry ip).key) ∧
      (detectEach cf fresh env (unlessAllowed cf env dc expiry rules) true cs w).2.db = w.db := by
  induction cs generalizing w with
  | nil => exact ⟨rfl, rfl⟩
  | cons c cs ih =>
    rcases hmatch : scraperCandidateMatchesAllowRule cf env c.1 rules
      (if c.2 = [] then [""] else c.2) w.redis with ⟨- | -, redis⟩
    · obtain ⟨hcount, hdb⟩ := ih (w.withRedis redis)
      simp only [detectEach, unlessAllowed, hmatch, autoRuleCall, if_true, keptCandidates,
        Bool.false_eq_true, if_false, List.countP_cons] at hcount hdb ⊢
      rw [hcount, hdb, isNone_find?_finds, Nat.add_comm]
      refine ⟨?_, rfl⟩
      show _ + (!w.db.held (scraper404Write dc expiry c.1).key).toNat = _
      rcases w.db.held (scraper404Write dc expiry c.1).key with - | - <;> rfl
    · obtain ⟨hcount, hdb⟩ := ih (w.withRedis redis)
      simp only [detectEach, unlessAllowed, hmatch, if_true, keptCandidates]
      exact ⟨hcount, hdb⟩

/-- A real run inserts the keys of the candidates that are kept. -/
theorem detectEach_unlessAllowed (hfresh : FreshIds fresh) (cs : List (String × List String))
    {w : World} (h : w.db.Constrained) :
    (detectEach cf fresh env (unlessAllowed cf env dc expiry rules) false cs w).1 =
      insertions w.db.held ((keptCandidates cf env rules cs w.redis).map fun ip ↦
        (scraper404Write dc expiry ip).key) := by
  induction cs generalizing w with
  | nil => rfl
  | cons c cs ih =>
    rcases hmatch : scraperCandidateMatchesAllowRule cf env c.1 rules
      (if c.2 = [] then [""] else c.2) w.redis with ⟨- | -, redis⟩
    · set a := scraper404Write dc expiry c.1
      have h' : (w.withRedis redis).db.Constrained := h
      have hwrote : WroteKeys cf [a.key] (w.withRedis redis) (getOrCreateAutoRule cf
          { env with freshId := fresh w.db } a (w.withRedis redis)).2 :=
        wroteKeys_write h' MatchType.noConfusion (hfresh w.db)
      obtain ⟨k, hk⟩ := invalidateRuleCache_iterate_eq cf 1 (w.withRedis redis)
      have hredis : (getOrCreateAutoRule cf { env with freshId := fresh w.db } a
          (w.withRedis redis)).2.redis = { redis with rules := k } := by
        rw [hwrote.frame]
        exact congrArg World.redis hk
      have hcount := ih hwrote.constrained
      rw [hredis, keptCandidates_withRules] at hcount
      simp only [detectEach, unlessAllowed, hmatch, autoRuleCall, Bool.false_eq_true, if_false,
        keptCandidates, List.map_cons, insertions] at hcount ⊢
      have hnew : ((a.deduplicated w.db.blockRules).find? a.finds).isNone = !w.db.held a.key :=
        isNone_find?_deduplicated h
      show ((a.deduplicated w.db.blockRules).find? a.finds).isNone.toNat + _ = _
      rw [hnew]
      congr 1
      refine hcount.trans (insertions_congr fun k _ ↦ ?_)
      rw [hwrote.held]
      simp only [List.mem_singleton]
      rfl
    · have hcount := @ih (w.withRedis redis) h
      simp only [detectEach, unlessAllowed, hmatch, if_true, keptCandidates]
      exact hcount

/-- The allow rules a load finds depend on the cache of the worker, the keys and the allow rules. -/
theorem allowRules_loadRuleCache {w w' : World} (hprocess : w'.process = w.process)
    (hkeys : w'.redis.rules = w.redis.rules) (hallow : w'.db.allowRules = w.db.allowRules) :
    (loadRuleCache env w').1.allowRules = (loadRuleCache env w).1.allowRules := by
  have hrules : (w'.db.ruleSet env.now).allowRules = (w.db.ruleSet env.now).allowRules := by
    rw [Db.ruleSet, Db.ruleSet, Db.activeAllowRules, Db.activeAllowRules, hallow]
  simp only [loadRuleCache, hprocess, hkeys]
  split
  · rfl
  · split
    · rfl
    · exact hrules
    · exact hrules

/-- A load changes the rule-cache keys of Redis only. -/
theorem redis_loadRuleCache (env : Env) (w : World) :
    ∃ k, (loadRuleCache env w).2.redis = { w.redis with rules := k } := by
  rcases loadRuleCache_cases env w with ⟨c, -, -, h⟩ | ⟨r, -, h⟩ | h
  · exact ⟨w.redis.rules, by rw [h]⟩
  · exact ⟨w.redis.rules, by rw [h]; rfl⟩
  · exact ⟨_, by rw [h]; rfl⟩

end Loops

/-! ### The stage after a burst -/

section Stage

variable {fresh : Db → Uuid} {env : Env} {subnet : String}

/-- Whether a row is active once `detect_subnet_burst` has refreshed it. -/
def BlockRule.activeAfterBurst (cf : Conf) (r : BlockRule) : Bool :=
  if r.reviewStatus.decided then r.isActive else isActiveOnCreate cf "detect_subnet_burst"

/-- What is asked of this detector's rule of a subnet depends on the challenge rules of the subnet.
-/
theorem exists_ownChallenge_congr {db db' : Db} {p : BlockRule → Prop}
    (h : db'.blockRules.filter (challengeKey subnet).holds =
      db.blockRules.filter (challengeKey subnet).holds) :
    (∃ r ∈ db'.blockRules, OwnChallenge subnet r ∧ p r) ↔
      ∃ r ∈ db.blockRules, OwnChallenge subnet r ∧ p r := by
  have hfilter : ∀ db : Db, (∃ r ∈ db.blockRules, OwnChallenge subnet r ∧ p r) ↔
      ∃ r ∈ db.blockRules.filter (challengeKey subnet).holds, OwnChallenge subnet r ∧ p r := by
    intro db
    constructor
    · rintro ⟨r, hr, hown, hp⟩
      exact ⟨r, List.mem_filter.2 ⟨hr, hown.1⟩, hown, hp⟩
    · rintro ⟨r, hr, hown, hp⟩
      exact ⟨r, List.mem_of_mem_filter hr, hown, hp⟩
  rw [hfilter, hfilter db, h]

/-- A burst's write of the subnet. -/
theorem alreadyChallenged_burst {w : World} (h : w.db.Constrained) {env : Env}
    (hfresh : ∀ r ∈ w.db.blockRules, r.id ≠ env.freshId) (expiry : ℚ) :
    alreadyChallenged subnet (getOrCreateAutoRule cf env (subnetBurstWrite subnet expiry) w).2.db =
        true ↔
      ∃ r ∈ w.db.blockRules, OwnChallenge subnet r ∧ r.activeAfterBurst cf = true := by
  set a := subnetBurstWrite subnet expiry with ha
  have hcomma : ',' ∉ a.detectorName.toList := by
    rw [ha]
    show ',' ∉ "detect_subnet_burst".toList
    decide
  have hname : a.detectorName ≠ detectUnsolvedChallengesName := by
    rw [ha]
    show "detect_subnet_burst" ≠ detectUnsolvedChallengesName
    decide
  have hactive : ∀ r : BlockRule, OwnChallenge subnet r →
      (a.rewrite cf r).isActive = r.activeAfterBurst cf := by
    intro r hown
    have hfinds : a.finds r = true := hown.1
    rw [AutoRuleWrite.rewrite, if_pos hfinds]
    rfl
  rw [alreadyChallenged_iff (h.getOrCreateAutoRule hfresh)]
  constructor
  · rintro ⟨r', hr', hown, hact⟩
    rcases h.mem_getOrCreateAutoRule.1 hr' with ⟨r, hr, rfl⟩ | ⟨-, rfl⟩
    · rcases (ownChallenge_rewrite hcomma).1 hown with hown | ⟨-, -, heq⟩
      · exact ⟨r, hr, hown, by rw [← hactive r hown, hact]⟩
      · exact absurd heq hname
    · exact absurd ((ownChallenge_create hcomma).1 hown).2 hname
  · rintro ⟨r, hr, hown, hact⟩
    refine ⟨a.rewrite cf r, h.mem_getOrCreateAutoRule.2 (Or.inl ⟨r, hr, rfl⟩),
      (ownChallenge_rewrite hcomma).2 (Or.inl hown), ?_⟩
    rw [hactive r hown, hact]

/-- **The stage after `detect_subnet_burst` has written the subnet**: it is what the burst made of
the row. -/
theorem alreadyChallenged_bursts (hfresh : FreshIds fresh) (expiry : ℚ) {subnets : List String}
    (hnodup : subnets.Nodup) (hmem : subnet ∈ subnets) {w : World} (h : w.db.Constrained) :
    alreadyChallenged subnet (detectEach cf fresh env always false
        (subnets.map fun s ↦ subnetBurstWrite s expiry) w).2.db = true ↔
      ∃ r ∈ w.db.blockRules, OwnChallenge subnet r ∧ r.activeAfterBurst cf = true := by
  induction subnets generalizing w with
  | nil => exact (List.not_mem_nil hmem).elim
  | cons s rest ih =>
    obtain ⟨hnotin, hnodup⟩ := List.nodup_cons.1 hnodup
    set a := subnetBurstWrite s expiry with ha
    have hwrote : WroteKeys cf [a.key] w
        (getOrCreateAutoRule cf { env with freshId := fresh w.db } a w).2 :=
      wroteKeys_write h MatchType.noConfusion (hfresh w.db)
    set w' := (getOrCreateAutoRule cf { env with freshId := fresh w.db } a w).2 with hw'
    have hrun : (detectEach cf fresh env always false ((s :: rest).map fun s ↦
        subnetBurstWrite s expiry) w).2 = (detectEach cf fresh env always false
          (rest.map fun s ↦ subnetBurstWrite s expiry) w').2 := rfl
    rw [hrun]
    by_cases hs : subnet = s
    · -- the later bursts leave the rule alone
      subst hs
      have hrest : WroteKeys cf _ w' (detectEach cf fresh env always false
          (rest.map fun s ↦ subnetBurstWrite s expiry) w').2 :=
        (detectEach_map hfresh (fun _ ↦ rfl) (fun _ ↦ MatchType.noConfusion) rest
          hwrote.constrained).2
      have hsame : alreadyChallenged subnet (detectEach cf fresh env always false
          (rest.map fun s ↦ subnetBurstWrite s expiry) w').2.db = true ↔
            alreadyChallenged subnet w'.db = true := by
        rw [alreadyChallenged_iff hrest.constrained, alreadyChallenged_iff hwrote.constrained]
        refine exists_ownChallenge_congr (hrest.others _ fun hin ↦ ?_)
        obtain ⟨t, ht, hkey⟩ := List.mem_map.1 hin
        have heq : t = subnet := congrArg AutoKey.pattern hkey
        exact hnotin (heq ▸ ht)
      rw [hsame]
      exact alreadyChallenged_burst h (hfresh w.db) expiry
    · rw [ih hnodup ((List.mem_cons.1 hmem).resolve_left hs) hwrote.constrained]
      refine exists_ownChallenge_congr (hwrote.others _ fun hin ↦ hs ?_)
      exact congrArg AutoKey.pattern (List.mem_singleton.1 hin)

end Stage

/-! ### Keys of addresses and subnets -/

/-- The key of an address. -/
def ipKey (action : RuleAction) (ip : String) : AutoKey := ⟨.ip, ip, action⟩

/-- The key of the subnet's auto `BLOCK` rule. -/
def blockKey (subnet : String) : AutoKey := ⟨.cidr, subnet, .block⟩

theorem ipKey_injective (action : RuleAction) : (ipKey action).Injective :=
  fun _ _ h ↦ congrArg AutoKey.pattern h

theorem challengeKey_injective : challengeKey.Injective := fun _ _ h ↦ congrArg AutoKey.pattern h

theorem mem_map_ipKey {action : RuleAction} {ips : List String} {k : AutoKey} :
    k ∈ ips.map (ipKey action) ↔ k.ruleType = .ip ∧ k.action = action ∧ k.pattern ∈ ips := by
  rcases k with ⟨ruleType, pattern, action'⟩
  rw [List.mem_map]
  constructor
  · rintro ⟨ip, hip, hkey⟩
    cases hkey
    exact ⟨rfl, rfl, hip⟩
  · rintro ⟨rfl, rfl, hip⟩
    exact ⟨pattern, hip, rfl⟩

theorem mem_map_challengeKey {subnets : List String} {k : AutoKey} :
    k ∈ subnets.map challengeKey ↔
      k.ruleType = .cidr ∧ k.action = .challenge ∧ k.pattern ∈ subnets := by
  rcases k with ⟨ruleType, pattern, action⟩
  rw [List.mem_map]
  constructor
  · rintro ⟨subnet, hsubnet, hkey⟩
    cases hkey
    exact ⟨rfl, rfl, hsubnet⟩
  · rintro ⟨rfl, rfl, hsubnet⟩
    exact ⟨pattern, hsubnet, rfl⟩

/-! ### What a real run loses and gains -/

section Honest

variable (cf) (c : Candidates) (db : Db)

/-- This detector's challenge rule of the subnet is undecided, and active or not. -/
def ownUndecided (isActive : Bool) (subnet : String) : Bool :=
  db.blockRules.any fun r ↦ decide (OwnChallenge subnet r) && !r.reviewStatus.decided &&
    r.isActive == isActive

/-- A crossing a dry run counts and a real run does not: the burst has just created the subnet's
`CHALLENGE` rule, or has switched it off and the crossing is no longer a repeated one. -/
def Candidates.loses (subnet : String) : Bool :=
  c.subnetBurst.contains subnet && (!db.held (challengeKey subnet) ||
    ownUndecided db true subnet && !isActiveOnCreate cf "detect_subnet_burst" &&
      !db.held (blockKey subnet))

/-- A crossing a real run counts and a dry run does not: the burst has switched the subnet's
`CHALLENGE` rule on, so the crossing is a repeated one. -/
def Candidates.gains (subnet : String) : Bool :=
  c.subnetBurst.contains subnet && ownUndecided db false subnet &&
    isActiveOnCreate cf "detect_subnet_burst" && !db.held (blockKey subnet)

/-- The keys the detectors before the crossings write. -/
def Candidates.keysBefore : List AutoKey :=
  c.uaRotation.map (ipKey .challenge) ++ c.subnetBurst.map challengeKey ++
    c.challengeFarms.map (ipKey .block) ++ c.unsolvedIps.map (ipKey .block)

/-- The world once the detectors before the crossings have written. -/
structure BeforeCrossings (w w' : World) : Prop where
  wrote : WroteKeys cf c.keysBefore w w'
  stage : ∀ subnet, alreadyChallenged subnet w'.db = true ↔
    ∃ r ∈ w.db.blockRules, OwnChallenge subnet r ∧
      (if subnet ∈ c.subnetBurst then r.activeAfterBurst cf else r.isActive) = true

variable {cf c} {w w' : World}

theorem mem_keysBefore {k : AutoKey} : k ∈ c.keysBefore ↔
    k.ruleType = .ip ∧ (k.action = .challenge ∧ k.pattern ∈ c.uaRotation ∨
      k.action = .block ∧ (k.pattern ∈ c.challengeFarms ∨ k.pattern ∈ c.unsolvedIps)) ∨
    k.ruleType = .cidr ∧ k.action = .challenge ∧ k.pattern ∈ c.subnetBurst := by
  rw [Candidates.keysBefore, List.mem_append, List.mem_append, List.mem_append, mem_map_ipKey,
    mem_map_ipKey, mem_map_ipKey, mem_map_challengeKey]
  tauto

/-- **What the burst does to one crossing.** -/
theorem BeforeCrossings.lost_gained (hb : BeforeCrossings cf c w w') (h : w.db.Constrained)
    (s : SubnetAggregate) :
    (!w.db.held (s.stageKey w.db) && !!w'.db.held (s.stageKey w'.db)) =
        c.loses cf w.db s.subnet ∧
      (!w'.db.held (s.stageKey w'.db) && !!w.db.held (s.stageKey w.db)) =
        c.gains cf w.db s.subnet := by
  have hstage := hb.stage s.subnet
  have hblock : w'.db.held (blockKey s.subnet) = w.db.held (blockKey s.subnet) := by
    rw [hb.wrote.held, decide_eq_false, Bool.or_false]
    rw [mem_keysBefore]
    simp [blockKey]
  have hchallenge : w'.db.held (challengeKey s.subnet) =
      (w.db.held (challengeKey s.subnet) || c.subnetBurst.contains s.subnet) := by
    rw [hb.wrote.held]
    congr 1
    rw [Bool.eq_iff_iff, decide_eq_true_eq, List.contains_iff_mem, mem_keysBefore]
    simp [challengeKey]
  have hkey : ∀ db : Db, s.stageKey db =
      if alreadyChallenged s.subnet db then blockKey s.subnet else challengeKey s.subnet := by
    intro db
    rw [SubnetAggregate.stageKey, stageAction]
    split <;> rfl
  rw [hkey, hkey, Candidates.loses, Candidates.gains]
  by_cases hown : ∃ r ∈ w.db.blockRules, OwnChallenge s.subnet r
  · -- the detector's rule is one row, so what is asked of it is asked of that row
    obtain ⟨r, hr, hown⟩ := hown
    have honly : ∀ p : BlockRule → Prop, (∃ r' ∈ w.db.blockRules, OwnChallenge s.subnet r' ∧ p r') ↔
        p r := by
      refine fun p ↦ ⟨?_, fun hp ↦ ⟨r, hr, hown, hp⟩⟩
      rintro ⟨r', hr', hown', hp⟩
      rwa [h.eq_of_holds hr hr' hown.1 hown'.1]
    have hbefore : alreadyChallenged s.subnet w.db = r.isActive := by
      rw [Bool.eq_iff_iff, alreadyChallenged_iff h, honly]
    have hafter : alreadyChallenged s.subnet w'.db =
        if c.subnetBurst.contains s.subnet then r.activeAfterBurst cf else r.isActive := by
      rw [Bool.eq_iff_iff, hstage, honly]
      simp only [List.contains_iff_mem]
    have hundecided : ∀ b, ownUndecided w.db b s.subnet =
        (!r.reviewStatus.decided && r.isActive == b) := by
      intro b
      rw [Bool.eq_iff_iff, ownUndecided, List.any_eq_true]
      simp only [Bool.and_eq_true, decide_eq_true_eq, and_assoc]
      exact honly _
    have hheld : w.db.held (challengeKey s.subnet) = true :=
      List.any_eq_true.2 ⟨r, hr, hown.1⟩
    rw [hbefore, hafter, hundecided, hundecided, hheld, BlockRule.activeAfterBurst]
    generalize c.subnetBurst.contains s.subnet = burst at hchallenge
    rcases burst with - | - <;> rcases r.isActive with - | - <;>
      rcases r.reviewStatus.decided with - | - <;>
        rcases isActiveOnCreate cf "detect_subnet_burst" with - | - <;>
          simp [hblock, hchallenge, hheld]
  · have hnone : ∀ p : BlockRule → Prop,
        ¬∃ r ∈ w.db.blockRules, OwnChallenge s.subnet r ∧ p r := by
      rintro p ⟨r, hr, hr', -⟩
      exact hown ⟨r, hr, hr'⟩
    have hbefore : alreadyChallenged s.subnet w.db = false := by
      rw [← Bool.not_eq_true, alreadyChallenged_iff h]
      exact hnone _
    have hafter : alreadyChallenged s.subnet w'.db = false := by
      rw [← Bool.not_eq_true, hstage]
      exact hnone _
    have hundecided : ∀ b, ownUndecided w.db b s.subnet = false := by
      intro b
      rw [ownUndecided, List.any_eq_false]
      intro r hr hp
      simp only [Bool.and_eq_true, decide_eq_true_eq] at hp
      exact hown ⟨r, hr, hp.1.1⟩
    rw [hbefore, hafter, hundecided, hundecided, if_neg Bool.false_ne_true, hchallenge]
    rcases c.subnetBurst.contains s.subnet with - | - <;>
      rcases w.db.held (challengeKey s.subnet) with - | - <;> simp

/-- The detectors before the crossings, in a real run: what they count, and what they leave. -/
theorem beforeCrossings {fresh : Db → Uuid} {env : Env} (hfresh : FreshIds fresh)
    (hc : c.WellFormed) (h : w.db.Constrained) :
    let each := detectEach cf fresh env always false
    let p₁ := each (c.uaRotation.map (uaRotationWrite c.expiry)) w
    let p₂ := each (c.subnetBurst.map fun s ↦ subnetBurstWrite s c.expiry) p₁.2
    let p₃ := each (c.challengeFarms.map (challengeFarmWrite c.expiry)) p₂.2
    let p₄ := each (c.unsolvedIps.map (unsolvedIpWrite c.expiry)) p₃.2
    p₁.1 = (c.uaRotation.countP fun ip ↦ !w.db.held (ipKey .challenge ip)) ∧
      p₂.1 = (c.subnetBurst.countP fun s ↦ !w.db.held (challengeKey s)) ∧
      p₃.1 = (c.challengeFarms.countP fun ip ↦ !w.db.held (ipKey .block ip)) ∧
      p₄.1 = (c.unsolvedIps.countP fun ip ↦
        !(w.db.held (ipKey .block ip) || c.challengeFarms.contains ip)) ∧
      BeforeCrossings cf c w p₄.2 := by
  intro each p₁ p₂ p₃ p₄
  obtain ⟨hua, h₁⟩ : p₁.1 = insertions w.db.held (c.uaRotation.map (ipKey .challenge)) ∧
      WroteKeys cf (c.uaRotation.map (ipKey .challenge)) w p₁.2 :=
    detectEach_map hfresh (fun _ ↦ rfl) (fun _ ↦ MatchType.noConfusion) _ h
  obtain ⟨hburst, h₂⟩ : p₂.1 = insertions p₁.2.db.held (c.subnetBurst.map challengeKey) ∧
      WroteKeys cf (c.subnetBurst.map challengeKey) p₁.2 p₂.2 :=
    detectEach_map hfresh (fun _ ↦ rfl) (fun _ ↦ MatchType.noConfusion) _ h₁.constrained
  obtain ⟨hfarm, h₃⟩ : p₃.1 = insertions p₂.2.db.held (c.challengeFarms.map (ipKey .block)) ∧
      WroteKeys cf (c.challengeFarms.map (ipKey .block)) p₂.2 p₃.2 :=
    detectEach_map hfresh (fun _ ↦ rfl) (fun _ ↦ MatchType.noConfusion) _ h₂.constrained
  obtain ⟨hips, h₄⟩ : p₄.1 = insertions p₃.2.db.held (c.unsolvedIps.map (ipKey .block)) ∧
      WroteKeys cf (c.unsolvedIps.map (ipKey .block)) p₃.2 p₄.2 :=
    detectEach_map hfresh (fun _ ↦ rfl) (fun _ ↦ MatchType.noConfusion) _ h₃.constrained
  refine ⟨?_, ?_, ?_, ?_, ((h₁.append h₂).append h₃).append h₄, fun subnet ↦ ?_⟩
  · rw [hua, insertions_map (ipKey_injective _) hc.uaRotation]
  · rw [hburst, insertions_map challengeKey_injective hc.subnetBurst]
    refine List.countP_congr fun s _ ↦ ?_
    rw [h₁.held]
    simp [mem_map_ipKey, challengeKey]
  · rw [hfarm, insertions_map (ipKey_injective _) hc.challengeFarms]
    refine List.countP_congr fun ip _ ↦ ?_
    rw [(h₁.append h₂).held]
    simp [mem_map_ipKey, mem_map_challengeKey, ipKey]
  · rw [hips, insertions_map (ipKey_injective _) hc.unsolvedIps]
    refine List.countP_congr fun ip _ ↦ ?_
    rw [((h₁.append h₂).append h₃).held]
    simp [mem_map_ipKey, mem_map_challengeKey, ipKey]
  · have hother : ∀ {action : RuleAction} {ips : List String},
        challengeKey subnet ∉ ips.map (ipKey action) := by
      intro action ips hin
      cases (mem_map_ipKey.1 hin).1
    have hlast : alreadyChallenged subnet p₄.2.db = true ↔
        alreadyChallenged subnet p₂.2.db = true := by
      rw [alreadyChallenged_iff h₄.constrained, alreadyChallenged_iff h₂.constrained]
      exact (exists_ownChallenge_congr (h₄.others _ hother)).trans
        (exists_ownChallenge_congr (h₃.others _ hother))
    rw [hlast]
    by_cases hin : subnet ∈ c.subnetBurst
    · simp only [if_pos hin]
      rw [← exists_ownChallenge_congr (h₁.others _ hother)]
      exact alreadyChallenged_bursts hfresh c.expiry hc.subnetBurst hin h₁.constrained
    · simp only [if_neg hin]
      rw [← exists_ownChallenge_congr (h₁.others _ hother), alreadyChallenged_iff h₂.constrained]
      refine exists_ownChallenge_congr (h₂.others _ fun hkey ↦ hin ?_)
      exact (mem_map_challengeKey.1 hkey).2.2

variable (cf c) (dc : DetectorConf) (env : Env) (w)

/-- The address has got a rule of the last detector's action earlier in the run. -/
def Candidates.wroteIp (ip : String) : Bool :=
  if dc.scraper404ActionBlock then c.challengeFarms.contains ip || c.unsolvedIps.contains ip
  else c.uaRotation.contains ip

/-- How many writes come before the last detector. -/
def Candidates.writesBefore : ℕ :=
  c.keysBefore.length + c.unsolvedSubnets.length + c.cloudSpray.length

/-- The tables without the rules `detect_cloud_spray` writes. No detector writes a regular
expression, so of the patterns that are compiled these have what a run leaves of them. -/
def Candidates.leftBySpray : Db :=
  { db with blockRules :=
      db.blockRules.filter fun r ↦ !c.cloudSpray.any fun a ↦ a.key.holds r }

/-- The state in which the last detector of a real run loads the rules, for what that load finds:
each write has invalidated the cache once. -/
def Candidates.beforeLast (w : World) : World :=
  { (invalidateRuleCache cf)^[c.writesBefore] w with db := c.leftBySpray w.db }

/-- **When a dry run counts right.** The per-IP half of `detect_unsolved_challenges` loses the
addresses that the challenge farms have and no auto `BLOCK` rule has, its crossings lose and gain
what the burst makes of their subnets, and it is as much of the one as of the other. What
`detect_cloud_spray` has new it has once, and before it neither the burst nor a crossing has it. And
as many candidates of `detect_scraper_404_ratio` are new and kept by the allow rules of the rule
cache as it is, as are new, not written before and kept by those of the cache as it is after the
run's writes; where the load raises none are kept. -/
structure Candidates.Honest : Prop where
  unsolved :
    (c.unsolvedIps.countP fun ip ↦ !w.db.held (ipKey .block ip) && c.challengeFarms.contains ip) +
        (c.unsolvedSubnets.countP fun s ↦ c.loses cf w.db s.subnet) =
      c.unsolvedSubnets.countP fun s ↦ c.gains cf w.db s.subnet
  spray_nodup : ((c.cloudSpray.map AutoRuleWrite.key).filter fun k ↦ !w.db.held k).Nodup
  spray_first : ∀ a ∈ c.cloudSpray, w.db.held a.key = false → a.ruleType = .cidr →
    a.pattern ∉ c.subnetBurst ∧ a.pattern ∉ c.unsolvedSubnets.map SubnetAggregate.subnet
  scraper : cf.hasRedis = true →
    ((keptByLoad cf env w c.scraper404).countP fun ip ↦
        !w.db.held (scraper404Write dc c.expiry ip).key) =
      (keptByLoad cf env (c.beforeLast cf w) c.scraper404).countP fun ip ↦
        !w.db.held (scraper404Write dc c.expiry ip).key && !c.wroteIp dc ip

variable {cf c dc env w}

/-- The two halves of `detect_unsolved_challenges`. -/
theorem BeforeCrossings.unsolved_iff (hb : BeforeCrossings cf c w w') (h : w.db.Constrained) :
    (c.unsolvedIps.countP fun ip ↦ !w.db.held (ipKey .block ip)) +
          (c.unsolvedSubnets.countP fun s ↦ !w.db.held (s.stageKey w.db)) =
        (c.unsolvedIps.countP fun ip ↦
          !(w.db.held (ipKey .block ip) || c.challengeFarms.contains ip)) +
          (c.unsolvedSubnets.countP fun s ↦ !w'.db.held (s.stageKey w'.db)) ↔
      (c.unsolvedIps.countP fun ip ↦
          !w.db.held (ipKey .block ip) && c.challengeFarms.contains ip) +
          (c.unsolvedSubnets.countP fun s ↦ c.loses cf w.db s.subnet) =
        c.unsolvedSubnets.countP fun s ↦ c.gains cf w.db s.subnet := by
  have hips := countP_add_countP_only (fun ip ↦ !w.db.held (ipKey .block ip))
    (fun ip ↦ !(w.db.held (ipKey .block ip) || c.challengeFarms.contains ip)) c.unsolvedIps
  have hnone : (c.unsolvedIps.countP fun ip ↦ !(w.db.held (ipKey .block ip) ||
      c.challengeFarms.contains ip) && !!w.db.held (ipKey .block ip)) = 0 := by
    rw [List.countP_eq_zero]
    intro ip _
    rcases w.db.held (ipKey .block ip) with - | - <;> simp
  have hlost : (c.unsolvedIps.countP fun ip ↦ !w.db.held (ipKey .block ip) &&
      !!(w.db.held (ipKey .block ip) || c.challengeFarms.contains ip)) =
      c.unsolvedIps.countP fun ip ↦
        !w.db.held (ipKey .block ip) && c.challengeFarms.contains ip := by
    refine List.countP_congr fun ip _ ↦ ?_
    rcases w.db.held (ipKey .block ip) with - | - <;> simp
  have hsubnets := countP_add_countP_only (fun s : SubnetAggregate ↦ !w.db.held (s.stageKey w.db))
    (fun s ↦ !w'.db.held (s.stageKey w'.db)) c.unsolvedSubnets
  simp only [(hb.lost_gained h _).1, (hb.lost_gained h _).2] at hsubnets
  rw [hnone, hlost] at hips
  omega

/-- A crossing of a subnet without an auto `CHALLENGE` rule is a first one, whatever the burst did.
-/
theorem BeforeCrossings.stageKey_eq (hb : BeforeCrossings cf c w w') {s : SubnetAggregate}
    (hheld : w.db.held (challengeKey s.subnet) = false) :
    s.stageKey w'.db = challengeKey s.subnet := by
  have hfirst : ¬alreadyChallenged s.subnet w'.db = true := by
    rw [hb.stage]
    rintro ⟨r, hr, hown, -⟩
    exact List.any_eq_false.1 hheld r hr hown.1
  rw [SubnetAggregate.stageKey, stageAction, if_neg hfirst]
  rfl

/-- `detect_cloud_spray`, after the crossings. -/
theorem BeforeCrossings.spray_iff (hb : BeforeCrossings cf c w w') (hc : c.WellFormed)
    {w'' : World} (hwrote : WroteKeys cf
      (c.keysBefore ++ c.unsolvedSubnets.map (SubnetAggregate.stageKey w'.db)) w w'') :
    (c.cloudSpray.countP fun a ↦ !w.db.held a.key) =
        insertions w''.db.held (c.cloudSpray.map AutoRuleWrite.key) ↔
      ((c.cloudSpray.map AutoRuleWrite.key).filter fun k ↦ !w.db.held k).Nodup ∧
        ∀ a ∈ c.cloudSpray, w.db.held a.key = false → a.ruleType = .cidr →
          a.pattern ∉ c.subnetBurst ∧
            a.pattern ∉ c.unsolvedSubnets.map SubnetAggregate.subnet := by
  have hcount : (c.cloudSpray.countP fun a ↦ !w.db.held a.key) =
      (c.cloudSpray.map AutoRuleWrite.key).countP fun k ↦ !w.db.held k := by
    rw [List.countP_map]
    rfl
  rw [hcount, eq_comm, insertions_congr fun k _ ↦ hwrote.held k, insertions_eq_countP_iff]
  refine and_congr_right fun _ ↦ ?_
  have hmem : ∀ a ∈ c.cloudSpray, w.db.held a.key = false → (a.key ∈ c.keysBefore ++
      c.unsolvedSubnets.map (SubnetAggregate.stageKey w'.db) ↔ a.ruleType = .cidr ∧
        (a.pattern ∈ c.subnetBurst ∨
          a.pattern ∈ c.unsolvedSubnets.map SubnetAggregate.subnet)) := by
    intro a ha hheld
    obtain ⟨haction, hua | hcidr⟩ := hc.cloudSpray a ha
    · refine iff_of_false ?_ fun h ↦ by rw [hua] at h; cases h.1
      rw [List.mem_append, mem_keysBefore, not_or]
      refine ⟨by simp [AutoRuleWrite.key, hua], fun hin ↦ ?_⟩
      obtain ⟨s, -, hkey⟩ := List.mem_map.1 hin
      have htype : RuleType.cidr = a.ruleType := congrArg AutoKey.ruleType hkey
      rw [hua] at htype
      cases htype
    · have hkey : a.key = challengeKey a.pattern := by
        rw [AutoRuleWrite.key, hcidr, haction]
        rfl
      rw [hkey] at hheld
      rw [List.mem_append, mem_keysBefore, hkey, and_iff_right hcidr]
      refine or_congr (by simp [challengeKey]) ?_
      rw [List.mem_map, List.mem_map]
      refine exists_congr fun s ↦ and_congr_right fun _ ↦ ?_
      constructor
      · exact fun h ↦ congrArg AutoKey.pattern h
      · intro hs
        rw [← hs] at hheld ⊢
        exact hb.stageKey_eq hheld
  constructor
  · intro hall a ha hheld hcidr
    have hnot := hall a.key (List.mem_filter.2 ⟨List.mem_map.2 ⟨a, ha, rfl⟩, by rw [hheld]; rfl⟩)
    rw [decide_eq_false_iff_not, hmem a ha hheld] at hnot
    rw [← not_or]
    exact fun hor ↦ hnot ⟨hcidr, hor⟩
  · intro hall k hk
    obtain ⟨hk, hlacks⟩ := List.mem_filter.1 hk
    obtain ⟨a, ha, rfl⟩ := List.mem_map.1 hk
    have hheld : w.db.held a.key = false := Bool.not_eq_true' _ ▸ hlacks
    rw [decide_eq_false_iff_not, hmem a ha hheld]
    rintro ⟨hcidr, hor⟩
    obtain ⟨hburst, hsubnet⟩ := hall a ha hheld hcidr
    exact hor.elim hburst hsubnet

/-- `detect_scraper_404_ratio` with a Redis client, in a dry run. -/
theorem detectScraper404Ratio_dry {fresh : Db → Uuid}
    (hruns : ¬(c.scraper404 = [] ∨ cf.hasRedis = false)) :
    (detectScraper404Ratio cf fresh env dc true c.expiry c.scraper404 w).1 =
      (keptByLoad cf env w c.scraper404).countP
        fun ip ↦ !w.db.held (scraper404Write dc c.expiry ip).key := by
  rw [detectScraper404Ratio, if_neg hruns, tryLoadRuleCache_eq, keptByLoad]
  rcases loadRaises cf env w with - | -
  · obtain ⟨k, hk⟩ := redis_loadRuleCache env w
    have hdb : (loadRuleCache env w).2.db = w.db := (sameVerdicts_loadRuleCache env w).db
    refine (detectEach_unlessAllowed_dry dc c.expiry (loadRuleCache env w).1.allowRules c.scraper404
      (loadRuleCache env w).2).1.trans ?_
    rw [hk, keptCandidates_withRules, hdb]
    rfl
  · rfl

/-- `detect_scraper_404_ratio` with a Redis client, in a real run. -/
theorem detectScraper404Ratio_real {fresh : Db → Uuid} (hfresh : FreshIds fresh)
    (hc : c.WellFormed) (h : w.db.Constrained)
    (hruns : ¬(c.scraper404 = [] ∨ cf.hasRedis = false)) :
    (detectScraper404Ratio cf fresh env dc false c.expiry c.scraper404 w).1 =
      (keptByLoad cf env w c.scraper404).countP
        fun ip ↦ !w.db.held (scraper404Write dc c.expiry ip).key := by
  rw [detectScraper404Ratio, if_neg hruns, tryLoadRuleCache_eq, keptByLoad]
  rcases loadRaises cf env w with - | -
  · obtain ⟨k, hk⟩ := redis_loadRuleCache env w
    have hdb : (loadRuleCache env w).2.db = w.db := (sameVerdicts_loadRuleCache env w).db
    have hinj : Function.Injective fun ip ↦ (scraper404Write dc c.expiry ip).key :=
      ipKey_injective _
    refine (detectEach_unlessAllowed dc c.expiry (loadRuleCache env w).1.allowRules hfresh
      c.scraper404 (hdb ▸ h)).trans ?_
    rw [insertions_map hinj ((keptCandidates_sublist _ _ _).nodup hc.scraper404), hk,
      keptCandidates_withRules, hdb]
    rfl
  · rfl

/-- **What the writes leave for the load to compile**: they are found by their keys, and of the keys
of ua rules only `detect_cloud_spray` writes any. -/
theorem WroteKeys.compileRaises {ks : List AutoKey} (hwrote : WroteKeys cf ks w w')
    (hua : ∀ k : AutoKey, k.ruleType = .ua →
      (k ∈ ks ↔ k ∈ c.cloudSpray.map AutoRuleWrite.key)) (now : ℚ) :
    compileUaPatternsRaises cf (w'.db.ruleSet now).blockRules =
      compileUaPatternsRaises cf ((c.leftBySpray w.db).ruleSet now).blockRules := by
  rw [Bool.eq_iff_iff, compileUaPatternsRaises_ruleSet_iff, compileUaPatternsRaises_ruleSet_iff]
  refine exists_congr fun r ↦ ?_
  by_cases hr : r.ruleType = .ua ∧ r.matchType = .regex
  · refine and_congr_left fun _ ↦ (hwrote.regexes r hr.2).trans ?_
    rw [Candidates.leftBySpray, List.mem_filter, Bool.not_eq_true', List.any_eq_false]
    refine and_congr_right fun _ ↦ ⟨fun hnone a ha hholds ↦ ?_, fun hnone k hk ↦ ?_⟩
    · have htype : a.key.ruleType = .ua :=
        (congrArg AutoKey.ruleType (AutoKey.holds_iff.1 hholds).2).symm.trans hr.1
      rw [hnone a.key ((hua a.key htype).2 (List.mem_map_of_mem ha))] at hholds
      cases hholds
    · refine Bool.eq_false_of_not_eq_true fun hholds ↦ ?_
      have htype : k.ruleType = .ua :=
        (congrArg AutoKey.ruleType (AutoKey.holds_iff.1 hholds).2).symm.trans hr.1
      obtain ⟨a, ha, rfl⟩ := List.mem_map.1 ((hua k htype).1 hk)
      exact hnone a ha hholds
  · exact iff_of_false (fun h ↦ hr ⟨h.2.2.1, h.2.2.2.1⟩) fun h ↦ hr ⟨h.2.2.1, h.2.2.2.1⟩

/-- The last detector of a real run keeps what it would keep in the state that is written down for
it. -/
theorem WroteKeys.keptByLoad_eq {ks : List AutoKey} (hwrote : WroteKeys cf ks w w')
    (hlen : ks.length = c.writesBefore)
    (hua : ∀ k : AutoKey, k.ruleType = .ua →
      (k ∈ ks ↔ k ∈ c.cloudSpray.map AutoRuleWrite.key)) (cs : List (String × List String)) :
    keptByLoad cf env w' cs = keptByLoad cf env (c.beforeLast cf w) cs := by
  have hframe : w' = { c.beforeLast cf w with db := w'.db } := by
    rw [Candidates.beforeLast, ← hlen]
    exact hwrote.frame
  have hprocess : w'.process = (c.beforeLast cf w).process := by rw [hframe]
  have hredis : w'.redis = (c.beforeLast cf w).redis := by rw [hframe]
  have hkeys : w'.redis.rules = (c.beforeLast cf w).redis.rules := by rw [hredis]
  rw [keptByLoad, keptByLoad, hredis,
    loadRaises_congr hprocess hkeys (hwrote.compileRaises hua env.now),
    allowRules_loadRuleCache hprocess hkeys hwrote.allowRules]

/-- `detect_scraper_404_ratio`, after all the others. -/
theorem scraper_iff {fresh : Db → Uuid} (hfresh : FreshIds fresh) (hc : c.WellFormed)
    {ks : List AutoKey} (hwrote : WroteKeys cf ks w w') (hlen : ks.length = c.writesBefore)
    (hua : ∀ k : AutoKey, k.ruleType = .ua →
      (k ∈ ks ↔ k ∈ c.cloudSpray.map AutoRuleWrite.key))
    (hks : ∀ ip, (scraper404Write dc c.expiry ip).key ∈ ks ↔ c.wroteIp dc ip = true) :
    (detectScraper404Ratio cf fresh env dc true c.expiry c.scraper404 w).1 =
        (detectScraper404Ratio cf fresh env dc false c.expiry c.scraper404 w').1 ↔
      (cf.hasRedis = true →
        ((keptByLoad cf env w c.scraper404).countP fun ip ↦
            !w.db.held (scraper404Write dc c.expiry ip).key) =
          (keptByLoad cf env (c.beforeLast cf w) c.scraper404).countP fun ip ↦
            !w.db.held (scraper404Write dc c.expiry ip).key && !c.wroteIp dc ip) := by
  by_cases hskip : c.scraper404 = [] ∨ cf.hasRedis = false
  · rw [detectScraper404Ratio, detectScraper404Ratio, if_pos hskip, if_pos hskip]
    refine iff_of_true rfl fun hredis ↦ ?_
    rcases hskip with hnil | hno
    · rw [hnil, keptByLoad, keptByLoad, keptCandidates, keptCandidates, ite_self, ite_self]
      rfl
    · rw [hno] at hredis
      cases hredis
  · have hredis : cf.hasRedis = true := Bool.not_eq_false _ ▸ (not_or.1 hskip).2
    rw [forall_prop_of_true hredis, detectScraper404Ratio_dry hskip,
      detectScraper404Ratio_real hfresh hc hwrote.constrained hskip,
      hwrote.keptByLoad_eq hlen hua]
    refine Eq.congr_right (List.countP_congr fun ip _ ↦ ?_)
    have hwroteIp : decide ((scraper404Write dc c.expiry ip).key ∈ ks) = c.wroteIp dc ip := by
      rw [Bool.eq_iff_iff, decide_eq_true_eq, hks]
    rw [hwrote.held, hwroteIp, Bool.not_or]

/-- A dry run writes no rule. -/
theorem db_detectScraper404Ratio_dry {fresh : Db → Uuid} :
    (detectScraper404Ratio cf fresh env dc true c.expiry c.scraper404 w).2.db = w.db := by
  rw [detectScraper404Ratio, tryLoadRuleCache_eq]
  have hdb : (loadRuleCache env w).2.db = w.db := (sameVerdicts_loadRuleCache env w).db
  split
  · rfl
  · split
    · rename_i hload
      split at hload
      · cases hload
        exact hdb
      · cases hload
    · rename_i hload
      split at hload
      · cases hload
      · cases hload
        exact (detectEach_unlessAllowed_dry dc c.expiry _ c.scraper404 _).2.trans hdb

/-- **The keys before the last detector** are of addresses where it matters to that detector. -/
theorem scraper_key_mem {db : Db} (hc : c.WellFormed) (ip : String) :
    (scraper404Write dc c.expiry ip).key ∈ c.keysBefore ++
        c.unsolvedSubnets.map (SubnetAggregate.stageKey db) ++
        c.cloudSpray.map AutoRuleWrite.key ↔ c.wroteIp dc ip = true := by
  have hsubnets : (scraper404Write dc c.expiry ip).key ∉
      c.unsolvedSubnets.map (SubnetAggregate.stageKey db) := by
    intro hin
    obtain ⟨s, -, hkey⟩ := List.mem_map.1 hin
    cases congrArg AutoKey.ruleType hkey
  have hspray : (scraper404Write dc c.expiry ip).key ∉ c.cloudSpray.map AutoRuleWrite.key := by
    intro hin
    obtain ⟨a, ha, hkey⟩ := List.mem_map.1 hin
    have htype : a.ruleType = .ip := congrArg AutoKey.ruleType hkey
    rcases (hc.cloudSpray a ha).2 with h | h <;> rw [h] at htype <;> cases htype
  rw [List.mem_append, List.mem_append, or_iff_left hspray, or_iff_left hsubnets, mem_keysBefore,
    Candidates.wroteIp]
  show _ ↔ (if dc.scraper404ActionBlock then _ else _) = true
  have hkey : (scraper404Write dc c.expiry ip).key =
      ipKey (if dc.scraper404ActionBlock then .block else .challenge) ip := rfl
  rw [hkey]
  rcases dc.scraper404ActionBlock with - | - <;> simp [ipKey]

/-- Of the keys of ua rules only `detect_cloud_spray` writes any. -/
theorem uaKey_mem {db : Db} {k : AutoKey} (hk : k.ruleType = .ua) :
    k ∈ c.keysBefore ++ c.unsolvedSubnets.map (SubnetAggregate.stageKey db) ++
        c.cloudSpray.map AutoRuleWrite.key ↔ k ∈ c.cloudSpray.map AutoRuleWrite.key := by
  have hbefore : k ∉ c.keysBefore := by simp [mem_keysBefore, hk]
  have hsubnets : k ∉ c.unsolvedSubnets.map (SubnetAggregate.stageKey db) := by
    intro hin
    obtain ⟨s, -, rfl⟩ := List.mem_map.1 hin
    cases hk
  rw [List.mem_append, List.mem_append, or_iff_right (not_or.2 ⟨hbefore, hsubnets⟩)]

/-- **When a dry run is honest**, on given candidates. -/
theorem runDetectors_honest_iff {fresh : Db → Uuid} (hfresh : FreshIds fresh) (hc : c.WellFormed)
    (h : w.db.Constrained) :
    (runDetectors cf dc fresh env c true w).2.db = w.db ∧
      ((runDetectors cf dc fresh env c true w).1 = (runDetectors cf dc fresh env c false w).1 ↔
        c.Honest cf w dc env) := by
  have hdry : runDetectors cf dc fresh env c true w = (.of
      (c.uaRotation.countP fun ip ↦ !w.db.held (ipKey .challenge ip))
      (c.subnetBurst.countP fun s ↦ !w.db.held (challengeKey s))
      (c.challengeFarms.countP fun ip ↦ !w.db.held (ipKey .block ip))
      ((c.unsolvedIps.countP fun ip ↦ !w.db.held (ipKey .block ip)) +
        (c.unsolvedSubnets.countP fun s ↦ !w.db.held (s.stageKey w.db)))
      (c.cloudSpray.countP fun a ↦ !w.db.held a.key)
      (detectScraper404Ratio cf fresh env dc true c.expiry c.scraper404 w).1,
      (detectScraper404Ratio cf fresh env dc true c.expiry c.scraper404 w).2) := by
    simp only [runDetectors, detectEach_always_dry, detectEach_atStage_dry, List.countP_map]
    rfl
  refine ⟨by rw [hdry]; exact db_detectScraper404Ratio_dry, ?_⟩
  set p₁ := detectEach cf fresh env always false (c.uaRotation.map (uaRotationWrite c.expiry)) w
  set p₂ := detectEach cf fresh env always false
    (c.subnetBurst.map fun s ↦ subnetBurstWrite s c.expiry) p₁.2
  set p₃ := detectEach cf fresh env always false
    (c.challengeFarms.map (challengeFarmWrite c.expiry)) p₂.2
  set p₄ := detectEach cf fresh env always false
    (c.unsolvedIps.map (unsolvedIpWrite c.expiry)) p₃.2
  set p₅ := detectEach cf fresh env (atStage c.expiry) false c.unsolvedSubnets p₄.2
  set p₆ := detectEach cf fresh env always false c.cloudSpray p₅.2
  have hreal : (runDetectors cf dc fresh env c false w).1 = .of p₁.1 p₂.1 p₃.1 (p₄.1 + p₅.1) p₆.1
      (detectScraper404Ratio cf fresh env dc false c.expiry c.scraper404 p₆.2).1 := rfl
  obtain ⟨hua, hburst, hfarm, hips, hb⟩ : p₁.1 = _ ∧ p₂.1 = _ ∧ p₃.1 = _ ∧ p₄.1 = _ ∧
    BeforeCrossings cf c w p₄.2 := beforeCrossings hfresh hc h
  obtain ⟨hcross, h₅⟩ : p₅.1 = _ ∧ WroteKeys cf _ p₄.2 p₅.2 :=
    detectEach_atStage hfresh c.expiry c.unsolvedSubnets hc.unsolvedSubnets hb.wrote.constrained
  obtain ⟨hspray, h₆⟩ : p₆.1 = _ ∧ WroteKeys cf _ p₅.2 p₆.2 :=
    detectEach_always hfresh hc.cloudSpray_plain h₅.constrained
  have hwrote := (hb.wrote.append h₅).append h₆
  have hunsolved := hb.unsolved_iff h
  have hsprays := hb.spray_iff hc (hb.wrote.append h₅)
  have hlen : (c.keysBefore ++ c.unsolvedSubnets.map (SubnetAggregate.stageKey p₄.2.db) ++
      c.cloudSpray.map AutoRuleWrite.key).length = c.writesBefore := by
    rw [List.length_append, List.length_append, List.length_map, List.length_map,
      Candidates.writesBefore]
  have hscraper : (detectScraper404Ratio cf fresh env dc true c.expiry c.scraper404 w).1 =
      (detectScraper404Ratio cf fresh env dc false c.expiry c.scraper404 p₆.2).1 ↔ _ :=
    scraper_iff hfresh hc hwrote hlen (fun _ ↦ uaKey_mem) (scraper_key_mem hc)
  rw [hdry, hreal, hua, hburst, hfarm, hips, hcross, hspray]
  constructor
  · intro heq
    have hcloud := hsprays.1 (congrArg Findings.cloudSprayRules heq)
    exact ⟨hunsolved.1 (congrArg Findings.unsolvedChallengeRules heq), hcloud.1, hcloud.2,
      hscraper.1 (congrArg Findings.scraper404Rules heq)⟩
  · intro hh
    rw [hunsolved.2 hh.unsolved, hsprays.2 ⟨hh.spray_nodup, hh.spray_first⟩,
      hscraper.2 hh.scraper]

end Honest

/-- **When a dry run is honest.** For every state of Redis, every constrained table of rules, every
traffic, configuration and window: `run_all_detectors(dry_run=True)` leaves the tables as they are,
and returns the counts that a real run on the same state at the same time returns exactly when the
candidates of the run are honest. -/
theorem dry_run_honest_iff {cf : Conf} {dc : DetectorConf} {fresh : Db → Uuid} {env : Env}
    {t : Traffic} {window : Option ℤ} {w : World} (hfresh : FreshIds fresh)
    (h : w.db.Constrained) :
    (runAllDetectors cf dc fresh env t window true w).2.db = w.db ∧
      ((runAllDetectors cf dc fresh env t window true w).1 =
          (runAllDetectors cf dc fresh env t window false w).1 ↔
        (Candidates.ofTraffic dc t window env.now).Honest cf w dc env) :=
  runDetectors_honest_iff hfresh (wellFormed_ofTraffic dc t window env.now) h

/-! #### One subnet -/

/-- A primary key that no row has. -/
def nextId (db : Db) : Uuid := db.blockRules.foldr (fun r next ↦ max (r.id + 1) next) 0

theorem freshIds_nextId : FreshIds nextId := by
  have hlt : ∀ rules : List BlockRule, ∀ r ∈ rules,
      r.id < rules.foldr (fun r next ↦ max (r.id + 1) next) 0 := by
    intro rules
    induction rules with
    | nil => exact fun _ hr ↦ (List.not_mem_nil hr).elim
    | cons s rules ih =>
      intro r hr
      rw [List.foldr_cons]
      rcases List.mem_cons.1 hr with rfl | hr
      · exact lt_of_lt_of_le (Nat.lt_succ_self r.id) (le_max_left _ _)
      · exact lt_of_lt_of_le (ih r hr) (le_max_right _ _)
  exact fun db r hr ↦ (hlt db.blockRules r hr).ne

/-- Thresholds that two requests reach. -/
def twoRequests : DetectorConf :=
  { DetectorConf.defaults with subnetBurstMinCount := 2, cloudSprayMinIps := 2 }

/-- A request for the front page, with a referer. -/
def loggedRequest (ip referer : String) : RequestLog :=
  ⟨0, ip, "curl/8.5", "/", .allowed, some 200, referer, .middleware⟩

/-- Two addresses of one subnet, with one user agent and some referer. -/
def oneSubnet (referer : String) : Traffic where
  requestLogs := [loggedRequest "192.0.2.1" referer, loggedRequest "192.0.2.2" referer]
  ipReputations := []
  challengeTokens := []
  ipReputations_nodup := List.nodup_nil

/-- The counts of a run of the detectors over that traffic, a minute later. -/
def oneSubnetFindings (referer : String) (dryRun : Bool) : Findings :=
  (runAllDetectors plainConf twoRequests nextId (Env.plain 60) (oneSubnet referer) none dryRun
    (World.start ⟨[], []⟩)).1

/-- The requests come from a page of another site: only the burst sees them, and the dry run is
honest. -/
theorem dry_run_honest_one_burst :
    oneSubnetFindings "https://example.org/links" true =
      oneSubnetFindings "https://example.org/links" false := by
  have hempty : (World.start ⟨[], []⟩).db.Constrained :=
    ⟨fun _ h ↦ (List.not_mem_nil h).elim, fun _ ↦ Nat.zero_le 1⟩
  exact (dry_run_honest_iff freshIds_nextId hempty).2.2
    ⟨by decide +kernel, by decide +kernel, by decide +kernel, by decide +kernel⟩

/-- **A dry run that is not honest.** The requests have no referer: the burst and the spray both
have the subnet. The dry run announces two rules, and the real run creates one. -/
theorem dry_run_counts_twice :
    oneSubnetFindings "" true = .of 0 1 0 0 1 0 ∧ oneSubnetFindings "" false = .of 0 1 0 0 0 0 ∧
      oneSubnetFindings "" true ≠ oneSubnetFindings "" false := by
  have hdry : oneSubnetFindings "" true = .of 0 1 0 0 1 0 := by decide +kernel
  have hreal : oneSubnetFindings "" false = .of 0 1 0 0 0 0 := by decide +kernel
  refine ⟨hdry, hreal, ?_⟩
  rw [hdry, hreal]
  decide

end DjangoWaf
