import DjangoWaf.Lib.FirstMatch
import DjangoWaf.Middleware

/-!
# Rules of equal priority

`BlockRule.objects.active()` orders by priority and by nothing else, so a database may return rows
of equal priority in any order, and evaluation goes by the first match. The order a database returns
is the order of the table, sorted by priority; every sorted arrangement of the active rows comes
from some order of the table (`exists_table_of_order`).

`order_free_iff` says when the verdict does not depend on that order: when the tables are not read,
when the request is answered before the block rules, or when all the lowest matching rows come to
one outcome. A composite rule whose expression makes `re` raise ends the search like a match, and
its outcome is the exception; one of a `ua` rule is compiled with the load, which then raises under
every order. A detector's challenge beside a block of the same pattern has the same default priority
and leads to another verdict, so a promoted subnet is blocked or challenged as the database pleases.
-/

namespace DjangoWaf

open FirstMatch

variable (cf : Conf) (env : Env)

/-- The verdict of an evaluation. -/
def verdictOf (x : Except PyError Evaluated × World) : Except PyError Verdict :=
  x.1.map fun e ↦ e.result.verdict

/-- A verdict after the gate: a challenge becomes a block from the threshold on. -/
def gatedVerdict (count : ℕ) (v : Verdict) : Verdict :=
  if v = .challenged ∧ cf.challengeEscalationThreshold ≤ count then .blocked else v

/-! ### The gate and the verdict -/

/-- **The verdict is the ungated one, gated**, with the count the request found. -/
theorem verdictOf_evaluateRequest {q : Query} {fp : FingerprintVerdict}
    (h : classifyFingerprint q.userAgent q.requestMeta = .ok fp) (w : World) :
    verdictOf (evaluateRequest cf env q w) =
      (verdictOf (ungated cf env q w)).map
        (gatedVerdict cf (unsolvedCount env q.ipAddress fp w.redis)) := by
  have hsame := sameVerdicts_ungated cf env q w
  rw [evaluateRequest_of_classified cf env h]
  rcases hun : ungated cf env q w with ⟨x | e, w₁⟩
  · rfl
  · rw [hun] at hsame
    have hcount : unsolvedCount env q.ipAddress fp w₁.redis =
        unsolvedCount env q.ipAddress fp w.redis :=
      unsolvedCount_congr env hsame.challenged hsame.solved q.ipAddress fp
    by_cases hv : e.result.verdict = .challenged
    · simp only [applyGate, hv, if_true]
      rcases gateChallengeOrEscalate_cases cf env q.ipAddress fp e w₁ with
        ⟨hlt, hgate⟩ | ⟨hge, rule, w₂, -, hgate⟩
      · rw [hgate]
        show Except.ok e.result.verdict = .ok (gatedVerdict cf _ e.result.verdict)
        rw [gatedVerdict, if_neg fun hall ↦ absurd hall.2 (by rw [← hcount]; omega)]
      · rw [hgate]
        show Except.ok Verdict.blocked = .ok (gatedVerdict cf _ e.result.verdict)
        rw [gatedVerdict, if_pos ⟨hv, hcount ▸ hge⟩]
    · simp only [applyGate, hv, if_false]
      show Except.ok e.result.verdict = .ok (gatedVerdict cf _ e.result.verdict)
      rw [gatedVerdict, if_neg fun hall ↦ hv hall.1]

/-! ### Evaluation over loaded rules

What evaluation answers is a function of the rules it has loaded and of the keys outside the rule
cache. -/

/-- The ungated answer over some rules. -/
def answerWith (q : Query) (rules : RuleSet) (redis : Redis) : Except PyError Evaluated :=
  match checkAllowRules cf env q.ipAddress q.userAgent rules.allowRules redis with
  | (.error x, _) => .error x
  | (.ok (some rule), _) =>
    .ok ⟨⟨.passed, none, some rule.id, .allow, none, none, none⟩, .allowRule⟩
  | (.ok none, redis') =>
    (evaluateBlocks cf env (fun e w ↦ (e, w)) q ⟨rules, 0⟩ ⟨redis', ⟨[], []⟩, fun _ ↦ none⟩).1

/-- The steps after the block rules look neither at the rule-cache keys nor at the tables. -/
theorem evaluateUnmatched_congr (q : Query) (k : RuleKeys) (redis : Redis) (db db' : Db)
    (process process' : ℕ → Option RuleCache) :
    (evaluateUnmatched cf env (fun e w ↦ (e, w)) q ⟨{ redis with rules := k }, db, process⟩).1 =
      (evaluateUnmatched cf env (fun e w ↦ (e, w)) q ⟨redis, db', process'⟩).1 := by
  have hscore : ∀ redis : Redis,
      totalScore cf env q { redis with rules := k } = totalScore cf env q redis := fun _ ↦ rfl
  simp only [evaluateUnmatched, World.withRedis]
  rcases checkRateLimit cf.toRateLimitConf env.drop q.ipAddress redis.rate env.now q.path q.method
    with ⟨rate, store⟩
  simp only
  rw [hscore { redis with rate := store }]
  split
  · rfl
  · split
    · rfl
    · split
      · rfl
      · split
        · split <;> rfl
        · rfl

/-- The blocks look neither at the rule-cache keys nor at the tables. -/
theorem evaluateBlocks_congr (q : Query) (rules : RuleSet) (version version' : ℕ) (k : RuleKeys)
    (redis : Redis) (db db' : Db) (process process' : ℕ → Option RuleCache) :
    (evaluateBlocks cf env (fun e w ↦ (e, w)) q ⟨rules, version⟩
        ⟨{ redis with rules := k }, db, process⟩).1 =
      (evaluateBlocks cf env (fun e w ↦ (e, w)) q ⟨rules, version'⟩ ⟨redis, db', process'⟩).1 := by
  simp only [evaluateBlocks, checkBlockedIp, checkBlockRules_eq]
  rcases redis.blocked.get env.now q.ipAddress with - | value
  · simp only [Option.map_none]
    rcases rules.blockRules.find? _ with - | rule
    · exact evaluateUnmatched_congr cf env q k redis db db' process process'
    · rcases hraises : rule.toCriterion.raises cf with - | -
      · simp only [hraises, Bool.false_eq_true, if_false]
        split <;> rfl
      · simp only [hraises, if_true]
  · rcases value with - | id | - <;> rfl

/-- **The ungated answer is the answer over the rules the load returns**, where it returns any. -/
theorem ungated_eq_answerWith (q : Query) (w : World) :
    (ungated cf env q w).1 = if loadRaises cf env w then .error .patternError
      else answerWith cf env q (loadRuleCache env w).1.toRuleSet w.redis := by
  have hload : ∃ k, (loadRuleCache env w).2.redis = { w.redis with rules := k } := by
    rcases loadRuleCache_cases env w with ⟨c, -, -, h⟩ | ⟨r, -, h⟩ | h
    · exact ⟨w.redis.rules, by rw [h]⟩
    · exact ⟨w.redis.rules, by rw [h]; rfl⟩
    · exact ⟨_, by rw [h]; rfl⟩
  obtain ⟨k, hk⟩ := hload
  rcases hraises : loadRaises cf env w with - | -
  case true => simp only [ungated, evaluateSteps, tryLoadRuleCache_eq, hraises, if_true]
  rcases hl : loadRuleCache env w with ⟨cache, w₁⟩
  rw [hl] at hk
  simp only [ungated, evaluateSteps, answerWith, tryLoadRuleCache_eq, hraises, hl,
    Bool.false_eq_true, if_false]
  rw [hk, checkAllowRules_rules cf env]
  rcases checkAllowRules cf env q.ipAddress q.userAgent cache.allowRules w.redis with
    ⟨x | (- | rule), redis⟩
  · rfl
  · exact evaluateBlocks_congr cf env q cache.toRuleSet cache.version 0 k redis w₁.db _ w₁.process _
  · rfl

/-- The verdict of a classified request is the answer over the loaded rules, gated. -/
theorem verdictOf_eq_answerWith {q : Query} {fp : FingerprintVerdict}
    (h : classifyFingerprint q.userAgent q.requestMeta = .ok fp) (w : World) :
    verdictOf (evaluateRequest cf env q w) =
      ((if loadRaises cf env w then .error .patternError
        else answerWith cf env q (loadRuleCache env w).1.toRuleSet w.redis).map
          fun e ↦ e.result.verdict).map
            (gatedVerdict cf (unsolvedCount env q.ipAddress fp w.redis)) := by
  rw [verdictOf_evaluateRequest cf env h, verdictOf, ungated_eq_answerWith]

/-! ### The orders a database may return -/

/-- **Every sorted arrangement of the active rows is what some order of the table returns.** -/
theorem exists_table_of_order {db : Db} {now : ℚ} {order : List BlockRule}
    (hperm : order.Perm (db.blockRules.filter fun r ↦ r.active now))
    (hsorted : order.Pairwise fun r r' ↦ r.priority ≤ r'.priority) :
    ∃ table : List BlockRule, table.Perm db.blockRules ∧
      ({ db with blockRules := table } : Db).activeBlockRules now = order := by
  refine ⟨order ++ db.blockRules.filter fun r ↦ !r.active now, ?_, ?_⟩
  · exact (hperm.append_right _).trans (List.filter_append_perm _ db.blockRules)
  · have hactive : ∀ r ∈ order, r.active now = true := fun r hr ↦
      (List.mem_filter.1 (hperm.mem_iff.1 hr)).2
    have hnone :
        ((db.blockRules.filter fun r ↦ !r.active now).filter fun r ↦ r.active now) = [] := by
      simp [List.filter_filter]
    show List.insertionSort _ (List.filter _ _) = order
    rw [List.filter_append, List.filter_eq_self.2 hactive, hnone, List.append_nil,
      hsorted.insertionSort_eq]

/-- The load of this request reads the tables: the worker's own cache is not current, and neither is
there a JSON of the current version. -/
def World.ReadsTables (w : World) : Prop :=
  ((w.process env.worker).filter fun c ↦ c.version = w.redis.rules.current) = none ∧
    ∀ r, w.redis.rules.json.get env.now w.redis.rules.current ≠ some (.rules r)

/-- A load that reads the tables returns their active rows. -/
theorem loadRuleCache_of_readsTables {w : World} (h : w.ReadsTables env) (table : List BlockRule) :
    (loadRuleCache env (w.withBlockRules table)).1.toRuleSet =
      (w.withBlockRules table).db.ruleSet env.now := by
  rcases loadRuleCache_cases env (w.withBlockRules table) with ⟨c, hc, hv, -⟩ | ⟨r, hr, -⟩ | hl
  · have hnone := h.1
    replace hc : w.process env.worker = some c := hc
    replace hv : c.version = w.redis.rules.current := hv
    rw [hc, Option.filter_some, if_pos (decide_eq_true hv)] at hnone
    cases hnone
  · exact absurd hr (h.2 r)
  · rw [hl]

/-- A load that does not read the tables returns what it would return over any others. -/
theorem loadRuleCache_of_not_readsTables {w : World} (h : ¬w.ReadsTables env)
    (table : List BlockRule) :
    (loadRuleCache env (w.withBlockRules table)).1 = (loadRuleCache env w).1 := by
  rcases hp : (w.process env.worker).filter fun c ↦ c.version = w.redis.rules.current with - | c
  · have hp' : ((w.withBlockRules table).process env.worker).filter
        (fun c ↦ c.version = (w.withBlockRules table).redis.rules.current) = none := hp
    rcases hj : w.redis.rules.json.get env.now w.redis.rules.current with - | (r | -)
    · exact absurd ⟨hp, by simp [hj]⟩ h
    · have hj' : (w.withBlockRules table).redis.rules.json.get env.now
          (w.withBlockRules table).redis.rules.current = some (.rules r) := hj
      simp only [loadRuleCache, hp, hp', hj, hj']
      rfl
    · exact absurd ⟨hp, by simp [hj]⟩ h
  · have hp' : ((w.withBlockRules table).process env.worker).filter
        (fun c ↦ c.version = (w.withBlockRules table).redis.rules.current) = some c := hp
    simp only [loadRuleCache, hp, hp']

/-- Whether the load raises does not depend on the order of the table. -/
theorem loadRaises_of_perm {w : World} {table : List BlockRule} (h : table.Perm w.db.blockRules) :
    loadRaises cf env (w.withBlockRules table) = loadRaises cf env w := by
  refine loadRaises_congr rfl rfl ?_
  have hactive : ((w.withBlockRules table).db.activeBlockRules env.now).Perm
      (w.db.activeBlockRules env.now) :=
    ((List.perm_insertionSort _ _).trans (h.filter _)).trans (List.perm_insertionSort _ _).symm
  exact (hactive.map BlockRule.toCached).any_eq

/-! ### What the order can change -/

/-- The test of the loop over the block rules, on a row: it ends there. -/
def BlockRule.applies (q : Query) (r : BlockRule) : Bool :=
  !isExpired r.expiresAt env.now && r.toCriterion.endsSearch cf q.ipAddress q.userAgent

/-- What a row at which the loop ends comes to, for a client with so many unsolved challenges. -/
def BlockRule.outcome (count : ℕ) (r : BlockRule) : Except PyError Verdict :=
  if r.toCriterion.raises cf then .error .patternError
  else .ok (gatedVerdict cf count (actionToVerdict r.action))

/-- A row that some order of a table makes the end of the loop: an active row that applies to the
request, of the lowest priority among those that do. -/
def Decides (q : Query) (rows : List BlockRule) (r : BlockRule) : Prop :=
  IsLowest BlockRule.priority (BlockRule.applies cf env q)
    (rows.filter fun r ↦ r.active env.now) r

/-- A row that decides over the tables of a state. -/
def Decisive (q : Query) (w : World) (r : BlockRule) : Prop := Decides cf env q w.db.blockRules r

/-- The request is answered before the block rules: its fingerprint cannot be classified, the load
raises, the allow rules pass it or raise, or its address has a live blocked entry. -/
def DecidedBefore (q : Query) (w : World) : Prop :=
  (∃ x, classifyFingerprint q.userAgent q.requestMeta = .error x) ∨
    loadRaises cf env w = true ∨
    (checkAllowRules cf env q.ipAddress q.userAgent (w.db.ruleSet env.now).allowRules w.redis).1 ≠
      .ok none ∨
    w.redis.blocked.get env.now q.ipAddress ≠ none

/-- The loop over the cached block rules is a first match over the table. -/
theorem checkBlockRules_ruleSet (q : Query) (db : Db) (redis : Redis) :
    checkBlockRules cf env q.ipAddress q.userAgent (db.ruleSet env.now).blockRules redis =
      (firstMatch BlockRule.priority (BlockRule.applies cf env q)
        (db.blockRules.filter fun r ↦ r.active env.now)).elim (.ok none) fun r ↦
          if r.toCriterion.raises cf then .error .patternError
          else .ok (some (r.toCached, recordRuleHit env.now r.id redis)) := by
  have hfind : (db.ruleSet env.now).blockRules.find? (fun rule ↦
      !isExpired rule.expiresAt env.now &&
        rule.toCriterion.endsSearch cf q.ipAddress q.userAgent) =
      (firstMatch BlockRule.priority (BlockRule.applies cf env q)
        (db.blockRules.filter fun r ↦ r.active env.now)).map BlockRule.toCached := List.find?_map
  rw [checkBlockRules_eq, hfind]
  rcases firstMatch BlockRule.priority (BlockRule.applies cf env q)
    (db.blockRules.filter fun r ↦ r.active env.now) with - | r
  · rfl
  · rfl

/-- Over the rows of a table, a request that reaches the block rules gets the verdict of the first
match, and what follows when there is none. -/
theorem answerWith_ruleSet {q : Query} {db : Db} {redis redis' : Redis}
    (hallow : checkAllowRules cf env q.ipAddress q.userAgent (db.ruleSet env.now).allowRules redis =
      (.ok none, redis'))
    (hentry : redis'.blocked.get env.now q.ipAddress = none) :
    (answerWith cf env q (db.ruleSet env.now) redis).map (fun e ↦ e.result.verdict) =
      match firstMatch BlockRule.priority (BlockRule.applies cf env q)
        (db.blockRules.filter fun r ↦ r.active env.now) with
      | some r =>
        if r.toCriterion.raises cf then .error .patternError else .ok (actionToVerdict r.action)
      | none => (evaluateUnmatched cf env (fun e w ↦ (e, w)) q
          ⟨redis', ⟨[], []⟩, fun _ ↦ none⟩).1.map fun e ↦ e.result.verdict := by
  have hip : checkBlockedIp env q.ipAddress redis' = none := by
    rw [checkBlockedIp, hentry, Option.map_none]
  simp only [answerWith, hallow, evaluateBlocks, hip, checkBlockRules_ruleSet]
  rcases firstMatch BlockRule.priority (BlockRule.applies cf env q)
    (db.blockRules.filter fun r ↦ r.active env.now) with - | r
  · rfl
  · rcases hraises : r.toCriterion.raises cf with - | -
    · simp only [Option.elim_some, hraises, Bool.false_eq_true, if_false]
      split <;> rfl
    · simp only [Option.elim_some, hraises, if_true]
      rfl

/-- A request that the allow rules or a blocked entry answer gets one answer over all tables. -/
theorem answerWith_decided {q : Query} {w : World}
    (h : (checkAllowRules cf env q.ipAddress q.userAgent (w.db.ruleSet env.now).allowRules
        w.redis).1 ≠ .ok none ∨ w.redis.blocked.get env.now q.ipAddress ≠ none)
    (table : List BlockRule) :
    answerWith cf env q ((w.withBlockRules table).db.ruleSet env.now) w.redis =
      answerWith cf env q (w.db.ruleSet env.now) w.redis := by
  have hallow : ((w.withBlockRules table).db.ruleSet env.now).allowRules =
      (w.db.ruleSet env.now).allowRules := rfl
  obtain ⟨fcrdns, hframe⟩ := checkAllowRules_frame cf env q.ipAddress q.userAgent
    (w.db.ruleSet env.now).allowRules w.redis
  simp only [answerWith, hallow]
  rcases hc : checkAllowRules cf env q.ipAddress q.userAgent (w.db.ruleSet env.now).allowRules
    w.redis with ⟨x | (- | rule), redis'⟩
  · rfl
  · rw [hc] at h hframe
    obtain rfl : redis' = { w.redis with botFcrdns := fcrdns } := hframe
    obtain ⟨value, hvalue⟩ := Option.ne_none_iff_exists'.1 (h.resolve_left fun hne ↦ hne rfl)
    -- the fast path answers, and the loop over the block rules is not entered
    simp only [evaluateBlocks, checkBlockedIp, hvalue, Option.map_some]
  · rfl

/-- What a classified request that reaches the block rules is answered, over any order of the table.
-/
theorem verdictOf_reaching {q : Query} {w : World} {fp : FingerprintVerdict}
    (hfp : classifyFingerprint q.userAgent q.requestMeta = .ok fp) (hreads : w.ReadsTables env)
    (hbefore : ¬DecidedBefore cf env q w) :
    ∃ unmatched, ∀ table : List BlockRule, table.Perm w.db.blockRules →
      verdictOf (evaluateRequest cf env q (w.withBlockRules table)) =
        match firstMatch BlockRule.priority (BlockRule.applies cf env q)
          (table.filter fun r ↦ r.active env.now) with
        | some r => r.outcome cf (unsolvedCount env q.ipAddress fp w.redis)
        | none => unmatched := by
  rw [DecidedBefore, not_or, not_or, not_or, not_not, not_not] at hbefore
  obtain ⟨-, hload, hnone, hentry⟩ := hbefore
  obtain ⟨fcrdns, hframe⟩ := checkAllowRules_frame cf env q.ipAddress q.userAgent
    (w.db.ruleSet env.now).allowRules w.redis
  refine ⟨((evaluateUnmatched cf env (fun e w ↦ (e, w)) q
      ⟨{ w.redis with botFcrdns := fcrdns }, ⟨[], []⟩, fun _ ↦ none⟩).1.map
        fun e ↦ e.result.verdict).map (gatedVerdict cf (unsolvedCount env q.ipAddress fp w.redis)),
    fun table hperm ↦ ?_⟩
  have hallow : checkAllowRules cf env q.ipAddress q.userAgent
      ((w.withBlockRules table).db.ruleSet env.now).allowRules w.redis =
        (.ok none, { w.redis with botFcrdns := fcrdns }) := Prod.ext hnone hframe
  have hredis : (w.withBlockRules table).redis = w.redis := rfl
  have htable : (w.withBlockRules table).db.blockRules = table := rfl
  rw [verdictOf_eq_answerWith cf env hfp, loadRaises_of_perm cf env hperm, if_neg hload,
    loadRuleCache_of_readsTables env hreads, hredis, answerWith_ruleSet cf env hallow hentry,
    htable]
  rcases firstMatch BlockRule.priority (BlockRule.applies cf env q)
    (table.filter fun r ↦ r.active env.now) with - | r
  · rfl
  · simp only [BlockRule.outcome]
    split <;> rfl

/-- A decisive row is the first match of some order. -/
theorem Decisive.exists_table {q : Query} {w : World} {r : BlockRule} (h : Decisive cf env q w r) :
    ∃ table : List BlockRule, table.Perm w.db.blockRules ∧
      firstMatch BlockRule.priority (BlockRule.applies cf env q)
        (table.filter fun r ↦ r.active env.now) = some r :=
  exists_perm_firstMatch h

/-- The first match of any order is decisive. -/
theorem Decisive.of_table {q : Query} {w : World} {r : BlockRule} {table : List BlockRule}
    (hperm : table.Perm w.db.blockRules)
    (h : firstMatch BlockRule.priority (BlockRule.applies cf env q)
      (table.filter fun r ↦ r.active env.now) = some r) : Decisive cf env q w r :=
  (IsLowest.of_firstMatch h).perm (hperm.filter _)

/-- All decisive rows come to one outcome. -/
def DecisiveAgree (q : Query) (w : World) : Prop :=
  ∀ fp, classifyFingerprint q.userAgent q.requestMeta = .ok fp →
    ∀ r r', Decisive cf env q w r → Decisive cf env q w r' →
      r.outcome cf (unsolvedCount env q.ipAddress fp w.redis) =
        r'.outcome cf (unsolvedCount env q.ipAddress fp w.redis)

/-- Two orders of a table whose decisive rows agree give one verdict. -/
theorem verdictOf_eq_of_agree {q : Query} {w : World} {table table' : List BlockRule}
    (hperm : table.Perm w.db.blockRules) (hperm' : table'.Perm w.db.blockRules)
    (h : w.ReadsTables env → DecidedBefore cf env q w ∨ DecisiveAgree cf env q w) :
    verdictOf (evaluateRequest cf env q (w.withBlockRules table)) =
      verdictOf (evaluateRequest cf env q (w.withBlockRules table')) := by
  rcases hfp : classifyFingerprint q.userAgent q.requestMeta with x | fp
  · simp only [evaluateRequest, hfp, verdictOf]
  have hredis : ∀ t, (w.withBlockRules t).redis = w.redis := fun _ ↦ rfl
  by_cases hreads : w.ReadsTables env
  · by_cases hbefore : DecidedBefore cf env q w
    · -- answered before the block rules
      have hdecided := hbefore.resolve_left (by rintro ⟨x, hx⟩; rw [hfp] at hx; cases hx)
      simp only [verdictOf_eq_answerWith cf env hfp, loadRaises_of_perm cf env hperm,
        loadRaises_of_perm cf env hperm', hredis]
      rcases hdecided with hload | hdecided
      · rw [if_pos hload, if_pos hload]
      · simp only [loadRuleCache_of_readsTables env hreads, answerWith_decided cf env hdecided]
    · obtain ⟨unmatched, hverdict⟩ := verdictOf_reaching cf env hfp hreads hbefore
      have hagree := (h hreads).resolve_left hbefore fp hfp
      rw [hverdict table hperm, hverdict table' hperm']
      rcases hf : firstMatch BlockRule.priority (BlockRule.applies cf env q)
        (table.filter fun r ↦ r.active env.now) with - | r
      · have hno := firstMatch_eq_none_iff.1 hf
        have hf' : firstMatch BlockRule.priority (BlockRule.applies cf env q)
            (table'.filter fun r ↦ r.active env.now) = none :=
          firstMatch_eq_none_iff.2 fun r hr ↦
            hno r (((hperm'.trans hperm.symm).filter _).mem_iff.1 hr)
        rw [hf']
      · rcases hf' : firstMatch BlockRule.priority (BlockRule.applies cf env q)
          (table'.filter fun r ↦ r.active env.now) with - | r'
        · have hno := firstMatch_eq_none_iff.1 hf'
          have hr := IsLowest.of_firstMatch hf
          have hfalse := hno r (((hperm.trans hperm'.symm).filter _).mem_iff.1 hr.1)
          rw [hr.2.1] at hfalse
          cases hfalse
        · exact hagree r r' (Decisive.of_table cf env hperm hf)
            (Decisive.of_table cf env hperm' hf')
  · -- the rules come from a cache, and the tables are not looked at
    simp only [verdictOf_eq_answerWith cf env hfp, loadRaises_of_perm cf env hperm,
      loadRaises_of_perm cf env hperm', loadRuleCache_of_not_readsTables env hreads, hredis]

/-- **When the verdict is a function of the rule set.** It is the same for every order of the table
exactly when the load does not read the tables, or the request is answered before the block rules,
or all decisive rows come to one outcome. In particular, where a block row is decisive and the
request gets to it, it is blocked under every order exactly when every decisive row blocks it. -/
theorem order_free_iff (q : Query) (w : World) :
    ((∀ table table' : List BlockRule, table.Perm w.db.blockRules → table'.Perm w.db.blockRules →
        verdictOf (evaluateRequest cf env q (w.withBlockRules table)) =
          verdictOf (evaluateRequest cf env q (w.withBlockRules table'))) ↔
      (w.ReadsTables env → DecidedBefore cf env q w ∨ DecisiveAgree cf env q w)) ∧
    ∀ r fp, Decisive cf env q w r → r.action = .block → w.ReadsTables env →
      ¬DecidedBefore cf env q w → classifyFingerprint q.userAgent q.requestMeta = .ok fp →
      ((∀ table : List BlockRule, table.Perm w.db.blockRules →
          verdictOf (evaluateRequest cf env q (w.withBlockRules table)) = .ok .blocked) ↔
        ∀ r', Decisive cf env q w r' →
          r'.outcome cf (unsolvedCount env q.ipAddress fp w.redis) = .ok .blocked) := by
  refine ⟨⟨fun hall hreads ↦ ?_, fun h table table' hperm hperm' ↦
    verdictOf_eq_of_agree cf env hperm hperm' h⟩, fun r fp hr hblock hreads hbefore hfp ↦ ?_⟩
  · by_cases hbefore : DecidedBefore cf env q w
    · exact Or.inl hbefore
    · refine Or.inr fun fp hfp r r' hr hr' ↦ ?_
      obtain ⟨unmatched, hverdict⟩ := verdictOf_reaching cf env hfp hreads hbefore
      obtain ⟨table, hperm, hf⟩ := hr.exists_table
      obtain ⟨table', hperm', hf'⟩ := hr'.exists_table
      have heq := hall table table' hperm hperm'
      rw [hverdict table hperm, hverdict table' hperm', hf, hf'] at heq
      exact heq
  · obtain ⟨unmatched, hverdict⟩ := verdictOf_reaching cf env hfp hreads hbefore
    constructor
    · intro hall r' hr'
      obtain ⟨table, hperm, hf⟩ := hr'.exists_table
      have heq := hall table hperm
      rw [hverdict table hperm, hf] at heq
      exact heq
    · intro hall table hperm
      rcases hf : firstMatch BlockRule.priority (BlockRule.applies cf env q)
        (table.filter fun r ↦ r.active env.now) with - | r'
      · have hfalse := firstMatch_eq_none_iff.1 hf r ((hperm.symm.filter _).mem_iff.1 hr.1)
        rw [hr.2.1] at hfalse
        cases hfalse
      · rw [hverdict table hperm, hf]
        exact hall r' (Decisive.of_table cf env hperm hf)

/-- The row a detector writes for a subnet at one of its two stages, with the default priority. -/
def subnetRow (id : Uuid) (action : RuleAction) : BlockRule where
  ruleType := .cidr
  matchType := .cidr
  pattern := "192.0.2.0/24"
  id
  name := "Auto: unsolved challenges from 192.0.2.0/24 (20 IPs)"
  action
  priority := 100
  isActive := true
  source := .auto
  expiresAt := some 86400
  reviewStatus := .notApplicable
  reviewedAt := none
  detectors := "detect_unsolved_challenges"
  createdAt := 0

/-- **A promoted subnet that is still only challenged**: the block stands beside the challenge of
the first stage, and the order of the two rows decides. -/
theorem promoted_subnet_by_order :
    ¬∀ table table' : List BlockRule,
      table.Perm [subnetRow 1 .challenge, subnetRow 2 .block] →
      table'.Perm [subnetRow 1 .challenge, subnetRow 2 .block] →
      verdictOf (evaluateRequest plainConf (Env.plain 0) (plainRequest "").query
          (World.start ⟨table, []⟩)) =
        verdictOf (evaluateRequest plainConf (Env.plain 0) (plainRequest "").query
          (World.start ⟨table', []⟩)) := by
  intro hall
  have heq := hall [subnetRow 1 .challenge, subnetRow 2 .block]
    [subnetRow 2 .block, subnetRow 1 .challenge] (.refl _) (.swap _ _ _)
  have hchallenged : verdictOf (evaluateRequest plainConf (Env.plain 0) (plainRequest "").query
      (World.start ⟨[subnetRow 1 .challenge, subnetRow 2 .block], []⟩)) = .ok .challenged := by
    decide +kernel
  have hblocked : verdictOf (evaluateRequest plainConf (Env.plain 0) (plainRequest "").query
      (World.start ⟨[subnetRow 2 .block, subnetRow 1 .challenge], []⟩)) = .ok .blocked := by
    decide +kernel
  rw [hchallenged, hblocked] at heq
  exact absurd (Except.ok.inj heq) (by decide)

end DjangoWaf
