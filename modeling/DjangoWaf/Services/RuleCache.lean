import DjangoWaf.Store

/-!
# The rule cache

The first half of `services/rule_engine.py`, and the invalidation that `handlers.py` and `tasks.py`
do. Three copies of the rules stand behind one version number: the tables, the JSON in Redis under
the key of a version, and the cache of each worker process.

`loadRuleCache` is a load that nothing interrupts. A worker whose cached version is the current one
answers from its own cache; otherwise the JSON of the current version answers, and failing that the
tables do, whose active rows are serialised into the JSON key. The in-process cache has **no**
lifetime: only a version that differs makes a worker look again.

`_ua_pattern_cache` and `ua_regex_set` memoise compiled patterns and change no answer; they are left
out. That a pattern is compiled at all is not: a load that installs rules compiles the regular
expressions of their ua rules, and an exception other than `re.error` leaves it
(`tryLoadRuleCache`). The coherence of the three copies is about loads that return.
-/

namespace DjangoWaf

/-- `waf:rules:version` as a load reads it. -/
def RuleKeys.current (k : RuleKeys) : ℕ := k.version.getD 0

/-- `INCR waf:rules:version`. -/
def RuleKeys.bump (k : RuleKeys) : RuleKeys := { k with version := some (k.current + 1) }

/-- `_acquire_rebuild_lock`: four attempts a tenth of a second apart, from some instant. -/
def acquireRebuildLock (lock : KeySpace Unit ℚ Unit) : ℕ → ℚ → Bool × KeySpace Unit ℚ Unit
  | 0, _ => (false, lock)
  | attempts + 1, now =>
    if (lock.get now ()).isNone then (true, lock.setex now () 5 ())
    else acquireRebuildLock lock attempts (now + 1 / 10)

/-- The active rules as a rebuild serialises them. -/
def Db.ruleSet (db : Db) (now : ℚ) : RuleSet where
  allowRules := (db.activeAllowRules now).map AllowRule.toCached
  blockRules := (db.activeBlockRules now).map BlockRule.toCached

/-- `_rebuild_rule_cache`: read the tables, store the JSON for ten minutes, give the lock back if it
was taken. -/
def rebuildRuleCache (k : RuleKeys) (db : Db) (version : ℕ) (now : ℚ) : RuleCache × RuleKeys :=
  let (acquired, lock) := acquireRebuildLock k.lock 4 now
  let rules := db.ruleSet now
  ({ toRuleSet := rules, version },
    { k with
      json := k.json.setex now version 600 (.rules rules)
      lock := if acquired then lock.delete () else lock })

/-- Hand a cache to a worker and leave the keys a load produced. -/
def World.install (w : World) (worker : ℕ) (c : RuleCache) (k : RuleKeys) : World :=
  { w with
    redis := { w.redis with rules := k }
    process := Function.update w.process worker (some c) }

/-- `load_rule_cache`, by one worker, when it returns: what it hands out and leaves behind. -/
def loadRuleCache (env : Env) (w : World) : RuleCache × World :=
  let version := w.redis.rules.current
  match (w.process env.worker).filter fun c ↦ c.version = version with
  | some c => (c, w)
  | none =>
    match w.redis.rules.json.get env.now version with
    | some (.rules r) =>
      let c : RuleCache := { toRuleSet := r, version }
      (c, w.install env.worker c w.redis.rules)
    | some .corrupt | none =>
      let (c, k) := rebuildRuleCache w.redis.rules w.db version env.now
      (c, w.install env.worker c k)

/-- `_compile_ua_patterns` raises: of the patterns of the ua rules only the regular expressions can
be refused, and it catches `re.error` alone. -/
def compileUaPatternsRaises (cf : Conf) (rules : List CachedBlockRule) : Bool :=
  rules.any fun rule ↦ rule.ruleType = .ua && rule.matchType = .regex && cf.reRaises rule.pattern

/-- `load_rule_cache`, by one worker, with the compilation that can make it raise. -/
def tryLoadRuleCache (cf : Conf) (env : Env) (w : World) : Except PyError RuleCache × World :=
  let version := w.redis.rules.current
  match (w.process env.worker).filter fun c ↦ c.version = version with
  | some c => (.ok c, w)
  | none =>
    match w.redis.rules.json.get env.now version with
    | some (.rules r) =>
      let c : RuleCache := { toRuleSet := r, version }
      if compileUaPatternsRaises cf c.blockRules then (.error .patternError, w)
      else (.ok c, w.install env.worker c w.redis.rules)
    | some .corrupt | none =>
      let (c, k) := rebuildRuleCache w.redis.rules w.db version env.now
      -- the JSON is stored before the patterns are compiled, and the lock is given back
      if compileUaPatternsRaises cf c.blockRules then
        (.error .patternError, w.withRedis { w.redis with rules := k })
      else (.ok c, w.install env.worker c k)

/-! ### Invalidation -/

/-- `handlers._invalidate_rule_cache`, run by every signal handler of the two models. -/
def invalidateRuleCache (cf : Conf) (w : World) : World :=
  if cf.handlerReaches then { w with redis := { w.redis with rules := w.redis.rules.bump } } else w

/-- `tasks._invalidate_rule_cache_redis`, which asks `get_redis_client` for the middleware's own
Redis. -/
def invalidateRuleCacheRedis (cf : Conf) (w : World) : World :=
  if cf.hasRedis then { w with redis := { w.redis with rules := w.redis.rules.bump } } else w

/-! ### What a load does -/

theorem rebuildRuleCache_fst (k : RuleKeys) (db : Db) (version : ℕ) (now : ℚ) :
    (rebuildRuleCache k db version now).1 = ⟨db.ruleSet now, version⟩ := rfl

/-- **The three ways a load ends**: with the worker's own cache, with the JSON of the current
version, or with a rebuild. -/
theorem loadRuleCache_cases (env : Env) (w : World) :
    (∃ c, w.process env.worker = some c ∧ c.version = w.redis.rules.current ∧
        loadRuleCache env w = (c, w)) ∨
      (∃ r, w.redis.rules.json.get env.now w.redis.rules.current = some (.rules r) ∧
        loadRuleCache env w = (⟨r, w.redis.rules.current⟩,
          w.install env.worker ⟨r, w.redis.rules.current⟩ w.redis.rules)) ∨
      loadRuleCache env w = (⟨w.db.ruleSet env.now, w.redis.rules.current⟩,
        w.install env.worker ⟨w.db.ruleSet env.now, w.redis.rules.current⟩
          (rebuildRuleCache w.redis.rules w.db w.redis.rules.current env.now).2) := by
  rcases hp : (w.process env.worker).filter fun c ↦ c.version = w.redis.rules.current with - | c
  · refine Or.inr ?_
    rcases hj : w.redis.rules.json.get env.now w.redis.rules.current with - | (r | -)
    · exact Or.inr (by simp only [loadRuleCache, hp, hj, rebuildRuleCache_fst])
    · exact Or.inl ⟨r, rfl, by simp only [loadRuleCache, hp, hj]⟩
    · exact Or.inr (by simp only [loadRuleCache, hp, hj, rebuildRuleCache_fst])
  · obtain ⟨hc, hv⟩ := Option.filter_eq_some_iff.1 hp
    exact Or.inl ⟨c, hc, by simpa using hv, by simp only [loadRuleCache, hp]⟩

/-- A load touches the rule-cache keys and the worker's own cache only. -/
theorem sameVerdicts_loadRuleCache (env : Env) (w : World) :
    w.SameVerdicts (loadRuleCache env w).2 := by
  rcases loadRuleCache_cases env w with ⟨c, -, -, h⟩ | ⟨r, -, h⟩ | h
  · rw [h]
    exact .refl w
  · rw [h]
    exact ⟨rfl, rfl, rfl, rfl, rfl, rfl⟩
  · rw [h]
    exact ⟨rfl, rfl, rfl, rfl, rfl, rfl⟩

/-- The load raises: the worker's own cache does not answer, and what does answer has a pattern that
cannot be compiled. -/
def loadRaises (cf : Conf) (env : Env) (w : World) : Bool :=
  ((w.process env.worker).filter fun c ↦ c.version = w.redis.rules.current).isNone &&
    compileUaPatternsRaises cf (loadRuleCache env w).1.blockRules

/-- **A load returns, or it raises** and installs nothing. -/
theorem tryLoadRuleCache_eq (cf : Conf) (env : Env) (w : World) :
    tryLoadRuleCache cf env w =
      if loadRaises cf env w then
        (.error .patternError, { (loadRuleCache env w).2 with process := w.process })
      else (.ok (loadRuleCache env w).1, (loadRuleCache env w).2) := by
  rcases hp : (w.process env.worker).filter fun c ↦ c.version = w.redis.rules.current with - | c
  · rcases hj : w.redis.rules.json.get env.now w.redis.rules.current with - | (r | -) <;>
      simp only [tryLoadRuleCache, loadRaises, loadRuleCache, hp, hj, Option.isNone_none,
        Bool.true_and] <;> split <;> rfl
  · simp only [tryLoadRuleCache, loadRaises, loadRuleCache, hp, Option.isNone_some, Bool.false_and,
      Bool.false_eq_true, if_false]

/-- **The rows a load cannot compile**: the active ua rules with a regular expression on which `re`
raises. -/
theorem compileUaPatternsRaises_ruleSet_iff {cf : Conf} {db : Db} {now : ℚ} :
    compileUaPatternsRaises cf (db.ruleSet now).blockRules = true ↔
      ∃ r ∈ db.blockRules, r.active now = true ∧ r.ruleType = .ua ∧ r.matchType = .regex ∧
        cf.reRaises r.pattern = true := by
  simp only [compileUaPatternsRaises, Db.ruleSet, List.any_eq_true, List.mem_map,
    mem_activeBlockRules, BlockRule.active, Bool.and_eq_true, Bool.not_eq_true',
    decide_eq_true_eq, and_assoc]
  constructor
  · rintro ⟨-, ⟨r, hr, hactive, hlive, rfl⟩, htest⟩
    exact ⟨r, hr, hactive, hlive, htest⟩
  · rintro ⟨r, hr, hactive, hlive, htest⟩
    exact ⟨r.toCached, ⟨r, hr, hactive, hlive, rfl⟩, htest⟩

/-- Whether a load raises is told by the cache of the worker, the keys and those rows. -/
theorem loadRaises_congr {cf : Conf} {env : Env} {w w' : World} (hprocess : w'.process = w.process)
    (hkeys : w'.redis.rules = w.redis.rules)
    (hcompile : compileUaPatternsRaises cf (w'.db.ruleSet env.now).blockRules =
      compileUaPatternsRaises cf (w.db.ruleSet env.now).blockRules) :
    loadRaises cf env w' = loadRaises cf env w := by
  rw [loadRaises, loadRaises, hprocess, hkeys]
  refine congrArg (_ && ·) ?_
  simp only [loadRuleCache, hprocess, hkeys]
  split
  · rfl
  · split
    · rfl
    · exact hcompile
    · exact hcompile

/-- A load that raises leaves the verdict keys alone as well. -/
theorem sameVerdicts_tryLoadRuleCache (cf : Conf) (env : Env) (w : World) :
    w.SameVerdicts (tryLoadRuleCache cf env w).2 := by
  have h := sameVerdicts_loadRuleCache env w
  rw [tryLoadRuleCache_eq]
  split
  · exact ⟨h.blocked, h.statsBlocked, h.challenged, h.solved, h.knownFp, h.db⟩
  · exact h

theorem rate_loadRuleCache (env : Env) (w : World) :
    (loadRuleCache env w).2.redis.rate = w.redis.rate := by
  rcases loadRuleCache_cases env w with ⟨c, -, -, h⟩ | ⟨r, -, h⟩ | h <;> rw [h] <;> rfl

theorem ruleHits_loadRuleCache (env : Env) (w : World) :
    (loadRuleCache env w).2.redis.ruleHits = w.redis.ruleHits := by
  rcases loadRuleCache_cases env w with ⟨c, -, -, h⟩ | ⟨r, -, h⟩ | h <;> rw [h] <;> rfl

theorem ruleHits_tryLoadRuleCache (cf : Conf) (env : Env) (w : World) :
    (tryLoadRuleCache cf env w).2.redis.ruleHits = w.redis.ruleHits := by
  rw [tryLoadRuleCache_eq, ← ruleHits_loadRuleCache env w]
  split <;> rfl

end DjangoWaf
