import DjangoWaf.Services.Detectors

/-!
# The 404-ratio detector, where things fail

`detect_scraper_404_ratio` of `services/anomaly_detector.py` once more. In `Services/Detectors` what
it calls goes through; here the Redis client can be missing, the load of the rule cache can raise at
each of its commands, and so can every turn of the loop over the allow rules:

* a **load** that raises ends the run without a rule, like a client that is missing;
* a **check** that raises counts as a match (`_scraper_candidate_matches_allow_rule`);
* an invalidation that fails is logged by its handler, and the row is written all the same.

The run keeps a record: every call of `_check_allow_rules` with what came of it, and every address a
rule was written for. A run in which nothing fails is the one of `Services/Detectors`
(`detectScraper404RatioAt_faultless`).

The clock, the name service and the failures are those of one turn each (`TurnEnv`), numbered in the
order in which the run reaches them.
-/

namespace DjangoWaf

/-! ### The load -/

/-- Where `load_rule_cache` raises. -/
inductive LoadFault
  /-- `GET waf:rules:version` fails, or its answer is no integer. -/
  | version
  /-- `GET` of the JSON fails. -/
  | json
  /-- The JSON reads, and is not an object with lists of rules. -/
  | entries
  /-- The tables cannot be read. -/
  | tables
  /-- `SETEX` of the rebuilt JSON fails; the server may have executed it. -/
  | store (executed : Bool)
  deriving DecidableEq

/-- What a load finds around it. -/
structure LoadEnv where
  env : Env
  fault : Option LoadFault
  /-- `SET NX` of the rebuild lock fails; the rebuild goes on without the lock. -/
  lockFails : Bool
  /-- `DEL` of the rebuild lock fails. -/
  releaseFails : Bool

/-- `_rebuild_rule_cache`: `none` where it raises. -/
def rebuildRuleCacheAt (l : LoadEnv) (k : RuleKeys) (db : Db) (version : ℕ) :
    Option RuleCache × RuleKeys :=
  let (acquired, lock) :=
    if l.lockFails then (false, k.lock) else acquireRebuildLock k.lock 4 l.env.now
  let rules := db.ruleSet l.env.now
  let kept : RuleKeys :=
    { k with lock := if acquired && !l.releaseFails then lock.delete () else lock }
  let stored : RuleKeys := { kept with json := k.json.setex l.env.now version 600 (.rules rules) }
  match l.fault with
  | some .tables | some (.store false) => (none, kept)
  | some (.store true) => (none, stored)
  | some .version | some .json | some .entries | none =>
    (some { toRuleSet := rules, version }, stored)

/-- `load_rule_cache`: `none` where it raises. -/
def loadRuleCacheAt (cf : Conf) (l : LoadEnv) (w : World) : Option RuleCache × World :=
  let version := w.redis.rules.current
  if l.fault = some .version then (none, w)
  else
    match (w.process l.env.worker).filter fun c ↦ c.version = version with
    | some c => (some c, w)
    | none =>
      if l.fault = some .json then (none, w)
      else
        match w.redis.rules.json.get l.env.now version with
        | some (.rules r) =>
          let c : RuleCache := { toRuleSet := r, version }
          if l.fault = some .entries ∨ compileUaPatternsRaises cf c.blockRules then (none, w)
          else (some c, w.install l.env.worker c w.redis.rules)
        | some .corrupt | none =>
          match rebuildRuleCacheAt l w.redis.rules w.db version with
          | (some c, k) =>
            if compileUaPatternsRaises cf c.blockRules then
              (none, w.withRedis { w.redis with rules := k })
            else (some c, w.install l.env.worker c k)
          | (none, k) => (none, w.withRedis { w.redis with rules := k })

/-! ### The check -/

/-- How `SETEX` of a reverse-DNS verdict ends. -/
inductive SetexEnd
  | done
  | refused
  /-- The server executed it, and the answer was lost. -/
  | replyLost
  deriving DecidableEq

/-- What one turn finds around it. -/
structure TurnEnv where
  env : Env
  /-- The cached entry does not read: a key is missing, or the expiry is no instant. -/
  unreadable : Bool
  /-- `GET` of the cached reverse-DNS verdict fails. -/
  getFails : Bool
  setex : SetexEnd
  /-- `INCR` of the rules version fails, in the handlers of a row that is written. -/
  incrFails : Bool

/-- What came of a call of `_check_allow_rules`. -/
inductive AllowCheck
  | noMatch
  | matched (rule : CachedAllowRule)
  | raised
  deriving DecidableEq

section Check

variable (cf : Conf)

/-- `_verify_rdns`: `none` where it raises. Redis refuses a lifetime that is not positive. -/
def verifyRdnsAt (e : TurnEnv) (ipAddress rdnsPattern : String) (redis : Redis) :
    Option Bool × Redis :=
  let key := fcrdnsCacheKey cf ipAddress rdnsPattern
  if e.getFails then (none, redis)
  else
    match redis.botFcrdns.get e.env.now key with
    | some verdict => (some verdict, redis)
    | none =>
      match resolveAndConfirmRdns cf e.env.resolver ipAddress rdnsPattern with
      | .error _ => (none, redis)
      | .ok verdict =>
        let ttl : ℕ := if verdict then 86400 else cf.rdnsFailureCacheTtl
        let stored := { redis with botFcrdns := redis.botFcrdns.setex e.env.now key ttl verdict }
        if ttl = 0 then (none, redis)
        else
          match e.setex with
          | .done => (some verdict, stored)
          | .refused => (none, redis)
          | .replyLost => (none, stored)

/-- One turn of the loop over the allow rules: `none` where it raises. -/
def allowStepAt (e : TurnEnv) (ipAddress userAgent : String) (rule : CachedAllowRule)
    (redis : Redis) : Option Bool × Redis :=
  if e.unreadable then (none, redis)
  else if isExpired rule.expiresAt e.env.now then (some false, redis)
  else
    match tryRuleMatches cf rule.toCriterion ipAddress userAgent with
    | .error _ => (none, redis)
    | .ok false => (some false, redis)
    | .ok true =>
      if rule.needsRdns then verifyRdnsAt cf e ipAddress rule.rdnsPattern redis
      else (some true, redis)

variable (turns : ℕ → TurnEnv)

/-- `_check_allow_rules`, from a turn on: what came of it, the next turn and the Redis it leaves. -/
def checkAllowRulesAt (ipAddress userAgent : String) :
    List CachedAllowRule → ℕ → Redis → AllowCheck × ℕ × Redis
  | [], k, redis => (.noMatch, k, redis)
  | rule :: rest, k, redis =>
    match allowStepAt cf (turns k) ipAddress userAgent rule redis with
    | (none, redis') => (.raised, k + 1, redis')
    | (some true, redis') => (.matched rule, k + 1, redis')
    | (some false, redis') => checkAllowRulesAt ipAddress userAgent rest (k + 1) redis'

/-- A call of `_check_allow_rules` on record. -/
structure Vetting where
  ipAddress : String
  userAgent : String
  result : AllowCheck

/-- What `_scraper_candidate_matches_allow_rule` returns and leaves. -/
structure Vetted where
  excluded : Bool
  checks : List Vetting
  next : ℕ
  redis : Redis

/-- `_scraper_candidate_matches_allow_rule`: it stops at a match, and at an exception. -/
def scraperCandidateMatchesAllowRuleAt (ip : String) (rules : List CachedAllowRule) :
    List String → ℕ → Redis → Vetted
  | [], k, redis => ⟨false, [], k, redis⟩
  | ua :: rest, k, redis =>
    match checkAllowRulesAt cf turns ip ua rules k redis with
    | (.noMatch, k', redis') =>
      let v := scraperCandidateMatchesAllowRuleAt ip rules rest k' redis'
      { v with checks := ⟨ip, ua, .noMatch⟩ :: v.checks }
    | (result, k', redis') => ⟨true, [⟨ip, ua, result⟩], k', redis'⟩

end Check

/-! ### The run -/

/-- What a run finds around it. -/
structure ScraperRun where
  /-- `get_redis_client` returns a client. -/
  client : Bool
  load : LoadEnv
  turns : ℕ → TurnEnv
  dryRun : Bool
  countRefreshAsCreated : Bool

/-- What comes of a run. -/
structure ScraperOutcome where
  /-- The calls of `_check_allow_rules`. -/
  checks : List Vetting
  /-- The addresses `_get_or_create_auto_rule` was called for. -/
  flagged : List String
  /-- `created_rules`, by address. -/
  created : List String
  world : World

/-- A run that calls nothing. -/
def ScraperOutcome.nothing (w : World) : ScraperOutcome := ⟨[], [], [], w⟩

section Run

variable (cf : Conf) (dc : DetectorConf) (fresh : Db → Uuid) (run : ScraperRun) (expiry : ℚ)

/-- `_get_or_create_auto_rule`, with its `created`. -/
def autoRuleCallAt (e : TurnEnv) (a : AutoRuleWrite) (w : World) : Bool × World :=
  let (created, w') := autoRuleCall cf fresh e.env run.dryRun a w
  (created || run.dryRun && run.countRefreshAsCreated,
    if e.incrFails then w'.withRedis w.redis else w')

/-- `_scraper_candidate_matches_allow_rule` on a row: `user_agents_by_ip.get(ip, {""})`. -/
def vetRow (rules : List CachedAllowRule) (c : String × List String) (k : ℕ) (redis : Redis) :
    Vetted :=
  scraperCandidateMatchesAllowRuleAt cf run.turns c.1 rules (if c.2 = [] then [""] else c.2) k redis

/-- The loop over `qualifying_rows`. -/
def flagEach (rules : List CachedAllowRule) :
    List (String × List String) → ℕ → World → ScraperOutcome
  | [], _, w => .nothing w
  | c :: rest, k, w =>
    let v := vetRow cf run rules c k w.redis
    if v.excluded then
      let out := flagEach rules rest v.next (w.withRedis v.redis)
      { out with checks := v.checks ++ out.checks }
    else
      let (created, w') := autoRuleCallAt cf fresh run (run.turns v.next)
        (scraper404Write dc expiry c.1) (w.withRedis v.redis)
      let out := flagEach rules rest (v.next + 1) w'
      { checks := v.checks ++ out.checks
        flagged := c.1 :: out.flagged
        created := if created then c.1 :: out.created else out.created
        world := out.world }

/-- `detect_scraper_404_ratio`, on its `qualifying_rows`. -/
def detectScraper404RatioAt (candidates : List (String × List String)) (w : World) :
    ScraperOutcome :=
  if candidates = [] ∨ run.client = false then .nothing w
  else
    match loadRuleCacheAt cf run.load w with
    | (none, w') => .nothing w'
    | (some cache, w') => flagEach cf dc fresh run expiry cache.allowRules candidates 0 w'

end Run

/-! ### Where nothing fails -/

section Faultless

variable {cf : Conf} {env : Env}

/-- A turn in which nothing fails. -/
def TurnEnv.faultless (env : Env) : TurnEnv := ⟨env, false, false, .done, false⟩

/-- A run in which nothing fails, with the Redis of the settings. -/
def ScraperRun.faultless (cf : Conf) (env : Env) (dryRun : Bool) : ScraperRun :=
  ⟨cf.hasRedis, ⟨env, none, false, false⟩, fun _ ↦ .faultless env, dryRun, false⟩

/-- What a call of `_check_allow_rules` comes to. -/
def AllowCheck.of : Except PyError (Option CachedAllowRule) → AllowCheck
  | .ok none => .noMatch
  | .ok (some rule) => .matched rule
  | .error _ => .raised

theorem rebuildRuleCacheAt_faultless (env : Env) (k : RuleKeys) (db : Db) (version : ℕ) :
    rebuildRuleCacheAt ⟨env, none, false, false⟩ k db version =
      (some (rebuildRuleCache k db version env.now).1,
        (rebuildRuleCache k db version env.now).2) := by
  rw [rebuildRuleCacheAt, rebuildRuleCache]
  rcases acquireRebuildLock k.lock 4 env.now with ⟨- | -, lock⟩ <;> rfl

theorem loadRuleCacheAt_faultless (cf : Conf) (env : Env) (w : World) :
    loadRuleCacheAt cf ⟨env, none, false, false⟩ w =
      ((tryLoadRuleCache cf env w).1.toOption, (tryLoadRuleCache cf env w).2) := by
  rcases hp : (w.process env.worker).filter fun c ↦ c.version = w.redis.rules.current with - | c
  · rcases hj : w.redis.rules.json.get env.now w.redis.rules.current with - | (r | -) <;>
      simp only [loadRuleCacheAt, tryLoadRuleCache, hp, hj, rebuildRuleCacheAt_faultless,
        reduceCtorEq, if_false, false_or] <;> split <;> rfl
  · simp only [loadRuleCacheAt, tryLoadRuleCache, hp, reduceCtorEq, if_false]
    rfl

variable (httl : 0 < cf.rdnsFailureCacheTtl)

include httl

/-- Redis takes the lifetime of every verdict. -/
theorem verifyRdnsAt_faultless (ip pattern : String) (redis : Redis) :
    verifyRdnsAt cf (.faultless env) ip pattern redis =
      ((verifyRdns cf env ip pattern redis).1.toOption,
        (verifyRdns cf env ip pattern redis).2) := by
  rcases hc : redis.botFcrdns.get env.now (fcrdnsCacheKey cf ip pattern) with - | v
  · rcases hr : resolveAndConfirmRdns cf env.resolver ip pattern with e | v
    · simp only [verifyRdnsAt, verifyRdns, TurnEnv.faultless, hc, hr, Bool.false_eq_true, if_false]
      rfl
    · have hpos : (if v then 86400 else cf.rdnsFailureCacheTtl) ≠ 0 := by
        split <;> omega
      simp only [verifyRdnsAt, verifyRdns, TurnEnv.faultless, hc, hr, Bool.false_eq_true, if_false,
        if_neg hpos]
      rcases v with - | - <;> rfl
  · simp only [verifyRdnsAt, verifyRdns, TurnEnv.faultless, hc, Bool.false_eq_true, if_false]
    rfl

theorem allowStepAt_faultless (ip ua : String) (rule : CachedAllowRule) (redis : Redis) :
    allowStepAt cf (.faultless env) ip ua rule redis =
      ((allowStep cf env ip ua rule redis).1.toOption, (allowStep cf env ip ua rule redis).2) := by
  have hnow : (TurnEnv.faultless env).env.now = env.now := rfl
  rw [allowStepAt, allowStep, if_neg (show ¬(TurnEnv.faultless env).unreadable = true from
    Bool.false_ne_true), hnow]
  split
  · rfl
  · rcases tryRuleMatches cf rule.toCriterion ip ua with e | (- | -)
    · rfl
    · rfl
    · simp only
      split
      · exact verifyRdnsAt_faultless httl ip rule.rdnsPattern redis
      · rfl

theorem checkAllowRulesAt_faultless (env : Env) (ip ua : String) (rules : List CachedAllowRule)
    (k : ℕ) (redis : Redis) :
    ∃ k', checkAllowRulesAt cf (fun _ ↦ .faultless env) ip ua rules k redis =
      (AllowCheck.of (checkAllowRules cf env ip ua rules redis).1, k',
        (checkAllowRules cf env ip ua rules redis).2) := by
  induction rules generalizing k redis with
  | nil => exact ⟨k, rfl⟩
  | cons rule rules ih =>
    rw [checkAllowRulesAt, checkAllowRules, allowStepAt_faultless httl]
    rcases allowStep cf env ip ua rule redis with ⟨e | (- | -), redis'⟩
    · exact ⟨k + 1, rfl⟩
    · exact ih (k + 1) redis'
    · exact ⟨k + 1, rfl⟩

theorem scraperCandidate_faultless (ip : String) (rules : List CachedAllowRule)
    (uas : List String) (k : ℕ) (redis : Redis) :
    let v := scraperCandidateMatchesAllowRuleAt cf (fun _ ↦ .faultless env) ip rules uas k redis
    (v.excluded, v.redis) = scraperCandidateMatchesAllowRule cf env ip rules uas redis := by
  induction uas generalizing k redis with
  | nil => rfl
  | cons ua uas ih =>
    obtain ⟨k', hcall⟩ := checkAllowRulesAt_faultless httl env ip ua rules k redis
    rw [scraperCandidateMatchesAllowRuleAt, scraperCandidateMatchesAllowRule, hcall]
    rcases checkAllowRules cf env ip ua rules redis with ⟨e | (- | rule), redis'⟩
    · rfl
    · exact ih k' redis'
    · rfl

variable {dc : DetectorConf} {fresh : Db → Uuid} {expiry : ℚ}

theorem flagEach_faultless (dryRun : Bool) (rules : List CachedAllowRule)
    (cs : List (String × List String)) (k : ℕ) (w : World) :
    let out := flagEach cf dc fresh (.faultless cf env dryRun) expiry rules cs k w
    (out.created.length, out.world) =
      detectEach cf fresh env (unlessAllowed cf env dc expiry rules) dryRun cs w := by
  induction cs generalizing k w with
  | nil => rfl
  | cons c cs ih =>
    set uas := if c.2 = [] then [""] else c.2 with huas
    set v := vetRow cf (.faultless cf env dryRun) rules c k w.redis with hv
    have hvet : (v.excluded, v.redis) =
        scraperCandidateMatchesAllowRule cf env c.1 rules uas w.redis :=
      scraperCandidate_faultless httl c.1 rules uas k w.redis
    have hdecide : unlessAllowed cf env dc expiry rules c w =
        (if v.excluded then none else some (scraper404Write dc expiry c.1),
          w.withRedis v.redis) := by
      rw [unlessAllowed, ← huas, ← hvet]
    intro out
    rcases hex : v.excluded with - | -
    -- the candidate is kept, and gets a rule
    · set a := scraper404Write dc expiry c.1
      rcases hcall : autoRuleCall cf fresh env dryRun a (w.withRedis v.redis) with ⟨created, w'⟩
      have hcallAt : autoRuleCallAt cf fresh (.faultless cf env dryRun) (.faultless env) a
          (w.withRedis v.redis) = (created, w') := by
        show ((autoRuleCall cf fresh env dryRun a (w.withRedis v.redis)).1 || dryRun && false,
          (autoRuleCall cf fresh env dryRun a (w.withRedis v.redis)).2) = _
        rw [hcall, Bool.and_false, Bool.or_false]
      set rest := flagEach cf dc fresh (.faultless cf env dryRun) expiry rules cs (v.next + 1) w'
        with hrest
      have hout : out = ⟨v.checks ++ rest.checks, c.1 :: rest.flagged,
          if created then c.1 :: rest.created else rest.created, rest.world⟩ := by
        show flagEach cf dc fresh (.faultless cf env dryRun) expiry rules (c :: cs) k w = _
        have hturn : (ScraperRun.faultless cf env dryRun).turns v.next = .faultless env := rfl
        rw [flagEach, ← hv, hex, if_neg Bool.false_ne_true, hturn, hcallAt]
      have hih : (rest.created.length, rest.world) = _ := ih (v.next + 1) w'
      rw [hout, detectEach, hdecide, hex, if_neg Bool.false_ne_true]
      simp only [hcall, ← hih]
      rcases created with - | -
      · rw [if_neg Bool.false_ne_true, Bool.toNat_false, Nat.zero_add]
      · rw [if_pos rfl, List.length_cons, Bool.toNat_true, Nat.add_comm]
    -- it is excluded, and only the reads of its checks are left
    · have hout : out = { flagEach cf dc fresh (.faultless cf env dryRun) expiry rules cs v.next
          (w.withRedis v.redis) with checks := v.checks ++ (flagEach cf dc fresh (.faultless cf env
            dryRun) expiry rules cs v.next (w.withRedis v.redis)).checks } := by
        show flagEach cf dc fresh (.faultless cf env dryRun) expiry rules (c :: cs) k w = _
        rw [flagEach, ← hv, if_pos hex]
      rw [hout, detectEach, hdecide, if_pos hex]
      exact ih v.next (w.withRedis v.redis)

/-- **A run in which nothing fails** is the one of `Services/Detectors`. -/
theorem detectScraper404RatioAt_faultless (dryRun : Bool) (cs : List (String × List String))
    (w : World) :
    let out := detectScraper404RatioAt cf dc fresh (.faultless cf env dryRun) expiry cs w
    (out.created.length, out.world) =
      detectScraper404Ratio cf fresh env dc dryRun expiry cs w := by
  have hload : loadRuleCacheAt cf (ScraperRun.faultless cf env dryRun).load w =
      ((tryLoadRuleCache cf env w).1.toOption, (tryLoadRuleCache cf env w).2) :=
    loadRuleCacheAt_faultless cf env w
  have hclient : (ScraperRun.faultless cf env dryRun).client = cf.hasRedis := rfl
  intro out
  have hout : out = detectScraper404RatioAt cf dc fresh (.faultless cf env dryRun) expiry cs w :=
    rfl
  rw [hout, detectScraper404RatioAt, detectScraper404Ratio, hclient, hload]
  rcases tryLoadRuleCache cf env w with ⟨e | cache, w'⟩
  · split <;> rfl
  · split
    · rfl
    · exact flagEach_faultless httl dryRun _ cs 0 _

end Faultless

end DjangoWaf
