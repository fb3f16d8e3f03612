import DjangoWaf.Lib.IpAddress
import DjangoWaf.Services.RuleCache

/-!
# Matching rules

The matching helpers of `services/rule_engine.py`: which rule applies to an address and a user
agent, forward-confirmed reverse DNS for the allow rules that ask for it, and the two loops over the
cached rules.

A pattern `re` refuses with `re.error` and a text `ipaddress` refuses are no match. Three things
make a request fail: a pattern on which `re` raises anything else, whether it is matched with the
user agent or with a PTR name or with a path, and a name service whose answer is an exception other
than `OSError`. Nothing in the loops catches these (`checkAllowRules_error_iff`,
`checkBlockRules_eq`, `scorePath_error_iff`).
-/

namespace DjangoWaf

variable (cf : Conf)

/-! ### One rule -/

/-- The pattern `_match_ua` compiles for a rule, if it compiles one. -/
def Criterion.uaRegex? (c : Criterion) : Option String :=
  if c.matchType = .regex then
    match c.ruleType with
    | .ua => some c.pattern
    | .composite => (PyStr.splitOnce ['|', '|'] c.pattern.toList).map fun parts ↦
        PyStr.stripText (String.ofList parts.1)
    | .ip | .cidr | .other _ => none
  else none

/-- Compiling the rule's pattern raises something other than `re.error`. -/
def Criterion.raises (c : Criterion) : Bool := c.uaRegex?.any cf.reRaises

/-- `_match_ua`, where it returns. -/
def matchUa (userAgent pattern : String) : MatchType → Bool
  | .exact => userAgent = pattern
  | .contains => PyStr.contains (PyStr.lower userAgent) (PyStr.lower pattern)
  | .regex => (cf.reSearch pattern userAgent).getD false
  | .cidr | .other _ => false

/-- `_match_ip`. -/
def matchIp (ipAddress pattern : String) : MatchType → Bool
  | .exact | .cidr => ipAddress = pattern
  | .regex | .contains | .other _ => false

/-- `_match_cidr`. -/
def matchCidr (ipAddress cidrPattern : String) : Bool :=
  match IpAddress.ipAddress ipAddress, IpAddress.ipNetwork cidrPattern with
  | some a, some n => n.contains a
  | _, _ => false

/-- `_rule_matches`, where it returns. -/
def ruleMatches (rule : Criterion) (ipAddress userAgent : String) : Bool :=
  match rule.ruleType with
  | .ua => matchUa cf userAgent rule.pattern rule.matchType
  | .ip => matchIp ipAddress rule.pattern rule.matchType
  | .cidr => matchCidr ipAddress rule.pattern
  | .composite =>
    match PyStr.splitOnce ['|', '|'] rule.pattern.toList with
    | some (uaPart, ipPart) =>
      let ua := PyStr.stripText (String.ofList uaPart)
      let ip := PyStr.stripText (String.ofList ipPart)
      -- the IP part may be an address or a range, whatever the match type says
      matchUa cf userAgent ua rule.matchType &&
        (matchIp ipAddress ip rule.matchType || matchCidr ipAddress ip)
    | none => false
  | .other _ => false

/-- `_rule_matches`. The user agent is matched first, so a pattern that makes `re` raise does so
whatever the address is. -/
def tryRuleMatches (rule : Criterion) (ipAddress userAgent : String) : Except PyError Bool :=
  if rule.raises cf then .error .patternError else .ok (ruleMatches cf rule ipAddress userAgent)

/-! ### Forward-confirmed reverse DNS -/

/-- `_resolve_and_confirm_rdns`. -/
def resolveAndConfirmRdns (resolver : Resolver) (ipAddress rdnsPattern : String) :
    Except PyError Bool :=
  match resolver.gethostbyaddr ipAddress with
  | .osError => .ok false
  | .raises => .error .lookupError
  | .found hostname =>
    if hostname = "" then .ok false
    else
      match cf.reCompile rdnsPattern with
      | .raises => .error .patternError
      | .reError => .ok false
      | .compiled search =>
        if search hostname = false then .ok false
        else
          match resolver.getaddrinfo hostname with
          | .osError => .ok false
          | .raises => .error .lookupError
          | .found forwardAddresses =>
            match IpAddress.ipAddress ipAddress with
            | none => .ok false
            | some target =>
              .ok (forwardAddresses.any fun candidate ↦
                IpAddress.ipAddress candidate = some target)

/-- `_fcrdns_cache_key`. -/
def fcrdnsCacheKey (ipAddress rdnsPattern : String) : String × String :=
  (ipAddress, cf.prefixHash rdnsPattern)

/-- `_verify_rdns`: a cached verdict answers without a lookup. -/
def verifyRdns (env : Env) (ipAddress rdnsPattern : String) (redis : Redis) :
    Except PyError Bool × Redis :=
  let key := fcrdnsCacheKey cf ipAddress rdnsPattern
  match redis.botFcrdns.get env.now key with
  | some verdict => (.ok verdict, redis)
  | none =>
    match resolveAndConfirmRdns cf env.resolver ipAddress rdnsPattern with
    | .error e => (.error e, redis)
    | .ok verdict =>
      let ttl : ℚ := if verdict then 86400 else cf.rdnsFailureCacheTtl
      (.ok verdict, { redis with botFcrdns := redis.botFcrdns.setex env.now key ttl verdict })

/-! ### The two loops -/

/-- A rule that asks for reverse DNS before it allows anything. -/
def CachedAllowRule.needsRdns (rule : CachedAllowRule) : Bool :=
  rule.verifyRdns && rule.rdnsPattern ≠ ""

/-- One turn of the loop over the allow rules: whether this rule allows the request. -/
def allowStep (env : Env) (ipAddress userAgent : String) (rule : CachedAllowRule) (redis : Redis) :
    Except PyError Bool × Redis :=
  if isExpired rule.expiresAt env.now then (.ok false, redis)
  else
    match tryRuleMatches cf rule.toCriterion ipAddress userAgent with
    | .error e => (.error e, redis)
    | .ok false => (.ok false, redis)
    | .ok true =>
      if rule.needsRdns then verifyRdns cf env ipAddress rule.rdnsPattern redis
      else (.ok true, redis)

/-- `_check_allow_rules`. -/
def checkAllowRules (env : Env) (ipAddress userAgent : String) :
    List CachedAllowRule → Redis → Except PyError (Option CachedAllowRule) × Redis
  | [], redis => (.ok none, redis)
  | rule :: rest, redis =>
    match allowStep cf env ipAddress userAgent rule redis with
    | (.error e, redis') => (.error e, redis')
    | (.ok true, redis') => (.ok (some rule), redis')
    | (.ok false, redis') => checkAllowRules env ipAddress userAgent rest redis'

/-- `_record_rule_hit`. -/
def recordRuleHit (now : ℚ) (ruleId : Uuid) (redis : Redis) : Redis :=
  { redis with ruleHits := (redis.ruleHits.incr now ruleId).expire now ruleId 172800 }

/-- `_check_block_rules`: the first match in the order of the cache. -/
def checkBlockRules (env : Env) (ipAddress userAgent : String) :
    List CachedBlockRule → Redis → Except PyError (Option (CachedBlockRule × Redis))
  | [], _ => .ok none
  | rule :: rest, redis =>
    if isExpired rule.expiresAt env.now then checkBlockRules env ipAddress userAgent rest redis
    else
      match tryRuleMatches cf rule.toCriterion ipAddress userAgent with
      | .error e => .error e
      | .ok true => .ok (some (rule, recordRuleHit env.now rule.id redis))
      | .ok false => checkBlockRules env ipAddress userAgent rest redis

/-! ### Verdicts and scores -/

/-- `_action_to_verdict`. -/
def actionToVerdict : RuleAction → Verdict
  | .block => .blocked
  | .challenge => .challenged
  | .throttle => .throttled
  | .logOnly => .logged
  | .other _ => .blocked

/-- `_score_to_verdict`. -/
def scoreToVerdict (score : ℚ) : Verdict × Option RuleAction :=
  if cf.scoreThresholdBlock ≤ score then (.blocked, some .block)
  else if cf.scoreThresholdChallenge ≤ score then (.challenged, some .challenge)
  else if cf.scoreThresholdLog ≤ score then (.logged, some .logOnly)
  else (.allowed, none)

/-- The accumulating loop of `_score_path`. -/
def scorePathFrom (path : String) : List String → ℚ → Except PyError ℚ
  | [], score => .ok score
  | pattern :: rest, score =>
    match cf.reCompile pattern with
    | .raises => .error .patternError
    | .reError => scorePathFrom path rest score
    | .compiled search =>
      if search path then
        if 10 ≤ score + cf.suspiciousPathScore then .ok 10
        else scorePathFrom path rest (score + cf.suspiciousPathScore)
      else scorePathFrom path rest score

/-- `_score_path`. -/
def scorePath (path : String) : Except PyError ℚ :=
  scorePathFrom cf path cf.suspiciousPathPatterns 0

/-! ### A pattern that raises -/

/-- A rule whose pattern raises has no answer to give. -/
theorem ruleMatches_of_raises {rule : Criterion} (h : rule.raises cf = true)
    (ipAddress userAgent : String) : ruleMatches cf rule ipAddress userAgent = false := by
  rcases rule with ⟨ruleType, matchType, pattern⟩
  obtain ⟨p, hp, hraises⟩ := Option.any_eq_true _ _ |>.1 h
  have hno : ∀ text, cf.reSearch p text = none := cf.reSearch_of_reRaises hraises
  rw [Criterion.uaRegex?] at hp
  split at hp
  · rename_i hregex
    obtain rfl : matchType = .regex := hregex
    cases ruleType with
    | ua =>
      obtain rfl := Option.some.inj hp
      simp only [ruleMatches, matchUa, hno, Option.getD_none]
    | composite =>
      obtain ⟨⟨uaPart, ipPart⟩, hsplit, rfl⟩ := Option.map_eq_some_iff.1 hp
      simp only [ruleMatches, hsplit, matchUa, hno, Option.getD_none, Bool.false_and]
    | _ => cases hp
  · cases hp

/-- A rule that matches has a pattern that compiles. -/
theorem not_raises_of_ruleMatches {rule : Criterion} {ipAddress userAgent : String}
    (h : ruleMatches cf rule ipAddress userAgent = true) : rule.raises cf = false := by
  by_contra hraises
  rw [ruleMatches_of_raises cf (Bool.not_eq_false _ ▸ hraises)] at h
  cases h

/-- The loop over the block rules goes no further than a live rule of this kind: it matches, or it
raises. -/
def Criterion.endsSearch (rule : Criterion) (ipAddress userAgent : String) : Bool :=
  rule.raises cf || ruleMatches cf rule ipAddress userAgent

/-! ### What the allow rules touch, and when they fail -/

variable (env : Env) (ipAddress userAgent : String)

/-- A cached verdict answers; otherwise the name service is asked, and its answer is cached. -/
theorem verifyRdns_cases (rdnsPattern : String) (redis : Redis) :
    (∃ v, redis.botFcrdns.get env.now (fcrdnsCacheKey cf ipAddress rdnsPattern) = some v ∧
        verifyRdns cf env ipAddress rdnsPattern redis = (.ok v, redis)) ∨
      redis.botFcrdns.get env.now (fcrdnsCacheKey cf ipAddress rdnsPattern) = none ∧
        ((∃ e, resolveAndConfirmRdns cf env.resolver ipAddress rdnsPattern = .error e ∧
            verifyRdns cf env ipAddress rdnsPattern redis = (.error e, redis)) ∨
          ∃ v fcrdns, resolveAndConfirmRdns cf env.resolver ipAddress rdnsPattern = .ok v ∧
            verifyRdns cf env ipAddress rdnsPattern redis =
              (.ok v, { redis with botFcrdns := fcrdns })) := by
  rcases hc : redis.botFcrdns.get env.now (fcrdnsCacheKey cf ipAddress rdnsPattern) with - | v
  · refine Or.inr ⟨rfl, ?_⟩
    rcases hr : resolveAndConfirmRdns cf env.resolver ipAddress rdnsPattern with e | v
    · exact Or.inl ⟨e, rfl, by simp only [verifyRdns, hc, hr]⟩
    · refine Or.inr ⟨v, redis.botFcrdns.setex env.now (fcrdnsCacheKey cf ipAddress rdnsPattern)
        (if v then 86400 else cf.rdnsFailureCacheTtl) v, rfl, ?_⟩
      simp only [verifyRdns, hc, hr]
  · exact Or.inl ⟨v, rfl, by simp only [verifyRdns, hc]⟩

/-- A turn over a rule that raises. -/
theorem allowStep_of_raises {rule : CachedAllowRule}
    (hlive : isExpired rule.expiresAt env.now = false) (h : rule.toCriterion.raises cf = true)
    (redis : Redis) :
    allowStep cf env ipAddress userAgent rule redis = (.error .patternError, redis) := by
  simp only [allowStep, hlive, tryRuleMatches, h, if_true, Bool.false_eq_true, if_false]

/-- A turn over a rule that matches. -/
theorem allowStep_of_matches {rule : CachedAllowRule}
    (hlive : isExpired rule.expiresAt env.now = false)
    (h : ruleMatches cf rule.toCriterion ipAddress userAgent = true) (redis : Redis) :
    allowStep cf env ipAddress userAgent rule redis =
      if rule.needsRdns then verifyRdns cf env ipAddress rule.rdnsPattern redis
      else (.ok true, redis) := by
  simp only [allowStep, hlive, tryRuleMatches, not_raises_of_ruleMatches cf h, h,
    Bool.false_eq_true, if_false]

/-- A turn over any other rule passes it over. -/
theorem allowStep_of_passed {rule : CachedAllowRule}
    (h : isExpired rule.expiresAt env.now = true ∨
      rule.toCriterion.endsSearch cf ipAddress userAgent = false) (redis : Redis) :
    allowStep cf env ipAddress userAgent rule redis = (.ok false, redis) := by
  rw [allowStep]
  split
  · rfl
  · rename_i hlive
    obtain ⟨hraises, hmatch⟩ := Bool.or_eq_false_iff.1 (h.resolve_left hlive)
    simp only [tryRuleMatches, hraises, hmatch, Bool.false_eq_true, if_false]

/-- **The ways a turn goes**: it passes the rule over, raises, or finds that the rule matches. -/
theorem allowStep_cases (rule : CachedAllowRule) (redis : Redis) :
    ((isExpired rule.expiresAt env.now = true ∨
          rule.toCriterion.endsSearch cf ipAddress userAgent = false) ∧
        allowStep cf env ipAddress userAgent rule redis = (.ok false, redis)) ∨
      (isExpired rule.expiresAt env.now = false ∧ rule.toCriterion.raises cf = true ∧
        allowStep cf env ipAddress userAgent rule redis = (.error .patternError, redis)) ∨
      isExpired rule.expiresAt env.now = false ∧ rule.toCriterion.raises cf = false ∧
        ruleMatches cf rule.toCriterion ipAddress userAgent = true ∧
        allowStep cf env ipAddress userAgent rule redis =
          if rule.needsRdns then verifyRdns cf env ipAddress rule.rdnsPattern redis
          else (.ok true, redis) := by
  rcases hlive : isExpired rule.expiresAt env.now with - | -
  · rcases hraises : rule.toCriterion.raises cf with - | -
    · rcases hmatch : ruleMatches cf rule.toCriterion ipAddress userAgent with - | -
      · have hpass : rule.toCriterion.endsSearch cf ipAddress userAgent = false := by
          rw [Criterion.endsSearch, hraises, hmatch, Bool.or_false]
        exact Or.inl ⟨Or.inr hpass,
          allowStep_of_passed cf env ipAddress userAgent (Or.inr hpass) redis⟩
      · exact Or.inr (Or.inr ⟨rfl, rfl, rfl,
          allowStep_of_matches cf env ipAddress userAgent hlive hmatch redis⟩)
    · exact Or.inr (Or.inl ⟨rfl, rfl,
        allowStep_of_raises cf env ipAddress userAgent hlive hraises redis⟩)
  · exact Or.inl ⟨Or.inl rfl, allowStep_of_passed cf env ipAddress userAgent (Or.inl hlive) redis⟩

/-- One turn changes cached reverse-DNS verdicts and nothing else. -/
theorem allowStep_frame (rule : CachedAllowRule) (redis : Redis) :
    ∃ fcrdns, (allowStep cf env ipAddress userAgent rule redis).2 =
      { redis with botFcrdns := fcrdns } := by
  rcases allowStep_cases cf env ipAddress userAgent rule redis with
    ⟨-, h⟩ | ⟨-, -, h⟩ | ⟨-, -, -, h⟩
  · exact ⟨redis.botFcrdns, by rw [h]⟩
  · exact ⟨redis.botFcrdns, by rw [h]⟩
  · rw [h]
    split
    · rcases verifyRdns_cases cf env ipAddress rule.rdnsPattern redis with
        ⟨v, -, h⟩ | ⟨-, ⟨e, -, h⟩ | ⟨v, fcrdns, -, h⟩⟩
      · exact ⟨redis.botFcrdns, by rw [h]⟩
      · exact ⟨redis.botFcrdns, by rw [h]⟩
      · exact ⟨fcrdns, by rw [h]⟩
    · exact ⟨redis.botFcrdns, rfl⟩

/-- The loop over the allow rules changes cached reverse-DNS verdicts and nothing else. -/
theorem checkAllowRules_frame : ∀ (rules : List CachedAllowRule) (redis : Redis),
    ∃ fcrdns, (checkAllowRules cf env ipAddress userAgent rules redis).2 =
      { redis with botFcrdns := fcrdns }
  | [], redis => ⟨redis.botFcrdns, rfl⟩
  | rule :: rest, redis => by
    obtain ⟨fcrdns, hstep⟩ := allowStep_frame cf env ipAddress userAgent rule redis
    rw [checkAllowRules]
    rcases hs : allowStep cf env ipAddress userAgent rule redis with ⟨e | (- | -), redis'⟩
    · rw [hs] at hstep
      exact ⟨fcrdns, hstep⟩
    · obtain ⟨fcrdns', hrest⟩ := checkAllowRules_frame rest redis'
      have hredis : redis' = { redis with botFcrdns := fcrdns } := by rw [← hstep, hs]
      exact ⟨fcrdns', hrest.trans (by rw [hredis])⟩
    · rw [hs] at hstep
      exact ⟨fcrdns, hstep⟩

/-- The allow rules do not look at the rule-cache keys. -/
theorem checkAllowRules_rules (k : RuleKeys) (rules : List CachedAllowRule) (redis : Redis) :
    checkAllowRules cf env ipAddress userAgent rules { redis with rules := k } =
      ((checkAllowRules cf env ipAddress userAgent rules redis).1,
        { (checkAllowRules cf env ipAddress userAgent rules redis).2 with rules := k }) := by
  induction rules generalizing redis with
  | nil => rfl
  | cons rule rest ih =>
    have hstep : allowStep cf env ipAddress userAgent rule { redis with rules := k } =
        ((allowStep cf env ipAddress userAgent rule redis).1,
          { (allowStep cf env ipAddress userAgent rule redis).2 with rules := k }) := by
      simp only [allowStep, verifyRdns]
      split
      · rfl
      · rcases tryRuleMatches cf rule.toCriterion ipAddress userAgent with e | (- | -)
        · rfl
        · rfl
        · simp only
          split
          · split
            · rfl
            · split <;> rfl
          · rfl
    rw [checkAllowRules, checkAllowRules, hstep]
    rcases allowStep cf env ipAddress userAgent rule redis with ⟨e | (- | -), redis'⟩
    · rfl
    · exact ih redis'
    · rfl

/-- **The resolution that raises**: a lookup is answered with an exception that is not an `OSError`,
or `re` raises something other than `re.error` on the pattern of the rule. -/
def RdnsRaises (resolver : Resolver) (ipAddress rdnsPattern : String) : Prop :=
  resolver.gethostbyaddr ipAddress = .raises ∨
    ∃ hostname, resolver.gethostbyaddr ipAddress = .found hostname ∧ hostname ≠ "" ∧
      (cf.reRaises rdnsPattern = true ∨
        cf.reSearch rdnsPattern hostname = some true ∧ resolver.getaddrinfo hostname = .raises)

/-- A resolution fails exactly when it raises one of these. -/
theorem resolveAndConfirmRdns_error_iff {resolver : Resolver} {ipAddress rdnsPattern : String} :
    (∃ e, resolveAndConfirmRdns cf resolver ipAddress rdnsPattern = .error e) ↔
      RdnsRaises cf resolver ipAddress rdnsPattern := by
  rw [resolveAndConfirmRdns, RdnsRaises]
  rcases resolver.gethostbyaddr ipAddress with hostname | - | -
  · by_cases hempty : hostname = ""
    · simp [hempty]
    · rcases hc : cf.reCompile rdnsPattern with search | - | -
      · rcases hs : search hostname with - | -
        · simp [hempty, Conf.reSearch, Conf.reRaises, hc, hs]
        · rcases hf : resolver.getaddrinfo hostname with addresses | - | -
          · rcases IpAddress.ipAddress ipAddress with - | target <;>
              simp [hempty, Conf.reSearch, Conf.reRaises, hc, hs, hf]
          · simp [hempty, Conf.reSearch, Conf.reRaises, hc, hs, hf]
          · simp [hempty, Conf.reSearch, Conf.reRaises, hc, hs, hf]
      · simp [hempty, Conf.reSearch, Conf.reRaises, hc]
      · simp [hempty, Conf.reSearch, Conf.reRaises, hc]
  · simp
  · simp

/-- The turn over a rule raises: matching it does, or it matches, asks for reverse DNS, has no
cached verdict to go by, and the resolution raises. -/
def AllowTurnRaises (rule : CachedAllowRule) (redis : Redis) : Prop :=
  isExpired rule.expiresAt env.now = false ∧
    (rule.toCriterion.raises cf = true ∨
      ruleMatches cf rule.toCriterion ipAddress userAgent = true ∧ rule.needsRdns = true ∧
        redis.botFcrdns.get env.now (fcrdnsCacheKey cf ipAddress rule.rdnsPattern) = none ∧
        RdnsRaises cf env.resolver ipAddress rule.rdnsPattern)

/-- **The allow rule that raises** is reached with nothing granted before it. -/
def AllowRaises (rules : List CachedAllowRule) (redis : Redis) : Prop :=
  ∃ pre rule post redis', rules = pre ++ rule :: post ∧
    checkAllowRules cf env ipAddress userAgent pre redis = (.ok none, redis') ∧
    AllowTurnRaises cf env ipAddress userAgent rule redis'

/-- One turn fails exactly when it raises one of these. -/
theorem allowStep_error_iff (rule : CachedAllowRule) (redis : Redis) :
    (∃ e, (allowStep cf env ipAddress userAgent rule redis).1 = .error e) ↔
      AllowTurnRaises cf env ipAddress userAgent rule redis := by
  rw [AllowTurnRaises]
  rcases allowStep_cases cf env ipAddress userAgent rule redis with
    ⟨hpass, h⟩ | ⟨hlive, hraises, h⟩ | ⟨hlive, hraises, hmatch, h⟩
  · rw [h]
    refine iff_of_false (by simp) fun ⟨hlive, hends⟩ ↦ ?_
    have hno := hpass.resolve_left (by simp [hlive])
    rw [Criterion.endsSearch, Bool.or_eq_false_iff] at hno
    rw [hno.1, hno.2] at hends
    simp at hends
  · rw [h]
    exact iff_of_true ⟨_, rfl⟩ ⟨hlive, Or.inl hraises⟩
  · rw [h]
    split
    · rename_i hneeds
      rcases verifyRdns_cases cf env ipAddress rule.rdnsPattern redis with
        ⟨v, hc, h⟩ | ⟨hc, ⟨e, hr, h⟩ | ⟨v, fcrdns, hr, h⟩⟩
      · rw [h]
        exact iff_of_false (by simp) (by simp [hraises, hc])
      · rw [h]
        exact iff_of_true ⟨e, rfl⟩ ⟨hlive, Or.inr ⟨hmatch, hneeds, hc,
          (resolveAndConfirmRdns_error_iff cf).1 ⟨e, hr⟩⟩⟩
      · rw [h, ← resolveAndConfirmRdns_error_iff, hr]
        exact iff_of_false (by simp) (by simp [hraises])
    · rename_i hneeds
      exact iff_of_false (by simp) (by simp [hraises, hneeds])

/-- The loop goes on behind rules that pass the request over. -/
theorem checkAllowRules_append {pre : List CachedAllowRule} {redis redis' : Redis}
    (h : checkAllowRules cf env ipAddress userAgent pre redis = (.ok none, redis'))
    (rest : List CachedAllowRule) :
    checkAllowRules cf env ipAddress userAgent (pre ++ rest) redis =
      checkAllowRules cf env ipAddress userAgent rest redis' := by
  induction pre generalizing redis with
  | nil =>
    obtain rfl := (Prod.mk.inj h).2
    rfl
  | cons rule pre ih =>
    rw [checkAllowRules] at h
    rw [List.cons_append, checkAllowRules]
    rcases hs : allowStep cf env ipAddress userAgent rule redis with ⟨e | (- | -), redis''⟩
    · rw [hs] at h
      cases (Prod.mk.inj h).1
    · rw [hs] at h
      exact ih h
    · rw [hs] at h
      cases (Prod.mk.inj h).1

/-- **The turn that ends the loop**: every rule before it passes the request over, and it raises or
allows the request. -/
theorem exists_turn_of_checkAllowRules {rules : List CachedAllowRule} {redis redis'' : Redis}
    {x : Except PyError (Option CachedAllowRule)} (hx : x ≠ .ok none)
    (h : checkAllowRules cf env ipAddress userAgent rules redis = (x, redis'')) :
    ∃ pre rule post redis', rules = pre ++ rule :: post ∧
      checkAllowRules cf env ipAddress userAgent pre redis = (.ok none, redis') ∧
      ((∃ e, x = .error e ∧
          allowStep cf env ipAddress userAgent rule redis' = (.error e, redis'')) ∨
        x = .ok (some rule) ∧
          allowStep cf env ipAddress userAgent rule redis' = (.ok true, redis'')) := by
  induction rules generalizing redis with
  | nil => exact absurd (Prod.mk.inj h).1.symm hx
  | cons rule rest ih =>
    rw [checkAllowRules] at h
    rcases hs : allowStep cf env ipAddress userAgent rule redis with ⟨e | (- | -), redis'⟩
    · rw [hs] at h
      obtain ⟨rfl, rfl⟩ := Prod.mk.inj h
      exact ⟨[], rule, rest, redis, rfl, rfl, Or.inl ⟨e, rfl, hs⟩⟩
    · rw [hs] at h
      obtain ⟨pre, r, post, redis₁, rfl, hpre, hturn⟩ := ih h
      refine ⟨rule :: pre, r, post, redis₁, rfl, ?_, hturn⟩
      rw [checkAllowRules, hs]
      exact hpre
    · rw [hs] at h
      obtain ⟨rfl, rfl⟩ := Prod.mk.inj h
      exact ⟨[], rule, rest, redis, rfl, rfl, Or.inr ⟨rfl, hs⟩⟩

/-- **The loop over the allow rules raises exactly when one of its turns does.** -/
theorem checkAllowRules_error_iff (rules : List CachedAllowRule) (redis : Redis) :
    (∃ e, (checkAllowRules cf env ipAddress userAgent rules redis).1 = .error e) ↔
      AllowRaises cf env ipAddress userAgent rules redis := by
  constructor
  · rintro ⟨e, he⟩
    obtain ⟨pre, rule, post, redis', hrules, hpre, ⟨e', -, hstep⟩ | ⟨hx, -⟩⟩ :=
      @exists_turn_of_checkAllowRules cf env ipAddress userAgent rules redis _ (.error e) (by simp)
        (Prod.ext he rfl)
    · exact ⟨pre, rule, post, redis', hrules, hpre,
        (allowStep_error_iff cf env ipAddress userAgent rule redis').1 ⟨e', by rw [hstep]⟩⟩
    · cases hx
  · rintro ⟨pre, rule, post, redis', rfl, hpre, hturn⟩
    obtain ⟨e, he⟩ := (allowStep_error_iff cf env ipAddress userAgent rule redis').2 hturn
    refine ⟨e, ?_⟩
    rw [checkAllowRules_append cf env ipAddress userAgent hpre, checkAllowRules]
    rcases hs : allowStep cf env ipAddress userAgent rule redis' with ⟨x, redis''⟩
    rw [hs] at he
    obtain rfl : x = .error e := he
    rfl

/-! ### When the block rules and the score of a path fail -/

/-- **The loop over the block rules is a search** for the first live rule that matches or raises. -/
theorem checkBlockRules_eq (rules : List CachedBlockRule) (redis : Redis) :
    checkBlockRules cf env ipAddress userAgent rules redis =
      match rules.find? fun rule ↦ !isExpired rule.expiresAt env.now &&
          rule.toCriterion.endsSearch cf ipAddress userAgent with
      | none => .ok none
      | some rule =>
        if rule.toCriterion.raises cf then .error .patternError
        else .ok (some (rule, recordRuleHit env.now rule.id redis)) := by
  induction rules with
  | nil => rfl
  | cons rule rest ih =>
    rw [checkBlockRules, List.find?_cons]
    rcases hlive : isExpired rule.expiresAt env.now with - | -
    · rcases hraises : rule.toCriterion.raises cf with - | -
      · rcases hmatch : ruleMatches cf rule.toCriterion ipAddress userAgent with - | - <;>
          simp [tryRuleMatches, Criterion.endsSearch, hraises, hmatch, ih]
      · simp [tryRuleMatches, Criterion.endsSearch, hraises]
    · simp [ih]

/-- **The block rule that raises** is the first live one that matches or raises. -/
def BlockRaises (rules : List CachedBlockRule) : Prop :=
  ∃ rule, rule.toCriterion.raises cf = true ∧
    (rules.find? fun rule ↦ !isExpired rule.expiresAt env.now &&
      rule.toCriterion.endsSearch cf ipAddress userAgent) = some rule

/-- **The loop over the block rules raises exactly when it comes to such a rule.** -/
theorem checkBlockRules_error_iff (rules : List CachedBlockRule) (redis : Redis) :
    (∃ e, checkBlockRules cf env ipAddress userAgent rules redis = .error e) ↔
      BlockRaises cf env ipAddress userAgent rules := by
  rw [checkBlockRules_eq, BlockRaises]
  rcases rules.find? _ with - | rule
  · simp
  · rcases hraises : rule.toCriterion.raises cf with - | - <;> simp [hraises]

/-- A block rule that is found has its hit counted, and that is all the loop writes. -/
theorem checkBlockRules_redis {rules : List CachedBlockRule} {redis redis' : Redis}
    {rule : CachedBlockRule} (h : checkBlockRules cf env ipAddress userAgent rules redis =
      .ok (some (rule, redis'))) : redis' = recordRuleHit env.now rule.id redis := by
  rw [checkBlockRules_eq] at h
  split at h
  · cases h
  · split at h
    · cases h
    · obtain ⟨rfl, rfl⟩ := Prod.mk.inj (Option.some.inj (Except.ok.inj h))
      rfl

/-- Some pattern of a list is reached with a score below ten, and raises. -/
def ScoreRaises (path : String) : List String → ℚ → Prop
  | [], _ => False
  | pattern :: rest, score =>
    cf.reRaises pattern = true ∨
      if cf.reSearch pattern path = some true then
        score + cf.suspiciousPathScore < 10 ∧ ScoreRaises path rest (score + cf.suspiciousPathScore)
      else ScoreRaises path rest score

theorem scorePathFrom_error_iff (path : String) (patterns : List String) (score : ℚ) :
    (∃ e, scorePathFrom cf path patterns score = .error e) ↔
      ScoreRaises cf path patterns score := by
  induction patterns generalizing score with
  | nil => simp [scorePathFrom, ScoreRaises]
  | cons pattern rest ih =>
    rw [scorePathFrom, ScoreRaises]
    rcases hc : cf.reCompile pattern with search | - | -
    · rcases hs : search path with - | -
      · simp [Conf.reSearch, Conf.reRaises, hc, hs, ih]
      · by_cases hten : 10 ≤ score + cf.suspiciousPathScore
        · simp [Conf.reSearch, Conf.reRaises, hc, hs, hten, not_lt.2 hten]
        · simp [Conf.reSearch, Conf.reRaises, hc, hs, hten, not_le.1 hten, ih]
    · simp [Conf.reSearch, Conf.reRaises, hc, ih]
    · simp [Conf.reSearch, Conf.reRaises, hc]

/-- **The score of a path fails exactly when a pattern that is still asked about raises.** -/
theorem scorePath_error_iff (path : String) :
    (∃ e, scorePath cf path = .error e) ↔ ScoreRaises cf path cf.suspiciousPathPatterns 0 :=
  scorePathFrom_error_iff cf path cf.suspiciousPathPatterns 0

end DjangoWaf
