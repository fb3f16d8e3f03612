import DjangoWaf.Models
import DjangoWaf.Services.RateLimiter

/-!
# Settings

The settings of `conf.py` that evaluation, the middleware and the rule writers read, one field per
`DJANGO_WAF_*` name, together with what the surrounding runtime supplies: Python's `re` on patterns
that come from a rule or a setting, SHA-256, and the cache backends of the project.

`reCompile pattern` is what `re.compile(pattern, re.IGNORECASE)` comes to. A pattern that `re` does
not take is refused with `re.error`, which the callers catch, or with some other exception, which
**none of them catches**: a repetition count the engine cannot hold is an `OverflowError`, deep
nesting a `RecursionError`.

## Two ways to name the Redis alias

`redisAlias` is what `conf.DJANGO_WAF_REDIS_ALIAS` resolves to and the middleware reads from: the
package's own alias, else the fleet-wide one, else `default`. `handlerAlias` is what `handlers.py`
resolves on its own for the signal handlers: it **never looks at the fleet-wide alias**. The two
name the same backend whenever the package's own alias is set.
-/

namespace DjangoWaf

/-- What a Django cache alias is configured to be. -/
inductive CacheBackend
  /-- `django_redis`, on some server. -/
  | redis (server : ℕ)
  /-- Any backend that is not `django_redis`. -/
  | other
  deriving DecidableEq, Repr

/-- What `re` does with a pattern. -/
inductive RePattern
  /-- It compiles; whether `search` finds it in a text. -/
  | compiled (search : String → Bool)
  /-- `re.error`. -/
  | reError
  /-- Any other exception. -/
  | raises

/-- The settings and the runtime of a deployment. -/
structure Conf extends RateLimitConf where
  /-- `DJANGO_WAF_ENABLED`. -/
  enabled : Bool
  /-- `DJANGO_WAF_EXEMPT_PATHS`. -/
  exemptPaths : List String
  /-- `DJANGO_WAF_ALLOWED_METHODS`. -/
  allowedMethods : Option (List String)
  /-- `DJANGO_WAF_CHALLENGE_NO_REFERER`. -/
  challengeNoReferer : Bool
  /-- `DJANGO_WAF_NO_REFERER_EXEMPT_PATHS`. -/
  noRefererExemptPaths : List String
  /-- `DJANGO_WAF_SUSPICIOUS_PATH_PATTERNS`. -/
  suspiciousPathPatterns : List String
  /-- `DJANGO_WAF_SUSPICIOUS_PATH_SCORE`. -/
  suspiciousPathScore : ℚ
  /-- `DJANGO_WAF_SCORE_THRESHOLD_BLOCK`. -/
  scoreThresholdBlock : ℚ
  /-- `DJANGO_WAF_SCORE_THRESHOLD_CHALLENGE`. -/
  scoreThresholdChallenge : ℚ
  /-- `DJANGO_WAF_SCORE_THRESHOLD_LOG`. -/
  scoreThresholdLog : ℚ
  /-- `DJANGO_WAF_CHALLENGE_ESCALATION_THRESHOLD`. -/
  challengeEscalationThreshold : ℕ
  /-- `DJANGO_WAF_ESCALATION_BLOCK_TTL`. -/
  escalationBlockTtl : ℕ
  /-- `DJANGO_WAF_RDNS_FAILURE_CACHE_TTL`. -/
  rdnsFailureCacheTtl : ℕ
  /-- `DJANGO_WAF_ANOMALY_QUARANTINE_AUTO_RULES`. -/
  quarantineAutoRules : Bool
  /-- `DJANGO_WAF_ANOMALY_OBSERVE_ONLY_DETECTORS`. -/
  observeOnlyDetectors : List String
  /-- `DJANGO_WAF_RULE_PRUNE_ENABLED`. -/
  rulePruneEnabled : Bool
  /-- `DJANGO_WAF_REDIS_ALIAS`, when set. -/
  wafRedisAlias : Option String
  /-- `ICV_CACHES_ALIAS`, when set. -/
  icvCachesAlias : Option String
  /-- `CACHES`. -/
  caches : String → Option CacheBackend
  /-- `re.compile(pattern, re.IGNORECASE)`. -/
  reCompile : String → RePattern
  /-- `hashlib.sha256(text.encode()).hexdigest()`. -/
  sha256 : String → String

/-- The default of `DJANGO_WAF_SUSPICIOUS_PATH_PATTERNS`. -/
def defaultSuspiciousPathPatterns : List String :=
  ["\\.env", "\\.aws", "\\.ssh", "id_rsa", "id_dsa", "\\.pem$", "\\.key$", "credentials",
    "\\.bash_history", "\\.zsh_history", "wp-config\\.php", "config\\.php", "settings\\.py",
    "/admin/config", "\\.yml$", "\\.yaml$", "\\.git", "\\.svn", "\\.hg", "\\.sql$", "\\.sql\\.gz$",
    "\\.bak$", "\\.backup$", "dump\\.sql", "backup\\.zip", "db\\.sqlite", "wp-admin", "wp-login",
    "xmlrpc\\.php", "shell\\.php", "alfa.*\\.php", "r57\\.php", "c99\\.php", "filemanager\\.php",
    "webshell", "cmd\\.php", "/eval\\.php", "phpinfo", "phpmyadmin", "/server-status",
    "/server-info", "/onvif/", "/boaform/", "/HNAP1", "/goform/"]

/-- The default settings, over one Redis, on a given runtime. -/
def Conf.defaults (prefixHash : String → String) (reCompile : String → RePattern)
    (sha256 : String → String) : Conf where
  burst := 10
  perMinute := 120
  per5min := 600
  paths := []
  paths_nodup := List.nodup_nil
  verifyMax := 20
  verifyWindowSeconds := 300
  prefixHash
  enabled := true
  exemptPaths := ["/static/", "/media/", "/health/", "/favicon.ico"]
  allowedMethods := none
  challengeNoReferer := false
  noRefererExemptPaths := ["/", "/search/", "/robots.txt", "/sitemap.xml", "/favicon.ico"]
  suspiciousPathPatterns := defaultSuspiciousPathPatterns
  suspiciousPathScore := 3
  scoreThresholdBlock := 7
  scoreThresholdChallenge := 5
  scoreThresholdLog := 3
  challengeEscalationThreshold := 10
  escalationBlockTtl := 3600
  rdnsFailureCacheTtl := 300
  quarantineAutoRules := false
  observeOnlyDetectors := []
  rulePruneEnabled := false
  wafRedisAlias := none
  icvCachesAlias := none
  caches name := if name = "default" then some (.redis 0) else none
  reCompile
  sha256

namespace Conf

variable (cf : Conf)

/-- `re.search(pattern, text, re.IGNORECASE)`, for a pattern that compiles. -/
def reSearch (pattern text : String) : Option Bool :=
  match cf.reCompile pattern with
  | .compiled search => some (search text)
  | .reError | .raises => none

/-- `re` raises something other than `re.error` on the pattern. -/
def reRaises (pattern : String) : Bool :=
  match cf.reCompile pattern with
  | .raises => true
  | .compiled _ | .reError => false

/-- Nothing is found of a pattern that does not compile. -/
theorem reSearch_of_reRaises {pattern : String} (h : cf.reRaises pattern = true) (text : String) :
    cf.reSearch pattern text = none := by
  rw [reRaises] at h
  rw [reSearch]
  rcases hc : cf.reCompile pattern with search | - | -
  · rw [hc] at h
    cases h
  · rfl
  · rfl

/-- `conf.DJANGO_WAF_REDIS_ALIAS`. -/
def redisAlias : String := cf.wafRedisAlias.getD (cf.icvCachesAlias.getD "default")

/-- The alias `handlers._get_cache` resolves. -/
def handlerAlias : String := cf.wafRedisAlias.getD "default"

/-- The middleware has a Redis to work with: `get_redis_client` returns a client. -/
def hasRedis : Bool :=
  match cf.caches cf.redisAlias with
  | some (.redis _) => true
  | _ => false

/-- The signal handlers' `INCR` lands in the Redis the middleware reads. A missing alias and a
backend that is not Redis leave that Redis alone. -/
def handlerReaches : Bool :=
  match cf.caches cf.redisAlias, cf.caches cf.handlerAlias with
  | some (.redis s), some (.redis s') => s = s'
  | _, _ => false

/-- An explicit package alias is read by both sides. -/
theorem handlerReaches_of_wafRedisAlias (h : cf.wafRedisAlias.isSome) (hr : cf.hasRedis = true) :
    cf.handlerReaches = true := by
  obtain ⟨name, hname⟩ := Option.isSome_iff_exists.1 h
  have hsame : cf.handlerAlias = cf.redisAlias := by
    rw [handlerAlias, redisAlias, hname]
    rfl
  rw [hasRedis] at hr
  rw [handlerReaches, hsame]
  split at hr
  · rename_i s hs
    simp [hs]
  · cases hr

end Conf

end DjangoWaf
