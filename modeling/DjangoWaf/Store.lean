import DjangoWaf.Conf
import DjangoWaf.Lib.KeySpace

/-!
# Shared state

What a request can read and change besides its own variables: the Redis the middleware is configured
with, one field per family of `waf:*` keys; the two rule tables; and the rule cache each worker
process holds on to.

`Env` is everything about one call that neither the client nor the state decides: the clock, the
worker, the answers of the name service, the identifier a new row gets, and whether the writes the
code guards with `try` go through. Commands outside a `try` succeed.
-/

namespace DjangoWaf

/-- Exceptions that can leave `evaluate_request`. -/
inductive PyError
  /-- `ValueError`. -/
  | valueError
  /-- An exception of a name lookup that is not an `OSError`, such as `UnicodeError`. -/
  | lookupError
  /-- An exception of `re` that is not `re.error`, such as `OverflowError`. -/
  | patternError
  deriving DecidableEq, Repr

/-! ### Rule caches -/

/-- The rules a cache holds. -/
@[ext]
structure RuleSet where
  allowRules : List CachedAllowRule
  blockRules : List CachedBlockRule
  deriving DecidableEq

/-- `RuleCache`. -/
structure RuleCache extends RuleSet where
  version : ℕ
  deriving DecidableEq

/-- The value of a `waf:rules:cache:{version}` key. -/
inductive RuleJson
  | rules (r : RuleSet)
  | corrupt
  deriving DecidableEq

/-- The rule-cache keys. -/
structure RuleKeys where
  /-- `waf:rules:version`. -/
  version : Option ℕ
  /-- `waf:rules:cache:{version}`. -/
  json : KeySpace ℕ ℚ RuleJson
  /-- `waf:rule_cache:lock`. -/
  lock : KeySpace Unit ℚ Unit

/-! ### Redis -/

/-- The value of a `waf:blocked:{ip}` key. -/
inductive BlockedValue
  /-- `"1"`: blocked, by no known rule. -/
  | sentinel
  /-- The identifier of the rule that blocked the address. -/
  | rule (id : Uuid)
  /-- Any other text. -/
  | malformed
  deriving DecidableEq, Repr

/-- The keys evaluation, the middleware and the verify view use. -/
structure Redis where
  rules : RuleKeys
  /-- `waf:blocked:{ip}`. -/
  blocked : KeySpace String ℚ BlockedValue
  /-- `waf:bot_fcrdns:{ip}:{pattern_hash}`. -/
  botFcrdns : KeySpace (String × String) ℚ Bool
  /-- The field `blocked` of `waf:stats:today`. -/
  statsBlocked : ℕ
  /-- `waf:rule_hits:{rule_id}`. -/
  ruleHits : KeySpace Uuid ℚ ℕ
  /-- `waf:challenged:{ip}`. -/
  challenged : KeySpace String ℚ ℕ
  /-- `waf:solved:{ip}`. -/
  solved : KeySpace String ℚ Unit
  /-- `waf:known_fp:{fp}`. -/
  knownFp : KeySpace String ℚ ℕ
  /-- `waf:rate:…`. -/
  rate : RateStore

/-- A Redis with no key of the package. -/
def Redis.empty : Redis where
  rules := ⟨none, .empty, .empty⟩
  blocked := .empty
  botFcrdns := .empty
  statsBlocked := 0
  ruleHits := .empty
  challenged := .empty
  solved := .empty
  knownFp := .empty
  rate := RateStore.empty

/-- Redis, the rule tables and the in-process rule cache of each worker. -/
structure World where
  redis : Redis
  db : Db
  /-- `_process_cache`, whose version is `_process_cache_version`. -/
  process : ℕ → Option RuleCache

/-- A fresh deployment over some tables. -/
def World.start (db : Db) : World := ⟨Redis.empty, db, fun _ ↦ none⟩

/-! ### One call -/

/-- The outcome of a call to the name service. -/
inductive Lookup (α : Type*)
  | found (a : α)
  /-- `OSError` or one of its subclasses, which the code catches. -/
  | osError
  /-- Any other exception, which it does not. -/
  | raises
  deriving DecidableEq, Repr

/-- The name service. -/
structure Resolver where
  /-- `socket.gethostbyaddr(ip)[0]`. -/
  gethostbyaddr : String → Lookup String
  /-- The addresses of `socket.getaddrinfo(hostname, None)`. -/
  getaddrinfo : String → Lookup (List String)

/-- How a guarded pair of Redis commands ends. -/
inductive GuardedWrite
  | done
  | firstFails
  | secondFails
  deriving DecidableEq, Repr

/-- What one call finds around it. -/
structure Env where
  now : ℚ
  worker : ℕ
  resolver : Resolver
  /-- Overdue rate-limit keys the store has removed by now. -/
  drop : RateKey → Bool
  /-- The primary key of a row this call creates. -/
  freshId : Uuid
  /-- The database accepts the escalation rule's transaction. -/
  ruleWrite : Bool
  /-- `SETEX` and `HINCRBY` of the middleware's `record_block_verdict`. -/
  blockWrite : GuardedWrite
  /-- `INCR` and `EXPIRE` of the challenge counter. -/
  challengeWrite : GuardedWrite

namespace World

variable (w : World)

/-- Change Redis alone. -/
def withRedis (r : Redis) : World := { w with redis := r }

end World

/-! ### What evaluation leaves alone -/

/-- The two states agree on the verdict keys and on the tables: the blocked entries, the challenge
and solve keys, the known fingerprints, the statistics and the database. -/
structure World.SameVerdicts (w w' : World) : Prop where
  blocked : w'.redis.blocked = w.redis.blocked
  statsBlocked : w'.redis.statsBlocked = w.redis.statsBlocked
  challenged : w'.redis.challenged = w.redis.challenged
  solved : w'.redis.solved = w.redis.solved
  knownFp : w'.redis.knownFp = w.redis.knownFp
  db : w'.db = w.db

theorem World.SameVerdicts.refl (w : World) : w.SameVerdicts w := ⟨rfl, rfl, rfl, rfl, rfl, rfl⟩

theorem World.SameVerdicts.trans {w w' w'' : World} (h : w.SameVerdicts w')
    (h' : w'.SameVerdicts w'') : w.SameVerdicts w'' where
  blocked := h'.blocked.trans h.blocked
  statsBlocked := h'.statsBlocked.trans h.statsBlocked
  challenged := h'.challenged.trans h.challenged
  solved := h'.solved.trans h.solved
  knownFp := h'.knownFp.trans h.knownFp
  db := h'.db.trans h.db

end DjangoWaf
