import Mathlib.Algebra.Order.Ring.Rat
import Mathlib.Data.Char
import Mathlib.Data.List.Lex
import Mathlib.Data.List.Sort

/-!
# Rules, as rows and as cache entries

`models.py` and `enums.py`, for the two rule tables. A choice field of a rule is a text column, and
the evaluation code says itself that an unrecognised value is a legitimate input, so the
enumerations a cached rule carries have a last constructor for any other text. `source` and
`review_status` are written by the package alone and never read from outside it.

A **row** is what the database holds. A **cached rule** is the projection of a row that
`_rebuild_rule_cache_from_db` serialises; evaluation sees nothing else of it. Instants are rational
seconds, and a primary key is a number.

`Db.activeBlockRules` orders by priority alone, and `Db.activeAllowRules` by name: rows that are
equal in that come in the order of the table.
-/

namespace DjangoWaf

/-- A `UUIDField` primary key. -/
abbrev Uuid := ℕ

/-- `RuleAction`. -/
inductive RuleAction
  | block
  | challenge
  | throttle
  | logOnly
  | other (value : String)
  deriving DecidableEq, Repr

/-- `RuleType`. -/
inductive RuleType
  | ua
  | ip
  | cidr
  | composite
  | other (value : String)
  deriving DecidableEq, Repr

/-- `MatchType`. -/
inductive MatchType
  | exact
  | regex
  | contains
  | cidr
  | other (value : String)
  deriving DecidableEq, Repr

/-- `RuleSource`. -/
inductive RuleSource
  | admin
  | auto
  | feed
  deriving DecidableEq, Repr

/-- `ReviewStatus`. -/
inductive ReviewStatus
  | notApplicable
  | pending
  | confirmed
  | rejected
  | expiredUnreviewed
  deriving DecidableEq, Repr

/-- `Verdict`. -/
inductive Verdict
  | allowed
  | blocked
  | challenged
  | throttled
  | passed
  | logged
  deriving DecidableEq, Repr

/-- What a rule matches a request against. -/
structure Criterion where
  ruleType : RuleType
  matchType : MatchType
  pattern : String
  deriving DecidableEq, Repr

/-! ### Cache entries -/

/-- A block rule as the cache holds it. -/
structure CachedBlockRule extends Criterion where
  id : Uuid
  action : RuleAction
  priority : ℕ
  expiresAt : Option ℚ
  deriving DecidableEq

/-- An allow rule as the cache holds it. -/
structure CachedAllowRule extends Criterion where
  id : Uuid
  verifyRdns : Bool
  rdnsPattern : String
  expiresAt : Option ℚ
  deriving DecidableEq

/-- `expires_at` has passed: `_is_cached_rule_expired`, and the negation of the managers' filter. -/
def isExpired (expiresAt : Option ℚ) (now : ℚ) : Bool :=
  match expiresAt with
  | none => false
  | some expiry => expiry ≤ now

/-! ### Rows -/

/-- `BlockRule`, in the columns that evaluation, review and the rule writers use. -/
structure BlockRule extends Criterion where
  id : Uuid
  name : String
  action : RuleAction
  priority : ℕ
  isActive : Bool
  source : RuleSource
  expiresAt : Option ℚ
  reviewStatus : ReviewStatus
  reviewedAt : Option ℚ
  detectors : String
  createdAt : ℚ
  deriving DecidableEq

/-- `AllowRule`, in the columns that evaluation and the rule writers use. -/
structure AllowRule extends Criterion where
  id : Uuid
  name : String
  verifyRdns : Bool
  rdnsPattern : String
  isActive : Bool
  source : RuleSource
  expiresAt : Option ℚ
  deriving DecidableEq

/-- The entry `_rebuild_rule_cache_from_db` writes for a block rule. -/
def BlockRule.toCached (r : BlockRule) : CachedBlockRule :=
  { toCriterion := r.toCriterion, id := r.id, action := r.action, priority := r.priority,
    expiresAt := r.expiresAt }

/-- The entry `_rebuild_rule_cache_from_db` writes for an allow rule. -/
def AllowRule.toCached (r : AllowRule) : CachedAllowRule :=
  { toCriterion := r.toCriterion, id := r.id, verifyRdns := r.verifyRdns,
    rdnsPattern := r.rdnsPattern, expiresAt := r.expiresAt }

/-- The two rule tables. -/
@[ext]
structure Db where
  blockRules : List BlockRule
  allowRules : List AllowRule

/-- A row the managers' `active()` returns. -/
def BlockRule.active (r : BlockRule) (now : ℚ) : Bool := r.isActive && !isExpired r.expiresAt now

/-- A row the managers' `active()` returns. -/
def AllowRule.active (r : AllowRule) (now : ℚ) : Bool := r.isActive && !isExpired r.expiresAt now

/-- `BlockRule.objects.active()`. -/
def Db.activeBlockRules (db : Db) (now : ℚ) : List BlockRule :=
  (db.blockRules.filter fun r ↦ r.active now).insertionSort fun r r' ↦ r.priority ≤ r'.priority

/-- `AllowRule.objects.active()`, in the order of the model. -/
def Db.activeAllowRules (db : Db) (now : ℚ) : List AllowRule :=
  (db.allowRules.filter fun r ↦ r.active now).insertionSort fun r r' ↦
    r.name.toList ≤ r'.name.toList

/-- A row `BlockRule.objects.expired()` returns. -/
def BlockRule.expired (r : BlockRule) (now : ℚ) : Bool := r.isActive && isExpired r.expiresAt now

/-- A row `AllowRule.objects.expired()` returns. -/
def AllowRule.expired (r : AllowRule) (now : ℚ) : Bool := r.isActive && isExpired r.expiresAt now

/-! ### What is active, and until when -/

theorem mem_activeBlockRules {db : Db} {now : ℚ} {r : BlockRule} :
    r ∈ db.activeBlockRules now ↔
      r ∈ db.blockRules ∧ r.isActive = true ∧ isExpired r.expiresAt now = false := by
  rw [Db.activeBlockRules, List.mem_insertionSort, List.mem_filter, BlockRule.active,
    Bool.and_eq_true, Bool.not_eq_true']

theorem mem_activeAllowRules {db : Db} {now : ℚ} {r : AllowRule} :
    r ∈ db.activeAllowRules now ↔
      r ∈ db.allowRules ∧ r.isActive = true ∧ isExpired r.expiresAt now = false := by
  rw [Db.activeAllowRules, List.mem_insertionSort, List.mem_filter, AllowRule.active,
    Bool.and_eq_true, Bool.not_eq_true']

/-- Expiry only sets in: what is unexpired at an instant was unexpired before it. -/
theorem isExpired_mono {e : Option ℚ} {s t : ℚ} (hst : s ≤ t) (h : isExpired e t = false) :
    isExpired e s = false := by
  rcases e with - | expiry
  · rfl
  · simp only [isExpired, decide_eq_false_iff_not, not_le] at h ⊢
    exact lt_of_le_of_lt hst h

/-! ### Challenge tokens -/

/-- `ChallengeStatus`. -/
inductive ChallengeStatus
  | pending
  | solved
  | expired
  | failed
  deriving DecidableEq, Repr

/-- `ChallengeToken`, in the columns the detectors read. -/
structure ChallengeToken where
  ipAddress : String
  status : ChallengeStatus
  solvedAt : Option ℚ

end DjangoWaf
