import DjangoWaf.Lib.PyStr
import DjangoWaf.Lib.SlidingWindow
import Mathlib.Algebra.Order.Ring.Rat
import Mathlib.Data.List.Sort

/-!
# The rate limiter

`services/rate_limiter.py`: per address, three sliding windows and an optional limit per path
prefix, each a sorted set of its own, and the separate limiter of the verify endpoint.

Clock readings are rational seconds. `now - window_seconds` is exact on the doubles `time.time()`
returns, an epoch reading less a whole number of seconds, so the model's arithmetic is the code's.
`str(now)` is injective on them, so the reading itself stands for the member `ZADD` stores.

Every check takes `drop`, the store's choice of which overdue keys it has removed by now: a key may
vanish at or after the deadline its last `EXPIRE` set, and not before.

`checkWindows` is the loop over `_WINDOWS`: a window that is exceeded returns at once, so the later
windows are not updated by that call.
-/

open SlidingWindow

namespace DjangoWaf

/-- The window a result names. -/
inductive WindowName
  | sec1
  | min1
  | min5
  | path
  | verify
  deriving DecidableEq, Repr

/-- Result of a rate limit check. -/
structure RateLimitResult where
  exceeded : Bool
  window : Option WindowName
  retryAfter : Option ℤ
  deriving DecidableEq, Repr

/-- The result of a check no window of which was exceeded. -/
def RateLimitResult.notExceeded : RateLimitResult := ⟨false, none, none⟩

/-- One entry of `DJANGO_WAF_RATE_LIMIT_PATHS`: the two-item form has no methods, the three-item
form scopes the entry to the listed ones. -/
structure PathEntry where
  maxRequests : ℕ
  windowSeconds : ℕ
  methods : Option (List String)
  deriving DecidableEq, Repr

/-- The settings the limiter reads, and the digest it derives key fragments with. The path limits
are a mapping, so no prefix is configured twice. -/
structure RateLimitConf where
  /-- `DJANGO_WAF_RATE_LIMIT_BURST`. -/
  burst : ℕ
  /-- `DJANGO_WAF_RATE_LIMIT_PER_MINUTE`. -/
  perMinute : ℕ
  /-- `DJANGO_WAF_RATE_LIMIT_PER_5MIN`. -/
  per5min : ℕ
  /-- `DJANGO_WAF_RATE_LIMIT_PATHS`, in insertion order. -/
  paths : List (String × PathEntry)
  paths_nodup : (paths.map Prod.fst).Nodup
  /-- `DJANGO_WAF_VERIFY_RATE_LIMIT_MAX`. -/
  verifyMax : ℕ
  /-- `DJANGO_WAF_VERIFY_RATE_LIMIT_WINDOW_SECONDS`. -/
  verifyWindowSeconds : ℕ
  /-- The first twelve hexadecimal digits of the SHA-1 digest of a prefix. -/
  prefixHash : String → String

/-- The `waf:rate:…` keys. -/
inductive RateKey
  | global (ip : String) (window : WindowName)
  | path (ip : String) (prefixHash : String)
  | verify (ip : String)
  deriving DecidableEq, Repr

/-- The sorted sets behind the `waf:rate:…` keys. -/
abbrev RateStore := RateKey → Slot ℚ

/-- The store of a fresh deployment. -/
def RateStore.empty : RateStore := fun _ ↦ none

/-- `_WINDOWS`: the global windows with their lengths in seconds, in the order they are checked. -/
def windows : List (WindowName × ℕ) := [(.sec1, 1), (.min1, 60), (.min5, 300)]

variable (cf : RateLimitConf)

/-- `thresholds[window_name]`. -/
def RateLimitConf.threshold : WindowName → ℕ
  | .sec1 => cf.burst
  | .min1 => cf.perMinute
  | .min5 => cf.per5min
  | .path | .verify => 0

/-- `ttl_buffers[window_name]`. -/
def ttlBuffer : WindowName → ℕ
  | .sec1 => 2
  | .min1 | .min5 | .path | .verify => 10

/-- Seconds until the oldest surviving entry leaves the window, at least one. -/
def retryAfterFromOldest (oldestInWindow : Option (ℚ × ℚ)) (windowSeconds : ℕ) (now : ℚ) : ℤ :=
  match oldestInWindow with
  | none => max 1 windowSeconds
  | some (_, oldestTimestamp) => max 1 (PyStr.truncate (oldestTimestamp + windowSeconds - now))

/-! ### The limit of a path -/

/-- Whether an entry covers `method`, which the caller has upper-cased. -/
def entryAppliesToMethod (entry : PathEntry) (method : String) : Bool :=
  match entry.methods with
  | none => true
  | some methods => method ≠ "" && (methods.map PyStr.upper).contains method

/-- The configured prefixes of `path` with their entries, longest first. -/
def RateLimitConf.candidatePrefixes (path : String) : List (String × PathEntry) :=
  (cf.paths.filter fun e ↦ PyStr.startsWith path e.1).insertionSort
    fun e e' ↦ e'.1.length ≤ e.1.length

/-- The prefix whose limit a request is counted against: the longest that covers its method. -/
def RateLimitConf.matchedPrefix (path method : String) : Option (String × PathEntry) :=
  if path = "" then none
  else (cf.candidatePrefixes path).find? fun e ↦ entryAppliesToMethod e.2 (PyStr.upper method)

variable (drop : RateKey → Bool) (ip : String)

/-- The pipeline of a path limit. -/
def pathWindow (st : RateStore) (now : ℚ) (e : String × PathEntry) : Recorded ℚ :=
  record now e.2.windowSeconds (e.2.windowSeconds + 10) (drop (.path ip (cf.prefixHash e.1)))
    (st (.path ip (cf.prefixHash e.1)))

/-- `_check_path_rate_limit`: a result only when the matched prefix's limit is breached. -/
def checkPathRateLimit (path : String) (st : RateStore) (now : ℚ) (method : String) :
    Option RateLimitResult × RateStore :=
  match cf.matchedPrefix path method with
  | none => (none, st)
  | some e =>
    let r := pathWindow cf drop ip st now e
    let st' := Function.update st (.path ip (cf.prefixHash e.1)) r.slot
    if r.count > e.2.maxRequests then
      (some ⟨true, some .path, some (retryAfterFromOldest r.oldest e.2.windowSeconds now)⟩, st')
    else (none, st')

/-! ### The global windows and the verify endpoint -/

/-- The pipeline of a global window. -/
def globalWindow (st : RateStore) (now : ℚ) (nw : WindowName × ℕ) : Recorded ℚ :=
  record now nw.2 (nw.2 + ttlBuffer nw.1) (drop (.global ip nw.1)) (st (.global ip nw.1))

/-- The loop over the global windows. -/
def checkWindows (now : ℚ) : List (WindowName × ℕ) → RateStore → RateLimitResult × RateStore
  | [], st => (.notExceeded, st)
  | nw :: rest, st =>
    let r := globalWindow drop ip st now nw
    let st' := Function.update st (.global ip nw.1) r.slot
    if r.count > cf.threshold nw.1 then
      (⟨true, some nw.1, some (retryAfterFromOldest r.oldest nw.2 now)⟩, st')
    else checkWindows now rest st'

/-- `check_rate_limit`. -/
def checkRateLimit (st : RateStore) (now : ℚ) (path method : String) :
    RateLimitResult × RateStore :=
  match checkPathRateLimit cf drop ip path st now method with
  -- a breach of the path limit returns before the global windows have seen the call
  | (some result, st') => (result, st')
  | (none, st') => checkWindows cf drop ip now windows st'

/-- The pipeline of the verify endpoint's limiter. -/
def verifyWindow (st : RateStore) (now : ℚ) : Recorded ℚ :=
  record now cf.verifyWindowSeconds (cf.verifyWindowSeconds + 10) (drop (.verify ip))
    (st (.verify ip))

/-- `check_verify_rate_limit`. -/
def checkVerifyRateLimit (st : RateStore) (now : ℚ) : RateLimitResult × RateStore :=
  let r := verifyWindow cf drop ip st now
  let st' := Function.update st (.verify ip) r.slot
  if r.count > cf.verifyMax then
    (⟨true, some .verify, some (retryAfterFromOldest r.oldest cf.verifyWindowSeconds now)⟩, st')
  else (.notExceeded, st')

/-- `window_seconds_map.get(window, 60)`. -/
def windowSeconds : WindowName → ℕ
  | .sec1 => 1
  | .min5 => 300
  | .min1 | .path | .verify => 60

/-- `get_request_count`: read-only, and counting the entry at the cutoff that a check would trim. A
key past its deadline is gone. -/
def getRequestCount (st : RateStore) (now : ℚ) (window : WindowName) : ℕ :=
  match st (.global ip window) with
  | some c => if c.Live now then c.value.zcount (now - windowSeconds window) else 0
  | none => 0

end DjangoWaf
