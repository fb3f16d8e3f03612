import DjangoWaf.Lib.Run
import DjangoWaf.Middleware
import DjangoWaf.Services.RuleWrites

/-!
# Does every rule change reach the workers?

Runs of completed operations on rules and of loads by any worker, on one clock. `Enforced` is what a
cache or a table means at an instant: the **unexpired** rules of the one, the active rows of the
other. A cache built at an instant goes on meaning the same as the tables it was built from, because
rules only ever expire (`enforced_ruleSet`).

The invariant (`Coherent`) is that every copy stored under the current version means what the tables
mean, and that there is no copy under a later one. A bump of the version keeps it for any new
tables; a change without a bump keeps it only if the enforced rules stay the same. Two kinds of
change come without one: a `queryset.update()` sends no signal, and the signal handlers resolve the
alias of their Redis without `ICV_CACHES_ALIAS`, so they may bump a version nobody reads.

`load_enforced` is the result over runs, and `load_not_enforced` a run for each of the two.
-/

namespace DjangoWaf

/-- The rules that are in force at an instant. -/
@[ext]
structure Enforced where
  blockRules : Set CachedBlockRule
  allowRules : Set CachedAllowRule

/-- What the tables enforce: `BlockRule.objects.active()` and `AllowRule.objects.active()`. -/
def Db.enforced (db : Db) (now : ℚ) : Enforced where
  blockRules := { c | ∃ r ∈ db.activeBlockRules now, r.toCached = c }
  allowRules := { c | ∃ r ∈ db.activeAllowRules now, r.toCached = c }

/-- What a cache enforces: its unexpired members. -/
def RuleSet.enforced (rules : RuleSet) (now : ℚ) : Enforced where
  blockRules := { c | c ∈ rules.blockRules ∧ isExpired c.expiresAt now = false }
  allowRules := { c | c ∈ rules.allowRules ∧ isExpired c.expiresAt now = false }

/-- From an instant on, a cache enforces what the tables enforce. -/
def RuleSet.Exact (rules : RuleSet) (db : Db) (t : ℚ) : Prop :=
  ∀ s, t ≤ s → rules.enforced s = db.enforced s

/-- From an instant on, two states of the tables enforce the same. -/
def Db.SameEnforced (db db' : Db) (t : ℚ) : Prop := ∀ s, t ≤ s → db'.enforced s = db.enforced s

/-- **A cache keeps the meaning of the tables it was built from.** -/
theorem enforced_ruleSet (db : Db) (t : ℚ) : (db.ruleSet t).Exact db t := by
  intro s hs
  ext c
  · constructor
    · rintro ⟨hc, hexp⟩
      obtain ⟨r, hr, rfl⟩ := List.mem_map.1 hc
      obtain ⟨hmem, hactive, -⟩ := mem_activeBlockRules.1 hr
      exact ⟨r, mem_activeBlockRules.2 ⟨hmem, hactive, hexp⟩, rfl⟩
    · rintro ⟨r, hr, rfl⟩
      obtain ⟨hmem, hactive, hexp⟩ := mem_activeBlockRules.1 hr
      refine ⟨List.mem_map.2 ⟨r, mem_activeBlockRules.2 ⟨hmem, hactive, ?_⟩, rfl⟩, hexp⟩
      exact isExpired_mono hs hexp
  · constructor
    · rintro ⟨hc, hexp⟩
      obtain ⟨r, hr, rfl⟩ := List.mem_map.1 hc
      obtain ⟨hmem, hactive, -⟩ := mem_activeAllowRules.1 hr
      exact ⟨r, mem_activeAllowRules.2 ⟨hmem, hactive, hexp⟩, rfl⟩
    · rintro ⟨r, hr, rfl⟩
      obtain ⟨hmem, hactive, hexp⟩ := mem_activeAllowRules.1 hr
      refine ⟨List.mem_map.2 ⟨r, mem_activeAllowRules.2 ⟨hmem, hactive, ?_⟩, rfl⟩, hexp⟩
      exact isExpired_mono hs hexp

theorem RuleSet.Exact.mono {rules : RuleSet} {db : Db} {t t' : ℚ} (h : rules.Exact db t)
    (ht : t ≤ t') : rules.Exact db t' :=
  fun s hs ↦ h s (ht.trans hs)

theorem RuleSet.Exact.congr {rules : RuleSet} {db db' : Db} {t : ℚ} (h : rules.Exact db t)
    (hsame : db.SameEnforced db' t) : rules.Exact db' t :=
  fun s hs ↦ (h s hs).trans (hsame s hs).symm

/-! ### Coherence of the copies -/

/-- No copy of the rules is stored under a version that is still to come. -/
structure World.Bounded (w : World) : Prop where
  json : ∀ v c, w.redis.rules.json.cell v = some c → v ≤ w.redis.rules.current
  process : ∀ p c, w.process p = some c → c.version ≤ w.redis.rules.current

/-- Moreover, every copy under the current version enforces what the tables enforce. -/
structure World.Coherent (w : World) (t : ℚ) : Prop extends w.Bounded where
  json_exact : ∀ c rules, w.redis.rules.json.cell w.redis.rules.current = some c →
    c.value = .rules rules → rules.Exact w.db t
  process_exact : ∀ p c, w.process p = some c → c.version = w.redis.rules.current →
    c.toRuleSet.Exact w.db t

theorem coherent_start (db : Db) (t : ℚ) : (World.start db).Coherent t where
  json _ _ h := nomatch h
  process _ _ h := nomatch h
  json_exact _ _ h := nomatch h
  process_exact _ _ h := nomatch h

theorem World.Coherent.mono {w : World} {t t' : ℚ} (h : w.Coherent t) (ht : t ≤ t') :
    w.Coherent t' where
  toBounded := h.toBounded
  json_exact c rules hc hr := (h.json_exact c rules hc hr).mono ht
  process_exact p c hc hv := (h.process_exact p c hc hv).mono ht

/-- New tables that enforce the same need no bump. -/
theorem World.Coherent.withDb {w : World} {t : ℚ} (h : w.Coherent t) {db : Db}
    (hsame : w.db.SameEnforced db t) : ({ w with db } : World).Coherent t where
  json := h.json
  process := h.process
  json_exact c rules hc hr := (h.json_exact c rules hc hr).congr hsame
  process_exact p c hc hv := (h.process_exact p c hc hv).congr hsame

/-- The world with the version bumped. -/
def World.bump (w : World) : World :=
  { w with redis := { w.redis with rules := w.redis.rules.bump } }

theorem current_bump (w : World) :
    w.bump.redis.rules.current = w.redis.rules.current + 1 := rfl

/-- **A bump makes every copy one of an old version.** -/
theorem World.Bounded.bump {w : World} (h : w.Bounded) (t : ℚ) : w.bump.Coherent t where
  json v c hc := by
    have hle := h.json v c hc
    rw [current_bump]
    omega
  process p c hc := by
    have hle := h.process p c hc
    rw [current_bump]
    omega
  json_exact c rules hc _ := by
    have hle := h.json _ c hc
    rw [current_bump] at hle
    omega
  process_exact p c hc hv := by
    have hle := h.process p c hc
    rw [current_bump] at hv
    omega

variable {cf : Conf}

theorem invalidateRuleCache_of_reaches (h : cf.handlerReaches = true) :
    invalidateRuleCache cf = World.bump := by
  funext w
  rw [invalidateRuleCache, if_pos h]
  rfl

theorem invalidateRuleCache_of_not_reaches (h : ¬ cf.handlerReaches = true) :
    invalidateRuleCache cf = id := by
  funext w
  rw [invalidateRuleCache, if_neg h]
  rfl

/-- Tables written with at least one bump. -/
theorem World.Bounded.iterate_bump {w : World} (h : w.Bounded) (t : ℚ) (n : ℕ) :
    (World.bump^[n + 1] w).Coherent t := by
  induction n generalizing w with
  | zero => exact h.bump t
  | succ n ih =>
    rw [Function.iterate_succ_apply]
    exact ih (h.bump t).toBounded

/-- **A write keeps the copies coherent** when its signals reach the middleware's Redis, or when it
leaves the enforced rules alone. -/
theorem World.Coherent.write {w : World} {t : ℚ} (h : w.Coherent t) {x : Written}
    (hx : (cf.handlerReaches = true ∧ x.Signalled w.db) ∨ w.db.SameEnforced x.db t) :
    (w.write cf x).Coherent t := by
  have hbounded : ({ w with db := x.db } : World).Bounded := ⟨h.json, h.process⟩
  rw [World.write]
  by_cases hreaches : cf.handlerReaches = true
  · rw [invalidateRuleCache_of_reaches hreaches]
    rcases hn : x.signals with - | n
    · -- no handler ran: the tables are the same, or enforce the same
      refine h.withDb ?_
      rcases hx with ⟨-, hx⟩ | hx
      · intro s _
        rw [hx hn]
      · exact hx
    · exact hbounded.iterate_bump t n
  · rw [invalidateRuleCache_of_not_reaches hreaches, Function.iterate_id]
    exact h.withDb (hx.resolve_left fun hx ↦ hreaches hx.1)

/-! ### Loads -/

/-- What a worker holds after one of them has been handed a cache. -/
theorem process_update {process : ℕ → Option RuleCache} {worker p : ℕ} {c c' : RuleCache}
    (h : Function.update process worker (some c) p = some c') : process p = some c' ∨ c = c' := by
  by_cases hp : p = worker
  · subst hp
    rw [Function.update_self] at h
    exact Or.inr (Option.some.inj h)
  · rw [Function.update_of_ne hp] at h
    exact Or.inl h

/-- Handing an exact cache of the current version to a worker, with keys that hold the same JSON or
the same rules under the current version. -/
theorem World.Coherent.install {w : World} {t : ℚ} (h : w.Coherent t) {rules : RuleSet}
    {k : RuleKeys} (worker : ℕ) (hrules : rules.Exact w.db t)
    (hversion : k.version = w.redis.rules.version)
    (hjson : ∀ v c, k.json.cell v = some c → w.redis.rules.json.cell v = some c ∨
      (v = w.redis.rules.current ∧ c.value = .rules rules)) :
    (w.install worker ⟨rules, w.redis.rules.current⟩ k).Coherent t := by
  have hcurrent : k.current = w.redis.rules.current := by
    rw [RuleKeys.current, RuleKeys.current, hversion]
  refine ⟨⟨fun v c hc ↦ ?_, fun p c hc ↦ ?_⟩, fun c rules' hc hr ↦ ?_, fun p c hc hv ↦ ?_⟩
  · show v ≤ k.current
    rw [hcurrent]
    rcases hjson v c hc with hold | ⟨rfl, -⟩
    · exact h.json v c hold
    · exact le_rfl
  · show c.version ≤ k.current
    rw [hcurrent]
    rcases process_update hc with hold | rfl
    · exact h.process p c hold
    · exact le_rfl
  · replace hc : k.json.cell k.current = some c := hc
    rw [hcurrent] at hc
    rcases hjson _ c hc with hold | ⟨-, hvalue⟩
    · exact h.json_exact c rules' hold hr
    · obtain rfl := RuleJson.rules.inj (hvalue.symm.trans hr)
      exact hrules
  · replace hv : c.version = k.current := hv
    rcases process_update hc with hold | rfl
    · exact h.process_exact p c hold (hv.trans hcurrent)
    · exact hrules

/-- **A load of coherent copies returns what the tables enforce**, and leaves them coherent. -/
theorem World.Coherent.load {w : World} {env : Env} (h : w.Coherent env.now) :
    (loadRuleCache env w).1.toRuleSet.Exact w.db env.now ∧
      (loadRuleCache env w).2.Coherent env.now := by
  rcases loadRuleCache_cases env w with ⟨c, hc, hv, hload⟩ | ⟨r, hr, hload⟩ | hload
  · rw [hload]
    exact ⟨h.process_exact _ c hc hv, h⟩
  · rw [hload]
    obtain ⟨c, hc, -, hvalue⟩ := KeySpace.get_eq_some_iff.1 hr
    have hexact := h.json_exact c r hc hvalue
    exact ⟨hexact, h.install env.worker hexact rfl fun v c hc ↦ Or.inl hc⟩
  · rw [hload]
    have hexact := enforced_ruleSet w.db env.now
    refine ⟨hexact, h.install env.worker hexact rfl fun v c hc ↦ ?_⟩
    -- the rebuild stored its JSON under the current version
    rcases KeySpace.cell_setex_eq_some hc with ⟨rfl, rfl⟩ | hc
    · exact Or.inr ⟨rfl, rfl⟩
    · exact Or.inl hc

/-! ### Operations -/

/-- Rows rewritten so that each caches the same and is in force exactly when it was. -/
theorem enforced_map {db : Db} {f : BlockRule → BlockRule} {g : AllowRule → AllowRule} {s : ℚ}
    (hf : ∀ r, (f r).toCached = r.toCached ∧ ((f r).active s = true ↔ r.active s = true))
    (hg : ∀ r, (g r).toCached = r.toCached ∧ ((g r).active s = true ↔ r.active s = true)) :
    (⟨db.blockRules.map f, db.allowRules.map g⟩ : Db).enforced s = db.enforced s := by
  have hblock : ∀ (db : Db) (c : CachedBlockRule), c ∈ (db.enforced s).blockRules ↔
      ∃ r ∈ db.blockRules, r.active s = true ∧ r.toCached = c := by
    intro db c
    simp only [Db.enforced, Set.mem_ofPred, mem_activeBlockRules, BlockRule.active,
      Bool.and_eq_true, Bool.not_eq_true', and_assoc]
  have hallow : ∀ (db : Db) (c : CachedAllowRule), c ∈ (db.enforced s).allowRules ↔
      ∃ r ∈ db.allowRules, r.active s = true ∧ r.toCached = c := by
    intro db c
    simp only [Db.enforced, Set.mem_ofPred, mem_activeAllowRules, AllowRule.active,
      Bool.and_eq_true, Bool.not_eq_true', and_assoc]
  ext c
  · rw [hblock, hblock]
    simp only [List.mem_map, exists_exists_and_eq_and, hf]
  · rw [hallow, hallow]
    simp only [List.mem_map, exists_exists_and_eq_and, hg]

/-- What is deactivated because it has expired is not in force from then on. -/
theorem active_deactivated {isActive : Bool} {expiresAt : Option ℚ} {now s : ℚ} (hs : now ≤ s)
    (h : (isActive && isExpired expiresAt now) = true) :
    (isActive && !isExpired expiresAt s) = false := by
  rw [Bool.and_eq_true] at h
  rcases hexp : isExpired expiresAt s with - | -
  · have hnow := isExpired_mono hs hexp
    rw [h.2] at hnow
    cases hnow
  · rw [Bool.not_true, Bool.and_false]

/-- Deactivating what has expired changes nothing that is in force. -/
theorem sameEnforced_expireRules (db : Db) (now : ℚ) :
    db.SameEnforced (expireRules now db) now := by
  intro s hs
  have hdb : expireRules now db = ⟨db.blockRules.map ((fun r ↦
      if (r.source = .auto && r.reviewStatus = .pending && isExpired r.expiresAt now) = true then
        { r with reviewStatus := .expiredUnreviewed } else r) ∘
      fun r ↦ if r.expired now = true then { r with isActive := false } else r),
      db.allowRules.map fun r ↦
        if r.expired now = true then { r with isActive := false } else r⟩ := by
    simp only [expireRules, Written.andThen, updateBlockRules, updateAllowRules, Written.nothing,
      List.map_map]
  rw [hdb]
  refine enforced_map (fun r ↦ ?_) fun r ↦ ?_
  · rw [Function.comp_apply]
    by_cases hexp : r.expired now = true
    · rw [if_pos hexp]
      have hdead : r.active s = false := active_deactivated hs hexp
      split <;> exact ⟨rfl, by rw [hdead]; exact ⟨nofun, nofun⟩⟩
    · rw [if_neg hexp]
      split <;> exact ⟨rfl, Iff.rfl⟩
  · by_cases hexp : r.expired now = true
    · rw [if_pos hexp]
      have hdead : r.active s = false := active_deactivated hs hexp
      exact ⟨rfl, by rw [hdead]; exact ⟨nofun, nofun⟩⟩
    · rw [if_neg hexp]
      exact ⟨rfl, Iff.rfl⟩

/-- An operation whose change the middleware's Redis is told about, or that changes nothing that is
in force. `expire_rules` is one in any case. -/
def RuleOp.Reaches (cf : Conf) (env : Env) (w : World) : RuleOp → Prop
  | .signalled op => cf.handlerReaches = true ∨
      w.db.SameEnforced (op.write cf env.now w.db).db env.now
  | .autoRule a => cf.handlerReaches = true ∨
      w.db.SameEnforced (getOrCreateAutoRule cf env a w).2.db env.now
  | .bulk op => w.db.SameEnforced (op.write w.db).db env.now
  | .expireRules => True

/-- **An operation that reaches the workers keeps the copies coherent.** -/
theorem World.Coherent.operation {w : World} {env : Env} (h : w.Coherent env.now) {op : RuleOp}
    (hop : op.Reaches cf env w) : (op.apply cf env w).Coherent env.now := by
  cases op with
  | signalled op =>
    exact h.write (hop.imp_left fun hreaches ↦ ⟨hreaches, op.signals cf env.now w.db⟩)
  | autoRule a =>
    obtain ⟨x, hsignals, hx⟩ := getOrCreateAutoRule_eq_write cf env a w
    show (getOrCreateAutoRule cf env a w).2.Coherent env.now
    rw [hx]
    refine h.write (hop.imp (fun hreaches ↦ ⟨hreaches, fun h0 ↦ absurd h0 hsignals⟩) fun hsame ↦ ?_)
    rwa [hx, World.db_write] at hsame
  | bulk op => exact h.write (Or.inr hop)
  | expireRules =>
    -- with nothing expired there is no bump, and the tables enforce the same without one
    have hw' := h.withDb (sameEnforced_expireRules w.db env.now)
    simp only [RuleOp.apply]
    split
    · rw [invalidateRuleCacheRedis]
      split
      · exact hw'.toBounded.bump env.now
      · exact hw'
    · exact hw'

/-! ### Over a run -/

/-- A load that raises keeps the copies coherent as well. -/
theorem World.Coherent.tryLoad {w : World} {env : Env} (h : w.Coherent env.now) :
    (tryLoadRuleCache cf env w).2.Coherent env.now := by
  obtain ⟨-, hload⟩ := h.load
  obtain ⟨hversion, hdb⟩ : (loadRuleCache env w).2.redis.rules.current = w.redis.rules.current ∧
      (loadRuleCache env w).2.db = w.db := by
    rcases loadRuleCache_cases env w with ⟨c, -, -, heq⟩ | ⟨r, -, heq⟩ | heq <;> rw [heq] <;>
      exact ⟨rfl, rfl⟩
  rw [tryLoadRuleCache_eq]
  split
  · refine ⟨⟨hload.json, fun p c hc ↦ ?_⟩, hload.json_exact, fun p c hc hv ↦ ?_⟩
    · rw [show _ = w.redis.rules.current from hversion]
      exact h.process p c hc
    · rw [show _ = w.redis.rules.current from hversion] at hv
      rw [show _ = w.db from hdb]
      exact h.process_exact p c hc hv
  · exact hload

/-- A completed operation, or a load, whether it returns or raises. -/
inductive CacheEvent
  | operation (env : Env) (op : RuleOp)
  | load (env : Env)

/-- The steps of a deployment, in the order of one clock. -/
inductive CacheStep (cf : Conf) : ℚ × World → CacheEvent → ℚ × World → Prop
  | operation {t : ℚ} {w : World} {env : Env} {op : RuleOp} : t ≤ env.now →
      CacheStep cf (t, w) (.operation env op) (env.now, op.apply cf env w)
  | load {t : ℚ} {w : World} {env : Env} : t ≤ env.now →
      CacheStep cf (t, w) (.load env) (env.now, (tryLoadRuleCache cf env w).2)

/-- The operation of a step, if it is one, reaches the workers. -/
def CacheEvent.Reaches (cf : Conf) (s : ℚ × World) : CacheEvent → Prop
  | .operation env op => op.Reaches cf env s.2
  | .load _ => True

theorem coherent_step {s s' : ℚ × World} {e : CacheEvent} (hstep : CacheStep cf s e s')
    (hreaches : e.Reaches cf s) (h : s.2.Coherent s.1) : s'.2.Coherent s'.1 := by
  cases hstep with
  | operation ht => exact (h.mono ht).operation hreaches
  | load ht => exact World.Coherent.tryLoad (h.mono ht)

/-- **The next load that returns hands out exactly the active rules**, in every run whose operations
reach the workers, in any process and whatever it had cached before. -/
theorem load_enforced {db : Db} {t₀ t : ℚ} {w : World} {es : List CacheEvent}
    (hrun : Run (fun s e s' ↦ CacheStep cf s e s' ∧ e.Reaches cf s) (t₀, World.start db) es (t, w))
    {env : Env} (henv : t ≤ env.now) :
    (loadRuleCache env w).1.toRuleSet.enforced env.now = w.db.enforced env.now := by
  have hcoherent : w.Coherent t :=
    Run.invariant (P := fun _ (s : ℚ × World) ↦ s.2.Coherent s.1) (coherent_start db t₀)
      (fun _ h hstep ↦ coherent_step hstep.1 hstep.2 h) hrun
  exact (World.Coherent.load (hcoherent.mono henv)).1 env.now le_rfl

/-! #### Three runs

One rule, which a worker has loaded; then it is deleted, or deactivated in the admin, or deleted
where the cache has an alias of its own. -/

/-- The rule. -/
def loadedRule : BlockRule where
  ruleType := .ip
  matchType := .exact
  pattern := "192.0.2.1"
  id := 7
  name := "One address"
  action := .block
  priority := 100
  isActive := true
  source := .admin
  expiresAt := none
  reviewStatus := .notApplicable
  reviewedAt := none
  detectors := ""
  createdAt := 0

/-- The state after the first load. -/
def loadedWorld : World := (loadRuleCache (Env.plain 0) (World.start ⟨[loadedRule], []⟩)).2

/-- Default settings but for `ICV_CACHES_ALIAS`, which names a second Redis. -/
def aliasConf : Conf :=
  { plainConf with
    icvCachesAlias := some "waf"
    caches := fun name ↦ if name = "default" then some (.redis 0)
      else if name = "waf" then some (.redis 1) else none }

/-- After a deletion with default settings, the load finds the rule gone. -/
theorem load_enforced_after_delete :
    (loadRuleCache (Env.plain 20) (RuleOp.apply plainConf (Env.plain 10) loadedWorld
      (.signalled (.deleteBlockRules [7])))).1.toRuleSet.enforced 20 =
    (RuleOp.apply plainConf (Env.plain 10) loadedWorld
      (.signalled (.deleteBlockRules [7]))).db.enforced 20 := by
  have hload : CacheStep plainConf (0, World.start ⟨[loadedRule], []⟩) (.load (Env.plain 0))
      (0, loadedWorld) := .load le_rfl
  have hdelete : CacheStep plainConf (0, loadedWorld)
      (.operation (Env.plain 10) (.signalled (.deleteBlockRules [7])))
      (10, RuleOp.apply plainConf (Env.plain 10) loadedWorld
        (.signalled (.deleteBlockRules [7]))) :=
    .operation (by decide +kernel)
  exact load_enforced (.snoc (.snoc .nil ⟨hload, trivial⟩) ⟨hdelete, Or.inl (by decide)⟩)
    (by decide +kernel)

/-- A load that still holds a rule the tables have not got is wrong. -/
theorem enforced_ne {rules : RuleSet} {db : Db} {now : ℚ} {c : CachedBlockRule}
    (hc : c ∈ rules.blockRules) (hexp : isExpired c.expiresAt now = false)
    (hdb : db.activeBlockRules now = []) : rules.enforced now ≠ db.enforced now := by
  intro heq
  have hmem : c ∈ (db.enforced now).blockRules := heq ▸ ⟨hc, hexp⟩
  obtain ⟨r, hr, -⟩ := hmem
  rw [hdb] at hr
  cases hr

/-- **Two changes no worker hears of**: a rule deactivated in the admin with default settings, and a
rule deleted where `ICV_CACHES_ALIAS` points the middleware at a Redis the signal handlers do not
know. -/
theorem load_not_enforced :
    (∃ es w, Run (CacheStep plainConf) (0, World.start ⟨[loadedRule], []⟩) es (10, w) ∧
      (loadRuleCache (Env.plain 20) w).1.toRuleSet.enforced 20 ≠ w.db.enforced 20) ∧
    aliasConf.hasRedis = true ∧
    ∃ es w, Run (CacheStep aliasConf) (0, World.start ⟨[loadedRule], []⟩) es (10, w) ∧
      (loadRuleCache (Env.plain 20) w).1.toRuleSet.enforced 20 ≠ w.db.enforced 20 := by
  have hload : ∀ cf, CacheStep cf (0, World.start ⟨[loadedRule], []⟩) (.load (Env.plain 0))
      (0, loadedWorld) := fun cf ↦ .load le_rfl
  have hstep : ∀ cf op, CacheStep cf (0, loadedWorld) (.operation (Env.plain 10) op)
      (10, RuleOp.apply cf (Env.plain 10) loadedWorld op) := fun cf op ↦
    .operation (by decide +kernel)
  refine ⟨⟨_, _, .snoc (.snoc .nil (hload plainConf))
      (hstep plainConf (.bulk (.setBlockRulesActive false [7]))), ?_⟩, by decide,
    _, _, .snoc (.snoc .nil (hload aliasConf))
      (hstep aliasConf (.signalled (.deleteBlockRules [7]))), ?_⟩
  · exact enforced_ne (c := loadedRule.toCached) (by decide +kernel) rfl (by decide +kernel)
  · exact enforced_ne (c := loadedRule.toCached) (by decide +kernel) rfl (by decide +kernel)

end DjangoWaf
