import DjangoWaf.Invalidation

/-!
# Rule-cache coherence under interleaving

`load_rule_cache` in any number of worker processes, one command at a time, interleaved with the
transactions that write rules. `Load.step` is one command of a load: a Redis command, or one of the
two table reads of a rebuild. A transaction writes rows, which nobody else sees before it commits,
and its signal handlers increment the version **when the rows are written**; outside a transaction a
row is committed first and the handler runs after it. Both orders are runs of `Txn` steps.

`load_steps` ties this machine to `loadRuleCache`: a load that nothing interrupts takes the steps to
the same answer and the same state.

A transaction is completed when it has committed and run all its handlers; let `b` be the version
then. The invariant (`Covered`) is that every copy of the rules under a version from `b` on was read
from tables that had its commit. What can break it is the commit itself: a load that read the tables
after the last handler and before the commit leaves **old rows under the newest version**, and no
later load replaces them. `load_covers` proves coherence for the runs without such a commit
(`CommitsUnread`), and `load_stale` is a run with one.
-/

namespace DjangoWaf

/-! ### One load -/

/-- Where a load stands. -/
inductive LoadPc
  /-- No load in progress. -/
  | idle
  /-- The version has been read. -/
  | version (v : ℕ)
  /-- The worker's own cache is of another version. -/
  | missed (v : ℕ)
  /-- Redis has no JSON of the version; attempts at the rebuild lock that are left. -/
  | locking (v attempts : ℕ)
  /-- The rebuild goes on, with the lock or without. -/
  | rebuilding (v : ℕ) (locked : Bool)
  /-- The block rules have been read. -/
  | halfRead (v : ℕ) (locked : Bool) (blockRules : List CachedBlockRule)
  /-- Both tables have been read. -/
  | read (v : ℕ) (locked : Bool) (rules : RuleSet)
  /-- The JSON has been stored. -/
  | stored (v : ℕ) (locked : Bool) (rules : RuleSet)

/-- Set the in-process cache of a worker. -/
def World.setProcess (w : World) (worker : ℕ) (c : RuleCache) : World :=
  { w with process := Function.update w.process worker (some c) }

/-- Change the rule-cache keys. -/
def World.setRules (w : World) (k : RuleKeys) : World :=
  { w with redis := { w.redis with rules := k } }

/-- One command of `load_rule_cache`: the answer, if the load returns, and where it stands then. -/
def Load.step (worker : ℕ) (now : ℚ) (w : World) : LoadPc → Option RuleCache × LoadPc × World
  | .idle => (none, .version w.redis.rules.current, w)
  | .version v =>
    match (w.process worker).filter fun c ↦ c.version = v with
    | some c => (some c, .idle, w)
    | none => (none, .missed v, w)
  | .missed v =>
    -- the JSON is read under the version of the first command, whatever the version is by now
    match w.redis.rules.json.get now v with
    | some (.rules r) => (some ⟨r, v⟩, .idle, w.setProcess worker ⟨r, v⟩)
    | some .corrupt | none => (none, .locking v 4, w)
  | .locking v 0 => (none, .rebuilding v false, w)
  | .locking v (attempts + 1) =>
    if (w.redis.rules.lock.get now ()).isNone then
      (none, .rebuilding v true,
        w.setRules { w.redis.rules with lock := w.redis.rules.lock.setex now () 5 () })
    else (none, .locking v attempts, w)
  | .rebuilding v locked => (none, .halfRead v locked (w.db.ruleSet now).blockRules, w)
  | .halfRead v locked blockRules =>
    (none, .read v locked ⟨(w.db.ruleSet now).allowRules, blockRules⟩, w)
  | .read v locked rules =>
    (none, .stored v locked rules,
      w.setRules { w.redis.rules with json := w.redis.rules.json.setex now v 600 (.rules rules) })
  | .stored v locked rules =>
    (some ⟨rules, v⟩, .idle,
      (if locked then
        w.setRules { w.redis.rules with lock := w.redis.rules.lock.delete () }
      else w).setProcess worker ⟨rules, v⟩)

/-! ### Transactions -/

/-- How far a transaction is. -/
inductive TxnStatus
  | running
  /-- Committed, as the commit of some number. -/
  | committed (n : ℕ)
  | rolledBack
  deriving DecidableEq

/-- A transaction that writes rules. -/
structure Txn where
  status : TxnStatus
  /-- What its writes so far will do to the tables. -/
  change : Db → Db
  /-- Handlers of rows it has written that have still to run. -/
  owed : ℕ
  /-- The version its last handler or, when that came later, its commit left. -/
  version : Option ℕ

/-- A transaction that has not started. -/
def Txn.fresh : Txn := ⟨.running, id, 0, none⟩

/-! ### The whole system -/

/-- A deployment: the shared state, the loads of its workers and its transactions. -/
structure Sys where
  world : World
  loads : ℕ → LoadPc
  txns : ℕ → Txn
  /-- Commits so far. -/
  commits : ℕ

/-- A fresh deployment. -/
def Sys.start (db : Db) : Sys := ⟨World.start db, fun _ ↦ .idle, fun _ ↦ .fresh, 0⟩

/-- What a command of a load finds: the number of the last commit, the tables and the time. -/
structure Reading where
  commit : ℕ
  db : Db
  time : ℚ

/-- What a command finds now. -/
def Sys.reading (s : Sys) (now : ℚ) : Reading := ⟨s.commits, s.world.db, now⟩

/-- The rules a command reads. -/
def Reading.ruleSet (r : Reading) : RuleSet := r.db.ruleSet r.time

/-- A step of the system. -/
inductive SysEvent
  /-- One command of a worker's load, with the answer when it returns. -/
  | load (worker : ℕ) (found : Reading) (answer : Option RuleCache)
  | write (txn : ℕ)
  | signal (txn : ℕ)
  | commit (txn : ℕ)
  | rollback (txn : ℕ)

/-- What the commands of loads found, in the order of the run. -/
def readings (es : List SysEvent) : List Reading :=
  es.filterMap fun
    | .load _ found _ => some found
    | .write _ | .signal _ | .commit _ | .rollback _ => none

@[simp]
theorem readings_append (es es' : List SysEvent) :
    readings (es ++ es') = readings es ++ readings es' :=
  List.filterMap_append

/-- Change one transaction. -/
def Sys.setTxn (s : Sys) (i : ℕ) (x : Txn) : Sys := { s with txns := Function.update s.txns i x }

/-- A command of a load. -/
def Sys.load (s : Sys) (worker : ℕ) (now : ℚ) : Sys :=
  let (_, pc, w) := Load.step worker now s.world (s.loads worker)
  { s with world := w, loads := Function.update s.loads worker pc }

/-- A row is written: its change, and a handler that has to run. -/
def Sys.write (s : Sys) (i : ℕ) (f : Db → Db) : Sys :=
  s.setTxn i { s.txns i with change := f ∘ (s.txns i).change, owed := (s.txns i).owed + 1 }

/-- A handler increments the version. -/
def Sys.signal (s : Sys) (i : ℕ) : Sys :=
  { s with world := s.world.bump }.setTxn i
    { s.txns i with
      owed := (s.txns i).owed - 1, version := some (s.world.redis.rules.current + 1) }

/-- The rows become visible. -/
def Sys.commit (s : Sys) (i : ℕ) : Sys :=
  { s with
    world := { s.world with db := (s.txns i).change s.world.db }
    commits := s.commits + 1 }.setTxn i
    { s.txns i with
      status := .committed (s.commits + 1)
      version := (s.txns i).version.map fun _ ↦ s.world.redis.rules.current }

/-- The steps of the system. -/
inductive SysStep : Sys → SysEvent → Sys → Prop
  | load (s : Sys) (worker : ℕ) (now : ℚ) :
      SysStep s (.load worker (s.reading now) (Load.step worker now s.world (s.loads worker)).1)
        (s.load worker now)
  | write (s : Sys) (i : ℕ) (f : Db → Db) : (s.txns i).status = .running →
      SysStep s (.write i) (s.write i f)
  | signal (s : Sys) (i : ℕ) : 0 < (s.txns i).owed → SysStep s (.signal i) (s.signal i)
  | commit (s : Sys) (i : ℕ) : (s.txns i).status = .running → SysStep s (.commit i) (s.commit i)
  | rollback (s : Sys) (i : ℕ) : (s.txns i).status = .running →
      SysStep s (.rollback i) (s.setTxn i { s.txns i with status := .rolledBack })

/-! ### A load that nothing interrupts -/

/-- The system with one worker's load elsewhere, in another world. -/
def Sys.withLoad (s : Sys) (worker : ℕ) (w : World) (pc : LoadPc) : Sys :=
  { s with world := w, loads := Function.update s.loads worker pc }

theorem step_withLoad (s : Sys) (worker : ℕ) (now : ℚ) (w : World) (pc : LoadPc) :
    SysStep (s.withLoad worker w pc)
      (.load worker ⟨s.commits, w.db, now⟩ (Load.step worker now w pc).1)
      (s.withLoad worker (Load.step worker now w pc).2.2 (Load.step worker now w pc).2.1) := by
  have hpc : (s.withLoad worker w pc).loads worker = pc := Function.update_self ..
  have hstep := SysStep.load (s.withLoad worker w pc) worker now
  rw [Sys.load, hpc] at hstep
  simp only [Sys.withLoad, Function.update_idem] at hstep ⊢
  exact hstep

/-- The attempts at the lock, a tenth of a second apart. -/
theorem lock_steps (s : Sys) (worker : ℕ) (w : World) (v : ℕ) (attempts : ℕ) (now : ℚ) :
    ∃ es, Run SysStep (s.withLoad worker w (.locking v attempts)) es
      (s.withLoad worker (w.setRules { w.redis.rules with
          lock := (acquireRebuildLock w.redis.rules.lock attempts now).2 })
        (.rebuilding v (acquireRebuildLock w.redis.rules.lock attempts now).1)) := by
  induction attempts generalizing now with
  | zero => exact ⟨_, .snoc .nil (step_withLoad s worker now w (.locking v 0))⟩
  | succ attempts ih =>
    have hstep := step_withLoad s worker now w (.locking v (attempts + 1))
    simp only [Load.step] at hstep
    rw [acquireRebuildLock]
    split at hstep
    · rename_i hfree
      rw [if_pos hfree]
      exact ⟨_, .snoc .nil hstep⟩
    · rename_i hheld
      rw [if_neg hheld]
      obtain ⟨es, hrun⟩ := ih (now + 1 / 10)
      exact ⟨_, (Run.snoc .nil hstep).append hrun⟩

/-- A rebuild: the lock, the two reads, the JSON, and the lock given back. -/
theorem rebuild_steps (s : Sys) (worker : ℕ) (w : World) (v : ℕ) (now : ℚ) :
    ∃ es, Run SysStep (s.withLoad worker w (.locking v 4))
      (es ++ [.load worker ⟨s.commits, w.db, now⟩
        (some (rebuildRuleCache w.redis.rules w.db v now).1)])
      (s.withLoad worker (w.install worker (rebuildRuleCache w.redis.rules w.db v now).1
        (rebuildRuleCache w.redis.rules w.db v now).2) .idle) := by
  obtain ⟨es, hlock⟩ := lock_steps s worker w v 4 now
  rcases hacquired : acquireRebuildLock w.redis.rules.lock 4 now with ⟨acquired, lock⟩
  rw [hacquired] at hlock
  set w₁ := w.setRules { w.redis.rules with lock }
  set w₂ := w₁.setRules { w₁.redis.rules with
    json := w₁.redis.rules.json.setex now v 600 (.rules (w.db.ruleSet now)) }
  have hrun := ((hlock.snoc (step_withLoad s worker now w₁ (.rebuilding v acquired))).snoc
    (step_withLoad s worker now w₁ (.halfRead v acquired (w.db.ruleSet now).blockRules))).snoc
    (step_withLoad s worker now w₁ (.read v acquired (w.db.ruleSet now)))
  have hreturn := step_withLoad s worker now w₂ (.stored v acquired (w.db.ruleSet now))
  refine ⟨_, Run.snoc hrun ?_⟩
  have hk : (rebuildRuleCache w.redis.rules w.db v now).2 = { w.redis.rules with
      json := w.redis.rules.json.setex now v 600 (.rules (w.db.ruleSet now))
      lock := if acquired then lock.delete () else lock } := by
    rw [rebuildRuleCache, hacquired]
  rw [rebuildRuleCache_fst, hk]
  rcases acquired with - | -
  · exact hreturn
  · exact hreturn

/-- **The machine refines `loadRuleCache`**: a load that nothing interrupts takes its steps to the
same answer and the same state. -/
theorem load_steps {s : Sys} {env : Env} (hidle : s.loads env.worker = .idle) :
    ∃ es, Run SysStep s
      (es ++ [.load env.worker (s.reading env.now) (some (loadRuleCache env s.world).1)])
      { s with world := (loadRuleCache env s.world).2 } := by
  have hback : ∀ w, s.withLoad env.worker w .idle = { s with world := w } := by
    intro w
    rw [Sys.withLoad, ← hidle, Function.update_eq_self]
  have hstart : Run SysStep s [.load env.worker (s.reading env.now) none]
      (s.withLoad env.worker s.world (.version s.world.redis.rules.current)) := by
    have hstep := step_withLoad s env.worker env.now s.world .idle
    rw [hback] at hstep
    exact .snoc .nil hstep
  have hcheck := step_withLoad s env.worker env.now s.world (.version s.world.redis.rules.current)
  -- the ways a load can end, in the order its commands rule them out
  rcases hp : (s.world.process env.worker).filter fun c ↦
    c.version = s.world.redis.rules.current with - | c
  · simp only [Load.step, hp] at hcheck
    have hread := step_withLoad s env.worker env.now s.world (.missed s.world.redis.rules.current)
    obtain ⟨es, hrebuild⟩ := rebuild_steps s env.worker s.world s.world.redis.rules.current env.now
    rw [hback] at hrebuild
    rcases hj : s.world.redis.rules.json.get env.now s.world.redis.rules.current with - | (r | -)
    · simp only [Load.step, hj] at hread
      simp only [loadRuleCache, hp, hj]
      have hrun := ((hstart.snoc hcheck).snoc hread).append hrebuild
      rw [← List.append_assoc] at hrun
      exact ⟨_, hrun⟩
    · simp only [Load.step, hj] at hread
      rw [hback] at hread
      simp only [loadRuleCache, hp, hj]
      exact ⟨_, .snoc (hstart.snoc hcheck) hread⟩
    · simp only [Load.step, hj] at hread
      simp only [loadRuleCache, hp, hj]
      have hrun := ((hstart.snoc hcheck).snoc hread).append hrebuild
      rw [← List.append_assoc] at hrun
      exact ⟨_, hrun⟩
  · simp only [Load.step, hp] at hcheck
    rw [hback] at hcheck
    simp only [loadRuleCache, hp]
    exact ⟨_, .snoc hstart hcheck⟩

/-! ### Copies that have a commit -/

/-- The block rules a load has read, and for which version. -/
def LoadPc.blocks : LoadPc → Option (ℕ × List CachedBlockRule)
  | .halfRead v _ blockRules => some (v, blockRules)
  | .read v _ rules | .stored v _ rules => some (v, rules.blockRules)
  | .idle | .version _ | .missed _ | .locking _ _ | .rebuilding _ _ => none

/-- The allow rules a load has read, and for which version. -/
def LoadPc.allows : LoadPc → Option (ℕ × List CachedAllowRule)
  | .read v _ rules | .stored v _ rules => some (v, rules.allowRules)
  | .idle | .version _ | .missed _ | .locking _ _ | .rebuilding _ _ | .halfRead _ _ _ => none

/-- The version a load has read. -/
def LoadPc.current : LoadPc → Option ℕ
  | .idle => none
  | .version v | .missed v | .locking v _ | .rebuilding v _ | .halfRead v _ _ | .read v _ _
  | .stored v _ _ => some v

/-- A command of the run read the block rules from tables that had the commit of number `k`. -/
def BlocksSince (es : List SysEvent) (k : ℕ) (blockRules : List CachedBlockRule) : Prop :=
  ∃ found ∈ readings es, k ≤ found.commit ∧ blockRules = found.ruleSet.blockRules

/-- A command of the run read the allow rules from tables that had the commit of number `k`. -/
def AllowsSince (es : List SysEvent) (k : ℕ) (allowRules : List CachedAllowRule) : Prop :=
  ∃ found ∈ readings es, k ≤ found.commit ∧ allowRules = found.ruleSet.allowRules

/-- **The rules reflect the commit of number `k`**: both tables were read after it, in the run. -/
def RuleSet.Reflects (rules : RuleSet) (es : List SysEvent) (k : ℕ) : Prop :=
  BlocksSince es k rules.blockRules ∧ AllowsSince es k rules.allowRules

/-- After the events, every copy of the rules under a version from `b` on reflects the commit of
number `k`. -/
structure Sys.Covered (s : Sys) (es : List SysEvent) (k b : ℕ) : Prop where
  json : ∀ v c rules, b ≤ v → s.world.redis.rules.json.cell v = some c → c.value = .rules rules →
    rules.Reflects es k
  process : ∀ p c, s.world.process p = some c → b ≤ c.version → c.toRuleSet.Reflects es k
  blocks : ∀ p v blockRules, (s.loads p).blocks = some (v, blockRules) → b ≤ v →
    BlocksSince es k blockRules
  allows : ∀ p v allowRules, (s.loads p).allows = some (v, allowRules) → b ≤ v →
    AllowsSince es k allowRules

/-- Nobody has read the tables under a version from `b` on. -/
structure Sys.Unread (s : Sys) (b : ℕ) : Prop where
  json : ∀ v c, s.world.redis.rules.json.cell v = some c → v < b
  process : ∀ p c, s.world.process p = some c → c.version < b
  blocks : ∀ p v blockRules, (s.loads p).blocks = some (v, blockRules) → v < b

theorem LoadPc.blocks_of_allows {pc : LoadPc} {v : ℕ} {allowRules : List CachedAllowRule}
    (h : pc.allows = some (v, allowRules)) : ∃ blockRules, pc.blocks = some (v, blockRules) := by
  cases pc with
  | read v' locked rules =>
    obtain ⟨rfl, -⟩ := Prod.mk.inj (Option.some.inj h)
    exact ⟨_, rfl⟩
  | stored v' locked rules =>
    obtain ⟨rfl, -⟩ := Prod.mk.inj (Option.some.inj h)
    exact ⟨_, rfl⟩
  | _ => cases h

/-- Where there is no copy, every copy reflects the commit. -/
theorem Sys.Unread.covered {s s' : Sys} {b : ℕ} (h : s.Unread b)
    (hjson : s'.world.redis.rules.json = s.world.redis.rules.json)
    (hprocess : s'.world.process = s.world.process) (hloads : s'.loads = s.loads)
    (es : List SysEvent) (k : ℕ) : s'.Covered es k b where
  json v c rules hb hc _ := by
    have hlt := h.json v c (hjson ▸ hc)
    omega
  process p c hc hb := by
    have hlt := h.process p c (hprocess ▸ hc)
    omega
  blocks p v blockRules hr hb := by
    have hlt := h.blocks p v blockRules (hloads ▸ hr)
    omega
  allows p v allowRules hr hb := by
    obtain ⟨blockRules, hr'⟩ := LoadPc.blocks_of_allows hr
    have hlt := h.blocks p v blockRules (hloads ▸ hr')
    omega

theorem BlocksSince.snoc {es : List SysEvent} {k : ℕ} {blockRules : List CachedBlockRule}
    (h : BlocksSince es k blockRules) (e : SysEvent) : BlocksSince (es ++ [e]) k blockRules := by
  obtain ⟨found, hmem, hk, hr⟩ := h
  rw [BlocksSince, readings_append]
  exact ⟨found, List.mem_append_left _ hmem, hk, hr⟩

theorem AllowsSince.snoc {es : List SysEvent} {k : ℕ} {allowRules : List CachedAllowRule}
    (h : AllowsSince es k allowRules) (e : SysEvent) : AllowsSince (es ++ [e]) k allowRules := by
  obtain ⟨found, hmem, hk, hr⟩ := h
  rw [AllowsSince, readings_append]
  exact ⟨found, List.mem_append_left _ hmem, hk, hr⟩

/-- A step that touches no copy. -/
theorem Sys.Covered.snoc {s s' : Sys} {es : List SysEvent} {k b : ℕ} (h : s.Covered es k b)
    (hjson : s'.world.redis.rules.json = s.world.redis.rules.json)
    (hprocess : s'.world.process = s.world.process) (hloads : s'.loads = s.loads) (e : SysEvent) :
    s'.Covered (es ++ [e]) k b where
  json v c rules hb hc hr := (h.json v c rules hb (hjson ▸ hc) hr).imp (·.snoc e) (·.snoc e)
  process p c hc hb := (h.process p c (hprocess ▸ hc) hb).imp (·.snoc e) (·.snoc e)
  blocks p v blockRules hr hb := (h.blocks p v blockRules (hloads ▸ hr) hb).snoc e
  allows p v allowRules hr hb := (h.allows p v allowRules (hloads ▸ hr) hb).snoc e

/-! ### What one command of a load does -/

/-- **Everything one command of a load can do to the copies**: the JSON it stores was read by the
load itself, the cache it hands to its worker is the JSON or what it read, and what it has read is
from the tables of the moment. -/
structure LoadEffect (worker : ℕ) (now : ℚ) (w : World) (pc : LoadPc) (answer : Option RuleCache)
    (pc' : LoadPc) (w' : World) : Prop where
  db : w'.db = w.db
  version : w'.redis.rules.version = w.redis.rules.version
  json : ∀ v c, w'.redis.rules.json.cell v = some c → w.redis.rules.json.cell v = some c ∨
    ∃ rules, c.value = .rules rules ∧ pc.blocks = some (v, rules.blockRules) ∧
      pc.allows = some (v, rules.allowRules)
  process : ∀ p c, w'.process p = some c → w.process p = some c ∨ answer = some c
  blocks : ∀ v blockRules, pc'.blocks = some (v, blockRules) → pc.blocks = some (v, blockRules) ∨
    (pc.current = some v ∧ blockRules = (w.db.ruleSet now).blockRules)
  allows : ∀ v allowRules, pc'.allows = some (v, allowRules) → pc.allows = some (v, allowRules) ∨
    (pc.current = some v ∧ allowRules = (w.db.ruleSet now).allowRules)
  current : ∀ v, pc'.current = some v → pc.current = some v ∨ v = w.redis.rules.current
  /-- A load answers under the version it has read, from one of the copies. -/
  answer : ∀ c, answer = some c → pc.current = some c.version ∧
    (w.process worker = some c ∨
      (∃ d, w.redis.rules.json.cell c.version = some d ∧ d.value = .rules c.toRuleSet) ∨
      (pc.blocks = some (c.version, c.blockRules) ∧ pc.allows = some (c.version, c.allowRules)))

/-- A command that only moves on. -/
theorem LoadEffect.move {worker : ℕ} {now : ℚ} {w : World} {pc pc' : LoadPc}
    (hblocks : pc'.blocks = none) (hallows : pc'.allows = none)
    (hcurrent : pc'.current = pc.current) : LoadEffect worker now w pc none pc' w where
  db := rfl
  version := rfl
  json _ _ hc := Or.inl hc
  process _ _ hc := Or.inl hc
  blocks _ _ h := absurd (hblocks.symm.trans h) nofun
  allows _ _ h := absurd (hallows.symm.trans h) nofun
  current _ h := Or.inl (hcurrent ▸ h)
  answer _ h := nomatch h

/-- **A command of a load does what `LoadEffect` says.** -/
theorem load_effect (worker : ℕ) (now : ℚ) (w : World) (pc : LoadPc) :
    LoadEffect worker now w pc (Load.step worker now w pc).1 (Load.step worker now w pc).2.1
      (Load.step worker now w pc).2.2 := by
  cases pc with
  | idle =>
    exact ⟨rfl, rfl, fun _ _ hc ↦ Or.inl hc, fun _ _ hc ↦ Or.inl hc, nofun, nofun,
      fun v hv ↦ Or.inr (Option.some.inj hv).symm, nofun⟩
  | version v =>
    rcases hp : (w.process worker).filter fun c ↦ c.version = v with - | c
    · simp only [Load.step, hp]
      exact .move rfl rfl rfl
    · simp only [Load.step, hp]
      obtain ⟨hc, hv⟩ := Option.filter_eq_some_iff.1 hp
      refine ⟨rfl, rfl, fun _ _ hc ↦ Or.inl hc, fun _ _ hc ↦ Or.inl hc, nofun, nofun, nofun, ?_⟩
      intro c' hc'
      obtain rfl := Option.some.inj hc'
      have hversion : c.version = v := by simpa using hv
      exact ⟨congrArg some hversion.symm, Or.inl hc⟩
  | missed v =>
    rcases hj : w.redis.rules.json.get now v with - | (r | -)
    · simp only [Load.step, hj]
      exact .move rfl rfl rfl
    · simp only [Load.step, hj]
      obtain ⟨d, hd, -, hvalue⟩ := KeySpace.get_eq_some_iff.1 hj
      refine ⟨rfl, rfl, fun _ _ hc ↦ Or.inl hc, fun p c hc ↦ ?_, nofun, nofun, nofun, fun c hc ↦ ?_⟩
      · exact (process_update hc).imp_right (congrArg some)
      · obtain rfl := Option.some.inj hc
        exact ⟨rfl, Or.inr (Or.inl ⟨d, hd, hvalue⟩)⟩
    · simp only [Load.step, hj]
      exact .move rfl rfl rfl
  | locking v attempts =>
    rcases attempts with - | attempts
    · exact .move rfl rfl rfl
    · simp only [Load.step]
      split
      · exact ⟨rfl, rfl, fun _ _ hc ↦ Or.inl hc, fun _ _ hc ↦ Or.inl hc, nofun, nofun,
          fun _ h ↦ Or.inl h, nofun⟩
      · exact .move rfl rfl rfl
  | rebuilding v locked =>
    refine ⟨rfl, rfl, fun _ _ hc ↦ Or.inl hc, fun _ _ hc ↦ Or.inl hc, fun v' bs h ↦ ?_, nofun,
      fun _ h ↦ Or.inl h, nofun⟩
    obtain ⟨rfl, rfl⟩ := Prod.mk.inj (Option.some.inj h)
    exact Or.inr ⟨rfl, rfl⟩
  | halfRead v locked blockRules =>
    refine ⟨rfl, rfl, fun _ _ hc ↦ Or.inl hc, fun _ _ hc ↦ Or.inl hc, fun _ _ h ↦ Or.inl h,
      fun v' as h ↦ ?_, fun _ h ↦ Or.inl h, nofun⟩
    obtain ⟨rfl, rfl⟩ := Prod.mk.inj (Option.some.inj h)
    exact Or.inr ⟨rfl, rfl⟩
  | read v locked rules =>
    refine ⟨rfl, rfl, fun v' c hc ↦ ?_, fun _ _ hc ↦ Or.inl hc, fun _ _ h ↦ Or.inl h,
      fun _ _ h ↦ Or.inl h, fun _ h ↦ Or.inl h, nofun⟩
    -- the one command that stores JSON, and it stores what the load itself has read
    rcases KeySpace.cell_setex_eq_some hc with ⟨rfl, rfl⟩ | hc
    · exact Or.inr ⟨rules, rfl, rfl, rfl⟩
    · exact Or.inl hc
  | stored v locked rules =>
    -- giving the lock back touches no copy
    have hanswer : ∀ w' : World, (w'.db = w.db ∧ w'.redis.rules.version = w.redis.rules.version ∧
        w'.redis.rules.json = w.redis.rules.json ∧ w'.process = w.process) →
        LoadEffect worker now w (.stored v locked rules) (some ⟨rules, v⟩) .idle
          (w'.setProcess worker ⟨rules, v⟩) := by
      rintro w' ⟨hdb, hversion, hjson, hprocess⟩
      refine ⟨hdb, hversion, fun v' c hc ↦ Or.inl (hjson ▸ hc), fun p c hc ↦ ?_, nofun, nofun,
        nofun, fun c hc ↦ ?_⟩
      · exact (process_update hc).imp (hprocess ▸ ·) (congrArg some)
      · obtain rfl := Option.some.inj hc
        exact ⟨rfl, Or.inr (Or.inr ⟨rfl, rfl⟩)⟩
    simp only [Load.step]
    split
    · exact hanswer _ ⟨rfl, rfl, rfl, rfl⟩
    · exact hanswer _ ⟨rfl, rfl, rfl, rfl⟩

/-! ### The invariant -/

theorem LoadPc.current_of_blocks {pc : LoadPc} {v : ℕ} {blockRules : List CachedBlockRule}
    (h : pc.blocks = some (v, blockRules)) : pc.current = some v := by
  cases pc with
  | halfRead v' locked blocks => exact congrArg some (Prod.mk.inj (Option.some.inj h)).1
  | read v' locked rules => exact congrArg some (Prod.mk.inj (Option.some.inj h)).1
  | stored v' locked rules => exact congrArg some (Prod.mk.inj (Option.some.inj h)).1
  | _ => cases h

/-- What holds after every run: no copy and no load is ahead of the version, and every copy from the
version of a completed transaction on reflects its commit. -/
structure Sys.Inv (es : List SysEvent) (s : Sys) : Prop where
  bounded : s.world.Bounded
  loads : ∀ p v, (s.loads p).current = some v → v ≤ s.world.redis.rules.current
  version : ∀ i b, (s.txns i).version = some b → b ≤ s.world.redis.rules.current
  commit : ∀ i k, (s.txns i).status = .committed k → k ≤ s.commits
  covered : ∀ i k b, (s.txns i).status = .committed k → (s.txns i).owed = 0 →
    (s.txns i).version = some b → s.Covered es k b

/-- **No commit comes after a read of its version**: when a transaction commits that has written
rows and run all their handlers, nobody has read the tables under the version of the moment. -/
def CommitsUnread (s : Sys) (e : SysEvent) : Prop :=
  ∀ i, e = .commit i → (s.txns i).owed = 0 → (s.txns i).version.isSome →
    s.Unread s.world.redis.rules.current

theorem inv_start (db : Db) : Sys.Inv [] (Sys.start db) where
  bounded := (coherent_start db 0).toBounded
  loads _ _ h := nomatch h
  version _ _ h := nomatch h
  commit _ _ h := nomatch h
  covered _ _ _ h := nomatch h

variable {s s' : Sys} {es : List SysEvent}

theorem loads_load (s : Sys) (worker : ℕ) (now : ℚ) (p : ℕ) :
    (p ≠ worker ∧ (s.load worker now).loads p = s.loads p) ∨
      (p = worker ∧ (s.load worker now).loads p =
        (Load.step worker now s.world (s.loads worker)).2.1) := by
  by_cases hp : p = worker
  · subst hp
    exact Or.inr ⟨rfl, Function.update_self ..⟩
  · exact Or.inl ⟨hp, Function.update_of_ne hp ..⟩

/-- A copy that answers a load, under the version the load has read. -/
theorem Sys.Covered.answer {k b : ℕ} (h : s.Covered es k b) {worker : ℕ} {now : ℚ} {c : RuleCache}
    (hc : (Load.step worker now s.world (s.loads worker)).1 = some c) (hb : b ≤ c.version) :
    c.toRuleSet.Reflects es k := by
  obtain ⟨-, hp | ⟨d, hd, hvalue⟩ | ⟨hblocks, hallows⟩⟩ :=
    (load_effect worker now s.world (s.loads worker)).answer c hc
  · exact h.process worker c hp hb
  · exact h.json _ d _ hb hd hvalue
  · exact ⟨h.blocks worker _ _ hblocks hb, h.allows worker _ _ hallows hb⟩

/-- What a load has read or stored reflects what its sources reflect, or was read now. -/
theorem Sys.Covered.load {k b : ℕ} (h : s.Covered es k b) (hk : k ≤ s.commits) (worker : ℕ)
    (now : ℚ) (answer : Option RuleCache) :
    (s.load worker now).Covered (es ++ [.load worker (s.reading now) answer]) k b := by
  have heffect := load_effect worker now s.world (s.loads worker)
  have hold : s.Covered (es ++ [.load worker (s.reading now) answer]) k b := h.snoc rfl rfl rfl _
  have hmem : s.reading now ∈ readings (es ++ [.load worker (s.reading now) answer]) := by
    rw [readings_append]
    exact List.mem_append_right _ (List.mem_singleton_self _)
  refine ⟨fun v c rules hb hc hvalue ↦ ?_, fun p c hc hb ↦ ?_, fun p v bs hr hb ↦ ?_,
    fun p v as hr hb ↦ ?_⟩
  · rcases heffect.json v c hc with hsame | ⟨rules', hvalue', hblocks, hallows⟩
    · exact hold.json v c rules hb hsame hvalue
    · obtain rfl := RuleJson.rules.inj (hvalue'.symm.trans hvalue)
      exact ⟨hold.blocks worker v _ hblocks hb, hold.allows worker v _ hallows hb⟩
  · rcases heffect.process p c hc with hsame | hanswered
    · exact hold.process p c hsame hb
    · exact hold.answer hanswered hb
  · rcases loads_load s worker now p with ⟨-, hsame⟩ | ⟨rfl, hstep⟩
    · exact hold.blocks p v bs (hsame ▸ hr) hb
    · rcases heffect.blocks v bs (hstep ▸ hr) with hkept | ⟨-, rfl⟩
      · exact hold.blocks p v bs hkept hb
      · exact ⟨s.reading now, hmem, hk, rfl⟩
  · rcases loads_load s worker now p with ⟨-, hsame⟩ | ⟨rfl, hstep⟩
    · exact hold.allows p v as (hsame ▸ hr) hb
    · rcases heffect.allows v as (hstep ▸ hr) with hkept | ⟨-, rfl⟩
      · exact hold.allows p v as hkept hb
      · exact ⟨s.reading now, hmem, hk, rfl⟩

/-- The version is the same after a command of a load. -/
theorem current_load (s : Sys) (worker : ℕ) (now : ℚ) :
    (s.load worker now).world.redis.rules.current = s.world.redis.rules.current :=
  congrArg (fun v : Option ℕ ↦ v.getD 0) (load_effect worker now s.world (s.loads worker)).version

theorem Sys.Inv.load (h : s.Inv es) (worker : ℕ) (now : ℚ) (answer : Option RuleCache) :
    (s.load worker now).Inv (es ++ [.load worker (s.reading now) answer]) := by
  have heffect := load_effect worker now s.world (s.loads worker)
  refine ⟨⟨fun v c hc ↦ ?_, fun p c hc ↦ ?_⟩, fun p v hv ↦ ?_, fun i b hb ↦ ?_, h.commit,
    fun i k b hstatus howed hversion ↦ ?_⟩
  · rw [current_load]
    rcases heffect.json v c hc with hold | ⟨rules, -, hblocks, -⟩
    · exact h.bounded.json v c hold
    · exact h.loads worker v (LoadPc.current_of_blocks hblocks)
  · rw [current_load]
    rcases heffect.process p c hc with hold | hanswered
    · exact h.bounded.process p c hold
    · exact h.loads worker _ (heffect.answer c hanswered).1
  · rw [current_load]
    rcases loads_load s worker now p with ⟨-, hsame⟩ | ⟨rfl, hstep⟩
    · exact h.loads p v (hsame ▸ hv)
    · rcases heffect.current v (hstep ▸ hv) with hold | rfl
      · exact h.loads p v hold
      · exact le_rfl
  · rw [current_load]
    exact h.version i b hb
  · exact (h.covered i k b hstatus howed hversion).load (h.commit i k hstatus) worker now answer

theorem txns_setTxn (s : Sys) (i : ℕ) (x : Txn) (j : ℕ) :
    (j ≠ i ∧ (s.setTxn i x).txns j = s.txns j) ∨ (j = i ∧ (s.setTxn i x).txns j = x) := by
  by_cases hj : j = i
  · subst hj
    exact Or.inr ⟨rfl, Function.update_self ..⟩
  · exact Or.inl ⟨hj, Function.update_of_ne hj ..⟩

/-- A change of one transaction that is not completed by it. -/
theorem Sys.Inv.setTxn (h : s.Inv es) (i : ℕ) {x : Txn} (hstatus : ∀ k, x.status ≠ .committed k)
    (hversion : x.version = (s.txns i).version) (e : SysEvent) :
    (s.setTxn i x).Inv (es ++ [e]) where
  bounded := h.bounded
  loads := h.loads
  version j b hb := by
    rcases txns_setTxn s i x j with ⟨-, hsame⟩ | ⟨rfl, hx⟩
    · exact h.version j b (hsame ▸ hb)
    · rw [hx, hversion] at hb
      exact h.version j b hb
  commit j k hk := by
    rcases txns_setTxn s i x j with ⟨-, hsame⟩ | ⟨rfl, hx⟩
    · exact h.commit j k (hsame ▸ hk)
    · rw [hx] at hk
      exact absurd hk (hstatus k)
  covered j k b hk howed hb := by
    rcases txns_setTxn s i x j with ⟨-, hsame⟩ | ⟨rfl, hx⟩
    · rw [hsame] at hk howed hb
      exact (h.covered j k b hk howed hb).snoc (by rfl) (by rfl) (by rfl) e
    · rw [hx] at hk
      exact absurd hk (hstatus k)

/-- No copy is under the version a bump is about to make. -/
theorem Sys.Inv.unread_succ (h : s.Inv es) : s.Unread (s.world.redis.rules.current + 1) where
  json v c hc := Nat.lt_succ_of_le (h.bounded.json v c hc)
  process p c hc := Nat.lt_succ_of_le (h.bounded.process p c hc)
  blocks p v _ hr := Nat.lt_succ_of_le (h.loads p v (LoadPc.current_of_blocks hr))

/-- **A handler's bump** makes a version no copy is under yet. -/
theorem Sys.Inv.signal (h : s.Inv es) (i : ℕ) (e : SysEvent) : (s.signal i).Inv (es ++ [e]) := by
  have hcurrent : (s.signal i).world.redis.rules.current = s.world.redis.rules.current + 1 := rfl
  refine ⟨(h.bounded.bump 0).toBounded, fun p v hv ↦ ?_, fun j b hb ↦ ?_, fun j k hk ↦ ?_,
    fun j k b hk howed hb ↦ ?_⟩
  · have hle := h.loads p v hv
    omega
  · rcases txns_setTxn { s with world := s.world.bump } i _ j with ⟨-, hsame⟩ | ⟨rfl, hx⟩
    · have hle := h.version j b (hsame ▸ hb)
      omega
    · obtain rfl := Option.some.inj ((congrArg Txn.version hx).symm.trans hb)
      exact le_rfl
  · rcases txns_setTxn { s with world := s.world.bump } i _ j with ⟨-, hsame⟩ | ⟨rfl, hx⟩
    · exact h.commit j k (hsame ▸ hk)
    · exact h.commit j k ((congrArg Txn.status hx).symm.trans hk)
  · rcases txns_setTxn { s with world := s.world.bump } i _ j with ⟨-, hsame⟩ | ⟨rfl, hx⟩
    · have hcovered := h.covered j k b (hsame ▸ hk) (hsame ▸ howed) (hsame ▸ hb)
      exact hcovered.snoc (by rfl) (by rfl) (by rfl) e
    · obtain rfl := Option.some.inj ((congrArg Txn.version hx).symm.trans hb)
      exact h.unread_succ.covered (by rfl) (by rfl) (by rfl) (es ++ [e]) k

/-- **A commit nobody has read ahead of.** -/
theorem Sys.Inv.commit_unread (h : s.Inv es) (i : ℕ) (hunread : (s.txns i).owed = 0 →
    (s.txns i).version.isSome → s.Unread s.world.redis.rules.current) (e : SysEvent) :
    (s.commit i).Inv (es ++ [e]) := by
  have hcommits : (s.commit i).commits = s.commits + 1 := rfl
  set s' : Sys := { s with
    world := { s.world with db := (s.txns i).change s.world.db }
    commits := s.commits + 1 }
  refine ⟨⟨h.bounded.json, h.bounded.process⟩, h.loads, fun j b hb ↦ ?_, fun j k hk ↦ ?_,
    fun j k b hk howed hb ↦ ?_⟩
  · rcases txns_setTxn s' i _ j with ⟨-, hsame⟩ | ⟨rfl, hx⟩
    · exact h.version j b (hsame ▸ hb)
    · obtain ⟨_, -, rfl⟩ := Option.map_eq_some_iff.1 ((congrArg Txn.version hx).symm.trans hb)
      exact le_rfl
  · rcases txns_setTxn s' i _ j with ⟨-, hsame⟩ | ⟨rfl, hx⟩
    · have hle := h.commit j k (hsame ▸ hk)
      omega
    · obtain rfl := TxnStatus.committed.inj ((congrArg Txn.status hx).symm.trans hk)
      exact le_rfl
  · rcases txns_setTxn s' i _ j with ⟨-, hsame⟩ | ⟨rfl, hx⟩
    · have hcovered := h.covered j k b (hsame ▸ hk) (hsame ▸ howed) (hsame ▸ hb)
      exact hcovered.snoc (by rfl) (by rfl) (by rfl) e
    · -- the commit completes the transaction, and nothing was read under its version before
      obtain ⟨_, hv, rfl⟩ := Option.map_eq_some_iff.1 ((congrArg Txn.version hx).symm.trans hb)
      have howed' : (s.txns j).owed = 0 := (congrArg Txn.owed hx).symm.trans howed
      exact (hunread howed' (by rw [hv]; rfl)).covered (by rfl) (by rfl) (by rfl) (es ++ [e]) k

/-- **Every step keeps the invariant**, commits that nobody has read ahead of included. -/
theorem inv_step {e : SysEvent} (hstep : SysStep s e s') (hunread : CommitsUnread s e)
    (h : s.Inv es) : s'.Inv (es ++ [e]) := by
  cases hstep with
  | load worker now => exact h.load worker now _
  | write i f hrunning => 
    exact h.setTxn i (x := { s.txns i with
      change := f ∘ (s.txns i).change, owed := (s.txns i).owed + 1 })
      (fun k hk ↦ nomatch hrunning.symm.trans hk) rfl (.write i)
  | signal i howed => exact h.signal i _
  | commit i hrunning => exact h.commit_unread i (hunread i rfl) _
  | rollback i hrunning => 
    exact h.setTxn i (x := { s.txns i with status := .rolledBack }) nofun rfl (.rollback i)

/-! ### Over a run -/

/-- A transaction that wrote at least one row, has committed as the commit of number `k`, and has
run all its handlers; the version was `b` then. -/
structure Sys.Completed (s : Sys) (i k b : ℕ) : Prop where
  status : (s.txns i).status = .committed k
  owed : (s.txns i).owed = 0
  version : (s.txns i).version = some b

/-- What is over stays over. -/
theorem Sys.Completed.step {e : SysEvent} {i k b : ℕ} (h : s.Completed i k b)
    (hstep : SysStep s e s') : s'.Completed i k b := by
  have keep : s'.txns i = s.txns i → s'.Completed i k b := fun hsame ↦
    ⟨hsame ▸ h.status, hsame ▸ h.owed, hsame ▸ h.version⟩
  -- it is no longer running and owes no handler, so every other step is of another transaction
  cases hstep with
  | load worker now => exact keep rfl
  | write j f hrunning =>
    refine keep (Function.update_of_ne (fun hij ↦ ?_) ..)
    subst hij
    exact nomatch hrunning.symm.trans h.status
  | signal j howed =>
    refine keep (Function.update_of_ne (fun hij ↦ ?_) ..)
    subst hij
    have hzero := h.owed
    omega
  | commit j hrunning =>
    refine keep (Function.update_of_ne (fun hij ↦ ?_) ..)
    subst hij
    exact nomatch hrunning.symm.trans h.status
  | rollback j hrunning =>
    refine keep (Function.update_of_ne (fun hij ↦ ?_) ..)
    subst hij
    exact nomatch hrunning.symm.trans h.status

/-- A load that starts once the transaction is completed reads its version or a later one. -/
theorem current_ge_step {e : SysEvent} {i k b worker : ℕ} (hinv : s.Inv es) (h : s.Completed i k b)
    (hload : ∀ v, (s.loads worker).current = some v → b ≤ v) (hstep : SysStep s e s') :
    ∀ v, (s'.loads worker).current = some v → b ≤ v := by
  cases hstep with
  | load p now =>
    intro v hv
    rcases loads_load s p now worker with ⟨-, hsame⟩ | ⟨rfl, hpc⟩
    · exact hload v (hsame ▸ hv)
    · rcases (load_effect worker now s.world (s.loads worker)).current v (hpc ▸ hv) with hold | rfl
      · exact hload v hold
      · exact hinv.version i b h.version
  | write j f hrunning => exact hload
  | signal j howed => exact hload
  | commit j hrunning => exact hload
  | rollback j hrunning => exact hload

/-- **Coherence**: in every run without a commit that was read ahead of, a load that starts after a
transaction has committed and run all its handlers returns rules that reflect its commit. -/
theorem load_covers {db : Db} {s₁ s₂ s₃ : Sys} {es₁ es₂ : List SysEvent} {i k b worker : ℕ}
    {found : Reading} {c : RuleCache}
    (hrun₁ : Run (fun s e s' ↦ SysStep s e s' ∧ CommitsUnread s e) (Sys.start db) es₁ s₁)
    (hdone : s₁.Completed i k b) (hidle : s₁.loads worker = .idle)
    (hrun₂ : Run (fun s e s' ↦ SysStep s e s' ∧ CommitsUnread s e) s₁ es₂ s₂)
    (hreturn : SysStep s₂ (.load worker found (some c)) s₃) :
    c.toRuleSet.Reflects (es₁ ++ es₂) k := by
  have hinv₁ : s₁.Inv es₁ :=
    Run.invariant (P := Sys.Inv) (inv_start db) (fun _ h hstep ↦ inv_step hstep.1 hstep.2 h) hrun₁
  have h₂ : s₂.Inv (es₁ ++ es₂) ∧ s₂.Completed i k b ∧
      ∀ v, (s₂.loads worker).current = some v → b ≤ v := by
    refine Run.invariant (P := fun es s ↦ s.Inv (es₁ ++ es) ∧ s.Completed i k b ∧
      ∀ v, (s.loads worker).current = some v → b ≤ v) ⟨?_, hdone, ?_⟩ ?_ hrun₂
    · rw [List.append_nil]
      exact hinv₁
    · intro v hv
      rw [hidle] at hv
      cases hv
    · intro es s s' e _ ⟨hinv, hcompleted, hload⟩ ⟨hstep, hunread⟩
      rw [← List.append_assoc]
      exact ⟨inv_step hstep hunread hinv, hcompleted.step hstep,
        current_ge_step hinv hcompleted hload hstep⟩
  obtain ⟨hinv, hcompleted, hload⟩ := h₂
  have hcovered := hinv.covered i k b hcompleted.status hcompleted.owed hcompleted.version
  generalize hanswer : some c = answer at hreturn
  cases hreturn with
  | load _ now =>
    have hcurrent := ((load_effect worker now s₂.world (s₂.loads worker)).answer c hanswer.symm).1
    exact hcovered.answer hanswer.symm (hload _ hcurrent)

/-! #### Two runs

A transaction deletes the only rule. In the first run it commits before anyone loads; in the second,
a worker loads between its handler and its commit. -/

/-- A transaction has deleted the only rule and its handler has run. It has not committed. -/
def deletedUncommitted : Sys :=
  ((Sys.start ⟨[loadedRule], []⟩).write 0 fun _ ↦ ⟨[], []⟩).signal 0

/-- Commands of one worker's load. -/
def loadCommands : ℕ → Sys → Sys
  | 0, s => s
  | n + 1, s => loadCommands n (s.load 0 0)

/-- What they do. -/
def loadEvents : ℕ → Sys → List SysEvent
  | 0, _ => []
  | n + 1, s => .load 0 (s.reading 0) (Load.step 0 0 s.world (s.loads 0)).1 ::
      loadEvents n (s.load 0 0)

theorem run_loadCommands (n : ℕ) (s : Sys) :
    Run (fun s e s' ↦ SysStep s e s' ∧ CommitsUnread s e) s (loadEvents n s)
      (loadCommands n s) := by
  induction n generalizing s with
  | zero => exact .nil
  | succ n ih => exact (Run.snoc .nil ⟨.load s 0 0, nofun⟩).append (ih (s.load 0 0))

theorem run_deletedUncommitted :
    Run (fun s e s' ↦ SysStep s e s' ∧ CommitsUnread s e) (Sys.start ⟨[loadedRule], []⟩)
      [.write 0, .signal 0] deletedUncommitted :=
  .snoc (.snoc .nil ⟨.write _ 0 _ rfl, nofun⟩) ⟨.signal _ 0 (by decide), nofun⟩

/-- With the commit before the load, the load finds the tables without the rule. -/
theorem load_covers_committed : RuleSet.Reflects ⟨[], []⟩
    ([.write 0, .signal 0, .commit 0] ++ loadEvents 7 (deletedUncommitted.commit 0)) 1 := by
  have hcommit : CommitsUnread deletedUncommitted (.commit 0) := fun _ _ _ _ ↦ ⟨nofun, nofun, nofun⟩
  have hreturn := SysStep.load (loadCommands 7 (deletedUncommitted.commit 0)) 0 0
  exact load_covers (i := 0) (b := 1) (c := ⟨⟨[], []⟩, 1⟩)
    (run_deletedUncommitted.snoc ⟨.commit _ 0 rfl, hcommit⟩) ⟨rfl, rfl, rfl⟩ rfl
    (run_loadCommands 7 _) hreturn

/-- What has happened when a worker has loaded between the handler and the commit. -/
def staleEvents : List SysEvent :=
  [.write 0, .signal 0] ++ loadEvents 8 deletedUncommitted ++ [.commit 0]

/-- **Old rows under the newest version.** A worker loads between the handler and the commit, and
loads again when the transaction has committed and its handlers have run: it gets the deleted rule.
-/
theorem load_stale : ∃ (es₁ es₂ : List SysEvent) (s₁ s₂ s₃ : Sys) (found : Reading) (c : RuleCache),
    Run SysStep (Sys.start ⟨[loadedRule], []⟩) es₁ s₁ ∧ s₁.Completed 0 1 1 ∧ s₁.loads 0 = .idle ∧
    Run SysStep s₁ es₂ s₂ ∧ SysStep s₂ (.load 0 found (some c)) s₃ ∧
    ¬ c.toRuleSet.Reflects (es₁ ++ es₂) 1 := by
  set s₁ := (loadCommands 8 deletedUncommitted).commit 0
  have hrun : Run SysStep (Sys.start ⟨[loadedRule], []⟩) staleEvents s₁ :=
    .snoc ((run_deletedUncommitted.append (run_loadCommands 8 _)).imp And.left) (.commit _ 0 rfl)
  have hreturn := SysStep.load (loadCommands 1 s₁) 0 0
  refine ⟨staleEvents, loadEvents 1 s₁, s₁, loadCommands 1 s₁, _, _,
    ⟨⟨[], [loadedRule.toCached]⟩, 1⟩, hrun, ⟨rfl, rfl, rfl⟩, rfl,
    (run_loadCommands 1 s₁).imp And.left, hreturn, fun h ↦ ?_⟩
  have hblocks : ¬ BlocksSince (staleEvents ++ loadEvents 1 s₁) 1 [loadedRule.toCached] := by
    rw [BlocksSince]
    decide +kernel
  exact hblocks h.1

end DjangoWaf
