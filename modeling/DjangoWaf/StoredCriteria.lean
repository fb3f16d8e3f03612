import DjangoWaf.Invalidation
import DjangoWaf.Services.Detectors

/-!
# What is stored of a rule

A property of the criteria of rules (`P`) holds of every row (`Db.Holds`) as long as it holds of the
criteria that operations bring with them (`RuleOp.Brings`). Operations rewrite rows, and copy the
columns a criterion is made of from a row that is there, or from their input: a save from the row it
is given, an import from its entries, a detector from its write. What an operation copies has the
property because the row had it.

The copies of the rules, in Redis and in the workers, are copies of rows, so they keep such a
property with the tables (`World.Holds`), and a load returns rules that have it
(`World.Holds.load`).

The rows the package writes on its own account, in commands and detectors, compare their pattern or
read it as a range. A property that only says something about regular expressions holds of them
(`hplain`).
-/

namespace DjangoWaf

/-- Every row of the two tables has a criterion with a property. -/
structure Db.Holds (P : Criterion → Prop) (db : Db) : Prop where
  block : ∀ r ∈ db.blockRules, P r.toCriterion
  allow : ∀ r ∈ db.allowRules, P r.toCriterion

/-- A write that leaves such rows as such. -/
def Keeps (P : Criterion → Prop) (write : Db → Written) : Prop :=
  ∀ db, db.Holds P → (write db).db.Holds P

variable {P : Criterion → Prop} {db : Db}

theorem mem_upsert {α : Type*} {key : α → Uuid} {row r : α} {rows : List α}
    (h : r ∈ upsert key row rows) : r = row ∨ r ∈ rows := by
  rw [upsert] at h
  split at h
  · obtain ⟨r', hr', heq⟩ := List.mem_map.1 h
    split at heq
    · exact .inl heq.symm
    · exact .inr (heq ▸ hr')
  · rcases List.mem_append.1 h with h | h
    · exact .inr h
    · exact .inl (List.mem_singleton.1 h)

/-! ### One write after another -/

theorem holds_nothing : Keeps P Written.nothing := fun _ h ↦ h

theorem holds_andThen {x : Written} {write : Db → Written} (hx : x.db.Holds P)
    (hwrite : Keeps P write) : (x.andThen write).db.Holds P :=
  hwrite x.db hx

theorem holds_writeEach {writes : List (Db → Written)} (h : ∀ write ∈ writes, Keeps P write)
    (hdb : db.Holds P) : (writeEach writes db).db.Holds P :=
  writeEach_induction h hdb

/-! ### Rows -/

theorem holds_saveBlockRule {r : BlockRule} (hr : P r.toCriterion) : Keeps P (saveBlockRule r) := by
  refine fun db h ↦ ⟨fun r' hr' ↦ ?_, h.allow⟩
  rcases mem_upsert hr' with rfl | hr'
  · exact hr
  · exact h.block r' hr'

theorem holds_saveAllowRule {r : AllowRule} (hr : P r.toCriterion) : Keeps P (saveAllowRule r) := by
  refine fun db h ↦ ⟨h.block, fun r' hr' ↦ ?_⟩
  rcases mem_upsert hr' with rfl | hr'
  · exact hr
  · exact h.allow r' hr'

theorem holds_deleteBlockRules (p : BlockRule → Bool) : Keeps P (deleteBlockRules p) :=
  fun _ h ↦ ⟨fun r hr ↦ h.block r (List.mem_of_mem_filter hr), h.allow⟩

theorem holds_deleteAllowRules (p : AllowRule → Bool) : Keeps P (deleteAllowRules p) :=
  fun _ h ↦ ⟨h.block, fun r hr ↦ h.allow r (List.mem_of_mem_filter hr)⟩

theorem holds_updateBlockRules (p : BlockRule → Bool) {f : BlockRule → BlockRule}
    (hf : ∀ r, (f r).toCriterion = r.toCriterion) : Keeps P (updateBlockRules p f) := by
  refine fun db h ↦ ⟨fun r hr ↦ ?_, h.allow⟩
  obtain ⟨r', hr', rfl⟩ := List.mem_map.1 hr
  split
  · rw [hf]
    exact h.block r' hr'
  · exact h.block r' hr'

theorem holds_updateAllowRules (p : AllowRule → Bool) {f : AllowRule → AllowRule}
    (hf : ∀ r, (f r).toCriterion = r.toCriterion) : Keeps P (updateAllowRules p f) := by
  refine fun db h ↦ ⟨h.block, fun r hr ↦ ?_⟩
  obtain ⟨r', hr', rfl⟩ := List.mem_map.1 hr
  split
  · rw [hf]
    exact h.allow r' hr'
  · exact h.allow r' hr'

/-! ### Operations -/

theorem holds_extendExpiry (now : ℚ) (ids : List Uuid) : Keeps P (extendExpiry now ids) := by
  refine fun db h ↦ holds_writeEach ?_ h
  rintro write hwrite
  obtain ⟨r, hr, rfl⟩ := List.mem_map.1 hwrite
  exact holds_saveBlockRule (h.block r (List.mem_of_mem_filter hr))

theorem holds_pruneStaleRules (enabled : Bool) (days : ℕ) (now : ℚ) :
    Keeps P (pruneStaleRules enabled days now) := by
  intro db h
  rw [pruneStaleRules]
  split
  · exact holds_deleteBlockRules _ db h
  · exact h

theorem holds_expireRules (now : ℚ) (h : db.Holds P) : (expireRules now db).Holds P := by
  have hupdates := holds_andThen
    (holds_updateBlockRules (P := P) (fun r ↦ r.expired now)
      (f := fun r ↦ { r with isActive := false }) (fun _ ↦ rfl) db h)
    (holds_updateAllowRules (fun r ↦ r.expired now)
      (f := fun r ↦ { r with isActive := false }) fun _ ↦ rfl)
  exact holds_updateBlockRules _ (f := fun r ↦ { r with reviewStatus := .expiredUnreviewed })
    (fun _ ↦ rfl) _ hupdates

/-- A row that is updated has the rule type and the pattern of the entry already. -/
theorem holds_syncEntry (quarantineAllowRules : Bool) (now : ℚ) {e : FeedEntry}
    (he : P e.toCriterion) : Keeps P (syncEntry quarantineAllowRules now e) := by
  intro db h
  rw [syncEntry]
  split
  · split
    · rename_i r hfirst
      have hkey := (mem_of_firstAllowRule hfirst).2
      simp only [FeedEntry.hasKey, Bool.and_eq_true, decide_eq_true_eq] at hkey
      refine holds_saveAllowRule ?_ db h
      simp only [hkey]
      exact he
    · exact holds_saveAllowRule he db h
  · split
    · rename_i r hfirst
      have hkey := (mem_of_firstBlockRule hfirst).2
      simp only [FeedEntry.hasKey, Bool.and_eq_true, decide_eq_true_eq] at hkey
      refine holds_saveBlockRule ?_ db h
      simp only [hkey]
      exact he
    · exact holds_saveBlockRule he db h

theorem holds_deactivateUnseenBlockRules (entries : List FeedEntry) :
    Keeps P (deactivateUnseenBlockRules entries) := by
  refine fun db h ↦ holds_writeEach ?_ h
  rintro write hwrite
  obtain ⟨r, hr, rfl⟩ := List.mem_map.1 hwrite
  exact holds_saveBlockRule (h.block r (List.mem_of_mem_filter hr))

theorem holds_deactivateUnseenAllowRules (entries : List FeedEntry) :
    Keeps P (deactivateUnseenAllowRules entries) := by
  refine fun db h ↦ holds_writeEach ?_ h
  rintro write hwrite
  obtain ⟨r, hr, rfl⟩ := List.mem_map.1 hwrite
  exact holds_saveAllowRule (h.allow r (List.mem_of_mem_filter hr))

theorem holds_syncFeed (quarantineAllowRules : Bool) (now : ℚ) {entries : List FeedEntry}
    (hentries : ∀ e ∈ entries, P e.toCriterion) :
    Keeps P (syncFeed quarantineAllowRules now entries) := by
  intro db h
  refine holds_andThen (holds_andThen (holds_writeEach ?_ h)
    (holds_deactivateUnseenBlockRules entries)) (holds_deactivateUnseenAllowRules entries)
  rintro write hwrite
  obtain ⟨e, he, rfl⟩ := List.mem_map.1 hwrite
  exact holds_syncEntry quarantineAllowRules now (hentries e he)

theorem holds_confirmRule (now : ℚ) (id : Uuid) : Keeps P (confirmRule now id) := by
  intro db h
  rw [confirmRule]
  split
  · rename_i r hfind
    have hrow : P (r.confirmed now).toCriterion := h.block r (List.mem_of_find?_eq_some hfind)
    exact holds_saveBlockRule hrow db h
  · exact h

theorem holds_rejectRule (now : ℚ) (id : Uuid) : Keeps P (rejectRule now id) := by
  intro db h
  rw [rejectRule]
  split
  · rename_i r hfind
    have hrow : P (r.rejected now).toCriterion := h.block r (List.mem_of_find?_eq_some hfind)
    exact holds_saveBlockRule hrow db h
  · exact h

theorem holds_importBlockRules (merge : Bool) (now : ℚ) (keys : List Criterion)
    {entries : List ImportBlockEntry} (hentries : ∀ e ∈ entries, P e.toCriterion) :
    Keeps P (importBlockRules merge now keys entries) := by
  induction entries generalizing keys with
  | nil => exact holds_nothing
  | cons e entries ih =>
    have hrest := fun keys ↦ ih keys fun e' he' ↦ hentries e' (List.mem_cons_of_mem e he')
    intro db h
    rw [importBlockRules]
    split
    · exact hrest keys db h
    · have hrow : P (e.toRow now).toCriterion := hentries e (List.mem_cons_self ..)
      exact holds_andThen (holds_saveBlockRule hrow db h) (hrest _)

theorem holds_importAllowRules (merge : Bool) (keys : List Criterion)
    {entries : List ImportAllowEntry} (hentries : ∀ e ∈ entries, P e.toCriterion) :
    Keeps P (importAllowRules merge keys entries) := by
  induction entries generalizing keys with
  | nil => exact holds_nothing
  | cons e entries ih =>
    have hrest := fun keys ↦ ih keys fun e' he' ↦ hentries e' (List.mem_cons_of_mem e he')
    intro db h
    rw [importAllowRules]
    split
    · exact hrest keys db h
    · have hrow : P e.toRow.toCriterion := hentries e (List.mem_cons_self ..)
      exact holds_andThen (holds_saveAllowRule hrow db h) (hrest _)

theorem holds_importRules (merge dryRun : Bool) (now : ℚ) {blocks : List ImportBlockEntry}
    {allows : List ImportAllowEntry}
    (hentries : dryRun = false → (∀ e ∈ blocks, P e.toCriterion) ∧ ∀ e ∈ allows, P e.toCriterion) :
    Keeps P (importRules merge dryRun now blocks allows) := by
  intro db h
  rw [importRules]
  split
  · exact h
  · rename_i hdry
    obtain ⟨hblocks, hallows⟩ := hentries (Bool.not_eq_true _ ▸ hdry)
    refine holds_andThen (holds_andThen ?_ (holds_importBlockRules merge now _ hblocks))
      (holds_importAllowRules merge _ hallows)
    split
    · exact h
    · exact holds_andThen (holds_deleteBlockRules _ db h) (holds_deleteAllowRules _)

/-- The row of the block command is an address or a range. -/
theorem holds_blockCommand (hplain : ∀ c : Criterion, c.matchType ≠ .regex → P c) (pattern : String)
    (action : RuleAction) (ttlHours : Option ℕ) (freshId : Uuid) (now : ℚ) :
    Keeps P (blockCommand pattern action ttlHours freshId now) := by
  have hmatch : ∀ pattern expiresAt,
      (manualBlock pattern action expiresAt freshId now).matchType ≠ .regex := by
    intro pattern expiresAt
    simp only [manualBlock]
    split <;> exact MatchType.noConfusion
  intro db h
  have hrow := hmatch (PyStr.stripText pattern) (ttlHours.map fun hours ↦ now + hours * 3600)
  simp only [blockCommand]
  generalize manualBlock (PyStr.stripText pattern) action
    (ttlHours.map fun hours ↦ now + hours * 3600) freshId now = row at hrow ⊢
  split
  · exact holds_saveBlockRule (hplain _ hrow) db h
  · refine holds_saveBlockRule ?_ db h
    exact hplain _ hrow
  · exact h

/-- A row that is found is one of the address or range the write is about. -/
theorem holds_getOrCreateAutoRule {cf : Conf} {env : Env} {a : AutoRuleWrite} {w : World}
    (ha : P a.toCriterion) (h : w.db.Holds P) : (getOrCreateAutoRule cf env a w).2.db.Holds P := by
  have hallow : (getOrCreateAutoRule cf env a w).2.db.allowRules = w.db.allowRules := by
    obtain ⟨k, rules, heq⟩ := getOrCreateAutoRule_frame cf env a w
    rw [heq]
    rfl
  refine ⟨fun r hr ↦ ?_, fun r hr ↦ h.allow r (hallow ▸ hr)⟩
  rw [blockRules_getOrCreateAutoRule_eq] at hr
  set rules := if (w.db.blockRules.filter a.finds).length ≤ 1 then w.db.blockRules
    else a.deduplicate w.db.blockRules with hrules
  have hold : ∀ r ∈ rules, P r.toCriterion := by
    intro r hr
    rw [hrules] at hr
    split at hr
    · exact h.block r hr
    · exact h.block r (mem_deduplicate.1 hr)
  rw [AutoRuleWrite.updateOrCreate] at hr
  split at hr
  · obtain ⟨r', hr', rfl⟩ := List.mem_map.1 hr
    split
    · rename_i hfinds
      simp only [AutoRuleWrite.finds, Bool.and_eq_true, decide_eq_true_eq] at hfinds
      simp only [AutoRuleWrite.refresh, hfinds]
      exact ha
    · exact hold r' hr'
  · rcases List.mem_append.1 hr with hr | hr
    · exact hold r hr
    · rw [List.mem_singleton.1 hr]
      exact ha

/-! ### All of them -/

/-- The criteria an operation brings with it have the property. -/
def RuleOp.Brings (P : Criterion → Prop) : RuleOp → Prop
  | .signalled (.saveBlockRule r) => P r.toCriterion
  | .signalled (.saveAllowRule r) => P r.toCriterion
  | .signalled (.syncFeed _ entries) => ∀ e ∈ entries, P e.toCriterion
  | .signalled (.importRules _ dryRun blocks allows) =>
    dryRun = false → (∀ e ∈ blocks, P e.toCriterion) ∧ ∀ e ∈ allows, P e.toCriterion
  | .autoRule a => P a.toCriterion
  | _ => True

variable {cf : Conf} {env : Env} {w : World}

theorem holds_signalledOp (hplain : ∀ c : Criterion, c.matchType ≠ .regex → P c) {op : SignalledOp}
    (hop : (RuleOp.signalled op).Brings P) (now : ℚ) (h : db.Holds P) :
    (op.write cf now db).db.Holds P := by
  cases op with
  | saveBlockRule r => exact holds_saveBlockRule hop db h
  | saveAllowRule r => exact holds_saveAllowRule hop db h
  | deleteBlockRules ids => exact holds_deleteBlockRules _ db h
  | deleteAllowRules ids => exact holds_deleteAllowRules _ db h
  | extendExpiry ids => exact holds_extendExpiry now ids db h
  | syncFeed quarantineAllowRules entries => exact holds_syncFeed quarantineAllowRules now hop db h
  | confirm id => exact holds_confirmRule now id db h
  | reject id => exact holds_rejectRule now id db h
  | importRules merge dryRun blocks allows => exact holds_importRules merge dryRun now hop db h
  | block pattern action ttlHours freshId =>
    exact holds_blockCommand hplain pattern action ttlHours freshId now db h
  | unblockDelete pattern => exact holds_deleteBlockRules _ db h
  | pruneStaleRules days => exact holds_pruneStaleRules _ days now db h

theorem holds_bulkOp {op : BulkOp} (h : db.Holds P) : (op.write db).db.Holds P := by
  cases op with
  | setBlockRulesActive isActive ids =>
    exact holds_updateBlockRules _ (f := fun r ↦ { r with isActive }) (fun _ ↦ rfl) db h
  | setAllowRulesActive isActive ids =>
    exact holds_updateAllowRules _ (f := fun r ↦ { r with isActive }) (fun _ ↦ rfl) db h
  | unblock pattern =>
    exact holds_updateBlockRules _ (f := fun r ↦ { r with isActive := false }) (fun _ ↦ rfl) db h

/-! ### The copies of the rules

A load copies rows into the JSON and into the cache of its worker, or the JSON into the cache; a
handler changes a version number. So the copies have the property too. -/

/-- Every rule of a cache has a criterion with a property. -/
structure RuleSet.Holds (P : Criterion → Prop) (rules : RuleSet) : Prop where
  block : ∀ c ∈ rules.blockRules, P c.toCriterion
  allow : ∀ c ∈ rules.allowRules, P c.toCriterion

/-- Every rule in the tables and in the copies of them has a criterion with a property. -/
structure World.Holds (P : Criterion → Prop) (w : World) : Prop where
  db : w.db.Holds P
  json : ∀ v c rules, w.redis.rules.json.cell v = some c → c.value = .rules rules → rules.Holds P
  process : ∀ p c, w.process p = some c → c.toRuleSet.Holds P

theorem Db.Holds.ruleSet (h : db.Holds P) (now : ℚ) : (db.ruleSet now).Holds P := by
  refine ⟨fun c hc ↦ ?_, fun c hc ↦ ?_⟩
  · obtain ⟨r, hr, rfl⟩ := List.mem_map.1 hc
    exact h.block r (mem_activeBlockRules.1 hr).1
  · obtain ⟨r, hr, rfl⟩ := List.mem_map.1 hc
    exact h.allow r (mem_activeAllowRules.1 hr).1

theorem Db.Holds.start (h : db.Holds P) : (World.start db).Holds P where
  db := h
  json _ _ _ hc := nomatch hc
  process _ _ hc := nomatch hc

theorem World.Holds.withDb (h : w.Holds P) (hdb : db.Holds P) : ({ w with db } : World).Holds P :=
  ⟨hdb, h.json, h.process⟩

theorem World.Holds.bump (h : w.Holds P) : w.bump.Holds P := ⟨h.db, h.json, h.process⟩

theorem World.Holds.iterate_invalidate (h : w.Holds P) (n : ℕ) :
    ((invalidateRuleCache cf)^[n] w).Holds P := by
  induction n generalizing w with
  | zero => exact h
  | succ n ih =>
    rw [Function.iterate_succ_apply]
    refine ih ?_
    by_cases hreaches : cf.handlerReaches = true
    · rw [invalidateRuleCache_of_reaches hreaches]
      exact h.bump
    · rw [invalidateRuleCache_of_not_reaches hreaches]
      exact h

theorem World.Holds.write (h : w.Holds P) {x : Written} (hx : x.db.Holds P) :
    (w.write cf x).Holds P :=
  (h.withDb hx).iterate_invalidate x.signals

/-- Handing a cache with the property to a worker. -/
theorem World.Holds.install (h : w.Holds P) {c : RuleCache} {k : RuleKeys} (worker : ℕ)
    (hc : c.toRuleSet.Holds P)
    (hk : ∀ v cell rules, k.json.cell v = some cell → cell.value = .rules rules → rules.Holds P) :
    (w.install worker c k).Holds P := by
  refine ⟨h.db, hk, fun p c' hc' ↦ ?_⟩
  rcases process_update hc' with hold | rfl
  · exact h.process p c' hold
  · exact hc

/-- **A load returns rules with the property**, and leaves such a state. -/
theorem World.Holds.load (h : w.Holds P) (env : Env) :
    (loadRuleCache env w).1.toRuleSet.Holds P ∧ (loadRuleCache env w).2.Holds P := by
  rcases loadRuleCache_cases env w with ⟨c, hc, -, hload⟩ | ⟨r, hr, hload⟩ | hload
  · rw [hload]
    exact ⟨h.process _ c hc, h⟩
  · rw [hload]
    obtain ⟨c, hc, -, hvalue⟩ := KeySpace.get_eq_some_iff.1 hr
    have hrules := h.json _ c r hc hvalue
    exact ⟨hrules, h.install env.worker hrules h.json⟩
  · rw [hload]
    have hrules := h.db.ruleSet env.now
    refine ⟨hrules, h.install env.worker hrules fun v c rules hc hvalue ↦ ?_⟩
    rcases KeySpace.cell_setex_eq_some hc with ⟨rfl, rfl⟩ | hc
    · obtain rfl := RuleJson.rules.inj hvalue
      exact hrules
    · exact h.json v c rules hc hvalue

/-- A load that raises installs nothing, and leaves such a state as well. -/
theorem World.Holds.tryLoad (h : w.Holds P) (env : Env) :
    (tryLoadRuleCache cf env w).2.Holds P := by
  have hload := (h.load env).2
  rw [tryLoadRuleCache_eq]
  split
  · exact ⟨hload.db, hload.json, h.process⟩
  · exact hload

theorem World.Holds.getOrCreateAutoRule {a : AutoRuleWrite} (ha : P a.toCriterion)
    (h : w.Holds P) : (getOrCreateAutoRule cf env a w).2.Holds P := by
  obtain ⟨x, -, hx⟩ := getOrCreateAutoRule_eq_write cf env a w
  have hdb : (DjangoWaf.getOrCreateAutoRule cf env a w).2.db.Holds P :=
    holds_getOrCreateAutoRule ha h.db
  rw [hx] at hdb ⊢
  rw [World.db_write] at hdb
  exact h.write hdb

/-- **An operation keeps a property** that the criteria it brings have. -/
theorem World.Holds.operation (hplain : ∀ c : Criterion, c.matchType ≠ .regex → P c) {op : RuleOp}
    (hop : op.Brings P) (h : w.Holds P) : (op.apply cf env w).Holds P := by
  cases op with
  | signalled op => exact h.write (holds_signalledOp hplain hop env.now h.db)
  | autoRule a => exact h.getOrCreateAutoRule hop
  | bulk op => exact h.write (holds_bulkOp h.db)
  | expireRules =>
    have hw := h.withDb (holds_expireRules env.now h.db)
    simp only [RuleOp.apply, invalidateRuleCacheRedis]
    split
    · split
      · exact hw.bump
      · exact hw
    · exact hw

/-! ### Detectors -/

section Detectors

variable {fresh : Db → Uuid} {dryRun : Bool}

theorem holds_autoRuleCall {a : AutoRuleWrite} (ha : P a.toCriterion) (h : w.Holds P) :
    (autoRuleCall cf fresh env dryRun a w).2.Holds P := by
  rw [autoRuleCall]
  split
  · exact h
  · exact h.getOrCreateAutoRule ha

/-- The loop of a detector, when each of its turns keeps the property and writes what has it. -/
theorem holds_detectEach {ι : Type*} {decide : ι → World → Option AutoRuleWrite × World}
    {is : List ι}
    (hdecide : ∀ i ∈ is, ∀ w : World, w.Holds P →
      (decide i w).2.Holds P ∧ ∀ a, (decide i w).1 = some a → P a.toCriterion)
    (h : w.Holds P) : (detectEach cf fresh env decide dryRun is w).2.Holds P := by
  induction is generalizing w with
  | nil => exact h
  | cons i is ih =>
    have hrest := fun {w : World} ↦ @ih w fun i' hi' ↦ hdecide i' (List.mem_cons_of_mem i hi')
    obtain ⟨hw, ha⟩ := hdecide i (List.mem_cons_self ..) w h
    rw [detectEach]
    rcases hturn : decide i w with ⟨- | a, w'⟩
    · rw [hturn] at hw
      exact hrest hw
    · rw [hturn] at hw ha
      exact hrest (holds_autoRuleCall (ha a rfl) hw)

theorem holds_always {as : List AutoRuleWrite} (has : ∀ a ∈ as, P a.toCriterion)
    (h : w.Holds P) : (detectEach cf fresh env always dryRun as w).2.Holds P := by
  refine holds_detectEach (fun a ha w hw ↦ ⟨hw, fun a' ha' ↦ ?_⟩) h
  obtain rfl := Option.some.inj ha'
  exact has a ha

/-- A candidate of `detect_scraper_404_ratio`: the allow rules leave the keys of the rule cache
alone. -/
theorem holds_unlessAllowed (hplain : ∀ c : Criterion, c.matchType ≠ .regex → P c)
    (dc : DetectorConf) (expiry : ℚ) (rules : List CachedAllowRule) (c : String × List String)
    (h : w.Holds P) :
    (unlessAllowed cf env dc expiry rules c w).2.Holds P ∧
      ∀ a, (unlessAllowed cf env dc expiry rules c w).1 = some a → P a.toCriterion := by
  simp only [unlessAllowed]
  generalize (if c.2 = [] then [""] else c.2) = uas
  have hkeys : (scraperCandidateMatchesAllowRule cf env c.1 rules uas w.redis).2.rules =
      w.redis.rules := rules_scraperCandidateMatchesAllowRule cf env c.1 rules uas w.redis
  refine ⟨⟨h.db, fun v cell rules' hcell ↦ ?_, h.process⟩, fun a ha ↦ ?_⟩
  · exact h.json v cell rules' (hkeys ▸ hcell)
  · split at ha
    · cases ha
    · obtain rfl := Option.some.inj ha
      exact hplain _ MatchType.noConfusion

theorem holds_detectScraper404Ratio (hplain : ∀ c : Criterion, c.matchType ≠ .regex → P c)
    (dc : DetectorConf) (expiry : ℚ) (candidates : List (String × List String)) (h : w.Holds P) :
    (detectScraper404Ratio cf fresh env dc dryRun expiry candidates w).2.Holds P := by
  rw [detectScraper404Ratio]
  split
  · exact h
  · have hload : (tryLoadRuleCache cf env w).2.Holds P := h.tryLoad env
    rcases hrun : tryLoadRuleCache cf env w with ⟨e | cache, w'⟩
    · rwa [hrun] at hload
    · rw [hrun] at hload
      exact holds_detectEach (fun c _ w hw ↦ holds_unlessAllowed hplain dc expiry _ c hw) hload

/-- **The detectors write no regular expression.** -/
theorem holds_runAllDetectors (hplain : ∀ c : Criterion, c.matchType ≠ .regex → P c)
    (dc : DetectorConf) (t : Traffic) (window : Option ℤ) (h : w.Holds P) :
    (runAllDetectors cf dc fresh env t window dryRun w).2.Holds P := by
  have hmap : ∀ (f : String → AutoRuleWrite) (xs : List String) {w : World},
      (∀ x, (f x).matchType ≠ .regex) → w.Holds P →
        (detectEach cf fresh env always dryRun (xs.map f) w).2.Holds P := by
    intro f xs w hf hw
    refine holds_always (fun a ha ↦ ?_) hw
    obtain ⟨x, -, rfl⟩ := List.mem_map.1 ha
    exact hplain _ (hf x)
  set c := Candidates.ofTraffic dc t window env.now
  have hsubnets : ∀ {w : World}, w.Holds P →
      (detectEach cf fresh env (atStage c.expiry) dryRun c.unsolvedSubnets w).2.Holds P := by
    refine holds_detectEach fun s _ w hw ↦ ⟨hw, fun a ha ↦ ?_⟩
    obtain rfl := Option.some.inj ha
    exact hplain _ MatchType.noConfusion
  have hspray : ∀ {w : World}, w.Holds P →
      (detectEach cf fresh env always dryRun c.cloudSpray w).2.Holds P :=
    holds_always fun a ha ↦ hplain _ (matchType_sprayWrites ha)
  have hrotation := hmap (uaRotationWrite c.expiry) c.uaRotation (fun _ ↦ MatchType.noConfusion) h
  have hburst := hmap (fun s ↦ subnetBurstWrite s c.expiry) c.subnetBurst
    (fun _ ↦ MatchType.noConfusion) hrotation
  have hfarms := hmap (challengeFarmWrite c.expiry) c.challengeFarms
    (fun _ ↦ MatchType.noConfusion) hburst
  have hips := hmap (unsolvedIpWrite c.expiry) c.unsolvedIps (fun _ ↦ MatchType.noConfusion) hfarms
  exact holds_detectScraper404Ratio hplain dc c.expiry c.scraper404 (hspray (hsubnets hips))

end Detectors

end DjangoWaf
