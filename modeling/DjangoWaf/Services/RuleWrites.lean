import DjangoWaf.Lib.KeyedTable
import DjangoWaf.Services.AutoRuleTable

/-!
# The operations on rules

Everything the package offers to change the two rule tables: saving and deleting rows, the admin
actions of `admin.py`, `expire_rules` and `prune_stale_rules` of `tasks.py`, `sync_feed` of
`services/threat_feed.py`, the review views of the dashboard, and the import, block and unblock
commands.

An operation is a function from the tables to what it has **written**: the tables it leaves, and how
often a signal handler ran. A row that is saved or deleted through its model runs one
(`saveBlockRule`, `deleteBlockRules`); a `queryset.update()` runs none. `Signals` says that an
operation that ran no handler changed nothing, and is proved for every operation made of saves and
deletes.

`confidence`, `notes`, the feed statistics and `updated_at` are columns evaluation never reads, and
are left out. `FeedEntry` is an entry that passed the checks of `sync_feed`.
-/

namespace DjangoWaf

/-- What an operation left in the tables, and how many signal handlers it ran. -/
structure Written where
  db : Db
  signals : ℕ

/-- Nothing was written. -/
def Written.nothing (db : Db) : Written := ⟨db, 0⟩

/-- One write after another. -/
def Written.andThen (x : Written) (write : Db → Written) : Written :=
  ⟨(write x.db).db, x.signals + (write x.db).signals⟩

/-- Writes in a row. -/
def writeEach (writes : List (Db → Written)) (db : Db) : Written :=
  writes.foldl Written.andThen (.nothing db)

theorem writeEach_append_singleton (writes : List (Db → Written)) (write : Db → Written) (db : Db) :
    writeEach (writes ++ [write]) db = (writeEach writes db).andThen write := by
  rw [writeEach, List.foldl_append]
  rfl

/-- What each of the writes keeps, all of them keep. -/
theorem writeEach_induction {I : Db → Prop} {writes : List (Db → Written)} {db : Db}
    (h : ∀ write ∈ writes, ∀ db, I db → I (write db).db) (hdb : I db) :
    I (writeEach writes db).db := by
  induction writes using List.reverseRecOn with
  | nil => exact hdb
  | append_singleton writes write ih =>
    rw [writeEach_append_singleton]
    exact h write List.mem_concat_self _ (ih fun w hw ↦ h w (List.mem_append_left _ hw))

/-! ### Rows -/

/-- Store a row under its primary key. -/
def upsert {α : Type*} (key : α → Uuid) (row : α) (rows : List α) : List α :=
  if rows.any fun r ↦ key r = key row then rows.map fun r ↦ if key r = key row then row else r
  else rows ++ [row]

/-- A row that is new. -/
theorem upsert_of_not_mem {α : Type*} {key : α → Uuid} {rows : List α} {row : α}
    (h : key row ∉ rows.map key) : upsert key row rows = rows ++ [row] := by
  have hany : ¬ (rows.any fun s ↦ decide (key s = key row)) = true := by
    intro hany
    obtain ⟨s, hs, hid⟩ := List.any_eq_true.1 hany
    exact h ((of_decide_eq_true hid) ▸ List.mem_map_of_mem hs)
  rw [upsert, if_neg hany]

/-- `BlockRule.save` and `BlockRule.objects.create`. -/
def saveBlockRule (r : BlockRule) (db : Db) : Written :=
  ⟨{ db with blockRules := upsert BlockRule.id r db.blockRules }, 1⟩

/-- `AllowRule.save` and `AllowRule.objects.create`. -/
def saveAllowRule (r : AllowRule) (db : Db) : Written :=
  ⟨{ db with allowRules := upsert AllowRule.id r db.allowRules }, 1⟩

/-- `delete()` of a queryset of block rules. -/
def deleteBlockRules (p : BlockRule → Bool) (db : Db) : Written :=
  ⟨{ db with blockRules := db.blockRules.filter fun r ↦ !p r }, db.blockRules.countP p⟩

/-- `delete()` of a queryset of allow rules. -/
def deleteAllowRules (p : AllowRule → Bool) (db : Db) : Written :=
  ⟨{ db with allowRules := db.allowRules.filter fun r ↦ !p r }, db.allowRules.countP p⟩

/-- `update()` of a queryset of block rules. -/
def updateBlockRules (p : BlockRule → Bool) (f : BlockRule → BlockRule) (db : Db) : Written :=
  .nothing { db with blockRules := db.blockRules.map fun r ↦ if p r then f r else r }

/-- `update()` of a queryset of allow rules. -/
def updateAllowRules (p : AllowRule → Bool) (f : AllowRule → AllowRule) (db : Db) : Written :=
  .nothing { db with allowRules := db.allowRules.map fun r ↦ if p r then f r else r }

/-! ### Admin actions -/

/-- `queryset.update(is_active=…)`, the body of `activate_rules` and `deactivate_rules`, on the
block rules with some primary keys. -/
def setBlockRulesActive (isActive : Bool) (ids : List Uuid) (db : Db) : Written :=
  updateBlockRules (fun r ↦ ids.contains r.id) (fun r ↦ { r with isActive }) db

/-- The same on allow rules. -/
def setAllowRulesActive (isActive : Bool) (ids : List Uuid) (db : Db) : Written :=
  updateAllowRules (fun r ↦ ids.contains r.id) (fun r ↦ { r with isActive }) db

/-- `extend_expiry`: a day more, from now for a rule that never expired. -/
def extendExpiry (now : ℚ) (ids : List Uuid) (db : Db) : Written :=
  writeEach ((db.blockRules.filter fun r ↦ ids.contains r.id).map fun r ↦
    saveBlockRule { r with expiresAt := some (r.expiresAt.getD now + 86400) }) db

/-! ### Tasks -/

/-- A row `BlockRule.objects.stale(days)` returns. -/
def BlockRule.stale (r : BlockRule) (days : ℕ) (now : ℚ) : Bool :=
  r.source = .auto && !r.isActive &&
    (r.expiresAt.any fun expiry ↦ expiry < now - days * 86400) &&
    (r.reviewStatus = .notApplicable || r.reviewStatus = .expiredUnreviewed)

/-- `prune_stale_rules`, and the command of the same name when it is told to delete. -/
def pruneStaleRules (enabled : Bool) (days : ℕ) (now : ℚ) (db : Db) : Written :=
  if enabled then deleteBlockRules (fun r ↦ r.stale days now) db else .nothing db

/-- The three bulk updates of `expire_rules`. -/
def expireRules (now : ℚ) (db : Db) : Db :=
  let deactivated :=
    ((updateBlockRules (fun r ↦ r.expired now) (fun r ↦ { r with isActive := false }) db).andThen
      (updateAllowRules (fun r ↦ r.expired now) fun r ↦ { r with isActive := false })).db
  (updateBlockRules (fun r ↦ r.source = .auto && r.reviewStatus = .pending &&
      isExpired r.expiresAt now) (fun r ↦ { r with reviewStatus := .expiredUnreviewed })
    deactivated).db

/-- The rows `expire_rules` deactivates, which is when it invalidates. -/
def expiredCount (now : ℚ) (db : Db) : ℕ :=
  db.blockRules.countP (fun r ↦ r.expired now) + db.allowRules.countP fun r ↦ r.expired now

/-! ### The threat feed -/

/-- `RuleType.value`. -/
def RuleType.value : RuleType → String
  | .ua => "ua"
  | .ip => "ip"
  | .cidr => "cidr"
  | .composite => "composite"
  | .other value => value

/-- `kind` of a feed entry; anything but `"allow"` is a block. -/
inductive FeedKind
  | allow
  | block
  deriving DecidableEq, Repr

/-- An accepted feed entry, with the primary key of a row created for it, and the rank by which its
look-up breaks ties. -/
structure FeedEntry extends Criterion where
  kind : FeedKind
  action : RuleAction
  rdnsPattern : String
  expiresAt : ℚ
  freshId : Uuid
  tie : Uuid → ℕ

/-- The key feed rows are matched by. -/
def FeedEntry.hasKey (e : FeedEntry) (source : RuleSource) (c : Criterion) : Bool :=
  source = .feed && c.ruleType = e.ruleType && c.pattern = e.pattern

/-- `Meta.ordering` of the block rules: by priority, the newest first. -/
def BlockRule.before (r r' : BlockRule) : Prop :=
  r.priority < r'.priority ∨ (r.priority = r'.priority ∧ r'.createdAt ≤ r.createdAt)

instance : DecidableRel BlockRule.before := fun r r' ↦
  inferInstanceAs (Decidable (r.priority < r'.priority ∨
    (r.priority = r'.priority ∧ r'.createdAt ≤ r.createdAt)))

/-- `Meta.ordering` of the allow rules: by name. -/
def AllowRule.before (r r' : AllowRule) : Prop := r.name.toList ≤ r'.name.toList

instance : DecidableRel AllowRule.before := fun r r' ↦
  inferInstanceAs (Decidable (r.name.toList ≤ r'.name.toList))

/-- `.first()` of a queryset of block rules. The database is free in the order of rows of one
priority and one instant. -/
def firstBlockRule (tie : Uuid → ℕ) (p : BlockRule → Bool) (db : Db) : Option BlockRule :=
  firstBy BlockRule.before (fun r ↦ tie r.id) (db.blockRules.filter p)

/-- `.first()` of a queryset of allow rules. The database is free in the order of rows of one
name. -/
def firstAllowRule (tie : Uuid → ℕ) (p : AllowRule → Bool) (db : Db) : Option AllowRule :=
  firstBy AllowRule.before (fun r ↦ tie r.id) (db.allowRules.filter p)

theorem mem_of_firstBlockRule {tie : Uuid → ℕ} {p : BlockRule → Bool} {db : Db} {r : BlockRule}
    (h : firstBlockRule tie p db = some r) : r ∈ db.blockRules ∧ p r = true :=
  List.mem_filter.1 (mem_of_firstBy h)

theorem mem_of_firstAllowRule {tie : Uuid → ℕ} {p : AllowRule → Bool} {db : Db} {r : AllowRule}
    (h : firstAllowRule tie p db = some r) : r ∈ db.allowRules ∧ p r = true :=
  List.mem_filter.1 (mem_of_firstBy h)

/-- The name of a row created for an entry. -/
def FeedEntry.ruleName (e : FeedEntry) : String :=
  "Feed: " ++ e.ruleType.value ++ " " ++ String.ofList (e.pattern.toList.take 50)

/-- The row created for an allow entry. -/
def FeedEntry.toAllowRule (e : FeedEntry) (quarantineAllowRules : Bool) : AllowRule where
  toCriterion := e.toCriterion
  id := e.freshId
  name := e.ruleName
  verifyRdns := true
  rdnsPattern := e.rdnsPattern
  isActive := !quarantineAllowRules
  source := .feed
  expiresAt := some e.expiresAt

/-- The row created for a block entry. -/
def FeedEntry.toBlockRule (e : FeedEntry) (now : ℚ) : BlockRule where
  toCriterion := e.toCriterion
  id := e.freshId
  name := e.ruleName
  action := e.action
  priority := 100
  isActive := true
  source := .feed
  expiresAt := some e.expiresAt
  reviewStatus := .notApplicable
  reviewedAt := none
  detectors := ""
  createdAt := now

/-- One entry of the feed. -/
def syncEntry (quarantineAllowRules : Bool) (now : ℚ) (e : FeedEntry) (db : Db) : Written :=
  match e.kind with
  | .allow =>
    match firstAllowRule e.tie (fun r ↦ e.hasKey r.source r.toCriterion) db with
    | some r =>
      -- quarantine never deactivates a rule that is active already
      saveAllowRule { r with
        matchType := e.matchType, verifyRdns := true, rdnsPattern := e.rdnsPattern,
        expiresAt := some e.expiresAt, isActive := r.isActive || !quarantineAllowRules } db
    | none => saveAllowRule (e.toAllowRule quarantineAllowRules) db
  | .block =>
    match firstBlockRule e.tie (fun r ↦ e.hasKey r.source r.toCriterion) db with
    | some r =>
      saveBlockRule { r with
        action := e.action, matchType := e.matchType, expiresAt := some e.expiresAt,
        isActive := true } db
    | none => saveBlockRule (e.toBlockRule now) db

/-- Feed block rules the feed no longer has are deactivated. -/
def deactivateUnseenBlockRules (entries : List FeedEntry) (db : Db) : Written :=
  writeEach ((db.blockRules.filter fun r ↦ r.source = .feed && r.isActive &&
      !entries.any fun e ↦ e.kind = .block && e.hasKey r.source r.toCriterion).map fun r ↦
    saveBlockRule { r with isActive := false }) db

/-- Feed allow rules the feed no longer has are deactivated. -/
def deactivateUnseenAllowRules (entries : List FeedEntry) (db : Db) : Written :=
  writeEach ((db.allowRules.filter fun r ↦ r.source = .feed && r.isActive &&
      !entries.any fun e ↦ e.kind = .allow && e.hasKey r.source r.toCriterion).map fun r ↦
    saveAllowRule { r with isActive := false }) db

/-- `sync_feed`, from its accepted entries on. -/
def syncFeed (quarantineAllowRules : Bool) (now : ℚ) (entries : List FeedEntry) (db : Db) :
    Written :=
  ((writeEach (entries.map (syncEntry quarantineAllowRules now)) db).andThen
    (deactivateUnseenBlockRules entries)).andThen (deactivateUnseenAllowRules entries)

/-! ### Review -/

/-- A row as the confirmation saves it. -/
def BlockRule.confirmed (now : ℚ) (r : BlockRule) : BlockRule :=
  { r with
    source := .admin, expiresAt := none, isActive := true, reviewStatus := .confirmed,
    reviewedAt := some now }

/-- A confirmed rule is the operator's. -/
theorem BlockRule.confirmed_source {now : ℚ} (r : BlockRule) :
    (r.confirmed now).source ≠ .auto := by
  simp [BlockRule.confirmed]

/-- A row as the rejection saves it. -/
def BlockRule.rejected (now : ℚ) (r : BlockRule) : BlockRule :=
  { r with isActive := false, reviewStatus := .rejected, reviewedAt := some now }

/-- `DashboardAnomalyConfirmView.post`. -/
def confirmRule (now : ℚ) (id : Uuid) (db : Db) : Written :=
  match db.blockRules.find? fun r ↦ r.id = id with
  | some r => saveBlockRule { r with
      source := .admin, expiresAt := none, isActive := true, reviewStatus := .confirmed,
      reviewedAt := some now } db
  | none => .nothing db

/-- `DashboardAnomalyRejectView.post`. -/
def rejectRule (now : ℚ) (id : Uuid) (db : Db) : Written :=
  match db.blockRules.find? fun r ↦ r.id = id with
  | some r => saveBlockRule { r with
      isActive := false, reviewStatus := .rejected, reviewedAt := some now } db
  | none => .nothing db

/-! ### Commands -/

/-- A block rule of an import file; a missing field is `none`. -/
structure ImportBlockEntry extends Criterion where
  name : String
  action : RuleAction
  priority : Option ℕ
  isActive : Option Bool
  expiresAt : Option ℚ
  reviewStatus : Option ReviewStatus
  freshId : Uuid

/-- An allow rule of an import file. -/
structure ImportAllowEntry extends Criterion where
  name : String
  verifyRdns : Option Bool
  rdnsPattern : Option String
  isActive : Option Bool
  freshId : Uuid

/-- The row an entry creates. -/
def ImportBlockEntry.toRow (now : ℚ) (e : ImportBlockEntry) : BlockRule :=
  { toCriterion := e.toCriterion, id := e.freshId, name := e.name, action := e.action,
    priority := e.priority.getD 100, isActive := e.isActive.getD true, source := .admin,
    expiresAt := e.expiresAt, reviewStatus := e.reviewStatus.getD .notApplicable,
    reviewedAt := none, detectors := "", createdAt := now }

/-- The row an entry creates. -/
def ImportAllowEntry.toRow (e : ImportAllowEntry) : AllowRule :=
  { toCriterion := e.toCriterion, id := e.freshId, name := e.name,
    verifyRdns := e.verifyRdns.getD false, rdnsPattern := e.rdnsPattern.getD "",
    isActive := e.isActive.getD true, source := .admin, expiresAt := none }

/-- The block entries of an import; merging skips those whose key is there already. -/
def importBlockRules (merge : Bool) (now : ℚ) :
    List Criterion → List ImportBlockEntry → Db → Written
  | _, [], db => .nothing db
  | keys, e :: entries, db =>
    if merge && keys.contains e.toCriterion then importBlockRules merge now keys entries db
    else (saveBlockRule (e.toRow now) db).andThen
      (importBlockRules merge now (e.toCriterion :: keys) entries)

/-- The allow entries of an import. -/
def importAllowRules (merge : Bool) :
    List Criterion → List ImportAllowEntry → Db → Written
  | _, [], db => .nothing db
  | keys, e :: entries, db =>
    if merge && keys.contains e.toCriterion then importAllowRules merge keys entries db
    else (saveAllowRule e.toRow db).andThen (importAllowRules merge (e.toCriterion :: keys) entries)

/-- `django_waf_import_rules`, with `--merge` or `--replace`. -/
def importRules (merge dryRun : Bool) (now : ℚ) (blocks : List ImportBlockEntry)
    (allows : List ImportAllowEntry) (db : Db) : Written :=
  if dryRun then .nothing db
  else
    let cleared := if merge then .nothing db
      else (deleteBlockRules (fun r ↦ r.source = .admin) db).andThen (deleteAllowRules fun _ ↦ true)
    (cleared.andThen (importBlockRules merge now
      (if merge then cleared.db.blockRules.map BlockRule.toCriterion else []) blocks)).andThen
        (importAllowRules merge
          (if merge then cleared.db.allowRules.map AllowRule.toCriterion else []) allows)

/-- The row `django_waf_block` creates for an address or a range. -/
def manualBlock (pattern : String) (action : RuleAction) (expiresAt : Option ℚ) (freshId : Uuid)
    (now : ℚ) : BlockRule where
  ruleType := if pattern.toList.contains '/' then .cidr else .ip
  matchType := if pattern.toList.contains '/' then .cidr else .exact
  pattern
  id := freshId
  name := "Manual block: " ++ pattern
  action
  priority := 100
  isActive := true
  source := .admin
  expiresAt
  reviewStatus := .notApplicable
  reviewedAt := none
  detectors := ""
  createdAt := now

/-- `django_waf_block`. Several rows of the key make `update_or_create` raise. -/
def blockCommand (pattern : String) (action : RuleAction) (ttlHours : Option ℕ) (freshId : Uuid)
    (now : ℚ) (db : Db) : Written :=
  let row := manualBlock (PyStr.stripText pattern) action
    (ttlHours.map fun hours ↦ now + hours * 3600) freshId now
  match db.blockRules.filter fun r ↦ r.ruleType = row.ruleType && r.pattern = row.pattern &&
      r.source = row.source && r.action = row.action with
  | [] => saveBlockRule row db
  | [r] => saveBlockRule { r with
      name := row.name, matchType := row.matchType, isActive := true,
      expiresAt := row.expiresAt } db
  | _ :: _ :: _ => .nothing db

/-- The rows `django_waf_unblock` works on. -/
def unblockFinds (pattern : String) (r : BlockRule) : Bool :=
  r.pattern = PyStr.stripText pattern && r.isActive

/-- `django_waf_unblock --delete`. -/
def unblockDelete (pattern : String) (db : Db) : Written :=
  deleteBlockRules (unblockFinds pattern) db

/-- `django_waf_unblock`. -/
def unblockCommand (pattern : String) (db : Db) : Written :=
  updateBlockRules (unblockFinds pattern) (fun r ↦ { r with isActive := false }) db

/-! ### All of them -/

/-- An operation made of saves and deletes, each of which runs its signal handler. -/
inductive SignalledOp
  | saveBlockRule (r : BlockRule)
  | saveAllowRule (r : AllowRule)
  | deleteBlockRules (ids : List Uuid)
  | deleteAllowRules (ids : List Uuid)
  | extendExpiry (ids : List Uuid)
  | syncFeed (quarantineAllowRules : Bool) (entries : List FeedEntry)
  | confirm (id : Uuid)
  | reject (id : Uuid)
  | importRules (merge dryRun : Bool) (blocks : List ImportBlockEntry)
      (allows : List ImportAllowEntry)
  | block (pattern : String) (action : RuleAction) (ttlHours : Option ℕ) (freshId : Uuid)
  | unblockDelete (pattern : String)
  | pruneStaleRules (days : ℕ)

/-- An operation that is one `queryset.update()`. -/
inductive BulkOp
  | setBlockRulesActive (isActive : Bool) (ids : List Uuid)
  | setAllowRulesActive (isActive : Bool) (ids : List Uuid)
  | unblock (pattern : String)

/-- An operation on rules. -/
inductive RuleOp
  | signalled (op : SignalledOp)
  /-- A detector's write, or the escalation's. -/
  | autoRule (write : AutoRuleWrite)
  | bulk (op : BulkOp)
  | expireRules

variable (cf : Conf)

/-- What an operation of saves and deletes writes at an instant. -/
def SignalledOp.write (now : ℚ) (db : Db) : SignalledOp → Written
  | .saveBlockRule r => DjangoWaf.saveBlockRule r db
  | .saveAllowRule r => DjangoWaf.saveAllowRule r db
  | .deleteBlockRules ids => DjangoWaf.deleteBlockRules (fun r ↦ ids.contains r.id) db
  | .deleteAllowRules ids => DjangoWaf.deleteAllowRules (fun r ↦ ids.contains r.id) db
  | .extendExpiry ids => DjangoWaf.extendExpiry now ids db
  | .syncFeed quarantineAllowRules entries => DjangoWaf.syncFeed quarantineAllowRules now entries db
  | .confirm id => confirmRule now id db
  | .reject id => rejectRule now id db
  | .importRules merge dryRun blocks allows =>
    DjangoWaf.importRules merge dryRun now blocks allows db
  | .block pattern action ttlHours freshId => blockCommand pattern action ttlHours freshId now db
  | .unblockDelete pattern => DjangoWaf.unblockDelete pattern db
  | .pruneStaleRules days => DjangoWaf.pruneStaleRules cf.rulePruneEnabled days now db

/-- What a bulk update writes. -/
def BulkOp.write (db : Db) : BulkOp → Written
  | .setBlockRulesActive isActive ids => DjangoWaf.setBlockRulesActive isActive ids db
  | .setAllowRulesActive isActive ids => DjangoWaf.setAllowRulesActive isActive ids db
  | .unblock pattern => unblockCommand pattern db

/-- The world after a write: its tables, and one invalidation for each handler that ran. -/
def World.write (w : World) (x : Written) : World :=
  (invalidateRuleCache cf)^[x.signals] { w with db := x.db }

/-- The world after an operation. -/
def RuleOp.apply (env : Env) (w : World) : RuleOp → World
  | .signalled op => w.write cf (op.write cf env.now w.db)
  | .autoRule write => (getOrCreateAutoRule cf env write w).2
  | .bulk op => w.write cf (op.write w.db)
  | .expireRules =>
    let w' := { w with db := DjangoWaf.expireRules env.now w.db }
    if 0 < expiredCount env.now w.db then invalidateRuleCacheRedis cf w' else w'

/-- The handlers change no table. -/
theorem World.db_write (w : World) (x : Written) : (w.write cf x).db = x.db := by
  obtain ⟨k, hk⟩ := invalidateRuleCache_iterate_eq cf x.signals { w with db := x.db }
  rw [World.write, hk]

theorem db_apply_expireRules (env : Env) (w : World) :
    (RuleOp.expireRules.apply cf env w).db = DjangoWaf.expireRules env.now w.db := by
  simp only [RuleOp.apply, invalidateRuleCacheRedis]
  split
  · split <;> rfl
  · rfl

/-! ### A write that ran no handler changed nothing -/

/-- What was written from the given tables ran a handler, or changed nothing. -/
def Written.Signalled (x : Written) (db : Db) : Prop := x.signals = 0 → x.db = db

/-- An operation that ran no handler changed nothing. -/
def Signals (write : Db → Written) : Prop := ∀ db, (write db).Signalled db

theorem signals_nothing : Signals Written.nothing := fun _ _ ↦ rfl

theorem signals_saveBlockRule (r : BlockRule) : Signals (saveBlockRule r) :=
  fun _ h ↦ absurd h Nat.one_ne_zero

theorem signals_saveAllowRule (r : AllowRule) : Signals (saveAllowRule r) :=
  fun _ h ↦ absurd h Nat.one_ne_zero

theorem signals_deleteBlockRules (p : BlockRule → Bool) : Signals (deleteBlockRules p) := by
  intro db h
  have hnone : ∀ r ∈ db.blockRules, ¬ p r = true := List.countP_eq_zero.1 h
  have hfilter : (db.blockRules.filter fun r ↦ !p r) = db.blockRules :=
    List.filter_eq_self.2 fun r hr ↦ by simpa using hnone r hr
  rw [deleteBlockRules, hfilter]

theorem signals_deleteAllowRules (p : AllowRule → Bool) : Signals (deleteAllowRules p) := by
  intro db h
  have hnone : ∀ r ∈ db.allowRules, ¬ p r = true := List.countP_eq_zero.1 h
  have hfilter : (db.allowRules.filter fun r ↦ !p r) = db.allowRules :=
    List.filter_eq_self.2 fun r hr ↦ by simpa using hnone r hr
  rw [deleteAllowRules, hfilter]

/-- A write that signals, after one that did. -/
theorem Written.Signalled.andThen {x : Written} {db : Db} {write : Db → Written}
    (hx : x.Signalled db) (hwrite : Signals write) : (x.andThen write).Signalled db := by
  intro h
  have hsum : x.signals + (write x.db).signals = 0 := h
  have hfirst : x.db = db := hx (by omega)
  have hsecond : (write x.db).db = x.db := hwrite x.db (by omega)
  exact hsecond.trans hfirst

theorem Written.Signalled.foldl {writes : List (Db → Written)}
    (h : ∀ write ∈ writes, Signals write) {db : Db} {x : Written} (hx : x.Signalled db) :
    (writes.foldl Written.andThen x).Signalled db := by
  induction writes generalizing x with
  | nil => exact hx
  | cons write writes ih =>
    exact ih (fun w hw ↦ h w (List.mem_cons_of_mem _ hw))
      (hx.andThen (h write (List.mem_cons_self ..)))

theorem signals_writeEach {writes : Db → List (Db → Written)}
    (h : ∀ db, ∀ write ∈ writes db, Signals write) : Signals fun db ↦ writeEach (writes db) db :=
  fun db ↦ Written.Signalled.foldl (h db) (signals_nothing db)

theorem signals_extendExpiry (now : ℚ) (ids : List Uuid) : Signals (extendExpiry now ids) := by
  refine signals_writeEach fun db write hwrite ↦ ?_
  obtain ⟨r, -, rfl⟩ := List.mem_map.1 hwrite
  exact signals_saveBlockRule _

theorem signals_syncEntry (quarantineAllowRules : Bool) (now : ℚ) (e : FeedEntry) :
    Signals (syncEntry quarantineAllowRules now e) := by
  intro db
  rw [syncEntry]
  split
  · split <;> exact signals_saveAllowRule _ db
  · split <;> exact signals_saveBlockRule _ db

theorem signals_syncFeed (quarantineAllowRules : Bool) (now : ℚ) (entries : List FeedEntry) :
    Signals (syncFeed quarantineAllowRules now entries) := by
  have hentries : Signals (writeEach (entries.map (syncEntry quarantineAllowRules now))) := by
    refine signals_writeEach fun db write hwrite ↦ ?_
    obtain ⟨e, -, rfl⟩ := List.mem_map.1 hwrite
    exact signals_syncEntry _ _ e
  have hblocks : Signals (deactivateUnseenBlockRules entries) := by
    refine signals_writeEach fun db write hwrite ↦ ?_
    obtain ⟨r, -, rfl⟩ := List.mem_map.1 hwrite
    exact signals_saveBlockRule _
  have hallows : Signals (deactivateUnseenAllowRules entries) := by
    refine signals_writeEach fun db write hwrite ↦ ?_
    obtain ⟨r, -, rfl⟩ := List.mem_map.1 hwrite
    exact signals_saveAllowRule _
  intro db
  exact ((hentries db).andThen hblocks).andThen hallows

theorem signals_confirmRule (now : ℚ) (id : Uuid) : Signals (confirmRule now id) := by
  intro db
  rw [confirmRule]
  split
  · exact signals_saveBlockRule _ db
  · exact signals_nothing db

theorem signals_rejectRule (now : ℚ) (id : Uuid) : Signals (rejectRule now id) := by
  intro db
  rw [rejectRule]
  split
  · exact signals_saveBlockRule _ db
  · exact signals_nothing db

theorem signals_importBlockRules (merge : Bool) (now : ℚ) (keys : List Criterion)
    (entries : List ImportBlockEntry) : Signals (importBlockRules merge now keys entries) := by
  induction entries generalizing keys with
  | nil => exact signals_nothing
  | cons e entries ih =>
    intro db
    rw [importBlockRules]
    split
    · exact ih keys db
    · exact (signals_saveBlockRule _ db).andThen (ih _)

theorem signals_importAllowRules (merge : Bool) (keys : List Criterion)
    (entries : List ImportAllowEntry) : Signals (importAllowRules merge keys entries) := by
  induction entries generalizing keys with
  | nil => exact signals_nothing
  | cons e entries ih =>
    intro db
    rw [importAllowRules]
    split
    · exact ih keys db
    · exact (signals_saveAllowRule _ db).andThen (ih _)

theorem signals_importRules (merge dryRun : Bool) (now : ℚ) (blocks : List ImportBlockEntry)
    (allows : List ImportAllowEntry) : Signals (importRules merge dryRun now blocks allows) := by
  intro db
  rw [importRules]
  split
  · exact signals_nothing db
  · refine Written.Signalled.andThen
      (Written.Signalled.andThen ?_ (signals_importBlockRules _ _ _ _))
      (signals_importAllowRules _ _ _)
    split
    · exact signals_nothing db
    · exact (signals_deleteBlockRules _ db).andThen (signals_deleteAllowRules _)

theorem signals_blockCommand (pattern : String) (action : RuleAction) (ttlHours : Option ℕ)
    (freshId : Uuid) (now : ℚ) : Signals (blockCommand pattern action ttlHours freshId now) := by
  intro db
  simp only [blockCommand]
  split
  · exact signals_saveBlockRule _ db
  · exact signals_saveBlockRule _ db
  · exact signals_nothing db

/-- **Every operation of saves and deletes signals what it writes.** -/
theorem SignalledOp.signals (op : SignalledOp) (now : ℚ) : Signals fun db ↦ op.write cf now db := by
  cases op with
  | saveBlockRule r => exact signals_saveBlockRule r
  | saveAllowRule r => exact signals_saveAllowRule r
  | deleteBlockRules ids => exact signals_deleteBlockRules _
  | deleteAllowRules ids => exact signals_deleteAllowRules _
  | extendExpiry ids => exact signals_extendExpiry now ids
  | syncFeed quarantineAllowRules entries => exact signals_syncFeed _ now entries
  | confirm id => exact signals_confirmRule now id
  | reject id => exact signals_rejectRule now id
  | importRules merge dryRun blocks allows => exact signals_importRules _ _ now _ _
  | block pattern action ttlHours freshId => exact signals_blockCommand _ _ _ _ now
  | unblockDelete pattern => exact signals_deleteBlockRules _
  | pruneStaleRules days =>
    intro db
    simp only [SignalledOp.write, DjangoWaf.pruneStaleRules]
    split
    · exact signals_deleteBlockRules _ db
    · exact signals_nothing db

/-- A write of an auto rule always runs a handler. -/
theorem getOrCreateAutoRule_eq_write (env : Env) (a : AutoRuleWrite) (w : World) :
    ∃ x : Written, x.signals ≠ 0 ∧ (getOrCreateAutoRule cf env a w).2 = w.write cf x :=
  ⟨⟨{ w.db with blockRules := (a.updateOrCreate cf env
      (if (w.db.blockRules.filter a.finds).length ≤ 1 then w.db.blockRules
        else a.deduplicate w.db.blockRules)).2 },
    w.db.blockRules.length - (if (w.db.blockRules.filter a.finds).length ≤ 1 then w.db.blockRules
      else a.deduplicate w.db.blockRules).length + 1⟩, Nat.succ_ne_zero _, rfl⟩

/-! ### Reviews of a constrained table -/

/-- A review rewrites the row it names. -/
theorem Db.Constrained.blockRules_review {db : Db} (h : db.Constrained) {id : Uuid}
    {f : BlockRule → BlockRule} (hf : ∀ r, (f r).id = r.id) :
    (match db.blockRules.find? fun r : BlockRule ↦ r.id = id with
      | some r => saveBlockRule (f r) db
      | none => .nothing db).db.blockRules =
      db.blockRules.map fun r ↦ if r.id = id then f r else r := by
  split
  · rename_i r hr
    have hmem := List.mem_of_find?_eq_some hr
    have hid : r.id = id := by simpa using List.find?_some hr
    have hany : (db.blockRules.any fun s ↦ s.id = (f r).id) = true :=
      List.any_eq_true.2 ⟨r, hmem, decide_eq_true (hf r).symm⟩
    show upsert BlockRule.id (f r) db.blockRules = _
    rw [upsert, if_pos hany, hf, hid]
    refine List.map_congr_left fun s hs ↦ ?_
    split
    · rename_i hs'
      rw [h.primary s hs r hmem (hs'.trans hid.symm)]
    · rfl
  · rename_i hnone
    refine (List.map_congr_left fun r hr ↦ ?_).trans (List.map_id _) |>.symm
    rw [if_neg fun hid ↦ List.find?_eq_none.1 hnone r hr (decide_eq_true hid)]
    rfl

theorem Db.Constrained.blockRules_confirm {w : World} (h : w.db.Constrained) (env : Env)
    (id : Uuid) : (RuleOp.apply cf env w (.signalled (.confirm id))).db.blockRules =
      w.db.blockRules.map fun r ↦ if r.id = id then r.confirmed env.now else r := by
  rw [RuleOp.apply, World.db_write]
  exact h.blockRules_review (f := BlockRule.confirmed env.now) fun _ ↦ rfl

theorem Db.Constrained.blockRules_reject {w : World} (h : w.db.Constrained) (env : Env)
    (id : Uuid) : (RuleOp.apply cf env w (.signalled (.reject id))).db.blockRules =
      w.db.blockRules.map fun r ↦ if r.id = id then r.rejected env.now else r := by
  rw [RuleOp.apply, World.db_write]
  exact h.blockRules_review (f := BlockRule.rejected env.now) fun _ ↦ rfl

end DjangoWaf
