import DjangoWaf.Lib.Run
import DjangoWaf.Rejection
import DjangoWaf.Services.AutoRuleTable
import DjangoWaf.Services.RuleWrites

/-!
# A rejection is durable

An operator who rejects an auto rule has said that its pattern is not to be acted on with its
action. Everything that writes rules by itself comes back to the tables later, by filters and
updates of its own: the detectors and the escalation through the review guard, the feed through the
rows of its own source, the expiry and retention sweeps, an import that merges, and the reviews of
other rules. **None of them undoes the rejection** (`rejection_durable`): the row stays where it is,
rejected and inactive, and stays the only auto rule of its key.

What the proof leans on is what the database promises: a primary key names one row, an auto key
names at most one row, and the primary key of a new row is new.
-/

namespace DjangoWaf

variable (cf : Conf)

/-! ### The rejected row -/

/-- **The auto rule of a key is rejected**: one row has the key, it is the one with a given primary
key, and it is rejected and inactive; and no other row has that primary key. -/
structure Db.HasRejected (db : Db) (k : AutoKey) (id : Uuid) : Prop where
  row : ∃ r, db.blockRules.filter k.holds = [r] ∧ r.id = id ∧ r.reviewStatus = .rejected ∧
    r.isActive = false
  owner : ∀ r ∈ db.blockRules, r.id = id → k.holds r = true

variable {k : AutoKey} {id : Uuid}

/-- The rows of the key are the rejected one. -/
theorem Db.HasRejected.id_of_holds {db : Db} (h : db.HasRejected k id) {r : BlockRule}
    (hr : r ∈ db.blockRules) (hk : k.holds r = true) : r.id = id := by
  obtain ⟨r₀, hfilter, hid, -⟩ := h.row
  have hmem : r ∈ db.blockRules.filter k.holds := List.mem_filter.2 ⟨hr, hk⟩
  rw [hfilter, List.mem_singleton] at hmem
  rw [hmem, hid]

/-- What is said of a table depends on its block rules alone. -/
theorem Db.HasRejected.congr {db db' : Db} (h : db.HasRejected k id)
    (hrules : db'.blockRules = db.blockRules) : db'.HasRejected k id :=
  ⟨by rw [hrules]; exact h.row, by rw [hrules]; exact h.owner⟩

/-- A write leaves the rejection in place. -/
def KeepsRejection (k : AutoKey) (id : Uuid) (write : Db → Written) : Prop :=
  ∀ db : Db, db.HasRejected k id → (write db).db.HasRejected k id

/-! ### Saves, deletes and updates -/

theorem keeps_nothing : KeepsRejection k id Written.nothing := fun _ h ↦ h

theorem KeepsRejection.andThen {x : Written} {write : Db → Written} (hx : x.db.HasRejected k id)
    (h : KeepsRejection k id write) : (x.andThen write).db.HasRejected k id := h x.db hx

/-- **Writes in a row**, each of which leaves the rejection in place. -/
theorem keeps_writeEach {writes : List (Db → Written)}
    (h : ∀ write ∈ writes, KeepsRejection k id write) : KeepsRejection k id (writeEach writes) :=
  fun _ ↦ writeEach_induction h

theorem keeps_saveAllowRule (r : AllowRule) : KeepsRejection k id (saveAllowRule r) :=
  fun _ h ↦ h.congr rfl

/-- Saving a row of another primary key and another auto key. -/
theorem keeps_saveBlockRule {db : Db} (h : db.HasRejected k id) {row : BlockRule}
    (hid : row.id ≠ id) (hk : k.holds row = false) :
    (saveBlockRule row db).db.HasRejected k id := by
  have hne : ∀ r ∈ db.blockRules, k.holds r = true → r.id ≠ row.id := fun r hr hkr heq ↦
    hid (heq.symm.trans (h.id_of_holds hr hkr))
  have hfilter : (upsert BlockRule.id row db.blockRules).filter k.holds =
      db.blockRules.filter k.holds := by
    rw [upsert]
    split
    · generalize db.blockRules = rules at hne
      clear h
      induction rules with
      | nil => rfl
      | cons r rules ih =>
        have hrest := ih fun r' hr' ↦ hne r' (List.mem_cons_of_mem r hr')
        rw [List.map_cons]
        by_cases hkr : k.holds r = true
        · rw [if_neg (hne r List.mem_cons_self hkr), List.filter_cons_of_pos hkr,
            List.filter_cons_of_pos hkr, hrest]
        · have hkr' : ¬k.holds (if r.id = row.id then row else r) = true := by
            split
            · rw [hk]
              exact Bool.false_ne_true
            · exact hkr
          rw [List.filter_cons_of_neg hkr', List.filter_cons_of_neg hkr, hrest]
    · rw [List.filter_append, List.filter_singleton, hk]
      simp
  refine ⟨?_, ?_⟩
  · show ∃ r, (upsert BlockRule.id row db.blockRules).filter k.holds = [r] ∧ _
    rw [hfilter]
    exact h.row
  · intro r hr hrid
    replace hr : r ∈ upsert BlockRule.id row db.blockRules := hr
    rw [upsert] at hr
    split at hr
    · obtain ⟨r', hr', rfl⟩ := List.mem_map.1 hr
      split at hrid
      · exact absurd hrid hid
      · rename_i hsame
        rw [if_neg hsame]
        exact h.owner r' hr' hrid
    · rcases List.mem_append.1 hr with hr | hr
      · exact h.owner r hr hrid
      · rw [List.mem_singleton.1 hr] at hrid
        exact absurd hrid hid

/-- Deleting rows that are not rejected. -/
theorem keeps_deleteBlockRules {p : BlockRule → Bool}
    (hp : ∀ r : BlockRule, r.reviewStatus = .rejected → p r = false) :
    KeepsRejection k id (deleteBlockRules p) := by
  intro db h
  obtain ⟨r, hfilter, hid, hstatus, hactive⟩ := h.row
  refine ⟨⟨r, ?_, hid, hstatus, hactive⟩, fun r' hr' ↦ h.owner r' (List.mem_of_mem_filter hr')⟩
  show (db.blockRules.filter fun r ↦ !p r).filter k.holds = [r]
  rw [List.filter_comm, hfilter, List.filter_cons_of_pos (by rw [hp r hstatus]; rfl),
    List.filter_nil]

/-- Updating rows in a way that keeps their keys, and a rejected inactive row as it is. -/
theorem keeps_updateBlockRules {p : BlockRule → Bool} {f : BlockRule → BlockRule}
    (hkey : ∀ r, (f r).id = r.id ∧ k.holds (f r) = k.holds r)
    (hf : ∀ r, p r = true → r.reviewStatus = .rejected → r.isActive = false →
      (f r).reviewStatus = .rejected ∧ (f r).isActive = false) :
    KeepsRejection k id (updateBlockRules p f) := by
  intro db h
  obtain ⟨r, hfilter, hid, hstatus, hactive⟩ := h.row
  have hsame : ∀ r, (if p r then f r else r).id = r.id ∧
      k.holds (if p r then f r else r) = k.holds r := by
    intro r
    split
    · exact hkey r
    · exact ⟨rfl, rfl⟩
  refine ⟨⟨if p r then f r else r, ?_, (hsame r).1.trans hid, ?_⟩, ?_⟩
  · show (db.blockRules.map fun r ↦ if p r then f r else r).filter k.holds = _
    rw [List.filter_map]
    have hcomp : (k.holds ∘ fun r ↦ if p r then f r else r) = k.holds := funext fun r ↦ (hsame r).2
    rw [hcomp, hfilter, List.map_singleton]
  · split
    · rename_i hpr
      exact hf r hpr hstatus hactive
    · exact ⟨hstatus, hactive⟩
  · intro r' hr' hid'
    obtain ⟨r'', hr'', rfl⟩ := List.mem_map.1 hr'
    rw [(hsame r'').2]
    exact h.owner r'' hr'' ((hsame r'').1.symm.trans hid')

/-! ### The operations -/

/-- A row that is not the auto rule of the key has another primary key. -/
theorem Db.HasRejected.id_ne {db : Db} (h : db.HasRejected k id) {r : BlockRule}
    (hr : r ∈ db.blockRules) (hk : k.holds r = false) : r.id ≠ id := by
  intro hid
  rw [h.owner r hr hid] at hk
  cases hk

/-- The feed writes its own rows. -/
theorem keeps_syncEntry (quarantineAllowRules : Bool) (now : ℚ) {e : FeedEntry}
    (hfresh : e.freshId ≠ id) : KeepsRejection k id (syncEntry quarantineAllowRules now e) := by
  intro db h
  rw [syncEntry]
  split
  · split <;> exact keeps_saveAllowRule _ db h
  · split
    · rename_i r hr
      obtain ⟨hmem, hkey⟩ := mem_of_firstBlockRule hr
      have hfeed : r.source = .feed := by
        simp only [FeedEntry.hasKey, Bool.and_eq_true, decide_eq_true_eq] at hkey
        exact hkey.1.1
      have hsource : r.source ≠ .auto := by
        rw [hfeed]
        decide
      have hid : r.id ≠ id := h.id_ne hmem (AutoKey.holds_of_source hsource)
      exact keeps_saveBlockRule h hid (AutoKey.holds_of_source hsource)
    · exact keeps_saveBlockRule h hfresh
        (AutoKey.holds_of_source (by simp [FeedEntry.toBlockRule]))

/-- Feed rows that are deactivated because the feed no longer has them. -/
theorem keeps_deactivateUnseenBlockRules (entries : List FeedEntry) :
    KeepsRejection k id (deactivateUnseenBlockRules entries) := by
  intro db h
  -- the rows are read once, before the first of them is saved
  have hrows : ∀ r ∈ db.blockRules.filter (fun r ↦ r.source = .feed && r.isActive &&
      !entries.any fun e ↦ e.kind = .block && e.hasKey r.source r.toCriterion),
      r.id ≠ id ∧ r.source ≠ .auto := by
    intro r hr
    obtain ⟨hmem, hp⟩ := List.mem_filter.1 hr
    simp only [Bool.and_eq_true, decide_eq_true_eq] at hp
    have hsource : r.source ≠ .auto := by
      rw [hp.1.1]
      decide
    exact ⟨h.id_ne hmem (AutoKey.holds_of_source hsource), hsource⟩
  refine keeps_writeEach (fun write hwrite db' h' ↦ ?_) db h
  obtain ⟨r, hr, rfl⟩ := List.mem_map.1 hwrite
  obtain ⟨hid, hsource⟩ := hrows r hr
  exact keeps_saveBlockRule h' hid (AutoKey.holds_of_source hsource)

theorem keeps_deactivateUnseenAllowRules (entries : List FeedEntry) :
    KeepsRejection k id (deactivateUnseenAllowRules entries) := by
  intro db h
  refine keeps_writeEach (fun write hwrite ↦ ?_) db h
  obtain ⟨r, -, rfl⟩ := List.mem_map.1 hwrite
  exact keeps_saveAllowRule _

theorem keeps_syncFeed (quarantineAllowRules : Bool) (now : ℚ) {entries : List FeedEntry}
    (hfresh : ∀ e ∈ entries, e.freshId ≠ id) :
    KeepsRejection k id (syncFeed quarantineAllowRules now entries) := by
  intro db h
  have hentries : KeepsRejection k id
      (writeEach (entries.map (syncEntry quarantineAllowRules now))) := by
    refine keeps_writeEach fun write hwrite ↦ ?_
    obtain ⟨e, he, rfl⟩ := List.mem_map.1 hwrite
    exact keeps_syncEntry quarantineAllowRules now (hfresh e he)
  exact KeepsRejection.andThen (KeepsRejection.andThen (hentries db h)
    (keeps_deactivateUnseenBlockRules entries)) (keeps_deactivateUnseenAllowRules entries)

/-- A review of another rule. -/
theorem keeps_review (now : ℚ) {id' : Uuid} (hid : id' ≠ id) :
    KeepsRejection k id (confirmRule now id') ∧ KeepsRejection k id (rejectRule now id') := by
  have hother : ∀ {db : Db} {r : BlockRule}, db.HasRejected k id →
      (db.blockRules.find? fun r ↦ r.id = id') = some r → r.id ≠ id ∧ k.holds r = false := by
    intro db r h hfind
    have hrid : r.id = id' := by simpa using List.find?_some hfind
    refine ⟨hrid ▸ hid, ?_⟩
    rw [← Bool.not_eq_true]
    intro hk
    exact hid (hrid.symm.trans (h.id_of_holds (List.mem_of_find?_eq_some hfind) hk))
  refine ⟨fun db h ↦ ?_, fun db h ↦ ?_⟩
  · rw [confirmRule]
    split
    · rename_i r hr
      exact keeps_saveBlockRule h (hother h hr).1 (AutoKey.holds_of_source r.confirmed_source)
    · exact h
  · rw [rejectRule]
    split
    · rename_i r hr
      exact keeps_saveBlockRule h (hother h hr).1 (hother h hr).2
    · exact h

/-- An import that merges creates rows of its own source. -/
theorem keeps_importRules (dryRun : Bool) (now : ℚ) {blocks : List ImportBlockEntry}
    (allows : List ImportAllowEntry) (hfresh : ∀ e ∈ blocks, e.freshId ≠ id) :
    KeepsRejection k id (importRules true dryRun now blocks allows) := by
  have hblocks : ∀ (entries : List ImportBlockEntry) (keys : List Criterion),
      (∀ e ∈ entries, e.freshId ≠ id) →
        KeepsRejection k id (importBlockRules true now keys entries) := by
    intro entries
    induction entries with
    | nil => exact fun _ _ ↦ keeps_nothing
    | cons e entries ih =>
      intro keys hentries db h
      have hrest := fun e' he' ↦ hentries e' (List.mem_cons_of_mem e he')
      rw [importBlockRules]
      split
      · exact ih keys hrest db h
      · exact KeepsRejection.andThen (keeps_saveBlockRule h (hentries e List.mem_cons_self)
          (AutoKey.holds_of_source (by simp [ImportBlockEntry.toRow]))) (ih _ hrest)
  have hallows : ∀ (entries : List ImportAllowEntry) (keys : List Criterion),
      KeepsRejection k id (importAllowRules true keys entries) := by
    intro entries
    induction entries with
    | nil => exact fun _ ↦ keeps_nothing
    | cons e entries ih =>
      intro keys db h
      rw [importAllowRules]
      split
      · exact ih keys db h
      · exact KeepsRejection.andThen (keeps_saveAllowRule _ db h) (ih _)
  intro db h
  rw [importRules]
  split
  · exact h
  · exact KeepsRejection.andThen (KeepsRejection.andThen h (hblocks blocks _ hfresh)) (hallows _ _)

/-- Retention never reaches a rejected row. -/
theorem keeps_pruneStaleRules (enabled : Bool) (days : ℕ) (now : ℚ) :
    KeepsRejection k id (pruneStaleRules enabled days now) := by
  intro db h
  rw [pruneStaleRules]
  split
  · refine keeps_deleteBlockRules (fun r hstatus ↦ ?_) db h
    simp [BlockRule.stale, hstatus]
  · exact h

/-- Expiry deactivates what is active, and marks what is pending. -/
theorem keeps_expireRules (now : ℚ) {db : Db} (h : db.HasRejected k id) :
    (expireRules now db).HasRejected k id := by
  have hdeactivated : KeepsRejection k id
      (updateBlockRules (fun r ↦ r.expired now) fun r ↦ { r with isActive := false }) :=
    keeps_updateBlockRules (fun _ ↦ ⟨rfl, rfl⟩) fun r _ hstatus _ ↦ ⟨hstatus, rfl⟩
  have hmarked : KeepsRejection k id
      (updateBlockRules (fun r ↦ r.source = .auto && r.reviewStatus = .pending &&
        isExpired r.expiresAt now) fun r ↦ { r with reviewStatus := .expiredUnreviewed }) := by
    refine keeps_updateBlockRules (fun _ ↦ ⟨rfl, rfl⟩) fun r hp hstatus _ ↦ ?_
    simp [hstatus] at hp
  refine hmarked _ ?_
  exact (hdeactivated db h).congr rfl

/-! ### Writes of auto rules -/

theorem filter_deduplicate {a : AutoRuleWrite} (hne : a.key ≠ k) (rules : List BlockRule) :
    (a.deduplicate rules).filter k.holds = rules.filter k.holds := by
  rw [AutoRuleWrite.deduplicate]
  split
  · rw [List.filter_filter]
    refine List.filter_congr fun r _ ↦ ?_
    rcases hk : k.holds r with - | -
    · rfl
    · have hfinds : a.finds r = false := AutoKey.holds_of_ne (Ne.symm hne) hk
      simp [hfinds]
  · rfl

/-- Refreshing rows of another key leaves the rows of the key alone. -/
theorem filter_refreshAll_of_ne {a : AutoRuleWrite} (hne : a.key ≠ k) (rules : List BlockRule) :
    (a.refreshAll cf rules).filter k.holds = rules.filter k.holds := by
  induction rules with
  | nil => rfl
  | cons r rules ih =>
    rw [AutoRuleWrite.refreshAll, List.map_cons]
    by_cases hr : a.finds r = true
    · have hk : ¬k.holds r = true := by
        rw [AutoKey.holds_of_ne hne hr]
        exact Bool.false_ne_true
      have hk' : ¬k.holds (if a.finds r then a.refresh cf r else r) = true := by
        rw [if_pos hr]
        exact hk
      rw [List.filter_cons_of_neg hk', List.filter_cons_of_neg hk]
      exact ih
    · rw [if_neg hr]
      by_cases hk : k.holds r = true
      · rw [List.filter_cons_of_pos hk, List.filter_cons_of_pos hk]
        exact congrArg _ ih
      · rw [List.filter_cons_of_neg hk, List.filter_cons_of_neg hk]
        exact ih

/-- **Refreshed rows keep their primary keys and their auto keys.** -/
theorem owner_refreshAll (a : AutoRuleWrite) {rules : List BlockRule}
    (h : ∀ r ∈ rules, r.id = id → k.holds r = true) :
    ∀ r ∈ a.refreshAll cf rules, r.id = id → k.holds r = true := by
  intro r hr hid
  obtain ⟨r', hr', rfl⟩ := List.mem_map.1 hr
  split at hid
  · rename_i hfinds
    rw [if_pos hfinds]
    exact h r' hr' hid
  · rename_i hfinds
    rw [if_neg hfinds]
    exact h r' hr' hid

/-- **A write of an auto rule leaves the rejection in place**: on the rejected row by the review
guard, on any other because it is another row. -/
theorem hasRejected_getOrCreateAutoRule {env : Env} (hfresh : env.freshId ≠ id) (a : AutoRuleWrite)
    {w : World} (h : w.db.HasRejected k id) :
    (getOrCreateAutoRule cf env a w).2.db.HasRejected k id := by
  obtain ⟨r, hfilter, hid, hstatus, hactive⟩ := h.row
  by_cases hkey : a.key = k
  · have hfinds : w.db.blockRules.filter a.finds = [r] := by rw [a.finds_eq, hkey, hfilter]
    have hrules := blockRules_getOrCreateAutoRule cf env hfinds
    have hdecided : r.reviewStatus.decided = true := by
      rw [hstatus]
      rfl
    obtain ⟨hstatus', hactive'⟩ := refresh_of_decided cf (a := a) hdecided
    refine ⟨⟨a.refresh cf r, ?_, hid, hstatus'.trans hstatus, hactive'.trans hactive⟩, ?_⟩
    · rw [hrules, ← hkey, ← a.finds_eq, filter_refreshAll, hfinds, List.map_singleton]
    · rw [hrules]
      exact owner_refreshAll cf a h.owner
  · set rules' := if (w.db.blockRules.filter a.finds).length ≤ 1 then w.db.blockRules
      else a.deduplicate w.db.blockRules with hrules'
    have hfilter' : rules'.filter k.holds = [r] := by
      rw [hrules']
      split
      · exact hfilter
      · rw [filter_deduplicate hkey, hfilter]
    have howner' : ∀ r ∈ rules', r.id = id → k.holds r = true := by
      intro r' hr'
      rw [hrules'] at hr'
      split at hr'
      · exact h.owner r' hr'
      · exact h.owner r' (mem_deduplicate.1 hr')
    have htable := blockRules_getOrCreateAutoRule_eq cf env a w
    rw [← hrules', AutoRuleWrite.updateOrCreate] at htable
    split at htable
    · refine ⟨⟨r, ?_, hid, hstatus, hactive⟩, ?_⟩
      · rw [htable, filter_refreshAll_of_ne cf hkey, hfilter']
      · rw [htable]
        exact owner_refreshAll cf a howner'
    · have hnew : k.holds (a.create cf env.freshId env.now) = false :=
        AutoKey.holds_of_ne hkey (AutoKey.holds_iff.2 ⟨rfl, rfl⟩)
      refine ⟨⟨r, ?_, hid, hstatus, hactive⟩, fun r' hr' hid' ↦ ?_⟩
      · rw [htable, List.filter_append, hfilter', List.filter_singleton, hnew]
        rfl
      · rw [htable, List.mem_append, List.mem_singleton] at hr'
        rcases hr' with hr' | rfl
        · exact howner' r' hr' hid'
        · exact absurd hid' hfresh

/-! ### Runs -/

/-- The operations that go on by themselves while a rejection stands, with what the database gives
them: the primary keys they create are new. -/
def RuleOp.LeavesReview (id : Uuid) (env : Env) : RuleOp → Prop
  | .autoRule _ => env.freshId ≠ id
  | .expireRules => True
  | .signalled (.syncFeed _ entries) => ∀ e ∈ entries, e.freshId ≠ id
  | .signalled (.pruneStaleRules _) => True
  | .signalled (.importRules merge _ blocks _) =>
    merge = true ∧ ∀ e ∈ blocks, e.freshId ≠ id
  | .signalled (.confirm id') => id' ≠ id
  | .signalled (.reject id') => id' ≠ id
  | .signalled _ => False
  | .bulk _ => False

/-- One operation, at an instant of its own. -/
def OperationStep (w : World) (e : Env × RuleOp) (w' : World) : Prop := w' = e.2.apply cf e.1 w

/-- **One operation leaves the rejection in place.** -/
theorem hasRejected_step {w w' : World} {e : Env × RuleOp} (hop : e.2.LeavesReview id e.1)
    (h : w.db.HasRejected k id) (hstep : OperationStep cf w e w') : w'.db.HasRejected k id := by
  rw [hstep]
  rcases e with ⟨env, op⟩
  cases op with
  | autoRule a => exact hasRejected_getOrCreateAutoRule cf hop a h
  | expireRules =>
    rw [db_apply_expireRules]
    exact keeps_expireRules env.now h
  | bulk op => exact hop.elim
  | signalled op =>
    rw [RuleOp.apply, World.db_write]
    cases op with
    | syncFeed quarantineAllowRules entries => exact keeps_syncFeed _ env.now hop w.db h
    | confirm id' => exact (keeps_review env.now hop).1 w.db h
    | reject id' => exact (keeps_review env.now hop).2 w.db h
    | importRules merge dryRun blocks allows =>
      obtain ⟨rfl, hfresh⟩ := hop
      exact keeps_importRules dryRun env.now allows hfresh w.db h
    | pruneStaleRules days => exact keeps_pruneStaleRules _ days env.now w.db h
    | _ => exact hop.elim

/-- In a constrained table a rejected inactive auto row is the rejected row of its key. -/
theorem Db.Constrained.hasRejected {db : Db} (h : db.Constrained) {r : BlockRule}
    (hr : r ∈ db.blockRules) (hsource : r.source = .auto) (hstatus : r.reviewStatus = .rejected)
    (hactive : r.isActive = false) : db.HasRejected r.autoKey r.id := by
  have hmem : r ∈ db.blockRules.filter r.autoKey.holds :=
    List.mem_filter.2 ⟨hr, AutoKey.holds_iff.2 ⟨hsource, rfl⟩⟩
  refine ⟨⟨r, ?_, rfl, hstatus, hactive⟩, fun r' hr' hid ↦ ?_⟩
  · have hlen : (db.blockRules.filter r.autoKey.holds).length = 1 := by
      have hle := h.unique r.autoKey
      have hpos := List.length_pos_of_mem hmem
      omega
    obtain ⟨r₀, hr₀⟩ := List.length_eq_one_iff.1 hlen
    rw [hr₀, List.mem_singleton] at hmem
    rw [hr₀, hmem]
  · rw [h.primary r' hr' r hr hid]
    exact AutoKey.holds_iff.2 ⟨hsource, rfl⟩

/-- **A rejection is durable.** From any constrained table, through any finite sequence of detector
and escalation writes, feed syncs, expiry and retention sweeps, merging imports and reviews of other
rules, at any instants: a rejected inactive auto row is still there, rejected and inactive, and it
is the only auto row of its key. -/
theorem rejection_durable {w w' : World} (hdb : w.db.Constrained) {r : BlockRule}
    (hr : r ∈ w.db.blockRules) (hsource : r.source = .auto) (hstatus : r.reviewStatus = .rejected)
    (hactive : r.isActive = false) {ops : List (Env × RuleOp)}
    (hops : ∀ e ∈ ops, e.2.LeavesReview r.id e.1) (hrun : Run (OperationStep cf) w ops w') :
    ∃ r' ∈ w'.db.blockRules, r'.id = r.id ∧ r'.source = .auto ∧ r'.autoKey = r.autoKey ∧
      r'.reviewStatus = .rejected ∧ r'.isActive = false ∧
      ∀ r'' ∈ w'.db.blockRules, r''.source = .auto → r''.autoKey = r.autoKey → r'' = r' := by
  have hinv : (∀ e ∈ ops, e.2.LeavesReview r.id e.1) → w'.db.HasRejected r.autoKey r.id := by
    refine Run.invariant (P := fun ops w' ↦ (∀ e ∈ ops, e.2.LeavesReview r.id e.1) →
      w'.db.HasRejected r.autoKey r.id) (fun _ ↦ hdb.hasRejected hr hsource hstatus hactive) ?_ hrun
    intro es t u e _ ih hstep hes
    exact hasRejected_step cf (hes e (by simp))
      (ih fun e' he' ↦ hes e' (List.mem_append_left _ he')) hstep
  obtain ⟨r', hfilter, hid, hstatus', hactive'⟩ := (hinv hops).row
  have hmem : ∀ r'', r'' ∈ w'.db.blockRules ∧ r.autoKey.holds r'' = true ↔ r'' = r' := by
    intro r''
    rw [← List.mem_filter, hfilter, List.mem_singleton]
  obtain ⟨hr', hkey⟩ := (hmem r').2 rfl
  obtain ⟨hsource', hkey'⟩ := AutoKey.holds_iff.1 hkey
  exact ⟨r', hr', hid, hsource', hkey', hstatus', hactive', fun r'' hr'' hs hk ↦
    (hmem r'').1 ⟨hr'', AutoKey.holds_iff.2 ⟨hs, hk⟩⟩⟩

/-! #### One rejected row -/

theorem constrained_rejectedDb : rejectedDb.Constrained where
  primary := by decide
  unique k := by
    have hsource : challengeRule.source ≠ .auto := by decide
    have hadmin : ¬k.holds challengeRule = true := by
      rw [AutoKey.holds_of_source hsource]
      exact Bool.false_ne_true
    show (([challengeRule, rejectedRow] : List BlockRule).filter k.holds).length ≤ 1
    rw [List.filter_cons_of_neg hadmin]
    exact List.length_filter_le k.holds [rejectedRow]

/-- The address escalates again, its rule runs out, the sweeps pass over it, and an operator
confirms another rule: the rejection stands. -/
theorem rejection_durable_escalated : ∃ w', Run (OperationStep twoChallenges)
      (World.start rejectedDb)
      [(Env.plain 10, .autoRule (escalationWrite twoChallenges (Env.plain 10) "192.0.2.1")),
        (Env.plain 7200, .expireRules), (Env.plain 7300, .signalled (.pruneStaleRules 0)),
        (Env.plain 7400, .signalled (.confirm 7))] w' ∧
    ∃ r' ∈ w'.db.blockRules, r'.id = 8 ∧ r'.reviewStatus = .rejected ∧ r'.isActive = false := by
  have hrun : ∃ w', Run (OperationStep twoChallenges) (World.start rejectedDb)
      ([] ++ [(Env.plain 10, .autoRule (escalationWrite twoChallenges (Env.plain 10) "192.0.2.1"))]
        ++ [(Env.plain 7200, .expireRules)] ++ [(Env.plain 7300, .signalled (.pruneStaleRules 0))]
        ++ [(Env.plain 7400, .signalled (.confirm 7))]) w' :=
    ⟨_, .snoc (.snoc (.snoc (.snoc .nil rfl) rfl) rfl) rfl⟩
  obtain ⟨w', hrun⟩ := hrun
  obtain ⟨r', hr', hid, -, -, hstatus, hactive, -⟩ :=
    rejection_durable twoChallenges constrained_rejectedDb (r := rejectedRow) (by decide) rfl rfl
      rfl (by simp [RuleOp.LeavesReview, Env.plain, rejectedRow]) hrun
  exact ⟨w', hrun, r', hr', hid, hstatus, hactive⟩

end DjangoWaf
