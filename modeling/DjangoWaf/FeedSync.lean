import DjangoWaf.FeedRuns

/-!
# A feed sync is exact, and idempotent where the database has no choice

After a sync of a feed whose entries all pass, the active feed block rows have the keys of the
accepted block entries and no others, every active feed allow row has the key of an accepted allow
entry, no allow row became active while quarantine is on, and the rows of other sources are as they
were (`ExactSync`). Neither table depends on the other, nor on the entries of the other kind
(`TablesApart`).

**A second sync** at the same instant may change both tables: of several feed rows that come first
of their key, the first sync may write one and the second another. It leaves the tables as they are
and creates and expires nothing, whichever rows the database answers, exactly when no accepted entry
finds such a choice, or says of each of the rows what is there (`Untied`).

What makes a second sync idle is not that its writes are: two entries of one key overwrite each
other in every sync. After the first, the row of a key holds what the entries of the key leave of
any row, and they leave the same again.
-/

namespace DjangoWaf

namespace ThreatFeed

variable {rt : FeedRuntime} {sync : Sync}

/-! ### What is active afterwards -/

theorem closed_eq_false {as : List Accepted} {source : RuleSource} {c : Criterion} {a : Accepted}
    (isActive : Bool) (ha : a ∈ as) (h : feedKey source c = some a.key) :
    closed as source isActive c = false := by
  have hany : (as.any fun a' ↦ decide (a'.key = a.key)) = true :=
    List.any_eq_true.2 ⟨a, ha, decide_eq_true rfl⟩
  rw [closed, h, Option.any_some, hany, Bool.not_true, Bool.and_false]

/-- What is active and not closed has the key of an entry. -/
theorem exists_of_closed_eq_false {as : List Accepted} {source : RuleSource} {c : Criterion}
    {k : RuleType × String} (hkey : feedKey source c = some k)
    (h : closed as source true c = false) : ∃ a ∈ as, a.key = k := by
  rw [closed, hkey, Option.any_some, Bool.true_and, Bool.not_eq_false'] at h
  obtain ⟨a, ha, hk⟩ := List.any_eq_true.1 h
  exact ⟨a, ha, of_decide_eq_true hk⟩

theorem closed_inactive (as : List Accepted) (source : RuleSource) (c : Criterion) :
    closed as source false c = false := rfl

theorem closed_foreign (as : List Accepted) {source : RuleSource} (isActive : Bool) {c : Criterion}
    (h : feedKey source c = none) : closed as source isActive c = false := by
  rw [closed, h, Option.any_none, Bool.and_false]

variable (rt sync) in
theorem alike_closeBlock (as : List Accepted) (r : BlockRule) :
    (blockKind rt sync).Alike r (closeBlock as r) := by
  rw [closeBlock]
  split
  · exact ⟨rfl, rfl, fun _ ↦ Iff.rfl, fun _ ↦ Iff.rfl⟩
  · exact .refl r

variable (rt sync) in
theorem alike_closeAllow (as : List Accepted) (r : AllowRule) :
    (allowKind rt sync).Alike r (closeAllow as r) := by
  rw [closeAllow]
  split
  · exact ⟨rfl, rfl, fun _ ↦ Iff.rfl, fun _ ↦ Iff.rfl⟩
  · exact .refl r

/-- A row that is active when the entries are over was not closed. -/
theorem of_active_closeBlock {as : List Accepted} {r : BlockRule}
    (h : (closeBlock as r).isActive = true) :
    closeBlock as r = r ∧ closed as r.source true r.toCriterion = false := by
  rw [closeBlock] at h ⊢
  split at h
  · cases h
  · rename_i hclosed
    rw [h, Bool.not_eq_true] at hclosed
    exact ⟨if_neg (by rw [h, hclosed]; exact Bool.false_ne_true), hclosed⟩

theorem of_active_closeAllow {as : List Accepted} {r : AllowRule}
    (h : (closeAllow as r).isActive = true) :
    closeAllow as r = r ∧ closed as r.source true r.toCriterion = false := by
  rw [closeAllow] at h ⊢
  split at h
  · cases h
  · rename_i hclosed
    rw [h, Bool.not_eq_true] at hclosed
    exact ⟨if_neg (by rw [h, hclosed]; exact Bool.false_ne_true), hclosed⟩

/-- **The active feed block rows have the keys of the accepted block entries**, no more and no
less. -/
theorem active_syncBlocks_iff {as : List Accepted} {t : KeyedTable BlockRule Uuid FeedStats}
    {k : RuleType × String} :
    (∃ r ∈ (syncBlocks rt sync as t).rows, feedKey r.source r.toCriterion = some k ∧
      r.isActive = true) ↔ ∃ a ∈ as, a.key = k := by
  constructor
  · rintro ⟨r, hr, hkey, hactive⟩
    obtain ⟨r, hr, rfl⟩ := List.mem_map.1 hr
    obtain ⟨heq, hclosed⟩ := of_active_closeBlock hactive
    rw [heq] at hkey
    exact exists_of_closed_eq_false hkey hclosed
  · rintro ⟨a, ha, rfl⟩
    have hrow : ∃ r ∈ ((blockKind rt sync).run (sync.tie .block) as t).rows,
        feedKey r.source r.toCriterion = some a.key ∧ r.isActive = true :=
      RowKind.exists_mem_run (p := fun r : BlockRule ↦ r.isActive = true) (blockKind_lawful rt sync)
        (fun _ _ ↦ rfl) (fun _ _ ↦ rfl) t a ha
    obtain ⟨r, hr, hkey, hactive⟩ := hrow
    have hclose : closeBlock as r = r := by
      rw [closeBlock, closed_eq_false _ ha hkey]
      rfl
    exact ⟨r, List.mem_map.2 ⟨r, hr, hclose⟩, hkey, hactive⟩

/-- An active feed allow row has the key of an accepted allow entry. -/
theorem exists_of_active_syncAllows {as : List Accepted} {t : KeyedTable AllowRule Uuid FeedStats}
    {r : AllowRule} {k : RuleType × String} (hr : r ∈ (syncAllows rt sync as t).rows)
    (hkey : feedKey r.source r.toCriterion = some k) (hactive : r.isActive = true) :
    ∃ a ∈ as, a.key = k := by
  obtain ⟨r, hr, rfl⟩ := List.mem_map.1 hr
  obtain ⟨heq, hclosed⟩ := of_active_closeAllow hactive
  rw [heq] at hkey
  exact exists_of_closed_eq_false hkey hclosed

/-- With quarantine on, an allow row that is active afterwards was active before. -/
theorem active_of_quarantine {as : List Accepted} {t : KeyedTable AllowRule Uuid FeedStats}
    (hquarantine : sync.quarantineAllowRules = true) {r : AllowRule}
    (hr : r ∈ (syncAllows rt sync as t).rows) (hactive : r.isActive = true) :
    ∃ r' ∈ t.rows, r'.id = r.id ∧ r'.isActive = true := by
  have hrun : ∀ r ∈ ((allowKind rt sync).run (sync.tie .allow) as t).rows, r.isActive = true →
      ∃ r' ∈ t.rows, r'.id = r.id ∧ r'.isActive = true := by
    refine RowKind.forall_mem_run (fun a _ s hs hactive ↦ hs ?_) (fun a _ i hactive ↦ ?_)
      fun r hr hactive ↦ ⟨r, hr, rfl, hactive⟩
    · simpa [allowKind, hquarantine] using hactive
    · simp [allowKind, FeedEntry.toAllowRule, hquarantine] at hactive
  obtain ⟨s, hs, rfl⟩ := List.mem_map.1 hr
  obtain ⟨heq, -⟩ := of_active_closeAllow hactive
  rw [heq] at hactive ⊢
  exact hrun s hs hactive

/-! ### What stays -/

/-- Closing rows changes none of another source. -/
theorem filter_foreign_map {ρ : Type*} {key : ρ → Option (RuleType × String)} {g : ρ → ρ}
    (hkey : ∀ r, key (g r) = key r) (hg : ∀ r, key r = none → g r = r) (rows : List ρ) :
    ((rows.map g).filter fun r ↦ (key r).isNone) = rows.filter fun r ↦ (key r).isNone := by
  rw [List.filter_map]
  have hcongr : rows.filter ((fun r ↦ (key r).isNone) ∘ g) = rows.filter fun r ↦ (key r).isNone :=
    List.filter_congr fun r _ ↦ congrArg Option.isNone (hkey r)
  rw [hcongr]
  refine (List.map_congr_left fun r hr ↦ ?_).trans (List.map_id _)
  exact hg r (Option.isNone_iff_eq_none.1 (List.mem_filter.1 hr).2)

theorem closeBlock_foreign (as : List Accepted) (r : BlockRule)
    (h : feedKey r.source r.toCriterion = none) : closeBlock as r = r := by
  rw [closeBlock, closed_foreign as _ h]
  rfl

theorem closeAllow_foreign (as : List Accepted) (r : AllowRule)
    (h : feedKey r.source r.toCriterion = none) : closeAllow as r = r := by
  rw [closeAllow, closed_foreign as _ h]
  rfl

theorem foreign_syncBlocks (as : List Accepted) {t : KeyedTable BlockRule Uuid FeedStats}
    (hkeyed : (blockKind rt sync).Keyed t.rows) :
    ((syncBlocks rt sync as t).rows.filter fun r ↦ (feedKey r.source r.toCriterion).isNone) =
        (t.rows.filter fun r ↦ (feedKey r.source r.toCriterion).isNone) ∧
      ∀ r ∈ t.rows, feedKey r.source r.toCriterion = none →
        (syncBlocks rt sync as t).aside r.id = t.aside r.id := by
  obtain ⟨hrows, haside⟩ := RowKind.foreign_run (blockKind_lawful rt sync) hkeyed as
  refine ⟨?_, haside⟩
  refine Eq.trans ?_ hrows
  exact filter_foreign_map (fun r ↦ (alike_closeBlock rt sync as r).key) (closeBlock_foreign as) _

theorem foreign_syncAllows (as : List Accepted) {t : KeyedTable AllowRule Uuid FeedStats}
    (hkeyed : (allowKind rt sync).Keyed t.rows) :
    ((syncAllows rt sync as t).rows.filter fun r ↦ (feedKey r.source r.toCriterion).isNone) =
        (t.rows.filter fun r ↦ (feedKey r.source r.toCriterion).isNone) ∧
      ∀ r ∈ t.rows, feedKey r.source r.toCriterion = none →
        (syncAllows rt sync as t).aside r.id = t.aside r.id := by
  obtain ⟨hrows, haside⟩ := RowKind.foreign_run (allowKind_lawful rt sync) hkeyed as
  refine ⟨?_, haside⟩
  refine Eq.trans ?_ hrows
  exact filter_foreign_map (fun r ↦ (alike_closeAllow rt sync as r).key) (closeAllow_foreign as) _

/-! ### A second sync -/

/-- A row that was closed is not closed again. -/
theorem closed_closeBlock (as : List Accepted) (r : BlockRule) :
    closed as (closeBlock as r).source (closeBlock as r).isActive (closeBlock as r).toCriterion =
      false := by
  rw [closeBlock]
  split
  · exact closed_inactive ..
  · rename_i h
    exact Bool.not_eq_true _ ▸ h

theorem closed_closeAllow (as : List Accepted) (r : AllowRule) :
    closed as (closeAllow as r).source (closeAllow as r).isActive (closeAllow as r).toCriterion =
      false := by
  rw [closeAllow]
  split
  · exact closed_inactive ..
  · rename_i h
    exact Bool.not_eq_true _ ▸ h

variable (rt sync) in
/-- The sweep after the block entries spares their rows. -/
theorem follows_closeBlock (as : List Accepted) :
    (blockKind rt sync).Follows (closeBlock as) as where
  alike := alike_closeBlock rt sync as
  spares a ha r hkey := by
    rw [closeBlock, closed_eq_false _ ha hkey]
    rfl
  idem r := by
    rw [closeBlock, closed_closeBlock]
    rfl

variable (rt sync) in
/-- The sweep after the allow entries spares their rows. -/
theorem follows_closeAllow (as : List Accepted) :
    (allowKind rt sync).Follows (closeAllow as) as where
  alike := alike_closeAllow rt sync as
  spares a ha r hkey := by
    rw [closeAllow, closed_eq_false _ ha hkey]
    rfl
  idem r := by
    rw [closeAllow, closed_closeAllow]
    rfl

theorem countP_closed_syncBlocks (as : List Accepted) (t : KeyedTable BlockRule Uuid FeedStats) :
    ((syncBlocks rt sync as t).rows.countP fun r ↦
      closed as r.source r.isActive r.toCriterion) = 0 := by
  rw [List.countP_eq_zero]
  intro r hr
  obtain ⟨s, -, rfl⟩ := List.mem_map.1 hr
  rw [closed_closeBlock]
  exact Bool.false_ne_true

theorem countP_closed_syncAllows (as : List Accepted) (t : KeyedTable AllowRule Uuid FeedStats) :
    ((syncAllows rt sync as t).rows.countP fun r ↦
      closed as r.source r.isActive r.toCriterion) = 0 := by
  rw [List.countP_eq_zero]
  intro r hr
  obtain ⟨s, -, rfl⟩ := List.mem_map.1 hr
  rw [closed_closeAllow]
  exact Bool.false_ne_true

/-- Two tables each make both. -/
theorem FeedTables.ext_tables {t t' : FeedTables} (hblocks : t.blocks = t'.blocks)
    (hallows : t.allows = t'.allows) : t = t' := by
  obtain ⟨⟨b, a⟩, x, y⟩ := t
  obtain ⟨⟨b', a'⟩, x', y'⟩ := t'
  cases hblocks
  cases hallows
  rfl

/-- Where several feed rows of an accepted entry's key come first in their table, the entry says of
each of them, and of its statistics, what is there already. -/
structure Untied (rt : FeedRuntime) (sync : Sync) (entries : List Json) (t : FeedTables) :
    Prop where
  blocks : (blockKind rt sync).Steady (accepted rt sync .block entries) t.blocks
  allows : (allowKind rt sync).Steady (accepted rt sync .allow entries) t.allows

/-- A second sync of a feed leaves the tables as they are, creates nothing and expires nothing,
however the database breaks the ties of both. -/
def Idempotent (rt : FeedRuntime) (sync : Sync) (document : Json) (t : FeedTables) : Prop :=
  ∀ tie tie', ∃ updated skipped,
    syncFeed rt (sync.withTie tie') document (syncFeed rt (sync.withTie tie) document t).1 =
      ((syncFeed rt (sync.withTie tie) document t).1, .ok ⟨0, updated, 0, skipped⟩)

theorem keyed_syncFeed {document : Json} {entries : List Json} {t : FeedTables} (hkeyed : Keyed t)
    (hread : rt.reads document = true) (hentries : HasEntries document entries)
    (hpass : ∀ e ∈ entries, Passes rt sync e) : Keyed (syncFeed rt sync document t).1 := by
  obtain ⟨hblocks, hallows⟩ := tables_syncFeed hkeyed hread hentries hpass
  refine ⟨?_, ?_⟩
  · have h : (blockKind rt sync).Keyed
        (syncBlocks rt sync (accepted rt sync .block entries) t.blocks).rows :=
      (follows_closeBlock rt sync _).keyed (blockKind_lawful rt sync) (hkeyed.blocks_rows rt sync)
    rw [← hblocks] at h
    exact h
  · have h : (allowKind rt sync).Keyed
        (syncAllows rt sync (accepted rt sync .allow entries) t.allows).rows :=
      (follows_closeAllow rt sync _).keyed (allowKind_lawful rt sync) (hkeyed.allows_rows rt sync)
    rw [← hallows] at h
    exact h

/-- After a sync every accepted entry has a row. -/
theorem found_syncFeed {document : Json} {entries : List Json} {t : FeedTables} (hkeyed : Keyed t)
    (hread : rt.reads document = true) (hentries : HasEntries document entries)
    (hpass : ∀ e ∈ entries, Passes rt sync e) :
    Found rt sync entries (syncFeed rt sync document t).1 := by
  obtain ⟨hblocks, hallows⟩ := tables_syncFeed hkeyed hread hentries hpass
  refine ⟨fun a ha ↦ ?_, fun a ha ↦ ?_⟩
  · have hrow : ∃ r ∈ ((blockKind rt sync).run (sync.tie .block) (accepted rt sync .block entries)
        t.blocks).rows, (blockKind rt sync).key r = some a.key ∧ True :=
      RowKind.exists_mem_run (blockKind_lawful rt sync) (fun _ _ ↦ trivial) (fun _ _ ↦ trivial)
        t.blocks a ha
    obtain ⟨r, hr, hkey, -⟩ := hrow
    rw [hblocks]
    exact ⟨closeBlock _ r, List.mem_map_of_mem hr,
      (alike_closeBlock rt sync _ r).key.trans hkey⟩
  · have hrow : ∃ r ∈ ((allowKind rt sync).run (sync.tie .allow) (accepted rt sync .allow entries)
        t.allows).rows, (allowKind rt sync).key r = some a.key ∧ True :=
      RowKind.exists_mem_run (allowKind_lawful rt sync) (fun _ _ ↦ trivial) (fun _ _ ↦ trivial)
        t.allows a ha
    obtain ⟨r, hr, hkey, -⟩ := hrow
    rw [hallows]
    exact ⟨closeAllow _ r, List.mem_map_of_mem hr,
      (alike_closeAllow rt sync _ r).key.trans hkey⟩

/-- **A second sync** leaves the tables as they are, creates nothing and closes nothing, where the
database has no choice. -/
theorem syncFeed_again {document : Json} {entries : List Json} {t : FeedTables} (hkeyed : Keyed t)
    (hread : rt.reads document = true) (hentries : HasEntries document entries)
    (hpass : ∀ e ∈ entries, Passes rt sync e) (h : Untied rt sync entries t)
    (tie : FeedKind → ℕ → Uuid → ℕ) :
    ∃ updated skipped, syncFeed rt (sync.withTie tie) document (syncFeed rt sync document t).1 =
      ((syncFeed rt sync document t).1, .ok ⟨0, updated, 0, skipped⟩) := by
  have hpass' : ∀ e ∈ entries, Passes rt (sync.withTie tie) e := hpass
  have hkeyed' : Keyed (syncFeed rt sync document t).1 :=
    keyed_syncFeed hkeyed hread hentries hpass
  have hfound : Found rt (sync.withTie tie) entries (syncFeed rt sync document t).1 :=
    ⟨(found_syncFeed hkeyed hread hentries hpass).blocks,
      (found_syncFeed hkeyed hread hentries hpass).allows⟩
  have hcreated : (syncEntries rt (sync.withTie tie) entries
      (.start (syncFeed rt sync document t).1)).1.created = 0 := created_syncEntries hkeyed' hfound
  obtain ⟨hblocks, hallows⟩ := tables_syncFeed hkeyed hread hentries hpass
  obtain ⟨hblocks', hallows'⟩ := tables_syncFeed hkeyed' hread hentries hpass'
  have hresult := result_syncFeed hkeyed' hread hentries hpass'
  have hblocks₀ : (((blockKind rt (sync.withTie tie)).run ((sync.withTie tie).tie .block)
      (accepted rt (sync.withTie tie) .block entries)
      (syncBlocks rt sync (accepted rt sync .block entries) t.blocks)).rows.countP fun r ↦
        closed (accepted rt (sync.withTie tie) .block entries) r.source r.isActive r.toCriterion) =
      0 := by
    have hrun := h.blocks.run_runThen (blockKind_lawful rt sync) (blockKind_overwrites rt sync)
      (hkeyed.blocks_rows rt sync) (follows_closeBlock rt sync _) (sync.tie .block) (tie .block)
    refine Eq.trans (congrArg _ (congrArg KeyedTable.rows hrun)) ?_
    exact countP_closed_syncBlocks ..
  have hallows₀ : (((allowKind rt (sync.withTie tie)).run ((sync.withTie tie).tie .allow)
      (accepted rt (sync.withTie tie) .allow entries)
      (syncAllows rt sync (accepted rt sync .allow entries) t.allows)).rows.countP fun r ↦
        closed (accepted rt (sync.withTie tie) .allow entries) r.source r.isActive r.toCriterion) =
      0 := by
    have hrun := h.allows.run_runThen (allowKind_lawful rt sync) (allowKind_overwrites rt sync)
      (hkeyed.allows_rows rt sync) (follows_closeAllow rt sync _) (sync.tie .allow) (tie .allow)
    refine Eq.trans (congrArg _ (congrArg KeyedTable.rows hrun)) ?_
    exact countP_closed_syncAllows ..
  rw [hcreated, hblocks, hallows, hblocks₀, hallows₀] at hresult
  rw [hblocks] at hblocks'
  rw [hallows] at hallows'
  refine ⟨_, _, Prod.ext (FeedTables.ext_tables ?_ ?_) hresult⟩
  · refine hblocks'.trans (Eq.trans ?_ hblocks.symm)
    exact (RowKind.runThen_runThen_iff (blockKind_lawful rt sync) (blockKind_overwrites rt sync)
      (hkeyed.blocks_rows rt sync) (follows_closeBlock rt sync _)).2 h.blocks _ _
  · refine hallows'.trans (Eq.trans ?_ hallows.symm)
    exact (RowKind.runThen_runThen_iff (allowKind_lawful rt sync) (allowKind_overwrites rt sync)
      (hkeyed.allows_rows rt sync) (follows_closeAllow rt sync _)).2 h.allows _ _

/-- **Where the database has a choice that shows, it may take another one the second time.** -/
theorem Idempotent.untied {document : Json} {entries : List Json} {t : FeedTables}
    (h : Idempotent rt sync document t) (hkeyed : Keyed t) (hread : rt.reads document = true)
    (hentries : HasEntries document entries) (hpass : ∀ e ∈ entries, Passes rt sync e) :
    Untied rt sync entries t := by
  have htwice : ∀ ties ties' : ℕ → Uuid → ℕ,
      syncBlocks rt (sync.withTie fun _ ↦ ties') (accepted rt sync .block entries)
          (syncBlocks rt (sync.withTie fun _ ↦ ties) (accepted rt sync .block entries) t.blocks) =
        syncBlocks rt (sync.withTie fun _ ↦ ties) (accepted rt sync .block entries) t.blocks ∧
      syncAllows rt (sync.withTie fun _ ↦ ties') (accepted rt sync .allow entries)
          (syncAllows rt (sync.withTie fun _ ↦ ties) (accepted rt sync .allow entries) t.allows) =
        syncAllows rt (sync.withTie fun _ ↦ ties) (accepted rt sync .allow entries) t.allows := by
    intro ties ties'
    have hpass₁ : ∀ e ∈ entries, Passes rt (sync.withTie fun _ ↦ ties) e := hpass
    have hpass₂ : ∀ e ∈ entries, Passes rt (sync.withTie fun _ ↦ ties') e := hpass
    obtain ⟨updated, skipped, hsame⟩ := h (fun _ ↦ ties) fun _ ↦ ties'
    obtain ⟨hblocks, hallows⟩ := tables_syncFeed hkeyed hread hentries hpass₁
    obtain ⟨hblocks', hallows'⟩ := tables_syncFeed
      (keyed_syncFeed hkeyed hread hentries hpass₁) hread hentries hpass₂
    rw [hsame, hblocks] at hblocks'
    rw [hsame, hallows] at hallows'
    exact ⟨hblocks'.symm, hallows'.symm⟩
  refine ⟨?_, ?_⟩
  · refine (RowKind.runThen_runThen_iff (blockKind_lawful rt sync) (blockKind_overwrites rt sync)
      (hkeyed.blocks_rows rt sync) (follows_closeBlock rt sync _)).1 fun ties ties' ↦ ?_
    exact (htwice ties ties').1
  · refine (RowKind.runThen_runThen_iff (allowKind_lawful rt sync) (allowKind_overwrites rt sync)
      (hkeyed.allows_rows rt sync) (follows_closeAllow rt sync _)).1 fun ties ties' ↦ ?_
    exact (htwice ties ties').2

/-! ### Exact -/

/-- What a sync leaves, compared with what was there. -/
structure ExactSync (rt : FeedRuntime) (sync : Sync) (entries : List Json)
    (before after : FeedTables) : Prop where
  /-- The keys of the active feed block rows are those of the accepted block entries. -/
  blockKeys : ∀ k, (∃ r ∈ after.db.blockRules, r.source = .feed ∧ r.isActive = true ∧
    (r.ruleType, r.pattern) = k) ↔ ∃ a ∈ accepted rt sync .block entries, a.key = k
  /-- An active feed allow row has the key of an accepted allow entry. -/
  allowKeys : ∀ r ∈ after.db.allowRules, r.source = .feed → r.isActive = true →
    ∃ a ∈ accepted rt sync .allow entries, a.key = (r.ruleType, r.pattern)
  /-- With quarantine on, no allow row becomes active. -/
  quarantine : sync.quarantineAllowRules = true → ∀ r ∈ after.db.allowRules, r.isActive = true →
    ∃ r' ∈ before.db.allowRules, r'.id = r.id ∧ r'.isActive = true
  /-- Block rows of other sources are as they were. -/
  otherBlocks : (after.db.blockRules.filter fun r ↦ r.source ≠ .feed) =
      (before.db.blockRules.filter fun r ↦ r.source ≠ .feed) ∧
    ∀ r ∈ before.db.blockRules, r.source ≠ .feed → after.blockStats r.id = before.blockStats r.id
  /-- Allow rows of other sources are as they were. -/
  otherAllows : (after.db.allowRules.filter fun r ↦ r.source ≠ .feed) =
      (before.db.allowRules.filter fun r ↦ r.source ≠ .feed) ∧
    ∀ r ∈ before.db.allowRules, r.source ≠ .feed → after.allowStats r.id = before.allowStats r.id

/-- Each table is left as its own rows and the accepted entries of its own kind say, whatever is in
the other table and in the rest of the feed. -/
structure TablesApart (rt : FeedRuntime) (sync : Sync) (entries : List Json)
    (before after : FeedTables) : Prop where
  blocks : ∀ document' entries' before', Keyed before' → rt.reads document' = true →
    HasEntries document' entries' → (∀ e ∈ entries', Passes rt sync e) →
    accepted rt sync .block entries' = accepted rt sync .block entries →
    before'.blocks = before.blocks → (syncFeed rt sync document' before').1.blocks = after.blocks
  allows : ∀ document' entries' before', Keyed before' → rt.reads document' = true →
    HasEntries document' entries' → (∀ e ∈ entries', Passes rt sync e) →
    accepted rt sync .allow entries' = accepted rt sync .allow entries →
    before'.allows = before.allows → (syncFeed rt sync document' before').1.allows = after.allows

theorem feedKey_eq_none_iff {source : RuleSource} {c : Criterion} :
    feedKey source c = none ↔ source ≠ .feed := by
  simp [feedKey]

theorem feedKey_eq_some_iff {source : RuleSource} {c : Criterion} {k : RuleType × String} :
    feedKey source c = some k ↔ source = .feed ∧ (c.ruleType, c.pattern) = k := by
  simp [feedKey]

theorem isNone_feedKey (source : RuleSource) (c : Criterion) :
    (feedKey source c).isNone = decide (source ≠ .feed) := by
  rw [Bool.eq_iff_iff, Option.isNone_iff_eq_none, feedKey_eq_none_iff, decide_eq_true_eq]

theorem exactSync_syncFeed {document : Json} {entries : List Json} {t : FeedTables}
    (hkeyed : Keyed t) (hread : rt.reads document = true) (hentries : HasEntries document entries)
    (hpass : ∀ e ∈ entries, Passes rt sync e) :
    ExactSync rt sync entries t (syncFeed rt sync document t).1 := by
  obtain ⟨hblocks, hallows⟩ := tables_syncFeed hkeyed hread hentries hpass
  have hblockRows := congrArg KeyedTable.rows hblocks
  have hblockAside := congrArg KeyedTable.aside hblocks
  have hallowRows := congrArg KeyedTable.rows hallows
  have hallowAside := congrArg KeyedTable.aside hallows
  obtain ⟨hforeignBlocks, hforeignBlockStats⟩ :=
    foreign_syncBlocks (accepted rt sync .block entries) (hkeyed.blocks_rows rt sync)
  obtain ⟨hforeignAllows, hforeignAllowStats⟩ :=
    foreign_syncAllows (accepted rt sync .allow entries) (hkeyed.allows_rows rt sync)
  rw [← hblockRows] at hforeignBlocks
  rw [← hallowRows] at hforeignAllows
  simp only [isNone_feedKey] at hforeignBlocks hforeignAllows
  refine ⟨fun k ↦ ?_, fun r hr hsource hactive ↦ ?_, fun hquarantine r hr hactive ↦ ?_,
    ⟨hforeignBlocks, fun r hr hsource ↦ ?_⟩, ⟨hforeignAllows, fun r hr hsource ↦ ?_⟩⟩
  · have hactive : (∃ r ∈ (syncBlocks rt sync (accepted rt sync .block entries) t.blocks).rows,
        feedKey r.source r.toCriterion = some k ∧ r.isActive = true) ↔
          ∃ a ∈ accepted rt sync .block entries, a.key = k := active_syncBlocks_iff
    rw [← hactive, ← hblockRows]
    refine exists_congr fun r ↦ and_congr Iff.rfl ?_
    rw [feedKey_eq_some_iff, and_assoc, and_comm (a := r.isActive = true)]
  · have hmem : r ∈ (syncAllows rt sync (accepted rt sync .allow entries) t.allows).rows :=
      hallowRows ▸ hr
    exact exists_of_active_syncAllows hmem (feedKey_eq_some_iff.2 ⟨hsource, rfl⟩) hactive
  · have hmem : r ∈ (syncAllows rt sync (accepted rt sync .allow entries) t.allows).rows :=
      hallowRows ▸ hr
    exact active_of_quarantine hquarantine hmem hactive
  · refine (congrFun hblockAside r.id).trans ?_
    exact hforeignBlockStats r hr (feedKey_eq_none_iff.2 hsource)
  · refine (congrFun hallowAside r.id).trans ?_
    exact hforeignAllowStats r hr (feedKey_eq_none_iff.2 hsource)

theorem tablesApart_syncFeed {document : Json} {entries : List Json} {t : FeedTables}
    (hkeyed : Keyed t) (hread : rt.reads document = true) (hentries : HasEntries document entries)
    (hpass : ∀ e ∈ entries, Passes rt sync e) :
    TablesApart rt sync entries t (syncFeed rt sync document t).1 := by
  obtain ⟨hblocks, hallows⟩ := tables_syncFeed hkeyed hread hentries hpass
  refine ⟨fun document' entries' t' hkeyed' hread' hentries' hpass' haccepted ht ↦ ?_,
    fun document' entries' t' hkeyed' hread' hentries' hpass' haccepted ht ↦ ?_⟩
  · rw [(tables_syncFeed hkeyed' hread' hentries' hpass').1, hblocks, haccepted, ht]
  · rw [(tables_syncFeed hkeyed' hread' hentries' hpass').2, hallows, haccepted, ht]

/-- **A feed sync is exact**: it returns and leaves what `ExactSync` says, each table apart from the
other, however the database breaks ties. **It is idempotent exactly when the database has no choice
that shows.** -/
theorem feed_sync_exact_and_idempotent_iff (rt : FeedRuntime) (sync : Sync) {document : Json}
    {entries : List Json} {tables : FeedTables} (hkeyed : Keyed tables)
    (hread : rt.reads document = true) (hentries : HasEntries document entries)
    (hpass : ∀ e ∈ entries, Passes rt sync e) :
    (∀ tie,
      (∃ result, (syncFeed rt (sync.withTie tie) document tables).2 = .ok result) ∧
        ExactSync rt (sync.withTie tie) entries tables
          (syncFeed rt (sync.withTie tie) document tables).1 ∧
        TablesApart rt (sync.withTie tie) entries tables
          (syncFeed rt (sync.withTie tie) document tables).1) ∧
      (Idempotent rt sync document tables ↔ Untied rt sync entries tables) := by
  refine ⟨fun tie ↦ ?_, fun h ↦ h.untied hkeyed hread hentries hpass, fun h tie tie' ↦ ?_⟩
  · have hpass' : ∀ e ∈ entries, Passes rt (sync.withTie tie) e := hpass
    exact ⟨⟨_, result_syncFeed hkeyed hread hentries hpass'⟩,
      exactSync_syncFeed hkeyed hread hentries hpass',
      tablesApart_syncFeed hkeyed hread hentries hpass'⟩
  · have hpass' : ∀ e ∈ entries, Passes rt (sync.withTie tie) e := hpass
    have huntied : Untied rt (sync.withTie tie) entries tables := ⟨h.blocks, h.allows⟩
    exact syncFeed_again hkeyed hread hentries hpass' huntied tie'

/-- A feed with a key twice, and an allow entry of the same key. -/
def mixedFeed : List Json :=
  [.obj [("rule_type", .str "ua"), ("pattern", .str "bot"),
      ("confidence", .float (.finite (9 / 10))), ("reporters", .int 5)],
    .obj [("kind", .str "allow"), ("rule_type", .str "ua"), ("pattern", .str "bot"),
      ("confidence", .int 1), ("verify_rdns", .bool true), ("rdns_pattern", .str "example.org")],
    .obj [("rule_type", .str "ua"), ("pattern", .str "bot"), ("match_type", .str "contains"),
      ("action", .str "challenge"), ("confidence", .int 1)]]

theorem mixed_feed_exact_and_idempotent :
    ExactSync .plain (defaultSync.withTie fun _ _ ↦ id) mixedFeed noRows
        (syncFeed .plain (defaultSync.withTie fun _ _ ↦ id) (.arr mixedFeed) noRows).1 ∧
      Idempotent .plain defaultSync (.arr mixedFeed) noRows :=
  have hkeyed : Keyed noRows := ⟨List.nodup_nil, List.nodup_nil⟩
  have h := feed_sync_exact_and_idempotent_iff .plain defaultSync hkeyed (by decide +kernel)
    (.inl rfl) (by decide +kernel)
  ⟨(h.1 _).2.1, h.2.2 ⟨fun _ _ _ _ hr ↦ absurd hr.mem List.not_mem_nil,
    fun _ _ _ _ hr ↦ absurd hr.mem List.not_mem_nil⟩⟩

/-- A feed allow rule as two syncs that overlap leave it, once each. -/
def overlapRule (id : Uuid) : AllowRule where
  ruleType := .ua
  matchType := .exact
  pattern := "bot"
  id := id
  name := "Feed: ua bot"
  verifyRdns := true
  rdnsPattern := "example.com"
  isActive := true
  source := .feed
  expiresAt := none

/-- Tables with the two. -/
def overlapRows : FeedTables := { noRows with db := ⟨[], [overlapRule 1, overlapRule 2]⟩ }

/-- A feed with another `rdns_pattern` for them. -/
def correctedFeed : Json :=
  .arr [.obj [("kind", .str "allow"), ("rule_type", .str "ua"), ("pattern", .str "bot"),
    ("confidence", .int 1), ("verify_rdns", .bool true), ("rdns_pattern", .str "example.org")]]

/-- Both rules have the name by which the look-up orders them. The first sync corrects one of them,
and the second may correct the other. -/
theorem corrected_feed_not_idempotent :
    ¬ Idempotent .plain defaultSync correctedFeed overlapRows := by
  intro h
  obtain ⟨updated, skipped, hsame⟩ := h (fun _ _ i ↦ if i = 1 then 0 else 1)
    fun _ _ i ↦ if i = 2 then 0 else 1
  have hrows := congrArg (fun t ↦ t.db.allowRules.map AllowRule.rdnsPattern)
    (congrArg Prod.fst hsame)
  dsimp only at hrows
  revert hrows
  decide +kernel

end ThreatFeed

end DjangoWaf
