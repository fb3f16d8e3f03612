import DjangoWaf.FeedErrors
import DjangoWaf.Lib.KeyedTable

/-!
# A feed sync as runs over two tables

The transaction of an accepted entry finds a row by the source and the key, and rewrites or creates
it. Each of the two tables is so a keyed table (`blockKind`, `allowKind`), and the entries of one
kind are a run over it: the loop of `sync_feed` is **two runs side by side** (`ran_syncEntries`),
one for each kind, and the sweep closes the rows whose key no entry of the kind has (`closed`).

`tables_syncFeed` says what a sync leaves of each table, from its rows and the accepted entries of
its kind; `result_syncFeed` says what it returns. An entry that finds a row creates none, and
nothing that follows takes a row away (`created_syncEntries`).
-/

namespace DjangoWaf

/-- The block rows with their statistics. -/
def FeedTables.blocks (t : FeedTables) : KeyedTable BlockRule Uuid FeedStats :=
  ⟨t.db.blockRules, t.blockStats⟩

/-- The allow rows with their statistics. -/
def FeedTables.allows (t : FeedTables) : KeyedTable AllowRule Uuid FeedStats :=
  ⟨t.db.allowRules, t.allowStats⟩

/-- Some of the statistics, set. -/
def FeedStats.set (c : Option ℚ) (n : Option ℕ) (x : FeedStats) : FeedStats :=
  { x with confidence := c.getD x.confidence, feedReporters := n.getD x.feedReporters }

namespace ThreatFeed

/-! ### The two tables -/

variable (rt : FeedRuntime) (sync : Sync)

/-- The key feed rows are matched by; rows of another source have none. -/
def feedKey (source : RuleSource) (c : Criterion) : Option (RuleType × String) :=
  if source = .feed then some (c.ruleType, c.pattern) else none

/-- The key of an entry. -/
def Accepted.key (a : Accepted) : RuleType × String := (a.ruleType, a.pattern)

/-- The statistics an entry that fits leaves. -/
def Accepted.aside (a : Accepted) (before : FeedStats) : FeedStats :=
  (a.stats rt before).getD before

/-- Block rows, as the feed writes them. -/
def blockKind : RowKind BlockRule Uuid (RuleType × String) Accepted FeedStats where
  id := BlockRule.id
  key r := feedKey r.source r.toCriterion
  le := BlockRule.before
  target := Accepted.key
  create a i := (a.toFeedEntry i fun _ ↦ 0).toBlockRule sync.now
  update a r := { r with
    action := a.action, matchType := a.matchType, expiresAt := some a.expiresAt, isActive := true }
  aside := Accepted.aside rt
  newAside := newStats sync.now
  fresh := sync.blockIds.next

/-- Allow rows, as the feed writes them. -/
def allowKind : RowKind AllowRule Uuid (RuleType × String) Accepted FeedStats where
  id := AllowRule.id
  key r := feedKey r.source r.toCriterion
  le := AllowRule.before
  target := Accepted.key
  create a i := (a.toFeedEntry i fun _ ↦ 0).toAllowRule sync.quarantineAllowRules
  update a r := { r with
    matchType := a.matchType, verifyRdns := true, rdnsPattern := a.rdnsPattern,
    expiresAt := some a.expiresAt, isActive := r.isActive || !sync.quarantineAllowRules }
  aside := Accepted.aside rt
  newAside := newStats sync.now
  fresh := sync.allowIds.next

instance : DecidableRel (blockKind rt sync).le := inferInstanceAs (DecidableRel BlockRule.before)

instance : DecidableRel (allowKind rt sync).le := inferInstanceAs (DecidableRel AllowRule.before)

theorem BlockRule.before_total (r r' : BlockRule) : r.before r' ∨ r'.before r := by
  rcases lt_trichotomy r.priority r'.priority with h | h | h
  · exact .inl (.inl h)
  · exact (le_total r'.createdAt r.createdAt).imp (fun ht ↦ .inr ⟨h, ht⟩) fun ht ↦
      .inr ⟨h.symm, ht⟩
  · exact .inr (.inl h)

theorem BlockRule.before_trans {r r' r'' : BlockRule} (h : r.before r') (h' : r'.before r'') :
    r.before r'' := by
  rcases h with h | ⟨h, ht⟩
  · rcases h' with h' | ⟨h', -⟩
    · exact .inl (h.trans h')
    · exact .inl (h'.symm ▸ h)
  · rcases h' with h' | ⟨h', ht'⟩
    · exact .inl (h.symm ▸ h')
    · exact .inr ⟨h.trans h', ht'.trans ht⟩

theorem blockKind_lawful : (blockKind rt sync).Lawful where
  id_create _ _ := rfl
  key_create _ _ := rfl
  alike_update _ _ := ⟨rfl, rfl, fun _ ↦ Iff.rfl, fun _ ↦ Iff.rfl⟩
  le_total := BlockRule.before_total
  le_trans _ _ _ := BlockRule.before_trans
  fresh_not_mem := sync.blockIds.next_not_mem

theorem allowKind_lawful : (allowKind rt sync).Lawful where
  id_create _ _ := rfl
  key_create _ _ := rfl
  alike_update _ _ := ⟨rfl, rfl, fun _ ↦ Iff.rfl, fun _ ↦ Iff.rfl⟩
  le_total r r' := le_total r.name.toList r'.name.toList
  le_trans _ _ _ h h' := le_trans (α := List Char) h h'
  fresh_not_mem := sync.allowIds.next_not_mem

variable {rt} {sync}

theorem exists_aside (a : Accepted) : ∃ c n, ∀ x, Accepted.aside rt a x = FeedStats.set c n x := by
  simp only [Accepted.aside, Accepted.stats]
  rcases rt.decimalColumn a.confidence with - | confidence
  · exact ⟨none, none, fun _ ↦ rfl⟩
  rcases a.reporters with - | v
  · exact ⟨some confidence, none, fun _ ↦ rfl⟩
  rcases hv : countColumn rt v with - | reporters
  · exact ⟨none, none, fun x ↦ by simp [hv, FeedStats.set]⟩
  · exact ⟨some confidence, some reporters, fun x ↦ by simp [hv, FeedStats.set]⟩

/-- What entries make of statistics is to set some of them. -/
theorem exists_foldl_aside (as : List Accepted) :
    ∃ c n, ∀ x, as.foldl (fun x a ↦ Accepted.aside rt a x) x = FeedStats.set c n x := by
  induction as using List.reverseRecOn with
  | nil => exact ⟨none, none, fun _ ↦ rfl⟩
  | append_singleton as a ih =>
    obtain ⟨c, n, h⟩ := ih
    have hset : ∃ c n, ∀ x, Accepted.aside rt a x = FeedStats.set c n x := exists_aside a
    obtain ⟨c', n', h'⟩ := hset
    refine ⟨c'.or c, n'.or n, fun x ↦ ?_⟩
    rw [List.foldl_append, h]
    show Accepted.aside rt a (FeedStats.set c n x) = _
    rw [h']
    cases c' <;> cases n' <;> rfl

/-- Setting them again changes nothing. -/
theorem aside_aside (as : List Accepted) (x : FeedStats) :
    as.foldl (fun x a ↦ Accepted.aside rt a x) (as.foldl (fun x a ↦ Accepted.aside rt a x) x) =
      as.foldl (fun x a ↦ Accepted.aside rt a x) x := by
  obtain ⟨c, n, h⟩ := exists_foldl_aside as
  rw [h, h]
  cases c <;> cases n <;> rfl

variable (rt sync) in
theorem blockKind_overwrites : (blockKind rt sync).Overwrites where
  update_update _ _ _ _ := rfl
  update_create _ _ := rfl
  aside_aside := aside_aside

variable (rt sync) in
theorem allowKind_overwrites : (allowKind rt sync).Overwrites where
  update_update _ _ r _ := by
    simp only [allowKind, Bool.or_assoc, Bool.or_self]
  update_create a i := by
    simp only [allowKind, FeedEntry.toAllowRule, Bool.or_self]
    rfl
  aside_aside := aside_aside

/-! ### An entry writes its table -/

theorem hasKey_eq (a : Accepted) (i : Uuid) (tie : Uuid → ℕ) (source : RuleSource) (c : Criterion) :
    (a.toFeedEntry i tie).hasKey source c = decide (feedKey source c = some a.key) := by
  show (decide (source = .feed) && decide (c.ruleType = a.ruleType) &&
    decide (c.pattern = a.pattern)) = _
  rw [Bool.eq_iff_iff, feedKey, Accepted.key, decide_eq_true_eq]
  split
  · rename_i h
    simp [h]
  · rename_i h
    simp [h]

theorem firstBlockRule_eq (a : Accepted) (i : Uuid) (tie : Uuid → ℕ) (db : Db) :
    firstBlockRule tie (fun r ↦ (a.toFeedEntry i tie).hasKey r.source r.toCriterion) db =
      (blockKind rt sync).first tie a.key db.blockRules := by
  have hkey : (fun r : BlockRule ↦ (a.toFeedEntry i tie).hasKey r.source r.toCriterion) =
      fun r ↦ decide ((blockKind rt sync).key r = some a.key) :=
    funext fun r ↦ hasKey_eq a i tie _ _
  rw [firstBlockRule, hkey]
  rfl

theorem firstAllowRule_eq (a : Accepted) (i : Uuid) (tie : Uuid → ℕ) (db : Db) :
    firstAllowRule tie (fun r ↦ (a.toFeedEntry i tie).hasKey r.source r.toCriterion) db =
      (allowKind rt sync).first tie a.key db.allowRules := by
  have hkey : (fun r : AllowRule ↦ (a.toFeedEntry i tie).hasKey r.source r.toCriterion) =
      fun r ↦ decide ((allowKind rt sync).key r = some a.key) :=
    funext fun r ↦ hasKey_eq a i tie _ _
  rw [firstAllowRule, hkey]
  rfl

/-- A row rewritten in place. -/
theorem upsert_of_mem {α : Type*} {key : α → Uuid} {f : α → α} (hf : ∀ r, key (f r) = key r)
    {rows : List α} (hkeyed : (rows.map key).Nodup) {r : α} (hr : r ∈ rows) :
    upsert key (f r) rows = rows.map fun s ↦ if key s = key r then f s else s := by
  have hany : (rows.any fun s ↦ decide (key s = key (f r))) = true :=
    List.any_eq_true.2 ⟨r, hr, decide_eq_true (hf r).symm⟩
  rw [upsert, if_pos hany, hf]
  refine List.map_congr_left fun s hs ↦ ?_
  split
  · rename_i hid
    rw [List.inj_on_of_nodup_map hkeyed hs hr hid]
  · rfl

/-- The primary keys of both tables name one row. -/
structure Keyed (t : FeedTables) : Prop where
  blocks : (t.db.blockRules.map BlockRule.id).Nodup
  allows : (t.db.allowRules.map AllowRule.id).Nodup

variable (rt sync) in
/-- The row an entry finds. -/
theorem existing?_of_block {a : Accepted} (hkind : a.kind = .block) (i : Uuid) (tie : Uuid → ℕ)
    (db : Db) : existing? (a.toFeedEntry i tie) db =
      ((blockKind rt sync).first tie a.key db.blockRules).map BlockRule.id := by
  have hkind' : (a.toFeedEntry i tie).kind = .block := hkind
  rw [existing?, hkind', ← firstBlockRule_eq a i tie db]
  rfl

variable (rt sync) in
theorem existing?_of_allow {a : Accepted} (hkind : a.kind = .allow) (i : Uuid) (tie : Uuid → ℕ)
    (db : Db) : existing? (a.toFeedEntry i tie) db =
      ((allowKind rt sync).first tie a.key db.allowRules).map AllowRule.id := by
  have hkind' : (a.toFeedEntry i tie).kind = .allow := hkind
  rw [existing?, hkind', ← firstAllowRule_eq a i tie db]
  rfl

/-- The statistics of an entry that fits. -/
theorem aside_of_stats {a : Accepted} {before stats : FeedStats}
    (h : a.stats rt before = some stats) : Accepted.aside rt a before = stats := by
  rw [Accepted.aside, h]
  rfl

/-- **A block entry is a step of the table of block rows.** -/
theorem tables_writeEntry_block {t : FeedTables} {a : Accepted} {stats : FeedStats}
    {tie : Uuid → ℕ} (h : Keyed t)
    (hkind : a.kind = .block)
    (hstats : a.stats rt (statsBefore sync.now
      (a.toFeedEntry (sync.blockIds.next t.db.blockRules) tie) t) = some stats) :
    (writeEntry sync.quarantineAllowRules sync.now
        (a.toFeedEntry (sync.blockIds.next t.db.blockRules) tie) stats t).blocks =
        (blockKind rt sync).step tie a t.blocks ∧
      (writeEntry sync.quarantineAllowRules sync.now
        (a.toFeedEntry (sync.blockIds.next t.db.blockRules) tie) stats t).allows = t.allows := by
  set e := a.toFeedEntry (sync.blockIds.next t.db.blockRules) tie with he
  have htie : e.tie = tie := rfl
  have hkind' : e.kind = .block := hkind
  have hrow : firstBlockRule tie (fun r ↦ e.hasKey r.source r.toCriterion) t.db =
      (blockKind rt sync).first tie a.key t.db.blockRules := firstBlockRule_eq a _ tie t.db
  have hexisting := existing?_of_block rt sync hkind (sync.blockIds.next t.db.blockRules) tie t.db
  rw [← he] at hexisting
  rw [statsBefore] at hstats
  rcases hfirst : (blockKind rt sync).first tie a.key t.db.blockRules with - | r
  · rw [hfirst] at hrow hexisting
    have haside : Accepted.aside rt a (newStats sync.now) = stats :=
      aside_of_stats (by simpa [hexisting] using hstats)
    have hstep : (blockKind rt sync).step tie a t.blocks = _ := RowKind.step_of_none hfirst
    rw [hstep]
    simp only [writeEntry, syncEntry, hkind', htie, hrow, hexisting, FeedTables.setStats]
    refine ⟨?_, rfl⟩
    ext1
    · exact upsert_of_not_mem (sync.blockIds.next_not_mem t.db.blockRules)
    · show Function.update t.blockStats _ stats = _
      rw [← haside]
      rfl
  · rw [hfirst] at hrow hexisting
    have haside : Accepted.aside rt a (t.blockStats r.id) = stats :=
      aside_of_stats (by simpa [hexisting, hkind', FeedTables.statsOf] using hstats)
    have hmem : r ∈ t.db.blockRules := (RowKind.mem_of_first hfirst).1
    have hstep : (blockKind rt sync).step tie a t.blocks = _ := RowKind.step_of_some hfirst
    rw [hstep]
    simp only [writeEntry, syncEntry, hkind', htie, hrow, hexisting, FeedTables.setStats]
    refine ⟨?_, rfl⟩
    have hf : ∀ s : BlockRule, BlockRule.id ((blockKind rt sync).update a s) = s.id := fun _ ↦ rfl
    ext1
    · exact upsert_of_mem hf h.blocks hmem
    · show Function.update t.blockStats _ stats = _
      rw [← haside]
      rfl

/-- **An allow entry is a step of the table of allow rows.** -/
theorem tables_writeEntry_allow {t : FeedTables} {a : Accepted} {stats : FeedStats}
    {tie : Uuid → ℕ} (h : Keyed t)
    (hkind : a.kind = .allow)
    (hstats : a.stats rt (statsBefore sync.now
      (a.toFeedEntry (sync.allowIds.next t.db.allowRules) tie) t) = some stats) :
    (writeEntry sync.quarantineAllowRules sync.now
        (a.toFeedEntry (sync.allowIds.next t.db.allowRules) tie) stats t).allows =
        (allowKind rt sync).step tie a t.allows ∧
      (writeEntry sync.quarantineAllowRules sync.now
        (a.toFeedEntry (sync.allowIds.next t.db.allowRules) tie) stats t).blocks = t.blocks := by
  set e := a.toFeedEntry (sync.allowIds.next t.db.allowRules) tie with he
  have htie : e.tie = tie := rfl
  have hkind' : e.kind = .allow := hkind
  have hrow : firstAllowRule tie (fun r ↦ e.hasKey r.source r.toCriterion) t.db =
      (allowKind rt sync).first tie a.key t.db.allowRules := firstAllowRule_eq a _ tie t.db
  have hexisting := existing?_of_allow rt sync hkind (sync.allowIds.next t.db.allowRules) tie t.db
  rw [← he] at hexisting
  rw [statsBefore] at hstats
  rcases hfirst : (allowKind rt sync).first tie a.key t.db.allowRules with - | r
  · rw [hfirst] at hrow hexisting
    have haside : Accepted.aside rt a (newStats sync.now) = stats :=
      aside_of_stats (by simpa [hexisting] using hstats)
    have hstep : (allowKind rt sync).step tie a t.allows = _ := RowKind.step_of_none hfirst
    rw [hstep]
    simp only [writeEntry, syncEntry, hkind', htie, hrow, hexisting, FeedTables.setStats]
    refine ⟨?_, rfl⟩
    ext1
    · exact upsert_of_not_mem (sync.allowIds.next_not_mem t.db.allowRules)
    · show Function.update t.allowStats _ stats = _
      rw [← haside]
      rfl
  · rw [hfirst] at hrow hexisting
    have haside : Accepted.aside rt a (t.allowStats r.id) = stats :=
      aside_of_stats (by simpa [hexisting, hkind', FeedTables.statsOf] using hstats)
    have hmem : r ∈ t.db.allowRules := (RowKind.mem_of_first hfirst).1
    have hstep : (allowKind rt sync).step tie a t.allows = _ := RowKind.step_of_some hfirst
    rw [hstep]
    simp only [writeEntry, syncEntry, hkind', htie, hrow, hexisting, FeedTables.setStats]
    refine ⟨?_, rfl⟩
    have hf : ∀ s : AllowRule, AllowRule.id ((allowKind rt sync).update a s) = s.id := fun _ ↦ rfl
    ext1
    · exact upsert_of_mem hf h.allows hmem
    · show Function.update t.allowStats _ stats = _
      rw [← haside]
      rfl

/-! ### The loop writes both tables -/

variable (rt sync) in
/-- The accepted entries of a kind, in the order of the feed. -/
def accepted (kind : FeedKind) (entries : List Json) : List Accepted :=
  entries.filterMap fun e ↦
    match checkEntry rt sync.threshold sync.now e with
    | .ok (some a) => if a.kind = kind then some a else none
    | _ => none

theorem accepted_append (kind : FeedKind) (es es' : List Json) :
    accepted rt sync kind (es ++ es') = accepted rt sync kind es ++ accepted rt sync kind es' :=
  List.filterMap_append ..

/-- The entries that are accepted are those of the two kinds. -/
theorem mem_accepted {kind : FeedKind} {entries : List Json} {a : Accepted} :
    a ∈ accepted rt sync kind entries ↔ a.kind = kind ∧
      ∃ e ∈ entries, checkEntry rt sync.threshold sync.now e = .ok (some a) := by
  rw [accepted, List.mem_filterMap]
  constructor
  · rintro ⟨e, he, ha⟩
    split at ha
    · rename_i b hb
      split at ha
      · rename_i hkind
        rw [Option.some.injEq] at ha
        subst ha
        exact ⟨hkind, e, he, hb⟩
      · cases ha
    · cases ha
  · rintro ⟨hkind, e, he, ha⟩
    exact ⟨e, he, by simp [ha, hkind]⟩

/-- The key of an entry that was written. -/
def feedEntryKey (e : FeedEntry) : RuleType × String := (e.ruleType, e.pattern)

/-- The ranks of the look-ups of a table that are still to come. -/
def SyncState.ties (s : SyncState) (sync : Sync) (kind : FeedKind) : ℕ → Uuid → ℕ :=
  fun n ↦ sync.tie kind (s.lookUps kind + n)

/-- What a stretch of the loop did: it ran its accepted entries on the two tables, and their keys
are seen. -/
structure Ran (rt : FeedRuntime) (sync : Sync) (entries : List Json) (s s' : SyncState) :
    Prop where
  blocks : s'.tables.blocks =
    (blockKind rt sync).run (s.ties sync .block) (accepted rt sync .block entries) s.tables.blocks
  allows : s'.tables.allows =
    (allowKind rt sync).run (s.ties sync .allow) (accepted rt sync .allow entries) s.tables.allows
  lookUps : ∀ kind, s'.lookUps kind = s.lookUps kind + (accepted rt sync kind entries).length
  seen : ∀ kind k, (∃ e ∈ s'.seen, e.kind = kind ∧ feedEntryKey e = k) ↔
    (∃ e ∈ s.seen, e.kind = kind ∧ feedEntryKey e = k) ∨
      ∃ a ∈ accepted rt sync kind entries, a.key = k

variable (rt sync) in
theorem Keyed.blocks_rows {t : FeedTables} (h : Keyed t) :
    (blockKind rt sync).Keyed t.blocks.rows := h.blocks

variable (rt sync) in
theorem Keyed.allows_rows {t : FeedTables} (h : Keyed t) :
    (allowKind rt sync).Keyed t.allows.rows := h.allows

theorem Ran.keyed {entries : List Json} {s s' : SyncState} (h : Ran rt sync entries s s')
    (hkeyed : Keyed s.tables) : Keyed s'.tables where
  blocks := by
    have hrun : (blockKind rt sync).Keyed
        ((blockKind rt sync).run (s.ties sync .block) (accepted rt sync .block entries)
          s.tables.blocks).rows :=
      (blockKind_lawful rt sync).keyed_run (hkeyed.blocks_rows rt sync) _
    rw [← h.blocks] at hrun
    exact hrun
  allows := by
    have hrun : (allowKind rt sync).Keyed
        ((allowKind rt sync).run (s.ties sync .allow) (accepted rt sync .allow entries)
          s.tables.allows).rows :=
      (allowKind_lawful rt sync).keyed_run (hkeyed.allows_rows rt sync) _
    rw [← h.allows] at hrun
    exact hrun

/-- The look-ups after a stretch. -/
theorem Ran.ties {entries : List Json} {s s' : SyncState} (h : Ran rt sync entries s s')
    (kind : FeedKind) :
    s'.ties sync kind = fun n ↦ s.ties sync kind ((accepted rt sync kind entries).length + n) := by
  funext n
  rw [SyncState.ties, SyncState.ties, h.lookUps, Nat.add_assoc]

/-- A stretch, and an entry after it. -/
theorem Ran.append {es es' : List Json} {s s' s'' : SyncState} (h : Ran rt sync es s s')
    (h' : Ran rt sync es' s' s'') : Ran rt sync (es ++ es') s s'' where
  blocks := by
    rw [h'.blocks, h.blocks, accepted_append, RowKind.run_append, h.ties]
  allows := by
    rw [h'.allows, h.allows, accepted_append, RowKind.run_append, h.ties]
  lookUps kind := by rw [h'.lookUps, h.lookUps, accepted_append, List.length_append, Nat.add_assoc]
  seen kind k := by
    rw [h'.seen, h.seen, accepted_append]
    simp only [List.mem_append, or_and_right, exists_or, or_assoc]

/-- The write of an entry, as a turn of the loop. -/
theorem ran_write {entry : Json} {s : SyncState} {a : Accepted} {stats : FeedStats}
    (hkeyed : Keyed s.tables)
    (hcheck : checkEntry rt sync.threshold sync.now entry = .ok (some a))
    (hstats : a.stats rt (statsBefore sync.now (a.entry sync s) s.tables) = some stats) :
    Ran rt sync [entry] s (s.write sync (a.entry sync s) stats) := by
  have haccepted : ∀ kind, accepted rt sync kind [entry] = if a.kind = kind then [a] else [] := by
    intro kind
    simp only [accepted, List.filterMap_cons, hcheck, List.filterMap_nil]
    split
    · rename_i h
      split at h
      · cases h
      · rename_i hkind
        rw [if_neg hkind]
    · rename_i h
      split at h
      · rename_i hkind
        rw [if_pos hkind, Option.some.inj h]
      · cases h
  have hlookUps : ∀ kind, (s.write sync (a.entry sync s) stats).lookUps kind =
      s.lookUps kind + (accepted rt sync kind [entry]).length := by
    intro kind
    rw [haccepted, SyncState.lookUps, SyncState.write, List.countP_append, List.countP_singleton]
    show _ + (if decide (a.kind = kind) = true then 1 else 0) = _
    rw [SyncState.lookUps]
    by_cases hkind : a.kind = kind
    · rw [if_pos hkind, if_pos (decide_eq_true hkind)]
      rfl
    · rw [if_neg hkind, if_neg (by simpa using hkind)]
      rfl
  have hseen : ∀ kind k, (∃ e ∈ (s.write sync (a.entry sync s) stats).seen,
      e.kind = kind ∧ feedEntryKey e = k) ↔
      (∃ e ∈ s.seen, e.kind = kind ∧ feedEntryKey e = k) ∨
        ∃ a' ∈ accepted rt sync kind [entry], a'.key = k := by
    intro kind k
    simp only [SyncState.write, List.mem_append, List.mem_singleton, or_and_right, exists_or,
      exists_eq_left]
    refine or_congr Iff.rfl ?_
    show a.kind = kind ∧ a.key = k ↔ _
    rw [haccepted]
    split
    · rename_i hkind
      simp [hkind]
    · rename_i hkind
      simp [hkind]
  rcases hkind : a.kind with - | -
  · rw [Accepted.entry, hkind] at hstats
    obtain ⟨hallows, hblocks⟩ := tables_writeEntry_allow hkeyed hkind hstats
    refine ⟨?_, ?_, hlookUps, hseen⟩
    · rw [haccepted, if_neg (by simp [hkind]), Accepted.entry, hkind]
      exact hblocks
    · rw [haccepted, if_pos hkind, Accepted.entry, hkind]
      exact hallows
  · rw [Accepted.entry, hkind] at hstats
    obtain ⟨hblocks, hallows⟩ := tables_writeEntry_block hkeyed hkind hstats
    refine ⟨?_, ?_, hlookUps, hseen⟩
    · rw [haccepted, if_pos hkind, Accepted.entry, hkind]
      exact hblocks
    · rw [haccepted, if_neg (by simp [hkind]), Accepted.entry, hkind]
      exact hallows

/-- **A turn of the loop.** -/
theorem ran_syncStep {entry : Json} {s s' : SyncState} (hkeyed : Keyed s.tables)
    (h : syncStep rt sync entry s = .ok s') : Ran rt sync [entry] s s' := by
  rw [syncStep] at h
  rcases hcheck : checkEntry rt sync.threshold sync.now entry with error | a?
  · simp [hcheck, bind, Except.bind] at h
  rcases a? with - | a
  · have hnone : ∀ kind, accepted rt sync kind [entry] = [] := fun kind ↦ by simp [accepted, hcheck]
    simp only [hcheck, bind, Except.bind, pure, Except.pure, Except.ok.injEq] at h
    subst h
    refine ⟨by rw [hnone]; rfl, by rw [hnone]; rfl, fun kind ↦ ?_, fun kind k ↦ ?_⟩
    · rw [hnone]
      rfl
    · simp [hnone]
  · rw [hcheck] at h
    change acceptEntry rt sync a s = .ok s' at h
    rw [acceptEntry] at h
    split at h
    · rename_i stats hrow hstats
      rw [Except.ok.injEq] at h
      subst h
      exact ran_write hkeyed hcheck hstats
    · cases h

/-- **The loop.** -/
theorem ran_syncEntries {entries : List Json} {s : SyncState} (hkeyed : Keyed s.tables)
    (h : (syncEntries rt sync entries s).2 = none) :
    Ran rt sync entries s (syncEntries rt sync entries s).1 := by
  induction entries generalizing s with
  | nil => exact ⟨rfl, rfl, fun _ ↦ rfl, fun kind k ↦ by simp [syncEntries, accepted]⟩
  | cons entry entries ih =>
    rw [syncEntries] at h ⊢
    rcases hstep : syncStep rt sync entry s with error | s'
    · simp [hstep] at h
    · rw [hstep] at h
      have hran := ran_syncStep hkeyed hstep
      exact hran.append (ih (hran.keyed hkeyed) h)

/-! ### The sweep -/

/-- Rows of a table saved one after the other, each rewritten in place. -/
theorem foldl_upsert {α : Type*} [DecidableEq α] {key : α → Uuid} {f : α → α}
    (hf : ∀ r, key (f r) = key r) {rows : List α} (hkeyed : (rows.map key).Nodup) {l : List α}
    (hl : ∀ r ∈ l, r ∈ rows) :
    l.foldl (fun rows r ↦ upsert key (f r) rows) rows =
      rows.map fun r ↦ if r ∈ l then f r else r := by
  induction l using List.reverseRecOn with
  | nil => simp
  | append_singleton l r ih =>
    have hr := hl r List.mem_concat_self
    have hl' : ∀ r ∈ l, r ∈ rows := fun s hs ↦ hl s (List.mem_append_left _ hs)
    have hid : ∀ s : α, key (if s ∈ l then f s else s) = key s := by
      intro s
      split
      · exact hf s
      · rfl
    rw [List.foldl_append, ih hl']
    show upsert key (f r) (rows.map fun s ↦ if s ∈ l then f s else s) = _
    have hany : ((rows.map fun s ↦ if s ∈ l then f s else s).any
        fun s ↦ decide (key s = key (f r))) = true := by
      refine List.any_eq_true.2 ⟨_, List.mem_map_of_mem hr, decide_eq_true ?_⟩
      rw [hid, hf]
    rw [upsert, if_pos hany, List.map_map]
    refine List.map_congr_left fun s hs ↦ ?_
    show (if key (if s ∈ l then f s else s) = key (f r) then f r else if s ∈ l then f s else s) = _
    rw [hid, hf]
    by_cases hsr : s = r
    · subst hsr
      rw [if_pos rfl, if_pos List.mem_concat_self]
    · have hne : key s ≠ key r := fun h ↦ hsr (List.inj_on_of_nodup_map hkeyed hs hr h)
      have hiff : s ∈ l ++ [r] ↔ s ∈ l := by simp [hsr]
      rw [if_neg hne]
      simp only [hiff]

/-- The same, for the rows that pass a test. -/
theorem foldl_upsert_filter {α : Type*} [DecidableEq α] {key : α → Uuid} {f : α → α}
    (hf : ∀ r, key (f r) = key r) {rows : List α} (hkeyed : (rows.map key).Nodup) (p : α → Bool) :
    (rows.filter p).foldl (fun rows r ↦ upsert key (f r) rows) rows =
      rows.map fun r ↦ if p r then f r else r := by
  rw [foldl_upsert hf hkeyed fun r hr ↦ (List.mem_filter.1 hr).1]
  refine List.map_congr_left fun r hr ↦ ?_
  simp only [List.mem_filter, hr, true_and]

theorem writeEach_saveBlockRule (f : BlockRule → BlockRule) (l : List BlockRule) (db : Db) :
    writeEach (l.map fun r ↦ saveBlockRule (f r)) db =
      ⟨{ db with
          blockRules := l.foldl (fun rows r ↦ upsert BlockRule.id (f r) rows) db.blockRules },
        l.length⟩ := by
  induction l using List.reverseRecOn with
  | nil => rfl
  | append_singleton l r ih =>
    rw [List.map_append, List.map_singleton, writeEach_append_singleton, ih, List.foldl_append,
      List.length_append]
    rfl

theorem writeEach_saveAllowRule (f : AllowRule → AllowRule) (l : List AllowRule) (db : Db) :
    writeEach (l.map fun r ↦ saveAllowRule (f r)) db =
      ⟨{ db with
          allowRules := l.foldl (fun rows r ↦ upsert AllowRule.id (f r) rows) db.allowRules },
        l.length⟩ := by
  induction l using List.reverseRecOn with
  | nil => rfl
  | append_singleton l r ih =>
    rw [List.map_append, List.map_singleton, writeEach_append_singleton, ih, List.foldl_append,
      List.length_append]
    rfl

/-- An active feed row whose key no entry of a kind has. -/
def unseen (kind : FeedKind) (seen : List FeedEntry) (source : RuleSource) (isActive : Bool)
    (c : Criterion) : Bool :=
  source = .feed && isActive && !seen.any fun e ↦ e.kind = kind && e.hasKey source c

/-- A block row after the sweep. -/
def sweptBlock (seen : List FeedEntry) (r : BlockRule) : BlockRule :=
  if unseen .block seen r.source r.isActive r.toCriterion then { r with isActive := false } else r

/-- An allow row after the sweep. -/
def sweptAllow (seen : List FeedEntry) (r : AllowRule) : AllowRule :=
  if unseen .allow seen r.source r.isActive r.toCriterion then { r with isActive := false } else r

/-- **The sweep rewrites the unseen rows in place**, and counts them. -/
theorem sweep_eq {t : FeedTables} (h : Keyed t) (seen : List FeedEntry) :
    sweep seen t.db =
      ⟨⟨t.db.blockRules.map (sweptBlock seen), t.db.allowRules.map (sweptAllow seen)⟩,
        (t.db.blockRules.countP fun r ↦ unseen .block seen r.source r.isActive r.toCriterion) +
          t.db.allowRules.countP fun r ↦ unseen .allow seen r.source r.isActive r.toCriterion⟩ := by
  have hblocks : deactivateUnseenBlockRules seen t.db = writeEach
      ((t.db.blockRules.filter fun r ↦ unseen .block seen r.source r.isActive r.toCriterion).map
        fun r ↦ saveBlockRule { r with isActive := false }) t.db := rfl
  have hallows : ∀ db : Db, deactivateUnseenAllowRules seen db = writeEach
      ((db.allowRules.filter fun r ↦ unseen .allow seen r.source r.isActive r.toCriterion).map
        fun r ↦ saveAllowRule { r with isActive := false }) db := fun _ ↦ rfl
  have hf : ∀ r : BlockRule, BlockRule.id { r with isActive := false } = r.id := fun _ ↦ rfl
  have hg : ∀ r : AllowRule, AllowRule.id { r with isActive := false } = r.id := fun _ ↦ rfl
  rw [sweep, Written.andThen, hallows, hblocks, writeEach_saveBlockRule, writeEach_saveAllowRule,
    foldl_upsert_filter hf h.blocks, foldl_upsert_filter hg h.allows,
    ← List.countP_eq_length_filter, ← List.countP_eq_length_filter]
  rfl

/-! ### A sync, table by table -/

/-- An active feed row whose key none of the entries has. -/
def closed (as : List Accepted) (source : RuleSource) (isActive : Bool) (c : Criterion) : Bool :=
  isActive && (feedKey source c).any fun k ↦ !as.any fun a ↦ a.key = k

/-- A block row when the entries are over. -/
def closeBlock (as : List Accepted) (r : BlockRule) : BlockRule :=
  if closed as r.source r.isActive r.toCriterion then { r with isActive := false } else r

/-- An allow row when the entries are over. -/
def closeAllow (as : List Accepted) (r : AllowRule) : AllowRule :=
  if closed as r.source r.isActive r.toCriterion then { r with isActive := false } else r

variable (rt sync) in
/-- What a sync leaves of a table of block rows. -/
def syncBlocks (as : List Accepted) (t : KeyedTable BlockRule Uuid FeedStats) :
    KeyedTable BlockRule Uuid FeedStats :=
  (blockKind rt sync).runThen (closeBlock as) (sync.tie .block) as t

variable (rt sync) in
/-- What a sync leaves of a table of allow rows. -/
def syncAllows (as : List Accepted) (t : KeyedTable AllowRule Uuid FeedStats) :
    KeyedTable AllowRule Uuid FeedStats :=
  (allowKind rt sync).runThen (closeAllow as) (sync.tie .allow) as t

/-- A row is unseen when no accepted entry has its key. -/
theorem unseen_eq_closed {seen : List FeedEntry} {as : List Accepted} {kind : FeedKind}
    (h : ∀ k, (∃ e ∈ seen, e.kind = kind ∧ feedEntryKey e = k) ↔ ∃ a ∈ as, a.key = k)
    (source : RuleSource) (isActive : Bool) (c : Criterion) :
    unseen kind seen source isActive c = closed as source isActive c := by
  rw [Bool.eq_iff_iff, unseen, closed, feedKey]
  by_cases hsource : source = .feed
  · have hk := h (c.ruleType, c.pattern)
    have hany : (seen.any fun e ↦ e.kind = kind && e.hasKey source c) = true ↔
        ∃ e ∈ seen, e.kind = kind ∧ feedEntryKey e = (c.ruleType, c.pattern) := by
      rw [List.any_eq_true]
      refine exists_congr fun e ↦ and_congr Iff.rfl ?_
      simp only [FeedEntry.hasKey, hsource, feedEntryKey, Bool.and_eq_true, decide_eq_true_eq,
        Prod.mk.injEq, true_and]
      exact and_congr Iff.rfl (and_congr eq_comm eq_comm)
    have hany' : (as.any fun a ↦ decide (a.key = (c.ruleType, c.pattern))) = true ↔
        ∃ a ∈ as, a.key = (c.ruleType, c.pattern) := by
      simp only [List.any_eq_true, decide_eq_true_eq]
    simp only [hsource, decide_true, Bool.true_and, if_true, Option.any_some, Bool.and_eq_true,
      Bool.not_eq_true', ← Bool.not_eq_true]
    rw [hsource] at hany
    rw [hany, hany', hk]
  · simp [hsource]

/-- The look-ups of the loop, from its start on. -/
theorem ties_start (t : FeedTables) (kind : FeedKind) :
    (SyncState.start t).ties sync kind = sync.tie kind :=
  funext fun n ↦ congrArg (sync.tie kind) (Nat.zero_add n)

/-- Where the loop ends, from its start on. -/
theorem ran_start {entries : List Json} {t : FeedTables} (hkeyed : Keyed t)
    (hpass : ∀ e ∈ entries, Passes rt sync e) :
    Ran rt sync entries (.start t) (syncEntries rt sync entries (.start t)).1 ∧
      ∀ kind k, (∃ e ∈ (syncEntries rt sync entries (.start t)).1.seen,
        e.kind = kind ∧ feedEntryKey e = k) ↔ ∃ a ∈ accepted rt sync kind entries, a.key = k := by
  have hran : Ran rt sync entries (.start t) (syncEntries rt sync entries (.start t)).1 :=
    ran_syncEntries hkeyed (syncEntries_eq_none_iff.2 hpass)
  refine ⟨hran, fun kind k ↦ (hran.seen kind k).trans ?_⟩
  simp [SyncState.start]

/-- **What a sync leaves of each table** depends on its rows and the accepted entries of its kind
alone. -/
theorem tables_syncFeed {document : Json} {entries : List Json} {t : FeedTables} (hkeyed : Keyed t)
    (hread : rt.reads document = true) (hentries : HasEntries document entries)
    (hpass : ∀ e ∈ entries, Passes rt sync e) :
    (syncFeed rt sync document t).1.blocks =
        syncBlocks rt sync (accepted rt sync .block entries) t.blocks ∧
      (syncFeed rt sync document t).1.allows =
        syncAllows rt sync (accepted rt sync .allow entries) t.allows := by
  obtain ⟨hran, hseen⟩ := ran_start hkeyed hpass
  have hblock : sweptBlock (syncEntries rt sync entries (.start t)).1.seen =
      closeBlock (accepted rt sync .block entries) := funext fun r ↦ by
    rw [sweptBlock, closeBlock, unseen_eq_closed (hseen .block)]
  have hallow : sweptAllow (syncEntries rt sync entries (.start t)).1.seen =
      closeAllow (accepted rt sync .allow entries) := funext fun r ↦ by
    rw [sweptAllow, closeAllow, unseen_eq_closed (hseen .allow)]
  rw [syncFeed_of_reads hread, syncRead_of_passes hentries.feedEntries_eq hpass]
  simp only [sweep_eq (hran.keyed hkeyed), hblock, hallow]
  refine ⟨?_, ?_⟩
  · show (⟨(syncEntries rt sync entries (.start t)).1.tables.blocks.rows.map _,
      (syncEntries rt sync entries (.start t)).1.tables.blocks.aside⟩ : KeyedTable _ _ _) = _
    rw [hran.blocks, ties_start]
    rfl
  · show (⟨(syncEntries rt sync entries (.start t)).1.tables.allows.rows.map _,
      (syncEntries rt sync entries (.start t)).1.tables.allows.aside⟩ : KeyedTable _ _ _) = _
    rw [hran.allows, ties_start]
    rfl

/-- And what it returns. -/
theorem result_syncFeed {document : Json} {entries : List Json} {t : FeedTables} (hkeyed : Keyed t)
    (hread : rt.reads document = true) (hentries : HasEntries document entries)
    (hpass : ∀ e ∈ entries, Passes rt sync e) :
    (syncFeed rt sync document t).2 = .ok
      ⟨(syncEntries rt sync entries (.start t)).1.created,
        (syncEntries rt sync entries (.start t)).1.updated,
        (((blockKind rt sync).run (sync.tie .block) (accepted rt sync .block entries)
            t.blocks).rows.countP fun r ↦
            closed (accepted rt sync .block entries) r.source r.isActive r.toCriterion) +
          ((allowKind rt sync).run (sync.tie .allow) (accepted rt sync .allow entries)
            t.allows).rows.countP fun r ↦
            closed (accepted rt sync .allow entries) r.source r.isActive r.toCriterion,
        (syncEntries rt sync entries (.start t)).1.skipped⟩ := by
  obtain ⟨hran, hseen⟩ := ran_start hkeyed hpass
  rw [syncFeed_of_reads hread, syncRead_of_passes hentries.feedEntries_eq hpass]
  simp only [sweep_eq (hran.keyed hkeyed), unseen_eq_closed (hseen .block),
    unseen_eq_closed (hseen .allow)]
  have hblocks : (syncEntries rt sync entries (.start t)).1.tables.db.blockRules =
      ((blockKind rt sync).run (sync.tie .block) (accepted rt sync .block entries)
        t.blocks).rows := by
    rw [← ties_start t .block]
    exact congrArg KeyedTable.rows hran.blocks
  have hallows : (syncEntries rt sync entries (.start t)).1.tables.db.allowRules =
      ((allowKind rt sync).run (sync.tie .allow) (accepted rt sync .allow entries)
        t.allows).rows := by
    rw [← ties_start t .allow]
    exact congrArg KeyedTable.rows hran.allows
  rw [hblocks, hallows]

/-! ### Rows that are created -/

/-- Every accepted entry has a row already. -/
structure Found (rt : FeedRuntime) (sync : Sync) (entries : List Json) (t : FeedTables) :
    Prop where
  blocks : ∀ a ∈ accepted rt sync .block entries,
    ∃ r ∈ t.blocks.rows, (blockKind rt sync).key r = some a.key
  allows : ∀ a ∈ accepted rt sync .allow entries,
    ∃ r ∈ t.allows.rows, (allowKind rt sync).key r = some a.key

/-- An entry that has a row creates none. -/
theorem existing?_isSome {entry : Json} {t : FeedTables} {a : Accepted} (i : Uuid) (tie : Uuid → ℕ)
    (hcheck : checkEntry rt sync.threshold sync.now entry = .ok (some a))
    (h : Found rt sync [entry] t) : (existing? (a.toFeedEntry i tie) t.db).isSome = true := by
  rcases hkind : a.kind with - | -
  · obtain ⟨r, hr, hkey⟩ := h.allows a (mem_accepted.2 ⟨hkind, entry, by simp, hcheck⟩)
    rw [existing?_of_allow rt sync hkind, Option.isSome_map, Option.isSome_iff_ne_none]
    exact RowKind.first_ne_none hr hkey
  · obtain ⟨r, hr, hkey⟩ := h.blocks a (mem_accepted.2 ⟨hkind, entry, by simp, hcheck⟩)
    rw [existing?_of_block rt sync hkind, Option.isSome_map, Option.isSome_iff_ne_none]
    exact RowKind.first_ne_none hr hkey

theorem created_syncStep {entry : Json} {s s' : SyncState} (h : Found rt sync [entry] s.tables)
    (hstep : syncStep rt sync entry s = .ok s') : s'.created = s.created := by
  rw [syncStep] at hstep
  rcases hcheck : checkEntry rt sync.threshold sync.now entry with error | a?
  · simp [hcheck, bind, Except.bind] at hstep
  rcases a? with - | a
  · simp only [hcheck, bind, Except.bind, pure, Except.pure, Except.ok.injEq] at hstep
    rw [← hstep]
  · rw [hcheck] at hstep
    change acceptEntry rt sync a s = .ok s' at hstep
    rw [acceptEntry] at hstep
    split at hstep
    · rw [Except.ok.injEq] at hstep
      rw [← hstep]
      exact if_pos (existing?_isSome _ _ hcheck h)
    · cases hstep

theorem Ran.found {es es' : List Json} {s s' : SyncState} (hran : Ran rt sync es s s')
    (h : Found rt sync es' s.tables) : Found rt sync es' s'.tables where
  blocks a ha := by
    rw [hran.blocks]
    exact RowKind.exists_key_run (blockKind_lawful rt sync) (h.blocks a ha) _
  allows a ha := by
    rw [hran.allows]
    exact RowKind.exists_key_run (allowKind_lawful rt sync) (h.allows a ha) _

/-- **A loop whose entries have their rows creates none.** -/
theorem created_syncEntries {entries : List Json} {s : SyncState} (hkeyed : Keyed s.tables)
    (h : Found rt sync entries s.tables) :
    (syncEntries rt sync entries s).1.created = s.created := by
  induction entries generalizing s with
  | nil => rfl
  | cons entry entries ih =>
    have hsplit : ∀ kind, accepted rt sync kind (entry :: entries) =
        accepted rt sync kind [entry] ++ accepted rt sync kind entries :=
      fun kind ↦ accepted_append kind [entry] entries
    have hhead : Found rt sync [entry] s.tables :=
      ⟨fun a ha ↦ h.blocks a (by rw [hsplit]; exact List.mem_append_left _ ha),
        fun a ha ↦ h.allows a (by rw [hsplit]; exact List.mem_append_left _ ha)⟩
    have htail : Found rt sync entries s.tables :=
      ⟨fun a ha ↦ h.blocks a (by rw [hsplit]; exact List.mem_append_right _ ha),
        fun a ha ↦ h.allows a (by rw [hsplit]; exact List.mem_append_right _ ha)⟩
    rw [syncEntries]
    rcases hstep : syncStep rt sync entry s with error | s'
    · rfl
    · have hran := ran_syncStep hkeyed hstep
      exact (ih (hran.keyed hkeyed) (hran.found htail)).trans (created_syncStep hhead hstep)

end ThreatFeed

end DjangoWaf
