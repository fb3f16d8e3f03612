import DjangoWaf.Services.AutoRuleTable

/-!
# The migration that deletes duplicate auto rules

`dedupe_auto_block_rules` of migration `0008` runs once, in front of the unique constraint on the
machine key. It asks the database which keys have several auto rows, asks for each of them the rows
in descending order of creation, collects every row but the first, and deletes what it collected in
one go.

What a query returns is the **database's** to choose where SQL leaves it open: the order of the
groups, and the order of rows that were created at one instant. `QueryAnswers` is any choice of
these.

* **One row of a key stays**, the first of its group (`mem_dedupe_iff`).
* It is a newest one, and everything that is deleted leaves such a row behind; rows of other sources
  are not touched, and a second run finds nothing to do (`dedupe_migration_exact`).
-/

namespace DjangoWaf

/-- The table of block rules: its primary keys differ. -/
structure BlockRuleTable where
  rows : List BlockRule
  nodup_id : (rows.map BlockRule.id).Nodup

/-- The auto rows. -/
def BlockRuleTable.autoRules (t : BlockRuleTable) : List BlockRule :=
  t.rows.filter fun r ↦ r.source = .auto

/-- The auto rows of a key. -/
def BlockRuleTable.autoGroup (t : BlockRuleTable) (k : AutoKey) : List BlockRule :=
  t.autoRules.filter fun r ↦ r.autoKey = k

/-- **What the database answers** to the queries of the migration: the keys that several auto rows
have, once each, and the rows of a key in descending order of creation. -/
structure QueryAnswers (t : BlockRuleTable) where
  duplicateKeys : List AutoKey
  duplicateKeys_perm : duplicateKeys.Perm
    ((t.autoRules.map BlockRule.autoKey).dedup.filter fun k ↦ 1 < (t.autoGroup k).length)
  group : AutoKey → List BlockRule
  group_perm : ∀ k, (group k).Perm (t.autoGroup k)
  group_sorted : ∀ k, (group k).Pairwise fun r r' ↦ r'.createdAt ≤ r.createdAt

/-- QueryAnswers in the order of the table, as far as nothing else is asked for. -/
def QueryAnswers.inOrder (t : BlockRuleTable) : QueryAnswers t where
  duplicateKeys :=
    (t.autoRules.map BlockRule.autoKey).dedup.filter fun k ↦ 1 < (t.autoGroup k).length
  duplicateKeys_perm := List.Perm.refl _
  group k := (t.autoGroup k).insertionSort fun r r' ↦ r'.createdAt ≤ r.createdAt
  group_perm _ := List.perm_insertionSort _ _
  group_sorted _ := by
    have htotal : Std.Total fun r r' : BlockRule ↦ r'.createdAt ≤ r.createdAt :=
      ⟨fun r r' ↦ le_total r'.createdAt r.createdAt⟩
    have htrans : IsTrans BlockRule fun r r' ↦ r'.createdAt ≤ r.createdAt :=
      ⟨fun _ _ _ h h' ↦ h'.trans h⟩
    exact List.pairwise_insertionSort _ _

variable {t : BlockRuleTable}

/-- `stale_pks`. -/
def QueryAnswers.stalePks (answers : QueryAnswers t) : List Uuid :=
  answers.duplicateKeys.flatMap fun k ↦ ((answers.group k).map BlockRule.id).drop 1

/-- `dedupe_auto_block_rules`. -/
def dedupeAutoBlockRules (t : BlockRuleTable) (answers : QueryAnswers t) : BlockRuleTable where
  rows := if answers.stalePks = [] then t.rows else t.rows.filter fun r ↦ r.id ∉ answers.stalePks
  nodup_id := by
    split_ifs
    · exact t.nodup_id
    · exact (List.filter_sublist.map BlockRule.id).nodup t.nodup_id

/-! ### Rows and their groups -/

theorem BlockRuleTable.eq_of_id {r r' : BlockRule} (hr : r ∈ t.rows) (hr' : r' ∈ t.rows)
    (h : r.id = r'.id) : r = r' := List.inj_on_of_nodup_map t.nodup_id hr hr' h

theorem BlockRuleTable.mem_autoGroup {k : AutoKey} {r : BlockRule} :
    r ∈ t.autoGroup k ↔ r ∈ t.rows ∧ r.source = .auto ∧ r.autoKey = k := by
  rw [autoGroup, autoRules, List.mem_filter, List.mem_filter, decide_eq_true_eq, decide_eq_true_eq,
    and_assoc]

theorem QueryAnswers.mem_group (answers : QueryAnswers t) {k : AutoKey} {r : BlockRule} :
    r ∈ answers.group k ↔ r ∈ t.rows ∧ r.source = .auto ∧ r.autoKey = k := by
  rw [(answers.group_perm k).mem_iff, BlockRuleTable.mem_autoGroup]

theorem QueryAnswers.nodup_group (answers : QueryAnswers t) (k : AutoKey) :
    (answers.group k).Nodup :=
  (answers.group_perm k).nodup_iff.2 (((t.nodup_id.of_map _).filter _).filter _)

/-- What is behind the first row of a group makes the key one of several rows. -/
theorem QueryAnswers.mem_duplicateKeys (answers : QueryAnswers t) {k : AutoKey} {r : BlockRule}
    (h : r ∈ (answers.group k).drop 1) : k ∈ answers.duplicateKeys := by
  have hlength : 1 < (answers.group k).length := by
    have hpos := List.length_pos_of_mem h
    rw [List.length_drop] at hpos
    omega
  obtain ⟨hr, hauto, rfl⟩ := answers.mem_group.1 (List.mem_of_mem_drop h)
  rw [answers.duplicateKeys_perm.mem_iff, List.mem_filter, List.mem_dedup,
    ← (answers.group_perm _).length_eq]
  exact ⟨List.mem_map_of_mem (List.mem_filter.2 ⟨hr, decide_eq_true hauto⟩), decide_eq_true hlength⟩

/-- **What is collected**: the rows that are not the first of their group. -/
theorem QueryAnswers.mem_stalePks (answers : QueryAnswers t) {r : BlockRule} (hr : r ∈ t.rows) :
    r.id ∈ answers.stalePks ↔ r ∈ (answers.group r.autoKey).drop 1 := by
  rw [stalePks, List.mem_flatMap]
  constructor
  · rintro ⟨k, -, hid⟩
    rw [← List.map_drop] at hid
    obtain ⟨r', hr', heq⟩ := List.mem_map.1 hid
    obtain ⟨hmem, -, hkey⟩ := answers.mem_group.1 (List.mem_of_mem_drop hr')
    obtain rfl := t.eq_of_id hmem hr heq
    rw [hkey]
    exact hr'
  · intro h
    refine ⟨r.autoKey, answers.mem_duplicateKeys h, ?_⟩
    rw [← List.map_drop]
    exact List.mem_map_of_mem h

/-- **What is left.** -/
theorem mem_dedupe_iff (answers : QueryAnswers t) {r : BlockRule} :
    r ∈ (dedupeAutoBlockRules t answers).rows ↔
      r ∈ t.rows ∧ r ∉ (answers.group r.autoKey).drop 1 := by
  have hfilter : r ∈ t.rows.filter (fun r ↦ r.id ∉ answers.stalePks) ↔
      r ∈ t.rows ∧ r ∉ (answers.group r.autoKey).drop 1 := by
    rw [List.mem_filter, decide_eq_true_eq]
    exact and_congr_right fun hr ↦ not_congr (answers.mem_stalePks hr)
  rw [dedupeAutoBlockRules]
  dsimp only
  split_ifs with hnone
  · refine ⟨fun hr ↦ ⟨hr, fun h ↦ ?_⟩, And.left⟩
    have hmem := (answers.mem_stalePks hr).2 h
    rw [hnone] at hmem
    cases hmem
  · exact hfilter

/-- The rows that are left, in their order. -/
theorem dedupe_sublist (answers : QueryAnswers t) :
    (dedupeAutoBlockRules t answers).rows.Sublist t.rows := by
  rw [dedupeAutoBlockRules]
  dsimp only
  split_ifs
  · exact List.Sublist.refl _
  · exact List.filter_sublist

/-! ### The first row of a group -/

/-- A key of an auto row has a first row. -/
theorem QueryAnswers.exists_group_eq_cons (answers : QueryAnswers t) {r : BlockRule}
    (hr : r ∈ t.rows) (hauto : r.source = .auto) :
    ∃ newest stale, answers.group r.autoKey = newest :: stale :=
  List.exists_cons_of_ne_nil (List.ne_nil_of_mem (answers.mem_group.2 ⟨hr, hauto, rfl⟩))

/-- **The first row of a group stays**, and no other row of the group does. -/
theorem mem_dedupe_iff_eq_newest (answers : QueryAnswers t) {k : AutoKey} {newest : BlockRule}
    {stale : List BlockRule} (hgroup : answers.group k = newest :: stale) {r : BlockRule}
    (hr : k.holds r = true) :
    r ∈ (dedupeAutoBlockRules t answers).rows ↔ r = newest := by
  obtain ⟨hauto, rfl⟩ := AutoKey.holds_iff.1 hr
  have hmem : r ∈ t.rows ↔ r ∈ newest :: stale := by
    rw [← hgroup, answers.mem_group]
    exact ⟨fun h ↦ ⟨h, hauto, rfl⟩, And.left⟩
  have hfresh : newest ∉ stale := by
    have hnodup := answers.nodup_group r.autoKey
    rw [hgroup, List.nodup_cons] at hnodup
    exact hnodup.1
  rw [mem_dedupe_iff, hgroup, hmem, List.drop_one, List.tail_cons, List.mem_cons]
  constructor
  · rintro ⟨rfl | hstale, hnot⟩
    · rfl
    · exact absurd hstale hnot
  · rintro rfl
    exact ⟨Or.inl rfl, hfresh⟩

/-- It is one of the newest. -/
theorem createdAt_le_newest (answers : QueryAnswers t) {newest r : BlockRule}
    {stale : List BlockRule} (hr : r ∈ t.rows) (hauto : r.source = .auto)
    (hgroup : answers.group r.autoKey = newest :: stale) : r.createdAt ≤ newest.createdAt := by
  have hsorted := answers.group_sorted r.autoKey
  rw [hgroup] at hsorted
  have hmem : r ∈ newest :: stale := by
    rw [← hgroup]
    exact answers.mem_group.2 ⟨hr, hauto, rfl⟩
  rcases List.mem_cons.1 hmem with rfl | hstale
  · exact le_rfl
  · exact (List.pairwise_cons.1 hsorted).1 r hstale

/-- **Every key of an auto row keeps one**, and a newest one. -/
theorem exists_newest (answers : QueryAnswers t) {r : BlockRule} (hr : r ∈ t.rows)
    (hauto : r.source = .auto) :
    ∃ s ∈ (dedupeAutoBlockRules t answers).rows, s.source = .auto ∧ s.autoKey = r.autoKey ∧
      ∀ r' ∈ t.rows, r'.source = .auto → r'.autoKey = r.autoKey → r'.createdAt ≤ s.createdAt := by
  obtain ⟨newest, stale, hgroup⟩ := answers.exists_group_eq_cons hr hauto
  have hmem : newest ∈ answers.group r.autoKey := by
    rw [hgroup]
    exact List.mem_cons_self
  obtain ⟨-, hsource, hkey⟩ := answers.mem_group.1 hmem
  refine ⟨newest, ?_, hsource, hkey, fun r' hr' hauto' hkey' ↦ ?_⟩
  · exact (mem_dedupe_iff_eq_newest answers hgroup (AutoKey.holds_iff.2 ⟨hsource, hkey⟩)).2 rfl
  · rw [← hkey'] at hgroup
    exact createdAt_le_newest answers hr' hauto' hgroup

/-- **At most one row of a key is left.** -/
theorem length_filter_holds_le_one (answers : QueryAnswers t) (k : AutoKey) :
    ((dedupeAutoBlockRules t answers).rows.filter k.holds).length ≤ 1 := by
  rcases hgroup : answers.group k with _ | ⟨newest, stale⟩
  · rw [Nat.le_one_iff_eq_zero_or_eq_one, List.length_eq_zero_iff, List.filter_eq_nil_iff]
    refine Or.inl fun r hr hholds ↦ ?_
    have hmem : r ∈ answers.group k := answers.mem_group.2
      ⟨(mem_dedupe_iff answers).1 hr |>.1, AutoKey.holds_iff.1 hholds⟩
    rw [hgroup] at hmem
    cases hmem
  · have hnodup : ((dedupeAutoBlockRules t answers).rows.filter k.holds).Nodup :=
      ((dedupeAutoBlockRules t answers).nodup_id.of_map _).filter _
    have hsub : (dedupeAutoBlockRules t answers).rows.filter k.holds ⊆ [newest] := by
      intro r hr
      obtain ⟨hr, hholds⟩ := List.mem_filter.1 hr
      exact List.mem_singleton.2 ((mem_dedupe_iff_eq_newest answers hgroup hholds).1 hr)
    exact (List.subperm_of_subset hnodup hsub).length_le

/-- A row of another source is in no group. -/
theorem id_not_mem_stalePks (answers : QueryAnswers t) {r : BlockRule} (hr : r ∈ t.rows)
    (hsource : r.source ≠ .auto) : r.id ∉ answers.stalePks := by
  rw [answers.mem_stalePks hr]
  exact fun h ↦ hsource (answers.mem_group.1 (List.mem_of_mem_drop h)).2.1

/-- **Rows of other sources are left alone.** -/
theorem filter_source_ne_dedupe (answers : QueryAnswers t) :
    ((dedupeAutoBlockRules t answers).rows.filter fun r ↦ r.source ≠ .auto) =
      t.rows.filter fun r ↦ r.source ≠ .auto := by
  rw [dedupeAutoBlockRules]
  dsimp only
  split_ifs
  · rfl
  · rw [List.filter_filter]
    refine List.filter_congr fun r hr ↦ ?_
    rcases eq_or_ne r.source .auto with hauto | hsource
    · rw [decide_eq_false (not_not_intro hauto), Bool.false_and]
    · rw [decide_eq_true (id_not_mem_stalePks answers hr hsource), Bool.and_true]

/-- **Where every key has one row nothing is collected.** -/
theorem stalePks_eq_nil (answers : QueryAnswers t)
    (h : ∀ k : AutoKey, (t.rows.filter k.holds).length ≤ 1) : answers.stalePks = [] := by
  rw [QueryAnswers.stalePks, List.flatMap_eq_nil_iff]
  intro k _
  refine List.drop_of_length_le ?_
  have hsame : t.autoGroup k = t.rows.filter k.holds := by
    rw [BlockRuleTable.autoGroup, BlockRuleTable.autoRules, List.filter_filter]
    refine List.filter_congr fun r _ ↦ ?_
    rw [Bool.eq_iff_iff, AutoKey.holds_iff, Bool.and_eq_true, decide_eq_true_eq,
      decide_eq_true_eq, and_comm]
  rw [List.length_map, (answers.group_perm k).length_eq, hsame]
  exact h k

/-! ### The theorem -/

/-- **The migration is exact.** Whatever the database answers where SQL leaves it open: an auto key
names at most one row afterwards, so the table takes the constraint; every key of an auto row keeps
one, and it is a newest one; whatever is deleted is an auto row of a key that keeps one; the rows of
other sources are the same rows in the same order; and a second run deletes nothing. -/
theorem dedupe_migration_exact (t : BlockRuleTable) (answers : QueryAnswers t) :
    (∀ allowRules, Db.Constrained ⟨(dedupeAutoBlockRules t answers).rows, allowRules⟩) ∧
    (∀ r ∈ t.rows, r.source = .auto → ∃ s ∈ (dedupeAutoBlockRules t answers).rows,
      s.source = .auto ∧ s.autoKey = r.autoKey ∧ ∀ r' ∈ t.rows, r'.source = .auto →
        r'.autoKey = r.autoKey → r'.createdAt ≤ s.createdAt) ∧
    (∀ r ∈ t.rows, r ∉ (dedupeAutoBlockRules t answers).rows → r.source = .auto ∧
      ∃ s ∈ (dedupeAutoBlockRules t answers).rows, s.source = .auto ∧ s.autoKey = r.autoKey) ∧
    (dedupeAutoBlockRules t answers).rows.Sublist t.rows ∧
    ((dedupeAutoBlockRules t answers).rows.filter fun r ↦ r.source ≠ .auto) =
      (t.rows.filter fun r ↦ r.source ≠ .auto) ∧
    ∀ again : QueryAnswers (dedupeAutoBlockRules t answers), again.stalePks = [] ∧
      dedupeAutoBlockRules (dedupeAutoBlockRules t answers) again =
        dedupeAutoBlockRules t answers := by
  refine ⟨fun allowRules ↦ ⟨?_, length_filter_holds_le_one answers⟩,
    fun r hr hauto ↦ exists_newest answers hr hauto, fun r hr hgone ↦ ?_, dedupe_sublist answers,
    filter_source_ne_dedupe answers, fun again ↦ ?_⟩
  · intro r hr r' hr' hid
    exact (dedupeAutoBlockRules t answers).eq_of_id hr hr' hid
  · -- a row of another source is never deleted
    have hauto : r.source = .auto := by
      by_contra hsource
      have hkept : r ∈ t.rows.filter fun r ↦ r.source ≠ .auto :=
        List.mem_filter.2 ⟨hr, decide_eq_true hsource⟩
      rw [← filter_source_ne_dedupe answers] at hkept
      exact hgone (List.mem_filter.1 hkept).1
    obtain ⟨s, hs, hsource, hkey, -⟩ := exists_newest answers hr hauto
    exact ⟨hauto, s, hs, hsource, hkey⟩
  · have hnone := stalePks_eq_nil again (length_filter_holds_le_one answers)
    refine ⟨hnone, ?_⟩
    rw [dedupeAutoBlockRules]
    simp only [hnone, if_true]

/-- A rule for one address, and all but its source, its key and its creation fixed. -/
def duplicateRule (source : RuleSource) (id : Uuid) (createdAt : ℚ) : BlockRule where
  ruleType := .ip
  matchType := .exact
  pattern := "192.0.2.1"
  id
  name := "Auto: UA rotation from 192.0.2.1"
  action := .challenge
  priority := 100
  isActive := true
  source
  expiresAt := none
  reviewStatus := .notApplicable
  reviewedAt := none
  detectors := ""
  createdAt

/-- Three auto rows of one key, two of them of one instant, between two admin rows of that key. -/
def tiedRules : BlockRuleTable where
  rows := [duplicateRule .admin 1 5, duplicateRule .auto 2 7, duplicateRule .auto 3 9,
    duplicateRule .auto 4 9, duplicateRule .admin 5 5]
  nodup_id := by decide

example :
    (dedupeAutoBlockRules tiedRules (.inOrder tiedRules)).rows.map BlockRule.id = [1, 3, 5] := by
  decide +kernel

end DjangoWaf
