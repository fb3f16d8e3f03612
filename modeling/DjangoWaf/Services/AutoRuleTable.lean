import DjangoWaf.Services.AutoRules

/-!
# The table of auto rules

The two constraints the database holds the table of block rules to: a primary key names one row, and
the partial unique constraint of `BlockRule.Meta` allows one auto rule for each rule type, pattern
and action (`Db.Constrained`).

In a constrained table a write has no duplicates to delete, so it does one of two things: it
**refreshes** the row of its key, or it **appends** a new one (`mem_getOrCreateAutoRule`). Either
way the constraints survive it.
-/

namespace DjangoWaf

variable (cf : Conf)

/-! ### Auto keys -/

/-- The machine key of an auto rule: what the unique constraint of the table ranges over. -/
structure AutoKey where
  ruleType : RuleType
  pattern : String
  action : RuleAction
  deriving DecidableEq

/-- A row that is the auto rule of a key. -/
def AutoKey.holds (k : AutoKey) (r : BlockRule) : Bool :=
  r.ruleType = k.ruleType && r.pattern = k.pattern && r.source = .auto && r.action = k.action

/-- The key of a row. -/
def BlockRule.autoKey (r : BlockRule) : AutoKey := ⟨r.ruleType, r.pattern, r.action⟩

/-- The key a write looks its row up by. -/
def AutoRuleWrite.key (a : AutoRuleWrite) : AutoKey := ⟨a.ruleType, a.pattern, a.action⟩

theorem AutoRuleWrite.finds_eq (a : AutoRuleWrite) : a.finds = a.key.holds := rfl

theorem AutoKey.holds_iff {k : AutoKey} {r : BlockRule} :
    k.holds r = true ↔ r.source = .auto ∧ r.autoKey = k := by
  rcases k with ⟨ruleType, pattern, action⟩
  simp only [AutoKey.holds, BlockRule.autoKey, Bool.and_eq_true, decide_eq_true_eq,
    AutoKey.mk.injEq]
  tauto

/-- A row is of one key. -/
theorem AutoKey.holds_of_ne {k k' : AutoKey} (h : k ≠ k') {r : BlockRule}
    (hr : k.holds r = true) : k'.holds r = false := by
  rw [← Bool.not_eq_true]
  intro hr'
  exact h ((AutoKey.holds_iff.1 hr).2.symm.trans (AutoKey.holds_iff.1 hr').2)

/-- A row of another source is not the auto rule of any key. -/
theorem AutoKey.holds_of_source {k : AutoKey} {r : BlockRule} (h : r.source ≠ .auto) :
    k.holds r = false := by
  rw [← Bool.not_eq_true]
  exact fun hr ↦ h (AutoKey.holds_iff.1 hr).1

/-! ### Constraints -/

/-- The constraints of the table: a primary key names one row, and so does an auto key. -/
structure Db.Constrained (db : Db) : Prop where
  primary : ∀ r ∈ db.blockRules, ∀ r' ∈ db.blockRules, r.id = r'.id → r = r'
  unique : ∀ k : AutoKey, (db.blockRules.filter k.holds).length ≤ 1

/-- Where at most one row passes a test, two rows that pass it are one. -/
theorem eq_of_length_filter_le_one {α : Type*} {p : α → Bool} {rows : List α} {r r' : α}
    (hle : (rows.filter p).length ≤ 1) (hr : r ∈ rows) (hr' : r' ∈ rows) (hp : p r = true)
    (hp' : p r' = true) : r = r' := by
  have hmem : r ∈ rows.filter p := List.mem_filter.2 ⟨hr, hp⟩
  have hmem' : r' ∈ rows.filter p := List.mem_filter.2 ⟨hr', hp'⟩
  rcases hrows : rows.filter p with - | ⟨s, - | ⟨t, rest⟩⟩
  · rw [hrows] at hmem
    cases hmem
  · rw [hrows, List.mem_singleton] at hmem hmem'
    rw [hmem, hmem']
  · rw [hrows, List.length_cons, List.length_cons] at hle
    omega

/-- An auto key names one row. -/
theorem Db.Constrained.eq_of_holds {db : Db} (h : db.Constrained) {k : AutoKey} {r r' : BlockRule}
    (hr : r ∈ db.blockRules) (hr' : r' ∈ db.blockRules) (hk : k.holds r = true)
    (hk' : k.holds r' = true) : r = r' :=
  eq_of_length_filter_le_one (h.unique k) hr hr' hk hk'

/-- **Rows rewritten in place** keep the constraints, when they keep their primary keys and get no
auto key they did not have. -/
theorem Db.Constrained.map {db db' : Db} (h : db.Constrained) {f : BlockRule → BlockRule}
    (hid : ∀ r ∈ db.blockRules, (f r).id = r.id)
    (hkey : ∀ r ∈ db.blockRules, ∀ k : AutoKey, k.holds (f r) = true → k.holds r = true)
    (hrules : db'.blockRules = db.blockRules.map f) : db'.Constrained where
  primary := by
    rw [hrules]
    intro r₁ hr₁ r₂ hr₂ heq
    obtain ⟨s₁, hs₁, rfl⟩ := List.mem_map.1 hr₁
    obtain ⟨s₂, hs₂, rfl⟩ := List.mem_map.1 hr₂
    rw [hid s₁ hs₁, hid s₂ hs₂] at heq
    rw [h.primary s₁ hs₁ s₂ hs₂ heq]
  unique k := by
    have hle := List.countP_mono_left (l := db.blockRules) fun r hr ↦ hkey r hr k
    rw [hrules, ← List.countP_eq_length_filter, List.countP_map]
    exact hle.trans (List.countP_eq_length_filter ▸ h.unique k)

/-- Deduplication deletes rows of its own key only. -/
theorem mem_deduplicate {a : AutoRuleWrite} {rules : List BlockRule} {r : BlockRule} :
    (r ∈ a.deduplicate rules → r ∈ rules) ∧
      (r ∈ rules → a.finds r = false → r ∈ a.deduplicate rules) := by
  rw [AutoRuleWrite.deduplicate]
  split
  · refine ⟨List.mem_of_mem_filter, fun hr hfinds ↦ List.mem_filter.2 ⟨hr, ?_⟩⟩
    simp [hfinds]
  · exact ⟨fun hr ↦ hr, fun hr _ ↦ hr⟩

/-- The table after a write. -/
theorem blockRules_getOrCreateAutoRule_eq (env : Env) (a : AutoRuleWrite) (w : World) :
    (getOrCreateAutoRule cf env a w).2.db.blockRules =
      (a.updateOrCreate cf env (if (w.db.blockRules.filter a.finds).length ≤ 1 then w.db.blockRules
        else a.deduplicate w.db.blockRules)).2 := by
  set rules' := if (w.db.blockRules.filter a.finds).length ≤ 1 then w.db.blockRules
    else a.deduplicate w.db.blockRules
  obtain ⟨n, hn⟩ := invalidateRuleCache_iterate_eq cf (w.db.blockRules.length - rules'.length + 1)
    (w.withBlockRules (a.updateOrCreate cf env rules').2)
  exact congrArg (fun w ↦ w.db.blockRules) hn

/-- What a write makes of a row that is there. -/
def AutoRuleWrite.rewrite (a : AutoRuleWrite) (r : BlockRule) : BlockRule :=
  if a.finds r then a.refresh cf r else r

/-- A row keeps its primary key and its auto key. -/
theorem AutoRuleWrite.rewrite_key (a : AutoRuleWrite) (r : BlockRule) :
    (a.rewrite cf r).id = r.id ∧ ∀ k : AutoKey, k.holds (a.rewrite cf r) = k.holds r := by
  rw [AutoRuleWrite.rewrite]
  split
  · exact ⟨rfl, fun _ ↦ rfl⟩
  · exact ⟨rfl, fun _ ↦ rfl⟩

variable {cf} {env : Env} {a : AutoRuleWrite} {w : World}

/-- **What a write does to a constrained table**: the row of its key is refreshed in place, or a new
one is appended. -/
theorem Db.Constrained.blockRules_eq (h : w.db.Constrained) :
    (getOrCreateAutoRule cf env a w).2.db.blockRules = w.db.blockRules.map (a.rewrite cf) ∧
        (∃ r ∈ w.db.blockRules, a.finds r = true) ∨
      (getOrCreateAutoRule cf env a w).2.db.blockRules =
          w.db.blockRules ++ [a.create cf env.freshId env.now] ∧
        ∀ r ∈ w.db.blockRules, a.finds r = false := by
  have hle : (w.db.blockRules.filter a.finds).length ≤ 1 := h.unique a.key
  rw [blockRules_getOrCreateAutoRule_eq, if_pos hle, AutoRuleWrite.updateOrCreate]
  split
  · rename_i r hr
    exact Or.inl ⟨rfl, r, List.mem_of_find?_eq_some hr, List.find?_some hr⟩
  · rename_i hnone
    refine Or.inr ⟨rfl, fun r hr ↦ ?_⟩
    rw [← Bool.not_eq_true]
    exact List.find?_eq_none.1 hnone r hr

/-- **The rows after a write**: those there were, rewritten, and the new one of a key that had
none. -/
theorem Db.Constrained.mem_getOrCreateAutoRule (h : w.db.Constrained) {r' : BlockRule} :
    r' ∈ (getOrCreateAutoRule cf env a w).2.db.blockRules ↔
      (∃ r ∈ w.db.blockRules, a.rewrite cf r = r') ∨
        (∀ r ∈ w.db.blockRules, a.finds r = false) ∧ r' = a.create cf env.freshId env.now := by
  rcases h.blockRules_eq with ⟨hrules, r₀, hr₀, hfinds⟩ | ⟨hrules, hnone⟩
  · rw [hrules, List.mem_map]
    refine ⟨Or.inl, ?_⟩
    rintro (hr' | ⟨hnone, -⟩)
    · exact hr'
    · rw [hnone r₀ hr₀] at hfinds
      cases hfinds
  · have hsame : ∀ r ∈ w.db.blockRules, a.rewrite cf r = r := fun r hr ↦ by
      rw [AutoRuleWrite.rewrite, if_neg (by rw [hnone r hr]; exact Bool.false_ne_true)]
    rw [hrules, List.mem_append, List.mem_singleton]
    constructor
    · rintro (hr' | rfl)
      · exact Or.inl ⟨r', hr', hsame r' hr'⟩
      · exact Or.inr ⟨hnone, rfl⟩
    · rintro (⟨r, hr, rfl⟩ | ⟨-, rfl⟩)
      · rw [hsame r hr]
        exact Or.inl hr
      · exact Or.inr rfl

/-- The row with the primary key of a row there was is what the write made of it. -/
theorem Db.Constrained.eq_rewrite (h : w.db.Constrained)
    (hfresh : ∀ r ∈ w.db.blockRules, r.id ≠ env.freshId) {r r' : BlockRule}
    (hr : r ∈ w.db.blockRules) (hr' : r' ∈ (getOrCreateAutoRule cf env a w).2.db.blockRules)
    (hid : r'.id = r.id) : r' = a.rewrite cf r := by
  rcases h.mem_getOrCreateAutoRule.1 hr' with ⟨s, hs, rfl⟩ | ⟨-, rfl⟩
  · rw [(a.rewrite_key cf s).1] at hid
    rw [h.primary s hs r hr hid]
  · exact absurd hid.symm (hfresh r hr)

/-- **The rule a write returns** is the row of its key in the table it leaves: the one it found,
rewritten, or the new one. -/
theorem Db.Constrained.written (h : w.db.Constrained) :
    (∃ r ∈ w.db.blockRules, a.finds r = true ∧
        (getOrCreateAutoRule cf env a w).1 = a.rewrite cf r) ∨
      (∀ r ∈ w.db.blockRules, a.finds r = false) ∧
        (getOrCreateAutoRule cf env a w).1 = a.create cf env.freshId env.now := by
  have hle : (w.db.blockRules.filter a.finds).length ≤ 1 := h.unique a.key
  have hrule : (getOrCreateAutoRule cf env a w).1 = (a.updateOrCreate cf env
      (if (w.db.blockRules.filter a.finds).length ≤ 1 then w.db.blockRules
        else a.deduplicate w.db.blockRules)).1 := rfl
  rw [hrule, if_pos hle, AutoRuleWrite.updateOrCreate]
  split
  · rename_i r hr
    have hfinds := List.find?_some hr
    refine Or.inl ⟨r, List.mem_of_find?_eq_some hr, hfinds, ?_⟩
    rw [AutoRuleWrite.rewrite, if_pos hfinds]
  · rename_i hnone
    refine Or.inr ⟨fun r hr ↦ ?_, rfl⟩
    rw [← Bool.not_eq_true]
    exact List.find?_eq_none.1 hnone r hr

/-- The row a write returns is in the table it leaves, and has the key of the write. -/
theorem Db.Constrained.mem_written (h : w.db.Constrained) :
    (getOrCreateAutoRule cf env a w).1 ∈ (getOrCreateAutoRule cf env a w).2.db.blockRules ∧
      a.key.holds (getOrCreateAutoRule cf env a w).1 = true := by
  rcases h.written with ⟨r, hr, hfinds, hrule⟩ | ⟨hnone, hrule⟩
  · rw [hrule, (a.rewrite_key cf r).2]
    exact ⟨h.mem_getOrCreateAutoRule.2 (Or.inl ⟨r, hr, rfl⟩), hfinds⟩
  · rw [hrule]
    exact ⟨h.mem_getOrCreateAutoRule.2 (Or.inr ⟨hnone, rfl⟩), AutoKey.holds_iff.2 ⟨rfl, rfl⟩⟩

/-- **A write keeps the constraints**, when the primary key of a new row is new. -/
theorem Db.Constrained.getOrCreateAutoRule (h : w.db.Constrained)
    (hfresh : ∀ r ∈ w.db.blockRules, r.id ≠ env.freshId) :
    (getOrCreateAutoRule cf env a w).2.db.Constrained where
  primary := by
    intro r₁ hr₁ r₂ hr₂ hid
    rw [h.mem_getOrCreateAutoRule] at hr₁ hr₂
    rcases hr₁ with ⟨s₁, hs₁, rfl⟩ | ⟨-, rfl⟩ <;> rcases hr₂ with ⟨s₂, hs₂, rfl⟩ | ⟨-, rfl⟩
    · rw [(a.rewrite_key cf s₁).1, (a.rewrite_key cf s₂).1] at hid
      rw [h.primary s₁ hs₁ s₂ hs₂ hid]
    · exact absurd ((a.rewrite_key cf s₁).1.symm.trans hid) (hfresh s₁ hs₁)
    · exact absurd ((a.rewrite_key cf s₂).1.symm.trans hid.symm) (hfresh s₂ hs₂)
    · rfl
  unique k := by
    rcases h.blockRules_eq with ⟨hrules, -⟩ | ⟨hrules, hnone⟩
    · have hholds : (k.holds ∘ a.rewrite cf) = k.holds := funext fun r ↦ (a.rewrite_key cf r).2 k
      rw [hrules, List.filter_map, hholds, List.length_map]
      exact h.unique k
    · rw [hrules, List.filter_append, List.length_append]
      by_cases hk : a.key = k
      · have hempty : w.db.blockRules.filter k.holds = [] := by
          rw [List.filter_eq_nil_iff]
          intro r hr
          rw [← hk, ← a.finds_eq, hnone r hr]
          exact Bool.false_ne_true
        rw [hempty, List.length_nil, Nat.zero_add]
        exact List.length_filter_le _ [_]
      · have hnew : ¬k.holds (a.create cf env.freshId env.now) = true := by
          rw [AutoKey.holds_of_ne hk (AutoKey.holds_iff.2 ⟨rfl, rfl⟩)]
          exact Bool.false_ne_true
        rw [List.filter_cons_of_neg hnew, List.filter_nil, List.length_nil, Nat.add_zero]
        exact h.unique k

end DjangoWaf
