import DjangoWaf.RuleOrder
import DjangoWaf.Services.RuleWrites

/-!
# Does an export, imported, enforce the same?

`django_waf_export_rules` writes the rows of both tables in the order of their models: block rules
by priority and then from the newest, allow rules by name. `django_waf_import_rules` creates a row
for an entry whose rule type, match type and pattern no row has yet, rows of the same file included.
So of the rows that share these three, the first one exported is the one that arrives, and an allow
rule arrives without its expiry, which the export leaves out.

`transfer` is the tables an empty installation has afterwards, and `ruleOutcome` what the two steps
over the rules make of a request.

* The **block rules** make the same of every request at every later time, in whatever orders the two
  databases return rows of equal priority, exactly when the rows that decide a request agree, and
  where none of them arrives in force, those that decide in their place agree with them
  (`BlocksKept`).
* The **allow rules** do so, in whatever orders rows of one name come, when rows in force that share
  a name are interchangeable, no active row that arrives expires, and every row that is ever in
  force again is covered by the one that arrives for its criterion (`AllowsKept`).
-/

namespace DjangoWaf

open FirstMatch

/-! ### Export -/

/-- The order of `BlockRule.Meta`. -/
def BlockRule.Before (r r' : BlockRule) : Prop :=
  r.priority < r'.priority ∨ (r.priority = r'.priority ∧ r'.createdAt ≤ r.createdAt)

instance : DecidableRel BlockRule.Before :=
  fun r r' ↦ inferInstanceAs (Decidable (r.priority < r'.priority ∨
    (r.priority = r'.priority ∧ r'.createdAt ≤ r.createdAt)))

/-- The order of `AllowRule.Meta`. -/
def AllowRule.Before (r r' : AllowRule) : Prop := r.name.toList ≤ r'.name.toList

instance : DecidableRel AllowRule.Before :=
  fun r r' ↦ inferInstanceAs (Decidable (r.name.toList ≤ r'.name.toList))

instance : Std.Total BlockRule.Before where
  total r r' := by
    rcases lt_trichotomy r.priority r'.priority with hlt | heq | hlt
    · exact .inl (.inl hlt)
    · exact (le_total r'.createdAt r.createdAt).imp (fun hle ↦ .inr ⟨heq, hle⟩)
        fun hle ↦ .inr ⟨heq.symm, hle⟩
    · exact .inr (.inl hlt)

instance : IsTrans BlockRule BlockRule.Before where
  trans r r' r'' h h' := by
    rcases h with hlt | ⟨heq, hle⟩
    · rcases h' with hlt' | ⟨heq', -⟩
      · exact .inl (hlt.trans hlt')
      · exact .inl (heq' ▸ hlt)
    · rcases h' with hlt' | ⟨heq', hle'⟩
      · exact .inl (heq ▸ hlt')
      · exact .inr ⟨heq.trans heq', hle'.trans hle⟩

instance : Std.Total AllowRule.Before where
  total r r' := le_total r.name.toList r'.name.toList

instance : IsTrans AllowRule AllowRule.Before where
  trans _ _ _ h h' := le_trans h h'

theorem BlockRule.Before.refl (r : BlockRule) : r.Before r := .inr ⟨rfl, le_rfl⟩

theorem BlockRule.Before.priority_le {r r' : BlockRule} (h : r.Before r') :
    r.priority ≤ r'.priority := by
  rcases h with hlt | ⟨heq, -⟩
  · exact hlt.le
  · exact heq.le

/-- `_serialise_block_rule`, as the importer reads it for a row with some primary key. -/
def BlockRule.serialise (freshId : Uuid) (r : BlockRule) : ImportBlockEntry :=
  { toCriterion := r.toCriterion, name := r.name, action := r.action, priority := some r.priority,
    isActive := some r.isActive, expiresAt := r.expiresAt, reviewStatus := some r.reviewStatus,
    freshId }

/-- `_serialise_allow_rule`, as the importer reads it for a row with some primary key. -/
def AllowRule.serialise (freshId : Uuid) (r : AllowRule) : ImportAllowEntry :=
  { toCriterion := r.toCriterion, name := r.name, verifyRdns := some r.verifyRdns,
    rdnsPattern := some r.rdnsPattern, isActive := some r.isActive, freshId }

/-- `BlockRule.objects.all()`. -/
def Db.exportedBlockRules (db : Db) : List BlockRule := db.blockRules.insertionSort BlockRule.Before

/-- `AllowRule.objects.all()`. -/
def Db.exportedAllowRules (db : Db) : List AllowRule := db.allowRules.insertionSort AllowRule.Before

/-- An export of everything, imported into an empty installation that names the new rows after the
old ones. -/
def transfer (ids : Uuid ↪ Uuid) (now : ℚ) (db : Db) : Db :=
  (importRules true false now (db.exportedBlockRules.map fun r ↦ r.serialise (ids r.id))
    (db.exportedAllowRules.map fun r ↦ r.serialise (ids r.id)) ⟨[], []⟩).db

/-! ### What arrives -/

section Arrives

variable {α κ : Type*} [DecidableEq κ] (key : α → κ)

/-- The entries an import creates rows for: the first of each key that is not there. -/
def firstOfEach : List κ → List α → List α
  | _, [] => []
  | keys, a :: l =>
    if keys.contains (key a) then firstOfEach keys l else a :: firstOfEach (key a :: keys) l

variable {key}

theorem sublist_firstOfEach (keys : List κ) (l : List α) : (firstOfEach key keys l).Sublist l := by
  induction l generalizing keys with
  | nil => exact List.Sublist.refl _
  | cons a l ih =>
    rw [firstOfEach]
    split
    · exact (ih keys).cons a
    · exact (ih _).cons_cons a

/-- Of each new key one entry arrives, and it is as early as any. -/
theorem exists_mem_firstOfEach {r : α → α → Prop} (hrefl : ∀ a, r a a) {keys : List κ} {l : List α}
    (hl : l.Pairwise r) {a : α} (ha : a ∈ l) (hkey : key a ∉ keys) :
    ∃ b ∈ firstOfEach key keys l, key b = key a ∧ r b a := by
  induction l generalizing keys with
  | nil => cases ha
  | cons c l ih =>
    obtain ⟨hc, hl⟩ := List.pairwise_cons.1 hl
    by_cases hca : key c = key a
    · have hnew : ¬ keys.contains (key c) = true := by
        rw [hca, List.contains_iff_mem]
        exact hkey
      refine ⟨c, ?_, hca, ?_⟩
      · rw [firstOfEach, if_neg hnew]
        exact List.mem_cons_self
      · rcases List.mem_cons.1 ha with rfl | ha
        · exact hrefl _
        · exact hc a ha
    · have hal : a ∈ l := by
        rcases List.mem_cons.1 ha with rfl | ha
        · exact absurd rfl hca
        · exact ha
      rw [firstOfEach]
      split
      · exact ih hl hal hkey
      · have hkey' : key a ∉ key c :: keys := by
          rw [List.mem_cons, not_or]
          exact ⟨fun h ↦ hca h.symm, hkey⟩
        obtain ⟨b, hb, hba⟩ := ih hl hal hkey'
        exact ⟨b, List.mem_cons_of_mem c hb, hba⟩

/-- What arrives has different keys, none of which was there. -/
theorem nodup_firstOfEach (keys : List κ) (l : List α) :
    (∀ a ∈ firstOfEach key keys l, key a ∉ keys) ∧ ((firstOfEach key keys l).map key).Nodup := by
  induction l generalizing keys with
  | nil => exact ⟨fun _ h ↦ absurd h List.not_mem_nil, List.nodup_nil⟩
  | cons a l ih =>
    rw [firstOfEach]
    split
    · exact ih keys
    · rename_i hnew
      rw [List.contains_iff_mem] at hnew
      obtain ⟨hkeys, hnodup⟩ := ih (key a :: keys)
      have hrest : ∀ b ∈ firstOfEach key (key a :: keys) l, key b ≠ key a ∧ key b ∉ keys := by
        intro b hb
        have hno := hkeys b hb
        rwa [List.mem_cons, not_or] at hno
      refine ⟨fun b hb ↦ ?_, List.nodup_cons.2 ⟨fun hmem ↦ ?_, hnodup⟩⟩
      · rcases List.mem_cons.1 hb with rfl | hb
        · exact hnew
        · exact (hrest b hb).2
      · obtain ⟨b, hb, hkey⟩ := List.mem_map.1 hmem
        exact (hrest b hb).1 hkey

/-- One entry of each key arrives. -/
theorem eq_of_mem_firstOfEach {keys : List κ} {l : List α} {a b : α}
    (ha : a ∈ firstOfEach key keys l) (hb : b ∈ firstOfEach key keys l) (h : key a = key b) :
    a = b :=
  List.inj_on_of_nodup_map (nodup_firstOfEach keys l).2 ha hb h

theorem firstOfEach_map {β : Type*} (f : β → α) (keys : List κ) (l : List β) :
    firstOfEach key keys (l.map f) = (firstOfEach (fun b ↦ key (f b)) keys l).map f := by
  induction l generalizing keys with
  | nil => rfl
  | cons b l ih =>
    rw [List.map_cons, firstOfEach, firstOfEach]
    split
    · exact ih keys
    · rw [ih, List.map_cons]

end Arrives

/-- The next row of a list of different ones is not among those before it, and can join them. -/
theorem nodup_map_append_cons {α β κ : Type*} {f : α → κ} {g : β → κ} {rows : List α} {row : α}
    {rest : List β} (h : (rows.map f ++ f row :: rest.map g).Nodup) :
    f row ∉ rows.map f ∧ ((rows ++ [row]).map f ++ rest.map g).Nodup := by
  refine ⟨fun hmem ↦ (List.nodup_append.1 h).2.2 _ hmem _ List.mem_cons_self rfl, ?_⟩
  rw [List.map_append, List.append_assoc]
  exact h

/-- The block rules of an import in the default mode. -/
theorem importBlockRules_eq (now : ℚ) (keys : List Criterion) {entries : List ImportBlockEntry}
    {db : Db} (hids : (db.blockRules.map BlockRule.id ++
      entries.map ImportBlockEntry.freshId).Nodup) :
    (importBlockRules true now keys entries db).db = { db with
      blockRules := db.blockRules ++
        (firstOfEach ImportBlockEntry.toCriterion keys entries).map
          (ImportBlockEntry.toRow now) } := by
  induction entries generalizing keys db with
  | nil =>
    rw [firstOfEach, List.map_nil, List.append_nil]
    rfl
  | cons e entries ih =>
    rw [importBlockRules, firstOfEach, Bool.true_and]
    split
    · refine ih keys (hids.sublist ?_)
      exact (List.Sublist.refl _).append ((List.sublist_cons_self e entries).map _)
    · obtain ⟨hnew, hids'⟩ := @nodup_map_append_cons _ _ _ _ _ _ (e.toRow now) _ hids
      have hrest := @ih (e.toCriterion :: keys)
        { db with blockRules := db.blockRules ++ [e.toRow now] } hids'
      rw [Written.andThen, saveBlockRule, upsert_of_not_mem hnew]
      rw [hrest, List.append_assoc]
      rfl

/-- The allow rules of an import in the default mode. -/
theorem importAllowRules_eq (keys : List Criterion) {entries : List ImportAllowEntry}
    {db : Db} (hids : (db.allowRules.map AllowRule.id ++
      entries.map ImportAllowEntry.freshId).Nodup) :
    (importAllowRules true keys entries db).db = { db with allowRules := db.allowRules ++
      (firstOfEach ImportAllowEntry.toCriterion keys entries).map ImportAllowEntry.toRow } := by
  induction entries generalizing keys db with
  | nil =>
    rw [firstOfEach, List.map_nil, List.append_nil]
    rfl
  | cons e entries ih =>
    rw [importAllowRules, firstOfEach, Bool.true_and]
    split
    · refine ih keys (hids.sublist ?_)
      exact (List.Sublist.refl _).append ((List.sublist_cons_self e entries).map _)
    · obtain ⟨hnew, hids'⟩ := @nodup_map_append_cons _ _ _ _ _ _ e.toRow _ hids
      have hrest := @ih (e.toCriterion :: keys)
        { db with allowRules := db.allowRules ++ [e.toRow] } hids'
      rw [Written.andThen, saveAllowRule, upsert_of_not_mem hnew]
      rw [hrest, List.append_assoc]
      rfl

/-- The row that arrives for a block rule. -/
def BlockRule.arrived (ids : Uuid ↪ Uuid) (now : ℚ) (r : BlockRule) : BlockRule :=
  (r.serialise (ids r.id)).toRow now

/-- The row that arrives for an allow rule. -/
def AllowRule.arrived (ids : Uuid ↪ Uuid) (r : AllowRule) : AllowRule :=
  (r.serialise (ids r.id)).toRow

/-- Primary keys name one row. -/
structure Db.Keyed (db : Db) : Prop where
  block : (db.blockRules.map BlockRule.id).Nodup
  allow : (db.allowRules.map AllowRule.id).Nodup

/-- **The tables after a transfer**: the first rows exported of each criterion. -/
theorem transfer_eq (ids : Uuid ↪ Uuid) (now : ℚ) {db : Db} (hkeyed : db.Keyed) :
    transfer ids now db =
      ⟨(firstOfEach BlockRule.toCriterion [] db.exportedBlockRules).map (BlockRule.arrived ids now),
        (firstOfEach AllowRule.toCriterion [] db.exportedAllowRules).map
          (AllowRule.arrived ids)⟩ := by
  have hblock : ((db.exportedBlockRules.map fun r ↦ r.serialise (ids r.id)).map
      ImportBlockEntry.freshId).Nodup := by
    rw [List.map_map]
    have hnodup := hkeyed.block.map ids.injective
    rw [List.map_map] at hnodup
    exact ((List.perm_insertionSort BlockRule.Before db.blockRules).map _).nodup_iff.2 hnodup
  have hallow : ((db.exportedAllowRules.map fun r ↦ r.serialise (ids r.id)).map
      ImportAllowEntry.freshId).Nodup := by
    rw [List.map_map]
    have hnodup := hkeyed.allow.map ids.injective
    rw [List.map_map] at hnodup
    exact ((List.perm_insertionSort AllowRule.Before db.allowRules).map _).nodup_iff.2 hnodup
  have hfirst := @importBlockRules_eq now [] _ ⟨[], []⟩ hblock
  have hsecond := fun blocks ↦ @importAllowRules_eq [] _ ⟨blocks, []⟩ hallow
  rw [firstOfEach_map] at hfirst
  simp only [firstOfEach_map] at hsecond
  simp only [transfer, importRules, Written.andThen, Written.nothing, if_true, Bool.false_eq_true,
    if_false, List.map_nil, hfirst, hsecond, List.nil_append, List.map_map]
  rfl

/-- The block rules that arrive. -/
def Db.arrivingBlockRules (db : Db) : List BlockRule :=
  firstOfEach BlockRule.toCriterion [] db.exportedBlockRules

/-- The allow rules that arrive. -/
def Db.arrivingAllowRules (db : Db) : List AllowRule :=
  firstOfEach AllowRule.toCriterion [] db.exportedAllowRules

theorem mem_of_mem_arrivingBlockRules {db : Db} {r : BlockRule} (h : r ∈ db.arrivingBlockRules) :
    r ∈ db.blockRules :=
  (List.mem_insertionSort _).1 ((sublist_firstOfEach _ _).subset h)

/-- For every block rule one arrives that matches alike and comes no later. -/
theorem exists_mem_arrivingBlockRules {db : Db} {r : BlockRule} (h : r ∈ db.blockRules) :
    ∃ k ∈ db.arrivingBlockRules, k.toCriterion = r.toCriterion ∧ k.priority ≤ r.priority := by
  obtain ⟨k, hk, hcriterion, hbefore⟩ := exists_mem_firstOfEach BlockRule.Before.refl
    (List.pairwise_insertionSort BlockRule.Before db.blockRules) ((List.mem_insertionSort _).2 h)
    (List.not_mem_nil (a := r.toCriterion))
  exact ⟨k, hk, hcriterion, hbefore.priority_le⟩

/-! ### What is enforced -/

variable (cf : Conf) (env : Env) (q : Query)

/-- The step over the block rules: the action of the one that matches. -/
def blockOutcome (rules : List CachedBlockRule) (redis : Redis) :
    Except PyError (Option RuleAction) :=
  (checkBlockRules cf env q.ipAddress q.userAgent rules redis).map fun m ↦ m.map fun m ↦ m.1.action

/-- The step over the allow rules: whether one matches. -/
def allowOutcome (rules : List CachedAllowRule) (redis : Redis) : Except PyError Bool :=
  (checkAllowRules cf env q.ipAddress q.userAgent rules redis).1.map Option.isSome

/-- The steps over the rules. -/
def ruleOutcome (rules : RuleSet) (redis : Redis) :
    Except PyError Bool × Except PyError (Option RuleAction) :=
  (allowOutcome cf env q rules.allowRules redis, blockOutcome cf env q rules.blockRules redis)

/-! ### The block rules -/

/-- What the step comes to at the row that decides. -/
def BlockRule.ending (r : BlockRule) : Except PyError RuleAction :=
  if r.toCriterion.raises cf then .error .patternError else .ok r.action

/-- The outcome of the step, by what it comes to at the row it finds. -/
def endingOutcome : Option (Except PyError RuleAction) → Except PyError (Option RuleAction)
  | none => .ok none
  | some ending => ending.map some

/-- The row that arrives for a row's criterion is not in force. -/
def BlockRule.Lost (r : BlockRule) (db : Db) (s : ℚ) : Prop :=
  ∀ k ∈ db.arrivingBlockRules, k.toCriterion = r.toCriterion → k.active s = false

/-- **The block rules come through a transfer**: at every later time the rows that decide a request
agree, and where none of them arrives in force, there are rows that decide in their place, and these
agree with them. -/
structure BlocksKept (now : ℚ) (db : Db) : Prop where
  ties : ∀ env q r r', now ≤ env.now → Decides cf env q db.blockRules r →
    Decides cf env q db.blockRules r' → r.ending cf = r'.ending cf
  lost : ∀ env q r, now ≤ env.now → Decides cf env q db.blockRules r →
    (∀ r', Decides cf env q db.blockRules r' → r'.Lost db env.now) →
    (∃ k, Decides cf env q db.arrivingBlockRules k) ∧
      ∀ k, Decides cf env q db.arrivingBlockRules k → k.ending cf = r.ending cf

section Blocks

variable {cf env q} {now : ℚ} {db : Db}

theorem endingOutcome_injective : Function.Injective endingOutcome := by
  rintro (- | e | action) (- | e' | action') h
  · rfl
  · cases h
  · exact absurd (Except.ok.inj h) (by simp)
  · cases h
  · rw [Except.error.inj h]
  · cases h
  · exact absurd (Except.ok.inj h) (by simp)
  · cases h
  · rw [Option.some.inj (Except.ok.inj h)]

/-- The outcome is what the first match of the table comes to. -/
theorem blockOutcome_ruleSet (db : Db) (redis : Redis) :
    blockOutcome cf env q (db.ruleSet env.now).blockRules redis =
      endingOutcome ((firstMatch BlockRule.priority (BlockRule.applies cf env q)
        (db.blockRules.filter fun r ↦ r.active env.now)).map (BlockRule.ending cf)) := by
  rw [blockOutcome, checkBlockRules_ruleSet]
  rcases firstMatch BlockRule.priority (BlockRule.applies cf env q)
    (db.blockRules.filter fun r ↦ r.active env.now) with - | r
  · rfl
  · rcases hraises : r.toCriterion.raises cf with - | - <;>
      simp only [Option.map_some, Option.elim_some, BlockRule.ending, hraises] <;> rfl

/-- A row decides after the transfer exactly when it is the row that arrives for one that decides
among those. -/
theorem decides_map_arrived_iff {ids : Uuid ↪ Uuid} {rows : List BlockRule} {r : BlockRule} :
    Decides cf env q (rows.map (BlockRule.arrived ids now)) r ↔
      ∃ k, Decides cf env q rows k ∧ k.arrived ids now = r := by
  have hmem : ∀ r, r ∈ (rows.map (BlockRule.arrived ids now)).filter (fun r ↦ r.active env.now) ↔
      ∃ k ∈ rows.filter (fun r ↦ r.active env.now), k.arrived ids now = r := by
    intro r
    rw [List.filter_map]
    exact List.mem_map
  constructor
  · rintro ⟨hr, happlies, hlow⟩
    obtain ⟨k, hk, rfl⟩ := (hmem r).1 hr
    exact ⟨k, ⟨hk, happlies, fun k' hk' happlies' ↦
      hlow (k'.arrived ids now) ((hmem _).2 ⟨k', hk', rfl⟩) happlies'⟩, rfl⟩
  · rintro ⟨k, ⟨hk, happlies, hlow⟩, rfl⟩
    refine ⟨(hmem _).2 ⟨k, hk, rfl⟩, happlies, fun r hr happlies' ↦ ?_⟩
    obtain ⟨k', hk', rfl⟩ := (hmem r).1 hr
    exact hlow k' hk' happlies'

/-- Rows that match alike apply alike while both are in force. -/
theorem applies_congr {r r' : BlockRule} (hcriterion : r.toCriterion = r'.toCriterion)
    (hactive : r.active env.now = true) (hactive' : r'.active env.now = true) :
    r.applies cf env q = r'.applies cf env q := by
  rw [BlockRule.active, Bool.and_eq_true] at hactive hactive'
  rw [BlockRule.applies, BlockRule.applies, hactive.2, hactive'.2, hcriterion]

/-- A row that decides and arrives in force has its place taken by a row that decides on both
sides. -/
theorem exists_decides_both {r : BlockRule} (h : Decides cf env q db.blockRules r)
    (hkept : ¬r.Lost db env.now) :
    ∃ k, Decides cf env q db.blockRules k ∧ Decides cf env q db.arrivingBlockRules k := by
  obtain ⟨hmem, happlies, hlow⟩ := h
  obtain ⟨hr, hactive⟩ := List.mem_filter.1 hmem
  rw [BlockRule.Lost] at hkept
  push Not at hkept
  obtain ⟨k, hk, hcriterion, hlive⟩ := hkept
  rw [Bool.ne_false_iff] at hlive
  obtain ⟨k', hk', hcriterion', hle⟩ := exists_mem_arrivingBlockRules hr
  -- one row arrives for each criterion
  obtain rfl : k = k' := eq_of_mem_firstOfEach hk hk' (hcriterion.trans hcriterion'.symm)
  have hkapplies : k.applies cf env q = true :=
    (applies_congr hcriterion hlive hactive).trans happlies
  have hkdb := mem_of_mem_arrivingBlockRules hk
  refine ⟨k, ⟨List.mem_filter.2 ⟨hkdb, hlive⟩, hkapplies, fun b hb hpb ↦
    hle.trans (hlow b hb hpb)⟩, List.mem_filter.2 ⟨hk, hlive⟩, hkapplies, fun b hb hpb ↦ ?_⟩
  obtain ⟨hb, hblive⟩ := List.mem_filter.1 hb
  exact hle.trans (hlow b (List.mem_filter.2 ⟨mem_of_mem_arrivingBlockRules hb, hblive⟩) hpb)

/-- A row that decides among those that arrive, where one that decides on both sides does, decides
before the transfer too. -/
theorem Decides.of_arriving {k k' : BlockRule} (hk : Decides cf env q db.blockRules k)
    (hk' : Decides cf env q db.arrivingBlockRules k)
    (h : Decides cf env q db.arrivingBlockRules k') : Decides cf env q db.blockRules k' := by
  obtain ⟨hmem, happlies, hlow⟩ := h
  obtain ⟨harrives, hlive⟩ := List.mem_filter.1 hmem
  exact ⟨List.mem_filter.2 ⟨mem_of_mem_arrivingBlockRules harrives, hlive⟩, happlies,
    fun b hb hpb ↦ (hlow k hk'.1 hk'.2.1).trans (hk.2.2 b hb hpb)⟩

/-- **At one time and for one request**, the two tables come to the same in all their orders exactly
when the rows that decide agree, and those that decide in the place of lost ones agree with them. -/
theorem decides_agree_iff :
    (((∃ k, Decides cf env q db.arrivingBlockRules k) ↔ ∃ r, Decides cf env q db.blockRules r) ∧
        ∀ r k, Decides cf env q db.blockRules r → Decides cf env q db.arrivingBlockRules k →
          k.ending cf = r.ending cf) ↔
      (∀ r r', Decides cf env q db.blockRules r → Decides cf env q db.blockRules r' →
          r.ending cf = r'.ending cf) ∧
        ∀ r, Decides cf env q db.blockRules r →
          (∀ r', Decides cf env q db.blockRules r' → r'.Lost db env.now) →
          (∃ k, Decides cf env q db.arrivingBlockRules k) ∧
            ∀ k, Decides cf env q db.arrivingBlockRules k → k.ending cf = r.ending cf := by
  constructor
  · rintro ⟨hsome, hagree⟩
    refine ⟨fun r r' hr hr' ↦ ?_, fun r hr _ ↦ ⟨hsome.2 ⟨r, hr⟩, fun k hk ↦ hagree r k hr hk⟩⟩
    obtain ⟨k, hk⟩ := hsome.2 ⟨r, hr⟩
    rw [← hagree r k hr hk, hagree r' k hr' hk]
  · rintro ⟨hties, hlost⟩
    by_cases hall : ∀ r', Decides cf env q db.blockRules r' → r'.Lost db env.now
    · refine ⟨⟨fun ⟨k, hk, happlies, _⟩ ↦ ?_, fun ⟨r, hr⟩ ↦ (hlost r hr hall).1⟩,
        fun r k hr hk ↦ (hlost r hr hall).2 k hk⟩
      obtain ⟨hk, hlive⟩ := List.mem_filter.1 hk
      exact exists_isLowest_iff.2
        ⟨k, List.mem_filter.2 ⟨mem_of_mem_arrivingBlockRules hk, hlive⟩, happlies⟩
    · push Not at hall
      obtain ⟨r₀, hr₀, hkept⟩ := hall
      obtain ⟨k₀, hk₀, hk₀'⟩ := exists_decides_both hr₀ hkept
      exact ⟨iff_of_true ⟨k₀, hk₀'⟩ ⟨r₀, hr₀⟩, fun r k hr hk ↦
        hties k r (hk₀.of_arriving hk₀' hk) hr⟩

/-- What the first matches of both tables come to is the same in all their orders exactly when what
the rows that decide come to is. -/
theorem map_firstMatch_transfer_iff (ids : Uuid ↪ Uuid) (hkeyed : db.Keyed) (env : Env)
    (q : Query) :
    (∀ table table' : List BlockRule, table.Perm db.blockRules →
        table'.Perm (transfer ids now db).blockRules →
        (firstMatch BlockRule.priority (BlockRule.applies cf env q)
            (table'.filter fun r ↦ r.active env.now)).map (BlockRule.ending cf) =
          (firstMatch BlockRule.priority (BlockRule.applies cf env q)
            (table.filter fun r ↦ r.active env.now)).map (BlockRule.ending cf)) ↔
      ((∃ k, Decides cf env q db.arrivingBlockRules k) ↔
          ∃ r, Decides cf env q db.blockRules r) ∧
        ∀ r k, Decides cf env q db.blockRules r → Decides cf env q db.arrivingBlockRules k →
          k.ending cf = r.ending cf := by
  have htransfer : (transfer ids now db).blockRules =
      db.arrivingBlockRules.map (BlockRule.arrived ids now) := by
    rw [transfer_eq ids now hkeyed]
    rfl
  rw [map_firstMatch_eq_iff, htransfer]
  show ((∃ b, Decides cf env q _ b) ↔ ∃ a, Decides cf env q db.blockRules a) ∧
    (∀ a b, Decides cf env q db.blockRules a → Decides cf env q _ b → _) ↔ _
  simp only [decides_map_arrived_iff]
  constructor
  · rintro ⟨hsome, hagree⟩
    refine ⟨⟨fun ⟨k, hk⟩ ↦ hsome.1 ⟨_, k, hk, rfl⟩, fun hr ↦ ?_⟩,
      fun r k hr hk ↦ hagree r (k.arrived ids now) hr ⟨k, hk, rfl⟩⟩
    obtain ⟨-, k, hk, -⟩ := hsome.2 hr
    exact ⟨k, hk⟩
  · rintro ⟨hsome, hagree⟩
    refine ⟨⟨fun ⟨_, k, hk, _⟩ ↦ hsome.1 ⟨k, hk⟩, fun hr ↦ ?_⟩, ?_⟩
    · obtain ⟨k, hk⟩ := hsome.2 hr
      exact ⟨_, k, hk, rfl⟩
    · rintro r - hr ⟨k, hk, rfl⟩
      exact hagree r k hr hk

/-- **The block rules come through a transfer exactly when nothing of them is missed.** -/
theorem blockOutcome_transfer_iff (ids : Uuid ↪ Uuid) (hkeyed : db.Keyed) :
    (∀ (env : Env) (q : Query) (redis : Redis) (table table' : List BlockRule), now ≤ env.now →
        table.Perm db.blockRules → table'.Perm (transfer ids now db).blockRules →
        blockOutcome cf env q ((⟨table', (transfer ids now db).allowRules⟩ : Db).ruleSet
            env.now).blockRules redis =
          blockOutcome cf env q ((⟨table, db.allowRules⟩ : Db).ruleSet env.now).blockRules redis) ↔
      BlocksKept cf now db := by
  simp only [blockOutcome_ruleSet, endingOutcome_injective.eq_iff]
  constructor
  · intro h
    have hboth := fun env q hnow ↦ decides_agree_iff.1
      ((map_firstMatch_transfer_iff ids hkeyed env q).1
        fun table table' hperm hperm' ↦ h env q Redis.empty table table' hnow hperm hperm')
    exact ⟨fun env q r r' hnow ↦ (hboth env q hnow).1 r r',
      fun env q r hnow ↦ (hboth env q hnow).2 r⟩
  · intro h env q redis table table' hnow hperm hperm'
    have hagree := decides_agree_iff.2
      ⟨fun r r' ↦ h.ties env q r r' hnow, fun r ↦ h.lost env q r hnow⟩
    exact (map_firstMatch_transfer_iff ids hkeyed env q).2 hagree table table' hperm hperm'

end Blocks

/-! ### The allow rules -/

/-- A row grants a request whenever another one that matches alike does: it asks for no reverse DNS,
or for the same. -/
def AllowRule.Covers (k r : AllowRule) : Prop :=
  k.toCached.needsRdns = false ∨
    (r.toCached.needsRdns = true ∧ k.rdnsPattern = r.rdnsPattern)

/-- Where the loop ends over either of two rows, it makes the same of both: both raise, both grant,
or both ask for the same reverse DNS. -/
def AllowRule.Interchangeable (cf : Conf) (r r' : AllowRule) : Prop :=
  ∀ ipAddress userAgent, r.toCriterion.endsSearch cf ipAddress userAgent = true →
    r'.toCriterion.endsSearch cf ipAddress userAgent = true →
    r.toCriterion.raises cf = r'.toCriterion.raises cf ∧
      (r.toCriterion.raises cf = false → r.toCached.needsRdns = r'.toCached.needsRdns ∧
        (r.toCached.needsRdns = true → r.rdnsPattern = r'.rdnsPattern))

/-- **The allow rules come through a transfer**: rows in force that only their order tells apart are
interchangeable, the active ones that arrive do not expire, and every row that is in force at a
later time is covered by the one that arrives for its criterion. -/
structure AllowsKept (cf : Conf) (now : ℚ) (db : Db) : Prop where
  ties : ∀ r ∈ db.allowRules, ∀ r' ∈ db.allowRules, ∀ s, now ≤ s → r.active s = true →
    r'.active s = true → r.name = r'.name → r.Interchangeable cf r'
  noExpiry : ∀ k ∈ db.arrivingAllowRules, k.isActive = true → k.expiresAt = none
  covered : ∀ r ∈ db.allowRules, ∀ s, now ≤ s → r.active s = true →
    ∀ k ∈ db.arrivingAllowRules, k.toCriterion = r.toCriterion → k.isActive = true ∧ k.Covers r

section Allows

variable {cf env q} {now : ℚ} {db : Db}

/-- The step takes the rows one by one. -/
theorem allowOutcome_cons (rule : CachedAllowRule) (rules : List CachedAllowRule) (redis : Redis) :
    allowOutcome cf env q (rule :: rules) redis =
      match allowStep cf env q.ipAddress q.userAgent rule redis with
      | (.error e, _) => .error e
      | (.ok true, _) => .ok true
      | (.ok false, redis') => allowOutcome cf env q rules redis' := by
  rw [allowOutcome, checkAllowRules]
  rcases allowStep cf env q.ipAddress q.userAgent rule redis with ⟨e | (- | -), redis'⟩ <;> rfl

/-- A turn over the row would pass the request over and leave everything as it is: the row does not
match, or a negative verdict is stored that a fresh resolution would only repeat. -/
def Declines (cf : Conf) (env : Env) (q : Query) (redis : Redis) (r : AllowRule) : Prop :=
  r.toCriterion.endsSearch cf q.ipAddress q.userAgent = false ∨
    ruleMatches cf r.toCriterion q.ipAddress q.userAgent = true ∧ r.toCached.needsRdns = true ∧
      (redis.botFcrdns.get env.now (fcrdnsCacheKey cf q.ipAddress r.rdnsPattern) = some false ∨
        redis.botFcrdns.cell (fcrdnsCacheKey cf q.ipAddress r.rdnsPattern) =
            some ⟨false, some (env.now + cf.rdnsFailureCacheTtl)⟩ ∧
          resolveAndConfirmRdns cf env.resolver q.ipAddress r.rdnsPattern = .ok false)

/-- The negative verdicts a turn can store are the same for every row that shares a key. -/
theorem verifyRdns_declined {ipAddress rdnsPattern : String} {redis redis' : Redis}
    (h : verifyRdns cf env ipAddress rdnsPattern redis = (.ok false, redis')) :
    (redis' = redis ∧
        redis.botFcrdns.get env.now (fcrdnsCacheKey cf ipAddress rdnsPattern) = some false) ∨
      redis.botFcrdns.get env.now (fcrdnsCacheKey cf ipAddress rdnsPattern) = none ∧
        resolveAndConfirmRdns cf env.resolver ipAddress rdnsPattern = .ok false ∧
        redis' = { redis with
          botFcrdns := redis.botFcrdns.setex env.now (fcrdnsCacheKey cf ipAddress rdnsPattern)
            cf.rdnsFailureCacheTtl false } := by
  rw [verifyRdns] at h
  rcases hc : redis.botFcrdns.get env.now (fcrdnsCacheKey cf ipAddress rdnsPattern) with - | v
  · simp only [hc] at h
    rcases hr : resolveAndConfirmRdns cf env.resolver ipAddress rdnsPattern with e | v
    · simp only [hr] at h
      cases (Prod.mk.inj h).1
    · simp only [hr] at h
      obtain ⟨hv, rfl⟩ := Prod.mk.inj h
      obtain rfl := Except.ok.inj hv
      exact Or.inr ⟨rfl, rfl, rfl⟩
  · simp only [hc] at h
    obtain ⟨hv, rfl⟩ := Prod.mk.inj h
    exact Or.inl ⟨rfl, congrArg some (Except.ok.inj hv)⟩

/-- A turn over such a row. -/
theorem allowStep_of_declines {redis : Redis} {r : AllowRule} (h : Declines cf env q redis r)
    (hlive : isExpired r.toCached.expiresAt env.now = false) :
    allowStep cf env q.ipAddress q.userAgent r.toCached redis = (.ok false, redis) := by
  rcases h with hends | ⟨hmatch, hneeds, hverdict⟩
  · exact allowStep_of_passed cf env _ _ (Or.inr hends) redis
  · rw [allowStep_of_matches cf env _ _ hlive hmatch, if_pos hneeds, verifyRdns]
    rcases hverdict with hget | ⟨hcell, hresolve⟩
    · have hget' : redis.botFcrdns.get env.now
          (fcrdnsCacheKey cf q.ipAddress r.toCached.rdnsPattern) = some false := hget
      simp only [hget']
    · by_cases hlive : env.now < env.now + cf.rdnsFailureCacheTtl
      · have hget : redis.botFcrdns.get env.now
            (fcrdnsCacheKey cf q.ipAddress r.toCached.rdnsPattern) = some false :=
          KeySpace.get_eq_some_iff.2 ⟨_, hcell, TtlCell.live_some.2 hlive, rfl⟩
        simp only [hget]
      · -- the stored verdict is already over, and the resolution stores it again
        have hget : redis.botFcrdns.get env.now
            (fcrdnsCacheKey cf q.ipAddress r.toCached.rdnsPattern) = none := by
          have hcell' : redis.botFcrdns.cell
            (fcrdnsCacheKey cf q.ipAddress r.toCached.rdnsPattern) = _ := hcell
          rw [KeySpace.get, hcell']
          exact if_neg fun h ↦ hlive (TtlCell.live_some.1 h)
        have hresolve' : resolveAndConfirmRdns cf env.resolver q.ipAddress
            r.toCached.rdnsPattern = .ok false := hresolve
        simp only [hget, hresolve']
        have hput : redis.botFcrdns.setex env.now
            (fcrdnsCacheKey cf q.ipAddress r.toCached.rdnsPattern) cf.rdnsFailureCacheTtl false =
              redis.botFcrdns :=
          KeySpace.ext (Function.update_eq_self_iff.2 hcell.symm)
        simp only [Bool.false_eq_true, if_false, hput]

/-- A turn that passes its row over leaves that row declined, and every row that was. -/
theorem declines_of_allowStep {redis redis' : Redis} {k : AllowRule}
    (hlive : isExpired k.toCached.expiresAt env.now = false)
    (h : allowStep cf env q.ipAddress q.userAgent k.toCached redis = (.ok false, redis')) :
    Declines cf env q redis' k ∧ ∀ r, Declines cf env q redis r → Declines cf env q redis' r := by
  rcases allowStep_cases cf env q.ipAddress q.userAgent k.toCached redis with
    ⟨hpass, hs⟩ | ⟨-, -, hs⟩ | ⟨-, -, hmatch, hs⟩
  · rw [hs] at h
    obtain ⟨-, rfl⟩ := Prod.mk.inj h
    exact ⟨Or.inl (hpass.resolve_left (by simp [hlive])), fun _ hr ↦ hr⟩
  · rw [hs] at h
    cases (Prod.mk.inj h).1
  · rcases hneeds : k.toCached.needsRdns with - | -
    · rw [hs, if_neg (by simp [hneeds])] at h
      cases (Prod.mk.inj h).1
    · rw [hs, if_pos hneeds] at h
      rcases verifyRdns_declined h with ⟨rfl, hget⟩ | ⟨hget, hresolve, rfl⟩
      · exact ⟨Or.inr ⟨hmatch, hneeds, Or.inl hget⟩, fun _ hr ↦ hr⟩
      · refine ⟨Or.inr ⟨hmatch, hneeds, Or.inr ⟨KeySpace.cell_setex_self _ _ _ _ _, hresolve⟩⟩,
          fun r hr ↦ ?_⟩
        rcases hr with hends | ⟨hrmatch, hrneeds, hverdict⟩
        · exact Or.inl hends
        · refine Or.inr ⟨hrmatch, hrneeds, ?_⟩
          by_cases hkey : fcrdnsCacheKey cf q.ipAddress r.rdnsPattern =
            fcrdnsCacheKey cf q.ipAddress k.toCached.rdnsPattern
          · rcases hverdict with hno | ⟨-, hno⟩
            · rw [hkey, hget] at hno
              cases hno
            · rw [hkey]
              exact Or.inr ⟨KeySpace.cell_setex_self _ _ _ _ _, hno⟩
          · have hcell := KeySpace.cell_setex_of_ne redis.botFcrdns env.now
              (cf.rdnsFailureCacheTtl : ℚ) false hkey
            exact hverdict.imp (fun hno ↦ (KeySpace.get_congr hcell).trans hno)
              fun hno ↦ ⟨hcell.trans hno.1, hno.2⟩

/-- What covers a row declines for it. -/
theorem Declines.of_covers {redis : Redis} {k r : AllowRule} (h : Declines cf env q redis k)
    (hcriterion : k.toCriterion = r.toCriterion) (hcovers : k.Covers r) :
    Declines cf env q redis r := by
  rcases h with hends | ⟨hmatch, hneeds, hverdict⟩
  · exact Or.inl (hcriterion ▸ hends)
  · rcases hcovers with hno | ⟨hrneeds, hpattern⟩
    · rw [hneeds] at hno
      cases hno
    · exact Or.inr ⟨hcriterion ▸ hmatch, hrneeds, hpattern ▸ hverdict⟩

/-- A row that declines if it is in force makes no difference. -/
theorem allowOutcome_of_declines {redis : Redis} {a : AllowRule}
    (h : a.active env.now = true → Declines cf env q redis a) (rows : List AllowRule) :
    allowOutcome cf env q (((a :: rows).filter fun r ↦ r.active env.now).map AllowRule.toCached)
        redis =
      allowOutcome cf env q ((rows.filter fun r ↦ r.active env.now).map AllowRule.toCached)
        redis := by
  rw [List.filter_cons]
  split
  · rename_i hactive
    have hlive : isExpired a.toCached.expiresAt env.now = false := by
      rw [AllowRule.active, Bool.and_eq_true, Bool.not_eq_true'] at hactive
      exact hactive.2
    rw [List.map_cons, allowOutcome_cons, allowStep_of_declines (h hactive) hlive]
  · rfl

/-- An active row that arrives without an expiry is taken as the row it came from. -/
theorem allowStep_arrived {ids : Uuid ↪ Uuid} {k : AllowRule} (h : k.expiresAt = none)
    (redis : Redis) :
    allowStep cf env q.ipAddress q.userAgent (k.arrived ids).toCached redis =
      allowStep cf env q.ipAddress q.userAgent k.toCached redis := by
  have hexpiry : k.toCached.expiresAt = none := h
  simp only [allowStep, hexpiry]
  rfl

/-- **The loop over what arrives**, next to the loop over everything: the rows that are dropped are
covered by rows the loop has come by, and those declined. -/
theorem allowOutcome_firstOfEach {ids : Uuid ↪ Uuid} {rows : List AllowRule}
    {keys : List Criterion}
    (hexpiry : ∀ k ∈ firstOfEach AllowRule.toCriterion keys rows, k.isActive = true →
      k.expiresAt = none)
    (hcovers : ∀ r ∈ rows, r.active env.now = true →
      ∀ k ∈ firstOfEach AllowRule.toCriterion keys rows, k.toCriterion = r.toCriterion →
        k.isActive = true ∧ k.Covers r) (redis : Redis)
    (hdeclines : ∀ r ∈ rows, r.active env.now = true → r.toCriterion ∈ keys →
      Declines cf env q redis r) :
    allowOutcome cf env q
        (((firstOfEach AllowRule.toCriterion keys rows).filter AllowRule.isActive).map fun k ↦
          (k.arrived ids).toCached) redis =
      allowOutcome cf env q ((rows.filter fun r ↦ r.active env.now).map AllowRule.toCached)
        redis := by
  induction rows generalizing keys redis with
  | nil => rfl
  | cons a rows ih =>
    rw [firstOfEach] at hexpiry hcovers ⊢
    split at hexpiry
    · -- the row does not arrive; if it is in force, it passes the request over
      rename_i hkey
      rw [if_pos hkey] at hcovers ⊢
      rw [List.contains_iff_mem] at hkey
      rw [allowOutcome_of_declines fun hactive ↦ hdeclines a List.mem_cons_self hactive hkey]
      exact ih hexpiry (fun r hr ↦ hcovers r (List.mem_cons_of_mem a hr)) redis
        fun r hr ↦ hdeclines r (List.mem_cons_of_mem a hr)
    · rename_i hkey
      rw [if_neg hkey] at hcovers ⊢
      rw [List.contains_iff_mem] at hkey
      have hrest := fun redis' hd ↦ @ih (a.toCriterion :: keys)
        (fun k hk ↦ hexpiry k (List.mem_cons_of_mem a hk))
        (fun r hr hactive k hk ↦ hcovers r (List.mem_cons_of_mem a hr) hactive k
          (List.mem_cons_of_mem a hk)) redis' hd
      -- the rows behind this one that match alike are in force only if it is, and covered by it
      have hcovered : ∀ r ∈ rows, r.active env.now = true → r.toCriterion = a.toCriterion →
          a.isActive = true ∧ a.Covers r := fun r hr hactive hcriterion ↦
        hcovers r (List.mem_cons_of_mem a hr) hactive a List.mem_cons_self hcriterion.symm
      rcases hisActive : a.isActive with - | -
      · have hactive : a.active env.now = false := by
          rw [AllowRule.active, hisActive, Bool.false_and]
        rw [List.filter_cons_of_neg (by simp [hisActive]),
          List.filter_cons_of_neg (by simp [hactive])]
        refine hrest redis fun r hr hractive hrkey ↦ ?_
        rcases List.mem_cons.1 hrkey with hcriterion | hrkey
        · have hno := (hcovered r hr hractive hcriterion).1
          rw [hisActive] at hno
          cases hno
        · exact hdeclines r (List.mem_cons_of_mem a hr) hractive hrkey
      · have hnone := hexpiry a List.mem_cons_self hisActive
        have hlive : isExpired a.toCached.expiresAt env.now = false := by
          rw [show a.toCached.expiresAt = none from hnone]
          rfl
        have hactive : a.active env.now = true := by
          rw [AllowRule.active, hisActive, hnone]
          rfl
        rw [List.filter_cons_of_pos hisActive,
          List.filter_cons_of_pos (p := fun r : AllowRule ↦ r.active env.now) hactive,
          List.map_cons, List.map_cons, allowOutcome_cons, allowOutcome_cons,
          allowStep_arrived hnone]
        rcases hs : allowStep cf env q.ipAddress q.userAgent a.toCached redis with
          ⟨e | (- | -), redis'⟩
        · rfl
        · obtain ⟨hself, hothers⟩ := declines_of_allowStep hlive hs
          refine hrest redis' fun r hr hractive hrkey ↦ ?_
          rcases List.mem_cons.1 hrkey with hcriterion | hrkey
          · exact hself.of_covers hcriterion.symm (hcovered r hr hractive hcriterion).2
          · exact hothers r (hdeclines r (List.mem_cons_of_mem a hr) hractive hrkey)
        · rfl

/-! #### The order of the allow rules -/

/-- A turn that always passes can be taken before or after another one. -/
theorem allowOutcome_swap_of_passed {rule : CachedAllowRule} (rule' : CachedAllowRule)
    (h : isExpired rule.expiresAt env.now = true ∨
      rule.toCriterion.endsSearch cf q.ipAddress q.userAgent = false)
    (rest : List CachedAllowRule) (redis : Redis) :
    allowOutcome cf env q (rule :: rule' :: rest) redis =
      allowOutcome cf env q (rule' :: rule :: rest) redis := by
  have hpass : ∀ rules redis, allowOutcome cf env q (rule :: rules) redis =
      allowOutcome cf env q rules redis := fun rules redis ↦ by
    rw [allowOutcome_cons, allowStep_of_passed cf env _ _ h]
  rw [hpass, allowOutcome_cons rule' rest, allowOutcome_cons rule' (rule :: rest)]
  rcases allowStep cf env q.ipAddress q.userAgent rule' redis with ⟨e | (- | -), redis'⟩
  · rfl
  · exact (hpass rest redis').symm
  · rfl

/-- Interchangeable rows can be taken in either order. -/
theorem allowOutcome_swap {a b : AllowRule} (hab : a.Interchangeable cf b)
    (rest : List CachedAllowRule) (redis : Redis) :
    allowOutcome cf env q (a.toCached :: b.toCached :: rest) redis =
      allowOutcome cf env q (b.toCached :: a.toCached :: rest) redis := by
  have ends_of {r : AllowRule} (h : r.toCriterion.raises cf = true ∨
      ruleMatches cf r.toCriterion q.ipAddress q.userAgent = true) :
      r.toCriterion.endsSearch cf q.ipAddress q.userAgent = true := by
    rwa [Criterion.endsSearch, Bool.or_eq_true]
  rcases allowStep_cases cf env q.ipAddress q.userAgent a.toCached redis with
    ⟨hpass, -⟩ | ⟨hlive, hraises, hs⟩ | ⟨hlive, hno, hmatch, hs⟩
  · exact allowOutcome_swap_of_passed _ hpass rest redis
  · rcases allowStep_cases cf env q.ipAddress q.userAgent b.toCached redis with
      ⟨hpass', -⟩ | ⟨hlive', hraises', hs'⟩ | ⟨hlive', hno', hmatch', hs'⟩
    · exact (allowOutcome_swap_of_passed _ hpass' rest redis).symm
    · rw [allowOutcome_cons, allowOutcome_cons, hs, hs']
    · have hsame := (hab _ _ (ends_of (.inl hraises)) (ends_of (.inr hmatch'))).1
      have hraises' : b.toCriterion.raises cf = true := hsame ▸ hraises
      exact absurd (hraises'.symm.trans hno') (by decide)
  · rcases allowStep_cases cf env q.ipAddress q.userAgent b.toCached redis with
      ⟨hpass', -⟩ | ⟨hlive', hraises', hs'⟩ | ⟨hlive', hno', hmatch', hs'⟩
    · exact (allowOutcome_swap_of_passed _ hpass' rest redis).symm
    · have hsame := (hab _ _ (ends_of (.inr hmatch)) (ends_of (.inl hraises'))).1
      have hraises : a.toCriterion.raises cf = true := hsame.symm ▸ hraises'
      exact absurd (hraises.symm.trans hno) (by decide)
    · obtain ⟨hneeds, hpattern⟩ :=
        (hab _ _ (ends_of (.inr hmatch)) (ends_of (.inr hmatch'))).2 hno
      -- both grant, or both look the same verdict up
      have hsame : allowStep cf env q.ipAddress q.userAgent a.toCached redis =
          allowStep cf env q.ipAddress q.userAgent b.toCached redis := by
        rw [hs, hs', ← hneeds]
        split
        · rename_i hrdns
          exact congrArg (fun p ↦ verifyRdns cf env q.ipAddress p redis) (hpattern hrdns)
        · rfl
      rw [allowOutcome_cons, allowOutcome_cons b.toCached, ← hsame]
      rcases hstep : allowStep cf env q.ipAddress q.userAgent a.toCached redis with
        ⟨e | (- | -), redis'⟩
      · rfl
      · have hdeclines := (declines_of_allowStep hlive hstep).1
        have hdeclines' := (declines_of_allowStep hlive' (hsame.symm.trans hstep)).1
        show allowOutcome cf env q (b.toCached :: rest) redis' =
          allowOutcome cf env q (a.toCached :: rest) redis'
        rw [allowOutcome_cons, allowOutcome_cons a.toCached,
          allowStep_of_declines hdeclines' hlive', allowStep_of_declines hdeclines hlive]
      · rfl

/-- **In whatever order rows of one name come**, the step over interchangeable ones makes the same
of a request. -/
theorem allowOutcome_of_perm {table : List AllowRule} (hperm : table.Perm db.allowRules)
    (hties : ∀ r ∈ db.allowRules, ∀ r' ∈ db.allowRules, r.active env.now = true →
      r'.active env.now = true → r.name = r'.name → r.Interchangeable cf r') (redis : Redis) :
    allowOutcome cf env q ((⟨db.blockRules, table⟩ : Db).ruleSet env.now).allowRules redis =
      allowOutcome cf env q (db.ruleSet env.now).allowRules redis := by
  have hswap : ∀ a ∈ (⟨db.blockRules, table⟩ : Db).activeAllowRules env.now,
      ∀ b ∈ (⟨db.blockRules, table⟩ : Db).activeAllowRules env.now, a.Before b → b.Before a →
      ∀ (rest : List AllowRule) (redis : Redis),
        allowOutcome cf env q ((a :: b :: rest).map AllowRule.toCached) redis =
          allowOutcome cf env q ((b :: a :: rest).map AllowRule.toCached) redis := by
    intro a ha b hb hab hba rest redis
    obtain ⟨ha, hactive⟩ := List.mem_filter.1 ((List.mem_insertionSort _).1 ha)
    obtain ⟨hb, hactive'⟩ := List.mem_filter.1 ((List.mem_insertionSort _).1 hb)
    exact allowOutcome_swap (hties a (hperm.mem_iff.1 ha) b (hperm.mem_iff.1 hb) hactive hactive'
      (String.toList_inj.1 (le_antisymm hab hba))) _ redis
  have hactive : ((⟨db.blockRules, table⟩ : Db).activeAllowRules env.now).Perm
      (db.activeAllowRules env.now) :=
    (List.perm_insertionSort _ _).trans ((hperm.filter _).trans (List.perm_insertionSort _ _).symm)
  exact @FirstMatch.loop_eq_of_perm _ _ _ AllowRule.Before
    (fun rows redis ↦ allowOutcome cf env q (rows.map AllowRule.toCached) redis)
    (fun a l l' hrest redis ↦ by
      rw [List.map_cons, List.map_cons, allowOutcome_cons, allowOutcome_cons]
      rcases allowStep cf env q.ipAddress q.userAgent a.toCached redis with ⟨e | (- | -), redis'⟩
      · rfl
      · exact hrest redis'
      · rfl)
    _ _ hswap (List.pairwise_insertionSort AllowRule.Before _)
    (List.pairwise_insertionSort AllowRule.Before _) hactive redis

/-! #### What arrives of the allow rules -/

/-- A row that arrives does not expire. -/
theorem active_arrived (ids : Uuid ↪ Uuid) (k : AllowRule) (s : ℚ) :
    (k.arrived ids).active s = k.isActive := by
  simp only [AllowRule.active, AllowRule.arrived, ImportAllowEntry.toRow, AllowRule.serialise,
    Option.getD_some]
  rw [show isExpired none s = false from rfl, Bool.not_false, Bool.and_true]

/-- The step makes the same of what arrives when that covers what does not. -/
theorem allowOutcome_arriving (ids : Uuid ↪ Uuid) (hkeyed : db.Keyed) (h : AllowsKept cf now db)
    (hnow : now ≤ env.now) (redis : Redis) :
    allowOutcome cf env q ((transfer ids now db).ruleSet env.now).allowRules redis =
      allowOutcome cf env q (db.ruleSet env.now).allowRules redis := by
  have hexported : ∀ r, r ∈ db.exportedAllowRules → r ∈ db.allowRules := fun r hr ↦
    (List.mem_insertionSort _).1 hr
  have hleft : (transfer ids now db).activeAllowRules env.now =
      (db.arrivingAllowRules.filter AllowRule.isActive).map (AllowRule.arrived ids) := by
    have hsorted : ((db.arrivingAllowRules.filter AllowRule.isActive).map
        (AllowRule.arrived ids)).Pairwise AllowRule.Before := by
      rw [List.pairwise_map]
      exact ((List.pairwise_insertionSort AllowRule.Before db.allowRules).sublist
        (sublist_firstOfEach _ _)).filter _
    rw [transfer_eq ids now hkeyed]
    show (((db.arrivingAllowRules.map (AllowRule.arrived ids)).filter
      fun r ↦ r.active env.now).insertionSort AllowRule.Before) = _
    have hfilter : db.arrivingAllowRules.filter
        ((fun r ↦ r.active env.now) ∘ AllowRule.arrived ids) =
          db.arrivingAllowRules.filter AllowRule.isActive :=
      List.filter_congr fun k _ ↦ active_arrived ids k env.now
    rw [List.filter_map, hfilter]
    exact hsorted.insertionSort_eq
  have hright : db.activeAllowRules env.now =
      db.exportedAllowRules.filter fun r ↦ r.active env.now :=
    (filter_insertionSort (r := AllowRule.Before) (fun r ↦ r.active env.now) db.allowRules).symm
  show allowOutcome cf env q (((transfer ids now db).activeAllowRules env.now).map
      AllowRule.toCached) redis =
    allowOutcome cf env q ((db.activeAllowRules env.now).map AllowRule.toCached) redis
  rw [hleft, hright, List.map_map]
  exact allowOutcome_firstOfEach h.noExpiry
    (fun r hr hactive ↦ h.covered r (hexported r hr) env.now hnow hactive) redis
    fun r _ _ hkey ↦ absurd hkey List.not_mem_nil

/-- **The allow rules come through a transfer**, in all orders the two databases may return. -/
theorem allowOutcome_transfer (ids : Uuid ↪ Uuid) (hkeyed : db.Keyed) (h : AllowsKept cf now db)
    (hnow : now ≤ env.now) {table table' : List AllowRule} (hperm : table.Perm db.allowRules)
    (hperm' : table'.Perm (transfer ids now db).allowRules) (redis : Redis) :
    allowOutcome cf env q
        ((⟨(transfer ids now db).blockRules, table'⟩ : Db).ruleSet env.now).allowRules redis =
      allowOutcome cf env q ((⟨db.blockRules, table⟩ : Db).ruleSet env.now).allowRules redis := by
  have hties := fun r hr r' hr' ↦ h.ties r hr r' hr' env.now hnow
  -- the active rows that arrive are in force in the table they come from
  have harrived : ∀ r ∈ (transfer ids now db).allowRules, r.active env.now = true →
      ∃ k ∈ db.allowRules, k.active env.now = true ∧ r = k.arrived ids := by
    intro r hr hactive
    rw [transfer_eq ids now hkeyed] at hr
    obtain ⟨k, hk, rfl⟩ := List.mem_map.1 hr
    rw [active_arrived] at hactive
    have hmem : k ∈ db.allowRules := (List.mem_insertionSort _).1
      ((sublist_firstOfEach _ _).subset hk)
    refine ⟨k, hmem, ?_, rfl⟩
    rw [AllowRule.active, hactive, h.noExpiry k hk hactive]
    rfl
  have hties' : ∀ r ∈ (transfer ids now db).allowRules, ∀ r' ∈ (transfer ids now db).allowRules,
      r.active env.now = true → r'.active env.now = true → r.name = r'.name →
        r.Interchangeable cf r' := by
    intro r hr r' hr' hactive hactive' hname
    obtain ⟨k, hk, hlive, rfl⟩ := harrived r hr hactive
    obtain ⟨k', hk', hlive', rfl⟩ := harrived r' hr' hactive'
    exact hties k hk k' hk' hlive hlive' hname
  rw [allowOutcome_of_perm hperm hties redis, allowOutcome_of_perm hperm' hties' redis]
  exact allowOutcome_arriving ids hkeyed h hnow redis

end Allows

/-- **What a transfer preserves**, at every later time and in all orders the two databases may
return. The step over the block rules makes the same of every request exactly when the block rules
come through. The step over the allow rules does so when they come through. -/
theorem ruleOutcome_transfer (cf : Conf) (now : ℚ) (ids : Uuid ↪ Uuid) {db : Db}
    (hkeyed : db.Keyed) :
    ((∀ (env : Env) (q : Query) (redis : Redis) (table table' : List BlockRule), now ≤ env.now →
        table.Perm db.blockRules → table'.Perm (transfer ids now db).blockRules →
        blockOutcome cf env q ((⟨table', (transfer ids now db).allowRules⟩ : Db).ruleSet
            env.now).blockRules redis =
          blockOutcome cf env q ((⟨table, db.allowRules⟩ : Db).ruleSet env.now).blockRules redis) ↔
      BlocksKept cf now db) ∧
    (AllowsKept cf now db → ∀ (env : Env) (q : Query) (redis : Redis)
      (table table' : List AllowRule), now ≤ env.now → table.Perm db.allowRules →
        table'.Perm (transfer ids now db).allowRules →
        allowOutcome cf env q ((⟨(transfer ids now db).blockRules, table'⟩ : Db).ruleSet
            env.now).allowRules redis =
          allowOutcome cf env q ((⟨db.blockRules, table⟩ : Db).ruleSet env.now).allowRules
            redis) :=
  ⟨blockOutcome_transfer_iff ids hkeyed, fun h _ _ redis _ _ hnow hperm hperm' ↦
    allowOutcome_transfer ids hkeyed h hnow hperm hperm' redis⟩

/-! #### Two installations -/

/-- A block rule of an administrator. -/
def curatedRule (id : Uuid) (priority : ℕ) (expiresAt : Option ℚ) : BlockRule where
  ruleType := .ip
  matchType := .exact
  pattern := "192.0.2.1"
  id
  name := ""
  action := .block
  priority
  isActive := true
  source := .admin
  expiresAt
  reviewStatus := .notApplicable
  reviewedAt := none
  detectors := ""
  createdAt := 0

/-- An allow rule that expires. -/
def passingVisitor : AllowRule where
  ruleType := .ip
  matchType := .exact
  pattern := "192.0.2.1"
  id := 1
  name := ""
  verifyRdns := false
  rdnsPattern := ""
  isActive := true
  source := .admin
  expiresAt := some 15

/-- One that does not. -/
def lastingVisitor : AllowRule := { passingVisitor with id := 2, expiresAt := none }

/-- A request from the address of these rules. -/
def visit : Query := ⟨"192.0.2.1", "", "/", "GET", "", []⟩

/-- After a transfer the rules make the same of the request. -/
def SurvivesTransfer (now later : ℚ) (db : Db) : Prop :=
  ruleOutcome plainConf (Env.plain later) visit
      ((transfer (Function.Embedding.refl ℕ) now db).ruleSet later) Redis.empty =
    ruleOutcome plainConf (Env.plain later) visit (db.ruleSet later) Redis.empty

instance (now later : ℚ) (db : Db) : Decidable (SurvivesTransfer now later db) :=
  inferInstanceAs (Decidable (_ = _))

/-- Tables whose second block rule is never missed, since the first stays longer. -/
theorem shadowed_rule_survives :
    SurvivesTransfer 10 20
      ⟨[curatedRule 1 50 none, curatedRule 2 100 (some 15)], [lastingVisitor]⟩ := by
  have hkeyed : Db.Keyed
      ⟨[curatedRule 1 50 none, curatedRule 2 100 (some 15)], [lastingVisitor]⟩ :=
    ⟨by decide, by decide⟩
  have htransfer := ruleOutcome_transfer plainConf 10 (Function.Embedding.refl ℕ) hkeyed
  have harrives : curatedRule 1 50 none ∈ Db.arrivingBlockRules
      ⟨[curatedRule 1 50 none, curatedRule 2 100 (some 15)], [lastingVisitor]⟩ := by
    decide +kernel
  -- wherever the second rule matches, the first does and comes before it
  have hfirst : ∀ env q r, Decides plainConf env q
      [curatedRule 1 50 none, curatedRule 2 100 (some 15)] r → r = curatedRule 1 50 none := by
    rintro env q r ⟨hr, happlies, hlow⟩
    obtain ⟨hr, hlive⟩ := List.mem_filter.1 hr
    rcases List.mem_pair.1 hr with rfl | rfl
    · rfl
    · have hsame :
          (curatedRule 1 50 none).toCriterion = (curatedRule 2 100 (some 15)).toCriterion := rfl
      have hle := hlow (curatedRule 1 50 none) (List.mem_filter.2 ⟨List.mem_cons_self, rfl⟩)
        ((applies_congr hsame rfl hlive).trans happlies)
      exact absurd hle (by decide)
  have hnow : (10 : ℚ) ≤ (Env.plain 20).now := by decide +kernel
  have hallows : AllowsKept plainConf 10
      ⟨[curatedRule 1 50 none, curatedRule 2 100 (some 15)], [lastingVisitor]⟩ := by
    refine ⟨fun r hr r' hr' _ _ _ _ _ ↦ ?_, fun k hk _ ↦ ?_, fun _ _ _ _ _ k hk _ ↦ ?_⟩
    · obtain rfl := List.mem_singleton.1 hr
      obtain rfl := List.mem_singleton.1 hr'
      exact fun _ _ _ _ ↦ ⟨rfl, fun _ ↦ ⟨rfl, fun _ ↦ rfl⟩⟩
    · obtain rfl := List.mem_singleton.1 ((sublist_firstOfEach _ _).subset hk)
      rfl
    · obtain rfl := List.mem_singleton.1 ((sublist_firstOfEach _ _).subset hk)
      exact ⟨rfl, Or.inl rfl⟩
  refine Prod.ext
    (htransfer.2 hallows (Env.plain 20) visit Redis.empty _ _ hnow (.refl _) (.refl _))
    (htransfer.1.2 ⟨fun env q r r' _ hr hr' ↦ ?_, fun env q r _ hr hlost ↦ ?_⟩ (Env.plain 20)
      visit Redis.empty _ _ hnow (.refl _) (.refl _))
  · rw [hfirst env q r hr, hfirst env q r' hr']
  · obtain rfl := hfirst env q r hr
    exact absurd (hlost _ hr _ harrives rfl) (by simp [curatedRule, BlockRule.active, isExpired])

/-- **Two tables that come out different**: an allow rule whose expiry is lost, and a rule that is
lost because one with an earlier expiry has its pattern. -/
theorem lost_rules_are_missed :
    ¬ SurvivesTransfer 10 20 ⟨[], [passingVisitor]⟩ ∧
    ¬ SurvivesTransfer 10 20 ⟨[curatedRule 1 50 (some 15), curatedRule 2 100 none], []⟩ := by
  constructor
  · decide +kernel
  · decide +kernel

end DjangoWaf
