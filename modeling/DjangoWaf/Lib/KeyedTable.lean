import Mathlib.Data.List.Induction
import Mathlib.Data.List.Nodup
import Mathlib.Data.List.Sort
import Mathlib.Logic.Function.Basic

/-!
# Rows found by a key and written in place

A table whose rows have an identifier of their own and are looked up by a key that several of them
may share. An **entry** names a key: the first row of that key, in an order of the table, is
rewritten, and where there is none a row is created. Beside the rows a table holds a value for each
identifier, which an entry rewrites as well.

**Ties.** The order of a table leaves ties, and a look-up answers any of the tied rows: `firstBy`
breaks them by a rank, and each look-up of a run has a rank of its own.

**Runs.** `forall_mem_run` carries a property of rows through a run of entries; `exists_mem_run`
finds a row for each entry afterwards; `filter_foreign_run` says that rows without a key stay.

**A second run.** With one rank throughout it changes nothing (`run_of_settled`). After a run, the
row an entry finds holds what the entries of its key made of some row (`settled_run`). Where
rewriting twice by the same entries is rewriting once, a run from such a table leaves it as it is,
though single entries of it may not. With other ranks than the first it changes nothing exactly when
the table is `Steady` (`runThen_runThen_iff`): then no entry has a choice that shows. Otherwise one
look-up of the second run may find a row that every look-up of the first one passed over.
-/

variable {ρ ι κ ε σ : Type*}

/-! ### The first row in an order with ties -/

section

variable (le : ρ → ρ → Prop) [DecidableRel le]

/-- The first row in an order, and of the rows tied for it one of the lowest rank. -/
def firstBy (tie : ρ → ℕ) (rows : List ρ) : Option ρ :=
  (rows.insertionSort fun r r' ↦ le r r' ∧ (le r' r → tie r ≤ tie r')).head?

variable {le} {tie : ρ → ℕ} {rows : List ρ} {r : ρ}

theorem mem_of_firstBy (h : firstBy le tie rows = some r) : r ∈ rows :=
  (List.mem_insertionSort _).1 (List.mem_of_mem_head? (Option.mem_def.2 h))

theorem firstBy_eq_none_iff : firstBy le tie rows = none ↔ rows = [] := by
  rw [firstBy, List.head?_eq_none_iff, ← List.length_eq_zero_iff, List.length_insertionSort,
    List.length_eq_zero_iff]

/-- No row comes before the first. -/
theorem firstBy_before (htotal : ∀ r r', le r r' ∨ le r' r)
    (htrans : ∀ r r' r'', le r r' → le r' r'' → le r r'') (h : firstBy le tie rows = some r) :
    ∀ r' ∈ rows, le r r' ∧ (le r' r → tie r ≤ tie r') := by
  have htotal' : Std.Total fun r r' : ρ ↦ le r r' ∧ (le r' r → tie r ≤ tie r') := ⟨by
    intro r r'
    rcases htotal r r' with hr | hr
    · by_cases hr' : le r' r
      · rcases le_total (tie r) (tie r') with htie | htie
        · exact .inl ⟨hr, fun _ ↦ htie⟩
        · exact .inr ⟨hr', fun _ ↦ htie⟩
      · exact .inl ⟨hr, fun h ↦ absurd h hr'⟩
    · by_cases hr' : le r r'
      · rcases le_total (tie r) (tie r') with htie | htie
        · exact .inl ⟨hr', fun _ ↦ htie⟩
        · exact .inr ⟨hr, fun _ ↦ htie⟩
      · exact .inr ⟨hr, fun h ↦ absurd h hr'⟩⟩
  have htrans' : IsTrans ρ fun r r' ↦ le r r' ∧ (le r' r → tie r ≤ tie r') := ⟨by
    rintro r r' r'' ⟨hle, htie⟩ ⟨hle', htie'⟩
    refine ⟨htrans _ _ _ hle hle', fun hback ↦ ?_⟩
    exact (htie (htrans _ _ _ hle' hback)).trans (htie' (htrans _ _ _ hback hle))⟩
  intro r' hr'
  have hsorted := List.pairwise_insertionSort
    (fun r r' : ρ ↦ le r r' ∧ (le r' r → tie r ≤ tie r')) rows
  have hmem := (List.mem_insertionSort fun r r' : ρ ↦ le r r' ∧ (le r' r → tie r ≤ tie r')).2 hr'
  rw [firstBy] at h
  obtain ⟨rest, hrest⟩ := List.head?_eq_some_iff.1 h
  rw [hrest] at hsorted hmem
  rcases List.mem_cons.1 hmem with rfl | hmem
  · exact ⟨(htotal r' r').elim id id, fun _ ↦ le_rfl⟩
  · exact List.rel_of_pairwise_cons hsorted hmem

/-- Rewriting rows in their places changes no first row. -/
theorem firstBy_map {g : ρ → ρ} (hle : ∀ r ∈ rows, ∀ r' ∈ rows, le (g r) (g r') ↔ le r r')
    (htie : ∀ r ∈ rows, tie (g r) = tie r) :
    firstBy le tie (rows.map g) = (firstBy le tie rows).map g := by
  have hsort := List.map_insertionSort (fun r r' ↦ le r r' ∧ (le r' r → tie r ≤ tie r'))
    (fun r r' ↦ le r r' ∧ (le r' r → tie r ≤ tie r')) g rows
    (by
      intro a ha b hb
      rw [hle a ha b hb, hle b hb a ha, htie a ha, htie b hb])
  rw [firstBy, firstBy, ← List.head?_map, hsort]

end

/-- How rows are told apart, found, created and rewritten. A row without a key is never found. -/
structure RowKind (ρ ι κ ε σ : Type*) where
  id : ρ → ι
  key : ρ → Option κ
  /-- The order of the table, which may leave ties. -/
  le : ρ → ρ → Prop
  target : ε → κ
  create : ε → ι → ρ
  update : ε → ρ → ρ
  aside : ε → σ → σ
  /-- The value beside a row that is about to be created. -/
  newAside : σ
  /-- The identifier of the next row. -/
  fresh : List ρ → ι

/-- The rows, and the values beside them. -/
@[ext]
structure KeyedTable (ρ ι σ : Type*) where
  rows : List ρ
  aside : ι → σ

namespace RowKind

section

variable (K : RowKind ρ ι κ ε σ)

/-- Rows of one identifier, one key and one place in the order. -/
structure Alike (r r' : ρ) : Prop where
  id : K.id r' = K.id r
  key : K.key r' = K.key r
  le_left : ∀ s, K.le r' s ↔ K.le r s
  le_right : ∀ s, K.le s r' ↔ K.le s r

/-- An identifier names one row. -/
def Keyed (rows : List ρ) : Prop := (rows.map K.id).Nodup

/-- What a run of entries relies on. -/
structure Lawful : Prop where
  id_create : ∀ e i, K.id (K.create e i) = i
  key_create : ∀ e i, K.key (K.create e i) = some (K.target e)
  alike_update : ∀ e r, K.Alike r (K.update e r)
  le_total : ∀ r r', K.le r r' ∨ K.le r' r
  le_trans : ∀ r r' r'', K.le r r' → K.le r' r'' → K.le r r''
  fresh_not_mem : ∀ rows : List ρ, K.fresh rows ∉ rows.map K.id

/-- Writing twice is writing once. -/
structure Overwrites : Prop where
  update_update : ∀ e e' r, K.target e = K.target e' →
    K.update e (K.update e' r) = K.update e r
  update_create : ∀ e i, K.update e (K.create e i) = K.create e i
  aside_aside : ∀ (es : List ε) (x : σ),
    es.foldl (fun x e ↦ K.aside e x) (es.foldl (fun x e ↦ K.aside e x) x) =
      es.foldl (fun x e ↦ K.aside e x) x

variable {K} {r r' : ρ} {rows : List ρ} {e : ε} {es : List ε}

theorem Alike.refl (r : ρ) : K.Alike r r := ⟨rfl, rfl, fun _ ↦ Iff.rfl, fun _ ↦ Iff.rfl⟩

theorem Alike.trans {r'' : ρ} (h : K.Alike r r') (h' : K.Alike r' r'') : K.Alike r r'' :=
  ⟨h'.id.trans h.id, h'.key.trans h.key, fun s ↦ (h'.le_left s).trans (h.le_left s),
    fun s ↦ (h'.le_right s).trans (h.le_right s)⟩

/-- A row that a step keeps or rewrites. -/
theorem Lawful.alike_ite [DecidableEq ι] (hK : K.Lawful) (e : ε) (i : ι) (s : ρ) :
    K.Alike s (if K.id s = i then K.update e s else s) := by
  split
  · exact hK.alike_update e s
  · exact .refl s

theorem Keyed.eq_of_id (h : K.Keyed rows) (hr : r ∈ rows) (hr' : r' ∈ rows)
    (hid : K.id r = K.id r') : r = r' :=
  List.inj_on_of_nodup_map h hr hr' hid

theorem Keyed.map {g : ρ → ρ} (h : K.Keyed rows) (hg : ∀ r ∈ rows, K.Alike r (g r)) :
    K.Keyed (rows.map g) := by
  have hid : rows.map (K.id ∘ g) = rows.map K.id := List.map_congr_left fun r hr ↦ (hg r hr).id
  rw [Keyed, List.map_map, hid]
  exact h

theorem Keyed.append (h : K.Keyed rows) (hr : K.id r ∉ rows.map K.id) : K.Keyed (rows ++ [r]) := by
  rw [Keyed, List.map_append, List.map_singleton, ← List.concat_eq_append]
  exact List.Nodup.concat hr h

/-- The last write of a key is all that is left. -/
theorem Overwrites.update_foldl (hO : K.Overwrites) (h : ∀ e' ∈ es, K.target e = K.target e')
    (s : ρ) : K.update e (es.foldl (fun r e ↦ K.update e r) s) = K.update e s := by
  induction es generalizing s with
  | nil => rfl
  | cons e' es ih =>
    obtain ⟨he', hes⟩ := List.forall_mem_cons.1 h
    rw [List.foldl_cons, ih hes, hO.update_update e e' s he']

end

/-! ### The first row of a key -/

section

variable (K : RowKind ρ ι κ ε σ) {k : κ} {r : ρ}

/-- A row that no other row of its key comes before. -/
structure IsFirst (k : κ) (rows : List ρ) (r : ρ) : Prop where
  mem : r ∈ rows
  key : K.key r = some k
  le : ∀ r' ∈ rows, K.key r' = some k → K.le r r'

variable {K}

/-- Rows rewritten into rows like them come first when they did. -/
theorem isFirst_map {rows : List ρ} {g : ρ → ρ} (hg : ∀ r ∈ rows, K.Alike r (g r)) :
    K.IsFirst k (rows.map g) r ↔ ∃ s, K.IsFirst k rows s ∧ g s = r := by
  constructor
  · rintro ⟨hmem, hkey, hle⟩
    obtain ⟨s, hs, rfl⟩ := List.mem_map.1 hmem
    refine ⟨s, ⟨hs, (hg s hs).key.symm.trans hkey, fun s' hs' hkey' ↦ ?_⟩, rfl⟩
    have hle' := hle (g s') (List.mem_map_of_mem hs') ((hg s' hs').key.trans hkey')
    exact ((hg s' hs').le_right _).1 (((hg s hs).le_left _).1 hle')
  · rintro ⟨s, ⟨hmem, hkey, hle⟩, rfl⟩
    refine ⟨List.mem_map_of_mem hmem, (hg s hmem).key.trans hkey, fun r' hr' hkey' ↦ ?_⟩
    obtain ⟨s', hs', rfl⟩ := List.mem_map.1 hr'
    refine ((hg s hmem).le_left _).2 (((hg s' hs').le_right _).2 (hle s' hs' ?_))
    exact (hg s' hs').key.symm.trans hkey'

/-- A row of another key comes before none of this one. -/
theorem IsFirst.append_of_ne (h : K.IsFirst k rows r) {s : ρ} (hs : K.key s ≠ some k) :
    K.IsFirst k (rows ++ [s]) r where
  mem := List.mem_append_left _ h.mem
  key := h.key
  le r' hr' hkey := by
    rcases List.mem_append.1 hr' with hr' | hr'
    · exact h.le r' hr' hkey
    · exact absurd (List.mem_singleton.1 hr' ▸ hkey) hs

end

section

variable (K : RowKind ρ ι κ ε σ) [DecidableEq κ] [DecidableRel K.le] (tie : ι → ℕ)

/-- The first row of a key, by rank where several come first. -/
def first (k : κ) (rows : List ρ) : Option ρ :=
  firstBy K.le (fun r ↦ tie (K.id r)) (rows.filter fun r ↦ K.key r = some k)

variable {K} {tie} {k : κ} {r : ρ} {rows : List ρ}

theorem mem_of_first (h : K.first tie k rows = some r) : r ∈ rows ∧ K.key r = some k := by
  have hmem := mem_of_firstBy h
  rw [List.mem_filter, decide_eq_true_eq] at hmem
  exact hmem

theorem Lawful.isFirst (hK : K.Lawful) (h : K.first tie k rows = some r) :
    K.IsFirst k rows r where
  mem := (mem_of_first h).1
  key := (mem_of_first h).2
  le r' hr' hkey :=
    (firstBy_before hK.le_total hK.le_trans h r' (List.mem_filter.2 ⟨hr', by simpa using hkey⟩)).1

theorem first_eq_none_iff : K.first tie k rows = none ↔ ∀ r ∈ rows, K.key r ≠ some k := by
  rw [first, firstBy_eq_none_iff, List.filter_eq_nil_iff]
  simp

theorem first_ne_none (hr : r ∈ rows) (hk : K.key r = some k) : K.first tie k rows ≠ none :=
  fun h ↦ first_eq_none_iff.1 h r hr hk

/-- The row of a key is no row of another. -/
theorem id_ne_of_first {r' : ρ} (h : K.Keyed rows) (hfirst : K.first tie k rows = some r)
    (hr' : r' ∈ rows) (hkey : K.key r' ≠ some k) : K.id r' ≠ K.id r := by
  intro hid
  obtain ⟨hr, hk⟩ := mem_of_first hfirst
  rw [h.eq_of_id hr' hr hid] at hkey
  exact hkey hk

/-- Rewriting rows into rows like them changes no lookup. -/
theorem first_map {g : ρ → ρ} (hg : ∀ r ∈ rows, K.Alike r (g r)) :
    K.first tie k (rows.map g) = (K.first tie k rows).map g := by
  have hfilter : (rows.map g).filter (fun r ↦ decide (K.key r = some k)) =
      (rows.filter fun r ↦ decide (K.key r = some k)).map g := by
    rw [List.filter_map]
    refine congrArg (List.map g) (List.filter_congr fun r hr ↦ ?_)
    show decide (K.key (g r) = some k) = decide (K.key r = some k)
    rw [(hg r hr).key]
  have hmem : ∀ r ∈ rows.filter fun r ↦ decide (K.key r = some k), K.Alike r (g r) :=
    fun r hr ↦ hg r (List.mem_filter.1 hr).1
  rw [first, first, hfilter]
  refine firstBy_map (fun r hr r' hr' ↦ ?_) fun r hr ↦ congrArg tie (hmem r hr).id
  exact ((hmem r hr).le_left _).trans ((hmem r' hr').le_right _)

/-- A row of another key is not found. -/
theorem first_append_of_ne (h : K.key r ≠ some k) :
    K.first tie k (rows ++ [r]) = K.first tie k rows := by
  rw [first, first, List.filter_append, List.filter_cons_of_neg (by simpa using h), List.filter_nil,
    List.append_nil]

/-- The only row of its key is found. -/
theorem first_append_of_none (hnone : K.first tie k rows = none) (h : K.key r = some k) :
    K.first tie k (rows ++ [r]) = some r := by
  have hempty : rows.filter (fun r ↦ decide (K.key r = some k)) = [] :=
    List.filter_eq_nil_iff.2 fun s hs ↦ by simpa using first_eq_none_iff.1 hnone s hs
  rw [first, List.filter_append, hempty, List.nil_append,
    List.filter_cons_of_pos (by simpa using h), List.filter_nil]
  rfl

end

/-! ### What entries of a key write -/

section

variable (K : RowKind ρ ι κ ε σ) [DecidableEq κ]

/-- What the entries of a key make of a row. -/
def written (es : List ε) (k : κ) (r : ρ) : ρ :=
  (es.filter fun e ↦ K.target e = k).foldl (fun r e ↦ K.update e r) r

/-- What the entries of a key make of the value beside a row. -/
def writtenAside (es : List ε) (k : κ) (x : σ) : σ :=
  (es.filter fun e ↦ K.target e = k).foldl (fun x e ↦ K.aside e x) x

variable {K} {k : κ} {e : ε} {es : List ε}

theorem filter_concat_self :
    (es ++ [e]).filter (fun e' ↦ decide (K.target e' = K.target e)) =
      es.filter (fun e' ↦ decide (K.target e' = K.target e)) ++ [e] := by
  rw [List.filter_append, List.filter_cons_of_pos (by simp), List.filter_nil]

theorem filter_concat_of_ne (h : K.target e ≠ k) :
    (es ++ [e]).filter (fun e' ↦ decide (K.target e' = k)) =
      es.filter fun e' ↦ decide (K.target e' = k) := by
  rw [List.filter_append, List.filter_cons_of_neg (by simpa using h), List.filter_nil,
    List.append_nil]

theorem written_concat_self (s : ρ) :
    K.written (es ++ [e]) (K.target e) s = K.update e (K.written es (K.target e) s) := by
  rw [written, filter_concat_self, List.foldl_append]
  rfl

theorem writtenAside_concat_self (x : σ) :
    K.writtenAside (es ++ [e]) (K.target e) x = K.aside e (K.writtenAside es (K.target e) x) := by
  rw [writtenAside, filter_concat_self, List.foldl_append]
  rfl

theorem written_concat_of_ne (h : K.target e ≠ k) (s : ρ) :
    K.written (es ++ [e]) k s = K.written es k s := by
  rw [written, filter_concat_of_ne h, written]

theorem writtenAside_concat_of_ne (h : K.target e ≠ k) (x : σ) :
    K.writtenAside (es ++ [e]) k x = K.writtenAside es k x := by
  rw [writtenAside, filter_concat_of_ne h, writtenAside]

/-- Entries of other keys make nothing of a row. -/
theorem written_of_forall_ne (h : ∀ e ∈ es, K.target e ≠ k) (s : ρ) : K.written es k s = s := by
  rw [written, List.filter_eq_nil_iff.2 fun e he ↦ by simpa using h e he]
  rfl

theorem writtenAside_of_forall_ne (h : ∀ e ∈ es, K.target e ≠ k) (x : σ) :
    K.writtenAside es k x = x := by
  rw [writtenAside, List.filter_eq_nil_iff.2 fun e he ↦ by simpa using h e he]
  rfl

theorem Overwrites.written_written (hO : K.Overwrites) (es : List ε) (k : κ) (s : ρ) :
    K.written es k (K.written es k s) = K.written es k s := by
  have hkey : ∀ e ∈ es.filter (fun e ↦ decide (K.target e = k)), K.target e = k :=
    fun e he ↦ by simpa using (List.mem_filter.1 he).2
  rw [written, written]
  rcases List.eq_nil_or_concat (es.filter fun e ↦ decide (K.target e = k)) with hnil | ⟨l, e, hl⟩
  · rw [hnil]
    rfl
  · rw [hl] at hkey ⊢
    have hlast : ∀ e' ∈ l, K.target e = K.target e' := fun e' he' ↦
      (hkey e (by simp)).trans (hkey e' (by simp [he'])).symm
    simp only [List.concat_eq_append, List.foldl_append, List.foldl_cons, List.foldl_nil]
    rw [hO.update_foldl hlast, hO.update_update e e _ rfl]

theorem Overwrites.writtenAside_writtenAside (hO : K.Overwrites) (es : List ε) (k : κ) (x : σ) :
    K.writtenAside es k (K.writtenAside es k x) = K.writtenAside es k x :=
  hO.aside_aside _ x

end

/-! ### The marks of entries -/

section

variable (K : RowKind ρ ι κ ε σ) [DecidableEq κ] [DecidableRel K.le] (tie : ι → ℕ)

/-- The first row of each entry's key holds what the entries of the key made of a row. -/
def Settled (es : List ε) (t : KeyedTable ρ ι σ) : Prop :=
  ∀ e ∈ es, ∃ r, K.first tie (K.target e) t.rows = some r ∧ (∃ s, r = K.written es (K.target e) s) ∧
    ∃ x, t.aside (K.id r) = K.writtenAside es (K.target e) x

variable {K} {tie} {k : κ} {r : ρ} {es : List ε} {t : KeyedTable ρ ι σ}

/-- The first row of a key, whatever the key. -/
theorem Settled.exists_written (h : K.Settled tie es t) (hfirst : K.first tie k t.rows = some r) :
    (∃ s, r = K.written es k s) ∧ ∃ x, t.aside (K.id r) = K.writtenAside es k x := by
  by_cases hk : ∃ e ∈ es, K.target e = k
  · obtain ⟨e, he, rfl⟩ := hk
    obtain ⟨r', hr', hcontent⟩ := h e he
    rw [hfirst, Option.some.injEq] at hr'
    rw [hr']
    exact hcontent
  · have hne : ∀ e ∈ es, K.target e ≠ k := fun e he heq ↦ hk ⟨e, he, heq⟩
    exact ⟨⟨r, (written_of_forall_ne hne r).symm⟩, _, (writtenAside_of_forall_ne hne _).symm⟩

/-- Rewriting rows that no entry finds leaves the marks. -/
theorem Settled.map {g : ρ → ρ} (h : K.Settled tie es t) (hg : ∀ r ∈ t.rows, K.Alike r (g r))
    (hfix : ∀ r ∈ t.rows, ∀ e ∈ es, K.key r = some (K.target e) → g r = r) :
    K.Settled tie es ⟨t.rows.map g, t.aside⟩ := by
  intro e he
  obtain ⟨r, hr, hcontent⟩ := h e he
  obtain ⟨hrow, hkey⟩ := mem_of_first hr
  refine ⟨r, ?_, hcontent⟩
  rw [first_map hg, hr, Option.map_some, hfix r hrow e he hkey]

end

/-! ### Steps and runs -/

variable (K : RowKind ρ ι κ ε σ) [DecidableEq ι] [DecidableEq κ] [DecidableRel K.le]

/-- The write of one entry. -/
def step (tie : ι → ℕ) (e : ε) (t : KeyedTable ρ ι σ) : KeyedTable ρ ι σ :=
  match K.first tie (K.target e) t.rows with
  | some r =>
    ⟨t.rows.map fun s ↦ if K.id s = K.id r then K.update e s else s,
      Function.update t.aside (K.id r) (K.aside e (t.aside (K.id r)))⟩
  | none =>
    ⟨t.rows ++ [K.create e (K.fresh t.rows)],
      Function.update t.aside (K.fresh t.rows) (K.aside e K.newAside)⟩

/-- The writes of entries in a row, each with the rank of its look-up. -/
def run (ties : ℕ → ι → ℕ) (es : List ε) (t : KeyedTable ρ ι σ) : KeyedTable ρ ι σ :=
  es.zipIdx.foldl (fun t e ↦ K.step (ties e.2) e.1 t) t

variable {K} {tie : ι → ℕ} {ties : ℕ → ι → ℕ} {k : κ} {r r' : ρ} {e : ε} {es : List ε}
  {t : KeyedTable ρ ι σ}

@[simp] theorem run_nil : K.run ties [] t = t := rfl

@[simp] theorem run_concat :
    K.run ties (es ++ [e]) t = K.step (ties es.length) e (K.run ties es t) := by
  rw [run, List.zipIdx_append, List.foldl_append, Nat.zero_add]
  rfl

/-- A run goes on where it stopped. -/
theorem run_append (es' : List ε) :
    K.run ties (es ++ es') t = K.run (fun n ↦ ties (es.length + n)) es' (K.run ties es t) := by
  induction es' using List.reverseRecOn with
  | nil => rw [List.append_nil, run_nil]
  | append_singleton es' e ih =>
    rw [← List.append_assoc, run_concat, run_concat, ih, List.length_append]

/-- A step that finds a row. -/
theorem step_of_some (h : K.first tie (K.target e) t.rows = some r) :
    K.step tie e t = ⟨t.rows.map fun s ↦ if K.id s = K.id r then K.update e s else s,
      Function.update t.aside (K.id r) (K.aside e (t.aside (K.id r)))⟩ := by
  rw [step, h]

/-- A step that creates one. -/
theorem step_of_none (h : K.first tie (K.target e) t.rows = none) :
    K.step tie e t = ⟨t.rows ++ [K.create e (K.fresh t.rows)],
      Function.update t.aside (K.fresh t.rows) (K.aside e K.newAside)⟩ := by
  rw [step, h]

theorem Lawful.keyed_step (hK : K.Lawful) (h : K.Keyed t.rows) (e : ε) :
    K.Keyed (K.step tie e t).rows := by
  rcases hfirst : K.first tie (K.target e) t.rows with - | r
  · rw [step_of_none hfirst]
    exact h.append (by rw [hK.id_create]; exact hK.fresh_not_mem t.rows)
  · rw [step_of_some hfirst]
    exact h.map fun s _ ↦ hK.alike_ite e _ s

/-- **A run keeps identifiers apart.** -/
theorem Lawful.keyed_run (hK : K.Lawful) (h : K.Keyed t.rows) (es : List ε) :
    K.Keyed (K.run ties es t).rows := by
  induction es using List.reverseRecOn with
  | nil => exact h
  | append_singleton es e ih =>
    rw [run_concat]
    exact hK.keyed_step ih e

/-- A property of the rows a step preserves. -/
theorem forall_mem_step {p : ρ → Prop} (hupdate : ∀ r, p r → p (K.update e r))
    (hcreate : ∀ i, p (K.create e i)) (h : ∀ r ∈ t.rows, p r) :
    ∀ r ∈ (K.step tie e t).rows, p r := by
  intro r hr
  rcases hfirst : K.first tie (K.target e) t.rows with - | s
  · rw [step_of_none hfirst, List.mem_append, List.mem_singleton] at hr
    rcases hr with hr | rfl
    · exact h r hr
    · exact hcreate _
  · rw [step_of_some hfirst, List.mem_map] at hr
    obtain ⟨r', hr', rfl⟩ := hr
    split
    · exact hupdate r' (h r' hr')
    · exact h r' hr'

/-- **What updates preserve and creations have, a run preserves.** -/
theorem forall_mem_run {p : ρ → Prop} (hupdate : ∀ e ∈ es, ∀ r, p r → p (K.update e r))
    (hcreate : ∀ e ∈ es, ∀ i, p (K.create e i)) (h : ∀ r ∈ t.rows, p r) :
    ∀ r ∈ (K.run ties es t).rows, p r := by
  induction es using List.reverseRecOn with
  | nil => exact h
  | append_singleton es e ih =>
    rw [run_concat]
    have hmem : ∀ e' ∈ es, e' ∈ es ++ [e] := fun e' he' ↦ List.mem_append_left _ he'
    refine forall_mem_step (hupdate e List.mem_concat_self) (hcreate e List.mem_concat_self) ?_
    exact ih (fun e' he' ↦ hupdate e' (hmem e' he')) fun e' he' ↦ hcreate e' (hmem e' he')

/-- A row stays, rewritten or not. -/
theorem exists_mem_step {p : ρ → Prop} (hK : K.Lawful) (hupdate : ∀ r, p r → p (K.update e r))
    (h : ∃ r ∈ t.rows, K.key r = some k ∧ p r) :
    ∃ r ∈ (K.step tie e t).rows, K.key r = some k ∧ p r := by
  obtain ⟨r, hr, hkey, hp⟩ := h
  rcases hfirst : K.first tie (K.target e) t.rows with - | s
  · rw [step_of_none hfirst]
    exact ⟨r, List.mem_append_left _ hr, hkey, hp⟩
  · rw [step_of_some hfirst]
    refine ⟨_, List.mem_map_of_mem hr, (hK.alike_ite e _ r).key.trans hkey, ?_⟩
    split
    · exact hupdate r hp
    · exact hp

/-- A key that has a row keeps one. -/
theorem exists_key_run (hK : K.Lawful) (h : ∃ r ∈ t.rows, K.key r = some k) (es : List ε) :
    ∃ r ∈ (K.run ties es t).rows, K.key r = some k := by
  induction es using List.reverseRecOn with
  | nil => exact h
  | append_singleton es e ih =>
    obtain ⟨r, hr, hkey⟩ := ih
    rw [run_concat]
    obtain ⟨r', hr', hkey', -⟩ :=
      exists_mem_step (p := fun _ ↦ True) hK (fun _ _ ↦ trivial) ⟨r, hr, hkey, trivial⟩
    exact ⟨r', hr', hkey'⟩

/-- **Each entry of a run has a row afterwards**, with what every write gives a row and none takes
from it. -/
theorem exists_mem_run {p : ρ → Prop} (hK : K.Lawful) (hupdate : ∀ e r, p (K.update e r))
    (hcreate : ∀ e i, p (K.create e i)) (t : KeyedTable ρ ι σ) {es : List ε} :
    ∀ e ∈ es, ∃ r ∈ (K.run ties es t).rows, K.key r = some (K.target e) ∧ p r := by
  induction es using List.reverseRecOn with
  | nil => simp
  | append_singleton es e ih =>
    intro e' he'
    rw [run_concat]
    rcases List.mem_append.1 he' with he' | he'
    · exact exists_mem_step hK (fun r _ ↦ hupdate e r) (ih e' he')
    rw [List.mem_singleton] at he'
    subst he'
    rcases hfirst : K.first (ties es.length) (K.target e') (K.run ties es t).rows with - | r
    · rw [step_of_none hfirst]
      exact ⟨_, List.mem_append_right _ (List.mem_singleton_self _), hK.key_create e' _,
        hcreate e' _⟩
    · obtain ⟨hr, hkey⟩ := mem_of_first hfirst
      rw [step_of_some hfirst]
      refine ⟨_, List.mem_map_of_mem hr, (hK.alike_ite e' _ r).key.trans hkey, ?_⟩
      rw [if_pos rfl]
      exact hupdate e' r

/-! ### Rows without a key -/

theorem filter_foreign_step (hK : K.Lawful) (h : K.Keyed t.rows) (e : ε) :
    ((K.step tie e t).rows.filter fun r ↦ (K.key r).isNone) =
      t.rows.filter fun r ↦ (K.key r).isNone := by
  rcases hfirst : K.first tie (K.target e) t.rows with - | r
  · rw [step_of_none hfirst, List.filter_append, List.filter_cons_of_neg (by simp [hK.key_create]),
      List.filter_nil, List.append_nil]
  · rw [step_of_some hfirst, List.filter_map]
    have hfilter : t.rows.filter ((fun r ↦ (K.key r).isNone) ∘ fun s ↦
        if K.id s = K.id r then K.update e s else s) = t.rows.filter fun r ↦ (K.key r).isNone :=
      List.filter_congr fun s _ ↦ congrArg Option.isNone (hK.alike_ite e _ s).key
    rw [hfilter]
    refine (List.map_congr_left fun s hs ↦ ?_).trans (List.map_id _)
    obtain ⟨hs, hnone⟩ := List.mem_filter.1 hs
    rw [if_neg (id_ne_of_first h hfirst hs (by simp [Option.isNone_iff_eq_none.1 hnone]))]
    rfl

theorem aside_foreign_step (hK : K.Lawful) (h : K.Keyed t.rows) (e : ε) (hr : r ∈ t.rows)
    (hkey : K.key r = none) : (K.step tie e t).aside (K.id r) = t.aside (K.id r) := by
  rcases hfirst : K.first tie (K.target e) t.rows with - | s
  · rw [step_of_none hfirst]
    refine Function.update_of_ne (fun hid ↦ hK.fresh_not_mem t.rows ?_) _ _
    rw [← hid]
    exact List.mem_map_of_mem hr
  · rw [step_of_some hfirst]
    exact Function.update_of_ne (id_ne_of_first h hfirst hr (by simp [hkey])) _ _

/-- **Rows without a key stay as they are**, and so does what is beside them. -/
theorem foreign_run (hK : K.Lawful) (h : K.Keyed t.rows) (es : List ε) :
    ((K.run ties es t).rows.filter fun r ↦ (K.key r).isNone) =
        (t.rows.filter fun r ↦ (K.key r).isNone) ∧
      ∀ r ∈ t.rows, K.key r = none → (K.run ties es t).aside (K.id r) = t.aside (K.id r) := by
  induction es using List.reverseRecOn with
  | nil => exact ⟨rfl, fun _ _ _ ↦ rfl⟩
  | append_singleton es e ih =>
    have hkeyed : K.Keyed (K.run ties es t).rows := hK.keyed_run h es
    rw [run_concat]
    refine ⟨(filter_foreign_step hK hkeyed e).trans ih.1, fun r hr hkey ↦ ?_⟩
    have hmem : r ∈ (K.run ties es t).rows.filter fun r ↦ (K.key r).isNone := by
      rw [ih.1]
      exact List.mem_filter.2 ⟨hr, by simp [hkey]⟩
    exact (aside_foreign_step hK hkeyed e (List.mem_filter.1 hmem).1 hkey).trans (ih.2 r hr hkey)

/-! ### A second run -/

/-- The row of a step's own key, after it. -/
theorem Settled.self (hK : K.Lawful) (hO : K.Overwrites) (h : K.Settled tie es t) (e : ε) :
    ∃ r, K.first tie (K.target e) (K.step tie e t).rows = some r ∧
      (∃ s, r = K.written (es ++ [e]) (K.target e) s) ∧
      ∃ x, (K.step tie e t).aside (K.id r) = K.writtenAside (es ++ [e]) (K.target e) x := by
  rcases hfirst : K.first tie (K.target e) t.rows with - | r
  · have hne : ∀ e' ∈ es, K.target e' ≠ K.target e := by
      intro e' he' heq
      obtain ⟨r, hr, -⟩ := h e' he'
      rw [heq, hfirst] at hr
      cases hr
    rw [step_of_none hfirst]
    refine ⟨_, first_append_of_none hfirst (hK.key_create e _),
      ⟨K.create e (K.fresh t.rows), ?_⟩, ⟨K.newAside, ?_⟩⟩
    · rw [written_concat_self, written_of_forall_ne hne, hO.update_create]
    · rw [writtenAside_concat_self, writtenAside_of_forall_ne hne, hK.id_create]
      exact Function.update_self ..
  · obtain ⟨⟨s, hs⟩, x, hx⟩ := h.exists_written hfirst
    rw [step_of_some hfirst]
    refine ⟨_, (first_map fun s _ ↦ hK.alike_ite e _ s).trans (congrArg _ hfirst), ⟨s, ?_⟩,
      ⟨x, ?_⟩⟩
    · show (if K.id r = K.id r then K.update e r else r) = _
      rw [if_pos rfl, written_concat_self, ← hs]
    · rw [(hK.alike_ite e _ r).id, writtenAside_concat_self, ← hx]
      exact Function.update_self ..

theorem Settled.step (hK : K.Lawful) (hO : K.Overwrites) (hkeyed : K.Keyed t.rows)
    (h : K.Settled tie es t) (e : ε) : K.Settled tie (es ++ [e]) (K.step tie e t) := by
  intro e' he'
  by_cases htarget : K.target e' = K.target e
  · rw [htarget]
    exact h.self hK hO e
  have hmem : e' ∈ es := by
    rcases List.mem_append.1 he' with he' | he'
    · exact he'
    · rw [List.mem_singleton.1 he'] at htarget
      exact absurd rfl htarget
  obtain ⟨r, hr, ⟨s, hs⟩, x, hx⟩ := h e' hmem
  obtain ⟨hrow, hkey⟩ := mem_of_first hr
  rcases hfirst : K.first tie (K.target e) t.rows with - | r'
  · have hid : K.id r ≠ K.fresh t.rows := fun hid ↦
      hK.fresh_not_mem t.rows (hid ▸ List.mem_map_of_mem hrow)
    rw [step_of_none hfirst]
    refine ⟨r, ?_, ⟨s, ?_⟩, ⟨x, ?_⟩⟩
    · refine (first_append_of_ne ?_).trans hr
      rw [hK.key_create, ne_eq, Option.some.injEq]
      exact Ne.symm htarget
    · rw [written_concat_of_ne (Ne.symm htarget), ← hs]
    · rw [writtenAside_concat_of_ne (Ne.symm htarget), ← hx]
      exact Function.update_of_ne hid ..
  · have hid : K.id r ≠ K.id r' := by
      refine id_ne_of_first hkeyed hfirst hrow ?_
      rw [hkey, ne_eq, Option.some.injEq]
      exact htarget
    rw [step_of_some hfirst]
    refine ⟨r, ?_, ⟨s, ?_⟩, ⟨x, ?_⟩⟩
    · refine (first_map fun s _ ↦ hK.alike_ite e _ s).trans ?_
      rw [hr, Option.map_some, if_neg hid]
    · rw [written_concat_of_ne (Ne.symm htarget), ← hs]
    · rw [writtenAside_concat_of_ne (Ne.symm htarget), ← hx]
      exact Function.update_of_ne hid ..

/-- **After a run, every entry has left its mark.** -/
theorem settled_run (hK : K.Lawful) (hO : K.Overwrites) (hkeyed : K.Keyed t.rows) (es : List ε) :
    K.Settled tie es (K.run (fun _ ↦ tie) es t) := by
  induction es using List.reverseRecOn with
  | nil => simp [Settled]
  | append_singleton es e ih =>
    rw [run_concat]
    exact ih.step hK hO (hK.keyed_run hkeyed es) e

/-- What a run does to a table where every entry finds a row. -/
theorem run_of_found (hK : K.Lawful) (hkeyed : K.Keyed t.rows)
    (hfound : ∀ e ∈ es, K.first tie (K.target e) t.rows ≠ none) :
    ∃ g : ρ → ρ, (K.run (fun _ ↦ tie) es t).rows = t.rows.map g ∧ (∀ r, K.Alike r (g r)) ∧
      (∀ k r, K.first tie k t.rows = some r → g r = K.written es k r ∧
        (K.run (fun _ ↦ tie) es t).aside (K.id r) = K.writtenAside es k (t.aside (K.id r))) ∧
      (∀ r ∈ t.rows, (∀ k, K.first tie k t.rows ≠ some r) → g r = r) ∧
      ∀ i, (∀ k r, K.first tie k t.rows = some r → K.id r ≠ i) →
        (K.run (fun _ ↦ tie) es t).aside i = t.aside i := by
  induction es using List.reverseRecOn with
  | nil =>
    exact ⟨fun r ↦ r, (List.map_id _).symm, Alike.refl, fun _ _ _ ↦ ⟨rfl, rfl⟩, fun _ _ _ ↦ rfl,
      fun _ _ ↦ rfl⟩
  | append_singleton es e ih =>
    obtain ⟨g, hrows, hg, hfirst, hkept, haside⟩ :=
      ih fun e' he' ↦ hfound e' (List.mem_append_left _ he')
    obtain ⟨r, hr⟩ := Option.ne_none_iff_exists'.1 (hfound e List.mem_concat_self)
    obtain ⟨hrow, hkey⟩ := mem_of_first hr
    have hr' : K.first tie (K.target e) (K.run (fun _ ↦ tie) es t).rows = some (g r) := by
      rw [hrows, first_map fun s _ ↦ hg s, hr]
      rfl
    rw [run_concat, step_of_some hr', (hg r).id]
    refine ⟨fun s ↦ if K.id s = K.id r then K.update e (g s) else g s, ?_, fun s ↦ ?_,
      fun k s hs ↦ ?_, fun s hs hno ↦ ?_, fun i hi ↦ ?_⟩
    · rw [hrows, List.map_map]
      refine List.map_congr_left fun s _ ↦ ?_
      show (if K.id (g s) = K.id r then K.update e (g s) else g s) = _
      rw [(hg s).id]
    · show K.Alike s (if K.id s = K.id r then K.update e (g s) else g s)
      split
      · exact (hg s).trans (hK.alike_update e (g s))
      · exact hg s
    · by_cases hk : K.target e = k
      · subst hk
        rw [hr, Option.some.injEq] at hs
        subst hs
        refine ⟨?_, ?_⟩
        · show (if K.id r = K.id r then K.update e (g r) else g r) = _
          rw [if_pos rfl, written_concat_self, (hfirst _ r hr).1]
        · rw [writtenAside_concat_self, ← (hfirst _ r hr).2]
          exact Function.update_self ..
      · have hid : K.id s ≠ K.id r := by
          obtain ⟨hs', hkey'⟩ := mem_of_first hs
          refine id_ne_of_first hkeyed hr hs' ?_
          rw [hkey', ne_eq, Option.some.injEq]
          exact Ne.symm hk
        refine ⟨?_, ?_⟩
        · show (if K.id s = K.id r then K.update e (g s) else g s) = _
          rw [if_neg hid, written_concat_of_ne hk, (hfirst k s hs).1]
        · rw [writtenAside_concat_of_ne hk, ← (hfirst k s hs).2]
          exact Function.update_of_ne hid ..
    · have hid : K.id s ≠ K.id r := by
        intro hid
        rw [hkeyed.eq_of_id hs hrow hid] at hno
        exact hno _ hr
      show (if K.id s = K.id r then K.update e (g s) else g s) = _
      rw [if_neg hid, hkept s hs hno]
    · show Function.update _ (K.id r) _ i = _
      rw [Function.update_of_ne (Ne.symm (hi _ r hr))]
      exact haside i hi

/-- **A second run changes nothing.** -/
theorem run_of_settled (hK : K.Lawful) (hO : K.Overwrites) (hkeyed : K.Keyed t.rows)
    (h : K.Settled tie es t) : K.run (fun _ ↦ tie) es t = t := by
  have hfound : ∀ e ∈ es, K.first tie (K.target e) t.rows ≠ none := by
    intro e he hnone
    obtain ⟨r, hr, -⟩ := h e he
    rw [hnone] at hr
    cases hr
  obtain ⟨g, hrows, -, hfirst, hkept, haside⟩ := run_of_found hK hkeyed hfound
  ext1
  · rw [hrows]
    refine (List.map_congr_left fun r hr ↦ ?_).trans (List.map_id _)
    by_cases hk : ∃ k, K.first tie k t.rows = some r
    · obtain ⟨k, hk⟩ := hk
      obtain ⟨⟨s, hs⟩, -⟩ := h.exists_written hk
      rw [(hfirst k r hk).1, hs, hO.written_written]
      rfl
    · exact hkept r hr fun k hk' ↦ hk ⟨k, hk'⟩
  · funext i
    by_cases hi : ∃ k r, K.first tie k t.rows = some r ∧ K.id r = i
    · obtain ⟨k, r, hr, rfl⟩ := hi
      obtain ⟨-, x, hx⟩ := h.exists_written hr
      rw [(hfirst k r hr).2, hx, hO.writtenAside_writtenAside]
    · exact haside i fun k r hr hid ↦ hi ⟨k, r, hr, hid⟩

/-! ### Ties -/

variable (K) in
/-- An entry says of a row what is there already. -/
structure Repeats (e : ε) (t : KeyedTable ρ ι σ) (r : ρ) : Prop where
  update : K.update e r = r
  aside : K.aside e (t.aside (K.id r)) = t.aside (K.id r)

variable (K) in
/-- Where several rows of an entry's key come first, the entry says of each what is there. -/
def Steady (es : List ε) (t : KeyedTable ρ ι σ) : Prop :=
  ∀ e ∈ es, ∀ r r', K.IsFirst (K.target e) t.rows r → K.IsFirst (K.target e) t.rows r' → r ≠ r' →
    K.Repeats e t r

/-- The rows of a step that finds one are rewritten into rows like them. -/
theorem Lawful.isFirst_step_of_some (hK : K.Lawful)
    (hfirst : K.first tie (K.target e) t.rows = some r) :
    K.IsFirst k (K.step tie e t).rows r' ↔
      ∃ s, K.IsFirst k t.rows s ∧ (if K.id s = K.id r then K.update e s else s) = r' := by
  rw [step_of_some hfirst]
  exact isFirst_map fun s _ ↦ hK.alike_ite e _ s

/-- A write that says what is there changes nothing. -/
theorem step_of_repeats (hkeyed : K.Keyed t.rows)
    (hfirst : K.first tie (K.target e) t.rows = some r) (h : K.Repeats e t r) :
    K.step tie e t = t := by
  rw [step_of_some hfirst]
  ext1
  · refine (List.map_congr_left fun s hs ↦ ?_).trans (List.map_id _)
    split
    · rename_i hid
      rw [hkeyed.eq_of_id hs (mem_of_first hfirst).1 hid, h.update]
      rfl
    · rfl
  · show Function.update t.aside (K.id r) (K.aside e (t.aside (K.id r))) = t.aside
    rw [h.aside, Function.update_eq_self]

/-- In a steady table every rank gives one step. -/
theorem Steady.step_eq (hK : K.Lawful) (hkeyed : K.Keyed t.rows) (h : K.Steady es t) (he : e ∈ es)
    (tie tie' : ι → ℕ) : K.step tie e t = K.step tie' e t := by
  rcases hfirst : K.first tie (K.target e) t.rows with - | r
  · have hfirst' : K.first tie' (K.target e) t.rows = none :=
      first_eq_none_iff.2 (first_eq_none_iff.1 hfirst)
    rw [step_of_none hfirst, step_of_none hfirst']
  · obtain ⟨hr, hkey⟩ := mem_of_first hfirst
    have hsome : K.first tie' (K.target e) t.rows ≠ none := first_ne_none hr hkey
    obtain ⟨r', hfirst'⟩ := Option.ne_none_iff_exists'.1 hsome
    by_cases heq : r = r'
    · rw [step_of_some hfirst, step_of_some hfirst', heq]
    · have hrepeats := h e he r r' (hK.isFirst hfirst) (hK.isFirst hfirst') heq
      have hrepeats' := h e he r' r (hK.isFirst hfirst') (hK.isFirst hfirst) (Ne.symm heq)
      rw [step_of_repeats hkeyed hfirst hrepeats, step_of_repeats hkeyed hfirst' hrepeats']

/-- **A step keeps a table steady.** -/
theorem Steady.step (hK : K.Lawful) (hkeyed : K.Keyed t.rows) (h : K.Steady es t) (he : e ∈ es) :
    K.Steady es (K.step tie e t) := by
  intro e' he' r r' hr hr' hne
  rcases hfirst : K.first tie (K.target e) t.rows with - | s
  · -- the row that is new is the only one of its key
    rw [step_of_none hfirst] at hr hr' ⊢
    have hold : ∀ x, K.IsFirst (K.target e') (t.rows ++ [K.create e (K.fresh t.rows)]) x →
        K.target e' ≠ K.target e → K.IsFirst (K.target e') t.rows x := by
      intro x hx htarget
      refine ⟨?_, hx.key, fun y hy ↦ hx.le y (List.mem_append_left _ hy)⟩
      refine (List.mem_append.1 hx.mem).resolve_right fun hnew ↦ htarget ?_
      rw [← Option.some_inj, ← hx.key, List.mem_singleton.1 hnew, hK.key_create]
    have hnew : ∀ x, K.IsFirst (K.target e') (t.rows ++ [K.create e (K.fresh t.rows)]) x →
        K.target e' = K.target e → x = K.create e (K.fresh t.rows) := by
      intro x hx htarget
      refine List.mem_singleton.1 ((List.mem_append.1 hx.mem).resolve_left fun hx' ↦ ?_)
      exact first_eq_none_iff.1 hfirst x hx' (hx.key.trans (congrArg some htarget))
    by_cases htarget : K.target e' = K.target e
    · exact absurd ((hnew r hr htarget).trans (hnew r' hr' htarget).symm) hne
    · have hrold := hold r hr htarget
      have hrepeats := h e' he' r r' hrold (hold r' hr' htarget) hne
      have hid : K.id r ≠ K.fresh t.rows := fun hid ↦
        hK.fresh_not_mem t.rows (hid ▸ List.mem_map_of_mem hrold.mem)
      refine ⟨hrepeats.update, ?_⟩
      show K.aside e' (Function.update t.aside _ _ (K.id r)) = Function.update t.aside _ _ (K.id r)
      rw [Function.update_of_ne hid]
      exact hrepeats.aside
  · by_cases hrepeats : K.Repeats e t s
    · rw [step_of_repeats hkeyed hfirst hrepeats] at hr hr' ⊢
      exact h e' he' r r' hr hr' hne
    -- otherwise the row is the only one that comes first
    have honly : ∀ x, K.IsFirst (K.target e) t.rows x → x = s := fun x hx ↦ by
      by_contra hxs
      exact hrepeats (h e he s x (hK.isFirst hfirst) hx (Ne.symm hxs))
    obtain ⟨x, hx, rfl⟩ := (hK.isFirst_step_of_some hfirst).1 hr
    obtain ⟨x', hx', rfl⟩ := (hK.isFirst_step_of_some hfirst).1 hr'
    have hxx' : x ≠ x' := fun heq ↦ hne (by rw [heq])
    have htarget : K.target e' ≠ K.target e := fun htarget ↦ by
      rw [htarget] at hx hx'
      exact hxx' ((honly x hx).trans (honly x' hx').symm)
    have hid : K.id x ≠ K.id s := id_ne_of_first hkeyed hfirst hx.mem (by
      rw [hx.key, ne_eq, Option.some_inj]
      exact htarget)
    have hold := h e' he' x x' hx hx' hxx'
    rw [if_neg hid, step_of_some hfirst]
    refine ⟨hold.update, ?_⟩
    show K.aside e' (Function.update t.aside _ _ (K.id x)) = Function.update t.aside _ _ (K.id x)
    rw [Function.update_of_ne hid]
    exact hold.aside

/-- A run along a part of the entries keeps a table steady. -/
theorem Steady.run (hK : K.Lawful) (hkeyed : K.Keyed t.rows) (h : K.Steady es t) {es' : List ε}
    (hes' : ∀ e ∈ es', e ∈ es) : K.Steady es (K.run ties es' t) := by
  induction es' using List.reverseRecOn with
  | nil => exact h
  | append_singleton es' e ih =>
    rw [run_concat]
    exact (ih fun e' he' ↦ hes' e' (List.mem_append_left _ he')).step hK (hK.keyed_run hkeyed es')
      (hes' e List.mem_concat_self)

/-- **In a steady table all ranks give one run.** -/
theorem Steady.run_eq (hK : K.Lawful) (hkeyed : K.Keyed t.rows) (h : K.Steady es t) {es' : List ε}
    (hes' : ∀ e ∈ es', e ∈ es) (ties ties' : ℕ → ι → ℕ) :
    K.run ties es' t = K.run ties' es' t := by
  induction es' using List.reverseRecOn with
  | nil => rfl
  | append_singleton es' e ih =>
    have hes : ∀ e' ∈ es', e' ∈ es := fun e' he' ↦ hes' e' (List.mem_append_left _ he')
    rw [run_concat, run_concat, ← ih hes]
    exact (h.run hK hkeyed hes).step_eq hK (hK.keyed_run hkeyed es')
      (hes' e List.mem_concat_self) _ _

/-! ### A run passes over a row -/

/-- The rank that prefers a row. -/
def prefer (i : ι) : ι → ℕ := fun j ↦ if j = i then 0 else 1

/-- The preferred row is found, if it comes first. -/
theorem first_prefer (hK : K.Lawful) (hkeyed : K.Keyed t.rows) (h : K.IsFirst k t.rows r) :
    K.first (prefer (K.id r)) k t.rows = some r := by
  have hsome : K.first (prefer (K.id r)) k t.rows ≠ none := first_ne_none h.mem h.key
  obtain ⟨r', hr'⟩ := Option.ne_none_iff_exists'.1 hsome
  have hle := (firstBy_before hK.le_total hK.le_trans hr' r
    (List.mem_filter.2 ⟨h.mem, by simpa using h.key⟩)).2
    (h.le r' (mem_of_first hr').1 (mem_of_first hr').2)
  have hid : K.id r' = K.id r := by
    by_contra hid
    simp [prefer, hid] at hle
  rw [hr', hkeyed.eq_of_id (mem_of_first hr').1 h.mem hid]

variable (K) in
/-- A row that comes first beside another, and the value beside it. -/
structure Passed (k : κ) (i : ι) (r : ρ) (x : σ) (t : KeyedTable ρ ι σ) : Prop where
  keyed : K.Keyed t.rows
  isFirst : K.IsFirst k t.rows r
  aside : t.aside (K.id r) = x
  other : ∃ r', K.IsFirst k t.rows r' ∧ K.id r' = i
  ne : K.id r ≠ i

/-- A look-up that prefers the other row passes over this one. -/
theorem Passed.step {i : ι} {x : σ} (hK : K.Lawful) (h : K.Passed k i r x t) (e : ε) :
    K.Passed k i r x (K.step (prefer i) e t) := by
  obtain ⟨r', hr', rfl⟩ := h.other
  rcases hfirst : K.first (prefer (K.id r')) (K.target e) t.rows with - | s
  · have hkey : ∀ j, K.key (K.create e j) ≠ some k := fun j hj ↦ by
      rw [hK.key_create] at hj
      exact first_eq_none_iff.1 hfirst r h.isFirst.mem (h.isFirst.key.trans hj.symm)
    have hid : K.id r ≠ K.fresh t.rows := fun hid ↦
      hK.fresh_not_mem t.rows (hid ▸ List.mem_map_of_mem h.isFirst.mem)
    refine ⟨hK.keyed_step h.keyed e, ?_, ?_, ⟨r', ?_, rfl⟩, h.ne⟩
    · rw [step_of_none hfirst]
      exact h.isFirst.append_of_ne (hkey _)
    · rw [step_of_none hfirst]
      exact (Function.update_of_ne hid ..).trans h.aside
    · rw [step_of_none hfirst]
      exact hr'.append_of_ne (hkey _)
  · have hid : K.id r ≠ K.id s := by
      by_cases htarget : K.target e = k
      · rw [htarget, first_prefer hK h.keyed hr', Option.some_inj] at hfirst
        exact hfirst ▸ h.ne
      · refine id_ne_of_first h.keyed hfirst h.isFirst.mem ?_
        rw [h.isFirst.key, ne_eq, Option.some_inj]
        exact Ne.symm htarget
    refine ⟨hK.keyed_step h.keyed e, (hK.isFirst_step_of_some hfirst).2 ⟨r, h.isFirst, if_neg hid⟩,
      ?_, ⟨_, (hK.isFirst_step_of_some hfirst).2 ⟨r', hr', rfl⟩, (hK.alike_ite e _ r').id⟩, h.ne⟩
    rw [step_of_some hfirst]
    exact (Function.update_of_ne hid ..).trans h.aside

theorem Passed.run {i : ι} {x : σ} (hK : K.Lawful) (h : K.Passed k i r x t) {es : List ε}
    (hties : ∀ n < es.length, ties n = prefer i) : K.Passed k i r x (K.run ties es t) := by
  induction es using List.reverseRecOn with
  | nil => exact h
  | append_singleton es e ih =>
    rw [List.length_append, List.length_singleton] at hties
    rw [run_concat, hties es.length (Nat.lt_succ_self _)]
    exact (ih fun n hn ↦ hties n (Nat.lt_succ_of_lt hn)).step hK e

/-- A look-up that prefers the row itself writes it. -/
theorem Passed.write {i : ι} {x : σ} (hK : K.Lawful) (h : K.Passed k i r x t)
    (htarget : K.target e = k) :
    K.Passed k i (K.update e r) (K.aside e x) (K.step (prefer (K.id r)) e t) := by
  have hfirst : K.first (prefer (K.id r)) (K.target e) t.rows = some r := by
    rw [htarget]
    exact first_prefer hK h.keyed h.isFirst
  have hid : K.id (K.update e r) = K.id r := (hK.alike_update e r).id
  obtain ⟨r', hr', hri⟩ := h.other
  refine ⟨hK.keyed_step h.keyed e, (hK.isFirst_step_of_some hfirst).2 ⟨r, h.isFirst, if_pos rfl⟩,
    ?_, ⟨_, (hK.isFirst_step_of_some hfirst).2 ⟨r', hr', rfl⟩, (hK.alike_ite e _ r').id.trans hri⟩,
    hid.symm ▸ h.ne⟩
  rw [hid, step_of_some hfirst, ← h.aside]
  exact Function.update_self ..

/-- A run whose look-ups prefer the other row but for one, which writes this row. -/
theorem Passed.run_once {i : ι} {x : σ} (hK : K.Lawful) (h : K.Passed (K.target e) i r x t)
    (before after : List ε) :
    K.Passed (K.target e) i (K.update e r) (K.aside e x)
      (K.run (fun n ↦ if n = before.length then prefer (K.id r) else prefer i)
        (before ++ [e] ++ after) t) := by
  rw [run_append, run_concat]
  have hbefore : K.Passed (K.target e) i r x
      (K.run (fun n ↦ if n = before.length then prefer (K.id r) else prefer i) before t) :=
    h.run hK fun n hn ↦ if_neg (Nat.ne_of_lt hn)
  rw [if_pos rfl]
  refine (hbefore.write hK rfl).run hK fun n _ ↦ if_neg ?_
  rw [List.length_append, List.length_singleton]
  omega

/-! ### A run with something to follow -/

variable (K) in
/-- What follows a run makes of each row one like it, once and for all, and spares the rows the run
has written. -/
structure Follows (g : ρ → ρ) (es : List ε) : Prop where
  alike : ∀ r, K.Alike r (g r)
  spares : ∀ e ∈ es, ∀ r, K.key r = some (K.target e) → g r = r
  idem : ∀ r, g (g r) = g r

variable (K) in
/-- A run, and what follows it on every row. -/
def runThen (g : ρ → ρ) (ties : ℕ → ι → ℕ) (es : List ε) (t : KeyedTable ρ ι σ) :
    KeyedTable ρ ι σ :=
  ⟨(K.run ties es t).rows.map g, (K.run ties es t).aside⟩

variable {g : ρ → ρ}

theorem Follows.keyed (hg : K.Follows g es) (hK : K.Lawful) (hkeyed : K.Keyed t.rows) :
    K.Keyed (K.runThen g ties es t).rows :=
  (hK.keyed_run hkeyed es).map fun r _ ↦ hg.alike r

omit [DecidableEq ι] [DecidableEq κ] [DecidableRel K.le] in
theorem Follows.passed {i : ι} {x : σ} {t : KeyedTable ρ ι σ} (hg : K.Follows g es) (he : e ∈ es)
    (h : K.Passed (K.target e) i r x t) : K.Passed (K.target e) i r x ⟨t.rows.map g, t.aside⟩ := by
  obtain ⟨r', hr', hri⟩ := h.other
  refine ⟨h.keyed.map fun s _ ↦ hg.alike s, (isFirst_map fun s _ ↦ hg.alike s).2
    ⟨r, h.isFirst, hg.spares e he r h.isFirst.key⟩, h.aside,
    ⟨r', (isFirst_map fun s _ ↦ hg.alike s).2 ⟨r', hr', hg.spares e he r' hr'.key⟩, hri⟩, h.ne⟩

/-- A run over what a run has left, with the ranks of the first. -/
theorem Follows.run_runThen (hg : K.Follows g es) (hK : K.Lawful) (hO : K.Overwrites)
    (hkeyed : K.Keyed t.rows) (tie : ι → ℕ) :
    K.run (fun _ ↦ tie) es (K.runThen g (fun _ ↦ tie) es t) = K.runThen g (fun _ ↦ tie) es t := by
  refine run_of_settled hK hO (hg.keyed hK hkeyed) ?_
  refine (settled_run hK hO hkeyed es).map (fun r _ ↦ hg.alike r) fun r _ e he hkey ↦ ?_
  exact hg.spares e he r hkey

/-- In a steady table, a run over what a run has left changes nothing, whatever the ranks. -/
theorem Steady.run_runThen (hK : K.Lawful) (hO : K.Overwrites) (hkeyed : K.Keyed t.rows)
    (hg : K.Follows g es) (h : K.Steady es t) (ties ties' : ℕ → ι → ℕ) :
    K.run ties' es (K.runThen g ties es t) = K.runThen g ties es t := by
  have hself : ∀ e ∈ es, e ∈ es := fun _ he ↦ he
  have hsteady : K.Steady es (K.runThen g ties es t) := by
    have hrun : K.Steady es (K.run ties es t) := h.run hK hkeyed hself
    intro e he r r' hr hr' hne
    obtain ⟨s, hs, rfl⟩ := (isFirst_map fun s _ ↦ hg.alike s).1 hr
    obtain ⟨s', hs', rfl⟩ := (isFirst_map fun s _ ↦ hg.alike s).1 hr'
    rw [hg.spares e he s hs.key, hg.spares e he s' hs'.key] at hne
    rw [hg.spares e he s hs.key]
    exact ⟨(hrun e he s s' hs hs' hne).update, (hrun e he s s' hs hs' hne).aside⟩
  have hone : K.runThen g ties es t = K.runThen g (fun _ _ ↦ 0) es t := by
    rw [runThen, h.run_eq hK hkeyed hself ties fun _ _ ↦ 0, runThen]
  rw [hsteady.run_eq hK (hg.keyed hK hkeyed) hself ties' fun _ _ ↦ 0, hone]
  exact hg.run_runThen hK hO hkeyed _

/-- **A second run changes nothing, whatever the ranks of both, exactly when the table is steady.**
Where it is not, the first run may pass over a row that the second one writes once. -/
theorem runThen_runThen_iff (hK : K.Lawful) (hO : K.Overwrites) (hkeyed : K.Keyed t.rows)
    (hg : K.Follows g es) :
    (∀ ties ties', K.runThen g ties' es (K.runThen g ties es t) = K.runThen g ties es t) ↔
      K.Steady es t := by
  constructor
  · intro h e he r r' hr hr' hne
    obtain ⟨before, after, hes⟩ := List.append_of_mem he
    have hid : K.id r ≠ K.id r' := fun hid ↦ hne (hkeyed.eq_of_id hr.mem hr'.mem hid)
    have hstart : K.Passed (K.target e) (K.id r') r (t.aside (K.id r)) t :=
      ⟨hkeyed, hr, rfl, ⟨r', hr', rfl⟩, hid⟩
    -- the first run writes the other row only, the second one this row once
    have hfirst : K.Passed (K.target e) (K.id r') r (t.aside (K.id r))
        (K.runThen g (fun _ ↦ prefer (K.id r')) es t) :=
      hg.passed he (hstart.run hK fun _ _ ↦ rfl)
    have hsecond := hg.passed he (hfirst.run_once hK before after)
    have hsplit : before ++ [e] ++ after = es := by
      rw [hes, List.append_assoc]
      rfl
    rw [hsplit] at hsecond
    change K.Passed _ _ _ _ (K.runThen g _ es _) at hsecond
    rw [h] at hsecond
    have hupdate : K.update e r = r := hfirst.keyed.eq_of_id hsecond.isFirst.mem hfirst.isFirst.mem
      (hK.alike_update e r).id
    refine ⟨hupdate, ?_⟩
    rw [← hsecond.aside, hupdate, hfirst.aside]
  · intro h ties ties'
    have hrun := h.run_runThen hK hO hkeyed hg ties ties'
    rw [runThen, hrun]
    refine KeyedTable.ext ?_ rfl
    refine (List.map_congr_left fun r hr ↦ ?_).trans (List.map_id _)
    obtain ⟨s, -, rfl⟩ := List.mem_map.1 hr
    exact hg.idem s

end RowKind
