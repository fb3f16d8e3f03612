import Mathlib.Data.List.Induction
import Mathlib.Data.List.Nodup

/-!
# Dictionaries in insertion order

A Python `dict` as the list of its items, and Django's `QueryDict`, a dictionary of lists of values.
A key that is assigned again keeps its place.

`QueryDict.ofPairs` is a parsed body. `getlist_ofPairs`: the values of a key are those the body has
for it, in their order; `dict()` keeps the last of them.
-/

namespace PyDict

variable {α β : Type*} [DecidableEq α]

/-- `d[key] = value`. -/
def set : List (α × β) → α → β → List (α × β)
  | [], key, value => [(key, value)]
  | p :: d, key, value => if p.1 = key then (key, value) :: d else p :: set d key value

theorem mem_keys_set {d : List (α × β)} {key : α} {value : β} {k : α} :
    k ∈ (set d key value).map Prod.fst ↔ k ∈ d.map Prod.fst ∨ k = key := by
  induction d with
  | nil => simp [set]
  | cons p d ih =>
    rw [set]
    split_ifs with hp
    · simp only [List.map_cons, List.mem_cons, hp]
      tauto
    · simp only [List.map_cons, List.mem_cons, ih]
      tauto

theorem nodup_keys_set {d : List (α × β)} (h : (d.map Prod.fst).Nodup) (key : α) (value : β) :
    ((set d key value).map Prod.fst).Nodup := by
  induction d with
  | nil => exact List.nodup_singleton key
  | cons p d ih =>
    rw [List.map_cons, List.nodup_cons] at h
    rw [set]
    split_ifs with hp
    · rw [List.map_cons, List.nodup_cons, ← hp]
      exact h
    · rw [List.map_cons, List.nodup_cons, mem_keys_set, not_or]
      exact ⟨⟨h.1, hp⟩, ih h.2⟩

theorem mem_of_mem_set {d : List (α × β)} {key : α} {value : β} {p : α × β}
    (h : p ∈ set d key value) : p ∈ d ∨ p = (key, value) := by
  induction d with
  | nil => exact Or.inr (List.mem_singleton.1 h)
  | cons p' d ih =>
    rw [set] at h
    split_ifs at h
    · rcases List.mem_cons.1 h with h | h
      · exact Or.inr h
      · exact Or.inl (List.mem_cons_of_mem p' h)
    · rcases List.mem_cons.1 h with h | h
      · exact Or.inl (h ▸ List.mem_cons_self)
      · exact (ih h).imp_left (List.mem_cons_of_mem p')

theorem lookup_cons_eq_if (p : α × β) (d : List (α × β)) (k : α) :
    (p :: d).lookup k = if k = p.1 then some p.2 else d.lookup k := by
  rw [List.lookup_cons]
  by_cases hk : k = p.1
  · rw [if_pos hk, beq_iff_eq.2 hk]
  · rw [if_neg hk, beq_eq_false_iff_ne.2 hk]

theorem lookup_set (d : List (α × β)) (key : α) (value : β) (k : α) :
    (set d key value).lookup k = if k = key then some value else d.lookup k := by
  induction d with
  | nil => rw [set, lookup_cons_eq_if]
  | cons p d ih =>
    rw [set]
    by_cases hp : p.1 = key
    · rw [if_pos hp, lookup_cons_eq_if, lookup_cons_eq_if, hp]
      split_ifs
      · rfl
      · rfl
    · rw [if_neg hp, lookup_cons_eq_if, lookup_cons_eq_if, ih]
      by_cases hk : k = p.1
      · rw [if_pos hk, if_neg (fun h ↦ hp (hk.symm.trans h)), if_pos hk]
      · rw [if_neg hk, if_neg hk]

/-- A new key comes last. -/
theorem set_of_not_mem {d : List (α × β)} {key : α} (h : key ∉ d.map Prod.fst) (value : β) :
    set d key value = d ++ [(key, value)] := by
  induction d with
  | nil => rfl
  | cons p d ih =>
    rw [List.map_cons, List.mem_cons, not_or] at h
    rw [set, if_neg (Ne.symm h.1), ih h.2, List.cons_append]

/-- What is left under a key when some keys are dropped. -/
theorem lookup_filter (keep : α → Bool) (d : List (α × β)) (k : α) :
    (d.filter fun p ↦ keep p.1).lookup k = if keep k = true then d.lookup k else none := by
  induction d with
  | nil => simp
  | cons p d ih =>
    by_cases hk : k = p.1
    · by_cases hkeep : keep k = true
      · rw [List.filter_cons_of_pos (hk ▸ hkeep), lookup_cons_eq_if, if_pos hk, if_pos hkeep,
          lookup_cons_eq_if, if_pos hk]
      · rw [List.filter_cons_of_neg (hk ▸ hkeep), ih, if_neg hkeep, if_neg hkeep]
    · rw [List.filter_cons, lookup_cons_eq_if, if_neg hk]
      split_ifs at ih ⊢
      · rw [lookup_cons_eq_if, if_neg hk, ih]
      · rw [lookup_cons_eq_if, if_neg hk, ih]
      · exact ih
      · exact ih

/-- Without the keys of the first items. -/
theorem filter_keys_not_mem_take {d : List (α × β)} (h : (d.map Prod.fst).Nodup) (n : ℕ) :
    (d.filter fun p ↦ p.1 ∉ (d.take n).map Prod.fst) = d.drop n := by
  have hkeys : ((d.take n).map Prod.fst ++ (d.drop n).map Prod.fst).Nodup := by
    rwa [← List.map_append, List.take_append_drop]
  have hdisjoint := (List.nodup_append.1 hkeys).2.2
  have hfront : ((d.take n).filter fun p ↦ p.1 ∉ (d.take n).map Prod.fst) = [] := by
    rw [List.filter_eq_nil_iff]
    intro p hp
    rw [decide_eq_true_eq, not_not]
    exact List.mem_map_of_mem hp
  have hback : ((d.drop n).filter fun p ↦ p.1 ∉ (d.take n).map Prod.fst) = d.drop n := by
    rw [List.filter_eq_self]
    intro p hp
    rw [decide_eq_true_eq]
    exact fun hmem ↦ hdisjoint p.1 hmem p.1 (List.mem_map_of_mem hp) rfl
  calc (d.filter fun p ↦ p.1 ∉ (d.take n).map Prod.fst)
      = (d.take n ++ d.drop n).filter fun p ↦ p.1 ∉ (d.take n).map Prod.fst := by
        rw [List.take_append_drop]
    _ = d.drop n := by rw [List.filter_append, hfront, hback, List.nil_append]

/-- New keys are taken over in their order. -/
theorem foldl_set_of_nodup {d items : List (α × β)} (h : (items.map Prod.fst).Nodup)
    (hnew : ∀ p ∈ items, p.1 ∉ d.map Prod.fst) :
    items.foldl (fun d p ↦ set d p.1 p.2) d = d ++ items := by
  induction items generalizing d with
  | nil => rw [List.foldl_nil, List.append_nil]
  | cons p items ih =>
    rw [List.map_cons, List.nodup_cons] at h
    have hrest : ∀ p' ∈ items, p'.1 ∉ (d ++ [p]).map Prod.fst := by
      intro p' hp' hmem
      rw [List.map_append, List.mem_append] at hmem
      rcases hmem with hmem | hmem
      · exact hnew p' (List.mem_cons_of_mem p hp') hmem
      · rw [List.map_singleton, List.mem_singleton] at hmem
        exact h.1 (hmem ▸ List.mem_map_of_mem hp')
    rw [List.foldl_cons, set_of_not_mem (hnew p List.mem_cons_self), ih h.2 hrest,
      List.append_assoc, List.singleton_append]

end PyDict

/-- Django's `QueryDict`, in the order of its keys. -/
structure QueryDict where
  lists : List (String × List String)
  nodup_keys : (lists.map Prod.fst).Nodup

namespace QueryDict

/-- `QueryDict()`. -/
def empty : QueryDict := ⟨[], List.nodup_nil⟩

/-- `q.getlist(key)`. -/
def getlist (q : QueryDict) (key : String) : List String := (q.lists.lookup key).getD []

/-- `q.setlist(key, values)`. -/
def setlist (q : QueryDict) (key : String) (values : List String) : QueryDict :=
  ⟨PyDict.set q.lists key values, PyDict.nodup_keys_set q.nodup_keys key values⟩

/-- `q[key] = value`. -/
def setItem (q : QueryDict) (key value : String) : QueryDict := q.setlist key [value]

/-- `q.appendlist(key, value)`. -/
def appendlist (q : QueryDict) (key value : String) : QueryDict :=
  q.setlist key (q.getlist key ++ [value])

/-- The dictionary of a body. -/
def ofPairs (pairs : List (String × String)) : QueryDict :=
  pairs.foldl (fun q p ↦ q.appendlist p.1 p.2) empty

/-- `q.dict()`: the last value of each key, or `none` for the empty list of a key without one. -/
def dict (q : QueryDict) : List (String × Option String) :=
  q.lists.map fun p ↦ (p.1, p.2.getLast?)

/-- The dictionary without the keys that are not kept. -/
def filterKeys (q : QueryDict) (keep : String → Bool) : QueryDict :=
  ⟨q.lists.filter fun p ↦ keep p.1, q.nodup_keys.sublist (List.filter_sublist.map _)⟩

theorem ext_lists {q q' : QueryDict} (h : q.lists = q'.lists) : q = q' := by
  obtain ⟨lists, nodup_keys⟩ := q
  obtain ⟨lists', nodup_keys'⟩ := q'
  obtain rfl : lists = lists' := h
  rfl

theorem getlist_setlist (q : QueryDict) (key : String) (values : List String) (k : String) :
    (q.setlist key values).getlist k = if k = key then values else q.getlist k := by
  rw [getlist, setlist, PyDict.lookup_set]
  split_ifs
  · rfl
  · rfl

/-- **The values of a key in a body**, in their order. -/
theorem getlist_ofPairs (pairs : List (String × String)) (key : String) :
    (ofPairs pairs).getlist key = (pairs.filter fun p ↦ p.1 = key).map Prod.snd := by
  rw [ofPairs]
  induction pairs using List.reverseRecOn with
  | nil => rfl
  | append_singleton pairs p ih =>
    rw [List.foldl_append, List.foldl_cons, List.foldl_nil, appendlist, getlist_setlist,
      List.filter_append, List.map_append]
    by_cases hp : key = p.1
    · rw [if_pos hp, ← hp, ih, List.filter_cons_of_pos (by simp [hp])]
      rfl
    · rw [if_neg hp, ih, List.filter_cons_of_neg (by simpa using Ne.symm hp)]
      simp

theorem lookup_dict (q : QueryDict) (key : String) :
    (q.dict.lookup key).join = (q.getlist key).getLast? := by
  rw [dict, getlist]
  induction q.lists with
  | nil => rfl
  | cons p lists ih =>
    rw [List.map_cons, PyDict.lookup_cons_eq_if, PyDict.lookup_cons_eq_if]
    by_cases hk : key = p.1
    · rw [if_pos hk, if_pos hk]
      rfl
    · rw [if_neg hk, if_neg hk]
      exact ih

end QueryDict
