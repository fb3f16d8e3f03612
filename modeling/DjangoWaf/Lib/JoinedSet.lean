import Mathlib.Data.Finset.Sort
import Mathlib.Data.List.Lex

/-!
# A set of words kept as one text

A text keeps a finite set of words when it is the words in order with a separator between them.
Every word is then found again by splitting, since no word is empty or holds the separator; and a
text is determined by the set it keeps (`Keeps.unique`), so what it looks like says nothing about
how it came about.

* A word is added by splitting, adding and joining again. Whatever the text was, the result keeps a
  set (`keeps_add`): **one addition brings any text into form**.
* The empty text keeps the empty set, and is the one text of a set whose pieces are not its words:
  splitting it leaves one empty piece.
-/

namespace JoinedSet

variable {α : Type*} [LinearOrder α] {sep : α} {t t' d : List α} {s : Finset (List α)}

/-- The pieces of a text that are words. -/
def pieces (sep : α) (t : List α) : List (List α) := (t.splitOn sep).filter fun p ↦ p ≠ []

/-- The words in order, with the separator between them. -/
def join (sep : α) (s : Finset (List α)) : List α := [sep].intercalate (s.sort (· ≤ ·))

/-- The set with one word more, unless the word is empty. -/
def insertWord (d : List α) (s : Finset (List α)) : Finset (List α) :=
  if d = [] then s else insert d s

/-- Split, add, join. -/
def add (sep : α) (t d : List α) : List α := join sep (insertWord d (pieces sep t).toFinset)

/-- The text keeps the set. -/
structure Keeps (sep : α) (t : List α) (s : Finset (List α)) : Prop where
  eq_join : t = join sep s
  ne_nil : ∀ p ∈ s, p ≠ []
  not_mem : ∀ p ∈ s, sep ∉ p

/-- No piece holds the separator. -/
theorem not_mem_of_mem_splitOn {p : List α} (h : p ∈ t.splitOn sep) : sep ∉ p := by
  induction t generalizing p with
  | nil =>
    rw [List.mem_singleton.1 h]
    exact List.not_mem_nil
  | cons c cs ih =>
    rw [List.splitOn_cons_eq_if_modifyHead] at h
    split_ifs at h with hc
    · rcases List.mem_cons.1 h with rfl | h
      · exact List.not_mem_nil
      · exact ih h
    · rcases hs : cs.splitOn sep with - | ⟨q, qs⟩
      · exact absurd hs (List.splitOn_ne_nil sep cs)
      · rw [hs] at h ih
        rcases List.mem_cons.1 h with rfl | h
        · rw [List.mem_cons, not_or]
          exact ⟨fun heq ↦ hc (beq_iff_eq.2 heq.symm), ih List.mem_cons_self⟩
        · exact ih (List.mem_cons_of_mem q h)

theorem mem_insertWord {p : List α} (hp : p ≠ []) : p ∈ insertWord d s ↔ p ∈ s ∨ p = d := by
  rw [insertWord]
  split_ifs with hd
  · rw [hd, or_iff_left hp]
  · rw [Finset.mem_insert, or_comm]

theorem ne_nil_of_mem_insertWord {p : List α} (hs : ∀ p ∈ s, p ≠ []) (hp : p ∈ insertWord d s) :
    p ≠ [] := by
  rw [insertWord] at hp
  split_ifs at hp with hd
  · exact hs p hp
  · rcases Finset.mem_insert.1 hp with rfl | hp
    · exact hd
    · exact hs p hp

/-- One word more on the left is one more on the right. -/
theorem insertWord_union (d : List α) (s w : Finset (List α)) :
    insertWord d s ∪ w.erase [] = s ∪ (insert d w).erase [] := by
  rw [insertWord]
  split_ifs with hd
  · rw [hd, Finset.erase_insert_eq_erase]
  · rw [Finset.erase_insert_of_ne hd, Finset.insert_union, Finset.union_insert]

namespace Keeps

theorem empty (sep : α) : Keeps sep [] ∅ where
  eq_join := by
    rw [join, Finset.sort_empty]
    rfl
  ne_nil p hp := absurd hp (Finset.notMem_empty p)
  not_mem p hp := absurd hp (Finset.notMem_empty p)

/-- A text is the only one of its set. -/
theorem unique (h : Keeps sep t s) (h' : Keeps sep t' s) : t = t' := h.eq_join.trans h'.eq_join.symm

/-- Splitting gives the words in order. -/
theorem splitOn_eq (h : Keeps sep t s) (hs : s.Nonempty) : t.splitOn sep = s.sort (· ≤ ·) := by
  have hwords : ∀ p ∈ s.sort (· ≤ ·), sep ∉ p := fun p hp ↦
    h.not_mem p ((Finset.mem_sort _).1 hp)
  have hne : s.sort (· ≤ ·) ≠ [] := by
    obtain ⟨p, hp⟩ := hs
    exact List.ne_nil_of_mem ((Finset.mem_sort _).2 hp)
  rw [h.eq_join, join, List.splitOn_intercalate sep hwords hne]

/-- With the empty pieces dropped that holds of the empty set too. -/
theorem pieces_eq (h : Keeps sep t s) : pieces sep t = s.sort (· ≤ ·) := by
  rw [pieces]
  rcases s.eq_empty_or_nonempty with rfl | hs
  · rw [h.unique (empty sep), Finset.sort_empty]
    rfl
  · rw [h.splitOn_eq hs, List.filter_eq_self]
    intro p hp
    exact decide_eq_true (h.ne_nil p ((Finset.mem_sort _).1 hp))

end Keeps

/-- **An addition brings any text into form.** -/
theorem keeps_add (t : List α) (hd : sep ∉ d) :
    Keeps sep (add sep t d) (insertWord d (pieces sep t).toFinset) where
  eq_join := rfl
  ne_nil p := ne_nil_of_mem_insertWord fun q hq ↦
    of_decide_eq_true (List.mem_filter.1 (List.mem_toFinset.1 hq)).2
  not_mem p hp := by
    by_cases hnil : p = []
    · rw [hnil]
      exact List.not_mem_nil
    rcases (mem_insertWord hnil).1 hp with hp | rfl
    · exact not_mem_of_mem_splitOn (List.mem_filter.1 (List.mem_toFinset.1 hp)).1
    · exact hd

namespace Keeps

/-- An addition to the text is an addition to the set. -/
theorem add (h : Keeps sep t s) (hd : sep ∉ d) : Keeps sep (add sep t d) (insertWord d s) := by
  have hset := keeps_add t hd
  rwa [h.pieces_eq, Finset.sort_toFinset] at hset

theorem add_nil (h : Keeps sep t s) : JoinedSet.add sep t [] = t :=
  (h.add List.not_mem_nil).unique h

/-- **The set after a run of additions**: that of the words, in whatever order they came and however
often. -/
theorem foldl {words : List (List α)} (h : Keeps sep t s) (hwords : ∀ d ∈ words, sep ∉ d) :
    Keeps sep (words.foldl (JoinedSet.add sep) t) (s ∪ words.toFinset.erase []) := by
  induction words generalizing t s with
  | nil =>
    rw [List.toFinset_nil, Finset.erase_empty, Finset.union_empty]
    exact h
  | cons d words ih =>
    have hrest := ih (h.add (hwords d List.mem_cons_self))
      fun e he ↦ hwords e (List.mem_cons_of_mem d he)
    rwa [insertWord_union, ← List.toFinset_cons] at hrest

end Keeps

end JoinedSet
