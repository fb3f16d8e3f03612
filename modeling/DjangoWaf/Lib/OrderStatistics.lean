import Mathlib.Data.List.Sort

/-!
# Order statistics of a list

The `k`-th smallest element of a list, counted from zero. It is known by **counting**: whatever
holds downwards holds at the `k`-th smallest element exactly when more than `k` elements of the list
have it (`kthSmallest_iff`). So it does not depend on the order of the list, and how it moves when
elements are added is a matter of how many of them lie below a bound.

Counting also decides who is among the **first few** of a list that is sorted by a measure, largest
first: an element with few enough at least as large is (`mem_take_of_countP_lt`), and an element
with many enough larger ones is not (`notMem_take_of_le_countP`). Between the two the order of equal
measures matters.
-/

namespace OrderStatistics

variable {α : Type*} [LinearOrder α]

/-- The `k`-th smallest element, counted from zero. -/
def kthSmallest (l : List α) (k : ℕ) : Option α := (l.insertionSort (· ≤ ·))[k]?

theorem kthSmallest_perm {l l' : List α} (h : l.Perm l') (k : ℕ) :
    kthSmallest l k = kthSmallest l' k := by
  have hsorted : l.insertionSort (· ≤ ·) = l'.insertionSort (· ≤ ·) :=
    List.Perm.eq_of_pairwise' (List.pairwise_insertionSort (· ≤ ·) l)
      (List.pairwise_insertionSort (· ≤ ·) l')
      ((List.perm_insertionSort _ l).trans (h.trans (List.perm_insertionSort _ l').symm))
  rw [kthSmallest, kthSmallest, hsorted]

theorem exists_kthSmallest {l : List α} {k : ℕ} (h : k < l.length) :
    ∃ a ∈ l, kthSmallest l k = some a := by
  have hk : k < (l.insertionSort (· ≤ ·)).length := by rwa [List.length_insertionSort]
  exact ⟨_, (List.mem_insertionSort _).1 (List.getElem_mem hk), List.getElem?_eq_getElem hk⟩

/-- In a sorted list what holds downwards holds of as many elements as stand in front. -/
theorem getElem?_iff_of_pairwise {l : List α} (hl : l.Pairwise (· ≤ ·)) {p : α → Bool}
    (hp : ∀ a b, a ≤ b → p b = true → p a = true) {k : ℕ} {a : α} (h : l[k]? = some a) :
    p a = true ↔ k < l.countP p := by
  induction l generalizing k with
  | nil => cases h
  | cons b l ih =>
    obtain ⟨hle, hl⟩ := List.pairwise_cons.1 hl
    rcases hb : p b with _ | _
    · -- the first element fails, and with it all behind
      have hnone : ∀ c ∈ b :: l, ¬p c = true := by
        intro c hc hpc
        rcases List.mem_cons.1 hc with rfl | hc
        · rw [hb] at hpc
          cases hpc
        · rw [hp b c (hle c hc) hpc] at hb
          cases hb
      rw [List.countP_eq_zero.2 hnone]
      exact ⟨fun hpa ↦ absurd hpa (hnone a (List.mem_of_getElem? h)), fun hk ↦ by omega⟩
    · rw [List.countP_cons_of_pos hb]
      rcases k with _ | k
      · obtain rfl : b = a := Option.some.inj h
        exact ⟨fun _ ↦ Nat.succ_pos _, fun _ ↦ hb⟩
      · rw [List.getElem?_cons_succ] at h
        rw [ih hl h, Nat.add_lt_add_iff_right]

/-- **The `k`-th smallest element, by counting.** -/
theorem kthSmallest_iff {l : List α} {p : α → Bool} (hp : ∀ a b, a ≤ b → p b = true → p a = true)
    {k : ℕ} {a : α} (h : kthSmallest l k = some a) : p a = true ↔ k < l.countP p := by
  rw [getElem?_iff_of_pairwise (List.pairwise_insertionSort (· ≤ ·) l) hp h,
    (List.perm_insertionSort (· ≤ ·) l).countP_eq]

/-- Later in the order is larger. -/
theorem kthSmallest_mono {l : List α} {j k : ℕ} (hjk : j ≤ k) {a b : α}
    (ha : kthSmallest l j = some a) (hb : kthSmallest l k = some b) : a ≤ b := by
  have hdown : ∀ c d : α, c ≤ d → decide (d ≤ b) = true → decide (c ≤ b) = true :=
    fun c d hcd hd ↦ decide_eq_true (hcd.trans (of_decide_eq_true hd))
  have hcount := (kthSmallest_iff hdown hb).1 (decide_eq_true le_rfl)
  exact of_decide_eq_true ((kthSmallest_iff hdown ha).2 (hjk.trans_lt hcount))

/-! ### The first few by a measure -/

section Largest

variable {ι : Type*} (f : ι → α)

/-- A list in descending order of a measure. -/
def largestFirst (l : List ι) : List ι := l.insertionSort fun a b ↦ f b ≤ f a

theorem perm_largestFirst (l : List ι) : (largestFirst f l).Perm l := List.perm_insertionSort _ l

theorem pairwise_largestFirst (l : List ι) : (largestFirst f l).Pairwise fun a b ↦ f b ≤ f a := by
  have htotal : Std.Total fun a b : ι ↦ f b ≤ f a := ⟨fun a b ↦ le_total (f b) (f a)⟩
  have htrans : IsTrans ι fun a b : ι ↦ f b ≤ f a := ⟨fun _ _ _ hab hbc ↦ hbc.trans hab⟩
  exact List.pairwise_insertionSort _ l

variable {f}

/-- What stands in front of an element is at least as large. -/
theorem exists_largestFirst_eq {l : List ι} {x : ι} (hx : x ∈ l) :
    ∃ front back, largestFirst f l = front ++ x :: back ∧ (∀ y ∈ front, f x ≤ f y) ∧
      ∀ y ∈ back, f y ≤ f x := by
  obtain ⟨front, back, heq⟩ := List.append_of_mem ((perm_largestFirst f l).mem_iff.2 hx)
  have hsorted := pairwise_largestFirst f l
  rw [heq, List.pairwise_append, List.pairwise_cons] at hsorted
  exact ⟨front, back, heq, fun y hy ↦ hsorted.2.2 y hy x List.mem_cons_self, hsorted.2.1.1⟩

/-- **Among the first few**: fewer than `n` others are at least as large. -/
theorem mem_take_of_countP_lt [DecidableEq ι] {l : List ι} (hl : l.Nodup) {x : ι} (hx : x ∈ l)
    {n : ℕ} (h : (l.countP fun y ↦ y ≠ x && f x ≤ f y) < n) : x ∈ (largestFirst f l).take n := by
  obtain ⟨front, back, heq, hfront, -⟩ := exists_largestFirst_eq (f := f) hx
  have hnodup := (perm_largestFirst f l).nodup_iff.2 hl
  rw [heq] at hnodup
  have hall : ∀ y ∈ front, (y ≠ x && f x ≤ f y : Bool) = true := by
    intro y hy
    have hne : y ≠ x := List.disjoint_of_nodup_append hnodup |> fun hdisj hyx ↦
      hdisj hy (hyx ▸ List.mem_cons_self)
    rw [Bool.and_eq_true, decide_eq_true_eq, decide_eq_true_eq]
    exact ⟨hne, hfront y hy⟩
  have hlt : front.length < n := by
    refine lt_of_le_of_lt ?_ h
    rw [← (perm_largestFirst f l).countP_eq, heq, List.countP_append, List.countP_eq_length.2 hall]
    exact Nat.le_add_right _ _
  rw [heq, List.take_append, List.take_of_length_le hlt.le, List.mem_append]
  obtain ⟨k, hk⟩ := Nat.exists_eq_succ_of_ne_zero (Nat.sub_ne_zero_of_lt hlt)
  rw [hk, List.take_succ_cons]
  exact .inr List.mem_cons_self

/-- **Not among the first few**: at least `n` are larger. -/
theorem notMem_take_of_le_countP {l : List ι} (hl : l.Nodup) {x : ι} {n : ℕ}
    (h : n ≤ l.countP fun y ↦ f x < f y) : x ∉ (largestFirst f l).take n := by
  intro hmem
  obtain ⟨front, back, heq, -, hback⟩ :=
    exists_largestFirst_eq (f := f) ((perm_largestFirst f l).mem_iff.1 (List.mem_of_mem_take hmem))
  have hnodup := (perm_largestFirst f l).nodup_iff.2 hl
  have hle : n ≤ front.length := by
    refine h.trans ?_
    have hnone : ∀ y ∈ x :: back, ¬(decide (f x < f y)) = true := by
      intro y hy
      rw [decide_eq_true_eq, not_lt]
      rcases List.mem_cons.1 hy with rfl | hy
      · exact le_rfl
      · exact hback y hy
    rw [← (perm_largestFirst f l).countP_eq, heq, List.countP_append, List.countP_eq_zero.2 hnone]
    exact List.countP_le_length
  rw [heq] at hnodup hmem
  rw [List.take_append_of_le_length hle] at hmem
  exact List.disjoint_of_nodup_append hnodup (List.mem_of_mem_take hmem) List.mem_cons_self

end Largest

end OrderStatistics
