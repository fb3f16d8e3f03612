import Mathlib.Data.List.Dedup

/-!
# Counting insertions

Keys go into a table one after another, and a key the table holds already is not inserted again.
`insertions` counts the keys that are. Someone who looks at the table as it was before counts the
keys it does not hold; the two counts agree **exactly when the new keys are all different**, and
none of them has got in by another way (`insertions_eq_countP_iff`).

`countP_add_countP_only` compares two tests of one list: their counts differ by what passes only the
one and what passes only the other.
-/

variable {κ : Type*} [DecidableEq κ]

/-- How many of the keys are inserted into a table that holds some. -/
def insertions (held : κ → Bool) : List κ → ℕ
  | [] => 0
  | k :: ks => (!held k).toNat + insertions (fun k' ↦ held k' || k' = k) ks

theorem insertions_congr {held held' : κ → Bool} {ks : List κ}
    (h : ∀ k ∈ ks, held k = held' k) : insertions held ks = insertions held' ks := by
  induction ks generalizing held held' with
  | nil => rfl
  | cons k ks ih =>
    rw [insertions, insertions, h k List.mem_cons_self]
    congr 1
    refine ih fun k' hk' ↦ ?_
    rw [h k' (List.mem_cons_of_mem k hk')]

/-- Something is inserted when a key is new. -/
theorem insertions_pos_iff {held : κ → Bool} {ks : List κ} :
    0 < insertions held ks ↔ ∃ k ∈ ks, held k = false := by
  induction ks with
  | nil => exact iff_of_false (Nat.lt_irrefl 0) fun ⟨_, hk, _⟩ ↦ List.not_mem_nil hk
  | cons k ks ih =>
    rw [insertions]
    rcases hheld : held k with - | -
    · exact iff_of_true (Nat.lt_add_right _ Nat.zero_lt_one) ⟨k, List.mem_cons_self, hheld⟩
    · -- a key that is held already adds nothing to what is
      have hsame : insertions (fun k' ↦ held k' || decide (k' = k)) ks = insertions held ks := by
        refine insertions_congr fun k' _ ↦ ?_
        rcases eq_or_ne k' k with rfl | hne
        · rw [hheld, Bool.true_or]
        · rw [decide_eq_false hne, Bool.or_false]
      rw [hsame, Bool.not_true, Bool.toNat_false, Nat.zero_add, ih]
      constructor
      · rintro ⟨k', hk', hnew⟩
        exact ⟨k', List.mem_cons_of_mem k hk', hnew⟩
      · rintro ⟨k', hk', hnew⟩
        rcases List.mem_cons.1 hk' with rfl | hk'
        · rw [hheld] at hnew
          cases hnew
        · exact ⟨k', hk', hnew⟩

/-- No more keys are inserted than an earlier table lacks. -/
theorem insertions_le_countP (held other : κ → Bool) (ks : List κ) :
    insertions (fun k ↦ held k || other k) ks ≤ ks.countP fun k ↦ !held k := by
  induction ks generalizing other with
  | nil => exact Nat.le_refl 0
  | cons k ks ih =>
    have hrest := ih fun k' ↦ other k' || decide (k' = k)
    simp only [← Bool.or_assoc] at hrest
    rw [insertions, List.countP_cons]
    rcases held k with - | - <;> rcases other k with - | - <;> simp <;> omega

/-- **An earlier table counts right** exactly when the keys it lacks are all different, and no other
way has brought one of them in. -/
theorem insertions_eq_countP_iff (held other : κ → Bool) (ks : List κ) :
    insertions (fun k ↦ held k || other k) ks = ks.countP (fun k ↦ !held k) ↔
      (ks.filter fun k ↦ !held k).Nodup ∧ ∀ k ∈ ks.filter fun k ↦ !held k, other k = false := by
  induction ks generalizing other with
  | nil => exact iff_of_true rfl ⟨List.nodup_nil, fun _ h ↦ (List.not_mem_nil h).elim⟩
  | cons k ks ih =>
    have hle := insertions_le_countP held (fun k' ↦ other k' || decide (k' = k)) ks
    have hrest := ih fun k' ↦ other k' || decide (k' = k)
    simp only [← Bool.or_assoc] at hle hrest
    rw [insertions, List.countP_cons]
    rcases hheld : held k with - | -
    · have hnew : ((k :: ks).filter fun k ↦ !held k) = k :: ks.filter fun k ↦ !held k :=
        List.filter_cons_of_pos (by rw [hheld]; rfl)
      rw [hnew, List.nodup_cons, List.forall_mem_cons]
      rcases hother : other k with - | -
      · -- the key is new, and from now on it is held
        have hcount : ((!(false || false)).toNat + insertions (fun k' ↦ held k' || other k' ||
            decide (k' = k)) ks = ks.countP (fun k ↦ !held k) + if (!false) = true then 1 else 0) ↔
            insertions (fun k' ↦ held k' || other k' || decide (k' = k)) ks =
              ks.countP fun k ↦ !held k := by
          simp only [Bool.or_self, Bool.not_false, Bool.toNat_true, if_true]
          omega
        rw [hcount, hrest]
        constructor
        · rintro ⟨hnodup, hall⟩
          refine ⟨⟨fun hmem ↦ ?_, hnodup⟩, rfl, fun k' hk' ↦ ?_⟩
          · have := hall k hmem
            simp at this
          · exact (Bool.or_eq_false_iff.1 (hall k' hk')).1
        · rintro ⟨⟨hnotmem, hnodup⟩, -, hall⟩
          refine ⟨hnodup, fun k' hk' ↦ ?_⟩
          rw [hall k' hk', Bool.false_or, decide_eq_false_iff_not]
          rintro rfl
          exact hnotmem hk'
      · refine iff_of_false ?_ fun h ↦ by simp at h
        simp only [Bool.or_true, Bool.not_true, Bool.toNat_false, Bool.not_false, if_true]
        omega
    · have hold : ((k :: ks).filter fun k ↦ !held k) = ks.filter fun k ↦ !held k :=
        List.filter_cons_of_neg (by rw [hheld]; exact Bool.false_ne_true)
      rw [hold]
      simp only [Bool.true_or, Bool.not_true, Bool.toNat_false, Bool.false_eq_true, if_false,
        Nat.zero_add, Nat.add_zero]
      rw [hrest]
      refine and_congr_right fun _ ↦ forall_congr' fun k' ↦ forall_congr' fun hk' ↦ ?_
      rw [Bool.or_eq_false_iff, and_iff_left]
      rw [decide_eq_false_iff_not]
      rintro rfl
      have hlacks := (List.mem_filter.1 hk').2
      rw [hheld] at hlacks
      cases hlacks

/-- Different keys are inserted when the table lacks them. -/
theorem insertions_of_nodup {held : κ → Bool} {ks : List κ} (h : ks.Nodup) :
    insertions held ks = ks.countP fun k ↦ !held k := by
  have hiff := insertions_eq_countP_iff held (fun _ ↦ false) ks
  simp only [Bool.or_false] at hiff
  exact hiff.2 ⟨h.filter _, fun _ _ ↦ trivial⟩

/-- The same, for keys that are computed from different elements. -/
theorem insertions_map {α : Type*} {held : κ → Bool} {f : α → κ} (hf : f.Injective) {l : List α}
    (h : l.Nodup) : insertions held (l.map f) = l.countP fun a ↦ !held (f a) := by
  rw [insertions_of_nodup (h.map hf), List.countP_map]
  rfl

omit [DecidableEq κ] in
/-- **Two tests of one list**: what passes only the one makes up for what passes only the other. -/
theorem countP_add_countP_only (p q : κ → Bool) (ks : List κ) :
    ks.countP p + (ks.countP fun k ↦ q k && !p k) =
      ks.countP q + ks.countP fun k ↦ p k && !q k := by
  induction ks with
  | nil => rfl
  | cons k ks ih =>
    simp only [List.countP_cons]
    rcases p k with - | - <;> rcases q k with - | - <;> simp <;> omega
