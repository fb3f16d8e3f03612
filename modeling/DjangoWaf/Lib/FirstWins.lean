import Mathlib.Data.List.Nodup

/-!
# The first of a key wins

Rows go into a table one after another, and a row whose key the table holds already is dropped. The
order of arrival decides which of the rows of one key the table keeps, so the table after a batch is
not a function of the set of its rows. What is:

* a batch that repeats the beginning of one inserted before changes nothing more than the rest of it
  (`insertAll_of_prefix`), however the repetition came about;
* every key of a batch is in the table afterwards, once (`map_insertAll_nodup`), and a row that is
  alone with its key is the one that is there (`mem_insertAll_of_unique`).
-/

namespace FirstWins

variable {ρ κ : Type*} [DecidableEq κ] (key : ρ → κ)

/-- One row. -/
def insertNew (table : List ρ) (r : ρ) : List ρ :=
  if key r ∈ table.map key then table else table ++ [r]

/-- A batch of rows. -/
def insertAll (table batch : List ρ) : List ρ := batch.foldl (insertNew key) table

@[simp] theorem insertAll_nil (table : List ρ) : insertAll key table [] = table := rfl

theorem insertAll_cons (table : List ρ) (r : ρ) (batch : List ρ) :
    insertAll key table (r :: batch) = insertAll key (insertNew key table r) batch := rfl

/-- Two batches are one. -/
theorem insertAll_append (table batch batch' : List ρ) :
    insertAll key table (batch ++ batch') = insertAll key (insertAll key table batch) batch' :=
  List.foldl_append

/-! ### What is in the table -/

theorem mem_map_insertNew {table : List ρ} {r : ρ} {k : κ} :
    k ∈ (insertNew key table r).map key ↔ k ∈ table.map key ∨ k = key r := by
  rw [insertNew]
  split
  · rename_i hmem
    refine ⟨Or.inl, ?_⟩
    rintro (h | rfl)
    · exact h
    · exact hmem
  · rw [List.map_append, List.mem_append, List.map_singleton, List.mem_singleton]

theorem mem_map_insertAll {table batch : List ρ} {k : κ} :
    k ∈ (insertAll key table batch).map key ↔ k ∈ table.map key ∨ k ∈ batch.map key := by
  induction batch generalizing table with
  | nil => simp
  | cons r batch ih =>
    rw [insertAll_cons, ih, mem_map_insertNew, List.map_cons, List.mem_cons, or_assoc]

/-- A row of the table was there before, or it came with the batch and was the first of its key. -/
theorem mem_insertAll {table batch : List ρ} {r : ρ} (h : r ∈ insertAll key table batch) :
    r ∈ table ∨ (r ∈ batch ∧ key r ∉ table.map key) := by
  induction batch generalizing table with
  | nil => exact Or.inl h
  | cons s batch ih =>
    rw [insertAll_cons] at h
    rcases ih h with h | ⟨hmem, hkey⟩
    · rw [insertNew] at h
      split at h
      · exact Or.inl h
      · rename_i hnew
        rcases List.mem_append.1 h with h | h
        · exact Or.inl h
        · obtain rfl := List.mem_singleton.1 h
          exact Or.inr ⟨List.mem_cons_self, hnew⟩
    · refine Or.inr ⟨List.mem_cons_of_mem s hmem, fun hold ↦ hkey ?_⟩
      exact (mem_map_insertNew key).2 (Or.inl hold)

theorem map_insertAll_nodup {table : List ρ} (h : (table.map key).Nodup) (batch : List ρ) :
    ((insertAll key table batch).map key).Nodup := by
  induction batch generalizing table with
  | nil => exact h
  | cons r batch ih =>
    rw [insertAll_cons]
    refine ih ?_
    rw [insertNew]
    split
    · exact h
    · rename_i hnew
      rw [List.map_append, List.map_singleton, ← List.concat_eq_append]
      exact h.concat hnew

/-- **A row that is alone with its key gets in.** -/
theorem mem_insertAll_of_unique {table batch : List ρ} {r : ρ} (hr : r ∈ batch)
    (hkey : key r ∉ table.map key) (hunique : ∀ s ∈ batch, key s = key r → s = r) :
    r ∈ insertAll key table batch := by
  have hmem : key r ∈ (insertAll key table batch).map key :=
    (mem_map_insertAll key).2 (Or.inr (List.mem_map_of_mem hr))
  obtain ⟨s, hs, heq⟩ := List.mem_map.1 hmem
  rcases mem_insertAll key hs with hold | ⟨hs', -⟩
  · exact absurd (heq ▸ List.mem_map_of_mem hold) hkey
  · rwa [hunique s hs' heq] at hs

/-! ### Repetitions -/

/-- A batch whose keys are all there changes nothing. -/
theorem insertAll_of_forall_mem {table batch : List ρ}
    (h : ∀ r ∈ batch, key r ∈ table.map key) : insertAll key table batch = table := by
  induction batch with
  | nil => rfl
  | cons r batch ih =>
    rw [insertAll_cons, insertNew, if_pos (h r List.mem_cons_self)]
    exact ih fun s hs ↦ h s (List.mem_cons_of_mem r hs)

/-- **A batch that begins with one inserted before** comes to the same as if it had come alone. -/
theorem insertAll_of_prefix {batch batch' : List ρ} (h : batch <+: batch') (table : List ρ) :
    insertAll key (insertAll key table batch) batch' = insertAll key table batch' := by
  obtain ⟨rest, rfl⟩ := h
  rw [insertAll_append key table, insertAll_append key (insertAll key table batch),
    insertAll_of_forall_mem key fun r hr ↦
      (mem_map_insertAll key).2 (Or.inr (List.mem_map_of_mem hr))]

end FirstWins
