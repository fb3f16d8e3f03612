import Mathlib.Data.List.Sort

/-!
# The first match of a sorted list

A table of entries, each with a key, is sorted by key and searched for the first entry that
satisfies a test. Entries of equal key come in the order of the table, so the table decides which of
them is found, but only within the **lowest** entries that satisfy the test: each of them is found
in some order of the table (`exists_perm_firstMatch`), and in no order is anything else found
(`IsLowest.of_firstMatch`). Two tables whose lowest entries agree in what matters of them, and they
alone, find the same (`map_firstMatch_eq_iff`).

A list that is searched as it stands is covered by `find?_eq_some_iff_sublist`: what is found is
what satisfies the test with nothing before it that does. A **loop** that carries a state over a
sorted list is free of the order of ties when entries that tie can be swapped (`loop_eq_of_perm`).
-/

namespace FirstMatch

variable {α κ : Type*} [LinearOrder κ] (key : α → κ) (p : α → Bool)

/-- The first entry, by key and then by the order of the table, that satisfies the test. -/
def firstMatch (l : List α) : Option α := (l.insertionSort fun a b ↦ key a ≤ key b).find? p

/-- An entry of least key among those that satisfy the test. -/
def IsLowest (l : List α) (a : α) : Prop :=
  a ∈ l ∧ p a = true ∧ ∀ b ∈ l, p b = true → key a ≤ key b

variable {key p}

/-- What is lowest does not depend on the order of the table. -/
theorem IsLowest.perm {l l' : List α} {a : α} (hperm : l.Perm l') (h : IsLowest key p l a) :
    IsLowest key p l' a :=
  ⟨hperm.mem_iff.1 h.1, h.2.1, fun b hb hpb ↦ h.2.2 b (hperm.mem_iff.2 hb) hpb⟩

theorem firstMatch_eq_none_iff {l : List α} :
    firstMatch key p l = none ↔ ∀ a ∈ l, p a = false := by
  rw [firstMatch, List.find?_eq_none]
  simp only [List.mem_insertionSort, Bool.not_eq_true]

/-- **What is found is lowest.** -/
theorem IsLowest.of_firstMatch {l : List α} {a : α} (h : firstMatch key p l = some a) :
    IsLowest key p l a := by
  obtain ⟨hpa, before, after, hsplit, hbefore⟩ := List.find?_eq_some_iff_append.1 h
  have hsorted : (l.insertionSort fun a b ↦ key a ≤ key b).Pairwise fun a b ↦ key a ≤ key b :=
    List.pairwise_insertionSort _ l
  rw [hsplit, List.pairwise_append, List.pairwise_cons] at hsorted
  have hmem : ∀ b, b ∈ l ↔ b ∈ before ++ a :: after := by
    intro b
    rw [← hsplit, List.mem_insertionSort]
  refine ⟨(hmem a).2 (by simp), hpa, fun b hb hpb ↦ ?_⟩
  rw [hmem, List.mem_append, List.mem_cons] at hb
  rcases hb with hb | rfl | hb
  · have hno := hbefore b hb
    rw [hpb] at hno
    exact absurd hno (by decide)
  · exact le_rfl
  · exact hsorted.2.1.1 b hb

/-- An entry below every match is found where it is inserted: nothing in front of it satisfies the
test. -/
theorem find?_orderedInsert {l : List α} {a : α} (hpa : p a = true)
    (hlow : ∀ b ∈ l, p b = true → key a ≤ key b) :
    (l.orderedInsert (fun a b ↦ key a ≤ key b) a).find? p = some a := by
  induction l with
  | nil => rw [List.orderedInsert_nil, List.find?_cons_of_pos hpa]
  | cons b l ih =>
    rw [List.orderedInsert_cons]
    by_cases hle : key a ≤ key b
    · rw [if_pos hle, List.find?_cons_of_pos hpa]
    · have hpb : ¬p b = true := fun hpb ↦ hle (hlow b List.mem_cons_self hpb)
      rw [if_neg hle, List.find?_cons_of_neg hpb]
      exact ih fun c hc ↦ hlow c (List.mem_cons_of_mem b hc)

/-- **Every lowest entry is found in some order**, also when the table is filtered before it is
sorted. -/
theorem exists_perm_firstMatch {q : α → Bool} {l : List α} {a : α}
    (h : IsLowest key p (l.filter q) a) :
    ∃ l' : List α, l'.Perm l ∧ firstMatch key p (l'.filter q) = some a := by
  obtain ⟨hmem, hpa, hlow⟩ := h
  obtain ⟨hal, hqa⟩ := List.mem_filter.1 hmem
  obtain ⟨before, after, rfl⟩ := List.append_of_mem hal
  have hperm : (a :: (before ++ after)).Perm (before ++ a :: after) := List.perm_middle.symm
  refine ⟨a :: (before ++ after), hperm, ?_⟩
  rw [firstMatch, List.filter_cons_of_pos hqa, List.insertionSort_cons]
  refine find?_orderedInsert hpa fun b hb hpb ↦ hlow b ?_ hpb
  rw [List.mem_insertionSort, List.mem_filter] at hb
  exact List.mem_filter.2 ⟨hperm.mem_iff.1 (List.mem_cons_of_mem a hb.1), hb.2⟩

/-- Something is lowest as soon as something satisfies the test. -/
theorem exists_isLowest_iff {l : List α} : (∃ a, IsLowest key p l a) ↔ ∃ a ∈ l, p a = true := by
  constructor
  · rintro ⟨a, ha, hpa, -⟩
    exact ⟨a, ha, hpa⟩
  · rintro ⟨a, ha, hpa⟩
    rcases hf : firstMatch key p l with - | b
    · rw [firstMatch_eq_none_iff.1 hf a ha] at hpa
      cases hpa
    · exact ⟨b, IsLowest.of_firstMatch hf⟩

/-- **When two tables find the same**, whatever the orders of both: they find something together,
and every lowest entry of the one has the value of every lowest entry of the other. -/
theorem map_firstMatch_eq_iff {β γ : Type*} {key' : β → κ} {p' q' : β → Bool} {q : α → Bool}
    {value : α → γ} {value' : β → γ} {l : List α} {l' : List β} :
    (∀ t : List α, ∀ t' : List β, t.Perm l → t'.Perm l' →
        (firstMatch key' p' (t'.filter q')).map value' =
          (firstMatch key p (t.filter q)).map value) ↔
      ((∃ b, IsLowest key' p' (l'.filter q') b) ↔ ∃ a, IsLowest key p (l.filter q) a) ∧
        ∀ a b, IsLowest key p (l.filter q) a → IsLowest key' p' (l'.filter q') b →
          value' b = value a := by
  constructor
  · intro h
    have hvalues : ∀ a b, IsLowest key p (l.filter q) a → IsLowest key' p' (l'.filter q') b →
        value' b = value a := by
      intro a b ha hb
      obtain ⟨t, hperm, hf⟩ := exists_perm_firstMatch ha
      obtain ⟨t', hperm', hf'⟩ := exists_perm_firstMatch hb
      have heq := h t t' hperm hperm'
      rw [hf, hf'] at heq
      exact Option.some.inj heq
    refine ⟨⟨fun ⟨b, hb⟩ ↦ ?_, fun ⟨a, ha⟩ ↦ ?_⟩, hvalues⟩
    · obtain ⟨t', hperm', hf'⟩ := exists_perm_firstMatch hb
      have heq := h l t' (.refl l) hperm'
      rw [hf', Option.map_some, eq_comm, Option.map_eq_some_iff] at heq
      obtain ⟨a, hf, -⟩ := heq
      exact ⟨a, IsLowest.of_firstMatch hf⟩
    · obtain ⟨t, hperm, hf⟩ := exists_perm_firstMatch ha
      have heq := h t l' hperm (.refl l')
      rw [hf, Option.map_some, Option.map_eq_some_iff] at heq
      obtain ⟨b, hf', -⟩ := heq
      exact ⟨b, IsLowest.of_firstMatch hf'⟩
  · rintro ⟨hsome, hvalues⟩ t t' hperm hperm'
    rcases hf : firstMatch key p (t.filter q) with - | a
    · rcases hf' : firstMatch key' p' (t'.filter q') with - | b
      · rfl
      · -- what is found in one order is lowest in all, and so something is found in the other table
        obtain ⟨a, ha, hpa, -⟩ := hsome.1 ⟨b, (IsLowest.of_firstMatch hf').perm (hperm'.filter q')⟩
        have hno := firstMatch_eq_none_iff.1 hf a ((hperm.symm.filter q).mem_iff.1 ha)
        rw [hpa] at hno
        cases hno
    · have ha := (IsLowest.of_firstMatch hf).perm (hperm.filter q)
      rcases hf' : firstMatch key' p' (t'.filter q') with - | b
      · obtain ⟨b, hb, hpb, -⟩ := hsome.2 ⟨a, ha⟩
        have hno := firstMatch_eq_none_iff.1 hf' b ((hperm'.symm.filter q').mem_iff.1 hb)
        rw [hpb] at hno
        cases hno
      · exact congrArg some (hvalues a b ha ((IsLowest.of_firstMatch hf').perm (hperm'.filter q')))

/-! ### Sorting what is kept -/

section Sorting

variable {r : α → α → Prop} [DecidableRel r] [IsTrans α r]

theorem filter_orderedInsert (q : α → Bool) {a : α} {l : List α} (hl : l.Pairwise r) :
    (l.orderedInsert r a).filter q =
      if q a then (l.filter q).orderedInsert r a else l.filter q := by
  induction l with
  | nil => cases hq : q a <;> simp [hq]
  | cons b l ih =>
    obtain ⟨hb, hl⟩ := List.pairwise_cons.1 hl
    rw [List.orderedInsert_cons]
    by_cases hab : r a b
    · rw [if_pos hab]
      cases hq : q a with
      | false => simp [hq]
      | true =>
        rw [List.filter_cons_of_pos hq, if_pos rfl]
        -- everything that is kept of the list is above what is inserted
        cases hqb : q b with
        | true => simp [hqb, hab]
        | false =>
          rw [List.filter_cons_of_neg (by simp [hqb])]
          have habove : ∀ c ∈ l.filter q, r a c :=
            fun c hc ↦ IsTrans.trans _ b _ hab (hb c (List.mem_of_mem_filter hc))
          rcases hkept : l.filter q with - | ⟨c, rest⟩
          · rfl
          · rw [List.orderedInsert_cons, if_pos (habove c (by simp [hkept]))]
    · rw [if_neg hab]
      cases hqb : q b with
      | true => rw [List.filter_cons_of_pos hqb, ih hl]; cases hq : q a <;> simp [hqb, hab]
      | false => simpa [hqb] using ih hl

/-- **Sorting is stable**, so what is kept of a table can be sorted before or after. -/
theorem filter_insertionSort [Std.Total r] (q : α → Bool) (l : List α) :
    (l.insertionSort r).filter q = (l.filter q).insertionSort r := by
  induction l with
  | nil => rfl
  | cons a l ih =>
    rw [List.insertionSort_cons, filter_orderedInsert q (List.pairwise_insertionSort r l), ih]
    cases hq : q a <;> simp [hq]

end Sorting

/-! ### Loops over sorted lists -/

section Loops

variable {σ β : Type*} {r : α → α → Prop} {loop : List α → σ → β}

/-- An entry can be taken before those that it can be taken before one by one. -/
theorem loop_middle (hcons : ∀ a l l', (∀ s, loop l s = loop l' s) →
      ∀ s, loop (a :: l) s = loop (a :: l') s) {a : α} {pre post : List α}
    (hswap : ∀ b ∈ pre, ∀ rest s, loop (b :: a :: rest) s = loop (a :: b :: rest) s) (s : σ) :
    loop (pre ++ a :: post) s = loop (a :: (pre ++ post)) s := by
  induction pre generalizing s with
  | nil => rfl
  | cons b pre ih =>
    calc loop (b :: (pre ++ a :: post)) s
        = loop (b :: a :: (pre ++ post)) s :=
          hcons b _ _ (ih fun c hc ↦ hswap c (List.mem_cons_of_mem b hc)) s
      _ = loop (a :: b :: (pre ++ post)) s := hswap b List.mem_cons_self _ s

/-- **A loop over a sorted list is free of the order of ties**, when any two entries that tie can be
taken in either order. -/
theorem loop_eq_of_perm (hcons : ∀ a l l', (∀ s, loop l s = loop l' s) →
      ∀ s, loop (a :: l) s = loop (a :: l') s) {l l' : List α}
    (hswap : ∀ a ∈ l, ∀ b ∈ l, r a b → r b a →
      ∀ rest s, loop (a :: b :: rest) s = loop (b :: a :: rest) s)
    (hl : l.Pairwise r) (hl' : l'.Pairwise r) (hperm : l.Perm l') (s : σ) :
    loop l s = loop l' s := by
  induction l generalizing l' s with
  | nil => rw [hperm.nil_eq]
  | cons a l ih =>
    obtain ⟨pre, post, rfl⟩ := List.append_of_mem (hperm.subset List.mem_cons_self)
    obtain ⟨ha, hl⟩ := List.pairwise_cons.1 hl
    obtain ⟨hpre, hpost, hcross⟩ := List.pairwise_append.1 hl'
    -- what stands before the entry ties with it
    have hties : ∀ b ∈ pre, r b a ∧ r a b := by
      intro b hb
      have hba := hcross b hb a List.mem_cons_self
      rcases List.mem_cons.1 (hperm.mem_iff.2 (List.mem_append_left _ hb)) with rfl | hbl
      · exact ⟨hba, hba⟩
      · exact ⟨hba, ha b hbl⟩
    rw [loop_middle hcons (fun b hb ↦ hswap b (hperm.mem_iff.2 (List.mem_append_left _ hb)) a
      List.mem_cons_self (hties b hb).1 (hties b hb).2) s]
    refine hcons a l (pre ++ post) (ih ?_ hl ?_ ?_) s
    · exact fun b hb c hc ↦ hswap b (List.mem_cons_of_mem a hb) c (List.mem_cons_of_mem a hc)
    · exact hl'.sublist (List.Sublist.append_left (List.sublist_cons_self a post) pre)
    · exact (List.perm_cons a).1 (hperm.trans List.perm_middle)

end Loops

theorem pair_sublist_cons {l : List α} {a b x : α} :
    [b, a].Sublist (x :: l) ↔ [b, a].Sublist l ∨ b = x ∧ a ∈ l := by
  rw [List.sublist_cons_iff]
  refine or_congr_right ⟨?_, ?_⟩
  · rintro ⟨r, heq, hr⟩
    obtain ⟨rfl, rfl⟩ := List.cons.inj heq
    exact ⟨rfl, List.singleton_sublist.1 hr⟩
  · rintro ⟨rfl, ha⟩
    exact ⟨[a], rfl, List.singleton_sublist.2 ha⟩

/-- In a list without repetitions, nothing comes before the head. -/
theorem not_pair_sublist_head {l : List α} {b x : α} (hx : x ∉ l) :
    ¬[b, x].Sublist (x :: l) := by
  rw [pair_sublist_cons]
  rintro (h | ⟨-, h⟩)
  · exact hx (h.subset (by simp))
  · exact hx h

/-- In a list without repetitions, what is found is the entry that satisfies the test and has no
such entry before it. -/
theorem find?_eq_some_iff_sublist {l : List α} (hnd : l.Nodup) {a : α} :
    l.find? p = some a ↔ a ∈ l ∧ p a = true ∧ ∀ b, [b, a].Sublist l → ¬p b = true := by
  induction l with
  | nil => simp
  | cons x l ih =>
    rw [List.nodup_cons] at hnd
    by_cases hpx : p x = true
    · rw [List.find?_cons_of_pos hpx]
      constructor
      · rintro ⟨⟩
        exact ⟨List.mem_cons_self, hpx, fun b hb ↦ absurd hb (not_pair_sublist_head hnd.1)⟩
      · rintro ⟨hmem, -, hno⟩
        rcases List.mem_cons.1 hmem with rfl | hmem
        · rfl
        · exact absurd hpx (hno x (pair_sublist_cons.2 (Or.inr ⟨rfl, hmem⟩)))
    · rw [List.find?_cons_of_neg hpx, ih hnd.2]
      constructor
      · rintro ⟨hmem, hpa, hno⟩
        refine ⟨List.mem_cons_of_mem x hmem, hpa, fun b hb ↦ ?_⟩
        rcases pair_sublist_cons.1 hb with hb | ⟨rfl, -⟩
        · exact hno b hb
        · exact hpx
      · rintro ⟨hmem, hpa, hno⟩
        rcases List.mem_cons.1 hmem with rfl | hmem
        · exact absurd hpa hpx
        · exact ⟨hmem, hpa, fun b hb ↦ hno b (hb.cons x)⟩

end FirstMatch
