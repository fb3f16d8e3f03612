import Mathlib.Data.List.Forall2
import Mathlib.Data.List.Sort

/-!
# Lists that are related element by element

What two runs over two lists have in common, when the lists are related element by element and what
the runs look at is the same on related elements: filters keep related lists related, counts agree,
a fold leaves one state, and so does sorting by an order that does not tell related elements apart
(`rel_insertionSort`).
-/

namespace RelatedLists

open List

variable {α β γ : Type*} {R : α → β → Prop}

theorem forall₂_filter {p : α → Bool} {q : β → Bool} (hpq : ∀ a b, R a b → p a = q b)
    {l : List α} {l' : List β} (h : Forall₂ R l l') : Forall₂ R (l.filter p) (l'.filter q) := by
  refine rel_filter (fun a b hab ↦ ?_) h
  show p a = true ↔ q b = true
  rw [hpq a b hab]

theorem countP_eq {p : α → Bool} {q : β → Bool} (hpq : ∀ a b, R a b → p a = q b)
    {l : List α} {l' : List β} (h : Forall₂ R l l') : l.countP p = l'.countP q := by
  rw [countP_eq_length_filter, countP_eq_length_filter]
  exact (forall₂_filter hpq h).length_eq

theorem map_eq {f : α → γ} {g : β → γ} (hfg : ∀ a b, R a b → f a = g b) {l : List α} {l' : List β}
    (h : Forall₂ R l l') : l.map f = l'.map g := by
  rw [← forall₂_eq_eq_eq, forall₂_map_left_iff, forall₂_map_right_iff]
  exact h.imp hfg

/-- **A fold over related lists leaves one state**, when related elements do one thing to it. -/
theorem foldl_eq {f : γ → α → γ} {g : γ → β → γ} (hfg : ∀ s a b, R a b → f s a = g s b)
    {l : List α} {l' : List β} (h : Forall₂ R l l') (s : γ) : l.foldl f s = l'.foldl g s := by
  induction h generalizing s with
  | nil => rfl
  | cons hab _ ih => rw [foldl_cons, foldl_cons, hfg s _ _ hab, ih]

section Sorting

variable {r : α → α → Prop} [DecidableRel r] {r' : β → β → Prop} [DecidableRel r']

theorem rel_orderedInsert (hr : ∀ a b a₁ b₁, R a b → R a₁ b₁ → (r a a₁ ↔ r' b b₁)) {a : α} {b : β}
    (hab : R a b) {l : List α} {l' : List β} (h : Forall₂ R l l') :
    Forall₂ R (l.orderedInsert r a) (l'.orderedInsert r' b) := by
  induction h with
  | nil => exact Forall₂.cons hab Forall₂.nil
  | @cons a₁ b₁ l l' h₁ h ih =>
    rw [orderedInsert_cons, orderedInsert_cons]
    rcases Decidable.em (r a a₁) with hle | hle
    · rw [if_pos hle, if_pos ((hr a b a₁ b₁ hab h₁).1 hle)]
      exact Forall₂.cons hab (Forall₂.cons h₁ h)
    · rw [if_neg hle, if_neg (mt (hr a b a₁ b₁ hab h₁).2 hle)]
      exact Forall₂.cons h₁ ih

/-- **Sorting keeps lists related**, when the orders do not tell related elements apart. -/
theorem rel_insertionSort (hr : ∀ a b a₁ b₁, R a b → R a₁ b₁ → (r a a₁ ↔ r' b b₁)) {l : List α}
    {l' : List β} (h : Forall₂ R l l') : Forall₂ R (l.insertionSort r) (l'.insertionSort r') := by
  induction h with
  | nil => exact Forall₂.nil
  | cons hab _ ih => exact rel_orderedInsert hr hab ih

end Sorting

end RelatedLists
