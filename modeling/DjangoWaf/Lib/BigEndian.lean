import Mathlib.Algebra.Order.Ring.Nat
import Mathlib.Tactic.Ring

/-!
# Numbers spelled by words, the most significant one first

A list of words of `w` bits spells a number below `2 ^ (w * length)`. That its upper `bits` bits are
zero can be said of the number, which is below `2 ^ (w * length - bits)`, or of the words: the first
`bits / w` are zero, and the one after them has `bits % w` zeros on top. Here the two are one
(`value_lt_two_pow_iff`), the full length and the multiples of `w` included.
-/

namespace BigEndian

variable {w k bits d : ℕ} {ds : List ℕ}

/-- The number the words `ds` of `w` bits spell. -/
def value (w : ℕ) (ds : List ℕ) : ℕ := ds.foldl (fun n d ↦ 2 ^ w * n + d) 0

theorem foldl_eq (w n : ℕ) (ds : List ℕ) :
    ds.foldl (fun n d ↦ 2 ^ w * n + d) n = n * 2 ^ (w * ds.length) + value w ds := by
  induction ds generalizing n with
  | nil => simp [value]
  | cons d ds ih =>
    have htail := ih d
    rw [value, List.foldl_cons, List.foldl_cons, Nat.mul_zero, Nat.zero_add, ih, htail,
      List.length_cons, Nat.mul_succ, Nat.pow_add]
    ring

theorem value_cons (w d : ℕ) (ds : List ℕ) :
    value w (d :: ds) = d * 2 ^ (w * ds.length) + value w ds := by
  rw [← foldl_eq, value, List.foldl_cons, Nat.mul_zero, Nat.zero_add]

/-- A quotient and a remainder. -/
theorem mul_add_lt_mul_iff {p q v : ℕ} (hv : v < p) : d * p + v < q * p ↔ d < q := by
  have hp : 0 < p := Nat.zero_lt_of_lt hv
  have hdiv : (d * p + v) / p = d := by
    rw [Nat.add_comm, Nat.add_mul_div_right _ _ hp, Nat.div_eq_of_lt hv, Nat.zero_add]
  rw [← Nat.div_lt_iff_lt_mul hp, hdiv]

theorem value_lt (h : ∀ d ∈ ds, d < 2 ^ w) : value w ds < 2 ^ (w * ds.length) := by
  induction ds with
  | nil => exact Nat.one_pos
  | cons d ds ih =>
    have htail := ih fun e he ↦ h e (List.mem_cons_of_mem _ he)
    rw [List.length_cons, Nat.mul_succ, Nat.add_comm, Nat.pow_add, value_cons,
      mul_add_lt_mul_iff htail]
    exact h d (List.mem_cons_self ..)

/-- Above the words behind the first one only the first one counts. -/
theorem value_cons_lt_iff (h : ∀ e ∈ ds, e < 2 ^ w) :
    value w (d :: ds) < 2 ^ (w * ds.length + k) ↔ d < 2 ^ k := by
  rw [Nat.add_comm, Nat.pow_add, value_cons, mul_add_lt_mul_iff (value_lt h)]

/-- Within the words behind the first one the first one is zero. -/
theorem value_cons_lt_iff_of_le (hk : k ≤ w * ds.length) :
    value w (d :: ds) < 2 ^ k ↔ d = 0 ∧ value w ds < 2 ^ k := by
  rw [value_cons]
  constructor
  · intro hlt
    have hd : d = 0 := by
      by_contra hd
      have hmul := Nat.mul_le_mul_right (2 ^ (w * ds.length)) (Nat.one_le_iff_ne_zero.2 hd)
      have hpow : 2 ^ k ≤ 2 ^ (w * ds.length) := Nat.pow_le_pow_right Nat.two_pos hk
      omega
    rw [hd, Nat.zero_mul, Nat.zero_add] at hlt
    exact ⟨hd, hlt⟩
  · rintro ⟨rfl, hlt⟩
    rwa [Nat.zero_mul, Nat.zero_add]

theorem forall_lt_succ_getD_cons_iff {n : ℕ} :
    (∀ i < n + 1, (d :: ds).getD i 0 = 0) ↔ d = 0 ∧ ∀ i < n, ds.getD i 0 = 0 := by
  constructor
  · intro h
    exact ⟨h 0 (Nat.succ_pos n), fun i hi ↦ h (i + 1) (Nat.succ_lt_succ hi)⟩
  · rintro ⟨hd, h⟩ i hi
    cases i with
    | zero => exact hd
    | succ i => exact h i (Nat.lt_of_succ_lt_succ hi)

/-- **A number below a power of two, word by word.** -/
theorem value_lt_two_pow_iff (hw : 0 < w) (h : ∀ d ∈ ds, d < 2 ^ w)
    (hbits : bits ≤ w * ds.length) :
    value w ds < 2 ^ (w * ds.length - bits) ↔
      (∀ i < bits / w, ds.getD i 0 = 0) ∧
        (bits % w = 0 ∨ ds.getD (bits / w) 0 < 2 ^ (w - bits % w)) := by
  -- one word at a time, until less than one word of zeros is asked for
  induction ds generalizing bits with
  | nil =>
    obtain rfl : bits = 0 := Nat.le_zero.1 hbits
    simp [value]
  | cons d ds ih =>
    have htail : ∀ e ∈ ds, e < 2 ^ w := fun e he ↦ h e (List.mem_cons_of_mem _ he)
    rw [List.length_cons, Nat.mul_succ] at hbits ⊢
    rcases Nat.lt_or_ge bits w with hlt | hge
    · have hd : d < 2 ^ w := h d (List.mem_cons_self ..)
      rw [Nat.add_sub_assoc hlt.le, value_cons_lt_iff htail, Nat.div_eq_of_lt hlt,
        Nat.mod_eq_of_lt hlt, List.getD_cons_zero]
      constructor
      · intro hzeros
        exact ⟨fun i hi ↦ absurd hi (Nat.not_lt_zero i), .inr hzeros⟩
      · rintro ⟨-, rfl | hzeros⟩
        · exact hd
        · exact hzeros
    · obtain ⟨b, rfl⟩ := Nat.exists_eq_add_of_le hge
      have hexp : w * ds.length + w - (w + b) = w * ds.length - b := by omega
      rw [hexp, value_cons_lt_iff_of_le (Nat.sub_le ..), ih htail (by omega),
        Nat.add_div_left b hw, Nat.add_mod_left, forall_lt_succ_getD_cons_iff,
        List.getD_cons_succ, and_assoc]

end BigEndian
