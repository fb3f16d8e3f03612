import Mathlib.Data.List.Basic

/-!
# UTF-8 with replacement

`b.decode("utf-8", errors="replace")`, read one byte at a time. Between two characters the decoder
keeps nothing; inside one it keeps the bits that have come, the number of bytes that are owed, and
the bytes that may come next. A byte that may not come ends the character with **one** U+FFFD and is
read again from the start, so an ill-formed text costs one U+FFFD for each maximal part of a
character in it.

Two facts carry the uses of the module.

* `decodeFrom_utf8EncodeChar`: an encoded character is read back whatever stands in front of it.
* `length_decodeFrom_le`: a byte owes at most one character, so no text grows.
-/

namespace Utf8

/-- U+FFFD. -/
def replacement : Char := Char.ofNat 0xFFFD

/-- The character with a number. A text has none beyond the last code point and no surrogate. -/
def charOf (n : ℕ) : Char := if n.isValidChar then Char.ofNat n else replacement

/-- A character that has begun. Only continuation bytes may come next, and it will not turn out to
be ASCII. -/
structure Pending where
  /-- The bits that have come. -/
  value : ℕ
  /-- The bytes that are owed after the next one. -/
  more : ℕ
  /-- The least byte that may come next. -/
  low : ℕ
  /-- The greatest byte that may come next. -/
  high : ℕ
  le_low : 0x80 ≤ low
  high_le : high ≤ 0xBF
  wide : 2 ≤ value ∨ (more ≠ 0 ∧ 2 ≤ value * 64 + (low - 0x80))

/-- A byte between two characters: what it completes, and what it begins. -/
def first (b : UInt8) : List Char × Option Pending :=
  let n := b.toNat
  if n < 0x80 then ([Char.ofNat n], none)
  else if h : 0xC2 ≤ n ∧ n ≤ 0xDF then
    ([], some ⟨n - 0xC0, 0, 0x80, 0xBF, Nat.le_refl _, Nat.le_refl _, Or.inl (by omega)⟩)
  else if h : 0xE0 ≤ n ∧ n ≤ 0xEF then
    -- no overlong form, and no surrogate
    ([], some ⟨n - 0xE0, 1, if n = 0xE0 then 0xA0 else 0x80, if n = 0xED then 0x9F else 0xBF,
      by split <;> omega, by split <;> omega, Or.inr ⟨by decide, by split <;> omega⟩⟩)
  else if h : 0xF0 ≤ n ∧ n ≤ 0xF4 then
    -- no overlong form, and nothing above U+10FFFF
    ([], some ⟨n - 0xF0, 2, if n = 0xF0 then 0x90 else 0x80, if n = 0xF4 then 0x8F else 0xBF,
      by split <;> omega, by split <;> omega, Or.inr ⟨by decide, by split <;> omega⟩⟩)
  else ([replacement], none)

/-- A byte between two characters is one, begins one, or is ill-formed. -/
theorem first_cases (b : UInt8) :
    (b.toNat < 0x80 ∧ first b = ([Char.ofNat b.toNat], none)) ∨ (∃ p, first b = ([], some p)) ∨
      first b = ([replacement], none) := by
  rw [first]
  split
  · exact Or.inl ⟨‹_›, rfl⟩
  split
  · exact Or.inr (Or.inl ⟨_, rfl⟩)
  split
  · exact Or.inr (Or.inl ⟨_, rfl⟩)
  split
  · exact Or.inr (Or.inl ⟨_, rfl⟩)
  · exact Or.inr (Or.inr rfl)

theorem Pending.wide_push (p : Pending) {n : ℕ} (h : p.low ≤ n) :
    2 ≤ p.value * 64 + (n - 0x80) := by
  have hlow := p.le_low
  rcases p.wide with hwide | ⟨-, hwide⟩
  · omega
  · omega

/-- A byte inside a character. -/
def Pending.push (p : Pending) (b : UInt8) : List Char × Option Pending :=
  if h : p.low ≤ b.toNat ∧ b.toNat ≤ p.high then
    let value := p.value * 64 + (b.toNat - 0x80)
    match p.more with
    | 0 => ([charOf value], none)
    | more + 1 =>
      ([], some ⟨value, more, 0x80, 0xBF, Nat.le_refl _, Nat.le_refl _,
        Or.inl (p.wide_push h.1)⟩)
  else (replacement :: (first b).1, (first b).2)

/-- One byte. -/
def step : Option Pending → UInt8 → List Char × Option Pending
  | none, b => first b
  | some p, b => p.push b

/-- What a text that ends here still gives. -/
def flush : Option Pending → List Char
  | none => []
  | some _ => [replacement]

/-- The characters of the bytes that follow. -/
def decodeFrom : Option Pending → List UInt8 → List Char
  | p, [] => flush p
  | p, b :: bs => (step p b).1 ++ decodeFrom (step p b).2 bs

/-- `b.decode("utf-8", errors="replace")`. -/
def decodeReplace (bs : List UInt8) : List Char := decodeFrom none bs

@[simp] theorem flush_none : flush none = [] := rfl

@[simp] theorem decodeFrom_nil (p : Option Pending) : decodeFrom p [] = flush p := rfl

theorem decodeFrom_cons (p : Option Pending) (b : UInt8) (bs : List UInt8) :
    decodeFrom p (b :: bs) = (step p b).1 ++ decodeFrom (step p b).2 bs := rfl

/-! ### Bytes that begin a character -/

/-- A byte that continues nothing ends what was pending. -/
theorem step_of_not_continuation (p : Option Pending) {b : UInt8}
    (h : b.toNat < 0x80 ∨ 0xBF < b.toNat) :
    step p b = (flush p ++ (first b).1, (first b).2) := by
  rcases p with - | p
  · rfl
  · have hlow := p.le_low
    have hhigh := p.high_le
    rw [step, Pending.push, dif_neg (by omega)]
    rfl

theorem decodeFrom_of_not_continuation (p : Option Pending) {b : UInt8} (bs : List UInt8)
    (h : b.toNat < 0x80 ∨ 0xBF < b.toNat) :
    decodeFrom p (b :: bs) = flush p ++ decodeFrom none (b :: bs) := by
  rw [decodeFrom_cons, step_of_not_continuation p h, decodeFrom_cons, List.append_assoc]
  rfl

theorem decodeFrom_of_lt (p : Option Pending) {b : UInt8} (bs : List UInt8) (h : b.toNat < 0x80) :
    decodeFrom p (b :: bs) = flush p ++ Char.ofNat b.toNat :: decodeReplace bs := by
  rw [decodeFrom_of_not_continuation p bs (Or.inl h), decodeFrom_cons, step, first, if_pos h]
  rfl

/-- A byte that is owed. -/
theorem decodeFrom_some_of_mem {p : Pending} {b : UInt8} (bs : List UInt8) (hlow : p.low ≤ b.toNat)
    (hhigh : b.toNat ≤ p.high) :
    decodeFrom (some p) (b :: bs) =
      match p.more with
      | 0 => charOf (p.value * 64 + (b.toNat - 0x80)) :: decodeFrom none bs
      | more + 1 => decodeFrom (some ⟨p.value * 64 + (b.toNat - 0x80), more, 0x80, 0xBF,
          Nat.le_refl _, Nat.le_refl _, Or.inl (p.wide_push hlow)⟩) bs := by
  rw [decodeFrom_cons, step, Pending.push, dif_pos ⟨hlow, hhigh⟩]
  rcases p.more with - | more
  · rfl
  · rfl

/-! ### Encoded characters -/

/-- The characters of two bytes. -/
theorem decodeFrom_two {a b : UInt8} (bs : List UInt8) (ha : 0xC2 ≤ a.toNat) (ha' : a.toNat ≤ 0xDF)
    (hb : 0x80 ≤ b.toNat) (hb' : b.toNat ≤ 0xBF) :
    decodeFrom none (a :: b :: bs) =
      charOf ((a.toNat - 0xC0) * 64 + (b.toNat - 0x80)) :: decodeFrom none bs := by
  rw [decodeFrom_cons, step, first, if_neg (by omega), dif_pos ⟨ha, ha'⟩, List.nil_append,
    decodeFrom_some_of_mem bs hb hb']

/-- The characters of three bytes. -/
theorem decodeFrom_three {a b c : UInt8} (bs : List UInt8) (ha : 0xE0 ≤ a.toNat)
    (ha' : a.toNat ≤ 0xEF) (hb : (if a.toNat = 0xE0 then 0xA0 else 0x80) ≤ b.toNat)
    (hb' : b.toNat ≤ if a.toNat = 0xED then 0x9F else 0xBF) (hc : 0x80 ≤ c.toNat)
    (hc' : c.toNat ≤ 0xBF) :
    decodeFrom none (a :: b :: c :: bs) =
      charOf (((a.toNat - 0xE0) * 64 + (b.toNat - 0x80)) * 64 + (c.toNat - 0x80)) ::
        decodeFrom none bs := by
  rw [decodeFrom_cons, step, first, if_neg (by omega), dif_neg (by omega), dif_pos ⟨ha, ha'⟩,
    List.nil_append, decodeFrom_some_of_mem _ hb hb']
  exact decodeFrom_some_of_mem bs hc hc'

/-- The characters of four bytes. -/
theorem decodeFrom_four {a b c d : UInt8} (bs : List UInt8) (ha : 0xF0 ≤ a.toNat)
    (ha' : a.toNat ≤ 0xF4) (hb : (if a.toNat = 0xF0 then 0x90 else 0x80) ≤ b.toNat)
    (hb' : b.toNat ≤ if a.toNat = 0xF4 then 0x8F else 0xBF) (hc : 0x80 ≤ c.toNat)
    (hc' : c.toNat ≤ 0xBF) (hd : 0x80 ≤ d.toNat) (hd' : d.toNat ≤ 0xBF) :
    decodeFrom none (a :: b :: c :: d :: bs) =
      charOf ((((a.toNat - 0xF0) * 64 + (b.toNat - 0x80)) * 64 + (c.toNat - 0x80)) * 64 +
        (d.toNat - 0x80)) :: decodeFrom none bs := by
  rw [decodeFrom_cons, step, first, if_neg (by omega), dif_neg (by omega), dif_neg (by omega),
    dif_pos ⟨ha, ha'⟩, List.nil_append, decodeFrom_some_of_mem _ hb hb']
  refine (decodeFrom_some_of_mem _ hc hc').trans ?_
  exact decodeFrom_some_of_mem bs hd hd'

theorem charOf_of_eq (c : Char) {n : ℕ} (h : n = c.toNat) : charOf n = c := by
  have hvalid : c.toNat.isValidChar := c.valid
  rw [h, charOf, if_pos hvalid]
  exact Char.ofNat_toNat c

/-- An encoded character does not begin with a continuation byte. -/
theorem exists_utf8EncodeChar_eq_cons (c : Char) :
    ∃ b bs, String.utf8EncodeChar c = b :: bs ∧ (b.toNat < 0x80 ∨ 0xBF < b.toNat) := by
  rw [String.utf8EncodeChar]
  split_ifs with h₁ h₂ h₃
  · exact ⟨_, _, rfl, Or.inl (by rw [UInt8.toNat_ofNat']; omega)⟩
  · exact ⟨_, _, rfl, Or.inr (by rw [UInt8.toNat_ofNat']; omega)⟩
  · exact ⟨_, _, rfl, Or.inr (by rw [UInt8.toNat_ofNat']; omega)⟩
  · exact ⟨_, _, rfl, Or.inr (by rw [UInt8.toNat_ofNat']; omega)⟩

theorem decodeFrom_none_utf8EncodeChar (c : Char) (bs : List UInt8) :
    decodeFrom none (String.utf8EncodeChar c ++ bs) = c :: decodeFrom none bs := by
  have hvalid : c.toNat < 0xD800 ∨ (0xDFFF < c.toNat ∧ c.toNat < 0x110000) := c.valid
  have hval : c.val.toNat = c.toNat := rfl
  rw [String.utf8EncodeChar, hval]
  split_ifs with h₁ h₂ h₃
  · rw [List.singleton_append, decodeFrom_of_lt none bs (by rw [UInt8.toNat_ofNat']; omega)]
    have hn : (UInt8.ofNat c.toNat).toNat = c.toNat := by
      rw [UInt8.toNat_ofNat']
      omega
    rw [hn, Char.ofNat_toNat]
    rfl
  · refine (decodeFrom_two bs ?_ ?_ ?_ ?_).trans ?_
    all_goals simp only [UInt8.toNat_ofNat']
    iterate 4 omega
    rw [charOf_of_eq c (by omega)]
  · refine (decodeFrom_three bs ?_ ?_ ?_ ?_ ?_ ?_).trans ?_
    all_goals simp only [UInt8.toNat_ofNat']
    · omega
    · omega
    · split <;> omega
    · split <;> omega
    · omega
    · omega
    · rw [charOf_of_eq c (by omega)]
  · refine (decodeFrom_four bs ?_ ?_ ?_ ?_ ?_ ?_ ?_ ?_).trans ?_
    all_goals simp only [UInt8.toNat_ofNat']
    · omega
    · omega
    · split <;> omega
    · split <;> omega
    · omega
    · omega
    · omega
    · omega
    · rw [charOf_of_eq c (by omega)]

/-- **An encoded character is read back, whatever was pending.** -/
theorem decodeFrom_utf8EncodeChar (p : Option Pending) (c : Char) (bs : List UInt8) :
    decodeFrom p (String.utf8EncodeChar c ++ bs) = flush p ++ c :: decodeReplace bs := by
  obtain ⟨b, tail, heq, hb⟩ := exists_utf8EncodeChar_eq_cons c
  have hnone := decodeFrom_none_utf8EncodeChar c bs
  rw [heq, List.cons_append] at hnone ⊢
  rw [decodeFrom_of_not_continuation p _ hb, hnone]
  rfl

/-- **An encoded text is read back.** -/
theorem decodeReplace_flatMap (cs : List Char) :
    decodeReplace (cs.flatMap String.utf8EncodeChar) = cs := by
  induction cs with
  | nil => rfl
  | cons c cs ih =>
    rw [List.flatMap_cons, decodeReplace, decodeFrom_utf8EncodeChar, ih]
    rfl

/-! ### No text grows -/

/-- A byte completes at most one character more than it begins. -/
theorem length_step_le (p : Option Pending) (b : UInt8) :
    (step p b).1.length + (flush (step p b).2).length ≤ 1 + (flush p).length := by
  have hfirst : (first b).1.length + (flush (first b).2).length ≤ 1 := by
    rcases first_cases b with ⟨-, h⟩ | ⟨p, h⟩ | h
    all_goals
      rw [h]
      exact Nat.le_refl 1
  rcases p with - | p
  · exact Nat.le_trans hfirst (Nat.le_add_right 1 _)
  · rw [step, Pending.push]
    split_ifs
    · rcases p.more with - | more
      · exact Nat.le_succ 1
      · exact Nat.le_succ 1
    · show (first b).1.length + 1 + (flush (first b).2).length ≤ 1 + 1
      omega

/-- A list of bytes that is one byte, or one encoded character. -/
def IsUnit (bs : List UInt8) : Prop := (∃ b, bs = [b]) ∨ ∃ c, bs = String.utf8EncodeChar c

/-- **A text gives at most one character for each byte or encoded character in it.** -/
theorem length_decodeFrom_le {units : List (List UInt8)} (h : ∀ u ∈ units, IsUnit u)
    (p : Option Pending) :
    (decodeFrom p units.flatten).length ≤ units.length + (flush p).length := by
  induction units generalizing p with
  | nil =>
    rw [List.flatten_nil, decodeFrom_nil]
    exact Nat.le_add_left _ _
  | cons u units ih =>
    have ih := ih fun v hv ↦ h v (List.mem_cons_of_mem u hv)
    rw [List.flatten_cons, List.length_cons]
    rcases h u List.mem_cons_self with ⟨b, rfl⟩ | ⟨c, rfl⟩
    · have hstep := length_step_le p b
      have hrest := ih (step p b).2
      rw [List.singleton_append, decodeFrom_cons, List.length_append]
      omega
    · have hrest := ih none
      rw [decodeFrom_utf8EncodeChar, List.length_append, List.length_cons, decodeReplace]
      rw [flush_none, List.length_nil] at hrest
      omega

/-! ### ASCII -/

/-- The replacement is not ASCII, and no number beyond ASCII becomes a character of it. -/
theorem le_toNat_charOf {n : ℕ} (h : 0x80 ≤ n) : 0x80 ≤ (charOf n).toNat := by
  rw [charOf]
  split
  · rename_i hvalid
    rw [Char.ofNat, dif_pos hvalid]
    exact h
  · decide

/-- An ASCII character comes from a byte of its own. -/
theorem toNat_of_mem_step {p : Option Pending} {b : UInt8} {c : Char} (hc : c ∈ (step p b).1)
    (hascii : c.toNat < 0x80) : c.toNat = b.toNat := by
  have hreplacement : ¬replacement.toNat < 0x80 := by decide
  have hfirst : ∀ {c : Char}, c ∈ (first b).1 → c.toNat < 0x80 → c.toNat = b.toNat := by
    intro c hc hascii
    rcases first_cases b with ⟨hb, h⟩ | ⟨p, h⟩ | h
    all_goals rw [h] at hc
    · rw [List.mem_singleton.1 hc, Char.ofNat, dif_pos (Or.inl (by omega))]
      rfl
    · exact absurd hc List.not_mem_nil
    · rw [List.mem_singleton.1 hc] at hascii
      exact absurd hascii hreplacement
  rcases p with - | p
  · exact hfirst hc hascii
  · rw [step, Pending.push] at hc
    split at hc
    · rename_i hb
      rcases hmore : p.more with - | more
      · rw [hmore] at hc
        have hwide : 2 ≤ p.value := by
          rcases p.wide with hwide | ⟨hne, -⟩
          · exact hwide
          · exact absurd hmore hne
        rw [List.mem_singleton.1 hc] at hascii
        exact absurd (le_toNat_charOf (by omega)) (Nat.not_le.2 hascii)
      · rw [hmore] at hc
        exact absurd hc List.not_mem_nil
    · rcases List.mem_cons.1 hc with rfl | hc
      · exact absurd hascii hreplacement
      · exact hfirst hc hascii

theorem exists_of_mem_decodeFrom {p : Option Pending} {bs : List UInt8} {c : Char}
    (hc : c ∈ decodeFrom p bs) (hascii : c.toNat < 0x80) : ∃ b ∈ bs, b.toNat = c.toNat := by
  induction bs generalizing p with
  | nil =>
    rcases p with - | p
    · exact absurd hc List.not_mem_nil
    · rw [List.mem_singleton.1 hc] at hascii
      exact absurd hascii (by decide)
  | cons b bs ih =>
    rw [decodeFrom_cons, List.mem_append] at hc
    rcases hc with hc | hc
    · exact ⟨b, List.mem_cons_self, (toNat_of_mem_step hc hascii).symm⟩
    · obtain ⟨b', hb', heq⟩ := ih hc
      exact ⟨b', List.mem_cons_of_mem b hb', heq⟩

/-- **An ASCII byte cuts a text**: what stands in front of it and what stands behind it are decoded
each for itself. -/
theorem decodeFrom_append_of_lt (p : Option Pending) (front : List UInt8) {b : UInt8}
    (rest : List UInt8) (h : b.toNat < 0x80) :
    decodeFrom p (front ++ b :: rest) =
      decodeFrom p front ++ Char.ofNat b.toNat :: decodeReplace rest := by
  induction front generalizing p with
  | nil => exact decodeFrom_of_lt p rest h
  | cons a front ih =>
    rw [List.cons_append, decodeFrom_cons, decodeFrom_cons, ih, List.append_assoc]

end Utf8
