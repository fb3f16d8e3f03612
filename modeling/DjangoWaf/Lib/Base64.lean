import DjangoWaf.Lib.PyBytes

/-!
# URL-safe base64

`base64.urlsafe_b64encode` and `base64.urlsafe_b64decode`, the latter as `binascii` runs it when it
is not strict: one character after the other, over everything that is not in the alphabet, up to a
padding that completes a group of four.

`decode_padded` is the way back for a text whose padding was stripped and restored from its length.
-/

namespace Base64

/-- The character of six bits in the URL-safe alphabet. -/
def digit (n : ℕ) : Char :=
  if n < 26 then Char.ofNat (n + 65)
  else if n < 52 then Char.ofNat (n + 71)
  else if n < 62 then Char.ofNat (n - 4)
  else if n < 63 then '-'
  else '_'

/-- The six bits of a character: `-` and `_` are translated to the standard `+` and `/` first. -/
def value (c : Char) : Option ℕ :=
  if 'A' ≤ c ∧ c ≤ 'Z' then some (c.toNat - 65)
  else if 'a' ≤ c ∧ c ≤ 'z' then some (c.toNat - 71)
  else if '0' ≤ c ∧ c ≤ '9' then some (c.toNat + 4)
  else if c = '+' ∨ c = '-' then some 62
  else if c = '/' ∨ c = '_' then some 63
  else none

/-- The characters of a list of bytes, without padding. -/
def bare : List UInt8 → List Char
  | [] => []
  | [a] => [digit (a.toNat / 4), digit (a.toNat % 4 * 16)]
  | [a, b] =>
    [digit (a.toNat / 4), digit (a.toNat % 4 * 16 + b.toNat / 16), digit (b.toNat % 16 * 4)]
  | a :: b :: c :: rest =>
    digit (a.toNat / 4) :: digit (a.toNat % 4 * 16 + b.toNat / 16) ::
      digit (b.toNat % 16 * 4 + c.toNat / 64) :: digit (c.toNat % 64) :: bare rest

/-- `"=" * (-len(s) % 4)`. -/
def padding (s : List Char) : List Char := List.replicate ((4 - s.length % 4) % 4) '='

/-- `urlsafe_b64encode`. -/
def encode (bs : List UInt8) : List Char := bare bs ++ padding (bare bs)

/-- `binascii.a2b_base64`, not strict: how many characters of the current group were read, the bits
left over from them and how many `=` stand behind them. -/
def a2bBase64 : ℕ → ℕ → ℕ → List Char → Option (List UInt8)
  | quadPos, _, _, [] => if quadPos = 0 then some [] else none
  | quadPos, leftchar, pads, c :: cs =>
    if c = '=' then
      if 2 ≤ quadPos then
        if 4 ≤ quadPos + (pads + 1) then some []
        else a2bBase64 quadPos leftchar (pads + 1) cs
      else a2bBase64 quadPos leftchar pads cs
    else
      match value c with
      | none => a2bBase64 quadPos leftchar pads cs
      | some v =>
        match quadPos with
        | 0 => a2bBase64 1 v 0 cs
        | 1 => (a2bBase64 2 (v % 16) 0 cs).map (UInt8.ofNat (leftchar * 4 + v / 16) :: ·)
        | 2 => (a2bBase64 3 (v % 4) 0 cs).map (UInt8.ofNat (leftchar * 16 + v / 4) :: ·)
        | _ => (a2bBase64 0 0 0 cs).map (UInt8.ofNat (leftchar * 64 + v) :: ·)

/-- `urlsafe_b64decode`, or `none` for `binascii.Error`. -/
def decode (s : List Char) : Option (List UInt8) := a2bBase64 0 0 0 s

/-! ### The alphabet -/

theorem value_digit {n : ℕ} (h : n < 64) : value (digit n) = some n := by
  have hall : ∀ n < 64, value (digit n) = some n := by decide
  exact hall n h

theorem digit_ne_pad {n : ℕ} (h : n < 64) : digit n ≠ '=' := by
  have hall : ∀ n < 64, digit n ≠ '=' := by decide
  exact hall n h

theorem isAscii_digit {n : ℕ} (h : n < 64) : PyBytes.isAscii (digit n) = true := by
  have hall : ∀ n < 64, PyBytes.isAscii (digit n) = true := by decide
  exact hall n h

/-- Every character of an encoding is one of the alphabet. -/
theorem exists_digit_of_mem_bare {bs : List UInt8} {c : Char} (h : c ∈ bare bs) :
    ∃ n < 64, c = digit n := by
  induction bs using bare.induct with
  | case1 => exact absurd h List.not_mem_nil
  | case2 a =>
    have ha := a.toNat_lt
    simp only [bare, List.mem_cons, List.not_mem_nil, or_false] at h
    rcases h with h | h
    · exact ⟨_, by omega, h⟩
    · exact ⟨_, by omega, h⟩
  | case3 a b =>
    have ha := a.toNat_lt
    have hb := b.toNat_lt
    simp only [bare, List.mem_cons, List.not_mem_nil, or_false] at h
    rcases h with h | h | h
    · exact ⟨_, by omega, h⟩
    · exact ⟨_, by omega, h⟩
    · exact ⟨_, by omega, h⟩
  | case4 a b c rest ih =>
    have ha := a.toNat_lt
    have hb := b.toNat_lt
    have hc := c.toNat_lt
    simp only [bare, List.mem_cons] at h
    rcases h with h | h | h | h | h
    · exact ⟨_, by omega, h⟩
    · exact ⟨_, by omega, h⟩
    · exact ⟨_, by omega, h⟩
    · exact ⟨_, by omega, h⟩
    · exact ih h

/-- `rstrip("=")` leaves the characters without the padding. -/
theorem rdropWhile_encode (bs : List UInt8) :
    (encode bs).rdropWhile (· == '=') = bare bs := by
  have hkeep : (bare bs).rdropWhile (· == '=') = bare bs := by
    rcases List.eq_nil_or_concat (bare bs) with h | ⟨front, c, h⟩
    · rw [h]
      rfl
    · have hc : c ∈ bare bs := by simp [h]
      obtain ⟨n, hn, rfl⟩ := exists_digit_of_mem_bare hc
      rw [h, List.concat_eq_append]
      exact List.rdropWhile_concat_neg _ _ _ (by simpa using digit_ne_pad hn)
  rw [encode, padding]
  generalize (4 - (bare bs).length % 4) % 4 = k
  induction k with
  | zero => rw [List.replicate_zero, List.append_nil, hkeep]
  | succ k ih =>
    rw [List.replicate_succ', ← List.append_assoc, List.rdropWhile_concat_pos _ _ _ (by simp), ih]

/-! ### The way back -/

section Group

variable {n leftchar : ℕ} (pads : ℕ) (cs : List Char)

theorem a2bBase64_first (hn : n < 64) :
    a2bBase64 0 leftchar pads (digit n :: cs) = a2bBase64 1 n 0 cs := by
  rw [a2bBase64, if_neg (digit_ne_pad hn), value_digit hn]
  rfl

theorem a2bBase64_second (hn : n < 64) {a : UInt8} (ha : leftchar * 4 + n / 16 = a.toNat) :
    a2bBase64 1 leftchar pads (digit n :: cs) = (a2bBase64 2 (n % 16) 0 cs).map (a :: ·) := by
  rw [a2bBase64, if_neg (digit_ne_pad hn), value_digit hn]
  simp only [ha, UInt8.ofNat_toNat]

theorem a2bBase64_third (hn : n < 64) {a : UInt8} (ha : leftchar * 16 + n / 4 = a.toNat) :
    a2bBase64 2 leftchar pads (digit n :: cs) = (a2bBase64 3 (n % 4) 0 cs).map (a :: ·) := by
  rw [a2bBase64, if_neg (digit_ne_pad hn), value_digit hn]
  simp only [ha, UInt8.ofNat_toNat]

theorem a2bBase64_fourth (hn : n < 64) {a : UInt8} (ha : leftchar * 64 + n = a.toNat) :
    a2bBase64 3 leftchar pads (digit n :: cs) = (a2bBase64 0 0 0 cs).map (a :: ·) := by
  rw [a2bBase64, if_neg (digit_ne_pad hn), value_digit hn]
  simp only [ha, UInt8.ofNat_toNat]

end Group

theorem decode_encode (bs : List UInt8) : decode (encode bs) = some bs := by
  rw [decode]
  induction bs using bare.induct with
  | case1 => rfl
  | case2 a =>
    have ha := a.toNat_lt
    have hpad : padding (bare [a]) = ['=', '='] := rfl
    rw [encode, hpad, bare, List.cons_append, List.cons_append, List.nil_append,
      a2bBase64_first _ _ (by omega), a2bBase64_second (a := a) _ _ (by omega) (by omega)]
    rfl
  | case3 a b =>
    have ha := a.toNat_lt
    have hb := b.toNat_lt
    have hpad : padding (bare [a, b]) = ['='] := rfl
    rw [encode, hpad, bare, List.cons_append, List.cons_append, List.cons_append, List.nil_append,
      a2bBase64_first _ _ (by omega), a2bBase64_second (a := a) _ _ (by omega) (by omega),
      a2bBase64_third (a := b) _ _ (by omega) (by omega)]
    rfl
  | case4 a b c rest ih =>
    have ha := a.toNat_lt
    have hb := b.toNat_lt
    have hc := c.toNat_lt
    have hpad : padding (bare (a :: b :: c :: rest)) = padding (bare rest) := by
      rw [padding, padding]
      congr 2
      simp only [bare, List.length_cons]
      omega
    rw [encode, hpad, bare, List.cons_append, List.cons_append, List.cons_append,
      List.cons_append, a2bBase64_first _ _ (by omega),
      a2bBase64_second (a := a) _ _ (by omega) (by omega),
      a2bBase64_third (a := b) _ _ (by omega) (by omega),
      a2bBase64_fourth (a := c) _ _ (by omega) (by omega), ← encode, ih]
    rfl

/-- **What was stripped comes back from the length**: a bare text with its padding restored is
decoded to the bytes it was made from. -/
theorem decode_padded (bs : List UInt8) : decode (bare bs ++ padding (bare bs)) = some bs :=
  decode_encode bs

end Base64
