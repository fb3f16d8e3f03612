import Mathlib.Algebra.Order.Ring.Int
import Mathlib.Tactic.Linarith

/-!
# Whole numbers in JavaScript

A JavaScript number is a double. Here are the doubles that are whole numbers, as integers: `add`,
`sub` and `mul` round to the nearest double, ties to even, and are exact up to `2 ^ 53`; the bit
operators work on the low 32 bits and give a signed 32-bit number, except `>>>`, which gives an
unsigned one. Overflow to infinity, from `2 ^ 1024` on, is not modelled.

`Sums k x n` relates a number to the natural number it stands for modulo `2 ^ 32`: it is a sum of
`k` words at most, so that the next additions are exact too. `Word` is the case of one word.
-/

namespace JsNumber

/-! ### Doubles -/

/-- The double nearest to a whole number. -/
def roundDouble (n : ℤ) : ℤ :=
  let m := n.natAbs
  let ulp := 2 ^ (Nat.log2 m - 52)
  let q := m / ulp
  let rest := 2 * (m % ulp)
  n.sign * (if rest < ulp ∨ (rest = ulp ∧ q % 2 = 0) then q * ulp else (q + 1) * ulp : ℕ)

/-- `x + y`. -/
def add (x y : ℤ) : ℤ := roundDouble (x + y)

/-- `x - y`. -/
def sub (x y : ℤ) : ℤ := roundDouble (x - y)

/-- `x * y`. -/
def mul (x y : ℤ) : ℤ := roundDouble (x * y)

/-- `Math.floor(x / 2 ** n)`: dividing by a power of two is exact. -/
def floorDivPow (x : ℤ) (n : ℕ) : ℤ := x / 2 ^ n

/-- A whole number of at most 53 bits is a double. -/
theorem roundDouble_of_lt {n : ℤ} (h : n.natAbs < 2 ^ 53) : roundDouble n = n := by
  have hlog : Nat.log2 n.natAbs - 52 = 0 := by
    by_cases hzero : n.natAbs = 0
    · rw [hzero]
      rfl
    · have hlt := (Nat.log2_lt hzero).2 h
      omega
  rw [roundDouble, hlog]
  show n.sign * ((if 2 * (n.natAbs % 1) < 1 ∨ _ then n.natAbs / 1 * 1 else _ : ℕ) : ℤ) = n
  rw [if_pos (Or.inl (by omega)), Nat.div_one, Nat.mul_one]
  exact Int.sign_mul_natAbs n

theorem add_of_lt {x y : ℤ} (h : (x + y).natAbs < 2 ^ 53) : add x y = x + y := roundDouble_of_lt h

theorem sub_of_lt {x y : ℤ} (h : (x - y).natAbs < 2 ^ 53) : sub x y = x - y := roundDouble_of_lt h

theorem mul_of_lt {x y : ℤ} (h : (x * y).natAbs < 2 ^ 53) : mul x y = x * y := roundDouble_of_lt h

/-! ### Bit operators -/

/-- The low 32 bits of a number. -/
def bits (x : ℤ) : BitVec 32 := BitVec.ofInt 32 x

/-- `x | 0`, and what an `Int32Array` keeps. -/
def toInt32 (x : ℤ) : ℤ := (bits x).toInt

/-- `x & y`. -/
def bitAnd (x y : ℤ) : ℤ := (bits x &&& bits y).toInt

/-- `x | y`. -/
def bitOr (x y : ℤ) : ℤ := (bits x ||| bits y).toInt

/-- `x ^ y`. -/
def bitXor (x y : ℤ) : ℤ := (bits x ^^^ bits y).toInt

/-- `~x`. -/
def bitNot (x : ℤ) : ℤ := (~~~bits x).toInt

/-- `x << n`. -/
def shl (x : ℤ) (n : ℕ) : ℤ := (bits x <<< n).toInt

/-- `x >>> n`. -/
def ushr (x : ℤ) (n : ℕ) : ℤ := (bits x >>> n).toNat

theorem getLsbD_bits_bitNot_63 {i : ℕ} (hi : i < 32) :
    (bits (bitNot 63)).getLsbD i = decide (6 ≤ i) := by
  revert i
  decide

/-- **`x & ~63` rounds down** to a multiple of 64, below the sign bit. -/
theorem bitAnd_bitNot_63 {n : ℕ} (h : n < 2 ^ 31) :
    bitAnd n (bitNot 63) = (n / 64 * 64 : ℕ) := by
  have hshift : bits n &&& bits (bitNot 63) = (bits n >>> 6) <<< 6 := by
    apply BitVec.eq_of_getLsbD_eq
    intro i hi
    rw [BitVec.getLsbD_and, BitVec.getLsbD_shiftLeft, BitVec.getLsbD_ushiftRight,
      getLsbD_bits_bitNot_63 hi]
    by_cases h6 : i < 6
    · rw [decide_eq_true h6, decide_eq_false (not_le.2 h6)]
      simp
    · have hback : 6 + (i - 6) = i := by omega
      rw [decide_eq_false h6, decide_eq_true (not_lt.1 h6), hback, decide_eq_true hi]
      simp
  have hnat : (bits n &&& bits (bitNot 63)).toNat = n / 64 * 64 := by
    rw [hshift, BitVec.toNat_shiftLeft, BitVec.toNat_ushiftRight, bits, BitVec.ofInt_natCast,
      BitVec.toNat_ofNat, Nat.mod_eq_of_lt (by omega), Nat.shiftRight_eq_div_pow,
      Nat.shiftLeft_eq]
    omega
  rw [bitAnd, BitVec.toInt_eq_toNat_of_lt (by omega), hnat]
/-! ### Numbers that stand for words -/

/-- A number stands for `n`, and is a sum of `k` words at most. -/
structure Sums (k : ℕ) (x : ℤ) (n : ℕ) : Prop where
  bits_eq : bits x = BitVec.ofNat 32 n
  natAbs_le : x.natAbs ≤ k * 2 ^ 32

/-- A number stands for one word. -/
structure Word (x : ℤ) (n : ℕ) : Prop extends Sums 1 x n where
  lt : n < 2 ^ 32

variable {x y : ℤ} {m n k l : ℕ}

theorem ofNat_mod_word (n : ℕ) : BitVec.ofNat 32 (n % 2 ^ 32) = BitVec.ofNat 32 n :=
  BitVec.eq_of_toNat_eq (Nat.mod_mod n (2 ^ 32))

theorem toInt_bits_natAbs_le (b : BitVec 32) : b.toInt.natAbs ≤ 1 * 2 ^ 32 := by
  have hlt := b.toInt_lt
  have hle := b.le_toInt
  omega

/-- A signed number stands for its bits. -/
theorem Word.of_bits {b : BitVec 32} (h : b = BitVec.ofNat 32 n) (hn : n < 2 ^ 32) :
    Word b.toInt n where
  bits_eq := by rw [bits, BitVec.ofInt_toInt, h]
  natAbs_le := toInt_bits_natAbs_le b
  lt := hn

/-- A word stands for itself. -/
theorem Word.natCast (hn : n < 2 ^ 32) : Word n n where
  bits_eq := BitVec.ofInt_natCast 32 n
  natAbs_le := by rw [Int.natAbs_natCast]; omega
  lt := hn

/-- **Additions of words are exact**: sums of a few of them have far less than 53 bits. -/
theorem Sums.add (hx : Sums k x m) (hy : Sums l y n) (hkl : k + l < 2 ^ 20) :
    Sums (k + l) (add x y) (m + n) := by
  have habs : (x + y).natAbs ≤ (k + l) * 2 ^ 32 := by
    have hle := Int.natAbs_add_le x y
    have hxle := hx.natAbs_le
    have hyle := hy.natAbs_le
    omega
  have hround : JsNumber.add x y = x + y := add_of_lt (by omega)
  rw [hround]
  refine ⟨?_, habs⟩
  show BitVec.ofInt 32 (x + y) = _
  rw [BitVec.ofInt_add, BitVec.ofNat_add]
  exact congrArg₂ (· + ·) hx.bits_eq hy.bits_eq

/-- Truncating a sum gives the word it stands for. -/
theorem Sums.toInt32 (h : Sums k x n) : Word (toInt32 x) (n % 2 ^ 32) :=
  .of_bits (by rw [h.bits_eq, ofNat_mod_word]) (Nat.mod_lt _ (by decide))

namespace Word

variable (hx : Word x m) (hy : Word y n)

include hx

theorem toInt32 : Word (toInt32 x) m := .of_bits hx.bits_eq hx.lt

theorem bitNot : Word (bitNot x) (2 ^ 32 - 1 - m) := by
  refine .of_bits ?_ (by omega)
  apply BitVec.eq_of_toNat_eq
  rw [hx.bits_eq, BitVec.toNat_not, BitVec.toNat_ofNat, BitVec.toNat_ofNat,
    Nat.mod_eq_of_lt hx.lt, Nat.mod_eq_of_lt (by omega)]

theorem ushr_eq (k : ℕ) : ushr x k = (m >>> k : ℕ) := by
  rw [ushr, hx.bits_eq, BitVec.toNat_ushiftRight, BitVec.toNat_ofNat, Nat.mod_eq_of_lt hx.lt]

theorem ushr (k : ℕ) : Word (ushr x k) (m >>> k) := by
  rw [hx.ushr_eq]
  exact .natCast (lt_of_le_of_lt (Nat.shiftRight_le m k) hx.lt)

/-- Two shifts put together. -/
theorem rotate (k l : ℕ) :
    Word (bitOr (JsNumber.ushr x k) (shl x l)) (((m >>> k) ||| (m <<< l)) % 2 ^ 32) := by
  refine .of_bits ?_ (Nat.mod_lt _ (by decide))
  have hshl : bits (shl x l) = BitVec.ofNat 32 (m <<< l) := by
    rw [bits, shl, BitVec.ofInt_toInt, hx.bits_eq]
    apply BitVec.eq_of_toNat_eq
    rw [BitVec.toNat_shiftLeft, BitVec.toNat_ofNat, BitVec.toNat_ofNat, Nat.mod_eq_of_lt hx.lt]
  rw [(hx.ushr k).bits_eq, hshl, ofNat_mod_word, BitVec.ofNat_or]

include hy

theorem bitAnd : Word (bitAnd x y) (m &&& n) :=
  .of_bits (by rw [hx.bits_eq, hy.bits_eq, BitVec.ofNat_and]) (Nat.and_lt_two_pow _ hy.lt)

theorem bitXor : Word (bitXor x y) (m ^^^ n) :=
  .of_bits (by rw [hx.bits_eq, hy.bits_eq, BitVec.ofNat_xor]) (Nat.xor_lt_two_pow hx.lt hy.lt)

end Word

end JsNumber
