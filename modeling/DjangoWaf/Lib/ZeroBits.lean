import DjangoWaf.Lib.JsNumber
import Mathlib.Data.List.Basic
import Mathlib.Data.List.GetD

/-!
# The zero bits in front of a digest

Whether a list of bytes starts with `bits` zero bits is read in two steps: `bits / 8` zero bytes,
and a mask for the byte behind them. A server masks bytes, a script numbers, and a script that reads
beyond the list finds `undefined`.

* `any_take_eq_false_iff` and `and_ofNat_beq_zero_iff` say what the two steps find on bytes.
* `JsNumber.leadingZeros_iff` says the same of the loop of a script.
-/

/-! ### On bytes -/

/-- A byte has so many leading zeros. -/
theorem and_mask_eq_zero_iff :
    ∀ r < 8, ∀ x < 256, (x &&& (0xFF <<< (8 - r) % 256) = 0 ↔ x < 2 ^ (8 - r)) := by
  decide +kernel

theorem any_take_eq_false_iff (bytes : List UInt8) (n : ℕ) :
    (bytes.take n).any (· != 0) = false ↔ ∀ i < n, bytes.getD i 0 = 0 := by
  rw [List.any_eq_false]
  constructor
  · intro h i hi
    by_cases hlt : i < bytes.length
    · have hmem : bytes[i] ∈ bytes.take n := by
        rw [List.mem_take_iff_getElem]
        exact ⟨i, by omega, rfl⟩
      rw [List.getD_eq_getElem _ _ hlt]
      simpa using h _ hmem
    · rw [List.getD_eq_default _ _ (not_lt.1 hlt)]
  · intro h b hb
    obtain ⟨i, hi, rfl⟩ := List.mem_take_iff_getElem.1 hb
    have hzero := h i (by omega)
    rw [List.getD_eq_getElem _ _ (by omega)] at hzero
    simp [hzero]

/-- The last byte that counts. -/
theorem and_ofNat_beq_zero_iff (b : UInt8) {r : ℕ} (hr : r < 8) :
    (b &&& UInt8.ofNat (0xFF <<< (8 - r) % 256) == 0) = true ↔ b.toNat < 2 ^ (8 - r) := by
  rw [← and_mask_eq_zero_iff r hr b.toNat b.toNat_lt, beq_iff_eq, ← UInt8.toNat_inj,
    UInt8.toNat_and, UInt8.toNat_ofNat_of_lt' (Nat.mod_lt _ (by decide))]
  rfl

/-! ### In a script -/

namespace JsNumber

/-- The loop of a script. Beyond the list there is `undefined`, which is not `0`, but is `0` for
`&`. -/
def leadingZeros (bytes : List UInt8) (bits : ℤ) : Bool :=
  let full := (ushr bits 3).toNat
  let rem := (bitAnd bits 7).toNat
  if (List.range full).any (fun i ↦ bytes[i]? != some 0) then false
  else if rem = 0 then true
  else
    let mask := bitAnd (shl 0xFF (8 - rem)) 0xFF
    bitAnd ((bytes[full]?.map fun b ↦ (b.toNat : ℤ)).getD 0) mask = 0

/-- The mask of a script is that of a byte. -/
theorem scriptMask_eq : ∀ r < 8, bitAnd (shl 0xFF (8 - r)) 0xFF = (0xFF <<< (8 - r) % 256 : ℕ) := by
  decide

theorem bitAnd_natCast {m n : ℕ} (hm : m < 2 ^ 31) (hn : n < 2 ^ 31) :
    bitAnd m n = (m &&& n : ℕ) := by
  have hnat : (bits m &&& bits n).toNat = m &&& n := by
    rw [BitVec.toNat_and, bits, bits, BitVec.ofInt_natCast, BitVec.ofInt_natCast,
      BitVec.toNat_ofNat, BitVec.toNat_ofNat, Nat.mod_eq_of_lt (by omega),
      Nat.mod_eq_of_lt (by omega)]
  have hle : m &&& n ≤ m := Nat.and_le_left
  rw [bitAnd, BitVec.toInt_eq_toNat_of_lt (by omega), hnat]

/-- **What the loop finds**. What is read beyond the digest is not a zero
byte, and has no bits of its own. -/
theorem leadingZeros_iff (bytes : List UInt8) {n : ℕ} (hn : n < 2 ^ 31) :
    leadingZeros bytes n = true ↔
      (∀ i < n / 8, bytes[i]? = some 0) ∧
        (n % 8 = 0 ∨ (bytes.getD (n / 8) 0).toNat < 2 ^ (8 - n % 8)) := by
  have hfull : (ushr n 3).toNat = n / 8 := by
    rw [(Word.natCast (by omega)).ushr_eq, Int.toNat_natCast, Nat.shiftRight_eq_div_pow]
  have hrem : (bitAnd n 7).toNat = n % 8 := by
    have hand : bitAnd n 7 = (n &&& 7 : ℕ) := bitAnd_natCast (by omega) (by decide)
    rw [hand, Int.toNat_natCast]
    exact Nat.and_two_pow_sub_one_eq_mod n 3
  have hany : (List.range (n / 8)).any (fun i ↦ bytes[i]? != some 0) = true ↔
      ¬∀ i < n / 8, bytes[i]? = some 0 := by
    simp [List.any_eq_true]
  have hr : n % 8 < 8 := Nat.mod_lt _ (by decide)
  have hmask : 0xFF <<< (8 - n % 8) % 256 < 2 ^ 31 := by omega
  have hbyte : ((bytes[n / 8]?.map fun b ↦ (b.toNat : ℤ)).getD 0) =
      ((bytes.getD (n / 8) 0).toNat : ℕ) := by
    rw [List.getD_eq_getElem?_getD]
    cases bytes[n / 8]? <;> rfl
  have hlt := (bytes.getD (n / 8) 0).toNat_lt
  rw [leadingZeros, hfull, hrem, scriptMask_eq _ hr, hbyte]
  dsimp only
  rw [bitAnd_natCast (by omega) hmask]
  simp only [hany, Int.natCast_eq_zero, and_mask_eq_zero_iff _ hr _ hlt]
  split_ifs with hzeros hrest
  · exact iff_of_true rfl ⟨hzeros, .inl hrest⟩
  · rw [decide_eq_true_eq]
    exact ⟨fun h ↦ ⟨hzeros, .inr h⟩, fun h ↦ h.2.resolve_left hrest⟩
  · exact iff_of_false id fun h ↦ hzeros h.1

end JsNumber
