import DjangoWaf.Forms.Rendering
import DjangoWaf.Lib.BigEndian
import DjangoWaf.PageSolver

/-!
# The three leading-zero checks

The work of a visitor is checked in three places, each with its own loop over the zero bytes and its
own mask for the byte behind them: `_digest_has_leading_zero_bits` on the server,
`hasLeadingZeroBits` of the challenge page and `leadingZeroBits` of the solver a form carries.

* All three read the **same bytes** of a digest (`digestHasLeadingZeroBits_iff`,
  `JsNumber.leadingZeros_iff`), and those bytes say how large the digest is as a number.
* So a difficulty is a **bound on a number**: `leading_zero_checks_agree`, from no bits at all up to
  the full length. Beyond it the three differ, since a script reads `undefined` where the server
  looks at the length first.
-/

namespace DjangoWaf

open PyBytes

/-! ### The number of a digest -/

theorem ofBytes_eq_value (bs : List UInt8) :
    Sha256.ofBytes bs = BigEndian.value 8 (bs.map UInt8.toNat) := by
  rw [Sha256.ofBytes, BigEndian.value, List.foldl_map]
  rfl

theorem getD_map_toNat (bs : List UInt8) (i : ℕ) :
    (bs.map UInt8.toNat).getD i 0 = (bs.getD i 0).toNat := List.getD_map bs 0 UInt8.toNat

theorem toNat_eq_zero_iff (b : UInt8) : b.toNat = 0 ↔ b = 0 := by
  rw [← UInt8.toNat_inj]
  rfl

/-- A bound on the number, on the zero bytes and the bits of the next one. -/
theorem ofBytes_lt_iff (digest : Digest) {bits : ℕ} (h : bits ≤ 256) :
    Sha256.ofBytes digest.bytes < 2 ^ (256 - bits) ↔
      (∀ i < bits / 8, digest.bytes.getD i 0 = 0) ∧
        (bits % 8 = 0 ∨ (digest.bytes.getD (bits / 8) 0).toNat < 2 ^ (8 - bits % 8)) := by
  have hlength : 8 * (digest.bytes.map UInt8.toNat).length = 256 := by
    rw [List.length_map, digest.length_bytes]
  have hwords : ∀ d ∈ digest.bytes.map UInt8.toNat, d < 2 ^ 8 := by
    intro d hd
    obtain ⟨b, -, rfl⟩ := List.mem_map.1 hd
    exact b.toNat_lt
  have hiff := BigEndian.value_lt_two_pow_iff (by decide) hwords (h.trans_eq hlength.symm)
  rw [hlength, ← ofBytes_eq_value] at hiff
  simpa only [getD_map_toNat, toNat_eq_zero_iff] using hiff

/-! ### The checks -/

/-- **The server compares the digest with a power of two.** -/
theorem digestHasLeadingZeroBits_iff_lt (digest : Digest) {bits : ℕ} (h : bits ≤ 256) :
    digestHasLeadingZeroBits digest.bytes bits = true ↔
      Sha256.ofBytes digest.bytes < 2 ^ (256 - bits) := by
  rcases Nat.eq_zero_or_pos bits with rfl | hpos
  · have hall := Sha256.ofBytes_lt digest.bytes
    rw [digest.length_bytes] at hall
    exact iff_of_true rfl hall
  · rw [digestHasLeadingZeroBits_iff digest hpos, ofBytes_lt_iff digest h]
    exact and_iff_right h

/-- **The page agrees with the server**, up to the length of a digest: its loop is that of the form.
-/
theorem hasLeadingZeroBits_eq (digest : Digest) {bits : ℕ} (h : bits ≤ 256) :
    hasLeadingZeroBits digest.bytes bits = digestHasLeadingZeroBits digest.bytes bits :=
  (digestHasLeadingZeroBits_eq digest h).symm

/-- **The three checks are one**: the digest, as a number, is below `2 ^ (256 - bits)`. -/
theorem leading_zero_checks_agree (digest : Digest) {bits : ℕ} (h : bits ≤ 256) :
    (digestHasLeadingZeroBits digest.bytes bits = true ↔
      Sha256.ofBytes digest.bytes < 2 ^ (256 - bits)) ∧
    hasLeadingZeroBits digest.bytes bits = digestHasLeadingZeroBits digest.bytes bits ∧
    leadingZeroBits digest.bytes bits = digestHasLeadingZeroBits digest.bytes bits :=
  ⟨digestHasLeadingZeroBits_iff_lt digest h, hasLeadingZeroBits_eq digest h,
    (digestHasLeadingZeroBits_eq digest h).symm⟩

/-- A digest with twelve zero bits and then ones. -/
def twelveZeros : Digest where
  bytes := 0x00 :: 0x0F :: List.replicate 30 0xFF
  length_bytes := by decide

/-- Within its second byte the digest passes, and one bit further it does not. -/
theorem leading_zero_checks_agree_twelve :
    (Sha256.ofBytes twelveZeros.bytes < 2 ^ 244 ∧
      hasLeadingZeroBits twelveZeros.bytes 12 = true ∧
      leadingZeroBits twelveZeros.bytes 12 = true) ∧
    (¬Sha256.ofBytes twelveZeros.bytes < 2 ^ 243 ∧
      hasLeadingZeroBits twelveZeros.bytes 13 = false ∧
      leadingZeroBits twelveZeros.bytes 13 = false) := by
  have htwelve : digestHasLeadingZeroBits twelveZeros.bytes (12 : ℕ) = true := by decide
  have hthirteen : digestHasLeadingZeroBits twelveZeros.bytes (13 : ℕ) = false := by decide
  obtain ⟨hnumber, hpage, hform⟩ := leading_zero_checks_agree twelveZeros (show 12 ≤ 256 by decide)
  obtain ⟨hnumber', hpage', hform'⟩ :=
    leading_zero_checks_agree twelveZeros (show 13 ≤ 256 by decide)
  exact ⟨⟨hnumber.1 htwelve, hpage.trans htwelve, hform.trans htwelve⟩,
    fun hlt ↦ Bool.false_ne_true (hthirteen.symm.trans (hnumber'.2 hlt)),
    hpage'.trans hthirteen, hform'.trans hthirteen⟩

end DjangoWaf
