import DjangoWaf.Lib.JsNumber
import DjangoWaf.Lib.Sha256
import Mathlib.Data.List.GetD

/-!
# SHA-256 in the browser

The `sha256` functions of `challenge.html` and of `_SHA256_JS` in `forms/defences/pow_gate.py`. They
are one function with two tables of constants, on whole JavaScript numbers (`Lib/JsNumber`); a
buffer is a list of bytes, and what raises `RangeError` is `none`.

`js_sha256_correct`: on a message of fewer than `2 ^ 28` bytes both return the digest of
`Sha256.sha256`. Below that length the bit length is a 31-bit number, and `& ~63` sees no sign. The
proof relates every number to the word it stands for (`Word`), and follows the loops turn by turn.
-/

namespace JsSha256

open JsNumber

/-- The hash values `H[0]` to `H[7]`, and the variables `a` to `h`. -/
structure Vars where
  a : ℤ
  b : ℤ
  c : ℤ
  d : ℤ
  e : ℤ
  f : ℤ
  g : ℤ
  h : ℤ

/-- The entries of `H`, in order. -/
def Vars.toList (v : Vars) : List ℤ := [v.a, v.b, v.c, v.d, v.e, v.f, v.g, v.h]

/-- `view.setUint32(pos, value, false)`, and `setInt32`, which writes the same bytes. -/
def setUint32 (view : List UInt8) (pos value : ℤ) : Option (List UInt8) :=
  if 0 ≤ pos ∧ pos + 4 ≤ view.length then
    some (view.take pos.toNat ++ Sha256.toBytes 4 (bits value).toNat ++ view.drop (pos.toNat + 4))
  else none

/-- `view.getInt32(pos, false)`. -/
def getInt32 (view : List UInt8) (pos : ℤ) : Option ℤ :=
  if 0 ≤ pos ∧ pos + 4 ≤ view.length then
    some (toInt32 (Sha256.ofBytes ((view.drop pos.toNat).take 4)))
  else none

/-- The padded message: `buf`. -/
def paddedBuffer (bytes : List UInt8) : Option (List UInt8) := do
  let bitLen := mul bytes.length 8
  let withOne := add bytes.length 1
  let padLen := sub (sub (bitAnd (add (add withOne 8) 63) (bitNot 63)) withOne) 8
  let total := add (add withOne padLen) 8
  guard (bytes.length ≤ total)
  let buf := (bytes ++ List.replicate (total.toNat - bytes.length) 0).set bytes.length 0x80
  let hi := floorDivPow bitLen 32
  let lo := ushr bitLen 0
  let buf ← setUint32 buf (sub total 8) hi
  setUint32 buf (sub total 4) lo

/-- The first sixteen words of a block. -/
def loadWords (view : List UInt8) (offset : ℤ) (w : List ℤ) : Option (List ℤ) :=
  (List.range 16).foldlM
    (fun w (i : ℕ) ↦ (getInt32 view (add offset (mul i 4))).map fun x ↦ w.set i (toInt32 x)) w

/-- `w[i] = (w[i - 16] + s0 + w[i - 7] + s1) | 0`. -/
def extendWord (w : List ℤ) (i : ℕ) : List ℤ :=
  let s0v := w.getD (i - 15) 0
  let s0 := bitXor (bitXor (bitOr (ushr s0v 7) (shl s0v 25)) (bitOr (ushr s0v 18) (shl s0v 14)))
    (ushr s0v 3)
  let s1v := w.getD (i - 2) 0
  let s1 := bitXor (bitXor (bitOr (ushr s1v 17) (shl s1v 15)) (bitOr (ushr s1v 19) (shl s1v 13)))
    (ushr s1v 10)
  w.set i (toInt32 (add (add (add (w.getD (i - 16) 0) s0) (w.getD (i - 7) 0)) s1))

/-- The other forty-eight words. -/
def extendWords (w : List ℤ) : List ℤ := (List.range' 16 48).foldl extendWord w

/-- One of the sixty-four rounds, with `SHA256_K[i]` and `w[i]`. -/
def round (v : Vars) (ki wi : ℤ) : Vars :=
  let S1 := bitXor (bitXor (bitOr (ushr v.e 6) (shl v.e 26)) (bitOr (ushr v.e 11) (shl v.e 21)))
    (bitOr (ushr v.e 25) (shl v.e 7))
  let ch := bitXor (bitAnd v.e v.f) (bitAnd (bitNot v.e) v.g)
  let temp1 := toInt32 (add (add (add (add v.h S1) ch) ki) wi)
  let S0 := bitXor (bitXor (bitOr (ushr v.a 2) (shl v.a 30)) (bitOr (ushr v.a 13) (shl v.a 19)))
    (bitOr (ushr v.a 22) (shl v.a 10))
  let maj := bitXor (bitXor (bitAnd v.a v.b) (bitAnd v.a v.c)) (bitAnd v.b v.c)
  let temp2 := toInt32 (add S0 maj)
  ⟨toInt32 (add temp1 temp2), v.a, v.b, v.c, toInt32 (add v.d temp1), v.e, v.f, v.g⟩

/-- `H[j] = (H[j] + x) | 0`, for each of the eight. -/
def Vars.accumulate (H v : Vars) : Vars :=
  ⟨toInt32 (add H.a v.a), toInt32 (add H.b v.b), toInt32 (add H.c v.c), toInt32 (add H.d v.d),
    toInt32 (add H.e v.e), toInt32 (add H.f v.f), toInt32 (add H.g v.g), toInt32 (add H.h v.h)⟩

section

variable (K : List ℤ) (H : Vars)

/-- One block: `H` and the array `w`, which is kept. -/
def block (view : List UInt8) (s : Vars × List ℤ) (offset : ℤ) : Option (Vars × List ℤ) :=
  (loadWords view offset s.2).map fun w ↦
    let w := extendWords w
    let v := (List.range 64).foldl (fun v i ↦ round v (K.getD i 0) (w.getD i 0)) s.1
    (s.1.accumulate v, w)

/-- `sha256`, on the bytes that `TextEncoder` gives. The offsets are the multiples of 64 below the
length of the buffer. -/
def sha256 (bytes : List UInt8) : Option (List UInt8) := do
  let buf ← paddedBuffer bytes
  let offsets := (List.range ((buf.length + 63) / 64)).map fun j : ℕ ↦ (64 * j : ℤ)
  let (H, _) ← offsets.foldlM (block K buf) (H, List.replicate 64 0)
  H.toList.zipIdx.foldlM (fun out p ↦ setUint32 out (mul p.2 4) p.1) (List.replicate 32 0)

end

/-! ### The padded message -/

/-- Writing a word over four bytes. -/
theorem setUint32_append {front old back : List UInt8} {pos : ℤ} (value : ℤ)
    (hpos : pos = front.length) (hold : old.length = 4) :
    setUint32 (front ++ old ++ back) pos value =
      some (front ++ Sha256.toBytes 4 (bits value).toNat ++ back) := by
  have hrange : 0 ≤ pos ∧ pos + 4 ≤ (front ++ old ++ back).length := by
    rw [List.length_append, List.length_append]
    omega
  have hnat : pos.toNat = front.length := by omega
  have htake : (front ++ old ++ back).take front.length = front := by
    rw [List.append_assoc, List.take_left]
  have hdrop : (front ++ old ++ back).drop (front.length + 4) = back := by
    rw [← hold, ← List.length_append, List.drop_left]
  rw [setUint32, if_pos hrange, hnat, htake, hdrop]

/-- **The buffer is the padded message**: the bit length fits the lower four of its eight bytes. -/
theorem paddedBuffer_eq {bytes : List UInt8} (h : bytes.length < 2 ^ 28) :
    paddedBuffer bytes = some (Sha256.pad bytes) := by
  obtain ⟨n, hn⟩ : ∃ n, bytes.length = n := ⟨_, rfl⟩
  obtain ⟨zeros, hzeros⟩ : ∃ zeros, (119 - n % 64) % 64 = zeros := ⟨_, rfl⟩
  obtain ⟨total, htotal⟩ : ∃ total, n + 9 + zeros = total := ⟨_, rfl⟩
  rw [hn] at h
  have hwithOne : add n 1 = n + 1 := add_of_lt (by omega)
  have hlast : add (add (n + 1) 8) 63 = (n + 72 : ℕ) := by
    rw [add_of_lt (y := 8) (by omega), add_of_lt (by omega)]
    omega
  have hrounded : bitAnd (n + 72 : ℕ) (bitNot 63) = total := by
    rw [bitAnd_bitNot_63 (by omega)]
    omega
  have hpadLen : sub (sub total (n + 1)) 8 = zeros := by
    rw [sub_of_lt (y := n + 1) (by omega), sub_of_lt (by omega)]
    omega
  have hsum : add (add (n + 1) zeros) 8 = total := by
    rw [add_of_lt (y := zeros) (by omega), add_of_lt (by omega)]
    omega
  have hbitLen : mul n 8 = (8 * n : ℕ) := by
    rw [mul_of_lt (by omega)]
    omega
  have hhi : floorDivPow (8 * n : ℕ) 32 = 0 := Int.ediv_eq_zero_of_lt (by omega) (by omega)
  have hlo : ushr (8 * n : ℕ) 0 = (8 * n : ℕ) := (Word.natCast (by omega)).ushr_eq 0
  have hsub8 : sub total 8 = total - 8 := sub_of_lt (by omega)
  have hsub4 : sub total 4 = total - 4 := sub_of_lt (by omega)
  have hbuf : (bytes ++ List.replicate (total - n) 0).set n 0x80 =
      (bytes ++ 0x80 :: List.replicate zeros 0) ++ List.replicate 4 0 ++ List.replicate 4 0 := by
    have hcons : List.replicate (total - n) (0 : UInt8) =
        0 :: (List.replicate zeros 0 ++ (List.replicate 4 0 ++ List.replicate 4 0)) := by
      rw [List.replicate_append_replicate, List.replicate_append_replicate, ← List.replicate_succ]
      exact congrArg (List.replicate · 0) (by omega)
    rw [hcons, List.set_append_right _ _ (by omega), hn, Nat.sub_self, List.set_cons_zero]
    simp only [List.append_assoc, List.cons_append]
  have hlength : (bytes ++ 0x80 :: List.replicate zeros 0).length = total - 8 := by
    rw [List.length_append, List.length_cons, List.length_replicate]
    omega
  have hupper : Sha256.toBytes 8 (8 * n) =
      Sha256.toBytes 4 (bits 0).toNat ++ Sha256.toBytes 4 (bits (8 * n : ℕ)).toNat := by
    have hbits : (bits (8 * n : ℕ)).toNat = 8 * n := by
      rw [bits, BitVec.ofInt_natCast, BitVec.toNat_ofNat, Nat.mod_eq_of_lt (by omega)]
    rw [Sha256.toBytes_add 4 4, Nat.div_eq_of_lt (by omega), hbits]
    rfl
  rw [paddedBuffer, hn]
  simp only [hwithOne, hlast, hrounded, hpadLen, hsum, hbitLen, hhi, hlo, hsub8, hsub4]
  have hguard : (guard ((n : ℤ) ≤ total) : Option Unit) = some () := if_pos (by omega)
  have hpos8 : (total - 8 : ℤ) = (bytes ++ 0x80 :: List.replicate zeros 0).length := by
    rw [hlength]
    omega
  have hpos4 : (total - 4 : ℤ) = ((bytes ++ 0x80 :: List.replicate zeros 0) ++
      Sha256.toBytes 4 (bits 0).toNat).length := by
    rw [List.length_append, hlength, Sha256.length_toBytes]
    omega
  have hwritten : Sha256.pad bytes = bytes ++ 0x80 :: List.replicate zeros 0 ++
      Sha256.toBytes 4 (bits 0).toNat ++ Sha256.toBytes 4 (bits (8 * n : ℕ)).toNat ++ [] := by
    rw [Sha256.pad, hn, hzeros, hupper, List.append_nil, ← List.append_assoc]
  rw [hguard, Option.bind_eq_bind, Option.bind_some, Int.toNat_natCast, hbuf,
    setUint32_append 0 hpos8 rfl, Option.bind_eq_bind, Option.bind_some, hwritten,
    ← setUint32_append _ hpos4 (List.length_replicate (a := (0 : UInt8))), List.append_nil]

/-! ### The message schedule -/

section Schedule

theorem getD_set {w : List ℤ} {k : ℕ} (hk : k < w.length) (i : ℕ) (x : ℤ) :
    (w.set k x).getD i 0 = if k = i then x else w.getD i 0 := by
  rw [List.getD_eq_getElem?_getD, List.getElem?_set, List.getD_eq_getElem?_getD]
  split_ifs <;> rfl

theorem getD_concat {u : List ℕ} {i : ℕ} (hi : i ≤ u.length) (x : ℕ) :
    (u ++ [x]).getD i 0 = if u.length = i then x else u.getD i 0 := by
  rw [List.getD_eq_getElem?_getD, List.getD_eq_getElem?_getD]
  split_ifs with hlast
  · rw [List.getElem?_append_right (by omega), show i - u.length = 0 by omega]
    rfl
  · rw [List.getElem?_append_left (by omega)]

variable {view : List UInt8} {offset : ℕ} {w : List ℤ}

/-- Reading four bytes gives the word they spell. -/
theorem getInt32_word {pos : ℕ} (h : pos + 4 ≤ view.length) :
    ∃ x, getInt32 view pos = some x ∧ Word x (Sha256.ofBytes ((view.drop pos).take 4)) := by
  have hlt : Sha256.ofBytes ((view.drop pos).take 4) < 2 ^ 32 := by
    have hlength : ((view.drop pos).take 4).length = 4 := by
      rw [List.length_take, List.length_drop]
      omega
    have hpow := Sha256.ofBytes_lt ((view.drop pos).take 4)
    rw [hlength] at hpow
    omega
  exact ⟨_, if_pos (by omega), (Word.natCast hlt).toInt32⟩

/-- **The first words of the array** are those of the block. -/
theorem loadWords_spec (hview : offset + 64 ≤ view.length) (hlength : view.length < 2 ^ 53)
    (hw : w.length = 64) :
    ∃ w', loadWords view offset w = some w' ∧ w'.length = 64 ∧ ∀ i < 16,
      Word (w'.getD i 0) (Sha256.ofBytes ((view.drop (offset + 4 * i)).take 4)) := by
  suffices h : ∀ n ≤ 16, ∃ w', (List.range n).foldlM
      (fun w (i : ℕ) ↦ (getInt32 view (add offset (mul i 4))).map fun x ↦ w.set i (toInt32 x)) w =
        some w' ∧ w'.length = 64 ∧ ∀ i < n,
          Word (w'.getD i 0) (Sha256.ofBytes ((view.drop (offset + 4 * i)).take 4)) by
    exact h 16 le_rfl
  intro n
  induction n with
  | zero => exact fun _ ↦ ⟨w, rfl, hw, fun i hi ↦ absurd hi (Nat.not_lt_zero i)⟩
  | succ n ih =>
    intro hn
    obtain ⟨w', hrun, hw', hwords⟩ := ih (by omega)
    have hpos : add offset (mul n 4) = (offset + 4 * n : ℕ) := by
      rw [mul_of_lt (by omega), add_of_lt (by omega)]
      omega
    obtain ⟨x, hx, hword⟩ := getInt32_word (show offset + 4 * n + 4 ≤ view.length by omega)
    refine ⟨w'.set n (toInt32 x), ?_, by rw [List.length_set, hw'], fun i hi ↦ ?_⟩
    · rw [List.range_succ, List.foldlM_append, hrun]
      show ((getInt32 view (add offset (mul n 4))).map _ >>= _) = _
      rw [hpos, hx]
      rfl
    · rw [getD_set (by omega)]
      split_ifs with hin
      · rw [← hin]
        exact hword.toInt32
      · exact hwords i (by omega)

/-- A new word of the schedule, from the four it is made of. -/
theorem extend_word {a b c d : ℤ} {A B C D : ℕ} (ha : Word a A) (hb : Word b B) (hc : Word c C)
    (hd : Word d D) :
    Word (toInt32 (add (add (add a (bitXor (bitXor (bitOr (ushr b 7) (shl b 25))
        (bitOr (ushr b 18) (shl b 14))) (ushr b 3))) c)
      (bitXor (bitXor (bitOr (ushr d 17) (shl d 15)) (bitOr (ushr d 19) (shl d 13))) (ushr d 10))))
      ((A + (Sha256.rotr B 7 ^^^ Sha256.rotr B 18 ^^^ (B >>> 3)) + C +
        (Sha256.rotr D 17 ^^^ Sha256.rotr D 19 ^^^ (D >>> 10))) % 2 ^ 32) := by
  have hs0 := ((hb.rotate 7 25).bitXor (hb.rotate 18 14)).bitXor (hb.ushr 3)
  have hs1 := ((hd.rotate 17 15).bitXor (hd.rotate 19 13)).bitXor (hd.ushr 10)
  have hfirst := ha.toSums.add hs0.toSums (by decide)
  have hsecond := hfirst.add hc.toSums (by decide)
  exact (hsecond.add hs1.toSums (by decide)).toInt32

/-- **The array is the message schedule**, as far as the loop has come. -/
theorem extendWords_spec {words : List ℕ} (hw : w.length = 64) (hwords : words.length = 16)
    (h : ∀ i < 16, Word (w.getD i 0) (words.getD i 0)) :
    (extendWords w).length = 64 ∧
      ((List.range 48).foldl Sha256.scheduleStep words).length = 64 ∧ ∀ i < 64,
        Word ((extendWords w).getD i 0)
          (((List.range 48).foldl Sha256.scheduleStep words).getD i 0) := by
  suffices hloop : ∀ n ≤ 48, ((List.range' 16 n).foldl extendWord w).length = 64 ∧
      ((List.range n).foldl Sha256.scheduleStep words).length = 16 + n ∧ ∀ i < 16 + n,
        Word (((List.range' 16 n).foldl extendWord w).getD i 0)
          (((List.range n).foldl Sha256.scheduleStep words).getD i 0) by
    exact hloop 48 le_rfl
  intro n
  induction n with
  | zero => exact fun _ ↦ ⟨hw, hwords, h⟩
  | succ n ih =>
    intro hn
    obtain ⟨hlength, hlength', hword⟩ := ih (by omega)
    rw [List.range'_concat, List.range_succ, List.foldl_append, List.foldl_append]
    generalize (List.range' 16 n).foldl extendWord w = v at hlength hword ⊢
    generalize (List.range n).foldl Sha256.scheduleStep words = u at hlength' hword ⊢
    have hnew := extend_word (hword n (by omega)) (hword (n + 1) (by omega))
      (hword (n + 9) (by omega)) (hword (n + 14) (by omega))
    refine ⟨(List.length_set ..).trans hlength, ?_, fun i hi ↦ ?_⟩
    · rw [List.foldl_cons, List.foldl_nil, Sha256.scheduleStep, List.length_append, hlength']
      rfl
    · have h16 : 16 + 1 * n - 16 = n := by omega
      have h15 : 16 + 1 * n - 15 = n + 1 := by omega
      have h7 : 16 + 1 * n - 7 = n + 9 := by omega
      have h2 : 16 + 1 * n - 2 = n + 14 := by omega
      show Word ((extendWord v (16 + 1 * n)).getD i 0) ((Sha256.scheduleStep u n).getD i 0)
      rw [extendWord, Sha256.scheduleStep, h16, h15, h7, h2, getD_set (by omega),
        getD_concat (by omega)]
      have hiff : u.length = i ↔ 16 + 1 * n = i := by omega
      simp only [hiff]
      split_ifs with hlast
      · exact hnew
      · exact hword i (by omega)

end Schedule

/-! ### Rounds and blocks -/

/-- Variables that stand for a state. -/
structure Vars.For (v : Vars) (s : Sha256.State) : Prop where
  a : Word v.a s.a
  b : Word v.b s.b
  c : Word v.c s.c
  d : Word v.d s.d
  e : Word v.e s.e
  f : Word v.f s.f
  g : Word v.g s.g
  h : Word v.h s.h

/-- **One round.** -/
theorem round_spec {v : Vars} {s : Sha256.State} (hv : v.For s) {ki wi : ℤ} {k w : ℕ}
    (hk : Word ki k) (hw : Word wi w) : (round v ki wi).For (Sha256.round s (k, w)) := by
  have hS1 := ((hv.e.rotate 6 26).bitXor (hv.e.rotate 11 21)).bitXor (hv.e.rotate 25 7)
  have hch := (hv.e.bitAnd hv.f).bitXor (hv.e.bitNot.bitAnd hv.g)
  have hfirst := hv.h.toSums.add hS1.toSums (by decide)
  have hsecond := hfirst.add hch.toSums (by decide)
  have hthird := hsecond.add hk.toSums (by decide)
  have htemp1 := (hthird.add hw.toSums (by decide)).toInt32
  have hS0 := ((hv.a.rotate 2 30).bitXor (hv.a.rotate 13 19)).bitXor (hv.a.rotate 22 10)
  have hmaj := ((hv.a.bitAnd hv.b).bitXor (hv.a.bitAnd hv.c)).bitXor (hv.b.bitAnd hv.c)
  have htemp2 := (hS0.toSums.add hmaj.toSums (by decide)).toInt32
  have ha := (htemp1.toSums.add htemp2.toSums (by decide)).toInt32
  have he := (hv.d.toSums.add htemp1.toSums (by decide)).toInt32
  rw [← Nat.add_mod, ← Nat.add_assoc] at ha
  rw [Nat.add_mod_mod] at he
  exact ⟨ha, hv.a, hv.b, hv.c, he, hv.e, hv.f, hv.g⟩

/-- The state at the end of a block is added to the one before it. -/
theorem accumulate_spec {H v : Vars} {s t : Sha256.State} (hH : H.For s) (hv : v.For t) :
    (H.accumulate v).For ⟨(s.a + t.a) % 2 ^ 32, (s.b + t.b) % 2 ^ 32, (s.c + t.c) % 2 ^ 32,
      (s.d + t.d) % 2 ^ 32, (s.e + t.e) % 2 ^ 32, (s.f + t.f) % 2 ^ 32, (s.g + t.g) % 2 ^ 32,
      (s.h + t.h) % 2 ^ 32⟩ := by
  have hsum : ∀ {x y : ℤ} {m n : ℕ}, Word x m → Word y n →
      Word (toInt32 (add x y)) ((m + n) % 2 ^ 32) :=
    fun hx hy ↦ (hx.toSums.add hy.toSums (by decide)).toInt32
  exact ⟨hsum hH.a hv.a, hsum hH.b hv.b, hsum hH.c hv.c, hsum hH.d hv.d, hsum hH.e hv.e,
    hsum hH.f hv.f, hsum hH.g hv.g, hsum hH.h hv.h⟩

/-- The tables of a page are those of the standard. -/
structure Standard (K : List ℤ) (H : Vars) : Prop where
  k : K = Sha256.roundConstants.map fun k : ℕ ↦ (k : ℤ)
  h : H.For Sha256.initialState

/-- The words of a block, as slices. -/
theorem words_eq {view : List UInt8} {offset : ℕ} (hview : offset + 64 ≤ view.length) :
    (Sha256.chunks 4 16 ((view.drop offset).take 64)).map Sha256.ofBytes =
      (List.range 16).map fun i ↦ Sha256.ofBytes ((view.drop (offset + 4 * i)).take 4) := by
  have hlength : ((view.drop offset).take 64).length = 64 := by
    rw [List.length_take, List.length_drop]
    omega
  rw [Sha256.chunks_eq_map (by decide) (by omega) (by omega), hlength, List.map_map]
  refine List.map_congr_left fun i hi ↦ congrArg Sha256.ofBytes ?_
  have hi : i < 16 := List.mem_range.1 hi
  show (((view.drop offset).take 64).drop (4 * i)).take 4 = (view.drop (offset + 4 * i)).take 4
  rw [List.drop_take, List.take_take, List.drop_drop, Nat.min_eq_left (by omega)]

/-- Two lists of one length, in step with their indices. -/
theorem zip_eq_map_range {K W : List ℕ} (h : K.length = W.length) :
    K.zip W = (List.range K.length).map fun i ↦ (K.getD i 0, W.getD i 0) := by
  refine List.ext_getElem (by simp [h]) fun i hi hi' ↦ ?_
  have hK : i < K.length := by
    rw [List.length_zip] at hi
    omega
  rw [List.getElem_zip, List.getElem_map, List.getElem_range, List.getD_eq_getElem _ _ hK,
    List.getD_eq_getElem _ _ (h ▸ hK)]

variable {K : List ℤ} {H₀ : Vars} (hstd : Standard K H₀)

include hstd

/-- **One block.** -/
theorem block_spec {view : List UInt8} {offset : ℕ} {H : Vars} {w : List ℤ} {s : Sha256.State}
    (hview : offset + 64 ≤ view.length) (hlength : view.length < 2 ^ 53) (hH : H.For s)
    (hw : w.length = 64) :
    ∃ H' w', block K view (H, w) offset = some (H', w') ∧
      H'.For (Sha256.compress s ((view.drop offset).take 64)) ∧ w'.length = 64 := by
  obtain ⟨w', hload, hw', hwords⟩ := loadWords_spec hview hlength hw
  obtain ⟨words, heq⟩ : ∃ words, words =
      (List.range 16).map fun i ↦ Sha256.ofBytes ((view.drop (offset + 4 * i)).take 4) := ⟨_, rfl⟩
  have hlen : words.length = 16 := by
    rw [heq, List.length_map, List.length_range]
  have hword : ∀ i < 16, Word (w'.getD i 0) (words.getD i 0) := by
    intro i hi
    rw [heq, List.getD_eq_getElem (List.map _ _) _ (by simpa using hi), List.getElem_map,
      List.getElem_range]
    exact hwords i hi
  obtain ⟨hext, hlen', hsched⟩ := extendWords_spec hw' hlen hword
  have hblock : block K view (H, w) offset = some (H.accumulate ((List.range 64).foldl
      (fun v i ↦ round v (K.getD i 0) ((extendWords w').getD i 0)) H), extendWords w') := by
    rw [block, hload]
    rfl
  refine ⟨_, _, hblock, ?_, hext⟩
  have hcount : Sha256.roundConstants.length = 64 := rfl
  have hconst : ∀ i < 64, Word (K.getD i 0) (Sha256.roundConstants.getD i 0) := by
    intro i hi
    have hlt : ∀ k ∈ Sha256.roundConstants, k < 2 ^ 32 := by decide
    rw [hstd.k, List.getD_eq_getElem _ _ (by rwa [List.length_map, hcount]), List.getElem_map,
      List.getD_eq_getElem _ _ (hcount ▸ hi)]
    exact .natCast (hlt _ (List.getElem_mem _))
  rw [Sha256.compress, Sha256.schedule_eq_foldl, words_eq hview, ← heq,
    zip_eq_map_range (hcount.trans hlen'.symm), hcount, List.foldl_map]
  have hrounds : ((List.range 64).foldl
      (fun v i ↦ round v (K.getD i 0) ((extendWords w').getD i 0)) H).For
        ((List.range 64).foldl (fun t i ↦ Sha256.round t (Sha256.roundConstants.getD i 0,
          ((List.range 48).foldl Sha256.scheduleStep words).getD i 0)) s) := by
    refine List.foldl_rel hH fun i hi v t hv ↦ ?_
    have hi : i < 64 := List.mem_range.1 hi
    show (round v _ _).For (Sha256.round t (_, _))
    exact round_spec hv (hconst i hi) (hsched i hi)
  exact accumulate_spec hH hrounds

/-- **The blocks of a message**, as far as the loop has come. -/
theorem blocks_spec {view : List UInt8} (hlength : view.length < 2 ^ 53) (n : ℕ)
    (hn : 64 * n ≤ view.length) :
    ∃ H w, ((List.range n).map fun j : ℕ ↦ (64 * j : ℤ)).foldlM (block K view)
        (H₀, List.replicate 64 0) = some (H, w) ∧
      H.For (((List.range n).map fun j ↦ (view.drop (64 * j)).take 64).foldl Sha256.compress
        Sha256.initialState) ∧ w.length = 64 := by
  induction n with
  | zero => exact ⟨H₀, _, rfl, hstd.h, rfl⟩
  | succ n ih =>
    obtain ⟨H, w, hrun, hH, hw⟩ := ih (by omega)
    have hview : 64 * n + 64 ≤ view.length := by omega
    obtain ⟨H', w', hblock, hH', hw'⟩ := block_spec hstd hview hlength hH hw
    refine ⟨H', w', ?_, ?_, hw'⟩
    · rw [List.range_succ, List.map_append, List.foldlM_append, hrun]
      show (block K view (H, w) (64 * n) >>= _) = _
      rw [show (64 * n : ℤ) = (64 * n : ℕ) by omega, hblock]
      rfl
    · rw [List.range_succ, List.map_append, List.foldl_append]
      exact hH'

omit hstd in
/-- Writing words one after the other writes their bytes. -/
theorem writeWords_spec {H : List ℤ} {words : List ℕ} (h : List.Forall₂ Word H words) {i : ℕ}
    {written : List UInt8} (hwritten : written.length = 4 * i) (hsmall : i + H.length < 2 ^ 20) :
    (H.zipIdx i).foldlM (fun out p ↦ setUint32 out (mul p.2 4) p.1)
        (written ++ List.replicate (4 * H.length) 0) =
      some (written ++ words.flatMap (Sha256.toBytes 4)) := by
  induction h generalizing i written with
  | nil => simp
  | @cons x n H words hx _ ih =>
    rw [List.length_cons] at hsmall
    have hpos : mul i 4 = written.length := by
      rw [mul_of_lt (by omega), hwritten]
      omega
    have hzeros : List.replicate (4 * (x :: H).length) (0 : UInt8) =
        List.replicate 4 0 ++ List.replicate (4 * H.length) 0 := by
      rw [List.replicate_append_replicate, List.length_cons]
      exact congrArg (List.replicate · 0) (by omega)
    have hbits : (bits x).toNat = n := by
      rw [hx.bits_eq, BitVec.toNat_ofNat, Nat.mod_eq_of_lt hx.lt]
    have hnext : (written ++ Sha256.toBytes 4 n).length = 4 * (i + 1) := by
      rw [List.length_append, Sha256.length_toBytes, hwritten]
      omega
    rw [List.zipIdx_cons, List.foldlM_cons, hzeros, ← List.append_assoc,
      setUint32_append x hpos (List.length_replicate ..), hbits, List.flatMap_cons,
      ← List.append_assoc]
    exact ih hnext (by omega)

/-- **The digest of a page is SHA-256.** -/
theorem sha256_eq {bytes : List UInt8} (h : bytes.length < 2 ^ 28) :
    sha256 K H₀ bytes = some (Sha256.sha256 bytes).bytes := by
  have hpad := Sha256.length_pad bytes
  have hcount : ((Sha256.pad bytes).length + 63) / 64 = (Sha256.pad bytes).length / 64 := by omega
  have hlength : (Sha256.pad bytes).length < 2 ^ 53 := by omega
  obtain ⟨H, w, hrun, hH, -⟩ := blocks_spec hstd hlength ((Sha256.pad bytes).length / 64) (by omega)
  have hblocks : Sha256.blocks bytes = (List.range ((Sha256.pad bytes).length / 64)).map
      fun j ↦ ((Sha256.pad bytes).drop (64 * j)).take 64 :=
    Sha256.chunks_eq_map (by decide) (by omega) (by omega)
  rw [← hblocks] at hH
  have hwords := List.Forall₂.cons hH.a (.cons hH.b (.cons hH.c (.cons hH.d (.cons hH.e
    (.cons hH.f (.cons hH.g (.cons hH.h .nil)))))))
  have hnil : ([] : List UInt8).length = 4 * 0 := rfl
  rw [sha256, paddedBuffer_eq h, Option.bind_eq_bind, Option.bind_some]
  dsimp only
  rw [hcount, hrun]
  exact writeWords_spec hwords hnil (show 0 + 8 < 2 ^ 20 by decide)

end JsSha256

namespace DjangoWaf

/-- `SHA256_K` in `challenge.html`. -/
def challengePageK : List ℤ :=
  [0x428a2f98, 0x71374491, 0xb5c0fbcf, 0xe9b5dba5, 0x3956c25b, 0x59f111f1, 0x923f82a4, 0xab1c5ed5,
    0xd807aa98, 0x12835b01, 0x243185be, 0x550c7dc3, 0x72be5d74, 0x80deb1fe, 0x9bdc06a7, 0xc19bf174,
    0xe49b69c1, 0xefbe4786, 0x0fc19dc6, 0x240ca1cc, 0x2de92c6f, 0x4a7484aa, 0x5cb0a9dc, 0x76f988da,
    0x983e5152, 0xa831c66d, 0xb00327c8, 0xbf597fc7, 0xc6e00bf3, 0xd5a79147, 0x06ca6351, 0x14292967,
    0x27b70a85, 0x2e1b2138, 0x4d2c6dfc, 0x53380d13, 0x650a7354, 0x766a0abb, 0x81c2c92e, 0x92722c85,
    0xa2bfe8a1, 0xa81a664b, 0xc24b8b70, 0xc76c51a3, 0xd192e819, 0xd6990624, 0xf40e3585, 0x106aa070,
    0x19a4c116, 0x1e376c08, 0x2748774c, 0x34b0bcb5, 0x391c0cb3, 0x4ed8aa4a, 0x5b9cca4f, 0x682e6ff3,
    0x748f82ee, 0x78a5636f, 0x84c87814, 0x8cc70208, 0x90befffa, 0xa4506ceb, 0xbef9a3f7, 0xc67178f2]

/-- `H` in `challenge.html`. -/
def challengePageH : JsSha256.Vars :=
  ⟨0x6a09e667, 0xbb67ae85, 0x3c6ef372, 0xa54ff53a, 0x510e527f, 0x9b05688c, 0x1f83d9ab, 0x5be0cd19⟩

/-- `sha256` of `challenge.html`. -/
def challengePageSha256 (message : String) : Option (List UInt8) :=
  JsSha256.sha256 challengePageK challengePageH (PyBytes.utf8Encode message)

/-- `K` in `_SHA256_JS`. -/
def powGateK : List ℤ :=
  [0x428a2f98, 0x71374491, 0xb5c0fbcf, 0xe9b5dba5, 0x3956c25b, 0x59f111f1, 0x923f82a4, 0xab1c5ed5,
    0xd807aa98, 0x12835b01, 0x243185be, 0x550c7dc3, 0x72be5d74, 0x80deb1fe, 0x9bdc06a7, 0xc19bf174,
    0xe49b69c1, 0xefbe4786, 0x0fc19dc6, 0x240ca1cc, 0x2de92c6f, 0x4a7484aa, 0x5cb0a9dc, 0x76f988da,
    0x983e5152, 0xa831c66d, 0xb00327c8, 0xbf597fc7, 0xc6e00bf3, 0xd5a79147, 0x06ca6351, 0x14292967,
    0x27b70a85, 0x2e1b2138, 0x4d2c6dfc, 0x53380d13, 0x650a7354, 0x766a0abb, 0x81c2c92e, 0x92722c85,
    0xa2bfe8a1, 0xa81a664b, 0xc24b8b70, 0xc76c51a3, 0xd192e819, 0xd6990624, 0xf40e3585, 0x106aa070,
    0x19a4c116, 0x1e376c08, 0x2748774c, 0x34b0bcb5, 0x391c0cb3, 0x4ed8aa4a, 0x5b9cca4f, 0x682e6ff3,
    0x748f82ee, 0x78a5636f, 0x84c87814, 0x8cc70208, 0x90befffa, 0xa4506ceb, 0xbef9a3f7, 0xc67178f2]

/-- `H` in `_SHA256_JS`. -/
def powGateH : JsSha256.Vars :=
  ⟨0x6a09e667, 0xbb67ae85, 0x3c6ef372, 0xa54ff53a, 0x510e527f, 0x9b05688c, 0x1f83d9ab, 0x5be0cd19⟩

/-- `sha256` of `_SHA256_JS`. -/
def powGateSha256 (message : String) : Option (List UInt8) :=
  JsSha256.sha256 powGateK powGateH (PyBytes.utf8Encode message)

/-! ### The two pages -/

theorem challengePage_standard : JsSha256.Standard challengePageK challengePageH where
  k := rfl
  h := ⟨.natCast (by decide), .natCast (by decide), .natCast (by decide), .natCast (by decide),
    .natCast (by decide), .natCast (by decide), .natCast (by decide), .natCast (by decide)⟩

theorem powGate_standard : JsSha256.Standard powGateK powGateH where
  k := rfl
  h := ⟨.natCast (by decide), .natCast (by decide), .natCast (by decide), .natCast (by decide),
    .natCast (by decide), .natCast (by decide), .natCast (by decide), .natCast (by decide)⟩

/-- **Client and server hash alike.** -/
theorem js_sha256_correct (message : String) (h : (PyBytes.utf8Encode message).length < 2 ^ 28) :
    challengePageSha256 message = some (Sha256.sha256 (PyBytes.utf8Encode message)).bytes ∧
      powGateSha256 message = some (Sha256.sha256 (PyBytes.utf8Encode message)).bytes :=
  ⟨JsSha256.sha256_eq challengePage_standard h, JsSha256.sha256_eq powGate_standard h⟩

/-- A message of 56 bytes, the first length whose padding takes a block of its own. -/
theorem js_sha256_correct_56 :
    (PyBytes.utf8Encode (String.ofList (List.replicate 56 'a'))).length = 56 ∧
      challengePageSha256 (String.ofList (List.replicate 56 'a')) = some
        (Sha256.sha256 (PyBytes.utf8Encode (String.ofList (List.replicate 56 'a')))).bytes :=
  ⟨by decide, (js_sha256_correct _ (by decide)).1⟩

end DjangoWaf
