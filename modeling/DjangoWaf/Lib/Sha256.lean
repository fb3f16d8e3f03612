import DjangoWaf.Lib.PyBytes

/-!
# SHA-256 and HMAC-SHA256

The two functions of `hashlib` and `hmac` the form services sign with, on lists of bytes. Words are
natural numbers below `2 ^ 32`. Results about signatures do not look inside them; they are here so
that tokens can be issued and checked on concrete keys.
-/

namespace Sha256

open PyBytes

/-- The round constants. -/
def roundConstants : List ℕ :=
  [0x428a2f98, 0x71374491, 0xb5c0fbcf, 0xe9b5dba5, 0x3956c25b, 0x59f111f1, 0x923f82a4, 0xab1c5ed5,
    0xd807aa98, 0x12835b01, 0x243185be, 0x550c7dc3, 0x72be5d74, 0x80deb1fe, 0x9bdc06a7, 0xc19bf174,
    0xe49b69c1, 0xefbe4786, 0x0fc19dc6, 0x240ca1cc, 0x2de92c6f, 0x4a7484aa, 0x5cb0a9dc, 0x76f988da,
    0x983e5152, 0xa831c66d, 0xb00327c8, 0xbf597fc7, 0xc6e00bf3, 0xd5a79147, 0x06ca6351, 0x14292967,
    0x27b70a85, 0x2e1b2138, 0x4d2c6dfc, 0x53380d13, 0x650a7354, 0x766a0abb, 0x81c2c92e, 0x92722c85,
    0xa2bfe8a1, 0xa81a664b, 0xc24b8b70, 0xc76c51a3, 0xd192e819, 0xd6990624, 0xf40e3585, 0x106aa070,
    0x19a4c116, 0x1e376c08, 0x2748774c, 0x34b0bcb5, 0x391c0cb3, 0x4ed8aa4a, 0x5b9cca4f, 0x682e6ff3,
    0x748f82ee, 0x78a5636f, 0x84c87814, 0x8cc70208, 0x90befffa, 0xa4506ceb, 0xbef9a3f7, 0xc67178f2]

/-- The eight working words. -/
structure State where
  a : ℕ
  b : ℕ
  c : ℕ
  d : ℕ
  e : ℕ
  f : ℕ
  g : ℕ
  h : ℕ

def initialState : State :=
  ⟨0x6a09e667, 0xbb67ae85, 0x3c6ef372, 0xa54ff53a, 0x510e527f, 0x9b05688c, 0x1f83d9ab, 0x5be0cd19⟩

/-- Rotation to the right. -/
def rotr (x n : ℕ) : ℕ := ((x >>> n) ||| (x <<< (32 - n))) % 2 ^ 32

/-- A number in `n` bytes, the most significant one first. -/
def toBytes (n x : ℕ) : List UInt8 :=
  (List.range n).reverse.map fun i ↦ UInt8.ofNat (x / 256 ^ i % 256)

/-- The message with a one bit, zeros up to the last eight bytes of a block, and its length. -/
def pad (msg : List UInt8) : List UInt8 :=
  msg ++ 0x80 :: List.replicate ((119 - msg.length % 64) % 64) 0 ++ toBytes 8 (8 * msg.length)

/-- Pieces of a fixed length, the last one possibly shorter; at most `fuel` of them. -/
def chunks (n : ℕ) : ℕ → List UInt8 → List (List UInt8)
  | 0, _ => []
  | fuel + 1, bs => if bs = [] then [] else bs.take n :: chunks n fuel (bs.drop n)

/-- The number some bytes spell. -/
def ofBytes (bs : List UInt8) : ℕ := bs.foldl (fun n b ↦ 256 * n + b.toNat) 0

/-- The message schedule of a block. -/
def schedule (block : List UInt8) : List ℕ :=
  (List.range 48).foldl
    (fun w i ↦
      let w15 := w.getD (i + 1) 0
      let w2 := w.getD (i + 14) 0
      let s0 := rotr w15 7 ^^^ rotr w15 18 ^^^ (w15 >>> 3)
      let s1 := rotr w2 17 ^^^ rotr w2 19 ^^^ (w2 >>> 10)
      w ++ [(w.getD i 0 + s0 + w.getD (i + 9) 0 + s1) % 2 ^ 32])
    ((chunks 4 16 block).map ofBytes)

/-- One round. -/
def round (s : State) (kw : ℕ × ℕ) : State :=
  let s1 := rotr s.e 6 ^^^ rotr s.e 11 ^^^ rotr s.e 25
  let ch := (s.e &&& s.f) ^^^ ((2 ^ 32 - 1 - s.e) &&& s.g)
  let t1 := s.h + s1 + ch + kw.1 + kw.2
  let s0 := rotr s.a 2 ^^^ rotr s.a 13 ^^^ rotr s.a 22
  let maj := (s.a &&& s.b) ^^^ (s.a &&& s.c) ^^^ (s.b &&& s.c)
  ⟨(t1 + s0 + maj) % 2 ^ 32, s.a, s.b, s.c, (s.d + t1) % 2 ^ 32, s.e, s.f, s.g⟩

/-- One block. -/
def compress (s : State) (block : List UInt8) : State :=
  let t := (roundConstants.zip (schedule block)).foldl round s
  ⟨(s.a + t.a) % 2 ^ 32, (s.b + t.b) % 2 ^ 32, (s.c + t.c) % 2 ^ 32, (s.d + t.d) % 2 ^ 32,
    (s.e + t.e) % 2 ^ 32, (s.f + t.f) % 2 ^ 32, (s.g + t.g) % 2 ^ 32, (s.h + t.h) % 2 ^ 32⟩

/-- The words in bytes. -/
def State.toDigest (s : State) : Digest where
  bytes := [s.a, s.b, s.c, s.d, s.e, s.f, s.g, s.h].flatMap (toBytes 4)
  length_bytes := by simp [toBytes]

/-- The blocks of a message. -/
def blocks (msg : List UInt8) : List (List UInt8) := chunks 64 (msg.length / 64 + 2) (pad msg)

/-- `hashlib.sha256(msg).digest()`. -/
def sha256 (msg : List UInt8) : Digest := ((blocks msg).foldl compress initialState).toDigest

/-- `hmac.new(key, msg, hashlib.sha256).digest()`. -/
def hmacSha256 (key msg : List UInt8) : Digest :=
  let key := if 64 < key.length then (sha256 key).bytes else key
  let key := key ++ List.replicate (64 - key.length) 0
  let inner := sha256 (key.map (· ^^^ 0x36) ++ msg)
  sha256 (key.map (· ^^^ 0x5c) ++ inner.bytes)

/-! ### Blocks -/

theorem length_pad (msg : List UInt8) :
    (pad msg).length = msg.length + 9 + (119 - msg.length % 64) % 64 := by
  simp only [pad, toBytes, List.length_append, List.length_cons, List.length_replicate,
    List.length_map, List.length_reverse, List.length_range]
  omega

/-- What is left behind the first piece has one piece less, and is full as well. -/
theorem drop_of_dvd {n fuel : ℕ} {bs : List UInt8} (hnil : bs ≠ [])
    (hfuel : bs.length ≤ n * (fuel + 1)) (hmod : n ∣ bs.length) :
    n ≤ bs.length ∧ (bs.drop n).length ≤ n * fuel ∧ n ∣ (bs.drop n).length := by
  have hpos : 0 < bs.length := List.length_pos_of_ne_nil hnil
  have hdrop : (bs.drop n).length = bs.length - n := List.length_drop
  refine ⟨Nat.le_of_dvd hpos hmod, ?_, ?_⟩
  · rw [hdrop, Nat.sub_le_iff_le_add]
    exact hfuel
  · rw [hdrop]
    exact Nat.dvd_sub hmod (Nat.dvd_refl n)

/-- Enough pieces hold the whole text, and each is full when the length is a multiple. -/
theorem chunks_spec {n fuel : ℕ} {bs : List UInt8}
    (hfuel : bs.length ≤ n * fuel) (hmod : n ∣ bs.length) :
    (chunks n fuel bs).flatten = bs ∧ ∀ piece ∈ chunks n fuel bs, piece.length = n := by
  induction fuel generalizing bs with
  | zero =>
    have hnil : bs = [] := List.eq_nil_of_length_eq_zero (by omega)
    rw [hnil]
    exact ⟨rfl, fun _ h ↦ absurd h List.not_mem_nil⟩
  | succ fuel ih =>
    rw [chunks]
    split_ifs with hnil
    · rw [hnil]
      exact ⟨rfl, fun _ h ↦ absurd h List.not_mem_nil⟩
    · obtain ⟨hle, hfuel', hmod'⟩ := drop_of_dvd hnil hfuel hmod
      obtain ⟨hflat, hlen⟩ := ih hfuel' hmod'
      refine ⟨by rw [List.flatten_cons, hflat, List.take_append_drop], fun piece hpiece ↦ ?_⟩
      rcases List.mem_cons.1 hpiece with rfl | hpiece
      · rw [List.length_take, Nat.min_eq_left hle]
      · exact hlen piece hpiece

/-- **The blocks of a message** are full, and together they are the padded message. -/
theorem blocks_spec (msg : List UInt8) :
    (blocks msg).flatten = pad msg ∧ ∀ block ∈ blocks msg, block.length = 64 := by
  have hlen := length_pad msg
  exact chunks_spec (by omega) (by omega)

/-- **The pieces are slices** of the text. -/
theorem chunks_eq_map {n fuel : ℕ} {bs : List UInt8} (hn : 0 < n) (hfuel : bs.length ≤ n * fuel)
    (hmod : n ∣ bs.length) :
    chunks n fuel bs = (List.range (bs.length / n)).map fun i ↦ (bs.drop (n * i)).take n := by
  induction fuel generalizing bs with
  | zero =>
    have hnil : bs = [] := List.eq_nil_of_length_eq_zero (by omega)
    rw [hnil, List.length_nil, Nat.zero_div]
    rfl
  | succ fuel ih =>
    rw [chunks]
    split_ifs with hnil
    · rw [hnil, List.length_nil, Nat.zero_div]
      rfl
    · obtain ⟨hle, hfuel', hmod'⟩ := drop_of_dvd hnil hfuel hmod
      have hcount : bs.length / n = (bs.drop n).length / n + 1 := by
        rw [List.length_drop, Nat.div_eq_sub_div hn hle]
      rw [hcount, List.range_succ_eq_map, List.map_cons, List.map_map, ih hfuel' hmod']
      refine congrArg₂ _ (by rw [Nat.mul_zero, List.drop_zero]) (List.map_congr_left fun i _ ↦ ?_)
      show ((bs.drop n).drop (n * i)).take n = (bs.drop (n * (i + 1))).take n
      rw [List.drop_drop, Nat.mul_succ, Nat.add_comm]

theorem length_toBytes (n x : ℕ) : (toBytes n x).length = n := by
  rw [toBytes, List.length_map, List.length_reverse, List.length_range]

/-- A number in `m + n` bytes is its upper part in `n` bytes and its lower part in `m`. -/
theorem toBytes_add (m n x : ℕ) :
    toBytes (m + n) x = toBytes n (x / 256 ^ m) ++ toBytes m x := by
  rw [toBytes, toBytes, toBytes, List.range_add, List.reverse_append, List.map_append,
    ← List.map_reverse, List.map_map]
  refine congrArg (· ++ _) (List.map_congr_left fun i _ ↦ ?_)
  show UInt8.ofNat (x / 256 ^ (m + i) % 256) = UInt8.ofNat (x / 256 ^ m / 256 ^ i % 256)
  rw [Nat.pow_add, Nat.div_div_eq_div_mul]

/-- So many bytes spell a number below the power. -/
theorem ofBytes_lt (bs : List UInt8) : ofBytes bs < 256 ^ bs.length := by
  induction bs using List.reverseRecOn with
  | nil => decide
  | append_singleton bs b ih =>
    have hb : b.toNat < 256 := b.toNat_lt
    rw [ofBytes, List.foldl_append, List.length_append, List.length_singleton, Nat.pow_succ]
    show 256 * ofBytes bs + b.toNat < _
    omega
/-- One step of the message schedule. -/
def scheduleStep (w : List ℕ) (i : ℕ) : List ℕ :=
  w ++ [(w.getD i 0 + (rotr (w.getD (i + 1) 0) 7 ^^^ rotr (w.getD (i + 1) 0) 18 ^^^
      (w.getD (i + 1) 0 >>> 3)) + w.getD (i + 9) 0 +
    (rotr (w.getD (i + 14) 0) 17 ^^^ rotr (w.getD (i + 14) 0) 19 ^^^
      (w.getD (i + 14) 0 >>> 10))) % 2 ^ 32]

theorem schedule_eq_foldl (block : List UInt8) :
    schedule block = (List.range 48).foldl scheduleStep ((chunks 4 16 block).map ofBytes) := rfl

example : String.ofList (sha256 []).hexdigest =
    "e3b0c44298fc1c149afbf4c8996fb92427ae41e4649b934ca495991b7852b855" := by decide +kernel
example : String.ofList (hmacSha256 (utf8Encode "key") (utf8Encode "message")).hexdigest =
    "6e9ef29b75fffc5b7abae527d58fdadb2fe42e7219011976917343065f58ed4a" := by decide +kernel

end Sha256
