import DjangoWaf.Lib.PyStr

/-!
# Bytes, as Python handles them

A `bytes` value is a list of `UInt8`. The module has the conversions to and from text (UTF-8, and
ASCII with `errors="replace"`), the last occurrence of a separator in either, and the digest of a
hash function with its hexadecimal text.

Texts are `String`s, so they hold no lone surrogates and `str.encode("utf-8")` always succeeds;
decoding is strict and fails where Python raises `UnicodeDecodeError`.
-/

namespace PyBytes

/-! ### The last separator -/

section Last

variable {α : Type*} [DecidableEq α]

/-- What stands before the last occurrence of a separator and what stands after it, the two slices
around `s.rfind(sep)`. -/
def rsplitOnce (sep : α) : List α → Option (List α × List α)
  | [] => none
  | c :: cs =>
    match rsplitOnce sep cs with
    | some (front, back) => some (c :: front, back)
    | none => if c = sep then some ([], cs) else none

theorem rsplitOnce_eq_none_iff {sep : α} {s : List α} : rsplitOnce sep s = none ↔ sep ∉ s := by
  induction s with
  | nil => simp [rsplitOnce]
  | cons c cs ih =>
    rw [rsplitOnce, List.mem_cons, not_or, ← ih]
    rcases hcs : rsplitOnce sep cs with - | ⟨front, back⟩
    · by_cases hc : c = sep
      · simp [hc]
      · simp [hc, Ne.symm hc]
    · simp

/-- The separator that counts is the one with none behind it. -/
theorem rsplitOnce_append (sep : α) (front : List α) {back : List α} (h : sep ∉ back) :
    rsplitOnce sep (front ++ sep :: back) = some (front, back) := by
  induction front with
  | nil =>
    rw [List.nil_append, rsplitOnce, rsplitOnce_eq_none_iff.2 h]
    simp
  | cons c front ih => rw [List.cons_append, rsplitOnce, ih]

theorem rsplitOnce_eq_some {sep : α} {s front back : List α}
    (h : rsplitOnce sep s = some (front, back)) : s = front ++ sep :: back ∧ sep ∉ back := by
  induction s generalizing front with
  | nil => cases h
  | cons c cs ih =>
    rw [rsplitOnce] at h
    rcases hcs : rsplitOnce sep cs with - | ⟨front', back'⟩
    · rw [hcs] at h
      simp only at h
      split_ifs at h with hc
      obtain ⟨rfl, rfl⟩ := Prod.mk.inj (Option.some.inj h)
      exact ⟨by rw [hc, List.nil_append], rsplitOnce_eq_none_iff.1 hcs⟩
    · rw [hcs] at h
      obtain ⟨rfl, rfl⟩ := Prod.mk.inj (Option.some.inj h)
      obtain ⟨rfl, hback⟩ := ih hcs
      exact ⟨rfl, hback⟩

end Last

/-! ### UTF-8 and ASCII -/

/-- `s.encode("utf-8")`. -/
def utf8Encode (s : String) : List UInt8 := s.toByteArray.data.toList

/-- `b.decode("utf-8")`, or `none` for `UnicodeDecodeError`. -/
def utf8Decode (b : List UInt8) : Option String := String.fromUTF8? b.toByteArray

theorem toByteArray_utf8Encode (s : String) : (utf8Encode s).toByteArray = s.toByteArray := by
  apply ByteArray.ext
  rw [utf8Encode, List.data_toByteArray, Array.toArray_toList]

theorem utf8Decode_utf8Encode (s : String) : utf8Decode (utf8Encode s) = some s := by
  rw [utf8Decode, toByteArray_utf8Encode, String.fromUTF8?, dif_pos s.isValidUTF8]
  rfl

theorem utf8Encode_injective : Function.Injective utf8Encode := by
  intro s t h
  have hdecode := congrArg utf8Decode h
  rw [utf8Decode_utf8Encode, utf8Decode_utf8Encode] at hdecode
  exact Option.some.inj hdecode

theorem utf8Encode_append (s t : String) : utf8Encode (s ++ t) = utf8Encode s ++ utf8Encode t := by
  rw [utf8Encode, String.toByteArray_append, ByteArray.data_append, Array.toList_append]
  rfl

/-- An ASCII character. -/
def isAscii (c : Char) : Bool := c.toNat < 128

/-- The byte of an ASCII character. -/
def asciiByte (c : Char) : UInt8 := UInt8.ofNat c.toNat

theorem utf8EncodeChar_ascii {c : Char} (h : isAscii c = true) :
    String.utf8EncodeChar c = [asciiByte c] := by
  have hsize : c.utf8Size = 1 := by
    rw [Char.utf8Size_eq_one_iff, UInt32.le_iff_toNat_le]
    exact Nat.le_of_lt_succ (of_decide_eq_true h)
  rw [String.utf8EncodeChar_eq_singleton hsize]
  rfl

theorem utf8Encode_ofList_ascii {cs : List Char} (h : ∀ c ∈ cs, isAscii c = true) :
    utf8Encode (String.ofList cs) = cs.map asciiByte := by
  rw [utf8Encode, String.toByteArray_ofList]
  induction cs with
  | nil => rfl
  | cons c cs ih =>
    rw [List.utf8Encode_cons, List.utf8Encode_singleton,
      utf8EncodeChar_ascii (h c List.mem_cons_self), ByteArray.data_append, Array.toList_append,
      ih fun d hd ↦ h d (List.mem_cons_of_mem c hd), List.toList_data_toByteArray]
    rfl

/-- `b.decode("ascii", errors="replace")`: every byte beyond ASCII becomes U+FFFD. -/
def asciiDecodeReplace (b : List UInt8) : List Char :=
  b.map fun x ↦ if x.toNat < 128 then Char.ofNat x.toNat else Char.ofNat 0xFFFD

theorem asciiDecodeReplace_map_asciiByte {cs : List Char} (h : ∀ c ∈ cs, isAscii c = true) :
    asciiDecodeReplace (cs.map asciiByte) = cs := by
  rw [asciiDecodeReplace, List.map_map]
  refine (List.map_congr_left fun c hc ↦ ?_).trans (List.map_id cs)
  have hlt : c.toNat < 128 := of_decide_eq_true (h c hc)
  have hbyte : (asciiByte c).toNat = c.toNat := by
    rw [asciiByte, UInt8.toNat_ofNat']
    omega
  simp only [Function.comp_apply, hbyte, if_pos hlt, id_eq]
  exact Char.ofNat_toNat c

/-- A byte beyond ASCII is what keeps the decoded text from being ASCII. -/
theorem all_isAscii_asciiDecodeReplace (b : List UInt8) :
    (asciiDecodeReplace b).all isAscii = b.all fun x ↦ x.toNat < 128 := by
  rw [asciiDecodeReplace, List.all_map]
  congr 1
  funext x
  rw [Function.comp_apply]
  by_cases hx : x.toNat < 128
  · rw [if_pos hx, isAscii, PyStr.toNat_ofNat (by omega)]
  · rw [if_neg hx, decide_eq_false hx]
    rfl

/-! ### Digests -/

/-- The digest of SHA-256: thirty-two bytes. -/
structure Digest where
  bytes : List UInt8
  length_bytes : bytes.length = 32
  deriving DecidableEq

/-- The two hexadecimal digits of a byte. -/
def hexByte (b : UInt8) : List Char := [Nat.digitChar (b.toNat / 16), Nat.digitChar (b.toNat % 16)]

/-- `h.hexdigest()`. -/
def Digest.hexdigest (d : Digest) : List Char := d.bytes.flatMap hexByte

theorem Digest.length_hexdigest (d : Digest) : d.hexdigest.length = 64 := by
  have hbytes : ∀ b ∈ d.bytes, (hexByte b).length = 2 := fun _ _ ↦ rfl
  rw [hexdigest, List.length_flatMap, List.map_congr_left hbytes, List.map_const',
    List.sum_replicate_nat, d.length_bytes]

/-- Different bytes have different digits. -/
theorem hexByte_injective : Function.Injective hexByte := by
  have hdigit : ∀ m < 16, ∀ n < 16, Nat.digitChar m = Nat.digitChar n → m = n := by decide
  intro a b h
  have ha : a.toNat < 256 := a.toNat_lt
  have hb : b.toNat < 256 := b.toNat_lt
  obtain ⟨hhigh, hlow⟩ := List.cons.inj h
  have hhigh' := hdigit _ (by omega) _ (by omega) hhigh
  have hlow' := hdigit _ (by omega) _ (by omega) (List.cons.inj hlow).1
  rw [UInt8.ext_iff]
  omega

/-- **Different digests have different texts.** -/
theorem Digest.hexdigest_injective : Function.Injective Digest.hexdigest := by
  have hbytes : ∀ bs bs' : List UInt8, bs.flatMap hexByte = bs'.flatMap hexByte → bs = bs' := by
    intro bs
    induction bs with
    | nil =>
      rintro (- | ⟨b, bs'⟩) h
      · rfl
      · cases h
    | cons a bs ih =>
      rintro (- | ⟨b, bs'⟩) h
      · cases h
      · rw [List.flatMap_cons, List.flatMap_cons] at h
        obtain ⟨hhead, htail⟩ := List.append_inj h rfl
        rw [hexByte_injective hhead, ih bs' htail]
  rintro ⟨bs, hbs⟩ ⟨bs', hbs'⟩ h
  obtain rfl := hbytes bs bs' h
  rfl

/-- A lower-case hexadecimal digit. -/
def IsHex (c : Char) : Prop := ∃ n < 16, c = Nat.digitChar n

instance : DecidablePred IsHex := fun c ↦
  inferInstanceAs (Decidable (∃ n < 16, c = Nat.digitChar n))

theorem Digest.isHex_of_mem_hexdigest {d : Digest} {c : Char} (h : c ∈ d.hexdigest) : IsHex c := by
  obtain ⟨b, -, hc⟩ := List.mem_flatMap.1 h
  have hlt : b.toNat < 256 := b.toNat_lt
  rw [hexByte, List.mem_cons, List.mem_singleton] at hc
  rcases hc with hc | hc
  · exact ⟨b.toNat / 16, by omega, hc⟩
  · exact ⟨b.toNat % 16, by omega, hc⟩

theorem IsHex.ne_of_forall {c d : Char} (h : IsHex c) (hd : ∀ n < 16, Nat.digitChar n ≠ d) :
    c ≠ d := by
  obtain ⟨n, hn, rfl⟩ := h
  exact hd n hn

theorem IsHex.isAscii {c : Char} (h : IsHex c) : isAscii c = true := by
  obtain ⟨n, hn, rfl⟩ := h
  have hall : ∀ n < 16, PyBytes.isAscii (Nat.digitChar n) = true := by decide
  exact hall n hn

end PyBytes

/-! ### Texts that cannot be encoded -/

/-- A text by its code points: an escape of JSON may bring a lone surrogate, which no `String`
holds. -/
structure PyText where
  units : List (Char ⊕ Fin 0x800)
  deriving DecidableEq

namespace PyText

/-- A text without surrogates. -/
def ofString (s : String) : PyText := ⟨s.toList.map .inl⟩

instance : Coe String PyText := ⟨ofString⟩

/-- `encode()`, or `none` for `UnicodeEncodeError`. -/
def encode (t : PyText) : Option (List UInt8) :=
  (t.units.mapM Sum.getLeft?).map fun cs ↦ PyBytes.utf8Encode (String.ofList cs)

@[simp] theorem encode_ofString (s : String) :
    (ofString s).encode = some (PyBytes.utf8Encode s) := by
  have hunits : ∀ cs : List Char, (cs.map Sum.inl : List (Char ⊕ Fin 0x800)).mapM Sum.getLeft? =
      some cs := by
    intro cs
    induction cs with
    | nil => rfl
    | cons c cs ih =>
      rw [List.map_cons, List.mapM_cons, ih]
      rfl
  rw [encode, ofString, hunits, Option.map_some, String.ofList_toList]

end PyText
