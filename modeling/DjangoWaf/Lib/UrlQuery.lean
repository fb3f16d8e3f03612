import DjangoWaf.Lib.PyStr
import DjangoWaf.Lib.Utf8

/-!
# Query strings

`urllib.parse`: `quote` with a set of safe characters, `unquote`, and `parse_qsl` with blank values
kept. A query string that is read back goes through **three** decodings (the separators, the plus
sign, the percent escapes), and a character that is safe for `quote` is exactly one that no encoding
has protected from them.

* `units` cuts a text into its percent escapes and its other characters. Quoting keeps the units
  (`flatten_units_plus_quote`), so what a quoted text is read back as depends on its units alone.
* `unquote_plus_quote_eq_self_iff`: a text comes back exactly when it has no plus sign and no
  escape; one with an escape comes back shorter.
-/

namespace UrlQuery

/-! ### Percent escapes -/

/-- The value of a hexadecimal digit of either case. -/
def hexVal (c : Char) : Option ℕ :=
  let n := c.toNat
  if 48 ≤ n ∧ n ≤ 57 then some (n - 48)
  else if 65 ≤ n ∧ n ≤ 70 then some (n - 55)
  else if 97 ≤ n ∧ n ≤ 102 then some (n - 87)
  else none

/-- An upper case hexadecimal digit. -/
def hexUpper (n : ℕ) : Char := Char.ofNat (if n < 10 then 48 + n else 55 + n)

/-- The escape of a byte. -/
def percentEncode (b : UInt8) : List Char :=
  ['%', hexUpper (b.toNat / 16), hexUpper (b.toNat % 16)]

/-- The byte two characters behind a percent sign spell. -/
def escaped (a b : Char) : Option UInt8 :=
  match hexVal a, hexVal b with
  | some x, some y => some (UInt8.ofNat (16 * x + y))
  | _, _ => none

/-- The byte that the first two characters of a text spell. -/
def hexPair : List Char → Option UInt8
  | a :: b :: _ => escaped a b
  | _ => none

/-- The escapes of a text and its other characters, each with its bytes. -/
def units : List Char → List (List UInt8)
  | '%' :: a :: b :: rest =>
    match escaped a b with
    | some x => [x] :: units rest
    | none => String.utf8EncodeChar '%' :: units (a :: b :: rest)
  | c :: rest => String.utf8EncodeChar c :: units rest
  | [] => []

/-- `unquote_to_bytes(s)`. -/
def unquoteToBytes (s : List Char) : List UInt8 := (units s).flatten

/-- `unquote(s, errors="replace")`. -/
def unquote (s : List Char) : List Char := Utf8.decodeReplace (unquoteToBytes s)

@[simp] theorem units_nil : units [] = [] := rfl

theorem units_cons_of_ne {c : Char} (hc : c ≠ '%') (s : List Char) :
    units (c :: s) = String.utf8EncodeChar c :: units s := by
  rw [units]
  intro a b rest h
  exact absurd h hc

theorem units_escape {a b : Char} {x : UInt8} (h : escaped a b = some x) (s : List Char) :
    units ('%' :: a :: b :: s) = [x] :: units s := by
  rw [units, h]

theorem units_percent {s : List Char} (h : hexPair s = none) :
    units ('%' :: s) = String.utf8EncodeChar '%' :: units s := by
  rcases s with - | ⟨a, - | ⟨b, rest⟩⟩
  · rfl
  · rfl
  · have hab : escaped a b = none := h
    rw [units, hab]

/-- A text starts with a pair of hexadecimal digits, or a percent sign in front of it is one
character. -/
theorem exists_of_hexPair {s : List Char} {x : UInt8} (h : hexPair s = some x) :
    ∃ a b rest, s = a :: b :: rest ∧ escaped a b = some x := by
  rcases s with - | ⟨a, - | ⟨b, rest⟩⟩
  · cases h
  · cases h
  · exact ⟨a, b, rest, rfl, h⟩

/-- An induction over the units of a text. -/
theorem unitInduction {motive : List Char → Prop} (nil : motive [])
    (escape : ∀ a b x s, escaped a b = some x → motive s → motive ('%' :: a :: b :: s))
    (percent : ∀ s, hexPair s = none → motive s → motive ('%' :: s))
    (char : ∀ c s, c ≠ '%' → motive s → motive (c :: s)) (s : List Char) : motive s := by
  induction hn : s.length using Nat.strong_induction_on generalizing s with
  | _ n ih =>
    rcases s with - | ⟨c, s⟩
    · exact nil
    · rw [List.length_cons] at hn
      rcases eq_or_ne c '%' with rfl | hc
      · rcases hpair : hexPair s with - | x
        · exact percent s hpair (ih s.length (by omega) s rfl)
        · obtain ⟨a, b, rest, rfl, hab⟩ := exists_of_hexPair hpair
          rw [List.length_cons, List.length_cons] at hn
          exact escape a b x rest hab (ih rest.length (by omega) rest rfl)
      · exact char c s hc (ih s.length (by omega) s rfl)

/-- A percent sign of the text has a pair of hexadecimal digits behind it. -/
def hasEscape : List Char → Bool
  | [] => false
  | c :: cs => (c = '%' && (hexPair cs).isSome) || hasEscape cs

theorem isUnit_of_mem_units {s : List Char} {u : List UInt8} (hu : u ∈ units s) :
    Utf8.IsUnit u := by
  induction s using unitInduction with
  | nil => exact absurd hu List.not_mem_nil
  | escape a b x s hab ih =>
    rw [units_escape hab] at hu
    rcases List.mem_cons.1 hu with rfl | hu
    · exact Or.inl ⟨x, rfl⟩
    · exact ih hu
  | percent s hs ih =>
    rw [units_percent hs] at hu
    rcases List.mem_cons.1 hu with rfl | hu
    · exact Or.inr ⟨'%', rfl⟩
    · exact ih hu
  | char c s hc ih =>
    rw [units_cons_of_ne hc] at hu
    rcases List.mem_cons.1 hu with rfl | hu
    · exact Or.inr ⟨c, rfl⟩
    · exact ih hu

/-- A text has at most as many units as characters, and fewer where it has an escape. -/
theorem length_units (s : List Char) :
    (units s).length ≤ s.length ∧ (hasEscape s = true → (units s).length < s.length) := by
  induction s using unitInduction with
  | nil => exact ⟨Nat.le_refl 0, fun h ↦ absurd h Bool.false_ne_true⟩
  | escape a b x s hab ih =>
    obtain ⟨hle, -⟩ := ih
    rw [units_escape hab]
    simp only [List.length_cons]
    omega
  | percent s hs ih =>
    obtain ⟨hle, hlt⟩ := ih
    rw [units_percent hs, hasEscape, hs, List.length_cons, List.length_cons]
    exact ⟨Nat.succ_le_succ hle, fun h ↦ Nat.succ_lt_succ (hlt (by simpa using h))⟩
  | char c s hc ih =>
    obtain ⟨hle, hlt⟩ := ih
    rw [units_cons_of_ne hc, hasEscape, List.length_cons, List.length_cons]
    exact ⟨Nat.succ_le_succ hle, fun h ↦ Nat.succ_lt_succ (hlt (by simpa [hc] using h))⟩

/-- Without an escape every character is its own unit. -/
theorem units_of_not_hasEscape {s : List Char} (h : hasEscape s = false) :
    units s = s.map String.utf8EncodeChar := by
  induction s with
  | nil => rfl
  | cons c s ih =>
    rw [hasEscape, Bool.or_eq_false_iff] at h
    rcases eq_or_ne c '%' with rfl | hc
    · have hpair : hexPair s = none := by simpa using h.1
      rw [units_percent hpair, ih h.2, List.map_cons]
    · rw [units_cons_of_ne hc, ih h.2, List.map_cons]

theorem length_unquote_le (s : List Char) : (unquote s).length ≤ (units s).length :=
  Utf8.length_decodeFrom_le (fun _ ↦ isUnit_of_mem_units) none

/-! ### Quoting -/

/-- A character `quote` always leaves alone: an ASCII letter or digit, or one of `_.-~`. -/
def isUnreserved (c : Char) : Bool :=
  let n := c.toNat
  (97 ≤ n && n ≤ 122) || (65 ≤ n && n ≤ 90) || (48 ≤ n && n ≤ 57) || c == '_' || c == '.' ||
    c == '-' || c == '~'

/-- What `quote` makes of one character. -/
def quoteChar (safe : List Char) (c : Char) : List Char :=
  if isUnreserved c || safe.contains c then [c]
  else (String.utf8EncodeChar c).flatMap percentEncode

/-- `quote(s, safe)`. -/
def quote (safe s : List Char) : List Char := s.flatMap (quoteChar safe)

/-- `s.replace("+", " ")`. -/
def plus (s : List Char) : List Char := s.map fun c ↦ if c = '+' then ' ' else c

/-- A hexadecimal digit has one of the codes. -/
theorem hexVal_cases {c : Char} {x : ℕ} (h : hexVal c = some x) :
    (48 ≤ c.toNat ∧ c.toNat ≤ 57 ∧ x = c.toNat - 48) ∨
      (65 ≤ c.toNat ∧ c.toNat ≤ 70 ∧ x = c.toNat - 55) ∨
      (97 ≤ c.toNat ∧ c.toNat ≤ 102 ∧ x = c.toNat - 87) := by
  rw [hexVal] at h
  split_ifs at h with h₁ h₂ h₃
  · exact Or.inl ⟨h₁.1, h₁.2, (Option.some.inj h).symm⟩
  · exact Or.inr (Or.inl ⟨h₂.1, h₂.2, (Option.some.inj h).symm⟩)
  · exact Or.inr (Or.inr ⟨h₃.1, h₃.2, (Option.some.inj h).symm⟩)

theorem toNat_hexUpper {n : ℕ} (h : n < 16) :
    (hexUpper n).toNat = if n < 10 then 48 + n else 55 + n := by
  rw [hexUpper, PyStr.toNat_ofNat (by split <;> omega)]

theorem hexVal_hexUpper {n : ℕ} (h : n < 16) : hexVal (hexUpper n) = some n := by
  rw [hexVal, toNat_hexUpper h]
  split_ifs
  all_goals first | omega | (congr 1; omega)

theorem escaped_hexUpper (b : UInt8) :
    escaped (hexUpper (b.toNat / 16)) (hexUpper (b.toNat % 16)) = some b := by
  have hb : b.toNat < 256 := b.toNat_lt
  rw [escaped, hexVal_hexUpper (by omega), hexVal_hexUpper (by omega)]
  simp only [Nat.div_add_mod, UInt8.ofNat_toNat]

theorem isUnreserved_of_hexVal {c : Char} {x : ℕ} (h : hexVal c = some x) :
    isUnreserved c = true := by
  rw [isUnreserved]
  rcases hexVal_cases h with ⟨h₁, h₂, -⟩ | ⟨h₁, h₂, -⟩ | ⟨h₁, h₂, -⟩
  · simp [h₁, h₂]
  · have h₃ : c.toNat ≤ 90 := by omega
    simp [h₁, h₃]
  · have h₃ : c.toNat ≤ 122 := by omega
    simp [h₁, h₃]

/-- A pair of hexadecimal digits is a pair of unreserved characters other than the plus sign. -/
theorem of_escaped {a b : Char} {x : UInt8} (h : escaped a b = some x) :
    (isUnreserved a = true ∧ a ≠ '+') ∧ isUnreserved b = true ∧ b ≠ '+' := by
  have hne : ∀ {c : Char} {n : ℕ}, hexVal c = some n → c ≠ '+' := by
    rintro c n hc rfl
    cases hc
  rw [escaped] at h
  rcases ha : hexVal a with - | m
  · rw [ha] at h
    cases h
  rcases hb : hexVal b with - | n
  · rw [ha, hb] at h
    cases h
  exact ⟨⟨isUnreserved_of_hexVal ha, hne ha⟩, isUnreserved_of_hexVal hb, hne hb⟩

theorem plus_cons_of_ne {c : Char} (hc : c ≠ '+') (s : List Char) :
    plus (c :: s) = c :: plus s := by
  rw [plus, List.map_cons, if_neg hc]
  rfl

theorem plus_append (s t : List Char) : plus (s ++ t) = plus s ++ plus t := List.map_append

theorem plus_eq_self_iff {s : List Char} : plus s = s ↔ '+' ∉ s := by
  induction s with
  | nil => simp [plus]
  | cons c s ih =>
    rcases eq_or_ne c '+' with rfl | hc
    · simp [plus]
    · rw [plus_cons_of_ne hc, List.cons_inj_right, ih, List.mem_cons, not_or]
      exact ⟨fun h ↦ ⟨Ne.symm hc, h⟩, fun h ↦ h.2⟩

/-- The plus sign is not part of an escape. -/
theorem plus_flatMap_percentEncode (bs : List UInt8) :
    plus (bs.flatMap percentEncode) = bs.flatMap percentEncode := by
  rw [plus_eq_self_iff, List.mem_flatMap]
  rintro ⟨b, -, hb⟩
  have hescape := of_escaped (escaped_hexUpper b)
  rw [percentEncode, List.mem_cons, List.mem_cons, List.mem_singleton] at hb
  rcases hb with hb | hb | hb
  · exact absurd hb (by decide)
  · exact hescape.1.2 hb.symm
  · exact hescape.2.2 hb.symm

theorem units_flatMap_percentEncode (bs : List UInt8) (s : List Char) :
    units (bs.flatMap percentEncode ++ s) = bs.map (fun b ↦ [b]) ++ units s := by
  induction bs with
  | nil => rfl
  | cons b bs ih =>
    rw [List.flatMap_cons, List.append_assoc, List.map_cons, List.cons_append, ← ih]
    exact units_escape (escaped_hexUpper b) _

/-! ### Reading a quoted text back -/

theorem quote_cons (safe : List Char) (c : Char) (s : List Char) :
    quote safe (c :: s) = quoteChar safe c ++ quote safe s := rfl

theorem quoteChar_of_unreserved {c : Char} (h : isUnreserved c = true) (safe : List Char) :
    quoteChar safe c = [c] := by
  rw [quoteChar, h, Bool.true_or, if_pos rfl]

theorem quoteChar_of_mem {c : Char} {safe : List Char} (h : c ∈ safe) :
    quoteChar safe c = [c] := by
  rw [quoteChar, List.contains_iff_mem.2 h, Bool.or_true, if_pos rfl]

/-- A character is left alone, or it is escaped and neither a digit nor safe. -/
theorem quoteChar_cases (safe : List Char) (c : Char) :
    quoteChar safe c = [c] ∨
      (quoteChar safe c = (String.utf8EncodeChar c).flatMap percentEncode ∧ c ∉ safe ∧
        hexVal c = none) := by
  rcases h : isUnreserved c || safe.contains c with - | -
  · rw [Bool.or_eq_false_iff] at h
    refine Or.inr ⟨by rw [quoteChar, h.1, h.2]; rfl, fun hmem ↦ ?_, ?_⟩
    · rw [List.contains_iff_mem.2 hmem] at h
      exact absurd h.2 (by decide)
    · rcases hval : hexVal c with - | x
      · rfl
      · rw [isUnreserved_of_hexVal hval] at h
        exact absurd h.1 (by decide)
  · exact Or.inl (by rw [quoteChar, h]; rfl)

theorem hexPair_of_none {c : Char} (h : hexVal c = none) (s : List Char) :
    hexPair (c :: s) = none := by
  rcases s with - | ⟨d, s⟩
  · rfl
  · rw [hexPair, escaped, h]

/-- The first character of a quoted text is a digit exactly where that of the text is, and then it
is the same. -/
theorem plus_quote_cons (safe : List Char) (c : Char) (s : List Char) :
    ∃ e rest, plus (quote safe (c :: s)) = e :: rest ∧ hexVal e = hexVal c ∧
      ((hexVal c).isSome → e = c ∧ rest = plus (quote safe s)) := by
  rcases quoteChar_cases safe c with hc | ⟨hc, hsafe, hval⟩
  · rw [quote_cons, hc, List.singleton_append]
    rcases eq_or_ne c '+' with rfl | hne
    · exact ⟨' ', _, rfl, rfl, fun h ↦ absurd h (by decide)⟩
    · exact ⟨c, _, plus_cons_of_ne hne _, rfl, fun _ ↦ ⟨rfl, rfl⟩⟩
  · obtain ⟨b, bs, heq, -⟩ := Utf8.exists_utf8EncodeChar_eq_cons c
    rw [quote_cons, hc, plus_append, plus_flatMap_percentEncode, heq, List.flatMap_cons, hval]
    exact ⟨'%', _, rfl, rfl, fun h ↦ absurd h (by decide)⟩

theorem hexPair_plus_quote (safe s : List Char) : hexPair (plus (quote safe s)) = hexPair s := by
  rcases s with - | ⟨c, s⟩
  · rfl
  obtain ⟨e, rest, heq, hval, hsame⟩ := plus_quote_cons safe c s
  rw [heq]
  rcases hc : hexVal c with - | x
  · rw [hexPair_of_none hc, hexPair_of_none (hval.trans hc)]
  · obtain ⟨rfl, rfl⟩ := hsame (by rw [hc]; rfl)
    rcases s with - | ⟨d, s⟩
    · rfl
    · obtain ⟨f, rest', heq', hval', -⟩ := plus_quote_cons safe d s
      rw [heq']
      show escaped e f = escaped e d
      rw [escaped, escaped, hval']

theorem hexPair_plus (s : List Char) : hexPair (plus s) = hexPair s := by
  have hval : ∀ c : Char, hexVal (if c = '+' then ' ' else c) = hexVal c := by
    intro c
    split
    · rename_i hc
      rw [hc]
      rfl
    · rfl
  rcases s with - | ⟨a, - | ⟨b, s⟩⟩
  · rfl
  · rfl
  · show escaped _ _ = escaped a b
    rw [escaped, escaped, hval, hval]

theorem hasEscape_plus (s : List Char) : hasEscape (plus s) = hasEscape s := by
  induction s with
  | nil => rfl
  | cons c s ih =>
    rcases eq_or_ne c '+' with rfl | hc
    · exact ih
    · rw [plus_cons_of_ne hc, hasEscape, hasEscape, hexPair_plus, ih]

/-- **Quoting protects nothing that `quote` was told is safe**: with the percent sign and the plus
sign among the safe characters, a quoted text is read back as the text itself would be. -/
theorem unquote_plus_quote {safe : List Char} (hpercent : '%' ∈ safe) (hplus : '+' ∈ safe)
    (s : List Char) : unquote (plus (quote safe s)) = unquote (plus s) := by
  have hunits : (units (plus (quote safe s))).flatten = (units (plus s)).flatten := by
    induction s using unitInduction with
    | nil => rfl
    | escape a b x s hab ih =>
      obtain ⟨⟨ha, hane⟩, hb, hbne⟩ := of_escaped hab
      rw [quote_cons, quote_cons, quote_cons, quoteChar_of_mem hpercent,
        quoteChar_of_unreserved ha, quoteChar_of_unreserved hb]
      show (units (plus ('%' :: a :: b :: quote safe s))).flatten = _
      have hplus : ∀ t, plus ('%' :: a :: b :: t) = '%' :: a :: b :: plus t := by
        intro t
        rw [plus_cons_of_ne (by decide), plus_cons_of_ne hane, plus_cons_of_ne hbne]
      rw [hplus, hplus, units_escape hab, units_escape hab, List.flatten_cons, List.flatten_cons,
        ih]
    | percent s hs ih =>
      rw [quote_cons, quoteChar_of_mem hpercent, List.singleton_append,
        plus_cons_of_ne (by decide), plus_cons_of_ne (by decide),
        units_percent ((hexPair_plus_quote safe s).trans hs),
        units_percent ((hexPair_plus s).trans hs), List.flatten_cons, List.flatten_cons, ih]
    | char c s hc ih =>
      have hread : (if c = '+' then ' ' else c) ≠ '%' := by
        split
        · decide
        · exact hc
      rcases quoteChar_cases safe c with hquote | ⟨hquote, hsafe, -⟩
      · rw [quote_cons, hquote, List.singleton_append]
        show (units ((if c = '+' then ' ' else c) :: plus (quote safe s))).flatten =
          (units ((if c = '+' then ' ' else c) :: plus s)).flatten
        rw [units_cons_of_ne hread, units_cons_of_ne hread, List.flatten_cons, List.flatten_cons,
          ih]
      · have hne : c ≠ '+' := fun h ↦ hsafe (h ▸ hplus)
        rw [quote_cons, hquote, plus_append, plus_flatMap_percentEncode,
          units_flatMap_percentEncode, List.flatten_append, ih, plus_cons_of_ne hne,
          units_cons_of_ne hc, List.flatten_cons, ← List.flatMap_def, List.flatMap_singleton']
  rw [unquote, unquote, unquoteToBytes, unquoteToBytes, hunits]

/-- What is read back is no longer than the text, and shorter where the text has an escape. -/
theorem length_unquote_plus (s : List Char) :
    (unquote (plus s)).length ≤ s.length ∧
      (hasEscape s = true → (unquote (plus s)).length < s.length) := by
  have hle := length_unquote_le (plus s)
  have hunits := length_units (plus s)
  have hlength : (plus s).length = s.length := List.length_map _
  rw [hasEscape_plus, hlength] at hunits
  exact ⟨hle.trans hunits.1, fun h ↦ hle.trans_lt (hunits.2 h)⟩

/-- **A text is read back as it is exactly when it has no plus sign and no escape.** -/
theorem unquote_plus_eq_self_iff {s : List Char} :
    unquote (plus s) = s ↔ '+' ∉ s ∧ hasEscape s = false := by
  have hread : hasEscape s = false → unquote (plus s) = plus s := by
    intro h
    rw [unquote, unquoteToBytes, units_of_not_hasEscape ((hasEscape_plus s).trans h)]
    exact Utf8.decodeReplace_flatMap (plus s)
  constructor
  · intro h
    have hescape : hasEscape s = false := by
      rcases hs : hasEscape s with - | -
      · rfl
      · have hlt := (length_unquote_plus s).2 hs
        rw [h] at hlt
        exact absurd hlt (lt_irrefl _)
    exact ⟨plus_eq_self_iff.1 ((hread hescape).symm.trans h), hescape⟩
  · rintro ⟨hplus, hescape⟩
    exact (hread hescape).trans (plus_eq_self_iff.2 hplus)

/-! ### Query strings -/

/-- The query of a URL: from its first question mark up to its first number sign. -/
def queryOf (url : List Char) : List Char :=
  match PyStr.splitOnce ['?'] (url.takeWhile (· ≠ '#')) with
  | some (_, query) => query
  | none => []

/-- One field: its name, and its value, which is empty when there is no equals sign. -/
def parseField (nv : List Char) : String × String :=
  match PyStr.splitOnce ['='] nv with
  | some (name, value) =>
    (String.ofList (unquote (plus name)), String.ofList (unquote (plus value)))
  | none => (String.ofList (unquote (plus nv)), "")

/-- `parse_qsl(qs, keep_blank_values=True, max_num_fields=n)`, or `none` for `ValueError`. -/
def parseQsl (maxNumFields : ℕ) (qs : List Char) : Option (List (String × String)) :=
  if maxNumFields < 1 + qs.count '&' then none
  else some (((PyStr.splitOn '&' qs).filter (· ≠ [])).map parseField)

/-- A safe character that is no letter, digit or percent sign: quoting leaves it where it is and
adds no other. -/
structure IsDelimiter (safe : List Char) (d : Char) : Prop where
  mem : d ∈ safe
  not_unreserved : isUnreserved d = false
  ne_percent : d ≠ '%'

section Delimiter

variable {safe : List Char} {d : Char}

theorem IsDelimiter.eq_of_mem_quoteChar (hd : IsDelimiter safe d) {c : Char}
    (h : d ∈ quoteChar safe c) : d = c := by
  rcases quoteChar_cases safe c with hc | ⟨hc, -⟩
  · rw [hc] at h
    exact List.mem_singleton.1 h
  · have hnot := hd.not_unreserved
    rw [hc, List.mem_flatMap] at h
    obtain ⟨b, -, hb⟩ := h
    have hescape := of_escaped (escaped_hexUpper b)
    rw [percentEncode, List.mem_cons, List.mem_cons, List.mem_singleton] at hb
    rcases hb with hb | hb | hb
    · exact absurd hb hd.ne_percent
    · rw [hb, hescape.1.1] at hnot
      exact absurd hnot (by decide)
    · rw [hb, hescape.2.1] at hnot
      exact absurd hnot (by decide)

theorem IsDelimiter.mem_quote_iff (hd : IsDelimiter safe d) {s : List Char} :
    d ∈ quote safe s ↔ d ∈ s := by
  rw [quote, List.mem_flatMap]
  constructor
  · rintro ⟨c, hc, h⟩
    exact hd.eq_of_mem_quoteChar h ▸ hc
  · intro h
    refine ⟨d, h, ?_⟩
    rw [quoteChar_of_mem hd.mem]
    exact List.mem_singleton_self d

theorem IsDelimiter.quote_append_cons (hd : IsDelimiter safe d) (front rest : List Char) :
    quote safe (front ++ d :: rest) = quote safe front ++ d :: quote safe rest := by
  rw [quote, List.flatMap_append, List.flatMap_cons, quoteChar_of_mem hd.mem]
  rfl

theorem quote_eq_nil_iff {s : List Char} : quote safe s = [] ↔ s = [] := by
  rcases s with - | ⟨c, s⟩
  · exact Iff.rfl
  · have hne : quoteChar safe c ≠ [] := by
      rcases quoteChar_cases safe c with hc | ⟨hc, -⟩
      · rw [hc]
        exact List.cons_ne_nil c []
      · obtain ⟨b, bs, heq, -⟩ := Utf8.exists_utf8EncodeChar_eq_cons c
        rw [hc, heq]
        exact List.cons_ne_nil _ _
    rw [quote_cons, List.append_eq_nil_iff]
    exact ⟨fun h ↦ absurd h.1 hne, fun h ↦ absurd h (List.cons_ne_nil c s)⟩

/-- The pieces of a quoted text are the quoted pieces. -/
theorem IsDelimiter.splitOn_quote (hd : IsDelimiter safe d) (s : List Char) :
    PyStr.splitOn d (quote safe s) = (PyStr.splitOn d s).map (quote safe) := by
  induction hn : s.length using Nat.strong_induction_on generalizing s with
  | _ n ih =>
    by_cases hmem : d ∈ s
    · obtain ⟨front, rest, rfl, hfront⟩ := List.eq_append_cons_of_mem hmem
      rw [List.length_append, List.length_cons] at hn
      rw [hd.quote_append_cons, PyStr.splitOn_append_sep, PyStr.splitOn_append_sep, List.map_append,
        ih front.length (by omega) front rfl, ih rest.length (by omega) rest rfl]
    · rw [PyStr.splitOn_of_not_mem hmem,
        PyStr.splitOn_of_not_mem (fun h ↦ hmem (hd.mem_quote_iff.1 h))]
      rfl

theorem IsDelimiter.count_quote (hd : IsDelimiter safe d) (s : List Char) :
    (quote safe s).count d = s.count d := by
  have hlength := congrArg List.length (hd.splitOn_quote s)
  rw [List.length_map, PyStr.length_splitOn, PyStr.length_splitOn] at hlength
  exact Nat.succ.inj hlength

theorem IsDelimiter.splitOnce_quote (hd : IsDelimiter safe d) (s : List Char) :
    PyStr.splitOnce [d] (quote safe s) =
      (PyStr.splitOnce [d] s).map fun p ↦ (quote safe p.1, quote safe p.2) := by
  by_cases hmem : d ∈ s
  · obtain ⟨front, rest, rfl, hfront⟩ := List.eq_append_cons_of_mem hmem
    rw [hd.quote_append_cons, PyStr.splitOnce_append hfront,
      PyStr.splitOnce_append fun h ↦ hfront (hd.mem_quote_iff.1 h)]
    rfl
  · rw [PyStr.splitOnce_of_not_mem hmem,
      PyStr.splitOnce_of_not_mem (fun h ↦ hmem (hd.mem_quote_iff.1 h))]
    rfl

theorem IsDelimiter.takeWhile_quote (hd : IsDelimiter safe d) (s : List Char) :
    (quote safe s).takeWhile (· ≠ d) = quote safe (s.takeWhile (· ≠ d)) := by
  induction s with
  | nil => rfl
  | cons c s ih =>
    rcases eq_or_ne c d with rfl | hc
    · rw [quote_cons, quoteChar_of_mem hd.mem, List.singleton_append,
        List.takeWhile_cons_of_neg (by simp), List.takeWhile_cons_of_neg (by simp)]
      rfl
    · have hall : ∀ e ∈ quoteChar safe c, decide (e ≠ d) = true := by
        intro e he
        rw [decide_eq_true_eq]
        rintro rfl
        exact hc (hd.eq_of_mem_quoteChar he).symm
      rw [List.takeWhile_cons_of_pos (by simp [hc]), quote_cons, quote_cons,
        List.takeWhile_append_of_pos hall, ih]

theorem queryOf_quote (hnumber : IsDelimiter safe '#') (hquestion : IsDelimiter safe '?')
    (url : List Char) : queryOf (quote safe url) = quote safe (queryOf url) := by
  rw [queryOf, queryOf, hnumber.takeWhile_quote, hquestion.splitOnce_quote]
  rcases PyStr.splitOnce ['?'] (url.takeWhile (· ≠ '#')) with - | ⟨front, query⟩
  · rfl
  · rfl

end Delimiter

section Transparent

variable {safe : List Char} (hpercent : '%' ∈ safe) (hplus : '+' ∈ safe)
  (hequals : IsDelimiter safe '=') (hand : IsDelimiter safe '&')

include hpercent hplus hequals in
theorem parseField_quote (nv : List Char) : parseField (quote safe nv) = parseField nv := by
  rw [parseField, parseField, hequals.splitOnce_quote]
  rcases PyStr.splitOnce ['='] nv with - | ⟨name, value⟩
  · simp only [Option.map_none, unquote_plus_quote hpercent hplus]
  · simp only [Option.map_some, unquote_plus_quote hpercent hplus]

include hpercent hplus hequals hand in
/-- **A query string is read the same before and after quoting**, when all the characters the parser
looks for are safe. -/
theorem parseQsl_quote (maxNumFields : ℕ) (qs : List Char) :
    parseQsl maxNumFields (quote safe qs) = parseQsl maxNumFields qs := by
  have hfilter : ((PyStr.splitOn '&' qs).map (quote safe)).filter (· ≠ []) =
      ((PyStr.splitOn '&' qs).filter (· ≠ [])).map (quote safe) := by
    rw [List.filter_map]
    congr 1
    refine List.filter_congr fun nv _ ↦ ?_
    show decide (quote safe nv ≠ []) = decide (nv ≠ [])
    rw [decide_eq_decide, ne_eq, ne_eq, quote_eq_nil_iff]
  rw [parseQsl, parseQsl, hand.count_quote, hand.splitOn_quote, hfilter, List.map_map]
  simp only [Function.comp_def, parseField_quote hpercent hplus hequals]

end Transparent

/-- `iri_to_uri`: a URL that may hold any character, made ASCII. Everything that has a meaning in a
URL is safe. -/
def iriToUri (url : List Char) : List Char := quote "/#%[]=:;$&()+,!?*@'~".toList url

/-- **The conversion is transparent to the query parser.** -/
theorem parseQsl_queryOf_iriToUri (maxNumFields : ℕ) (url : List Char) :
    parseQsl maxNumFields (queryOf (iriToUri url)) = parseQsl maxNumFields (queryOf url) := by
  rw [iriToUri, queryOf_quote ⟨by decide, by decide, by decide⟩ ⟨by decide, by decide, by decide⟩]
  exact parseQsl_quote (by decide) (by decide) ⟨by decide, by decide, by decide⟩
    ⟨by decide, by decide, by decide⟩ maxNumFields (queryOf url)

/-! ### A value pasted into a query -/

/-- The value of a field is read from a part of it. -/
theorem exists_value_parseField (nv : List Char) :
    ∃ value, (parseField nv).2 = String.ofList (unquote (plus value)) ∧
      value.length ≤ nv.length := by
  rw [parseField]
  by_cases hmem : '=' ∈ nv
  · obtain ⟨name, value, rfl, hname⟩ := List.eq_append_cons_of_mem hmem
    rw [PyStr.splitOnce_append hname]
    refine ⟨value, rfl, ?_⟩
    rw [List.length_append, List.length_cons]
    omega
  · rw [PyStr.splitOnce_of_not_mem hmem]
    exact ⟨[], rfl, Nat.zero_le _⟩

section Pasted

variable {name : List Char} (hequals : '=' ∉ name) (hand : '&' ∉ name)

include hequals in
theorem parseField_append (value : List Char) :
    parseField (name ++ '=' :: value) =
      (String.ofList (unquote (plus name)), String.ofList (unquote (plus value))) := by
  rw [parseField, PyStr.splitOnce_append hequals]

include hand in
/-- The ampersands of a pasted text are those of its value. -/
theorem and_not_mem_pasted {value : List Char} (hvalue : '&' ∉ value) :
    '&' ∉ name ++ '=' :: value := by
  rw [List.mem_append, List.mem_cons]
  rintro (h | h | h)
  · exact hand h
  · exact absurd h (by decide)
  · exact hvalue h

include hequals hand in
/-- A value without an ampersand is one field. -/
theorem parseQsl_of_not_mem {value : List Char} (hvalue : '&' ∉ value) {maxNumFields : ℕ}
    (hmax : 0 < maxNumFields) :
    parseQsl maxNumFields (name ++ '=' :: value) =
      some [(String.ofList (unquote (plus name)), String.ofList (unquote (plus value)))] := by
  have hmem := and_not_mem_pasted hand hvalue
  rw [parseQsl, List.count_eq_zero.2 hmem, if_neg (by omega), PyStr.splitOn_of_not_mem hmem,
    List.filter_cons_of_pos (by simp), List.filter_nil, List.map_singleton,
    parseField_append hequals]

include hequals hand in
/-- **Every value of the query is read from the pasted text**, from all of it when it has no
ampersand, and from less of it when it has one. -/
theorem exists_value_of_mem_parseQsl {value : List Char} {maxNumFields : ℕ}
    {fields : List (String × String)}
    (hparse : parseQsl maxNumFields (name ++ '=' :: value) = some fields) {field : String × String}
    (hfield : field ∈ fields) :
    ∃ part, field.2 = String.ofList (unquote (plus part)) ∧ part.length ≤ value.length ∧
      (part.length = value.length → '&' ∉ value ∧ part = value) := by
  by_cases hmem : '&' ∈ value
  · obtain ⟨front, rest, rfl, hfront⟩ := List.eq_append_cons_of_mem hmem
    have hmem' := and_not_mem_pasted hand hfront
    have hassoc : name ++ '=' :: (front ++ '&' :: rest) =
        (name ++ '=' :: front) ++ '&' :: rest := by
      rw [List.append_assoc]
      rfl
    have hlength : (front ++ '&' :: rest).length = front.length + (rest.length + 1) := by
      rw [List.length_append, List.length_cons]
    rw [parseQsl] at hparse
    split_ifs at hparse
    obtain rfl := Option.some.inj hparse
    obtain ⟨nv, hnv, rfl⟩ := List.mem_map.1 hfield
    have hpiece := (List.mem_filter.1 hnv).1
    rw [hassoc, PyStr.splitOn_append_sep, PyStr.splitOn_of_not_mem hmem', List.singleton_append,
      List.mem_cons] at hpiece
    rcases hpiece with rfl | hpiece
    · refine ⟨front, ?_, by omega, fun h ↦ by omega⟩
      rw [parseField_append hequals]
    · obtain ⟨part, hpart, hle⟩ := exists_value_parseField nv
      have hnvle := PyStr.length_le_of_mem_splitOn hpiece
      exact ⟨part, hpart, by omega, fun h ↦ by omega⟩
  · rcases Nat.eq_zero_or_pos maxNumFields with rfl | hmax
    · rw [parseQsl, if_pos (by omega)] at hparse
      cases hparse
    · rw [parseQsl_of_not_mem hequals hand hmem hmax] at hparse
      obtain rfl := Option.some.inj hparse
      rw [List.mem_singleton.1 hfield]
      exact ⟨value, rfl, Nat.le_refl _, fun _ ↦ ⟨hmem, rfl⟩⟩

end Pasted

end UrlQuery
