import DjangoWaf.Lib.UnicodeCase
import Mathlib.Algebra.Order.Ring.Nat
import Mathlib.Data.List.DropRight
import Mathlib.Data.List.Infix
import Mathlib.Data.Rat.Defs

/-!
# Strings and numbers, as Python reads them

The few built-in operations the modelled code calls on text. Lower case and white space are those of
all characters. Upper case is asked for methods only, which are latin-1, one character per byte.

Prefixes and substrings are decided on the character lists.
-/

/-- What is to hold of the characters of a text is decided character by character, and not over all
characters there are. -/
instance (priority := 2000) decidableForallMemChar (cs : List Char) (p : Char → Prop)
    [DecidablePred p] : Decidable (∀ c ∈ cs, p c) :=
  List.decidableBAll p cs

namespace PyStr

/-- `s.startswith(p)`. -/
def startsWith (s p : String) : Bool := p.toList.isPrefixOf s.toList

/-- `p in s`. -/
def contains (s p : String) : Bool := s.toList.tails.any p.toList.isPrefixOf

theorem contains_iff {s p : String} : contains s p = true ↔ p.toList <:+: s.toList := by
  rw [contains, List.any_eq_true, List.infix_iff_prefix_suffix]
  simp only [List.mem_tails, List.isPrefixOf_iff_prefix, and_comm]

/-- `c.isspace()`. -/
def isSpaceChar (c : Char) : Bool :=
  let n := c.toNat
  (9 ≤ n && n ≤ 13) || (28 ≤ n && n ≤ 32) || n == 0x85 || n == 0xA0 || n == 0x1680 ||
    (0x2000 ≤ n && n ≤ 0x200A) || n == 0x2028 || n == 0x2029 || n == 0x202F || n == 0x205F ||
    n == 0x3000

/-- `s.strip()`. -/
def stripText (s : String) : String :=
  String.ofList ((s.toList.dropWhile isSpaceChar).reverse.dropWhile isSpaceChar).reverse

/-- A stripped text starts with no white space. -/
theorem isSpaceChar_of_head?_stripText {s : String} {c : Char}
    (hc : c ∈ (stripText s).toList.head?) : isSpaceChar c = false := by
  rw [stripText, String.toList_ofList] at hc
  have hprefix : ((s.toList.dropWhile isSpaceChar).reverse.dropWhile isSpaceChar).reverse <+:
      s.toList.dropWhile isSpaceChar := List.rdropWhile_prefix isSpaceChar _
  have hhead : c ∈ (s.toList.dropWhile isSpaceChar).head? := by
    obtain ⟨t, ht⟩ := hprefix
    rw [← ht, Option.mem_def, List.head?_append, hc]
    rfl
  have hnot := List.head?_dropWhile_not isSpaceChar s.toList
  rw [hhead] at hnot
  exact hnot

theorem stripText_infix (s : String) : (stripText s).toList <:+: s.toList := by
  rw [stripText, String.toList_ofList]
  exact (List.rdropWhile_prefix isSpaceChar _).isInfix.trans
    (List.dropWhile_suffix isSpaceChar).isInfix

/-- A text without white space is its own stripped form. -/
theorem stripText_of_not_space {s : String} (h : ∀ c ∈ s.toList, isSpaceChar c = false) :
    stripText s = s := by
  have hdrop : ∀ l : List Char, (∀ c ∈ l, isSpaceChar c = false) → l.dropWhile isSpaceChar = l := by
    intro l hl
    rcases l with - | ⟨c, l⟩
    · rfl
    · rw [List.dropWhile_cons_of_neg (by simp [hl c List.mem_cons_self])]
  rw [stripText, hdrop _ h, hdrop _ fun c hc ↦ h c (List.mem_reverse.1 hc), List.reverse_reverse,
    String.ofList_toList]

/-- The characters `re.escape` puts a backslash before. -/
def isReSpecial (c : Char) : Bool :=
  "()[]\x7b\x7d?*+-|^$\\.&~# \t\n\r\x0b\x0c".toList.contains c

/-- `re.escape`, on the characters of a text. -/
def escapeChars (cs : List Char) : List Char :=
  cs.flatMap fun c ↦ if isReSpecial c then ['\\', c] else [c]

/-- `re.escape(s)`. -/
def reEscape (s : String) : String := String.ofList (escapeChars s.toList)

@[simp] theorem escapeChars_nil : escapeChars [] = [] := rfl

theorem escapeChars_cons (c : Char) (cs : List Char) :
    escapeChars (c :: cs) = (if isReSpecial c then ['\\', c] else [c]) ++ escapeChars cs := rfl

theorem isReSpecial_backslash : isReSpecial '\\' = true := by decide +kernel

theorem isReSpecial_quote : isReSpecial '"' = false := by decide +kernel

/-- The text an expression of escaped characters spells. The first argument says whether the
character before was a backslash that counts. -/
def reUnescape : Bool → List Char → List Char
  | _, [] => []
  | true, c :: cs => c :: reUnescape false cs
  | false, c :: cs => if c = '\\' then reUnescape true cs else c :: reUnescape false cs

theorem reUnescape_escapeChars (cs : List Char) : reUnescape false (escapeChars cs) = cs := by
  induction cs with
  | nil => rfl
  | cons c cs ih =>
    rw [escapeChars_cons]
    by_cases hc : isReSpecial c = true
    · simp [hc, reUnescape, ih]
    · have hbackslash : c ≠ '\\' := fun h ↦ hc (h ▸ isReSpecial_backslash)
      rw [if_neg hc, List.singleton_append, reUnescape, if_neg hbackslash, ih]

/-- The lower case of a character that is no capital sigma. -/
def lowerChars (c : Char) : List Char :=
  if c.toNat = 0x130 then ['i', Char.ofNat 0x307] else [Char.ofNat (Unicode.lowerNat c.toNat)]

/-- A cased character comes next, behind those that case ignores. -/
def casedNext (cs : List Char) : Bool :=
  (cs.dropWhile fun c ↦ Unicode.inRanges Unicode.caseIgnorableRanges c.toNat).head?.any fun c ↦
    Unicode.inRanges Unicode.casedRanges c.toNat

/-- The lower case of a character between others; those before it come last first. A capital sigma
at the end of a word is a final one. -/
def lowerAt (before : List Char) (c : Char) (after : List Char) : List Char :=
  if c.toNat = 0x3A3 then
    [Char.ofNat (if casedNext before && !casedNext after then 0x3C2 else 0x3C3)]
  else lowerChars c

/-- The lower case of characters behind others. -/
def lowerFrom (before : List Char) : List Char → List Char
  | [] => []
  | c :: cs => lowerAt before c cs ++ lowerFrom (c :: before) cs

/-- `s.lower()`, on the characters of a text. -/
def lowerList (cs : List Char) : List Char := lowerFrom [] cs

/-- `s.lower()`. -/
def lower (s : String) : String := String.ofList (lowerList s.toList)

/-- A character as `re.IGNORECASE` compares it with an ASCII letter. -/
def reLower (c : Char) : Char :=
  if c.toNat = 0x130 ∨ c.toNat = 0x131 then 'i'
  else if c.toNat = 0x17F then 's'
  else Char.ofNat (Unicode.lowerNat c.toNat)

/-- Lower case leaves the character alone, and makes it of no other. -/
def isCaseless (c : Char) : Bool :=
  Unicode.caseless c.toNat && !([0, 0x130, 0x307, 0x3C2].contains c.toNat)

theorem toNat_ofNat {n : ℕ} (h : n < 0xD800) : (Char.ofNat n).toNat = n := by
  rw [Char.ofNat, dif_pos (Or.inl h)]
  rfl

/-- A number that is no character is read as zero. -/
theorem toNat_ofNat_cases (n : ℕ) : (Char.ofNat n).toNat = n ∨ (Char.ofNat n).toNat = 0 := by
  by_cases h : n.isValidChar
  · rw [Char.ofNat, dif_pos h]
    exact .inl rfl
  · rw [Char.ofNat, dif_neg h]
    exact .inr rfl

section

variable {c d : Char} {before after l text : List Char}

theorem length_lowerAt (before : List Char) (c : Char) (after : List Char) :
    (lowerAt before c after).length = 1 + if c.toNat = 0x130 then 1 else 0 := by
  rw [lowerAt, lowerChars]
  split
  · rename_i h
    have hne : c.toNat ≠ 0x130 := fun h' ↦ absurd (h.symm.trans h') (by decide)
    rw [if_neg hne]
    rfl
  · split <;> rfl

theorem length_lowerFrom (before l : List Char) :
    (lowerFrom before l).length = l.length + l.countP fun c ↦ c.toNat = 0x130 := by
  induction l generalizing before with
  | nil => rfl
  | cons c l ih =>
    rw [lowerFrom, List.length_append, length_lowerAt, ih, List.length_cons, List.countP_cons]
    simp only [decide_eq_true_eq]
    omega

theorem lowerAt_of_isCaseless (hc : isCaseless c = true) (before after : List Char) :
    lowerAt before c after = [c] := by
  simp only [isCaseless, Unicode.caseless, Bool.and_eq_true, beq_iff_eq, Bool.not_eq_true',
    List.contains_eq_mem, decide_eq_false_iff_not, List.mem_cons, not_or] at hc
  obtain ⟨⟨⟨hlower, -⟩, -⟩, -, hdot, -⟩ := hc
  have hsigma : c.toNat ≠ 0x3A3 := fun h ↦ by
    rw [h] at hlower
    exact absurd hlower (by decide +kernel)
  rw [lowerAt, if_neg hsigma, lowerChars, if_neg hdot, hlower, Char.ofNat_toNat]

/-- **A caseless character** is in the lower case of itself alone. -/
theorem eq_of_mem_lowerAt (hc : isCaseless c = true) (h : c ∈ lowerAt before d after) : d = c := by
  simp only [isCaseless, Bool.and_eq_true, Bool.not_eq_true', List.contains_eq_mem,
    decide_eq_false_iff_not, List.mem_cons, List.not_mem_nil, or_false, not_or] at hc
  obtain ⟨hcaseless, hzero, -, hdot, hfinal⟩ := hc
  have hne : ∀ n, Unicode.caseless n = false → c.toNat ≠ n := by
    intro n hn h
    rw [h, hn] at hcaseless
    cases hcaseless
  rw [lowerAt] at h
  split at h
  · rw [List.mem_singleton] at h
    split at h
    · exact absurd (h ▸ toNat_ofNat (by decide)) hfinal
    · exact absurd (h ▸ toNat_ofNat (by decide)) (hne 0x3C3 (by decide +kernel))
  rw [lowerChars] at h
  split at h
  · rcases List.mem_pair.1 h with h | h
    · exact absurd (congrArg Char.toNat h) (hne 0x69 (by decide +kernel))
    · exact absurd (h ▸ toNat_ofNat (by decide)) hdot
  · rw [List.mem_singleton] at h
    rcases toNat_ofNat_cases (Unicode.lowerNat d.toNat) with hd | hd
    · rw [← h] at hd
      exact Char.toNat_inj.1 (Unicode.eq_of_lowerNat_eq hcaseless hd.symm)
    · rw [← h] at hd
      exact absurd hd hzero

/-- **A text of caseless characters** is the lower case of itself alone. -/
theorem eq_of_lowerFrom_eq (hl : ∀ c ∈ l, isCaseless c = true) (h : lowerFrom before text = l) :
    text = l := by
  induction text generalizing before l with
  | nil => exact h
  | cons d text ih =>
    rw [lowerFrom] at h
    rcases hat : lowerAt before d text with - | ⟨c, rest⟩
    · have hlength := length_lowerAt before d text
      rw [hat, List.length_nil] at hlength
      omega
    have hmem : c ∈ lowerAt before d text := hat ▸ List.mem_cons_self
    have hc : isCaseless c = true := hl c (h ▸ List.mem_append_left _ hmem)
    have hdc := eq_of_mem_lowerAt hc hmem
    rw [hdc, lowerAt_of_isCaseless hc, List.singleton_append] at h
    rw [← h] at hl
    exact (congrArg₂ List.cons hdc (ih (List.forall_mem_cons.1 hl).2 rfl)).trans h

theorem lowerFrom_of_isCaseless (hl : ∀ c ∈ l, isCaseless c = true) : lowerFrom before l = l := by
  induction l generalizing before with
  | nil => rfl
  | cons c l ih =>
    obtain ⟨hc, hl⟩ := List.forall_mem_cons.1 hl
    rw [lowerFrom, lowerAt_of_isCaseless hc, ih hl, List.singleton_append]

theorem count_lowerFrom (hc : isCaseless c = true) (before l : List Char) :
    (lowerFrom before l).count c = l.count c := by
  induction l generalizing before with
  | nil => rfl
  | cons d l ih =>
    rw [lowerFrom, List.count_append, ih]
    by_cases hd : d = c
    · rw [hd, lowerAt_of_isCaseless hc, List.count_cons_self, List.count_cons_self,
        List.count_nil, Nat.zero_add, Nat.add_comm]
    · have hnone : c ∉ lowerAt before d l := fun h ↦ hd (eq_of_mem_lowerAt hc h)
      rw [List.count_eq_zero.2 hnone, List.count_cons_of_ne hd, Nat.zero_add]

/-- A blank behind a text ends its last word, as the end of the text does. -/
theorem lowerFrom_append_blank (before l : List Char) :
    lowerFrom before (l ++ [' ']) = lowerFrom before l ++ [' '] := by
  have hnext : ∀ l : List Char, casedNext (l ++ [' ']) = casedNext l := by
    intro l
    rw [casedNext, casedNext, List.dropWhile_append]
    split
    · rename_i h
      rw [List.isEmpty_iff.1 h]
      decide +kernel
    · rename_i h
      rw [List.head?_append_of_ne_nil _ (by simpa using h)]
  induction l generalizing before with
  | nil =>
    have hblank : isCaseless ' ' = true := by decide +kernel
    show lowerAt before ' ' [] ++ lowerFrom (' ' :: before) [] = _
    rw [lowerAt_of_isCaseless hblank]
    rfl
  | cons c l ih =>
    rw [List.cons_append, lowerFrom, lowerFrom, ih, List.append_assoc, lowerAt, lowerAt, hnext]

end

/-- `c.upper()`, for one latin-1 character: the sharp s becomes two letters, and the micro sign and
the y with diaeresis leave the latin-1 range. -/
def upperChar (c : Char) : List Char :=
  let n := c.toNat
  if n == 0xDF then ['S', 'S']
  else if n == 0xB5 then [Char.ofNat 0x39C]
  else if n == 0xFF then [Char.ofNat 0x178]
  else if (97 ≤ n && n ≤ 122) || (0xE0 ≤ n && n ≤ 0xFE && n != 0xF7) then [Char.ofNat (n - 32)]
  else [c]

/-- `s.upper()`. -/
def upper (s : String) : String := String.ofList (s.toList.flatMap upperChar)

/-- `s.split(sep, 1)` for a separator that occurs: what stands before its first occurrence and what
stands after it. -/
def splitOnce (sep : List Char) : List Char → Option (List Char × List Char)
  | [] => none
  | c :: cs =>
    if sep.isPrefixOf (c :: cs) then some ([], (c :: cs).drop sep.length)
    else (splitOnce sep cs).map fun p ↦ (c :: p.1, p.2)

/-- A piece without the separator is what stands before its first occurrence. -/
theorem splitOnce_append {sep : Char} {front : List Char} (h : sep ∉ front) (rest : List Char) :
    splitOnce [sep] (front ++ sep :: rest) = some (front, rest) := by
  induction front with
  | nil =>
    rw [List.nil_append, splitOnce, if_pos (by simp)]
    rfl
  | cons c front ih =>
    have hne : sep ≠ c := fun hc ↦ h (hc ▸ List.mem_cons_self)
    have hpre : [sep].isPrefixOf (c :: (front ++ sep :: rest)) = false := by
      rw [List.isPrefixOf_cons_cons, beq_eq_false_iff_ne.2 hne, Bool.false_and]
    rw [List.cons_append, splitOnce, hpre, if_neg Bool.false_ne_true,
      ih fun hmem ↦ h (List.mem_cons_of_mem c hmem)]
    rfl

theorem splitOnce_of_not_mem {sep : Char} {s : List Char} (h : sep ∉ s) :
    splitOnce [sep] s = none := by
  induction s with
  | nil => rfl
  | cons c cs ih =>
    have hne : sep ≠ c := fun hc ↦ h (hc ▸ List.mem_cons_self)
    have hpre : [sep].isPrefixOf (c :: cs) = false := by
      rw [List.isPrefixOf_cons_cons, beq_eq_false_iff_ne.2 hne, Bool.false_and]
    rw [splitOnce, hpre, if_neg Bool.false_ne_true,
      ih fun hmem ↦ h (List.mem_cons_of_mem c hmem)]
    rfl

/-- `s.split(sep)` for a one-character separator. -/
def splitOn (sep : Char) : List Char → List (List Char)
  | [] => [[]]
  | c :: cs =>
    if c = sep then [] :: splitOn sep cs
    else
      match splitOn sep cs with
      | [] => [[c]]
      | h :: t => (c :: h) :: t

/-- The pieces are those of the library's splitting of lists. -/
theorem splitOn_eq (sep : Char) (s : List Char) : splitOn sep s = s.splitOn sep := by
  induction s with
  | nil => simp [splitOn]
  | cons c cs ih =>
    rw [splitOn, List.splitOn_cons_eq_if_modifyHead, ih]
    by_cases hc : c = sep
    · rw [if_pos hc, if_pos (beq_iff_eq.2 hc)]
    · rw [if_neg hc, if_neg (fun h ↦ hc (beq_iff_eq.1 h))]
      rcases hs : cs.splitOn sep with - | ⟨h, t⟩
      · exact absurd hs (List.splitOn_ne_nil sep cs)
      · rfl

theorem splitOn_ne_nil (sep : Char) (s : List Char) : splitOn sep s ≠ [] := by
  rw [splitOn_eq]
  exact List.splitOn_ne_nil sep s

/-- Splitting distributes over a separator: the pieces in front of it and the pieces behind it. -/
theorem splitOn_append_sep (sep : Char) (s t : List Char) :
    splitOn sep (s ++ sep :: t) = splitOn sep s ++ splitOn sep t := by
  rw [splitOn_eq, splitOn_eq, splitOn_eq]
  exact List.splitOn_append_cons_self s t

/-- A text without the separator is one piece. -/
theorem splitOn_of_not_mem {sep : Char} {s : List Char} (h : sep ∉ s) : splitOn sep s = [s] := by
  rw [splitOn_eq]
  exact List.splitOn_eq_singleton h

theorem length_le_of_mem_splitOn {sep : Char} {s p : List Char} (h : p ∈ splitOn sep s) :
    p.length ≤ s.length := by
  induction s generalizing p with
  | nil =>
    rw [List.mem_singleton.1 h]
  | cons c cs ih =>
    rw [splitOn] at h
    split at h
    · rcases List.mem_cons.1 h with rfl | h
      · exact Nat.zero_le _
      · exact (ih h).trans (Nat.le_succ _)
    · rcases hs : splitOn sep cs with - | ⟨q, qs⟩
      · exact absurd hs (splitOn_ne_nil sep cs)
      · rw [hs] at h ih
        rcases List.mem_cons.1 h with rfl | h
        · exact Nat.succ_le_succ (ih List.mem_cons_self)
        · exact (ih (List.mem_cons_of_mem q h)).trans (Nat.le_succ _)

/-- A text has one piece more than it has separators. -/
theorem length_splitOn (sep : Char) (s : List Char) : (splitOn sep s).length = s.count sep + 1 := by
  induction s with
  | nil => rfl
  | cons c cs ih =>
    rw [splitOn]
    split_ifs with hc
    · rw [hc, List.length_cons, ih, List.count_cons_self]
    · rw [List.count_cons_of_ne hc, ← ih]
      rcases hs : splitOn sep cs with - | ⟨h, t⟩
      · exact absurd hs (splitOn_ne_nil sep cs)
      · rfl

/-- `sep.join(parts)` for a one-character separator. -/
def join (sep : Char) (parts : List (List Char)) : List Char := [sep].intercalate parts

theorem join_cons_cons (sep : Char) (p q : List Char) (rest : List (List Char)) :
    join sep (p :: q :: rest) = p ++ sep :: join sep (q :: rest) := by
  rw [join, List.intercalate_cons_cons, List.append_assoc]
  rfl

theorem join_singleton (sep : Char) (p : List Char) : join sep [p] = p := by
  rw [join, List.intercalate_singleton]

theorem splitOn_join {sep : Char} {parts : List (List Char)} (hne : parts ≠ [])
    (h : ∀ p ∈ parts, sep ∉ p) : splitOn sep (join sep parts) = parts := by
  rw [splitOn_eq]
  exact List.splitOn_intercalate sep h hne

/-- The separators of a joined text: those between the parts and those inside them. -/
theorem count_join (sep : Char) (p : List Char) (rest : List (List Char)) :
    (join sep (p :: rest)).count sep = ((p :: rest).map (List.count sep)).sum + rest.length := by
  induction rest generalizing p with
  | nil => simp [join_singleton]
  | cons q rest ih =>
    rw [join_cons_cons, List.count_append, List.count_cons_self, ih]
    simp only [List.map_cons, List.sum_cons, List.length_cons]
    omega

/-- Parts that are split into as many pieces are these pieces. -/
theorem splitOn_join_of_length {sep : Char} {p : List Char} {rest : List (List Char)}
    (h : (splitOn sep (join sep (p :: rest))).length = (p :: rest).length) :
    splitOn sep (join sep (p :: rest)) = p :: rest := by
  rw [length_splitOn, count_join, List.length_cons] at h
  have hsum : ((p :: rest).map (List.count sep)).sum = 0 := by omega
  rw [List.sum_eq_zero_iff_forall_eq_nat] at hsum
  refine splitOn_join (List.cons_ne_nil p rest) fun f hf ↦ ?_
  exact List.count_eq_zero.1 (hsum _ (List.mem_map_of_mem hf))

/-- The value of one decimal digit, `\d` on latin-1 text being the ASCII digits. -/
def isDigit (c : Char) : Bool := '0' ≤ c && c ≤ '9'

/-- The number a run of digits spells. -/
def ofDigits (ds : List Char) : ℕ := ds.foldl (fun n c ↦ 10 * n + (c.toNat - 48)) 0

/-- `int(x)` of a float: towards zero. -/
def truncate (q : ℚ) : ℤ := q.num.tdiv q.den

theorem truncate_eq_floor {q : ℚ} (hq : 0 ≤ q) : truncate q = q.floor := by
  rw [truncate, Int.tdiv_eq_ediv_of_nonneg (Rat.num_nonneg.2 hq), Rat.floor_def]

theorem truncate_le {q : ℚ} (hq : 0 ≤ q) : (truncate q : ℚ) ≤ q := by
  rw [truncate_eq_floor hq]
  exact Rat.floor_le q

/-! ### Fixed patterns

The pieces the package's own regular expressions are made of, on latin-1 text: literals and one
character classes, an alternative of literals, and `.*` between two of them. A matcher answers what
it captured, or what it left over. -/

/-- `c` is matched by `\w`. -/
def isWord (c : Char) : Bool :=
  let n := c.toNat
  isDigit c || ('a' ≤ c && c ≤ 'z') || ('A' ≤ c && c ≤ 'Z') || c == '_' || n == 0xAA || n == 0xB2 ||
    n == 0xB3 || n == 0xB5 || n == 0xB9 || n == 0xBA || (0xBC ≤ n && n ≤ 0xBE) ||
    (0xC0 ≤ n && n ≤ 0xFF && n != 0xD7 && n != 0xF7)

/-- A literal of ASCII characters at the head of a text, ignoring case: what follows it. -/
def literal (lit : String) (s : List Char) : Option (List Char) :=
  if lit.toList.map reLower = (s.take lit.toList.length).map reLower then
    some (s.drop lit.toList.length)
  else none

/-- One of several literals at the head of a text, ignoring case. -/
def literals (lits : List String) (s : List Char) : Option (List Char) :=
  lits.findSome? fun lit ↦ literal lit s

/-- One character of a class at the head of a text: what follows it. -/
def oneOf (p : Char → Bool) : List Char → Option (List Char)
  | [] => none
  | c :: cs => if p c then some cs else none

/-- `pattern.search(s)`: the answer of a matcher at the first place it succeeds. -/
def search {α : Type*} (p : List Char → Option α) (s : List Char) : Option α := s.tails.findSome? p

/-- `.*` and then a matcher: it succeeds here or further on in the same line. -/
def gap {α : Type*} (p : List Char → Option α) : List Char → Option α
  | [] => p []
  | c :: cs => (p (c :: cs)).or (if c = '\n' then none else gap p cs)

end PyStr
