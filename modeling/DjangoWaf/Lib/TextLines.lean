import DjangoWaf.Lib.PyStr
import DjangoWaf.Lib.Utf8

/-!
# The lines of a text file

`for line in open(path, errors="replace")`: the bytes are decoded as UTF-8 with replacement, the
three line endings are one, and what stands behind the last of them is a line unless it is empty.
A line is given without its ending.

**Growing files.** The pieces of a file between its newline bytes are decoded one by one
(`filter_fileLines`), and where a file grows only the piece that was its last one changes
(`splitOnP_append`). So what a reader does with a file that grew is settled by three pieces: the
unfinished end of the old file, the head of the new part, and the two together.
-/

namespace TextLines

/-! ### Pieces between separators -/

section Pieces

variable {α : Type*} (p : α → Bool)

/-- What stands in front of the first separator. -/
def headPiece (l : List α) : List α := l.takeWhile fun a ↦ !p a

/-- What stands behind the last separator. -/
def lastPiece (l : List α) : List α := l.rtakeWhile fun a ↦ !p a

theorem headPiece_cons (a : α) (l : List α) :
    headPiece p (a :: l) = if p a then [] else a :: headPiece p l := by
  rw [headPiece, List.takeWhile_cons]
  rcases p a with - | -
  · rfl
  · rfl

theorem lastPiece_concat (l : List α) (a : α) :
    lastPiece p (l ++ [a]) = if p a then [] else lastPiece p l ++ [a] := by
  rw [lastPiece, List.rtakeWhile_concat]
  rcases p a with - | -
  · rfl
  · rfl

theorem splitOnP_eq_headPiece_cons (l : List α) :
    ∃ later, l.splitOnP p = headPiece p l :: later := by
  induction l with
  | nil => exact ⟨[], rfl⟩
  | cons a l ih =>
    obtain ⟨later, ih⟩ := ih
    rw [List.splitOnP_cons_eq_if_modifyHead, headPiece_cons, ih]
    rcases p a with - | -
    · exact ⟨later, rfl⟩
    · exact ⟨_, rfl⟩

/-- **Only the last piece of a list changes when the list grows**, and it grows by the head of what
was appended. -/
theorem splitOnP_append (l l' : List α) : ∃ before later,
    l.splitOnP p = before ++ [lastPiece p l] ∧ l'.splitOnP p = headPiece p l' :: later ∧
      (l ++ l').splitOnP p = before ++ (lastPiece p l ++ headPiece p l') :: later := by
  induction l using List.reverseRecOn generalizing l' with
  | nil =>
    obtain ⟨later, hlater⟩ := splitOnP_eq_headPiece_cons p l'
    exact ⟨[], later, rfl, hlater, hlater⟩
  | append_singleton l a ih =>
    obtain ⟨later, hlater⟩ := splitOnP_eq_headPiece_cons p l'
    rw [List.append_assoc, List.singleton_append, lastPiece_concat]
    rcases ha : p a with - | -
    · have hcons : ∀ m, (a :: m).splitOnP p = (m.splitOnP p).modifyHead (List.cons a) := by
        intro m
        rw [List.splitOnP_cons_eq_if_modifyHead, ha]
        rfl
      obtain ⟨before, later₁, hl, hl', happend⟩ := ih (a :: l')
      obtain ⟨before₂, later₂, hl₂, hone, happend₂⟩ := ih [a]
      -- the pieces in front of the last one do not depend on what follows
      obtain ⟨rfl, -⟩ := List.append_inj' (hl.symm.trans hl₂) rfl
      rw [headPiece_cons, ha] at hl' happend hone happend₂
      rw [hcons, hlater] at hl'
      rw [hcons] at hone
      obtain rfl := (List.cons.inj hl').2
      obtain rfl := (List.cons.inj hone).2
      refine ⟨before, later, happend₂, hlater, ?_⟩
      rw [happend, if_neg (by decide), if_neg (by decide), List.append_assoc]
      rfl
    · refine ⟨l.splitOnP p, later, ?_, hlater, ?_⟩
      · exact List.splitOnP_append_cons l [] ha
      · rw [List.splitOnP_append_cons l l' ha, hlater]
        rfl

end Pieces

/-! ### Newlines -/

/-- A character of a line ending. -/
def isNewline (c : Char) : Bool := c == '\n' || c == '\r'

/-- A byte of a line ending. -/
def isNewlineByte (b : UInt8) : Bool := b.toNat == 10 || b.toNat == 13

/-- Every line ending becomes `\n`. -/
def universalNewlines : List Char → List Char
  | [] => []
  | c :: cs =>
    if c = '\r' then
      if cs.head? = some '\n' then universalNewlines cs else '\n' :: universalNewlines cs
    else c :: universalNewlines cs

/-- The lines of a text. -/
def lines (s : List Char) : List (List Char) :=
  let pieces := PyStr.splitOn '\n' (universalNewlines s)
  if pieces.getLast? = some [] then pieces.dropLast else pieces

/-- The lines of a file. -/
def fileLines (bs : List UInt8) : List (List Char) := lines (Utf8.decodeReplace bs)

/-- The pieces of a text with universal newlines are its own pieces, but for empty ones behind the
first. -/
theorem splitOn_universalNewlines {q : List Char → Bool} (hq : q [] = false) (s : List Char) :
    ∃ piece later later', PyStr.splitOn '\n' (universalNewlines s) = piece :: later ∧
      s.splitOnP isNewline = piece :: later' ∧ later.filter q = later'.filter q := by
  induction s with
  | nil => exact ⟨[], [], [], rfl, rfl, rfl⟩
  | cons c s ih =>
    obtain ⟨piece, later, later', hun, hs, heq⟩ := ih
    have hfilter : (piece :: later).filter q = (piece :: later').filter q := by
      rw [List.filter_cons, List.filter_cons, heq]
    rw [List.splitOnP_cons_eq_if_modifyHead, universalNewlines, hs]
    rcases eq_or_ne c '\r' with rfl | hreturn
    · have hnewline : isNewline '\r' = true := rfl
      rw [if_pos rfl, if_pos hnewline]
      by_cases hhead : s.head? = some '\n'
      · -- the ending has two characters, and the piece between them is empty
        obtain ⟨s, rfl⟩ : ∃ s', s = '\n' :: s' := by
          rcases s with - | ⟨d, s⟩
          · cases hhead
          · exact ⟨s, by rw [Option.some.inj hhead]⟩
        rw [if_pos hhead]
        rw [universalNewlines, if_neg (by decide), PyStr.splitOn, if_pos rfl] at hun ⊢
        obtain ⟨rfl, rfl⟩ := List.cons.inj hun
        refine ⟨[], _, _, rfl, rfl, ?_⟩
        rw [heq, List.filter_cons_of_neg (by rw [hq]; decide)]
      · rw [if_neg hhead, PyStr.splitOn, if_pos rfl, hun]
        exact ⟨[], _, _, rfl, rfl, hfilter⟩
    · rw [if_neg hreturn, PyStr.splitOn]
      rcases eq_or_ne c '\n' with rfl | hline
      · rw [if_pos rfl, if_pos (by decide), hun]
        exact ⟨[], _, _, rfl, rfl, hfilter⟩
      · rw [if_neg hline, if_neg (by simp [isNewline, hline, hreturn]), hun]
        exact ⟨c :: piece, later, later', rfl, rfl, heq⟩

theorem filter_lines {q : List Char → Bool} (hq : q [] = false) (s : List Char) :
    (lines s).filter q = (s.splitOnP isNewline).filter q := by
  obtain ⟨piece, later, later', hun, hs, heq⟩ := splitOn_universalNewlines hq s
  have hall : (PyStr.splitOn '\n' (universalNewlines s)).filter q =
      (s.splitOnP isNewline).filter q := by
    rw [hun, hs, List.filter_cons, List.filter_cons, heq]
  rw [lines]
  split
  · rename_i hlast
    obtain ⟨front, hfront⟩ := List.getLast?_eq_some_iff.1 hlast
    rw [← hall, hfront, List.dropLast_concat, List.filter_append,
      List.filter_cons_of_neg (by rw [hq]; decide), List.filter_nil, List.append_nil]
  · exact hall

/-! ### Decoding piece by piece -/

theorem isNewline_iff {c : Char} : isNewline c = true ↔ c.toNat = 10 ∨ c.toNat = 13 := by
  have hinj : ∀ d : Char, c = d ↔ c.toNat = d.toNat := fun d ↦ by
    rw [Char.ext_iff, UInt32.ext_iff]
    rfl
  rw [isNewline, Bool.or_eq_true, beq_iff_eq, beq_iff_eq, hinj, hinj]
  rfl

theorem isNewlineByte_iff {b : UInt8} :
    isNewlineByte b = true ↔ b.toNat = 10 ∨ b.toNat = 13 := by
  rw [isNewlineByte, Bool.or_eq_true, beq_iff_eq, beq_iff_eq]

/-- **A text is cut where its bytes are**: each piece is decoded for itself. -/
theorem splitOnP_decodeReplace (bs : List UInt8) :
    (Utf8.decodeReplace bs).splitOnP isNewline =
      (bs.splitOnP isNewlineByte).map Utf8.decodeReplace := by
  induction hn : bs.length using Nat.strong_induction_on generalizing bs with
  | _ n ih =>
    by_cases hmem : ∃ b ∈ bs, isNewlineByte b = true
    · obtain ⟨b, hb, hnewline⟩ := hmem
      obtain ⟨front, rest, rfl⟩ := List.append_of_mem hb
      rw [List.length_append, List.length_cons] at hn
      have hcode := isNewlineByte_iff.1 hnewline
      have hchar : isNewline (Char.ofNat b.toNat) = true := by
        rw [isNewline_iff, PyStr.toNat_ofNat (by omega)]
        exact hcode
      rw [List.splitOnP_append_cons front rest hnewline, List.map_append,
        ← ih front.length (by omega) front rfl, ← ih rest.length (by omega) rest rfl,
        ← List.splitOnP_append_cons _ _ hchar]
      rw [Utf8.decodeReplace, Utf8.decodeFrom_append_of_lt none front rest (by omega)]
      rfl
    · have hnone : ∀ b ∈ bs, isNewlineByte b = false := fun b hb ↦ by
        rcases h : isNewlineByte b with - | -
        · rfl
        · exact absurd ⟨b, hb, h⟩ hmem
      have hnone' : ∀ c ∈ Utf8.decodeReplace bs, isNewline c = false := by
        intro c hc
        rcases h : isNewline c with - | -
        · rfl
        · have hcode := isNewline_iff.1 h
          obtain ⟨b, hb, heq⟩ := Utf8.exists_of_mem_decodeFrom hc (by omega)
          rw [← heq] at hcode
          exact absurd ⟨b, hb, isNewlineByte_iff.2 hcode⟩ hmem
      rw [List.splitOnP_eq_singleton hnone, List.splitOnP_eq_singleton hnone']
      rfl

/-- **The lines of a file that pass a test** are those of its pieces, when the empty line does not
pass it. -/
theorem filter_fileLines {q : List Char → Bool} (hq : q [] = false) (bs : List UInt8) :
    (fileLines bs).filter q = ((bs.splitOnP isNewlineByte).map Utf8.decodeReplace).filter q := by
  rw [fileLines, filter_lines hq, splitOnP_decodeReplace]

end TextLines
