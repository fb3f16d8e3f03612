import DjangoWaf.Lib.IpAddress
import Mathlib.Data.List.Count

/-!
# Addresses and networks, read back

`str` of an address or a network is read back as what it was: for all of IPv4 (`ipv4Int_ipv4Text`),
and for all of IPv6 (`ipv6Int_ipv6Text`), where the text may leave out a run of zero groups. What is
needed of the run that is left out is only that its groups are zero and that there are two of them
or more (`ZeroRun`): the reader puts as many zeros back as there are groups missing.

`ipNetwork_text` is the round trip of a network, and `ipNetwork_slash` reads an address with a
prefix length behind it. So two networks with one text are one network (`text_inj`).
-/

namespace IpAddress

/-! ### Digits -/

/-- The digits of a number are digits of the base. -/
theorem exists_digitChar_of_mem_toDigits {b n : ℕ} (hb : 1 < b) {c : Char}
    (hc : c ∈ Nat.toDigits b n) : ∃ d < b, c = d.digitChar := by
  induction n using Nat.strong_induction_on with
  | h n ih =>
    rcases Nat.lt_or_ge n b with hlt | hle
    · rw [Nat.toDigits_of_lt_base hlt] at hc
      exact ⟨n, hlt, List.mem_singleton.1 hc⟩
    · rw [Nat.toDigits_of_base_le hb hle, List.mem_append, List.mem_singleton] at hc
      rcases hc with hc | rfl
      · exact ih (n / b) (Nat.div_lt_self (by omega) hb) hc
      · exact ⟨n % b, Nat.mod_lt _ (by omega), rfl⟩

/-- **A number is read back** from its digits, by whatever reads the digits of the base. -/
theorem ofDigits_toDigits {b : ℕ} (hb : 1 < b) {digit : Char → ℕ}
    (hdigit : ∀ d < b, digit d.digitChar = d) (n : ℕ) :
    ofDigits b digit (Nat.toDigits b n) = n := by
  induction n using Nat.strong_induction_on with
  | h n ih =>
    rcases Nat.lt_or_ge n b with hlt | hle
    · rw [Nat.toDigits_of_lt_base hlt, ofDigits, List.foldl_cons, List.foldl_nil, hdigit n hlt,
        Nat.mul_zero, Nat.zero_add]
    · have hrest := ih (n / b) (Nat.div_lt_self (by omega) hb)
      rw [ofDigits] at hrest
      rw [Nat.toDigits_of_base_le hb hle, ofDigits, List.foldl_append, hrest, List.foldl_cons,
        List.foldl_nil, hdigit _ (Nat.mod_lt _ (by omega)), Nat.div_add_mod]

theorem isDigit_digitChar {d : ℕ} (h : d < 10) : PyStr.isDigit d.digitChar = true := by
  have hall : ∀ d < 10, PyStr.isDigit d.digitChar = true := by decide
  exact hall d h

theorem all_isDigit_toDigits (n : ℕ) : (Nat.toDigits 10 n).all PyStr.isDigit = true := by
  rw [List.all_eq_true]
  intro c hc
  obtain ⟨d, hd, rfl⟩ := exists_digitChar_of_mem_toDigits (by decide) hc
  exact isDigit_digitChar hd

theorem pyOfDigits_toDigits (n : ℕ) : PyStr.ofDigits (Nat.toDigits 10 n) = n :=
  ofDigits_toDigits (show 1 < 10 by decide)
    (fun _ ↦ Nat.toNat_digitChar_sub_48_of_lt_ten) n

/-! ### IPv4 -/

theorem parseOctet_toDigits {n : ℕ} (h : n < 256) : parseOctet (Nat.toDigits 10 n) = some n := by
  have hall : ∀ n < 256, parseOctet (Nat.toDigits 10 n) = some n := by decide +kernel
  exact hall n h

/-- A separator that is no decimal digit. -/
theorem not_mem_toDigits {sep : Char} (hsep : PyStr.isDigit sep = false) (n : ℕ) :
    sep ∉ Nat.toDigits 10 n := by
  intro hmem
  have hdigit := List.all_eq_true.1 (all_isDigit_toDigits n) sep hmem
  rw [hsep] at hdigit
  cases hdigit

/-- **An IPv4 number is read back.** -/
theorem ipv4Int_ipv4Text {n : ℕ} (h : n < 2 ^ 32) : ipv4Int (ipv4Text n) = some n := by
  have hparts : PyStr.splitOn '.' (ipv4Text n) =
      [24, 16, 8, 0].map fun shift ↦ Nat.toDigits 10 (n / 2 ^ shift % 256) := by
    refine PyStr.splitOn_join (List.cons_ne_nil _ _) fun p hp ↦ ?_
    obtain ⟨shift, -, rfl⟩ := List.mem_map.1 hp
    exact not_mem_toDigits (by decide) _
  have hoctet : ∀ shift, parseOctet (Nat.toDigits 10 (n / 2 ^ shift % 256)) =
      some (n / 2 ^ shift % 256) := fun shift ↦ parseOctet_toDigits (Nat.mod_lt _ (by decide))
  simp only [ipv4Int, hparts, List.map_cons, List.map_nil, hoctet, Option.bind_eq_bind,
    Option.bind_some, Option.pure_def, Option.some.injEq]
  omega

theorem slash_not_mem_ipv4Text (n : ℕ) : '/' ∉ ipv4Text n := by
  simp only [ipv4Text, List.map_cons, List.map_nil, List.intercalate_cons_cons,
    List.intercalate_singleton, List.mem_append, List.mem_singleton, not_or]
  have hdigits := not_mem_toDigits (show PyStr.isDigit '/' = false by decide)
  exact ⟨⟨hdigits _, by decide⟩, ⟨hdigits _, by decide⟩, ⟨hdigits _, by decide⟩, hdigits _⟩

/-! ### The groups of an IPv6 number -/

/-- The eight groups of an IPv6 number. -/
def groups (n : ℕ) : List ℕ := (List.range 8).map fun i ↦ n / 2 ^ (16 * (7 - i)) % 2 ^ 16

/-- The number that groups spell behind those already read. -/
def spelled (acc : ℕ) (gs : List ℕ) : ℕ := gs.foldl (fun n g ↦ n * 65536 + g) acc

theorem spelled_append (acc : ℕ) (gs gs' : List ℕ) :
    spelled acc (gs ++ gs') = spelled (spelled acc gs) gs' := List.foldl_append

/-- Zero groups shift what was read. -/
theorem spelled_replicate_zero (acc k : ℕ) :
    spelled acc (List.replicate k 0) = acc * 65536 ^ k := by
  induction k generalizing acc with
  | zero => rw [pow_zero, Nat.mul_one]; rfl
  | succ k ih =>
    rw [List.replicate_succ]
    show spelled (acc * 65536 + 0) (List.replicate k 0) = _
    rw [ih, Nat.add_zero, pow_succ']
    exact Nat.mul_assoc acc 65536 (65536 ^ k)

theorem length_groups (n : ℕ) : (groups n).length = 8 := by
  rw [groups, List.length_map, List.length_range]

theorem lt_of_mem_groups {n g : ℕ} (h : g ∈ groups n) : g < 65536 := by
  obtain ⟨i, -, rfl⟩ := List.mem_map.1 h
  exact Nat.mod_lt _ (by decide)

/-- The first groups of a number spell its upper bits. -/
theorem spelled_groups_take {n : ℕ} (h : n < 2 ^ 128) {k : ℕ} (hk : k ≤ 8) :
    spelled 0 ((List.range k).map fun i ↦ n / 2 ^ (16 * (7 - i)) % 2 ^ 16) =
      n / 2 ^ (16 * (8 - k)) := by
  induction k with
  | zero => exact (Nat.div_eq_of_lt h).symm
  | succ k ih =>
    rw [List.range_succ, List.map_append, spelled_append, ih (by omega)]
    show n / 2 ^ (16 * (8 - k)) * 65536 + n / 2 ^ (16 * (7 - k)) % 2 ^ 16 = _
    have hsplit : n / 2 ^ (16 * (8 - k)) = n / 2 ^ (16 * (7 - k)) / 2 ^ 16 := by
      rw [Nat.div_div_eq_div_mul, ← pow_add]
      congr 2
      omega
    have hlast : 8 - (k + 1) = 7 - k := by omega
    rw [hsplit, hlast]
    omega

/-- **The groups of a number spell it.** -/
theorem spelled_groups {n : ℕ} (h : n < 2 ^ 128) : spelled 0 (groups n) = n := by
  rw [groups, spelled_groups_take h le_rfl, Nat.sub_self, Nat.mul_zero, pow_zero, Nat.div_one]

/-! ### One group -/

theorem isHexDigit_digitChar {d : ℕ} (h : d < 16) : isHexDigit d.digitChar = true := by
  have hall : ∀ d < 16, isHexDigit d.digitChar = true := by decide
  exact hall d h

theorem hexDigit_digitChar {d : ℕ} (h : d < 16) : hexDigit d.digitChar = d := by
  have hall : ∀ d < 16, hexDigit d.digitChar = d := by decide
  exact hall d h

theorem isHexDigit_of_mem_toDigits {n : ℕ} {c : Char} (h : c ∈ Nat.toDigits 16 n) :
    isHexDigit c = true := by
  obtain ⟨d, hd, rfl⟩ := exists_digitChar_of_mem_toDigits (by decide) h
  exact isHexDigit_digitChar hd

/-- A separator that is no hexadecimal digit. -/
theorem not_mem_toDigits_hex {sep : Char} (hsep : isHexDigit sep = false) (n : ℕ) :
    sep ∉ Nat.toDigits 16 n := by
  intro hmem
  rw [isHexDigit_of_mem_toDigits hmem] at hsep
  cases hsep

theorem parseHextet_toDigits {g : ℕ} (h : g < 65536) :
    parseHextet (Nat.toDigits 16 g) = some g := by
  rw [parseHextet, if_pos, ofDigits_toDigits (by decide) fun _ ↦ hexDigit_digitChar]
  refine ⟨Nat.toDigits_ne_nil, ?_, ?_⟩
  · exact List.all_eq_true.2 fun c hc ↦ isHexDigit_of_mem_toDigits hc
  · exact (Nat.length_toDigits_le_iff (by decide) (by decide)).2 h

/-- Groups are read back. -/
theorem hextets_toDigits (acc : ℕ) {gs : List ℕ} (h : ∀ g ∈ gs, g < 65536) :
    hextets acc (gs.map (Nat.toDigits 16)) = some (spelled acc gs) := by
  induction gs generalizing acc with
  | nil => rfl
  | cons g gs ih =>
    rw [List.map_cons, hextets, parseHextet_toDigits (h g List.mem_cons_self)]
    exact ih (acc * 65536 + g) fun g' hg' ↦ h g' (List.mem_cons_of_mem g hg')

/-! ### The run that is left out -/

/-- Groups of which a run is zero. -/
structure ZeroRun (gs : List ℕ) (start len : ℕ) : Prop where
  bound : start + len ≤ gs.length
  zero : gs = gs.take start ++ List.replicate len 0 ++ gs.drop (start + len)

theorem ZeroRun.empty (gs : List ℕ) : ZeroRun gs 0 0 := ⟨Nat.zero_le _, rfl⟩

/-- What is zero from a position on is a run there. -/
theorem zeroRun_takeWhile {gs : List ℕ} {i : ℕ} (hi : i < gs.length) :
    ZeroRun gs i ((gs.drop i).takeWhile fun h ↦ h = 0).length := by
  have hlen := (List.takeWhile_prefix (fun h : ℕ ↦ decide (h = 0)) (l := gs.drop i)).length_le
  rw [List.length_drop] at hlen
  refine ⟨by omega, ?_⟩
  have hzero : (gs.drop i).takeWhile (fun h ↦ h = 0) =
      List.replicate ((gs.drop i).takeWhile fun h ↦ h = 0).length 0 := by
    refine List.eq_replicate_of_mem fun g hg ↦ ?_
    exact of_decide_eq_true (List.mem_takeWhile_imp (p := fun h ↦ decide (h = 0)) hg)
  have hrest : (gs.drop i).dropWhile (fun h ↦ h = 0) =
      gs.drop (i + ((gs.drop i).takeWhile fun h ↦ h = 0).length) := by
    have hsplit := congrArg (List.drop ((gs.drop i).takeWhile fun h ↦ h = 0).length)
      (List.takeWhile_append_dropWhile (p := fun h ↦ decide (h = 0)) (l := gs.drop i))
    rw [List.drop_left' rfl, List.drop_drop] at hsplit
    exact hsplit
  rw [← hzero, ← hrest, List.append_assoc, List.takeWhile_append_dropWhile, List.take_append_drop]

/-- Where the longest run of zeros is said to be, zeros are. -/
theorem zeroRun_longestZeros (gs : List ℕ) :
    ZeroRun gs (longestZeros gs).1 (longestZeros gs).2 := by
  have hfold : ∀ (is : List ℕ) (best : ℕ × ℕ), (∀ i ∈ is, i < gs.length) →
      ZeroRun gs best.1 best.2 →
      let found := is.foldl (fun best i ↦
        if best.2 < ((gs.drop i).takeWhile fun h ↦ h = 0).length then
          (i, ((gs.drop i).takeWhile fun h ↦ h = 0).length) else best) best
      ZeroRun gs found.1 found.2 := by
    intro is
    induction is with
    | nil => exact fun best _ hbest ↦ hbest
    | cons i is ih =>
      intro best his hbest
      refine ih _ (fun j hj ↦ his j (List.mem_cons_of_mem i hj)) ?_
      dsimp only
      split_ifs
      · exact zeroRun_takeWhile (his i List.mem_cons_self)
      · exact hbest
  exact hfold (List.range gs.length) (0, 0) (fun i hi ↦ List.mem_range.1 hi) (ZeroRun.empty gs)

/-! ### The groups around `::` -/

/-- The pieces of a text of groups: a text without a group is one empty piece. -/
def pieces (ps : List (List Char)) : List (List Char) := if ps = [] then [[]] else ps

theorem splitOn_join_pieces {ps : List (List Char)} (h : ∀ p ∈ ps, ':' ∉ p) :
    PyStr.splitOn ':' (PyStr.join ':' ps) = pieces ps := by
  rcases ps with _ | ⟨p, ps⟩
  · rfl
  · exact PyStr.splitOn_join (List.cons_ne_nil p ps) h

theorem length_pieces_pos (ps : List (List Char)) : 0 < (pieces ps).length := by
  rcases ps with _ | ⟨p, ps⟩ <;> simp [pieces]

theorem length_pieces (ps : List (List Char)) :
    ps.length ≤ (pieces ps).length ∧ (pieces ps).length ≤ ps.length + 1 := by
  rcases ps with _ | ⟨p, ps⟩ <;> simp [pieces]

theorem take_length_pieces (ps : List (List Char)) : (pieces ps).take ps.length = ps := by
  rcases ps with _ | ⟨p, ps⟩
  · rfl
  · exact List.take_length

theorem drop_length_pieces (ps : List (List Char)) :
    (pieces ps).drop ((pieces ps).length - ps.length) = ps := by
  rcases ps with _ | ⟨p, ps⟩
  · rfl
  · show (p :: ps).drop ((p :: ps).length - (p :: ps).length) = p :: ps
    rw [Nat.sub_self, List.drop_zero]

theorem not_mem_piece {ps : List (List Char)} {c : Char} (h : ∀ p ∈ ps, c ∉ p) {p : List Char}
    (hp : p ∈ pieces ps) : c ∉ p := by
  rcases ps with _ | ⟨q, ps⟩
  · rw [List.mem_singleton.1 hp]
    exact List.not_mem_nil
  · exact h p hp

/-- The parts of a text with `::`. -/
theorem splitOn_compressed {ps qs : List (List Char)} (hp : ∀ p ∈ ps, ':' ∉ p)
    (hq : ∀ q ∈ qs, ':' ∉ q) :
    PyStr.splitOn ':' (PyStr.join ':' ps ++ [':', ':'] ++ PyStr.join ':' qs) =
      pieces ps ++ [] :: pieces qs := by
  rw [List.append_assoc]
  show PyStr.splitOn ':' (PyStr.join ':' ps ++ ':' :: ([] ++ ':' :: PyStr.join ':' qs)) = _
  rw [PyStr.splitOn_append_sep, PyStr.splitOn_append_sep, splitOn_join_pieces hp,
    splitOn_join_pieces hq]
  rfl

theorem not_mem_parts {ps qs : List (List Char)} {c : Char} (hp : ∀ p ∈ ps, c ∉ p)
    (hq : ∀ q ∈ qs, c ∉ q) {p : List Char} (h : p ∈ pieces ps ++ [] :: pieces qs) : c ∉ p := by
  rcases List.mem_append.1 h with h | h
  · exact not_mem_piece hp h
  · rcases List.mem_cons.1 h with rfl | h
    · exact List.not_mem_nil
    · exact not_mem_piece hq h

/-- The groups in front of `::`. -/
theorem take_parts (ps qs : List (List Char)) :
    (pieces ps ++ [] :: pieces qs).take ps.length = ps := by
  rw [List.take_append_of_le_length (length_pieces ps).1, take_length_pieces]

/-- The groups behind it. -/
theorem drop_parts (ps qs : List (List Char)) : (pieces ps ++ [] :: pieces qs).drop
    ((pieces ps ++ [] :: pieces qs).length - qs.length) = qs := by
  have hq := (length_pieces qs).1
  have hend : (pieces ps ++ [] :: pieces qs).length - qs.length =
      (pieces ps ++ [[]]).length + ((pieces qs).length - qs.length) := by
    rw [List.length_append, List.length_cons, List.length_append, List.length_singleton]
    omega
  rw [hend, List.append_cons (pieces ps) [] (pieces qs), List.drop_length_add_append,
    drop_length_pieces]

/-- An empty piece is there for a text without a group. -/
theorem eq_nil_of_empty_piece {ps : List (List Char)} (hp : ∀ p ∈ ps, p ≠ []) {i : ℕ}
    (h : (pieces ps)[i]? = some []) : ps = [] := by
  by_contra hne
  rw [pieces, if_neg hne] at h
  exact hp [] (List.mem_of_getElem? h) rfl

/-- The empty pieces around `::`, other than at the ends, are the one between the two halves. -/
theorem emptyParts_pieces {ps qs : List (List Char)} (hp : ∀ p ∈ ps, p ≠ [])
    (hq : ∀ q ∈ qs, q ≠ []) :
    emptyParts (pieces ps ++ [] :: pieces qs) = [(pieces ps).length] := by
  obtain ⟨a, ha⟩ : ∃ a, (pieces ps).length = a + 1 :=
    Nat.exists_eq_add_one.2 (length_pieces_pos ps)
  obtain ⟨b, hb⟩ : ∃ b, (pieces qs).length = b + 1 :=
    Nat.exists_eq_add_one.2 (length_pieces_pos qs)
  have hlen : (pieces ps ++ [] :: pieces qs).length = 1 + (a + 1 + b) + 1 := by
    rw [List.length_append, List.length_cons, ha, hb]
    omega
  have hinner : ((List.range (1 + (a + 1 + b) + 1)).drop 1).dropLast =
      List.range' 1 a ++ (a + 1) :: List.range' (a + 2) b := by
    rw [List.range_eq_range', List.drop_range', Nat.add_sub_cancel, Nat.add_comm 1 (a + 1 + b),
      List.range'_concat, List.dropLast_concat, Nat.add_assoc, Nat.add_comm 1 b,
      ← List.range'_append_1, List.range'_succ, Nat.add_comm (0 + 1 * 1) a]
  have hbefore : ∀ i ∈ List.range' 1 a,
      ¬ ((pieces ps ++ [] :: pieces qs)[i]? == some []) = true := by
    intro i hi hempty
    rw [List.mem_range'_1] at hi
    rw [List.getElem?_append_left (by omega), beq_iff_eq] at hempty
    rw [eq_nil_of_empty_piece hp hempty] at ha
    have hone : (pieces []).length = 1 := rfl
    omega
  have hbehind : ∀ i ∈ List.range' (a + 2) b,
      ¬ ((pieces ps ++ [] :: pieces qs)[i]? == some []) = true := by
    intro i hi hempty
    rw [List.mem_range'_1] at hi
    rw [List.getElem?_append_right (by omega), ha,
      show i - (a + 1) = i - (a + 2) + 1 by omega, List.getElem?_cons_succ, beq_iff_eq] at hempty
    rw [eq_nil_of_empty_piece hq hempty] at hb
    have hone : (pieces []).length = 1 := rfl
    omega
  have hat : ((pieces ps ++ [] :: pieces qs)[a + 1]? == some []) = true := by
    rw [List.getElem?_append_right (by omega), ha, Nat.sub_self, List.getElem?_cons_zero,
      beq_self_eq_true]
  rw [emptyParts, hlen, hinner, List.filter_append, List.filter_eq_nil_iff.2 hbefore,
    List.filter_cons_of_pos (p := fun i ↦ (pieces ps ++ [] :: pieces qs)[i]? == some []) hat,
    List.filter_eq_nil_iff.2 hbehind, ha, List.nil_append]

theorem head?_pieces {ps : List (List Char)} (hp : ∀ p ∈ ps, p ≠ []) :
    (pieces ps).head? = some [] ↔ ps = [] := by
  refine ⟨fun h ↦ eq_nil_of_empty_piece hp (i := 0) (by rwa [← List.head?_eq_getElem?]), ?_⟩
  rintro rfl
  rfl

theorem getLast?_pieces {ps : List (List Char)} (hp : ∀ p ∈ ps, p ≠ []) :
    (pieces ps).getLast? = some [] ↔ ps = [] := by
  refine ⟨fun h ↦ eq_nil_of_empty_piece hp (by rwa [← List.getLast?_eq_getElem?]), ?_⟩
  rintro rfl
  rfl

/-- **Around `::`** stand the groups of the two halves, and nothing else. -/
theorem skipParts_pieces {ps qs : List (List Char)} (hp : ∀ p ∈ ps, p ≠ [])
    (hq : ∀ q ∈ qs, q ≠ []) (hlen : ps.length + qs.length < 8) :
    skipParts (pieces ps ++ [] :: pieces qs) = some (ps.length, qs.length) := by
  have hhead : (pieces ps ++ [] :: pieces qs).head? = some [] ↔ ps = [] := by
    rw [List.head?_append_of_ne_nil _ (List.ne_nil_of_length_pos (length_pieces_pos ps)),
      head?_pieces hp]
  have hlast : (pieces ps ++ [] :: pieces qs).getLast? = some [] ↔ qs = [] := by
    rw [← getLast?_pieces hq, List.append_cons, List.getLast?_append_of_ne_nil _
      (List.ne_nil_of_length_pos (length_pieces_pos qs))]
  have hlo : (pieces ps ++ [] :: pieces qs).length - (pieces ps).length - 1 =
      (pieces qs).length := by
    rw [List.length_append, List.length_cons]
    omega
  simp only [skipParts, emptyParts_pieces hp hq, hhead, hlast, hlo]
  have hsize : ∀ ps : List (List Char),
      (if ps = [] then (pieces ps).length - 1 else (pieces ps).length) = ps.length := by
    intro ps
    split_ifs with h
    · rw [h]
      rfl
    · rw [pieces, if_neg h]
  rw [hsize ps, hsize qs, if_neg]
  rintro (⟨rfl, h⟩ | ⟨rfl, h⟩ | h)
  · exact h rfl
  · exact h rfl
  · omega

/-! ### IPv6 -/

/-- Without a dot there is no dotted tail. -/
theorem expandDottedTail_of_not_mem {parts : List (List Char)} (h : ∀ p ∈ parts, '.' ∉ p) :
    expandDottedTail parts = some parts := by
  rw [expandDottedTail]
  split
  · rename_i tail htail
    have hdot : tail.contains '.' = false := by
      rw [List.contains_eq_mem, decide_eq_false_iff_not]
      exact h tail (List.mem_of_getLast? htail)
    rw [hdot, if_neg (by decide)]
  · rfl

/-- The texts of groups hold a digit each, and no separator. -/
theorem groupTexts_spec {gs : List ℕ} {p : List Char} (hp : p ∈ gs.map (Nat.toDigits 16)) :
    p ≠ [] ∧ ':' ∉ p ∧ '.' ∉ p := by
  obtain ⟨g, -, rfl⟩ := List.mem_map.1 hp
  exact ⟨Nat.toDigits_ne_nil, not_mem_toDigits_hex (by decide) g,
    not_mem_toDigits_hex (by decide) g⟩

/-- The reading of an address without a dotted tail, from where its `::` stands. -/
theorem ipv6Int_of_parts {cs : List Char} {parts : List (List Char)} {hi lo high : ℕ}
    (hparts : PyStr.splitOn ':' cs = parts) (hmin : 3 ≤ parts.length) (hmax : parts.length ≤ 9)
    (hdots : ∀ p ∈ parts, '.' ∉ p) (hskip : skipParts parts = some (hi, lo))
    (hhigh : hextets 0 (parts.take hi) = some high) :
    ipv6Int cs = hextets (high * 65536 ^ (8 - (hi + lo))) (parts.drop (parts.length - lo)) := by
  simp only [ipv6Int, hparts, if_neg (Nat.not_lt.2 hmin), expandDottedTail_of_not_mem hdots,
    Option.bind_eq_bind, Option.bind_some, if_neg (Nat.not_lt.2 hmax), hskip, hhigh]

/-- Eight groups are read back. -/
theorem ipv6Int_join {gs : List ℕ} (hlen : gs.length = 8) (h : ∀ g ∈ gs, g < 65536) :
    ipv6Int (PyStr.join ':' (gs.map (Nat.toDigits 16))) = some (spelled 0 gs) := by
  have htexts : (gs.map (Nat.toDigits 16)).length = 8 := by rw [List.length_map, hlen]
  have hparts : PyStr.splitOn ':' (PyStr.join ':' (gs.map (Nat.toDigits 16))) =
      gs.map (Nat.toDigits 16) :=
    PyStr.splitOn_join (List.ne_nil_of_length_pos (by omega)) fun p hp ↦ (groupTexts_spec hp).2.1
  have hempty : emptyParts (gs.map (Nat.toDigits 16)) = [] := by
    rw [emptyParts, List.filter_eq_nil_iff]
    intro i _ hi
    rw [beq_iff_eq] at hi
    exact (groupTexts_spec (List.mem_of_getElem? hi)).1 rfl
  have hskip : skipParts (gs.map (Nat.toDigits 16)) = some (8, 0) := by
    rw [skipParts, hempty]
    exact if_pos htexts
  have hhigh : hextets 0 ((gs.map (Nat.toDigits 16)).take 8) = some (spelled 0 gs) := by
    rw [List.take_of_length_le (by omega)]
    exact hextets_toDigits 0 h
  rw [ipv6Int_of_parts hparts (by omega) (by omega) (fun p hp ↦ (groupTexts_spec hp).2.2) hskip
    hhigh, htexts, List.drop_of_length_le (by omega)]
  show some (spelled 0 gs * 1) = _
  rw [Nat.mul_one]

/-- **Groups around `::`** are read back, with zeros for those left out. -/
theorem ipv6Int_compressed {gs gs' : List ℕ} {len : ℕ} (hlen : 1 < len)
    (hall : gs.length + len + gs'.length = 8) (h : ∀ g ∈ gs, g < 65536)
    (h' : ∀ g ∈ gs', g < 65536) :
    ipv6Int (PyStr.join ':' (gs.map (Nat.toDigits 16)) ++ [':', ':'] ++
      PyStr.join ':' (gs'.map (Nat.toDigits 16))) =
      some (spelled 0 (gs ++ List.replicate len 0 ++ gs')) := by
  let ps := gs.map (Nat.toDigits 16)
  let qs := gs'.map (Nat.toDigits 16)
  have hps : ps.length = gs.length := List.length_map _
  have hqs : qs.length = gs'.length := List.length_map _
  have hparts := splitOn_compressed (fun p (hp : p ∈ ps) ↦ (groupTexts_spec hp).2.1)
    (fun p (hp : p ∈ qs) ↦ (groupTexts_spec hp).2.1)
  have hdots : ∀ p ∈ pieces ps ++ [] :: pieces qs, '.' ∉ p := fun p ↦
    not_mem_parts (fun p hp ↦ (groupTexts_spec hp).2.2) fun p hp ↦ (groupTexts_spec hp).2.2
  have hskip := skipParts_pieces (fun p (hp : p ∈ ps) ↦ (groupTexts_spec hp).1)
    (fun p (hp : p ∈ qs) ↦ (groupTexts_spec hp).1) (by omega)
  have hsize : (pieces ps ++ [] :: pieces qs).length =
      (pieces ps).length + 1 + (pieces qs).length := by
    rw [List.length_append, List.length_cons]
    omega
  have hp := length_pieces ps
  have hq := length_pieces qs
  have hp_pos := length_pieces_pos ps
  have hq_pos := length_pieces_pos qs
  have hhigh : hextets 0 ((pieces ps ++ [] :: pieces qs).take ps.length) =
      some (spelled 0 gs) := by
    rw [take_parts]
    exact hextets_toDigits 0 h
  -- the zeros that were left out fill up to eight groups
  have hmissing : 8 - (ps.length + qs.length) = len := by omega
  show ipv6Int (PyStr.join ':' ps ++ [':', ':'] ++ PyStr.join ':' qs) = _
  rw [ipv6Int_of_parts hparts (by omega) (by omega) hdots hskip hhigh, drop_parts, hmissing,
    hextets_toDigits _ h', spelled_append, spelled_append, spelled_replicate_zero]

/-- **An IPv6 number is read back**, whatever run of zeros its text leaves out. -/
theorem ipv6Int_ipv6Text {n : ℕ} (h : n < 2 ^ 128) : ipv6Int (ipv6Text n) = some n := by
  have hrun := zeroRun_longestZeros (groups n)
  have hlt : ∀ g ∈ groups n, g < 65536 := fun g ↦ lt_of_mem_groups
  have hlen := length_groups n
  show ipv6Int (if 1 < (longestZeros (groups n)).2 then _ else _) = some n
  split_ifs with hone
  · obtain ⟨hbound, hzero⟩ := hrun
    rw [← List.map_take, ← List.map_drop]
    have htaken : ∀ g ∈ (groups n).take (longestZeros (groups n)).1, g < 65536 :=
      fun g hg ↦ hlt g (List.mem_of_mem_take hg)
    have hdropped : ∀ g ∈ (groups n).drop
        ((longestZeros (groups n)).1 + (longestZeros (groups n)).2), g < 65536 :=
      fun g hg ↦ hlt g (List.mem_of_mem_drop hg)
    have hread := ipv6Int_compressed hone (by rw [List.length_take, List.length_drop]; omega) htaken
      hdropped
    rw [← hzero, spelled_groups h] at hread
    exact hread
  · have hread := ipv6Int_join hlen hlt
    rw [spelled_groups h] at hread
    exact hread

/-- The characters of an IPv6 number's text. -/
theorem mem_ipv6Text {n : ℕ} {c : Char} (h : c ∈ ipv6Text n) : c = ':' ∨ isHexDigit c = true := by
  have hjoin : ∀ gs : List ℕ, c ∈ PyStr.join ':' (gs.map (Nat.toDigits 16)) →
      c = ':' ∨ isHexDigit c = true := by
    intro gs
    induction gs with
    | nil => exact fun hc ↦ absurd hc List.not_mem_nil
    | cons g gs ih =>
      rcases gs with _ | ⟨g', gs⟩
      · intro hc
        rw [List.map_cons, List.map_nil, PyStr.join_singleton] at hc
        exact Or.inr (isHexDigit_of_mem_toDigits hc)
      · intro hc
        rw [List.map_cons, List.map_cons, PyStr.join_cons_cons, List.mem_append,
          List.mem_cons] at hc
        rcases hc with hc | hc | hc
        · exact Or.inr (isHexDigit_of_mem_toDigits hc)
        · exact Or.inl hc
        · exact ih hc
  change c ∈ if 1 < (longestZeros (groups n)).2 then _ else _ at h
  split_ifs at h
  · rw [← List.map_take, ← List.map_drop, List.mem_append, List.mem_append] at h
    rcases h with (h | h) | h
    · exact hjoin _ h
    · rw [List.mem_cons, List.mem_singleton, or_self] at h
      exact Or.inl h
    · exact hjoin _ h
  · exact hjoin _ h

/-- A character that is neither a colon nor a hexadecimal digit. -/
theorem not_mem_ipv6Text {c : Char} (hcolon : c ≠ ':') (hhex : isHexDigit c = false) (n : ℕ) :
    c ∉ ipv6Text n := by
  intro h
  rcases mem_ipv6Text h with rfl | h
  · exact hcolon rfl
  · rw [hhex] at h
    cases h

/-! ### Addresses and networks -/

/-- The text of a number in a family. -/
def valueText : Version → ℕ → List Char
  | .v4 => ipv4Text
  | .v6 => ipv6Text

theorem ofNat?_of_lt {v : Version} {n : ℕ} (h : n < 2 ^ v.bits) (scope : Option (List Char)) :
    Address.ofNat? v n scope = some ⟨v, n, h, scope⟩ := dif_pos h

theorem ipv4Address_ipv4Text {n : ℕ} (h : n < 2 ^ 32) :
    ipv4Address (ipv4Text n) = some ⟨.v4, n, h, none⟩ := by
  rw [ipv4Address, if_neg (slash_not_mem_ipv4Text n), ipv4Int_ipv4Text h]
  exact ofNat?_of_lt (v := .v4) h none

theorem ipv6Address_ipv6Text {n : ℕ} (h : n < 2 ^ 128) :
    ipv6Address (ipv6Text n) = some ⟨.v6, n, h, none⟩ := by
  have hscope : splitScopeId (ipv6Text n) = some (ipv6Text n, none) := by
    rw [splitScopeId, PyStr.splitOnce_of_not_mem (not_mem_ipv6Text (by decide) (by decide) n)]
  simp only [ipv6Address, if_neg (not_mem_ipv6Text (c := '/') (by decide) (by decide) n), hscope,
    Option.bind_eq_bind, Option.bind_some, ipv6Int_ipv6Text h]
  exact ofNat?_of_lt (v := .v6) h none

/-- What has no dot in it is no IPv4 address. -/
theorem ipv4Address_of_not_mem {cs : List Char} (h : '.' ∉ cs) : ipv4Address cs = none := by
  rw [ipv4Address, ipv4Int, PyStr.splitOn_of_not_mem h]
  exact ite_self _

/-- **An address is read back** from the text of its number. -/
theorem ipAddress_valueText {v : Version} {n : ℕ} (h : n < 2 ^ v.bits) :
    ipAddress (String.ofList (valueText v n)) = some ⟨v, n, h, none⟩ := by
  rw [ipAddress, String.toList_ofList]
  cases v with
  | v4 => rw [valueText, ipv4Address_ipv4Text h, Option.some_or]
  | v6 =>
    rw [valueText, ipv4Address_of_not_mem (not_mem_ipv6Text (by decide) (by decide) n),
      Option.none_or, ipv6Address_ipv6Text h]

theorem makeNetmask_toDigits {v : Version} {p : ℕ} (h : p ≤ v.bits) :
    makeNetmask v (Nat.toDigits 10 p) = some p := by
  have hprefix : prefixFromPrefixString v (Nat.toDigits 10 p) = some p := by
    rw [prefixFromPrefixString, pyOfDigits_toDigits]
    exact if_pos ⟨Nat.toDigits_ne_nil, all_isDigit_toDigits p, h⟩
  simp only [makeNetmask, hprefix]

/-- A family's address with a prefix length behind it. -/
theorem networkOf_slash {v : Version} {address : List Char → Option Address} {cs : List Char}
    {p : ℕ} (hslash : '/' ∉ cs) (hp : p ≤ v.bits) :
    networkOf v address (cs ++ '/' :: Nat.toDigits 10 p) =
      (address cs).map fun a ↦ ⟨v, maskBits v p a.value, p, hp⟩ := by
  have hparts : PyStr.splitOn '/' (cs ++ '/' :: Nat.toDigits 10 p) = [cs, Nat.toDigits 10 p] := by
    rw [PyStr.splitOn_append_sep, PyStr.splitOn_of_not_mem hslash,
      PyStr.splitOn_of_not_mem (not_mem_toDigits (by decide) p)]
    rfl
  rcases haddress : address cs with _ | a
  · simp only [networkOf, hparts, haddress, Option.bind_eq_bind, Option.bind_none, Option.map_none]
  · simp only [networkOf, hparts, haddress, Option.bind_eq_bind, Option.bind_some,
      makeNetmask_toDigits hp, dif_pos hp, Option.map_some]

/-- What is no address of a family is no network of it, with or without a mask. -/
theorem networkOf_of_none {v : Version} {address : List Char → Option Address} {cs mask : List Char}
    (hslash : '/' ∉ cs) (h : address cs = none) :
    networkOf v address (cs ++ '/' :: mask) = none := by
  rw [networkOf, PyStr.splitOn_append_sep, PyStr.splitOn_of_not_mem hslash]
  rcases PyStr.splitOn '/' mask with _ | ⟨m, _ | ⟨m', rest⟩⟩
  · simp only [List.append_nil, h, Option.bind_eq_bind, Option.bind_none]
  · simp only [List.singleton_append, h, Option.bind_eq_bind, Option.bind_none]
  · rfl

/-- **An address with a prefix length behind it** is the network of that length around it. -/
theorem ipNetwork_slash {s : String} {a : Address} (h : ipAddress s = some a) {p : ℕ}
    (hp : p ≤ a.version.bits) :
    ipNetwork (s ++ "/" ++ String.ofList (Nat.toDigits 10 p)) =
      some ⟨a.version, maskBits a.version p a.value, p, hp⟩ := by
  have htext : (s ++ "/" ++ String.ofList (Nat.toDigits 10 p)).toList =
      s.toList ++ '/' :: Nat.toDigits 10 p := by
    rw [String.toList_append, String.toList_append, List.append_assoc,
      String.toList_ofList (l := Nat.toDigits 10 p)]
    rfl
  rw [ipAddress, Option.or_eq_some_iff] at h
  obtain ⟨v, n, hn, scope⟩ := a
  rw [ipNetwork, htext]
  rcases h with h4 | ⟨h4, h6⟩
  · obtain ⟨hslash, hv⟩ := ipv4Address_spec h4
    obtain rfl : v = .v4 := hv
    rw [networkOf_slash hslash hp, h4]
    rfl
  · obtain ⟨hslash, hv⟩ := ipv6Address_spec h6
    obtain rfl : v = .v6 := hv
    have hno : networkOf .v4 ipv4Address (s.toList ++ '/' :: Nat.toDigits 10 p) = none :=
      networkOf_of_none hslash h4
    rw [hno, networkOf_slash hslash hp, h6]
    rfl

/-- The network address has no host bits. -/
structure Network.Masked (n : Network) : Prop where
  lt : n.network < 2 ^ n.version.bits
  mask : maskBits n.version n.prefixlen n.network = n.network

theorem maskBits_le (v : Version) (p n : ℕ) : maskBits v p n ≤ n := Nat.div_mul_le_self _ _

theorem maskBits_maskBits (v : Version) (p n : ℕ) :
    maskBits v p (maskBits v p n) = maskBits v p n := by
  rw [maskBits, maskBits, Nat.mul_div_cancel _ (Nat.two_pow_pos _)]

/-- The network around an address. -/
theorem masked_maskBits (a : Address) {p : ℕ} (hp : p ≤ a.version.bits) :
    Network.Masked ⟨a.version, maskBits a.version p a.value, p, hp⟩ :=
  ⟨(maskBits_le _ _ _).trans_lt a.value_lt, maskBits_maskBits _ _ _⟩

/-- **A network is read back** from its text. -/
theorem ipNetwork_text {n : Network} (h : n.Masked) : ipNetwork (n.text none) = some n := by
  have htext : n.text none = String.ofList (valueText n.version n.network) ++ "/" ++
      String.ofList (Nat.toDigits 10 n.prefixlen) := by
    rw [Network.text, ← String.toList_inj]
    simp only [String.toList_append, String.toList_ofList, List.append_nil]
    cases n.version <;> rfl
  rw [htext, ipNetwork_slash (ipAddress_valueText h.lt) n.prefixlen_le]
  simp only [h.mask]

/-- Networks with one text are one network. -/
theorem text_inj {n n' : Network} (h : n.Masked) (h' : n'.Masked) :
    n.text none = n'.text none ↔ n = n' := by
  refine ⟨fun heq ↦ ?_, fun heq ↦ by rw [heq]⟩
  have hread := ipNetwork_text h
  rw [heq, ipNetwork_text h'] at hread
  exact (Option.some.inj hread).symm

end IpAddress
