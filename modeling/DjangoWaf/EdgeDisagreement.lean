import DjangoWaf.EdgeAgreement
import DjangoWaf.Middleware

/-!
# Rules that mean something else at the edge

The server that does no more than its documentation says (`leastNginx`) finds nothing with an
expression that is no escaped text, and blocks nothing with a file that is not four blocks. With it
and one rule, each way to fail `SameAtEdge` shows: the table of that rule alone does not agree
(`sameAtEdge_of_agrees`).

For an exact rule the map would have to accept one text only. A regular expression that accepts a
text accepts longer ones as well, so a key has to be the pattern itself, and no key of the file can
be: not where the closing quote is swallowed, nor behind a quote that closes too early, and
otherwise only where nothing was stripped, unescaped or ignored. For a `contains` rule the
expression has to be an escaped text, and the backslashes are counted.
-/

namespace DjangoWaf

open NginxLexer NginxMap

/-! ### A server that does no more than it has to -/

/-- Finds escaped texts, without letter case. -/
def leastSearch (caseless : Bool) (pattern userAgent : List Char) : Bool :=
  caseless && decide (PyStr.escapeChars (PyStr.reUnescape false pattern) = pattern) &&
    decide (PyStr.lowerList (PyStr.reUnescape false pattern) <:+: PyStr.lowerList userAgent)

open Classical in
/-- Blocks what a file with four blocks says. -/
noncomputable def leastNginx : Nginx where
  search := leastSearch
  blocksUa file userAgent := decide <| ∃ blockUa throttleUa blockIp throttleIp,
    lex file = some (fourBlocks blockUa throttleUa blockIp throttleIp) ∧
      (∀ k ∈ blockUa, key (meaning k.toList) ≠ .directive) ∧
        yields PyStr.lowerList leastSearch (blockUa.map String.toList) userAgent = true

theorem blocksUa_leastNginx_iff {file userAgent : List Char} :
    leastNginx.blocksUa file userAgent = true ↔ ∃ blockUa throttleUa blockIp throttleIp,
      lex file = some (fourBlocks blockUa throttleUa blockIp throttleIp) ∧
        (∀ k ∈ blockUa, key (meaning k.toList) ≠ .directive) ∧
          yields PyStr.lowerList leastSearch (blockUa.map String.toList) userAgent = true := by
  simp only [leastNginx, decide_eq_true_eq]

theorem leastSearch_escapeChars (text userAgent : List Char) :
    leastSearch true (PyStr.escapeChars text) userAgent =
      decide (PyStr.lowerList text <:+: PyStr.lowerList userAgent) := by
  rw [leastSearch, PyStr.reUnescape_escapeChars, decide_eq_true rfl, Bool.true_and, Bool.true_and]

/-- A search that finds something is one for an escaped text. -/
theorem of_leastSearch {caseless : Bool} {pattern userAgent : List Char}
    (h : leastSearch caseless pattern userAgent = true) :
    caseless = true ∧ ∃ text, pattern = PyStr.escapeChars text := by
  simp only [leastSearch, Bool.and_eq_true, decide_eq_true_eq] at h
  exact ⟨h.1.1, _, h.1.2.symm⟩

theorem entryTokens_inj {keys keys' : List String} {ts ts' : List Token}
    (h : entryTokens keys ++ .closeBrace :: ts = entryTokens keys' ++ .closeBrace :: ts') :
    keys = keys' := by
  induction keys generalizing keys' with
  | nil =>
    cases keys' with
    | nil => rfl
    | cons k' keys' => cases h
  | cons k keys ih =>
    cases keys' with
    | nil => cases h
    | cons k' keys' =>
      simp only [entryTokens, List.flatMap_cons, List.cons_append, List.nil_append,
        List.cons.injEq, Token.word.injEq, true_and] at h
      rw [String.toList_inj.1 h.1, ih h.2]

theorem fourBlocks_eq (blockUa throttleUa blockIp throttleIp : List String) :
    ∃ ts, fourBlocks blockUa throttleUa blockIp throttleIp =
      blockHead ["map", "$http_user_agent", "$waf_block_ua"] ++
        (entryTokens blockUa ++ .closeBrace :: ts) :=
  ⟨_, by rw [fourBlocks, blockTokens, List.append_assoc, List.append_assoc]; rfl⟩

theorem fourBlocks_inj {blockUa throttleUa blockIp throttleIp : List String}
    {blockUa' throttleUa' blockIp' throttleIp' : List String}
    (h : fourBlocks blockUa throttleUa blockIp throttleIp =
      fourBlocks blockUa' throttleUa' blockIp' throttleIp') : blockUa = blockUa' := by
  obtain ⟨ts, hts⟩ := fourBlocks_eq blockUa throttleUa blockIp throttleIp
  obtain ⟨ts', hts'⟩ := fourBlocks_eq blockUa' throttleUa' blockIp' throttleIp'
  rw [hts, hts'] at h
  exact entryTokens_inj (List.append_cancel_left h)

theorem documented_leastNginx : leastNginx.Documented where
  search_escapeChars := leastSearch_escapeChars
  blocksUa_eq := by
    intro file blockUa throttleUa blockIp throttleIp hlex hkeys userAgent
    rw [Bool.eq_iff_iff, blocksUa_leastNginx_iff]
    constructor
    · rintro ⟨blockUa', throttleUa', blockIp', throttleIp', hlex', -, hyields⟩
      rw [hlex', Option.some.injEq] at hlex
      rw [fourBlocks_inj hlex] at hyields
      exact hyields
    · exact fun hyields ↦ ⟨_, _, _, _, hlex, hkeys, hyields⟩

/-! ### The keys of a map that accepts one text -/

variable {keys : List (List Char)} {pattern text : List Char}

/-- **A map that accepts one text has it as a key**, and no text differs from it in case alone. -/
theorem exists_key_of_accepts
    (haccepts : ∀ text, yields PyStr.lowerList leastSearch keys text = true ↔ text = pattern) :
    (∃ k ∈ keys, key (meaning k) = .text pattern) ∧ Caseless pattern := by
  have hpattern := (haccepts pattern).2 rfl
  rw [yields, List.any_eq_true] at hpattern
  obtain ⟨k, hk, hkey⟩ := hpattern
  have hall : ∀ text, (key (meaning k)).accepts PyStr.lowerList leastSearch text = true →
      text = pattern := by
    intro text htext
    refine (haccepts text).1 ?_
    rw [yields, List.any_eq_true]
    exact ⟨k, hk, htext⟩
  rcases hcase : key (meaning k) with - | ⟨caseless, expression⟩ | value
  · rw [hcase] at hkey
    cases hkey
  · -- what the expression finds in a text, it finds in a longer one
    rw [hcase] at hkey hall
    obtain ⟨rfl, found, rfl⟩ := of_leastSearch hkey
    simp only [Key.accepts, leastSearch_escapeChars, decide_eq_true_eq] at hall
    have h₁ : found = pattern := hall found List.infix_rfl
    have h₂ : found ++ [' '] = pattern := hall (found ++ [' ']) (by
      rw [PyStr.lowerList, PyStr.lowerList, PyStr.lowerFrom_append_blank]
      exact (List.prefix_append _ _).isInfix)
    have hlength := congrArg List.length (h₁.trans h₂.symm)
    simp at hlength
  · rw [hcase] at hkey hall
    simp only [Key.accepts, decide_eq_true_eq] at hkey hall
    have hvalue : value = pattern := hall value rfl
    rw [hvalue] at hcase hall
    exact ⟨⟨k, hk, hcase⟩, fun text htext ↦ hall text htext.symm⟩

/-! ### The file of one rule -/

variable {now : ℚ} {r : BlockRule}

theorem uaRules_block_singleton (hrule : BlocksUaText now r) :
    uaRules .block (Db.forNginx ⟨[r], []⟩ now) = [r] := by
  have hactive : Db.activeBlockRules ⟨[r], []⟩ now = [r] := by
    simp [Db.activeBlockRules, hrule.active]
  simp [uaRules, Db.forNginx, hactive, hrule.ruleType, hrule.action]

theorem blockUaKeys_singleton (hrule : BlocksUaText now r) (hkey : mapKey r ≠ "") :
    blockUaKeys [r] now = [mapKey r] := by
  rw [blockUaKeys, uaRules_block_singleton hrule]
  simp [renderKeys, hkey]

/-- What stands behind the key of the one rule. -/
def behindKey : List Char :=
  " 1;\n".toList ++ ("\x7d\n\n".toList ++
    ((renderUaMap "$waf_throttle_ua" []).flatMap String.toList ++
      ((renderIpGeo "$waf_block_ip" []).flatMap String.toList ++
        ((renderIpGeo "$waf_throttle_ip" []).flatMap String.toList ++ []))))

theorem quote_not_mem_behindKey : '"' ∉ behindKey := by decide +kernel

theorem entry_append (k : String) (rest : List Char) :
    ([k].map entryLine).flatMap String.toList ++ rest =
      "    ".toList ++ (k.toList ++ (" 1;\n".toList ++ rest)) := by
  rw [List.map_singleton, List.flatMap_singleton, entryLine, String.toList_append,
    String.toList_append, List.append_assoc, List.append_assoc]

theorem generate_singleton (hrule : BlocksUaText now r) (hkey : mapKey r ≠ "") :
    generateNginxBlocklist ⟨[r], []⟩ now = headLines.flatMap String.toList ++
      (("map $http_user_agent " ++ "$waf_block_ua" ++ " \x7b\n    default 0;\n").toList ++
        ("    ".toList ++ ((mapKey r).toList ++ behindKey))) := by
  have hrules : ∀ r' ∈ [r], BlocksUaText now r' := List.forall_mem_singleton.2 hrule
  have hkeys := blockUaKeys_singleton hrule hkey
  rw [blockUaKeys] at hkeys
  rw [generateNginxBlocklist, blocklistLines_eq, renderUaMap_append, hkeys,
    uaRules_throttle_eq_nil hrules, ipRules_eq_nil hrules, ipRules_eq_nil hrules, entry_append,
    ← behindKey]

/-- **The tokens of the file of one rule**, from its key on. -/
theorem exists_of_lex_singleton (hrule : BlocksUaText now r) (hkey : mapKey r ≠ "")
    {ts : List Token} (hlex : lex (generateNginxBlocklist ⟨[r], []⟩ now) = some ts) :
    ∃ ts' s, lexFrom .blank ((mapKey r).toList ++ behindKey) = some (ts', s) ∧
      (s = .blank ∨ s = .comment) ∧
        ts = blockHead ["map", "$http_user_agent", "$waf_block_ua"] ++ ts' := by
  have hhead : lexFrom .blank "map $http_user_agent ".toList =
      some (["map", "$http_user_agent"].map fun w ↦ .word w.toList, .blank) := by decide
  have hname : OneWord "$waf_block_ua".toList := by decide
  have hindent : lexFrom .blank "    ".toList = some ([], .blank) := by decide
  have hsome : ∃ s, lexFrom .blank (generateNginxBlocklist ⟨[r], []⟩ now) = some (ts, s) ∧
      (s = .blank ∨ s = .comment) := by
    rcases lex_eq_some_iff.1 hlex with h | h
    · exact ⟨_, h, .inl rfl⟩
    · exact ⟨_, h, .inr rfl⟩
  obtain ⟨s, hlexFrom, hs⟩ := hsome
  rw [generate_singleton hrule hkey] at hlexFrom
  obtain ⟨p₁, h₁, hp₁⟩ := exists_of_lexFrom_append lexFrom_headLines hlexFrom
  obtain ⟨p₂, h₂, hp₂⟩ := exists_of_lexFrom_append (lexFrom_opening hhead hname) h₁
  obtain ⟨p₃, h₃, hp₃⟩ := exists_of_lexFrom_append hindent h₂
  refine ⟨p₃.1, s, ?_, hs, ?_⟩
  · have hstate : p₃.2 = s := by
      have h := congrArg Prod.snd hp₁
      rw [hp₂, hp₃] at h
      exact h.symm
    rw [h₃, ← hstate]
  · have h := congrArg Prod.fst hp₁
    rw [hp₂, hp₃] at h
    exact h

/-- In a file with four blocks, the keys of the first are tokens behind its head. -/
theorem exists_entries_of_fourBlocks {ts' : List Token}
    {blockUa throttleUa blockIp throttleIp : List String}
    (h : blockHead ["map", "$http_user_agent", "$waf_block_ua"] ++ ts' =
      fourBlocks blockUa throttleUa blockIp throttleIp) :
    ∃ ts, ts' = entryTokens blockUa ++ .closeBrace :: ts := by
  obtain ⟨ts, hts⟩ := fourBlocks_eq blockUa throttleUa blockIp throttleIp
  rw [hts] at h
  exact ⟨ts, List.append_cancel_left h⟩

/-! ### A quote that closes too early -/

variable {odd : Bool}

/-- **A pattern whose escaping fails** swallows the closing quote, or closes behind a backslash that
was meant for a quote. -/
theorem split_of_evenBeforeQuotes (h : evenBeforeQuotes odd pattern = false) :
    (∃ text', ∀ rest, lexFrom (inside odd text) (escapeQuotes pattern ++ '"' :: rest) =
        lexFrom (inside false text') rest) ∨
      ∃ u v, pattern = u ++ '"' :: v ∧
        ∀ rest, lexFrom (inside odd text) (escapeQuotes pattern ++ rest) =
          (lexFrom .closed (escapeQuotes v ++ rest)).map fun p ↦
            (.word (text.reverse ++ (escapeQuotes u ++ ['\\', '"'])) :: p.1, p.2) := by
  induction pattern generalizing odd text with
  | nil =>
    have hodd : odd = true := by simpa [evenBeforeQuotes] using h
    rw [hodd]
    exact .inl ⟨'"' :: text, fun rest ↦ lexFrom_cons_of_next rfl⟩
  | cons c pattern ih =>
    rw [evenBeforeQuotes] at h
    by_cases hquote : c = '"'
    · subst hquote
      rw [if_pos rfl] at h
      have hcons : escapeQuotes ('"' :: pattern) = '\\' :: '"' :: escapeQuotes pattern := rfl
      rw [hcons]
      cases odd with
      | true =>
        -- the backslash of the escape is itself escaped
        refine .inr ⟨[], pattern, rfl, fun rest ↦ ?_⟩
        have hbackslash : next (inside true text) '\\' = some ([], inside false ('\\' :: text)) :=
          rfl
        have hclose : next (inside false ('\\' :: text)) '"' =
            some ([.word ('"' :: '\\' :: text).reverse], .closed) := rfl
        rw [List.cons_append, lexFrom_cons_of_next hbackslash, List.cons_append, lexFrom, hclose,
          Option.bind_some]
        simp [escapeQuotes]
      | false =>
        have hbackslash : next (inside false text) '\\' = some ([], inside true ('\\' :: text)) :=
          rfl
        have hescaped : next (inside true ('\\' :: text)) '"' =
            some ([], inside false ('"' :: '\\' :: text)) := rfl
        rw [Bool.not_false, Bool.true_and] at h
        rcases @ih ('"' :: '\\' :: text) false h with ⟨text', hrest⟩ | ⟨u, v, rfl, hrest⟩
        · refine .inl ⟨text', fun rest ↦ ?_⟩
          rw [List.cons_append, lexFrom_cons_of_next hbackslash, List.cons_append,
            lexFrom_cons_of_next hescaped, hrest]
        · refine .inr ⟨'"' :: u, v, rfl, fun rest ↦ ?_⟩
          rw [List.cons_append, lexFrom_cons_of_next hbackslash, List.cons_append,
            lexFrom_cons_of_next hescaped, hrest]
          simp [escapeQuotes]
    · rw [if_neg hquote] at h
      have hcons : ∀ cs, escapeQuotes (c :: cs) = c :: escapeQuotes cs := fun cs ↦ by
        rw [escapeQuotes, List.flatMap_cons, if_neg hquote]
        rfl
      have hnext : next (inside odd text) c =
          some ([], inside (!odd && decide (c = '\\')) (c :: text)) := next_inside (.inr hquote)
      rw [hcons]
      rcases @ih (c :: text) _ h with ⟨text', hrest⟩ | ⟨u, v, rfl, hrest⟩
      · refine .inl ⟨text', fun rest ↦ ?_⟩
        rw [List.cons_append, lexFrom_cons_of_next hnext, hrest]
      · refine .inr ⟨c :: u, v, rfl, fun rest ↦ ?_⟩
        rw [List.cons_append, lexFrom_cons_of_next hnext, hrest, hcons]
        simp

/-- Behind a closing quote, a character that ends a token. -/
theorem endsWord_of_closed {c : Char} {cs : List Char} {p : List Token × State}
    (h : lexFrom .closed (c :: cs) = some p) : endsWord c = true := by
  obtain ⟨a, -, ha, -, -⟩ := lexFrom_cons_eq_some.1 h
  simp only [next] at ha
  split at ha
  · rename_i hblank
    simp [endsWord, hblank]
  split at ha
  · rename_i hsemicolon
    simp [endsWord, hsemicolon]
  split at ha
  · rename_i hbrace
    simp [endsWord, hbrace]
  · cases ha

theorem staysOutside_escapeQuotes (v : List Char) : StaysOutside (escapeQuotes v) := by
  induction v with
  | nil => exact staysOutside_nil
  | cons c v ih =>
    rw [escapeQuotes, List.flatMap_cons, ← escapeQuotes]
    by_cases hquote : c = '"'
    · rw [if_pos hquote]
      exact staysOutside_escaped_quote.append ih
    · rw [if_neg hquote]
      exact (staysOutside_singleton hquote).append ih

/-- The tokens behind a quote that closed too early have no quotes around them: the last quote
would start one that never ends. -/
theorem isBare_of_lexFrom_closed {v rest : List Char} {ts : List Token} {s : State}
    (hrest : '"' ∉ rest) (hs : s = .blank ∨ s = .comment)
    (h : lexFrom .closed (escapeQuotes v ++ '"' :: rest) = some (ts, s)) :
    ∀ t ∈ ts, t.isBare = true := by
  rw [lexFrom_append, Option.bind_eq_some_iff] at h
  obtain ⟨a, ha, h⟩ := h
  rw [Option.map_eq_some_iff] at h
  obtain ⟨b, hb, hp⟩ := h
  obtain ⟨hoff, hbare⟩ := staysOutside_escapeQuotes v _ _ rfl ha
  obtain ⟨c, d, hc, hd, rfl⟩ := lexFrom_cons_eq_some.1 hb
  have hne : a.2 ≠ .blank := by
    intro hblank
    rw [hblank] at hc
    cases hc
    obtain ⟨escaped', text', hinside⟩ :=
      @lexFrom_inside_of_not_mem ['"'] rest false hrest
    have hstate : s = inside escaped' text' := by
      have h := congrArg Prod.snd hp
      have hd' : d = ([], inside escaped' text') := Option.some.inj (hd.symm.trans hinside)
      rw [hd'] at h
      exact h.symm
    rcases hs with hs | hs
    · exact (inside_ne_blank).1 (hstate.symm.trans hs)
    · exact (inside_ne_blank).2 (hstate.symm.trans hs)
  obtain ⟨hoff', hbare'⟩ := isOutside_next hoff (fun _ ↦ hne) hc
  obtain ⟨-, hbare''⟩ := staysOutside_of_not_mem hrest _ _ hoff' hd
  have hts : ts = a.1 ++ (c.1 ++ d.1) := (congrArg Prod.fst hp).symm
  rw [hts]
  intro t ht
  rcases List.mem_append.1 ht with ht | ht
  · exact hbare t ht
  rcases List.mem_append.1 ht with ht | ht
  · exact hbare' t ht
  · exact hbare'' t ht

/-! ### Lengths -/

theorem length_unescape_escapeQuotes_le (text rest : List Char) :
    (unescape odd (escapeQuotes text ++ rest)).length ≤ text.length + rest.length + odd.toNat := by
  induction text generalizing odd with
  | nil =>
    have h := @length_unescape_le rest odd
    simpa [escapeQuotes] using h
  | cons c text ih =>
    have hfalse := @ih false
    have htrue := @ih true
    simp only [Bool.toNat_false, Bool.toNat_true, Nat.add_zero] at hfalse htrue
    rw [escapeQuotes, List.flatMap_cons, ← escapeQuotes, List.length_cons]
    by_cases hquote : c = '"'
    · cases odd with
      | false =>
        simp only [hquote, if_true, List.cons_append, List.nil_append, unescape]
        simp only [decide_true, Bool.true_or, if_true, List.length_cons, Bool.toNat_false]
        omega
      | true =>
        simp only [hquote, if_true, List.cons_append, List.nil_append, unescape]
        simp only [decide_true, Bool.or_true, if_true, Bool.toNat_true]
        simp only [Char.reduceEq, if_false, List.length_cons, Nat.add_le_add_iff_right]
        omega
    · rw [if_neg hquote]
      cases odd with
      | false =>
        rw [List.singleton_append, List.cons_append, unescape]
        split
        · simpa [Nat.add_right_comm] using htrue
        · rw [List.length_cons, Bool.toNat_false]
          omega
      | true =>
        rw [List.singleton_append, List.cons_append, unescape]
        split
        · rw [List.length_cons, Bool.toNat_true]
          omega
        · rw [List.length_cons, List.length_cons, Bool.toNat_true]
          omega

/-- A backslash that is not alone makes the key shorter than its pattern. -/
theorem length_unescape_lt (heven : evenBeforeQuotes odd text = true)
    (hlone : loneBackslashes odd text = false) :
    (unescape odd (escapeQuotes text)).length < text.length + odd.toNat := by
  induction text generalizing odd with
  | nil =>
    rw [loneBackslashes] at hlone
    rw [evenBeforeQuotes, hlone] at heven
    cases heven
  | cons c text ih =>
    rw [loneBackslashes] at hlone
    rw [evenBeforeQuotes] at heven
    rw [escapeQuotes, List.flatMap_cons, ← escapeQuotes, List.length_cons]
    by_cases hquote : c = '"'
    · subst hquote
      rw [if_pos rfl, Bool.and_eq_true, Bool.not_eq_true'] at heven
      rw [heven.1] at hlone ⊢
      have hih : (unescape false (escapeQuotes text)).length < text.length := ih heven.2 hlone
      simp [unescape, hih]
    rw [if_neg hquote] at heven
    rw [if_neg hquote, List.singleton_append]
    by_cases hbackslash : c = '\\'
    · subst hbackslash
      cases odd with
      | false =>
        have hih := ih heven hlone
        simpa [unescape] using hih
      | true =>
        have hle := @length_unescape_escapeQuotes_le false text []
        simp only [List.append_nil, List.length_nil, Nat.add_zero, Bool.toNat_false] at hle
        simp only [unescape, decide_true, Bool.or_true, if_true, List.length_cons,
          Bool.toNat_true]
        omega
    · have heven' : evenBeforeQuotes false text = true := by simpa [hbackslash] using heven
      cases odd with
      | false =>
        have hlone' : loneBackslashes false text = false := by simpa [hbackslash] using hlone
        have hih : (unescape false (escapeQuotes text)).length < text.length := ih heven' hlone'
        simp [unescape, hbackslash, hih]
      | true =>
        by_cases hsingle : c = '\x27'
        · have hle := @length_unescape_escapeQuotes_le false text []
          simp only [List.append_nil, List.length_nil, Nat.add_zero, Bool.toNat_false] at hle
          simp only [unescape, hsingle, decide_true, Bool.true_or, Bool.or_true, if_true,
            List.length_cons, Bool.toNat_true]
          omega
        · have hlone' : loneBackslashes false text = false := by
            simpa [hbackslash, hquote, hsingle] using hlone
          have hih : (unescape false (escapeQuotes text)).length < text.length := ih heven' hlone'
          simp [unescape, hbackslash, hquote, hsingle, hih]

/-! ### Exact rules -/

/-- A key that is a text, and the token it comes from. -/
theorem length_le_of_key_eq_text (h : key text = .text pattern) : pattern.length ≤ text.length := by
  rcases of_key_eq_text h with ⟨-, rfl⟩ | rfl
  · exact le_rfl
  · exact Nat.le_succ _

/-- **Behind a quote that closed too early**, no key is the pattern: the first is shorter, and the
others have no character that ends a token. -/
theorem false_of_split {u v : List Char} {k : String} {ts : List Token} {s : State}
    (hs : s = .blank ∨ s = .comment)
    (hlex : (lexFrom .closed (escapeQuotes v ++ '"' :: behindKey)).map (fun p ↦
      (.word ('"' :: (escapeQuotes u ++ ['\\', '"'])) :: p.1, p.2)) = some (ts, s))
    (hk : .word k.toList ∈ ts) (hsub : u ++ '"' :: v <:+: pattern)
    (hkey : key (meaning k.toList) = .text pattern) : False := by
  rw [Option.map_eq_some_iff] at hlex
  obtain ⟨p, hp, hts⟩ := hlex
  -- something that ends a token is in the pattern
  obtain ⟨c, v', rfl, hc⟩ : ∃ c v', v = c :: v' ∧ endsWord c = true := by
    cases v with
    | nil =>
      have hends := endsWord_of_closed hp
      cases hends
    | cons c v' =>
      refine ⟨c, v', rfl, ?_⟩
      by_cases hquote : c = '"'
      · subst hquote
        have hends := endsWord_of_closed hp
        cases hends
      · have hcons : escapeQuotes (c :: v') = c :: escapeQuotes v' := by
          rw [escapeQuotes, List.flatMap_cons, if_neg hquote]
          rfl
        rw [hcons, List.cons_append] at hp
        exact endsWord_of_closed hp
  have hmem : c ∈ pattern := hsub.subset (by simp)
  have hbare := isBare_of_lexFrom_closed quote_not_mem_behindKey
    (hs.imp (fun h ↦ (congrArg Prod.snd hts).trans h) fun h ↦ (congrArg Prod.snd hts).trans h) hp
  have htokens : .word ('"' :: (escapeQuotes u ++ ['\\', '"'])) :: p.1 = ts :=
    congrArg Prod.fst hts
  have hmem' : .word k.toList ∈ .word ('"' :: (escapeQuotes u ++ ['\\', '"'])) :: p.1 := by
    rw [htokens]
    exact hk
  rcases List.mem_cons.1 hmem' with hfirst | hrest
  · have hk' : k.toList = '"' :: (escapeQuotes u ++ ['\\']) ++ ['"'] := by simpa using hfirst
    have hlength := length_le_of_key_eq_text hkey
    have hle := @length_unescape_escapeQuotes_le false u ['\\']
    rw [hk', meaning_quote] at hlength
    have hsublength := hsub.length_le
    simp only [List.length_append, List.length_cons, List.length_nil, Bool.toNat_false]
      at hle hsublength
    omega
  · have hword := hbare _ hrest
    simp only [Token.isBare, Bool.and_eq_true, decide_eq_true_eq] at hword
    rw [meaning_of_head? hword.1] at hkey
    have hk' : c ∈ k.toList := by
      rcases of_key_eq_text hkey with ⟨-, h⟩ | h
      · rwa [← h]
      · rw [h]
        exact List.mem_cons_of_mem _ hmem
    have hends := List.all_eq_true.1 hword.2 c hk'
    rw [hc] at hends
    cases hends

variable {cf : Conf}

theorem blocks_iff_of_agrees (h : Agrees cf now leastNginx [r]) (hmatch : r.matchType = .exact)
    (userAgent : List Char) :
    leastNginx.blocksUa (generateNginxBlocklist ⟨[r], []⟩ now) userAgent = true ↔
      userAgent = r.pattern.toList := by
  have h' := h (String.ofList userAgent)
  rw [String.toList_ofList] at h'
  rw [h']
  constructor
  · rintro ⟨r', hr', haccepts⟩
    obtain rfl := List.mem_singleton.1 hr'
    rw [hmatch, matchUa_exact_iff, String.toList_ofList] at haccepts
    exact haccepts
  · intro heq
    refine ⟨r, List.mem_singleton_self r, ?_⟩
    rw [hmatch, matchUa_exact_iff, String.toList_ofList]
    exact heq

/-- The map of the one rule has four blocks, and its first block accepts the pattern only. -/
theorem exists_fourBlocks_of_agrees (h : Agrees cf now leastNginx [r])
    (hmatch : r.matchType = .exact) :
    ∃ blockUa throttleUa blockIp throttleIp, lex (generateNginxBlocklist ⟨[r], []⟩ now) =
        some (fourBlocks blockUa throttleUa blockIp throttleIp) ∧
      ∀ userAgent, yields PyStr.lowerList leastSearch (blockUa.map String.toList) userAgent = true ↔
        userAgent = r.pattern.toList := by
  have hblocks := blocks_iff_of_agrees h hmatch
  obtain ⟨blockUa, throttleUa, blockIp, throttleIp, hlex, hkeys, -⟩ :=
    blocksUa_leastNginx_iff.1 ((hblocks r.pattern.toList).2 rfl)
  refine ⟨blockUa, throttleUa, blockIp, throttleIp, hlex, fun userAgent ↦ ?_⟩
  rw [← hblocks, documented_leastNginx.blocksUa_eq hlex hkeys]
  rfl

theorem matchUa_self (cf : Conf) (pattern : String) {matchType : MatchType}
    (hmatch : matchType = .exact ∨ matchType = .contains) :
    matchUa cf pattern pattern matchType = true := by
  rcases hmatch with rfl | rfl
  · exact matchUa_exact_iff.2 rfl
  · exact matchUa_contains_iff.2 List.infix_rfl

/-- A rule whose pattern is blank has no key, and matches its pattern. -/
theorem stripText_ne_of_agrees (hrule : BlocksUaText now r) (h : Agrees cf now leastNginx [r]) :
    PyStr.stripText r.pattern ≠ "" := by
  intro hempty
  have hkey : mapKey r = "" := by rw [mapKey, nginxEscapeUa.eq_def]; simp only [hempty, if_true]
  have hrules : ∀ r' ∈ [r], BlocksUaText now r' := List.forall_mem_singleton.2 hrule
  have hone : ∀ r' ∈ [r], rendersOneKey r' = true :=
    List.forall_mem_singleton.2 (rendersOneKey_of_mapKey_eq hrule.ruleType hkey)
  have hkeys : ∀ r' ∈ [r], mapKey r' ≠ "" → key (meaning (mapKey r').toList) ≠ .directive :=
    List.forall_mem_singleton.2 fun hne ↦ absurd hkey hne
  have hblocks := (h r.pattern).2
    ⟨r, List.mem_singleton_self r, matchUa_self cf r.pattern hrule.matchType⟩
  rw [blocksUa_iff documented_leastNginx hrules hone hkeys] at hblocks
  obtain ⟨r', hr', hne, -⟩ := hblocks
  rw [List.mem_singleton.1 hr'] at hne
  exact hne hkey

theorem mem_entryTokens {k : String} {keys : List String} (hk : k ∈ keys) :
    .word k.toList ∈ entryTokens keys :=
  List.mem_flatMap.2 ⟨k, hk, List.mem_cons_self ..⟩

/-- The escaping of the pattern does not fail. -/
theorem evenBeforeQuotes_of_agrees (hrule : BlocksUaText now r) (hmatch : r.matchType = .exact)
    (h : Agrees cf now leastNginx [r]) :
    evenBeforeQuotes false (PyStr.stripText r.pattern).toList = true := by
  by_contra heven
  rw [Bool.not_eq_true] at heven
  have hempty := stripText_ne_of_agrees hrule h
  obtain ⟨blockUa, throttleUa, blockIp, throttleIp, hlex, haccepts⟩ :=
    exists_fourBlocks_of_agrees h hmatch
  obtain ⟨⟨text, htext, hkey⟩, -⟩ := exists_key_of_accepts haccepts
  obtain ⟨k, hk, rfl⟩ := List.mem_map.1 htext
  obtain ⟨ts, s, hlexFrom, hs, hts⟩ :=
    exists_of_lex_singleton hrule (mapKey_ne hrule.matchType hempty) hlex
  obtain ⟨ts', rfl⟩ := exists_entries_of_fourBlocks hts.symm
  have hnext : next .blank '"' = some ([], inside false ['"']) := rfl
  rw [mapKey_of_exact hmatch hempty, List.cons_append, List.cons_append,
    lexFrom_cons_of_next hnext, List.append_assoc, List.singleton_append] at hlexFrom
  rcases @split_of_evenBeforeQuotes _ ['"'] _ heven with ⟨text', hrest⟩ | ⟨u, v, huv, hrest⟩
  · -- the closing quote is inside the token, and there is no other
    obtain ⟨escaped', text'', hinside⟩ :=
      @lexFrom_inside_of_not_mem text' behindKey false quote_not_mem_behindKey
    rw [hrest, hinside] at hlexFrom
    have hstate : inside escaped' text'' = s := congrArg Prod.snd (Option.some.inj hlexFrom)
    rcases hs with hs | hs
    · exact inside_ne_blank.1 (hstate.trans hs)
    · exact inside_ne_blank.2 (hstate.trans hs)
  · rw [hrest] at hlexFrom
    have hsub := PyStr.stripText_infix r.pattern
    rw [huv] at hsub
    exact false_of_split hs hlexFrom (List.mem_append_left _ (mem_entryTokens hk)) hsub hkey

/-- **An exact rule whose table agrees means the same.** -/
theorem sameAtEdge_of_agrees_exact (hrule : BlocksUaText now r) (hmatch : r.matchType = .exact)
    (h : Agrees cf now leastNginx [r]) : SameAtEdge r := by
  have hempty := stripText_ne_of_agrees hrule h
  have heven := evenBeforeQuotes_of_agrees hrule hmatch h
  obtain ⟨blockUa, throttleUa, blockIp, throttleIp, hlex, haccepts⟩ :=
    exists_fourBlocks_of_agrees h hmatch
  obtain ⟨⟨text, htext, hkey⟩, hcase⟩ := exists_key_of_accepts haccepts
  obtain ⟨k, hk, rfl⟩ := List.mem_map.1 htext
  have hrules : ∀ r' ∈ [r], BlocksUaText now r' := List.forall_mem_singleton.2 hrule
  have hone : ∀ r' ∈ [r], rendersOneKey r' = true := List.forall_mem_singleton.2 (by
    simp only [rendersOneKey, hrule.ruleType, hmatch, heven, Bool.or_true])
  have hmapKey := mapKey_ne hrule.matchType hempty
  have hblock : blockUa = [mapKey r] := by
    have hlex' := lex_generate_of_rendersOneKey hrules hone
    rw [hlex, Option.some.injEq] at hlex'
    rw [fourBlocks_inj hlex', blockUaKeys_singleton hrule hmapKey]
  rw [hblock] at hk
  obtain rfl := List.mem_singleton.1 hk
  rw [mapKey_of_exact hmatch hempty, meaning_quote] at hkey
  -- nothing was stripped and nothing unescaped: the key is as long as the pattern
  have hsub := PyStr.stripText_infix r.pattern
  have hle := @length_unescape_escapeQuotes_le false (PyStr.stripText r.pattern).toList []
  simp only [List.append_nil, List.length_nil, Nat.add_zero, Bool.toNat_false] at hle
  have hplain : isPlainKey (unescape false (escapeQuotes (PyStr.stripText r.pattern).toList)) =
      true ∧ r.pattern.toList =
        unescape false (escapeQuotes (PyStr.stripText r.pattern).toList) := by
    rcases of_key_eq_text hkey with hplain | hbackslash
    · exact hplain
    · rw [hbackslash, List.length_cons] at hle
      have hlength := hsub.length_le
      omega
  obtain ⟨hplain, hpattern⟩ := hplain
  have hstrip : (PyStr.stripText r.pattern).toList = r.pattern.toList := by
    refine hsub.eq_of_length (le_antisymm hsub.length_le ?_)
    rw [hpattern]
    exact hle
  rw [hstrip] at hpattern heven hplain
  rw [← hpattern] at hplain
  have hlone : loneBackslashes false r.pattern.toList = true := by
    by_contra hnot
    have hlt := length_unescape_lt heven (Bool.eq_false_iff.2 hnot)
    rw [← hpattern] at hlt
    exact absurd hlt (lt_irrefl _)
  have hstrip' : PyStr.stripText r.pattern = r.pattern := String.toList_inj.1 hstrip
  rw [hstrip'] at hempty
  refine ⟨hempty, hstrip', fun _ ↦ ⟨hlone, hcase, hplain⟩, fun hcontains ↦ ?_⟩
  rw [hmatch] at hcontains
  cases hcontains

/-! ### `contains` rules -/

/-- A text with a quote, escaped, closes at it; what stands behind it is escaped as well. -/
theorem split_of_quote_mem (h : '"' ∈ pattern) :
    ∃ word v, ∀ rest, lexFrom (inside false text) (PyStr.escapeChars pattern ++ rest) =
      (lexFrom .closed (PyStr.escapeChars v ++ rest)).map fun p ↦ (.word word :: p.1, p.2) := by
  induction pattern generalizing text with
  | nil => cases h
  | cons c pattern ih =>
    rw [PyStr.escapeChars_cons]
    by_cases hquote : c = '"'
    · subst hquote
      refine ⟨('"' :: text).reverse, pattern, fun rest ↦ ?_⟩
      have hclose : next (inside false text) '"' = some ([.word ('"' :: text).reverse], .closed) :=
        rfl
      rw [PyStr.isReSpecial_quote, if_neg Bool.false_ne_true, List.singleton_append,
        List.cons_append, lexFrom, hclose, Option.bind_some]
      simp
    have hmem : '"' ∈ pattern := by simpa [Ne.symm hquote] using h
    by_cases hc : PyStr.isReSpecial c = true
    · have hbackslash : next (inside false text) '\\' = some ([], inside true ('\\' :: text)) := rfl
      have hescaped : next (inside true ('\\' :: text)) c =
          some ([], inside false (c :: '\\' :: text)) := rfl
      obtain ⟨word, v, hrest⟩ := @ih (c :: '\\' :: text) hmem
      refine ⟨word, v, fun rest ↦ ?_⟩
      rw [if_pos hc, List.append_assoc, List.cons_append, lexFrom_cons_of_next hbackslash,
        List.cons_append, lexFrom_cons_of_next hescaped, List.nil_append, hrest]
    · have hbackslash : c ≠ '\\' := fun h ↦ hc (h ▸ PyStr.isReSpecial_backslash)
      have hnext : next (inside false text) c = some ([], inside false (c :: text)) := by
        simp [inside, next, hbackslash, hquote]
      obtain ⟨word, v, hrest⟩ := @ih (c :: text) hmem
      refine ⟨word, v, fun rest ↦ ?_⟩
      rw [if_neg hc, List.append_assoc, List.singleton_append, lexFrom_cons_of_next hnext, hrest]

/-- Behind a quote that closed an escaped text, nothing but a semicolon is read. -/
theorem semicolon_of_closed {v rest : List Char} {ts : List Token} {s : State}
    (h : lexFrom .closed (PyStr.escapeChars v ++ '"' :: rest) = some (ts, s)) :
    ∃ ts', ts = .semicolon :: ts' := by
  cases v with
  | nil =>
    have hends := endsWord_of_closed h
    cases hends
  | cons c v =>
    rw [PyStr.escapeChars_cons] at h
    by_cases hc : PyStr.isReSpecial c = true
    · rw [if_pos hc] at h
      have hends := endsWord_of_closed h
      cases hends
    · rw [if_neg hc, List.append_assoc, List.singleton_append] at h
      have hends := endsWord_of_closed h
      have hspecial : ∀ d ∈ [' ', '\t', '\r', '\n', '{'], PyStr.isReSpecial d = true := by
        decide +kernel
      have hc' : c = ';' := by
        by_contra hne
        refine hc (hspecial c ?_)
        simpa [endsWord, isBlank, hne, or_assoc] using hends
      subst hc'
      obtain ⟨a, b, ha, -, hp⟩ := lexFrom_cons_eq_some.1 h
      have hnext : next .closed ';' = some ([.semicolon], .blank) := rfl
      rw [hnext, Option.some.injEq] at ha
      subst ha
      exact ⟨b.1, congrArg Prod.fst hp⟩

/-- The pattern has no quote. -/
theorem quote_not_mem_of_agrees (hrule : BlocksUaText now r) (hmatch : r.matchType = .contains)
    (h : Agrees cf now leastNginx [r]) : '"' ∉ (PyStr.stripText r.pattern).toList := by
  intro hquote
  have hempty := stripText_ne_of_agrees hrule h
  have hblocks := (h r.pattern).2
    ⟨r, List.mem_singleton_self r, matchUa_self cf r.pattern hrule.matchType⟩
  obtain ⟨blockUa, throttleUa, blockIp, throttleIp, hlex, -, -⟩ :=
    blocksUa_leastNginx_iff.1 hblocks
  obtain ⟨ts, s, hlexFrom, -, hts⟩ :=
    exists_of_lex_singleton hrule (mapKey_ne hrule.matchType hempty) hlex
  obtain ⟨ts', rfl⟩ := exists_entries_of_fourBlocks hts.symm
  have hnext : next .blank '"' = some ([], inside false ['"']) := rfl
  have htilde : next (inside false ['"']) '~' = some ([], inside false ['~', '"']) := rfl
  have hasterisk : next (inside false ['~', '"']) '*' = some ([], inside false ['*', '~', '"']) :=
    rfl
  rw [mapKey_of_contains hmatch hempty, List.cons_append, List.cons_append,
    lexFrom_cons_of_next hnext, List.append_assoc, List.cons_append, lexFrom_cons_of_next htilde,
    List.cons_append, lexFrom_cons_of_next hasterisk, List.singleton_append] at hlexFrom
  obtain ⟨word, v, hrest⟩ := @split_of_quote_mem _ ['*', '~', '"'] hquote
  rw [hrest, Option.map_eq_some_iff] at hlexFrom
  obtain ⟨p, hp, hps⟩ := hlexFrom
  obtain ⟨ts'', hsemicolon⟩ := semicolon_of_closed hp
  have htokens := congrArg Prod.fst hps
  simp only [hsemicolon] at htokens
  cases blockUa with
  | nil => cases htokens
  | cons k blockUa => cases htokens

/-- The backslashes of an escaped text. -/
theorem count_escapeChars (text : List Char) : (PyStr.escapeChars text).count '\\' =
    2 * text.count '\\' + text.countP fun c ↦ c ≠ '\\' && PyStr.isReSpecial c := by
  induction text with
  | nil => rfl
  | cons c text ih =>
    rw [PyStr.escapeChars_cons, List.count_append, ih, List.countP_cons, List.count_cons]
    by_cases hbackslash : c = '\\'
    · simp [hbackslash, PyStr.isReSpecial_backslash]
      omega
    by_cases hc : PyStr.isReSpecial c = true
    · simp [hbackslash, hc]
      omega
    · simp [hbackslash, hc]

theorem filter_escapeChars (text : List Char) :
    (PyStr.escapeChars text).filter (· ≠ '\\') = text.filter (· ≠ '\\') := by
  induction text with
  | nil => rfl
  | cons c text ih =>
    rw [PyStr.escapeChars_cons, List.filter_append, ih, List.filter_cons]
    by_cases hbackslash : c = '\\'
    · simp [hbackslash, PyStr.isReSpecial_backslash]
    by_cases hc : PyStr.isReSpecial c = true
    · simp [hbackslash, hc]
    · simp [hbackslash, hc]

/-- And those of an escaped text between quotes. -/
theorem count_unescape_escapeChars (h : '"' ∉ text) :
    (unescape false (PyStr.escapeChars text)).count '\\' =
      text.count '\\' + text.countP fun c ↦ c ≠ '\\' && PyStr.isReSpecial c := by
  rw [unescape_escapeChars h]
  clear h
  induction text with
  | nil => rfl
  | cons c text ih =>
    rw [List.flatMap_cons, List.count_append, ih, List.countP_cons, List.count_cons]
    by_cases hbackslash : c = '\\'
    · simp [hbackslash]
      omega
    by_cases hc : PyStr.isReSpecial c = true
    · simp [hbackslash, hc]
      omega
    · simp [hbackslash, hc]

theorem filter_unescape_escapeChars (h : '"' ∉ text) :
    (unescape false (PyStr.escapeChars text)).filter (· ≠ '\\') = text.filter (· ≠ '\\') := by
  rw [unescape_escapeChars h]
  clear h
  induction text with
  | nil => rfl
  | cons c text ih =>
    rw [List.flatMap_cons, List.filter_append, ih, List.filter_cons]
    by_cases hbackslash : c = '\\'
    · simp [hbackslash]
    by_cases hc : PyStr.isReSpecial c = true
    · simp [hbackslash, hc]
    · simp [hbackslash, hc]

theorem isCaseless_backslash : PyStr.isCaseless '\\' = true := by decide +kernel

/-- **An escaped text that reads as another one** between quotes has twice its backslashes, and is
the same but for them. -/
theorem backslashes_of_escapeChars_eq {found : List Char} (h : '"' ∉ text)
    (heq : unescape false (PyStr.escapeChars text) = PyStr.escapeChars found) :
    text.count '\\' = 2 * found.count '\\' ∧ text.filter (· ≠ '\\') = found.filter (· ≠ '\\') := by
  have hfilter : text.filter (· ≠ '\\') = found.filter (· ≠ '\\') := by
    rw [← filter_unescape_escapeChars h, heq, filter_escapeChars]
  have hcount := count_unescape_escapeChars h
  rw [heq, count_escapeChars] at hcount
  have hspecial : ∀ l : List Char, l.countP (fun c ↦ c ≠ '\\' && PyStr.isReSpecial c) =
      (l.filter (· ≠ '\\')).countP PyStr.isReSpecial := by
    intro l
    rw [List.countP_filter]
    refine List.countP_congr fun c _ ↦ ?_
    rw [Bool.and_comm]
  rw [hspecial, hspecial, hfilter] at hcount
  exact ⟨by omega, hfilter⟩

/-- **A `contains` rule whose table agrees means the same.** -/
theorem sameAtEdge_of_agrees_contains (hrule : BlocksUaText now r)
    (hmatch : r.matchType = .contains) (h : Agrees cf now leastNginx [r]) :
    SameAtEdge r := by
  have hempty := stripText_ne_of_agrees hrule h
  have hquote := quote_not_mem_of_agrees hrule hmatch h
  have hrules : ∀ r' ∈ [r], BlocksUaText now r' := List.forall_mem_singleton.2 hrule
  have hone : ∀ r' ∈ [r], rendersOneKey r' = true := List.forall_mem_singleton.2 (by
    simp [rendersOneKey, hrule.ruleType, hmatch, hquote])
  have htilde : ∀ text, unescape false ('~' :: '*' :: text) = '~' :: '*' :: unescape false text :=
    fun _ ↦ rfl
  have hkey : key (meaning (mapKey r).toList) =
      .regex true (unescape false (PyStr.escapeChars (PyStr.stripText r.pattern).toList)) := by
    rw [mapKey_of_contains hmatch hempty, meaning_quote, htilde, key_regex]
  have hkeys : ∀ r' ∈ [r], mapKey r' ≠ "" → key (meaning (mapKey r').toList) ≠ .directive := by
    refine List.forall_mem_singleton.2 fun _ ↦ ?_
    rw [hkey]
    exact Key.noConfusion
  -- what the expression finds is what the middleware finds
  have hfinds : ∀ userAgent, leastSearch true
      (unescape false (PyStr.escapeChars (PyStr.stripText r.pattern).toList)) userAgent = true ↔
        PyStr.lowerList r.pattern.toList <:+: PyStr.lowerList userAgent := by
    intro userAgent
    have h' := h (String.ofList userAgent)
    have hsearch : leastNginx.search = leastSearch := rfl
    rw [blocksUa_iff documented_leastNginx hrules hone hkeys, String.toList_ofList, hsearch] at h'
    simp only [List.mem_singleton, exists_eq_left, hkey, hmatch, matchUa_contains_iff,
      String.toList_ofList, Key.accepts,
      and_iff_right (mapKey_ne hrule.matchType hempty)] at h'
    exact h'
  obtain ⟨-, found, hfound⟩ := of_leastSearch ((hfinds r.pattern.toList).2 List.infix_rfl)
  simp only [hfound, leastSearch_escapeChars, decide_eq_true_eq] at hfinds
  obtain ⟨hcount, hfilter⟩ := backslashes_of_escapeChars_eq hquote hfound
  have hsub := PyStr.stripText_infix r.pattern
  -- both find one another, so their lower cases are one text
  have hlower : PyStr.lowerFrom [] found = PyStr.lowerFrom [] r.pattern.toList :=
    ((hfinds r.pattern.toList).2 List.infix_rfl).eq_of_length_le
      ((hfinds found).1 List.infix_rfl).length_le
  have hbackslashes : found.count '\\' = r.pattern.toList.count '\\' := by
    rw [← PyStr.count_lowerFrom isCaseless_backslash [] found, hlower,
      PyStr.count_lowerFrom isCaseless_backslash]
  have hcountLe := hsub.sublist.count_le '\\'
  have hnone : ∀ text : List Char, text.count '\\' = 0 → text.filter (· ≠ '\\') = text := by
    intro text hzero
    refine List.filter_eq_self.2 fun c hc ↦ decide_eq_true fun h ↦ ?_
    exact List.count_eq_zero.1 hzero (h ▸ hc)
  rw [hnone _ (by omega), hnone _ (by omega)] at hfilter
  have hlength := congrArg List.length hlower
  rw [← hfilter, PyStr.length_lowerFrom, PyStr.length_lowerFrom] at hlength
  have hdotted := hsub.sublist.countP_le (p := fun c : Char ↦ decide (c.toNat = 0x130))
  have hstrip : (PyStr.stripText r.pattern).toList = r.pattern.toList :=
    hsub.eq_of_length (le_antisymm hsub.length_le (by omega))
  have hbackslash : '\\' ∉ r.pattern.toList := by
    rw [← List.count_eq_zero]
    omega
  have hstrip' : PyStr.stripText r.pattern = r.pattern := String.toList_inj.1 hstrip
  rw [hstrip'] at hempty hquote
  refine ⟨hempty, hstrip', fun hexact ↦ ?_, fun _ ↦ ?_⟩
  · rw [hmatch] at hexact
    cases hexact
  · simp [sameContains, hquote, hbackslash]

/-- One rule, alone in its table. -/
theorem sameAtEdge_of_agrees (hrule : BlocksUaText now r) (h : Agrees cf now leastNginx [r]) :
    SameAtEdge r := by
  rcases hrule.matchType with hmatch | hmatch
  · exact sameAtEdge_of_agrees_exact hrule hmatch h
  · exact sameAtEdge_of_agrees_contains hrule hmatch h

/-! ### Whole tables -/

/-- **The map and the middleware agree**, on every table that can be made of some rules and with
every server, exactly when each of the rules means the same to both. -/
theorem edge_agrees_iff (cf : Conf) (now : ℚ) {stock : List BlockRule}
    (hstock : ∀ r ∈ stock, BlocksUaText now r) :
    (∀ server : Nginx, server.Documented → ∀ rules ⊆ stock, Agrees cf now server rules) ↔
      ∀ r ∈ stock, SameAtEdge r := by
  constructor
  · intro h r hr
    have hsub : [r] ⊆ stock := List.cons_subset.2 ⟨hr, List.nil_subset stock⟩
    exact sameAtEdge_of_agrees (hstock r hr) (h leastNginx documented_leastNginx [r] hsub)
  · exact fun h server hserver rules hrules ↦ agrees_of_sameAtEdge hserver
      (fun r hr ↦ hstock r (hrules hr)) fun r hr ↦ h r (hrules hr)

/-- An active rule that blocks user agents. -/
def uaRule (matchType : MatchType) (pattern : String) : BlockRule where
  id := 0
  name := ""
  ruleType := .ua
  matchType := matchType
  pattern := pattern
  action := .block
  priority := 100
  isActive := true
  source := .admin
  expiresAt := none
  reviewStatus := .notApplicable
  reviewedAt := none
  detectors := ""
  createdAt := 0

theorem blocksUaText_uaRule {matchType : MatchType}
    (hmatch : matchType = .exact ∨ matchType = .contains) (pattern : String) :
    BlocksUaText 0 (uaRule matchType pattern) :=
  ⟨rfl, rfl, rfl, hmatch⟩

/-- A text without letters, and a word with a special character. -/
theorem dash_and_word_agree :
    (∀ r ∈ [uaRule .exact "-", uaRule .contains "sqlmap/1."], BlocksUaText 0 r) ∧
      ∀ server : Nginx, server.Documented →
        ∀ rules ⊆ [uaRule .exact "-", uaRule .contains "sqlmap/1."],
          Agrees plainConf 0 server rules := by
  have hstock : ∀ r ∈ [uaRule .exact "-", uaRule .contains "sqlmap/1."], BlocksUaText 0 r := by
    refine List.forall_mem_cons.2 ⟨blocksUaText_uaRule (.inl rfl) _, ?_⟩
    exact List.forall_mem_singleton.2 (blocksUaText_uaRule (.inr rfl) _)
  have hdash : SameAtEdge (uaRule .exact "-") := by
    refine ⟨by decide, by decide +kernel, fun _ ↦ ⟨by decide +kernel, ?_, by decide +kernel⟩,
      fun h ↦ by cases h⟩
    exact caseless_of_forall (by decide +kernel)
  have hword : SameAtEdge (uaRule .contains "sqlmap/1.") :=
    ⟨by decide, by decide +kernel, fun h ↦ (by cases h), fun _ ↦ by decide +kernel⟩
  exact ⟨hstock, (edge_agrees_iff plainConf 0 hstock).2
    (List.forall_mem_cons.2 ⟨hdash, List.forall_mem_singleton.2 hword⟩)⟩

/-- The key of an exact rule ignores letter case, and the rule does not. -/
theorem capital_letters_disagree :
    leastNginx.Documented ∧ BlocksUaText 0 (uaRule .exact "BadBot") ∧
      leastNginx.blocksUa (generateNginxBlocklist ⟨[uaRule .exact "BadBot"], []⟩ 0)
        "badbot".toList = true ∧
      matchUa plainConf "badbot" "BadBot" .exact = false ∧
      ¬ Agrees plainConf 0 leastNginx [uaRule .exact "BadBot"] := by
  have hrule : BlocksUaText 0 (uaRule .exact "BadBot") := blocksUaText_uaRule (.inl rfl) _
  have hblocks : leastNginx.blocksUa (generateNginxBlocklist ⟨[uaRule .exact "BadBot"], []⟩ 0)
      "badbot".toList = true := by
    rw [blocksUa_iff documented_leastNginx (List.forall_mem_singleton.2 hrule)
      (List.forall_mem_singleton.2 (by decide +kernel))
      (List.forall_mem_singleton.2 fun _ ↦ by decide +kernel)]
    exact ⟨_, List.mem_singleton_self _, by decide +kernel, by decide +kernel⟩
  have hmatch : matchUa plainConf "badbot" "BadBot" .exact = false := by decide +kernel
  refine ⟨documented_leastNginx, hrule, hblocks, hmatch, fun h ↦ ?_⟩
  obtain ⟨r, hr, haccepts⟩ := (h "badbot").1 hblocks
  obtain rfl := List.mem_singleton.1 hr
  exact absurd (hmatch.symm.trans haccepts) Bool.false_ne_true

end DjangoWaf
