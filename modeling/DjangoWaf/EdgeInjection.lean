import DjangoWaf.FeedErrors
import DjangoWaf.Lib.NginxLexer
import DjangoWaf.Services.BlocklistGenerator

/-!
# What a pattern can do to the nginx file

The file is **intact** when it has the tokens it is meant to have: four blocks, each with its
default and, for each key that was rendered, the key as one token, the value and a semicolon.

It is intact exactly when each rule that goes into it renders one key (`rendersOneKey`). The quoting
is the weak spot. An address is written as it stands, so it has to be one token by itself. The
pattern of an exact rule has its quotes escaped and its backslashes left alone: a backslash at its
end, or one before a quote, takes the escape away. `re.escape` escapes no quote, and a regular
expression is quoted without any escaping at all.
-/

namespace DjangoWaf

open NginxLexer

/-! ### The tokens that are meant -/

/-- The entries of some keys. -/
def entryTokens (keys : List String) : List Token :=
  keys.flatMap fun k ↦ [.word k.toList, .word ['1'], .semicolon]

/-- The head of a block, and its default. -/
def blockHead (opening : List String) : List Token :=
  opening.map (fun w ↦ .word w.toList) ++
    [.openBrace, .word "default".toList, .word ['0'], .semicolon]

/-- A block with its default and the entries of some keys. -/
def blockTokens (opening : List String) (keys : List String) : List Token :=
  blockHead opening ++ (entryTokens keys ++ [.closeBrace])

/-- Two maps and two geos, with the keys of each. -/
def fourBlocks (blockUa throttleUa blockIp throttleIp : List String) : List Token :=
  blockTokens ["map", "$http_user_agent", "$waf_block_ua"] blockUa ++
    (blockTokens ["map", "$http_user_agent", "$waf_throttle_ua"] throttleUa ++
      (blockTokens ["geo", "$waf_block_ip"] blockIp ++
        blockTokens ["geo", "$waf_throttle_ip"] throttleIp))

/-- The blocks with the keys that were rendered. -/
def fileTokens (rules : List BlockRule) : List Token :=
  fourBlocks (renderKeys mapKey [] (uaRules .block rules))
    (renderKeys mapKey [] (uaRules .throttle rules))
    (renderKeys geoKey [] (ipRules .block rules))
    (renderKeys geoKey [] (ipRules .throttle rules))

/-- The file has the tokens that are meant. -/
def Intact (db : Db) (now : ℚ) : Prop :=
  lex (generateNginxBlocklist db now) = some (fileTokens (db.forNginx now))

/-! ### Rules that render one key -/

/-- Every quote and the end of the text have an even number of backslashes before them. The first
argument says whether the number is odd so far. -/
def evenBeforeQuotes : Bool → List Char → Bool
  | odd, [] => !odd
  | odd, c :: cs =>
    if c = '"' then !odd && evenBeforeQuotes false cs
    else evenBeforeQuotes (!odd && c = '\\') cs

/-- The key of a rule is one token, or the rule has none. -/
def rendersOneKey (r : BlockRule) : Bool :=
  let pattern := (PyStr.stripText r.pattern).toList
  pattern.isEmpty ||
    match r.ruleType, r.matchType with
    | .ua, .exact => evenBeforeQuotes false pattern
    | .ua, .contains => !pattern.contains '"'
    | .ua, .regex => quotable false pattern
    | .ip, _ | .cidr, _ => isOneWord pattern
    | _, _ => true

/-! ### Escapes -/

theorem quotable_escapeQuotes (escaped : Bool) (text : List Char) :
    quotable escaped (escapeQuotes text) = evenBeforeQuotes escaped text := by
  induction text generalizing escaped with
  | nil => cases escaped <;> rfl
  | cons c text ih =>
    rw [escapeQuotes, List.flatMap_cons, ← escapeQuotes, evenBeforeQuotes]
    by_cases hquote : c = '"'
    · subst hquote
      cases escaped with
      | true => rfl
      | false => exact ih false
    · rw [if_neg hquote, if_neg hquote, List.singleton_append]
      cases escaped with
      | true => exact ih false
      | false =>
        by_cases hbackslash : c = '\\'
        · simp [quotable, hbackslash, ih]
        · simp [quotable, hbackslash, hquote, ih]

theorem quotable_escapeChars (text : List Char) :
    quotable false (PyStr.escapeChars text) = !text.contains '"' := by
  induction text with
  | nil => rfl
  | cons c text ih =>
    rw [PyStr.escapeChars_cons]
    by_cases hc : PyStr.isReSpecial c = true
    · have hquote : c ≠ '"' := fun h ↦ by simp [h, PyStr.isReSpecial_quote] at hc
      simp [hc, quotable, ih, Ne.symm hquote]
    · have hbackslash : c ≠ '\\' := fun h ↦ hc (h ▸ PyStr.isReSpecial_backslash)
      rw [if_neg hc, List.singleton_append, quotable, if_neg hbackslash, ih]
      by_cases hquote : c = '"'
      · simp [hquote]
      · simp [hquote, Ne.symm hquote]

/-! ### Keys -/

/-- A character that is no white space is no blank. -/
theorem isBlank_eq_false {c : Char} (h : PyStr.isSpaceChar c = false) : isBlank c = false := by
  rw [Bool.eq_false_iff] at h ⊢
  intro hblank
  refine h ?_
  simp only [isBlank, Bool.or_eq_true, decide_eq_true_eq] at hblank
  rcases hblank with ((hc | hc) | hc) | hc
  all_goals rw [hc]; decide

/-- A key that is rendered is not empty and starts with no blank. -/
structure IsKey (k : List Char) : Prop where
  ne_nil : k ≠ []
  head : ∀ c ∈ k.head?, isBlank c = false

theorem isKey_geoKey {r : BlockRule} (h : geoKey r ≠ "") : IsKey (geoKey r).toList where
  ne_nil := by simpa using h
  head _ hc := isBlank_eq_false (PyStr.isSpaceChar_of_head?_stripText hc)

/-- A key of a map is a text in quotes. -/
theorem mapKey_eq {r : BlockRule} (h : mapKey r ≠ "") :
    PyStr.stripText r.pattern ≠ "" ∧ ∃ body, (mapKey r).toList = '"' :: body ++ ['"'] ∧
      (r.matchType = .exact ∧ body = escapeQuotes (PyStr.stripText r.pattern).toList ∨
        r.matchType = .contains ∧
          body = '~' :: '*' :: (PyStr.reEscape (PyStr.stripText r.pattern)).toList ∨
        r.matchType = .regex ∧ body = '~' :: '*' :: (PyStr.stripText r.pattern).toList) := by
  rw [mapKey, nginxEscapeUa.eq_def] at h ⊢
  simp only at h ⊢
  by_cases hempty : PyStr.stripText r.pattern = ""
  · exact absurd (if_pos hempty) h
  rw [if_neg hempty] at h ⊢
  refine ⟨hempty, ?_⟩
  rcases hmatch : r.matchType with - | - | - | - | value
  · exact ⟨_, by simp, .inl ⟨rfl, rfl⟩⟩
  · exact ⟨_, by simp, .inr (.inr ⟨rfl, rfl⟩)⟩
  · exact ⟨_, by simp, .inr (.inl ⟨rfl, rfl⟩)⟩
  · simp [hmatch] at h
  · simp [hmatch] at h

theorem isKey_mapKey {r : BlockRule} (h : mapKey r ≠ "") : IsKey (mapKey r).toList := by
  obtain ⟨-, body, hbody, -⟩ := mapKey_eq h
  rw [hbody]
  refine ⟨by simp, fun c hc ↦ ?_⟩
  have hc' : c = '"' := by simpa using hc.symm
  rw [hc']
  rfl

/-- What `rendersOneKey` says of a key of a map. -/
theorem oneWord_mapKey_iff {r : BlockRule} (htype : r.ruleType = .ua) (h : mapKey r ≠ "") :
    OneWord (mapKey r).toList ↔ rendersOneKey r = true := by
  obtain ⟨hempty, body, hbody, hcases⟩ := mapKey_eq h
  have hne : (PyStr.stripText r.pattern).toList.isEmpty = false := by simpa using hempty
  have htilde : ∀ text, quotable false ('~' :: '*' :: text) = quotable false text := fun _ ↦ rfl
  rw [hbody, oneWord_quote_iff, rendersOneKey, htype]
  simp only [hne, Bool.false_or]
  rcases hcases with ⟨hmatch, hkey⟩ | ⟨hmatch, hkey⟩ | ⟨hmatch, hkey⟩
  · rw [hkey, quotable_escapeQuotes, hmatch]
  · rw [hkey, htilde, PyStr.reEscape, String.toList_ofList, quotable_escapeChars, hmatch]
  · rw [hkey, htilde, hmatch]

theorem oneWord_geoKey_iff {r : BlockRule} (htype : r.ruleType = .ip ∨ r.ruleType = .cidr)
    (h : geoKey r ≠ "") : OneWord (geoKey r).toList ↔ rendersOneKey r = true := by
  have hkey := isKey_geoKey h
  have hne : (PyStr.stripText r.pattern).toList.isEmpty = false := by simpa [geoKey] using h
  rw [oneWord_iff hkey.head hkey.ne_nil, rendersOneKey]
  simp only [hne, Bool.false_or]
  rcases htype with htype | htype <;> rw [htype] <;> rfl

/-- A rule without a key renders nothing. -/
theorem rendersOneKey_of_mapKey_eq {r : BlockRule} (htype : r.ruleType = .ua)
    (h : mapKey r = "") : rendersOneKey r = true := by
  rw [mapKey, nginxEscapeUa.eq_def] at h
  simp only at h
  rw [rendersOneKey, htype]
  by_cases hempty : PyStr.stripText r.pattern = ""
  · simp [hempty]
  rw [if_neg hempty] at h
  rcases hmatch : r.matchType with - | - | - | - | value
  · simp [hmatch] at h
  · simp [hmatch] at h
  · simp [hmatch] at h
  · simp
  · simp

theorem rendersOneKey_of_geoKey_eq {r : BlockRule} (h : geoKey r = "") :
    rendersOneKey r = true := by
  have hempty : PyStr.stripText r.pattern = "" := h
  simp [rendersOneKey, hempty]

theorem mem_renderKeys {key : BlockRule → String} {seen : List String} {rules : List BlockRule}
    {k : String} :
    k ∈ renderKeys key seen rules ↔ k ≠ "" ∧ k ∉ seen ∧ ∃ r ∈ rules, key r = k := by
  induction rules generalizing seen with
  | nil => simp [renderKeys]
  | cons r rules ih =>
    rw [renderKeys]
    by_cases hnew : (key r ≠ "" && !seen.contains (key r)) = true
    · rw [if_pos hnew, List.mem_cons, ih]
      have hnew' : key r ≠ "" ∧ key r ∉ seen := by simpa using hnew
      by_cases hk : k = key r
      · simp [hk, hnew']
      · simp [hk, Ne.symm hk]
    · rw [if_neg hnew, ih]
      have hold : key r ≠ "" → key r ∈ seen := by simpa using hnew
      by_cases hk : k = key r
      · subst hk
        refine iff_of_false (fun h ↦ h.2.1 (hold h.1)) fun h ↦ h.2.1 (hold h.1)
      · simp [Ne.symm hk]

/-! ### The tokens of the file -/

variable {keys : List String} {rest : List Char} {ts : List Token} {s : State}

/-- **The line of a key** has its tokens, in front of others, when the key is one. -/
theorem lexFrom_entryLine_iff {k : String} (hk : IsKey k.toList) :
    lexFrom .blank ((entryLine k).toList ++ rest) =
        some ([.word k.toList, .word ['1'], .semicolon] ++ ts, s) ↔
      OneWord k.toList ∧ lexFrom .blank rest = some (ts, s) := by
  have hindent : lexFrom .blank "    ".toList = some ([], .blank) := by decide
  have hvalue : lexFrom .blank "1;\n".toList = some ([.word ['1'], .semicolon], .blank) := by
    decide
  have hline : (entryLine k).toList ++ rest =
      "    ".toList ++ ((k.toList ++ [' ']) ++ ("1;\n".toList ++ rest)) := by
    simp [entryLine]
  have htokens : [.word k.toList, .word ['1'], .semicolon] ++ ts =
      [] ++ ([.word k.toList] ++ ([.word ['1'], .semicolon] ++ ts)) := rfl
  rw [hline, htokens, lexFrom_append_iff hindent]
  constructor
  · intro h
    have hword : OneWord k.toList := by
      rw [List.append_assoc] at h
      exact oneWord_of_lexFrom hk.head hk.ne_nil h
    rw [lexFrom_append_iff hword, lexFrom_append_iff hvalue] at h
    exact ⟨hword, h⟩
  · rintro ⟨hword, h⟩
    rwa [lexFrom_append_iff hword, lexFrom_append_iff hvalue]

theorem lexFrom_entries_iff (hkeys : ∀ k ∈ keys, IsKey k.toList) :
    lexFrom .blank ((keys.map entryLine).flatMap String.toList ++ rest) =
        some (entryTokens keys ++ ts, s) ↔
      (∀ k ∈ keys, OneWord k.toList) ∧ lexFrom .blank rest = some (ts, s) := by
  induction keys with
  | nil => simp [entryTokens]
  | cons k keys ih =>
    have hk := hkeys k (List.mem_cons_self ..)
    rw [List.map_cons, List.flatMap_cons, entryTokens, List.flatMap_cons, ← entryTokens,
      List.append_assoc, List.append_assoc, lexFrom_entryLine_iff hk,
      ih fun k' hk' ↦ hkeys k' (List.mem_cons_of_mem k hk'), List.forall_mem_cons, and_assoc]

/-- **A block** has its tokens, in front of others, when each of its keys is one. -/
theorem lexFrom_block_iff {openText : List Char} {opening : List String}
    (hopen : lexFrom .blank openText = some (blockHead opening, .blank))
    (hkeys : ∀ k ∈ keys, IsKey k.toList) :
    lexFrom .blank (openText ++
          ((keys.map entryLine).flatMap String.toList ++ ("\x7d\n\n".toList ++ rest))) =
        some (blockTokens opening keys ++ ts, s) ↔
      (∀ k ∈ keys, OneWord k.toList) ∧ lexFrom .blank rest = some (ts, s) := by
  have hclose : lexFrom .blank "\x7d\n\n".toList = some ([.closeBrace], .blank) := by decide
  rw [blockTokens, List.append_assoc, List.append_assoc, lexFrom_append_iff hopen,
    lexFrom_entries_iff hkeys, lexFrom_append_iff hclose]

/-- The blocks of the file, each with the text behind it. -/
theorem renderUaMap_append {name : String} {rules : List BlockRule} :
    (renderUaMap name rules).flatMap String.toList ++ rest =
      ("map $http_user_agent " ++ name ++ " \x7b\n    default 0;\n").toList ++
        (((renderKeys mapKey [] rules).map entryLine).flatMap String.toList ++
          ("\x7d\n\n".toList ++ rest)) := by
  simp [renderUaMap]

theorem renderIpGeo_append {name : String} {rules : List BlockRule} :
    (renderIpGeo name rules).flatMap String.toList ++ rest =
      ("geo " ++ name ++ " \x7b\n    default 0;\n").toList ++
        (((renderKeys geoKey [] rules).map entryLine).flatMap String.toList ++
          ("\x7d\n\n".toList ++ rest)) := by
  simp [renderIpGeo]

theorem isKey_of_mem_mapKeys {rules : List BlockRule} {k : String}
    (h : k ∈ renderKeys mapKey [] rules) : IsKey k.toList := by
  obtain ⟨hne, -, r, -, rfl⟩ := mem_renderKeys.1 h
  exact isKey_mapKey hne

theorem isKey_of_mem_geoKeys {rules : List BlockRule} {k : String}
    (h : k ∈ renderKeys geoKey [] rules) : IsKey k.toList := by
  obtain ⟨hne, -, r, -, rfl⟩ := mem_renderKeys.1 h
  exact isKey_geoKey hne

/-- The keys of a map are tokens when each rule in it renders one. -/
theorem oneWord_mapKeys_iff {action : RuleAction} {rules : List BlockRule} :
    (∀ k ∈ renderKeys mapKey [] (uaRules action rules), OneWord k.toList) ↔
      ∀ r ∈ uaRules action rules, rendersOneKey r = true := by
  have htype : ∀ r ∈ uaRules action rules, r.ruleType = .ua := by
    intro r hr
    have hr' := (List.mem_filter.1 hr).2
    simp only [Bool.and_eq_true, decide_eq_true_eq] at hr'
    exact hr'.1
  constructor
  · intro h r hr
    by_cases hkey : mapKey r = ""
    · exact rendersOneKey_of_mapKey_eq (htype r hr) hkey
    · exact (oneWord_mapKey_iff (htype r hr) hkey).1
        (h _ (mem_renderKeys.2 ⟨hkey, List.not_mem_nil, r, hr, rfl⟩))
  · intro h k hk
    obtain ⟨hne, -, r, hr, rfl⟩ := mem_renderKeys.1 hk
    exact (oneWord_mapKey_iff (htype r hr) hne).2 (h r hr)

theorem oneWord_geoKeys_iff {action : RuleAction} {rules : List BlockRule} :
    (∀ k ∈ renderKeys geoKey [] (ipRules action rules), OneWord k.toList) ↔
      ∀ r ∈ ipRules action rules, rendersOneKey r = true := by
  have htype : ∀ r ∈ ipRules action rules, r.ruleType = .ip ∨ r.ruleType = .cidr := by
    intro r hr
    have hr' := (List.mem_filter.1 hr).2
    simp only [Bool.and_eq_true, Bool.or_eq_true, decide_eq_true_eq] at hr'
    exact hr'.1
  constructor
  · intro h r hr
    by_cases hkey : geoKey r = ""
    · exact rendersOneKey_of_geoKey_eq hkey
    · exact (oneWord_geoKey_iff (htype r hr) hkey).1
        (h _ (mem_renderKeys.2 ⟨hkey, List.not_mem_nil, r, hr, rfl⟩))
  · intro h k hk
    obtain ⟨hne, -, r, hr, rfl⟩ := mem_renderKeys.1 hk
    exact (oneWord_geoKey_iff (htype r hr) hne).2 (h r hr)

/-- The four blocks hold every rule there is. -/
theorem forall_forNginx_iff {db : Db} {now : ℚ} {p : BlockRule → Prop} :
    (∀ r ∈ db.forNginx now, p r) ↔
      (∀ r ∈ uaRules .block (db.forNginx now), p r) ∧
        (∀ r ∈ uaRules .throttle (db.forNginx now), p r) ∧
        (∀ r ∈ ipRules .block (db.forNginx now), p r) ∧
        ∀ r ∈ ipRules .throttle (db.forNginx now), p r := by
  constructor
  · intro h
    refine ⟨?_, ?_, ?_, ?_⟩ <;> exact fun r hr ↦ h r (List.mem_of_mem_filter hr)
  · rintro ⟨hblockUa, hthrottleUa, hblockIp, hthrottleIp⟩ r hr
    have hrendered := (List.mem_filter.1 hr).2
    simp only [Bool.and_eq_true, Bool.or_eq_true, decide_eq_true_eq] at hrendered
    rcases hrendered with ⟨htype | htype, haction | haction⟩
    · exact hblockIp r (List.mem_filter.2 ⟨hr, by simp [htype, haction]⟩)
    · exact hthrottleIp r (List.mem_filter.2 ⟨hr, by simp [htype, haction]⟩)
    · exact hblockUa r (List.mem_filter.2 ⟨hr, by simp [htype, haction]⟩)
    · exact hthrottleUa r (List.mem_filter.2 ⟨hr, by simp [htype, haction]⟩)

/-- The first lines of a block, for a variable whose name is one token. -/
theorem lexFrom_opening {head name : String} {words : List String}
    (hhead : lexFrom .blank head.toList = some (words.map fun w ↦ .word w.toList, .blank))
    (hname : OneWord name.toList) :
    lexFrom .blank (head ++ name ++ " \x7b\n    default 0;\n").toList =
      some (blockHead (words ++ [name]), .blank) := by
  have hdefault : lexFrom .blank "\x7b\n    default 0;\n".toList =
      some ([.openBrace, .word "default".toList, .word ['0'], .semicolon], .blank) := by
    decide +kernel
  have htext : (head ++ name ++ " \x7b\n    default 0;\n").toList =
      head.toList ++ ((name.toList ++ [' ']) ++ "\x7b\n    default 0;\n".toList) := by simp
  have htokens : blockHead (words ++ [name]) = words.map (fun w ↦ .word w.toList) ++
      ([.word name.toList] ++ [.openBrace, .word "default".toList, .word ['0'], .semicolon]) := by
    simp [blockHead]
  rw [htext, htokens, lexFrom_append_iff hhead, lexFrom_append_iff hname, hdefault]

/-- **A map** has its tokens, in front of others, when each of its rules renders one key. -/
theorem lexFrom_renderUaMap_iff {action : RuleAction} {rules : List BlockRule} {name : String}
    (hname : OneWord name.toList) :
    lexFrom .blank ((renderUaMap name (uaRules action rules)).flatMap String.toList ++ rest) =
        some (blockTokens ["map", "$http_user_agent", name]
          (renderKeys mapKey [] (uaRules action rules)) ++ ts, s) ↔
      (∀ r ∈ uaRules action rules, rendersOneKey r = true) ∧
        lexFrom .blank rest = some (ts, s) := by
  have hhead : lexFrom .blank "map $http_user_agent ".toList =
      some (["map", "$http_user_agent"].map fun w ↦ .word w.toList, .blank) := by decide
  have hopen := lexFrom_opening hhead hname
  rw [List.cons_append, List.cons_append, List.nil_append] at hopen
  rw [renderUaMap_append, lexFrom_block_iff hopen fun k ↦ isKey_of_mem_mapKeys,
    oneWord_mapKeys_iff]

theorem lexFrom_renderIpGeo_iff {action : RuleAction} {rules : List BlockRule} {name : String}
    (hname : OneWord name.toList) :
    lexFrom .blank ((renderIpGeo name (ipRules action rules)).flatMap String.toList ++ rest) =
        some (blockTokens ["geo", name] (renderKeys geoKey [] (ipRules action rules)) ++ ts, s) ↔
      (∀ r ∈ ipRules action rules, rendersOneKey r = true) ∧
        lexFrom .blank rest = some (ts, s) := by
  have hhead : lexFrom .blank "geo ".toList =
      some (["geo"].map fun w ↦ .word w.toList, .blank) := by decide
  have hopen := lexFrom_opening hhead hname
  rw [List.cons_append, List.nil_append] at hopen
  rw [renderIpGeo_append, lexFrom_block_iff hopen fun k ↦ isKey_of_mem_geoKeys,
    oneWord_geoKeys_iff]

theorem lexFrom_headLines :
    lexFrom .blank (headLines.flatMap String.toList) = some ([], .blank) := by
  decide +kernel

theorem blocklistLines_eq (rules : List BlockRule) :
    (blocklistLines rules).flatMap String.toList = headLines.flatMap String.toList ++
      ((renderUaMap "$waf_block_ua" (uaRules .block rules)).flatMap String.toList ++
        ((renderUaMap "$waf_throttle_ua" (uaRules .throttle rules)).flatMap String.toList ++
          ((renderIpGeo "$waf_block_ip" (ipRules .block rules)).flatMap String.toList ++
            ((renderIpGeo "$waf_throttle_ip" (ipRules .throttle rules)).flatMap String.toList ++
              [])))) := by
  simp only [blocklistLines, List.flatMap_append, List.append_assoc, List.append_nil]

/-- **The file has the tokens that are meant** when each rule in it renders one key. -/
theorem lexFrom_file_iff {rules : List BlockRule} :
    lexFrom .blank ((blocklistLines rules).flatMap String.toList) = some (fileTokens rules, s) ↔
      ((∀ r ∈ uaRules .block rules, rendersOneKey r = true) ∧
        (∀ r ∈ uaRules .throttle rules, rendersOneKey r = true) ∧
        (∀ r ∈ ipRules .block rules, rendersOneKey r = true) ∧
        ∀ r ∈ ipRules .throttle rules, rendersOneKey r = true) ∧ s = .blank := by
  have htokens : fileTokens rules = [] ++ (
      blockTokens ["map", "$http_user_agent", "$waf_block_ua"]
          (renderKeys mapKey [] (uaRules .block rules)) ++
        (blockTokens ["map", "$http_user_agent", "$waf_throttle_ua"]
            (renderKeys mapKey [] (uaRules .throttle rules)) ++
          (blockTokens ["geo", "$waf_block_ip"] (renderKeys geoKey [] (ipRules .block rules)) ++
            (blockTokens ["geo", "$waf_throttle_ip"]
              (renderKeys geoKey [] (ipRules .throttle rules)) ++ [])))) := by
    rw [fileTokens, fourBlocks, List.nil_append, List.append_nil]
  have hblockUa : OneWord "$waf_block_ua".toList := by decide
  have hthrottleUa : OneWord "$waf_throttle_ua".toList := by decide
  have hblockIp : OneWord "$waf_block_ip".toList := by decide
  have hthrottleIp : OneWord "$waf_throttle_ip".toList := by decide
  rw [blocklistLines_eq, htokens, lexFrom_append_iff lexFrom_headLines,
    lexFrom_renderUaMap_iff hblockUa, lexFrom_renderUaMap_iff hthrottleUa,
    lexFrom_renderIpGeo_iff hblockIp, lexFrom_renderIpGeo_iff hthrottleIp]
  simp only [lexFrom, Option.some.injEq, Prod.mk.injEq, true_and, and_assoc, eq_comm]

/-- The same of the lexer, which takes no file that ends inside a token. -/
theorem lex_blocklistLines_iff {rules : List BlockRule} :
    lex ((blocklistLines rules).flatMap String.toList) = some (fileTokens rules) ↔
      (∀ r ∈ uaRules .block rules, rendersOneKey r = true) ∧
        (∀ r ∈ uaRules .throttle rules, rendersOneKey r = true) ∧
        (∀ r ∈ ipRules .block rules, rendersOneKey r = true) ∧
        ∀ r ∈ ipRules .throttle rules, rendersOneKey r = true := by
  rw [lex_eq_some_iff, lexFrom_file_iff, lexFrom_file_iff]
  simp

/-- **The file is intact exactly when each rule in it renders one key**, whatever rules are
stored. -/
theorem intact_iff (db : Db) (now : ℚ) :
    Intact db now ↔ ∀ r ∈ db.forNginx now, rendersOneKey r = true := by
  rw [Intact, generateNginxBlocklist, lex_blocklistLines_iff, forall_forNginx_iff]

/-! ### An address with a semicolon in it -/

theorem length_entryTokens (keys : List String) : (entryTokens keys).length = 3 * keys.length := by
  induction keys with
  | nil => rfl
  | cons k keys ih =>
    rw [entryTokens, List.flatMap_cons, ← entryTokens, List.length_append, ih, List.length_cons]
    simp only [List.length_cons, List.length_nil]
    omega

theorem length_fourBlocks (blockUa throttleUa blockIp throttleIp : List String) :
    (fourBlocks blockUa throttleUa blockIp throttleIp).length =
      30 + 3 * (blockUa.length + throttleUa.length + blockIp.length + throttleIp.length) := by
  simp only [fourBlocks, blockTokens, blockHead, List.length_append, List.length_map,
    List.length_cons, List.length_nil, length_entryTokens]
  omega

/-- A feed with one entry: an address, a semicolon and a word. -/
def semicolonFeed : Json :=
  .arr [.obj [("rule_type", .str "ip"), ("pattern", .str "203.0.113.9; default"),
    ("confidence", .float (.finite (9 / 10)))]]

/-- The tables after a sync of it. -/
def semicolonTables : FeedTables :=
  (ThreatFeed.syncFeed .plain ThreatFeed.defaultSync semicolonFeed ThreatFeed.noRows).1

/-- The pattern passes its check, and the file has five tokens for its line: four blocks have three
for each key, whatever the keys are. -/
theorem semicolon_ends_entry :
    ThreatFeed.validatePattern .plain (.str "203.0.113.9; default") .exact = .ok true ∧
      ¬ Intact semicolonTables.db 0 ∧
      ∀ blockUa throttleUa blockIp throttleIp,
        lex (generateNginxBlocklist semicolonTables.db 0) ≠
          some (fourBlocks blockUa throttleUa blockIp throttleIp) := by
  have hlength : (lex (generateNginxBlocklist semicolonTables.db 0)).map List.length = some 35 := by
    decide +kernel
  have hblocks : ∀ blockUa throttleUa blockIp throttleIp,
      lex (generateNginxBlocklist semicolonTables.db 0) ≠
        some (fourBlocks blockUa throttleUa blockIp throttleIp) := by
    intro blockUa throttleUa blockIp throttleIp h
    rw [h, Option.map_some, length_fourBlocks, Option.some.injEq] at hlength
    omega
  refine ⟨by decide +kernel, hblocks _ _ _ _, hblocks⟩

end DjangoWaf
