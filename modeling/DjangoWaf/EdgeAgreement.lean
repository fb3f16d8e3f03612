import DjangoWaf.EdgeInjection
import DjangoWaf.Lib.NginxMap
import DjangoWaf.Services.RuleMatching

/-!
# User agents at the edge and in the middleware

The generated map and `_match_ua` are two implementations of one match. A server is a parameter:
what its regular expressions find, and for which user agents the map of a file is 1. What is known
about it (`Nginx.Documented`) is what an escaped text finds and what the four blocks of a file mean;
of a file that is anything else nothing is known, and letter case is that of `str.lower` on both
sides.

`SameAtEdge` says of one rule whether both accept the same user agents. Where every rule of a table
meets it, the map and the middleware agree on the table (`agrees_of_sameAtEdge`).
-/

namespace DjangoWaf

open NginxLexer NginxMap

/-! ### The server -/

/-- A server, as far as the map of blocked user agents goes. -/
structure Nginx where
  /-- Whether a regular expression, with or without letter case, is found in a text. -/
  search : Bool → List Char → List Char → Bool
  /-- Whether `$waf_block_ua` is 1, with a file, for a user agent. -/
  blocksUa : List Char → List Char → Bool

/-- What the documentation says of a server. -/
structure Nginx.Documented (server : Nginx) : Prop where
  search_escapeChars : ∀ text userAgent, server.search true (PyStr.escapeChars text) userAgent =
    decide (PyStr.lowerList text <:+: PyStr.lowerList userAgent)
  blocksUa_eq : ∀ {file blockUa throttleUa blockIp throttleIp},
    lex file = some (fourBlocks blockUa throttleUa blockIp throttleIp) →
    (∀ k ∈ blockUa, key (meaning k.toList) ≠ .directive) → ∀ userAgent,
      server.blocksUa file userAgent =
        yields PyStr.lowerList server.search (blockUa.map String.toList) userAgent

/-- An active rule that blocks user agents, with no regular expression. -/
structure BlocksUaText (now : ℚ) (r : BlockRule) : Prop where
  active : r.active now = true
  ruleType : r.ruleType = .ua
  action : r.action = .block
  matchType : r.matchType = .exact ∨ r.matchType = .contains

/-- With the file of a table, the server blocks the user agents that a rule of the table matches. -/
def Agrees (cf : Conf) (now : ℚ) (server : Nginx) (rules : List BlockRule) : Prop :=
  ∀ userAgent : String,
    server.blocksUa (generateNginxBlocklist ⟨rules, []⟩ now) userAgent.toList = true ↔
      ∃ r ∈ rules, matchUa cf userAgent r.pattern r.matchType = true

/-! ### Rules that mean the same -/

/-- No backslash stands before a backslash or a quote of either kind or at the end. The first
argument says whether the character before was one. -/
def loneBackslashes : Bool → List Char → Bool
  | afterBackslash, [] => !afterBackslash
  | afterBackslash, c :: cs =>
    !(afterBackslash && (c = '\\' || c = '"' || c = '\x27')) && loneBackslashes (c = '\\') cs

/-- No other text differs from the text in letter case alone. -/
def Caseless (pattern : List Char) : Prop :=
  ∀ text, PyStr.lowerList text = PyStr.lowerList pattern → text = pattern

/-- A pattern of an exact rule that means the same as a key in quotes. -/
structure SameExact (pattern : List Char) : Prop where
  loneBackslashes : loneBackslashes false pattern = true
  caseless : Caseless pattern
  plain : isPlainKey pattern = true

/-- A pattern of a `contains` rule that means the same as an escaped expression in quotes. -/
def sameContains (pattern : List Char) : Bool := !pattern.contains '\\' && !pattern.contains '"'

/-- The rule means the same at the edge and in the middleware. -/
structure SameAtEdge (r : BlockRule) : Prop where
  ne_empty : r.pattern ≠ ""
  stripped : PyStr.stripText r.pattern = r.pattern
  exact : r.matchType = .exact → SameExact r.pattern.toList
  contains : r.matchType = .contains → sameContains r.pattern.toList = true

variable {cf : Conf} {now : ℚ} {server : Nginx} {rules : List BlockRule} {r : BlockRule}
variable {escaped : Bool} {text : List Char}

/-! ### The file of a table -/

theorem mem_forNginx_iff (hrules : ∀ r ∈ rules, BlocksUaText now r) :
    r ∈ Db.forNginx ⟨rules, []⟩ now ↔ r ∈ rules := by
  rw [Db.forNginx, List.mem_filter, mem_activeBlockRules]
  constructor
  · exact fun h ↦ h.1.1
  · intro hr
    have h := hrules r hr
    have hactive := h.active
    rw [BlockRule.active, Bool.and_eq_true, Bool.not_eq_true'] at hactive
    exact ⟨⟨hr, hactive⟩, by simp [h.ruleType, h.action]⟩

theorem mem_uaRules_block_iff (hrules : ∀ r ∈ rules, BlocksUaText now r) :
    r ∈ uaRules .block (Db.forNginx ⟨rules, []⟩ now) ↔ r ∈ rules := by
  rw [uaRules, List.mem_filter, mem_forNginx_iff hrules]
  refine and_iff_left_of_imp fun hr ↦ ?_
  have h := hrules r hr
  simp [h.ruleType, h.action]

theorem uaRules_throttle_eq_nil (hrules : ∀ r ∈ rules, BlocksUaText now r) :
    uaRules .throttle (Db.forNginx ⟨rules, []⟩ now) = [] := by
  refine List.filter_eq_nil_iff.2 fun r hr ↦ ?_
  have h := hrules r ((mem_forNginx_iff hrules).1 hr)
  simp [h.action]

theorem ipRules_eq_nil (hrules : ∀ r ∈ rules, BlocksUaText now r) (action : RuleAction) :
    ipRules action (Db.forNginx ⟨rules, []⟩ now) = [] := by
  refine List.filter_eq_nil_iff.2 fun r hr ↦ ?_
  have h := hrules r ((mem_forNginx_iff hrules).1 hr)
  simp [h.ruleType]

/-- The keys of the one map that has some. -/
def blockUaKeys (rules : List BlockRule) (now : ℚ) : List String :=
  renderKeys mapKey [] (uaRules .block (Db.forNginx ⟨rules, []⟩ now))

theorem mem_blockUaKeys_iff (hrules : ∀ r ∈ rules, BlocksUaText now r) {k : String} :
    k ∈ blockUaKeys rules now ↔ k ≠ "" ∧ ∃ r ∈ rules, mapKey r = k := by
  rw [blockUaKeys, mem_renderKeys]
  simp only [List.not_mem_nil, not_false_eq_true, true_and, mem_uaRules_block_iff hrules]

/-- The file is intact when each rule renders one key. -/
theorem lex_generate_of_rendersOneKey (hrules : ∀ r ∈ rules, BlocksUaText now r)
    (hone : ∀ r ∈ rules, rendersOneKey r = true) :
    lex (generateNginxBlocklist ⟨rules, []⟩ now) = some (fourBlocks (blockUaKeys rules now) []
      [] []) := by
  have htokens : fileTokens (Db.forNginx ⟨rules, []⟩ now) =
      fourBlocks (blockUaKeys rules now) [] [] [] := by
    rw [fileTokens, uaRules_throttle_eq_nil hrules, ipRules_eq_nil hrules, ipRules_eq_nil hrules]
    rfl
  rw [generateNginxBlocklist, ← htokens, lex_blocklistLines_iff, uaRules_throttle_eq_nil hrules,
    ipRules_eq_nil hrules, ipRules_eq_nil hrules]
  refine ⟨fun r hr ↦ hone r ((mem_uaRules_block_iff hrules).1 hr), ?_, ?_, ?_⟩
  all_goals exact fun r hr ↦ absurd hr List.not_mem_nil

/-- What an intact file means. -/
theorem blocksUa_iff (hserver : server.Documented) (hrules : ∀ r ∈ rules, BlocksUaText now r)
    (hone : ∀ r ∈ rules, rendersOneKey r = true)
    (hkeys : ∀ r ∈ rules, mapKey r ≠ "" → key (meaning (mapKey r).toList) ≠ .directive)
    {userAgent : List Char} :
    server.blocksUa (generateNginxBlocklist ⟨rules, []⟩ now) userAgent = true ↔
      ∃ r ∈ rules, mapKey r ≠ "" ∧
        (key (meaning (mapKey r).toList)).accepts PyStr.lowerList server.search userAgent =
          true := by
  have hdirective : ∀ k ∈ blockUaKeys rules now, key (meaning k.toList) ≠ .directive := by
    intro k hk
    obtain ⟨hne, r, hr, rfl⟩ := (mem_blockUaKeys_iff hrules).1 hk
    exact hkeys r hr hne
  have hlex := lex_generate_of_rendersOneKey hrules hone
  have hvalue := hserver.blocksUa_eq hlex hdirective userAgent
  rw [hvalue, yields, List.any_map, List.any_eq_true]
  simp only [Function.comp_apply]
  constructor
  · rintro ⟨k, hk, haccepts⟩
    obtain ⟨hne, r, hr, rfl⟩ := (mem_blockUaKeys_iff hrules).1 hk
    exact ⟨r, hr, hne, haccepts⟩
  · rintro ⟨r, hr, hne, haccepts⟩
    exact ⟨mapKey r, (mem_blockUaKeys_iff hrules).2 ⟨hne, r, hr, rfl⟩, haccepts⟩

/-! ### Keys and patterns -/

theorem unescape_escapeQuotes (h : loneBackslashes escaped text = true) :
    unescape escaped (escapeQuotes text) = (if escaped then ['\\'] else []) ++ text := by
  induction text generalizing escaped with
  | nil => cases escaped <;> simp_all [loneBackslashes, escapeQuotes, unescape]
  | cons c text ih =>
    rw [loneBackslashes, Bool.and_eq_true] at h
    obtain ⟨hc, htext⟩ := h
    rw [escapeQuotes, List.flatMap_cons, ← escapeQuotes]
    by_cases hquote : c = '"'
    · subst hquote
      have hescaped : escaped = false := by simpa using hc
      have hih : unescape false (escapeQuotes text) = text := ih htext
      simp [hescaped, unescape, hih]
    by_cases hbackslash : c = '\\'
    · subst hbackslash
      have hescaped : escaped = false := by simpa using hc
      have hih : unescape true (escapeQuotes text) = '\\' :: text := ih htext
      simp [hescaped, unescape, hih]
    · rw [decide_eq_false hbackslash] at htext
      have hih : unescape false (escapeQuotes text) = text := ih htext
      cases escaped with
      | true =>
        have hsingle : c ≠ '\x27' := by simpa [hquote, hbackslash] using hc
        simp [hquote, hsingle, hbackslash, unescape, hih]
      | false => simp [hquote, hbackslash, unescape, hih]

/-- An escaped text, as it is read between quotes: a backslash in it loses its own. -/
theorem unescape_escapeChars (h : '"' ∉ text) :
    unescape false (PyStr.escapeChars text) = text.flatMap fun c ↦
      if c = '\\' then ['\\'] else if PyStr.isReSpecial c then ['\\', c] else [c] := by
  induction text with
  | nil => rfl
  | cons c text ih =>
    rw [List.mem_cons, not_or] at h
    have hih := ih h.2
    rw [PyStr.escapeChars_cons, List.flatMap_cons, ← hih]
    by_cases hbackslash : c = '\\'
    · simp [hbackslash, PyStr.isReSpecial_backslash, unescape]
    by_cases hc : PyStr.isReSpecial c = true
    · have hsingle : c ≠ '\x27' := fun h' ↦ absurd (h' ▸ hc) (by decide +kernel)
      simp [hbackslash, hc, unescape, Ne.symm h.1, hsingle]
    · simp [hbackslash, hc, unescape]

theorem unescape_escapeChars_of_sameContains (h : sameContains text = true) :
    unescape false (PyStr.escapeChars text) = PyStr.escapeChars text := by
  simp only [sameContains, Bool.and_eq_true, Bool.not_eq_true', List.contains_eq_mem,
    decide_eq_false_iff_not] at h
  rw [unescape_escapeChars h.2, PyStr.escapeChars]
  refine List.flatMap_congr fun c hc ↦ ?_
  have hbackslash : c ≠ '\\' := fun h' ↦ h.1 (h' ▸ hc)
  rw [if_neg hbackslash]

theorem evenBeforeQuotes_of_loneBackslashes (h : loneBackslashes escaped text = true) :
    evenBeforeQuotes escaped text = true := by
  induction text generalizing escaped with
  | nil => exact h
  | cons c text ih =>
    rw [loneBackslashes, Bool.and_eq_true] at h
    obtain ⟨hc, htext⟩ := h
    rw [evenBeforeQuotes]
    by_cases hquote : c = '"'
    · subst hquote
      have hescaped : escaped = false := by simpa using hc
      rw [if_pos rfl, hescaped]
      exact ih htext
    · rw [if_neg hquote]
      by_cases hbackslash : c = '\\'
      · subst hbackslash
        have hescaped : escaped = false := by simpa using hc
        rw [hescaped]
        exact ih htext
      · rw [decide_eq_false hbackslash] at htext ⊢
        rw [Bool.and_false]
        exact ih htext

/-- A text whose characters have no case has none. -/
theorem caseless_of_forall (h : ∀ c ∈ text, PyStr.isCaseless c = true) : Caseless text := by
  intro text' htext
  rw [PyStr.lowerList, PyStr.lowerList, PyStr.lowerFrom_of_isCaseless h] at htext
  exact PyStr.eq_of_lowerFrom_eq h htext

/-- The key of an exact rule. -/
theorem mapKey_of_exact (hmatch : r.matchType = .exact) (hempty : PyStr.stripText r.pattern ≠ "") :
    (mapKey r).toList = '"' :: escapeQuotes (PyStr.stripText r.pattern).toList ++ ['"'] := by
  simp [mapKey, nginxEscapeUa, hmatch, hempty]

theorem mapKey_of_contains (hmatch : r.matchType = .contains)
    (hempty : PyStr.stripText r.pattern ≠ "") : (mapKey r).toList =
      '"' :: ('~' :: '*' :: PyStr.escapeChars (PyStr.stripText r.pattern).toList) ++ ['"'] := by
  simp [mapKey, nginxEscapeUa, hmatch, hempty, PyStr.reEscape]

theorem mapKey_ne (hmatch : r.matchType = .exact ∨ r.matchType = .contains)
    (hempty : PyStr.stripText r.pattern ≠ "") : mapKey r ≠ "" := by
  rcases hmatch with hmatch | hmatch
  · simp [mapKey, nginxEscapeUa, hmatch, hempty]
  · simp [mapKey, nginxEscapeUa, hmatch, hempty]

theorem matchUa_exact_iff {userAgent pattern : String} :
    matchUa cf userAgent pattern .exact = true ↔ userAgent.toList = pattern.toList := by
  rw [matchUa, decide_eq_true_eq, String.toList_inj]

theorem matchUa_contains_iff {userAgent pattern : String} :
    matchUa cf userAgent pattern .contains = true ↔
      PyStr.lowerList pattern.toList <:+: PyStr.lowerList userAgent.toList := by
  rw [matchUa, PyStr.contains_iff, PyStr.lower, PyStr.lower, String.toList_ofList,
    String.toList_ofList]

/-- The key of a rule is one token, no directive, and accepts what the rule does. -/
structure SameKey (cf : Conf) (server : Nginx) (r : BlockRule) : Prop where
  ne_empty : mapKey r ≠ ""
  rendersOneKey : rendersOneKey r = true
  ne_directive : key (meaning (mapKey r).toList) ≠ .directive
  accepts_iff : ∀ userAgent : String, (key (meaning (mapKey r).toList)).accepts PyStr.lowerList
    server.search userAgent.toList = true ↔ matchUa cf userAgent r.pattern r.matchType = true

theorem sameKey_of_exact (hrule : BlocksUaText now r) (hmatch : r.matchType = .exact)
    (hsame : SameAtEdge r) : SameKey cf server r := by
  obtain ⟨hne, hstrip, hexact, -⟩ := hsame
  obtain ⟨hlone, hcase, hplain⟩ := hexact hmatch
  have hempty : PyStr.stripText r.pattern ≠ "" := by rwa [hstrip]
  have hkey := mapKey_of_exact hmatch hempty
  rw [hstrip] at hkey
  have hmeaning : meaning (mapKey r).toList = r.pattern.toList := by
    rw [hkey, meaning_quote, unescape_escapeQuotes hlone]
    rfl
  refine ⟨mapKey_ne hrule.matchType hempty, ?_, ?_, fun userAgent ↦ ?_⟩
  · simp only [DjangoWaf.rendersOneKey, hrule.ruleType, hmatch, hstrip,
      evenBeforeQuotes_of_loneBackslashes hlone, Bool.or_true]
  · rw [hmeaning, key_of_isPlainKey hplain]
    exact Key.noConfusion
  · simp only [hmeaning, key_of_isPlainKey hplain, Key.accepts, decide_eq_true_eq, hmatch,
      matchUa_exact_iff]
    constructor
    · exact fun h ↦ hcase _ h.symm
    · exact fun h ↦ congrArg PyStr.lowerList h.symm

theorem sameKey_of_contains (hserver : server.Documented) (hrule : BlocksUaText now r)
    (hmatch : r.matchType = .contains) (hsame : SameAtEdge r) : SameKey cf server r := by
  obtain ⟨hne, hstrip, -, hcontains⟩ := hsame
  have hsame := hcontains hmatch
  have hempty : PyStr.stripText r.pattern ≠ "" := by rwa [hstrip]
  have hkey := mapKey_of_contains hmatch hempty
  rw [hstrip] at hkey
  have htilde : ∀ text, unescape false ('~' :: '*' :: text) = '~' :: '*' :: unescape false text :=
    fun _ ↦ rfl
  have hmeaning : meaning (mapKey r).toList = '~' :: '*' :: PyStr.escapeChars r.pattern.toList := by
    rw [hkey, meaning_quote, htilde, unescape_escapeChars_of_sameContains hsame]
  refine ⟨mapKey_ne hrule.matchType hempty, ?_, ?_, fun userAgent ↦ ?_⟩
  · rw [sameContains, Bool.and_eq_true] at hsame
    simp only [DjangoWaf.rendersOneKey, hrule.ruleType, hmatch, hstrip, hsame.2, Bool.or_true]
  · rw [hmeaning, key_regex]
    exact Key.noConfusion
  · simp only [hmeaning, key_regex, Key.accepts, hserver.search_escapeChars, decide_eq_true_eq,
      hmatch, matchUa_contains_iff]

theorem sameKey_of_sameAtEdge (hserver : server.Documented) (hrule : BlocksUaText now r)
    (hsame : SameAtEdge r) : SameKey cf server r := by
  rcases hrule.matchType with hmatch | hmatch
  · exact sameKey_of_exact hrule hmatch hsame
  · exact sameKey_of_contains hserver hrule hmatch hsame

/-- **The map and the middleware agree** on a table each of whose rules means the same to both. -/
theorem agrees_of_sameAtEdge (hserver : server.Documented)
    (hrules : ∀ r ∈ rules, BlocksUaText now r) (hsame : ∀ r ∈ rules, SameAtEdge r) :
    Agrees cf now server rules := by
  have hkey : ∀ r ∈ rules, SameKey cf server r := fun r hr ↦
    sameKey_of_sameAtEdge hserver (hrules r hr) (hsame r hr)
  intro userAgent
  rw [blocksUa_iff hserver hrules (fun r hr ↦ (hkey r hr).rendersOneKey)
    fun r hr _ ↦ (hkey r hr).ne_directive]
  refine exists_congr fun r ↦ and_congr_right fun hr ↦ ?_
  rw [and_iff_right (hkey r hr).ne_empty, (hkey r hr).accepts_iff]

end DjangoWaf
