import DjangoWaf.Lib.NginxLexer

/-!
# The keys of an nginx map

What a token means as the key of a `map`. Inside quotes a backslash before a quote of either kind or
before a backslash is removed (`unescape`). The text that is left is a directive if it is one of
four words, a regular expression if it starts with a tilde, one without letter case if an asterisk
follows, and otherwise a text to be equal to, without the backslash that it may start with (`key`).

A text is looked up without letter case. What the case of a text is and what a regular expression
finds are arguments of `yields`.
-/

namespace NginxMap

/-- The text between quotes, without the backslashes before quotes and backslashes. The first
argument says whether a backslash is waiting for the character behind it. -/
def unescape : Bool → List Char → List Char
  | false, [] => []
  | true, [] => ['\\']
  | false, c :: cs => if c = '\\' then unescape true cs else c :: unescape false cs
  | true, c :: cs =>
    if c = '"' || c = '\x27' || c = '\\' then c :: unescape false cs
    else '\\' :: c :: unescape false cs

/-- What a token stands for. -/
def meaning : List Char → List Char
  | [] => []
  | c :: cs => if c = '"' then unescape false cs.dropLast else c :: cs

/-- The words that are directives of a map. -/
def directives : List (List Char) :=
  ["default", "hostnames", "volatile", "include"].map String.toList

/-- A key of a map. -/
inductive Key
  | directive
  | regex (caseless : Bool) (pattern : List Char)
  | text (value : List Char)
  deriving DecidableEq

/-- The key behind a tilde. -/
def regexKey : List Char → Key
  | [] => .regex false []
  | c :: cs => if c = '*' then .regex true cs else .regex false (c :: cs)

/-- The key that a text is, unless it is a directive. -/
def plainKey : List Char → Key
  | [] => .text []
  | c :: cs =>
    if c = '~' then regexKey cs else if c = '\\' then .text cs else .text (c :: cs)

/-- The key that a text is. -/
def key (text : List Char) : Key := if text ∈ directives then .directive else plainKey text

variable (fold : List Char → List Char) (search : Bool → List Char → List Char → Bool)

/-- A key accepts a text; `fold` takes the case from texts. -/
def Key.accepts (text : List Char) : Key → Bool
  | .directive => false
  | .regex caseless pattern => search caseless pattern text
  | .text value => fold value = fold text

/-- A map whose keys all have the value 1, and whose default is 0, yields 1. -/
def yields (tokens : List (List Char)) (text : List Char) : Bool :=
  tokens.any fun k ↦ (key (meaning k)).accepts fold search text

variable {c : Char} {cs text value : List Char} {escaped : Bool}

theorem meaning_quote : meaning ('"' :: text ++ ['"']) = unescape false text := by
  simp [meaning]

theorem meaning_of_head? (h : text.head? ≠ some '"') : meaning text = text := by
  cases text with
  | nil => rfl
  | cons c cs =>
    have hc : c ≠ '"' := fun h' ↦ h (by rw [h', List.head?_cons])
    rw [meaning, if_neg hc]

/-- A backslash that waits is one character more. -/
theorem length_unescape_le :
    (unescape escaped text).length ≤ text.length + escaped.toNat := by
  induction text generalizing escaped with
  | nil => cases escaped <;> simp [unescape]
  | cons c cs ih =>
    have hfalse := @ih false
    have htrue := @ih true
    simp only [Bool.toNat_false, Bool.toNat_true, Nat.add_zero] at hfalse htrue
    cases escaped with
    | false =>
      rw [unescape]
      split
      · rw [List.length_cons, Bool.toNat_false]
        omega
      · rw [List.length_cons, List.length_cons, Bool.toNat_false]
        omega
    | true =>
      rw [unescape, Bool.toNat_true]
      split
      · rw [List.length_cons, List.length_cons]
        omega
      · rw [List.length_cons, List.length_cons, List.length_cons]
        omega

/-- A text that is no directive and starts with no tilde and no backslash. -/
def isPlainKey (text : List Char) : Bool :=
  text ∉ directives && text.head? ≠ some '~' && text.head? ≠ some '\\'

theorem key_of_isPlainKey (h : isPlainKey text = true) : key text = .text text := by
  simp only [isPlainKey, Bool.and_eq_true, decide_eq_true_eq] at h
  obtain ⟨⟨hdirective, htilde⟩, hbackslash⟩ := h
  rw [key, if_neg hdirective]
  cases text with
  | nil => rfl
  | cons c cs =>
    have h₁ : c ≠ '~' := fun h ↦ htilde (by rw [h, List.head?_cons])
    have h₂ : c ≠ '\\' := fun h ↦ hbackslash (by rw [h, List.head?_cons])
    rw [plainKey, if_neg h₁, if_neg h₂]

theorem regexKey_ne_text : regexKey cs ≠ .text value := by
  cases cs with
  | nil => exact Key.noConfusion
  | cons c cs =>
    rw [regexKey]
    split <;> exact Key.noConfusion

/-- **A key that is a text** is all of it, or what a backslash stands before. -/
theorem of_key_eq_text (h : key text = .text value) :
    isPlainKey text = true ∧ value = text ∨ text = '\\' :: value := by
  rw [key] at h
  split at h
  · cases h
  rename_i hdirective
  cases text with
  | nil =>
    cases h
    exact .inl ⟨by decide, rfl⟩
  | cons c cs =>
    rw [plainKey] at h
    split at h
    · exact absurd h regexKey_ne_text
    split at h
    · rename_i hbackslash
      cases h
      exact .inr (by rw [hbackslash])
    · rename_i htilde hbackslash
      cases h
      exact .inl ⟨by simp [isPlainKey, hdirective, htilde, hbackslash], rfl⟩

theorem key_regex (pattern : List Char) : key ('~' :: '*' :: pattern) = .regex true pattern := by
  have hdirective : '~' :: '*' :: pattern ∉ directives := by simp [directives]
  rw [key, if_neg hdirective]
  rfl

end NginxMap
