import Mathlib.Data.List.Basic

/-!
# The tokens of an nginx configuration

Blanks separate tokens; a semicolon and an opening brace end one, and are tokens of their own, as a
closing brace is where a token could start. A `#` there starts a comment, up to the end of the line.
A token that starts with a double quote runs to the next one that has no backslash before it, and
something that ends a token has to follow.

The lexer is a loop over characters: a state and a character give a state and the tokens that are
complete (`next`). A token keeps its text as it stands in the file, quotes and backslashes included;
what it means to a directive is not decided here. Three things the server's own loop also knows are
left out: tokens in single quotes, a backslash in a token without quotes, and the braces of `${`.

**One token** (`OneWord`): a text that, with a blank behind it, is read as the one token it is. The
tokens of a file say where each of them ended, so a file in which a text comes out as a token is a
file where the text is one (`oneWord_of_lexFrom`).
-/

namespace NginxLexer

/-- A token, with its text. -/
inductive Token
  | word (text : List Char)
  | semicolon
  | openBrace
  | closeBrace
  deriving DecidableEq, Repr

/-- Between characters. The text of a token that is not complete is kept in reverse. -/
inductive State
  | blank
  | comment
  | bare (text : List Char)
  | quoted (text : List Char)
  | escaped (text : List Char)
  /-- After a closing quote. -/
  | closed
  deriving DecidableEq, Repr

/-- A blank. -/
def isBlank (c : Char) : Bool := c = ' ' || c = '\t' || c = '\r' || c = '\n'

/-- A character that ends a token without quotes. -/
def endsWord (c : Char) : Bool := isBlank c || c = ';' || c = '{'

/-- A character that starts a token without quotes. -/
def startsWord (c : Char) : Bool := !(endsWord c || c = '}' || c = '#' || c = '"')

/-- What one character completes, and where it leads. -/
def next : State → Char → Option (List Token × State)
  | .blank, c =>
    if isBlank c then some ([], .blank)
    else if c = ';' then some ([.semicolon], .blank)
    else if c = '{' then some ([.openBrace], .blank)
    else if c = '}' then some ([.closeBrace], .blank)
    else if c = '#' then some ([], .comment)
    else if c = '"' then some ([], .quoted [c])
    else some ([], .bare [c])
  | .comment, c => some ([], if c = '\n' then .blank else .comment)
  | .bare text, c =>
    if isBlank c then some ([.word text.reverse], .blank)
    else if c = ';' then some ([.word text.reverse, .semicolon], .blank)
    else if c = '{' then some ([.word text.reverse, .openBrace], .blank)
    else some ([], .bare (c :: text))
  | .quoted text, c =>
    if c = '\\' then some ([], .escaped (c :: text))
    else if c = '"' then some ([.word (c :: text).reverse], .closed)
    else some ([], .quoted (c :: text))
  | .escaped text, c => some ([], .quoted (c :: text))
  | .closed, c =>
    if isBlank c then some ([], .blank)
    else if c = ';' then some ([.semicolon], .blank)
    else if c = '{' then some ([.openBrace], .blank)
    else none

/-- The tokens of a text, from a state on. -/
def lexFrom : State → List Char → Option (List Token × State)
  | s, [] => some ([], s)
  | s, c :: cs =>
    (next s c).bind fun p ↦ (lexFrom p.2 cs).map fun q ↦ (p.1 ++ q.1, q.2)

/-- The tokens of a file, which may end between tokens or in a comment. -/
def lex (text : List Char) : Option (List Token) :=
  match lexFrom .blank text with
  | some (ts, .blank) | some (ts, .comment) => some ts
  | _ => none

variable {s s' : State} {c : Char} {cs text u v : List Char} {t : Token} {ts : List Token}

theorem lexFrom_cons_eq_some {p : List Token × State} :
    lexFrom s (c :: cs) = some p ↔ ∃ a b, next s c = some a ∧ lexFrom a.2 cs = some b ∧
      p = (a.1 ++ b.1, b.2) := by
  rw [lexFrom, Option.bind_eq_some_iff]
  simp only [Option.map_eq_some_iff]
  constructor
  · rintro ⟨a, ha, b, hb, rfl⟩
    exact ⟨a, b, ha, hb, rfl⟩
  · rintro ⟨a, b, ha, hb, rfl⟩
    exact ⟨a, ha, b, hb, rfl⟩

/-- A character that completes nothing. -/
theorem lexFrom_cons_of_next (h : next s c = some ([], s')) :
    lexFrom s (c :: cs) = lexFrom s' cs := by
  rw [lexFrom, h, Option.bind_some]
  simp

theorem lexFrom_append (s : State) (u v : List Char) :
    lexFrom s (u ++ v) =
      (lexFrom s u).bind fun p ↦ (lexFrom p.2 v).map fun q ↦ (p.1 ++ q.1, q.2) := by
  induction u generalizing s with
  | nil => simp [lexFrom]
  | cons c u ih =>
    rw [List.cons_append, lexFrom, lexFrom]
    rcases next s c with - | p
    · rfl
    · simp only [Option.bind_some, ih]
      rcases lexFrom p.2 u with - | q
      · rfl
      · rcases hv : lexFrom q.2 v with - | q'
        · simp [hv]
        · simp [hv]

/-- A text whose tokens are known, and what comes behind it. -/
theorem lexFrom_append_iff (hu : lexFrom s u = some (ts, s')) {ts' : List Token} {s'' : State} :
    lexFrom s (u ++ v) = some (ts ++ ts', s'') ↔ lexFrom s' v = some (ts', s'') := by
  rw [lexFrom_append, hu, Option.bind_some]
  rcases lexFrom s' v with - | q
  · simp
  · simp [Prod.ext_iff]

theorem exists_of_lexFrom_append (hu : lexFrom s u = some (ts, s')) {p : List Token × State}
    (h : lexFrom s (u ++ v) = some p) : ∃ q, lexFrom s' v = some q ∧ p = (ts ++ q.1, q.2) := by
  rw [lexFrom_append, hu, Option.bind_some, Option.map_eq_some_iff] at h
  obtain ⟨q, hq, rfl⟩ := h
  exact ⟨q, hq, rfl⟩

theorem lex_eq_some_iff :
    lex text = some ts ↔
      lexFrom .blank text = some (ts, .blank) ∨ lexFrom .blank text = some (ts, .comment) := by
  rw [lex]
  rcases lexFrom .blank text with - | ⟨ts', s⟩
  · simp
  · cases s <;> simp

/-! ### What a character does -/

/-- The text of a token that is not complete. -/
def State.text? : State → Option (List Char)
  | .bare text | .quoted text | .escaped text => some text
  | _ => none

/-- What a character does to the token that is not complete. -/
inductive Reads : State → Char → List Token → State → Prop
  /-- There is none before, and none behind. -/
  | between {s s' : State} {c : Char} {ts : List Token} (hs : s.text? = none)
      (hs' : s'.text? = none) (hts : ∀ r, .word r ∉ ts) : Reads s c ts s'
  /-- It starts one without quotes. -/
  | starts {c : Char} (hc : startsWord c = true) : Reads .blank c [] (.bare [c])
  /-- It starts one in quotes. -/
  | opens : Reads .blank '"' [] (.quoted ['"'])
  /-- It is part of one, and does not end it where there are no quotes. -/
  | goesOn {s s' : State} {c : Char} {text : List Char} (hs : s.text? = some text)
      (hs' : s'.text? = some (c :: text))
      (hbare : s = .bare text → s' = .bare (c :: text) ∧ endsWord c = false) : Reads s c [] s'
  /-- It ends one without quotes. -/
  | ends {c : Char} {text : List Char} {ts : List Token} (hts : ∀ r, .word r ∉ ts) :
      Reads (.bare text) c (.word text.reverse :: ts) .blank
  /-- It ends one in quotes. -/
  | closes {text : List Char} :
      Reads (.quoted text) '"' [.word ('"' :: text).reverse] .closed

/-- **A character does one of these.** -/
theorem reads_of_next (h : next s c = some (ts, s')) : Reads s c ts s' := by
  cases s with
  | blank =>
    simp only [next] at h
    split at h
    · cases h; exact .between rfl rfl (by simp)
    rename_i hblank
    split at h
    · cases h; exact .between rfl rfl (by simp)
    rename_i hsemicolon
    split at h
    · cases h; exact .between rfl rfl (by simp)
    rename_i hopen
    split at h
    · cases h; exact .between rfl rfl (by simp)
    rename_i hclose
    split at h
    · cases h; exact .between rfl rfl (by simp)
    rename_i hhash
    split at h
    · rename_i hquote
      cases h
      rw [hquote]
      exact .opens
    · rename_i hquote
      cases h
      exact .starts (by
        simp [startsWord, endsWord, hblank, hsemicolon, hopen, hclose, hhash, hquote])
  | comment =>
    simp only [next] at h
    cases h
    refine .between rfl ?_ (by simp)
    split_ifs
    · rfl
    · rfl
  | bare text =>
    simp only [next] at h
    split at h
    · cases h; exact .ends (by simp)
    rename_i hblank
    split at h
    · cases h; exact .ends (by simp)
    rename_i hsemicolon
    split at h
    · cases h; exact .ends (by simp)
    · rename_i hopen
      cases h
      exact .goesOn rfl rfl fun _ ↦ ⟨rfl, by simp [endsWord, hblank, hsemicolon, hopen]⟩
  | quoted text =>
    simp only [next] at h
    split at h
    · cases h; exact .goesOn rfl rfl nofun
    split at h
    · rename_i hquote
      cases h
      rw [hquote]
      exact .closes
    · cases h; exact .goesOn rfl rfl nofun
  | escaped text =>
    simp only [next] at h
    cases h
    exact .goesOn rfl rfl nofun
  | closed =>
    simp only [next] at h
    split at h
    · cases h; exact .between rfl rfl (by simp)
    split at h
    · cases h; exact .between rfl rfl (by simp)
    split at h
    · cases h; exact .between rfl rfl (by simp)
    · cases h

/-! ### One token -/

/-- The text is read as one token. -/
def OneWord (text : List Char) : Prop :=
  lexFrom .blank (text ++ [' ']) = some ([.word text], .blank)

instance (text : List Char) : Decidable (OneWord text) :=
  inferInstanceAs (Decidable (lexFrom .blank (text ++ [' ']) = some ([.word text], .blank)))

/-- The first token that is completed has the text up to where it ended. -/
theorem exists_of_lexFrom_cons (hs : s.text? = some text) (h : lexFrom s u = some (t :: ts, s')) :
    ∃ v w, u = v ++ w ∧ t = .word (text.reverse ++ v) ∧
      lexFrom s (v ++ [' ']) = some ([t], .blank) := by
  induction u generalizing s text with
  | nil => simp [lexFrom] at h
  | cons c u ih =>
    -- a character that completes nothing is part of the token
    have hpart : ∀ s₁, s₁.text? = some (c :: text) → next s c = some ([], s₁) →
        ∃ v w, c :: u = v ++ w ∧ t = .word (text.reverse ++ v) ∧
          lexFrom s (v ++ [' ']) = some ([t], .blank) := by
      intro s₁ hs₁ hnext
      rw [lexFrom_cons_of_next hnext] at h
      obtain ⟨v, w, rfl, rfl, hv⟩ := ih hs₁ h
      refine ⟨c :: v, w, rfl, by simp, ?_⟩
      rw [List.cons_append, lexFrom_cons_of_next hnext]
      simpa using hv
    obtain ⟨⟨ts₁, s₁⟩, b, ha, -, hp⟩ := lexFrom_cons_eq_some.1 h
    cases reads_of_next ha with
    | between hnone => cases hs.symm.trans hnone
    | starts => cases hs
    | opens => cases hs
    | goesOn hs' hs₁ =>
      obtain rfl := Option.some.inj (hs'.symm.trans hs)
      exact hpart s₁ hs₁ ha
    | ends =>
      cases hs
      have ht : t = .word text.reverse := by
        simpa using congrArg (fun p ↦ p.1.head?) hp
      refine ⟨[], c :: u, rfl, by simpa using ht, ?_⟩
      rw [ht]
      rfl
    | closes =>
      cases hs
      have ht : t = .word ('"' :: text).reverse := by
        simpa using congrArg (fun p ↦ p.1.head?) hp
      refine ⟨['"'], u, rfl, by simpa using ht, ?_⟩
      rw [ht]
      rfl

/-- The token that is not complete has started, and not like a comment. -/
def State.Started (s : State) : Prop :=
  ∀ text, s.text? = some text → text ≠ [] ∧ text.getLast? ≠ some '#'

theorem started_cons {text : List Char} (h : text ≠ [] ∧ text.getLast? ≠ some '#') (c : Char) :
    c :: text ≠ [] ∧ (c :: text).getLast? ≠ some '#' := by
  refine ⟨List.cons_ne_nil c text, ?_⟩
  rw [List.getLast?_cons_of_ne_nil h.1]
  exact h.2

theorem head?_reverse_ne {text : List Char} (h : text.getLast? ≠ some '#') :
    text.reverse.head? ≠ some '#' := by
  rwa [List.head?_reverse]

/-- No token starts like a comment. -/
theorem started_next {a : List Token × State} (hs : s.Started) (h : next s c = some a) :
    a.2.Started ∧ ∀ r, .word r ∈ a.1 → r.head? ≠ some '#' := by
  obtain ⟨ts, s'⟩ := a
  cases reads_of_next h with
  | between _ hs' hts =>
    refine ⟨fun text htext ↦ ?_, fun r hr ↦ absurd hr (hts r)⟩
    cases htext.symm.trans hs'
  | starts hc =>
    have hhash : c ≠ '#' := by
      rintro rfl
      exact absurd hc (by decide)
    simp [State.Started, State.text?, hhash]
  | opens => simp [State.Started, State.text?]
  | goesOn htext htext' =>
    refine ⟨fun text hsome ↦ ?_, fun r hr ↦ absurd hr List.not_mem_nil⟩
    obtain rfl := Option.some.inj (htext'.symm.trans hsome)
    exact started_cons (hs _ htext) c
  | ends hts =>
    refine ⟨nofun, fun r hr ↦ ?_⟩
    rcases List.mem_cons.1 hr with hr | hr
    · cases hr
      exact head?_reverse_ne (hs _ rfl).2
    · exact absurd hr (hts r)
  | closes =>
    refine ⟨nofun, fun r hr ↦ ?_⟩
    cases List.mem_singleton.1 hr
    exact head?_reverse_ne (started_cons (hs _ rfl) '"').2

theorem head?_ne_of_mem {r : List Char} {p : List Token × State} (hs : s.Started)
    (h : lexFrom s u = some p) (hr : .word r ∈ p.1) : r.head? ≠ some '#' := by
  induction u generalizing s p with
  | nil =>
    simp only [lexFrom, Option.some.injEq] at h
    rw [← h] at hr
    cases hr
  | cons c u ih =>
    obtain ⟨a, b, ha, hb, rfl⟩ := lexFrom_cons_eq_some.1 h
    obtain ⟨hstarted, hwords⟩ := started_next hs ha
    rcases List.mem_append.1 hr with hr | hr
    · exact hwords r hr
    · exact ih hstarted hb hr

/-- A token starts with a quote, or with a character that is not special. -/
theorem next_of_lexFrom {k : List Char} (hblank : isBlank c = false)
    (h : lexFrom .blank (c :: u) = some (.word (c :: k) :: ts, s')) :
    (c = '"' ∨ startsWord c = true) ∧ ∃ s₁, s₁.text? = some [c] ∧
      next .blank c = some ([], s₁) := by
  have hstart : (State.blank).Started := by simp [State.Started, State.text?]
  have hhash : c ≠ '#' := by simpa using head?_ne_of_mem hstart h (List.mem_cons_self ..)
  obtain ⟨a, b, ha, -, hp⟩ := lexFrom_cons_eq_some.1 h
  have hnext := ha
  simp only [next, hblank, Bool.false_eq_true, if_false, hhash] at ha
  split at ha
  · cases ha
    cases hp
  split at ha
  · cases ha
    cases hp
  split at ha
  · cases ha
    cases hp
  rename_i h₁ h₂ h₃
  split at ha
  · rename_i h₄
    cases ha
    exact ⟨.inl h₄, _, rfl, hnext⟩
  · rename_i h₄
    cases ha
    exact ⟨.inr (by simp [startsWord, endsWord, hblank, h₁, h₂, h₃, h₄, hhash]), _, rfl, hnext⟩

/-- **A text that a file has as a token is one token**, when it starts with no blank. -/
theorem oneWord_of_lexFrom {k : List Char} (hk : ∀ c ∈ k.head?, isBlank c = false) (hne : k ≠ [])
    (h : lexFrom .blank (k ++ v) = some (.word k :: ts, s')) : OneWord k := by
  obtain ⟨c, k, rfl⟩ := List.exists_cons_of_ne_nil hne
  rw [List.cons_append] at h
  obtain ⟨-, s₁, hs₁, hnext⟩ := next_of_lexFrom (hk c rfl) h
  rw [lexFrom_cons_of_next hnext] at h
  obtain ⟨u, w, huw, ht, hu⟩ := exists_of_lexFrom_cons hs₁ h
  have hku : k = u := by simpa using ht
  rw [OneWord, List.cons_append, lexFrom_cons_of_next hnext, hku]
  simpa [hku] using hu

/-! ### Which texts are one token -/

/-- The text between two quotes has no quote without a backslash before it, and the backslash at its
end, if it has one, is behind another. The first argument says whether the character before was a
backslash that counts. -/
def quotable : Bool → List Char → Bool
  | escaped, [] => !escaped
  | true, _ :: cs => quotable false cs
  | false, c :: cs => if c = '\\' then quotable true cs else c ≠ '"' && quotable false cs

/-- The state inside quotes. -/
def inside (escaped : Bool) (text : List Char) : State :=
  if escaped then .escaped text else .quoted text

/-- Inside quotes every character is part of the token, but for a quote that counts. -/
theorem next_inside {escaped : Bool} (h : escaped = true ∨ c ≠ '"') :
    next (inside escaped text) c = some ([], inside (!escaped && c = '\\') (c :: text)) := by
  cases escaped with
  | true => rfl
  | false =>
    have hquote : c ≠ '"' := h.resolve_left Bool.false_ne_true
    by_cases hbackslash : c = '\\'
    · simp [inside, next, hbackslash]
    · simp [inside, next, hbackslash, hquote]

theorem quotable_cons {escaped : Bool} (h : escaped = true ∨ c ≠ '"') :
    quotable escaped (c :: cs) = quotable (!escaped && c = '\\') cs := by
  cases escaped with
  | true => rfl
  | false =>
    have hquote : c ≠ '"' := h.resolve_left Bool.false_ne_true
    by_cases hbackslash : c = '\\'
    · simp [quotable, hbackslash]
    · simp [quotable, hbackslash, hquote]

theorem next_inside_quote :
    next (inside false text) '"' = some ([.word ('"' :: text).reverse], .closed) := rfl

theorem lexFrom_quoted_iff {escaped : Bool} {body text : List Char} :
    lexFrom (inside escaped text) (body ++ ['"', ' ']) =
        some ([.word (text.reverse ++ body ++ ['"'])], .blank) ↔
      quotable escaped body = true := by
  induction body generalizing escaped text with
  | nil =>
    cases escaped with
    | true => simp [inside, lexFrom, next, quotable]
    | false => simp [inside, lexFrom, next, quotable, isBlank]
  | cons c body ih =>
    by_cases h : escaped = true ∨ c ≠ '"'
    · rw [List.cons_append, lexFrom_cons_of_next (next_inside h), quotable_cons h,
        ← @ih _ (c :: text)]
      simp
    · obtain ⟨hescaped, hquote⟩ := not_or.1 h
      obtain rfl := Bool.eq_false_iff.2 hescaped
      obtain rfl := not_not.1 hquote
      refine iff_of_false (fun h ↦ ?_) (by simp [quotable])
      obtain ⟨a, b, ha, -, hp⟩ := lexFrom_cons_eq_some.1 h
      rw [next_inside_quote, Option.some.injEq] at ha
      subst ha
      simp at hp

/-- **A text in quotes** is one token when its quotes are escaped. -/
theorem oneWord_quote_iff {body : List Char} :
    OneWord ('"' :: body ++ ['"']) ↔ quotable false body = true := by
  have hnext : next .blank '"' = some ([], inside false ['"']) := rfl
  rw [OneWord, List.cons_append, List.cons_append, lexFrom_cons_of_next hnext, List.append_assoc]
  exact lexFrom_quoted_iff

theorem lexFrom_bare_iff {body text : List Char} :
    lexFrom (.bare text) (body ++ [' ']) = some ([.word (text.reverse ++ body)], .blank) ↔
      body.all (fun c ↦ !endsWord c) = true := by
  induction body generalizing text with
  | nil => simp [lexFrom, next, isBlank]
  | cons c body ih =>
    by_cases hend : endsWord c = true
    · refine iff_of_false (fun h ↦ ?_) (by simp [hend])
      obtain ⟨a, b, ha, -, hp⟩ := lexFrom_cons_eq_some.1 h
      have hword : a.1.head? = some (.word text.reverse) := by
        simp only [endsWord, Bool.or_eq_true, decide_eq_true_eq] at hend
        simp only [next] at ha
        split at ha
        · cases ha; rfl
        split at ha
        · cases ha; rfl
        split at ha
        · cases ha; rfl
        · rename_i h₁ h₂ h₃
          simp [h₁, h₂, h₃] at hend
      have hhead : some (Token.word (text.reverse ++ c :: body)) = (a.1 ++ b.1).head? :=
        congrArg (fun p ↦ p.1.head?) hp
      rw [List.head?_append, hword] at hhead
      simp at hhead
    · have hnext : next (.bare text) c = some ([], .bare (c :: text)) := by
        simp only [endsWord, Bool.or_eq_true, decide_eq_true_eq, not_or] at hend
        simp [next, hend]
      have hall : (c :: body).all (fun c ↦ !endsWord c) = body.all fun c ↦ !endsWord c := by
        simp [hend]
      rw [List.cons_append, lexFrom_cons_of_next hnext, hall, ← @ih (c :: text)]
      simp

/-- **A text without quotes** is one token when it starts like one and nothing in it ends one. -/
theorem oneWord_bare_iff (h : startsWord c = true) :
    OneWord (c :: cs) ↔ cs.all (fun c ↦ !endsWord c) = true := by
  have hnext : next .blank c = some ([], .bare [c]) := by
    simp only [startsWord, endsWord, Bool.not_eq_true', Bool.or_eq_false_iff,
      decide_eq_false_iff_not] at h
    simp [next, h]
  rw [OneWord, List.cons_append, lexFrom_cons_of_next hnext]
  exact lexFrom_bare_iff

/-- A token that starts with a quote ends with one. -/
theorem getLast?_of_quoted {escaped : Bool} {r : List Char}
    (h : lexFrom (inside escaped text) u = some (.word r :: ts, s')) : r.getLast? = some '"' := by
  induction u generalizing escaped text with
  | nil => simp [lexFrom] at h
  | cons c u ih =>
    by_cases hc : escaped = true ∨ c ≠ '"'
    · rw [lexFrom_cons_of_next (next_inside hc)] at h
      exact ih h
    · obtain ⟨hescaped, hquote⟩ := not_or.1 hc
      obtain rfl := Bool.eq_false_iff.2 hescaped
      obtain rfl := not_not.1 hquote
      obtain ⟨a, b, ha, -, hp⟩ := lexFrom_cons_eq_some.1 h
      rw [next_inside_quote, Option.some.injEq] at ha
      subst ha
      have hr : r = ('"' :: text).reverse := by simpa using congrArg (fun p ↦ p.1.head?) hp
      rw [hr, List.getLast?_reverse]
      rfl

/-- Whether a text is one token, character by character. -/
def isOneWord : List Char → Bool
  | [] => false
  | c :: cs =>
    if c = '"' then cs.getLast? = some '"' && quotable false cs.dropLast
    else startsWord c && cs.all fun c ↦ !endsWord c

/-- **Which texts are one token**, among those that start with no blank. -/
theorem oneWord_iff {k : List Char} (hk : ∀ c ∈ k.head?, isBlank c = false) (hne : k ≠ []) :
    OneWord k ↔ isOneWord k = true := by
  obtain ⟨c, cs, rfl⟩ := List.exists_cons_of_ne_nil hne
  have hblank : isBlank c = false := hk c rfl
  rw [isOneWord]
  by_cases hquote : c = '"'
  · subst hquote
    rw [if_pos rfl, Bool.and_eq_true, decide_eq_true_eq]
    constructor
    · intro h
      have hlast : ('"' :: cs).getLast? = some '"' := by
        have hnext : next .blank '"' = some ([], inside false ['"']) := rfl
        have hlex := h
        rw [OneWord, List.cons_append, lexFrom_cons_of_next hnext] at hlex
        exact getLast?_of_quoted hlex
      have hcs : cs.getLast? = some '"' := by
        cases cs with
        | nil =>
          have hno : ¬ OneWord ['"'] := by decide
          exact absurd h hno
        | cons d ds => rwa [List.getLast?_cons_cons] at hlast
      have heq : cs.dropLast ++ ['"'] = cs := List.dropLast_append_getLast? _ hcs
      rw [← heq] at h
      exact ⟨hcs, oneWord_quote_iff.1 h⟩
    · rintro ⟨hcs, hquotable⟩
      have heq : cs.dropLast ++ ['"'] = cs := List.dropLast_append_getLast? _ hcs
      rw [← heq]
      exact oneWord_quote_iff.2 hquotable
  · rw [if_neg hquote, Bool.and_eq_true]
    by_cases hstart : startsWord c = true
    · rw [oneWord_bare_iff hstart]
      exact (and_iff_right hstart).symm
    · refine iff_of_false (fun h ↦ ?_) fun h ↦ hstart h.1
      rcases (next_of_lexFrom hblank h).1 with h | h
      · exact hquote h
      · exact hstart h

/-! ### Outside quotes -/

/-- A token without quotes around it. -/
def Token.isBare : Token → Bool
  | .word text => text.head? ≠ some '"' && text.all fun c ↦ !endsWord c
  | _ => true

/-- The text between blanks is not one in quotes. -/
def State.isOutside : State → Bool
  | .bare text => text.getLast? ≠ some '"' && text ≠ [] && text.all fun c ↦ !endsWord c
  | .quoted _ | .escaped _ => false
  | _ => true

theorem isBare_reverse {text : List Char} (h : (State.bare text).isOutside = true) :
    (Token.word text.reverse).isBare = true := by
  simp only [State.isOutside, Bool.and_eq_true] at h
  simpa [Token.isBare, List.head?_reverse] using ⟨by simpa using h.1.1, by simpa using h.2⟩

theorem isOutside_of_text?_eq_none (h : s.text? = none) : s.isOutside = true := by
  cases s with
  | bare text => cases h
  | quoted text => cases h
  | escaped text => cases h
  | _ => rfl

theorem isBare_of_forall_ne (hts : ∀ r, .word r ∉ ts) (ht : t ∈ ts) : t.isBare = true := by
  cases t with
  | word r => exact absurd ht (hts r)
  | _ => rfl

/-- Where no quote can start a token, what is outside stays outside. -/
theorem isOutside_next {a : List Token × State} (hs : s.isOutside = true)
    (hquote : c = '"' → s ≠ .blank) (h : next s c = some a) :
    a.2.isOutside = true ∧ ∀ t ∈ a.1, t.isBare = true := by
  obtain ⟨ts, s'⟩ := a
  cases reads_of_next h with
  | between _ hs' hts => exact ⟨isOutside_of_text?_eq_none hs', fun t ↦ isBare_of_forall_ne hts⟩
  | starts hc =>
    have hc' : c ≠ '"' := fun h ↦ hquote h rfl
    have hends : endsWord c = false := by
      simp only [startsWord, Bool.not_eq_true', Bool.or_eq_false_iff] at hc
      exact hc.1.1.1
    simp [State.isOutside, hc', hends]
  | opens => exact absurd rfl (hquote rfl)
  | goesOn htext htext' hbare =>
    refine ⟨?_, fun t ht ↦ absurd ht List.not_mem_nil⟩
    cases s with
    | bare text =>
      cases htext
      obtain ⟨hs', hc⟩ := hbare rfl
      rw [hs']
      simp only [State.isOutside, Bool.and_eq_true, decide_eq_true_eq] at hs
      simp only [State.isOutside, List.getLast?_cons_of_ne_nil hs.1.2, List.all_cons, hs.2, hc]
      simpa using hs.1.1
    | quoted text => cases hs
    | escaped text => cases hs
    | _ => cases htext
  | ends hts =>
    refine ⟨rfl, fun t ht ↦ ?_⟩
    rcases List.mem_cons.1 ht with rfl | ht
    · exact isBare_reverse hs
    · exact isBare_of_forall_ne hts ht
  | closes => cases hs

/-- What stays outside quotes over one text, and then over what is behind it. -/
def StaysOutside (u : List Char) : Prop :=
  ∀ (s : State) (p : List Token × State), s.isOutside = true → lexFrom s u = some p →
    p.2.isOutside = true ∧ ∀ t ∈ p.1, t.isBare = true

theorem staysOutside_nil : StaysOutside [] := by
  intro s p hs h
  cases h
  exact ⟨hs, fun t ht ↦ absurd ht List.not_mem_nil⟩

theorem StaysOutside.append (hu : StaysOutside u) (hv : StaysOutside v) :
    StaysOutside (u ++ v) := by
  intro s p hs h
  rw [lexFrom_append, Option.bind_eq_some_iff] at h
  obtain ⟨a, ha, h⟩ := h
  rw [Option.map_eq_some_iff] at h
  obtain ⟨b, hb, rfl⟩ := h
  obtain ⟨hoff, hwords⟩ := hu _ _ hs ha
  obtain ⟨hoff', hwords'⟩ := hv _ _ hoff hb
  exact ⟨hoff', fun t ht ↦ (List.mem_append.1 ht).elim (hwords t) (hwords' t)⟩

theorem staysOutside_singleton (hc : c ≠ '"') : StaysOutside [c] := by
  intro s p hs h
  obtain ⟨a, b, ha, hb, rfl⟩ := lexFrom_cons_eq_some.1 h
  cases hb
  rw [List.append_nil]
  exact isOutside_next hs (fun h ↦ absurd h hc) ha

theorem staysOutside_of_not_mem (hu : '"' ∉ u) : StaysOutside u := by
  induction u with
  | nil => exact staysOutside_nil
  | cons c u ih =>
    rw [List.mem_cons, not_or] at hu
    exact (staysOutside_singleton (Ne.symm hu.1)).append (ih hu.2)

/-- A quote with a backslash before it starts no token. -/
theorem staysOutside_escaped_quote : StaysOutside ['\\', '"'] := by
  intro s p hs h
  obtain ⟨a, b, ha, hb, rfl⟩ := lexFrom_cons_eq_some.1 h
  obtain ⟨a', b', ha', hb', rfl⟩ := lexFrom_cons_eq_some.1 hb
  cases hb'
  rw [List.append_nil]
  have hbackslash : ('\\' : Char) ≠ '"' := by decide
  obtain ⟨hoff, hwords⟩ := isOutside_next hs (fun h ↦ absurd h hbackslash) ha
  have hne : a.2 ≠ .blank := by
    intro hblank
    cases s with
    | blank => cases ha; cases hblank
    | comment => cases ha; cases hblank
    | bare text => cases ha; cases hblank
    | quoted text => cases hs
    | escaped text => cases hs
    | closed => cases ha
  obtain ⟨hoff', hwords'⟩ := isOutside_next hoff (fun _ ↦ hne) ha'
  exact ⟨hoff', fun t ht ↦ (List.mem_append.1 ht).elim (hwords t) (hwords' t)⟩

/-- Inside quotes, a text without one leads nowhere. -/
theorem lexFrom_inside_of_not_mem {escaped : Bool} (hu : '"' ∉ u) :
    ∃ escaped' text', lexFrom (inside escaped text) u = some ([], inside escaped' text') := by
  induction u generalizing escaped text with
  | nil => exact ⟨escaped, text, rfl⟩
  | cons c u ih =>
    rw [List.mem_cons, not_or] at hu
    rw [lexFrom_cons_of_next (next_inside (.inr (Ne.symm hu.1)))]
    exact ih hu.2

/-- A file does not end there. -/
theorem inside_ne_blank {escaped : Bool} :
    inside escaped text ≠ .blank ∧ inside escaped text ≠ .comment := by
  cases escaped with
  | true => exact ⟨State.noConfusion, State.noConfusion⟩
  | false => exact ⟨State.noConfusion, State.noConfusion⟩

end NginxLexer
