import DjangoWaf.Forms.Verdicts
import DjangoWaf.Lib.PyDict

/-!
# Rendered fields

What `render_fields` puts into a form, and what a browser makes of it. A fragment is kept as its
inputs, each with what stands between the quotes of its value, and its scripts; only the render
token's is kept as text, since the orchestrator **reads the nonce back out of the HTML** before it
renders the other defences.

The two scripts set one input each: `js_touch` writes the expected value, the solver of `pow_gate`
the first counter whose digest has enough leading zeros. A browser submits the inputs of the page,
and Django keeps the last value of a name.
-/

namespace DjangoWaf

open PyBytes IsoDatetime

/-! ### Fragments -/

/-- A script of a fragment. -/
inductive Script
  /-- `el.value = value`. -/
  | setValue (name value : String)
  /-- The solver of `_solver_script`, which has `tokenNonce` as the literal that `repr` makes. -/
  | solvePow (name tokenNonce : String) (difficulty : ℤ)
  deriving DecidableEq

/-- What a defence renders: inputs, each a name and the text between the quotes of its value, and
scripts. -/
structure Fragment where
  inputs : List (String × String)
  scripts : List Script
  deriving DecidableEq

/-- `html.escape`, on the characters of a text. -/
def escapeHtml (cs : List Char) : List Char :=
  cs.flatMap fun c ↦
    if c = '&' then "&amp;".toList
    else if c = '<' then "&lt;".toList
    else if c = '>' then "&gt;".toList
    else if c = '"' then "&quot;".toList
    else if c = '\'' then "&#x27;".toList
    else [c]

/-- The start of a `value` attribute. -/
def valueAttribute : List Char := ['v', 'a', 'l', 'u', 'e', '=', '"']

/-- What `re.compile(r'value="([^"]*)"')` finds first in a text. -/
def searchValue : List Char → Option (List Char)
  | [] => none
  | c :: cs =>
    if valueAttribute.isPrefixOf (c :: cs) = true ∧ '"' ∈ (c :: cs).drop 7 then
      some (((c :: cs).drop 7).takeWhile (· ≠ '"'))
    else searchValue cs

/-- `_extract_token_value`. -/
def extractTokenValue (fragment : String) : String :=
  String.ofList ((searchValue fragment.toList).getD [])

namespace RenderTokenDefence

/-- The token `render_fields` issues, with its payload. -/
def issue (cf : FormConf) (fp : FormProtection) (req : FormRequest) (now : Civil) (nonce : String) :
    String × TokenPayload :=
  issueToken cf.toSigning fp.formId req.ip req.userId req.userAgent nonce now.utc

/-- A form and a client whose tokens have no delimiter in any of their fields. -/
def Undelimited (fp : FormProtection) (req : FormRequest) : Prop :=
  '|' ∉ fp.formId.toList ∧ '|' ∉ req.ip.toList ∧ '|' ∉ req.userId.toList

instance (fp : FormProtection) (req : FormRequest) : Decidable (Undelimited fp req) :=
  inferInstanceAs (Decidable
    ('|' ∉ fp.formId.toList ∧ '|' ∉ req.ip.toList ∧ '|' ∉ req.userId.toList))

/-- The token of such a form is verified to its payload. -/
theorem verifyToken_issue (cf : FormConf) {fp : FormProtection} {req : FormRequest} (now : Civil)
    {nonce : String} (hnonce : ∀ c ∈ nonce.toList, IsHex c) (h : Undelimited fp req) :
    verifyToken cf.toSigning (issue cf fp req now nonce).1 = .ok (issue cf fp req now nonce).2 :=
  verifyToken_issueToken_of_noDelim _ now.legible_utc
    ((noDelim_issueToken_iff _ _ _ _ _ hnonce _).2 h)

/-- The token of any other form is refused. -/
theorem verifyToken_issue_delimited (cf : FormConf) {fp : FormProtection} {req : FormRequest}
    (now : Civil) {nonce : String} (hnonce : ∀ c ∈ nonce.toList, IsHex c)
    (h : ¬Undelimited fp req) :
    ∃ message, verifyToken cf.toSigning (issue cf fp req now nonce).1 =
      .error (.valueError message) :=
  verifyToken_issueToken_of_not_noDelim _ (mt (noDelim_issueToken_iff _ _ _ _ _ hnonce _).1 h)

/-- The marker `render_fields` sets. -/
def issueMarker (cf : FormConf) (fp : FormProtection) (up : Bool) (now : ℚ) (nonce : String)
    (s : FormStore) : FormStore :=
  s.issueMarker up now nonce (fp.perFormConfig.tokenTtl.getD cf.tokenTtl)

/-- The HTML of the token. -/
def html (token : String) : String :=
  "<input type=\"hidden\" name=\"" ++ fieldName ++ "\" value=\"" ++
    String.ofList (escapeHtml token.toList) ++ "\">"

/-- The fragment of that HTML. -/
def fragment (token : String) : Fragment :=
  ⟨[(fieldName, String.ofList (escapeHtml token.toList))], []⟩

end RenderTokenDefence

namespace HoneypotDefence

/-- The characters of a name that are rendered. -/
def safeName (cf : FormConf) (name : String) : String :=
  String.ofList (name.toList.filter fun c ↦ cf.isAlnum c || c = '_' || c = '-')

/-- `HoneypotDefence.render_fields`. -/
def renderFields (cf : FormConf) (formId : String) (config : DefenceConfig) :
    List (String × Fragment) :=
  let names := names cf formId config
  if names = [] then []
  else
    [("_waf_honeypot", ⟨((names.map (safeName cf)).filter (· ≠ "")).map fun n ↦ (n, ""), []⟩)]

end HoneypotDefence

/-- `JsTouchDefence.render_fields`. -/
def JsTouchDefence.renderFields (cf : FormConf) (formId : String) (config : DefenceConfig) :
    List (String × Fragment) :=
  let nonce := config.tokenNonce.getD formId
  [(fieldName, ⟨[(fieldName, sentinelUnset)],
    [.setValue fieldName (expectedValue cf.toSigning nonce)]⟩)]

/-- `PowGateDefence.render_fields`. The nonce is not escaped. -/
def PowGateDefence.renderFields (cf : FormConf) (formId : String) (config : DefenceConfig) :
    List (String × Fragment) :=
  let tokenNonce := config.tokenNonce.getD formId
  [(nonceField, ⟨[(nonceField, ""), (tokenBindField, tokenNonce)],
    [.solvePow nonceField tokenNonce (difficulty cf config)]⟩)]

/-- `render_fields` of each defence but the render token. -/
def Defence.renderFields (cf : FormConf) (formId : String) (config : DefenceConfig) :
    Defence → List (String × Fragment)
  | honeypot => HoneypotDefence.renderFields cf formId config
  | jsTouch => JsTouchDefence.renderFields cf formId config
  | powGate => PowGateDefence.renderFields cf formId config
  | _ => []

namespace FormProtection

variable (cf : FormConf) (fp : FormProtection)

/-- The nonce that is read back from the rendered token. -/
def renderedNonce (token : String) : Option String :=
  let tokenStr := extractTokenValue (RenderTokenDefence.html token)
  if tokenStr = "" then none
  else
    match parseSubmittedPayload cf.toSigning [(RenderTokenDefence.fieldName, some tokenStr)] with
    | .ok payload => payload.map TokenPayload.nonce
    | .error _ => none

/-- `token_nonce`, as the first pass leaves it. -/
def tokenNonce (req : FormRequest) (now : Civil) (nonce : String) : Option String :=
  if .renderToken ∈ fp.runningNames req then
    renderedNonce cf (RenderTokenDefence.issue cf fp req now nonce).1
  else none

/-- `render_fields`: the fragments by their keys. -/
def renderFields (req : FormRequest) (now : Civil) (nonce : String) : List (String × Fragment) :=
  if cf.enabled = false then []
  else
    let names := fp.runningNames req
    let token := (RenderTokenDefence.issue cf fp req now nonce).1
    let first := if .renderToken ∈ names then
      [(RenderTokenDefence.fieldName, RenderTokenDefence.fragment token)] else []
    first ++ (names.filter (· ≠ .renderToken)).flatMap
      (Defence.renderFields cf fp.formId (fp.configFor (fp.tokenNonce cf req now nonce)))

/-- What `render_fields` leaves in Redis. -/
def renderStore (up : Bool) (req : FormRequest) (now : Civil) (nonce : String) (s : FormStore) :
    FormStore :=
  if cf.enabled = true ∧ .renderToken ∈ fp.runningNames req then
    RenderTokenDefence.issueMarker cf fp up now.seconds nonce s
  else s

end FormProtection

/-! ### Browsers -/

/-- A character that HTML and JavaScript read as it is. -/
def IsPlain (c : Char) : Prop := ' ' ≤ c ∧ c ≤ '~' ∧ c ∉ ['"', '&', '\'', '<', '\\']

instance (c : Char) : Decidable (IsPlain c) :=
  inferInstanceAs (Decidable (' ' ≤ c ∧ c ≤ '~' ∧ c ∉ ['"', '&', '\'', '<', '\\']))

theorem isPlain_of_isHex {c : Char} (h : IsHex c) : IsPlain c := by
  have hdigit : ∀ n < 16, IsPlain (Nat.digitChar n) := by decide
  obtain ⟨n, hn, rfl⟩ := h
  exact hdigit n hn

/-- How a browser reads what a template has written. -/
structure Browser where
  /-- The references and the line ends of a value between quotes. -/
  decode : List Char → List Char
  decode_plain : ∀ {cs}, (∀ c ∈ cs, IsPlain c) → decode cs = cs
  /-- What a script reads out of the literal that `repr` makes of a text. -/
  literal : String → String
  literal_plain : ∀ {s}, (∀ c ∈ s.toList, IsPlain c) → literal s = s

namespace Browser

/-- One that decodes nothing. -/
def plain : Browser := ⟨id, fun _ ↦ rfl, id, fun _ ↦ rfl⟩

variable (b : Browser)

/-- What is read out of `value="…"`: a value ends at the next quote. -/
def attrValue (s : String) : String := String.ofList (b.decode (s.toList.takeWhile (· ≠ '"')))

theorem attrValue_plain {s : String} (h : ∀ c ∈ s.toList, IsPlain c) : b.attrValue s = s := by
  have htake : s.toList.takeWhile (· ≠ '"') = s.toList := by
    rw [List.takeWhile_eq_self_iff]
    refine fun c hc ↦ decide_eq_true ?_
    rintro rfl
    exact (h '"' hc).2.2 (by simp)
  rw [attrValue, htake, b.decode_plain h, String.ofList_toList]

example : plain.attrValue "contact\"us" = "contact" := by decide

end Browser

/-- `leadingZeroBits` of the solver script. -/
def leadingZeroBits (bytes : List UInt8) (bits : ℤ) : Bool := JsNumber.leadingZeros bytes bits

/-- The solver finds a counter: the first one with enough leading zeros, before it gives up. -/
structure SolverFinds (k : Signing) (tokenNonce : String) (difficulty : ℕ) (counter : ℕ) :
    Prop where
  le : counter ≤ 2 ^ difficulty * 64
  zeros : leadingZeroBits
    (k.sha256 (utf8Encode (tokenNonce ++ ":" ++ toString counter))).bytes difficulty = true
  first : ∀ n < counter, leadingZeroBits
    (k.sha256 (utf8Encode (tokenNonce ++ ":" ++ toString n))).bytes difficulty = false

/-- A counter that a script finds, where the script looks for one. -/
def Script.SolvedBy (b : Browser) (k : Signing) (counter : ℕ) : Script → Prop
  | setValue _ _ => True
  | solvePow _ tokenNonce difficulty =>
    SolverFinds k (b.literal tokenNonce) difficulty.toNat counter

/-- The inputs after a script, when its solver finds `counter`. -/
def Script.run (counter : ℕ) (inputs : List (String × String)) : Script → List (String × String)
  | setValue name value => inputs.map fun p ↦ if p.1 = name then (name, value) else p
  | solvePow name _ _ => inputs.map fun p ↦ if p.1 = name then (name, toString counter) else p

/-- The inputs of a fragment, as a browser reads them, after its scripts. -/
def Fragment.filled (b : Browser) (counter : ℕ) (f : Fragment) : List (String × String) :=
  f.scripts.foldl (Script.run counter) (f.inputs.map fun p ↦ (p.1, b.attrValue p.2))

/-- The data of a form that is submitted with its own fields around the rendered ones. -/
def submittedData (b : Browser) (before : List (String × String)) (fragments : List Fragment)
    (counter : ℕ) (after : List (String × String)) : Submitted :=
  (QueryDict.ofPairs (before ++ fragments.flatMap (Fragment.filled b counter) ++ after)).dict

/-! ### The nonce, read back -/

/-- Characters that are not escaped. -/
theorem escapeHtml_eq_self {cs : List Char} (h : ∀ c ∈ cs, c ∉ ['&', '<', '>', '"', '\'']) :
    escapeHtml cs = cs := by
  induction cs with
  | nil => rfl
  | cons c cs ih =>
    have hc := h c List.mem_cons_self
    simp only [List.mem_cons, List.not_mem_nil, or_false, not_or] at hc
    rw [escapeHtml, List.flatMap_cons, if_neg hc.1, if_neg hc.2.1, if_neg hc.2.2.1,
      if_neg hc.2.2.2.1, if_neg hc.2.2.2.2, ← escapeHtml,
      ih fun d hd ↦ h d (List.mem_cons_of_mem c hd)]
    rfl

/-- No match starts at another letter than `v`. -/
theorem searchValue_append {front : List Char} (h : 'v' ∉ front) (cs : List Char) :
    searchValue (front ++ cs) = searchValue cs := by
  induction front with
  | nil => rfl
  | cons c front ih =>
    rw [List.mem_cons, not_or] at h
    have hstart : ¬valueAttribute.isPrefixOf (c :: (front ++ cs)) = true := by
      rw [List.isPrefixOf_iff_prefix]
      rintro ⟨t, ht⟩
      exact h.1 (List.cons.inj ht).1
    rw [List.cons_append, searchValue, if_neg fun hmatch ↦ hstart hmatch.1, ih h.2]

theorem searchValue_value {value : List Char} (h : '"' ∉ value) (rest : List Char) :
    searchValue (valueAttribute ++ (value ++ '"' :: rest)) = some value := by
  have htake : (value ++ '"' :: rest).takeWhile (· ≠ '"') = value := by
    rw [List.takeWhile_append_of_pos]
    · simp
    · exact fun c hc ↦ decide_eq_true fun heq ↦ h (heq ▸ hc)
  have hstart : valueAttribute.isPrefixOf (valueAttribute ++ (value ++ '"' :: rest)) = true := by
    rw [List.isPrefixOf_iff_prefix]
    exact List.prefix_append _ _
  have hdrop : (valueAttribute ++ (value ++ '"' :: rest)).drop 7 = value ++ '"' :: rest := rfl
  have hcons : valueAttribute ++ (value ++ '"' :: rest) =
      'v' :: (['a', 'l', 'u', 'e', '=', '"'] ++ (value ++ '"' :: rest)) := rfl
  rw [hcons] at hstart hdrop ⊢
  rw [searchValue, hdrop, if_pos ⟨hstart, by simp⟩, htake]

theorem toList_append_ofList (a b c d : String) (l : List Char) :
    (a ++ b ++ c ++ String.ofList l ++ d).toList =
      a.toList ++ b.toList ++ c.toList ++ l ++ d.toList := by
  rw [String.toList_append, String.toList_append, String.toList_append, String.toList_append,
    String.toList_ofList]

section Token

variable {token : String} (h : ∀ c ∈ token.toList, ∃ n < 64, c = Base64.digit n)

include h

theorem escapeHtml_token : escapeHtml token.toList = token.toList := by
  have hdigit : ∀ n < 64, Base64.digit n ∉ ['&', '<', '>', '"', '\''] := by decide
  refine escapeHtml_eq_self fun c hc ↦ ?_
  obtain ⟨n, hn, rfl⟩ := h c hc
  exact hdigit n hn

/-- A browser reads the token that was issued. -/
theorem attrValue_token (b : Browser) :
    b.attrValue (String.ofList (escapeHtml token.toList)) = token := by
  have hplain : ∀ n < 64, IsPlain (Base64.digit n) := by decide
  rw [escapeHtml_token h, String.ofList_toList]
  refine b.attrValue_plain fun c hc ↦ ?_
  obtain ⟨n, hn, rfl⟩ := h c hc
  exact hplain n hn

/-- **The token is what is read back from its HTML.** -/
theorem extractTokenValue_html : extractTokenValue (RenderTokenDefence.html token) = token := by
  have hdigit : ∀ n < 64, Base64.digit n ≠ '"' := by decide
  have hquote : '"' ∉ token.toList := by
    intro hmem
    obtain ⟨n, hn, heq⟩ := h '"' hmem
    exact hdigit n hn heq.symm
  obtain ⟨front, hfront, hv⟩ : ∃ front, "<input type=\"hidden\" name=\"".toList ++
      RenderTokenDefence.fieldName.toList ++ "\" value=\"".toList = front ++ valueAttribute ∧
        'v' ∉ front :=
    ⟨"<input type=\"hidden\" name=\"waf_token\" ".toList, by decide +kernel, by decide⟩
  have hback : "\">".toList = ['"', '>'] := by decide
  have hhtml : (RenderTokenDefence.html token).toList = "<input type=\"hidden\" name=\"".toList ++
      RenderTokenDefence.fieldName.toList ++ "\" value=\"".toList ++ escapeHtml token.toList ++
        "\">".toList := toList_append_ofList _ _ _ _ _
  have htoken : (RenderTokenDefence.html token).toList =
      front ++ (valueAttribute ++ (token.toList ++ '"' :: ['>'])) := by
    rw [hhtml, hfront, hback, escapeHtml_token h, List.append_assoc, List.append_assoc]
  rw [extractTokenValue, htoken, searchValue_append hv, searchValue_value hquote]
  exact String.ofList_toList

end Token

/-- What an issued token is written with. -/
theorem RenderTokenDefence.exists_digit_of_mem_issue (cf : FormConf) (fp : FormProtection)
    (req : FormRequest) (now : Civil) (nonce : String) {c : Char}
    (hc : c ∈ (issue cf fp req now nonce).1.toList) : ∃ n < 64, c = Base64.digit n := by
  rw [issue, issueToken, toList_encodeToken] at hc
  exact Base64.exists_digit_of_mem_bare hc

namespace FormProtection

variable (cf : FormConf) {fp : FormProtection} {req : FormRequest} (now : Civil) {nonce : String}

/-- **The nonce that is threaded on** is the one of the issued token. -/
theorem renderedNonce_issue (hnonce : ∀ c ∈ nonce.toList, IsHex c)
    (h : RenderTokenDefence.Undelimited fp req) :
    renderedNonce cf (RenderTokenDefence.issue cf fp req now nonce).1 = some nonce := by
  have hv := RenderTokenDefence.verifyToken_issue cf now hnonce h
  have hdigits : ∀ c ∈ (RenderTokenDefence.issue cf fp req now nonce).1.toList,
      ∃ n < 64, c = Base64.digit n :=
    fun c hc ↦ RenderTokenDefence.exists_digit_of_mem_issue cf fp req now nonce hc
  have htext : Submitted.text [(RenderTokenDefence.fieldName,
      some (RenderTokenDefence.issue cf fp req now nonce).1)] RenderTokenDefence.fieldName =
        (RenderTokenDefence.issue cf fp req now nonce).1 := by
    rw [Submitted.text, List.lookup_cons_self]
    rfl
  have hne : (RenderTokenDefence.issue cf fp req now nonce).1 ≠ "" := by
    rw [← htext] at hv ⊢
    exact text_ne_empty_of_verified hv
  rw [renderedNonce, extractTokenValue_html hdigits, if_neg hne, parseSubmittedPayload, htext,
    if_neg hne, hv]
  rfl

/-! ### The inputs of a page -/

variable (fp req) (nonce)

/-- The nonce the rendered fields are bound to. -/
def pageNonce : String :=
  (fp.configFor (fp.tokenNonce cf req now nonce)).tokenNonce.getD fp.formId

/-- The inputs of a filled form, by the defence that renders them. -/
def PageInput (b : Browser) (counter : ℕ) (p : String × String) : Prop :=
  (.renderToken ∈ fp.runningNames req ∧
    p = (RenderTokenDefence.fieldName, (RenderTokenDefence.issue cf fp req now nonce).1)) ∨
  (.honeypot ∈ fp.runningNames req ∧
    ∃ name ∈ HoneypotDefence.names cf fp.formId fp.perFormConfig,
      HoneypotDefence.safeName cf name ≠ "" ∧ p = (HoneypotDefence.safeName cf name, "")) ∨
  (.jsTouch ∈ fp.runningNames req ∧
    p = (JsTouchDefence.fieldName,
      JsTouchDefence.expectedValue cf.toSigning (fp.pageNonce cf req now nonce))) ∨
  (.powGate ∈ fp.runningNames req ∧
    (p = (PowGateDefence.nonceField, toString counter) ∨
      p = (PowGateDefence.tokenBindField, b.attrValue (fp.pageNonce cf req now nonce))))

theorem names_configFor (tokenNonce : Option String) :
    HoneypotDefence.names cf fp.formId (fp.configFor tokenNonce) =
      HoneypotDefence.names cf fp.formId fp.perFormConfig := by
  rcases tokenNonce with - | n
  · rfl
  · rfl

theorem mem_filled_honeypot (b : Browser) (counter : ℕ) (p : String × String)
    (tokenNonce : Option String) :
    (∃ f ∈ HoneypotDefence.renderFields cf fp.formId (fp.configFor tokenNonce),
      p ∈ f.2.filled b counter) ↔
      ∃ name ∈ HoneypotDefence.names cf fp.formId fp.perFormConfig,
        HoneypotDefence.safeName cf name ≠ "" ∧ p = (HoneypotDefence.safeName cf name, "") := by
  rw [HoneypotDefence.renderFields, names_configFor]
  by_cases hnil : HoneypotDefence.names cf fp.formId fp.perFormConfig = []
  · simp [hnil]
  · have hempty : b.attrValue "" = "" := b.attrValue_plain fun c hc ↦ absurd hc List.not_mem_nil
    simp only [if_neg hnil, List.mem_singleton, exists_eq_left, Fragment.filled, List.foldl_nil,
      List.map_map, List.mem_map, List.mem_filter, decide_eq_true_eq, Function.comp_apply, hempty]
    constructor
    · rintro ⟨_, ⟨⟨name, hname, rfl⟩, hne⟩, rfl⟩
      exact ⟨name, hname, hne, rfl⟩
    · rintro ⟨name, hname, hne, rfl⟩
      exact ⟨_, ⟨⟨name, hname, rfl⟩, hne⟩, rfl⟩

theorem mem_filled_jsTouch (b : Browser) (counter : ℕ) (p : String × String) :
    (∃ f ∈ JsTouchDefence.renderFields cf fp.formId
        (fp.configFor (fp.tokenNonce cf req now nonce)), p ∈ f.2.filled b counter) ↔
      p = (JsTouchDefence.fieldName,
        JsTouchDefence.expectedValue cf.toSigning (fp.pageNonce cf req now nonce)) := by
  simp only [JsTouchDefence.renderFields, List.mem_singleton, exists_eq_left, Fragment.filled,
    List.foldl_cons, List.foldl_nil, Script.run, List.map_cons, List.map_nil, if_true]
  rfl

theorem mem_filled_powGate (b : Browser) (counter : ℕ) (p : String × String) :
    (∃ f ∈ PowGateDefence.renderFields cf fp.formId
        (fp.configFor (fp.tokenNonce cf req now nonce)), p ∈ f.2.filled b counter) ↔
      p = (PowGateDefence.nonceField, toString counter) ∨
        p = (PowGateDefence.tokenBindField, b.attrValue (fp.pageNonce cf req now nonce)) := by
  have hne : ¬PowGateDefence.tokenBindField = PowGateDefence.nonceField := by decide
  simp only [PowGateDefence.renderFields, exists_eq_left, Fragment.filled, List.foldl_cons,
    List.foldl_nil, Script.run, List.map_cons, List.map_nil, if_true, if_neg hne, List.mem_cons,
    List.not_mem_nil, or_false]
  rfl

/-- The fragments of a page are those of the running defences. -/
theorem mem_renderFields (henabled : cf.enabled = true) (f : String × Fragment) :
    f ∈ fp.renderFields cf req now nonce ↔
      (.renderToken ∈ fp.runningNames req ∧ f = (RenderTokenDefence.fieldName,
        RenderTokenDefence.fragment (RenderTokenDefence.issue cf fp req now nonce).1)) ∨
      ∃ d ∈ fp.runningNames req, d ≠ .renderToken ∧
        f ∈ d.renderFields cf fp.formId (fp.configFor (fp.tokenNonce cf req now nonce)) := by
  have hon : ¬cf.enabled = false := by
    rw [henabled]
    decide
  rw [renderFields, if_neg hon, List.mem_append, List.mem_flatMap]
  refine or_congr ?_ (exists_congr fun d ↦ ?_)
  · split_ifs with hrun
    · simp only [List.mem_singleton, hrun, true_and]
    · simp only [List.not_mem_nil, hrun, false_and]
  · rw [List.mem_filter, decide_eq_true_eq, and_assoc]

/-- **What a filled page has**: the inputs of the running defences. -/
theorem mem_filled_iff (henabled : cf.enabled = true) (b : Browser) (counter : ℕ)
    (p : String × String) :
    (∃ f ∈ fp.renderFields cf req now nonce, p ∈ f.2.filled b counter) ↔
      fp.PageInput cf req now nonce b counter p := by
  have htoken := attrValue_token
    (fun c hc ↦ RenderTokenDefence.exists_digit_of_mem_issue cf fp req now nonce hc) b
  have hfilled : (RenderTokenDefence.fragment
      (RenderTokenDefence.issue cf fp req now nonce).1).filled b counter =
        [(RenderTokenDefence.fieldName, (RenderTokenDefence.issue cf fp req now nonce).1)] := by
    rw [RenderTokenDefence.fragment, Fragment.filled, List.foldl_nil, List.map_singleton, htoken]
  have hhoneypot := fp.mem_filled_honeypot cf b counter p (fp.tokenNonce cf req now nonce)
  have hjs := fp.mem_filled_jsTouch cf req now nonce b counter p
  have hpow := fp.mem_filled_powGate cf req now nonce b counter p
  simp only [fp.mem_renderFields cf req now nonce henabled]
  rw [PageInput]
  constructor
  · rintro ⟨f, ⟨hrun, rfl⟩ | ⟨d, hrun, -, hf⟩, hp⟩
    · rw [hfilled] at hp
      exact Or.inl ⟨hrun, List.mem_singleton.1 hp⟩
    · cases d with
      | honeypot => exact Or.inr (Or.inl ⟨hrun, hhoneypot.1 ⟨f, hf, hp⟩⟩)
      | jsTouch => exact Or.inr (Or.inr (Or.inl ⟨hrun, hjs.1 ⟨f, hf, hp⟩⟩))
      | powGate => exact Or.inr (Or.inr (Or.inr ⟨hrun, hpow.1 ⟨f, hf, hp⟩⟩))
      | renderToken => exact absurd hf List.not_mem_nil
      | timeTrap => exact absurd hf List.not_mem_nil
      | uaConsistency => exact absurd hf List.not_mem_nil
      | credentialThrottle => exact absurd hf List.not_mem_nil
      | signupVelocity => exact absurd hf List.not_mem_nil
  · rintro (⟨hrun, rfl⟩ | ⟨hrun, hp⟩ | ⟨hrun, hp⟩ | ⟨hrun, hp⟩)
    · refine ⟨_, Or.inl ⟨hrun, rfl⟩, ?_⟩
      rw [hfilled]
      exact List.mem_singleton.2 rfl
    · obtain ⟨f, hf, hp⟩ := hhoneypot.2 hp
      exact ⟨f, Or.inr ⟨.honeypot, hrun, by decide, hf⟩, hp⟩
    · obtain ⟨f, hf, hp⟩ := hjs.2 hp
      exact ⟨f, Or.inr ⟨.jsTouch, hrun, by decide, hf⟩, hp⟩
    · obtain ⟨f, hf, hp⟩ := hpow.2 hp
      exact ⟨f, Or.inr ⟨.powGate, hrun, by decide, hf⟩, hp⟩

end FormProtection

/-! ### What a browser submits -/

/-- A field all of whose values on the page are the same. -/
theorem text_submittedData {b : Browser} {before : List (String × String)}
    {fragments : List Fragment} {counter : ℕ} {after : List (String × String)} {name value : String}
    (hall : ∀ p ∈ before ++ fragments.flatMap (Fragment.filled b counter) ++ after,
      p.1 = name → p.2 = value)
    (hsome : value = "" ∨
      (name, value) ∈ before ++ fragments.flatMap (Fragment.filled b counter) ++ after) :
    (submittedData b before fragments counter after).text name = value := by
  rw [Submitted.text, submittedData, QueryDict.lookup_dict, QueryDict.getlist_ofPairs]
  generalize before ++ fragments.flatMap (Fragment.filled b counter) ++ after = body at hall hsome ⊢
  have hvalues : ∀ v ∈ (body.filter fun p ↦ p.1 = name).map Prod.snd, v = value := by
    intro v hv
    obtain ⟨p, hp, rfl⟩ := List.mem_map.1 hv
    exact hall p (List.mem_filter.1 hp).1 (of_decide_eq_true (List.mem_filter.1 hp).2)
  rcases hlast : ((body.filter fun p ↦ p.1 = name).map Prod.snd).getLast? with - | v
  · rw [hlast]
    rcases hsome with rfl | hmem
    · rfl
    · rw [List.getLast?_eq_none_iff, List.map_eq_nil_iff, List.filter_eq_nil_iff] at hlast
      exact absurd (decide_eq_true rfl) (hlast (name, value) hmem)
  · rw [hlast]
    exact hvalues v (List.mem_of_getLast? hlast)

namespace HoneypotDefence

/-- The names a form's honeypots are chosen from. -/
def pool (cf : FormConf) (fp : FormProtection) : List String :=
  fp.perFormConfig.fieldNames.getD cf.honeypotFieldNames

theorem mem_pool_of_mem_names {cf : FormConf} {fp : FormProtection} {name : String}
    (h : name ∈ names cf fp.formId fp.perFormConfig) : name ∈ pool cf fp := by
  rw [names, pickFieldNames, List.mem_map] at h
  obtain ⟨i, hi, rfl⟩ := h
  have hpos : 0 < (pool cf fp).length := by
    have hlt := List.mem_range.1 hi
    exact lt_of_le_of_lt (Nat.zero_le i) (lt_of_lt_of_le hlt (Nat.min_le_right _ _))
  rw [← pool, List.getD_eq_getElem?_getD, List.getElem?_eq_getElem (Nat.mod_lt _ hpos)]
  exact List.getElem_mem _

end HoneypotDefence

/-! ### Solved values -/

/-- **The two checks of a digest agree**, up to the length of a digest. -/
theorem digestHasLeadingZeroBits_eq (digest : Digest) {bits : ℕ} (h : bits ≤ 256) :
    digestHasLeadingZeroBits digest.bytes bits = leadingZeroBits digest.bytes bits := by
  rcases Nat.eq_zero_or_pos bits with rfl | hpos
  · rfl
  · have hbytes : (∀ i < bits / 8, digest.bytes[i]? = some 0) ↔
        ∀ i < bits / 8, digest.bytes.getD i 0 = 0 := by
      refine forall₂_congr fun i hi ↦ ?_
      have hlt : i < digest.bytes.length := by
        rw [digest.length_bytes]
        omega
      rw [List.getD_eq_getElem _ _ hlt, List.getElem?_eq_getElem hlt, Option.some_inj]
    rw [Bool.eq_iff_iff, digestHasLeadingZeroBits_iff digest hpos, leadingZeroBits,
      JsNumber.leadingZeros_iff digest.bytes (by omega), hbytes]
    exact and_iff_right h

/-- A counter the solver finds is accepted. -/
theorem SolverFinds.verifyNonce {k : Signing} {tokenNonce : String} {difficulty counter : ℕ}
    (h : SolverFinds k tokenNonce difficulty counter) (hdifficulty : difficulty ≤ 256) :
    PowGateDefence.verifyNonce k tokenNonce (toString counter) difficulty = true := by
  rw [PowGateDefence.verifyNonce, digestHasLeadingZeroBits_eq _ hdifficulty]
  exact h.zeros

/-- What the script writes is a value of its own: not empty, and not what the input starts with. -/
theorem JsTouchDefence.expectedValue_ne (k : Signing) (tokenNonce : String) :
    expectedValue k tokenNonce ≠ "" ∧ expectedValue k tokenNonce ≠ sentinelUnset := by
  have hlength : (k.sign (utf8Encode ("js_touch:" ++ tokenNonce))).length = 64 :=
    Digest.length_hexdigest _
  have hhex : ∀ c ∈ (expectedValue k tokenNonce).toList, IsHex c := by
    rw [expectedValue, String.toList_ofList]
    exact fun c hc ↦ Digest.isHex_of_mem_hexdigest (List.mem_of_mem_take hc)
  constructor
  · intro hempty
    have hnil : (expectedValue k tokenNonce).toList.length = 0 := by
      rw [hempty]
      rfl
    rw [expectedValue, String.toList_ofList, List.length_take, hlength] at hnil
    omega
  · intro hunset
    rw [hunset] at hhex
    exact absurd hhex (by decide)

end DjangoWaf
