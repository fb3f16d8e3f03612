import DjangoWaf.Models

/-!
# The guard on regular expressions

`services/pattern_validation.py`. `re.compile` belongs to the interpreter, and what it does with a
text is a parameter: it compiles, it raises `re.error`, or it raises something else (a repetition
count too large for the engine is an `OverflowError`, which `validate_ua_regex_pattern` does not
catch).

The two searches of the guard look for one shape: an opening parenthesis, a body without
parentheses, a closing parenthesis and a `+` or `*`, where the body has a character of a given kind.
The optional `?:` of the source changes nothing, since a body may start with it anyway.
-/

namespace DjangoWaf

/-- An exception that leaves a function. -/
inductive Raised
  | attributeError
  | typeError
  | valueError
  | overflowError
  | recursionError
  /-- A value its column does not hold. -/
  | fieldError
  deriving DecidableEq, Repr

/-- What `re.compile` does with a text. -/
inductive Compiled
  | ok
  | reError (message : String)
  | raises (error : Raised)
  deriving DecidableEq

/-- `MAX_PATTERN_LENGTH`. -/
def maxPatternLength : ℕ := 512

/-- `[+*]`. -/
def isRepeat (c : Char) : Bool := c = '+' || c = '*'

/-- `[^()]`. -/
def notParen (c : Char) : Bool := !(c = '(' || c = ')')

/-- The text after an opening parenthesis closes the group and repeats it, and the body of the group
has a character of the kind. -/
def repeatedGroup (kind : Char → Bool) (text : List Char) : Bool :=
  match text.dropWhile notParen with
  | ')' :: c :: _ => isRepeat c && (text.takeWhile notParen).any kind
  | _ => false

/-- Somewhere in the text there is a repeated group with a character of the kind. -/
def searchRepeatedGroup (kind : Char → Bool) : List Char → Bool
  | [] => false
  | c :: text => (c = '(' && repeatedGroup kind text) || searchRepeatedGroup kind text

/-- `_NESTED_QUANTIFIER_RE.search`. -/
def nestedQuantifier (pattern : String) : Bool := searchRepeatedGroup isRepeat pattern.toList

/-- `_QUANTIFIED_ALTERNATION_RE.search`. -/
def quantifiedAlternation (pattern : String) : Bool :=
  searchRepeatedGroup (fun c ↦ c = '|') pattern.toList

/-- `validate_ua_regex_pattern`: nothing, or the text of its `PatternValidationError`. -/
def validateUaRegexPattern (reCompile : String → Compiled) (pattern : String) :
    Except Raised (Option String) :=
  if pattern = "" then .ok (some "Pattern must not be empty.")
  else if maxPatternLength < pattern.length then
    .ok (some "Pattern exceeds the maximum length of 512 characters.")
  else
    match reCompile pattern with
    | .raises error => .error error
    | .reError message => .ok (some ("Pattern is not a valid regular expression: " ++ message))
    | .ok =>
      if nestedQuantifier pattern then
        .ok (some ("Pattern contains a nested quantifier (e.g. (a+)+ or (.*)*), which " ++
          "can cause catastrophic backtracking and pin a worker process at " ++
          "100% CPU on an adversarial User-Agent string. Rewrite the pattern " ++
          "to avoid repeating a group that is itself repeated."))
      else if quantifiedAlternation pattern then
        .ok (some ("Pattern contains a quantified alternation group (e.g. (a|ab)+), " ++
          "which can cause catastrophic backtracking on an adversarial " ++
          "User-Agent string. Rewrite the pattern to avoid repeating an " ++
          "alternation group."))
      else .ok none

end DjangoWaf
