import DjangoWaf.Services.ThreatFeed

/-!
# What a bad feed entry costs

`sync_feed` says of itself that a bad entry is skipped and counted, never raised. An entry is
**valid** (`validEntry`) when it is an object whose confidence is a number in range, whose rule
type, match type and action are known, whose pattern is an accepted text, and whose other fields
have their documented types; `CostsOnlyItself` says that a sync returns, counts every other entry as
skipped, and leaves the tables as it would have left them without those entries.

That is so exactly when the document has a list of entries and each of them is **harmless**: valid
with values that fit their columns, or one that the loop turns away at a `continue`. `TurnedAway`
has a constructor for each `continue`, and says what the checks before it have found. Everything
else either ends the loop with an exception or is stored although it is not valid: an entry that is
no object; an integer too large for a float as the confidence; a confidence that is `NaN`, a boolean
or a numeral in quotes; a list or an object as a rule type, match type or action; a pattern that is
a number or a container; a regular expression that `re.compile` refuses in its own way; an expiry
that is no text, or a date that does not exist; reporters that are no count.
-/

namespace DjangoWaf

namespace ThreatFeed

variable (rt : FeedRuntime) (sync : Sync)

/-! ### Valid entries -/

/-- The confidence is a number from the threshold to one. -/
def confidenceInRange (threshold : PyFloat) : Json → Bool
  | .int n => threshold.le (.finite n) && n ≤ 1
  | .float x => threshold.le x && x.le (.finite 1)
  | _ => false

/-- The value is a text of the whitelist. -/
def isKnown {α : Type*} (known? : String → Option α) : Json → Bool
  | .str s => (known? s).isSome
  | _ => false

/-- The pattern is a text that `_validate_pattern` accepts for the match type. -/
def acceptedPattern : Json → Json → Bool
  | .str pattern, .str matchType =>
    match MatchType.known? matchType with
    | some matchType =>
      match validatePattern rt (.str pattern) matchType with
      | .ok accepted => accepted
      | .error _ => false
    | none => false
  | _, _ => false

/-- The fields `sync_feed` reads, each as documented. -/
def validFields (threshold : PyFloat) (fields : List (String × Json)) : Bool :=
  confidenceInRange threshold (Json.field fields "confidence" (.float (.finite 0))) &&
  isKnown RuleType.known? (Json.field fields "rule_type" (.str "")) &&
  isKnown MatchType.known? (Json.field fields "match_type" (.str "exact")) &&
  isKnown RuleAction.known? (Json.field fields "action" (.str "block")) &&
  acceptedPattern rt (Json.field fields "pattern" (.str ""))
    (Json.field fields "match_type" (.str "exact")) &&
  (Json.field? fields "expires").all Json.isStr &&
  (Json.field? fields "reporters").all Json.isCount &&
  (Json.field? fields "verify_rdns").all Json.isBool &&
  (Json.field? fields "rdns_pattern").all Json.isStr

/-- A valid entry. -/
def validEntry (threshold : PyFloat) : Json → Bool
  | .obj fields => validFields rt threshold fields
  | _ => false

/-- The values of an entry fit the columns they go to. -/
structure FitsColumns (now : ℚ) (fields : List (String × Json)) : Prop where
  confidence : ∃ c, validateConfidence rt fields = .ok (some c) ∧ (rt.decimalColumn c).isSome
  pattern : ∀ s, Json.field fields "pattern" (.str "") = .str s → rt.textColumn s = true
  expires : ∃ t, expiresAt rt now fields = .ok t ∧ rt.instantColumn t = true
  reporters : ∀ v ∈ Json.field? fields "reporters", (countColumn rt v).isSome
  rdnsPattern : (Json.field fields "kind" (.str "block")).eqText "allow" = true →
    ∀ s, Json.field fields "rdns_pattern" (.str "") = .str s →
      rt.textColumn s = true ∧ s.length ≤ 255

/-! ### Entries the loop turns away -/

/-- The confidence passes both comparisons. -/
structure Considered (threshold : PyFloat) (fields : List (String × Json)) (c : PyFloat) :
    Prop where
  parsed : validateConfidence rt fields = .ok (some c)
  notBelow : c.lt threshold = false
  notAbove : (PyFloat.finite 1).lt c = false

/-- There are a rule type and a pattern. -/
structure Complete (fields : List (String × Json)) : Prop where
  ruleType : (Json.field fields "rule_type" (.str "")).truthy = true
  pattern : (Json.field fields "pattern" (.str "")).truthy = true

/-- The rule type and the match type are known. -/
structure Targeted (fields : List (String × Json)) (matchType : MatchType) : Prop
    extends Complete fields where
  knownRuleType : isKnown RuleType.known? (Json.field fields "rule_type" (.str "")) = true
  knownMatchType : lookUp MatchType.known? (Json.field fields "match_type" (.str "exact")) =
    .ok (some matchType)

/-- The value is no container, and no text of the whitelist. -/
def unknownValue {α : Type*} (known? : String → Option α) : Json → Bool
  | .str s => (known? s).isNone
  | .arr _ | .obj _ => false
  | _ => true

/-- The value is a text or a list. -/
def sliceable : Json → Bool
  | .str _ | .arr _ => true
  | _ => false

/-- The entries the loop leaves at a `continue`. -/
inductive TurnedAway (threshold : PyFloat) (now : ℚ) : Json → Prop
  | noNumber {fields : List (String × Json)} (h : validateConfidence rt fields = .ok none) :
      TurnedAway threshold now (.obj fields)
  | outOfRange {fields : List (String × Json)} {c : PyFloat}
      (h : validateConfidence rt fields = .ok (some c))
      (hc : c.lt threshold = true ∨ (PyFloat.finite 1).lt c = true) :
      TurnedAway threshold now (.obj fields)
  | incomplete {fields : List (String × Json)} {c : PyFloat}
      (h : Considered rt threshold fields c) (hno : ¬ Complete fields) :
      TurnedAway threshold now (.obj fields)
  | unknownRuleType {fields : List (String × Json)} {c : PyFloat}
      (h : Considered rt threshold fields c) (hcomplete : Complete fields)
      (hno : unknownValue RuleType.known? (Json.field fields "rule_type" (.str "")) = true) :
      TurnedAway threshold now (.obj fields)
  | unknownMatchType {fields : List (String × Json)} {c : PyFloat}
      (h : Considered rt threshold fields c) (hcomplete : Complete fields)
      (hknown : isKnown RuleType.known? (Json.field fields "rule_type" (.str "")) = true)
      (hno : unknownValue MatchType.known? (Json.field fields "match_type" (.str "exact")) = true) :
      TurnedAway threshold now (.obj fields)
  | unsafePattern {fields : List (String × Json)} {c : PyFloat} {m : MatchType}
      (h : Considered rt threshold fields c) (htarget : Targeted fields m)
      (hno : validatePattern rt (Json.field fields "pattern" (.str "")) m = .ok false)
      (hslice : sliceable (Json.field fields "pattern" (.str "")) = true) :
      TurnedAway threshold now (.obj fields)
  | unverifiedAllow {fields : List (String × Json)} {c : PyFloat} {m : MatchType} {t : ℚ}
      (h : Considered rt threshold fields c) (htarget : Targeted fields m)
      (hsafe : validatePattern rt (Json.field fields "pattern" (.str "")) m = .ok true)
      (hexpires : expiresAt rt now fields = .ok t)
      (hkind : (Json.field fields "kind" (.str "block")).eqText "allow" = true)
      (hno : (Json.field fields "verify_rdns" (.bool false)).truthy = false ∨
        (Json.field fields "rdns_pattern" (.str "")).truthy = false)
      (hslice : sliceable (Json.field fields "pattern" (.str "")) = true) :
      TurnedAway threshold now (.obj fields)
  | unknownAction {fields : List (String × Json)} {c : PyFloat} {m : MatchType} {t : ℚ}
      (h : Considered rt threshold fields c) (htarget : Targeted fields m)
      (hsafe : validatePattern rt (Json.field fields "pattern" (.str "")) m = .ok true)
      (hexpires : expiresAt rt now fields = .ok t)
      (hkind : (Json.field fields "kind" (.str "block")).eqText "allow" = false)
      (hno : unknownValue RuleAction.known? (Json.field fields "action" (.str "block")) = true) :
      TurnedAway threshold now (.obj fields)

/-- A valid entry whose values fit. -/
inductive Storable (threshold : PyFloat) (now : ℚ) : Json → Prop
  | entry {fields : List (String × Json)} (hvalid : validFields rt threshold fields = true)
      (hfits : FitsColumns rt now fields) : Storable threshold now (.obj fields)

/-- The entry costs nothing but itself. -/
def Harmless (threshold : PyFloat) (now : ℚ) (e : Json) : Prop :=
  TurnedAway rt threshold now e ∨ Storable rt threshold now e

/-! ### The checks, one by one -/

variable {rt : FeedRuntime} {threshold : PyFloat} {now : ℚ} {fields : List (String × Json)}

theorem lookUp_eq_none_iff {α : Type*} {known? : String → Option α} {v : Json} :
    lookUp known? v = .ok none ↔ unknownValue known? v = true := by
  cases v <;> simp [lookUp, unknownValue]

theorem isKnown_of_lookUp {α : Type*} {known? : String → Option α} {v : Json} {x : α}
    (h : lookUp known? v = .ok (some x)) : isKnown known? v = true := by
  cases v with
  | str s =>
    rw [lookUp, Except.ok.injEq] at h
    rw [isKnown, h]
    rfl
  | _ => simp [lookUp] at h

theorem exists_lookUp_of_isKnown {α : Type*} {known? : String → Option α} {v : Json}
    (h : isKnown known? v = true) : ∃ x, lookUp known? v = .ok (some x) := by
  cases v with
  | str s =>
    obtain ⟨x, hx⟩ := Option.isSome_iff_exists.1 h
    exact ⟨x, congrArg Except.ok hx⟩
  | _ => simp [isKnown] at h

theorem slice_eq_ok_iff {v : Json} : slice v = .ok () ↔ sliceable v = true := by
  cases v <;> simp [slice, sliceable]

theorem hashed_eq_ok_iff {v : Json} {s : String} : hashed v = .ok s ↔ v = .str s := by
  cases v <;> simp [hashed]

/-- Past the confidence, what is left is decided by `checkRule`. -/
theorem checkEntry_of_considered {c : PyFloat} (h : Considered rt threshold fields c) :
    checkEntry rt threshold now (.obj fields) = checkRule rt now fields c := by
  simp only [checkEntry, h.parsed, bind, Except.bind, h.notBelow, h.notAbove, Bool.or_self]
  rfl

/-- Past the two types, what is left is decided by the pattern. -/
theorem checkRule_of_targeted {c : PyFloat} {r : RuleType} {m : MatchType}
    (hruleType : lookUp RuleType.known? (Json.field fields "rule_type" (.str "")) = .ok (some r))
    (h : Targeted fields m) :
    checkRule rt now fields c =
      (validatePattern rt (Json.field fields "pattern" (.str "")) m).bind fun accepted ↦
        if accepted then (expiresAt rt now fields).bind fun t ↦
          if (Json.field fields "kind" (.str "block")).eqText "allow" then
            checkAllow rt fields c r m (Json.field fields "pattern" (.str "")) t
          else checkBlock fields c r m (Json.field fields "pattern" (.str "")) t
        else (slice (Json.field fields "pattern" (.str ""))).bind fun _ ↦ .ok none := by
  simp only [checkRule, h.ruleType, h.pattern, hruleType, h.knownMatchType, bind, Except.bind]
  rcases validatePattern rt (Json.field fields "pattern" (.str "")) m with error | accepted
  · rfl
  · cases accepted <;> rfl

/-- What a check past the two types comes to: the pattern is refused and can be logged, or it
passes, the expiry is read, and the kind decides. -/
theorem checkRule_cases {c : PyFloat} {r : RuleType} {m : MatchType} {o : Option Accepted}
    (hruleType : lookUp RuleType.known? (Json.field fields "rule_type" (.str "")) = .ok (some r))
    (htarget : Targeted fields m) (h : checkRule rt now fields c = .ok o) :
    (validatePattern rt (Json.field fields "pattern" (.str "")) m = .ok false ∧
      slice (Json.field fields "pattern" (.str "")) = .ok () ∧ o = none) ∨
    ∃ t, validatePattern rt (Json.field fields "pattern" (.str "")) m = .ok true ∧
      expiresAt rt now fields = .ok t ∧
      if (Json.field fields "kind" (.str "block")).eqText "allow" then
        checkAllow rt fields c r m (Json.field fields "pattern" (.str "")) t = .ok o
      else checkBlock fields c r m (Json.field fields "pattern" (.str "")) t = .ok o := by
  rw [checkRule_of_targeted hruleType htarget] at h
  rcases hpattern : validatePattern rt (Json.field fields "pattern" (.str "")) m with
    error | accepted
  · simp [hpattern, Except.bind] at h
  cases accepted with
  | false =>
    rcases hslice : slice (Json.field fields "pattern" (.str "")) with error | u
    · simp [hpattern, hslice, Except.bind] at h
    · simp only [hpattern, hslice, Except.bind, Bool.false_eq_true, if_false] at h
      exact Or.inl ⟨rfl, rfl, (Except.ok.inj h).symm⟩
  | true =>
    rcases hexpires : expiresAt rt now fields with error | t
    · simp [hpattern, hexpires, Except.bind] at h
    simp only [hpattern, hexpires, Except.bind, if_true] at h
    refine Or.inr ⟨t, rfl, rfl, ?_⟩
    split at h
    · rename_i hkind
      rwa [if_pos hkind]
    · rename_i hkind
      rwa [if_neg hkind]

/-- An allow entry without its verification is skipped, if its pattern can be logged. -/
theorem checkAllow_eq_none_iff {c : PyFloat} {r : RuleType} {m : MatchType} {pattern : Json}
    {t : ℚ} : checkAllow rt fields c r m pattern t = .ok none ↔
      ((Json.field fields "verify_rdns" (.bool false)).truthy = false ∨
        (Json.field fields "rdns_pattern" (.str "")).truthy = false) ∧
      sliceable pattern = true := by
  rw [← slice_eq_ok_iff]
  simp only [checkAllow, bind, Except.bind, pure, Except.pure]
  split
  · rename_i h
    rcases hs : slice pattern with error | u
    · simp
    · simpa using h
  · rename_i h
    refine iff_of_false ?_ fun hno ↦ h (by simpa using hno.1)
    cases hashed pattern <;> simp

theorem checkBlock_eq_none_iff {c : PyFloat} {r : RuleType} {m : MatchType} {pattern : Json}
    {t : ℚ} : checkBlock fields c r m pattern t = .ok none ↔
      unknownValue RuleAction.known? (Json.field fields "action" (.str "block")) = true := by
  rw [← lookUp_eq_none_iff]
  simp only [checkBlock, bind, Except.bind, pure, Except.pure]
  rcases lookUp RuleAction.known? (Json.field fields "action" (.str "block")) with error | action?
  · simp
  · rcases action? with - | action
    · simp
    · cases hashed pattern <;> simp

/-- Skipped at the pattern or after it. -/
theorem turnedAway_of_targeted {c : PyFloat} {r : RuleType} {m : MatchType}
    (hconsidered : Considered rt threshold fields c)
    (hruleType : lookUp RuleType.known? (Json.field fields "rule_type" (.str "")) = .ok (some r))
    (htarget : Targeted fields m) (h : checkRule rt now fields c = .ok none) :
    TurnedAway rt threshold now (.obj fields) := by
  rcases checkRule_cases hruleType htarget h with
    ⟨hpattern, hslice, -⟩ | ⟨t, hpattern, hexpires, h⟩
  · exact .unsafePattern hconsidered htarget hpattern (slice_eq_ok_iff.1 hslice)
  · split at h
    · rename_i hkind
      obtain ⟨hno, hslice⟩ := checkAllow_eq_none_iff.1 h
      exact .unverifiedAllow hconsidered htarget hpattern hexpires hkind hno hslice
    · rename_i hkind
      exact .unknownAction hconsidered htarget hpattern hexpires (by simpa using hkind)
        (checkBlock_eq_none_iff.1 h)

/-- Skipped after the confidence. -/
theorem turnedAway_of_considered {c : PyFloat} (hconsidered : Considered rt threshold fields c)
    (h : checkRule rt now fields c = .ok none) : TurnedAway rt threshold now (.obj fields) := by
  by_cases hcomplete : Complete fields
  · rcases hruleType : lookUp RuleType.known? (Json.field fields "rule_type" (.str "")) with
      error | r?
    · simp [checkRule, hcomplete.ruleType, hcomplete.pattern, hruleType, bind, Except.bind] at h
    rcases r? with - | r
    · exact .unknownRuleType hconsidered hcomplete (lookUp_eq_none_iff.1 hruleType)
    have hknown := isKnown_of_lookUp hruleType
    rcases hmatchType : lookUp MatchType.known? (Json.field fields "match_type" (.str "exact"))
      with error | m?
    · simp [checkRule, hcomplete.ruleType, hcomplete.pattern, hruleType, hmatchType, bind,
        Except.bind] at h
    rcases m? with - | m
    · exact .unknownMatchType hconsidered hcomplete hknown (lookUp_eq_none_iff.1 hmatchType)
    exact turnedAway_of_targeted hconsidered hruleType ⟨hcomplete, hknown, hmatchType⟩ h
  · exact .incomplete hconsidered hcomplete

theorem turnedAway_of_checkEntry {e : Json} (h : checkEntry rt threshold now e = .ok none) :
    TurnedAway rt threshold now e := by
  cases e with
  | obj fields =>
    rcases hparsed : validateConfidence rt fields with error | c?
    · simp [checkEntry, hparsed, bind, Except.bind] at h
    rcases c? with - | c
    · exact .noNumber hparsed
    by_cases hrange : c.lt threshold = true ∨ (PyFloat.finite 1).lt c = true
    · exact .outOfRange hparsed hrange
    rw [not_or, Bool.not_eq_true, Bool.not_eq_true] at hrange
    have hconsidered : Considered rt threshold fields c := ⟨hparsed, hrange.1, hrange.2⟩
    rw [checkEntry_of_considered hconsidered] at h
    exact turnedAway_of_considered hconsidered h
  | _ => cases h

theorem TurnedAway.checkEntry_eq_none {e : Json} (h : TurnedAway rt threshold now e) :
    checkEntry rt threshold now e = .ok none := by
  cases h with
  | noNumber h => simp [checkEntry, h, bind, Except.bind, pure, Except.pure]
  | outOfRange h hc => simp [checkEntry, h, hc, bind, Except.bind, pure, Except.pure]
  | incomplete h hno =>
    rw [checkEntry_of_considered h, checkRule]
    refine if_pos ?_
    by_contra hboth
    rw [Bool.not_eq_true, Bool.or_eq_false_iff, Bool.not_eq_false', Bool.not_eq_false'] at hboth
    exact hno ⟨hboth.1, hboth.2⟩
  | unknownRuleType h hcomplete hno =>
    rw [checkEntry_of_considered h]
    simp [checkRule, hcomplete.ruleType, hcomplete.pattern, lookUp_eq_none_iff.2 hno, bind,
      Except.bind, pure, Except.pure]
  | unknownMatchType h hcomplete hknown hno =>
    obtain ⟨r, hr⟩ := exists_lookUp_of_isKnown hknown
    rw [checkEntry_of_considered h]
    simp [checkRule, hcomplete.ruleType, hcomplete.pattern, hr, lookUp_eq_none_iff.2 hno, bind,
      Except.bind, pure, Except.pure]
  | unsafePattern h htarget hno hslice =>
    obtain ⟨r, hr⟩ := exists_lookUp_of_isKnown htarget.knownRuleType
    rw [checkEntry_of_considered h, checkRule_of_targeted hr htarget, hno]
    simp [Except.bind, slice_eq_ok_iff.2 hslice]
  | unverifiedAllow h htarget hsafe hexpires hkind hno hslice =>
    obtain ⟨r, hr⟩ := exists_lookUp_of_isKnown htarget.knownRuleType
    rw [checkEntry_of_considered h, checkRule_of_targeted hr htarget, hsafe]
    simp only [Except.bind, hexpires, hkind, if_true]
    exact checkAllow_eq_none_iff.2 ⟨hno, hslice⟩
  | unknownAction h htarget hsafe hexpires hkind hno =>
    obtain ⟨r, hr⟩ := exists_lookUp_of_isKnown htarget.knownRuleType
    rw [checkEntry_of_considered h, checkRule_of_targeted hr htarget, hsafe]
    simp only [Except.bind, hexpires, hkind, if_true]
    exact checkBlock_eq_none_iff.2 hno

/-- **An entry is skipped exactly when the loop turns it away.** -/
theorem checkEntry_eq_none_iff {e : Json} :
    checkEntry rt threshold now e = .ok none ↔ TurnedAway rt threshold now e :=
  ⟨turnedAway_of_checkEntry, TurnedAway.checkEntry_eq_none⟩

/-! ### Entries that are accepted -/

/-- What an accepted entry took from its fields. -/
structure Read (rt : FeedRuntime) (now : ℚ) (fields : List (String × Json)) (a : Accepted) :
    Prop where
  confidence : validateConfidence rt fields = .ok (some a.confidence)
  pattern : Json.field fields "pattern" (.str "") = .str a.pattern
  expires : expiresAt rt now fields = .ok a.expiresAt
  reporters : a.reporters = Json.field? fields "reporters"
  kind : a.kind = .allow ↔ (Json.field fields "kind" (.str "block")).eqText "allow" = true
  rdnsPattern : a.kind = .allow →
    ∀ s, Json.field fields "rdns_pattern" (.str "") = .str s → a.rdnsPattern = s

theorem read_of_checkAllow {c : PyFloat} {r : RuleType} {m : MatchType} {t : ℚ} {a : Accepted}
    (hconfidence : validateConfidence rt fields = .ok (some c))
    (hexpires : expiresAt rt now fields = .ok t)
    (hkind : (Json.field fields "kind" (.str "block")).eqText "allow" = true)
    (h : checkAllow rt fields c r m (Json.field fields "pattern" (.str "")) t = .ok (some a)) :
    Read rt now fields a := by
  simp only [checkAllow, bind, Except.bind, pure, Except.pure] at h
  split at h
  · cases hslice : slice (Json.field fields "pattern" (.str "")) <;> simp [hslice] at h
  rcases hpattern : hashed (Json.field fields "pattern" (.str "")) with error | s
  · simp [hpattern] at h
  rw [hpattern] at h
  simp only [Except.ok.injEq, Option.some.injEq] at h
  subst h
  refine ⟨hconfidence, hashed_eq_ok_iff.1 hpattern, hexpires, rfl, by simp [hkind], fun _ s hs ↦ ?_⟩
  simp only [hs]

theorem read_of_checkBlock {c : PyFloat} {r : RuleType} {m : MatchType} {t : ℚ} {a : Accepted}
    (hconfidence : validateConfidence rt fields = .ok (some c))
    (hexpires : expiresAt rt now fields = .ok t)
    (hkind : ¬ (Json.field fields "kind" (.str "block")).eqText "allow" = true)
    (h : checkBlock fields c r m (Json.field fields "pattern" (.str "")) t = .ok (some a)) :
    Read rt now fields a := by
  simp only [checkBlock, bind, Except.bind, pure, Except.pure] at h
  rcases haction : lookUp RuleAction.known? (Json.field fields "action" (.str "block")) with
    error | action?
  · simp [haction] at h
  rw [haction] at h
  rcases action? with - | action
  · simp at h
  rcases hpattern : hashed (Json.field fields "pattern" (.str "")) with error | s
  · simp [hpattern] at h
  simp only [hpattern, Except.ok.injEq, Option.some.injEq] at h
  subst h
  exact ⟨hconfidence, hashed_eq_ok_iff.1 hpattern, hexpires, rfl, by simp [hkind], by simp⟩

/-- The types of an accepted entry are known. -/
theorem exists_targeted {c : PyFloat} {a : Accepted}
    (h : checkRule rt now fields c = .ok (some a)) :
    ∃ r m, lookUp RuleType.known? (Json.field fields "rule_type" (.str "")) = .ok (some r) ∧
      Targeted fields m := by
  have hcomplete : Complete fields := by
    by_contra hno
    rw [checkRule, if_pos] at h
    · cases h
    · by_contra hboth
      rw [Bool.not_eq_true, Bool.or_eq_false_iff, Bool.not_eq_false', Bool.not_eq_false'] at hboth
      exact hno ⟨hboth.1, hboth.2⟩
  simp only [checkRule, hcomplete.ruleType, hcomplete.pattern, bind, Except.bind] at h
  rcases hruleType : lookUp RuleType.known? (Json.field fields "rule_type" (.str "")) with
    error | r?
  · simp [hruleType] at h
  rcases r? with - | r
  · simp [hruleType, pure, Except.pure] at h
  rcases hmatchType : lookUp MatchType.known? (Json.field fields "match_type" (.str "exact"))
    with error | m?
  · simp [hruleType, hmatchType] at h
  rcases m? with - | m
  · simp [hruleType, hmatchType, pure, Except.pure] at h
  exact ⟨r, m, rfl, hcomplete, isKnown_of_lookUp hruleType, hmatchType⟩

theorem read_of_checkRule {c : PyFloat} {a : Accepted}
    (hconfidence : validateConfidence rt fields = .ok (some c))
    (h : checkRule rt now fields c = .ok (some a)) : Read rt now fields a := by
  obtain ⟨r, m, hruleType, htarget⟩ := exists_targeted h
  rcases checkRule_cases hruleType htarget h with ⟨-, -, hnone⟩ | ⟨t, -, hexpires, h⟩
  · cases hnone
  · split at h
    · rename_i hkind
      exact read_of_checkAllow hconfidence hexpires hkind h
    · rename_i hkind
      exact read_of_checkBlock hconfidence hexpires hkind h

theorem read_of_checkEntry {a : Accepted}
    (h : checkEntry rt threshold now (.obj fields) = .ok (some a)) : Read rt now fields a := by
  rcases hparsed : validateConfidence rt fields with error | c?
  · simp [checkEntry, hparsed, bind, Except.bind] at h
  rcases c? with - | c
  · simp [checkEntry, hparsed, bind, Except.bind, pure, Except.pure] at h
  simp only [checkEntry, hparsed, bind, Except.bind, pure, Except.pure] at h
  split at h
  · simp at h
  · exact read_of_checkRule hparsed h

/-! ### Entries that fit -/

/-- The values of an accepted entry fit their columns. -/
def Accepted.fits (rt : FeedRuntime) (a : Accepted) : Bool :=
  a.fitsRow rt && (rt.decimalColumn a.confidence).isSome &&
    a.reporters.all fun v ↦ (countColumn rt v).isSome

/-- Whether the statistics fit does not depend on those that are there. -/
theorem isSome_stats (a : Accepted) (before : FeedStats) :
    (a.stats rt before).isSome = ((rt.decimalColumn a.confidence).isSome &&
      a.reporters.all fun v ↦ (countColumn rt v).isSome) := by
  rw [Accepted.stats]
  rcases rt.decimalColumn a.confidence with - | confidence
  · rfl
  · rcases a.reporters with - | v
    · rfl
    · simp

/-- What is stored has values that fit. -/
theorem Read.fitsColumns {a : Accepted} (h : Read rt now fields a) (hfits : a.fits rt = true) :
    FitsColumns rt now fields := by
  simp only [Accepted.fits, Accepted.fitsRow, Bool.and_eq_true, Bool.or_eq_true,
    decide_eq_true_eq] at hfits
  obtain ⟨⟨⟨⟨hpattern, hexpires⟩, hrdns⟩, hconfidence⟩, hreporters⟩ := hfits
  refine ⟨⟨_, h.confidence, hconfidence⟩, fun s hs ↦ ?_, ⟨_, h.expires, hexpires⟩, fun v hv ↦ ?_,
    fun hkind s hs ↦ ?_⟩
  · rw [h.pattern, Json.str.injEq] at hs
    rwa [← hs]
  · rw [h.reporters, Option.mem_def.1 hv] at hreporters
    exact hreporters
  · have hallow := h.kind.2 hkind
    rw [← h.rdnsPattern hallow s hs]
    rcases hrdns with hblock | hrdns
    · rw [hallow] at hblock
      cases hblock
    · exact hrdns

/-- And the values of a valid entry that fit are stored. -/
theorem Read.fits {a : Accepted} (h : Read rt now fields a) (hfits : FitsColumns rt now fields)
    (hrdns : (Json.field? fields "rdns_pattern").all Json.isStr = true) : a.fits rt = true := by
  obtain ⟨c, hc, hconfidence⟩ := hfits.confidence
  obtain ⟨t, ht, hexpires⟩ := hfits.expires
  rw [h.confidence, Except.ok.injEq, Option.some.injEq] at hc
  rw [h.expires, Except.ok.injEq] at ht
  subst hc
  subst ht
  have hreporters : (a.reporters.all fun v ↦ (countColumn rt v).isSome) = true := by
    rw [h.reporters, Option.all_eq_true]
    exact fun v hv ↦ hfits.reporters v hv
  have hallow : a.kind = .block ∨ (rt.textColumn a.rdnsPattern = true ∧
      a.rdnsPattern.length ≤ 255) := by
    rcases hkind : a.kind with - | -
    · right
      obtain ⟨s, hs⟩ : ∃ s, Json.field fields "rdns_pattern" (.str "") = .str s := by
        rw [Json.field]
        rcases hfield : Json.field? fields "rdns_pattern" with - | v
        · exact ⟨"", rfl⟩
        · rw [hfield] at hrdns
          cases v with
          | str s => exact ⟨s, rfl⟩
          | _ => cases hrdns
      rw [h.rdnsPattern hkind s hs]
      exact hfits.rdnsPattern (h.kind.1 hkind) s hs
    · exact .inl rfl
  simp only [Accepted.fits, Accepted.fitsRow, Bool.and_eq_true, Bool.or_eq_true,
    decide_eq_true_eq]
  exact ⟨⟨⟨⟨hfits.pattern _ h.pattern, hexpires⟩, hallow⟩, hconfidence⟩, hreporters⟩

/-- A check that ends without an exception. -/
def Settles (rt : FeedRuntime) (threshold : PyFloat) (now : ℚ) (e : Json) : Prop :=
  ∃ r?, checkEntry rt threshold now e = .ok r?

theorem exists_checkAllow {c : PyFloat} {r : RuleType} {m : MatchType} {s : String} {t : ℚ} :
    ∃ r?, checkAllow rt fields c r m (.str s) t = .ok r? := by
  simp only [checkAllow, bind, Except.bind, pure, Except.pure, slice, hashed]
  split
  · exact ⟨_, rfl⟩
  · exact ⟨_, rfl⟩

theorem exists_checkBlock {c : PyFloat} {r : RuleType} {m : MatchType} {s : String} {t : ℚ}
    (h : isKnown RuleAction.known? (Json.field fields "action" (.str "block")) = true) :
    ∃ r?, checkBlock fields c r m (.str s) t = .ok r? := by
  obtain ⟨action, haction⟩ := exists_lookUp_of_isKnown h
  simp only [checkBlock, haction, bind, Except.bind, pure, Except.pure, hashed]
  exact ⟨_, rfl⟩

/-- An accepted pattern is a text that is not empty, of a known match type. -/
theorem exists_of_acceptedPattern {pattern matchType : Json}
    (h : acceptedPattern rt pattern matchType = true) :
    ∃ s m, pattern = .str s ∧ pattern.truthy = true ∧
      lookUp MatchType.known? matchType = .ok (some m) ∧
      validatePattern rt pattern m = .ok true := by
  cases pattern with
  | str s =>
    cases matchType with
    | str text =>
      simp only [acceptedPattern] at h
      rcases hm : MatchType.known? text with - | m
      · simp [hm] at h
      rcases hv : validatePattern rt (.str s) m with error | accepted
      · simp [hm, hv] at h
      simp only [hm, hv] at h
      subst h
      refine ⟨s, m, rfl, ?_, by simp [lookUp, hm], hv⟩
      by_contra hno
      rw [validatePattern, if_pos (by simpa using hno)] at hv
      cases hv
    | _ => cases h
  | _ => cases h

/-- A known rule type is not empty. -/
theorem truthy_of_isKnown {v : Json} (h : isKnown RuleType.known? v = true) : v.truthy = true := by
  cases v with
  | str s =>
    refine decide_eq_true ?_
    rintro rfl
    simp [isKnown, RuleType.known?] at h
  | _ => cases h

/-- **A valid entry whose values fit ends no loop.** -/
theorem Storable.settles {e : Json} (h : Storable rt threshold now e) :
    Settles rt threshold now e := by
  obtain ⟨hvalid, hfits⟩ := h
  rename_i fields
  simp only [validFields, Bool.and_eq_true] at hvalid
  obtain ⟨⟨⟨⟨⟨⟨⟨⟨-, hruleType⟩, -⟩, haction⟩, hpattern⟩, -⟩, -⟩, -⟩, -⟩ := hvalid
  obtain ⟨c, hparsed, -⟩ := hfits.confidence
  obtain ⟨t, hexpires, -⟩ := hfits.expires
  obtain ⟨s, m, hs, htruthy, hm, hsafe⟩ := exists_of_acceptedPattern hpattern
  obtain ⟨r, hr⟩ := exists_lookUp_of_isKnown hruleType
  by_cases hrange : c.lt threshold = true ∨ (PyFloat.finite 1).lt c = true
  · exact ⟨none, checkEntry_eq_none_iff.2 (.outOfRange hparsed hrange)⟩
  rw [not_or, Bool.not_eq_true, Bool.not_eq_true] at hrange
  rw [Settles, checkEntry_of_considered ⟨hparsed, hrange.1, hrange.2⟩,
    checkRule_of_targeted hr ⟨⟨truthy_of_isKnown hruleType, htruthy⟩, hruleType, hm⟩, hsafe]
  simp only [Except.bind, hexpires, if_true, hs]
  split
  · exact exists_checkAllow
  · exact exists_checkBlock haction

/-! ### The loop -/

variable {sync : Sync}

/-- The entry is skipped. -/
def skips (rt : FeedRuntime) (sync : Sync) (e : Json) : Bool :=
  match checkEntry rt sync.threshold sync.now e with
  | .ok none => true
  | _ => false

theorem skips_iff {e : Json} :
    skips rt sync e = true ↔ TurnedAway rt sync.threshold sync.now e := by
  rw [← checkEntry_eq_none_iff, skips]
  split
  · rename_i h
    exact iff_of_true rfl h
  · rename_i h
    exact iff_of_false (by simp) h

/-- The entry is skipped, or accepted with values that fit. -/
def Passes (rt : FeedRuntime) (sync : Sync) (e : Json) : Prop :=
  TurnedAway rt sync.threshold sync.now e ∨
    ∃ a, checkEntry rt sync.threshold sync.now e = .ok (some a) ∧ a.fits rt = true

/-- Whether an entry passes, computed. -/
def passes (rt : FeedRuntime) (sync : Sync) (e : Json) : Bool :=
  match checkEntry rt sync.threshold sync.now e with
  | .ok none => true
  | .ok (some a) => a.fits rt
  | .error _ => false

theorem passes_iff {e : Json} : passes rt sync e = true ↔ Passes rt sync e := by
  rw [passes, Passes, ← checkEntry_eq_none_iff]
  rcases checkEntry rt sync.threshold sync.now e with error | a?
  · simp
  · cases a? <;> simp

instance (e : Json) : Decidable (Passes rt sync e) := decidable_of_iff _ passes_iff

/-- The write of an entry that fits goes through. -/
theorem acceptEntry_of_fits {a : Accepted} (h : a.fits rt = true) (s : SyncState) :
    ∃ e stats, acceptEntry rt sync a s = .ok (s.write sync e stats) := by
  rw [Accepted.fits, Bool.and_assoc, Bool.and_eq_true,
    ← isSome_stats a
      (statsBefore sync.now (a.entry sync s) s.tables)] at h
  obtain ⟨stats, hstats⟩ := Option.isSome_iff_exists.1 h.2
  exact ⟨_, stats, by rw [acceptEntry, h.1, hstats]⟩

theorem fits_of_acceptEntry {a : Accepted} {s s' : SyncState}
    (h : acceptEntry rt sync a s = .ok s') : a.fits rt = true := by
  rw [acceptEntry] at h
  split at h
  · rename_i hrow hstats
    rw [Accepted.fits, hrow, Bool.true_and, ← isSome_stats a, hstats]
    rfl
  · cases h

/-- A turn of the loop does nothing with the counter but to raise it. -/
theorem syncStep_of_passes {e : Json} (h : Passes rt sync e) (s : SyncState) :
    ∃ s', syncStep rt sync e s = .ok s' ∧
      s'.skipped = s.skipped + if skips rt sync e then 1 else 0 := by
  rcases h with h | ⟨a, ha, hfits⟩
  · rw [if_pos (skips_iff.2 h), syncStep, h.checkEntry_eq_none]
    exact ⟨_, rfl, rfl⟩
  · obtain ⟨entry, stats, haccept⟩ := acceptEntry_of_fits hfits s
    have hskips : ¬ skips rt sync e = true := by simp [skips, ha]
    rw [if_neg hskips, syncStep, ha]
    exact ⟨_, haccept, rfl⟩

theorem passes_of_syncStep {e : Json} {s s' : SyncState} (h : syncStep rt sync e s = .ok s') :
    Passes rt sync e := by
  rw [syncStep] at h
  rcases hcheck : checkEntry rt sync.threshold sync.now e with error | a?
  · simp [hcheck, bind, Except.bind] at h
  rcases a? with - | a
  · exact .inl (turnedAway_of_checkEntry hcheck)
  · rw [hcheck] at h
    exact .inr ⟨a, hcheck, fits_of_acceptEntry h⟩

/-- **The loop reaches its end exactly when every entry passes**, and has then counted those it
skipped. -/
theorem syncEntries_eq_none_iff {entries : List Json} {s : SyncState} :
    (syncEntries rt sync entries s).2 = none ↔ ∀ e ∈ entries, Passes rt sync e := by
  induction entries generalizing s with
  | nil => simp [syncEntries]
  | cons e entries ih =>
    rw [List.forall_mem_cons, syncEntries]
    rcases hstep : syncStep rt sync e s with error | s'
    · refine iff_of_false (by simp) fun h ↦ ?_
      obtain ⟨s', hs', -⟩ := syncStep_of_passes h.1 s
      rw [hs'] at hstep
      cases hstep
    · exact ih.trans (iff_and_self.2 fun _ ↦ passes_of_syncStep hstep)

theorem skipped_syncEntries {entries : List Json} {s : SyncState}
    (h : ∀ e ∈ entries, Passes rt sync e) :
    (syncEntries rt sync entries s).1.skipped = s.skipped + entries.countP (skips rt sync) := by
  induction entries generalizing s with
  | nil => rfl
  | cons e entries ih =>
    obtain ⟨he, hentries⟩ := List.forall_mem_cons.1 h
    obtain ⟨s', hs', hskipped⟩ := syncStep_of_passes he s
    rw [syncEntries, hs']
    show (syncEntries rt sync entries s').1.skipped = _
    rw [ih hentries, hskipped, List.countP_cons]
    omega

/-- The variables of the loop with so many entries more skipped. -/
def SyncState.skip (n : ℕ) (s : SyncState) : SyncState := { s with skipped := s.skipped + n }

theorem SyncState.skip_skip (m n : ℕ) (s : SyncState) : (s.skip m).skip n = s.skip (m + n) := by
  simp [SyncState.skip, Nat.add_assoc]

/-- A turn of the loop does not look at the counter. -/
theorem syncStep_skip (e : Json) (n : ℕ) (s : SyncState) :
    syncStep rt sync e (s.skip n) = (syncStep rt sync e s).map (SyncState.skip n) := by
  rw [syncStep, syncStep]
  rcases checkEntry rt sync.threshold sync.now e with error | a?
  · rfl
  rcases a? with - | a
  · simp only [SyncState.skip, bind, Except.bind, pure, Except.pure, Except.map]
    rw [Nat.add_right_comm]
  · show acceptEntry rt sync a (s.skip n) = (acceptEntry rt sync a s).map (SyncState.skip n)
    have hentry : a.entry sync (s.skip n) = a.entry sync s := rfl
    have htables : (s.skip n).tables = s.tables := rfl
    simp only [acceptEntry, hentry, htables]
    split
    · rfl
    · rfl

theorem syncEntries_skip (entries : List Json) (n : ℕ) (s : SyncState) :
    syncEntries rt sync entries (s.skip n) =
      ((syncEntries rt sync entries s).1.skip n, (syncEntries rt sync entries s).2) := by
  induction entries generalizing s with
  | nil => rfl
  | cons e entries ih =>
    rw [syncEntries, syncEntries, syncStep_skip]
    rcases syncStep rt sync e s with error | s'
    · rfl
    · exact ih s'

/-- **Entries that are skipped cost only themselves.** -/
theorem syncEntries_filter {entries : List Json} {keep : Json → Bool}
    (h : ∀ e ∈ entries, keep e = false → TurnedAway rt sync.threshold sync.now e)
    (hpass : ∀ e ∈ entries, Passes rt sync e) (s : SyncState) :
    syncEntries rt sync entries s =
      ((syncEntries rt sync (entries.filter keep) s).1.skip (entries.countP fun e ↦ !keep e),
        (syncEntries rt sync (entries.filter keep) s).2) := by
  induction entries generalizing s with
  | nil => rfl
  | cons e entries ih =>
    obtain ⟨he, hentries⟩ := List.forall_mem_cons.1 h
    obtain ⟨hpe, hpentries⟩ := List.forall_mem_cons.1 hpass
    rcases hkeep : keep e with - | -
    · have hstep : syncStep rt sync e s = .ok (s.skip 1) := by
        rw [syncStep, (he hkeep).checkEntry_eq_none]
        rfl
      have hcount : ((e :: entries).countP fun e ↦ !keep e) =
          1 + entries.countP fun e ↦ !keep e := by
        rw [List.countP_cons_of_pos (by simp [hkeep]), Nat.add_comm]
      rw [syncEntries, hstep, List.filter_cons_of_neg (by simp [hkeep]), hcount]
      show syncEntries rt sync entries (s.skip 1) = _
      rw [ih hentries hpentries, syncEntries_skip, SyncState.skip_skip]
    · obtain ⟨s', hs', -⟩ := syncStep_of_passes hpe s
      rw [List.filter_cons_of_pos hkeep, List.countP_cons_of_neg (by simp [hkeep]), syncEntries,
        syncEntries, hs']
      exact ih hentries hpentries s'

/-! ### The document -/

/-- The entries of a document: the list, or the `rules` of the object, which may be empty in
another way. -/
def HasEntries (document : Json) (entries : List Json) : Prop :=
  document = .arr entries ∨ ∃ fields, document = .obj fields ∧
    (Json.field fields "rules" (.arr []) = .arr entries ∨ entries = [] ∧
      (Json.field fields "rules" (.arr []) = .str "" ∨
        Json.field fields "rules" (.arr []) = .obj []))

theorem HasEntries.feedEntries_eq {document : Json} {entries : List Json}
    (h : HasEntries document entries) : feedEntries document = .ok entries := by
  rcases h with rfl | ⟨fields, rfl, hrules | ⟨rfl, hrules | hrules⟩⟩
  · rfl
  · rw [feedEntries, hrules]
  · rw [feedEntries, hrules]
    rfl
  · rw [feedEntries, hrules]
    rfl

/-- An entry that is no object ends the loop. -/
theorem not_passes_str {s : String} : ¬ Passes rt sync (.str s) := by
  rintro (h | ⟨a, ha, -⟩)
  · cases h
  · cases ha

theorem hasEntries_of_feedEntries {document : Json} {entries : List Json}
    (h : feedEntries document = .ok entries) (hpass : ∀ e ∈ entries, Passes rt sync e) :
    HasEntries document entries := by
  cases document with
  | arr items =>
    rw [feedEntries, Except.ok.injEq] at h
    exact .inl (congrArg Json.arr h)
  | obj fields =>
    refine .inr ⟨fields, rfl, ?_⟩
    rw [feedEntries] at h
    split at h
    · rename_i items hitems
      rw [Except.ok.injEq] at h
      exact .inl (hitems.trans (congrArg Json.arr h))
    · rename_i s hs
      rw [Except.ok.injEq] at h
      subst h
      rcases hchars : s.toList with - | ⟨c, cs⟩
      · refine .inr ⟨rfl, .inl ?_⟩
        rw [hs, String.toList_eq_nil_iff.1 hchars]
      · refine absurd (hpass (.str (String.singleton c)) ?_) not_passes_str
        rw [hchars]
        exact List.mem_map_of_mem (List.mem_cons_self ..)
    · rename_i rules hrules
      rw [Except.ok.injEq] at h
      subst h
      rcases rules with - | ⟨rule, rules⟩
      · exact .inr ⟨rfl, .inr hrules⟩
      · refine absurd (hpass (.str rule.1) ?_) not_passes_str
        exact List.mem_map_of_mem (List.mem_dedup.2 (List.mem_cons_self ..))
    · cases h
  | _ => cases h

/-- The entries of a document; none where it has no list of them. -/
def entriesOf (document : Json) : List Json := (feedEntries document).toOption.getD []

/-- What iterating over a value yields, without the entries that are not valid. -/
def withoutInvalid (rt : FeedRuntime) (threshold : PyFloat) : Json → Json
  | .arr items => .arr (items.filter (validEntry rt threshold))
  | .str _ => .str ""
  | .obj _ => .obj []
  | value => value

/-- The feed without the entries that are not valid. -/
def onlyValid (rt : FeedRuntime) (threshold : PyFloat) : Json → Json
  | .obj fields => .obj (Json.setField fields "rules" (withoutInvalid rt threshold))
  | .arr items => withoutInvalid rt threshold (.arr items)
  | document => document

/-- A sync returns, counts the entries that are not valid as skipped, and leaves in the tables what
it would have left there for the feed without them. -/
def CostsOnlyItself (rt : FeedRuntime) (sync : Sync) (document : Json) (tables : FeedTables) :
    Prop :=
  ∃ result result',
    (syncFeed rt sync document tables).2 = .ok result ∧
    (syncFeed rt sync (onlyValid rt sync.threshold document) tables).2 = .ok result' ∧
    result.skipped = result'.skipped +
      (entriesOf document).countP (fun e ↦ !validEntry rt sync.threshold e) ∧
    (syncFeed rt sync document tables).1 =
      (syncFeed rt sync (onlyValid rt sync.threshold document) tables).1

theorem entriesOf_eq {document : Json} {entries : List Json}
    (h : feedEntries document = .ok entries) : entriesOf document = entries := by
  rw [entriesOf, h]
  rfl

theorem filter_validEntry_str {α : Type*} (f : α → String) (l : List α) :
    (l.map fun x ↦ Json.str (f x)).filter (validEntry rt threshold) = [] :=
  List.filter_eq_nil_iff.2 fun e he ↦ by
    obtain ⟨x, -, rfl⟩ := List.mem_map.1 he
    exact Bool.false_ne_true

/-- What is read stays so without the entries that are not valid. -/
theorem loads_withoutInvalid {digits depth : ℕ} {v : Json} (h : v.loads digits depth = true) :
    (withoutInvalid rt threshold v).loads digits depth = true := by
  cases v with
  | arr items =>
    rcases depth with - | depth
    · cases h
    · rw [Json.loads, Json.loadsItems_iff] at h
      rw [withoutInvalid, Json.loads, Json.loadsItems_iff]
      exact fun v hv ↦ h v (List.mem_filter.1 hv).1
  | obj fields =>
    rcases depth with - | depth
    · cases h
    · rfl
  | str s => cases depth <;> rfl
  | _ => exact h

theorem reads_onlyValid {document : Json} (h : rt.reads document = true) :
    rt.reads (onlyValid rt threshold document) = true := by
  cases document with
  | arr items => exact loads_withoutInvalid h
  | obj fields =>
    rw [FeedRuntime.reads] at h ⊢
    rw [onlyValid]
    rcases hdepth : rt.maxNesting with - | depth
    · rw [hdepth] at h
      cases h
    · rw [hdepth] at h
      exact Json.loads_setField (fun v hv ↦ loads_withoutInvalid hv) h
  | _ => exact h

/-- The feed without the entries that are not valid has the others. -/
theorem feedEntries_onlyValid {document : Json} {entries : List Json}
    (h : feedEntries document = .ok entries) :
    feedEntries (onlyValid rt threshold document) =
      .ok (entries.filter (validEntry rt threshold)) := by
  cases document with
  | arr items =>
    rw [feedEntries, Except.ok.injEq] at h
    rw [← h]
    rfl
  | obj fields =>
    rw [feedEntries, Json.field] at h
    rw [onlyValid, feedEntries, Json.field, Json.field?_setField]
    rcases hrules : Json.field? fields "rules" with - | v
    · rw [hrules] at h
      cases h
      rfl
    · rw [hrules] at h
      cases v with
      | arr items =>
        cases h
        rfl
      | str s =>
        cases h
        rw [filter_validEntry_str]
        rfl
      | obj rules =>
        cases h
        rw [filter_validEntry_str]
        rfl
      | _ => cases h
  | _ => cases h

/-- A feed whose entries are all valid is the feed without the others. -/
theorem onlyValid_eq_self {document : Json}
    (h : ∀ e ∈ entriesOf document, validEntry rt threshold e = true) :
    onlyValid rt threshold document = document := by
  cases document with
  | arr items => exact congrArg Json.arr (List.filter_eq_self.2 h)
  | obj fields =>
    refine congrArg Json.obj (Json.setField_eq_self fun v hv ↦ ?_)
    have hfield : Json.field fields "rules" (.arr []) = v := by
      rw [Json.field, Option.mem_def.1 hv]
      rfl
    rw [entriesOf, feedEntries, hfield] at h
    -- an entry that is a text is not valid, so there is none
    cases v with
    | arr items => exact congrArg Json.arr (List.filter_eq_self.2 h)
    | str s =>
      rcases hchars : s.toList with - | ⟨c, cs⟩
      · rw [String.toList_eq_nil_iff.1 hchars]
        rfl
      · refine absurd (h (.str (String.singleton c)) ?_) Bool.false_ne_true
        simp only [Except.toOption, Option.getD_some, hchars]
        exact List.mem_map_of_mem (List.mem_cons_self ..)
    | obj rules =>
      rcases rules with - | ⟨rule, rules⟩
      · rfl
      · refine absurd (h (.str rule.1) ?_) Bool.false_ne_true
        exact List.mem_map_of_mem (List.mem_dedup.2 (List.mem_cons_self ..))
    | _ => rfl
  | _ => rfl

theorem syncFeed_of_reads {document : Json} (hread : rt.reads document = true)
    (tables : FeedTables) :
    syncFeed rt sync document tables = syncRead rt sync document tables := if_pos hread

/-- A sync that returns has come to the end of its entries. -/
theorem passes_of_syncRead {document : Json} {entries : List Json} {tables : FeedTables}
    {result : SyncResult} (hentries : feedEntries document = .ok entries)
    (h : (syncRead rt sync document tables).2 = .ok result) :
    (∀ e ∈ entries, Passes rt sync e) ∧ result.skipped = entries.countP (skips rt sync) := by
  rw [syncRead, hentries] at h
  simp only at h
  split at h
  · cases h
  · rename_i s hs
    have hpass := syncEntries_eq_none_iff.1 (congrArg Prod.snd hs)
    refine ⟨hpass, ?_⟩
    have hskipped : (syncEntries rt sync entries (SyncState.start tables)).1.skipped =
        0 + entries.countP (skips rt sync) := skipped_syncEntries hpass
    rw [hs] at hskipped
    rw [Except.ok.injEq] at h
    rw [← h]
    exact hskipped.trans (Nat.zero_add _)

/-- And a sync whose entries all pass returns. -/
theorem syncRead_of_passes {document : Json} {entries : List Json} {tables : FeedTables}
    (hentries : feedEntries document = .ok entries) (hpass : ∀ e ∈ entries, Passes rt sync e) :
    syncRead rt sync document tables =
      (let s := (syncEntries rt sync entries (SyncState.start tables)).1
       ({ s.tables with db := (sweep s.seen s.tables.db).db },
        .ok ⟨s.created, s.updated, (sweep s.seen s.tables.db).signals, s.skipped⟩)) := by
  rw [syncRead, hentries]
  simp only
  split
  · rename_i s error hs
    have hnone : (syncEntries rt sync entries (SyncState.start tables)).2 = none :=
      syncEntries_eq_none_iff.2 hpass
    rw [hs] at hnone
    cases hnone
  · rename_i s hs
    rw [hs]

/-- A sync that has read its document and returns has entries to go through. -/
theorem exists_feedEntries {document : Json} {tables : FeedTables} {result : SyncResult}
    (h : (syncRead rt sync document tables).2 = .ok result) :
    ∃ entries, feedEntries document = .ok entries := by
  rw [syncRead] at h
  split at h
  · cases h
  · rename_i entries hentries
    exact ⟨entries, hentries⟩

/-- Where the skipped entries are as many as those outside, those outside are skipped. -/
theorem skips_of_countP {skipped keep : Json → Bool} {entries : List Json}
    (h : entries.countP skipped =
      (entries.filter keep).countP skipped + entries.countP fun e ↦ !keep e) :
    ∀ e ∈ entries, keep e = false → skipped e = true := by
  have hsplit := List.countP_eq_countP_filter_add entries skipped keep
  intro e he hkeep
  have hall : (entries.filter fun e ↦ !keep e).countP skipped =
      (entries.filter fun e ↦ !keep e).length := by
    rw [← List.countP_eq_length_filter]
    omega
  exact List.countP_eq_length.1 hall e (List.mem_filter.2 ⟨he, by simp [hkeep]⟩)

theorem Storable.valid {e : Json} (h : Storable rt threshold now e) :
    validEntry rt threshold e = true := by
  cases h with
  | entry hvalid hfits => exact hvalid

theorem Harmless.passes {e : Json} (h : Harmless rt sync.threshold sync.now e) :
    Passes rt sync e := by
  rcases h with h | h
  · exact .inl h
  obtain ⟨a?, ha⟩ := h.settles
  rcases a? with - | a
  · exact .inl (turnedAway_of_checkEntry ha)
  cases h with
  | entry hvalid hfits =>
    simp only [validFields, Bool.and_eq_true] at hvalid
    exact .inr ⟨a, ha, (read_of_checkEntry ha).fits hfits hvalid.2⟩

/-- What passes is harmless, unless it is stored without being valid. -/
theorem Passes.harmless {e : Json} (h : Passes rt sync e)
    (hinvalid : validEntry rt sync.threshold e = false → skips rt sync e = true) :
    Harmless rt sync.threshold sync.now e := by
  rcases h with h | ⟨a, ha, hfits⟩
  · exact .inl h
  cases e with
  | obj fields =>
    rcases hvalid : validEntry rt sync.threshold (.obj fields) with - | -
    · exact .inl (skips_iff.1 (hinvalid hvalid))
    · exact .inr ⟨hvalid, (read_of_checkEntry ha).fitsColumns hfits⟩
  | _ => cases ha

/-- Of a document that is read, the entries that are not valid cost nothing else exactly when every
entry is harmless. -/
theorem costsOnlyItself_of_reads {document : Json} {tables : FeedTables}
    (hread : rt.reads document = true) :
    CostsOnlyItself rt sync document tables ↔
      ∃ entries, HasEntries document entries ∧
        ∀ e ∈ entries, Harmless rt sync.threshold sync.now e := by
  have hread' : rt.reads (onlyValid rt sync.threshold document) = true := reads_onlyValid hread
  rw [CostsOnlyItself, syncFeed_of_reads hread, syncFeed_of_reads hread']
  constructor
  · rintro ⟨result, result', hresult, hresult', hcount, -⟩
    obtain ⟨entries, hentries⟩ := exists_feedEntries hresult
    rw [entriesOf_eq hentries] at hcount
    obtain ⟨hpass, hskipped⟩ := passes_of_syncRead hentries hresult
    obtain ⟨-, hskipped'⟩ := passes_of_syncRead (feedEntries_onlyValid hentries) hresult'
    rw [hskipped, hskipped'] at hcount
    have hskips := skips_of_countP hcount
    exact ⟨entries, hasEntries_of_feedEntries hentries hpass,
      fun e he ↦ (hpass e he).harmless (hskips e he)⟩
  · rintro ⟨entries, hhas, hharmless⟩
    have hentries := hhas.feedEntries_eq
    have hentries' : feedEntries (onlyValid rt sync.threshold document) =
        .ok (entries.filter (validEntry rt sync.threshold)) := feedEntries_onlyValid hentries
    have hpass : ∀ e ∈ entries, Passes rt sync e := fun e he ↦ (hharmless e he).passes
    have hpass' : ∀ e ∈ entries.filter (validEntry rt sync.threshold), Passes rt sync e :=
      fun e he ↦ hpass e (List.mem_filter.1 he).1
    have hinvalid : ∀ e ∈ entries, validEntry rt sync.threshold e = false →
        TurnedAway rt sync.threshold sync.now e := by
      intro e he hno
      rcases hharmless e he with h | h
      · exact h
      · rw [h.valid] at hno
        cases hno
    have hfilter := syncEntries_filter hinvalid hpass (SyncState.start tables)
    rw [entriesOf_eq hentries, syncRead_of_passes hentries hpass,
      syncRead_of_passes hentries' hpass', hfilter]
    exact ⟨_, _, rfl, rfl, rfl, rfl⟩

/-- A document that is not read costs its valid entries, unless there are no others. -/
theorem costsOnlyItself_of_not_reads {document : Json} {tables : FeedTables}
    (hread : ¬ rt.reads document = true) :
    CostsOnlyItself rt sync document tables ↔
      ∀ e ∈ entriesOf document, validEntry rt sync.threshold e = true := by
  have hsync : syncFeed rt sync document tables = (tables, .ok ⟨0, 0, 0, 0⟩) := if_neg hread
  constructor
  · rintro ⟨result, result', hresult, -, hcount, -⟩
    rw [hsync, Except.ok.injEq] at hresult
    rw [← hresult] at hcount
    have hzero := Nat.eq_zero_of_add_eq_zero_left hcount.symm
    intro e he
    simpa using List.countP_eq_zero.1 hzero e he
  · intro h
    rw [CostsOnlyItself, onlyValid_eq_self h, hsync]
    refine ⟨_, _, rfl, rfl, ?_, rfl⟩
    rw [List.countP_eq_zero.2 fun e he ↦ by simp [h e he]]

/-- **A bad entry costs only itself exactly when it is one of those the loop turns away**: when the
document has entries and each of them is turned away, or is valid with values that fit. Where the
parser refuses the document, nothing is stored and nothing is counted. -/
theorem costs_only_itself_iff (rt : FeedRuntime) (sync : Sync) (document : Json)
    (tables : FeedTables) :
    CostsOnlyItself rt sync document tables ↔
      if rt.reads document then ∃ entries, HasEntries document entries ∧
        ∀ e ∈ entries, Harmless rt sync.threshold sync.now e
      else ∀ e ∈ entriesOf document, validEntry rt sync.threshold e = true := by
  split
  · rename_i hread
    exact costsOnlyItself_of_reads hread
  · rename_i hread
    exact costsOnlyItself_of_not_reads hread

/-- A sync with the default settings, at the first instant. -/
def defaultSync : Sync :=
  ⟨.finite (8 / 10), true, 0, .counting _ _, .counting _ _, fun _ _ _ ↦ 0⟩

/-- Tables without rows. -/
def noRows : FeedTables := ⟨⟨[], []⟩, fun _ ↦ newStats 0, fun _ ↦ newStats 0⟩

/-- A `null` before an entry for 203.0.113.9. -/
def nullFirst : Json :=
  .arr [.null, .obj [("rule_type", .str "ip"), ("pattern", .str "203.0.113.9"),
    ("confidence", .float (.finite (9 / 10)))]]

/-- The `null` has no `get`: the loop ends there, and the entry after it is never read. -/
theorem null_entry_ends_sync : ¬ CostsOnlyItself .plain defaultSync nullFirst noRows := by
  rintro ⟨result, result', hresult, -⟩
  cases hresult

end ThreatFeed

end DjangoWaf
