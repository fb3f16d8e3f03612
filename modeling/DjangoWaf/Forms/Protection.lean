import DjangoWaf.Forms.Defences
import Mathlib.Algebra.BigOperators.Group.List.Basic

/-!
# The orchestrator

`forms/protection.py`: a `FormProtection` runs its defences in a fixed order, stops at the first one
that blocks, and turns the scores of the others into a verdict. An exception of a defence counts as
a pass; **the payload is parsed again outside that guard**, so the one exception parsing has leaves
`evaluate`.

`evaluate_spec` is the specification the results about verdicts go by: without a parse error the
verdict is `BLOCKED` when some defence blocks, and otherwise what the weighted total resolves to.
-/

namespace DjangoWaf

open PyBytes IsoDatetime

/-- `FormVerdict`. -/
inductive FormVerdict
  | passed
  | flagged
  | blocked
  deriving DecidableEq, Repr

/-- `FormEvaluationResult`. -/
structure FormEvaluationResult where
  verdict : FormVerdict
  totalScore : ℚ
  outcomes : List Outcome
  tokenPayload : Option TokenPayload

/-- `_CANONICAL_ORDER`. -/
def canonicalOrder : List Defence :=
  [.renderToken, .honeypot, .timeTrap, .uaConsistency, .jsTouch, .credentialThrottle,
    .signupVelocity, .powGate]

/-- `_order_defences`. -/
def orderDefences (names : List String) : List Defence :=
  canonicalOrder.filter fun d ↦ d.name ∈ names

/-- `FormProtection`, once constructed. -/
structure FormProtection where
  formId : String
  /-- `_defence_names`. -/
  defenceNames : List Defence
  /-- They are in canonical order. -/
  sublist : defenceNames.Sublist canonicalOrder
  /-- `_weights`. -/
  weights : List (String × ℚ)
  skipForAuthenticated : Bool
  /-- `_per_form_config`. -/
  perFormConfig : DefenceConfig

namespace FormProtection

/-- `__init__`: unknown names are refused, and returned here. -/
def init (formId : String) (defences : List String) (defenceWeights : List (String × ℚ))
    (skipForAuthenticated : Bool) (perFormConfig : DefenceConfig) :
    Except (List String) FormProtection :=
  let unknown := defences.filter fun n ↦ n ∉ canonicalOrder.map Defence.name
  if unknown = [] then
    .ok ⟨formId, orderDefences defences, List.filter_sublist, defenceWeights, skipForAuthenticated,
      perFormConfig⟩
  else .error unknown

variable (cf : FormConf) (fp : FormProtection)

/-- `_config_for`. -/
def configFor (tokenNonce : Option String) : DefenceConfig :=
  match tokenNonce with
  | some nonce => { fp.perFormConfig with tokenNonce := some nonce }
  | none => fp.perFormConfig

/-- The defences that run for a request. -/
def runningNames (req : FormRequest) : List Defence :=
  if fp.skipForAuthenticated = true ∧ req.isAuthenticated = true then
    fp.defenceNames.filter (· = .renderToken)
  else fp.defenceNames

/-- The weight of a defence: the form's own, else the project's. -/
def weight (d : Defence) : Option ℚ :=
  (fp.weights.lookup d.name).or (cf.defenceWeights.lookup d.name)

/-- What an outcome adds to the total. -/
def contribution (d : Defence) (o : Outcome) : ℚ :=
  if o.verdict = .pass then 0 else (fp.weight cf d).getD o.score

/-- `_aggregate_score`. -/
def aggregateScore (outcomes : List Outcome) : ℚ :=
  (outcomes.zip fp.defenceNames).foldl (fun total p ↦ total + fp.contribution cf p.2 p.1) 0

/-- `_resolve_verdict`. -/
def resolveVerdict (totalScore : ℚ) : FormVerdict :=
  if cf.blockThreshold ≤ totalScore then .blocked
  else if cf.flagThreshold ≤ totalScore then .flagged
  else .passed

/-- The context of a defence. -/
def context (req : FormRequest) (data : Submitted) (payload : Option TokenPayload) :
    EvaluateContext where
  formId := fp.formId
  request := req
  submittedData := data
  config := fp.configFor (payload.map TokenPayload.nonce)
  tokenPayload := payload

/-- One defence, an exception being a pass. -/
def outcomeOf (reads : FormReads) (now : Civil) (req : FormRequest) (data : Submitted)
    (payload : Option TokenPayload) (d : Defence) : Outcome :=
  match d.evaluate cf reads now (fp.context req data payload) with
  | .ok outcome => outcome
  | .error _ => .passed

/-- The loop of `evaluate`, over the defences that are left. -/
def runChain (reads : FormReads) (now : Civil) (req : FormRequest) (data : Submitted) :
    List Defence → List Outcome → Option TokenPayload → Except FormError FormEvaluationResult
  | [], outcomes, payload =>
    let total := fp.aggregateScore cf outcomes
    .ok ⟨resolveVerdict cf total, total, outcomes, payload⟩
  | d :: rest, outcomes, payload =>
    let outcome := fp.outcomeOf cf reads now req data payload d
    let outcomes := outcomes ++ [outcome]
    if outcome.verdict = .block then
      .ok ⟨.blocked, fp.aggregateScore cf outcomes, outcomes, payload⟩
    else if d = .renderToken ∧ payload = none then
      match parseSubmittedPayload cf.toSigning data with
      | .error e => .error e
      | .ok payload => runChain reads now req data rest outcomes payload
    else runChain reads now req data rest outcomes payload

/-- `evaluate`. -/
def evaluate (reads : FormReads) (now : Civil) (req : FormRequest) (data : Submitted) :
    Except FormError FormEvaluationResult :=
  if cf.enabled = false then .ok ⟨.passed, 0, [], none⟩
  else fp.runChain cf reads now req data (fp.runningNames req) [] none

/-- `consume_token_marker`. -/
def consumeTokenMarker (up : Bool) (payload : Option TokenPayload) (s : FormStore) : FormStore :=
  match payload with
  | none => s
  | some payload => s.consumeMarker up payload.nonce

end FormProtection

/-! ### What runs -/

/-- A list of defences in canonical order has the render token at its head, or not at all. -/
theorem renderToken_cases {names : List Defence} (h : names.Sublist canonicalOrder) :
    .renderToken ∉ names ∨ ∃ rest, names = .renderToken :: rest ∧ .renderToken ∉ rest := by
  rw [canonicalOrder, List.sublist_cons_iff] at h
  rcases h with h | ⟨rest, rfl, h⟩
  · exact Or.inl fun hmem ↦ absurd (h.subset hmem) (by decide)
  · exact Or.inr ⟨rest, rfl, fun hmem ↦ absurd (h.subset hmem) (by decide)⟩

namespace FormProtection

variable (cf : FormConf) (fp : FormProtection)

/-- The defences that run are the first ones of the chain. -/
theorem runningNames_prefix_defenceNames (req : FormRequest) :
    fp.runningNames req <+: fp.defenceNames := by
  rw [runningNames]
  split_ifs
  · rcases renderToken_cases fp.sublist with hnot | ⟨rest, hnames, hrest⟩
    · have hnil : fp.defenceNames.filter (· = .renderToken) = [] := by
        rw [List.filter_eq_nil_iff]
        rintro d hd hdec
        rw [of_decide_eq_true hdec] at hd
        exact hnot hd
      rw [hnil]
      exact List.nil_prefix
    · have hnil : rest.filter (· = .renderToken) = [] := by
        rw [List.filter_eq_nil_iff]
        rintro d hd hdec
        rw [of_decide_eq_true hdec] at hd
        exact hrest hd
      rw [hnames, List.filter_cons_of_pos (by simp), hnil]
      exact ⟨rest, rfl⟩
  · exact List.prefix_rfl

theorem runningNames_sublist (req : FormRequest) :
    (fp.runningNames req).Sublist canonicalOrder :=
  (fp.runningNames_prefix_defenceNames req).sublist.trans fp.sublist

/-- The render token runs for every request when it is configured. -/
theorem renderToken_mem_runningNames (req : FormRequest) :
    .renderToken ∈ fp.runningNames req ↔ .renderToken ∈ fp.defenceNames := by
  rw [runningNames]
  split_ifs
  · rw [List.mem_filter]
    simp
  · rfl

/-! ### The total -/

theorem aggregateScore_eq_sum (outcomes : List Outcome) : fp.aggregateScore cf outcomes =
    ((outcomes.zip fp.defenceNames).map fun p ↦ fp.contribution cf p.2 p.1).sum := by
  have hfold : ∀ (l : List (Outcome × Defence)) (acc : ℚ),
      l.foldl (fun total p ↦ total + fp.contribution cf p.2 p.1) acc =
        acc + (l.map fun p ↦ fp.contribution cf p.2 p.1).sum := by
    intro l
    induction l with
    | nil => simp
    | cons p l ih =>
      intro acc
      rw [List.foldl_cons, ih, List.map_cons, List.sum_cons, add_assoc]
  rw [aggregateScore, hfold, zero_add]

/-- Outcomes of the first defences are paired with these defences. -/
theorem aggregateScore_map {names : List Defence} (h : names <+: fp.defenceNames)
    (f : Defence → Outcome) : fp.aggregateScore cf (names.map f) =
      (names.map fun d ↦ fp.contribution cf d (f d)).sum := by
  obtain ⟨rest, hrest⟩ := h
  have hzip : (names.map f).zip fp.defenceNames = names.map fun d ↦ (f d, d) := by
    rw [← hrest]
    clear hrest
    induction names with
    | nil => rfl
    | cons d names ih => rw [List.map_cons, List.cons_append, List.zip_cons_cons, ih, List.map_cons]
  rw [aggregateScore_eq_sum, hzip, List.map_map]
  rfl

end FormProtection

/-! ### The verdict -/

/-- A hard block. -/
def Outcome.Blocks (o : Outcome) : Prop := o.verdict = .block

instance : DecidablePred Outcome.Blocks := fun o ↦ inferInstanceAs (Decidable (o.verdict = .block))

/-- The outcomes up to the first block. -/
def throughBlock : List Outcome → List Outcome
  | [] => []
  | o :: rest => if o.Blocks then [o] else o :: throughBlock rest

theorem throughBlock_of_forall {os : List Outcome} (h : ∀ o ∈ os, ¬o.Blocks) :
    throughBlock os = os := by
  induction os with
  | nil => rfl
  | cons o os ih =>
    rw [throughBlock, if_neg (h o List.mem_cons_self),
      ih fun o' ho' ↦ h o' (List.mem_cons_of_mem o ho')]

theorem exists_blocks_throughBlock {os : List Outcome} :
    (∃ o ∈ throughBlock os, o.Blocks) ↔ ∃ o ∈ os, o.Blocks := by
  induction os with
  | nil => rfl
  | cons o os ih =>
    rw [throughBlock]
    split_ifs with ho
    · simp [ho]
    · simp only [List.mem_cons, exists_eq_or_imp, ho, false_or, ih]

theorem throughBlock_append_cons {os : List Outcome} (h : ∀ o ∈ os, ¬o.Blocks) {o : Outcome}
    (ho : o.Blocks) (rest : List Outcome) : throughBlock (os ++ o :: rest) = os ++ [o] := by
  induction os with
  | nil => rw [List.nil_append, throughBlock, if_pos ho, List.nil_append]
  | cons o' os ih =>
    rw [List.cons_append, throughBlock, if_neg (h o' List.mem_cons_self),
      ih fun o ho ↦ h o (List.mem_cons_of_mem o' ho), List.cons_append]

theorem mem_throughBlock_iff {os : List Outcome} {o : Outcome} : o ∈ throughBlock os ↔
    ∃ before after, os = before ++ o :: after ∧ ∀ o' ∈ before, ¬o'.Blocks := by
  induction os with
  | nil => simp [throughBlock]
  | cons first os ih =>
    rw [throughBlock]
    constructor
    · intro hmem
      split_ifs at hmem with hfirst
      · rw [List.mem_singleton.1 hmem]
        exact ⟨[], os, rfl, fun _ h ↦ absurd h List.not_mem_nil⟩
      · rcases List.mem_cons.1 hmem with rfl | hrest
        · exact ⟨[], os, rfl, fun _ h ↦ absurd h List.not_mem_nil⟩
        · obtain ⟨before, after, rfl, hbefore⟩ := ih.1 hrest
          exact ⟨first :: before, after, rfl, List.forall_mem_cons.2 ⟨hfirst, hbefore⟩⟩
    · rintro ⟨before, after, hsplit, hbefore⟩
      rcases before with - | ⟨b, before⟩
      · rw [(List.cons.inj hsplit).1]
        split_ifs
        · exact List.mem_cons_self
        · exact List.mem_cons_self
      · obtain ⟨rfl, hrest⟩ := List.cons.inj hsplit
        rw [List.forall_mem_cons] at hbefore
        rw [if_neg hbefore.1]
        exact List.mem_cons_of_mem _ (ih.2 ⟨before, after, hrest, hbefore.2⟩)

namespace FormProtection

variable (cf : FormConf) (fp : FormProtection) (reads : FormReads) (now : Civil) (req : FormRequest)
  (data : Submitted)

/-- The verdict on some outcomes. -/
def verdictOn (outcomes : List Outcome) : FormVerdict :=
  if ∃ o ∈ outcomes, o.Blocks then .blocked
  else resolveVerdict cf (fp.aggregateScore cf outcomes)

/-- The outcomes of the chain's defences, given the payload of the token. -/
def outcomes (payload : Option TokenPayload) : List Outcome :=
  (fp.runningNames req).map (fp.outcomeOf cf reads now req data payload)

/-- The payload the chain goes on with. -/
def threadedPayload : Except FormError (Option TokenPayload) :=
  if .renderToken ∈ fp.defenceNames then parseSubmittedPayload cf.toSigning data else .ok none

/-- A result for a list of outcomes, and for the payload when no outcome blocks. -/
structure ResultFor (os : List Outcome) (payload : Option TokenPayload)
    (r : FormEvaluationResult) : Prop where
  outcomes : r.outcomes = throughBlock os
  totalScore : r.totalScore = fp.aggregateScore cf r.outcomes
  verdict : r.verdict = fp.verdictOn cf r.outcomes
  tokenPayload : (∀ o ∈ os, ¬o.Blocks) → r.tokenPayload = payload

/-- A result that ends at a block. -/
theorem resultFor_of_blocks {os : List Outcome} (h : ∀ o ∈ os, ¬o.Blocks) {o : Outcome}
    (ho : o.Blocks) (rest : List Outcome) (payload payload' : Option TokenPayload) :
    fp.ResultFor cf (os ++ o :: rest) payload
      ⟨.blocked, fp.aggregateScore cf (os ++ [o]), os ++ [o], payload'⟩ := by
  refine ⟨(throughBlock_append_cons h ho rest).symm, rfl, ?_, fun hno ↦ ?_⟩
  · rw [verdictOn, if_pos ⟨o, by simp, ho⟩]
  · exact absurd ho (hno o (by simp))

/-- The loop without the render token: every defence sees the same payload. -/
theorem runChain_spec {ds : List Defence} (hds : .renderToken ∉ ds) {done : List Outcome}
    (hdone : ∀ o ∈ done, ¬o.Blocks) (payload : Option TokenPayload) :
    ∃ r, fp.runChain cf reads now req data ds done payload = .ok r ∧
      fp.ResultFor cf (done ++ ds.map (fp.outcomeOf cf reads now req data payload)) payload r := by
  induction ds generalizing done with
  | nil =>
    refine ⟨_, rfl, ?_⟩
    rw [List.map_nil, List.append_nil]
    have hno : ¬∃ o ∈ done, o.Blocks := by
      rintro ⟨o, hmem, ho⟩
      exact hdone o hmem ho
    refine ⟨(throughBlock_of_forall hdone).symm, rfl, ?_, fun _ ↦ rfl⟩
    rw [verdictOn, if_neg hno]
  | cons d ds ih =>
    rw [List.mem_cons, not_or] at hds
    have hd : ¬(d = .renderToken ∧ payload = none) := fun h ↦ hds.1 h.1.symm
    rw [runChain, List.map_cons]
    generalize fp.outcomeOf cf reads now req data payload d = o
    by_cases ho : o.Blocks
    · rw [if_pos (show o.verdict = .block from ho)]
      exact ⟨_, rfl, fp.resultFor_of_blocks cf hdone ho _ _ _⟩
    · have hdone' : ∀ o' ∈ done ++ [o], ¬o'.Blocks := by
        intro o' hmem
        rcases List.mem_append.1 hmem with hmem | hmem
        · exact hdone o' hmem
        · rw [List.mem_singleton.1 hmem]
          exact ho
      have hcons : done ++ o :: ds.map (fp.outcomeOf cf reads now req data payload) =
          done ++ [o] ++ ds.map (fp.outcomeOf cf reads now req data payload) :=
        List.append_cons _ _ _
      rw [if_neg (show ¬o.verdict = .block from ho), if_neg hd, hcons]
      exact ih hds.2 hdone'

/-- The render token's own outcome does not depend on the payload. -/
theorem outcomeOf_renderToken (payload : Option TokenPayload) :
    fp.outcomeOf cf reads now req data payload .renderToken =
      fp.outcomeOf cf reads now req data none .renderToken := by
  rcases payload with - | payload
  · rfl
  · rfl

/-- A token whose own outcome is a block parses without an exception. -/
theorem parseSubmittedPayload_of_blocks
    (h : (fp.outcomeOf cf reads now req data none .renderToken).Blocks) :
    ∃ payload, parseSubmittedPayload cf.toSigning data = .ok payload := by
  rw [parseSubmittedPayload]
  rw [Outcome.Blocks, outcomeOf, Defence.evaluate, RenderTokenDefence.evaluate, context] at h
  simp only at h ⊢
  split_ifs at h ⊢ with hempty
  · exact ⟨none, rfl⟩
  · rcases hv : verifyToken cf.toSigning (data.text RenderTokenDefence.fieldName) with e | payload
    · rcases e with m | m | -
      · exact ⟨none, rfl⟩
      · rw [hv] at h
        cases h
      · rw [hv] at h
        cases h
    · exact ⟨some payload, rfl⟩

/-- **The verdict of a submission.** With protection on, `evaluate` raises what parsing the payload
raises; otherwise its outcomes are those of the running defences up to the first block. -/
theorem evaluate_spec (henabled : cf.enabled = true) :
    (∀ e, fp.threadedPayload cf data = .error e →
        fp.evaluate cf reads now req data = .error e) ∧
      ∀ payload, fp.threadedPayload cf data = .ok payload →
        ∃ r, fp.evaluate cf reads now req data = .ok r ∧
          fp.ResultFor cf (fp.outcomes cf reads now req data payload) payload r := by
  have hmem := fp.renderToken_mem_runningNames req
  have hon : ¬cf.enabled = false := by
    rw [henabled]
    decide
  have hnone : ∀ o ∈ ([] : List Outcome), ¬o.Blocks := fun _ ho ↦ absurd ho List.not_mem_nil
  simp only [threadedPayload, evaluate, if_neg hon, outcomes]
  rcases renderToken_cases (fp.runningNames_sublist req) with hnot | ⟨rest, hnames, hrest⟩
  · rw [if_neg (mt hmem.2 hnot)]
    refine ⟨fun e he ↦ ?_, fun payload hpayload ↦ ?_⟩
    · cases he
    · obtain rfl := Except.ok.inj hpayload
      exact fp.runChain_spec cf reads now req data hnot hnone none
  · rw [if_pos (hmem.1 (hnames ▸ List.mem_cons_self)), hnames, runChain]
    by_cases hblock : (fp.outcomeOf cf reads now req data none .renderToken).Blocks
    · rw [if_pos (show _ = Outcome.Verdict.block from hblock)]
      obtain ⟨p, hp⟩ := parseSubmittedPayload_of_blocks cf fp reads now req data hblock
      refine ⟨fun e he ↦ ?_, fun payload _ ↦ ⟨_, rfl, ?_⟩⟩
      · rw [hp] at he
        cases he
      · rw [List.map_cons, outcomeOf_renderToken cf fp reads now req data]
        exact fp.resultFor_of_blocks cf hnone hblock _ _ _
    · rw [if_neg (show ¬_ = Outcome.Verdict.block from hblock), if_pos ⟨rfl, rfl⟩]
      refine ⟨fun e he ↦ by rw [he], fun payload hpayload ↦ ?_⟩
      have hdone : ∀ o ∈ [fp.outcomeOf cf reads now req data none .renderToken], ¬o.Blocks := by
        intro o ho
        rw [List.mem_singleton.1 ho]
        exact hblock
      rw [hpayload, List.map_cons, fp.outcomeOf_renderToken cf reads now req data payload]
      exact fp.runChain_spec cf reads now req data hrest hdone payload

theorem ResultFor.verdict_eq {os : List Outcome} {payload : Option TokenPayload}
    {r : FormEvaluationResult} (h : fp.ResultFor cf os payload r) :
    r.verdict = fp.verdictOn cf os := by
  rw [h.verdict, h.outcomes, verdictOn, verdictOn]
  by_cases hblock : ∃ o ∈ os, o.Blocks
  · rw [if_pos (exists_blocks_throughBlock.2 hblock), if_pos hblock]
  · have hnone : ∀ o ∈ os, ¬o.Blocks := fun o ho hb ↦ hblock ⟨o, ho, hb⟩
    rw [throughBlock_of_forall hnone]

/-- The weighted total of the running defences. -/
def total (payload : Option TokenPayload) : ℚ :=
  ((fp.runningNames req).map fun d ↦
    fp.contribution cf d (fp.outcomeOf cf reads now req data payload d)).sum

theorem verdictOn_outcomes (payload : Option TokenPayload) :
    fp.verdictOn cf (fp.outcomes cf reads now req data payload) =
      if ∃ d ∈ fp.runningNames req, (fp.outcomeOf cf reads now req data payload d).Blocks then
        .blocked
      else resolveVerdict cf (fp.total cf reads now req data payload) := by
  rw [verdictOn, outcomes, aggregateScore_map _ _ (fp.runningNames_prefix_defenceNames req), total]
  simp only [List.mem_map, exists_exists_and_eq_and]

/-- Without a block the total is that of all running defences. -/
theorem ResultFor.totalScore_eq {payload : Option TokenPayload} {r : FormEvaluationResult}
    (h : fp.ResultFor cf (fp.outcomes cf reads now req data payload) payload r)
    (hnone : ∀ d ∈ fp.runningNames req,
      ¬(fp.outcomeOf cf reads now req data payload d).Blocks) :
    r.totalScore = fp.total cf reads now req data payload := by
  have hall : ∀ o ∈ fp.outcomes cf reads now req data payload, ¬o.Blocks := by
    intro o ho
    obtain ⟨d, hd, rfl⟩ := List.mem_map.1 ho
    exact hnone d hd
  rw [h.totalScore, h.outcomes, throughBlock_of_forall hall, FormProtection.outcomes,
    aggregateScore_map _ _ (fp.runningNames_prefix_defenceNames req), total]

theorem resolveVerdict_eq_passed_iff {t : ℚ} :
    resolveVerdict cf t = .passed ↔ t < cf.blockThreshold ∧ t < cf.flagThreshold := by
  rw [resolveVerdict]
  split_ifs with hblock hflag
  · simp [not_lt.2 hblock]
  · simp [not_lt.2 hflag]
  · simp [not_le.1 hblock, not_le.1 hflag]

end FormProtection

end DjangoWaf
