import DjangoWaf.FeedErrors
import DjangoWaf.StoredCriteria

/-!
# Has every stored regular expression passed the guard?

`_match_ua` compiles a pattern when a user agent is matched by regular expression: the pattern of a
`ua` rule, and of a `composite` rule the text before the first `||`, which is only split off for the
match (`Criterion.uaRegex?`). The guard on such patterns is `validate_ua_regex_pattern`, and a
criterion is `Guarded` when the guard accepts what would be compiled.

The guard stands in three places. An admin form asks it, in `clean_pattern` and again in the `clean`
of the model, about `ua` rules; the feed asks it about the whole pattern of any entry that matches
by regular expression; and detectors and commands write no expression at all. A plain save asks
nothing (`save` does not call `clean`), and neither does the import command, which creates rows. So
in a run the rules stay guarded as long as what plain saves and imports bring is guarded, and what
forms and feed entries bring of composite rules (`rules_guarded`), and a run of one step for each of
the three shows that this is needed (`rules_not_guarded`).
-/

namespace DjangoWaf

open ThreatFeed

/-! ### The expression of a rule -/

theorem matchUa_congr {cf cf' : Conf} {pattern : String} {m : MatchType} (userAgent : String)
    (h : m = .regex → cf'.reCompile pattern = cf.reCompile pattern) :
    matchUa cf' userAgent pattern m = matchUa cf userAgent pattern m := by
  cases m with
  | regex =>
    show (cf'.reSearch pattern userAgent).getD false = (cf.reSearch pattern userAgent).getD false
    rw [Conf.reSearch, Conf.reSearch, h rfl]
  | _ => rfl

/-- **What a rule compiles** is that pattern and no other: where it compiles to the same, the rule
raises and matches the same. -/
theorem tryRuleMatches_congr {cf cf' : Conf} {c : Criterion} (ip userAgent : String)
    (h : ∀ p, c.uaRegex? = some p → cf'.reCompile p = cf.reCompile p) :
    tryRuleMatches cf' c ip userAgent = tryRuleMatches cf c ip userAgent := by
  have hraises : c.raises cf' = c.raises cf := by
    rw [Criterion.raises, Criterion.raises]
    rcases hregex : c.uaRegex? with - | p
    · rfl
    · show cf'.reRaises p = cf.reRaises p
      rw [Conf.reRaises, Conf.reRaises, h p hregex]
  have hmatches : ruleMatches cf' c ip userAgent = ruleMatches cf c ip userAgent := by
    rcases c with ⟨ruleType, matchType, pattern⟩
    cases ruleType with
    | ua =>
      exact matchUa_congr userAgent fun hm ↦ h pattern (by rw [Criterion.uaRegex?, if_pos hm])
    | composite =>
      simp only [ruleMatches]
      rcases hsplit : PyStr.splitOnce ['|', '|'] pattern.toList with - | ⟨uaPart, ipPart⟩
      · rfl
      · have hua : matchUa cf' userAgent (PyStr.stripText (String.ofList uaPart)) matchType =
            matchUa cf userAgent (PyStr.stripText (String.ofList uaPart)) matchType := by
          refine matchUa_congr userAgent fun hm ↦ h _ ?_
          rw [Criterion.uaRegex?, if_pos hm, hsplit]
          rfl
        simp only [hua]
    | _ => rfl
  rw [tryRuleMatches, tryRuleMatches, hraises, hmatches]

/-! ### The guard -/

/-- The guard accepts what a rule has compiled. -/
def Guarded (reCompile : String → Compiled) (c : Criterion) : Prop :=
  ∀ p, c.uaRegex? = some p → validateUaRegexPattern reCompile p = .ok none

/-- `_validate_rule_pattern`: nothing, or the message of its `ValidationError`. -/
def validateRulePattern (reCompile : String → Compiled) (c : Criterion) :
    Except Raised (Option String) :=
  if c.ruleType ≠ .ua ∨ c.matchType ≠ .regex then .ok none
  else validateUaRegexPattern reCompile c.pattern

/-- A save of an admin form, which `clean_pattern` and the model's `clean` let pass. Both ask
`_validate_rule_pattern`'s question. -/
def adminSave (reCompile : String → Compiled) (c : Criterion) (save : Db → Written) (db : Db) :
    Written :=
  match validateRulePattern reCompile c with
  | .ok none => save db
  | .ok (some _) | .error _ => .nothing db

section Guard

variable {reCompile : String → Compiled} {c : Criterion}

/-- A rule that matches by no expression is guarded. -/
theorem guarded_of_ne_regex (h : c.matchType ≠ .regex) : Guarded reCompile c := by
  intro p hp
  rw [Criterion.uaRegex?, if_neg h] at hp
  cases hp

/-- The pattern of a rule that is not composite is compiled whole, or not at all. -/
theorem guarded_of_ne_composite (h : c.ruleType ≠ .composite)
    (hua : c.ruleType = .ua → c.matchType = .regex →
      validateUaRegexPattern reCompile c.pattern = .ok none) : Guarded reCompile c := by
  intro p hp
  rw [Criterion.uaRegex?] at hp
  split at hp
  · rename_i hregex
    split at hp
    · rename_i hrule
      obtain rfl := Option.some.inj hp
      exact hua hrule hregex
    · rename_i hrule
      exact absurd hrule h
    all_goals cases hp
  · cases hp

/-- **What the model's check lets pass** is guarded, unless it is composite. -/
theorem guarded_of_validateRulePattern (hvalid : validateRulePattern reCompile c = .ok none)
    (hcomposite : c.ruleType = .composite → Guarded reCompile c) : Guarded reCompile c := by
  by_cases h : c.ruleType = .composite
  · exact hcomposite h
  · refine guarded_of_ne_composite h fun hua hregex ↦ ?_
    rwa [validateRulePattern, if_neg (by simp [hua, hregex])] at hvalid

theorem holds_adminSave {save : Db → Written} (hcomposite : c.ruleType = .composite →
    Guarded reCompile c) (hsave : Guarded reCompile c → Keeps (Guarded reCompile) save) :
    Keeps (Guarded reCompile) (adminSave reCompile c save) := by
  intro db h
  rw [adminSave]
  split
  · rename_i hvalid
    exact hsave (guarded_of_validateRulePattern hvalid hcomposite) db h
  · exact h
  · exact h

end Guard

/-! ### The feed -/

section Feed

variable {rt : FeedRuntime} {sync : Sync}

theorem matchType_of_checkAllow {fields : List (String × Json)} {c : PyFloat} {r : RuleType}
    {m : MatchType} {pattern : Json} {t : ℚ} {a : Accepted}
    (h : checkAllow rt fields c r m pattern t = .ok (some a)) : a.matchType = m := by
  simp only [checkAllow, bind, Except.bind, pure, Except.pure] at h
  split at h
  · cases hslice : slice pattern <;> simp [hslice] at h
  · rcases hpattern : hashed pattern with error | s
    · simp [hpattern] at h
    · simp only [hpattern, Except.ok.injEq, Option.some.injEq] at h
      rw [← h]

theorem matchType_of_checkBlock {fields : List (String × Json)} {c : PyFloat} {r : RuleType}
    {m : MatchType} {pattern : Json} {t : ℚ} {a : Accepted}
    (h : checkBlock fields c r m pattern t = .ok (some a)) : a.matchType = m := by
  simp only [checkBlock, bind, Except.bind, pure, Except.pure] at h
  rcases haction : lookUp RuleAction.known? (Json.field fields "action" (.str "block")) with
    error | - | action
  · simp [haction] at h
  · simp [haction] at h
  · rcases hpattern : hashed pattern with error | s
    · simp [haction, hpattern] at h
    · simp only [haction, hpattern, Except.ok.injEq, Option.some.injEq] at h
      rw [← h]

/-- The pattern of an accepted entry has passed `_validate_pattern`. -/
theorem validatePattern_of_checkEntry {threshold : PyFloat} {now : ℚ} {entry : Json} {a : Accepted}
    (h : checkEntry rt threshold now entry = .ok (some a)) :
    validatePattern rt (.str a.pattern) a.matchType = .ok true := by
  cases entry with
  | obj fields =>
    have hread := read_of_checkEntry h
    have hrule : ∃ c, checkRule rt now fields c = .ok (some a) := by
      simp only [checkEntry, hread.confidence, bind, Except.bind, pure, Except.pure] at h
      split at h
      · simp at h
      · exact ⟨_, h⟩
    obtain ⟨c, hrule⟩ := hrule
    obtain ⟨r, m, hruleType, htarget⟩ := exists_targeted hrule
    rw [checkRule_of_targeted hruleType htarget, hread.pattern] at hrule
    rcases hpattern : validatePattern rt (.str a.pattern) m with error | - | -
    · simp [hpattern, Except.bind] at hrule
    · simp [hpattern, slice, Except.bind] at hrule
    · simp only [hpattern, hread.expires, Except.bind, if_true] at hrule
      split at hrule
      · rwa [matchType_of_checkAllow hrule]
      · rwa [matchType_of_checkBlock hrule]
  | _ => cases h

/-- The pattern of an accepted entry that matches by expression has passed the guard, whole. -/
theorem validateUaRegexPattern_of_checkEntry {threshold : PyFloat} {now : ℚ} {entry : Json}
    {a : Accepted} (h : checkEntry rt threshold now entry = .ok (some a))
    (hregex : a.matchType = .regex) :
    validateUaRegexPattern rt.reCompile a.pattern = .ok none := by
  have hvalid := validatePattern_of_checkEntry h
  simp only [validatePattern, hregex] at hvalid
  split at hvalid
  · cases hvalid
  · split at hvalid
    · cases hvalid
    · rcases hguard : validateUaRegexPattern rt.reCompile a.pattern with error | - | message
      · simp [hguard, Except.map] at hvalid
      · rfl
      · simp [hguard, Except.map] at hvalid

/-- The composite rules a document brings have a guarded user-agent part. -/
def GuardedComposites (rt : FeedRuntime) (sync : Sync) (document : Json) : Prop :=
  ∀ entries, feedEntries document = .ok entries → ∀ entry ∈ entries, ∀ a,
    checkEntry rt sync.threshold sync.now entry = .ok (some a) → a.ruleType = .composite →
      Guarded rt.reCompile a.toCriterion

theorem guarded_of_checkEntry {threshold : PyFloat} {now : ℚ} {entry : Json} {a : Accepted}
    (h : checkEntry rt threshold now entry = .ok (some a))
    (hcomposite : a.ruleType = .composite → Guarded rt.reCompile a.toCriterion) :
    Guarded rt.reCompile a.toCriterion := by
  by_cases hrule : a.ruleType = .composite
  · exact hcomposite hrule
  · exact guarded_of_ne_composite hrule fun _ hregex ↦
      validateUaRegexPattern_of_checkEntry h hregex

variable {P : Criterion → Prop}

/-- A turn of the loop keeps a property that the entry has if it is accepted. -/
theorem holds_syncStep {entry : Json} {s s' : SyncState} (h : s.tables.db.Holds P)
    (hentry : ∀ a, checkEntry rt sync.threshold sync.now entry = .ok (some a) → P a.toCriterion)
    (hstep : syncStep rt sync entry s = .ok s') : s'.tables.db.Holds P := by
  rw [syncStep] at hstep
  rcases hcheck : checkEntry rt sync.threshold sync.now entry with error | - | a
  · simp [hcheck, bind, Except.bind] at hstep
  · simp only [hcheck, bind, Except.bind, pure, Except.pure, Except.ok.injEq] at hstep
    exact hstep ▸ h
  · rw [hcheck] at hstep
    change acceptEntry rt sync a s = .ok s' at hstep
    rw [acceptEntry] at hstep
    split at hstep
    · rw [Except.ok.injEq] at hstep
      have hwritten := holds_syncEntry (P := P) sync.quarantineAllowRules sync.now
        (e := a.entry sync s) (hentry a hcheck) _ h
      rw [← hstep]
      simp only [SyncState.write, writeEntry, FeedTables.setStats]
      split
      · exact hwritten
      · exact hwritten
    · cases hstep

theorem holds_syncEntries {entries : List Json} {s : SyncState} (h : s.tables.db.Holds P)
    (hentries : ∀ entry ∈ entries, ∀ a,
      checkEntry rt sync.threshold sync.now entry = .ok (some a) → P a.toCriterion) :
    (syncEntries rt sync entries s).1.tables.db.Holds P := by
  induction entries generalizing s with
  | nil => exact h
  | cons entry entries ih =>
    rw [syncEntries]
    split
    · exact h
    · rename_i hstep
      exact ih (holds_syncStep h (hentries entry (List.mem_cons_self ..)) hstep) fun entry hentry ↦
        hentries entry (List.mem_cons_of_mem _ hentry)

/-- **A feed sync**, whether it ends or raises, keeps a property of the entries it accepts. -/
theorem holds_feed {document : Json} {tables : FeedTables} (h : tables.db.Holds P)
    (hentries : ∀ entries, feedEntries document = .ok entries → ∀ entry ∈ entries, ∀ a,
      checkEntry rt sync.threshold sync.now entry = .ok (some a) → P a.toCriterion) :
    (ThreatFeed.syncFeed rt sync document tables).1.db.Holds P := by
  rw [ThreatFeed.syncFeed]
  split
  swap
  · exact h
  rw [syncRead]
  rcases hdocument : feedEntries document with error | entries
  · exact h
  · have hloop : (syncEntries rt sync entries (.start tables)).1.tables.db.Holds P :=
      holds_syncEntries h (hentries entries hdocument)
    simp only
    rcases hsync : syncEntries rt sync entries (.start tables) with ⟨s, - | error⟩
    · rw [hsync] at hloop
      exact holds_andThen (holds_deactivateUnseenBlockRules s.seen _ hloop)
        (holds_deactivateUnseenAllowRules s.seen)
    · rw [hsync] at hloop
      exact hloop

end Feed

/-! ### Runs -/

/-- What can happen to the rules of a deployment. -/
inductive RuleEvent
  /-- A plain save, a command, a task, an admin action or a review; no form and no feed stands
  before what it brings. -/
  | operation (op : RuleOp)
  /-- The admin form of a block rule. -/
  | adminBlockRule (r : BlockRule)
  /-- The admin form of an allow rule. -/
  | adminAllowRule (r : AllowRule)
  /-- A sync of the feed over rows with some statistics, whose saves run some number of handlers. -/
  | feed (sync : Sync) (document : Json) (blockStats allowStats : Uuid → FeedStats) (signals : ℕ)
  | detectors (traffic : Traffic) (window : Option ℤ) (dryRun : Bool)
  | load

variable (cf : Conf) (dc : DetectorConf) (fresh : Db → Uuid) (rt : FeedRuntime)

/-- The deployment after an event. -/
def RuleEvent.apply (env : Env) (w : World) : RuleEvent → World
  | .operation op => op.apply cf env w
  | .adminBlockRule r =>
    w.write cf (adminSave rt.reCompile r.toCriterion (saveBlockRule r) w.db)
  | .adminAllowRule r =>
    w.write cf (adminSave rt.reCompile r.toCriterion (saveAllowRule r) w.db)
  | .feed sync document blockStats allowStats signals =>
    w.write cf ⟨(ThreatFeed.syncFeed rt sync document ⟨w.db, blockStats, allowStats⟩).1.db, signals⟩
  | .detectors traffic window dryRun =>
    (runAllDetectors cf dc fresh env traffic window dryRun w).2
  | .load => (tryLoadRuleCache cf env w).2

/-- **What nothing checks is guarded**: the rules of plain saves and imports, and the composite
rules of forms and feeds. -/
def RuleEvent.BringsGuarded : RuleEvent → Prop
  | .operation op => op.Brings (Guarded rt.reCompile)
  | .adminBlockRule r => r.ruleType = .composite → Guarded rt.reCompile r.toCriterion
  | .adminAllowRule r => r.ruleType = .composite → Guarded rt.reCompile r.toCriterion
  | .feed sync document _ _ _ => GuardedComposites rt sync document
  | .detectors _ _ _ | .load => True

/-- The step of an event, with what its call finds around it. -/
def RuleStep (w : World) (e : Env × RuleEvent) (w' : World) : Prop :=
  e.2.apply cf dc fresh rt e.1 w = w'

variable {cf dc fresh rt}

/-- **An event keeps the rules guarded**, in the tables and in every copy. -/
theorem World.Holds.event {w : World} {env : Env} {e : RuleEvent} (he : e.BringsGuarded rt)
    (h : w.Holds (Guarded rt.reCompile)) :
    (e.apply cf dc fresh rt env w).Holds (Guarded rt.reCompile) := by
  have hplain : ∀ c : Criterion, c.matchType ≠ .regex → Guarded rt.reCompile c :=
    fun _ ↦ guarded_of_ne_regex
  cases e with
  | operation op => exact h.operation hplain he
  | adminBlockRule r => exact h.write (holds_adminSave he holds_saveBlockRule _ h.db)
  | adminAllowRule r => exact h.write (holds_adminSave he holds_saveAllowRule _ h.db)
  | feed sync document blockStats allowStats signals =>
    refine h.write (holds_feed h.db fun entries hentries entry hentry a ha ↦ ?_)
    exact guarded_of_checkEntry ha (he entries hentries entry hentry a ha)
  | detectors traffic window dryRun => exact holds_runAllDetectors hplain dc traffic window h
  | load => exact h.tryLoad env

/-- **Every rule is guarded in every state of a run** whose events bring nothing unguarded past
those checks: each row of the two tables, and each rule the next load hands to a worker. -/
theorem rules_guarded {db : Db} (hdb : db.Holds (Guarded rt.reCompile)) {w : World}
    {es : List (Env × RuleEvent)}
    (hrun : Run (fun w e w' ↦ RuleStep cf dc fresh rt w e w' ∧ e.2.BringsGuarded rt)
      (World.start db) es w) :
    w.db.Holds (Guarded rt.reCompile) ∧
      ∀ env, (loadRuleCache env w).1.toRuleSet.Holds (Guarded rt.reCompile) := by
  have hw : w.Holds (Guarded rt.reCompile) := by
    refine Run.invariant (P := fun _ w ↦ w.Holds (Guarded rt.reCompile)) hdb.start ?_ hrun
    rintro es w w' e - h ⟨rfl, he⟩
    exact h.event he
  exact ⟨hw.db, fun env ↦ (hw.load env).1⟩

/-! #### Runs of one step -/

/-- A rule of an administrator, as a form or a save brings it. -/
def adminRule (c : Criterion) : BlockRule where
  toCriterion := c
  id := 1
  name := ""
  action := .block
  priority := 100
  isActive := true
  source := .admin
  expiresAt := none
  reviewStatus := .notApplicable
  reviewedAt := none
  detectors := ""
  createdAt := 0

/-- A rule of an import file. -/
def importEntry (c : Criterion) : ImportBlockEntry :=
  { toCriterion := c, name := "", action := .block, priority := none, isActive := none,
    expiresAt := none, reviewStatus := none, freshId := 1 }

/-- A fresh deployment after one event. -/
def afterEvent (e : RuleEvent) : World :=
  e.apply plainConf .defaults (fun _ ↦ 1) .plain (Env.plain 0) (World.start ⟨[], []⟩)

/-- After a save that the guard let pass, a load returns guarded rules. -/
theorem rules_guarded_after_save :
    (loadRuleCache (Env.plain 10) (afterEvent
      (.adminBlockRule (adminRule ⟨.ua, .regex, "curl/.*"⟩)))).1.toRuleSet.Holds
        (Guarded FeedRuntime.plain.reCompile) := by
  have hempty : (⟨[], []⟩ : Db).Holds (Guarded FeedRuntime.plain.reCompile) :=
    ⟨fun _ hr ↦ absurd hr List.not_mem_nil, fun _ hr ↦ absurd hr List.not_mem_nil⟩
  have hrun : Run (fun w e w' ↦ RuleStep plainConf .defaults (fun _ ↦ 1) .plain w e w' ∧
      e.2.BringsGuarded .plain) (World.start ⟨[], []⟩)
      ([] ++ [(Env.plain 0, .adminBlockRule (adminRule ⟨.ua, .regex, "curl/.*"⟩))])
      (afterEvent (.adminBlockRule (adminRule ⟨.ua, .regex, "curl/.*"⟩))) :=
    .snoc .nil ⟨rfl, RuleType.noConfusion⟩
  exact (rules_guarded hempty hrun).2 (Env.plain 10)

/-- The guard accepts no nested quantifier. -/
theorem validateUaRegexPattern_of_nestedQuantifier {reCompile : String → Compiled} {p : String}
    (h : nestedQuantifier p = true) : validateUaRegexPattern reCompile p ≠ .ok none := by
  rw [validateUaRegexPattern]
  split
  · simp
  · split
    · simp
    · split
      · simp
      · simp
      · simp

/-- A run of this one event leaves a load a rule the guard has not accepted. -/
def LeavesUnguarded (e : RuleEvent) : Prop :=
  ∃ w, Run (RuleStep plainConf .defaults (fun _ ↦ 1) .plain) (World.start ⟨[], []⟩)
    [(Env.plain 0, e)] w ∧
      ¬ (loadRuleCache (Env.plain 10) w).1.toRuleSet.Holds (Guarded FeedRuntime.plain.reCompile)

theorem leavesUnguarded {e : RuleEvent} {c : CachedBlockRule} {p : String}
    (hc : c ∈ (loadRuleCache (Env.plain 10) (afterEvent e)).1.blockRules)
    (hp : c.uaRegex? = some p) (h : nestedQuantifier p = true) : LeavesUnguarded e := by
  refine ⟨afterEvent e, .snoc .nil rfl, fun hholds ↦ ?_⟩
  exact validateUaRegexPattern_of_nestedQuantifier h (hholds.block c hc p hp)

/-- **Three ways past the guard**: a plain save, an import, and a composite rule in the admin
form. -/
theorem rules_not_guarded :
    LeavesUnguarded (.operation (.signalled (.saveBlockRule (adminRule ⟨.ua, .regex, "(a+)+"⟩)))) ∧
    LeavesUnguarded (.operation (.signalled (.importRules true false
      [importEntry ⟨.ua, .regex, "(a+)+"⟩] []))) ∧
    LeavesUnguarded (.adminBlockRule
      (adminRule ⟨.composite, .regex, "(a+)+||192.0.2.0/24"⟩)) := by
  have hexpr : nestedQuantifier "(a+)+" = true := by decide
  refine ⟨leavesUnguarded (c := (adminRule ⟨.ua, .regex, "(a+)+"⟩).toCached) ?_ rfl hexpr,
    leavesUnguarded (c := ((importEntry ⟨.ua, .regex, "(a+)+"⟩).toRow 0).toCached) ?_ rfl hexpr,
    leavesUnguarded (c := (adminRule ⟨.composite, .regex, "(a+)+||192.0.2.0/24"⟩).toCached) ?_ ?_
      hexpr⟩
  · decide
  · decide
  · decide
  · decide

end DjangoWaf
