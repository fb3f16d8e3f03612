import DjangoWaf.Forms.Rendering
import DjangoWaf.MalformedTokens

/-!
# What a filled honeypot is caught by

`HoneypotDefence` picks names from a pool for each form. It **renders** a picked name without the
characters that do not belong into an attribute, and it **evaluates** under the name as it was
picked. What a filled input is caught by is therefore a matter of the names that were picked.

* On the data that `evaluate` is given, every rendered input is caught exactly when what is left of
  each picked name is a picked name too, or nothing (`catchesData_iff`).
* On a page the inputs are filled one by one, and Django keeps the last value of a name. So there
  two rendered inputs must not share a name, and no field of the form behind them may repeat one
  (`catchesPage_iff`).
* A visitor who leaves the inputs empty is never blocked, when the form's own names are not in the
  pool (`sparesPage`).
-/

namespace DjangoWaf

namespace HoneypotDefence

variable (cf : FormConf) (ctx : EvaluateContext)

/-! ### Traps -/

/-- The names of the inputs that are rendered. -/
def renderedNames : List String :=
  (renderFields cf ctx.formId ctx.config).flatMap fun e ↦ e.2.inputs.map Prod.fst

/-- The names that are picked for the form. -/
def pickedNames : List String := names cf ctx.formId ctx.config

/-- The pool they are picked from. -/
def poolOf : List String := ctx.config.fieldNames.getD cf.honeypotFieldNames

/-- The outcome for some data. -/
def evaluateOn (data : Submitted) : Outcome := evaluate cf { ctx with submittedData := data }

variable {cf ctx}

theorem renderedNames_eq :
    renderedNames cf ctx = ((pickedNames cf ctx).map (safeName cf)).filter (· ≠ "") := by
  rw [renderedNames, renderFields, pickedNames]
  split_ifs with hnone
  · rw [hnone]
    rfl
  · rw [List.flatMap_singleton, List.map_map]
    exact List.map_id _

theorem mem_poolOf {name : String} (h : name ∈ pickedNames cf ctx) : name ∈ poolOf cf ctx := by
  rw [pickedNames, names, pickFieldNames, List.mem_map] at h
  obtain ⟨i, hi, rfl⟩ := h
  have hpos : 0 < (poolOf cf ctx).length :=
    (Nat.zero_le i).trans_lt ((List.mem_range.1 hi).trans_le (Nat.min_le_right _ _))
  rw [← poolOf, List.getD_eq_getElem?_getD, List.getElem?_eq_getElem (Nat.mod_lt _ hpos)]
  exact List.getElem_mem _

/-- **What is blocked**: a picked name with a value. -/
theorem evaluateOn_blocks_iff {data : Submitted} :
    (evaluateOn cf ctx data).Blocks ↔ ∃ name ∈ pickedNames cf ctx, data.text name ≠ "" := by
  constructor
  · intro hblocks
    by_contra hnone
    have hempty : ∀ name ∈ pickedNames cf ctx, data.text name = "" := by
      intro name hname
      by_contra hvalue
      exact hnone ⟨name, hname, hvalue⟩
    have hpassed : evaluateOn cf ctx data = .passed := evaluate_of_forall hempty
    rw [hpassed] at hblocks
    exact absurd hblocks (by decide)
  · intro h
    obtain ⟨reason, hblocked⟩ : ∃ reason, evaluateOn cf ctx data = .blocked reason 5 :=
      evaluate_of_exists h
    rw [hblocked]
    rfl

/-! ### The data of an evaluation -/

variable (cf ctx)

/-- **A filled trap is caught**, on the data: whatever rendered name has a value. -/
def CatchesData : Prop :=
  ∀ data : Submitted, (∃ n ∈ renderedNames cf ctx, data.text n ≠ "") →
    (evaluateOn cf ctx data).Blocks

/-- **An empty trap is not**: the rendered names have no value, and any other name is outside the
pool. -/
def SparesData : Prop :=
  ∀ data : Submitted, (∀ n ∈ renderedNames cf ctx, data.text n = "") →
    (∀ name ∈ data.map Prod.fst, name ∈ renderedNames cf ctx ∨ name ∉ poolOf cf ctx) →
    ¬(evaluateOn cf ctx data).Blocks

/-- **What is left of a picked name is a picked name**, when anything is left. -/
def LeavesPicked : Prop :=
  ∀ name ∈ pickedNames cf ctx, safeName cf name ≠ "" → safeName cf name ∈ pickedNames cf ctx

variable {cf ctx}

theorem leavesPicked_iff :
    LeavesPicked cf ctx ↔ ∀ n ∈ renderedNames cf ctx, n ∈ pickedNames cf ctx := by
  rw [renderedNames_eq, LeavesPicked]
  constructor
  · intro h n hn
    obtain ⟨hn, hne⟩ := List.mem_filter.1 hn
    obtain ⟨name, hname, rfl⟩ := List.mem_map.1 hn
    exact h name hname (of_decide_eq_true hne)
  · intro h name hname hne
    exact h _ (List.mem_filter.2 ⟨List.mem_map_of_mem hname, decide_eq_true hne⟩)

theorem text_of_not_mem {data : Submitted} {name : String} (h : name ∉ data.map Prod.fst) :
    data.text name = "" := by
  rw [Submitted.text, List.lookup_eq_none_iff.2 fun p hp ↦ ?_]
  · rfl
  · exact bne_iff_ne.2 fun heq ↦ h (List.mem_map.2 ⟨p, hp, heq.symm⟩)

theorem sparesData : SparesData cf ctx := by
  intro data hempty hother hblocks
  obtain ⟨name, hname, hvalue⟩ := evaluateOn_blocks_iff.1 hblocks
  have hmem : name ∈ data.map Prod.fst := by
    by_contra hmem
    exact hvalue (text_of_not_mem hmem)
  rcases hother name hmem with hrendered | hpool
  · exact hvalue (hempty name hrendered)
  · exact hpool (mem_poolOf hname)

/-- **Which forms catch every filled trap**, on the data. -/
theorem catchesData_iff : CatchesData cf ctx ↔ LeavesPicked cf ctx := by
  rw [leavesPicked_iff]
  constructor
  · intro h n hn
    have hvalue : Submitted.text [(n, some "x")] n ≠ "" := by
      rw [Submitted.text, List.lookup_cons_self]
      decide
    obtain ⟨name, hname, hne⟩ := evaluateOn_blocks_iff.1 (h [(n, some "x")] ⟨n, hn, hvalue⟩)
    -- the only value is that of the rendered name
    have heq : name = n := by
      by_contra hname
      exact hne (text_of_not_mem (by rw [List.map_singleton, List.mem_singleton]; exact hname))
    rw [← heq]
    exact hname
  · rintro h data ⟨n, hn, hvalue⟩
    exact evaluateOn_blocks_iff.2 ⟨n, h n hn, hvalue⟩

/-! ### The inputs of a page -/

/-- The names of the form's own fields, in front of the honeypots and behind them. -/
structure TrapPage where
  before : List String
  after : List String

/-- A submission of a page: values for fields of the form, and for each rendered input or for some
of them. -/
structure TrapPage.Filling (page : TrapPage) (traps : List String) where
  before : List (String × String)
  before_names : ∀ p ∈ before, p.1 ∈ page.before
  inputs : List (String × String)
  inputs_names : (inputs.map Prod.fst).Sublist traps
  after : List (String × String)
  after_names : ∀ p ∈ after, p.1 ∈ page.after

variable {page : TrapPage}

/-- What Django makes of it. -/
def TrapPage.Filling.data {traps : List String} (f : page.Filling traps) : Submitted :=
  (QueryDict.ofPairs (f.before ++ f.inputs ++ f.after)).dict

theorem text_ofPairs (pairs : List (String × String)) (name : String) :
    Submitted.text (QueryDict.ofPairs pairs).dict name =
      ((pairs.filter fun p ↦ p.1 = name).map Prod.snd).getLast?.getD "" := by
  rw [Submitted.text, QueryDict.lookup_dict, QueryDict.getlist_ofPairs]

/-- A name that has no value anywhere. -/
theorem text_ofPairs_of_empty {pairs : List (String × String)} {name : String}
    (h : ∀ p ∈ pairs, p.1 = name → p.2 = "") :
    Submitted.text (QueryDict.ofPairs pairs).dict name = "" := by
  rw [text_ofPairs]
  rcases hlast : ((pairs.filter fun p ↦ p.1 = name).map Prod.snd).getLast? with _ | v
  · rw [hlast]
    rfl
  · rw [hlast]
    obtain ⟨p, hp, rfl⟩ := List.mem_map.1 (List.mem_of_getLast? hlast)
    obtain ⟨hp, hname⟩ := List.mem_filter.1 hp
    exact h p hp (of_decide_eq_true hname)

/-- **The last value counts**: a name that is not repeated behind. -/
theorem text_ofPairs_last {front back : List (String × String)} {name value : String}
    (h : ∀ p ∈ back, p.1 ≠ name) :
    Submitted.text (QueryDict.ofPairs (front ++ (name, value) :: back)).dict name = value := by
  have hback : back.filter (fun p ↦ p.1 = name) = [] :=
    List.filter_eq_nil_iff.2 fun p hp hname ↦ h p hp (of_decide_eq_true hname)
  have hthis : ((name, value) :: back).filter (fun p ↦ p.1 = name) = [(name, value)] := by
    rw [List.filter_cons_of_pos (by exact decide_eq_true rfl), hback]
  rw [text_ofPairs, List.filter_append, hthis, List.map_append, List.map_singleton,
    List.getLast?_concat, Option.getD_some]

/-- What is repeated behind counts there. -/
theorem text_ofPairs_append {front back : List (String × String)} {name : String}
    (h : ∃ p ∈ back, p.1 = name) :
    Submitted.text (QueryDict.ofPairs (front ++ back)).dict name =
      Submitted.text (QueryDict.ofPairs back).dict name := by
  obtain ⟨p, hp, hname⟩ := h
  have hne : (back.filter fun p ↦ p.1 = name).map Prod.snd ≠ [] :=
    List.ne_nil_of_mem (List.mem_map_of_mem (List.mem_filter.2 ⟨hp, decide_eq_true hname⟩))
  rw [text_ofPairs, text_ofPairs, List.filter_append, List.map_append,
    List.getLast?_append_of_ne_nil _ hne]

variable (cf ctx page)

/-- **A filled trap is caught**, on the page: whatever input has a value. -/
def CatchesPage : Prop :=
  ∀ f : page.Filling (renderedNames cf ctx), (∃ p ∈ f.inputs, p.2 ≠ "") →
    (evaluateOn cf ctx f.data).Blocks

/-- **An empty trap is not.** -/
def SparesPage : Prop :=
  ∀ f : page.Filling (renderedNames cf ctx), (∀ p ∈ f.inputs, p.2 = "") →
    (∀ p ∈ f.before ++ f.after, p.1 ∉ poolOf cf ctx) → ¬(evaluateOn cf ctx f.data).Blocks

/-- **No later field hides a trap**: the rendered names differ, and no field of the form behind them
has one. -/
structure Unhidden : Prop where
  nodup : (((pickedNames cf ctx).map (safeName cf)).filter (· ≠ "")).Nodup
  after : ∀ name ∈ pickedNames cf ctx, safeName cf name ≠ "" → safeName cf name ∉ page.after

variable {cf ctx page}

theorem sparesPage : SparesPage cf ctx page := by
  intro f hempty hother hblocks
  obtain ⟨name, hname, hvalue⟩ := evaluateOn_blocks_iff.1 hblocks
  refine hvalue (text_ofPairs_of_empty fun p hp heq ↦ ?_)
  rw [List.append_assoc, List.mem_append, List.mem_append] at hp
  have hpool := mem_poolOf hname
  rcases hp with hp | hp | hp
  · exact absurd (heq ▸ hpool) (hother p (List.mem_append_left _ hp))
  · exact hempty p hp
  · exact absurd (heq ▸ hpool) (hother p (List.mem_append_right _ hp))

/-- Some inputs, left empty. -/
def emptyInputs (names : List String) : List (String × String) := names.map fun name ↦ (name, "")

theorem snd_of_mem_emptyInputs {names : List String} {p : String × String}
    (h : p ∈ emptyInputs names) : p.2 = "" := by
  obtain ⟨name, -, rfl⟩ := List.mem_map.1 h
  rfl

theorem map_fst_emptyInputs (names : List String) : (emptyInputs names).map Prod.fst = names := by
  rw [emptyInputs, List.map_map]
  exact List.map_id names

/-- One input with a value, and everything behind it empty. -/
def TrapPage.oneFilled (page : TrapPage) {traps front back : List String} {n : String}
    (hsplit : traps = front ++ n :: back) : page.Filling traps where
  before := []
  before_names := nofun
  inputs := emptyInputs front ++ (n, "x") :: emptyInputs back
  inputs_names := by
    rw [List.map_append, List.map_cons, map_fst_emptyInputs, map_fst_emptyInputs, hsplit]
  after := emptyInputs page.after
  after_names := by
    intro p hp
    have hname := List.mem_map_of_mem (f := Prod.fst) hp
    rw [map_fst_emptyInputs] at hname
    exact hname

theorem data_oneFilled {traps front back : List String} {n : String}
    (hsplit : traps = front ++ n :: back) : (page.oneFilled hsplit).data = (QueryDict.ofPairs
      (emptyInputs front ++ (n, "x") :: (emptyInputs back ++ emptyInputs page.after))).dict := by
  show (QueryDict.ofPairs ([] ++ (emptyInputs front ++ (n, "x") :: emptyInputs back) ++ _)).dict = _
  rw [List.nil_append, List.append_assoc, List.cons_append]
  rfl

/-- A trap that is caught on its own is a picked name, and not repeated behind. -/
theorem caught_of_catchesPage (h : CatchesPage cf ctx page) {front back : List String} {n : String}
    (hsplit : renderedNames cf ctx = front ++ n :: back) :
    n ∈ pickedNames cf ctx ∧ n ∉ back ∧ n ∉ page.after := by
  have hx : "x" ≠ "" := by decide
  have hblocks := h (page.oneFilled hsplit)
    ⟨(n, "x"), List.mem_append_right _ List.mem_cons_self, hx⟩
  obtain ⟨name, hname, hvalue⟩ := evaluateOn_blocks_iff.1 hblocks
  rw [data_oneFilled] at hvalue
  have hback : ∀ p ∈ emptyInputs back ++ emptyInputs page.after, p.2 = "" := by
    intro p hp
    rcases List.mem_append.1 hp with hp | hp
    · exact snd_of_mem_emptyInputs hp
    · exact snd_of_mem_emptyInputs hp
  -- the value is the input's own, so it is under its name that it is found
  have heq : name = n := by
    by_contra hne
    refine hvalue (text_ofPairs_of_empty fun p hp heq ↦ ?_)
    rcases List.mem_append.1 hp with hp | hp
    · exact snd_of_mem_emptyInputs hp
    · rcases List.mem_cons.1 hp with rfl | hp
      · exact absurd heq.symm hne
      · exact hback p hp
  subst heq
  have hlast : ∀ p ∈ emptyInputs back ++ emptyInputs page.after, p.1 ≠ name := by
    intro p hp hp_name
    rw [List.append_cons, text_ofPairs_append ⟨p, hp, hp_name⟩,
      text_ofPairs_of_empty fun p hp _ ↦ hback p hp] at hvalue
    exact hvalue rfl
  refine ⟨hname, fun hmem ↦ ?_, fun hmem ↦ ?_⟩
  · exact hlast (name, "") (List.mem_append_left _ (List.mem_map_of_mem hmem)) rfl
  · exact hlast (name, "") (List.mem_append_right _ (List.mem_map_of_mem hmem)) rfl

/-- An input that nothing behind it repeats is read with its own value. -/
theorem text_of_unhidden (hnodup : (renderedNames cf ctx).Nodup)
    (hafter : ∀ n ∈ renderedNames cf ctx, n ∉ page.after)
    (f : page.Filling (renderedNames cf ctx)) {p : String × String} (hp : p ∈ f.inputs) :
    f.data.text p.1 = p.2 := by
  obtain ⟨front, back, hinputs⟩ := List.append_of_mem hp
  have hrendered : p.1 ∈ renderedNames cf ctx := f.inputs_names.subset (List.mem_map_of_mem hp)
  have hdistinct : (f.inputs.map Prod.fst).Nodup := f.inputs_names.nodup hnodup
  rw [hinputs, List.map_append, List.map_cons, List.nodup_append, List.nodup_cons] at hdistinct
  have hdata : f.data = (QueryDict.ofPairs
      ((f.before ++ front) ++ (p.1, p.2) :: (back ++ f.after))).dict := by
    rw [TrapPage.Filling.data, hinputs, List.append_assoc, List.append_assoc, List.append_assoc,
      List.cons_append]
  rw [hdata, text_ofPairs_last]
  intro q hq heq
  rcases List.mem_append.1 hq with hq | hq
  · exact hdistinct.2.1.1 (List.mem_map.2 ⟨q, hq, heq⟩)
  · exact hafter p.1 hrendered (heq ▸ f.after_names q hq)

/-- **Which pages catch every filled trap.** -/
theorem catchesPage_iff :
    CatchesPage cf ctx page ↔ LeavesPicked cf ctx ∧ Unhidden cf ctx page := by
  have hmem : ∀ n, n ∈ renderedNames cf ctx ↔
      ∃ name ∈ pickedNames cf ctx, safeName cf name ≠ "" ∧ safeName cf name = n := by
    intro n
    rw [renderedNames_eq, List.mem_filter, List.mem_map, decide_eq_true_eq]
    constructor
    · rintro ⟨⟨name, hname, rfl⟩, hne⟩
      exact ⟨name, hname, hne, rfl⟩
    · rintro ⟨name, hname, hne, rfl⟩
      exact ⟨⟨name, hname, rfl⟩, hne⟩
  constructor
  · intro h
    refine ⟨leavesPicked_iff.2 fun n hn ↦ ?_, ?_, fun name hname hne ↦ ?_⟩
    · obtain ⟨front, back, hsplit⟩ := List.append_of_mem hn
      exact (caught_of_catchesPage h hsplit).1
    · rw [← renderedNames_eq]
      have hsuffix : ∀ back front, renderedNames cf ctx = front ++ back → back.Nodup := by
        intro back
        induction back with
        | nil => exact fun _ _ ↦ List.nodup_nil
        | cons n back ih =>
          intro front hsplit
          refine List.nodup_cons.2 ⟨(caught_of_catchesPage h hsplit).2.1, ?_⟩
          exact ih (front ++ [n]) (hsplit.trans (List.append_cons front n back))
      exact hsuffix _ [] rfl
    · obtain ⟨front, back, hsplit⟩ := List.append_of_mem ((hmem _).2 ⟨name, hname, hne, rfl⟩)
      exact (caught_of_catchesPage h hsplit).2.2
  · rintro ⟨hpicked, hnodup, hafter⟩ f ⟨p, hp, hvalue⟩
    rw [← renderedNames_eq] at hnodup
    have hafter' : ∀ n ∈ renderedNames cf ctx, n ∉ page.after := by
      intro n hn
      obtain ⟨name, hname, hne, rfl⟩ := (hmem n).1 hn
      exact hafter name hname hne
    have hrendered : p.1 ∈ renderedNames cf ctx := f.inputs_names.subset (List.mem_map_of_mem hp)
    refine evaluateOn_blocks_iff.2 ⟨p.1, leavesPicked_iff.1 hpicked _ hrendered, ?_⟩
    rw [text_of_unhidden hnodup hafter' f hp]
    exact hvalue

/-! ### The theorem -/

/-- **What a filled trap is caught by.** For every form, request and pool: the data with a value for
a rendered input are blocked, and data without one are not, exactly when every picked name leaves a
picked name or nothing; and on a page with fields of its own, exactly when also the rendered names
differ and no field behind them has one of them. -/
theorem honeypot_catches_iff (cf : FormConf) (ctx : EvaluateContext) (page : TrapPage) :
    (CatchesData cf ctx ∧ SparesData cf ctx ↔ LeavesPicked cf ctx) ∧
      (CatchesPage cf ctx page ∧ SparesPage cf ctx page ↔
        LeavesPicked cf ctx ∧ Unhidden cf ctx page) := by
  refine ⟨?_, ?_⟩
  · rw [and_iff_left sparesData]
    exact catchesData_iff
  · rw [and_iff_left sparesPage]
    exact catchesPage_iff

/-- From a pool of one name that name is picked, whatever the hash. -/
theorem pickFieldNames_singleton (k : Signing) (formId name : String) (count : ℕ) :
    pickFieldNames k formId [name] (count + 1) = [name] := by
  simp [pickFieldNames, Nat.mod_one]

/-- A form that draws its honeypots from a pool of its own. -/
def pooledContext (pool : List String) (data : Submitted) : EvaluateContext where
  formId := "contact"
  request := plainFormRequest
  submittedData := data
  config := { DefenceConfig.empty with fieldNames := some pool }
  tokenPayload := none

/-- **A trap that catches nothing.** The pool has one name with a blank in it; the input is rendered
without the blank, and a bot that fills it passes. -/
theorem filled_trap_passes :
    renderedNames keyedConf (pooledContext ["user email"] []) = ["useremail"] ∧
      evaluate keyedConf (pooledContext ["user email"] [("useremail", some "spam")]) = .passed ∧
      ¬CatchesData keyedConf (pooledContext ["user email"] []) := by
  have hpicked : ∀ data, pickedNames keyedConf (pooledContext ["user email"] data) =
      ["user email"] := fun _ ↦ pickFieldNames_singleton _ _ _ 1
  have hrendered : renderedNames keyedConf (pooledContext ["user email"] []) = ["useremail"] := by
    rw [renderedNames_eq, hpicked]
    decide
  have hpasses : ∀ data : Submitted, data.text "user email" = "" →
      evaluate keyedConf (pooledContext ["user email"] data) = .passed := by
    intro data hdata
    refine evaluate_of_forall fun name hname ↦ ?_
    change name ∈ pickedNames keyedConf (pooledContext ["user email"] data) at hname
    rw [hpicked, List.mem_singleton] at hname
    rw [hname]
    exact hdata
  refine ⟨hrendered, hpasses _ (by decide), fun h ↦ ?_⟩
  have hleft := leavesPicked_iff.1 (catchesData_iff.1 h) "useremail"
    (by rw [hrendered]; exact List.mem_singleton_self _)
  rw [hpicked] at hleft
  exact absurd hleft (by decide)

end HoneypotDefence

end DjangoWaf
