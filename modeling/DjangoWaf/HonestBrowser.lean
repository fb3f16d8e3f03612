import DjangoWaf.HonestVisit
import DjangoWaf.TokenBinding

/-!
# Honest browsers and Redis outages

Two results on honest visits.

* `redis_outages_block_iff`: with Redis up or down at either moment, a visit is not blocked unless
  its token is refused, its puzzle is lost, or the block threshold is reached by nothing at all. A
  token is refused **when Redis was down for the render and is back for the submission**: every step
  fails open by itself, but the marker that was never written counts as one that was spent. A puzzle
  is lost, with no render token, when the browser reads another nonce out of the unescaped input
  than out of the script.
* `honest_browser_passes_iff`: with Redis up, the visit passes with a score of zero unless the
  identifier of the user holds the delimiter of the token.
-/

namespace DjangoWaf

open PyBytes IsoDatetime

namespace HonestVisit

variable {cf : FormConf} {fp : FormProtection} (v : HonestVisit cf fp)

/-- The scripts of the page find the counter. -/
def ScriptsSolved : Prop :=
  ∀ f ∈ v.shown, ∀ s ∈ f.scripts, s.SolvedBy v.browser cf.toSigning v.counter

/-- What the solver finds solves the puzzle, for a difficulty that a digest can have. -/
theorem solved_of_scriptsSolved (henabled : cf.enabled = true)
    (hnonneg : 0 ≤ PowGateDefence.difficulty cf fp.perFormConfig)
    (hle : PowGateDefence.difficulty cf fp.perFormConfig ≤ 256) (h : v.ScriptsSolved) :
    v.Solved := by
  intro hpow
  have hdifficulty : PowGateDefence.difficulty cf
      (fp.configFor (fp.tokenNonce cf v.req v.renderTime v.nonce)) =
        PowGateDefence.difficulty cf fp.perFormConfig := by
    rcases fp.tokenNonce cf v.req v.renderTime v.nonce with - | n
    · rfl
    · rfl
  obtain ⟨f, hf, hscript⟩ : ∃ f ∈ v.shown,
      Script.solvePow PowGateDefence.nonceField v.pageNonce
        (PowGateDefence.difficulty cf fp.perFormConfig) ∈ f.scripts := by
    rw [← hdifficulty]
    refine ⟨_, v.shown_perm.mem_iff.2 (List.mem_map_of_mem
      ((fp.mem_renderFields cf v.req v.renderTime v.nonce henabled _).2
        (Or.inr ⟨.powGate, hpow, by decide, List.mem_singleton_self _⟩))),
      List.mem_singleton_self _⟩
  have hfinds : SolverFinds cf.toSigning (v.browser.literal v.pageNonce)
      (PowGateDefence.difficulty cf fp.perFormConfig).toNat v.counter := h f hf _ hscript
  have hverify := hfinds.verifyNonce (Int.toNat_le.2 hle)
  rw [Int.toNat_of_nonneg hnonneg] at hverify
  exact hverify

end HonestVisit

/-- **When an honest browser passes.** -/
theorem honest_browser_passes_iff {cf : FormConf} {fp : FormProtection} (v : HonestVisit cf fp)
    (hmem : .renderToken ∈ fp.defenceNames) (hform : '|' ∉ fp.formId.toList)
    (hip : '|' ∉ v.req.ip.toList) (hflag : 0 < cf.flagThreshold) (hblock : 0 < cf.blockThreshold)
    (hnonneg : 0 ≤ PowGateDefence.difficulty cf fp.perFormConfig)
    (hle : PowGateDefence.difficulty cf fp.perFormConfig ≤ 256) (hscripts : v.ScriptsSolved)
    (hup : v.renderUp = true) :
    (∃ r, fp.evaluate cf v.reads v.submitTime v.req v.data = .ok r ∧
      r.verdict = .passed ∧ r.totalScore = 0) ↔
        cf.enabled = false ∨ '|' ∉ v.req.userId.toList := by
  rcases henabled : cf.enabled with - | -
  · simp only [true_or, iff_true]
    exact ⟨⟨.passed, 0, [], none⟩, if_pos henabled, rfl, rfl⟩
  · simp only [reduceCtorEq, false_or]
    by_cases huser : '|' ∈ v.req.userId.toList
    · obtain ⟨r, hr, hblocked⟩ := v.evaluate_of_delimited henabled hmem fun h ↦ h.2.2 huser
      simp only [hr, Except.ok.injEq, exists_eq_left', hblocked, reduceCtorEq, false_and, huser,
        not_true_eq_false]
    · have hrun := (fp.renderToken_mem_runningNames v.req).2 hmem
      have hundelimited : RenderTokenDefence.Undelimited fp v.req := ⟨hform, hip, huser⟩
      have hsolved := v.solved_of_scriptsSolved henabled hnonneg hle hscripts
      have hpuzzle : ¬v.PuzzleLost := fun hlost ↦ hlost.2.1 hrun
      have hrefused : ¬v.TokenRefused := by
        rintro ⟨-, hdelimited | ⟨-, hdown, -⟩⟩
        · exact hdelimited hundelimited
        · rw [hup] at hdown
          cases hdown
      obtain ⟨r, hr, hverdict, htotal⟩ :=
        v.evaluate_of_not_tokenRefused henabled hsolved hrefused hpuzzle
      simp only [huser, not_false_eq_true, iff_true]
      refine ⟨r, hr, ?_, htotal⟩
      rw [hverdict, FormProtection.resolveVerdict_eq_passed_iff]
      exact ⟨hblock, hflag⟩

/-! ### A visit of a minute -/

/-- A minute on the contact form, under the default settings. -/
def leapVisit (req : FormRequest) (renderUp : Bool) :
    HonestVisit keyedConf (plainForm "contact") where
  req
  renderTime := leapNoon
  submitTime := leapMinute
  nonce := "00ff"
  isHex_nonce := isHex_leapNonce
  browser := .plain
  shown := ((plainForm "contact").renderFields keyedConf req leapNoon "00ff").map Prod.snd
  shown_perm := .refl _
  before := [("email", "visitor@example.org")]
  after := []
  own_apart := by decide
  pool_apart := by decide
  counter := 0
  half_le := by decide +kernel
  min_le := by decide +kernel
  le_max := by decide +kernel
  lt_ttl := by decide +kernel
  renderUp
  store := .empty
  fresh := FormStore.cell_token_empty "00ff"
  submitUp := true
  later := { FormStore.empty with
    token :=
      ((plainForm "contact").renderStore keyedConf renderUp req leapNoon "00ff" .empty).token }
  later_token := rfl
  credentials_lt := show (0 : ℤ) < 20 by decide
  signups_lt := show (0 : ℤ) < 5 by decide

/-- It has no script either. -/
theorem scriptsSolved_leapVisit (req : FormRequest) (renderUp : Bool) :
    (leapVisit req renderUp).ScriptsSolved := by
  intro f hf s hs
  obtain ⟨e, he, rfl⟩ := List.mem_map.1 hf
  rcases (FormProtection.mem_renderFields _ _ _ _ _ rfl e).1 he with ⟨-, rfl⟩ | ⟨d, hd, -, he⟩
  · exact absurd hs List.not_mem_nil
  · have hd' : d ∈ (plainForm "contact").defenceNames :=
      ((plainForm "contact").runningNames_prefix_defenceNames req).subset hd
    simp only [plainForm, List.mem_cons, List.not_mem_nil, or_false] at hd'
    rcases hd' with rfl | rfl | rfl
    · exact absurd he List.not_mem_nil
    · rw [Defence.renderFields, HoneypotDefence.renderFields] at he
      split_ifs at he
      · exact absurd he List.not_mem_nil
      · rw [List.mem_singleton.1 he] at hs
        exact absurd hs List.not_mem_nil
    · exact absurd he List.not_mem_nil

/-- A visitor passes. -/
theorem honest_browser_passes_visitor : ∃ r, (plainForm "contact").evaluate keyedConf
    (leapVisit visitor true).reads leapMinute visitor (leapVisit visitor true).data = .ok r ∧
      r.verdict = .passed ∧ r.totalScore = 0 :=
  (honest_browser_passes_iff (leapVisit visitor true) (by decide) (by decide) (by decide)
    (by decide) (by decide) (by decide) (by decide)
    (scriptsSolved_leapVisit _ _) rfl).2 (Or.inr (by decide))

/-- A user whose primary key holds the delimiter. -/
def pipedMember : FormRequest := ⟨"203.0.113.9", "Mozilla/5.0", some (some "tenant|42")⟩

/-- **A primary key with a delimiter** is never let through. -/
theorem honest_browser_passes_piped :
    ¬∀ (cf : FormConf) (fp : FormProtection) (v : HonestVisit cf fp),
      .renderToken ∈ fp.defenceNames → '|' ∉ fp.formId.toList → '|' ∉ v.req.ip.toList →
      0 < cf.flagThreshold → 0 < cf.blockThreshold →
      0 ≤ PowGateDefence.difficulty cf fp.perFormConfig →
      PowGateDefence.difficulty cf fp.perFormConfig ≤ 256 → v.ScriptsSolved →
      v.renderUp = true → v.submitUp = true →
      ∃ r, fp.evaluate cf v.reads v.submitTime v.req v.data = .ok r ∧
        r.verdict = .passed ∧ r.totalScore = 0 := by
  intro hall
  have hpasses := hall keyedConf (plainForm "contact") (leapVisit pipedMember true) (by decide)
    (by decide) (by decide) (by decide) (by decide) (by decide) (by decide)
    (scriptsSolved_leapVisit _ _) rfl rfl
  obtain ⟨r, hr, hpassed, -⟩ := hpasses
  obtain ⟨r', hr', hblocked⟩ :=
    (leapVisit pipedMember true).evaluate_of_delimited rfl (by decide) (by decide)
  obtain rfl := Except.ok.inj (hr.symm.trans hr')
  rw [hpassed] at hblocked
  cases hblocked

end DjangoWaf
