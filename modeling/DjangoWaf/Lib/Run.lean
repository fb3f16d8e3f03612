import Mathlib.Algebra.Order.Ring.Nat
import Mathlib.Data.List.Basic

/-!
# Runs of a labelled transition system

`Run step s es t`: from `s`, steps labelled `es` in order lead to `t`. Runs grow at the end, so an
induction over a run extends its history by one label, and a fact about the state reached can be
stated against everything that happened before it.

* `Run.invariant` is the rule for such facts: it holds of the empty history and every step preserves
  it, so it holds of every history and the state it leads to.
* `Run.and_imp` and `Run.and_iff` exchange one condition on the steps of a run for another that
  follows from it, or agrees with it, under an invariant.
* `Run.measure_eq` adds up what the steps of a run add to a quantity.
* `Run.of_foldlM` reads a run off the evaluation of a partial function.
* `Run.at_label` cuts a run at one of its labels, so what the invariant says of the state before a
  step applies to every step of a run.
-/

variable {S E : Type*} {step : S → E → S → Prop}

/-- Steps with the given labels lead from one state to another. -/
inductive Run (step : S → E → S → Prop) (s : S) : List E → S → Prop
  | nil : Run step s [] s
  | snoc {t u : S} {es : List E} {e : E} : Run step s es t → step t e u → Run step s (es ++ [e]) u

/-- Where a label of an extended history stands: it is the last one, or in the history before. -/
theorem concat_eq_append_cons {es pre post : List E} {e e' : E}
    (h : es ++ [e] = pre ++ e' :: post) :
    (pre = es ∧ e' = e ∧ post = []) ∨ ∃ post', post = post' ++ [e] ∧ es = pre ++ e' :: post' := by
  rcases List.eq_nil_or_concat post with rfl | ⟨post', last, rfl⟩
  · obtain ⟨hpre, he⟩ := List.append_inj' h rfl
    exact Or.inl ⟨hpre.symm, (List.cons.inj he).1.symm, rfl⟩
  · have hcat : es ++ [e] = (pre ++ e' :: post') ++ [last] := by
      rw [h]
      simp
    obtain ⟨hes, he⟩ := List.append_inj' hcat rfl
    exact Or.inr ⟨post', by rw [(List.cons.inj he).1]; simp, hes⟩

namespace Run

/-- **The invariant rule**, for a fact that relates the state reached to the history of the run. -/
theorem invariant {s : S} {P : List E → S → Prop} (hinit : P [] s)
    (hstep : ∀ {es : List E} {t u : S} {e : E}, Run step s es t → P es t → step t e u →
      P (es ++ [e]) u) :
    ∀ {es : List E} {t : S}, Run step s es t → P es t
  | _, _, .nil => hinit
  | _, _, .snoc h he => hstep h (invariant hinit hstep h) he

/-- **The conservation rule**: where every step from a state of an invariant keeps it, and changes a
quantity by what its label adds, a run changes the quantity by the sum. -/
theorem measure_eq {I : S → Prop} {μ : S → ℕ} {added : E → ℕ} {s t : S} {es : List E} (hinit : I s)
    (hstep : ∀ {t e u}, I t → step t e u → I u ∧ μ u = μ t + added e) (h : Run step s es t) :
    I t ∧ μ t = μ s + (es.map added).sum := by
  induction h with
  | nil => exact ⟨hinit, rfl⟩
  | snoc _ he ih =>
    obtain ⟨hI, hμ⟩ := ih
    obtain ⟨hI', hμ'⟩ := hstep hI he
    refine ⟨hI', ?_⟩
    rw [hμ', hμ, List.map_append, List.sum_append, List.map_singleton, List.sum_singleton,
      Nat.add_assoc]

/-- Runs compose. -/
theorem append {s t u : S} {es es' : List E} (h : Run step s es t) (h' : Run step t es' u) :
    Run step s (es ++ es') u := by
  induction h' with
  | nil => rwa [List.append_nil]
  | snoc _ he ih =>
    rw [← List.append_assoc]
    exact .snoc ih he

/-- Runs of a system are runs of any system that takes its steps. -/
theorem imp {step' : S → E → S → Prop} (himp : ∀ {s e t}, step s e t → step' s e t) {s t : S}
    {es : List E} (h : Run step s es t) : Run step' s es t := by
  induction h with
  | nil => exact .nil
  | snoc _ he ih => exact .snoc ih (himp he)

/-- **A condition on the steps of a run** that keeps an invariant, and gives another condition on
the states of the invariant: every step of the run meets that one too. -/
theorem and_imp {I : S → Prop} {P Q : S → E → S → Prop} {s t : S} {es : List E} (hinit : I s)
    (hstep : ∀ {t e u}, I t → step t e u → P t e u → I u)
    (himp : ∀ {t e u}, I t → step t e u → P t e u → Q t e u)
    (hrun : Run (fun t e u ↦ step t e u ∧ P t e u) s es t) :
    I t ∧ Run (fun t e u ↦ step t e u ∧ Q t e u) s es t := by
  induction hrun with
  | nil => exact ⟨hinit, .nil⟩
  | snoc _ he ih =>
    obtain ⟨hI, hrun⟩ := ih
    exact ⟨hstep hI he.1 he.2, .snoc hrun ⟨he.1, himp hI he.1 he.2⟩⟩

/-- **Conditions on the steps of a run** that agree on the states of an invariant: one holds at
every step exactly when the other does. -/
theorem and_iff {I : S → Prop} {P Q : S → E → S → Prop} {s t : S} {es : List E} (hinit : I s)
    (hstep : ∀ {t e u}, I t → step t e u → I u)
    (hiff : ∀ {t e u}, I t → step t e u → (P t e u ↔ Q t e u)) :
    Run (fun t e u ↦ step t e u ∧ P t e u) s es t ↔
      Run (fun t e u ↦ step t e u ∧ Q t e u) s es t := by
  constructor
  · exact fun hrun ↦ (and_imp hinit (fun hI he _ ↦ hstep hI he) (fun hI he ↦ (hiff hI he).1) hrun).2
  · exact fun hrun ↦ (and_imp hinit (fun hI he _ ↦ hstep hI he) (fun hI he ↦ (hiff hI he).2) hrun).2

/-- A run of a partial function, from its evaluation. -/
theorem of_foldlM {next : S → E → Option S} {s t : S} {es : List E}
    (h : es.foldlM next s = some t) : Run (fun s e t ↦ next s e = some t) s es t := by
  induction es generalizing s with
  | nil =>
    obtain rfl := Option.some.inj h
    exact .nil
  | cons e es ih =>
    obtain ⟨u, hu, h⟩ := Option.bind_eq_some_iff.1 h
    have hfirst : Run (fun s e t ↦ next s e = some t) s ([] ++ [e]) u := .snoc .nil hu
    exact hfirst.append (ih h)

/-- A run can be cut before any of its labels. -/
theorem at_label {s t : S} {pre post : List E} {e : E} (h : Run step s (pre ++ e :: post) t) :
    ∃ u v, Run step s pre u ∧ step u e v := by
  generalize hes : pre ++ e :: post = es at h
  induction h generalizing post with
  | nil => exact absurd hes (by simp)
  | snoc hrun he ih =>
    rcases concat_eq_append_cons hes.symm with ⟨rfl, rfl, -⟩ | ⟨post', -, hes'⟩
    · exact ⟨_, _, hrun, he⟩
    · exact ih hes'.symm

end Run
