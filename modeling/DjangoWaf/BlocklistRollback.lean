import DjangoWaf.Services.BlocklistActivation

/-!
# When an activation is all or nothing

After an activation the destination should hold the previous file, where the test command was run
and did not succeed, and the candidate otherwise; nothing else of the activation should be left.

`_validate_nginx_config` handles an exit status, a timeout, a missing binary and an `OSError`. It
misses the exception its own `text=True` brings: output that does not decode. The candidate is in
place by then, and the copy beside it, and both stay, **whatever the command said of the
candidate**. So an activation is all or nothing exactly when the output decodes, or when nothing is
missed: the command accepted the candidate and there was no previous file to copy
(`activation_allOrNothing_iff`).

Where every output decodes, the destination is, over a whole run of activations, a **register**: a
command that failed leaves it, and any other writes its candidate (`dest_runActivations`).
-/

namespace DjangoWaf

/-! ### All or nothing -/

/-- The command was run, and did not succeed: it exited with another status than 0, took too long,
or ended in an error of the system. A binary that is missing was not run. -/
def CommandOutcome.failed : CommandOutcome → Bool
  | .exited returncode _ _ => returncode ≠ 0
  | .timedOut | .osError => true
  | .notFound => false

/-- The command accepted the candidate. -/
def CommandOutcome.accepted : CommandOutcome → Bool
  | .exited returncode _ _ => returncode = 0
  | .timedOut | .osError | .notFound => false

/-- What the command printed decodes; one that did not end by itself printed nothing to decode. -/
def CommandOutcome.decodes (decode : List UInt8 → Option String) : CommandOutcome → Bool
  | .exited _ stdout stderr => (decode stdout).isSome && (decode stderr).isSome
  | .timedOut | .osError | .notFound => true

/-- **All or nothing**, of an activation and how it ended. -/
structure Activation.AllOrNothing (a : Activation) (outcome : CommandOutcome)
    (ended : Except ActivationError Unit × Files) : Prop where
  /-- The destination holds the previous file, or none, where the command failed, and the candidate
  otherwise. -/
  dest : ended.2 a.dest = if outcome.failed then a.files a.dest else some a.candidate
  /-- The temporary file is gone. -/
  tmpPath : ended.2 a.tmpPath = none
  /-- A `.last-good` that is there was there before, and this call copied nothing. -/
  lastGood : ended.2 a.lastGood ≠ none →
    a.files a.dest = none ∧ ended.2 a.lastGood = a.files a.lastGood
  /-- An exception leaves no candidate in place that the command did not accept. -/
  raised : ∀ e, ended.1 = .error e → ended.2 a.dest = some a.candidate → outcome.accepted = true

variable {decode : List UInt8 → Option String} {outcome : CommandOutcome}

/-- The validation of an output that decodes says what the command did. -/
theorem validateNginxConfig_of_decodes (h : outcome.decodes decode = true) :
    validateNginxConfig decode outcome = .ok (some false) ∧ outcome.failed = true ∨
      (validateNginxConfig decode outcome = .ok (some true) ∨
        validateNginxConfig decode outcome = .ok none) ∧ outcome.failed = false := by
  rcases outcome with ⟨returncode, stdout, stderr⟩ | - | - | -
  · obtain ⟨hout, herr⟩ := Bool.and_eq_true_iff.1 h
    obtain ⟨out, hout⟩ := Option.isSome_iff_exists.1 hout
    obtain ⟨err, herr⟩ := Option.isSome_iff_exists.1 herr
    have hrun : validateNginxConfig decode (.exited returncode stdout stderr) =
        .ok (some (returncode = 0)) := by
      rw [validateNginxConfig, hout, herr]
    rcases eq_or_ne returncode 0 with h0 | h0
    · refine Or.inr ⟨Or.inl (hrun.trans ?_), ?_⟩
      · rw [decide_eq_true h0]
      · exact decide_eq_false (not_not.2 h0)
    · refine Or.inl ⟨hrun.trans ?_, decide_eq_true h0⟩
      rw [decide_eq_false h0]
  · exact Or.inl ⟨rfl, rfl⟩
  · exact Or.inr ⟨Or.inr rfl, rfl⟩
  · exact Or.inl ⟨rfl, rfl⟩

/-- Output that does not decode raises, and comes from a command that exited. -/
theorem validateNginxConfig_of_not_decodes (h : outcome.decodes decode = false) :
    validateNginxConfig decode outcome = .error .unicodeDecodeError ∧
      outcome.failed = !outcome.accepted := by
  rcases outcome with ⟨returncode, stdout, stderr⟩ | - | - | -
  · refine ⟨?_, (decide_not).trans rfl⟩
    rw [CommandOutcome.decodes] at h
    rw [validateNginxConfig]
    rcases hout : decode stdout with - | out
    · rfl
    · rcases herr : decode stderr with - | err
      · rfl
      · rw [hout, herr] at h
        cases h
  · cases h
  · cases h
  · cases h

/-- **Where the output decodes**, the destination holds what it should, and no copy of this call is
left. -/
theorem activateCandidate_of_decodes (a : Activation) (h : outcome.decodes decode = true) :
    activateCandidate true decode outcome a =
      (.ok (), a.leaving (if outcome.failed then a.files a.dest else some a.candidate)
        a.sparedLastGood) := by
  rw [activateCandidate_eq]
  rcases validateNginxConfig_of_decodes h with ⟨hrun, hfailed⟩ | ⟨hrun | hrun, hfailed⟩
  · rw [hrun, hfailed, if_pos rfl]
  · rw [hrun, hfailed, if_neg Bool.false_ne_true]
  · rw [hrun, hfailed, if_neg Bool.false_ne_true]

/-- **Where it does not**, the candidate stays, and the copy too. -/
theorem activateCandidate_of_not_decodes (a : Activation) (h : outcome.decodes decode = false) :
    activateCandidate true decode outcome a = (.error .unicodeDecodeError,
      a.leaving (some a.candidate) ((a.files a.dest).or (a.files a.lastGood))) := by
  rw [activateCandidate_eq, (validateNginxConfig_of_not_decodes h).1]

/-- A copy that was spared was there before. -/
theorem Activation.sparedLastGood_cases (a : Activation) (h : a.sparedLastGood ≠ none) :
    a.files a.dest = none ∧ a.sparedLastGood = a.files a.lastGood := by
  rw [sparedLastGood] at h ⊢
  rcases hprev : a.files a.dest with - | previous
  · exact ⟨rfl, rfl⟩
  · rw [hprev] at h
    exact absurd rfl h

/-- **An activation is all or nothing exactly when** what the command printed decodes, or the
command accepted the candidate and there was no previous file. -/
theorem activation_allOrNothing_iff (decode : List UInt8 → Option String) (outcome : CommandOutcome)
    (a : Activation) :
    a.AllOrNothing outcome (activateCandidate true decode outcome a) ↔
      outcome.decodes decode = true ∨ outcome.accepted = true ∧ a.files a.dest = none := by
  rcases hdec : outcome.decodes decode with - | -
  · have hfailed := (validateNginxConfig_of_not_decodes hdec).2
    rw [activateCandidate_of_not_decodes a hdec]
    constructor
    · intro h
      have hdest : some a.candidate = _ := Activation.leaving_dest.symm.trans h.dest
      have hlast := h.lastGood
      rw [hfailed] at hdest
      change a.leaving _ _ a.lastGood ≠ none → _ at hlast
      rw [Activation.leaving_lastGood] at hlast
      rcases hprev : a.files a.dest with - | previous
      · rw [hprev] at hdest
        rcases hacc : outcome.accepted with - | -
        · rw [hacc] at hdest
          cases hdest
        · exact Or.inr ⟨rfl, rfl⟩
      · -- the copy of the previous file is still there
        rw [hprev] at hlast
        cases (hlast (Option.some_ne_none previous)).1
    · rintro (hdec' | ⟨hacc, hprev⟩)
      · cases hdec'
      · refine ⟨?_, Activation.leaving_tmpPath, fun _ ↦ ⟨hprev, ?_⟩, fun _ _ _ ↦ hacc⟩
        · refine Activation.leaving_dest.trans ?_
          rw [hfailed, hacc]
          rfl
        · refine Activation.leaving_lastGood.trans ?_
          rw [hprev, Option.none_or]
  · rw [activateCandidate_of_decodes a hdec]
    refine ⟨fun _ ↦ Or.inl rfl, fun _ ↦ ⟨Activation.leaving_dest, Activation.leaving_tmpPath, ?_,
      fun _ h ↦ (nomatch h)⟩⟩
    show a.leaving _ _ a.lastGood ≠ none → _ ∧ a.leaving _ _ a.lastGood = _
    rw [Activation.leaving_lastGood]
    exact a.sparedLastGood_cases

/-! ### A candidate that was rejected and stays -/

/-- Files by a list of paths and contents. -/
def filesOf (entries : List (String × List UInt8)) : Files := fun path ↦
  (entries.find? fun e ↦ e.1 = path).map Prod.snd

/-- The second candidate, over the first. -/
def overFirst : Activation where
  stem := "/etc/nginx/waf/k3x9"
  dest := "/etc/nginx/waf/blocklist.conf"
  files := filesOf [("/etc/nginx/waf/blocklist.conf", [0x31]),
    ("/etc/nginx/waf/k3x9.conf.tmp", [0x32])]
  candidate := [0x32]
  written := by decide
  stem_ne := by decide

/-- `nginx -t` rejects the configuration, in a message that is not UTF-8: the path it names was
written in Latin-1. -/
def rejectedInLatin1 : CommandOutcome := .exited 1 [] [0x63, 0x61, 0x66, 0xE9]

/-- **The rejected candidate stays**: the activation raises, the candidate is at the destination,
and the previous file only at `.last-good`. -/
theorem rejected_candidate_stays :
    ¬overFirst.AllOrNothing rejectedInLatin1
        (activateCandidate true PyBytes.utf8Decode rejectedInLatin1 overFirst) ∧
      (activateCandidate true PyBytes.utf8Decode rejectedInLatin1 overFirst).1 =
        .error .unicodeDecodeError ∧
      (activateCandidate true PyBytes.utf8Decode rejectedInLatin1 overFirst).2 overFirst.dest =
        some [0x32] ∧
      (activateCandidate true PyBytes.utf8Decode rejectedInLatin1 overFirst).2 overFirst.lastGood =
        some [0x31] := by
  have hdest : (activateCandidate true PyBytes.utf8Decode rejectedInLatin1 overFirst).2
      overFirst.dest = some [0x32] := by decide +kernel
  refine ⟨fun h ↦ ?_, by decide +kernel, hdest, by decide +kernel⟩
  have hprevious := h.dest
  rw [hdest] at hprevious
  exact absurd hprevious (by decide)

/-! ### Runs -/

section Runs

variable {path : String}

/-- One generation of the blocklist at a path: the candidate, in a new temporary file, and how the
test command ends. -/
structure Generation (path : String) where
  stem : String
  candidate : List UInt8
  outcome : CommandOutcome
  stem_ne : stem ++ ".conf.tmp" ≠ path

/-- Its activation, with the candidate written. -/
def Generation.activation (g : Generation path) (fs : Files) : Activation where
  stem := g.stem
  dest := path
  files := Function.update fs (g.stem ++ ".conf.tmp") (some g.candidate)
  candidate := g.candidate
  written := Function.update_self ..
  stem_ne := g.stem_ne

/-- One generation after another. -/
def runActivations (decode : List UInt8 → Option String) (gs : List (Generation path))
    (fs : Files) : Files :=
  gs.foldl (fun fs g ↦ (activateCandidate true decode g.outcome (g.activation fs)).2) fs

/-- What a register holds after a generation. -/
def Generation.writes (held : Option (List UInt8)) (g : Generation path) : Option (List UInt8) :=
  if g.outcome.failed then held else some g.candidate

/-- **Where every output decodes, the destination is a register**: a generation whose command failed
leaves it, and any other writes its candidate. -/
theorem dest_runActivations {gs : List (Generation path)}
    (h : ∀ g ∈ gs, g.outcome.decodes decode = true) (fs : Files) :
    runActivations decode gs fs path = gs.foldl Generation.writes (fs path) := by
  induction gs generalizing fs with
  | nil => rfl
  | cons g gs ih =>
    have hstep : (activateCandidate true decode g.outcome (g.activation fs)).2 path =
        g.writes (fs path) := by
      have hfile : (g.activation fs).files path = fs path := Function.update_of_ne g.stem_ne.symm ..
      rw [activateCandidate_of_decodes _ (h g (List.mem_cons_self ..))]
      refine (Activation.leaving_dest (a := g.activation fs)).trans ?_
      show (if g.outcome.failed then (g.activation fs).files path else some g.candidate) = _
      rw [hfile, Generation.writes]
    rw [List.foldl_cons, ← hstep]
    exact ih (fun g' hg' ↦ h g' (List.mem_cons_of_mem _ hg')) _

end Runs

end DjangoWaf
