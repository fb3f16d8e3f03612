import DjangoWaf.Lib.Run
import DjangoWaf.Services.ChallengeService
import Mathlib.Logic.Function.Basic

/-!
# Is a challenge solved once?

Any number of `verify_challenge_solution` calls for one token take turns, one operation at a time:
each reads the Redis entry, reads the row, saves a status and, after `SOLVED`, deletes the entry.
What the entry holds is arbitrary.

**Nothing is checked again when a status is saved.** Two calls that have read the row while it was
`PENDING` both save, the later over the earlier (`rivals_both_return`). The invariant (`SolveInv`)
is that statuses still to be saved agree with each other and with a terminal one in the row, and
that `SOLVED` is saved by one call; it is kept as long as no call reads a pending row while another
is about to save a status that does not go with its own (`challenge_solved_once`).
-/

namespace DjangoWaf

/-- What a call is given beside the token. -/
structure Verification where
  nonce : PyText
  ipAddress : String

/-- Where a call stands. -/
inductive VerifyPhase
  | waiting
  /-- It has read the entry. -/
  | looked (entry : ChallengeLookup)
  /-- It has read the row, and decided what to save. -/
  | saving (status : ChallengeStatus)
  /-- It has saved `SOLVED`. -/
  | solved
  /-- It has returned `True`. -/
  | returned
  | raised (e : ChallengeError)

/-- The token, and where each call stands. -/
structure SolveState (I : Type*) where
  record : ChallengeRecord
  phase : I → VerifyPhase

namespace SolveState

variable {I : Type*}

/-- The status in the row. -/
def status (s : SolveState I) : Option ChallengeStatus := s.record.row.map (·.status)

end SolveState

/-- One operation. -/
inductive SolveEvent (I : Type*)
  /-- `GET` of the entry. -/
  | look (i : I)
  /-- `SELECT` of the row, and the checks with the time they see. -/
  | select (i : I) (now : ℚ)
  /-- `UPDATE` of the row. -/
  | save (i : I) (now : ℚ)
  /-- `DEL` of the entry. -/
  | delete (i : I)
  /-- The entry expires, is evicted or overwritten. -/
  | other

variable (k : Signing) (cols : ChallengeColumns) {I : Type*} [DecidableEq I]
  (call : I → Verification)

/-- What a call decides on a state. -/
def Verification.decide (c : Verification) (s : ChallengeRecord) (entry : ChallengeLookup)
    (now : ℚ) : ChallengeDecision :=
  decideChallenge k entry s.row c.nonce c.ipAddress now

/-- Where a decision leads. -/
def ChallengeDecision.phase : ChallengeDecision → VerifyPhase
  | raise e => .raised e
  | save status => .saving status

/-- Where a saved status leads. -/
def ChallengeStatus.phase (status : ChallengeStatus) : VerifyPhase :=
  match status.error with
  | some e => .raised e
  | none => .solved

/-- The database takes the status with what is saved beside it. -/
def Verification.Saves (c : Verification) (status : ChallengeStatus) : Prop :=
  status = .solved → cols.fitsNonce c.nonce = true

/-- The steps of the calls. -/
inductive SolveStep : SolveState I → SolveEvent I → SolveState I → Prop
  | look {s : SolveState I} {i : I} (h : s.phase i = .waiting) :
    SolveStep s (.look i)
      { s with phase := Function.update s.phase i (.looked s.record.entry.read) }
  | select {s : SolveState I} {i : I} {entry : ChallengeLookup} (h : s.phase i = .looked entry)
    (now : ℚ) :
    SolveStep s (.select i now)
      { s with phase := Function.update s.phase i ((call i).decide k s.record entry now).phase }
  | save {s : SolveState I} {i : I} {status : ChallengeStatus} (h : s.phase i = .saving status)
    (hsaves : (call i).Saves cols status) (now : ℚ) :
    SolveStep s (.save i now)
      ⟨{ s.record with row := s.record.row.map fun row ↦ row.save status (call i).nonce now },
        Function.update s.phase i status.phase⟩
  | refused {s : SolveState I} {i : I} {status : ChallengeStatus} (h : s.phase i = .saving status)
    (hsaves : ¬(call i).Saves cols status) (now : ℚ) :
    SolveStep s (.save i now) { s with phase := Function.update s.phase i (.raised .other) }
  | delete {s : SolveState I} {i : I} (h : s.phase i = .solved) :
    SolveStep s (.delete i)
      ⟨{ s.record with entry := .missing }, Function.update s.phase i .returned⟩
  | other {s : SolveState I} {entry : ChallengeCache} :
    SolveStep s .other { s with record := { s.record with entry } }

/-- The call is about to save the status, and the database will take it. -/
def SolveState.Due (s : SolveState I) (i : I) (status : ChallengeStatus) : Prop :=
  s.phase i = .saving status ∧ (call i).Saves cols status

/-- No call decides to save a status while another is about to save one that does not go with it:
a different one, or `SOLVED` too. -/
def Unrivalled (s : SolveState I) (e : SolveEvent I) : Prop :=
  ∀ i now entry status, e = .select i now → s.phase i = .looked entry →
    (call i).decide k s.record entry now = .save status → (call i).Saves cols status →
      ∀ j ≠ i, ∀ status', s.Due cols call j status' → status' = status ∧ status ≠ .solved

/-! ### The invariant -/

/-- The call has saved `SOLVED`. -/
def VerifyPhase.Won : VerifyPhase → Prop
  | solved => True
  | returned => True
  | _ => False

/-- The invariant of such runs. -/
structure SolveInv (s : SolveState I) : Prop where
  row : ∀ i a, s.phase i = .saving a → a.Terminal ∧ ∃ x, s.status = some x
  agree : ∀ i j a b, s.Due cols call i a → s.Due cols call j b → i = j ∨ (a = b ∧ a ≠ .solved)
  kept : ∀ i a x, s.Due cols call i a → s.status = some x → x.Terminal → a = x ∧ x ≠ .solved
  won : ∀ i, (s.phase i).Won → s.status = some .solved
  one : ∀ i j, (s.phase i).Won → (s.phase j).Won → i = j

section

omit [DecidableEq I]

/-- Only `SOLVED` is followed by the deletion of the entry. -/
theorem ChallengeStatus.won_phase {status : ChallengeStatus} (h : status.Terminal) :
    status.phase.Won ↔ status = .solved := by
  cases status with
  | pending => exact absurd rfl h
  | solved => exact iff_of_true trivial rfl
  | expired => exact iff_of_false id fun h ↦ by cases h
  | failed => exact iff_of_false id fun h ↦ by cases h

theorem ChallengeStatus.phase_ne_saving (status a : ChallengeStatus) :
    status.phase ≠ .saving a := by
  intro h
  cases status <;> cases h

/-- **What is saved was decided on a pending row**, and is terminal. -/
theorem decideChallenge_eq_save {entry : ChallengeLookup} {row : Option ChallengeRow}
    {nonce : PyText} {ipAddress : String} {now : ℚ} {a : ChallengeStatus}
    (h : decideChallenge k entry row nonce ipAddress now = .save a) :
    row.map (·.status) = some .pending ∧ a.Terminal := by
  have hcheck : ∀ {row : ChallengeRow} {storedIp : Json} {difficulty : ℤ},
      checkChallenge k row storedIp difficulty nonce ipAddress now = .save a →
        row.status = .pending ∧ a.Terminal := by
    intro row storedIp difficulty h
    rw [checkChallenge] at h
    split_ifs at h with hterminal hexpired hip
    · rw [← ChallengeDecision.save.inj h]
      exact ⟨not_not.1 hterminal, by decide⟩
    · rcases hpow : solvesPow k row.token nonce difficulty with - | - | -
      · rw [hpow] at h
        cases h
      · rw [hpow] at h
        rw [← ChallengeDecision.save.inj h]
        exact ⟨not_not.1 hterminal, by decide⟩
      · rw [hpow] at h
        rw [← ChallengeDecision.save.inj h]
        exact ⟨not_not.1 hterminal, by decide⟩
  rcases row with - | row
  · cases entry <;> cases h
  · cases entry with
    | raises => cases h
    | absent =>
      obtain ⟨hrow, ha⟩ := hcheck h
      exact ⟨congrArg some hrow, ha⟩
    | found storedIp difficulty =>
      obtain ⟨hrow, ha⟩ := hcheck h
      exact ⟨congrArg some hrow, ha⟩

end

section

omit [DecidableEq I]
variable {k cols call} {s : SolveState I}

theorem SolveInv.start (hstart : ∀ i, s.phase i = .waiting) : SolveInv cols call s where
  row i a h := absurd ((hstart i).symm.trans h) (by rintro ⟨⟩)
  agree i j a b h := absurd ((hstart i).symm.trans h.1) (by rintro ⟨⟩)
  kept i a x h := absurd ((hstart i).symm.trans h.1) (by rintro ⟨⟩)
  won i h := by rw [hstart i] at h; exact h.elim
  one i j h := by rw [hstart i] at h; exact h.elim

end

variable {k cols call} {s t : SolveState I} {i j : I}

/-- What holds of a phase after one call has moved holds of its new phase, or held of another's. -/
theorem phase_cases {p : VerifyPhase} {P : VerifyPhase → Prop}
    (h : P (Function.update s.phase i p j)) : (j = i ∧ P p) ∨ (j ≠ i ∧ P (s.phase j)) := by
  by_cases hj : j = i
  · subst hj
    rw [Function.update_self] at h
    exact .inl ⟨rfl, h⟩
  · rw [Function.update_of_ne hj] at h
    exact .inr ⟨hj, h⟩

/-- A call that neither saves nor solves leaves the invariant as it was. -/
theorem SolveInv.quiet (hinv : SolveInv cols call s) {p : VerifyPhase}
    (hp : ∀ a, p ≠ .saving a) (hpwon : p.Won → (s.phase i).Won) (entry : ChallengeCache) :
    SolveInv cols call ⟨{ s.record with entry }, Function.update s.phase i p⟩ := by
  have hsaving : ∀ {j a}, Function.update s.phase i p j = .saving a → s.phase j = .saving a := by
    intro j a h
    obtain ⟨-, h⟩ | ⟨-, h⟩ := phase_cases (P := (· = .saving a)) h
    · exact absurd h (hp a)
    · exact h
  have hwon : ∀ {j}, (Function.update s.phase i p j).Won → (s.phase j).Won := by
    intro j h
    obtain ⟨rfl, hwon⟩ | ⟨-, hwon⟩ := phase_cases h
    · exact hpwon hwon
    · exact hwon
  exact
    { row := fun j a h ↦ hinv.row j a (hsaving h)
      agree := fun j j' a b h h' ↦ hinv.agree j j' a b ⟨hsaving h.1, h.2⟩ ⟨hsaving h'.1, h'.2⟩
      kept := fun j a x h ↦ hinv.kept j a x ⟨hsaving h.1, h.2⟩
      won := fun j h ↦ hinv.won j (hwon h)
      one := fun j j' h h' ↦ hinv.one j j' (hwon h) (hwon h') }

/-- A call decides to save, and no other is about to save what does not go with it. -/
theorem SolveInv.select (hinv : SolveInv cols call s) {a : ChallengeStatus}
    (hpending : s.status = some .pending) (ha : a.Terminal)
    (hother : (call i).Saves cols a → ∀ j ≠ i, ∀ b, s.Due cols call j b → b = a ∧ a ≠ .solved) :
    SolveInv cols call { s with phase := Function.update s.phase i (.saving a) } := by
  have hdue : ∀ {j b}, SolveState.Due cols call
      { s with phase := Function.update s.phase i (.saving a) } j b →
        (j = i ∧ b = a ∧ (call i).Saves cols a) ∨ (j ≠ i ∧ s.Due cols call j b) := by
    rintro j b ⟨hphase, hsaves⟩
    obtain ⟨rfl, h⟩ | ⟨hj, h⟩ := phase_cases (P := (· = .saving b)) hphase
    · obtain rfl := VerifyPhase.saving.inj h
      exact .inl ⟨rfl, rfl, hsaves⟩
    · exact .inr ⟨hj, h, hsaves⟩
  have hwon : ∀ {j}, (Function.update s.phase i (.saving a) j).Won → (s.phase j).Won := by
    intro j h
    obtain ⟨-, h⟩ | ⟨-, h⟩ := phase_cases h
    · exact h.elim
    · exact h
  constructor
  case row =>
    intro j b h
    obtain ⟨-, h⟩ | ⟨-, h⟩ := phase_cases (P := (· = .saving b)) h
    · obtain rfl := VerifyPhase.saving.inj h
      exact ⟨ha, _, hpending⟩
    · exact hinv.row j b h
  case agree =>
    intro j j' b b' h h'
    obtain ⟨rfl, rfl, hsaves⟩ | ⟨hj, hold⟩ := hdue h
    · obtain ⟨rfl, -, -⟩ | ⟨hj', hold'⟩ := hdue h'
      · exact .inl rfl
      · obtain ⟨rfl, hne⟩ := hother hsaves j' hj' b' hold'
        exact .inr ⟨rfl, hne⟩
    · obtain ⟨rfl, rfl, hsaves⟩ | ⟨hj', hold'⟩ := hdue h'
      · obtain ⟨rfl, hne⟩ := hother hsaves j hj b hold
        exact .inr ⟨rfl, hne⟩
      · exact hinv.agree j j' b b' hold hold'
  case kept =>
    intro j b x _ hx hterminal
    obtain rfl := Option.some.inj (hx.symm.trans hpending)
    exact absurd rfl hterminal
  case won => exact fun j h ↦ hinv.won j (hwon h)
  case one => exact fun j j' h h' ↦ hinv.one j j' (hwon h) (hwon h')

omit [DecidableEq I] in
/-- The row takes the saved status. -/
theorem status_save {x : ChallengeStatus} (hx : s.status = some x) (a : ChallengeStatus)
    (nonce : PyText) (now : ℚ) (phase : I → VerifyPhase) :
    SolveState.status
      ⟨{ s.record with row := s.record.row.map fun row ↦ row.save a nonce now }, phase⟩
        = some a := by
  obtain ⟨row, hrow, -⟩ := Option.map_eq_some_iff.1 hx
  rw [SolveState.status, hrow]
  show some (row.save a nonce now).status = some a
  rw [ChallengeRow.save]
  split_ifs <;> rfl

/-- A call saves what it had decided. -/
theorem SolveInv.save (hinv : SolveInv cols call s) {a : ChallengeStatus}
    (hi : s.Due cols call i a) (now : ℚ) :
    SolveInv cols call
      ⟨{ s.record with row := s.record.row.map fun row ↦ row.save a (call i).nonce now },
        Function.update s.phase i a.phase⟩ := by
  obtain ⟨ha, x, hx⟩ := hinv.row i a hi.1
  have hstatus := status_save hx a (call i).nonce now (Function.update s.phase i a.phase)
  have hsaving : ∀ {j b}, Function.update s.phase i a.phase j = .saving b →
      j ≠ i ∧ s.phase j = .saving b := by
    intro j b h
    obtain ⟨-, h⟩ | h := phase_cases (P := (· = .saving b)) h
    · exact absurd h (a.phase_ne_saving b)
    · exact h
  -- a call that has already won would have seen its `SOLVED` kept
  have hnone : ∀ j, ¬(s.phase j).Won := by
    intro j hj
    obtain ⟨-, hne⟩ := hinv.kept i a .solved hi (hinv.won j hj) (by decide)
    exact hne rfl
  have hwon : ∀ {j}, (Function.update s.phase i a.phase j).Won → j = i ∧ a = .solved := by
    intro j h
    obtain ⟨hj, h⟩ | ⟨-, h⟩ := phase_cases h
    · exact ⟨hj, (ChallengeStatus.won_phase ha).1 h⟩
    · exact absurd h (hnone j)
  constructor
  case row =>
    intro j b h
    exact ⟨(hinv.row j b (hsaving h).2).1, a, hstatus⟩
  case agree =>
    rintro j j' b b' ⟨h, hsaves⟩ ⟨h', hsaves'⟩
    exact hinv.agree j j' b b' ⟨(hsaving h).2, hsaves⟩ ⟨(hsaving h').2, hsaves'⟩
  case kept =>
    rintro j b y ⟨h, hsaves⟩ hy -
    obtain rfl := Option.some.inj (hstatus.symm.trans hy)
    obtain rfl | hagree := hinv.agree j i b a ⟨(hsaving h).2, hsaves⟩ hi
    · exact absurd rfl (hsaving h).1
    · exact ⟨hagree.1, hagree.1 ▸ hagree.2⟩
  case won =>
    intro j h
    rw [hstatus, (hwon h).2]
  case one =>
    intro j j' h h'
    rw [(hwon h).1, (hwon h').1]

/-- **One step keeps the invariant**, unless it is a rivalled decision. -/
theorem SolveInv.step {e : SolveEvent I} (hinv : SolveInv cols call s)
    (hstep : SolveStep k cols call s e t) (hcond : Unrivalled k cols call s e) :
    SolveInv cols call t := by
  cases hstep with
  | look h => exact hinv.quiet (by rintro a ⟨⟩) False.elim _
  | @select i entry h now =>
    cases hd : (call i).decide k s.record entry now with
    | raise e => exact hinv.quiet (by rintro a ⟨⟩) False.elim _
    | save a =>
      obtain ⟨hpending, ha⟩ := decideChallenge_eq_save k hd
      exact hinv.select hpending ha (hcond i now entry a rfl h hd)
  | save h hsaves now => exact hinv.save ⟨h, hsaves⟩ now
  | refused h hsaves now => exact hinv.quiet (by rintro a ⟨⟩) False.elim _
  | delete h => exact hinv.quiet (by rintro a ⟨⟩) (fun _ ↦ by rw [h]; trivial) _
  | @other entry => exact ⟨hinv.row, hinv.agree, hinv.kept, hinv.won, hinv.one⟩

/-- One step keeps a terminal status. -/
theorem SolveInv.keeps {e : SolveEvent I} (hinv : SolveInv cols call s)
    (hstep : SolveStep k cols call s e t) {x : ChallengeStatus} (hx : s.status = some x)
    (hterminal : x.Terminal) : t.status = some x := by
  cases hstep with
  | save h hsaves now =>
    obtain ⟨rfl, -⟩ := hinv.kept _ _ x ⟨h, hsaves⟩ hx hterminal
    exact status_save hx _ _ now _
  | look | select | refused | delete | other => exact hx

/-- **A challenge is solved once**, in every run without rivalled decisions: at most one call
returns `True`, and a terminal status in the row is there in every later state. -/
theorem challenge_solved_once {s₀ u t : SolveState I} {es es' : List (SolveEvent I)}
    (hstart : ∀ i, s₀.phase i = .waiting)
    (hrun : Run (fun s e t ↦ SolveStep k cols call s e t ∧ Unrivalled k cols call s e) s₀ es u)
    (hlater : Run (fun s e t ↦ SolveStep k cols call s e t ∧ Unrivalled k cols call s e) u es' t) :
    (∀ i j, t.phase i = .returned → t.phase j = .returned → i = j) ∧
      ∀ x, u.status = some x → x.Terminal → t.status = some x := by
  have hinv : SolveInv cols call u :=
    hrun.invariant (P := fun _ s ↦ SolveInv cols call s) (.start hstart)
      (fun _ hinv he ↦ hinv.step he.1 he.2)
  have hlast : SolveInv cols call t ∧ ∀ x, u.status = some x → x.Terminal → t.status = some x :=
    hlater.invariant (P := fun _ s ↦ SolveInv cols call s ∧
        ∀ x, u.status = some x → x.Terminal → s.status = some x)
      ⟨hinv, fun x hx _ ↦ hx⟩
      (fun _ h he ↦ ⟨h.1.step he.1 he.2, fun x hx hterminal ↦
        h.1.keeps he.1 (h.2 x hx hterminal) hterminal⟩)
  refine ⟨fun i j hi hj ↦ hlast.1.one i j ?_ ?_, hlast.2⟩
  · rw [hi]
    trivial
  · rw [hj]
    trivial

/-! ### Calls on their own, and two at once -/

/-- Where a result leaves a call. -/
def VerifyPhase.ofResult : Except ChallengeError Bool → VerifyPhase
  | .ok _ => .returned
  | .error e => .raised e

/-- **The steps of a call are the service function**: with nothing in between they return what
`verify_challenge_solution` returns and leave what it leaves. -/
theorem call_alone (hi : s.phase i = .waiting) (hquiet : ∀ j a, s.phase j ≠ .saving a) (now : ℚ) :
    ∃ es t, Run (fun s e t ↦ SolveStep k cols call s e t ∧ Unrivalled k cols call s e) s es t ∧
      t.record = (verifyChallengeSolution k cols s.record (call i).nonce (call i).ipAddress now).2 ∧
      t.phase = Function.update s.phase i (VerifyPhase.ofResult
        (verifyChallengeSolution k cols s.record (call i).nonce (call i).ipAddress now).1) := by
  have hfree : ∀ {record p} {e : SolveEvent I}, (∀ now, e ≠ .select i now) →
      (∀ j now, e = .select j now → j = i) →
      Unrivalled k cols call ⟨record, Function.update s.phase i p⟩ e := by
    intro record p e hne honly i' now' entry status he
    exact absurd (honly i' now' he ▸ he) (hne now')
  have hstart : Run (fun s e t ↦ SolveStep k cols call s e t ∧ Unrivalled k cols call s e) s [] s :=
    .nil
  have hlook := hstart.snoc
    ⟨.look hi, show Unrivalled k cols call s (.look i) by rintro i' now' entry status ⟨⟩⟩
  -- no other call is about to save anything when this one reads the row
  have hlone : Unrivalled k cols call
      { s with phase := Function.update s.phase i (.looked s.record.entry.read) }
      (.select i now) := by
    intro i' now' entry status _ _ _ _ j _ status' hdue
    obtain ⟨-, h⟩ | ⟨-, h⟩ := phase_cases (P := (· = .saving status')) hdue.1
    · cases h
    · exact absurd h (hquiet j status')
  have hselect := Run.snoc hlook ⟨.select (Function.update_self ..) now, hlone⟩
  rw [Function.update_idem] at hselect
  cases hd : (call i).decide k s.record s.record.entry.read now with
  | raise e =>
    rw [hd] at hselect
    rw [verifyChallengeSolution, show decideChallenge .. = _ from hd]
    exact ⟨_, _, hselect, rfl, rfl⟩
  | save a =>
    rw [hd] at hselect
    rw [verifyChallengeSolution, show decideChallenge .. = _ from hd]
    have hsaving : (Function.update s.phase i (ChallengeDecision.phase (.save a))) i = .saving a :=
      Function.update_self ..
    by_cases hsaves : (call i).Saves cols a
    · have hok : ¬(a = .solved ∧ cols.fitsNonce (call i).nonce = false) := by
        rintro ⟨ha, hfit⟩
        exact absurd (hsaves ha) (by rw [hfit]; decide)
      have hsave := Run.snoc hselect
        ⟨.save hsaving hsaves now, hfree (by rintro _ ⟨⟩) (by rintro _ _ ⟨⟩)⟩
      rw [Function.update_idem] at hsave
      simp only [hok, if_false]
      cases a with
      | pending => exact absurd rfl (decideChallenge_eq_save k hd).2
      | expired => exact ⟨_, _, hsave, rfl, rfl⟩
      | failed => exact ⟨_, _, hsave, rfl, rfl⟩
      | solved =>
        have hdelete := Run.snoc hsave
          ⟨.delete (Function.update_self ..), hfree (by rintro _ ⟨⟩) (by rintro _ _ ⟨⟩)⟩
        rw [Function.update_idem] at hdelete
        exact ⟨_, _, hdelete, rfl, rfl⟩
    · have hbad : a = .solved ∧ cols.fitsNonce (call i).nonce = false := by
        obtain ⟨ha, hfit⟩ := Classical.not_imp.1 hsaves
        exact ⟨ha, Bool.not_eq_true _ |>.mp hfit⟩
      have hrefused := Run.snoc hselect
        ⟨.refused hsaving hsaves now, hfree (by rintro _ ⟨⟩) (by rintro _ _ ⟨⟩)⟩
      rw [Function.update_idem] at hrefused
      simp only [hbad, and_self, if_true]
      exact ⟨_, _, hrefused, rfl, rfl⟩

/-- **Two calls with a solution each, at the same time, both return `True`.** -/
theorem rivals_both_return (hne : i ≠ j) (hi : s.phase i = .waiting) (hj : s.phase j = .waiting)
    (now : ℚ)
    (hdi : (call i).decide k s.record s.record.entry.read now = .save .solved)
    (hdj : (call j).decide k s.record s.record.entry.read now = .save .solved)
    (hsi : (call i).Saves cols .solved) (hsj : (call j).Saves cols .solved) :
    ∃ t, Run (SolveStep k cols call) s [.look i, .look j, .select i now, .select j now,
        .save i now, .save j now, .delete i, .delete j] t ∧
      t.phase i = .returned ∧ t.phase j = .returned := by
  have hself : ∀ {phase : I → VerifyPhase} {p}, Function.update phase i p i = p :=
    Function.update_self ..
  have hother : ∀ {phase : I → VerifyPhase} {p}, Function.update phase i p j = phase j :=
    Function.update_of_ne hne.symm ..
  have hself' : ∀ {phase : I → VerifyPhase} {p}, Function.update phase j p j = p :=
    Function.update_self ..
  have hother' : ∀ {phase : I → VerifyPhase} {p}, Function.update phase j p i = phase i :=
    Function.update_of_ne hne ..
  have hrun : Run (SolveStep k cols call) s [] s := .nil
  have hrun := hrun.snoc (.look hi)
  have hrun := hrun.snoc (.look (i := j) (hother.trans hj))
  have hrun := hrun.snoc (.select (i := i) (hother'.trans hself) now)
  have hrun := hrun.snoc (.select (i := j) (hother.trans hself') now)
  rw [show (call i).decide .. = _ from hdi, show (call j).decide .. = _ from hdj] at hrun
  have hrun := hrun.snoc (.save (i := i) (hother'.trans hself) hsi now)
  have hrun := hrun.snoc (.save (i := j) (hother.trans hself') hsj now)
  have hrun := hrun.snoc (.delete (i := i) (hother'.trans hself))
  have hrun := hrun.snoc (.delete (i := j) (hother.trans hself'))
  exact ⟨_, hrun, hother'.trans hself, hself'⟩

/-! ### A token of 128 digits at the default difficulty -/

/-- The keys of the examples. -/
def soloKeys : Signing := .standard "" []

/-- Columns that hold whatever is written. -/
def roomyColumns : ChallengeColumns := ⟨id, fun _ ↦ true, fun _ ↦ true⟩

/-- A visitor who submits a solution twice. -/
def doubleSubmit : Bool → Verification := fun _ ↦ ⟨"94985", "192.0.2.7"⟩

/-- The token as it was issued. -/
def freshRecord : ChallengeRecord where
  row := some
    { token := String.ofList (List.replicate 64 ['a', 'b']).flatten
      ipAddress := "192.0.2.7"
      difficulty := 16
      nonce := ""
      status := .pending
      expiresAt := 1000 + (86400 : ℤ)
      solvedAt := none }
  entry := .value (.obj [("ip", .str "192.0.2.7"), ("difficulty", .int 16),
    ("expires", .str "1970-01-02T00:16:40+00:00")])

example : issueChallenge (.defaults soloKeys) roomyColumns "192.0.2.7" ""
    (String.ofList (List.replicate 64 ['a', 'b']).flatten) 1000 "1970-01-02T00:16:40+00:00" =
      freshRecord.row.map fun row ↦ (row, freshRecord.entry) := rfl

theorem freshRecord_solved :
    decideChallenge soloKeys freshRecord.entry.read freshRecord.row "94985" "192.0.2.7" 1010 =
      .save .solved := by
  decide +kernel

theorem challenge_solved_twice :
    ∃ t, Run (SolveStep soloKeys roomyColumns doubleSubmit) ⟨freshRecord, fun _ ↦ .waiting⟩
        [.look true, .look false, .select true 1010, .select false 1010, .save true 1010,
          .save false 1010, .delete true, .delete false] t ∧
      t.phase true = .returned ∧ t.phase false = .returned :=
  rivals_both_return (by decide) rfl rfl 1010 freshRecord_solved freshRecord_solved (fun _ ↦ rfl)
    (fun _ ↦ rfl)

theorem verify_freshRecord :
    verifyChallengeSolution soloKeys roomyColumns freshRecord "94985" "192.0.2.7" 1010 =
      (.ok true, ⟨freshRecord.row.map fun row ↦ row.save .solved "94985" 1010, .missing⟩) := by
  rw [verifyChallengeSolution, freshRecord_solved]
  rfl

theorem challenge_solved_once_in_turn :
    ∃ es es' u t,
      Run (fun s e t ↦ SolveStep soloKeys roomyColumns doubleSubmit s e t ∧
        Unrivalled soloKeys roomyColumns doubleSubmit s e) ⟨freshRecord, fun _ ↦ .waiting⟩ es u ∧
      Run (fun s e t ↦ SolveStep soloKeys roomyColumns doubleSubmit s e t ∧
        Unrivalled soloKeys roomyColumns doubleSubmit s e) u es' t ∧
      u.phase true = .returned ∧ t.phase false = .raised .expired ∧
      (∀ i j, t.phase i = .returned → t.phase j = .returned → i = j) ∧
      t.status = some .solved := by
  have halone := @call_alone soloKeys roomyColumns Bool _ doubleSubmit
  obtain ⟨es, u, hrun, hrecord, hphase⟩ :=
    @halone ⟨freshRecord, fun _ ↦ .waiting⟩ true rfl (by rintro _ _ ⟨⟩) 1010
  have hverify : verifyChallengeSolution soloKeys roomyColumns freshRecord
      (doubleSubmit true).nonce (doubleSubmit true).ipAddress 1010 = _ := verify_freshRecord
  obtain ⟨record, phase⟩ := u
  simp only [hverify, VerifyPhase.ofResult] at hrecord hphase
  subst hrecord hphase
  obtain ⟨es', t, hlater, -, hphase⟩ := @halone
    ⟨⟨freshRecord.row.map fun row ↦ row.save .solved "94985" 1010, .missing⟩,
      Function.update (fun _ ↦ .waiting) true .returned⟩ false rfl (by rintro (_ | _) _ ⟨⟩) 1020
  obtain ⟨hone, hkept⟩ := challenge_solved_once (fun _ ↦ rfl) hrun hlater
  have hstatus := hkept .solved rfl (by decide)
  exact ⟨es, es', _, t, hrun, hlater, rfl, congrFun hphase false, hone, hstatus⟩

end DjangoWaf
