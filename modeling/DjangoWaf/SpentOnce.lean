import DjangoWaf.Forms.Mixin
import DjangoWaf.Forms.Rendering
import DjangoWaf.Lib.Run
import DjangoWaf.TokenBinding

/-!
# Is a render token spent once?

Any number of submissions carry the same render token and take turns, one Redis command at a time:
each looks for the marker, is evaluated, and deletes the marker when it has passed, the decorator
only after the view has returned. What the other commands of an evaluation answer is arbitrary.

**Looking and deleting are two commands.** Every submission that looks in between finds the marker,
and so does every one after a view that raised. The invariant (`SpendInv`) is that at most one
acceptable submission has found the marker or deleted it, and that the marker is gone once it was
deleted. It is kept as long as no acceptable submission looks while another one holds the marker
(`token_spent_once`).
-/

namespace DjangoWaf

open PyBytes IsoDatetime

/-- How a submission comes in. -/
inductive EntryPoint
  | decorator
  | mixin
  deriving DecidableEq

/-- A submission of a token, with what Redis answers to its counters. -/
structure TokenPost where
  fp : FormProtection
  entry : EntryPoint
  req : FormRequest
  data : Submitted
  now : Civil
  credFailIp : String → Option ℕ
  signup : String → Option ℕ

/-- The answers to a submission, once it has looked for the marker. -/
def TokenPost.reads (x : TokenPost) (found : Bool) : FormReads where
  token _ := some found
  credFailIp ip := some (x.credFailIp ip)
  signup ip := some (x.signup ip)

/-- Where a submission stands. -/
inductive Phase
  | waiting
  /-- It has looked for the marker. -/
  | checked (found : Bool)
  /-- It has passed, and for the decorator the view runs. -/
  | admitted (result : FormEvaluationResult)
  /-- It has passed and deleted the marker. -/
  | spent
  /-- It has passed, and the view has raised. -/
  | raised
  | refused

namespace Phase

/-- The submission has passed. -/
def Passed : Phase → Prop
  | admitted _ => True
  | spent => True
  | raised => True
  | _ => False

/-- It has found the marker, and neither deleted it nor been refused. -/
def Holds : Phase → Prop
  | checked found => found = true
  | admitted _ => True
  | raised => True
  | _ => False

end Phase

variable {cf : FormConf}

/-- Where `evaluate` leads. -/
def TokenPost.verdictPhase (cf : FormConf) (x : TokenPost) (found : Bool) : Phase :=
  match x.fp.evaluate cf (x.reads found) x.now x.req x.data with
  | .ok result => if result.verdict = .passed then .admitted result else .refused
  | .error _ => .refused

theorem TokenPost.verdictPhase_cases (x : TokenPost) (found : Bool) :
    (∃ result, x.verdictPhase cf found = .admitted result) ∨
      x.verdictPhase cf found = .refused := by
  rw [TokenPost.verdictPhase]
  split
  · split_ifs
    · exact Or.inl ⟨_, rfl⟩
    · exact Or.inr rfl
  · exact Or.inr rfl

/-- Submissions of one token, more than five seconds after its render. -/
structure Spending (cf : FormConf) (I : Type*) where
  issuer : FormProtection
  rendered : FormRequest
  renderTime : Civil
  nonce : String
  isHex_nonce : ∀ c ∈ nonce.toList, IsHex c
  post : I → TokenPost
  renderToken_mem : ∀ i, .renderToken ∈ (post i).fp.defenceNames
  carries : ∀ i, (post i).data.text RenderTokenDefence.fieldName =
    (RenderTokenDefence.issue cf issuer rendered renderTime nonce).1
  late : ∀ i, RenderTokenDefence.markerGraceSeconds < (post i).now.since renderTime.utc

/-- Redis, and where each submission stands. -/
structure SpendState (I : Type*) where
  store : FormStore
  phase : I → Phase

/-- One command, or one step between two of them. -/
inductive SpendEvent (I : Type*)
  /-- `EXISTS` of the marker, at Redis's own time. -/
  | check (i : I) (t : ℚ)
  | evaluate (i : I)
  /-- `DEL` of the marker. -/
  | consume (i : I)
  | raise (i : I)
  /-- Others use Redis. -/
  | other

variable {I : Type*} [DecidableEq I] (sp : Spending cf I)

namespace Spending

/-- The payload of the token. -/
def payload : TokenPayload :=
  (RenderTokenDefence.issue cf sp.issuer sp.rendered sp.renderTime sp.nonce).2

omit [DecidableEq I] in
/-- Nothing but a spent token keeps a submission from passing. -/
def Acceptable (i : I) : Prop :=
  RenderTokenDefence.Undelimited sp.issuer sp.rendered ∧ (sp.post i).fp.Acceptable cf
    ((sp.post i).reads true) (sp.post i).now (sp.post i).req (sp.post i).data sp.payload

end Spending

/-- The steps of the system. -/
inductive SpendStep : SpendState I → SpendEvent I → SpendState I → Prop
  | check {s : SpendState I} {i : I} (h : s.phase i = .waiting) (t : ℚ) :
    SpendStep s (.check i t) { s with
      phase := Function.update s.phase i (.checked (s.store.token.get t sp.nonce).isSome) }
  | evaluate {s : SpendState I} {i : I} {found : Bool} (h : s.phase i = .checked found) :
    SpendStep s (.evaluate i) { s with
      phase := Function.update s.phase i ((sp.post i).verdictPhase cf found) }
  | consume {s : SpendState I} {i : I} {result : FormEvaluationResult}
    (h : s.phase i = .admitted result) :
    SpendStep s (.consume i)
      ⟨FormProtection.consumeOnPass true result s.store, Function.update s.phase i .spent⟩
  | raise {s : SpendState I} {i : I} {result : FormEvaluationResult}
    (h : s.phase i = .admitted result) (hentry : (sp.post i).entry = .decorator) :
    SpendStep s (.raise i) { s with phase := Function.update s.phase i .raised }
  | other {s : SpendState I} {store : FormStore}
    (h : store.token.cell sp.nonce = s.store.token.cell sp.nonce) :
    SpendStep s .other { s with store }

variable {sp}

/-- A look at the marker, by what it finds. -/
theorem SpendStep.check_of {s : SpendState I} {i : I} {t : ℚ} {found : Bool}
    (h : s.phase i = .waiting) (hfound : (s.store.token.get t sp.nonce).isSome = found) :
    SpendStep sp s (.check i t) { s with
      phase := Function.update s.phase i (.checked found) } :=
  hfound ▸ .check h t

/-- An evaluation, by where it leads. -/
theorem SpendStep.evaluate_of {s : SpendState I} {i : I} {found : Bool} {ph : Phase}
    (h : s.phase i = .checked found) (hphase : (sp.post i).verdictPhase cf found = ph) :
    SpendStep sp s (.evaluate i) { s with phase := Function.update s.phase i ph } :=
  hphase ▸ .evaluate h

variable (sp)

/-- No acceptable submission finds the marker while another one holds it. -/
def Undisturbed (s : SpendState I) (e : SpendEvent I) : Prop :=
  ∀ i t, e = .check i t → (s.store.token.get t sp.nonce).isSome = true → sp.Acceptable i →
    ∀ j ≠ i, sp.Acceptable j → ¬(s.phase j).Holds

/-! ### The invariant -/

/-- The invariant of undisturbed runs. -/
structure SpendInv (s : SpendState I) : Prop where
  one : ∀ i j, sp.Acceptable i → sp.Acceptable j →
    (s.phase i).Holds ∨ s.phase i = .spent → (s.phase j).Holds ∨ s.phase j = .spent → i = j
  acceptable : ∀ i, (s.phase i).Passed → sp.Acceptable i
  gone : ∀ i, s.phase i = .spent → s.store.token.cell sp.nonce = none
  payload : ∀ i result, s.phase i = .admitted result →
    result.verdict = .passed ∧ result.tokenPayload = some sp.payload

variable {sp}

omit [DecidableEq I] in
/-- **What passes** has found the marker, and is acceptable. -/
theorem verdictPhase_admitted (henabled : cf.enabled = true)
    (hexpiry : ∀ i, (RenderTokenDefence.expiry cf (sp.post i).fp sp.payload).isSome = true) {i : I}
    {found : Bool} {result : FormEvaluationResult}
    (h : (sp.post i).verdictPhase cf found = .admitted result) :
    found = true ∧ sp.Acceptable i ∧ result.verdict = .passed ∧
      result.tokenPayload = some sp.payload := by
  have hpassed : (sp.post i).fp.evaluate cf ((sp.post i).reads found) (sp.post i).now
      (sp.post i).req (sp.post i).data = .ok result ∧ result.verdict = .passed := by
    rw [TokenPost.verdictPhase] at h
    rcases heval : (sp.post i).fp.evaluate cf ((sp.post i).reads found) (sp.post i).now
        (sp.post i).req (sp.post i).data with e | r
    · rw [heval] at h
      cases h
    · rw [heval] at h
      simp only at h
      split_ifs at h with hverdict
      obtain rfl := Phase.admitted.inj h
      exact ⟨rfl, hverdict⟩
  have hmem := sp.renderToken_mem i
  by_cases hundelimited : RenderTokenDefence.Undelimited sp.issuer sp.rendered
  · have hv := RenderTokenDefence.verifyToken_issue cf sp.renderTime sp.isHex_nonce hundelimited
    rw [← sp.carries i] at hv
    obtain ⟨hacceptable, hspent⟩ := ((sp.post i).fp.evaluate_passed_iff henabled hmem hv).1
      ⟨result, hpassed⟩
    refine ⟨?_, ?_, hpassed.2, (sp.post i).fp.tokenPayload_of_passed henabled hmem hv hpassed.1
      hpassed.2⟩
    · by_contra hfound
      refine hspent ⟨hexpiry i, ?_, sp.late i⟩
      rw [Bool.not_eq_true] at hfound
      rw [hfound]
      rfl
    · have hunspent : ((sp.post i).reads found).unspent = ((sp.post i).reads true).unspent := rfl
      rw [← FormProtection.acceptable_unspent, hunspent,
        FormProtection.acceptable_unspent] at hacceptable
      exact ⟨hundelimited, hacceptable⟩
  · obtain ⟨message, hv⟩ :=
      RenderTokenDefence.verifyToken_issue_delimited cf sp.renderTime sp.isHex_nonce hundelimited
    rw [← sp.carries i] at hv
    obtain ⟨r, hr, hblocked⟩ := (sp.post i).fp.evaluate_refused ((sp.post i).reads found)
      (sp.post i).now (sp.post i).req henabled hmem hv
    obtain rfl := Except.ok.inj (hpassed.1.symm.trans hr)
    rw [hpassed.2] at hblocked
    cases hblocked

omit [DecidableEq I] in
/-- The marker of what has passed is deleted. -/
theorem Spending.token_cell_consumeOnPass (sp : Spending cf I) (store : FormStore)
    {result : FormEvaluationResult} (hverdict : result.verdict = .passed)
    (hpayload : result.tokenPayload = some sp.payload) :
    (FormProtection.consumeOnPass true result store).token.cell sp.nonce = none := by
  rw [FormProtection.consumeOnPass, if_pos hverdict, hpayload]
  exact Function.update_self _ _ _

/-- A new phase of one submission keeps the invariant if it leaves the others their claim to the
marker. -/
theorem SpendInv.update {s : SpendState I} (h : SpendInv sp s) {i : I} {ph : Phase}
    {store : FormStore}
    (hone : ph.Holds ∨ ph = .spent → sp.Acceptable i → ∀ j ≠ i, sp.Acceptable j →
      ¬((s.phase j).Holds ∨ s.phase j = .spent))
    (hpassed : ph.Passed → sp.Acceptable i)
    (hstore : s.store.token.cell sp.nonce = none → store.token.cell sp.nonce = none)
    (hgone : ph = .spent → store.token.cell sp.nonce = none)
    (hpayload : ∀ result, ph = .admitted result →
      result.verdict = .passed ∧ result.tokenPayload = some sp.payload) :
    SpendInv sp ⟨store, Function.update s.phase i ph⟩ where
  one j k hj hk hclaimj hclaimk := by
    simp only [Function.update_apply] at hclaimj hclaimk
    by_cases hji : j = i
    · by_cases hki : k = i
      · rw [hji, hki]
      · rw [if_pos hji] at hclaimj
        rw [if_neg hki] at hclaimk
        exact absurd hclaimk (hone hclaimj (hji ▸ hj) k hki hk)
    · rw [if_neg hji] at hclaimj
      by_cases hki : k = i
      · rw [if_pos hki] at hclaimk
        exact absurd hclaimj (hone hclaimk (hki ▸ hk) j hji hj)
      · rw [if_neg hki] at hclaimk
        exact h.one j k hj hk hclaimj hclaimk
  acceptable j hj := by
    simp only [Function.update_apply] at hj
    split_ifs at hj with hji
    · rw [hji]
      exact hpassed hj
    · exact h.acceptable j hj
  gone j hj := by
    simp only [Function.update_apply] at hj
    split_ifs at hj
    · exact hgone hj
    · exact hstore (h.gone j hj)
  payload j result hj := by
    simp only [Function.update_apply] at hj
    split_ifs at hj
    · exact hpayload result hj
    · exact h.payload j result hj

/-- **An undisturbed step keeps the invariant.** -/
theorem SpendInv.step (henabled : cf.enabled = true)
    (hexpiry : ∀ i, (RenderTokenDefence.expiry cf (sp.post i).fp sp.payload).isSome = true)
    {s s' : SpendState I} {e : SpendEvent I} (h : SpendInv sp s) (hstep : SpendStep sp s e s')
    (hundisturbed : Undisturbed sp s e) : SpendInv sp s' := by
  -- A submission that holds the marker keeps the others from it.
  have hkeeps : ∀ i, (s.phase i).Holds → sp.Acceptable i → ∀ j ≠ i, sp.Acceptable j →
      ¬((s.phase j).Holds ∨ s.phase j = .spent) :=
    fun i hi hacc j hne haccj hj ↦ hne (h.one j i haccj hacc hj (Or.inl hi))
  cases hstep with
  | @check i hwaiting t =>
    refine h.update (fun hclaim hacc j hne haccj ↦ ?_) (fun hpassed ↦ hpassed.elim) id
      (fun hspent ↦ by cases hspent) (fun result hadmitted ↦ by cases hadmitted)
    have hfound : (s.store.token.get t sp.nonce).isSome = true := by
      rcases hclaim with hholds | hspent
      · exact hholds
      · cases hspent
    rintro (hj | hj)
    · exact hundisturbed i t rfl hfound hacc j hne haccj hj
    · rw [KeySpace.get, h.gone j hj] at hfound
      cases hfound
  | @evaluate i found hchecked =>
    have hadmitted : ∀ result, (sp.post i).verdictPhase cf found = .admitted result →
        found = true ∧ sp.Acceptable i ∧ result.verdict = .passed ∧
          result.tokenPayload = some sp.payload :=
      fun result ↦ verdictPhase_admitted henabled hexpiry
    rcases (sp.post i).verdictPhase_cases found with ⟨result, hphase⟩ | hphase
    · rw [hphase]
      obtain ⟨hfound, hacc, hpayload⟩ := hadmitted result hphase
      have hholds : (s.phase i).Holds := by
        rw [hchecked]
        exact hfound
      refine h.update (fun _ ↦ hkeeps i hholds) (fun _ ↦ hacc) id (fun hspent ↦ by cases hspent)
        fun result' hresult ↦ ?_
      obtain rfl := Phase.admitted.inj hresult
      exact hpayload
    · rw [hphase]
      refine h.update (fun hclaim ↦ ?_) (fun hpassed ↦ hpassed.elim) id
        (fun hspent ↦ by cases hspent) (fun result hadmitted ↦ by cases hadmitted)
      rcases hclaim with hholds | hspent
      · exact hholds.elim
      · cases hspent
  | @consume i result hadmitted =>
    have hholds : (s.phase i).Holds := by
      rw [hadmitted]
      trivial
    obtain ⟨hverdict, hpayload⟩ := h.payload i result hadmitted
    have hacc : sp.Acceptable i := h.acceptable i (by
      rw [hadmitted]
      trivial)
    have hstore := sp.token_cell_consumeOnPass s.store hverdict hpayload
    exact h.update (fun _ ↦ hkeeps i hholds) (fun _ ↦ hacc) (fun _ ↦ hstore) (fun _ ↦ hstore)
      fun result hresult ↦ by cases hresult
  | @raise i result hadmitted hentry =>
    have hholds : (s.phase i).Holds := by
      rw [hadmitted]
      trivial
    have hacc : sp.Acceptable i := h.acceptable i (by
      rw [hadmitted]
      trivial)
    exact h.update (fun _ ↦ hkeeps i hholds) (fun _ ↦ hacc) id (fun hspent ↦ by cases hspent)
      fun result hresult ↦ by cases hresult
  | other hsame =>
    exact ⟨h.one, h.acceptable, fun i hi ↦ hsame.trans (h.gone i hi), h.payload⟩

/-! ### The runs -/

omit [DecidableEq I] in
/-- What has passed still holds the marker, or has deleted it. -/
theorem Phase.Passed.claims {ph : Phase} (h : ph.Passed) : ph.Holds ∨ ph = .spent := by
  cases ph with
  | admitted _ => exact Or.inl trivial
  | raised => exact Or.inl trivial
  | spent => exact Or.inr rfl
  | waiting => exact h.elim
  | checked _ => exact h.elim
  | refused => exact h.elim

omit [DecidableEq I] in
theorem spendInv_start {s : SpendState I} (hstart : ∀ i, s.phase i = .waiting) : SpendInv sp s where
  one i j _ _ hi _ := by
    rw [hstart i] at hi
    rcases hi with hholds | hspent
    · exact hholds.elim
    · cases hspent
  acceptable i hi := by
    rw [hstart i] at hi
    exact hi.elim
  gone i hi := by
    rw [hstart i] at hi
    cases hi
  payload i result hi := by
    rw [hstart i] at hi
    cases hi

/-- **A render token is spent once** in every undisturbed run. -/
theorem token_spent_once (henabled : cf.enabled = true)
    (hexpiry : ∀ i, (RenderTokenDefence.expiry cf (sp.post i).fp sp.payload).isSome = true)
    {s₀ s : SpendState I} (hstart : ∀ i, s₀.phase i = .waiting) {es : List (SpendEvent I)}
    (hrun : Run (fun s e s' ↦ SpendStep sp s e s' ∧ Undisturbed sp s e) s₀ es s) :
    ∀ i j, (s.phase i).Passed → (s.phase j).Passed → i = j := by
  have hinv : SpendInv sp s := by
    refine Run.invariant (P := fun _ s ↦ SpendInv sp s) (spendInv_start hstart) ?_ hrun
    exact fun _ h he ↦ h.step henabled hexpiry he.1 he.2
  exact fun i j hi hj ↦
    hinv.one i j (hinv.acceptable i hi) (hinv.acceptable j hj) hi.claims hj.claims

/-! ### The disturbed runs -/

omit [DecidableEq I] in
/-- **What finds the marker** and is acceptable passes. -/
theorem verdictPhase_of_acceptable (henabled : cf.enabled = true) {i : I}
    (hacc : sp.Acceptable i) : ∃ result, (sp.post i).verdictPhase cf true = .admitted result := by
  obtain ⟨hundelimited, hacceptable⟩ := hacc
  have hv := RenderTokenDefence.verifyToken_issue cf sp.renderTime sp.isHex_nonce hundelimited
  rw [← sp.carries i] at hv
  have hunspent : ¬(sp.post i).fp.Spent cf ((sp.post i).reads true) (sp.post i).now sp.payload := by
    rintro ⟨-, hfalse, -⟩
    cases hfalse
  obtain ⟨result, hresult, hpassed⟩ := ((sp.post i).fp.evaluate_passed_iff henabled
    (sp.renderToken_mem i) hv).2 ⟨hacceptable, hunspent⟩
  refine ⟨result, ?_⟩
  rw [TokenPost.verdictPhase, hresult]
  exact if_pos hpassed

/-- An acceptable submission does not lose the marker to another one. -/
theorem SpendStep.keeps_claim (henabled : cf.enabled = true) {s s' : SpendState I}
    {e : SpendEvent I} (h : SpendStep sp s e s') {i : I} (hacc : sp.Acceptable i)
    (hclaim : (s.phase i).Holds ∨ s.phase i = .spent) :
    (s'.phase i).Holds ∨ s'.phase i = .spent := by
  have hupdate : ∀ {k : I} {ph : Phase}, (i = k → ph.Holds ∨ ph = .spent) →
      (Function.update s.phase k ph i).Holds ∨ Function.update s.phase k ph i = .spent := by
    intro k ph hph
    rw [Function.update_apply]
    split_ifs with hik
    · exact hph hik
    · exact hclaim
  cases h with
  | @check k hwaiting t =>
    refine hupdate fun hik ↦ ?_
    rw [hik, hwaiting] at hclaim
    rcases hclaim with hholds | hspent
    · exact hholds.elim
    · cases hspent
  | @evaluate k found hchecked =>
    refine hupdate fun hik ↦ ?_
    rw [hik, hchecked] at hclaim
    rcases hclaim with hfound | hspent
    · obtain ⟨result, hphase⟩ := verdictPhase_of_acceptable henabled hacc
      rw [← hik, show found = true from hfound, hphase]
      exact Or.inl trivial
    · cases hspent
  | consume hadmitted => exact hupdate fun _ ↦ Or.inr rfl
  | raise hadmitted hentry => exact hupdate fun _ ↦ Or.inl trivial
  | other hsame => exact hclaim

/-- **A disturbed run** in which no submission is left between its look at the marker and its
verdict has let two pass. -/
theorem two_passed_of_disturbed (henabled : cf.enabled = true) {s₀ s : SpendState I}
    {es : List (SpendEvent I)} (hrun : Run (SpendStep sp) s₀ es s)
    (hsettled : ∀ i found, s.phase i ≠ .checked found)
    (hdisturbed : ¬Run (fun s e s' ↦ SpendStep sp s e s' ∧ Undisturbed sp s e) s₀ es s) :
    ∃ i j, i ≠ j ∧ (s.phase i).Passed ∧ (s.phase j).Passed := by
  have htwo : Run (fun s e s' ↦ SpendStep sp s e s' ∧ Undisturbed sp s e) s₀ es s ∨
      ∃ i j, i ≠ j ∧ (sp.Acceptable i ∧ ((s.phase i).Holds ∨ s.phase i = .spent)) ∧
        (sp.Acceptable j ∧ ((s.phase j).Holds ∨ s.phase j = .spent)) := by
    clear hsettled hdisturbed
    induction hrun with
    | nil => exact Or.inl .nil
    | @snoc t u es e hrun he ih =>
      rcases ih with hundisturbed | ⟨i, j, hne, ⟨hacci, hi⟩, haccj, hj⟩
      · by_cases hstep : Undisturbed sp t e
        · exact Or.inl (.snoc hundisturbed ⟨he, hstep⟩)
        · simp only [Undisturbed, not_forall, not_not] at hstep
          obtain ⟨i, time, rfl, hfound, hacci, j, hne, haccj, hj⟩ := hstep
          refine Or.inr ⟨i, j, hne.symm, ⟨hacci, ?_⟩, haccj,
            he.keeps_claim henabled haccj (Or.inl hj)⟩
          cases he with
          | check hwaiting =>
            refine Or.inl ?_
            simp only [Function.update_self]
            exact hfound
      · exact Or.inr ⟨i, j, hne, ⟨hacci, he.keeps_claim henabled hacci hi⟩, haccj,
          he.keeps_claim henabled haccj hj⟩
  have hpassed : ∀ i, (s.phase i).Holds ∨ s.phase i = .spent → (s.phase i).Passed := by
    intro i hi
    have hne := hsettled i
    rcases hphase : s.phase i with - | found | result | - | - | - <;> rw [hphase] at hi hne
    · exact hi.elim id fun hspent ↦ by cases hspent
    · exact absurd rfl (hne found)
    · trivial
    · trivial
    · trivial
    · exact hi.elim id fun hspent ↦ by cases hspent
  rcases htwo with hundisturbed | ⟨i, j, hne, ⟨-, hi⟩, -, hj⟩
  · exact absurd hundisturbed hdisturbed
  · exact ⟨i, j, hne, hpassed i hi, hpassed j hj⟩

/-! ### Two submissions -/

/-- A visitor's page is submitted twice. -/
def doublePost : Spending keyedConf Bool where
  issuer := tokenForm "contact"
  rendered := visitor
  renderTime := leapNoon
  nonce := "00ff"
  isHex_nonce := isHex_leapNonce
  post _ := {
    fp := tokenForm "contact"
    entry := .decorator
    req := visitor
    data := contactData
    now := leapMinute
    credFailIp _ := none
    signup _ := none }
  renderToken_mem _ := by decide
  carries _ := text_contactData
  late _ := by decide +kernel

/-- The page has been rendered. -/
def doubleStart : SpendState Bool where
  store := RenderTokenDefence.issueMarker keyedConf (tokenForm "contact") true leapNoon.seconds
    "00ff" .empty
  phase _ := .waiting

theorem isSome_doubleStart :
    (doubleStart.store.token.get leapMinute.seconds doublePost.nonce).isSome = true := by
  decide +kernel

theorem acceptable_doublePost (i : Bool) : doublePost.Acceptable i := by
  refine ⟨by decide, ?_⟩
  show (tokenForm "contact").Acceptable keyedConf ((doublePost.post true).reads true) leapMinute
    visitor contactData doublePost.payload
  decide

theorem expiry_doublePost (i : Bool) :
    (RenderTokenDefence.expiry keyedConf (doublePost.post i).fp doublePost.payload).isSome =
      true := by
  show (RenderTokenDefence.expiry keyedConf (tokenForm "contact") doublePost.payload).isSome = true
  decide

/-- One after the other: the second submission is refused. -/
theorem token_spent_once_in_turn : ∃ s, (s.phase true).Passed ∧ s.phase false = .refused ∧
    Run (SpendStep doublePost) doubleStart [.check true leapMinute.seconds, .evaluate true,
      .consume true, .check false leapMinute.seconds, .evaluate false] s ∧
    ∀ i j, (s.phase i).Passed → (s.phase j).Passed → i = j := by
  obtain ⟨result, hresult⟩ := verdictPhase_of_acceptable rfl (acceptable_doublePost true)
  obtain ⟨-, -, hverdict, hpayload⟩ := verdictPhase_admitted rfl expiry_doublePost hresult
  have hspent : ((FormProtection.consumeOnPass true result doubleStart.store).token.get
      leapMinute.seconds doublePost.nonce).isSome = false := by
    rw [KeySpace.get, doublePost.token_cell_consumeOnPass _ hverdict hpayload]
    rfl
  have hrefused : (doublePost.post false).verdictPhase keyedConf false = .refused := by
    rcases (doublePost.post false).verdictPhase_cases false with ⟨result', hresult'⟩ | hrefused
    · cases (verdictPhase_admitted rfl expiry_doublePost hresult').1
    · exact hrefused
  have hundisturbed : ∀ s e, (∀ i t, e ≠ .check i t) → Undisturbed doublePost s e :=
    fun s e he i t h ↦ absurd h (he i t)
  have hfirst : Run (fun s e s' ↦ SpendStep doublePost s e s' ∧ Undisturbed doublePost s e)
      doubleStart ([] ++ [.check true leapMinute.seconds]) _ :=
    .snoc .nil ⟨.check_of rfl isSome_doubleStart, fun i t _ _ _ j _ _ h ↦ h⟩
  have hpassed := (hfirst.snoc ⟨.evaluate_of (i := true) rfl hresult,
    hundisturbed _ _ (by simp)⟩).snoc ⟨.consume (i := true) rfl, hundisturbed _ _ (by simp)⟩
  have hgone : ∀ phase, Undisturbed doublePost
      ⟨FormProtection.consumeOnPass true result doubleStart.store, phase⟩
      (.check false leapMinute.seconds) := by
    intro phase i t he hfound
    obtain ⟨rfl, rfl⟩ := SpendEvent.check.inj he
    exact absurd (hspent.symm.trans hfound) (by decide)
  have hrun := (hpassed.snoc (e := .check false leapMinute.seconds)
    ⟨.check_of rfl hspent, hgone _⟩).snoc
      ⟨.evaluate_of (i := false) rfl hrefused, hundisturbed _ _ (by simp)⟩
  refine ⟨_, ?_, ?_, hrun.imp And.left, token_spent_once rfl expiry_doublePost (fun _ ↦ rfl) hrun⟩
  · trivial
  · rfl

/-- **Both look before either has passed**, and both pass. -/
theorem token_spent_twice :
    ¬∀ (cf : FormConf) (I : Type) [DecidableEq I] (sp : Spending cf I) (s₀ s : SpendState I)
      (es : List (SpendEvent I)), cf.enabled = true →
      (∀ i, (RenderTokenDefence.expiry cf (sp.post i).fp sp.payload).isSome = true) →
      (∀ i, s₀.phase i = .waiting) → Run (SpendStep sp) s₀ es s →
      ∀ i j, (s.phase i).Passed → (s.phase j).Passed → i = j := by
  intro hall
  obtain ⟨result, hresult⟩ := verdictPhase_of_acceptable rfl (acceptable_doublePost true)
  have hlooked : Run (SpendStep doublePost) doubleStart
      ([] ++ [.check true leapMinute.seconds] ++ [.check false leapMinute.seconds]) _ :=
    .snoc (.snoc .nil (.check_of rfl isSome_doubleStart)) (.check_of rfl isSome_doubleStart)
  have hpassed := (hlooked.snoc (.evaluate_of (i := true) rfl hresult)).snoc
    (.evaluate_of (i := false) rfl hresult)
  have hsame := hall keyedConf Bool doublePost _ _ _ rfl expiry_doublePost (fun _ ↦ rfl) hpassed
    true false trivial trivial
  cases hsame

end DjangoWaf
