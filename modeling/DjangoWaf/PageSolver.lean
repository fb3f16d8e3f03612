import DjangoWaf.JsSha256
import DjangoWaf.Lib.Run
import DjangoWaf.Services.ChallengeService
import Mathlib.Algebra.Order.Field.Rat
import Mathlib.Logic.Function.Basic

/-!
# Does the page solve for the verifier?

The solver of `challenge.html` and the server it talks to. The page is loaded with a token and its
difficulty, tries one nonce after another, submits the first that passes its own check, and starts
over when a failed verification is answered with a new token.

**The page keeps its first difficulty.** The answer of `VerifyView.post` carries a new token and not
the difficulty `issue_challenge` has stored with it, which depends on the settings and the
`User-Agent` of that request. A nonce found at the first difficulty passes at every lower one
(`digestHasLeadingZeroBits_mono`), so the condition is that no replacement is harder
(`page_solves_for_the_verifier`).
-/

namespace DjangoWaf

open JsNumber PyBytes

/-! ### The check of the page -/

/-- `hasLeadingZeroBits`. -/
def hasLeadingZeroBits (hash : List UInt8) (bits : ℤ) : Bool := leadingZeros hash bits

/-- **What passes at a difficulty passes at every lower one.** -/
theorem digestHasLeadingZeroBits_mono (digest : Digest) {d D : ℤ} (hd : d ≤ D)
    (h : digestHasLeadingZeroBits digest.bytes D = true) :
    digestHasLeadingZeroBits digest.bytes d = true := by
  by_cases hzero : d ≤ 0
  · rw [digestHasLeadingZeroBits, if_pos hzero]
  obtain ⟨m, rfl⟩ := Int.eq_ofNat_of_zero_le (show 0 ≤ d by omega)
  obtain ⟨n, rfl⟩ := Int.eq_ofNat_of_zero_le (show 0 ≤ D by omega)
  obtain ⟨hn, hbytes, hlast⟩ := (digestHasLeadingZeroBits_iff digest (by omega)).1 h
  refine (digestHasLeadingZeroBits_iff digest (by omega)).2
    ⟨by omega, fun i hi ↦ hbytes i (by omega), ?_⟩
  rcases Nat.lt_or_ge (m / 8) (n / 8) with hlt | hge
  · -- the last byte that counts is one of the zero bytes
    rw [hbytes _ hlt]
    exact .inr (Nat.pow_pos (by decide))
  · have hquot : m / 8 = n / 8 := by omega
    rw [hquot]
    rcases hlast with hrem | hlast
    · exact .inl (by omega)
    · exact .inr (lt_of_lt_of_le hlast (Nat.pow_le_pow_right (by decide) (by omega)))

/-- **What the page accepts the server accepts**, at a difficulty that is not just beyond the
digest. -/
theorem digestHasLeadingZeroBits_of_page (digest : Digest) {bits : ℤ}
    (hbits : bits ≤ 256 ∨ (264 ≤ bits ∧ bits < 2 ^ 31))
    (h : hasLeadingZeroBits digest.bytes bits = true) :
    digestHasLeadingZeroBits digest.bytes bits = true := by
  by_cases hzero : bits ≤ 0
  · rw [digestHasLeadingZeroBits, if_pos hzero]
  obtain ⟨n, rfl⟩ := Int.eq_ofNat_of_zero_le (show 0 ≤ bits by omega)
  obtain ⟨hbytes, hlast⟩ := (leadingZeros_iff digest.bytes (by omega)).1 h
  have hn : n ≤ 256 := by
    by_contra hn
    have hbeyond := hbytes 32 (by omega)
    rw [List.getElem?_eq_none (by rw [digest.length_bytes])] at hbeyond
    cases hbeyond
  refine (digestHasLeadingZeroBits_iff digest (by omega)).2 ⟨hn, fun i hi ↦ ?_, hlast⟩
  rw [List.getD_eq_getElem?_getD, hbytes i hi]
  rfl

/-! ### The page and the server -/

/-- What the page is doing. -/
inductive PagePhase
  /-- In the loop of `solve`. -/
  | solving
  /-- In `submit`, until the answer comes. -/
  | waiting (solution : String)
  /-- It has moved on, or shows an error. -/
  | stopped
  deriving DecidableEq

/-- The variables of the page. -/
structure SolverPage where
  token : String
  difficulty : ℤ
  nonce : ℤ
  phase : PagePhase

/-- `nonce.toString()`. -/
def nonceText (nonce : ℤ) : String := String.ofList (intText nonce)

/-- One turn of the loop. -/
def SolverPage.attempt (p : SolverPage) : SolverPage :=
  match challengePageSha256 (p.token ++ nonceText p.nonce) with
  | none => { p with phase := .stopped }
  | some hash =>
    if hasLeadingZeroBits hash p.difficulty = true then
      { p with phase := .waiting (nonceText p.nonce) }
    else
      let nonce := add p.nonce 1
      let maxAttempts : ℚ := 2 ^ p.difficulty * 64
      if maxAttempts < nonce then { p with nonce, phase := .stopped } else { p with nonce }

/-- What is submitted. -/
def SolverPage.submission (p : SolverPage) : List (String × String) :=
  match p.phase with
  | .waiting solution => [(p.token, solution)]
  | _ => []

/-- The tokens in the table, the page, and what it has submitted so far. -/
structure SolverRun where
  rows : String → Option ChallengeRow
  page : SolverPage
  submissions : List (String × String)

/-- The page as it is loaded with a token. -/
def SolverRun.load (rows : String → Option ChallengeRow) (row : ChallengeRow) : SolverRun where
  rows
  page := ⟨row.token, row.difficulty, 0, .solving⟩
  submissions := []

/-- What the server sees and has at hand when it verifies. -/
structure VerifyRequest where
  conf : ChallengeConf
  userAgent : String
  ipAddress : String
  entry : ChallengeCache
  now : ℚ
  newToken : String
  expiresIso : String

/-- What `verify_challenge_solution` makes of a submission. -/
def SolverRun.verify (k : Signing) (cols : ChallengeColumns) (s : SolverRun) (solution : String)
    (r : VerifyRequest) : Except ChallengeError Bool × ChallengeRecord :=
  verifyChallengeSolution k cols ⟨s.rows s.page.token, r.entry⟩ solution r.ipAddress r.now

/-- The rows after a verification and a replacement. -/
def SolverRun.replacedRows (k : Signing) (cols : ChallengeColumns) (s : SolverRun)
    (solution : String) (r : VerifyRequest) (row : ChallengeRow) : String → Option ChallengeRow :=
  Function.update (Function.update s.rows s.page.token (s.verify k cols solution r).2.row)
    r.newToken (some row)

inductive SolverEvent
  | attempt
  /-- A verification without a new token: the solution is accepted, an exception leaves the view, or
  no token could be issued. -/
  | answered (r : VerifyRequest)
  /-- A verification fails, and the answer carries a new token. -/
  | replaced (r : VerifyRequest)
  /-- The same, but the answer does not reach the page. -/
  | unheard (r : VerifyRequest)
  /-- No answer, or an answer without a verification. -/
  | lost

/-- `secrets.token_hex(64)`. -/
def IsTokenHex (token : String) : Prop :=
  token.toList.length = 128 ∧ ∀ c ∈ token.toList, IsHex c

/-- The steps of the page and of `VerifyView.post`. -/
inductive SolverStep (k : Signing) (cols : ChallengeColumns) :
    SolverRun → SolverEvent → SolverRun → Prop
  | attempt {s : SolverRun} (h : s.page.phase = .solving) :
    SolverStep k cols s .attempt
      { s with page := s.page.attempt, submissions := s.submissions ++ s.page.attempt.submission }
  | answered {s : SolverRun} {solution : String} (h : s.page.phase = .waiting solution)
    (r : VerifyRequest) :
    SolverStep k cols s (.answered r)
      { s with
        rows := Function.update s.rows s.page.token (s.verify k cols solution r).2.row
        page := { s.page with phase := .stopped } }
  | replaced {s : SolverRun} {solution : String} (h : s.page.phase = .waiting solution)
    (r : VerifyRequest) {e : ChallengeError} (he : e ≠ .other)
    (hresult : (s.verify k cols solution r).1 = .error e) (hhex : IsTokenHex r.newToken)
    (hfresh : s.rows r.newToken = none) {row : ChallengeRow} {entry : ChallengeCache}
    (hissue : issueChallenge r.conf cols r.ipAddress r.userAgent r.newToken r.now r.expiresIso =
      some (row, entry)) :
    SolverStep k cols s (.replaced r)
      { s with
        rows := s.replacedRows k cols solution r row
        page := { s.page with token := row.token, nonce := 0, phase := .solving } }
  | unheard {s : SolverRun} {solution : String} (h : s.page.phase = .waiting solution)
    (r : VerifyRequest) (hfresh : s.rows r.newToken = none) (row : ChallengeRow) :
    SolverStep k cols s (.unheard r)
      { s with
        rows := s.replacedRows k cols solution r row
        page := { s.page with phase := .stopped } }
  | lost {s : SolverRun} {solution : String} (h : s.page.phase = .waiting solution) :
    SolverStep k cols s .lost { s with page := { s.page with phase := .stopped } }

/-- A replacement is no harder than the token the page was loaded with. -/
def NoHarder (s : SolverRun) (e : SolverEvent) : Prop :=
  ∀ r, e = .replaced r → pickDifficulty r.conf r.userAgent ≤ s.page.difficulty

/-! ### The invariant -/

section

variable {wafKey : String} {secret : List UInt8} {cols : ChallengeColumns}

/-- A nonce that is still counted exactly has few digits. -/
theorem length_nonceText {n : ℤ} (hn : 0 ≤ n ∧ n ≤ 2 ^ 53) :
    (utf8Encode (nonceText n)).length ≤ 16 := by
  have hascii : ∀ c ∈ Nat.toDigits 10 n.natAbs, isAscii c = true := by
    intro c hc
    have hrange := toNat_mem_of_isDigit (Nat.isDigit_of_mem_toDigits (by decide) (by decide) hc)
    exact decide_eq_true (by omega)
  rw [nonceText, intText, if_neg (by omega), utf8Encode_ofList_ascii hascii, List.length_map,
    Nat.length_toDigits_le_iff (by decide) (by decide)]
  omega

/-- The page hashes what the server hashes. -/
theorem challengePageSha256_eq {token : String} {n : ℤ} (htoken : IsTokenHex token)
    (hn : 0 ≤ n ∧ n ≤ 2 ^ 53) :
    challengePageSha256 (token ++ nonceText n) =
      some (Sha256.sha256 (utf8Encode (token ++ nonceText n))).bytes := by
  have hlength : (utf8Encode token).length = 128 := by
    rw [← String.ofList_toList (s := token), utf8Encode_ofList_ascii fun c hc ↦
      (htoken.2 c hc).isAscii, List.length_map, htoken.1]
  refine JsSha256.sha256_eq challengePage_standard ?_
  have hnonce := length_nonceText hn
  rw [utf8Encode_append, List.length_append]
  omega

/-- The difficulty of a row never changes. -/
theorem verify_keeps_difficulty (k : Signing) (cols : ChallengeColumns) (s : ChallengeRecord)
    (nonce : PyText) (ipAddress : String) (now : ℚ) :
    (verifyChallengeSolution k cols s nonce ipAddress now).2.row.map (·.difficulty) =
      s.row.map (·.difficulty) := by
  have hsave : ∀ status, (s.row.map fun row ↦ row.save status nonce now).map (·.difficulty) =
      s.row.map (·.difficulty) := by
    intro status
    rw [Option.map_map]
    congr 1
    funext row
    show (row.save status nonce now).difficulty = row.difficulty
    rw [ChallengeRow.save]
    split_ifs <;> rfl
  rw [verifyChallengeSolution]
  cases decideChallenge k s.entry.read s.row nonce ipAddress now with
  | raise e => rfl
  | save status =>
    dsimp only
    split_ifs
    · rfl
    · cases status.error with
      | some e => exact hsave status
      | none => exact hsave status

/-- The tokens of a table are in another, at the same difficulty. -/
def KeepsDifficulty (rows rows' : String → Option ChallengeRow) : Prop :=
  ∀ t row, rows t = some row → ∃ row', rows' t = some row' ∧ row'.difficulty = row.difficulty

theorem SolverRun.keeps_verify (k : Signing) (cols : ChallengeColumns) (s : SolverRun)
    (solution : String) (r : VerifyRequest) :
    KeepsDifficulty s.rows
      (Function.update s.rows s.page.token (s.verify k cols solution r).2.row) := by
  intro t row hrow
  by_cases ht : t = s.page.token
  · have hmap := verify_keeps_difficulty k cols ⟨s.rows s.page.token, r.entry⟩ solution
      r.ipAddress r.now
    rw [ht] at hrow ⊢
    rw [Function.update_self]
    exact Option.map_eq_some_iff.1 (hmap.trans (congrArg _ hrow))
  · rw [Function.update_of_ne ht]
    exact ⟨row, hrow, rfl⟩

/-- A new token takes no place that is taken. -/
theorem SolverRun.keeps_replacedRows (k : Signing) (cols : ChallengeColumns) (s : SolverRun)
    (solution : String) {r : VerifyRequest} (hfresh : s.rows r.newToken = none)
    (row : ChallengeRow) : KeepsDifficulty s.rows (s.replacedRows k cols solution r row) := by
  intro t row' hrow
  have hne : t ≠ r.newToken := by
    rintro rfl
    cases hfresh.symm.trans hrow
  rw [replacedRows, Function.update_of_ne hne]
  exact s.keeps_verify k cols solution r t row' hrow

/-- The invariant of a page that was loaded at a difficulty. -/
structure SolverInv (k : Signing) (D : ℤ) (s : SolverRun) : Prop where
  difficulty : s.page.difficulty = D
  token : IsTokenHex s.page.token ∧
    ∃ row, s.rows s.page.token = some row ∧ row.difficulty ≤ D
  nonce : 0 ≤ s.page.nonce ∧ s.page.nonce ≤ 2 ^ 53
  passed : ∀ p ∈ s.submissions,
    ∃ row, s.rows p.1 = some row ∧ solvesPow k p.1 p.2 row.difficulty = some true

/-- What was submitted before goes on passing. -/
theorem SolverInv.passed_of_keeps {k : Signing} {D : ℤ} {s : SolverRun} (hinv : SolverInv k D s)
    {rows : String → Option ChallengeRow} (hkeeps : KeepsDifficulty s.rows rows) :
    ∀ p ∈ s.submissions, ∃ row, rows p.1 = some row ∧
      solvesPow k p.1 p.2 row.difficulty = some true := by
  intro p hp
  obtain ⟨row, hrow, hpow⟩ := hinv.passed p hp
  obtain ⟨row', hrow', hdifficulty⟩ := hkeeps p.1 row hrow
  exact ⟨row', hrow', hdifficulty ▸ hpow⟩

/-- Counting stops where doubles are no longer consecutive. -/
theorem add_one_le {n : ℤ} (hn : 0 ≤ n ∧ n ≤ 2 ^ 53) : 0 ≤ add n 1 ∧ add n 1 ≤ 2 ^ 53 := by
  have hlast : roundDouble 9007199254740992 = 9007199254740992 := by decide +kernel
  have hover : roundDouble 9007199254740993 = 9007199254740992 := by decide +kernel
  rcases lt_or_ge (n + 1) (2 ^ 53) with hlt | hge
  · rw [add_of_lt (by omega)]
    omega
  · rcases (show n + 1 = 9007199254740992 ∨ n + 1 = 9007199254740993 by omega) with h | h
    · rw [add, h, hlast]
      decide
    · rw [add, h, hover]
      decide

/-- A turn of the loop, when the message can be hashed. -/
theorem SolverPage.attempt_eq {p : SolverPage} {hash : List UInt8}
    (h : challengePageSha256 (p.token ++ nonceText p.nonce) = some hash) :
    p.attempt = if hasLeadingZeroBits hash p.difficulty = true then
        { p with phase := .waiting (nonceText p.nonce) }
      else if (2 ^ p.difficulty * 64 : ℚ) < add p.nonce 1 then
        { p with nonce := add p.nonce 1, phase := .stopped }
      else { p with nonce := add p.nonce 1 } := by
  unfold attempt
  generalize challengePageSha256 (p.token ++ nonceText p.nonce) = result at h
  subst h
  rfl

/-- **One turn of the loop**: the variables stay, and what passes on the page passes on the
server. -/
theorem SolverPage.attempt_spec {p : SolverPage} (hphase : p.phase = .solving)
    (htoken : IsTokenHex p.token) (hnonce : 0 ≤ p.nonce ∧ p.nonce ≤ 2 ^ 53)
    (hD : p.difficulty ≤ 256 ∨ (264 ≤ p.difficulty ∧ p.difficulty < 2 ^ 31)) :
    p.attempt.token = p.token ∧ p.attempt.difficulty = p.difficulty ∧
      (0 ≤ p.attempt.nonce ∧ p.attempt.nonce ≤ 2 ^ 53) ∧
      ∀ q ∈ p.attempt.submission, q.1 = p.token ∧
        solvesPow (.standard wafKey secret) p.token q.2 p.difficulty = some true := by
  have hnone : ∀ q : String × String, q ∉ ({ p with nonce := add p.nonce 1 }).submission := by
    intro q hq
    rw [submission, hphase] at hq
    cases hq
  have hserver : solvesPow (.standard wafKey secret) p.token (nonceText p.nonce) p.difficulty =
      some (digestHasLeadingZeroBits
        (Sha256.sha256 (utf8Encode (p.token ++ nonceText p.nonce))).bytes p.difficulty) :=
    solvesPow_ofString _ _ _ _
  have hattempt := attempt_eq (challengePageSha256_eq htoken hnonce)
  generalize Sha256.sha256 (utf8Encode (p.token ++ nonceText p.nonce)) = digest
    at hserver hattempt
  rw [hattempt]
  split_ifs with hpass hmax
  · refine ⟨rfl, rfl, hnonce, fun q hq ↦ ?_⟩
    obtain rfl := List.mem_singleton.1 hq
    exact ⟨rfl, hserver.trans (congrArg some (digestHasLeadingZeroBits_of_page digest hD hpass))⟩
  · exact ⟨rfl, rfl, add_one_le hnonce, fun q hq ↦ by cases hq⟩
  · exact ⟨rfl, rfl, add_one_le hnonce, fun q hq ↦ absurd hq (hnone q)⟩

theorem issueChallenge_spec {cf : ChallengeConf} {ipAddress userAgent token iso : String} {now : ℚ}
    {row : ChallengeRow} {entry : ChallengeCache}
    (h : issueChallenge cf cols ipAddress userAgent token now iso = some (row, entry)) :
    row.token = token ∧ row.difficulty = pickDifficulty cf userAgent := by
  rw [issueChallenge] at h
  split_ifs at h
  obtain ⟨rfl, -⟩ := Prod.mk.inj (Option.some.inj h)
  exact ⟨rfl, rfl⟩

/-- **One step keeps the invariant**, unless it brings a harder token. -/
theorem SolverInv.step {s t : SolverRun} {e : SolverEvent} {D : ℤ}
    (hD : D ≤ 256 ∨ (264 ≤ D ∧ D < 2 ^ 31)) (hinv : SolverInv (.standard wafKey secret) D s)
    (hstep : SolverStep (.standard wafKey secret) cols s e t) (hcond : NoHarder s e) :
    SolverInv (.standard wafKey secret) D t := by
  obtain ⟨htoken, row, hrow, hle⟩ := hinv.token
  cases hstep with
  | attempt h =>
    obtain ⟨htok, hdifficulty, hnonce, hpassed⟩ := SolverPage.attempt_spec h htoken hinv.nonce
      (hinv.difficulty ▸ hD)
    refine ⟨hdifficulty.trans hinv.difficulty, ?_, hnonce, fun p hp ↦ ?_⟩
    · rw [show s.page.attempt.token = s.page.token from htok]
      exact ⟨htoken, row, hrow, hle⟩
    · rcases List.mem_append.1 hp with hp | hp
      · exact hinv.passed p hp
      · obtain ⟨hp1, hpow⟩ := hpassed p hp
        refine ⟨row, hp1 ▸ hrow, ?_⟩
        rw [hinv.difficulty, solvesPow_ofString] at hpow
        rw [hp1, solvesPow_ofString]
        exact congrArg some (digestHasLeadingZeroBits_mono _ hle (Option.some.inj hpow))
  | @answered solution h r =>
    have hkeeps := s.keeps_verify (.standard wafKey secret) cols solution r
    obtain ⟨row', hrow', hdifficulty⟩ := hkeeps _ row hrow
    exact ⟨hinv.difficulty, ⟨htoken, row', hrow', hdifficulty ▸ hle⟩, hinv.nonce,
      hinv.passed_of_keeps hkeeps⟩
  | @replaced solution h r e he hresult hhex hfresh row'' entry hissue =>
    obtain ⟨htok, hdifficulty⟩ := issueChallenge_spec hissue
    have hkeeps := s.keeps_replacedRows (.standard wafKey secret) cols solution hfresh row''
    have hpick := hcond r rfl
    have hnew : s.replacedRows (.standard wafKey secret) cols solution r row'' row''.token =
        some row'' := by
      rw [htok]
      exact Function.update_self ..
    have hle' : row''.difficulty ≤ D := by
      rw [hdifficulty, ← hinv.difficulty]
      exact hpick
    exact ⟨hinv.difficulty, ⟨show IsTokenHex row''.token from htok ▸ hhex, row'', hnew, hle'⟩,
      ⟨le_rfl, show (0 : ℤ) ≤ 2 ^ 53 by decide⟩, hinv.passed_of_keeps hkeeps⟩
  | @unheard solution h r hfresh row'' =>
    have hkeeps := s.keeps_replacedRows (.standard wafKey secret) cols solution hfresh row''
    obtain ⟨row', hrow', hdifficulty⟩ := hkeeps _ row hrow
    exact ⟨hinv.difficulty, ⟨htoken, row', hrow', hdifficulty ▸ hle⟩, hinv.nonce,
      hinv.passed_of_keeps hkeeps⟩
  | lost h => exact ⟨hinv.difficulty, hinv.token, hinv.nonce, hinv.passed⟩

/-- **Everything the page submits passes on the server**, in every run in which no replacement is
harder than the token the page was loaded with. -/
theorem page_solves_for_the_verifier {cf : ChallengeConf} {ipAddress userAgent token iso : String}
    {now : ℚ} {row : ChallengeRow} {entry : ChallengeCache}
    {rows : String → Option ChallengeRow} {es : List SolverEvent} {t : SolverRun}
    (hissue : issueChallenge cf cols ipAddress userAgent token now iso = some (row, entry))
    (hhex : IsTokenHex token) (hrow : rows token = some row)
    (hfirst : row.difficulty ≤ 256 ∨ (264 ≤ row.difficulty ∧ row.difficulty < 2 ^ 31))
    (hrun : Run (fun s e t ↦ SolverStep (.standard wafKey secret) cols s e t ∧ NoHarder s e)
      (.load rows row) es t) :
    ∀ p ∈ t.submissions, ∃ row, t.rows p.1 = some row ∧
      solvesPow (.standard wafKey secret) p.1 p.2 row.difficulty = some true := by
  obtain ⟨htoken, -⟩ := issueChallenge_spec hissue
  have hstart : SolverInv (.standard wafKey secret) row.difficulty (.load rows row) :=
    { difficulty := rfl
      token := ⟨show IsTokenHex row.token by rwa [htoken], row,
        show rows row.token = some row by rwa [htoken], le_rfl⟩
      nonce := ⟨le_rfl, show (0 : ℤ) ≤ 2 ^ 53 by decide⟩
      passed := by rintro p ⟨⟩ }
  have hinv := hrun.invariant
    (P := fun _ s ↦ SolverInv (.standard wafKey secret) row.difficulty s) hstart
    fun _ hinv he ↦ hinv.step hfirst he.1 he.2
  exact hinv.passed

end

/-! ### A visitor who changes networks -/

/-- The settings of the examples, with a difficulty. -/
def solverConf (difficulty : ℤ) : ChallengeConf :=
  { ChallengeConf.defaults (.standard "" []) with difficulty }

/-- Columns of the examples. -/
def solverColumns : ChallengeColumns := ⟨id, fun _ ↦ true, fun _ ↦ true⟩

/-- A row as it is issued. -/
def solverRow (token ipAddress : String) (difficulty now : ℤ) : ChallengeRow where
  token
  ipAddress
  difficulty
  nonce := ""
  status := .pending
  expiresAt := now + (86400 : ℤ)
  solvedAt := none

/-- The verification fails, as the visitor has another address by now, and a new token comes
back. -/
def mobileRequest (newToken : String) (difficulty : ℤ) : VerifyRequest where
  conf := solverConf difficulty
  userAgent := ""
  ipAddress := "198.51.100.9"
  entry := .missing
  now := 1010
  newToken
  expiresIso := "1970-01-02T00:16:50+00:00"

/-- Nonce `0` passes on a page at difficulty 4. -/
structure PassesAtOnce (token : String) : Prop where
  isHex : IsTokenHex token
  passes : hasLeadingZeroBits (Sha256.sha256 (utf8Encode (token ++ "0"))).bytes 4 = true

section

variable {A B : String} (hA : PassesAtOnce A) (hB : PassesAtOnce B)

include hA

/-- The page submits at its first attempt. -/
theorem PassesAtOnce.attempt (rows : String → Option ChallengeRow)
    (submissions : List (String × String)) :
    SolverStep (.standard "" []) solverColumns ⟨rows, ⟨A, 4, 0, .solving⟩, submissions⟩ .attempt
      ⟨rows, ⟨A, 4, 0, .waiting "0"⟩, submissions ++ [(A, "0")]⟩ := by
  have htext : nonceText 0 = "0" := by decide +kernel
  have hattempt : (SolverPage.mk A 4 0 .solving).attempt = ⟨A, 4, 0, .waiting "0"⟩ := by
    have hhash := challengePageSha256_eq hA.isHex (n := 0) ⟨le_rfl, by decide⟩
    rw [SolverPage.attempt_eq (p := ⟨A, 4, 0, .solving⟩) hhash, if_pos (htext ▸ hA.passes)]
    show SolverPage.mk A 4 0 (.waiting (nonceText 0)) = _
    rw [htext]
  have hstep : SolverStep (.standard "" []) solverColumns
      ⟨rows, ⟨A, 4, 0, .solving⟩, submissions⟩ .attempt _ := .attempt rfl
  simp only [hattempt] at hstep
  exact hstep

include hB

/-- The page submits nonce `0` for either token, whatever the difficulty of the second. -/
theorem solver_run (hne : B ≠ A) (difficulty : ℤ) :
    ∃ t, Run (fun s e t ↦ SolverStep (.standard "" []) solverColumns s e t ∧
        (difficulty ≤ 4 → NoHarder s e))
      (.load (Function.update (fun _ ↦ none) A (some (solverRow A "192.0.2.7" 4 1000)))
        (solverRow A "192.0.2.7" 4 1000))
      [.attempt, .replaced (mobileRequest B difficulty), .attempt] t ∧
    t.submissions = [(A, "0"), (B, "0")] ∧
    t.rows B = some (solverRow B "198.51.100.9" difficulty 1010) := by
  obtain ⟨rows, hrows⟩ : ∃ rows : String → Option ChallengeRow,
    rows = Function.update (fun _ ↦ none) A (some (solverRow A "192.0.2.7" 4 1000)) := ⟨_, rfl⟩
  rw [← hrows]
  have hrow : rows A = some (solverRow A "192.0.2.7" 4 1000) := by
    rw [hrows, Function.update_self]
  have hfresh : rows B = none := by
    rw [hrows, Function.update_of_ne hne]
  have hdecide : decideChallenge (.standard "" []) ChallengeCache.missing.read
      (some (solverRow A "192.0.2.7" 4 1000)) "0" "198.51.100.9" 1010 = .raise .mismatch := by
    have hpending : ¬(solverRow A "192.0.2.7" 4 1000).status.Terminal := not_not.2 rfl
    have hlive : ¬(solverRow A "192.0.2.7" 4 1000).expiresAt < 1010 := by
      show ¬(((1000 : ℤ) : ℚ) + ((86400 : ℤ) : ℚ) < 1010)
      decide +kernel
    have hip : (Json.str (solverRow A "192.0.2.7" 4 1000).ipAddress).eqText "198.51.100.9" =
        false := by
      show (Json.str "192.0.2.7").eqText "198.51.100.9" = false
      decide
    rw [ChallengeCache.read, decideChallenge, checkChallenge, if_neg hpending, if_neg hlive,
      if_pos hip]
  have hfail : (SolverRun.verify (.standard "" []) solverColumns
      ⟨rows, ⟨A, 4, 0, .waiting "0"⟩, [(A, "0")]⟩ "0" (mobileRequest B difficulty)).1 =
        .error .mismatch := by
    show (verifyChallengeSolution _ _ ⟨rows A, .missing⟩ "0" "198.51.100.9" 1010).1 = _
    rw [hrow, verifyChallengeSolution]
    dsimp only
    rw [hdecide]
  obtain ⟨entry, hissue⟩ : ∃ entry, issueChallenge (solverConf difficulty) solverColumns
      "198.51.100.9" "" B 1010 "1970-01-02T00:16:50+00:00" =
        some (solverRow B "198.51.100.9" difficulty 1010, entry) := ⟨_, rfl⟩
  have hreplaced : SolverStep (.standard "" []) solverColumns
      ⟨rows, ⟨A, 4, 0, .waiting "0"⟩, [(A, "0")]⟩ (.replaced (mobileRequest B difficulty)) _ :=
    .replaced rfl _ (by decide) hfail hB.isHex hfresh hissue
  have hharder : difficulty ≤ 4 → NoHarder
      ⟨rows, ⟨A, 4, 0, .waiting "0"⟩, [(A, "0")]⟩ (.replaced (mobileRequest B difficulty)) := by
    rintro hle r ⟨⟩
    exact hle
  have hnone : ∀ s, NoHarder s .attempt := by rintro s r ⟨⟩
  exact ⟨_, .snoc (.snoc (.snoc .nil ⟨hA.attempt rows [], fun _ ↦ hnone _⟩) ⟨hreplaced, hharder⟩)
    ⟨hB.attempt _ [(A, "0")], fun _ ↦ hnone _⟩, rfl, Function.update_self ..⟩

end

/-- A token of two digits, again and again. -/
def repeatedToken (a b : Char) : String := String.ofList (List.replicate 64 [a, b]).flatten

theorem isTokenHex_repeatedToken {a b : Char} (ha : PyBytes.IsHex a) (hb : PyBytes.IsHex b) :
    IsTokenHex (repeatedToken a b) := by
  rw [IsTokenHex, repeatedToken, String.toList_ofList]
  refine ⟨rfl, fun c hc ↦ ?_⟩
  obtain ⟨l, hl, hc⟩ := List.mem_flatten.1 hc
  rw [List.eq_of_mem_replicate hl] at hc
  rcases List.mem_pair.1 hc with rfl | rfl
  · exact ha
  · exact hb

theorem passesAtOnce_29 : PassesAtOnce (repeatedToken '2' '9') :=
  ⟨isTokenHex_repeatedToken (by decide) (by decide), by decide +kernel⟩

theorem passesAtOnce_30 : PassesAtOnce (repeatedToken '3' '0') :=
  ⟨isTokenHex_repeatedToken (by decide) (by decide), by decide +kernel⟩

/-- **A page at difficulty 4 goes on at difficulty 4** when the default difficulty is 16 by the time
a verification fails. -/
theorem page_solves_for_another_difficulty :
    ∃ t row, Run (SolverStep (.standard "" []) solverColumns)
        (.load (Function.update (fun _ ↦ none) (repeatedToken '2' '9')
          (some (solverRow (repeatedToken '2' '9') "192.0.2.7" 4 1000)))
          (solverRow (repeatedToken '2' '9') "192.0.2.7" 4 1000))
        [.attempt, .replaced (mobileRequest (repeatedToken '3' '0') 16), .attempt] t ∧
      (repeatedToken '3' '0', "0") ∈ t.submissions ∧ t.rows (repeatedToken '3' '0') = some row ∧
      solvesPow (.standard "" []) (repeatedToken '3' '0') "0" row.difficulty = some false := by
  obtain ⟨t, hrun, hsubmissions, hrow⟩ :=
    solver_run passesAtOnce_29 passesAtOnce_30 (by decide +kernel) 16
  refine ⟨t, _, hrun.imp And.left, ?_, hrow, ?_⟩
  · rw [hsubmissions]
    exact List.mem_cons_of_mem _ List.mem_cons_self
  · show solvesPow (.standard "" []) (repeatedToken '3' '0') "0" 16 = some false
    decide +kernel

/-- The same run while the default difficulty stays what it was. -/
theorem page_solves_for_the_same_difficulty :
    ∃ t : SolverRun, t.submissions = [(repeatedToken '2' '9', "0"), (repeatedToken '3' '0', "0")] ∧
      ∀ p ∈ t.submissions, ∃ row, t.rows p.1 = some row ∧
        solvesPow (.standard "" []) p.1 p.2 row.difficulty = some true := by
  obtain ⟨t, hrun, hsubmissions, -⟩ :=
    solver_run passesAtOnce_29 passesAtOnce_30 (by decide +kernel) 4
  obtain ⟨entry, hissue⟩ : ∃ entry, issueChallenge (solverConf 4) solverColumns "192.0.2.7" ""
      (repeatedToken '2' '9') (1000 : ℤ) "1970-01-02T00:16:40+00:00" =
        some (solverRow (repeatedToken '2' '9') "192.0.2.7" 4 1000, entry) := ⟨_, rfl⟩
  exact ⟨t, hsubmissions, page_solves_for_the_verifier hissue passesAtOnce_29.isHex
    (Function.update_self ..) (.inl (by decide)) (hrun.imp fun h ↦ ⟨h.1, h.2 le_rfl⟩)⟩

end DjangoWaf
