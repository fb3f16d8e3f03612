import DjangoWaf.Forms.Replay
import DjangoWaf.Lib.IpAddress
import DjangoWaf.Lib.Json
import DjangoWaf.Models

/-!
# The challenge service

`services/challenge_service.py`: a token is issued with the difficulty of the visitor's device
class, as a row and as a Redis entry; a nonce is verified against it; and a solved challenge is
remembered in the pass cookie.

* The entry is what `json.loads` makes of the value (`ChallengeCache`). Only a syntax error and a
  missing field send the caller to the row; **any other shape raises**.
* `verify_challenge_solution` reads the entry and the row, decides (`checkChallenge`), and then
  saves one status. The decision is a definition of its own, so that calls which take turns can be
  built from the same pieces.
* The hash functions are those of `Signing`.
-/

namespace DjangoWaf

open PyBytes

/-! ### Tokens -/

/-- A status a token keeps. -/
def ChallengeStatus.Terminal (s : ChallengeStatus) : Prop := s ≠ .pending

instance : DecidablePred ChallengeStatus.Terminal := fun s ↦ inferInstanceAs (Decidable (s ≠ _))

/-- `ChallengeToken`, with the columns only the service uses. -/
structure ChallengeRow extends ChallengeToken where
  token : String
  difficulty : ℤ
  nonce : PyText
  expiresAt : ℚ

/-- The settings of the service, with the hash functions of the runtime. -/
structure ChallengeConf extends Signing where
  /-- `DJANGO_WAF_CHALLENGE_DIFFICULTY`. -/
  difficulty : ℤ
  /-- `DJANGO_WAF_CHALLENGE_DIFFICULTY_DESKTOP`. -/
  difficultyDesktop : Option ℤ
  /-- `DJANGO_WAF_CHALLENGE_DIFFICULTY_MOBILE`. -/
  difficultyMobile : Option ℤ
  /-- `DJANGO_WAF_CHALLENGE_COOKIE_TTL`. -/
  cookieTtl : ℤ

/-- The default settings. -/
def ChallengeConf.defaults (k : Signing) : ChallengeConf where
  toSigning := k
  difficulty := 16
  difficultyDesktop := none
  difficultyMobile := none
  cookieTtl := 86400

/-- The columns of the `ChallengeToken` table, as a database keeps them. -/
structure ChallengeColumns where
  /-- What `ip_address` holds after an address was written to it. -/
  ipAddress : String → String
  /-- The value fits `difficulty`. -/
  fitsDifficulty : ℤ → Bool
  /-- The text fits `nonce`. -/
  fitsNonce : PyText → Bool

/-- `_is_mobile_user_agent`. -/
def isMobileUserAgent (userAgent : String) : Bool :=
  if userAgent = "" then false
  else
    let ua := PyStr.lower userAgent
    PyStr.contains ua "mobi" || PyStr.contains ua "iphone" || PyStr.contains ua "ipod"

/-- `_pick_difficulty`. -/
def pickDifficulty (cf : ChallengeConf) (userAgent : String) : ℤ :=
  let value := if isMobileUserAgent userAgent = true then cf.difficultyMobile
    else cf.difficultyDesktop
  value.getD cf.difficulty

/-! ### The Redis entry -/

/-- What `json.loads` makes of the value of `waf:challenge:{token}`. -/
inductive ChallengeCache
  /-- There is no key, or its value is empty. -/
  | missing
  /-- `JSONDecodeError`. -/
  | undecodable
  /-- Another exception: the value is not UTF-8, is nested too deep, or has a number too long. -/
  | unreadable
  | value (j : Json)

/-- What a caller gets from the entry. -/
inductive ChallengeLookup
  | absent
  | found (storedIp : Json) (difficulty : ℤ)
  /-- An exception that is not handled. -/
  | raises

/-- `int(value)`; `none` where it raises. -/
def pyIntOfJson : Json → Option ℤ
  | .int n => some n
  | .bool b => some b.toNat
  | .float (.finite q) => some (PyStr.truncate q)
  | .str s => pyIntOfText s.toList
  | _ => none

/-- The lookup in Redis: `data["ip"]` and `int(data["difficulty"])`. -/
def ChallengeCache.read : ChallengeCache → ChallengeLookup
  | missing => .absent
  | undecodable => .absent
  | unreadable => .raises
  | value (.obj fields) =>
    match Json.field? fields "ip" with
    | none => .absent
    | some storedIp =>
      match Json.field? fields "difficulty" with
      | none => .absent
      | some difficulty =>
        match pyIntOfJson difficulty with
        | none => .raises
        | some difficulty => .found storedIp difficulty
  | value _ => .raises

/-! ### Issuing -/

/-- The row and the entry of `issue_challenge`, at `now` and with a fresh token; `none` where the
database refuses the row. -/
def issueChallenge (cf : ChallengeConf) (cols : ChallengeColumns)
    (ipAddress userAgent token : String) (now : ℚ) (expiresIso : String) :
    Option (ChallengeRow × ChallengeCache) :=
  let difficulty := pickDifficulty cf userAgent
  if cols.fitsDifficulty difficulty = true then
    let row : ChallengeRow :=
      { token
        ipAddress := cols.ipAddress ipAddress
        difficulty
        nonce := ""
        status := .pending
        expiresAt := now + cf.cookieTtl
        solvedAt := none }
    some (row, .value (.obj [("ip", .str ipAddress), ("difficulty", .int difficulty),
      ("expires", .str expiresIso)]))
  else none

/-! ### Verifying -/

/-- The exceptions of `verify_challenge_solution`. -/
inductive ChallengeError
  /-- `ChallengeExpiredError`. -/
  | expired
  /-- `ChallengeMismatchError`. -/
  | mismatch
  /-- `ChallengeInvalidError`. -/
  | invalid
  /-- Any other. -/
  | other
  deriving DecidableEq, Repr

/-- SHA-256 of token and nonce starts with as many zero bits; `none` where the nonce cannot be
encoded. -/
def solvesPow (k : Signing) (token : String) (nonce : PyText) (difficulty : ℤ) : Option Bool :=
  nonce.encode.map fun bytes ↦
    digestHasLeadingZeroBits (k.sha256 (utf8Encode token ++ bytes)).bytes difficulty

theorem solvesPow_ofString (k : Signing) (token nonce : String) (difficulty : ℤ) :
    solvesPow k token nonce difficulty = some
      (digestHasLeadingZeroBits (k.sha256 (utf8Encode (token ++ nonce))).bytes difficulty) := by
  rw [solvesPow, PyText.encode_ofString, utf8Encode_append]
  rfl

/-- What the checks decide: an exception, or a status to save first. -/
inductive ChallengeDecision
  | raise (e : ChallengeError)
  | save (status : ChallengeStatus)
  deriving DecidableEq

/-- The checks of `verify_challenge_solution`, on the row it has read. -/
def checkChallenge (k : Signing) (row : ChallengeRow) (storedIp : Json) (difficulty : ℤ)
    (nonce : PyText) (ipAddress : String) (now : ℚ) : ChallengeDecision :=
  if row.status.Terminal then .raise .expired
  else if row.expiresAt < now then .save .expired
  else if storedIp.eqText ipAddress = false then .raise .mismatch
  else
    match solvesPow k row.token nonce difficulty with
    | none => .raise .other
    | some false => .save .failed
    | some true => .save .solved

/-- From the entry and the row to the decision. -/
def decideChallenge (k : Signing) (entry : ChallengeLookup) (row : Option ChallengeRow)
    (nonce : PyText) (ipAddress : String) (now : ℚ) : ChallengeDecision :=
  match entry, row with
  | .raises, _ => .raise .other
  | .absent, none => .raise .invalid
  | .absent, some row =>
    checkChallenge k row (.str row.ipAddress) row.difficulty nonce ipAddress now
  | .found _ _, none => .raise .other
  | .found storedIp difficulty, some row =>
    checkChallenge k row storedIp difficulty nonce ipAddress now

/-- `save(update_fields=…)` of a status: for `SOLVED` also the time and the nonce. -/
def ChallengeRow.save (row : ChallengeRow) (status : ChallengeStatus) (nonce : PyText)
    (now : ℚ) : ChallengeRow :=
  if status = .solved then { row with status, solvedAt := some now, nonce }
  else { row with status }

/-- The exception that follows a saved status; `none` for `SOLVED`. -/
def ChallengeStatus.error : ChallengeStatus → Option ChallengeError
  | expired => some .expired
  | failed => some .invalid
  | _ => none

/-- The row and the entry of a token. -/
structure ChallengeRecord where
  row : Option ChallengeRow
  entry : ChallengeCache

/-- `verify_challenge_solution`, with nothing else going on: its result, and what is left. -/
def verifyChallengeSolution (k : Signing) (cols : ChallengeColumns) (s : ChallengeRecord)
    (nonce : PyText) (ipAddress : String) (now : ℚ) :
    Except ChallengeError Bool × ChallengeRecord :=
  match decideChallenge k s.entry.read s.row nonce ipAddress now with
  | .raise e => (.error e, s)
  | .save status =>
    if status = .solved ∧ cols.fitsNonce nonce = false then (.error .other, s)
    else
      let row := s.row.map fun row ↦ row.save status nonce now
      match status.error with
      | some e => (.error e, { s with row })
      | none => (.ok true, ⟨row, .missing⟩)

/-! ### The pass cookie -/

/-- `_normalise_ip`. -/
def normaliseIp (ipAddress : String) : String :=
  match IpAddress.ipAddress ipAddress with
  | some a => a.compressed
  | none => ipAddress

/-- `_hmac_sign`. -/
def hmacSign (k : Signing) (value : String) : List Char :=
  (k.hmacSha256 k.secretKey (utf8Encode value)).hexdigest

/-- The signed part of a pass cookie. -/
def passCookiePrefix (token normalisedIp : String) (expiryTs : ℤ) : String :=
  String.ofList
    (PyStr.join '|' ["v2".toList, token.toList, normalisedIp.toList, intText expiryTs])

/-- The value `issue_pass_cookie` sets at `time`. `str` raises on a number of more than 4300
digits. -/
def issuePassCookie (cf : ChallengeConf) (token ipAddress : String) (time : ℚ) :
    Except FormError String :=
  let expiryTs := PyStr.truncate time + cf.cookieTtl
  if 4300 < (Nat.toDigits 10 expiryTs.natAbs).length then
    .error (.valueError "Exceeds the limit (4300 digits) for integer string conversion")
  else
    let valuePrefix := passCookiePrefix token (normaliseIp ipAddress) expiryTs
    .ok (valuePrefix ++ "|" ++ String.ofList (hmacSign cf.toSigning valuePrefix))

/-- `value_prefix.split("|", 3)`, in four parts. -/
def splitPrefix (valuePrefix : List Char) :
    Option (List Char × List Char × List Char × List Char) := do
  let (version, rest) ← PyStr.splitOnce ['|'] valuePrefix
  let (token, rest) ← PyStr.splitOnce ['|'] rest
  let (cookieIp, expiryStr) ← PyStr.splitOnce ['|'] rest
  return (version, token, cookieIp, expiryStr)

/-- The block of `validate_pass_cookie` that is guarded. -/
def readPassCookie (k : Signing) (cookieValue ipAddress : String) (time : ℚ) :
    Except FormError Bool :=
  match rsplitOnce '|' cookieValue.toList with
  | none => .error (.valueError "not enough values to unpack (expected 2, got 1)")
  | some (valuePrefix, signature) =>
    match compareDigest (hmacSign k (String.ofList valuePrefix)) signature with
    | .error e => .error e
    | .ok false => .ok false
    | .ok true =>
      match splitPrefix valuePrefix with
      | none => .error (.valueError "not enough values to unpack")
      | some (version, _, cookieIp, expiryStr) =>
        if version ≠ "v2".toList then .ok false
        else
          match pyIntOfText expiryStr with
          | none => .error (.valueError "invalid literal for int() with base 10")
          | some expiryTs =>
            if (expiryTs : ℚ) < time then .ok false
            else .ok (cookieIp = (normaliseIp ipAddress).toList)

/-- `validate_pass_cookie`: `ValueError` and `TypeError` are handled. -/
def validatePassCookie (k : Signing) (cookieValue ipAddress : String) (time : ℚ) :
    Except FormError Bool :=
  match readPassCookie k cookieValue ipAddress time with
  | .ok valid => .ok valid
  | .error (.valueError _) => .ok false
  | .error (.typeError _) => .ok false
  | .error .overflowError => .error .overflowError

end DjangoWaf
