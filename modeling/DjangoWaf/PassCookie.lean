import DjangoWaf.Services.ChallengeService

/-!
# Who is admitted by a pass cookie?

A pass cookie is `v2|token|ip|expiry|signature`. Its signature has no delimiter and is cut off at
the last one; what is left is cut at the first three, so token, version and address must have none,
and the expiry is read back from its text.

* A cookie that was issued for an address admits the addresses with the same normal form, up to its
  expiry (`validatePassCookie_issued`). This needs nothing of the signature.
* Any other text is refused when only texts that were issued carry a right signature
  (`OnlyIssued`), and no text raises (`validatePassCookie_ok`).
-/

namespace DjangoWaf

open PyBytes

/-- What a pass cookie is issued for: a token in hexadecimal, an address whose normal form has no
delimiter, and a time after the epoch. -/
structure PassCookieIssue where
  token : String
  ipAddress : String
  time : ℚ
  isHex : ∀ c ∈ token.toList, IsHex c
  noDelim : '|' ∉ (normaliseIp ipAddress).toList
  time_nonneg : 0 ≤ time

namespace PassCookieIssue

variable (cf : ChallengeConf) (i : PassCookieIssue)

/-- The expiry in the cookie. -/
def expiry : ℤ := i.time.floor + cf.cookieTtl

/-- The text that is signed. -/
def signedText : String := passCookiePrefix i.token (normaliseIp i.ipAddress) (i.expiry cf)

/-- The cookie that is set. -/
def cookie : Except FormError String := issuePassCookie cf i.token i.ipAddress i.time

end PassCookieIssue

/-- **Unforgeability**, for one text: if it ends in the signature of what stands before it, that was
signed for a cookie. -/
def OnlyIssued (cf : ChallengeConf) (issued : Set PassCookieIssue) (cookieValue : String) : Prop :=
  ∀ front : List Char, cookieValue.toList = front ++ '|' :: hmacSign cf.toSigning (.ofList front) →
    ∃ i ∈ issued, (∃ set, i.cookie cf = .ok set) ∧ String.ofList front = i.signedText cf

/-! ### Cookies that were issued -/

section Issued

variable {cf : ChallengeConf} {i : PassCookieIssue} {cookieValue : String}

/-- A cookie is its signed text with the signature, and its expiry can be read back. -/
theorem PassCookieIssue.cookie_eq_ok (h : i.cookie cf = .ok cookieValue) :
    cookieValue.toList =
        (i.signedText cf).toList ++ '|' :: hmacSign cf.toSigning (i.signedText cf) ∧
      (Nat.toDigits 10 (i.expiry cf).natAbs).length ≤ 4300 := by
  rw [PassCookieIssue.cookie, issuePassCookie, PyStr.truncate_eq_floor i.time_nonneg] at h
  dsimp only at h
  split_ifs at h with hlength
  obtain rfl := Except.ok.inj h
  refine ⟨?_, not_lt.1 hlength⟩
  rw [String.toList_append, String.toList_append, String.toList_ofList]
  simp [signedText, expiry]

/-- The signed text is cut into its four parts again. -/
theorem PassCookieIssue.splitPrefix_signedText (cf : ChallengeConf) (i : PassCookieIssue) :
    splitPrefix (i.signedText cf).toList =
      some ("v2".toList, i.token.toList, (normaliseIp i.ipAddress).toList,
        intText (i.expiry cf)) := by
  rw [signedText, passCookiePrefix, String.toList_ofList, PyStr.join_cons_cons,
    PyStr.join_cons_cons, PyStr.join_cons_cons, PyStr.join_singleton, splitPrefix]
  rw [PyStr.splitOnce_append (by decide)]
  simp only [Option.bind_eq_bind, Option.bind_some]
  rw [PyStr.splitOnce_append (delim_not_mem_of_isHex i.isHex)]
  simp only [Option.bind_some]
  rw [PyStr.splitOnce_append i.noDelim]
  rfl

/-- **An issued cookie admits the addresses with the same normal form until its expiry.** -/
theorem validatePassCookie_issued (h : i.cookie cf = .ok cookieValue) (ipAddress : String)
    (time : ℚ) :
    validatePassCookie cf.toSigning cookieValue ipAddress time =
      .ok (decide (normaliseIp i.ipAddress = normaliseIp ipAddress ∧
        time ≤ (i.time.floor + cf.cookieTtl : ℤ))) := by
  obtain ⟨htext, hlength⟩ := i.cookie_eq_ok h
  have hsplit : rsplitOnce '|' cookieValue.toList =
      some ((i.signedText cf).toList, hmacSign cf.toSigning (i.signedText cf)) := by
    rw [htext]
    exact rsplitOnce_append '|' _ (delim_not_mem_hexdigest _)
  have hdigest : compareDigest (hmacSign cf.toSigning (i.signedText cf))
      (hmacSign cf.toSigning (i.signedText cf)) = .ok true := compareDigest_self _
  have hread : readPassCookie cf.toSigning cookieValue ipAddress time =
      if (i.expiry cf : ℚ) < time then .ok false
      else .ok ((normaliseIp i.ipAddress).toList = (normaliseIp ipAddress).toList) := by
    rw [readPassCookie, hsplit]
    dsimp only
    rw [String.ofList_toList, hdigest]
    dsimp only
    rw [i.splitPrefix_signedText cf]
    dsimp only
    rw [if_neg (not_not.2 rfl), pyIntOfText_intText hlength]
  rw [validatePassCookie, hread]
  by_cases hexpired : (i.expiry cf : ℚ) < time
  · rw [if_pos hexpired, decide_eq_false fun hnot ↦ absurd hexpired (not_lt.2 hnot.2)]
  · rw [if_neg hexpired]
    dsimp only
    congr 1
    rw [decide_eq_decide, String.toList_inj]
    exact ⟨fun hip ↦ ⟨hip, not_lt.1 hexpired⟩, fun hip ↦ hip.1⟩

end Issued

/-! ### Any text -/

variable (k : Signing) (cookieValue ipAddress : String) (time : ℚ)

/-- **What is accepted ends in the signature of what stands before it.** -/
theorem signed_of_readPassCookie (h : readPassCookie k cookieValue ipAddress time = .ok true) :
    ∃ front, cookieValue.toList = front ++ '|' :: hmacSign k (.ofList front) := by
  rw [readPassCookie] at h
  split at h
  case h_1 => cases h
  case h_2 front signature hsplit =>
    have heq : hmacSign k (.ofList front) = signature := by
      rw [compareDigest] at h
      by_contra hne
      split_ifs at h
      rw [decide_eq_false hne] at h
      cases h
    obtain ⟨htext, -⟩ := rsplitOnce_eq_some hsplit
    exact ⟨front, by rw [htext, heq]⟩

/-- The guarded block raises what is handled. -/
theorem readPassCookie_ne_overflow :
    readPassCookie k cookieValue ipAddress time ≠ .error .overflowError := by
  rw [readPassCookie]
  split
  case h_1 => rintro ⟨⟩
  case h_2 front signature hsplit =>
    rw [compareDigest]
    split_ifs with hascii
    · cases decide (hmacSign k (.ofList front) = signature) with
      | false => rintro ⟨⟩
      | true =>
        dsimp only
        split
        case h_1 => rintro ⟨⟩
        case h_2 =>
          split_ifs
          · rintro ⟨⟩
          · split
            · rintro ⟨⟩
            · split_ifs <;> rintro ⟨⟩
    · rintro ⟨⟩

/-- **No text raises.** -/
theorem validatePassCookie_ok :
    ∃ valid, validatePassCookie k cookieValue ipAddress time = .ok valid := by
  have hne := readPassCookie_ne_overflow k cookieValue ipAddress time
  rw [validatePassCookie]
  cases hread : readPassCookie k cookieValue ipAddress time with
  | ok valid => exact ⟨valid, rfl⟩
  | error e =>
    cases e with
    | valueError _ => exact ⟨false, rfl⟩
    | typeError _ => exact ⟨false, rfl⟩
    | overflowError => exact absurd hread hne

/-- **A pass cookie admits its holder**: an issued cookie is accepted for the addresses with the
same normal form until its expiry, any other text is refused, and no text raises. -/
theorem pass_cookie_admits_holder (cf : ChallengeConf) (issued : Set PassCookieIssue) :
    (∀ (i : PassCookieIssue) cookieValue, i.cookie cf = .ok cookieValue → ∀ ipAddress time,
      validatePassCookie cf.toSigning cookieValue ipAddress time =
        .ok (decide (normaliseIp i.ipAddress = normaliseIp ipAddress ∧
          time ≤ (i.time.floor + cf.cookieTtl : ℤ)))) ∧
    (∀ cookieValue, OnlyIssued cf issued cookieValue →
      (∀ i ∈ issued, i.cookie cf ≠ .ok cookieValue) → ∀ ipAddress time,
        validatePassCookie cf.toSigning cookieValue ipAddress time = .ok false) ∧
    ∀ cookieValue ipAddress time,
      ∃ valid, validatePassCookie cf.toSigning cookieValue ipAddress time = .ok valid := by
  refine ⟨fun i cookieValue h ↦ validatePassCookie_issued h, ?_, validatePassCookie_ok cf.toSigning⟩
  intro cookieValue honly hnot ipAddress time
  obtain ⟨valid, hvalid⟩ := validatePassCookie_ok cf.toSigning cookieValue ipAddress time
  cases valid with
  | false => exact hvalid
  | true =>
    have hread : readPassCookie cf.toSigning cookieValue ipAddress time = .ok true := by
      rw [validatePassCookie] at hvalid
      split at hvalid
      · next hread => rw [hread, Except.ok.inj hvalid]
      all_goals cases hvalid
    obtain ⟨front, htext⟩ := signed_of_readPassCookie _ _ _ _ hread
    obtain ⟨i, hi, ⟨set, hset⟩, hfront⟩ := honly front htext
    have heq : cookieValue = set := by
      rw [← String.toList_inj, htext, (i.cookie_eq_ok hset).1, ← hfront, String.toList_ofList]
    exact absurd (heq ▸ hset) (hnot i hi)

/-- A text too short for a signature ends in none. -/
theorem onlyIssued_of_length_lt {cf : ChallengeConf} (issued : Set PassCookieIssue)
    {cookieValue : String} (h : cookieValue.toList.length < 65) :
    OnlyIssued cf issued cookieValue := by
  intro front htext
  have hlength : (hmacSign cf.toSigning (.ofList front)).length = 64 := Digest.length_hexdigest _
  rw [htext, List.length_append, List.length_cons, hlength] at h
  omega

/-- A cookie is never that short. -/
theorem PassCookieIssue.cookie_ne_of_length_lt {cf : ChallengeConf} (i : PassCookieIssue)
    {cookieValue : String} (h : cookieValue.toList.length < 65) :
    i.cookie cf ≠ .ok cookieValue := by
  intro hcookie
  have hlength : (hmacSign cf.toSigning (i.signedText cf)).length = 64 := Digest.length_hexdigest _
  rw [(i.cookie_eq_ok hcookie).1, List.length_append, List.length_cons, hlength] at h
  omega

/-- A cookie issued at noon to an IPv6 client. -/
def noonIssue : PassCookieIssue where
  token := "00ff"
  ipAddress := "2001:DB8::1"
  time := 43200
  isHex := by decide
  noDelim := by decide +kernel
  time_nonneg := by decide +kernel

/-- **The holder comes back** under another spelling of the address, for a day and no longer, and a
guess is of no use. -/
theorem pass_cookie_admits_noon :
    ∃ cookieValue, noonIssue.cookie (.defaults (.standard "" [])) = .ok cookieValue ∧
      validatePassCookie (.standard "" []) cookieValue "2001:0db8:0:0:0:0:0:1" 129600 = .ok true ∧
      validatePassCookie (.standard "" []) cookieValue "2001:0db8:0:0:0:0:0:1" 129601 = .ok false ∧
      validatePassCookie (.standard "" []) "v2|00ff|2001:db8::1|129600|00" "2001:db8::1" 43200 =
        .ok false := by
  obtain ⟨hissued, hother, -⟩ :=
    pass_cookie_admits_holder (.defaults (.standard "" [])) {noonIssue}
  have hshort : "v2|00ff|2001:db8::1|129600|00".toList.length < 65 := by decide
  have hspelling : normaliseIp noonIssue.ipAddress = normaliseIp "2001:0db8:0:0:0:0:0:1" := by
    decide +kernel
  have hexpiry : noonIssue.time.floor + (ChallengeConf.defaults (.standard "" [])).cookieTtl =
      129600 := by decide +kernel
  have hdigits : ¬4300 < (Nat.toDigits 10 (129600 : ℤ).natAbs).length := by decide
  obtain ⟨cookieValue, hcookie⟩ :
      ∃ cookieValue, noonIssue.cookie (.defaults (.standard "" [])) = .ok cookieValue := by
    rw [PassCookieIssue.cookie, issuePassCookie, PyStr.truncate_eq_floor noonIssue.time_nonneg,
      hexpiry]
    exact ⟨_, if_neg hdigits⟩
  refine ⟨cookieValue, hcookie, ?_, ?_, ?_⟩
  · refine (hissued noonIssue cookieValue hcookie _ _).trans ?_
    rw [hexpiry]
    exact congrArg Except.ok (decide_eq_true ⟨hspelling, by decide⟩)
  · refine (hissued noonIssue cookieValue hcookie _ _).trans ?_
    rw [hexpiry]
    exact congrArg Except.ok (decide_eq_false fun h ↦ absurd h.2 (by decide))
  · exact hother _ (onlyIssued_of_length_lt _ hshort)
      (fun i _ ↦ i.cookie_ne_of_length_lt hshort) _ _

end DjangoWaf
