import DjangoWaf.Forms.Defences
import DjangoWaf.Lib.PyDict

/-!
# Replay tokens and stashed submissions

`forms/services/replay.py`: a flagged submission is stashed in the session without its sensitive
fields, and a token that names the stash is signed with the same key as the render tokens, over four
fields instead of six.

* The payload is signed and split as bytes, and **the signature is decoded with replacement**, so a
  byte beyond ASCII reaches `compare_digest` as U+FFFD.
* The session is what the code stores under `waf_form_replay`, or `none` for a request without one.
-/

namespace DjangoWaf

open PyBytes IsoDatetime

/-! ### `int` and `str` -/

/-- `str(n)`. -/
def intText (n : ℤ) : List Char :=
  if n < 0 then '-' :: Nat.toDigits 10 n.natAbs else Nat.toDigits 10 n.natAbs

/-- The zeros of the scripts whose decimal digits `int` reads. -/
def decimalZeros : List ℕ :=
  [0x30, 0x660, 0x6F0, 0x7C0, 0x966, 0x9E6, 0xA66, 0xAE6, 0xB66, 0xBE6, 0xC66, 0xCE6, 0xD66, 0xDE6,
    0xE50, 0xED0, 0xF20, 0x1040, 0x1090, 0x17E0, 0x1810, 0x1946, 0x19D0, 0x1A80, 0x1A90, 0x1B50,
    0x1BB0, 0x1C40, 0x1C50, 0xA620, 0xA8D0, 0xA900, 0xA9D0, 0xA9F0, 0xAA50, 0xABF0, 0xFF10, 0x104A0,
    0x10D30, 0x11066, 0x110F0, 0x11136, 0x111D0, 0x112F0, 0x11450, 0x114D0, 0x11650, 0x116C0,
    0x11730, 0x118E0, 0x11950, 0x11C50, 0x11D50, 0x11DA0, 0x16A60, 0x16AC0, 0x16B50, 0x1D7CE,
    0x1D7D8, 0x1D7E2, 0x1D7EC, 0x1D7F6, 0x1E140, 0x1E2F0, 0x1E950, 0x1FBF0]

/-- The value of a decimal digit. -/
def decimalValue (c : Char) : Option ℕ :=
  (decimalZeros.find? fun z ↦ z ≤ c.toNat ∧ c.toNat < z + 10).map (c.toNat - ·)

/-- Digits with single underscores between them. -/
def readDigits : List Char → Option (List ℕ)
  | [] => none
  | c :: cs =>
    match decimalValue c, cs with
    | none, _ => none
    | some d, [] => some [d]
    | some d, '_' :: cs => (readDigits cs).map (d :: ·)
    | some d, c' :: cs => (readDigits (c' :: cs)).map (d :: ·)

/-- `int(s)`, or `none` for `ValueError`. -/
def pyIntOfText (s : List Char) : Option ℤ :=
  let s := (PyStr.stripText (String.ofList s)).toList
  let (negative, digits) :=
    match s with
    | '-' :: s => (true, s)
    | '+' :: s => (false, s)
    | s => (false, s)
  match readDigits digits with
  | none => none
  | some ds =>
    if 4300 < ds.length then none
    else
      let n : ℤ := (ds.foldl (fun n d ↦ 10 * n + d) 0 : ℕ)
      some (if negative then -n else n)

/-! ### Sensitive fields -/

/-- What `_SENSITIVE_FIELD_RE` searches for. -/
def sensitiveWords : List String :=
  ["pass", "secret", "apikey", "api_key", "api-key", "csrf", "token"]

/-- `is_sensitive_field`. -/
def isSensitiveField (name : String) : Bool :=
  (name.toList.map PyStr.reLower).tails.any fun s ↦ sensitiveWords.any fun w ↦ w.toList.isPrefixOf s

/-- `filter_sensitive_fields`. -/
def filterSensitiveFields (data : Submitted) : Submitted :=
  data.filter fun p ↦ !isSensitiveField p.1

/-! ### Replay tokens -/

/-- `_REPLAY_TTL_SECONDS`. -/
def replayTtlSeconds : ℤ := 60

/-- What a replay token refers to. -/
structure ReplayReference where
  formId : String
  sessionKey : String
  deriving DecidableEq

/-- The fields of a replay token. -/
def replayFields (formId ip sessionKey : String) (expiresAt : ℤ) : List (List Char) :=
  [formId.toList, ip.toList, sessionKey.toList, intText expiresAt]

/-- The signed text of a replay token. -/
def replayPayload (formId ip sessionKey : String) (expiresAt : ℤ) : String :=
  String.ofList (PyStr.join '|' (replayFields formId ip sessionKey expiresAt))

variable (k : Signing)

/-- `issue_replay_token`, at the whole second `time`. -/
def issueReplayToken (formId ip sessionKey : String) (time : ℤ) : String :=
  let payload := utf8Encode (replayPayload formId ip sessionKey (time + replayTtlSeconds))
  let sig := k.sign payload
  encodeToken (payload ++ asciiByte '|' :: utf8Encode (String.ofList sig))

/-- The end of `verify_replay_token`: what a payload with the right signature says. -/
def readReplayPayload (payload : List UInt8) (currentIp : String) (time : ℤ) :
    Option ReplayReference :=
  match (utf8Decode payload).map fun text ↦ PyStr.splitOn '|' text.toList with
  | some [formId, ip, sessionKey, expiresAtStr] =>
    match pyIntOfText expiresAtStr with
    | none => none
    | some expiresAt =>
      if expiresAt < time then none
      else if String.ofList ip ≠ currentIp then none
      else some ⟨String.ofList formId, String.ofList sessionKey⟩
  | _ => none

/-- `verify_replay_token`, at the whole second `time`. -/
def verifyReplayToken (token currentIp : String) (time : ℤ) :
    Except FormError (Option ReplayReference) :=
  if token = "" then .ok none
  else
    match decodeToken token with
    | none => .ok none
    | some raw =>
      match rsplitOnce (asciiByte '|') raw with
      | none => .ok none
      | some (payload, sig) =>
        match compareDigest (k.sign payload) (asciiDecodeReplace sig) with
        | .error e => .error e
        | .ok false => .ok none
        | .ok true => .ok (readReplayPayload payload currentIp time)

/-! ### The session -/

/-- One stashed submission. -/
structure ReplayRecord where
  formId : String
  postUrl : String
  data : Submitted
  storedAt : ℤ
  deriving DecidableEq

/-- The value of `waf_form_replay` in a session. -/
abbrev Stash := List (String × ReplayRecord)

/-- The keys of the stash without the five newest. -/
def oldestKeys (stash : Stash) : List String :=
  let sorted := stash.mergeSort fun a b ↦ a.2.storedAt ≤ b.2.storedAt
  (sorted.take (sorted.length - 5)).map Prod.fst

/-- `store_in_session`, under a fresh key. -/
def storeInSession (session : Option Stash) (formId postUrl : String) (data : Submitted)
    (key : String) (time : ℤ) : Option (String × Stash) :=
  session.map fun stash ↦
    let stash := PyDict.set stash key ⟨formId, postUrl, filterSensitiveFields data, time⟩
    (key, if 5 < stash.length then stash.filter fun p ↦ p.1 ∉ oldestKeys stash else stash)

/-- `fetch_from_session`. -/
def fetchFromSession (session : Option Stash) (sessionKey : String) (time : ℤ) :
    Option ReplayRecord :=
  ((session.getD []).lookup sessionKey).filter fun record ↦
    time - record.storedAt ≤ replayTtlSeconds + 60

/-- `discard_from_session`. -/
def discardFromSession (session : Option Stash) (sessionKey : String) : Option Stash :=
  session.map fun stash ↦ stash.filter fun p ↦ p.1 ≠ sessionKey

/-! ### Numbers, read back -/

theorem toNat_mem_of_isDigit {c : Char} (h : c.isDigit = true) : 48 ≤ c.toNat ∧ c.toNat ≤ 57 := by
  rw [Char.isDigit, Bool.and_eq_true, decide_eq_true_eq, decide_eq_true_eq] at h
  exact h

theorem decimalValue_of_isDigit {c : Char} (h : c.isDigit = true) :
    decimalValue c = some (c.toNat - 48) := by
  have hrange := toNat_mem_of_isDigit h
  have hfind : decimalZeros.find? (fun z ↦ z ≤ c.toNat ∧ c.toNat < z + 10) = some 0x30 :=
    List.find?_cons_of_pos (decide_eq_true ⟨hrange.1, by omega⟩)
  rw [decimalValue, hfind, Option.map_some]

/-- Digits without underscores. -/
theorem readDigits_of_isDigit {cs : List Char} (hne : cs ≠ []) (h : ∀ c ∈ cs, c.isDigit = true) :
    readDigits cs = some (cs.map fun c ↦ c.toNat - 48) := by
  induction cs with
  | nil => exact absurd rfl hne
  | cons c cs ih =>
    have hc := decimalValue_of_isDigit (h c List.mem_cons_self)
    rcases cs with - | ⟨c', cs⟩
    · unfold readDigits
      simp only [hc, List.map_cons, List.map_nil]
    · have hc' : c' ≠ '_' := by
        rintro rfl
        exact absurd (h '_' (by simp)) (by decide)
      have hrest := ih (List.cons_ne_nil _ _) fun d hd ↦ h d (List.mem_cons_of_mem c hd)
      unfold readDigits
      simp only [hc, hrest, Option.map_some, List.map_cons]

/-- **A number is read back** from its text. -/
theorem pyIntOfText_intText {n : ℤ} (hlength : (Nat.toDigits 10 n.natAbs).length ≤ 4300) :
    pyIntOfText (intText n) = some n := by
  have hdigit : ∀ c ∈ Nat.toDigits 10 n.natAbs, c.isDigit = true := fun c hc ↦
    Nat.isDigit_of_mem_toDigits (by decide) (by decide) hc
  have hspace : ∀ c ∈ (String.ofList (intText n)).toList, PyStr.isSpaceChar c = false := by
    have hplain : ∀ c : Char, 45 ≤ c.toNat → c.toNat ≤ 57 → PyStr.isSpaceChar c = false := by
      intro c hge hle
      simp only [PyStr.isSpaceChar, Bool.or_eq_false_iff, Bool.and_eq_false_iff,
        decide_eq_false_iff_not, beq_eq_false_iff_ne]
      omega
    intro c hc
    rw [String.toList_ofList, intText] at hc
    split_ifs at hc
    · rcases List.mem_cons.1 hc with rfl | hc
      · exact hplain '-' (by decide) (by decide)
      · obtain ⟨hge, hle⟩ := toNat_mem_of_isDigit (hdigit c hc)
        exact hplain c (by omega) hle
    · obtain ⟨hge, hle⟩ := toNat_mem_of_isDigit (hdigit c hc)
      exact hplain c (by omega) hle
  have hread := readDigits_of_isDigit Nat.toDigits_ne_nil hdigit
  have hfold : ((Nat.toDigits 10 n.natAbs).map fun c ↦ c.toNat - 48).foldl
      (fun n d ↦ 10 * n + d) 0 = n.natAbs := by
    rw [List.foldl_map]
    exact Nat.ofDigitChars_ten_toDigits
  have hlength' : ¬4300 < ((Nat.toDigits 10 n.natAbs).map fun c ↦ c.toNat - 48).length := by
    rw [List.length_map]
    omega
  rw [pyIntOfText, PyStr.stripText_of_not_space hspace, String.toList_ofList, intText]
  by_cases hneg : n < 0
  · have habs : -(n.natAbs : ℤ) = n := by omega
    simp only [if_pos hneg, hread, if_neg hlength', hfold, habs]
    rfl
  · have habs : (n.natAbs : ℤ) = n := by omega
    have hminus : ∀ s, Nat.toDigits 10 n.natAbs = '-' :: s → False := fun s hs ↦
      absurd (hdigit '-' (hs ▸ List.mem_cons_self)) (by decide)
    have hplus : ∀ s, Nat.toDigits 10 n.natAbs = '+' :: s → False := fun s hs ↦
      absurd (hdigit '+' (hs ▸ List.mem_cons_self)) (by decide)
    simp only [if_neg hneg, hread, if_neg hlength', hfold, habs]
    rfl

/-! ### Replay tokens as signed texts -/

theorem delim_not_mem_intText (n : ℤ) : '|' ∉ intText n := by
  have hdigits : '|' ∉ Nat.toDigits 10 n.natAbs := fun h ↦
    absurd (Nat.isDigit_of_mem_toDigits (by decide) (by decide) h) (by decide)
  rw [intText]
  split_ifs
  · rw [List.mem_cons, not_or]
    exact ⟨by decide, hdigits⟩
  · exact hdigits

/-- A replay token is the signed text of its payload, as a render token is. -/
theorem issueReplayToken_eq (formId ip sessionKey : String) (time : ℤ) :
    issueReplayToken k formId ip sessionKey time =
      encodeToken (utf8Encode
        (replayPayload formId ip sessionKey (time + replayTtlSeconds) ++ "|" ++
          String.ofList (k.sign
            (utf8Encode (replayPayload formId ip sessionKey (time + replayTtlSeconds)))))) := by
  have hdelim : utf8Encode "|" = [asciiByte '|'] := by decide
  rw [issueReplayToken, utf8Encode_append, utf8Encode_append, hdelim, List.append_assoc]
  rfl

theorem encodeToken_ne_empty {raw : List UInt8} (h : raw ≠ []) : encodeToken raw ≠ "" := by
  intro hempty
  have hraw := decodeToken_encodeToken raw
  rw [hempty] at hraw
  exact h (Option.some.inj hraw).symm

/-- The byte of the delimiter is not one of a signature. -/
theorem delim_not_mem_signature (d : Digest) :
    asciiByte '|' ∉ d.hexdigest.map asciiByte := by
  intro h
  obtain ⟨c, hc, hbyte⟩ := List.mem_map.1 h
  obtain ⟨n, hn, rfl⟩ := Digest.isHex_of_mem_hexdigest hc
  have hall : ∀ n < 16, asciiByte (Nat.digitChar n) ≠ asciiByte '|' := by decide
  exact hall n hn hbyte

/-- The signature of a signed text is found by the replay tokens' verifier too. -/
theorem verifyReplayToken_signed (t : String) (currentIp : String) (time : ℤ) :
    verifyReplayToken k
        (encodeToken (utf8Encode (t ++ "|" ++ String.ofList (k.sign (utf8Encode t))))) currentIp
        time =
      .ok (readReplayPayload (utf8Encode t) currentIp time) := by
  have hdelim : utf8Encode "|" = [asciiByte '|'] := by decide
  have hraw : utf8Encode (t ++ "|" ++ String.ofList (k.sign (utf8Encode t))) =
      utf8Encode t ++ asciiByte '|' :: (k.sign (utf8Encode t)).map asciiByte := by
    rw [utf8Encode_append, utf8Encode_append, hdelim, Signing.sign,
      utf8Encode_ofList_ascii (isAscii_hexdigest _), List.append_assoc]
    rfl
  have hsplit := rsplitOnce_append (asciiByte '|') (utf8Encode t)
    (delim_not_mem_signature (k.hmacSha256 k.getSigningKey (utf8Encode t)))
  have hcompare : compareDigest (k.sign (utf8Encode t)) (k.sign (utf8Encode t)) = .ok true :=
    compareDigest_self _
  rw [hraw, verifyReplayToken, if_neg (encodeToken_ne_empty (by simp)), decodeToken_encodeToken]
  rw [← Signing.sign] at hsplit
  have hsig : asciiDecodeReplace ((k.sign (utf8Encode t)).map asciiByte) = k.sign (utf8Encode t) :=
    asciiDecodeReplace_map_asciiByte (isAscii_hexdigest _)
  simp only [hsplit, hsig, hcompare]

/-- A replay payload of four pieces has its fields for them. -/
theorem splitOn_replayPayload_of_length {formId ip sessionKey : String} {expiresAt : ℤ}
    (h : (PyStr.splitOn '|' (replayPayload formId ip sessionKey expiresAt).toList).length = 4) :
    PyStr.splitOn '|' (replayPayload formId ip sessionKey expiresAt).toList =
      replayFields formId ip sessionKey expiresAt := by
  rw [replayPayload, String.toList_ofList] at h ⊢
  exact PyStr.splitOn_join_of_length h

/-- **What is accepted as a replay token** refers to the form and the session key it was issued
for. -/
theorem eq_of_readReplayPayload {formId ip sessionKey : String} {expiresAt : ℤ}
    {currentIp : String} {time : ℤ} {ref : ReplayReference}
    (h : readReplayPayload (utf8Encode (replayPayload formId ip sessionKey expiresAt)) currentIp
      time = some ref) : ref = ⟨formId, sessionKey⟩ := by
  rw [readReplayPayload, utf8Decode_utf8Encode, Option.map_some] at h
  split at h
  · rename_i formId' ip' sessionKey' expiresAtStr heq
    have hsplit := Option.some.inj heq
    rw [splitOn_replayPayload_of_length (congrArg List.length hsplit), replayFields] at hsplit
    simp only [List.cons.injEq] at hsplit
    obtain ⟨rfl, -, rfl, -⟩ := hsplit
    split at h
    · cases h
    · split_ifs at h
      rw [← Option.some.inj h, String.ofList_toList, String.ofList_toList]
  · cases h

theorem eq_of_verifyReplayToken_issue {formId ip sessionKey : String} {time time' : ℤ}
    {currentIp : String} {ref : ReplayReference}
    (h : verifyReplayToken k (issueReplayToken k formId ip sessionKey time) currentIp time' =
      .ok (some ref)) : ref = ⟨formId, sessionKey⟩ := by
  rw [issueReplayToken_eq, verifyReplayToken_signed] at h
  exact eq_of_readReplayPayload (Except.ok.inj h)

/-- **An issued replay token** is accepted for a minute, from its own address. -/
theorem verifyReplayToken_issue {formId ip sessionKey : String} (hform : '|' ∉ formId.toList)
    (hip : '|' ∉ ip.toList) (hkey : '|' ∉ sessionKey.toList) {time time' : ℤ}
    (hlength : (Nat.toDigits 10 (time + replayTtlSeconds).natAbs).length ≤ 4300)
    (hle : time' ≤ time + replayTtlSeconds) :
    verifyReplayToken k (issueReplayToken k formId ip sessionKey time) ip time' =
      .ok (some ⟨formId, sessionKey⟩) := by
  have hfields : ∀ f ∈ replayFields formId ip sessionKey (time + replayTtlSeconds), '|' ∉ f := by
    simp only [replayFields, List.forall_mem_cons, List.not_mem_nil, false_imp_iff, implies_true,
      and_true]
    exact ⟨hform, hip, hkey, delim_not_mem_intText _⟩
  have hsplit : PyStr.splitOn '|'
      (replayPayload formId ip sessionKey (time + replayTtlSeconds)).toList =
        replayFields formId ip sessionKey (time + replayTtlSeconds) := by
    rw [replayPayload, String.toList_ofList]
    exact PyStr.splitOn_join (List.cons_ne_nil _ _) hfields
  rw [issueReplayToken_eq, verifyReplayToken_signed, readReplayPayload, utf8Decode_utf8Encode,
    Option.map_some, hsplit, replayFields]
  simp only [pyIntOfText_intText hlength, if_neg (not_lt.2 hle), String.ofList_toList, ne_eq,
    not_true_eq_false, if_false]

/-! ### Stashes -/

/-- What is found under the key of a submission that was stashed. -/
theorem eq_of_lookup_storeInSession {session : Option Stash} {formId postUrl : String}
    {data : Submitted} {key sessionKey : String} {time : ℤ} {stash : Stash}
    (h : storeInSession session formId postUrl data key time = some (sessionKey, stash)) :
    sessionKey = key ∧ ∀ record, stash.lookup key = some record →
      record = ⟨formId, postUrl, filterSensitiveFields data, time⟩ := by
  obtain ⟨stash₀, -, hstored⟩ := Option.map_eq_some_iff.1 h
  obtain ⟨rfl, rfl⟩ := Prod.mk.inj hstored
  refine ⟨rfl, fun record hrecord ↦ ?_⟩
  have hset : (PyDict.set stash₀ key ⟨formId, postUrl, filterSensitiveFields data, time⟩).lookup
      key = some ⟨formId, postUrl, filterSensitiveFields data, time⟩ := by
    rw [PyDict.lookup_set, if_pos rfl]
  generalize PyDict.set stash₀ key ⟨formId, postUrl, filterSensitiveFields data, time⟩ = stash at *
  split_ifs at hrecord
  · have hdrop := PyDict.lookup_filter (fun name ↦ decide (name ∉ oldestKeys stash)) stash key
    rw [hdrop] at hrecord
    split_ifs at hrecord
    exact (Option.some.inj (hset.symm.trans hrecord)).symm
  · exact (Option.some.inj (hset.symm.trans hrecord)).symm

/-- What is in the stash afterwards: what was there before, and the new record. -/
theorem mem_of_mem_storeInSession {session : Option Stash} {formId postUrl : String}
    {data : Submitted} {key sessionKey : String} {time : ℤ} {stash : Stash}
    (h : storeInSession session formId postUrl data key time = some (sessionKey, stash))
    {e : String × ReplayRecord} (he : e ∈ stash) :
    e ∈ session.getD [] ∨ e = (key, ⟨formId, postUrl, filterSensitiveFields data, time⟩) := by
  obtain ⟨stash₀, rfl, hstored⟩ := Option.map_eq_some_iff.1 h
  obtain ⟨rfl, rfl⟩ := Prod.mk.inj hstored
  refine PyDict.mem_of_mem_set ?_
  split_ifs at he
  · exact List.mem_of_mem_filter he
  · exact he

end DjangoWaf
