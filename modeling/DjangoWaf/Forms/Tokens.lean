import DjangoWaf.Lib.Base64
import DjangoWaf.Lib.IsoDatetime
import DjangoWaf.Lib.Sha256

/-!
# Render tokens

`forms/services/tokens.py`: six fields joined by `|`, signed with HMAC-SHA256 and written in
URL-safe base64 without padding.

The hash functions are a parameter (`Signing`, with `Signing.standard` for the real ones). Whatever
they are, a digest is written in hexadecimal, without a delimiter, so the last `|` of an issued
token is the one in front of the signature.

`compare_digest` **refuses text beyond ASCII with `TypeError`**, and the signature it is given is
what the client wrote.
-/

namespace DjangoWaf

open PyBytes IsoDatetime

/-- Exceptions of the form services. -/
inductive FormError
  | valueError (message : String)
  | typeError (message : String)
  | overflowError
  deriving DecidableEq, Repr

/-- The keys of a deployment and its hash functions. -/
structure Signing where
  /-- `DJANGO_WAF_SIGNING_KEY`. -/
  wafSigningKey : String
  /-- `SECRET_KEY`, in bytes. -/
  secretKey : List UInt8
  /-- `hashlib.sha256(message)`. -/
  sha256 : List UInt8 → Digest
  /-- `hmac.new(key, message, hashlib.sha256)`. -/
  hmacSha256 : List UInt8 → List UInt8 → Digest

namespace Signing

variable (k : Signing)

/-- `get_signing_key`. -/
def getSigningKey : List UInt8 :=
  if k.wafSigningKey ≠ "" then utf8Encode k.wafSigningKey
  else (k.sha256 (utf8Encode "django-waf:signing:v1|" ++ k.secretKey)).bytes

/-- The signature of a message, in hexadecimal. -/
def sign (message : List UInt8) : List Char :=
  (k.hmacSha256 k.getSigningKey message).hexdigest

/-- The keys, with the hash functions of the standard library. -/
def standard (wafSigningKey : String) (secretKey : List UInt8) : Signing :=
  ⟨wafSigningKey, secretKey, Sha256.sha256, Sha256.hmacSha256⟩

/-- `hash_user_agent`. -/
def hashUserAgent (userAgent : String) : String :=
  String.ofList (k.sha256 (utf8Encode userAgent)).hexdigest

end Signing

/-- `TokenPayload`. -/
structure TokenPayload where
  formId : String
  ip : String
  /-- Empty for an anonymous user. -/
  userId : String
  renderTime : DateTime
  nonce : String
  uaHash : String
  deriving DecidableEq

namespace TokenPayload

/-- The fields in their order on the wire. -/
def fields (p : TokenPayload) : List (List Char) :=
  [p.formId.toList, p.ip.toList, p.userId.toList, p.renderTime.isoformat, p.nonce.toList,
    p.uaHash.toList]

/-- `encode`. -/
def encode (p : TokenPayload) : String := String.ofList (PyStr.join '|' p.fields)

/-- `decode`. -/
def decode (raw : String) : Except FormError TokenPayload :=
  match PyStr.splitOn '|' raw.toList with
  | [formId, ip, userId, renderTimeIso, nonce, uaHash] =>
    match fromisoformat renderTimeIso with
    | none => .error (.valueError "Invalid isoformat string")
    | some renderTime =>
      .ok ⟨String.ofList formId, String.ofList ip, String.ofList userId, renderTime,
        String.ofList nonce, String.ofList uaHash⟩
  | parts => .error (.valueError s!"expected 6 payload fields, got {parts.length}")

end TokenPayload

/-- `urlsafe_b64encode(raw).decode("ascii").rstrip("=")`. -/
def encodeToken (raw : List UInt8) : String :=
  String.ofList ((Base64.encode raw).rdropWhile (· == '='))

/-- `urlsafe_b64decode((token + padding).encode("ascii"))`; `none` where one of the two raises. -/
def decodeToken (token : String) : Option (List UInt8) :=
  if token.toList.all isAscii = true then
    Base64.decode (token.toList ++ Base64.padding token.toList)
  else none

/-- `hmac.compare_digest(expected, signature)` for a text of hexadecimal digits and any other. -/
def compareDigest (expected signature : List Char) : Except FormError Bool :=
  if signature.all isAscii = true then .ok (expected = signature)
  else .error (.typeError "comparing strings with non-ASCII characters is not supported")

variable (k : Signing)

/-- `issue_token`. -/
def issueToken (formId ip userId userAgent nonce : String) (renderTime : DateTime) :
    String × TokenPayload :=
  let payload : TokenPayload := ⟨formId, ip, userId, renderTime, nonce, k.hashUserAgent userAgent⟩
  let payloadStr := payload.encode
  let signature := String.ofList (k.sign (utf8Encode payloadStr))
  (encodeToken (utf8Encode (payloadStr ++ "|" ++ signature)), payload)

/-- `verify_token`. -/
def verifyToken (token : String) : Except FormError TokenPayload :=
  match (decodeToken token).bind utf8Decode with
  | none => .error (.valueError "token is not valid base64url-encoded utf-8")
  | some raw =>
    match rsplitOnce '|' raw.toList with
    | none => .error (.valueError "token has no signature delimiter")
    | some (payloadStr, signature) =>
      match compareDigest (k.sign (utf8Encode (String.ofList payloadStr))) signature with
      | .error e => .error e
      | .ok false => .error (.valueError "signature mismatch")
      | .ok true => TokenPayload.decode (String.ofList payloadStr)

/-! ### Signatures -/

theorem delim_not_mem_hexdigest (d : Digest) : '|' ∉ d.hexdigest := fun h ↦
  (Digest.isHex_of_mem_hexdigest h).ne_of_forall (by decide) rfl

theorem isAscii_hexdigest (d : Digest) : ∀ c ∈ d.hexdigest, isAscii c = true := fun _ h ↦
  (Digest.isHex_of_mem_hexdigest h).isAscii

theorem compareDigest_self (d : Digest) : compareDigest d.hexdigest d.hexdigest = .ok true := by
  rw [compareDigest, if_pos (List.all_eq_true.2 (isAscii_hexdigest d))]
  simp

theorem toList_encodeToken (raw : List UInt8) : (encodeToken raw).toList = Base64.bare raw := by
  rw [encodeToken, String.toList_ofList, Base64.rdropWhile_encode]

theorem decodeToken_encodeToken (raw : List UInt8) : decodeToken (encodeToken raw) = some raw := by
  rw [decodeToken, toList_encodeToken, if_pos, Base64.decode_padded]
  refine List.all_eq_true.2 fun c hc ↦ ?_
  obtain ⟨n, hn, rfl⟩ := Base64.exists_digit_of_mem_bare hc
  exact Base64.isAscii_digit hn

/-- **A text signed with the key is verified up to its payload**: what is left is to decode it. -/
theorem verifyToken_signed (t : String) :
    verifyToken k (encodeToken (utf8Encode (t ++ "|" ++ String.ofList (k.sign (utf8Encode t))))) =
      TokenPayload.decode t := by
  have hsplit : rsplitOnce '|' (t ++ "|" ++ String.ofList (k.sign (utf8Encode t))).toList =
      some (t.toList, k.sign (utf8Encode t)) := by
    have hlist : (t ++ "|" ++ String.ofList (k.sign (utf8Encode t))).toList =
        t.toList ++ '|' :: k.sign (utf8Encode t) := by
      simp
    rw [hlist]
    exact rsplitOnce_append '|' _ (delim_not_mem_hexdigest _)
  have hcompare : compareDigest (k.sign (utf8Encode t)) (k.sign (utf8Encode t)) = .ok true :=
    compareDigest_self _
  rw [verifyToken, decodeToken_encodeToken, Option.bind_some, utf8Decode_utf8Encode]
  simp only [hsplit, String.ofList_toList, hcompare]

/-- What an issued token is verified to is what its payload decodes to. -/
theorem verifyToken_issueToken (formId ip userId userAgent nonce : String)
    (renderTime : DateTime) :
    verifyToken k (issueToken k formId ip userId userAgent nonce renderTime).1 =
      TokenPayload.decode (issueToken k formId ip userId userAgent nonce renderTime).2.encode :=
  verifyToken_signed k _

/-! ### Delimiters -/

namespace TokenPayload

variable (p : TokenPayload)

theorem delim_not_mem_isoformat (d : DateTime) : '|' ∉ d.isoformat := fun h ↦
  absurd (isText_isoformat d '|' h) (by decide)

/-- No field holds the delimiter. -/
def NoDelim : Prop := ∀ f ∈ p.fields, '|' ∉ f

theorem noDelim_iff : p.NoDelim ↔ '|' ∉ p.formId.toList ∧ '|' ∉ p.ip.toList ∧
    '|' ∉ p.userId.toList ∧ '|' ∉ p.nonce.toList ∧ '|' ∉ p.uaHash.toList := by
  have hiso := delim_not_mem_isoformat p.renderTime
  simp only [NoDelim, fields, List.forall_mem_cons, List.not_mem_nil, false_imp_iff, implies_true]
  tauto

/-- The pieces of an encoded payload are as many as its delimiters allow. -/
theorem length_splitOn_encode : (PyStr.splitOn '|' p.encode.toList).length =
    (p.fields.map (List.count '|')).sum + 6 := by
  rw [PyStr.length_splitOn, encode, String.toList_ofList]
  simp only [fields, PyStr.count_join, List.length_cons, List.length_nil]

theorem noDelim_iff_length :
    p.NoDelim ↔ (PyStr.splitOn '|' p.encode.toList).length = 6 := by
  rw [length_splitOn_encode, Nat.add_eq_right, List.sum_eq_zero_iff_forall_eq_nat,
    List.forall_mem_map]
  simp only [List.count_eq_zero]
  rfl

theorem decode_encode {p : TokenPayload} (htime : p.renderTime.Legible) (h : p.NoDelim) :
    decode p.encode = .ok p := by
  have hsplit : PyStr.splitOn '|' p.encode.toList = p.fields := by
    rw [encode, String.toList_ofList]
    exact PyStr.splitOn_join (List.cons_ne_nil _ _) h
  rw [decode, hsplit]
  simp only [fields, fromisoformat_isoformat htime, String.ofList_toList]

/-- A text of another number of pieces is no payload. -/
theorem decode_of_length_ne {raw : String} (h : (PyStr.splitOn '|' raw.toList).length ≠ 6) :
    ∃ message, decode raw = .error (.valueError message) := by
  rw [decode]
  split
  · rename_i heq
    rw [heq] at h
    exact absurd rfl h
  · exact ⟨_, rfl⟩

/-- **An encoded payload is read back exactly when no field holds the delimiter.** -/
theorem decode_encode_iff (htime : p.renderTime.Legible) :
    decode p.encode = .ok p ↔ p.NoDelim := by
  refine ⟨fun h ↦ ?_, decode_encode htime⟩
  by_contra hdelim
  rw [noDelim_iff_length] at hdelim
  obtain ⟨message, herror⟩ := decode_of_length_ne hdelim
  rw [herror] at h
  cases h

end TokenPayload

theorem delim_not_mem_of_isHex {s : String} (h : ∀ c ∈ s.toList, IsHex c) : '|' ∉ s.toList :=
  fun hmem ↦ (h '|' hmem).ne_of_forall (by decide) rfl

theorem isHex_hashUserAgent (k : Signing) (userAgent : String) :
    ∀ c ∈ (k.hashUserAgent userAgent).toList, IsHex c := by
  rw [Signing.hashUserAgent, String.toList_ofList]
  exact fun _ hc ↦ Digest.isHex_of_mem_hexdigest hc

/-- Only three fields of an issued payload can hold the delimiter. -/
theorem noDelim_issueToken_iff (k : Signing) (formId ip userId userAgent : String) {nonce : String}
    (hnonce : ∀ c ∈ nonce.toList, IsHex c) (renderTime : DateTime) :
    (issueToken k formId ip userId userAgent nonce renderTime).2.NoDelim ↔
      '|' ∉ formId.toList ∧ '|' ∉ ip.toList ∧ '|' ∉ userId.toList := by
  have hnonce' := delim_not_mem_of_isHex hnonce
  have hua := delim_not_mem_of_isHex (isHex_hashUserAgent k userAgent)
  rw [TokenPayload.noDelim_iff]
  simp only [issueToken, hnonce', hua, not_false_eq_true, and_true]

theorem verifyToken_issueToken_of_noDelim {formId ip userId userAgent nonce : String}
    {renderTime : DateTime} (htime : renderTime.Legible)
    (h : (issueToken k formId ip userId userAgent nonce renderTime).2.NoDelim) :
    verifyToken k (issueToken k formId ip userId userAgent nonce renderTime).1 =
      .ok (issueToken k formId ip userId userAgent nonce renderTime).2 := by
  rw [verifyToken_issueToken, TokenPayload.decode_encode htime h]

/-- An issued token with a delimiter in one of its fields is refused. -/
theorem verifyToken_issueToken_of_not_noDelim {formId ip userId userAgent nonce : String}
    {renderTime : DateTime}
    (h : ¬(issueToken k formId ip userId userAgent nonce renderTime).2.NoDelim) :
    ∃ message, verifyToken k (issueToken k formId ip userId userAgent nonce renderTime).1 =
      .error (.valueError message) := by
  rw [verifyToken_issueToken]
  rw [TokenPayload.noDelim_iff_length] at h
  exact TokenPayload.decode_of_length_ne h

end DjangoWaf
