import DjangoWaf.Forms.Replay
import DjangoWaf.Forms.Verdicts
import DjangoWaf.TokenRoundTrip

/-!
# Malformed tokens

A token comes from the client, and everything that is wrong with it should end in a refusal. All
that can go wrong up to the signature does: a text that is no base64, bytes that are no UTF-8, a
missing delimiter. **The signature is compared as text**, and `compare_digest` raises `TypeError`
for a text beyond ASCII, which neither verifier catches.

`malformed_tokens_refused_iff` says that this is the only way out: each of the three entry points
refuses what it does not accept exactly when the signature it is given is ASCII. A signature with
anything else in it reaches the caller of `FormProtection.evaluate` as an exception: the defence's
own is caught, the one from parsing the payload again is not.
-/

namespace DjangoWaf

open PyBytes IsoDatetime

/-- What stands behind the last delimiter of a token, as `verify_token` reads it. -/
def signatureText (token : String) : Option (List Char) :=
  ((decodeToken token).bind utf8Decode).bind fun raw ↦ (rsplitOnce '|' raw.toList).map Prod.snd

/-- What stands behind the last delimiter of a token, as `verify_replay_token` reads it. -/
def signatureBytes (token : String) : Option (List UInt8) :=
  (decodeToken token).bind fun raw ↦ (rsplitOnce (asciiByte '|') raw).map Prod.snd

/-- A render token with no signature beyond ASCII. -/
def AsciiSignature (token : String) : Prop :=
  ∀ signature ∈ signatureText token, signature.all isAscii = true

/-- A replay token with no signature beyond ASCII. -/
def AsciiReplaySignature (token : String) : Prop :=
  ∀ signature ∈ signatureBytes token, (signature.all fun x ↦ x.toNat < 128) = true

/-! ### Refusals -/

/-- `verify_token` accepts what was signed, and raises `ValueError` for the rest. -/
def VerifyRefuses (k : Signing) (token : String) : Prop :=
  (∃ payload text, verifyToken k token = .ok payload ∧ TokenPayload.decode text = .ok payload ∧
    (decodeToken token).bind utf8Decode =
      some (text ++ "|" ++ String.ofList (k.sign (utf8Encode text)))) ∨
  ∃ message, verifyToken k token = .error (.valueError message)

/-- `verify_replay_token` answers. -/
def VerifyReplayRefuses (k : Signing) (token currentIp : String) (time : ℤ) : Prop :=
  ∃ reference, verifyReplayToken k token currentIp time = .ok reference

/-- `evaluate` answers, and blocks what `verify_token` does not accept. -/
def EvaluateRefuses (cf : FormConf) (fp : FormProtection) (reads : FormReads) (now : Civil)
    (req : FormRequest) (data : Submitted) : Prop :=
  ∃ r, fp.evaluate cf reads now req data = .ok r ∧
    ((∀ payload, verifyToken cf.toSigning (data.text RenderTokenDefence.fieldName) ≠ .ok payload) →
      r.verdict = .blocked)

/-! ### What verification can end in -/

/-- A payload is read, or refused with `ValueError`. -/
theorem TokenPayload.decode_cases (raw : String) :
    (∃ payload, decode raw = .ok payload) ∨
      ∃ message, decode raw = .error (.valueError message) := by
  rw [decode]
  split
  · split
    · exact Or.inr ⟨_, rfl⟩
    · exact Or.inl ⟨_, rfl⟩
  · exact Or.inr ⟨_, rfl⟩

theorem compareDigest_of_ascii {expected signature : List Char}
    (h : signature.all isAscii = true) :
    compareDigest expected signature = .ok (expected = signature) := by
  rw [compareDigest, if_pos h]

theorem compareDigest_of_not_ascii (expected : List Char) {signature : List Char}
    (h : ¬signature.all isAscii = true) :
    ∃ message, compareDigest expected signature = .error (.typeError message) := by
  rw [compareDigest, if_neg h]
  exact ⟨_, rfl⟩

variable (k : Signing)

/-- A token without a signature is refused. -/
theorem verifyToken_of_signatureText_none {token : String} (h : signatureText token = none) :
    ∃ message, verifyToken k token = .error (.valueError message) := by
  rw [signatureText] at h
  rw [verifyToken]
  generalize (decodeToken token).bind utf8Decode = read at h ⊢
  rcases read with - | raw
  · exact ⟨_, rfl⟩
  · rw [Option.bind_some, Option.map_eq_none_iff] at h
    simp only [h]
    exact ⟨_, rfl⟩

/-- A token with a signature is split into the text that was signed and the signature. -/
theorem exists_text_of_signatureText {token : String} {signature : List Char}
    (h : signatureText token = some signature) :
    ∃ text : String,
      (decodeToken token).bind utf8Decode = some (text ++ "|" ++ String.ofList signature) ∧
      verifyToken k token =
        (compareDigest (k.sign (utf8Encode text)) signature).bind fun equal ↦
          if equal then TokenPayload.decode text
          else .error (.valueError "signature mismatch") := by
  obtain ⟨raw, hraw, hsplit⟩ := Option.bind_eq_some_iff.1 h
  obtain ⟨⟨front, back⟩, hpieces, rfl⟩ := Option.map_eq_some_iff.1 hsplit
  refine ⟨String.ofList front, ?_, ?_⟩
  · have hchars := (rsplitOnce_eq_some hpieces).1
    rw [hraw, ← String.ofList_toList (s := raw), hchars]
    congr 1
    apply String.toList_injective
    simp
  · rw [verifyToken, hraw]
    simp only [hpieces]
    rcases compareDigest (k.sign (utf8Encode (String.ofList front))) back with e | equal
    · rfl
    · cases equal
      · rfl
      · rfl

/-- **The one exception that is not a refusal** is raised for the signatures beyond ASCII. -/
theorem verifyToken_of_not_ascii {token : String} (h : ¬AsciiSignature token) :
    ∃ message, verifyToken k token = .error (.typeError message) := by
  simp only [AsciiSignature, not_forall] at h
  obtain ⟨signature, hsignature, hascii⟩ := h
  obtain ⟨text, -, hverify⟩ := exists_text_of_signatureText k hsignature
  obtain ⟨message, hcompare⟩ := compareDigest_of_not_ascii (k.sign (utf8Encode text)) hascii
  exact ⟨message, by rw [hverify, hcompare]; rfl⟩

theorem verifyToken_of_ascii {token : String} (h : AsciiSignature token) :
    VerifyRefuses k token := by
  rcases hsignature : signatureText token with - | signature
  · exact Or.inr (verifyToken_of_signatureText_none k hsignature)
  · obtain ⟨text, hraw, hverify⟩ := exists_text_of_signatureText k hsignature
    rw [compareDigest_of_ascii (h signature hsignature)] at hverify
    by_cases heq : k.sign (utf8Encode text) = signature
    · rw [decide_eq_true heq] at hverify
      rcases TokenPayload.decode_cases text with ⟨payload, hdecode⟩ | ⟨message, hdecode⟩
      · refine Or.inl ⟨payload, text, hverify.trans hdecode, hdecode, ?_⟩
        rw [hraw, heq]
      · exact Or.inr ⟨message, hverify.trans hdecode⟩
    · rw [decide_eq_false heq] at hverify
      exact Or.inr ⟨_, hverify⟩

theorem verifyRefuses_iff (token : String) : VerifyRefuses k token ↔ AsciiSignature token := by
  refine ⟨fun h ↦ ?_, verifyToken_of_ascii k⟩
  by_contra hascii
  obtain ⟨message, herror⟩ := verifyToken_of_not_ascii k hascii
  rcases h with ⟨payload, text, hok, -⟩ | ⟨message', hvalue⟩
  · rw [herror] at hok
    cases hok
  · rw [herror] at hvalue
    cases hvalue

/-- The replay token's signature is decoded with replacement, so it is the bytes beyond ASCII that
`compare_digest` trips over. -/
theorem verifyReplayRefuses_iff (token currentIp : String) (time : ℤ) :
    VerifyReplayRefuses k token currentIp time ↔ AsciiReplaySignature token := by
  rw [VerifyReplayRefuses, AsciiReplaySignature, signatureBytes, verifyReplayToken]
  split_ifs with hempty
  · rw [hempty]
    exact ⟨fun _ signature hsignature ↦ absurd hsignature (Option.not_mem_none _),
      fun _ ↦ ⟨none, rfl⟩⟩
  · rcases decodeToken token with - | raw
    · exact ⟨fun _ signature hsignature ↦ absurd hsignature (Option.not_mem_none _),
        fun _ ↦ ⟨none, rfl⟩⟩
    · rw [Option.bind_some]
      rcases hsplit : rsplitOnce (asciiByte '|') raw with - | ⟨payload, sig⟩
      · simp only [hsplit]
        exact ⟨fun _ signature hsignature ↦ absurd hsignature (Option.not_mem_none _),
          fun _ ↦ ⟨none, rfl⟩⟩
      · simp only [hsplit, Option.map_some, Option.mem_some_iff, forall_eq']
        rw [← all_isAscii_asciiDecodeReplace]
        by_cases hascii : (asciiDecodeReplace sig).all isAscii = true
        · rw [compareDigest_of_ascii hascii]
          by_cases heq : k.sign payload = asciiDecodeReplace sig
          · simp only [heq, decide_true, hascii, iff_true]
            exact ⟨_, rfl⟩
          · simp only [heq, decide_false, hascii, iff_true]
            exact ⟨_, rfl⟩
        · obtain ⟨message, hcompare⟩ := compareDigest_of_not_ascii (k.sign payload) hascii
          rw [hcompare]
          simp [hascii]

/-! ### The orchestrator -/

section Evaluate

variable {cf : FormConf} {fp : FormProtection} (reads : FormReads) (now : Civil) (req : FormRequest)
  (data : Submitted)

/-- Parsing the payload raises what is not a `ValueError`. -/
theorem parseSubmittedPayload_of_not_ascii
    (h : ¬AsciiSignature (data.text RenderTokenDefence.fieldName)) :
    ∃ e, parseSubmittedPayload k data = .error e := by
  obtain ⟨message, herror⟩ := verifyToken_of_not_ascii k h
  have hne : data.text RenderTokenDefence.fieldName ≠ "" := by
    intro hempty
    rw [hempty] at h
    exact h fun signature hsignature ↦ absurd hsignature (Option.not_mem_none _)
  exact ⟨.typeError message, by rw [parseSubmittedPayload, if_neg hne, herror]⟩

theorem evaluateRefuses_iff (henabled : cf.enabled = true)
    (hmem : .renderToken ∈ fp.defenceNames) : EvaluateRefuses cf fp reads now req data ↔
      AsciiSignature (data.text RenderTokenDefence.fieldName) := by
  constructor
  · rintro ⟨r, hr, -⟩
    by_contra hascii
    obtain ⟨e, he⟩ := parseSubmittedPayload_of_not_ascii cf.toSigning data hascii
    have hthreaded : fp.threadedPayload cf data = .error e := by
      rw [FormProtection.threadedPayload, if_pos hmem, he]
    rw [(fp.evaluate_spec cf reads now req data henabled).1 e hthreaded] at hr
    cases hr
  · intro h
    rcases verifyToken_of_ascii cf.toSigning h with ⟨payload, text, hok, -⟩ | ⟨message, hvalue⟩
    · obtain ⟨r, hr, -⟩ := fp.evaluate_verified reads now req henabled hmem hok
      exact ⟨r, hr, fun hnot ↦ absurd hok (hnot payload)⟩
    · obtain ⟨r, hr, hblocked⟩ := fp.evaluate_refused reads now req henabled hmem hvalue
      exact ⟨r, hr, fun _ ↦ hblocked⟩

end Evaluate

/-- **Which malformed tokens are refused**: those whose signature is ASCII, at each of the three
entry points. -/
theorem malformed_tokens_refused_iff (k : Signing) :
    (∀ token, VerifyRefuses k token ↔ AsciiSignature token) ∧
    (∀ token currentIp time,
      VerifyReplayRefuses k token currentIp time ↔ AsciiReplaySignature token) ∧
    ∀ (cf : FormConf) (fp : FormProtection), cf.toSigning = k → cf.enabled = true →
      .renderToken ∈ fp.defenceNames → ∀ reads now req data,
        EvaluateRefuses cf fp reads now req data ↔
          AsciiSignature (data.text RenderTokenDefence.fieldName) :=
  ⟨verifyRefuses_iff k, verifyReplayRefuses_iff k, fun _ _ _ henabled hmem reads now req data ↦
    evaluateRefuses_iff reads now req data henabled hmem⟩

/-- The default settings with a key. -/
def keyedConf : FormConf := .defaults (.standard "key" []) Char.isAlphanum

/-- A request from a documentation address. -/
def plainFormRequest : FormRequest := ⟨"203.0.113.9", "Mozilla/5.0", none⟩

/-- Plain words in place of a token are refused: there is no signature in them. -/
theorem malformed_tokens_refused_words :
    VerifyRefuses keyedConf.toSigning "bm90IGEgdG9rZW4" ∧
      VerifyReplayRefuses keyedConf.toSigning "bm90IGEgdG9rZW4" "203.0.113.9" 0 ∧
      EvaluateRefuses keyedConf (plainForm "contact") (FormStore.empty.reads true 0) leapNoon
        plainFormRequest [("waf_token", some "bm90IGEgdG9rZW4")] := by
  have hnone : signatureBytes "bm90IGEgdG9rZW4" = none := by decide
  have htext : signatureText "bm90IGEgdG9rZW4" = none := by
    have hdecoded : decodeToken "bm90IGEgdG9rZW4" = some (utf8Encode "not a token") := by
      decide
    rw [signatureText, hdecoded, Option.bind_some, utf8Decode_utf8Encode]
    decide
  have hascii : AsciiSignature "bm90IGEgdG9rZW4" := by
    rw [AsciiSignature, htext]
    exact fun signature hsignature ↦ absurd hsignature (Option.not_mem_none _)
  have hreplay : AsciiReplaySignature "bm90IGEgdG9rZW4" := by
    rw [AsciiReplaySignature, hnone]
    exact fun signature hsignature ↦ absurd hsignature (Option.not_mem_none _)
  obtain ⟨hverify, hverifyReplay, hevaluate⟩ := malformed_tokens_refused_iff keyedConf.toSigning
  exact ⟨(hverify _).2 hascii, (hverifyReplay _ _ _).2 hreplay,
    (hevaluate keyedConf (plainForm "contact") rfl rfl (by decide) _ _ _ _).2 hascii⟩

/-- **A delimiter and one accented letter**, in base64: each of the three raises. -/
theorem malformed_token_raises :
    ¬VerifyRefuses keyedConf.toSigning "fMOp" ∧
      ¬VerifyReplayRefuses keyedConf.toSigning "fMOp" "203.0.113.9" 0 ∧
      ¬EvaluateRefuses keyedConf (plainForm "contact") (FormStore.empty.reads true 0) leapNoon
        plainFormRequest [("waf_token", some "fMOp")] := by
  have hbytes : signatureBytes "fMOp" = some [0xC3, 0xA9] := by decide
  have htext : signatureText "fMOp" = some ['é'] := by
    have hdecoded : decodeToken "fMOp" = some (utf8Encode "|é") := by decide
    rw [signatureText, hdecoded, Option.bind_some, utf8Decode_utf8Encode]
    decide
  have hascii : ¬AsciiSignature "fMOp" := by
    intro h
    exact absurd (h _ htext) (by decide)
  have hreplay : ¬AsciiReplaySignature "fMOp" := by
    intro h
    exact absurd (h _ hbytes) (by decide)
  refine ⟨mt (verifyRefuses_iff _ _).1 hascii, mt (verifyReplayRefuses_iff _ _ _ _).1 hreplay, ?_⟩
  exact mt (evaluateRefuses_iff _ _ _ _ rfl (by decide)).1 hascii

end DjangoWaf
