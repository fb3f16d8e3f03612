import DjangoWaf.Forms.Replay
import DjangoWaf.TokenRoundTrip
import DjangoWaf.Services.ClientIp

/-!
# Two kinds of signed text

A render token signs six fields, a replay token four, with one key and one delimiter. Nothing in the
signed text says which kind it is, so a verifier tells them apart **by the number of pieces**.

`signed_artefacts_separate_iff`: a render token has six pieces at least and never passes for a
replay token. A replay token has four and those that its address and its session key add; it passes
for a render token exactly when they add two and the fourth piece happens to be a timestamp. The
scope of an IPv6 address may hold both.
-/

namespace DjangoWaf

open PyBytes IsoDatetime

/-! ### The pieces of a replay token -/

variable (k : Signing)

/-- The pieces of a replay payload: the form identifier, those of the address and the session key,
and the expiry. -/
theorem splitOn_replayPayload {formId : String} (hform : '|' ∉ formId.toList)
    (ip sessionKey : String) (expiresAt : ℤ) :
    PyStr.splitOn '|' (replayPayload formId ip sessionKey expiresAt).toList =
      formId.toList :: PyStr.splitOn '|' (ip ++ "|" ++ sessionKey).toList ++
        [intText expiresAt] := by
  have hmiddle : (ip ++ "|" ++ sessionKey).toList = ip.toList ++ '|' :: sessionKey.toList := by
    simp
  rw [replayPayload, String.toList_ofList, replayFields, PyStr.join_cons_cons,
    PyStr.join_cons_cons, PyStr.join_cons_cons, PyStr.join_singleton, hmiddle,
    PyStr.splitOn_append_sep, PyStr.splitOn_append_sep, PyStr.splitOn_append_sep,
    PyStr.splitOn_append_sep, PyStr.splitOn_of_not_mem hform,
    PyStr.splitOn_of_not_mem (delim_not_mem_intText expiresAt)]
  simp

/-! ### Replay tokens read as render tokens -/

/-- An address and a session key of four pieces, the third of which is a timestamp. -/
def FourWithTimestamp (ip sessionKey : String) : Prop :=
  ∃ a b iso c, PyStr.splitOn '|' (ip ++ "|" ++ sessionKey).toList = [a, b, iso, c] ∧
    (fromisoformat iso).isSome = true

/-- What a payload of the wrong kind decodes to. -/
theorem decode_replayPayload_iff {formId : String} (hform : '|' ∉ formId.toList)
    (ip sessionKey : String) (expiresAt : ℤ) :
    (∃ payload, TokenPayload.decode (replayPayload formId ip sessionKey expiresAt) = .ok payload) ↔
      FourWithTimestamp ip sessionKey := by
  have hsplit := splitOn_replayPayload hform ip sessionKey expiresAt
  constructor
  · rintro ⟨payload, hpayload⟩
    have hlength : (PyStr.splitOn '|' (ip ++ "|" ++ sessionKey).toList).length = 4 := by
      by_contra hne
      have hsix : (PyStr.splitOn '|'
          (replayPayload formId ip sessionKey expiresAt).toList).length ≠ 6 := by
        rw [hsplit, List.length_append, List.length_cons, List.length_singleton]
        omega
      obtain ⟨message, herror⟩ := TokenPayload.decode_of_length_ne hsix
      rw [herror] at hpayload
      cases hpayload
    obtain ⟨a, b, iso, c, hfour⟩ := List.length_eq_four.1 hlength
    refine ⟨a, b, iso, c, hfour, ?_⟩
    rw [TokenPayload.decode, hsplit, hfour] at hpayload
    rcases hiso : fromisoformat iso with - | t
    · simp only [List.cons_append, List.nil_append, hiso] at hpayload
      cases hpayload
    · rfl
  · rintro ⟨a, b, iso, c, hfour, hiso⟩
    obtain ⟨t, ht⟩ := Option.isSome_iff_exists.1 hiso
    refine ⟨⟨formId, String.ofList a, String.ofList b, t, String.ofList c,
      String.ofList (intText expiresAt)⟩, ?_⟩
    rw [TokenPayload.decode, hsplit, hfour]
    simp only [List.cons_append, List.nil_append, ht, String.ofList_toList]

/-! ### Render tokens read as replay tokens -/

/-- A render token has more than four pieces, so it names no stash. -/
theorem readReplayPayload_encode (p : TokenPayload) (currentIp : String) (time : ℤ) :
    readReplayPayload (utf8Encode p.encode) currentIp time = none := by
  have hlength := p.length_splitOn_encode
  rw [readReplayPayload, utf8Decode_utf8Encode, Option.map_some]
  split
  · rename_i heq
    rw [Option.some.inj heq] at hlength
    simp only [List.length_cons, List.length_nil] at hlength
    omega
  · rfl

/-- **When the two kinds stay apart.** -/
theorem signed_artefacts_separate_iff {formId : String} (hform : '|' ∉ formId.toList)
    (ip : String) :
    (∀ sessionKey time,
      (∀ payload, verifyToken k (issueReplayToken k formId ip sessionKey time) ≠ .ok payload) ↔
        ¬FourWithTimestamp ip sessionKey) ∧
    ∀ userId userAgent nonce renderTime currentIp time,
      verifyReplayToken k (issueToken k formId ip userId userAgent nonce renderTime).1 currentIp
        time = .ok none := by
  refine ⟨fun sessionKey time ↦ ?_, fun userId userAgent nonce renderTime currentIp time ↦ ?_⟩
  · rw [issueReplayToken_eq, verifyToken_signed, ← decode_replayPayload_iff hform ip sessionKey,
      not_exists]
  · have hsigned := verifyReplayToken_signed k
      (issueToken k formId ip userId userAgent nonce renderTime).2.encode currentIp time
    rw [readReplayPayload_encode] at hsigned
    exact hsigned

/-- A scope without a delimiter. -/
theorem signed_artefacts_separate_scoped :
    (∀ payload, verifyToken (.standard "key" [])
      (issueReplayToken (.standard "key" []) "contact" "fe80::1%eth0" "0f0f" 0) ≠ .ok payload) ∧
    verifyReplayToken (.standard "key" [])
      (issueToken (.standard "key" []) "contact" "fe80::1%eth0" "42" "Mozilla/5.0" "00ff"
        leapNoon.utc).1 "fe80::1%eth0" 0 = .ok none := by
  have hform : '|' ∉ "contact".toList := by decide
  have hsep := signed_artefacts_separate_iff (.standard "key" []) hform "fe80::1%eth0"
  refine ⟨(hsep.1 "0f0f" 0).2 ?_, hsep.2 _ _ _ _ _ _⟩
  rintro ⟨a, b, iso, c, hfour, -⟩
  have hlength : (PyStr.splitOn '|' ("fe80::1%eth0" ++ "|" ++ "0f0f").toList).length = 4 :=
    congrArg List.length hfour
  exact absurd hlength (by decide)

/-- **A scope with two delimiters and a date** crosses over, behind a trusted proxy. -/
theorem signed_artefacts_cross :
    ¬∀ (pf : ProxyConf) (m : PeerMeta) (sessionKey : String) (time : ℤ) (payload : TokenPayload),
      verifyToken (.standard "key" [])
        (issueReplayToken (.standard "key" []) "contact" (resolveClientIp pf m) sessionKey time) ≠
          .ok payload := by
  intro hall
  have hform : '|' ∉ "contact".toList := by decide
  have hip : resolveClientIp twoProxies ⟨some "10.0.0.1", some "fe80::1%a|b|2026-01-01"⟩ =
      "fe80::1%a|b|2026-01-01" := by
    decide
  have hfour : FourWithTimestamp "fe80::1%a|b|2026-01-01" "0f0f" :=
    ⟨"fe80::1%a".toList, ['b'], "2026-01-01".toList, "0f0f".toList, by decide, by decide⟩
  obtain ⟨payload, hpayload⟩ := (decode_replayPayload_iff hform _ _ (0 + replayTtlSeconds)).2 hfour
  refine hall twoProxies ⟨some "10.0.0.1", some "fe80::1%a|b|2026-01-01"⟩ "0f0f" 0 payload ?_
  rw [hip, issueReplayToken_eq, verifyToken_signed, hpayload]

end DjangoWaf
