import DjangoWaf.Forms.Protection

/-!
# Issued tokens, read back

`token_round_trip_iff`: a render token is verified to the payload it was issued with exactly when
the form identifier, the address and the user identifier hold no `|`. The other three fields never
do: a nonce and a digest are hexadecimal, and a timestamp has no such character.

The constructor checks the names of the defences and **nothing about the form identifier**, so a
form can be configured whose tokens are all refused.
-/

namespace DjangoWaf

open PyBytes IsoDatetime

/-- **When a render token survives the round trip.** -/
theorem token_round_trip_iff (k : Signing) (fp : FormProtection)
    (ip userId userAgent nonce : String) (hnonce : ∀ c ∈ nonce.toList, IsHex c)
    (renderTime : Civil) :
    verifyToken k (issueToken k fp.formId ip userId userAgent nonce renderTime.utc).1 =
        .ok (issueToken k fp.formId ip userId userAgent nonce renderTime.utc).2 ↔
      '|' ∉ fp.formId.toList ∧ '|' ∉ ip.toList ∧ '|' ∉ userId.toList := by
  rw [verifyToken_issueToken, TokenPayload.decode_encode_iff _ renderTime.legible_utc,
    noDelim_issueToken_iff _ _ _ _ _ hnonce]

/-- A form with a given identifier and the default defences. -/
def plainForm (formId : String) : FormProtection where
  formId
  defenceNames := [.renderToken, .honeypot, .timeTrap]
  sublist := by decide
  weights := []
  skipForAuthenticated := false
  perFormConfig := .empty

/-- The constructor accepts it, whatever the identifier. -/
theorem init_plainForm (formId : String) :
    FormProtection.init formId ["render_token", "honeypot", "time_trap"] [] false .empty =
      .ok (plainForm formId) := rfl

/-- Noon on a leap day. -/
def leapNoon : Civil where
  year := 2024
  month := 2
  day := 29
  hour := 12
  minute := 0
  second := 0
  microsecond := 250000
  year_mem := by decide
  month_mem := by decide
  day_mem := by decide
  hour_lt := by decide
  minute_lt := by decide
  second_lt := by decide
  microsecond_lt := by decide

/-- An IPv6 client with a scope, on a form without a delimiter. -/
theorem token_round_trip_scoped :
    verifyToken (.standard "key" [])
        (issueToken (.standard "key" []) (plainForm "contact").formId "fe80::1%eth0" "42"
          "Mozilla/5.0" "00ff" leapNoon.utc).1 =
      .ok (issueToken (.standard "key" []) (plainForm "contact").formId "fe80::1%eth0" "42"
        "Mozilla/5.0" "00ff" leapNoon.utc).2 :=
  (token_round_trip_iff (.standard "key" []) (plainForm "contact") "fe80::1%eth0" "42"
    "Mozilla/5.0" "00ff" (by decide) leapNoon).2 (by decide)

/-- **A form identifier with a delimiter** is accepted, and its tokens are not. -/
theorem token_round_trip_lost :
    ¬∀ (k : Signing) (fp : FormProtection) (ip userId userAgent nonce : String),
      (∀ c ∈ nonce.toList, IsHex c) → ∀ renderTime : Civil,
        verifyToken k (issueToken k fp.formId ip userId userAgent nonce renderTime.utc).1 =
          .ok (issueToken k fp.formId ip userId userAgent nonce renderTime.utc).2 := by
  intro hall
  have hround := hall (.standard "key" []) (plainForm "news|letter") "203.0.113.9" "" "Mozilla/5.0"
    "00ff" (by decide) leapNoon
  rw [verifyToken_issueToken, TokenPayload.decode_encode_iff _ leapNoon.legible_utc] at hround
  have hform : '|' ∉ "news|letter".toList := (TokenPayload.noDelim_iff _).1 hround |>.1
  exact absurd hform (by decide)

end DjangoWaf
