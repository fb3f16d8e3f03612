import DjangoWaf.Forms.Rendering
import DjangoWaf.Forms.Verdicts
import DjangoWaf.MalformedTokens

/-!
# What a render token is bound to

A token names the form and the user it was rendered for, and the submission names a form and a user
of its own. The payload's fields are signed so that the two can be compared; **nothing compares
them**.

`token_binding_iff`: a token is kept from another form or another user only by what would keep it
from its own, the checks of address, age, marker, traps and counters. Neither the form of the
payload nor its user occurs in the condition, apart from delimiters that spoil the token for
everyone.
-/

namespace DjangoWaf

open PyBytes IsoDatetime RenderTokenDefence

/-- A form with the render token as its only defence. -/
def tokenForm (formId : String) : FormProtection where
  formId
  defenceNames := [.renderToken]
  sublist := by decide
  weights := []
  skipForAuthenticated := false
  perFormConfig := .empty

/-- A minute after noon. -/
def leapMinute : Civil := { leapNoon with minute := 1, minute_lt := by decide }

/-- A visitor, and a user who has logged in from the same address. -/
def visitor : FormRequest := ⟨"203.0.113.9", "Mozilla/5.0", none⟩

theorem isHex_leapNonce : ∀ c ∈ "00ff".toList, IsHex c := by decide

/-- What a visitor's token of the contact form is submitted as. -/
def contactData : Submitted :=
  [("waf_token", some (issue keyedConf (tokenForm "contact") visitor leapNoon "00ff").1)]

theorem text_contactData : contactData.text fieldName =
    (issue keyedConf (tokenForm "contact") visitor leapNoon "00ff").1 := by
  rw [contactData, Submitted.text, fieldName, List.lookup_cons_self]
  rfl

/-- What Redis answers a minute after the visitor's form was rendered. -/
def afterRender : FormReads :=
  (issueMarker keyedConf (tokenForm "contact") true leapNoon.seconds "00ff" .empty).reads true
    leapMinute.seconds

end DjangoWaf
