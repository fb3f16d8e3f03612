import DjangoWaf.Forms.Decorators

/-!
# Protected forms

`forms/mixin.py`: a `ProtectedForm` runs the defences in its `clean`, after `super().clean()`, and
deletes the marker of a passed submission there and then.

Django calls `clean` **whatever the fields of the form said**, and the classes around the mixin have
checks of their own on either side of it: what they come to is a `Validation`.
-/

namespace DjangoWaf

open PyBytes IsoDatetime

/-- What the validation of a submission comes to beside the defences. -/
structure Validation where
  /-- There are errors when `clean` is called, from `_clean_fields` or added by hand. -/
  fieldErrors : Bool
  /-- A `clean` raises ahead of the defences: `super().clean()`, or one that calls the mixin's
  later. -/
  raisesBefore : Bool
  /-- Errors come after the defences: from a `clean` that called the mixin's first, or from
  `_post_clean`. -/
  errorsAfter : Bool

/-- The form is not valid, whatever the defences say. -/
def Validation.Fails (v : Validation) : Prop :=
  v.fieldErrors = true ∨ v.raisesBefore = true ∨ v.errorsAfter = true

/-- A submission of a protected form. -/
structure FormSubmission where
  validation : Validation
  req : FormRequest
  /-- `self.data`. -/
  data : QueryDict
  now : Civil
  /-- Redis is up. -/
  up : Bool

/-- What Redis answers to it. -/
def FormSubmission.reads (x : FormSubmission) (s : FormStore) : FormReads :=
  s.reads x.up x.now.seconds

/-- A form after `full_clean`. -/
structure CleanedForm where
  /-- `self.waf_result`. -/
  wafResult : Option FormEvaluationResult
  /-- `is_valid()`. -/
  isValid : Bool

namespace FormProtection

variable (cf : FormConf) (fp : FormProtection)

/-- `ProtectedForm.clean` from the defences on: their result, for which `BLOCKED` is a
`ValidationError`, and what is left in Redis. -/
def clean (x : FormSubmission) (s : FormStore) :
    Except FormError (FormEvaluationResult × FormStore) :=
  match fp.evaluate cf (x.reads s) x.now x.req (scalariseSubmittedData x.data) with
  | .error e => .error e
  | .ok result => .ok (result, consumeOnPass x.up result s)

/-- `full_clean`. -/
def fullClean (x : FormSubmission) (s : FormStore) : Except FormError (CleanedForm × FormStore) :=
  if x.validation.raisesBefore = true then .ok (⟨none, false⟩, s)
  else
    match fp.clean cf x s with
    | .error e => .error e
    | .ok (result, s) =>
      .ok (⟨some result, !x.validation.fieldErrors && !x.validation.errorsAfter &&
        result.verdict ≠ .blocked⟩, s)

/-- What `full_clean` leaves in Redis, also where it raises. -/
def storeAfter (x : FormSubmission) (s : FormStore) : FormStore :=
  match fp.fullClean cf x s with
  | .ok (_, s) => s
  | .error _ => s

variable {cf fp} {x : FormSubmission} {s : FormStore}

theorem storeAfter_of_raisesBefore (h : x.validation.raisesBefore = true) :
    fp.storeAfter cf x s = s := by
  rw [storeAfter, fullClean, if_pos h]

/-- **The store after the defences have run**, whether the form is valid or not. -/
theorem storeAfter_of_evaluate (h : ¬x.validation.raisesBefore = true)
    {result : FormEvaluationResult}
    (heval : fp.evaluate cf (x.reads s) x.now x.req (scalariseSubmittedData x.data) = .ok result) :
    fp.storeAfter cf x s = consumeOnPass x.up result s := by
  rw [storeAfter, fullClean, if_neg h, clean, heval]

theorem storeAfter_of_raises (h : ¬x.validation.raisesBefore = true) {e : FormError}
    (heval : fp.evaluate cf (x.reads s) x.now x.req (scalariseSubmittedData x.data) = .error e) :
    fp.storeAfter cf x s = s := by
  rw [storeAfter, fullClean, if_neg h, clean, heval]

/-- Only markers are deleted. -/
theorem consumeOnPass_cases (up : Bool) (result : FormEvaluationResult) (s : FormStore) :
    consumeOnPass up result s = s ∨ (up = true ∧ result.verdict = .passed ∧
      ∃ p ∈ result.tokenPayload, consumeOnPass up result s =
        { s with token := s.token.delete p.nonce }) := by
  rw [consumeOnPass]
  split_ifs with hpassed
  · rcases hpayload : result.tokenPayload with - | p
    · exact Or.inl rfl
    · rw [consumeTokenMarker, FormStore.consumeMarker]
      split_ifs with hup
      · exact Or.inr ⟨hup, hpassed, p, rfl, rfl⟩
      · exact Or.inl rfl
  · exact Or.inl rfl

end FormProtection

end DjangoWaf
