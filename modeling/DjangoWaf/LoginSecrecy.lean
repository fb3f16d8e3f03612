import DjangoWaf.Forms.Credentials
import DjangoWaf.TokenBinding
import Mathlib.Data.List.Forall2

/-!
# Login throttling does not reveal accounts

The counters of a failed login are written together, one under the digest of the identifier that was
typed and one under the address. **What a visitor is told depends on the second alone**: two runs
of a site that differ in the identifiers of their failed logins give every submission the same
outcomes, score and verdict (`verdicts_independent_of_identifiers`).

* What a step makes of the families of keys the defences read is decided by these families, and for
  a failed login without its identifier (`LoginState.Alike.apply`, `LoginState.Alike.fail`).
* So two runs that differ in identifiers only stay `Alike`, and an evaluation reads what is alike.

The counters of the accounts do differ between the two runs, and so does the
`credential_attack_observed` signal. Neither comes back to a form.
-/

namespace DjangoWaf

open PyBytes IsoDatetime

/-! ### The runs of a site with logins -/

/-- What happens to the protected forms of a site, its login among them. -/
inductive LoginStep
  | render (fp : FormProtection) (up : Bool) (req : FormRequest) (now : Civil) (nonce : String)
  /-- `FormProtection.evaluate`. -/
  | submit (fp : FormProtection) (redis : SubmissionReads) (now : Civil) (req : FormRequest)
    (data : Submitted)
  /-- The marker of a submission is given up, if it passed. -/
  | consume (up : Bool) (submission : ℕ)
  /-- `waf_record_credential_failure`. -/
  | fail (login : FailedLogin)

/-- What is in Redis, and what the submissions came to. -/
structure LoginState where
  redis : FormRedis
  results : List (Except FormError FormEvaluationResult)

namespace LoginStep

/-- What a step does. -/
def apply (cf : CredentialConf) (s : LoginState) : LoginStep → LoginState
  | render fp up req now nonce =>
    { s with redis := s.redis.render cf.toFormConf fp up req now nonce }
  | submit fp redis now req data =>
    { s with results := s.results ++
        [fp.evaluate cf.toFormConf (s.redis.reads redis) now req data] }
  | consume up submission =>
    match s.results[submission]? with
    | some (.ok result) => { s with redis := s.redis.consumeOnPass up result }
    | _ => s
  | fail login => { s with redis := (wafRecordCredentialFailure cf login s.redis).2.2 }

/-- One step after another. -/
def run (cf : CredentialConf) (es : List LoginStep) (s : LoginState) : LoginState :=
  es.foldl (apply cf) s

/-- The `clean` of a protected form: a submission, and the end of its marker. -/
theorem store_run_clean (cf : CredentialConf) (fp : FormProtection) (x : FormSubmission)
    (h : ¬x.validation.raisesBefore = true) (s : LoginState) :
    (run cf [submit fp (.atOnce x.up x.now.seconds) x.now x.req (scalariseSubmittedData x.data),
        consume x.up s.results.length] s).redis.store =
      fp.storeAfter cf.toFormConf x s.redis.store := by
  have hreads : s.redis.reads (.atOnce x.up x.now.seconds) = x.reads s.redis.store :=
    s.redis.reads_atOnce x.up x.now.seconds
  rw [run, List.foldl_cons, List.foldl_cons, List.foldl_nil, apply, apply, hreads]
  simp only [List.getElem?_concat_length]
  rcases heval : fp.evaluate cf.toFormConf (x.reads s.redis.store) x.now x.req
    (scalariseSubmittedData x.data) with e | result
  · exact (FormProtection.storeAfter_of_raises h heval).symm
  · rw [FormProtection.storeAfter_of_evaluate h heval]
    exact s.redis.store_consumeOnPass x.up result

/-- Steps that are the same but for the identifier that was typed. -/
inductive SameButIdentifier : LoginStep → LoginStep → Prop
  | refl (e : LoginStep) : SameButIdentifier e e
  | fail (login : FailedLogin) {identifier : String} (h : login.identifier ≠ "")
    (h' : identifier ≠ "") : SameButIdentifier (fail login) (fail { login with identifier })

end LoginStep

/-- States the submissions to come cannot tell apart, and those so far did not. -/
structure LoginState.Alike (s s' : LoginState) : Prop where
  store : s.redis.store = s'.redis.store
  results : s.results = s'.results

namespace LoginState.Alike

variable {cf : CredentialConf} {s s' : LoginState}

theorem reads_eq (h : Alike s s') (x : SubmissionReads) : s.redis.reads x = s'.redis.reads x := by
  rw [FormRedis.reads, FormRedis.reads, h.store]

/-- **The same step**, on both sides. -/
theorem apply (h : Alike s s') (e : LoginStep) : Alike (e.apply cf s) (e.apply cf s') := by
  cases e with
  | render fp up req now nonce =>
    refine ⟨?_, h.results⟩
    show (s.redis.render _ fp up req now nonce).store =
      (s'.redis.render _ fp up req now nonce).store
    rw [FormRedis.store_render, FormRedis.store_render, h.store]
  | submit fp redis now req data =>
    refine ⟨h.store, ?_⟩
    show s.results ++ [_] = s'.results ++ [_]
    rw [h.results, h.reads_eq redis]
  | consume up submission =>
    -- whose marker it is, and whether it is given up, is read from the results
    rw [LoginStep.apply, LoginStep.apply, ← h.results]
    rcases s.results[submission]? with - | (e | result)
    · exact h
    · exact h
    · refine ⟨?_, rfl⟩
      show (s.redis.consumeOnPass up result).store = (s'.redis.consumeOnPass up result).store
      rw [FormRedis.store_consumeOnPass, FormRedis.store_consumeOnPass, h.store]
  | fail login =>
    refine ⟨?_, h.results⟩
    show (wafRecordCredentialFailure cf login s.redis).2.2.store =
      (wafRecordCredentialFailure cf login s'.redis).2.2.store
    rcases Decidable.em (login.identifier = "") with hempty | hne
    · -- nothing is recorded
      rw [wafRecordCredentialFailure, wafRecordCredentialFailure, if_pos (Or.inl hempty),
        if_pos (Or.inl hempty)]
      exact h.store
    · rw [store_wafRecordCredentialFailure cf login _ hne,
        store_wafRecordCredentialFailure cf login _ hne, h.store]

/-- **Failed logins of two identifiers.** -/
theorem fail (h : Alike s s') {login : FailedLogin} {identifier : String}
    (hne : login.identifier ≠ "") (hne' : identifier ≠ "") :
    Alike ((LoginStep.fail login).apply cf s)
      ((LoginStep.fail { login with identifier }).apply cf s') := by
  refine ⟨?_, h.results⟩
  show (wafRecordCredentialFailure cf login s.redis).2.2.store =
    (wafRecordCredentialFailure cf { login with identifier } s'.redis).2.2.store
  rw [store_wafRecordCredentialFailure cf login _ hne,
    store_wafRecordCredentialFailure cf { login with identifier } _ hne', h.store]

theorem run (h : Alike s s') {es es' : List LoginStep}
    (hes : List.Forall₂ LoginStep.SameButIdentifier es es') :
    Alike (LoginStep.run cf es s) (LoginStep.run cf es' s') := by
  refine List.rel_foldl (fun _ _ ht e e' he ↦ ?_) h hes
  cases he with
  | refl => exact ht.apply e
  | fail login hne hne' => exact ht.fail hne hne'

end LoginState.Alike

/-- **No submission tells whose logins failed.** -/
theorem verdicts_independent_of_identifiers (cf : CredentialConf) (s : LoginState)
    {es es' : List LoginStep} (hes : List.Forall₂ LoginStep.SameButIdentifier es es') :
    (LoginStep.run cf es s).results = (LoginStep.run cf es' s).results :=
  (LoginState.Alike.run ⟨rfl, rfl⟩ hes).results

/-! ### One account, and three -/

/-- The settings of form protection, with the default ones of the account counter. -/
def throttledConf : CredentialConf := ⟨keyedConf, 5, 900⟩

/-- A login form whose limit for an address is three failed logins. -/
def loginForm : FormProtection where
  formId := "login"
  defenceNames := [.credentialThrottle]
  sublist := by decide
  weights := []
  skipForAuthenticated := false
  perFormConfig := { DefenceConfig.empty with ipLimit := some 3 }

/-- A login of the visitor that fails. -/
def failedLogin (identifier : String) : FailedLogin :=
  ⟨true, .done, leapNoon.seconds, "203.0.113.9", identifier⟩

/-- Three logins fail, and the visitor comes back to the form. -/
def threeFailures (a b c : String) : List LoginStep :=
  [.fail (failedLogin a), .fail (failedLogin b), .fail (failedLogin c),
    .submit loginForm (.atOnce true leapNoon.seconds) leapNoon visitor []]

/-- The address is over its limit then, by whoever's logins. -/
example :
    (LoginStep.run throttledConf (threeFailures "alice" "bob" "carol") ⟨.empty, []⟩).results.map
      (fun r ↦ r.toOption.map (·.verdict)) = [some .blocked] := by decide +kernel

/-- A run of guesses at one account ends as one over three accounts. -/
theorem verdicts_independent_of_identifiers_three :
    (LoginStep.run throttledConf (threeFailures "alice" "alice" "alice") ⟨.empty, []⟩).results =
      (LoginStep.run throttledConf (threeFailures "alice" "bob" "carol") ⟨.empty, []⟩).results :=
  verdicts_independent_of_identifiers throttledConf ⟨.empty, []⟩
    (.cons (.refl _) (.cons (.fail (failedLogin "alice") (by decide) (by decide))
      (.cons (.fail (failedLogin "alice") (by decide) (by decide)) (.cons (.refl _) .nil))))

end DjangoWaf
