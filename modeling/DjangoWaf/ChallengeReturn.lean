import DjangoWaf.Escalation
import DjangoWaf.Lib.UrlQuery

/-!
# Back from the challenge

A challenged request is redirected to `f"{challenge_path}?next={path}"`, and `ChallengeView.get`
reads the way back with `request.GET.get("next")`. The path in between is the decoded `path_info`,
pasted into a query string **as it is**: `HttpResponseRedirect` makes the URL ASCII with
`iri_to_uri`, which leaves every character alone that the query parser looks for.

`challenge_returns_iff` says which paths come back: those with no `&`, no `#`, no `+` and no percent
sign with two hexadecimal digits behind it. Nothing else in a path is touched: blanks, quotes,
semicolons, further question marks and equals signs and all characters beyond ASCII survive.

`IsPath` is what the settings ask of `DJANGO_WAF_CHALLENGE_URL` and what `reverse()` returns. Fields
beyond the default limit of a thousand are refused, as Django does.
-/

namespace DjangoWaf

open UrlQuery

/-- A literal path: the URL of the challenge page has no query and no fragment of its own. -/
def IsPath (path : String) : Prop := '?' ∉ path.toList ∧ '#' ∉ path.toList

/-- `request.GET` of the request a client sends to the URL it was redirected to, or `none` where
Django refuses it. -/
def requestGet (url : String) : Option (List (String × String)) :=
  parseQsl 1000 (queryOf (iriToUri url.toList))

/-- `request.GET.get(name)`: the last value. -/
def queryDictGet (get : List (String × String)) (name : String) : Option String :=
  get.reverse.lookup name

/-- The redirect leads back: `next` is the path, and there is no other parameter. -/
def ReturnsTo (url path : String) : Prop :=
  ∃ get, requestGet url = some get ∧ queryDictGet get "next" = some path ∧
    ∀ field ∈ get, field.1 = "next"

/-- A path without the characters that a query string gives a meaning to. -/
def SurvivesQuery (path : String) : Prop :=
  '&' ∉ path.toList ∧ '#' ∉ path.toList ∧ '+' ∉ path.toList ∧ hasEscape path.toList = false

instance : DecidablePred IsPath := fun _ ↦ inferInstanceAs (Decidable (_ ∧ _))

instance : DecidablePred SurvivesQuery := fun _ ↦ inferInstanceAs (Decidable (_ ∧ _))

/-! ### The redirect -/

/-- A challenge redirect is the challenge path with the request's own path pasted behind it. -/
theorem redirect_eq_of_handleVerdict {env : Env} {req : Request} {result : EvaluationResult}
    {w : World} {url challengePath verifyPath : String}
    (hroutes : req.routes = some (challengePath, verifyPath))
    (h : (handleVerdict env req result w).1 = .redirect url) :
    url = challengePath ++ "?next=" ++ req.path := by
  rw [handleVerdict] at h
  rcases hv : result.verdict with - | - | - | - | - | -
  all_goals
    rw [hv] at h
  case challenged =>
    simp only [hroutes] at h
    split at h
    · cases h
    · exact (Response.redirect.inj h).symm
  all_goals cases h

theorem redirect_eq_of_call {cf : Conf} {env : Env} {req : Request} {w : World}
    {url challengePath verifyPath : String}
    (hroutes : req.routes = some (challengePath, verifyPath))
    (h : (WafMiddleware.call cf env req w).1.response = .redirect url) :
    url = challengePath ++ "?next=" ++ req.path := by
  rw [WafMiddleware.call] at h
  rcases hstop : req.stoppedEarly cf with - | response
  · rw [hstop] at h
    rcases heval : evaluateRequest cf env req.query w with ⟨x | e, w'⟩
    · rw [heval] at h
      cases h
    · rw [heval] at h
      exact redirect_eq_of_handleVerdict hroutes h
  · rw [hstop] at h
    exact absurd h (stoppedEarly_ne_redirect cf hstop url)

/-! ### The way back -/

/-- The query of the redirect is the pasted path up to its first number sign. -/
theorem queryOf_redirect {challengePath : String} (hpath : IsPath challengePath) (path : String) :
    queryOf (challengePath ++ "?next=" ++ path).toList =
      "next".toList ++ '=' :: path.toList.takeWhile (· ≠ '#') := by
  obtain ⟨hquestion, hnumber⟩ := hpath
  have hfront : ∀ c ∈ challengePath.toList ++ "?next=".toList, decide (c ≠ '#') = true := by
    intro c hc
    rw [decide_eq_true_eq]
    rintro rfl
    rcases List.mem_append.1 hc with hc | hc
    · exact hnumber hc
    · exact absurd hc (by decide)
  rw [queryOf, String.toList_append, String.toList_append, List.takeWhile_append_of_pos hfront,
    List.append_assoc]
  have hsplit := PyStr.splitOnce_append hquestion
    ("next=".toList ++ path.toList.takeWhile (· ≠ '#'))
  have hshape : challengePath.toList ++ ("?next=".toList ++ path.toList.takeWhile (· ≠ '#')) =
      challengePath.toList ++ '?' :: ("next=".toList ++ path.toList.takeWhile (· ≠ '#')) := rfl
  rw [hshape, hsplit]
  rfl

/-- The parameters of the redirect. -/
theorem requestGet_redirect {challengePath : String} (hpath : IsPath challengePath)
    (path : String) :
    requestGet (challengePath ++ "?next=" ++ path) =
      parseQsl 1000 ("next".toList ++ '=' :: path.toList.takeWhile (· ≠ '#')) := by
  rw [requestGet, parseQsl_queryOf_iriToUri, queryOf_redirect hpath]

theorem unquote_plus_next : unquote (plus "next".toList) = "next".toList :=
  unquote_plus_eq_self_iff.2 ⟨by decide, by decide⟩

/-- **The way back from a challenge.** For every request that gets a challenge redirect: the `next`
parameter that the challenge view reads is the request's path, and the only parameter, exactly when
the path has no character that a query string gives a meaning to. -/
theorem challenge_returns_iff (cf : Conf) (env : Env) (req : Request) (w : World)
    {url challengePath verifyPath : String}
    (hroutes : req.routes = some (challengePath, verifyPath)) (hpath : IsPath challengePath)
    (hredirect : (WafMiddleware.call cf env req w).1.response = .redirect url) :
    ReturnsTo url req.path ↔ SurvivesQuery req.path := by
  obtain rfl := redirect_eq_of_call hroutes hredirect
  have hequals : '=' ∉ "next".toList := by decide
  have hand : '&' ∉ "next".toList := by decide
  have hget := requestGet_redirect hpath req.path
  have hlength := (List.takeWhile_prefix (l := req.path.toList) (· ≠ '#')).length_le
  constructor
  · rintro ⟨get, hparse, hnext, -⟩
    rw [hget] at hparse
    -- whichever field the last `next` is, its value is read from the pasted path
    obtain ⟨front, back, hsplit, -⟩ := List.lookup_eq_some_iff.1 hnext
    have hmem : ("next", req.path) ∈ get := by
      rw [← List.mem_reverse, hsplit]
      exact List.mem_append_right _ List.mem_cons_self
    obtain ⟨part, hpart, hle, hwhole⟩ := exists_value_of_mem_parseQsl hequals hand hparse hmem
    have hread : req.path.toList = unquote (plus part) := by
      have hlist := congrArg String.toList hpart
      rwa [String.toList_ofList] at hlist
    -- reading never lengthens a text, so all of the path was read
    have hshort := (length_unquote_plus part).1
    rw [← hread] at hshort
    obtain ⟨hampersand, rfl⟩ := hwhole (by omega)
    have hcut : req.path.toList.takeWhile (· ≠ '#') = req.path.toList :=
      (List.takeWhile_prefix _).eq_of_length (by omega)
    rw [hcut] at hampersand hread
    obtain ⟨hplus, hescape⟩ := unquote_plus_eq_self_iff.1 hread.symm
    refine ⟨hampersand, fun hnumber ↦ ?_, hplus, hescape⟩
    rw [← hcut] at hnumber
    simpa using List.mem_takeWhile_imp hnumber
  · rintro ⟨hampersand, hnumber, hplus, hescape⟩
    have hcut : req.path.toList.takeWhile (· ≠ '#') = req.path.toList :=
      List.takeWhile_eq_self_iff.2 fun c hc ↦ by
        rw [decide_eq_true_eq]
        rintro rfl
        exact hnumber hc
    rw [hcut, parseQsl_of_not_mem hequals hand hampersand (by decide), unquote_plus_next,
      unquote_plus_eq_self_iff.2 ⟨hplus, hescape⟩, String.ofList_toList, String.ofList_toList]
      at hget
    refine ⟨_, hget, ?_, ?_⟩
    · rw [queryDictGet, List.reverse_singleton, List.lookup_cons_self]
    · intro field hfield
      rw [List.mem_singleton.1 hfield]

/-- A `GET` of a page, from an address with a challenge rule. -/
def challengedRequest (path : String) : Request := { plainRequest "" with path }

/-- A blank and an accent come back. -/
theorem challenge_returns_to_accent :
    ReturnsTo "/waf/challenge/?next=/caf\u00e9 menu;v=1?" "/caf\u00e9 menu;v=1?" :=
  (challenge_returns_iff plainConf (Env.plain 0) (challengedRequest "/caf\u00e9 menu;v=1?")
    (World.start ⟨[challengeRule], []⟩) rfl (by decide) (by decide +kernel)).2 (by decide +kernel)

/-- **A path smuggles a parameter**: the redirect from `/cart&form_replay=x` leads back to `/cart`
and carries a `form_replay`. -/
theorem challenge_returns_elsewhere :
    (WafMiddleware.call plainConf (Env.plain 0) (challengedRequest "/cart&form_replay=x")
      (World.start ⟨[challengeRule], []⟩)).1.response =
        .redirect "/waf/challenge/?next=/cart&form_replay=x" ∧
    requestGet "/waf/challenge/?next=/cart&form_replay=x" =
      some [("next", "/cart"), ("form_replay", "x")] ∧
    ¬ReturnsTo "/waf/challenge/?next=/cart&form_replay=x" "/cart&form_replay=x" := by
  have hget : requestGet "/waf/challenge/?next=/cart&form_replay=x" =
      some [("next", "/cart"), ("form_replay", "x")] := by decide +kernel
  refine ⟨by decide +kernel, hget, ?_⟩
  rintro ⟨get, hparse, -, hall⟩
  rw [hget] at hparse
  obtain rfl := Option.some.inj hparse
  exact absurd (hall ("form_replay", "x") (by decide)) (by decide)

end DjangoWaf
