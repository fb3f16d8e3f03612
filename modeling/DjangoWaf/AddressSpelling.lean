import DjangoWaf.Middleware
import DjangoWaf.Services.ClientIp

/-!
# Rules and the spelling of an address

An address can be written in several ways: IPv6 in either case, expanded or compressed, and an IPv4
address also in its IPv4-mapped IPv6 form. Three parts of the package meet here, and each has its
own idea of when two texts are the same client:

* an IP rule compares **texts**;
* a range, in a CIDR rule or in the second part of a composite one, compares **parsed addresses**,
  and the families with them;
* a logged address has passed `GenericIPAddressField`, which stores a **normal form**, while the
  address of a request is whatever `resolve_client_ip` found.

`ruleMatches_spelling_iff` says exactly which rules tell two spellings of one client apart.
`GenericIPAddressField` belongs to Django and stands here as a function on texts.
-/

namespace DjangoWaf

variable (cf : Conf)

/-- Two texts that name one client. -/
def SameHost (s s' : String) : Prop :=
  ∃ a a', IpAddress.ipAddress s = some a ∧ IpAddress.ipAddress s' = some a' ∧ a.host = a'.host

/-- The text an IP rule compares the address with. -/
def Criterion.exactText (rule : Criterion) : Option String :=
  match rule.ruleType, rule.matchType with
  | .ip, .exact => some rule.pattern
  | .ip, .cidr => some rule.pattern
  | _, _ => none

/-- The range a rule compares the parsed address with: the pattern of a CIDR rule, and the second
part of a composite rule whose first part the user agent meets. -/
def Criterion.range (rule : Criterion) (userAgent : String) : Option String :=
  match rule.ruleType with
  | .cidr => some rule.pattern
  | .composite =>
    match PyStr.splitOnce ['|', '|'] rule.pattern.toList with
    | some (uaPart, ipPart) =>
      if matchUa cf userAgent (PyStr.stripText (String.ofList uaPart)) rule.matchType then
        some (PyStr.stripText (String.ofList ipPart))
      else none
    | none => none
  | _ => none

/-- A range treats two addresses of one host alike: they are of one family, or it holds neither. -/
def RangeBlind (cidr : String) (a a' : IpAddress.Address) : Prop :=
  a.version = a'.version ∨
    ∀ n, IpAddress.ipNetwork cidr = some n → n.contains a = false ∧ n.contains a' = false

/-- **A rule is blind to the spelling** of two texts: as an IP rule its text is neither of them or
they are one text, and its range holds neither of them or they are of one family. -/
def SpellingBlind (rule : Criterion) (userAgent s s' : String) : Prop :=
  (∀ t, rule.exactText = some t → s = s' ∨ t ≠ s ∧ t ≠ s') ∧
    ∀ cidr, rule.range cf userAgent = some cidr →
      ∀ a a', IpAddress.ipAddress s = some a → IpAddress.ipAddress s' = some a' →
        RangeBlind cidr a a'

/-! ### What a match compares -/

/-- An address lies in the range it spells. -/
theorem matchCidr_self {s : String} {a : IpAddress.Address} (ha : IpAddress.ipAddress s = some a) :
    matchCidr s s = true := by
  obtain ⟨n, hn, hin⟩ := IpAddress.ipNetwork_of_ipAddress ha
  simp only [matchCidr, ha, hn]
  exact hin

/-- The exact half of a composite rule adds nothing: a text that is the range lies in it. -/
theorem matchIp_or_matchCidr {s ip : String} {a : IpAddress.Address}
    (ha : IpAddress.ipAddress s = some a) (matchType : MatchType) :
    (matchIp s ip matchType || matchCidr s ip) = matchCidr s ip := by
  rcases hm : matchIp s ip matchType with - | -
  · rw [Bool.false_or]
  · have hs : s = ip := by
      rcases matchType <;> simp_all [matchIp]
    rw [← hs, matchCidr_self ha]
    rfl

/-- A range answers alike for two addresses of one host exactly when it is blind to them. -/
theorem matchCidr_eq_iff {s s' cidr : String} {a a' : IpAddress.Address}
    (ha : IpAddress.ipAddress s = some a) (ha' : IpAddress.ipAddress s' = some a')
    (hhost : a.host = a'.host) : matchCidr s cidr = matchCidr s' cidr ↔ RangeBlind cidr a a' := by
  simp only [matchCidr, ha, ha', RangeBlind]
  rcases hn : IpAddress.ipNetwork cidr with - | n
  · simp
  · by_cases hv : a.version = a'.version
    · rw [IpAddress.eq_of_host hv hhost]
      exact ⟨fun _ ↦ Or.inl rfl, fun _ ↦ rfl⟩
    · -- a network is of one family, so it cannot hold both
      have hnot : ¬(n.contains a = true ∧ n.contains a' = true) := by
        simp only [IpAddress.Network.contains, Bool.and_eq_true, decide_eq_true_eq]
        rintro ⟨⟨hna, -⟩, hna', -⟩
        exact hv (hna.symm.trans hna')
      simp only [hv, false_or, Option.some.injEq, forall_eq']
      constructor
      · intro heq
        have hout : n.contains a = false := by
          rw [← Bool.not_eq_true]
          exact fun hin ↦ hnot ⟨hin, heq ▸ hin⟩
        exact ⟨hout, heq ▸ hout⟩
      · rintro ⟨hout, hout'⟩
        rw [hout, hout']

/-- A rule whose type compares texts, ranges or neither, in these terms. -/
theorem ruleMatches_eq_iff {s s' : String} {a a' : IpAddress.Address} (rule : Criterion)
    (userAgent : String) (ha : IpAddress.ipAddress s = some a)
    (ha' : IpAddress.ipAddress s' = some a') :
    ruleMatches cf rule s userAgent = ruleMatches cf rule s' userAgent ↔
      (∀ t, rule.exactText = some t → (s = t ↔ s' = t)) ∧
        ∀ cidr, rule.range cf userAgent = some cidr → matchCidr s cidr = matchCidr s' cidr := by
  rcases rule with ⟨ruleType, matchType, pattern⟩
  rcases ruleType with - | - | - | - | v
  · simp [ruleMatches, Criterion.exactText, Criterion.range]
  · rcases matchType <;>
      simp [ruleMatches, matchIp, Criterion.exactText, Criterion.range]
  · simp [ruleMatches, Criterion.exactText, Criterion.range]
  · simp only [ruleMatches, Criterion.exactText, Criterion.range]
    rcases PyStr.splitOnce ['|', '|'] pattern.toList with - | ⟨uaPart, ipPart⟩
    · simp
    · simp only [matchIp_or_matchCidr ha, matchIp_or_matchCidr ha']
      rcases matchUa cf userAgent (PyStr.stripText (String.ofList uaPart)) matchType with - | -
      · simp
      · simp
  · simp [ruleMatches, Criterion.exactText, Criterion.range]

/-! ### Which spellings a rule tells apart -/

/-- A text is met by both or by neither exactly when they are one text or it is neither. -/
theorem text_eq_iff {s s' t : String} : (s = t ↔ s' = t) ↔ s = s' ∨ t ≠ s ∧ t ≠ s' := by
  constructor
  · intro h
    rcases eq_or_ne s t with rfl | hs
    · exact Or.inl (h.1 rfl).symm
    · exact Or.inr ⟨hs.symm, fun hs' ↦ hs (h.2 hs'.symm)⟩
  · rintro (rfl | ⟨hs, hs'⟩)
    · rfl
    · exact ⟨fun h ↦ absurd h.symm hs, fun h ↦ absurd h.symm hs'⟩

/-- The rule `detect_ua_rotation` and its siblings write for a logged address. -/
def ipRule (loggedIp : String) : Criterion := ⟨.ip, .exact, loggedIp⟩

/-- **Which rules tell two spellings of one client apart**: exactly those not blind to both. The
rule a detector writes for a logged address matches the client under the stored spelling and no
other, whatever the field makes of the text it is given; the rule an escalation writes matches it
under the spelling of the escalated request and no other. -/
theorem ruleMatches_spelling_iff (env : Env) (stored : String → String) (s s' : String)
    (h : SameHost s s') :
    (∀ (rule : Criterion) (userAgent : String),
        ruleMatches cf rule s userAgent = ruleMatches cf rule s' userAgent ↔
          SpellingBlind cf rule userAgent s s') ∧
      (∀ userAgent, ruleMatches cf (ipRule (stored s)) s' userAgent = true ↔ s' = stored s) ∧
      ∀ userAgent,
        ruleMatches cf (escalationWrite cf env s).toCriterion s' userAgent = true ↔ s' = s := by
  obtain ⟨a, a', ha, ha', hhost⟩ := h
  refine ⟨fun rule userAgent ↦ ?_, fun _ ↦ decide_eq_true_iff, fun _ ↦ decide_eq_true_iff⟩
  rw [ruleMatches_eq_iff cf rule userAgent ha ha', SpellingBlind]
  refine and_congr (forall₂_congr fun t _ ↦ text_eq_iff) (forall₂_congr fun cidr _ ↦ ?_)
  rw [matchCidr_eq_iff ha ha' hhost]
  constructor
  · intro hblind b b' hb hb'
    rw [ha, Option.some.injEq] at hb
    rw [ha', Option.some.injEq] at hb'
    exact hb ▸ hb' ▸ hblind
  · exact fun hall ↦ hall a a' ha ha'

/-- Two spellings of one client, and a range of its family. -/
theorem sameHost_documentation : SameHost "2001:DB8::1" "2001:db8:0::1" :=
  ⟨⟨.v6, 42540766411282592856903984951653826561, by decide, none⟩,
    ⟨.v6, 42540766411282592856903984951653826561, by decide, none⟩, by decide, by decide, rfl⟩

/-- A CIDR rule reads both spellings as the same address. -/
theorem ruleMatches_spelling_cidr :
    ruleMatches plainConf ⟨.cidr, .cidr, "2001:db8::/32"⟩ "2001:DB8::1" "" =
      ruleMatches plainConf ⟨.cidr, .cidr, "2001:db8::/32"⟩ "2001:db8:0::1" "" := by
  refine ((ruleMatches_spelling_iff plainConf (Env.plain 0) id _ _ sameHost_documentation).1 _
    _).2 ⟨nofun, fun cidr _ a a' ha ha' ↦ Or.inl ?_⟩
  have hv : (IpAddress.ipAddress "2001:DB8::1").map IpAddress.Address.version =
      (IpAddress.ipAddress "2001:db8:0::1").map IpAddress.Address.version := by decide
  rw [ha, ha'] at hv
  exact Option.some.inj hv

/-- **A client behind a proxy that writes capitals escapes the rule its requests produced**: the
field stores the address in lower case, and the IP rule compares texts. -/
theorem ruleMatches_capitals :
    resolveClientIp ⟨["10.0.0.0/8"], false, false⟩ ⟨some "10.0.0.1", some "2001:DB8::1"⟩ =
        "2001:DB8::1" ∧
      SameHost "2001:DB8::1" "2001:db8::1" ∧
      ruleMatches plainConf (ipRule "2001:db8::1") "2001:db8::1" "" = true ∧
      ruleMatches plainConf (ipRule "2001:db8::1") "2001:DB8::1" "" = false :=
  ⟨by decide,
    ⟨⟨.v6, 42540766411282592856903984951653826561, by decide, none⟩,
      ⟨.v6, 42540766411282592856903984951653826561, by decide, none⟩, by decide, by decide, rfl⟩,
    by decide, by decide⟩

end DjangoWaf
