import DjangoWaf.Middleware

/-!
# Allow rules that ask for reverse DNS

An allow rule with `verify_rdns` is meant to pass a client only on the word of the name service: its
PTR name meets the rule's pattern, and that name resolves back to the client. A positive verdict is
kept for a day, so the word may be a day old, but it was given (`Vouched`).

Three ways lead past that. A rule that sets `verify_rdns` and leaves `rdns_pattern` blank is not
checked at all. The key of a verdict holds **twelve digits** of a digest of the pattern, so a
verdict given for one pattern answers for another that shares them. And only `OSError` counts as a
failed lookup and `re.error` as a failed search: a PTR name that the resolver's own encoder refuses
raises `UnicodeError`, which leaves `_check_allow_rules`. `rdns_trust_iff` shows that there is no
fourth, over every history of calls that share the cache of verdicts.
-/

namespace DjangoWaf

variable (cf : Conf)

/-! ### The name service -/

/-- The name service vouches for an address: a PTR name that meets the pattern, and a forward lookup
of that name that leads back. -/
def Confirms (resolver : Resolver) (ipAddress rdnsPattern : String) : Prop :=
  ∃ hostname addresses target candidate,
    resolver.gethostbyaddr ipAddress = .found hostname ∧ hostname ≠ "" ∧
    cf.reSearch rdnsPattern hostname = some true ∧
    resolver.getaddrinfo hostname = .found addresses ∧
    IpAddress.ipAddress ipAddress = some target ∧
    candidate ∈ addresses ∧ IpAddress.ipAddress candidate = some target

/-- **A resolution is positive exactly when it is a confirmation.** -/
theorem resolve_ok_true_iff {resolver : Resolver} {ipAddress rdnsPattern : String} :
    resolveAndConfirmRdns cf resolver ipAddress rdnsPattern = .ok true ↔
      Confirms cf resolver ipAddress rdnsPattern := by
  rw [resolveAndConfirmRdns, Confirms]
  rcases resolver.gethostbyaddr ipAddress with hostname | - | -
  · by_cases hempty : hostname = ""
    · simp [hempty]
    · rcases hc : cf.reCompile rdnsPattern with search | - | -
      · rcases hs : search hostname with - | -
        · simp [Conf.reSearch, hempty, hc, hs]
        · rcases hf : resolver.getaddrinfo hostname with addresses | - | -
          · rcases IpAddress.ipAddress ipAddress with - | target <;>
              simp [Conf.reSearch, hempty, hc, hs, hf]
          · simp [Conf.reSearch, hempty, hc, hs, hf]
          · simp [Conf.reSearch, hempty, hc, hs, hf]
      · simp [Conf.reSearch, hempty, hc]
      · simp [Conf.reSearch, hempty, hc]
  · simp
  · simp

/-! ### Histories of calls -/

/-- One call of `_verify_rdns`. -/
structure RdnsCall where
  env : Env
  ipAddress : String
  rdnsPattern : String

/-- The cache key of a call. -/
def RdnsCall.key (c : RdnsCall) : String × String := fcrdnsCacheKey cf c.ipAddress c.rdnsPattern

/-- The verdicts cached after a history of calls. -/
def rdnsRun (calls : List RdnsCall) (redis : Redis) : Redis :=
  calls.foldl (fun r c ↦ (verifyRdns cf c.env c.ipAddress c.rdnsPattern r).2) redis

/-- **A resolution within the last day vouched for an address**: some call of the history found no
cached verdict, and the name service confirmed the address to it. -/
def Vouched (calls : List RdnsCall) (redis : Redis) (now : ℚ) (ipAddress rdnsPattern : String) :
    Prop :=
  ∃ pre c post, calls = pre ++ c :: post ∧ c.ipAddress = ipAddress ∧ c.rdnsPattern = rdnsPattern ∧
    (rdnsRun cf pre redis).botFcrdns.get c.env.now (c.key cf) = none ∧
    Confirms cf c.env.resolver ipAddress rdnsPattern ∧ c.env.now ≤ now ∧ now < c.env.now + 86400

section Histories

variable {cf} {calls : List RdnsCall} {redis : Redis} {now : ℚ} {ipAddress rdnsPattern : String}

/-- A later history says no less. -/
theorem Vouched.append (h : Vouched cf calls redis now ipAddress rdnsPattern)
    (calls' : List RdnsCall) : Vouched cf (calls ++ calls') redis now ipAddress rdnsPattern := by
  obtain ⟨pre, c, post, rfl, hrest⟩ := h
  exact ⟨pre, c, post ++ calls', by simp, hrest⟩

/-- What one more call adds to a history. -/
theorem vouched_concat_iff {c : RdnsCall} :
    Vouched cf (calls ++ [c]) redis now ipAddress rdnsPattern ↔
      Vouched cf calls redis now ipAddress rdnsPattern ∨
        c.ipAddress = ipAddress ∧ c.rdnsPattern = rdnsPattern ∧
          (rdnsRun cf calls redis).botFcrdns.get c.env.now (c.key cf) = none ∧
          Confirms cf c.env.resolver ipAddress rdnsPattern ∧ c.env.now ≤ now ∧
          now < c.env.now + 86400 := by
  constructor
  · rintro ⟨pre, c', post, hcalls, hrest⟩
    rcases List.eq_nil_or_concat post with rfl | ⟨post, last, rfl⟩
    · obtain ⟨rfl, hc⟩ := List.append_inj' hcalls rfl
      obtain rfl := List.singleton_inj.1 hc
      exact Or.inr hrest
    · rw [List.concat_eq_append, ← List.cons_append, ← List.append_assoc] at hcalls
      exact Or.inl ⟨pre, c', post, (List.append_inj' hcalls rfl).1, hrest⟩
  · rintro (h | hrest)
    · exact h.append [c]
    · exact ⟨calls, c, [], rfl, hrest⟩

theorem rdnsRun_append (calls calls' : List RdnsCall) (redis : Redis) :
    rdnsRun cf (calls ++ calls') redis = rdnsRun cf calls' (rdnsRun cf calls redis) :=
  List.foldl_append

/-- A call that finds nothing and is confirmed stores a positive verdict for a day. -/
theorem cell_verifyRdns_of_confirms {env : Env}
    (hmiss : redis.botFcrdns.get env.now (fcrdnsCacheKey cf ipAddress rdnsPattern) = none)
    (hconfirms : Confirms cf env.resolver ipAddress rdnsPattern) :
    (verifyRdns cf env ipAddress rdnsPattern redis).2.botFcrdns.cell
        (fcrdnsCacheKey cf ipAddress rdnsPattern) = some ⟨true, some (env.now + 86400)⟩ := by
  rw [verifyRdns]
  simp only [hmiss, (resolve_ok_true_iff cf).2 hconfirms, if_true]
  exact KeySpace.cell_setex_self _ _ _ _ _

/-- **A positive verdict stays until its deadline**: no call before it overwrites it. -/
theorem cell_verifyRdns_of_live {env : Env} {key : String × String} {deadline : ℚ}
    (hcell : redis.botFcrdns.cell key = some ⟨true, some deadline⟩) (hnow : env.now < deadline) :
    (verifyRdns cf env ipAddress rdnsPattern redis).2.botFcrdns.cell key =
      some ⟨true, some deadline⟩ := by
  rw [verifyRdns]
  by_cases hkey : key = fcrdnsCacheKey cf ipAddress rdnsPattern
  · have hget : redis.botFcrdns.get env.now (fcrdnsCacheKey cf ipAddress rdnsPattern) = some true :=
      KeySpace.get_eq_some_iff.2 ⟨_, hkey ▸ hcell, TtlCell.live_some.2 hnow, rfl⟩
    simp only [hget]
    exact hcell
  · split
    · exact hcell
    · split
      · exact hcell
      · exact (KeySpace.cell_setex_of_ne _ _ _ _ hkey).trans hcell

/-- Where a resolution within the last day vouched for an address, its verdict is still there. -/
theorem Vouched.cell (h : Vouched cf calls redis now ipAddress rdnsPattern)
    (hclock : ∀ c ∈ calls, c.env.now ≤ now) :
    ∃ deadline, now < deadline ∧ (rdnsRun cf calls redis).botFcrdns.cell
      (fcrdnsCacheKey cf ipAddress rdnsPattern) = some ⟨true, some deadline⟩ := by
  induction calls using List.reverseRecOn with
  | nil =>
    obtain ⟨pre, c, post, hcalls, -⟩ := h
    exact absurd hcalls (by simp)
  | append_singleton calls c ih =>
    rw [rdnsRun_append]
    rcases vouched_concat_iff.1 h with h | ⟨rfl, rfl, hmiss, hconfirms, -, hday⟩
    · obtain ⟨deadline, hlive, hcell⟩ := ih h fun c' hc' ↦ hclock c' (List.mem_append_left _ hc')
      exact ⟨deadline, hlive,
        cell_verifyRdns_of_live hcell (lt_of_le_of_lt (hclock c (by simp)) hlive)⟩
    · exact ⟨_, hday, cell_verifyRdns_of_confirms hmiss hconfirms⟩

/-- **One key is vouched for by one pattern**: within its day a positive verdict answers every call
that shares its key, so that no second resolution comes about. -/
theorem Vouched.eq_of_prefixHash {rdnsPattern' : String}
    (h : Vouched cf calls redis now ipAddress rdnsPattern)
    (h' : Vouched cf calls redis now ipAddress rdnsPattern')
    (hhash : cf.prefixHash rdnsPattern = cf.prefixHash rdnsPattern')
    (hclock : ∀ c ∈ calls, c.env.now ≤ now) : rdnsPattern = rdnsPattern' := by
  have hkey : fcrdnsCacheKey cf ipAddress rdnsPattern = fcrdnsCacheKey cf ipAddress rdnsPattern' :=
    congrArg (Prod.mk ipAddress) hhash
  induction calls using List.reverseRecOn with
  | nil =>
    obtain ⟨pre, c, post, hcalls, -⟩ := h
    exact absurd hcalls (by simp)
  | append_singleton calls c ih =>
    have hbefore : ∀ c' ∈ calls, c'.env.now ≤ now := fun c' hc' ↦
      hclock c' (List.mem_append_left _ hc')
    have hhit : ∀ {p : String}, Vouched cf calls redis now ipAddress p →
        (rdnsRun cf calls redis).botFcrdns.get c.env.now (fcrdnsCacheKey cf ipAddress p) ≠
          none := by
      intro p hp hnone
      obtain ⟨deadline, hlive, hcell⟩ := hp.cell hbefore
      rw [KeySpace.get_eq_some_iff.2 ⟨_, hcell,
        TtlCell.live_some.2 (lt_of_le_of_lt (hclock c (by simp)) hlive), rfl⟩] at hnone
      cases hnone
    rcases vouched_concat_iff.1 h with h | ⟨rfl, rfl, hmiss, -⟩
    · rcases vouched_concat_iff.1 h' with h' | ⟨rfl, rfl, hmiss, -⟩
      · exact ih h h' hbefore
      · rw [RdnsCall.key, ← hkey] at hmiss
        exact absurd hmiss (hhit h)
    · rcases vouched_concat_iff.1 h' with h' | ⟨-, hp, -⟩
      · rw [RdnsCall.key, hkey] at hmiss
        exact absurd hmiss (hhit h')
      · exact hp

/-- **Every stored positive verdict was given by a resolution**, and lasts a day from it. -/
theorem vouched_of_cell (hstart : redis.botFcrdns = KeySpace.empty) {key : String × String}
    {deadline : Option ℚ}
    (h : (rdnsRun cf calls redis).botFcrdns.cell key = some ⟨true, deadline⟩) :
    ∃ pre c post, calls = pre ++ c :: post ∧ c.key cf = key ∧
      (rdnsRun cf pre redis).botFcrdns.get c.env.now (c.key cf) = none ∧
      Confirms cf c.env.resolver c.ipAddress c.rdnsPattern ∧
      deadline = some (c.env.now + 86400) := by
  induction calls using List.reverseRecOn generalizing deadline with
  | nil =>
    rw [rdnsRun, List.foldl_nil, hstart] at h
    cases h
  | append_singleton calls c ih =>
    rw [rdnsRun_append] at h
    have hearlier : (rdnsRun cf calls redis).botFcrdns.cell key = some ⟨true, deadline⟩ →
        ∃ pre c' post, calls ++ [c] = pre ++ c' :: post ∧ c'.key cf = key ∧
          (rdnsRun cf pre redis).botFcrdns.get c'.env.now (c'.key cf) = none ∧
          Confirms cf c'.env.resolver c'.ipAddress c'.rdnsPattern ∧
          deadline = some (c'.env.now + 86400) := by
      intro hcell
      obtain ⟨pre, c', post, rfl, hrest⟩ := ih hcell
      exact ⟨pre, c', post ++ [c], by simp, hrest⟩
    replace h : (verifyRdns cf c.env c.ipAddress c.rdnsPattern
        (rdnsRun cf calls redis)).2.botFcrdns.cell key = some ⟨true, deadline⟩ := h
    rw [verifyRdns] at h
    rcases hc : (rdnsRun cf calls redis).botFcrdns.get c.env.now (c.key cf) with - | v
    · rw [RdnsCall.key] at hc
      rw [hc] at h
      rcases hr : resolveAndConfirmRdns cf c.env.resolver c.ipAddress c.rdnsPattern with e | verdict
      · rw [hr] at h
        exact hearlier h
      · rw [hr] at h
        rcases KeySpace.cell_setex_eq_some h with ⟨rfl, hcell⟩ | h
        · obtain ⟨rfl, hd⟩ := TtlCell.mk.inj hcell
          exact ⟨calls, c, [], rfl, rfl, hc, (resolve_ok_true_iff cf).1 hr, hd⟩
        · exact hearlier h
    · rw [RdnsCall.key] at hc
      rw [hc] at h
      exact hearlier h

/-- **A positive answer is vouched for** by the call itself, or by an earlier one for the same
address and a pattern of the same digest. -/
theorem vouched_of_verifyRdns {env : Env} (hstart : redis.botFcrdns = KeySpace.empty)
    (hclock : ∀ c ∈ calls, c.env.now ≤ env.now)
    (h : (verifyRdns cf env ipAddress rdnsPattern (rdnsRun cf calls redis)).1 = .ok true) :
    ∃ rdnsPattern', cf.prefixHash rdnsPattern' = cf.prefixHash rdnsPattern ∧
      (Vouched cf calls redis env.now ipAddress rdnsPattern' ∨ rdnsPattern' = rdnsPattern ∧
        Vouched cf (calls ++ [⟨env, ipAddress, rdnsPattern⟩]) redis env.now ipAddress
          rdnsPattern') := by
  rcases verifyRdns_cases cf env ipAddress rdnsPattern (rdnsRun cf calls redis) with
    ⟨v, hc, hv⟩ | ⟨hc, ⟨e, hr, hv⟩ | ⟨v, fcrdns, hr, hv⟩⟩
  · -- a cached verdict, which an earlier resolution gave
    rw [hv] at h
    obtain rfl : v = true := Except.ok.inj h
    obtain ⟨⟨value, deadline⟩, hcell, hlive, rfl⟩ := KeySpace.get_eq_some_iff.1 hc
    obtain ⟨pre, c, post, rfl, hkey, hmiss, hconfirms, rfl⟩ := vouched_of_cell hstart hcell
    obtain ⟨rfl, hhash⟩ := Prod.mk.inj hkey
    exact ⟨c.rdnsPattern, hhash, Or.inl ⟨pre, c, post, rfl, rfl, rfl, hmiss, hconfirms,
      hclock c (by simp), TtlCell.live_some.1 hlive⟩⟩
  · rw [hv] at h
    cases h
  · rw [hv] at h
    obtain rfl : v = true := Except.ok.inj h
    exact ⟨rdnsPattern, rfl, Or.inr ⟨rfl, vouched_concat_iff.2 (Or.inr ⟨rfl, rfl, hc,
      (resolve_ok_true_iff cf).1 hr, le_rfl, lt_add_of_pos_right _ (by decide)⟩)⟩⟩

end Histories

/-! ### The loop, as a history

The calls `_check_allow_rules` makes join the history, so what is said of a history covers the
verdicts the loop stores on its way. -/

variable (env : Env) (ipAddress userAgent : String)

/-- The call of `_verify_rdns` one turn of the loop makes, if it makes one. -/
def allowCall (rule : CachedAllowRule) : List RdnsCall :=
  if isExpired rule.expiresAt env.now = false ∧
      ruleMatches cf rule.toCriterion ipAddress userAgent = true ∧ rule.needsRdns = true then
    [⟨env, ipAddress, rule.rdnsPattern⟩]
  else []

/-- The calls of `_verify_rdns` the loop over the allow rules makes. -/
def allowCalls : List CachedAllowRule → Redis → List RdnsCall
  | [], _ => []
  | rule :: rest, redis =>
    let calls := allowCall cf env ipAddress userAgent rule
    match allowStep cf env ipAddress userAgent rule redis with
    | (.ok false, redis') => calls ++ allowCalls rest redis'
    | _ => calls

/-- What a turn leaves behind is what its call does. -/
theorem allowStep_snd (rule : CachedAllowRule) (redis : Redis) :
    (allowStep cf env ipAddress userAgent rule redis).2 =
      rdnsRun cf (allowCall cf env ipAddress userAgent rule) redis := by
  rw [allowCall]
  rcases allowStep_cases cf env ipAddress userAgent rule redis with
    ⟨hpass, h⟩ | ⟨-, hraises, h⟩ | ⟨hlive, -, hmatch, h⟩
  · rw [h, if_neg]
    · rfl
    · rintro ⟨hlive, hmatch, -⟩
      have hno := hpass.resolve_left (by simp [hlive])
      rw [Criterion.endsSearch, hmatch, Bool.or_true] at hno
      cases hno
  · rw [h, if_neg]
    · rfl
    · rintro ⟨-, hmatch, -⟩
      rw [ruleMatches_of_raises cf hraises] at hmatch
      cases hmatch
  · rw [h]
    rcases hneeds : rule.needsRdns with - | -
    · rw [if_neg (by simp), if_neg (by simp)]
      rfl
    · rw [if_pos rfl, if_pos ⟨hlive, hmatch, rfl⟩]
      rfl

/-- Every call of the loop is for this address, at this instant, and for a pattern that is there. -/
theorem mem_allowCalls {rules : List CachedAllowRule} {redis : Redis} {c : RdnsCall}
    (h : c ∈ allowCalls cf env ipAddress userAgent rules redis) :
    c.env = env ∧ c.rdnsPattern ≠ "" := by
  have hcall : ∀ rule, c ∈ allowCall cf env ipAddress userAgent rule →
      c.env = env ∧ c.rdnsPattern ≠ "" := by
    intro rule hc
    rw [allowCall] at hc
    split at hc
    · rename_i happlies
      obtain rfl := List.mem_singleton.1 hc
      refine ⟨rfl, fun hblank : rule.rdnsPattern = "" ↦ ?_⟩
      simp [CachedAllowRule.needsRdns, hblank] at happlies
    · cases hc
  induction rules generalizing redis with
  | nil => cases h
  | cons rule rest ih =>
    rw [allowCalls] at h
    split at h
    · rcases List.mem_append.1 h with hc | hc
      · exact hcall rule hc
      · exact ih hc
    · exact hcall rule h

/-- Behind rules that pass the request over, the loop has made their calls, and goes on with those
of the others. -/
theorem allowCalls_append {pre : List CachedAllowRule} {redis redis' : Redis}
    (h : checkAllowRules cf env ipAddress userAgent pre redis = (.ok none, redis'))
    (rest : List CachedAllowRule) :
    rdnsRun cf (allowCalls cf env ipAddress userAgent pre redis) redis = redis' ∧
      allowCalls cf env ipAddress userAgent (pre ++ rest) redis =
        allowCalls cf env ipAddress userAgent pre redis ++
          allowCalls cf env ipAddress userAgent rest redis' := by
  induction pre generalizing redis with
  | nil =>
    obtain rfl := (Prod.mk.inj h).2
    exact ⟨rfl, rfl⟩
  | cons rule pre ih =>
    have hsnd := allowStep_snd cf env ipAddress userAgent rule redis
    rw [checkAllowRules] at h
    rw [List.cons_append, allowCalls, allowCalls]
    rcases hs : allowStep cf env ipAddress userAgent rule redis with ⟨e | (- | -), redis''⟩
    · rw [hs] at h
      cases (Prod.mk.inj h).1
    · rw [hs] at h hsnd
      obtain ⟨hrun, hcalls⟩ := ih h
      simp only [rdnsRun_append, hcalls, List.append_assoc]
      rw [← hsnd]
      exact ⟨hrun, trivial⟩
    · rw [hs] at h
      cases (Prod.mk.inj h).1

/-! ### When an allow rule can be trusted -/

/-- **The rule that is tried is checked, and its check fails closed**: no pattern that matching it
compiles raises, and where it matches and asks for reverse DNS, it names a pattern; unless a verdict
is cached, the resolution does not raise; and no other pattern of the same digest was vouched for
within the last day, whose verdict would answer for it. -/
def ChecksClosed (calls : List RdnsCall) (redis₀ : Redis) (rules : List CachedAllowRule) : Prop :=
  ∀ pre rule post redis, rules = pre ++ rule :: post →
    checkAllowRules cf env ipAddress userAgent pre (rdnsRun cf calls redis₀) = (.ok none, redis) →
    isExpired rule.expiresAt env.now = false →
    rule.toCriterion.raises cf = false ∧
      (ruleMatches cf rule.toCriterion ipAddress userAgent = true → rule.verifyRdns = true →
        rule.rdnsPattern ≠ "" ∧
        (redis.botFcrdns.get env.now (fcrdnsCacheKey cf ipAddress rule.rdnsPattern) = none →
          ¬RdnsRaises cf env.resolver ipAddress rule.rdnsPattern) ∧
        ∀ rdnsPattern, cf.prefixHash rdnsPattern = cf.prefixHash rule.rdnsPattern →
          Vouched cf
            (calls ++ allowCalls cf env ipAddress userAgent pre (rdnsRun cf calls redis₀))
            redis₀ env.now ipAddress rdnsPattern → rdnsPattern = rule.rdnsPattern)

section Trust

variable {cf env ipAddress userAgent} {redis₀ redis redis'' : Redis} {calls : List RdnsCall}
  {pre post : List CachedAllowRule} {rule : CachedAllowRule}

/-- The history a rule is tried after is no later than the request. -/
theorem clock_append_allowCalls (hclock : ∀ c ∈ calls, c.env.now ≤ env.now) (redis : Redis) :
    ∀ c ∈ calls ++ allowCalls cf env ipAddress userAgent pre redis, c.env.now ≤ env.now := by
  intro c hc
  rcases List.mem_append.1 hc with hc | hc
  · exact hclock c hc
  · rw [(mem_allowCalls cf env ipAddress userAgent hc).1]

/-- The calls of the loop up to a rule that asks for reverse DNS, and its own. -/
theorem allowCalls_of_needsRdns (post : List CachedAllowRule)
    (hpre : checkAllowRules cf env ipAddress userAgent pre redis = (.ok none, redis''))
    (hlive : isExpired rule.expiresAt env.now = false)
    (hmatch : ruleMatches cf rule.toCriterion ipAddress userAgent = true)
    (hneeds : rule.needsRdns = true) :
    ∃ after, allowCalls cf env ipAddress userAgent (pre ++ rule :: post) redis =
      allowCalls cf env ipAddress userAgent pre redis ++
        ⟨env, ipAddress, rule.rdnsPattern⟩ :: after := by
  rw [(allowCalls_append cf env ipAddress userAgent hpre (rule :: post)).2, allowCalls, allowCall,
    if_pos ⟨hlive, hmatch, hneeds⟩]
  split
  · exact ⟨_, rfl⟩
  · exact ⟨[], rfl⟩

/-- **A granted rule whose check is closed is vouched for**, after any history. -/
theorem vouched_of_granted (hstart : redis₀.botFcrdns = KeySpace.empty)
    (hclock : ∀ c ∈ calls, c.env.now ≤ env.now)
    (hpre : checkAllowRules cf env ipAddress userAgent pre (rdnsRun cf calls redis₀) =
      (.ok none, redis))
    (hgrant : allowStep cf env ipAddress userAgent rule redis = (.ok true, redis''))
    (hverify : rule.verifyRdns = true)
    (hclosed : ChecksClosed cf env ipAddress userAgent calls redis₀ (pre ++ rule :: post)) :
    Vouched cf (calls ++ allowCalls cf env ipAddress userAgent (pre ++ rule :: post)
      (rdnsRun cf calls redis₀)) redis₀ env.now ipAddress rule.rdnsPattern := by
  rcases allowStep_cases cf env ipAddress userAgent rule redis with
    ⟨-, h⟩ | ⟨-, -, h⟩ | ⟨hlive, -, hmatch, h⟩
  · rw [h] at hgrant
    cases (Prod.mk.inj hgrant).1
  · rw [h] at hgrant
    cases (Prod.mk.inj hgrant).1
  · obtain ⟨hpattern, -, hother⟩ := (hclosed pre rule post redis rfl hpre hlive).2 hmatch hverify
    have hneeds : rule.needsRdns = true := by simp [CachedAllowRule.needsRdns, hverify, hpattern]
    obtain ⟨after, hcalls⟩ := allowCalls_of_needsRdns post hpre hlive hmatch hneeds
    have hrun := (allowCalls_append cf env ipAddress userAgent hpre []).1
    rw [h, if_pos hneeds, ← hrun, ← rdnsRun_append] at hgrant
    rw [hcalls]
    obtain ⟨p, hhash, hv | ⟨rfl, hv⟩⟩ := vouched_of_verifyRdns hstart
      (clock_append_allowCalls hclock _) (congrArg Prod.fst hgrant)
    · obtain rfl := hother p hhash hv
      rw [← List.append_assoc]
      exact hv.append _
    · simpa using hv.append after

/-- A blank pattern is granted unchecked, and no call was ever made for it. -/
theorem pattern_ne_of_trusted (post : List CachedAllowRule)
    (hpattern : ∀ c ∈ calls, c.rdnsPattern ≠ "")
    (hlive : isExpired rule.expiresAt env.now = false)
    (hmatch : ruleMatches cf rule.toCriterion ipAddress userAgent = true)
    (htrust : ∀ redis', allowStep cf env ipAddress userAgent rule redis = (.ok true, redis') →
      Vouched cf (calls ++ allowCalls cf env ipAddress userAgent (pre ++ rule :: post)
        (rdnsRun cf calls redis₀)) redis₀ env.now ipAddress rule.rdnsPattern) :
    rule.rdnsPattern ≠ "" := by
  intro hblank
  have hstep := allowStep_of_matches cf env ipAddress userAgent hlive hmatch redis
  have hno : rule.needsRdns = false := by simp [CachedAllowRule.needsRdns, hblank]
  rw [hno] at hstep
  obtain ⟨before, c, after, hcalls, -, hc, -⟩ := htrust redis hstep
  have hmem : c ∈ calls ++ allowCalls cf env ipAddress userAgent (pre ++ rule :: post)
      (rdnsRun cf calls redis₀) := by
    rw [hcalls]
    simp
  rcases List.mem_append.1 hmem with hmem | hmem
  · exact hpattern c hmem (hc.trans hblank)
  · exact (mem_allowCalls cf env ipAddress userAgent hmem).2 (hc.trans hblank)

/-- The verdict of a pattern that was vouched for answers for every pattern of its digest. -/
theorem granted_of_vouched (hclock : ∀ c ∈ calls, c.env.now ≤ env.now)
    (hpre : checkAllowRules cf env ipAddress userAgent pre (rdnsRun cf calls redis₀) =
      (.ok none, redis))
    (hlive : isExpired rule.expiresAt env.now = false)
    (hmatch : ruleMatches cf rule.toCriterion ipAddress userAgent = true)
    (hneeds : rule.needsRdns = true) {rdnsPattern : String}
    (hhash : cf.prefixHash rdnsPattern = cf.prefixHash rule.rdnsPattern)
    (hp : Vouched cf (calls ++ allowCalls cf env ipAddress userAgent pre (rdnsRun cf calls redis₀))
      redis₀ env.now ipAddress rdnsPattern) :
    allowStep cf env ipAddress userAgent rule redis = (.ok true, redis) := by
  obtain ⟨deadline, hday, hcell⟩ := hp.cell (clock_append_allowCalls hclock _)
  rw [rdnsRun_append, (allowCalls_append cf env ipAddress userAgent hpre []).1] at hcell
  have hget : redis.botFcrdns.get env.now (fcrdnsCacheKey cf ipAddress rule.rdnsPattern) =
      some true := by
    refine KeySpace.get_eq_some_iff.2 ⟨_, ?_, TtlCell.live_some.2 hday, rfl⟩
    rw [fcrdnsCacheKey, ← hhash]
    exact hcell
  rw [allowStep_of_matches cf env ipAddress userAgent hlive hmatch redis, if_pos hneeds, verifyRdns]
  simp only [hget]

/-- **A rule that is granted only where it is vouched for has a closed check.** -/
theorem closed_of_trusted (post : List CachedAllowRule)
    (hpattern : ∀ c ∈ calls, c.rdnsPattern ≠ "")
    (hclock : ∀ c ∈ calls, c.env.now ≤ env.now)
    (hpre : checkAllowRules cf env ipAddress userAgent pre (rdnsRun cf calls redis₀) =
      (.ok none, redis))
    (hlive : isExpired rule.expiresAt env.now = false)
    (hmatch : ruleMatches cf rule.toCriterion ipAddress userAgent = true)
    (hverify : rule.verifyRdns = true)
    (htrust : ∀ redis', allowStep cf env ipAddress userAgent rule redis = (.ok true, redis') →
      Vouched cf (calls ++ allowCalls cf env ipAddress userAgent (pre ++ rule :: post)
        (rdnsRun cf calls redis₀)) redis₀ env.now ipAddress rule.rdnsPattern) :
    rule.rdnsPattern ≠ "" ∧ ∀ rdnsPattern, cf.prefixHash rdnsPattern =
        cf.prefixHash rule.rdnsPattern →
      Vouched cf (calls ++ allowCalls cf env ipAddress userAgent pre (rdnsRun cf calls redis₀))
        redis₀ env.now ipAddress rdnsPattern → rdnsPattern = rule.rdnsPattern := by
  have hblank := pattern_ne_of_trusted post hpattern hlive hmatch htrust
  refine ⟨hblank, fun p hhash hp ↦ ?_⟩
  -- the verdict of the other pattern answers, and no resolution of this one comes after it
  have hneeds : rule.needsRdns = true := by simp [CachedAllowRule.needsRdns, hverify, hblank]
  obtain ⟨after, hcalls⟩ := allowCalls_of_needsRdns post hpre hlive hmatch hneeds
  have hv := htrust redis (granted_of_vouched hclock hpre hlive hmatch hneeds hhash hp)
  have hall : ∀ c ∈ calls ++ allowCalls cf env ipAddress userAgent (pre ++ rule :: post)
      (rdnsRun cf calls redis₀), c.env.now ≤ env.now := clock_append_allowCalls hclock _
  rw [hcalls, ← List.append_assoc] at hv hall
  exact (hp.append _).eq_of_prefixHash hv hhash hall

end Trust

/-- **Which allow rules never trust an unverified client.** After any history of calls that share
the cache of verdicts, `_check_allow_rules` returns a rule that asks for reverse DNS only where a
resolution within the last day vouched for the client, and does not raise, exactly when the check of
every rule it tries is closed. -/
theorem rdns_trust_iff {redis₀ : Redis} (hstart : redis₀.botFcrdns = KeySpace.empty)
    (calls : List RdnsCall) (hpattern : ∀ c ∈ calls, c.rdnsPattern ≠ "")
    (hclock : ∀ c ∈ calls, c.env.now ≤ env.now) (rules : List CachedAllowRule) :
    ((∀ rule redis', checkAllowRules cf env ipAddress userAgent rules (rdnsRun cf calls redis₀) =
          (.ok (some rule), redis') → rule.verifyRdns = true →
          Vouched cf
            (calls ++ allowCalls cf env ipAddress userAgent rules (rdnsRun cf calls redis₀))
            redis₀ env.now ipAddress rule.rdnsPattern) ∧
        ∀ e redis', checkAllowRules cf env ipAddress userAgent rules (rdnsRun cf calls redis₀) ≠
          (.error e, redis')) ↔
      ChecksClosed cf env ipAddress userAgent calls redis₀ rules := by
  have herror := checkAllowRules_error_iff cf env ipAddress userAgent rules
    (rdnsRun cf calls redis₀)
  constructor
  · rintro ⟨htrust, hraise⟩ pre rule post redis rfl hpre hlive
    have hno : ¬AllowTurnRaises cf env ipAddress userAgent rule redis := by
      intro hturn
      obtain ⟨e, he⟩ := herror.2 ⟨pre, rule, post, redis, rfl, hpre, hturn⟩
      exact hraise e _ (Prod.ext he rfl)
    refine ⟨Bool.eq_false_iff.2 fun hraises ↦ hno ⟨hlive, Or.inl hraises⟩, fun hmatch hverify ↦ ?_⟩
    obtain ⟨hblank, hother⟩ := closed_of_trusted post hpattern hclock hpre hlive
      hmatch hverify fun redis' hgrant ↦ by
        refine htrust rule redis' ?_ hverify
        rw [checkAllowRules_append cf env ipAddress userAgent hpre, checkAllowRules, hgrant]
    refine ⟨hblank, fun hmiss hlookup ↦ hno ⟨hlive, Or.inr ⟨hmatch, ?_, hmiss, hlookup⟩⟩, hother⟩
    simp [CachedAllowRule.needsRdns, hverify, hblank]
  · intro hclosed
    refine ⟨fun rule redis' hcheck hverify ↦ ?_, fun e redis' hcheck ↦ ?_⟩
    · obtain ⟨pre, rule', post, redis, rfl, hpre, ⟨e, he, -⟩ | ⟨hrule, hgrant⟩⟩ :=
        exists_turn_of_checkAllowRules cf env ipAddress userAgent (by simp) hcheck
      · cases he
      · obtain rfl := Option.some.inj (Except.ok.inj hrule)
        exact vouched_of_granted hstart hclock hpre hgrant hverify hclosed
    · obtain ⟨pre, rule, post, redis, rfl, hpre, hlive, hturn⟩ := herror.1 ⟨e, by rw [hcheck]⟩
      obtain ⟨hcompiles, hcheck⟩ := hclosed pre rule post redis rfl hpre hlive
      rcases hturn with hraises | ⟨hmatch, hneeds, hmiss, hlookup⟩
      · rw [hcompiles] at hraises
        cases hraises
      · rw [CachedAllowRule.needsRdns, Bool.and_eq_true] at hneeds
        exact (hcheck hmatch hneeds.1).2.1 hmiss hlookup

/-- A crawler's allow rule, with the pattern its PTR names must meet. -/
def crawlerRule (rdnsPattern : String) : CachedAllowRule where
  ruleType := .ua
  matchType := .contains
  pattern := "Googlebot"
  id := 1
  verifyRdns := true
  rdnsPattern
  expiresAt := none

/-- A runtime on which a pattern without special characters is searched for as it stands. -/
def crawlerConf : Conf :=
  { plainConf with reCompile := fun pattern ↦ .compiled fun text ↦ PyStr.contains text pattern }

/-- A call at some instant, with a name service of one host. -/
def crawlerEnv (forward : Lookup (List String)) : Env :=
  { Env.plain 0 with
    resolver := ⟨fun _ ↦ .found "crawl-1.googlebot", fun _ ↦ forward⟩ }

/-- A crawler that its own zone vouches for. -/
theorem vouched_crawler :
    Vouched crawlerConf
      (allowCalls crawlerConf (crawlerEnv (.found ["192.0.2.7"])) "192.0.2.7" "Googlebot/2.1"
        [crawlerRule "googlebot"] Redis.empty)
      Redis.empty 0 "192.0.2.7" "googlebot" := by
  have htrust := (rdns_trust_iff crawlerConf (crawlerEnv (.found ["192.0.2.7"])) "192.0.2.7"
    "Googlebot/2.1" (show Redis.empty.botFcrdns = KeySpace.empty from rfl) []
    (fun _ h ↦ absurd h List.not_mem_nil) (fun _ h ↦ absurd h List.not_mem_nil)
    [crawlerRule "googlebot"]).2 ?_
  · exact htrust.1 (crawlerRule "googlebot") _ (Prod.ext (by decide +kernel) rfl) rfl
  · intro pre rule post redis hsplit hpre _
    obtain ⟨rfl, rfl, -⟩ : pre = [] ∧ rule = crawlerRule "googlebot" ∧ post = [] := by
      rcases pre with - | ⟨r, pre⟩
      · obtain ⟨rfl, rfl⟩ := List.cons.inj hsplit
        exact ⟨rfl, rfl, rfl⟩
      · simp at hsplit
    refine ⟨rfl, fun _ _ ↦ ⟨by decide, fun _ hraises ↦ ?_, fun p _ hp ↦ ?_⟩⟩
    · rcases hraises with hptr | ⟨hostname, -, -, hcompile | ⟨-, hforward⟩⟩
      · cases hptr
      · cases hcompile
      · cases hforward
    · -- nothing came before
      obtain ⟨before, c, after, hcalls, -⟩ := hp
      exact absurd hcalls (by simp [allowCalls])

/-- **A blank pattern lets anybody through, and an odd PTR name raises**: a client that calls itself
a crawler is passed without a lookup, and one whose name the encoder refuses makes the loop raise.
-/
theorem blank_pattern_trusted :
    ((checkAllowRules crawlerConf (Env.plain 0) "203.0.113.9" "Googlebot/2.1" [crawlerRule ""]
          Redis.empty).1 = .ok (some (crawlerRule "")) ∧
        (crawlerRule "").verifyRdns = true ∧
        ¬Vouched crawlerConf (allowCalls crawlerConf (Env.plain 0) "203.0.113.9" "Googlebot/2.1"
          [crawlerRule ""] Redis.empty) Redis.empty 0 "203.0.113.9" "") ∧
      (checkAllowRules crawlerConf (crawlerEnv .raises) "203.0.113.9" "Googlebot/2.1"
        [crawlerRule "googlebot"] Redis.empty).1 = .error .lookupError := by
  refine ⟨⟨by decide +kernel, rfl, ?_⟩, by decide +kernel⟩
  rintro ⟨pre, c, post, hcalls, -⟩
  have hnone : allowCalls crawlerConf (Env.plain 0) "203.0.113.9" "Googlebot/2.1" [crawlerRule ""]
      Redis.empty = [] := rfl
  rw [hnone] at hcalls
  exact absurd hcalls (by simp)

end DjangoWaf
