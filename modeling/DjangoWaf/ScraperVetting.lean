import DjangoWaf.Middleware
import DjangoWaf.Services.AutoRuleTable
import DjangoWaf.Services.ScraperDetector

/-!
# Who the 404-ratio detector flags

`detect_scraper_404_ratio` must not touch a client an allow rule vouches for. What it rests on is a
record of the run: each call of `_check_allow_rules`, with the address, the user agent and what came
of it. An address gets a rule **exactly** when

* it qualifies by the counts of the log (`QualifiesAsScraper`),
* the run had a Redis client and a rule cache, and
* the record has, for every user agent logged for the address, a check that found no match.

A check that raised is on record as such, so it is no such check; where the client or the cache is
missing nothing is on record at all. The two queries of the detector answer in an order the database
chooses (`ScraperRows`), and neither the order of the log nor that choice enters the condition.
-/

namespace DjangoWaf

/-! ### What the queries answer -/

/-- The user agents an address presented in the window. -/
def agentsOf (t : Traffic) (cutoff : ℚ) (ip : String) : List String :=
  (((t.logsSince cutoff).filter fun l ↦ l.ipAddress = ip).map RequestLog.userAgent).dedup

/-- **Looks like a scraper**: enough requests reached the application, and a large enough share of
them asked for what is not there. -/
structure QualifiesAsScraper (dc : DetectorConf) (t : Traffic) (cutoff : ℚ) (ip : String) :
    Prop where
  seen : 0 < ipCount (reachedApp t cutoff) ip
  total : dc.scraper404MinRequests ≤ ipCount (reachedApp t cutoff) ip
  share : dc.scraper404Ratio ≤
    (ipCount ((reachedApp t cutoff).filter fun l ↦ l.responseCode = some 404) ip : ℚ) /
      ipCount (reachedApp t cutoff) ip

/-- `qualifying_rows` with `user_agents_by_ip`: the groups come in some order, and so do the user
agents of a group. -/
structure ScraperRows (dc : DetectorConf) (t : Traffic) (cutoff : ℚ) where
  rows : List (String × List String)
  groups : (rows.map Prod.fst).Perm ((scraperCandidates dc t cutoff).map Prod.fst)
  agents : ∀ c ∈ rows, c.2.Perm (agentsOf t cutoff c.1)

variable {dc : DetectorConf} {t : Traffic} {cutoff : ℚ}

/-- The groups in the order of the log. -/
def ScraperRows.ofLog (dc : DetectorConf) (t : Traffic) (cutoff : ℚ) : ScraperRows dc t cutoff where
  rows := scraperCandidates dc t cutoff
  groups := .refl _
  agents := by
    intro c hc
    obtain ⟨ip, -, rfl⟩ := List.mem_map.1 hc
    exact .refl _

theorem map_fst_scraperCandidates : (scraperCandidates dc t cutoff).map Prod.fst =
    (ipGroups (reachedApp t cutoff)).filter fun ip ↦
      dc.scraper404MinRequests ≤ ipCount (reachedApp t cutoff) ip && dc.scraper404Ratio ≤
        (ipCount ((reachedApp t cutoff).filter fun l ↦ l.responseCode = some 404) ip : ℚ) /
          ipCount (reachedApp t cutoff) ip := by
  rw [scraperCandidates, List.map_map]
  exact List.map_id _

theorem mem_ipGroups {rows : List RequestLog} {ip : String} :
    ip ∈ ipGroups rows ↔ 0 < ipCount rows ip := by
  rw [ipGroups, List.mem_dedup, List.mem_map, ipCount, List.countP_pos_iff]
  simp only [decide_eq_true_eq]

/-- The candidates are the addresses that qualify. -/
theorem mem_scraperCandidates {ip : String} :
    ip ∈ (scraperCandidates dc t cutoff).map Prod.fst ↔ QualifiesAsScraper dc t cutoff ip := by
  rw [map_fst_scraperCandidates, List.mem_filter, mem_ipGroups, Bool.and_eq_true, decide_eq_true_eq,
    decide_eq_true_eq]
  exact ⟨fun ⟨hseen, htotal, hshare⟩ ↦ ⟨hseen, htotal, hshare⟩,
    fun h ↦ ⟨h.seen, h.total, h.share⟩⟩

theorem nodup_scraperCandidates : ((scraperCandidates dc t cutoff).map Prod.fst).Nodup := by
  rw [map_fst_scraperCandidates]
  exact (nodup_ipGroups _).filter _

theorem mem_agentsOf {ip ua : String} :
    ua ∈ agentsOf t cutoff ip ↔ ∃ l ∈ t.logsSince cutoff, l.ipAddress = ip ∧ l.userAgent = ua := by
  rw [agentsOf, List.mem_dedup, List.mem_map]
  simp only [List.mem_filter, decide_eq_true_eq, and_assoc]

/-- An address that qualifies has presented some user agent. -/
theorem QualifiesAsScraper.agentsOf_ne_nil {ip : String} (h : QualifiesAsScraper dc t cutoff ip) :
    agentsOf t cutoff ip ≠ [] := by
  obtain ⟨l, hl, hip⟩ := List.countP_pos_iff.1 h.seen
  have hmem : l.userAgent ∈ agentsOf t cutoff ip :=
    mem_agentsOf.2 ⟨l, List.mem_of_mem_filter hl, of_decide_eq_true hip, rfl⟩
  exact List.ne_nil_of_mem hmem

namespace ScraperRows

variable (answers : ScraperRows dc t cutoff)

theorem nodup : (answers.rows.map Prod.fst).Nodup :=
  answers.groups.nodup_iff.2 nodup_scraperCandidates

theorem mem_iff {ip : String} :
    ip ∈ answers.rows.map Prod.fst ↔ QualifiesAsScraper dc t cutoff ip :=
  answers.groups.mem_iff.trans mem_scraperCandidates

theorem nodup_agents {c : String × List String} (hc : c ∈ answers.rows) : c.2.Nodup :=
  (answers.agents c hc).nodup_iff.2 (List.nodup_dedup _)

theorem mem_agents {c : String × List String} (hc : c ∈ answers.rows) {ua : String} :
    ua ∈ c.2 ↔ ∃ l ∈ t.logsSince cutoff, l.ipAddress = c.1 ∧ l.userAgent = ua :=
  (answers.agents c hc).mem_iff.trans mem_agentsOf

theorem agents_ne_nil {c : String × List String} (hc : c ∈ answers.rows) : c.2 ≠ [] := by
  intro hnil
  have hperm := answers.agents c hc
  rw [hnil] at hperm
  exact (answers.mem_iff.1 (List.mem_map_of_mem hc)).agentsOf_ne_nil hperm.symm.eq_nil

end ScraperRows

/-! ### One candidate -/

section Run

variable {cf : Conf} {turns : ℕ → TurnEnv}

/-- The record of checks that found no match. -/
def noMatches (ip : String) (uas : List String) : List Vetting :=
  uas.map fun ua ↦ ⟨ip, ua, .noMatch⟩

/-- **The two ways a candidate ends**: no check found a match, or one did or raised, and was the
last. -/
theorem scraperCandidate_cases (ip : String) (rules : List CachedAllowRule) (uas : List String)
    (k : ℕ) (redis : Redis) :
    let v := scraperCandidateMatchesAllowRuleAt cf turns ip rules uas k redis
    v.excluded = false ∧ v.checks = noMatches ip uas ∨
      v.excluded = true ∧ ∃ pre ua post result, uas = pre ++ ua :: post ∧ result ≠ .noMatch ∧
        v.checks = noMatches ip pre ++ [⟨ip, ua, result⟩] := by
  induction uas generalizing k redis with
  | nil => exact Or.inl ⟨rfl, rfl⟩
  | cons ua uas ih =>
    rw [scraperCandidateMatchesAllowRuleAt]
    rcases checkAllowRulesAt cf turns ip ua rules k redis with ⟨- | rule | -, k', redis'⟩
    · rcases ih k' redis' with ⟨hex, hchecks⟩ | ⟨hex, pre, ua', post, result, huas, hres, hchecks⟩
      · refine Or.inl ⟨hex, ?_⟩
        show _ :: _ = _
        rw [hchecks]
        rfl
      · refine Or.inr ⟨hex, ua :: pre, ua', post, result, ?_, hres, ?_⟩
        · rw [huas, List.cons_append]
        · show _ :: _ = _
          rw [hchecks]
          rfl
    · exact Or.inr ⟨rfl, [], ua, uas, .matched rule, rfl, AllowCheck.noConfusion, rfl⟩
    · exact Or.inr ⟨rfl, [], ua, uas, .raised, rfl, AllowCheck.noConfusion, rfl⟩

/-- Every check of a candidate is of its address, and is a call of `_check_allow_rules`. -/
theorem scraperCandidate_checks {ip : String} {rules : List CachedAllowRule} {uas : List String}
    {k : ℕ} {redis : Redis} {c : Vetting}
    (hc : c ∈ (scraperCandidateMatchesAllowRuleAt cf turns ip rules uas k redis).checks) :
    c.ipAddress = ip ∧ ∃ k redis,
      (checkAllowRulesAt cf turns c.ipAddress c.userAgent rules k redis).1 = c.result := by
  induction uas generalizing k redis with
  | nil => cases hc
  | cons ua uas ih =>
    rw [scraperCandidateMatchesAllowRuleAt] at hc
    rcases hcall : checkAllowRulesAt cf turns ip ua rules k redis with ⟨- | rule | -, k', redis'⟩
    · rw [hcall] at hc
      rcases List.mem_cons.1 hc with rfl | hc
      · exact ⟨rfl, k, redis, by rw [hcall]⟩
      · exact ih hc
    · rw [hcall] at hc
      rw [List.mem_singleton.1 hc]
      exact ⟨rfl, k, redis, by rw [hcall]⟩
    · rw [hcall] at hc
      rw [List.mem_singleton.1 hc]
      exact ⟨rfl, k, redis, by rw [hcall]⟩

/-- **A candidate is kept exactly when each of its user agents was checked without a match.** -/
theorem scraperCandidate_kept_iff (ip : String) (rules : List CachedAllowRule) {uas : List String}
    (huas : uas.Nodup) (k : ℕ) (redis : Redis) :
    (scraperCandidateMatchesAllowRuleAt cf turns ip rules uas k redis).excluded = false ↔
      ∀ ua ∈ uas, (⟨ip, ua, .noMatch⟩ : Vetting) ∈
        (scraperCandidateMatchesAllowRuleAt cf turns ip rules uas k redis).checks := by
  rcases scraperCandidate_cases ip rules uas k redis with
    ⟨hex, hchecks⟩ | ⟨hex, pre, ua, post, result, hsplit, hres, hchecks⟩
  · rw [hex, hchecks]
    exact ⟨fun _ ua hua ↦ List.mem_map.2 ⟨ua, hua, rfl⟩, fun _ ↦ rfl⟩
  · rw [hex, hchecks]
    refine ⟨fun h ↦ (nomatch h), fun hall ↦ ?_⟩
    -- the user agent of the last check was asked about once
    rw [hsplit, List.nodup_append, List.nodup_cons] at huas
    rcases List.mem_append.1 (hall ua (by rw [hsplit]; simp)) with hmem | hmem
    · obtain ⟨ua', hua', heq⟩ := List.mem_map.1 hmem
      exact absurd (Vetting.mk.inj heq).2.1 (huas.2.2 ua' hua' ua (List.mem_cons_self ..))
    · exact absurd (Vetting.mk.inj (List.mem_singleton.1 hmem)).2.2.symm hres

/-! ### The loop -/

variable {fresh : Db → Uuid} {run : ScraperRun} {expiry : ℚ}

/-- **One turn of the loop**: a row that is excluded adds its checks, and leaves the tables alone;
one that is kept is flagged and written besides. -/
theorem flagEach_cases (cf : Conf) (dc : DetectorConf) (fresh : Db → Uuid) (run : ScraperRun)
    (expiry : ℚ) (rules : List CachedAllowRule) (c : String × List String)
    (cs : List (String × List String)) (k : ℕ) (w : World) :
    ∃ k' w', let out := flagEach cf dc fresh run expiry rules cs k' w'
      let out' := flagEach cf dc fresh run expiry rules (c :: cs) k w
      out'.checks = (vetRow cf run rules c k w.redis).checks ++ out.checks ∧
        out'.world = out.world ∧
        ((vetRow cf run rules c k w.redis).excluded = true ∧ out'.flagged = out.flagged ∧
            w'.db = w.db ∨
          (vetRow cf run rules c k w.redis).excluded = false ∧ out'.flagged = c.1 :: out.flagged ∧
            ∃ env w₀, w₀.db = w.db ∧ w'.db =
              (autoRuleCall cf fresh env run.dryRun (scraper404Write dc expiry c.1) w₀).2.db) := by
  rcases hv : (vetRow cf run rules c k w.redis).excluded with - | -
  · set v := vetRow cf run rules c k w.redis with hvet
    set call := autoRuleCallAt cf fresh run (run.turns v.next) (scraper404Write dc expiry c.1)
      (w.withRedis v.redis) with hcall
    refine ⟨v.next + 1, call.2, ?_⟩
    intro out out'
    have hout : out' = ⟨v.checks ++ out.checks, c.1 :: out.flagged,
        if call.1 then c.1 :: out.created else out.created, out.world⟩ := by
      show flagEach cf dc fresh run expiry rules (c :: cs) k w = _
      rw [flagEach, ← hvet, hv, if_neg Bool.false_ne_true]
    rw [hout]
    refine ⟨rfl, rfl, Or.inr ⟨rfl, rfl, (run.turns v.next).env, w.withRedis v.redis, rfl, ?_⟩⟩
    rw [hcall, autoRuleCallAt]
    show (if _ then _ else _ : World).db = _
    split <;> rfl
  · set v := vetRow cf run rules c k w.redis with hvet
    refine ⟨v.next, w.withRedis v.redis, ?_⟩
    intro out out'
    have hout : out' = { out with checks := v.checks ++ out.checks } := by
      show flagEach cf dc fresh run expiry rules (c :: cs) k w = _
      rw [flagEach, ← hvet, if_pos hv]
    rw [hout]
    exact ⟨rfl, rfl, Or.inl ⟨rfl, rfl, rfl⟩⟩

/-- Every check of a run is of a candidate, and is a call of `_check_allow_rules`. -/
theorem flagEach_checks {rules : List CachedAllowRule} {cs : List (String × List String)} {k : ℕ}
    {w : World} {v : Vetting} (hv : v ∈ (flagEach cf dc fresh run expiry rules cs k w).checks) :
    v.ipAddress ∈ cs.map Prod.fst ∧ ∃ k redis,
      (checkAllowRulesAt cf run.turns v.ipAddress v.userAgent rules k redis).1 = v.result := by
  induction cs generalizing k w with
  | nil => cases hv
  | cons c cs ih =>
    obtain ⟨k', w', hchecks, -, -⟩ := flagEach_cases cf dc fresh run expiry rules c cs k w
    rw [hchecks, List.mem_append] at hv
    rw [List.map_cons, List.mem_cons]
    rcases hv with hv | hv
    · exact ⟨Or.inl (scraperCandidate_checks hv).1, (scraperCandidate_checks hv).2⟩
    · exact ⟨Or.inr (ih hv).1, (ih hv).2⟩

theorem flagEach_flagged {rules : List CachedAllowRule} {cs : List (String × List String)} {k : ℕ}
    {w : World} {ip : String}
    (hip : ip ∈ (flagEach cf dc fresh run expiry rules cs k w).flagged) : ip ∈ cs.map Prod.fst := by
  induction cs generalizing k w with
  | nil => cases hip
  | cons c cs ih =>
    obtain ⟨k', w', -, -, ⟨-, hflagged, -⟩ | ⟨-, hflagged, -⟩⟩ :=
      flagEach_cases cf dc fresh run expiry rules c cs k w
    · rw [hflagged] at hip
      exact List.mem_cons_of_mem _ (ih hip)
    · rw [hflagged] at hip
      rcases List.mem_cons.1 hip with rfl | hip
      · exact List.mem_cons_self ..
      · exact List.mem_cons_of_mem _ (ih hip)

/-- **The loop flags a row exactly when each of its user agents was checked without a match.** -/
theorem flagEach_flagged_iff (rules : List CachedAllowRule) {cs : List (String × List String)}
    (hips : (cs.map Prod.fst).Nodup) (huas : ∀ c ∈ cs, c.2.Nodup ∧ c.2 ≠ []) (k : ℕ) (w : World)
    {c : String × List String} (hc : c ∈ cs) :
    c.1 ∈ (flagEach cf dc fresh run expiry rules cs k w).flagged ↔
      ∀ ua ∈ c.2, (⟨c.1, ua, .noMatch⟩ : Vetting) ∈
        (flagEach cf dc fresh run expiry rules cs k w).checks := by
  induction cs generalizing k w with
  | nil => cases hc
  | cons d cs ih =>
    rw [List.map_cons, List.nodup_cons] at hips
    obtain ⟨hnodup, hne⟩ := huas d (List.mem_cons_self ..)
    have hvet : vetRow cf run rules d k w.redis =
        scraperCandidateMatchesAllowRuleAt cf run.turns d.1 rules d.2 k w.redis := by
      rw [vetRow, if_neg hne]
    obtain ⟨k', w', hchecks, -, hcases⟩ := flagEach_cases cf dc fresh run expiry rules d cs k w
    rw [hvet] at hchecks hcases
    rw [hchecks]
    rcases List.mem_cons.1 hc with rfl | hc
    · -- the rest of the loop is about other addresses
      have hmem : ∀ ua, (⟨c.1, ua, .noMatch⟩ : Vetting) ∈ (scraperCandidateMatchesAllowRuleAt cf
          run.turns c.1 rules c.2 k w.redis).checks ++
            (flagEach cf dc fresh run expiry rules cs k' w').checks ↔
          (⟨c.1, ua, .noMatch⟩ : Vetting) ∈ (scraperCandidateMatchesAllowRuleAt cf run.turns c.1
            rules c.2 k w.redis).checks := by
        intro ua
        rw [List.mem_append, or_iff_left_iff_imp]
        exact fun hv ↦ absurd (flagEach_checks hv).1 hips.1
      simp only [hmem]
      rw [← scraperCandidate_kept_iff c.1 rules hnodup k w.redis]
      rcases hcases with ⟨hex, hflagged, -⟩ | ⟨hex, hflagged, -⟩
      · rw [hflagged, hex]
        exact ⟨fun h ↦ absurd (flagEach_flagged h) hips.1, fun h ↦ (nomatch h)⟩
      · rw [hflagged]
        exact ⟨fun _ ↦ hex, fun _ ↦ List.mem_cons_self ..⟩
    · have hdiff : d.1 ≠ c.1 := fun heq ↦ hips.1 (heq ▸ List.mem_map_of_mem hc)
      have hmem : ∀ ua, (⟨c.1, ua, .noMatch⟩ : Vetting) ∈ (scraperCandidateMatchesAllowRuleAt cf
          run.turns d.1 rules d.2 k w.redis).checks ++
            (flagEach cf dc fresh run expiry rules cs k' w').checks ↔
          (⟨c.1, ua, .noMatch⟩ : Vetting) ∈
            (flagEach cf dc fresh run expiry rules cs k' w').checks := by
        intro ua
        rw [List.mem_append, or_iff_right_iff_imp]
        exact fun hv ↦ absurd (scraperCandidate_checks hv).1.symm hdiff
      simp only [hmem]
      rw [← ih hips.2 (fun e he ↦ huas e (List.mem_cons_of_mem _ he)) k' w' hc]
      rcases hcases with ⟨-, hflagged, -⟩ | ⟨-, hflagged, -⟩
      · rw [hflagged]
      · rw [hflagged, List.mem_cons, or_iff_right hdiff.symm]

/-- A row that is not flagged has a check that matched, or raised. -/
theorem flagEach_excluded (rules : List CachedAllowRule) {cs : List (String × List String)} (k : ℕ)
    (w : World) {c : String × List String} (hc : c ∈ cs)
    (hno : c.1 ∉ (flagEach cf dc fresh run expiry rules cs k w).flagged) :
    ∃ v ∈ (flagEach cf dc fresh run expiry rules cs k w).checks,
      v.ipAddress = c.1 ∧ v.result ≠ .noMatch := by
  induction cs generalizing k w with
  | nil => cases hc
  | cons d cs ih =>
    obtain ⟨k', w', hchecks, -, hcases⟩ := flagEach_cases cf dc fresh run expiry rules d cs k w
    rw [hchecks]
    rcases hcases with ⟨hex, hflagged, -⟩ | ⟨-, hflagged, -⟩
    · rcases List.mem_cons.1 hc with rfl | hc
      · rcases scraperCandidate_cases c.1 rules (if c.2 = [] then [""] else c.2) k w.redis with
          ⟨hkept, -⟩ | ⟨-, pre, ua, post, result, -, hres, hvet⟩
        · exact absurd (hkept.symm.trans hex) Bool.false_ne_true
        · refine ⟨⟨c.1, ua, result⟩, List.mem_append_left _ ?_, rfl, hres⟩
          rw [vetRow, hvet]
          exact List.mem_append_right _ (List.mem_singleton_self _)
      · rw [hflagged] at hno
        obtain ⟨v, hv, hresult⟩ := ih k' w' hc hno
        exact ⟨v, List.mem_append_right _ hv, hresult⟩
    · rw [hflagged, List.mem_cons, not_or] at hno
      rcases List.mem_cons.1 hc with rfl | hc
      · exact absurd rfl hno.1
      · obtain ⟨v, hv, hresult⟩ := ih k' w' hc hno.2
        exact ⟨v, List.mem_append_right _ hv, hresult⟩

/-! ### The table -/

/-- The key of the rule a flagged address gets. -/
def scraperKey (dc : DetectorConf) (ip : String) : AutoKey :=
  ⟨.ip, ip, if dc.scraper404ActionBlock then .block else .challenge⟩

/-- What a write leaves in any table: a row of its key with its expiry, the rows of other keys, and
no others. -/
theorem getOrCreateAutoRule_rows (cf : Conf) (env : Env) (a : AutoRuleWrite) (w : World) :
    (∃ r ∈ (getOrCreateAutoRule cf env a w).2.db.blockRules,
        a.key.holds r = true ∧ r.expiresAt = some a.expiry) ∧
      (∀ r ∈ w.db.blockRules, a.key.holds r = false →
        r ∈ (getOrCreateAutoRule cf env a w).2.db.blockRules) ∧
      ∀ r ∈ (getOrCreateAutoRule cf env a w).2.db.blockRules,
        r ∈ w.db.blockRules ∨ a.key.holds r = true ∧ r.expiresAt = some a.expiry := by
  rw [blockRules_getOrCreateAutoRule_eq]
  set rules := if (w.db.blockRules.filter a.finds).length ≤ 1 then w.db.blockRules
    else a.deduplicate w.db.blockRules with hrules
  have hmem : ∀ r, (r ∈ rules → r ∈ w.db.blockRules) ∧
      (r ∈ w.db.blockRules → a.finds r = false → r ∈ rules) := by
    intro r
    rw [hrules]
    split
    · exact ⟨fun hr ↦ hr, fun hr _ ↦ hr⟩
    · exact mem_deduplicate
  have hrefresh : ∀ r, a.finds r = true →
      a.key.holds (a.refresh cf r) = true ∧ (a.refresh cf r).expiresAt = some a.expiry :=
    fun r hr ↦ ⟨hr, rfl⟩
  rw [AutoRuleWrite.updateOrCreate]
  split
  · rename_i s hs
    have hfinds := List.find?_some hs
    have heach : ∀ r ∈ rules, a.rewrite cf r ∈ a.refreshAll cf rules := fun r hr ↦
      List.mem_map_of_mem hr
    refine ⟨⟨a.refresh cf s, ?_, hrefresh s hfinds⟩, fun r hr hno ↦ ?_, fun r hr ↦ ?_⟩
    · have := heach s (List.mem_of_find?_eq_some hs)
      rwa [AutoRuleWrite.rewrite, if_pos hfinds] at this
    · have := heach r ((hmem r).2 hr hno)
      rwa [AutoRuleWrite.rewrite, if_neg (by rw [a.finds_eq, hno]; exact Bool.false_ne_true)]
        at this
    · obtain ⟨r₁, hr₁, rfl⟩ := List.mem_map.1 hr
      split
      · rename_i hfound
        exact Or.inr (hrefresh r₁ hfound)
      · exact Or.inl ((hmem r₁).1 hr₁)
  · refine ⟨⟨_, List.mem_append_right _ (List.mem_singleton_self _), ?_, rfl⟩, fun r hr hno ↦ ?_,
      fun r hr ↦ ?_⟩
    · exact AutoKey.holds_iff.2 ⟨rfl, rfl⟩
    · exact List.mem_append_left _ ((hmem r).2 hr hno)
    · rcases List.mem_append.1 hr with hr | hr
      · exact Or.inl ((hmem r).1 hr)
      · rw [List.mem_singleton.1 hr]
        exact Or.inr ⟨AutoKey.holds_iff.2 ⟨rfl, rfl⟩, rfl⟩

/-- A dry run leaves the tables alone. -/
theorem flagEach_dry (hdry : run.dryRun = true) (rules : List CachedAllowRule)
    (cs : List (String × List String)) (k : ℕ) (w : World) :
    (flagEach cf dc fresh run expiry rules cs k w).world.db = w.db := by
  induction cs generalizing k w with
  | nil => rfl
  | cons c cs ih =>
    obtain ⟨k', w', -, hworld, hcases⟩ := flagEach_cases cf dc fresh run expiry rules c cs k w
    rw [hworld, ih]
    rcases hcases with ⟨-, -, hdb⟩ | ⟨-, -, env, w₀, hdb₀, hdb⟩
    · exact hdb
    · rw [hdb, hdry]
      exact hdb₀

/-- **The table after a real run**: the flagged addresses have their rule, and every row that was
not there before is the rule of a flagged address. -/
theorem flagEach_rows (cf : Conf) (dc : DetectorConf) (fresh : Db → Uuid) {run : ScraperRun}
    (expiry : ℚ) (hdry : run.dryRun = false) (rules : List CachedAllowRule)
    (cs : List (String × List String)) (k : ℕ) (w : World) :
    let out := flagEach cf dc fresh run expiry rules cs k w
    (∀ r ∈ w.db.blockRules, (∀ ip ∈ out.flagged, (scraperKey dc ip).holds r = false) →
        r ∈ out.world.db.blockRules) ∧
      (∀ ip ∈ out.flagged, ∃ r ∈ out.world.db.blockRules,
        (scraperKey dc ip).holds r = true ∧ r.expiresAt = some expiry) ∧
      ∀ r ∈ out.world.db.blockRules, r ∈ w.db.blockRules ∨
        ∃ ip ∈ out.flagged, (scraperKey dc ip).holds r = true ∧ r.expiresAt = some expiry := by
  induction cs generalizing k w with
  | nil => exact ⟨fun r hr _ ↦ hr, fun ip hip ↦ (List.not_mem_nil hip).elim, fun r hr ↦ Or.inl hr⟩
  | cons c cs ih =>
    intro out
    obtain ⟨k', w', -, hworld, hcases⟩ := flagEach_cases cf dc fresh run expiry rules c cs k w
    obtain ⟨hkept, hwritten, hnew⟩ := ih k' w'
    rcases hcases with ⟨-, hflagged, hdb⟩ | ⟨-, hflagged, env, w₀, hdb₀, hdb⟩
    · rw [hdb] at hkept hnew
      show _ ∧ _ ∧ _
      rw [hflagged, hworld]
      exact ⟨hkept, hwritten, hnew⟩
    · -- the write of this turn, and then the rest
      have hwrite : w'.db = (getOrCreateAutoRule cf { env with freshId := fresh w₀.db }
          (scraper404Write dc expiry c.1) w₀).2.db := by
        rw [hdb, autoRuleCall, hdry]
        rfl
      obtain ⟨⟨r₀, hr₀, hkey₀, hexp₀⟩, hothers, hrows⟩ := getOrCreateAutoRule_rows cf
        { env with freshId := fresh w₀.db } (scraper404Write dc expiry c.1) w₀
      rw [← hwrite] at hr₀ hothers hrows
      rw [hdb₀] at hothers hrows
      show _ ∧ _ ∧ _
      rw [hflagged, hworld]
      refine ⟨fun r hr hno ↦ ?_, fun ip hip ↦ ?_, fun r hr ↦ ?_⟩
      · exact hkept r (hothers r hr (hno c.1 (List.mem_cons_self ..))) fun ip hip ↦
          hno ip (List.mem_cons_of_mem _ hip)
      · rcases List.mem_cons.1 hip with rfl | hip
        · by_cases hagain : c.1 ∈ (flagEach cf dc fresh run expiry rules cs k' w').flagged
          · exact hwritten c.1 hagain
          · refine ⟨r₀, hkept r₀ hr₀ fun ip hip ↦ AutoKey.holds_of_ne ?_ hkey₀, hkey₀, hexp₀⟩
            intro heq
            have hpattern : c.1 = ip := congrArg AutoKey.pattern heq
            exact hagain (hpattern ▸ hip)
        · exact hwritten ip hip
      · rcases hnew r hr with hr | ⟨ip, hip, hr⟩
        · rcases hrows r hr with hr | hr
          · exact Or.inl hr
          · exact Or.inr ⟨c.1, List.mem_cons_self .., hr⟩
        · exact Or.inr ⟨ip, List.mem_cons_of_mem _ hip, hr⟩

end Run

/-! ### The order of the log -/

section Order

variable {t' : Traffic} (h : t.requestLogs.Perm t'.requestLogs)

include h

theorem logsSince_perm : (t.logsSince cutoff).Perm (t'.logsSince cutoff) := h.filter _

/-- Whether an address qualifies does not depend on the order of the log. -/
theorem qualifiesAsScraper_perm (ip : String) :
    QualifiesAsScraper dc t cutoff ip ↔ QualifiesAsScraper dc t' cutoff ip := by
  have hreached : (reachedApp t cutoff).Perm (reachedApp t' cutoff) := (logsSince_perm h).filter _
  have htotal : ipCount (reachedApp t cutoff) ip = ipCount (reachedApp t' cutoff) ip :=
    hreached.countP_eq _
  have hcount : ipCount ((reachedApp t cutoff).filter fun l ↦ l.responseCode = some 404) ip =
      ipCount ((reachedApp t' cutoff).filter fun l ↦ l.responseCode = some 404) ip :=
    (hreached.filter _).countP_eq _
  constructor
  · intro ⟨hseen, hmin, hshare⟩
    rw [htotal] at hseen hmin hshare
    rw [hcount] at hshare
    exact ⟨hseen, hmin, hshare⟩
  · intro ⟨hseen, hmin, hshare⟩
    rw [← htotal] at hseen hmin hshare
    rw [← hcount] at hshare
    exact ⟨hseen, hmin, hshare⟩

/-- What the queries can answer does not depend on the order of the log. -/
def ScraperRows.reorder (answers : ScraperRows dc t cutoff) : ScraperRows dc t' cutoff where
  rows := answers.rows
  groups := answers.groups.trans ((List.perm_ext_iff_of_nodup nodup_scraperCandidates
    nodup_scraperCandidates).2 fun ip ↦ by
      rw [mem_scraperCandidates, mem_scraperCandidates, qualifiesAsScraper_perm h])
  agents c hc := (answers.agents c hc).trans ((((logsSince_perm h).filter _).map _).dedup)

end Order

/-! ### The run -/

/-- The allow check is available: there is a Redis client, and the load of the rule cache does not
raise. -/
def ScraperRun.Available (cf : Conf) (run : ScraperRun) (w : World) : Prop :=
  run.client = true ∧ ∃ cache, (loadRuleCacheAt cf run.load w).1 = some cache

/-- A load leaves the tables alone. -/
theorem db_loadRuleCacheAt (cf : Conf) (l : LoadEnv) (w : World) :
    (loadRuleCacheAt cf l w).2.db = w.db := by
  simp only [loadRuleCacheAt]
  split
  · rfl
  · split
    · rfl
    · split
      · rfl
      · split
        · split <;> rfl
        -- whatever a rebuild comes to, only the keys and the cache of the worker follow it
        all_goals
          split
          · split <;> rfl
          · rfl

/-- **How a run ends**: without a check and without a rule, where the allow check is not available
or nothing qualifies; and otherwise as its loop does. -/
theorem detectScraper404RatioAt_cases (cf : Conf) (dc : DetectorConf) (fresh : Db → Uuid)
    (run : ScraperRun) (expiry : ℚ) (rows : List (String × List String)) (w : World) :
    (rows = [] ∨ ¬run.Available cf w) ∧ (∃ w', w'.db = w.db ∧
        detectScraper404RatioAt cf dc fresh run expiry rows w = .nothing w') ∨
      run.Available cf w ∧ ∃ cache w', (loadRuleCacheAt cf run.load w).1 = some cache ∧
        w'.db = w.db ∧ detectScraper404RatioAt cf dc fresh run expiry rows w =
          flagEach cf dc fresh run expiry cache.allowRules rows 0 w' := by
  rw [detectScraper404RatioAt]
  split
  · rename_i hskip
    refine Or.inl ⟨hskip.imp id fun hclient hav ↦ ?_, w, rfl, rfl⟩
    exact Bool.false_ne_true (hclient.symm.trans hav.1)
  · rename_i hskip
    rw [not_or, Bool.not_eq_false] at hskip
    have hdb := db_loadRuleCacheAt cf run.load w
    rcases hload : loadRuleCacheAt cf run.load w with ⟨- | cache, w'⟩
    · rw [hload] at hdb
      refine Or.inl ⟨Or.inr fun hav ↦ ?_, w', hdb, rfl⟩
      obtain ⟨cache, hcache⟩ := hav.2
      rw [hload] at hcache
      cases hcache
    · rw [hload] at hdb
      exact Or.inr ⟨⟨hskip.2, cache, by rw [hload]⟩, cache, w', rfl, hdb, rfl⟩

/-- **Whom the loop flags**, in terms of the log. -/
theorem mem_flagged_iff (cf : Conf) (fresh : Db → Uuid) (run : ScraperRun) (expiry : ℚ)
    (answers : ScraperRows dc t cutoff) (rules : List CachedAllowRule) (w : World) (ip : String) :
    let out := flagEach cf dc fresh run expiry rules answers.rows 0 w
    ip ∈ out.flagged ↔ QualifiesAsScraper dc t cutoff ip ∧
      ∀ l ∈ t.logsSince cutoff, l.ipAddress = ip →
        (⟨ip, l.userAgent, .noMatch⟩ : Vetting) ∈ out.checks := by
  intro out
  have huas : ∀ c ∈ answers.rows, c.2.Nodup ∧ c.2 ≠ [] := fun c hc ↦
    ⟨answers.nodup_agents hc, answers.agents_ne_nil hc⟩
  constructor
  · intro hip
    have hmem := flagEach_flagged hip
    refine ⟨answers.mem_iff.1 hmem, fun l hl hlip ↦ ?_⟩
    obtain ⟨c, hc, rfl⟩ := List.mem_map.1 hmem
    refine (flagEach_flagged_iff rules answers.nodup huas 0 w hc).1 hip l.userAgent ?_
    exact (answers.mem_agents hc).2 ⟨l, hl, hlip, rfl⟩
  · rintro ⟨hq, hall⟩
    obtain ⟨c, hc, rfl⟩ := List.mem_map.1 (answers.mem_iff.2 hq)
    refine (flagEach_flagged_iff rules answers.nodup huas 0 w hc).2 fun ua hua ↦ ?_
    obtain ⟨l, hl, hlip, rfl⟩ := (answers.mem_agents hc).1 hua
    exact hall l hl hlip

/-- **The 404-ratio detector flags whom no allow rule vouches for, and nobody else.** Whatever
fails, and in whatever order the log and the queries give their rows, an address gets a rule exactly
when it qualifies, the allow check was available, and a check without a match is on record for each
of its user agents. An address that qualifies and gets none, though the allow check was available,
has a check on record that matched or raised; every check on record is a call of the matcher with
the loaded cache; and the table changes in the rules of flagged addresses only. -/
theorem scraper_flags_exactly_the_unvouched (cf : Conf) (fresh : Db → Uuid) (run : ScraperRun)
    (expiry : ℚ) (answers : ScraperRows dc t cutoff) (w : World) :
    let out := detectScraper404RatioAt cf dc fresh run expiry answers.rows w
    (∀ ip, ip ∈ out.flagged ↔ QualifiesAsScraper dc t cutoff ip ∧ run.Available cf w ∧
        ∀ l ∈ t.logsSince cutoff, l.ipAddress = ip →
          (⟨ip, l.userAgent, .noMatch⟩ : Vetting) ∈ out.checks) ∧
      (∀ ip, QualifiesAsScraper dc t cutoff ip → run.Available cf w →
        (∀ v ∈ out.checks, v.ipAddress = ip → v.result = .noMatch) → ip ∈ out.flagged) ∧
      (∀ v ∈ out.checks, ∃ cache k redis, (loadRuleCacheAt cf run.load w).1 = some cache ∧
        (checkAllowRulesAt cf run.turns v.ipAddress v.userAgent cache.allowRules k redis).1 =
          v.result) ∧
      (run.dryRun = true → out.world.db = w.db) ∧
      (run.dryRun = false →
        (∀ r ∈ out.world.db.blockRules, r ∈ w.db.blockRules ∨
          ∃ ip ∈ out.flagged, (scraperKey dc ip).holds r = true ∧ r.expiresAt = some expiry) ∧
        ∀ ip ∈ out.flagged, ∃ r ∈ out.world.db.blockRules,
          (scraperKey dc ip).holds r = true ∧ r.expiresAt = some expiry) ∧
      ∀ t' : Traffic, t.requestLogs.Perm t'.requestLogs →
        (∀ ip, QualifiesAsScraper dc t cutoff ip ↔ QualifiesAsScraper dc t' cutoff ip) ∧
          ∃ answers' : ScraperRows dc t' cutoff, answers'.rows = answers.rows := by
  intro out
  have horder : ∀ t' : Traffic, t.requestLogs.Perm t'.requestLogs →
      (∀ ip, QualifiesAsScraper dc t cutoff ip ↔ QualifiesAsScraper dc t' cutoff ip) ∧
        ∃ answers' : ScraperRows dc t' cutoff, answers'.rows = answers.rows :=
    fun t' h ↦ ⟨qualifiesAsScraper_perm h, answers.reorder h, rfl⟩
  rcases detectScraper404RatioAt_cases cf dc fresh run expiry answers.rows w with
    ⟨hno, w', hdb, hout⟩ | ⟨hav, cache, w', hcache, hdb, hout⟩
  · have hnone : ∀ ip, QualifiesAsScraper dc t cutoff ip → ¬run.Available cf w := by
      intro ip hq
      rcases hno with hnil | hno
      · have hmem := answers.mem_iff.2 hq
        rw [hnil] at hmem
        cases hmem
      · exact hno
    rw [show out = .nothing w' from hout]
    refine ⟨fun ip ↦ ⟨fun hip ↦ (List.not_mem_nil hip).elim, fun h ↦ ?_⟩, fun ip hq hav _ ↦ ?_,
      fun v hv ↦ (List.not_mem_nil hv).elim, fun _ ↦ hdb, fun _ ↦ ⟨fun r hr ↦ Or.inl ?_,
        fun ip hip ↦ (List.not_mem_nil hip).elim⟩, horder⟩
    · exact (hnone ip h.1 h.2.1).elim
    · exact (hnone ip hq hav).elim
    · rw [← hdb]
      exact hr
  · rw [show out = _ from hout]
    refine ⟨fun ip ↦ ?_, fun ip hq _ hclean ↦ ?_, fun v hv ↦ ?_, fun hdry ↦ ?_, fun hdry ↦ ?_,
      horder⟩
    · have hloop := mem_flagged_iff cf fresh run expiry answers cache.allowRules w' ip
      exact ⟨fun hip ↦ ⟨(hloop.1 hip).1, hav, (hloop.1 hip).2⟩,
        fun ⟨hq, _, hall⟩ ↦ hloop.2 ⟨hq, hall⟩⟩
    · obtain ⟨c, hc, rfl⟩ := List.mem_map.1 (answers.mem_iff.2 hq)
      by_contra hflagged
      obtain ⟨v, hv, hip, hres⟩ := flagEach_excluded cache.allowRules 0 w' hc hflagged
      exact hres (hclean v hv hip)
    · obtain ⟨-, k, redis, hcall⟩ := flagEach_checks hv
      exact ⟨cache, k, redis, hcache, hcall⟩
    · rw [flagEach_dry hdry, hdb]
    · obtain ⟨-, hwritten, hnew⟩ :=
        flagEach_rows cf dc fresh expiry hdry cache.allowRules answers.rows 0 w'
      rw [hdb] at hnew
      exact ⟨hnew, hwritten⟩

/-! ### Two scrapers -/

/-- A request for a page that is not there. -/
def missedRequest (ip userAgent : String) : RequestLog :=
  ⟨0, ip, userAgent, "/missing", .allowed, some 404, "", .middleware⟩

/-- Two addresses that ask for nothing else. -/
def twoScrapers : Traffic where
  requestLogs := [missedRequest "192.0.2.1" "curl/8.5", missedRequest "198.51.100.7" "Wget/1.21"]
  ipReputations := []
  challengeTokens := []
  ipReputations_nodup := List.nodup_nil

/-- A threshold that one request reaches. -/
def oneRequest : DetectorConf := { DetectorConf.defaults with scraper404MinRequests := 1 }

/-- An allow rule for the network of one of the two. -/
def partnerRule : AllowRule where
  ruleType := .cidr
  matchType := .cidr
  pattern := "192.0.2.0/24"
  id := 3
  name := "Partner network"
  isActive := true
  source := .admin
  expiresAt := none
  verifyRdns := false
  rdnsPattern := ""

/-- The run over that traffic, a minute later. -/
def partnerRun : ScraperOutcome :=
  detectScraper404RatioAt plainConf oneRequest (fun _ ↦ 9)
    (.faultless plainConf (Env.plain 60) false) 86460
    (ScraperRows.ofLog oneRequest twoScrapers 0).rows (World.start ⟨[], [partnerRule]⟩)

/-- **The partner is spared**, by a check that is on record, and the other one is flagged. -/
theorem scraper_flags_other_network :
    partnerRun.flagged = ["198.51.100.7"] ∧
      (⟨"198.51.100.7", "Wget/1.21", .noMatch⟩ : Vetting) ∈ partnerRun.checks ∧
      ∃ v ∈ partnerRun.checks, v.ipAddress = "192.0.2.1" ∧ v.result ≠ .noMatch := by
  have hflagged : partnerRun.flagged = ["198.51.100.7"] := by decide +kernel
  obtain ⟨hiff, hspared, -⟩ := scraper_flags_exactly_the_unvouched plainConf (fun _ ↦ 9)
    (.faultless plainConf (Env.plain 60) false) 86460 (ScraperRows.ofLog oneRequest twoScrapers 0)
    (World.start ⟨[], [partnerRule]⟩)
  have hother : "198.51.100.7" ∈ partnerRun.flagged := by
    rw [hflagged]
    exact List.mem_singleton_self _
  obtain ⟨-, havailable, hchecked⟩ := (hiff "198.51.100.7").1 hother
  have hlogged : missedRequest "198.51.100.7" "Wget/1.21" ∈ twoScrapers.logsSince 0 :=
    List.mem_filter.2 ⟨List.mem_cons_of_mem _ List.mem_cons_self, by decide +kernel⟩
  refine ⟨hflagged, hchecked _ hlogged rfl, ?_⟩
  by_contra hnone
  have hpartner : "192.0.2.1" ∈ partnerRun.flagged := by
    refine hspared "192.0.2.1" (mem_scraperCandidates.1 (by decide +kernel)) havailable ?_
    intro v hv hip
    by_contra hresult
    exact hnone ⟨v, hv, hip, hresult⟩
  rw [hflagged] at hpartner
  exact absurd hpartner (by decide)

end DjangoWaf
