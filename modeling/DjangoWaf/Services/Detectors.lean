import DjangoWaf.Services.AnomalyDetector
import DjangoWaf.Services.RuleMatching

/-!
# The detectors

`run_all_detectors` of `services/anomaly_detector.py` and the six detectors it runs, over the tables
they read: the request log, the reputations and the challenge tokens. What a detector computes from
those tables is a **list of candidates**; it then goes through them one by one, decides on each
whether and what to write, and counts what was created. `detectEach` is that loop, and `dryRun`
matters in one place of it only, `_get_or_create_auto_rule`.

Two of the loops decide with more than the traffic: the subnet half of `detect_unsolved_challenges`
reads the table of block rules for its stage, and `detect_scraper_404_ratio` asks the allow rules
about each candidate, through the rule cache of its worker.

A query that groups gives its groups in some order; here it is the order in which `dedup` leaves
them. Ratios are exact. Evidence, confidence and the `anomaly_detected` signal are left out.
-/

namespace DjangoWaf

/-! ### Tables -/

/-- `RequestLogSource`. -/
inductive RequestLogSource
  | middleware
  | nginxLog
  deriving DecidableEq, Repr

/-- `RequestLog`, in the columns the detectors read. -/
structure RequestLog where
  timestamp : ℚ
  ipAddress : String
  userAgent : String
  path : String
  verdict : Verdict
  responseCode : Option ℕ
  referer : String
  source : RequestLogSource

/-- `IPReputation`, in the columns the detectors read. -/
structure IpReputation where
  ipAddress : String
  challengePasses : ℕ
  challengeFailures : ℕ
  lastSeenAt : Option ℚ

/-- What the detectors read. The address of a reputation is unique. -/
structure Traffic where
  requestLogs : List RequestLog
  ipReputations : List IpReputation
  challengeTokens : List ChallengeToken
  ipReputations_nodup : (ipReputations.map IpReputation.ipAddress).Nodup

/-- The rows logged since an instant. -/
def Traffic.logsSince (t : Traffic) (cutoff : ℚ) : List RequestLog :=
  t.requestLogs.filter fun l ↦ cutoff ≤ l.timestamp

/-- The addresses of some rows, once each: `.values("ip_address")` of an aggregation. -/
def ipGroups (rows : List RequestLog) : List String := (rows.map RequestLog.ipAddress).dedup

/-- `Count("id")` of an address. -/
def ipCount (rows : List RequestLog) (ip : String) : ℕ := rows.countP fun l ↦ l.ipAddress = ip

/-! ### Settings -/

/-- The settings of the detectors. -/
structure DetectorConf extends UnsolvedSubnetConf where
  /-- `DJANGO_WAF_AUTO_RULE_EXPIRY_HOURS`. -/
  autoRuleExpiryHours : ℤ
  /-- `DJANGO_WAF_ANOMALY_THRESHOLD_DISTINCT_UAS`. -/
  thresholdDistinctUas : ℤ
  /-- `DJANGO_WAF_ANOMALY_THRESHOLD_SUBNET_BURST_MIN_COUNT`. -/
  subnetBurstMinCount : ℤ
  /-- `DJANGO_WAF_UNSOLVED_MIN_CHALLENGED`. -/
  unsolvedMinChallenged : ℤ
  /-- `DJANGO_WAF_UNSOLVED_REFERER_RATIO`. -/
  unsolvedRefererRatio : ℚ
  /-- `DJANGO_WAF_UNSOLVED_SOLVE_EXEMPTION_WINDOW_HOURS`. -/
  solveExemptionWindowHours : ℤ
  /-- `DJANGO_WAF_UNSOLVED_SUBNET_WINDOW_MINUTES`. -/
  subnetWindowMinutes : ℤ
  /-- `DJANGO_WAF_CLOUD_SPRAY_MIN_IPS`. -/
  cloudSprayMinIps : ℤ
  /-- `DJANGO_WAF_CLOUD_SPRAY_MAX_REQUESTS_PER_IP`. -/
  cloudSprayMaxRequestsPerIp : ℤ
  /-- `DJANGO_WAF_CLOUD_SPRAY_TOP_N`. -/
  cloudSprayTopN : ℕ
  /-- `DJANGO_WAF_CLOUD_SPRAY_UA_RULE`. -/
  cloudSprayUaRule : Bool
  /-- `DJANGO_WAF_SCRAPER_404_MIN_REQUESTS`. -/
  scraper404MinRequests : ℤ
  /-- `DJANGO_WAF_SCRAPER_404_RATIO`. -/
  scraper404Ratio : ℚ
  /-- `DJANGO_WAF_SCRAPER_404_WINDOW_MINUTES`. -/
  scraper404WindowMinutes : ℤ
  /-- `DJANGO_WAF_SCRAPER_404_ACTION_BLOCK`. -/
  scraper404ActionBlock : Bool

/-- The settings as they are shipped. -/
def DetectorConf.defaults : DetectorConf where
  minChallenged := 30
  minIps := 10
  autoRuleExpiryHours := 24
  thresholdDistinctUas := 20
  subnetBurstMinCount := 30
  unsolvedMinChallenged := 3
  unsolvedRefererRatio := 4 / 5
  solveExemptionWindowHours := 24
  subnetWindowMinutes := 360
  cloudSprayMinIps := 20
  cloudSprayMaxRequestsPerIp := 3
  cloudSprayTopN := 5
  cloudSprayUaRule := false
  scraper404MinRequests := 20
  scraper404Ratio := 17 / 20
  scraper404WindowMinutes := 1440
  scraper404ActionBlock := false

/-! ### Candidates -/

section Candidates

variable (dc : DetectorConf) (t : Traffic) (cutoff : ℚ)

/-- The addresses `detect_ua_rotation` writes a rule for. -/
def uaRotationIps : List String :=
  (ipGroups (t.logsSince cutoff)).filter fun ip ↦ dc.thresholdDistinctUas <
    ((((t.logsSince cutoff).filter fun l ↦ l.ipAddress = ip).map RequestLog.userAgent).dedup).length

/-- `subnet_counts`: how many of the addresses lie in each subnet. -/
def subnetCounts (ips : List String) : List SubnetAggregate :=
  aggregateSubnets (ips.map fun ip ↦ ⟨ip, 1⟩)

/-- `statistics.median`. -/
def median (counts : List ℕ) : ℚ :=
  let sorted := counts.insertionSort (· ≤ ·)
  let half := sorted.length / 2
  if sorted.length % 2 = 1 then (sorted[half]?.getD 0 : ℕ)
  else ((sorted[half - 1]?.getD 0 : ℕ) + (sorted[half]?.getD 0 : ℕ)) / 2

/-- The subnets `detect_subnet_burst` writes a rule for. -/
def burstSubnets : List String :=
  let counts := subnetCounts ((t.logsSince cutoff).map RequestLog.ipAddress)
  let burstThreshold := median (counts.map SubnetAggregate.total) * 3
  (counts.filter fun s ↦ !((s.total : ℤ) < dc.subnetBurstMinCount && s.total ≤ burstThreshold)).map
    SubnetAggregate.subnet

/-- The addresses `detect_challenge_farms` writes a rule for. -/
def challengeFarmIps : List String :=
  (t.ipReputations.filter fun r ↦ (r.lastSeenAt.any fun seen ↦ cutoff ≤ seen) &&
    10 < r.challengeFailures && r.challengePasses < 2).map IpReputation.ipAddress

/-- `challenged_by_ip`, over a window. -/
def challengedByIp : List ChallengedRow :=
  let rows := (t.logsSince cutoff).filter fun l ↦ l.verdict = .challenged && l.source = .middleware
  (ipGroups rows).map fun ip ↦ ⟨ip, ipCount rows ip⟩

/-- `solved_ips`: which of the addresses have solved a challenge since an instant. -/
def solvedIps (ips : List String) : List String :=
  ((t.challengeTokens.filter fun k ↦ ips.contains k.ipAddress && k.status = .solved &&
    k.solvedAt.any fun solved ↦ cutoff ≤ solved).map ChallengeToken.ipAddress).dedup

/-- The addresses the per-IP half of `detect_unsolved_challenges` writes a rule for. -/
def unsolvedIps (solvedIps : List String) : List String :=
  let nonRoot := (t.logsSince cutoff).filter fun l ↦ l.path ≠ "/"
  let emptyReferer := nonRoot.filter fun l ↦ l.referer = ""
  let candidates := (challengedByIp t cutoff).filter fun row ↦
    dc.unsolvedMinChallenged ≤ row.challengedCount
  (candidates.filter fun row ↦ !solvedIps.contains row.ipAddress &&
    ipCount nonRoot row.ipAddress ≠ 0 &&
    dc.unsolvedRefererRatio ≤
      (ipCount emptyReferer row.ipAddress : ℚ) / ipCount nonRoot row.ipAddress).map
    ChallengedRow.ipAddress

/-- `BARE_ORIGIN_REFERER_RE`. -/
def isBareOrigin (referer : String) : Bool :=
  ["https://", "http://"].any fun scheme ↦ scheme.toList.isPrefixOf referer.toList &&
    referer.toList.drop scheme.length ≠ [] && !(referer.toList.drop scheme.length).contains '/'

/-- The rows of the window without a referer, or with a bare origin for one. -/
def withoutReferer : List RequestLog :=
  (t.logsSince cutoff).filter fun l ↦ l.referer = "" || isBareOrigin l.referer

/-- `Count("ip_address", distinct=True)` of a user agent. -/
def distinctIps (rows : List RequestLog) (ua : String) : ℕ :=
  (ipGroups (rows.filter fun l ↦ l.userAgent = ua)).length

/-- `spray_uas`. -/
def sprayUas : List String :=
  let rows := (withoutReferer t cutoff).filter fun l ↦ l.userAgent ≠ ""
  ((((rows.map RequestLog.userAgent).dedup.filter fun ua ↦
    dc.cloudSprayMinIps ≤ distinctIps rows ua).insertionSort fun ua ua' ↦
      distinctIps rows ua' ≤ distinctIps rows ua)).take dc.cloudSprayTopN

/-- `suspicious_ips` of a user agent. -/
def suspiciousIps (ua : String) : List String :=
  let rows := (withoutReferer t cutoff).filter fun l ↦ l.userAgent = ua
  (ipGroups rows).filter fun ip ↦ ipCount rows ip ≤ dc.cloudSprayMaxRequestsPerIp

/-- The rows `detect_scraper_404_ratio` counts: the request reached the application. -/
def reachedApp : List RequestLog :=
  (t.logsSince cutoff).filter fun l ↦ l.verdict = .allowed || l.verdict = .logged

/-- `qualifying_rows`, each address with the user agents it presented in the window. -/
def scraperCandidates : List (String × List String) :=
  ((ipGroups (reachedApp t cutoff)).filter fun ip ↦
    let total := ipCount (reachedApp t cutoff) ip
    let count404 := ipCount ((reachedApp t cutoff).filter fun l ↦ l.responseCode = some 404) ip
    dc.scraper404MinRequests ≤ total && dc.scraper404Ratio ≤ (count404 : ℚ) / total).map fun ip ↦
      (ip, (((t.logsSince cutoff).filter fun l ↦ l.ipAddress = ip).map RequestLog.userAgent).dedup)

end Candidates

/-! ### Writes -/

/-- A write of an exact address. -/
def ipWrite (name detectorName : String) (action : RuleAction) (expiry : ℚ) (ip : String) :
    AutoRuleWrite where
  ruleType := .ip
  matchType := .exact
  pattern := ip
  name := name ++ ip
  action
  expiry
  detectorName

/-- The write of `detect_ua_rotation`. -/
def uaRotationWrite : ℚ → String → AutoRuleWrite :=
  ipWrite "Auto: UA rotation from " "detect_ua_rotation" .challenge

/-- The write of `detect_challenge_farms`. -/
def challengeFarmWrite : ℚ → String → AutoRuleWrite :=
  ipWrite "Auto: challenge farm from " "detect_challenge_farms" .block

/-- The write of the per-IP half of `detect_unsolved_challenges`. -/
def unsolvedIpWrite : ℚ → String → AutoRuleWrite :=
  ipWrite "Auto: unsolved challenges from " detectUnsolvedChallengesName .block

/-- The write of `detect_scraper_404_ratio`. -/
def scraper404Write (dc : DetectorConf) : ℚ → String → AutoRuleWrite :=
  ipWrite "Auto: scraper 404 ratio from " "detect_scraper_404_ratio"
    (if dc.scraper404ActionBlock then .block else .challenge)

/-- The write of the user-agent path of `detect_cloud_spray`. -/
def cloudSprayUaWrite (ua : String) (ips : ℕ) (expiry : ℚ) : AutoRuleWrite where
  ruleType := .ua
  matchType := .exact
  pattern := ua
  name := "Auto: cloud spray UA (" ++ toString ips ++ " IPs, UA: " ++
    String.ofList (ua.toList.take 40) ++ ")"
  action := .challenge
  expiry
  detectorName := "detect_cloud_spray"

/-- What `detect_cloud_spray` writes, user agent by user agent. -/
def sprayWrites (dc : DetectorConf) (t : Traffic) (cutoff expiry : ℚ) : List AutoRuleWrite :=
  (sprayUas dc t cutoff).flatMap fun ua ↦
    let ips := suspiciousIps dc t cutoff ua
    if (ips.length : ℤ) < dc.cloudSprayMinIps then []
    else (if dc.cloudSprayUaRule then [cloudSprayUaWrite ua ips.length expiry] else []) ++
      ((subnetCounts ips).filter fun s ↦ 2 ≤ s.total).map fun s ↦
        cloudSprayWrite s.subnet ua s.total expiry

/-! ### The loop of a detector -/

section Loop

variable (cf : Conf) (fresh : Db → Uuid) (env : Env)

/-- The rows a write works on, once duplicates of its key are deleted. -/
def AutoRuleWrite.deduplicated (a : AutoRuleWrite) (rules : List BlockRule) : List BlockRule :=
  if (rules.filter a.finds).length ≤ 1 then rules else a.deduplicate rules

/-- The `created` of `_get_or_create_auto_rule`, and the world it leaves. A dry run reads. -/
def autoRuleCall (dryRun : Bool) (a : AutoRuleWrite) (w : World) : Bool × World :=
  if dryRun then ((w.db.blockRules.find? a.finds).isNone, w)
  else (((a.deduplicated w.db.blockRules).find? a.finds).isNone,
    (getOrCreateAutoRule cf { env with freshId := fresh w.db } a w).2)

/-- The loop of a detector over its candidates: how many rules it reports as created. -/
def detectEach {ι : Type*} (decide : ι → World → Option AutoRuleWrite × World) (dryRun : Bool) :
    List ι → World → ℕ × World
  | [], w => (0, w)
  | i :: rest, w =>
    match decide i w with
    | (none, w') => detectEach decide dryRun rest w'
    | (some a, w') =>
      let (created, w'') := autoRuleCall cf fresh env dryRun a w'
      let (n, w''') := detectEach decide dryRun rest w''
      (created.toNat + n, w''')

/-- A candidate that is written whatever the state. -/
def always (a : AutoRuleWrite) (w : World) : Option AutoRuleWrite × World := (some a, w)

/-- A crossing reads the table for its stage. -/
def atStage (expiry : ℚ) (s : SubnetAggregate) (w : World) : Option AutoRuleWrite × World :=
  (some (s.write expiry w.db), w)

/-- `_scraper_candidate_matches_allow_rule`. An exception of the matcher counts as a match. -/
def scraperCandidateMatchesAllowRule (ip : String) (rules : List CachedAllowRule) :
    List String → Redis → Bool × Redis
  | [], redis => (false, redis)
  | ua :: rest, redis =>
    match checkAllowRules cf env ip ua rules redis with
    | (.ok none, redis') => scraperCandidateMatchesAllowRule ip rules rest redis'
    | (.ok (some _), redis') | (.error _, redis') => (true, redis')

/-- A candidate of `detect_scraper_404_ratio`, which an allow rule can exclude. -/
def unlessAllowed (dc : DetectorConf) (expiry : ℚ) (rules : List CachedAllowRule)
    (c : String × List String) (w : World) : Option AutoRuleWrite × World :=
  let (excluded, redis) := scraperCandidateMatchesAllowRule cf env c.1 rules
    (if c.2 = [] then [""] else c.2) w.redis
  (if excluded then none else some (scraper404Write dc expiry c.1), w.withRedis redis)

/-- `detect_scraper_404_ratio`: without a Redis client, and where the rule cache fails to load,
every candidate is excluded. -/
def detectScraper404Ratio (dc : DetectorConf) (dryRun : Bool) (expiry : ℚ)
    (candidates : List (String × List String)) (w : World) : ℕ × World :=
  if candidates = [] ∨ cf.hasRedis = false then (0, w)
  else
    match tryLoadRuleCache cf env w with
    | (.error _, w') => (0, w')
    | (.ok cache, w') =>
      detectEach cf fresh env (unlessAllowed cf env dc expiry cache.allowRules) dryRun candidates w'

end Loop

/-! ### All of them -/

/-- The candidates of a run: what its detectors compute from the traffic. -/
structure Candidates where
  expiry : ℚ
  uaRotation : List String
  subnetBurst : List String
  challengeFarms : List String
  unsolvedIps : List String
  unsolvedSubnets : List SubnetAggregate
  cloudSpray : List AutoRuleWrite
  scraper404 : List (String × List String)

/-- The candidates at an instant. The window of a run is that of each detector, when it is given;
`detect_challenge_farms` takes it in hours, rounded up. -/
def Candidates.ofTraffic (dc : DetectorConf) (t : Traffic) (window : Option ℤ) (now : ℚ) :
    Candidates :=
  let since (minutes : ℤ) : ℚ := now - minutes * 60
  let expiry := now + dc.autoRuleExpiryHours * 3600
  let windowHours := match window with
    | none => 24
    | some minutes => max 1 (-(-minutes / 60))
  let byIp := since (window.getD 60)
  let bySubnet := challengedByIp t (since dc.subnetWindowMinutes)
  let challenged := (challengedByIp t byIp ++ bySubnet).map ChallengedRow.ipAddress
  let solved := solvedIps t (since (dc.solveExemptionWindowHours * 60)) challenged
  { expiry
    uaRotation := uaRotationIps dc t (since (window.getD 5))
    subnetBurst := burstSubnets dc t (since (window.getD 15))
    challengeFarms := challengeFarmIps t (since (windowHours * 60))
    unsolvedIps := DjangoWaf.unsolvedIps dc t byIp solved
    unsolvedSubnets := crossings dc.toUnsolvedSubnetConf bySubnet solved
    cloudSpray := sprayWrites dc t (since (window.getD 30)) expiry
    scraper404 := scraperCandidates dc t (since (window.getD dc.scraper404WindowMinutes)) }

/-- The dictionary `run_all_detectors` returns. -/
structure Findings where
  uaRotationRules : ℕ
  subnetBurstRules : ℕ
  challengeFarmRules : ℕ
  unsolvedChallengeRules : ℕ
  cloudSprayRules : ℕ
  scraper404Rules : ℕ
  totalRulesCreated : ℕ
  deriving DecidableEq, Repr

/-- The dictionary of six counts. -/
def Findings.of (ua burst farm unsolved spray scraper : ℕ) : Findings where
  uaRotationRules := ua
  subnetBurstRules := burst
  challengeFarmRules := farm
  unsolvedChallengeRules := unsolved
  cloudSprayRules := spray
  scraper404Rules := scraper
  totalRulesCreated := ua + burst + farm + unsolved + spray + scraper

section Run

variable (cf : Conf) (dc : DetectorConf) (fresh : Db → Uuid) (env : Env)

/-- The detectors, one after another, on their candidates. -/
def runDetectors (c : Candidates) (dryRun : Bool) (w : World) : Findings × World :=
  let each := detectEach cf fresh env always dryRun
  let (ua, w) := each (c.uaRotation.map (uaRotationWrite c.expiry)) w
  let (burst, w) := each (c.subnetBurst.map fun s ↦ subnetBurstWrite s c.expiry) w
  let (farm, w) := each (c.challengeFarms.map (challengeFarmWrite c.expiry)) w
  let (unsolvedIp, w) := each (c.unsolvedIps.map (unsolvedIpWrite c.expiry)) w
  let (unsolvedSubnet, w) :=
    detectEach cf fresh env (atStage c.expiry) dryRun c.unsolvedSubnets w
  let (spray, w) := each c.cloudSpray w
  let (scraper, w) := detectScraper404Ratio cf fresh env dc dryRun c.expiry c.scraper404 w
  (.of ua burst farm (unsolvedIp + unsolvedSubnet) spray scraper, w)

/-- `run_all_detectors`. -/
def runAllDetectors (t : Traffic) (window : Option ℤ) (dryRun : Bool) (w : World) :
    Findings × World :=
  runDetectors cf dc fresh env (Candidates.ofTraffic dc t window env.now) dryRun w

end Run

/-- The matcher leaves the rule-cache keys alone. -/
theorem rules_scraperCandidateMatchesAllowRule (cf : Conf) (env : Env) (ip : String)
    (rules : List CachedAllowRule) (uas : List String) (redis : Redis) :
    (scraperCandidateMatchesAllowRule cf env ip rules uas redis).2.rules = redis.rules := by
  induction uas generalizing redis with
  | nil => rfl
  | cons ua uas ih =>
    have hkeys : (checkAllowRules cf env ip ua rules redis).2.rules = redis.rules := by
      obtain ⟨fcrdns, hframe⟩ := checkAllowRules_frame cf env ip ua rules redis
      rw [hframe]
    rw [scraperCandidateMatchesAllowRule]
    rcases hcheck : checkAllowRules cf env ip ua rules redis with ⟨e | (- | r), redis'⟩
    · rwa [hcheck] at hkeys
    · rw [hcheck] at hkeys
      exact (ih redis').trans hkeys
    · rwa [hcheck] at hkeys

/-! ### What is distinct among the candidates -/

/-- **The candidates of a detector are different addresses and subnets**, except where one subnet is
sprayed under several user agents. -/
structure Candidates.WellFormed (c : Candidates) : Prop where
  uaRotation : c.uaRotation.Nodup
  subnetBurst : c.subnetBurst.Nodup
  challengeFarms : c.challengeFarms.Nodup
  unsolvedIps : c.unsolvedIps.Nodup
  unsolvedSubnets : (c.unsolvedSubnets.map SubnetAggregate.subnet).Nodup
  cloudSpray : ∀ a ∈ c.cloudSpray, a.action = .challenge ∧ (a.ruleType = .ua ∨ a.ruleType = .cidr)
  cloudSpray_plain : ∀ a ∈ c.cloudSpray, a.matchType ≠ .regex
  scraper404 : (c.scraper404.map Prod.fst).Nodup

theorem nodup_ipGroups (rows : List RequestLog) : (ipGroups rows).Nodup := List.nodup_dedup _

/-- What `detect_cloud_spray` writes is compared, or read as a range. -/
theorem matchType_sprayWrites {dc : DetectorConf} {t : Traffic} {cutoff expiry : ℚ}
    {a : AutoRuleWrite} (ha : a ∈ sprayWrites dc t cutoff expiry) : a.matchType ≠ .regex := by
  obtain ⟨ua, -, ha⟩ := List.mem_flatMap.1 ha
  simp only at ha
  split at ha
  · cases ha
  · rcases List.mem_append.1 ha with ha | ha
    · split at ha
      · rw [List.mem_singleton.1 ha]
        exact MatchType.noConfusion
      · cases ha
    · obtain ⟨s, -, rfl⟩ := List.mem_map.1 ha
      exact MatchType.noConfusion

theorem wellFormed_ofTraffic (dc : DetectorConf) (t : Traffic) (window : Option ℤ) (now : ℚ) :
    (Candidates.ofTraffic dc t window now).WellFormed where
  uaRotation := (nodup_ipGroups _).filter _
  subnetBurst := (List.filter_sublist.map SubnetAggregate.subnet).nodup (nodup_aggregateSubnets _)
  challengeFarms := (List.filter_sublist.map IpReputation.ipAddress).nodup t.ipReputations_nodup
  unsolvedIps := by
    refine (((List.filter_sublist.trans List.filter_sublist).map _).nodup ?_)
    have hips : ∀ rows : List RequestLog, ((ipGroups rows).map fun ip ↦
        (⟨ip, ipCount rows ip⟩ : ChallengedRow)).map ChallengedRow.ipAddress = ipGroups rows := by
      intro rows
      rw [List.map_map]
      exact List.map_id _
    rw [challengedByIp, hips]
    exact nodup_ipGroups _
  unsolvedSubnets := nodup_crossings _ _ _
  cloudSpray := by
    intro a ha
    obtain ⟨ua, -, ha⟩ := List.mem_flatMap.1 ha
    dsimp only at ha
    split at ha
    · cases ha
    · rcases List.mem_append.1 ha with ha | ha
      · split at ha
        · rw [List.mem_singleton.1 ha]
          exact ⟨rfl, Or.inl rfl⟩
        · cases ha
      · obtain ⟨s, -, rfl⟩ := List.mem_map.1 ha
        exact ⟨rfl, Or.inr rfl⟩
  cloudSpray_plain := fun _ ↦ matchType_sprayWrites
  scraper404 := by
    show ((List.filter _ _).map _).map Prod.fst |>.Nodup
    rw [List.map_map]
    have hfst : ∀ (ips : List String) (f : String → List String),
        ips.map (Prod.fst ∘ fun ip ↦ (ip, f ip)) = ips := fun ips _ ↦ List.map_id ips
    rw [hfst]
    exact (nodup_ipGroups _).filter _

end DjangoWaf
