import DjangoWaf.Services.Detectors

/-!
# The detector probe

`services/detector_probe.py` and the task that runs it. The probe inserts fixture traffic, runs all
detectors over the tables with the fixtures in them, and reports for each detector whether it has
found enough. All of it happens in one transaction that is rolled back. Redis is no part of that
transaction: what the signal handlers and the rule cache leave there stays.

The probe is the one caller that passes `count_refresh_as_created`. Only the dry run of
`_get_or_create_auto_rule` looks at it, so the loop of a detector takes what counts as created for a
parameter (`detectEachBy`), of which `detectEach` is one case.

The counts a test may give a fixture and the log messages are left out, and so are detectors that
raise.
-/

namespace DjangoWaf

/-! ### Fixtures -/

/-- `_UA_ROTATION_IP`. -/
def uaRotationIp : String := "192.0.2.10"

/-- `_UNSOLVED_CHALLENGE_IP`. -/
def unsolvedChallengeIp : String := "192.0.2.50"

/-- `_SUBNET_BURST_SUBNET_BASE`. -/
def subnetBurstSubnetBase : String := "198.51.100."

/-- `_CHALLENGE_FARM_IP`. -/
def challengeFarmIp : String := "203.0.113.10"

/-- `_CLOUD_SPRAY_SUBNET_BASE`. -/
def cloudSpraySubnetBase : String := "203.0.113."

/-- `_SCRAPER_404_IP`. -/
def scraper404Ip : String := "192.0.2.90"

/-- `_SCRAPER_404_NGINX_IP`. -/
def scraper404NginxIp : String := "192.0.2.91"

/-- `_PROBE_UA`. -/
def probeUa : String := "django-waf-detector-probe/1.0"

/-- The user agent all requests of the spray fixture share. -/
def sprayFixtureUa : String := probeUa ++ " (cloud-spray-fixture)"

section Fixtures

variable (dc : DetectorConf) (now : ℚ)

/-- A row, with the model's defaults for what no fixture sets. -/
def fixtureRow (ip ua path : String) (verdict : Verdict) : RequestLog where
  timestamp := now
  ipAddress := ip
  userAgent := ua
  path
  verdict
  responseCode := none
  referer := ""
  source := .middleware

/-- `_build_ua_rotation_fixture`. -/
def buildUaRotationFixture : List RequestLog :=
  (List.range (dc.thresholdDistinctUas + 1).toNat).map fun i ↦
    fixtureRow now uaRotationIp (probeUa ++ " (ua-rotation-fixture-" ++ toString i ++ ")") "/"
      .allowed

/-- `_build_subnet_burst_fixture`. -/
def buildSubnetBurstFixture : List RequestLog :=
  (List.range (dc.subnetBurstMinCount + 1).toNat).map fun i ↦
    fixtureRow now (subnetBurstSubnetBase ++ toString (10 + i % 6)) probeUa "/" .allowed

/-- `_build_challenge_farm_fixture`. -/
def buildChallengeFarmFixture : IpReputation where
  ipAddress := challengeFarmIp
  challengePasses := 0
  challengeFailures := 11
  lastSeenAt := some now

/-- `_build_unsolved_challenge_fixture`. -/
def buildUnsolvedChallengeFixture : List RequestLog :=
  (List.range (dc.unsolvedMinChallenged + 1).toNat).map fun i ↦
    fixtureRow now unsolvedChallengeIp probeUa ("/fixture-path-" ++ toString i ++ "/") .challenged

/-- `_build_cloud_spray_fixture`. -/
def buildCloudSprayFixture : List RequestLog :=
  (List.range (dc.cloudSprayMinIps + 1).toNat).map fun i ↦
    fixtureRow now (cloudSpraySubnetBase ++ toString (20 + i)) sprayFixtureUa "/" .allowed

/-- The rows of one address of `_build_scraper_404_fixture`. -/
def scraper404Rows (ip front : String) (source : RequestLogSource) : List RequestLog :=
  (List.range (dc.scraper404MinRequests + 1).toNat).map fun i ↦
    { fixtureRow now ip probeUa (front ++ toString i ++ "/") .allowed with
      responseCode := some 404
      source }

/-- `_build_scraper_404_fixture`. -/
def buildScraper404Fixture : List RequestLog :=
  scraper404Rows dc now scraper404Ip "/scraper-404-fixture-path-" .middleware ++
    scraper404Rows dc now scraper404NginxIp "/scraper-404-nginx-fixture-path-" .nginxLog

/-- The requests of all fixtures, in the order of their inserts. -/
def fixtureLogs : List RequestLog :=
  buildUaRotationFixture dc now ++ buildSubnetBurstFixture dc now ++
    buildUnsolvedChallengeFixture dc now ++ buildCloudSprayFixture dc now ++
      buildScraper404Fixture dc now

end Fixtures

/-- The addresses of the reputations, with one more. -/
theorem nodup_concat_reputation {t : Traffic} {r : IpReputation}
    (h : r.ipAddress ∉ t.ipReputations.map IpReputation.ipAddress) :
    ((t.ipReputations ++ [r]).map IpReputation.ipAddress).Nodup := by
  rw [List.map_append, List.map_singleton, ← List.concat_eq_append]
  exact t.ipReputations_nodup.concat h

/-- `_build_fixture_traffic`. The database refuses an address its column does not take, and a second
reputation of an address. -/
def buildFixtureTraffic (stores : String → Bool) (dc : DetectorConf) (now : ℚ) (t : Traffic) :
    Option Traffic :=
  if h : (buildChallengeFarmFixture now).ipAddress ∉
      t.ipReputations.map IpReputation.ipAddress then
    if (fixtureLogs dc now).all fun l ↦ stores l.ipAddress then
      some
        { requestLogs := t.requestLogs ++ fixtureLogs dc now
          ipReputations := t.ipReputations ++ [buildChallengeFarmFixture now]
          challengeTokens := t.challengeTokens
          ipReputations_nodup := nodup_concat_reputation h }
    else none
  else none

/-! ### The detectors, by what counts as created -/

section RunBy

variable (cf : Conf) (env : Env) (call : AutoRuleWrite → World → Bool × World)

/-- The loop of a detector. -/
def detectEachBy {ι : Type*} (decide : ι → World → Option AutoRuleWrite × World) :
    List ι → World → ℕ × World
  | [], w => (0, w)
  | i :: rest, w =>
    match decide i w with
    | (none, w') => detectEachBy decide rest w'
    | (some a, w') =>
      let (created, w'') := call a w'
      let (n, w''') := detectEachBy decide rest w''
      (created.toNat + n, w''')

/-- `detect_scraper_404_ratio`. -/
def detectScraper404RatioBy (dc : DetectorConf) (expiry : ℚ)
    (candidates : List (String × List String)) (w : World) : ℕ × World :=
  if candidates = [] ∨ cf.hasRedis = false then (0, w)
  else
    match tryLoadRuleCache cf env w with
    | (.error _, w') => (0, w')
    | (.ok cache, w') =>
      detectEachBy call (unlessAllowed cf env dc expiry cache.allowRules) candidates w'

/-- `run_all_detectors`, on the candidates of the detectors. -/
def runDetectorsBy (dc : DetectorConf) (c : Candidates) (w : World) : Findings × World :=
  let each := detectEachBy call always
  let (ua, w) := each (c.uaRotation.map (uaRotationWrite c.expiry)) w
  let (burst, w) := each (c.subnetBurst.map fun s ↦ subnetBurstWrite s c.expiry) w
  let (farm, w) := each (c.challengeFarms.map (challengeFarmWrite c.expiry)) w
  let (unsolvedIp, w) := each (c.unsolvedIps.map (unsolvedIpWrite c.expiry)) w
  let (unsolvedSubnet, w) := detectEachBy call (atStage c.expiry) c.unsolvedSubnets w
  let (spray, w) := each c.cloudSpray w
  let (scraper, w) := detectScraper404RatioBy cf env call dc c.expiry c.scraper404 w
  (.of ua burst farm (unsolvedIp + unsolvedSubnet) spray scraper, w)

/-- The `created` of `_get_or_create_auto_rule` with `count_refresh_as_created`, which only a dry
run looks at. -/
def countedAutoRuleCall (fresh : Db → Uuid) (countRefreshAsCreated dryRun : Bool)
    (a : AutoRuleWrite) (w : World) : Bool × World :=
  if dryRun then ((w.db.blockRules.find? a.finds).isNone || countRefreshAsCreated, w)
  else autoRuleCall cf fresh env false a w

variable {cf env} {fresh : Db → Uuid} {dryRun : Bool}

theorem detectEachBy_autoRuleCall {ι : Type*}
    (decide : ι → World → Option AutoRuleWrite × World) (is : List ι) (w : World) :
    detectEachBy (autoRuleCall cf fresh env dryRun) decide is w =
      detectEach cf fresh env decide dryRun is w := by
  induction is generalizing w with
  | nil => rfl
  | cons i is ih =>
    rw [detectEachBy, detectEach]
    rcases decide i w with ⟨- | a, w'⟩
    · exact ih w'
    · dsimp only
      rw [ih]

/-- **The detectors as they are run elsewhere** count what `_get_or_create_auto_rule` says. -/
theorem runDetectorsBy_autoRuleCall (dc : DetectorConf) (c : Candidates) (w : World) :
    runDetectorsBy cf env (autoRuleCall cf fresh env dryRun) dc c w =
      runDetectors cf dc fresh env c dryRun w := by
  have hlast : ∀ w, detectScraper404RatioBy cf env (autoRuleCall cf fresh env dryRun) dc c.expiry
      c.scraper404 w = detectScraper404Ratio cf fresh env dc dryRun c.expiry c.scraper404 w := by
    intro w
    rw [detectScraper404RatioBy, detectScraper404Ratio]
    rcases tryLoadRuleCache cf env w with ⟨e | cache, w'⟩
    · rfl
    · simp only [detectEachBy_autoRuleCall]
  simp only [runDetectorsBy, runDetectors, hlast, detectEachBy_autoRuleCall]

theorem countedAutoRuleCall_real (countRefreshAsCreated : Bool) :
    countedAutoRuleCall cf env fresh countRefreshAsCreated false =
      autoRuleCall cf fresh env false := rfl

/-- In a dry run of the probe every write counts. -/
theorem countedAutoRuleCall_dry (a : AutoRuleWrite) (w : World) :
    countedAutoRuleCall cf env fresh true true a w = (true, w) := by
  rw [countedAutoRuleCall, if_pos rfl, Bool.or_true]

end RunBy

/-! ### The probe -/

/-- `_MIN_RULES_REPORTED`, with the floor of the detectors it does not name. -/
def minRulesReported (detectorName : String) : ℕ :=
  if detectorName = "detect_scraper_404_ratio" then 2 else 1

/-- The result for each detector: `sorted(DETECTOR_NAMES)`, looked up through
`DETECTOR_NAME_TO_RESULT_KEY`. -/
def Findings.byDetector (f : Findings) : List (String × ℕ) :=
  [("detect_challenge_farms", f.challengeFarmRules), ("detect_cloud_spray", f.cloudSprayRules),
    ("detect_scraper_404_ratio", f.scraper404Rules), ("detect_subnet_burst", f.subnetBurstRules),
    ("detect_ua_rotation", f.uaRotationRules),
    (detectUnsolvedChallengesName, f.unsolvedChallengeRules)]

/-- What the report says of one detector. -/
structure DetectorLiveness where
  detectorName : String
  alive : Bool
  rulesReported : ℕ
  deriving DecidableEq, Repr

/-- The report of a probe. -/
structure DetectorProbeReport where
  detectors : List DetectorLiveness
  allAlive : Bool
  silentDetectors : List String
  dryRun : Bool
  deriving DecidableEq, Repr

/-- The report on some findings. -/
def Findings.report (f : Findings) (dryRun : Bool) : DetectorProbeReport :=
  let detectors := f.byDetector.map fun d ↦
    (⟨d.1, decide (minRulesReported d.1 ≤ d.2), d.2⟩ : DetectorLiveness)
  let silentDetectors := (detectors.filter fun d ↦ !d.alive).map DetectorLiveness.detectorName
  { detectors, allAlive := silentDetectors.isEmpty, silentDetectors, dryRun }

/-- What a probe finds around it. The fixtures are built before the detectors run. -/
structure ProbeEnv extends Env where
  builtAt : ℚ
  /-- The address column of the request log takes the text. -/
  stores : String → Bool

section Probe

variable (cf : Conf) (dc : DetectorConf) (fresh : Db → Uuid) (env : ProbeEnv)

/-- `run_detector_probe`, or the exception of a fixture the database refuses. The tables are rolled
back to what they were. -/
def runDetectorProbe (t : Traffic) (dryRun : Bool) (w : World) :
    Option DetectorProbeReport × World :=
  match buildFixtureTraffic env.stores dc env.builtAt t with
  | none => (none, w)
  | some t' =>
    let (findings, w') := runDetectorsBy cf env.toEnv
      (countedAutoRuleCall cf env.toEnv fresh true dryRun) dc
      (Candidates.ofTraffic dc t' none env.now) w
    (some (findings.report dryRun), { w' with db := w.db })

/-- What the task returns. -/
inductive ProbeTaskResult
  | report (r : DetectorProbeReport)
  /-- The probe raised: `all_alive` is false, and every detector is silent. -/
  | failed (silentDetectors : List String)
  deriving DecidableEq, Repr

/-- `probe_detectors`. -/
def probeDetectors (t : Traffic) (w : World) : ProbeTaskResult × World :=
  match runDetectorProbe cf dc fresh env t true w with
  | (some r, w') => (.report r, w')
  | (none, w') => (.failed ((Findings.of 0 0 0 0 0 0).byDetector.map Prod.fst), w')

end Probe

/-! ### Reports -/

theorem allAlive_report {f : Findings} {dryRun : Bool} :
    (f.report dryRun).allAlive = true ↔ (f.report dryRun).silentDetectors = [] :=
  List.isEmpty_iff

/-- **A detector is silent when it has reported less than its floor.** -/
theorem mem_silentDetectors_iff {f : Findings} {dryRun : Bool} {name : String} {n : ℕ}
    (h : (name, n) ∈ f.byDetector) :
    name ∈ (f.report dryRun).silentDetectors ↔ n < minRulesReported name := by
  have hnames : (f.byDetector.map Prod.fst).Nodup := by
    show ["detect_challenge_farms", "detect_cloud_spray", "detect_scraper_404_ratio",
      "detect_subnet_burst", "detect_ua_rotation", detectUnsolvedChallengesName].Nodup
    decide
  simp only [Findings.report, List.mem_map, List.mem_filter, Bool.not_eq_true']
  constructor
  · rintro ⟨d, ⟨⟨⟨name', n'⟩, hmem, rfl⟩, hlt⟩, rfl⟩
    obtain ⟨-, rfl⟩ := Prod.mk.inj (List.inj_on_of_nodup_map hnames hmem h rfl)
    exact not_le.1 (of_decide_eq_false hlt)
  · intro hlt
    exact ⟨_, ⟨⟨(name, n), h, rfl⟩, decide_eq_false (not_le.2 hlt)⟩, rfl⟩

/-- Who is silent is one of the detectors. -/
theorem exists_of_mem_silentDetectors {f : Findings} {dryRun : Bool} {name : String}
    (h : name ∈ (f.report dryRun).silentDetectors) : ∃ n, (name, n) ∈ f.byDetector := by
  simp only [Findings.report, List.mem_map, List.mem_filter] at h
  obtain ⟨d, ⟨⟨⟨name', n⟩, hmem, rfl⟩, -⟩, rfl⟩ := h
  exact ⟨n, hmem⟩

end DjangoWaf
