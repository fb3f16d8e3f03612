import DjangoWaf.DetectorProbe
import DjangoWaf.Invalidation

/-!
# What an exercise-writes probe does not roll back

With `dry_run=False` the probe lets the detectors write, and rolls the tables back. Two things are
not as in a dry run.

* **Counts**: `count_refresh_as_created` is looked at by dry runs only, so a detector reports the
  rules it inserts, and a rule that another detector has written in the same run is not inserted
  again. `detect_subnet_burst` runs before `detect_cloud_spray` and flags the subnet of the other's
  fixture when that reaches its floor, or three times the median (`exercised_spray_silent_iff`).
* **Copies of the rules**: the signal handlers bump the version for every row written, and the last
  detector loads the rule cache inside the transaction. What it loads are the rules of tables that
  are about to be rolled back. They are given up when that detector writes a rule itself, and only
  then (`enforced_exercised_probe_iff`).
-/

namespace DjangoWaf

section Exercised

variable {cf : Conf} {dc : DetectorConf} {fresh : Db → Uuid} {env : Env} {c : Candidates}
  {w : World}

/-! ### Before the last detector -/

/-- The world in which the last detector of a real run starts. -/
def worldBeforeLast (cf : Conf) (fresh : Db → Uuid) (env : Env) (c : Candidates) (w : World) :
    World :=
  let each := detectEach cf fresh env always false
  let w := (each (c.uaRotation.map (uaRotationWrite c.expiry)) w).2
  let w := (each (c.subnetBurst.map fun s ↦ subnetBurstWrite s c.expiry) w).2
  let w := (each (c.challengeFarms.map (challengeFarmWrite c.expiry)) w).2
  let w := (each (c.unsolvedIps.map (unsolvedIpWrite c.expiry)) w).2
  let w := (detectEach cf fresh env (atStage c.expiry) false c.unsolvedSubnets w).2
  (each c.cloudSpray w).2

theorem runDetectors_real_snd : (runDetectors cf dc fresh env c false w).2 =
    (detectScraper404Ratio cf fresh env dc false c.expiry c.scraper404
      (worldBeforeLast cf fresh env c w)).2 := rfl

/-- **A spray is counted** unless its subnet has been written before: what decides about one write
does not depend on the others. -/
theorem BeforeCrossings.held_spray {w' w'' : World} (hb : BeforeCrossings cf c w w')
    (hc : c.WellFormed) (hwrote : WroteKeys cf
      (c.keysBefore ++ c.unsolvedSubnets.map (SubnetAggregate.stageKey w'.db)) w w'')
    {a : AutoRuleWrite} (ha : a ∈ c.cloudSpray) (hheld : w.db.held a.key = false) :
    w''.db.held a.key = false ↔ (a.ruleType = .cidr →
      a.pattern ∉ c.subnetBurst ∧ a.pattern ∉ c.unsolvedSubnets.map SubnetAggregate.subnet) := by
  set c' : Candidates := { c with cloudSpray := [a] }
  have hc' : c'.WellFormed :=
    { hc with
      cloudSpray := fun b hb ↦ List.mem_singleton.1 hb ▸ hc.cloudSpray a ha
      cloudSpray_plain := fun b hb ↦ List.mem_singleton.1 hb ▸ hc.cloudSpray_plain a ha }
  have hb' : BeforeCrossings cf c' w w' := ⟨hb.wrote, hb.stage⟩
  have hone := hb'.spray_iff hc' hwrote
  simp only [c', List.countP_singleton, List.map_singleton, insertions, hheld, Bool.not_false,
    if_true, Nat.add_zero, List.filter_singleton, cond_true, List.nodup_singleton, true_and,
    List.mem_singleton, forall_eq, forall_const] at hone
  rw [← hone]
  rcases w''.db.held a.key with - | -
  · exact iff_of_true rfl rfl
  · exact iff_of_false (by decide) (by decide)

variable (cf dc env) in
/-- **What the detectors before the last have written**, and what the spray detector counted. -/
theorem exists_wroteKeys (hfresh : FreshIds fresh) (hc : c.WellFormed) (h : w.db.Constrained) :
    ∃ ks, WroteKeys cf ks w (worldBeforeLast cf fresh env c w) ∧ ks.length = c.writesBefore ∧
      (0 < (runDetectors cf dc fresh env c false w).1.cloudSprayRules ↔
        ∃ a ∈ c.cloudSpray, w.db.held a.key = false ∧ (a.ruleType = .cidr →
          a.pattern ∉ c.subnetBurst ∧
            a.pattern ∉ c.unsolvedSubnets.map SubnetAggregate.subnet)) := by
  set p₁ := detectEach cf fresh env always false (c.uaRotation.map (uaRotationWrite c.expiry)) w
  set p₂ := detectEach cf fresh env always false
    (c.subnetBurst.map fun s ↦ subnetBurstWrite s c.expiry) p₁.2
  set p₃ := detectEach cf fresh env always false
    (c.challengeFarms.map (challengeFarmWrite c.expiry)) p₂.2
  set p₄ := detectEach cf fresh env always false
    (c.unsolvedIps.map (unsolvedIpWrite c.expiry)) p₃.2
  set p₅ := detectEach cf fresh env (atStage c.expiry) false c.unsolvedSubnets p₄.2
  set p₆ := detectEach cf fresh env always false c.cloudSpray p₅.2
  obtain ⟨-, -, -, -, hb⟩ : p₁.1 = _ ∧ p₂.1 = _ ∧ p₃.1 = _ ∧ p₄.1 = _ ∧
    BeforeCrossings cf c w p₄.2 := beforeCrossings hfresh hc h
  obtain ⟨-, h₅⟩ : p₅.1 = _ ∧ WroteKeys cf _ p₄.2 p₅.2 :=
    detectEach_atStage hfresh c.expiry c.unsolvedSubnets hc.unsolvedSubnets hb.wrote.constrained
  obtain ⟨hspray, h₆⟩ : p₆.1 = _ ∧ WroteKeys cf _ p₅.2 p₆.2 :=
    detectEach_always hfresh hc.cloudSpray_plain h₅.constrained
  have h₅' := hb.wrote.append h₅
  refine ⟨_, h₅'.append h₆, ?_, ?_⟩
  · rw [List.length_append, List.length_append, List.length_map, List.length_map,
      Candidates.writesBefore]
  · show 0 < p₆.1 ↔ _
    rw [hspray, insertions_pos_iff]
    constructor
    · rintro ⟨k, hk, hnew⟩
      obtain ⟨a, ha, rfl⟩ := List.mem_map.1 hk
      have hheld : w.db.held a.key = false := by
        rw [h₅'.held, Bool.or_eq_false_iff] at hnew
        exact hnew.1
      exact ⟨a, ha, hheld, (hb.held_spray hc h₅' ha hheld).1 hnew⟩
    · rintro ⟨a, ha, hheld, hfirst⟩
      exact ⟨a.key, List.mem_map_of_mem ha, (hb.held_spray hc h₅' ha hheld).2 hfirst⟩

end Exercised

/-! ### The subnet of the spray -/

/-- The subnet the addresses of the spray fixture lie in. -/
def spraySubnet : String := "203.0.113.0/24"

section SpraySubnet

variable {dc : DetectorConf} {now : ℚ} {t t' : Traffic}

theorem inTestNet_of_spraySubnet {ip : String} (h : getSubnetPrefix ip = some spraySubnet) :
    InTestNet ip := ⟨cloudSpraySubnetBase, by decide, .inr h⟩

/-- The addresses of the first range have another subnet. -/
theorem getSubnetPrefix_ne_spraySubnet {host : ℕ} (hhost : host < 256) :
    getSubnetPrefix ("192.0.2." ++ toString host) ≠ some spraySubnet := by
  rw [(getSubnetPrefix_testNet hhost).1]
  decide

/-- The fixture fits into its subnet. -/
theorem getSubnetPrefix_spray (hsmall : dc.cloudSprayMinIps ≤ 235) {l : RequestLog}
    (hl : l ∈ buildCloudSprayFixture dc now) : getSubnetPrefix l.ipAddress = some spraySubnet := by
  obtain ⟨i, hi, rfl⟩ := List.mem_map.1 hl
  have hlt := List.mem_range.1 hi
  exact (getSubnetPrefix_testNet (by omega)).2.2

/-- The other fixtures have other subnets. -/
theorem countP_spraySubnet (hsmall : dc.cloudSprayMinIps ≤ 235) :
    ((fixtureLogs dc now).countP fun l ↦ getSubnetPrefix l.ipAddress = some spraySubnet) =
      (dc.cloudSprayMinIps + 1).toNat := by
  have hnone : ∀ {f : List RequestLog}, (∀ l ∈ f, getSubnetPrefix l.ipAddress ≠ some spraySubnet) →
      f.countP (fun l ↦ getSubnetPrefix l.ipAddress = some spraySubnet) = 0 := fun hf ↦
    List.countP_eq_zero.2 fun l hl ↦ mt of_decide_eq_true (hf l hl)
  have hrotation : ∀ l ∈ buildUaRotationFixture dc now,
      getSubnetPrefix l.ipAddress ≠ some spraySubnet := by
    have hip : getSubnetPrefix uaRotationIp ≠ some spraySubnet :=
      @getSubnetPrefix_ne_spraySubnet 10 (by decide)
    intro l hl
    obtain ⟨i, -, rfl⟩ := List.mem_map.1 hl
    exact hip
  have hburst : ∀ l ∈ buildSubnetBurstFixture dc now,
      getSubnetPrefix l.ipAddress ≠ some spraySubnet := by
    have hne : some "198.51.100.0/24" ≠ some spraySubnet := by decide
    intro l hl
    obtain ⟨i, -, rfl⟩ := List.mem_map.1 hl
    have hlt := Nat.mod_lt i (show 0 < 6 by decide)
    rw [← (getSubnetPrefix_testNet (show 10 + i % 6 < 256 by omega)).2.1] at hne
    exact hne
  have hunsolved : ∀ l ∈ buildUnsolvedChallengeFixture dc now,
      getSubnetPrefix l.ipAddress ≠ some spraySubnet := by
    have hip : getSubnetPrefix unsolvedChallengeIp ≠ some spraySubnet :=
      @getSubnetPrefix_ne_spraySubnet 50 (by decide)
    intro l hl
    obtain ⟨i, -, rfl⟩ := List.mem_map.1 hl
    exact hip
  have hscraper : ∀ l ∈ buildScraper404Fixture dc now,
      getSubnetPrefix l.ipAddress ≠ some spraySubnet := by
    have hip : getSubnetPrefix scraper404Ip ≠ some spraySubnet :=
      @getSubnetPrefix_ne_spraySubnet 90 (by decide)
    have hip' : getSubnetPrefix scraper404NginxIp ≠ some spraySubnet :=
      @getSubnetPrefix_ne_spraySubnet 91 (by decide)
    intro l hl
    rcases List.mem_append.1 hl with hl | hl <;> obtain ⟨i, -, rfl⟩ := List.mem_map.1 hl
    · exact hip
    · exact hip'
  have hspray : ∀ l ∈ buildCloudSprayFixture dc now,
      decide (getSubnetPrefix l.ipAddress = some spraySubnet) = true := fun l hl ↦
    decide_eq_true (getSubnetPrefix_spray hsmall hl)
  rw [fixtureLogs, List.countP_append, List.countP_append, List.countP_append, List.countP_append,
    hnone hrotation, hnone hburst, hnone hunsolved, hnone hscraper, List.countP_eq_length.2 hspray,
    buildCloudSprayFixture, List.length_map, List.length_range, Nat.zero_add,
    Nat.add_zero]

/-- **The requests of the subnet** in the tables of a probe are the fixture's. -/
theorem requestCount_spraySubnet (hp : Probed dc now t t') {cutoff : ℚ} (hcutoff : cutoff ≤ now)
    (hfree : t.TestNetFree) (hsmall : dc.cloudSprayMinIps ≤ 235) :
    requestCount t' cutoff spraySubnet = (dc.cloudSprayMinIps + 1).toNat := by
  have hown : ((t.logsSince cutoff).countP fun l ↦
      getSubnetPrefix l.ipAddress = some spraySubnet) = 0 :=
    List.countP_eq_zero.2 fun l hl h ↦ hfree.requestLogs l (List.mem_of_mem_filter hl)
      (inTestNet_of_spraySubnet (of_decide_eq_true h))
  rw [requestCount, hp.logsSince hcutoff, List.countP_append, hown, Nat.zero_add,
    countP_spraySubnet hsmall]

/-- A challenged fixture row is the unsolved challenges'. -/
theorem ipAddress_of_challenged {l : RequestLog} (hl : l ∈ fixtureLogs dc now)
    (hverdict : l.verdict = .challenged) : l.ipAddress = unsolvedChallengeIp := by
  rcases mem_fixtureLogs_iff.1 hl with h | h | h | h | h | h <;>
    obtain ⟨i, -, rfl⟩ := List.mem_map.1 h
  · cases hverdict
  · cases hverdict
  · rfl
  · cases hverdict
  · cases hverdict
  · cases hverdict

/-- No crossing has the subnet: nothing from it was challenged. -/
theorem spraySubnet_notMem_crossings (hp : Probed dc now t t') (hfree : t.TestNetFree)
    (uc : UnsolvedSubnetConf) (cutoff : ℚ) (solved : List String) :
    spraySubnet ∉ (crossings uc (challengedByIp t' cutoff) solved).map SubnetAggregate.subnet := by
  intro hmem
  obtain ⟨s, hs, hname⟩ := List.mem_map.1 hmem
  have hrows := ((aggregatesOf_aggregateSubnets (challengedByIp t' cutoff)).mem s.subnet).1
    (List.mem_map_of_mem (List.mem_of_mem_filter hs))
  obtain ⟨row, hrow⟩ := List.exists_mem_of_ne_nil _ hrows
  obtain ⟨hrow, hsubnet⟩ := List.mem_filter.1 hrow
  rw [decide_eq_true_eq, hname] at hsubnet
  obtain ⟨ip, hip, rfl⟩ := List.mem_map.1 hrow
  obtain ⟨l, hl, rfl⟩ := mem_ipGroups_iff.1 hip
  obtain ⟨hl, hchallenged⟩ := List.mem_filter.1 hl
  have hl' : l ∈ t.requestLogs ++ fixtureLogs dc now := hp.requestLogs ▸ List.mem_of_mem_filter hl
  rcases List.mem_append.1 hl' with hl' | hl'
  · exact hfree.requestLogs l hl' (inTestNet_of_spraySubnet hsubnet)
  · rw [Bool.and_eq_true, decide_eq_true_eq] at hchallenged
    have hne : getSubnetPrefix unsolvedChallengeIp ≠ some spraySubnet :=
      @getSubnetPrefix_ne_spraySubnet 50 (by decide)
    exact hne (ipAddress_of_challenged hl' hchallenged.1 ▸ hsubnet)

end SpraySubnet

/-! ### A spray that is written before -/

section Masked

variable {cf : Conf} {dc : DetectorConf} {fresh : Db → Uuid} {env : ProbeEnv} {t t' : Traffic}
  {w : World}

/-- An exercise-writes probe is a real run of the detectors, with the tables rolled back. -/
theorem runDetectorProbe_real (hbuild : buildFixtureTraffic env.stores dc env.builtAt t = some t') :
    runDetectorProbe cf dc fresh env t false w =
      (some ((runDetectors cf dc fresh env.toEnv (probeCandidates dc env t') false w).1.report
          false),
        { (runDetectors cf dc fresh env.toEnv (probeCandidates dc env t') false w).2 with
          db := w.db }) := by
  rw [runDetectorProbe, hbuild]
  dsimp only
  rw [countedAutoRuleCall_real, runDetectorsBy_autoRuleCall]
  rfl

/-- The start of the window of `detect_subnet_burst`. -/
def ProbeEnv.burstCutoff (env : ProbeEnv) : ℚ := env.now - (15 : ℤ) * 60

/-- **Is the spray fixture a burst?** It is from the floor of the bursts on, and above three times
the median of the window. -/
theorem spraySubnet_mem_subnetBurst_iff (hsane : dc.Sane) (hsmall : dc.cloudSprayMinIps ≤ 235)
    (hfree : t.TestNetFree) (hprompt : env.Prompt dc) (hp : Probed dc env.builtAt t t') :
    spraySubnet ∈ (probeCandidates dc env t').subnetBurst ↔
      dc.subnetBurstMinCount ≤ dc.cloudSprayMinIps + 1 ∨
        medianCount t' env.burstCutoff * 3 < dc.cloudSprayMinIps + 1 := by
  have hmin := hsane.sprayMinIps
  have hcast : ((dc.cloudSprayMinIps + 1).toNat : ℤ) = dc.cloudSprayMinIps + 1 :=
    Int.toNat_of_nonneg (by omega)
  have hcast' : ((dc.cloudSprayMinIps + 1).toNat : ℚ) = dc.cloudSprayMinIps + 1 := by
    exact_mod_cast congrArg (Int.cast (R := ℚ)) hcast
  have hwindow : env.burstCutoff ≤ env.builtAt := by
    have hfive := hprompt.fiveMinutes
    rw [ProbeEnv.burstCutoff]
    push_cast
    linarith
  refine (mem_burstSubnets_iff t' env.burstCutoff dc).trans ?_
  rw [requestCount_spraySubnet hp hwindow hfree hsmall, hcast, hcast']
  exact and_iff_right (by omega)

/-- **The writes of the spray detector are for the fixture's subnet**, when no other user agent
sprays. -/
theorem sprayWrites_fixture (hsmall : dc.cloudSprayMinIps ≤ 235)
    (hrule : dc.cloudSprayUaRule = false) (hp : Probed dc env.builtAt t t')
    (hprompt : env.Prompt dc)
    (hua : ∀ l ∈ t.requestLogs, l.userAgent ≠ sprayFixtureUa)
    (honly : ∀ ua ∈ sprayUas dc t' env.sprayCutoff, ua ≠ sprayFixtureUa →
      ¬Sprays dc t' env.sprayCutoff ua) {expiry : ℚ} {a : AutoRuleWrite}
    (ha : a ∈ sprayWrites dc t' env.sprayCutoff expiry) :
    a.ruleType = .cidr ∧ a.key = challengeKey spraySubnet := by
  obtain ⟨ua, hmem, hmin, ⟨hrule', -⟩ | ⟨s, hs, htwo, rfl⟩⟩ := mem_sprayWrites_iff.1 ha
  · rw [hrule] at hrule'
    cases hrule'
  · obtain rfl : ua = sprayFixtureUa := by
      by_contra hne
      exact honly ua hmem hne ⟨hmin, .inr ⟨s, hs, htwo⟩⟩
    have hpos : 0 < ((suspiciousIps dc t' env.sprayCutoff sprayFixtureUa).filter fun ip ↦
        getSubnetPrefix ip = some s.subnet).length := by
      rw [← total_of_mem_subnetCounts hs]
      omega
    obtain ⟨ip, hip⟩ := List.exists_mem_of_length_pos hpos
    obtain ⟨hip, hsubnet⟩ := List.mem_filter.1 hip
    obtain ⟨l, hl, rfl⟩ := mem_ipGroups_iff.1 (List.mem_of_mem_filter hip)
    obtain ⟨hl, hlua⟩ := List.mem_filter.1 hl
    have hfixture : l ∈ fixtureLogs dc env.builtAt := by
      have hlogs := List.mem_of_mem_filter hl
      rw [hp.logsSince (sprayCutoff_le hprompt), List.mem_append] at hlogs
      exact hlogs.resolve_left fun h ↦ hua l (List.mem_of_mem_filter h) (of_decide_eq_true hlua)
    have hspray : l ∈ buildCloudSprayFixture dc env.builtAt := by
      rw [← filter_sprayFixtureUa]
      exact List.mem_filter.2 ⟨hfixture, hlua⟩
    rw [getSubnetPrefix_spray hsmall hspray, decide_eq_true_eq, Option.some.injEq] at hsubnet
    exact ⟨rfl, congrArg challengeKey hsubnet.symm⟩

/-- **When an exercise-writes probe calls the spray detector silent**, on a site where nothing else
sprays: exactly when there is an auto `CHALLENGE` rule for the fixture's subnet already, or
`detect_subnet_burst`, which runs before, writes one: the fixture reaches the floor of the bursts,
or three times the median of the subnets of the window. A dry run finds the detector alive. -/
theorem exercised_spray_silent_iff (hsane : dc.Sane) (hsmall : dc.cloudSprayMinIps ≤ 235)
    (hrule : dc.cloudSprayUaRule = false) (hfree : t.TestNetFree) (hprompt : env.Prompt dc)
    (hbuild : buildFixtureTraffic env.stores dc env.builtAt t = some t')
    (hua : ∀ l ∈ t.requestLogs, l.userAgent ≠ sprayFixtureUa)
    (honly : ∀ ua ∈ sprayUas dc t' env.sprayCutoff, ua ≠ sprayFixtureUa →
      ¬Sprays dc t' env.sprayCutoff ua)
    (hfew : rivals dc t' env.sprayCutoff (dc.cloudSprayMinIps + 1) < dc.cloudSprayTopN)
    (hfresh : FreshIds fresh) (h : w.db.Constrained) :
    (∃ r, (runDetectorProbe cf dc fresh env t true w).1 = some r ∧
        "detect_cloud_spray" ∉ r.silentDetectors) ∧
      ∃ r, (runDetectorProbe cf dc fresh env t false w).1 = some r ∧
        ("detect_cloud_spray" ∈ r.silentDetectors ↔
          w.db.held (challengeKey spraySubnet) = true ∨
            dc.subnetBurstMinCount ≤ dc.cloudSprayMinIps + 1 ∨
              medianCount t' env.burstCutoff * 3 < dc.cloudSprayMinIps + 1) := by
  have hp := probed_of_buildFixtureTraffic hbuild
  have hcutoff := sprayCutoff_le hprompt
  have hsprays : ∃ ua ∈ sprayUas dc t' env.sprayCutoff, Sprays dc t' env.sprayCutoff ua :=
    ⟨sprayFixtureUa, fixture_mem_sprayUas hp hcutoff hsane.sprayMinIps hfew,
      sprays_fixture hp hcutoff hsane hfree⟩
  refine ⟨⟨_, runDetectorProbe_dry hbuild, ?_⟩,
    ⟨_, congrArg Prod.fst (runDetectorProbe_real hbuild), ?_⟩⟩
  · rw [spray_mem_silentDetectors_iff]
    exact fun hnone ↦ hsprays.elim fun ua hua ↦ hnone ua hua.1 hua.2
  · set c := probeCandidates dc env t' with hc
    obtain ⟨-, -, -, hcount⟩ := exists_wroteKeys cf dc env.toEnv hfresh
      (wellFormed_ofTraffic dc t' none env.now) h
    have hburst : spraySubnet ∈ c.subnetBurst ↔
        dc.subnetBurstMinCount ≤ dc.cloudSprayMinIps + 1 ∨
          medianCount t' env.burstCutoff * 3 < dc.cloudSprayMinIps + 1 :=
      spraySubnet_mem_subnetBurst_iff hsane hsmall hfree hprompt hp
    have hcrossing : spraySubnet ∉ c.unsolvedSubnets.map SubnetAggregate.subnet :=
      spraySubnet_notMem_crossings hp hfree _ _ _
    have hkey : ∀ a ∈ c.cloudSpray, a.ruleType = .cidr ∧ a.key = challengeKey spraySubnet :=
      fun a ha ↦ sprayWrites_fixture hsmall hrule hp hprompt hua honly ha
    have hwrite : ∃ a, a ∈ c.cloudSpray :=
      List.exists_mem_of_ne_nil _ (sprayWrites_ne_nil_iff.2 hsprays)
    have hmem : ("detect_cloud_spray",
        (runDetectors cf dc fresh env.toEnv c false w).1.cloudSprayRules) ∈
          (runDetectors cf dc fresh env.toEnv c false w).1.byDetector := .tail _ (.head _)
    rw [mem_silentDetectors_iff hmem, ← hburst, ← Nat.not_le]
    refine (not_congr hcount).trans ⟨fun hnone ↦ ?_, ?_⟩
    · by_contra hneither
      rw [not_or, Bool.not_eq_true] at hneither
      obtain ⟨a, ha⟩ := hwrite
      have hpattern : a.pattern = spraySubnet := congrArg AutoKey.pattern (hkey a ha).2
      refine hnone ⟨a, ha, (hkey a ha).2 ▸ hneither.1, fun _ ↦ ?_⟩
      rw [hpattern]
      exact ⟨hneither.2, hcrossing⟩
    · rintro hor ⟨a, ha, hheld, hfirst⟩
      have hpattern : a.pattern = spraySubnet := congrArg AutoKey.pattern (hkey a ha).2
      rw [(hkey a ha).2] at hheld
      rcases hor with hheld' | hin
      · rw [hheld'] at hheld
        cases hheld
      · exact (hfirst (hkey a ha).1).1 (hpattern ▸ hin)

/-- **On a quiet site** with those thresholds `detect_subnet_burst` writes the subnet of the spray,
and `detect_cloud_spray` is called silent. -/
theorem exercised_spray_silent_quiet :
    ∃ r, (runDetectorProbe plainConf smallFixtures nextId quietProbe noTraffic false
      (World.start ⟨[], []⟩)).1 = some r ∧ "detect_cloud_spray" ∈ r.silentDetectors := by
  obtain ⟨-, r, hr, hsilent⟩ := @exercised_spray_silent_iff plainConf smallFixtures nextId
    quietProbe noTraffic (quietTables smallFixtures) (World.start ⟨[], []⟩) sane_smallFixtures
    (by decide) rfl testNetFree_noTraffic prompt_smallFixtures
    (buildFixtureTraffic_quiet smallFixtures)
    (fun _ hl ↦ (List.not_mem_nil hl).elim)
    (fun ua hua hne ↦ absurd (List.mem_singleton.1 (sprayUas_quiet ▸ hua)) hne)
    (by rw [rivals_quiet]; decide)
    freshIds_nextId ⟨fun _ h ↦ (List.not_mem_nil h).elim, fun _ ↦ Nat.zero_le 1⟩
  exact ⟨r, hr, hsilent.2 (.inr (.inl (by decide)))⟩

end Masked

/-! ### Copies of what is rolled back -/

/-- The cache keys, the caches of the workers and the tables are all that coherence is about. -/
theorem World.Coherent.of_keys {w w' : World} {t : ℚ} (h : w.Coherent t)
    (hrules : w'.redis.rules = w.redis.rules) (hprocess : w'.process = w.process)
    (hdb : w'.db = w.db) : w'.Coherent t where
  json v c hc := by
    rw [hrules] at hc ⊢
    exact h.json v c hc
  process p c hc := by
    rw [hrules]
    rw [hprocess] at hc
    exact h.process p c hc
  json_exact c rules hc hr := by
    rw [hrules] at hc
    rw [hdb]
    exact h.json_exact c rules hc hr
  process_exact p c hc hv := by
    rw [hprocess] at hc
    rw [hrules] at hv
    rw [hdb]
    exact h.process_exact p c hc hv

/-- Some bumps, seen from the rest of the world. -/
theorem iterate_bump_eq (n : ℕ) (w : World) : World.bump^[n] w =
    { w with redis := { w.redis with rules := RuleKeys.bump^[n] w.redis.rules } } := by
  induction n generalizing w with
  | zero => rfl
  | succ n ih =>
    rw [Function.iterate_succ_apply, ih, Function.iterate_succ_apply]
    rfl

/-- What a worker has loaded it holds, under the current version. -/
theorem process_loadRuleCache (env : Env) (w : World) :
    (loadRuleCache env w).2.process env.worker = some (loadRuleCache env w).1 ∧
      (loadRuleCache env w).1.version = (loadRuleCache env w).2.redis.rules.current := by
  rcases loadRuleCache_cases env w with ⟨c, hc, hv, h⟩ | ⟨r, -, h⟩ | h
  · rw [h]
    exact ⟨hc, hv⟩
  · rw [h]
    exact ⟨Function.update_self _ _ _, rfl⟩
  · rw [h]
    exact ⟨Function.update_self _ _ _, rfl⟩

theorem db_loadRuleCache (env : Env) (w : World) : (loadRuleCache env w).2.db = w.db := by
  rcases loadRuleCache_cases env w with ⟨c, -, -, h⟩ | ⟨r, -, h⟩ | h <;> rw [h] <;> rfl

/-- And what it holds under the current version it goes on using. -/
theorem tryLoadRuleCache_of_process {cf : Conf} {env : Env} {w : World} {c : RuleCache}
    (hc : w.process env.worker = some c) (hv : c.version = w.redis.rules.current) :
    tryLoadRuleCache cf env w = (.ok c, w) := by
  have hfilter : (w.process env.worker).filter (fun c ↦ c.version = w.redis.rules.current) =
      some c := by
    rw [hc, Option.filter_some, if_pos (decide_eq_true hv)]
  simp only [tryLoadRuleCache, hfilter]

section Leaks

variable {cf : Conf} {dc : DetectorConf} {fresh : Db → Uuid} {env : Env} {w : World}

/-- A write, seen from the rule-cache keys. -/
theorem exists_bumps_getOrCreateAutoRule (hreaches : cf.handlerReaches = true) (env : Env)
    (a : AutoRuleWrite) (w : World) :
    ∃ n, (getOrCreateAutoRule cf env a w).2.process = w.process ∧
      (getOrCreateAutoRule cf env a w).2.redis.rules = RuleKeys.bump^[n + 1] w.redis.rules := by
  obtain ⟨x, hsignals, hx⟩ := getOrCreateAutoRule_eq_write cf env a w
  obtain ⟨n, hn⟩ := Nat.exists_eq_succ_of_ne_zero hsignals
  refine ⟨n, ?_⟩
  rw [hx, World.write, invalidateRuleCache_of_reaches hreaches, hn, iterate_bump_eq]
  exact ⟨rfl, rfl⟩

/-- **The last detector** bumps the version when it writes for a candidate that is kept, and leaves
the copies of the rules as they are. -/
theorem exists_bumps_detectEach (hreaches : cf.handlerReaches = true) (expiry : ℚ)
    (rules : List CachedAllowRule) (cs : List (String × List String)) (w w' : World)
    (h : (detectEach cf fresh env (unlessAllowed cf env dc expiry rules) false cs w).2 = w') :
    ∃ n, (n = 0 ↔ keptCandidates cf env rules cs w.redis = []) ∧ w'.process = w.process ∧
      w'.redis.rules = RuleKeys.bump^[n] w.redis.rules := by
  induction cs generalizing w with
  | nil => exact ⟨0, iff_of_true rfl rfl, h ▸ rfl, h ▸ rfl⟩
  | cons c cs ih =>
    have hkeys : (scraperCandidateMatchesAllowRule cf env c.1 rules
        (if c.2 = [] then [""] else c.2) w.redis).2.rules = w.redis.rules :=
      rules_scraperCandidateMatchesAllowRule _ _ _ _ _ _
    rcases hmatch : scraperCandidateMatchesAllowRule cf env c.1 rules
      (if c.2 = [] then [""] else c.2) w.redis with ⟨- | -, redis⟩
    · -- the candidate is written, and what comes after it only adds bumps
      rw [hmatch] at hkeys
      obtain ⟨m, hprocess, hredis⟩ := exists_bumps_getOrCreateAutoRule hreaches
        { env with freshId := fresh w.db } (scraper404Write dc expiry c.1) (w.withRedis redis)
      have hrun : (detectEach cf fresh env (unlessAllowed cf env dc expiry rules) false cs
          (getOrCreateAutoRule cf { env with freshId := fresh w.db }
            (scraper404Write dc expiry c.1) (w.withRedis redis)).2).2 = w' := by
        rw [← h]
        simp only [detectEach, unlessAllowed, hmatch, Bool.false_eq_true, if_false]
        rfl
      obtain ⟨n, -, hprocess', hredis'⟩ := ih _ hrun
      refine ⟨n + (m + 1), iff_of_false (Nat.succ_ne_zero (n + m)) ?_, hprocess'.trans hprocess, ?_⟩
      · simp only [keptCandidates, hmatch, Bool.false_eq_true, if_false]
        exact List.cons_ne_nil _ _
      · rw [hredis', hredis, Function.iterate_add_apply _ n (m + 1)]
        exact congrArg (RuleKeys.bump^[n] ∘ RuleKeys.bump^[m + 1]) hkeys
    · rw [hmatch] at hkeys
      have hrun : (detectEach cf fresh env (unlessAllowed cf env dc expiry rules) false cs
          (w.withRedis redis)).2 = w' := by
        rw [← h]
        simp only [detectEach, unlessAllowed, hmatch, if_true]
      obtain ⟨n, hkept, hprocess, hredis⟩ := ih _ hrun
      refine ⟨n, hkept.trans ?_, hprocess, hredis.trans ?_⟩
      · simp only [keptCandidates, hmatch, if_true]
        rfl
      · exact congrArg RuleKeys.bump^[n] hkeys

theorem json_iterate_bump (n : ℕ) (k : RuleKeys) : (RuleKeys.bump^[n] k).json = k.json := by
  induction n generalizing k with
  | zero => rfl
  | succ n ih => rw [Function.iterate_succ_apply, ih, RuleKeys.bump]

variable (env) in
/-- A load under a version that has just been reached is a rebuild. -/
theorem loadRuleCache_iterate_bump (h : w.Bounded) (n : ℕ) :
    (loadRuleCache env (World.bump^[n + 1] w)).1 =
      ⟨w.db.ruleSet env.now, (World.bump^[n + 1] w).redis.rules.current⟩ := by
  have hlt : w.redis.rules.current < (World.bump^[n + 1] w).redis.rules.current := by
    induction n generalizing w with
    | zero => exact Nat.lt_succ_self _
    | succ n ih =>
      rw [Function.iterate_succ_apply]
      exact (Nat.lt_succ_self _).trans (ih (h.bump 0).toBounded)
  have hworld := iterate_bump_eq (n + 1) w
  rcases loadRuleCache_cases env (World.bump^[n + 1] w) with ⟨c, hc, hv, -⟩ | ⟨r, hr, -⟩ | hload
  · rw [hworld] at hc
    exact absurd (h.process _ c hc) (by omega)
  · obtain ⟨c, hc, -⟩ := KeySpace.get_eq_some_iff.1 hr
    have hjson : (World.bump^[n + 1] w).redis.rules.json = w.redis.rules.json := by
      rw [hworld]
      exact json_iterate_bump (n + 1) w.redis.rules
    rw [hjson] at hc
    exact absurd (h.json _ c hc) (by omega)
  · rw [hload, hworld]

variable (env) in
/-- **After some writes** the copies are coherent for the tables they have made. The next load reads
those tables, and excludes the candidates that it would have excluded before the writes. -/
theorem WroteKeys.beforeLoad {w' : World} {ks : List AutoKey} (hwrote : WroteKeys cf ks w w')
    (hreaches : cf.handlerReaches = true) {m : ℕ} (hm : ks.length = m + 1) (h : w.Bounded) :
    w'.Coherent env.now ∧
      (loadRuleCache env w').1.blockRules = (w'.db.ruleSet env.now).blockRules ∧
      ∀ cs, keptCandidates cf env (loadRuleCache env w').1.allowRules cs
        (loadRuleCache env w').2.redis =
        keptCandidates cf env (w.db.ruleSet env.now).allowRules cs w.redis := by
  have hbounded : ({ w with db := w'.db } : World).Bounded := ⟨h.json, h.process⟩
  have hbumps : w' = World.bump^[m + 1] { w with db := w'.db } := by
    rw [← invalidateRuleCache_of_reaches hreaches, invalidateRuleCache_iterate_withDb, ← hm]
    exact hwrote.frame
  have hrules := loadRuleCache_iterate_bump env hbounded m
  rw [← hbumps] at hrules
  refine ⟨?_, by rw [hrules], fun cs ↦ ?_⟩
  · rw [hbumps]
    exact hbounded.iterate_bump env.now m
  · have hallow : (loadRuleCache env w').1.allowRules = (w.db.ruleSet env.now).allowRules := by
      rw [hrules]
      show (w'.db.activeAllowRules env.now).map _ = (w.db.activeAllowRules env.now).map _
      rw [Db.activeAllowRules, hwrote.allowRules]
      rfl
    have hredis : w'.redis = { w.redis with rules := RuleKeys.bump^[m + 1] w.redis.rules } := by
      rw [hbumps, iterate_bump_eq]
    obtain ⟨k, hk⟩ := redis_loadRuleCache env w'
    rw [hallow, hk, keptCandidates_withRules, hredis, keptCandidates_withRules]

/-! #### Loads after loads -/

/-- A load by a worker. -/
def LoadStep (cf : Conf) (w : World) (env : Env) (w' : World) : Prop :=
  (tryLoadRuleCache cf env w).2 = w'

/-- **From an instant on every load that returns hands out what the tables say**, also after other
loads, which may have raised. The clock is one that does not go back. -/
def World.LoadsExactly (cf : Conf) (w : World) (t : ℚ) : Prop :=
  ∀ (es : List Env) (w' : World) (env : Env), Run (LoadStep cf) w es w' →
    (t :: (es ++ [env]).map Env.now).Pairwise (· ≤ ·) →
      ∀ cache w'', tryLoadRuleCache cf env w' = (.ok cache, w'') →
        cache.toRuleSet.enforced env.now = w.db.enforced env.now

theorem db_tryLoadRuleCache (cf : Conf) (env : Env) (w : World) :
    (tryLoadRuleCache cf env w).2.db = w.db := (sameVerdicts_tryLoadRuleCache cf env w).db

/-- The last instant of a clock that does not go back is the latest. -/
theorem pairwise_concat_now {t : ℚ} {es : List Env} {e : Env}
    (h : (t :: (es ++ [e]).map Env.now).Pairwise (· ≤ ·)) :
    (t :: es.map Env.now).Pairwise (· ≤ ·) ∧ ∀ s ∈ t :: es.map Env.now, s ≤ e.now := by
  rw [List.map_append, List.map_singleton, ← List.cons_append, List.pairwise_append] at h
  exact ⟨h.1, fun s hs ↦ h.2.2 s hs e.now (List.mem_singleton.2 rfl)⟩

/-- **Coherent copies are loaded exactly**, however many loads there are. -/
theorem World.Coherent.loadsExactly {t : ℚ} (h : w.Coherent t) : w.LoadsExactly cf t := by
  intro es w' env hrun hclock cache w'' hload
  have hinv : (t :: es.map Env.now).Pairwise (· ≤ ·) →
      w'.db = w.db ∧ ∀ s, (∀ s' ∈ t :: es.map Env.now, s' ≤ s) → w'.Coherent s := by
    refine Run.invariant (P := fun es w' ↦ (t :: es.map Env.now).Pairwise (· ≤ ·) →
      w'.db = w.db ∧ ∀ s, (∀ s' ∈ t :: es.map Env.now, s' ≤ s) → w'.Coherent s) ?_ ?_ hrun
    · exact fun _ ↦ ⟨rfl, fun s hs ↦ h.mono (hs t List.mem_cons_self)⟩
    · rintro es w₁ w₂ e - ih rfl hclock
      obtain ⟨hbefore, hlast⟩ := pairwise_concat_now hclock
      obtain ⟨hdb, hcoherent⟩ := ih hbefore
      refine ⟨(db_tryLoadRuleCache cf e w₁).trans hdb, fun s hs ↦ ?_⟩
      have hstep : (tryLoadRuleCache cf e w₁).2.Coherent e.now := (hcoherent e.now hlast).tryLoad
      exact hstep.mono (hs e.now (List.mem_cons_of_mem t (by simp)))
  obtain ⟨hbefore, hlast⟩ := pairwise_concat_now hclock
  obtain ⟨hdb, hcoherent⟩ := hinv hbefore
  have hexact := (World.Coherent.load (hcoherent env.now hlast)).1
  rw [tryLoadRuleCache_eq] at hload
  split at hload
  · cases hload
  · cases hload
    rw [← hdb]
    exact hexact env.now le_rfl

/-- **The tables are rolled back after a load**, and the version has been bumped some times since.
The workers go on to load what the tables now say exactly when there has been a bump, or the tables
said the same where the load was. -/
theorem loadsExactly_rolledBack_iff {w w' : World} (h : w.Coherent env.now) {n : ℕ} (db : Db)
    (hprocess : w'.process = (loadRuleCache env w).2.process)
    (hkeys : w'.redis.rules = RuleKeys.bump^[n] (loadRuleCache env w).2.redis.rules) :
    ({ w' with db } : World).LoadsExactly cf env.now ↔ n ≠ 0 ∨ db.SameEnforced w.db env.now := by
  obtain ⟨hexact, hloaded⟩ := h.load
  have hright : ({ w' with db } : World).Coherent env.now →
      ({ w' with db } : World).LoadsExactly cf env.now := World.Coherent.loadsExactly
  rcases n with - | n
  · rw [or_iff_right (not_not.2 rfl)]
    constructor
    · -- the worker still has the cache of the transaction
      intro hall s hs
      obtain ⟨hheld, hversion⟩ := process_loadRuleCache env w
      have hload : tryLoadRuleCache cf { env with now := s } { w' with db } =
          (.ok (loadRuleCache env w).1, { w' with db }) :=
        tryLoadRuleCache_of_process (hprocess ▸ hheld) (hkeys ▸ hversion)
      have hs' := hall [] _ { env with now := s } .nil
        (List.pairwise_cons.2 ⟨List.forall_mem_singleton.2 hs, List.pairwise_singleton _ _⟩)
        _ _ hload
      exact (hexact s hs).symm.trans hs'
    · intro hsame
      have hback : ({ (loadRuleCache env w).2 with db } : World).Coherent env.now := by
        refine hloaded.withDb fun s hs ↦ ?_
        rw [db_loadRuleCache, hsame s hs]
      exact hright (hback.of_keys hkeys hprocess rfl)
  · refine iff_of_true (hright ?_) (.inl (Nat.succ_ne_zero n))
    have hback : ({ (loadRuleCache env w).2 with db } : World).Bounded :=
      ⟨hloaded.json, hloaded.process⟩
    have hbumped := hback.iterate_bump env.now n
    rw [iterate_bump_eq] at hbumped
    exact hbumped.of_keys hkeys hprocess rfl

end Leaks

/-! ### Rules that no table has -/

section Inserted

variable {cf : Conf} {fresh : Db → Uuid} {env : Env} {c : Candidates} {w : World}

/-- **A rule that is not there is inserted** by the first write of its key, and the other writes of
the detector leave it as it is. -/
theorem exists_filter_detectEach (hfresh : FreshIds fresh) {as : List AutoRuleWrite}
    (hplain : ∀ a ∈ as, a.matchType ≠ .regex) (hnodup : (as.map AutoRuleWrite.key).Nodup)
    {a : AutoRuleWrite} (ha : a ∈ as)
    (h : w.db.Constrained) (hheld : w.db.held a.key = false) :
    ∃ id, (detectEach cf fresh env always false as w).2.db.blockRules.filter a.key.holds =
      [a.create cf id env.now] := by
  induction as generalizing w with
  | nil => exact (List.not_mem_nil ha).elim
  | cons b bs ih =>
    rw [List.map_cons, List.nodup_cons] at hnodup
    have hwrote : WroteKeys cf [b.key] w
        (getOrCreateAutoRule cf { env with freshId := fresh w.db } b w).2 :=
      wroteKeys_write h (hplain b List.mem_cons_self) (hfresh w.db)
    have hplain' : ∀ a ∈ bs, a.matchType ≠ .regex := fun a ha ↦
      hplain a (List.mem_cons_of_mem b ha)
    set w' := (getOrCreateAutoRule cf { env with freshId := fresh w.db } b w).2 with hw'
    have hrun : (detectEach cf fresh env always false (b :: bs) w).2 =
        (detectEach cf fresh env always false bs w').2 := rfl
    rw [hrun]
    rcases List.mem_cons.1 ha with rfl | hmem
    · have hnone : ∀ r ∈ w.db.blockRules, a.finds r = false := fun r hr ↦ by
        rw [Db.held, List.any_eq_false] at hheld
        rw [a.finds_eq]
        exact Bool.eq_false_of_not_eq_true (hheld r hr)
      have hrules : w'.db.blockRules =
          w.db.blockRules ++ [a.create cf (fresh w.db) env.now] := by
        refine (h.blockRules_eq.resolve_left ?_).1
        rintro ⟨-, r, hr, hfinds⟩
        rw [hnone r hr] at hfinds
        cases hfinds
      have hnew : a.key.holds (a.create cf (fresh w.db) env.now) = true :=
        AutoKey.holds_iff.2 ⟨rfl, rfl⟩
      have hold : w.db.blockRules.filter a.key.holds = [] :=
        List.filter_eq_nil_iff.2 fun r hr ↦ by
          rw [← a.finds_eq, hnone r hr]
          exact Bool.false_ne_true
      refine ⟨fresh w.db, ?_⟩
      rw [(detectEach_always hfresh hplain' hwrote.constrained).2.others a.key hnodup.1, hrules,
        List.filter_append, hold, List.filter_cons_of_pos hnew]
      rfl
    · refine ih hplain' hnodup.2 hmem hwrote.constrained ?_
      have hne : a.key ≠ b.key := fun heq ↦ hnodup.1 (heq ▸ List.mem_map_of_mem hmem)
      rw [hwrote.held, hheld, Bool.false_or, decide_eq_false_iff_not, List.mem_singleton]
      exact hne

/-- **The rule of a rotation** in the tables the last detector sees: of the other detectors before
it none challenges an address. -/
theorem exists_filter_worldBeforeLast (hfresh : FreshIds fresh) (hc : c.WellFormed)
    (h : w.db.Constrained) {ip : String} (hip : ip ∈ c.uaRotation)
    (hheld : w.db.held (ipKey .challenge ip) = false) :
    ∃ id, (worldBeforeLast cf fresh env c w).db.blockRules.filter (ipKey .challenge ip).holds =
      [(uaRotationWrite c.expiry ip).create cf id env.now] := by
  set p₁ := detectEach cf fresh env always false (c.uaRotation.map (uaRotationWrite c.expiry)) w
  set p₂ := detectEach cf fresh env always false
    (c.subnetBurst.map fun s ↦ subnetBurstWrite s c.expiry) p₁.2
  set p₃ := detectEach cf fresh env always false
    (c.challengeFarms.map (challengeFarmWrite c.expiry)) p₂.2
  set p₄ := detectEach cf fresh env always false
    (c.unsolvedIps.map (unsolvedIpWrite c.expiry)) p₃.2
  set p₅ := detectEach cf fresh env (atStage c.expiry) false c.unsolvedSubnets p₄.2
  set p₆ := detectEach cf fresh env always false c.cloudSpray p₅.2
  obtain ⟨-, h₁⟩ : p₁.1 = _ ∧ WroteKeys cf (c.uaRotation.map (ipKey .challenge)) w p₁.2 :=
    detectEach_map hfresh (fun _ ↦ rfl) (fun _ ↦ MatchType.noConfusion) _ h
  obtain ⟨-, h₂⟩ : p₂.1 = _ ∧ WroteKeys cf (c.subnetBurst.map challengeKey) p₁.2 p₂.2 :=
    detectEach_map hfresh (fun _ ↦ rfl) (fun _ ↦ MatchType.noConfusion) _ h₁.constrained
  obtain ⟨-, h₃⟩ : p₃.1 = _ ∧ WroteKeys cf (c.challengeFarms.map (ipKey .block)) p₂.2 p₃.2 :=
    detectEach_map hfresh (fun _ ↦ rfl) (fun _ ↦ MatchType.noConfusion) _ h₂.constrained
  obtain ⟨-, h₄⟩ : p₄.1 = _ ∧ WroteKeys cf (c.unsolvedIps.map (ipKey .block)) p₃.2 p₄.2 :=
    detectEach_map hfresh (fun _ ↦ rfl) (fun _ ↦ MatchType.noConfusion) _ h₃.constrained
  obtain ⟨-, h₅⟩ : p₅.1 = _ ∧ WroteKeys cf _ p₄.2 p₅.2 :=
    detectEach_atStage hfresh c.expiry c.unsolvedSubnets hc.unsolvedSubnets h₄.constrained
  obtain ⟨-, h₆⟩ : p₆.1 = _ ∧ WroteKeys cf _ p₅.2 p₆.2 :=
    detectEach_always hfresh hc.cloudSpray_plain h₅.constrained
  have hrest := (((h₂.append h₃).append h₄).append h₅).append h₆
  have hother : ipKey .challenge ip ∉ c.subnetBurst.map challengeKey ++
      c.challengeFarms.map (ipKey .block) ++ c.unsolvedIps.map (ipKey .block) ++
        c.unsolvedSubnets.map (SubnetAggregate.stageKey p₄.2.db) ++
          c.cloudSpray.map AutoRuleWrite.key := by
    simp only [List.mem_append, mem_map_challengeKey, mem_map_ipKey, not_or]
    refine ⟨⟨⟨⟨nofun, nofun⟩, nofun⟩, ?_⟩, ?_⟩
    · intro hmem
      obtain ⟨s, -, hs⟩ := List.mem_map.1 hmem
      cases hs
    · intro hmem
      obtain ⟨a, ha, hkey⟩ := List.mem_map.1 hmem
      have htype : a.ruleType = .ip := congrArg AutoKey.ruleType hkey
      rcases (hc.cloudSpray a ha).2 with hua | hcidr
      · rw [hua] at htype
        cases htype
      · rw [hcidr] at htype
        cases htype
  have hnodup : ((c.uaRotation.map (uaRotationWrite c.expiry)).map AutoRuleWrite.key).Nodup := by
    rw [List.map_map]
    exact hc.uaRotation.map (ipKey_injective .challenge)
  obtain ⟨id, hid⟩ : ∃ id, p₁.2.db.blockRules.filter (ipKey .challenge ip).holds =
      [(uaRotationWrite c.expiry ip).create cf id env.now] :=
    exists_filter_detectEach hfresh (List.forall_mem_map.2 fun _ _ ↦ MatchType.noConfusion) hnodup
      (List.mem_map_of_mem hip) h hheld
  exact ⟨id, (hrest.others _ hother).trans hid⟩

/-- A rule for an address of which no rule of the tables is. -/
theorem not_sameEnforced_worldBeforeLast (hfresh : FreshIds fresh) (hc : c.WellFormed)
    (h : w.db.Constrained) {ip : String} (hip : ip ∈ c.uaRotation)
    (hnew : ∀ r ∈ w.db.blockRules, r.pattern ≠ ip)
    (hactive : isActiveOnCreate cf "detect_ua_rotation" = true) (hexpiry : env.now < c.expiry) :
    ¬w.db.SameEnforced (worldBeforeLast cf fresh env c w).db env.now := by
  have hheld : w.db.held (ipKey .challenge ip) = false := by
    rw [Db.held, List.any_eq_false]
    exact fun r hr hholds ↦ hnew r hr (congrArg AutoKey.pattern (AutoKey.holds_iff.1 hholds).2)
  obtain ⟨id, hid⟩ := @exists_filter_worldBeforeLast cf fresh env c w hfresh hc h ip hip hheld
  set r := (uaRotationWrite c.expiry ip).create cf id env.now with hr
  intro hsame
  have hmem : r ∈ (worldBeforeLast cf fresh env c w).db.activeBlockRules env.now := by
    refine mem_activeBlockRules.2 ⟨List.mem_of_mem_filter (hid ▸ List.mem_cons_self), hactive, ?_⟩
    exact decide_eq_false (not_le.2 hexpiry)
  have henforced : r.toCached ∈ (w.db.enforced env.now).blockRules := by
    rw [← hsame env.now le_rfl]
    exact ⟨r, hmem, rfl⟩
  obtain ⟨r', hr', hcached⟩ := henforced
  exact hnew r' (mem_activeBlockRules.1 hr').1 (congrArg (fun c ↦ c.pattern) hcached)

end Inserted

section LeaksIff

variable {cf : Conf} {dc : DetectorConf} {fresh : Db → Uuid} {env : ProbeEnv} {t t' : Traffic}
  {w : World}

/-- **What an exercise-writes probe leaves in the caches**, on a site with no rule for the address
of the rotation fixture, whose rotation rules are active and whose patterns compile. From the probe
on, the workers load what the tables say, whoever loads, whenever and after whichever loads, exactly
when the last detector has written a rule: when the allow rules of the tables leave it one of its
candidates. Otherwise the worker that ran the probe goes on enforcing rules that no table has. -/
theorem enforced_exercised_probe_iff (hsane : dc.Sane) (hfree : t.TestNetFree)
    (hprompt : env.Prompt dc)
    (hbuild : buildFixtureTraffic env.stores dc env.builtAt t = some t') (hfresh : FreshIds fresh)
    (h : w.db.Constrained) (hbounded : w.Bounded) (hreaches : cf.handlerReaches = true)
    (hredis : cf.hasRedis = true) (hnew : ∀ r ∈ w.db.blockRules, r.pattern ≠ uaRotationIp)
    (hcompiles : ∀ r ∈ w.db.blockRules, r.ruleType = .ua → r.matchType = .regex →
      cf.reRaises r.pattern = false)
    (hactive : isActiveOnCreate cf "detect_ua_rotation" = true)
    (hexpiry : 0 < dc.autoRuleExpiryHours) :
    (runDetectorProbe cf dc fresh env t false w).2.LoadsExactly cf env.now ↔
      keptCandidates cf env.toEnv (w.db.ruleSet env.now).allowRules
        (probeCandidates dc env t').scraper404 w.redis ≠ [] := by
  set c := probeCandidates dc env t' with hc
  have hfound : c.FixturesFound :=
    fixturesFound hsane hfree hprompt (probed_of_buildFixtureTraffic hbuild)
  obtain ⟨ks, hwrote, hlength, -⟩ := exists_wroteKeys cf dc env.toEnv hfresh
    (wellFormed_ofTraffic dc t' none env.now) h
  rw [← probeCandidates, ← hc] at hwrote hlength
  set w₁ := worldBeforeLast cf fresh env.toEnv c w with hw₁
  obtain ⟨m, hm⟩ : ∃ m, ks.length = m + 1 := by
    refine Nat.exists_eq_succ_of_ne_zero ?_
    have hua := List.length_pos_of_mem hfound.uaRotation
    rw [hlength, Candidates.writesBefore, Candidates.keysBefore, List.length_append,
      List.length_append, List.length_append, List.length_map]
    omega
  obtain ⟨hcoherent, hloads, hkept⟩ := hwrote.beforeLoad env.toEnv hreaches hm hbounded
  -- the detectors write no expression, so the load inside the transaction returns
  have hreturns : loadRaises cf env.toEnv w₁ = false := by
    rw [loadRaises, hloads, Bool.and_eq_false_iff]
    refine .inr (Bool.eq_false_of_not_eq_true fun hcompile ↦ ?_)
    obtain ⟨r, hr, -, hua, hregex, hraises⟩ := compileUaPatternsRaises_ruleSet_iff.1 hcompile
    rw [hcompiles r ((hwrote.regexes r hregex).1 hr).1 hua hregex] at hraises
    cases hraises
  -- what the last detector does
  have hnonempty : ¬(c.scraper404 = [] ∨ cf.hasRedis = false) := by
    have hpos := List.length_pos_of_mem (hfound.scraper404 _ (.inl rfl))
    rw [List.eq_nil_iff_length_eq_zero]
    exact not_or.2 ⟨by omega, ne_false_of_eq_true hredis⟩
  have hrun : (detectEach cf fresh env.toEnv (unlessAllowed cf env.toEnv dc c.expiry
      (loadRuleCache env.toEnv w₁).1.allowRules) false c.scraper404
        (loadRuleCache env.toEnv w₁).2).2 = (runDetectors cf dc fresh env.toEnv c false w).2 := by
    rw [runDetectors_real_snd, detectScraper404Ratio, if_neg hnonempty, tryLoadRuleCache_eq, ← hw₁,
      hreturns]
    rfl
  obtain ⟨n, hn, hprocess, hkeys⟩ := exists_bumps_detectEach hreaches _ _ _ _ _ hrun
  rw [hkept] at hn
  have hlt : env.now < c.expiry := by
    have hpos : (0 : ℚ) < dc.autoRuleExpiryHours := by exact_mod_cast hexpiry
    show env.now < env.now + dc.autoRuleExpiryHours * 3600
    linarith
  have hnot : ¬w.db.SameEnforced w₁.db env.now :=
    not_sameEnforced_worldBeforeLast hfresh (wellFormed_ofTraffic dc t' none env.now) h
      hfound.uaRotation hnew hactive hlt
  rw [congrArg Prod.snd (runDetectorProbe_real hbuild)]
  refine (loadsExactly_rolledBack_iff hcoherent w.db hprocess hkeys).trans ?_
  rw [or_iff_left hnot]
  exact not_congr hn

/-- An allow rule for the range of the scrapers. -/
def testNetAllowRule : AllowRule where
  ruleType := .cidr
  matchType := .cidr
  pattern := "192.0.2.0/24"
  id := 3
  name := "Documentation range"
  isActive := true
  source := .admin
  expiresAt := none
  verifyRdns := false
  rdnsPattern := ""

/-- **With that allow rule** the last detector writes nothing, and a worker goes on enforcing what
the probe has rolled back. -/
theorem enforced_exercised_probe_allowed :
    ¬(runDetectorProbe plainConf smallFixtures nextId quietProbe noTraffic false
      (World.start ⟨[], [testNetAllowRule]⟩)).2.LoadsExactly plainConf 1000 := by
  have hkept : keptCandidates plainConf quietProbe.toEnv
      ((⟨[], [testNetAllowRule]⟩ : Db).ruleSet 1000).allowRules
        (probeCandidates smallFixtures quietProbe (quietTables smallFixtures)).scraper404
          (World.start ⟨[], [testNetAllowRule]⟩).redis = [] := by decide +kernel
  have hiff := @enforced_exercised_probe_iff plainConf smallFixtures nextId quietProbe noTraffic
    (quietTables smallFixtures) (World.start ⟨[], [testNetAllowRule]⟩) sane_smallFixtures
    testNetFree_noTraffic prompt_smallFixtures (buildFixtureTraffic_quiet smallFixtures)
    freshIds_nextId ⟨fun _ h ↦ (List.not_mem_nil h).elim, fun _ ↦ Nat.zero_le 1⟩
    (coherent_start _ 0).toBounded (by decide) (by decide) (fun _ h ↦ (List.not_mem_nil h).elim)
    (fun _ h ↦ (List.not_mem_nil h).elim) (by decide) (by decide)
  exact fun hall ↦ hiff.1 hall hkept

end LeaksIff

end DjangoWaf
