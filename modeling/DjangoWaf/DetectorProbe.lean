import DjangoWaf.DryRun
import DjangoWaf.Lib.OrderStatistics
import DjangoWaf.Services.DetectorProbe
import DjangoWaf.SubnetBurst

/-!
# Does the probe find a working detector alive?

A dry run of the probe inserts its fixtures next to the traffic of the site, and calls a detector
**silent** when it reports fewer rules than its floor. The fixtures come from the documentation
ranges; on a site none of whose traffic does, with thresholds a count can reach, each of four
detectors finds its own fixture, whatever else the tables hold. The other two depend on the site:

* `detect_cloud_spray` looks at the user agents that most addresses share, so busier ones can push
  the fixture's out (`fixture_mem_sprayUas`, `fixture_notMem_sprayUas`);
* `detect_scraper_404_ratio` leaves out what an allow rule matches, and must report two.

In a dry run of the probe every candidate counts, because `count_refresh_as_created` is set
(`runDetectorsBy_dry`). `dry_probe_verdict` puts these together.
-/

namespace DjangoWaf

/-! ### Fixture rows -/

theorem toString_nat_injective : Function.Injective (toString : ℕ → String) := by
  intro m n h
  have hdigits := congrArg String.toList h
  rw [Nat.toString_eq_ofList_toDigits, Nat.toString_eq_ofList_toDigits, String.toList_ofList,
    String.toList_ofList] at hdigits
  rw [← Nat.ofDigitChars_ten_toDigits (n := m), hdigits, Nat.ofDigitChars_ten_toDigits]

/-- Texts that differ inside a fixed front. -/
theorem append_ne_of_getElem? {a b s : String} {i : ℕ} (hi : i < a.toList.length)
    (h : a.toList[i]? ≠ b.toList[i]?) : a ++ s ≠ b := by
  rintro rfl
  rw [String.toList_append, List.getElem?_append_left hi] at h
  exact h rfl

/-- The text of three octets of an IPv4 address. -/
def octetsText (a b c : ℕ) : List Char :=
  Nat.toDigits 10 a ++ '.' :: (Nat.toDigits 10 b ++ '.' :: (Nat.toDigits 10 c ++ ['.']))

theorem ipv4Text_octets {a b c host : ℕ} (ha : a < 256) (hb : b < 256) (hc : c < 256)
    (hhost : host < 256) :
    IpAddress.ipv4Text (a * 16777216 + b * 65536 + c * 256 + host) =
      octetsText a b c ++ Nat.toDigits 10 host := by
  have h₁ : (a * 16777216 + b * 65536 + c * 256 + host) / 2 ^ 24 % 256 = a := by omega
  have h₂ : (a * 16777216 + b * 65536 + c * 256 + host) / 2 ^ 16 % 256 = b := by omega
  have h₃ : (a * 16777216 + b * 65536 + c * 256 + host) / 2 ^ 8 % 256 = c := by omega
  have h₄ : (a * 16777216 + b * 65536 + c * 256 + host) / 2 ^ 0 % 256 = host := by omega
  simp only [IpAddress.ipv4Text, octetsText, List.map_cons, List.map_nil, h₁, h₂, h₃, h₄,
    List.intercalate_cons_cons, List.intercalate_singleton, List.append_assoc, List.cons_append,
    List.nil_append]

/-- **The subnet of an address**, from the texts. -/
theorem getSubnetPrefix_host {base subnet : String} {a b c host : ℕ} (ha : a < 256) (hb : b < 256)
    (hc : c < 256) (hhost : host < 256) (hbase : base.toList = octetsText a b c)
    (hsubnet : subnet.toList = octetsText a b c ++ ['0', '/', '2', '4']) :
    getSubnetPrefix (base ++ toString host) = some subnet := by
  have hlt : a * 16777216 + b * 65536 + c * 256 + host < 2 ^ IpAddress.Version.v4.bits := by
    show _ < 2 ^ 32
    omega
  have htext : base ++ toString host = String.ofList (IpAddress.valueText .v4
      (a * 16777216 + b * 65536 + c * 256 + host)) := by
    rw [← String.toList_inj, String.toList_append, String.toList_ofList,
      Nat.toString_eq_ofList_toDigits, String.toList_ofList, hbase]
    exact (ipv4Text_octets ha hb hc hhost).symm
  have hip := IpAddress.ipAddress_valueText hlt
  rw [← htext] at hip
  have hmask : IpAddress.maskBits .v4 24 (a * 16777216 + b * 65536 + c * 256 + host) =
      a * 16777216 + b * 65536 + c * 256 + 0 := by
    show (a * 16777216 + b * 65536 + c * 256 + host) / 2 ^ 8 * 2 ^ 8 = _
    omega
  have hnetwork : subnetOf ⟨.v4, a * 16777216 + b * 65536 + c * 256 + host, hlt, none⟩ =
      ⟨.v4, a * 16777216 + b * 65536 + c * 256 + 0, 24, by decide⟩ :=
    (IpAddress.Network.mk.injEq ..).mpr ⟨rfl, hmask, rfl⟩
  rw [getSubnetPrefix_of_plain hip rfl, hnetwork, Option.some.injEq, ← String.toList_inj, hsubnet]
  show (String.ofList (IpAddress.ipv4Text (a * 16777216 + b * 65536 + c * 256 + 0) ++ [] ++ ['/'] ++
    Nat.toDigits 10 24)).toList = _
  rw [String.toList_ofList, ipv4Text_octets ha hb hc (by decide), List.append_nil,
    List.append_assoc, List.append_assoc]
  rfl

/-- The subnets of the three documentation ranges. -/
theorem getSubnetPrefix_testNet {host : ℕ} (hhost : host < 256) :
    getSubnetPrefix ("192.0.2." ++ toString host) = some "192.0.2.0/24" ∧
      getSubnetPrefix (subnetBurstSubnetBase ++ toString host) = some "198.51.100.0/24" ∧
      getSubnetPrefix (cloudSpraySubnetBase ++ toString host) = some "203.0.113.0/24" := by
  refine ⟨@getSubnetPrefix_host _ _ 192 0 2 host ?_ ?_ ?_ hhost ?_ ?_,
    @getSubnetPrefix_host _ _ 198 51 100 host ?_ ?_ ?_ hhost ?_ ?_,
    @getSubnetPrefix_host _ _ 203 0 113 host ?_ ?_ ?_ hhost ?_ ?_⟩ <;> decide

/-- The documentation ranges of the fixtures. -/
def testNets : List String := ["192.0.2.", subnetBurstSubnetBase, cloudSpraySubnetBase]

/-- The address is one of the documentation ranges, by its text or by its subnet. -/
def InTestNet (ip : String) : Prop :=
  ∃ net ∈ testNets, net.toList <+: ip.toList ∨ getSubnetPrefix ip = some (net ++ "0/24")

theorem inTestNet_append {net : String} (h : net ∈ testNets) (host : String) :
    InTestNet (net ++ host) :=
  ⟨net, h, .inl (by rw [String.toList_append]; exact List.prefix_append _ _)⟩

section Rows

variable {dc : DetectorConf} {now : ℚ} {l : RequestLog}

theorem mem_fixtureLogs_iff : l ∈ fixtureLogs dc now ↔
    l ∈ buildUaRotationFixture dc now ∨ l ∈ buildSubnetBurstFixture dc now ∨
      l ∈ buildUnsolvedChallengeFixture dc now ∨ l ∈ buildCloudSprayFixture dc now ∨
        l ∈ scraper404Rows dc now scraper404Ip "/scraper-404-fixture-path-" .middleware ∨
          l ∈ scraper404Rows dc now scraper404NginxIp "/scraper-404-nginx-fixture-path-"
            .nginxLog := by
  simp only [fixtureLogs, buildScraper404Fixture, List.mem_append, or_assoc]

/-- **What every fixture row has**: the time, no referer, an address of the documentation ranges. -/
structure IsFixtureRow (now : ℚ) (l : RequestLog) : Prop where
  timestamp : l.timestamp = now
  referer : l.referer = ""
  testNet : InTestNet l.ipAddress

theorem isFixtureRow (h : l ∈ fixtureLogs dc now) : IsFixtureRow now l := by
  have h192 : ∀ host, InTestNet ("192.0.2." ++ host) := fun host ↦
    inTestNet_append List.mem_cons_self host
  rcases mem_fixtureLogs_iff.1 h with h | h | h | h | h | h <;>
    obtain ⟨i, -, rfl⟩ := List.mem_map.1 h
  · exact ⟨rfl, rfl, h192 "10"⟩
  · exact ⟨rfl, rfl, inTestNet_append (by decide) _⟩
  · exact ⟨rfl, rfl, h192 "50"⟩
  · exact ⟨rfl, rfl, inTestNet_append (by decide) _⟩
  · exact ⟨rfl, rfl, h192 "90"⟩
  · exact ⟨rfl, rfl, h192 "91"⟩

/-- **The rows with the spray's user agent** are the spray's. -/
theorem filter_sprayFixtureUa : (fixtureLogs dc now).filter (fun l ↦ l.userAgent = sprayFixtureUa) =
    buildCloudSprayFixture dc now := by
  have hnone : ∀ {f : List RequestLog}, (∀ l ∈ f, l.userAgent ≠ sprayFixtureUa) →
      f.filter (fun l ↦ l.userAgent = sprayFixtureUa) = [] := fun hf ↦
    List.filter_eq_nil_iff.2 fun l hl ↦ mt of_decide_eq_true (hf l hl)
  have hprobe : probeUa ≠ sprayFixtureUa := by decide
  have hrotation : ∀ l ∈ buildUaRotationFixture dc now, l.userAgent ≠ sprayFixtureUa := by
    intro l hl
    obtain ⟨i, -, rfl⟩ := List.mem_map.1 hl
    show probeUa ++ " (ua-rotation-fixture-" ++ toString i ++ ")" ≠ sprayFixtureUa
    rw [String.append_assoc]
    exact append_ne_of_getElem? (i := 31) (by decide) (by decide)
  have hburst : ∀ l ∈ buildSubnetBurstFixture dc now, l.userAgent ≠ sprayFixtureUa := by
    intro l hl
    obtain ⟨i, -, rfl⟩ := List.mem_map.1 hl
    exact hprobe
  have hunsolved : ∀ l ∈ buildUnsolvedChallengeFixture dc now, l.userAgent ≠ sprayFixtureUa := by
    intro l hl
    obtain ⟨i, -, rfl⟩ := List.mem_map.1 hl
    exact hprobe
  have hscraper : ∀ l ∈ buildScraper404Fixture dc now, l.userAgent ≠ sprayFixtureUa := by
    intro l hl
    rcases List.mem_append.1 hl with hl | hl <;> obtain ⟨i, -, rfl⟩ := List.mem_map.1 hl <;>
      exact hprobe
  have hspray : ∀ l ∈ buildCloudSprayFixture dc now, decide (l.userAgent = sprayFixtureUa) := by
    intro l hl
    obtain ⟨i, -, rfl⟩ := List.mem_map.1 hl
    exact decide_eq_true rfl
  rw [fixtureLogs, List.filter_append, List.filter_append, List.filter_append, List.filter_append,
    hnone hrotation, hnone hburst, hnone hunsolved, hnone hscraper, List.filter_eq_self.2 hspray,
    List.append_nil, List.nil_append, List.nil_append, List.nil_append]

/-- The rows of a scraper's address are that scraper's. -/
structure IsScraperRow (l : RequestLog) : Prop where
  verdict : l.verdict = .allowed
  responseCode : l.responseCode = some 404
  userAgent : l.userAgent = probeUa

theorem isScraperRow (h : l ∈ fixtureLogs dc now)
    (hip : l.ipAddress = scraper404Ip ∨ l.ipAddress = scraper404NginxIp) : IsScraperRow l := by
  have hne : ∀ {ip : String}, ip ≠ scraper404Ip → ip ≠ scraper404NginxIp →
      ¬(ip = scraper404Ip ∨ ip = scraper404NginxIp) := fun h h' ↦ not_or.2 ⟨h, h'⟩
  rcases mem_fixtureLogs_iff.1 h with h | h | h | h | h | h <;>
    obtain ⟨i, -, rfl⟩ := List.mem_map.1 h
  · exact absurd hip (hne (show uaRotationIp ≠ scraper404Ip by decide)
      (show uaRotationIp ≠ scraper404NginxIp by decide))
  · exact absurd hip (hne (append_ne_of_getElem? (i := 2) (by decide) (by decide))
      (append_ne_of_getElem? (i := 2) (by decide) (by decide)))
  · exact absurd hip (hne (show unsolvedChallengeIp ≠ scraper404Ip by decide)
      (show unsolvedChallengeIp ≠ scraper404NginxIp by decide))
  · exact absurd hip (hne (append_ne_of_getElem? (i := 0) (by decide) (by decide))
      (append_ne_of_getElem? (i := 0) (by decide) (by decide)))
  · exact ⟨rfl, rfl, rfl⟩
  · exact ⟨rfl, rfl, rfl⟩

end Rows

/-! ### The tables with the fixtures in them -/

/-- The tables of a probe. -/
structure Probed (dc : DetectorConf) (now : ℚ) (t t' : Traffic) : Prop where
  requestLogs : t'.requestLogs = t.requestLogs ++ fixtureLogs dc now
  ipReputations : t'.ipReputations = t.ipReputations ++ [buildChallengeFarmFixture now]
  challengeTokens : t'.challengeTokens = t.challengeTokens

/-- None of the site's own traffic comes from the documentation ranges. -/
structure Traffic.TestNetFree (t : Traffic) : Prop where
  requestLogs : ∀ l ∈ t.requestLogs, ¬InTestNet l.ipAddress
  ipReputations : ∀ r ∈ t.ipReputations, ¬InTestNet r.ipAddress
  challengeTokens : ∀ k ∈ t.challengeTokens, ¬InTestNet k.ipAddress

section Tables

variable {dc : DetectorConf} {now : ℚ} {t t' : Traffic}

theorem probed_of_buildFixtureTraffic {stores : String → Bool}
    (h : buildFixtureTraffic stores dc now t = some t') : Probed dc now t t' := by
  rw [buildFixtureTraffic] at h
  split at h
  · split at h
    · obtain rfl := Option.some.inj h
      exact ⟨rfl, rfl, rfl⟩
    · cases h
  · cases h

/-- **The fixtures go in**, next to traffic from elsewhere, when the column takes their addresses.
-/
theorem exists_probed (hfree : t.TestNetFree) {stores : String → Bool}
    (hstores : ∀ l ∈ fixtureLogs dc now, stores l.ipAddress = true) :
    ∃ t', buildFixtureTraffic stores dc now t = some t' ∧ Probed dc now t t' := by
  have hnew : (buildChallengeFarmFixture now).ipAddress ∉
      t.ipReputations.map IpReputation.ipAddress := by
    intro hmem
    obtain ⟨r, hr, hip⟩ := List.mem_map.1 hmem
    have htest : InTestNet (cloudSpraySubnetBase ++ "10") := inTestNet_append (by decide) _
    exact hfree.ipReputations r hr (hip ▸ htest)
  rw [buildFixtureTraffic, dif_pos hnew, if_pos (List.all_eq_true.2 hstores)]
  exact ⟨_, rfl, ⟨rfl, rfl, rfl⟩⟩

namespace Probed

variable (hp : Probed dc now t t') {cutoff : ℚ} (hcutoff : cutoff ≤ now)

include hp hcutoff

/-- All fixtures are in a window that reaches back to them. -/
theorem logsSince : t'.logsSince cutoff = t.logsSince cutoff ++ fixtureLogs dc now := by
  rw [Traffic.logsSince, hp.requestLogs, List.filter_append]
  congr 1
  rw [List.filter_eq_self]
  intro l hl
  rw [(isFixtureRow hl).timestamp]
  exact decide_eq_true hcutoff

theorem mem_logsSince {l : RequestLog} (hl : l ∈ fixtureLogs dc now) :
    l ∈ t'.logsSince cutoff := by
  rw [hp.logsSince hcutoff]
  exact List.mem_append_right _ hl

/-- What comes from the documentation ranges is a fixture. -/
theorem mem_fixtureLogs (hfree : t.TestNetFree) {l : RequestLog} (hl : l ∈ t'.logsSince cutoff)
    (hip : InTestNet l.ipAddress) : l ∈ fixtureLogs dc now := by
  rw [hp.logsSince hcutoff, List.mem_append] at hl
  exact hl.resolve_left fun hl ↦ hfree.requestLogs l (List.mem_of_mem_filter hl) hip

/-- A condition holds of as many rows as fixture rows of one of the builders, and more. -/
theorem countP_le {f : List RequestLog} (hf : f.Sublist (fixtureLogs dc now))
    (p : RequestLog → Bool) : f.countP p ≤ (t'.logsSince cutoff).countP p := by
  rw [hp.logsSince hcutoff, List.countP_append]
  exact hf.countP_le.trans (Nat.le_add_left _ _)

/-- A fixture whose rows all count. -/
theorem length_le_countP {f : List RequestLog} (hf : f.Sublist (fixtureLogs dc now))
    {p : RequestLog → Bool} (hall : ∀ l ∈ f, p l = true) :
    f.length ≤ (t'.logsSince cutoff).countP p :=
  (List.countP_eq_length.2 hall).ge.trans (hp.countP_le hcutoff hf p)

end Probed

end Tables

/-! ### What the detectors find -/

/-- Thresholds that a count can reach and a ratio does not exceed. -/
structure DetectorConf.Sane (dc : DetectorConf) : Prop where
  distinctUas : 0 ≤ dc.thresholdDistinctUas
  burstMinCount : 0 ≤ dc.subnetBurstMinCount
  unsolvedMin : 0 ≤ dc.unsolvedMinChallenged
  refererRatio : dc.unsolvedRefererRatio ≤ 1
  sprayMinIps : 1 ≤ dc.cloudSprayMinIps
  sprayPerIp : 1 ≤ dc.cloudSprayMaxRequestsPerIp
  scraperMin : 0 ≤ dc.scraper404MinRequests
  scraperRatio : dc.scraper404Ratio ≤ 1

/-- An address is in a grouping when it is in a row. -/
theorem mem_ipGroups_iff {rows : List RequestLog} {ip : String} :
    ip ∈ ipGroups rows ↔ ∃ l ∈ rows, l.ipAddress = ip := by
  rw [ipGroups, List.mem_dedup, List.mem_map]

theorem ipCount_pos_iff {rows : List RequestLog} {ip : String} :
    0 < ipCount rows ip ↔ ∃ l ∈ rows, l.ipAddress = ip := by
  rw [ipCount, List.countP_pos_iff]
  simp only [decide_eq_true_eq]

/-- What all rows of an address have leaves its count as it is. -/
theorem ipCount_filter_of_forall {rows : List RequestLog} {p : RequestLog → Bool} {ip : String}
    (h : ∀ l ∈ rows, l.ipAddress = ip → p l = true) :
    ipCount (rows.filter p) ip = ipCount rows ip := by
  rw [ipCount, ipCount, List.countP_filter]
  refine List.countP_congr fun l hl ↦ ?_
  rw [Bool.and_eq_true, decide_eq_true_eq, and_iff_left_iff_imp]
  exact h l hl

/-- Rows of one user agent. -/
theorem dedup_userAgents_of_forall {rows : List RequestLog} {ua : String} (hne : rows ≠ [])
    (h : ∀ l ∈ rows, l.userAgent = ua) : (rows.map RequestLog.userAgent).dedup = [ua] := by
  have hreplicate : rows.map RequestLog.userAgent = List.replicate rows.length ua := by
    rw [List.eq_replicate_iff, List.length_map]
    refine ⟨rfl, fun ua' hua ↦ ?_⟩
    obtain ⟨l, hl, rfl⟩ := List.mem_map.1 hua
    exact h l hl
  rw [hreplicate]
  exact List.replicate_dedup (mt List.length_eq_zero_iff.1 hne)

section Find

variable {dc : DetectorConf} {now : ℚ} {t t' : Traffic} {cutoff : ℚ} (hsane : dc.Sane)
  (hfree : t.TestNetFree) (hp : Probed dc now t t') (hcutoff : cutoff ≤ now)

include hsane hp hcutoff

/-- **`detect_ua_rotation` finds its fixture**, which has one user agent more than the threshold. -/
theorem mem_uaRotationIps : uaRotationIp ∈ uaRotationIps dc t' cutoff := by
  set uas := (buildUaRotationFixture dc now).map RequestLog.userAgent with huas
  have hsub : ∀ l ∈ buildUaRotationFixture dc now, l ∈ t'.logsSince cutoff := fun l hl ↦
    hp.mem_logsSince hcutoff (mem_fixtureLogs_iff.2 (.inl hl))
  have hip : ∀ l ∈ buildUaRotationFixture dc now, l.ipAddress = uaRotationIp := by
    intro l hl
    obtain ⟨i, -, rfl⟩ := List.mem_map.1 hl
    rfl
  have hlength : uas.length = (dc.thresholdDistinctUas + 1).toNat := by
    rw [huas, List.length_map, buildUaRotationFixture, List.length_map, List.length_range]
  have hnodup : uas.Nodup := by
    rw [huas, buildUaRotationFixture, List.map_map]
    refine List.nodup_range.map fun i j hij ↦ toString_nat_injective ?_
    have hlist := congrArg String.toList hij
    simp only [Function.comp_apply, fixtureRow, String.toList_append] at hlist
    exact String.toList_inj.1 (List.append_cancel_left (List.append_cancel_right hlist))
  have hsubset : uas ⊆ ((((t'.logsSince cutoff).filter fun l ↦ l.ipAddress = uaRotationIp).map
      RequestLog.userAgent).dedup) := by
    intro ua hua
    obtain ⟨l, hl, rfl⟩ := List.mem_map.1 hua
    rw [List.mem_dedup]
    exact List.mem_map_of_mem (List.mem_filter.2 ⟨hsub l hl, decide_eq_true (hip l hl)⟩)
  have hle := (hnodup.subperm hsubset).length_le
  have hthreshold := hsane.distinctUas
  refine List.mem_filter.2 ⟨mem_ipGroups_iff.2 ?_, decide_eq_true (by omega)⟩
  obtain ⟨ua, hua⟩ := List.exists_mem_of_length_pos (show 0 < uas.length by omega)
  obtain ⟨l, hl, -⟩ := List.mem_map.1 hua
  exact ⟨l, hsub l hl, hip l hl⟩

/-- **`detect_subnet_burst` finds its fixture**, whatever the median of the subnets is. -/
theorem mem_burstSubnets_fixture : "198.51.100.0/24" ∈ burstSubnets dc t' cutoff := by
  have hsubnet : ∀ i < 6, getSubnetPrefix (subnetBurstSubnetBase ++ toString (10 + i)) =
      some "198.51.100.0/24" := fun i hi ↦ (getSubnetPrefix_testNet (by omega)).2.1
  have hall : ∀ l ∈ buildSubnetBurstFixture dc now,
      decide (getSubnetPrefix l.ipAddress = some "198.51.100.0/24") = true := by
    intro l hl
    obtain ⟨i, -, rfl⟩ := List.mem_map.1 hl
    exact decide_eq_true (hsubnet (i % 6) (Nat.mod_lt _ (by decide)))
  have hsublist : (buildSubnetBurstFixture dc now).Sublist (fixtureLogs dc now) :=
    (((List.sublist_append_right _ _).trans (List.sublist_append_left _ _)).trans
      (List.sublist_append_left _ _)).trans (List.sublist_append_left _ _)
  have hcount : (dc.subnetBurstMinCount + 1).toNat ≤ requestCount t' cutoff "198.51.100.0/24" := by
    have hle := hp.length_le_countP hcutoff hsublist hall
    rwa [buildSubnetBurstFixture, List.length_map, List.length_range] at hle
  have hmin := hsane.burstMinCount
  exact (mem_burstSubnets_iff t' cutoff dc).2 ⟨by omega, .inl (by omega)⟩

omit hsane in
/-- **`detect_challenge_farms` finds its fixture.** -/
theorem mem_challengeFarmIps : challengeFarmIp ∈ challengeFarmIps t' cutoff := by
  rw [challengeFarmIps, hp.ipReputations]
  refine List.mem_map.2 ⟨buildChallengeFarmFixture now, List.mem_filter.2
    ⟨List.mem_append_right _ List.mem_cons_self, ?_⟩, rfl⟩
  show (decide (cutoff ≤ now) && decide (10 < 11) && decide (0 < 2)) = true
  rw [decide_eq_true hcutoff]
  rfl

include hfree

/-- **The per-IP half of `detect_unsolved_challenges` finds its fixture**: no row of its address has
a referer, and none of its challenges was solved. -/
theorem mem_unsolvedIps (since : ℚ) (ips : List String) :
    unsolvedChallengeIp ∈ unsolvedIps dc t' cutoff (solvedIps t' since ips) := by
  set rows := (t'.logsSince cutoff).filter fun l ↦
    l.verdict = .challenged && l.source = .middleware with hrows
  set nonRoot := (t'.logsSince cutoff).filter fun l ↦ l.path ≠ "/" with hnonRoot
  have htest : InTestNet unsolvedChallengeIp := inTestNet_append List.mem_cons_self "50"
  have hsublist : (buildUnsolvedChallengeFixture dc now).Sublist (fixtureLogs dc now) :=
    ((List.sublist_append_right _ _).trans (List.sublist_append_left _ _)).trans
      (List.sublist_append_left _ _)
  have hmin := hsane.unsolvedMin
  -- the challenges of the address
  have hcount : (dc.unsolvedMinChallenged + 1).toNat ≤ ipCount rows unsolvedChallengeIp := by
    rw [ipCount, hrows, List.countP_filter]
    have hall : ∀ l ∈ buildUnsolvedChallengeFixture dc now,
        (decide (l.ipAddress = unsolvedChallengeIp) &&
          (decide (l.verdict = .challenged) && decide (l.source = .middleware))) = true := by
      intro l hl
      obtain ⟨i, -, rfl⟩ := List.mem_map.1 hl
      rfl
    have hle := hp.length_le_countP hcutoff hsublist hall
    rwa [buildUnsolvedChallengeFixture, List.length_map, List.length_range] at hle
  have hcandidate : ⟨unsolvedChallengeIp, ipCount rows unsolvedChallengeIp⟩ ∈
      (challengedByIp t' cutoff).filter fun row ↦
        dc.unsolvedMinChallenged ≤ row.challengedCount := by
    refine List.mem_filter.2 ⟨List.mem_map.2 ⟨unsolvedChallengeIp, ?_, rfl⟩,
      decide_eq_true (show dc.unsolvedMinChallenged ≤
        ((ipCount rows unsolvedChallengeIp : ℕ) : ℤ) by omega)⟩
    exact mem_ipGroups_iff.2
      (ipCount_pos_iff.1 (show 0 < ipCount rows unsolvedChallengeIp by omega))
  -- and its referers
  have hnonRootPos : 0 < ipCount nonRoot unsolvedChallengeIp := by
    refine ipCount_pos_iff.2 ⟨fixtureRow now unsolvedChallengeIp probeUa
      ("/fixture-path-" ++ toString 0 ++ "/") .challenged, ?_, rfl⟩
    refine List.mem_filter.2 ⟨hp.mem_logsSince hcutoff (hsublist.subset ?_), rfl⟩
    exact List.mem_map.2 ⟨0, List.mem_range.2 (by omega), rfl⟩
  have hempty : ipCount (nonRoot.filter fun l ↦ l.referer = "") unsolvedChallengeIp =
      ipCount nonRoot unsolvedChallengeIp := by
    refine ipCount_filter_of_forall fun l hl hip ↦ decide_eq_true ?_
    exact (isFixtureRow (hp.mem_fixtureLogs hcutoff hfree (List.mem_of_mem_filter hl)
      (hip ▸ htest))).referer
  have hunsolved : unsolvedChallengeIp ∉ solvedIps t' since ips := by
    rw [solvedIps, List.mem_dedup, hp.challengeTokens]
    intro hmem
    obtain ⟨k, hk, hip⟩ := List.mem_map.1 hmem
    exact hfree.challengeTokens k (List.mem_of_mem_filter hk) (hip ▸ htest)
  refine List.mem_map.2 ⟨_, List.mem_filter.2 ⟨hcandidate, ?_⟩, rfl⟩
  show (!(solvedIps t' since ips).contains unsolvedChallengeIp &&
    decide (ipCount nonRoot unsolvedChallengeIp ≠ 0) &&
    decide (dc.unsolvedRefererRatio ≤ (ipCount (nonRoot.filter fun l ↦ l.referer = "")
      unsolvedChallengeIp : ℚ) / ipCount nonRoot unsolvedChallengeIp)) = true
  rw [hempty, div_self (Nat.cast_ne_zero.2 hnonRootPos.ne'), decide_eq_true hsane.refererRatio,
    decide_eq_true hnonRootPos.ne', Bool.and_true, Bool.and_true, Bool.not_eq_true',
    List.contains_eq_mem, decide_eq_false hunsolved]

/-- **`detect_scraper_404_ratio` finds both of its fixtures**, each under the one user agent it
has. -/
theorem fixture_mem_scraperCandidates {ip : String}
    (hip : ip = scraper404Ip ∨ ip = scraper404NginxIp) :
    (ip, [probeUa]) ∈ scraperCandidates dc t' cutoff := by
  have htest : InTestNet ip := by
    rcases hip with rfl | rfl
    · exact inTestNet_append List.mem_cons_self "90"
    · exact inTestNet_append List.mem_cons_self "91"
  have hrow : ∀ l ∈ t'.logsSince cutoff, l.ipAddress = ip → IsScraperRow l := fun l hl hl' ↦
    isScraperRow (hp.mem_fixtureLogs hcutoff hfree hl (hl' ▸ htest)) (hl' ▸ hip)
  obtain ⟨front, source, hsublist⟩ : ∃ front source,
      (scraper404Rows dc now ip front source).Sublist (fixtureLogs dc now) := by
    rcases hip with rfl | rfl
    · exact ⟨_, _, (List.sublist_append_left _ _).trans (List.sublist_append_right _ _)⟩
    · exact ⟨_, _, (List.sublist_append_right _ _).trans (List.sublist_append_right _ _)⟩
  have hmin := hsane.scraperMin
  have htotal : (dc.scraper404MinRequests + 1).toNat ≤ ipCount (reachedApp t' cutoff) ip := by
    rw [ipCount, reachedApp, List.countP_filter]
    have hall : ∀ l ∈ scraper404Rows dc now ip front source, (decide (l.ipAddress = ip) &&
        (decide (l.verdict = .allowed) || decide (l.verdict = .logged))) = true := by
      intro l hl
      obtain ⟨i, -, rfl⟩ := List.mem_map.1 hl
      exact Bool.and_eq_true_iff.2 ⟨decide_eq_true rfl, rfl⟩
    have hle := hp.length_le_countP hcutoff hsublist hall
    rwa [scraper404Rows, List.length_map, List.length_range] at hle
  have hcount : ipCount ((reachedApp t' cutoff).filter fun l ↦ l.responseCode = some 404) ip =
      ipCount (reachedApp t' cutoff) ip :=
    ipCount_filter_of_forall fun l hl hl' ↦
      decide_eq_true (hrow l (List.mem_of_mem_filter hl) hl').responseCode
  have hpos : 0 < ipCount (reachedApp t' cutoff) ip := by omega
  have huas : (((t'.logsSince cutoff).filter fun l ↦ l.ipAddress = ip).map
      RequestLog.userAgent).dedup = [probeUa] := by
    obtain ⟨l, hl, hl'⟩ := ipCount_pos_iff.1 hpos
    have hmem : l ∈ (t'.logsSince cutoff).filter fun l ↦ l.ipAddress = ip :=
      List.mem_filter.2 ⟨List.mem_of_mem_filter hl, decide_eq_true hl'⟩
    refine dedup_userAgents_of_forall (List.ne_nil_of_mem hmem) fun l hl ↦ ?_
    obtain ⟨hl, hl'⟩ := List.mem_filter.1 hl
    exact (hrow l hl (of_decide_eq_true hl')).userAgent
  refine List.mem_map.2 ⟨ip, List.mem_filter.2 ⟨mem_ipGroups_iff.2 (ipCount_pos_iff.1 hpos), ?_⟩, by
    rw [huas]⟩
  show (decide (dc.scraper404MinRequests ≤ ((ipCount (reachedApp t' cutoff) ip : ℕ) : ℤ)) &&
    decide (dc.scraper404Ratio ≤ (ipCount ((reachedApp t' cutoff).filter fun l ↦
      l.responseCode = some 404) ip : ℚ) / ipCount (reachedApp t' cutoff) ip)) = true
  rw [hcount, div_self (Nat.cast_ne_zero.2 hpos.ne'), decide_eq_true hsane.scraperRatio,
    Bool.and_true, decide_eq_true_eq]
  omega

end Find

/-! ### Counting addresses by subnet -/

/-- What `subnet_counts` holds for a subnet: how many of the addresses lie in it. -/
theorem total_of_mem_subnetCounts {ips : List String} {s : SubnetAggregate}
    (hs : s ∈ subnetCounts ips) :
    s.total = (ips.filter fun ip ↦ getSubnetPrefix ip = some s.subnet).length := by
  rw [(aggregatesOf_aggregateSubnets _).total s hs, rowsIn_ones, List.map_map]
  show (List.map (fun _ ↦ 1) _).sum = _
  rw [List.map_const', List.sum_replicate_nat, Nat.mul_one]

theorem exists_mem_subnetCounts {ips : List String} {ip subnet : String} (hip : ip ∈ ips)
    (hsubnet : getSubnetPrefix ip = some subnet) : ∃ s ∈ subnetCounts ips, s.subnet = subnet := by
  refine List.mem_map.1 (((aggregatesOf_aggregateSubnets _).mem subnet).2 ?_)
  rw [rowsIn_ones, Ne, List.map_eq_nil_iff]
  exact List.ne_nil_of_mem (List.mem_filter.2 ⟨hip, decide_eq_true hsubnet⟩)

/-! ### The spray among other user agents -/

/-- A user agent the detector writes rules for, once it is among the first. -/
def Sprays (dc : DetectorConf) (t : Traffic) (cutoff : ℚ) (ua : String) : Prop :=
  dc.cloudSprayMinIps ≤ (suspiciousIps dc t cutoff ua).length ∧
    (dc.cloudSprayUaRule = true ∨
      ∃ s ∈ subnetCounts (suspiciousIps dc t cutoff ua), 2 ≤ s.total)

/-- **What `detect_cloud_spray` writes.** -/
theorem mem_sprayWrites_iff {dc : DetectorConf} {t : Traffic} {cutoff expiry : ℚ}
    {a : AutoRuleWrite} : a ∈ sprayWrites dc t cutoff expiry ↔ ∃ ua ∈ sprayUas dc t cutoff,
      dc.cloudSprayMinIps ≤ (suspiciousIps dc t cutoff ua).length ∧
        (dc.cloudSprayUaRule = true ∧
            a = cloudSprayUaWrite ua (suspiciousIps dc t cutoff ua).length expiry ∨
          ∃ s ∈ subnetCounts (suspiciousIps dc t cutoff ua), 2 ≤ s.total ∧
            a = cloudSprayWrite s.subnet ua s.total expiry) := by
  rw [sprayWrites, List.mem_flatMap]
  refine exists_congr fun ua ↦ and_congr_right fun _ ↦ ?_
  dsimp only
  rw [← not_lt]
  by_cases hlt : ((suspiciousIps dc t cutoff ua).length : ℤ) < dc.cloudSprayMinIps
  · rw [if_pos hlt]
    exact iff_of_false List.not_mem_nil fun h ↦ h.1 hlt
  · rw [if_neg hlt, and_iff_right hlt, List.mem_append, List.mem_map]
    refine or_congr ?_ (exists_congr fun s ↦ ?_)
    · rcases dc.cloudSprayUaRule with - | -
      · exact iff_of_false List.not_mem_nil fun h ↦ Bool.false_ne_true h.1
      · rw [if_pos rfl, List.mem_singleton, and_iff_right rfl]
    · rw [List.mem_filter, decide_eq_true_eq, and_assoc, eq_comm]

/-- **What is written is a matter of the first user agents.** -/
theorem sprayWrites_ne_nil_iff {dc : DetectorConf} {t : Traffic} {cutoff expiry : ℚ} :
    sprayWrites dc t cutoff expiry ≠ [] ↔ ∃ ua ∈ sprayUas dc t cutoff, Sprays dc t cutoff ua := by
  constructor
  · intro hne
    obtain ⟨a, ha⟩ := List.exists_mem_of_ne_nil _ hne
    obtain ⟨ua, hua, hmin, ⟨hrule, -⟩ | ⟨s, hs, htwo, -⟩⟩ := mem_sprayWrites_iff.1 ha
    · exact ⟨ua, hua, hmin, .inl hrule⟩
    · exact ⟨ua, hua, hmin, .inr ⟨s, hs, htwo⟩⟩
  · rintro ⟨ua, hua, hmin, hrule | ⟨s, hs, htwo⟩⟩
    · exact List.ne_nil_of_mem (mem_sprayWrites_iff.2 ⟨ua, hua, hmin, .inl ⟨hrule, rfl⟩⟩)
    · exact List.ne_nil_of_mem (mem_sprayWrites_iff.2 ⟨ua, hua, hmin, .inr ⟨s, hs, htwo, rfl⟩⟩)

section Spray

variable {dc : DetectorConf} {now : ℚ} {t t' : Traffic} {cutoff : ℚ}

/-- The addresses of the fixture are different. -/
theorem nodup_sprayAddresses :
    ((buildCloudSprayFixture dc now).map RequestLog.ipAddress).Nodup := by
  rw [buildCloudSprayFixture, List.map_map]
  refine List.nodup_range.map fun i j hij ↦ ?_
  have hlist := congrArg String.toList hij
  simp only [Function.comp_apply, fixtureRow, String.toList_append] at hlist
  have hhost := toString_nat_injective (String.toList_inj.1 (List.append_cancel_left hlist))
  omega

theorem length_sprayAddresses : ((buildCloudSprayFixture dc now).map RequestLog.ipAddress).length =
    (dc.cloudSprayMinIps + 1).toNat := by
  rw [List.length_map, buildCloudSprayFixture, List.length_map, List.length_range]

theorem buildCloudSprayFixture_subset : buildCloudSprayFixture dc now ⊆ fixtureLogs dc now :=
  fun _ hl ↦ mem_fixtureLogs_iff.2 (.inr (.inr (.inr (.inl hl))))

/-- An address has one row at most under the spray's user agent. -/
theorem countP_fixtureLogs_le_one (ip : String) : ((fixtureLogs dc now).countP fun l ↦
    l.ipAddress = ip && l.userAgent = sprayFixtureUa) ≤ 1 := by
  have hcount : ((fixtureLogs dc now).countP fun l ↦
      l.ipAddress = ip && l.userAgent = sprayFixtureUa) =
        ((buildCloudSprayFixture dc now).map RequestLog.ipAddress).count ip := by
    rw [← List.countP_filter, filter_sprayFixtureUa, List.count, List.countP_map]
    rfl
  rw [hcount]
  exact List.nodup_iff_count_le_one.1 nodup_sprayAddresses ip

variable (hp : Probed dc now t t') (hcutoff : cutoff ≤ now)

include hp hcutoff

theorem mem_withoutReferer {l : RequestLog} (hl : l ∈ fixtureLogs dc now) :
    l ∈ withoutReferer t' cutoff := by
  refine List.mem_filter.2 ⟨hp.mem_logsSince hcutoff hl, ?_⟩
  rw [(isFixtureRow hl).referer]
  rfl

/-- **The fixture's user agent is shared** by one address more than the threshold. -/
theorem lt_distinctIps_fixture :
    dc.cloudSprayMinIps + 1 ≤
      distinctIps ((withoutReferer t' cutoff).filter fun l ↦ l.userAgent ≠ "") sprayFixtureUa := by
  have hsubset : (buildCloudSprayFixture dc now).map RequestLog.ipAddress ⊆
      ipGroups (((withoutReferer t' cutoff).filter fun l ↦ l.userAgent ≠ "").filter fun l ↦
        l.userAgent = sprayFixtureUa) := by
    intro ip hip
    obtain ⟨l, hl, rfl⟩ := List.mem_map.1 hip
    have hwithout := mem_withoutReferer hp hcutoff (buildCloudSprayFixture_subset hl)
    obtain ⟨i, -, rfl⟩ := List.mem_map.1 hl
    have hua : sprayFixtureUa ≠ "" := by decide
    exact mem_ipGroups_iff.2 ⟨_, List.mem_filter.2 ⟨List.mem_filter.2
      ⟨hwithout, decide_eq_true hua⟩, decide_eq_true rfl⟩, rfl⟩
  have hle := (nodup_sprayAddresses.subperm hsubset).length_le
  rw [length_sprayAddresses] at hle
  rw [distinctIps]
  omega

/-- Every address of the fixture is suspicious. -/
theorem sprayAddresses_subset (hfree : t.TestNetFree) (hmax : 1 ≤ dc.cloudSprayMaxRequestsPerIp) :
    (buildCloudSprayFixture dc now).map RequestLog.ipAddress ⊆
      suspiciousIps dc t' cutoff sprayFixtureUa := by
  intro ip hip
  obtain ⟨l, hl, rfl⟩ := List.mem_map.1 hip
  have hfixture := buildCloudSprayFixture_subset hl
  have hua : l.userAgent = sprayFixtureUa := by
    obtain ⟨i, -, rfl⟩ := List.mem_map.1 hl
    rfl
  refine List.mem_filter.2 ⟨mem_ipGroups_iff.2 ⟨l, List.mem_filter.2
    ⟨mem_withoutReferer hp hcutoff hfixture, decide_eq_true hua⟩, rfl⟩, decide_eq_true ?_⟩
  have hle : ipCount ((withoutReferer t' cutoff).filter fun l ↦ l.userAgent = sprayFixtureUa)
      l.ipAddress ≤ 1 := by
    rw [ipCount, List.countP_filter, withoutReferer]
    refine (List.filter_sublist.countP_le).trans ?_
    have hown : ((t.logsSince cutoff).countP fun l' ↦
        l'.ipAddress = l.ipAddress && l'.userAgent = sprayFixtureUa) = 0 := by
      refine List.countP_eq_zero.2 fun l' hl' h ↦ ?_
      rw [Bool.and_eq_true, decide_eq_true_eq] at h
      exact hfree.requestLogs l' (List.mem_of_mem_filter hl')
        (h.1 ▸ (isFixtureRow hfixture).testNet)
    rw [hp.logsSince hcutoff, List.countP_append, hown, Nat.zero_add]
    exact countP_fixtureLogs_le_one l.ipAddress
  omega

/-- **The fixture sprays**: its subnet has two of its addresses. -/
theorem sprays_fixture (hsane : dc.Sane) (hfree : t.TestNetFree) :
    Sprays dc t' cutoff sprayFixtureUa := by
  have hsubset := sprayAddresses_subset hp hcutoff hfree hsane.sprayPerIp
  have hle := (nodup_sprayAddresses.subperm hsubset).length_le
  rw [length_sprayAddresses] at hle
  have hmin := hsane.sprayMinIps
  refine ⟨by omega, .inr ?_⟩
  have hmem : ∀ i < 2, cloudSpraySubnetBase ++ toString (20 + i) ∈
      suspiciousIps dc t' cutoff sprayFixtureUa := by
    intro i hi
    refine hsubset (List.mem_map.2 ⟨_, List.mem_map.2 ⟨i, List.mem_range.2 (by omega), rfl⟩, rfl⟩)
  have hsubnet : ∀ i < 2, getSubnetPrefix (cloudSpraySubnetBase ++ toString (20 + i)) =
      some "203.0.113.0/24" := fun i hi ↦ (getSubnetPrefix_testNet (by omega)).2.2
  obtain ⟨s, hs, hname⟩ :=
    exists_mem_subnetCounts (hmem 0 Nat.zero_lt_two) (hsubnet 0 Nat.zero_lt_two)
  refine ⟨s, hs, ?_⟩
  have hpair : [cloudSpraySubnetBase ++ toString (20 + 0),
      cloudSpraySubnetBase ++ toString (20 + 1)] ⊆
      (suspiciousIps dc t' cutoff sprayFixtureUa).filter fun ip ↦
        getSubnetPrefix ip = some s.subnet := by
    rw [hname]
    intro ip hip
    rcases List.mem_cons.1 hip with rfl | hip
    · exact List.mem_filter.2 ⟨hmem 0 (by decide), decide_eq_true (hsubnet 0 (by decide))⟩
    · rw [List.mem_singleton.1 hip]
      exact List.mem_filter.2 ⟨hmem 1 (by decide), decide_eq_true (hsubnet 1 (by decide))⟩
  have hnodup : [cloudSpraySubnetBase ++ toString (20 + 0),
      cloudSpraySubnetBase ++ toString (20 + 1)].Nodup := by decide
  rw [total_of_mem_subnetCounts hs]
  exact (hnodup.subperm hpair).length_le

end Spray

/-- The user agents the detector ranks. -/
def rankedUas (dc : DetectorConf) (t : Traffic) (cutoff : ℚ) : List String :=
  let rows := (withoutReferer t cutoff).filter fun l ↦ l.userAgent ≠ ""
  (rows.map RequestLog.userAgent).dedup.filter fun ua ↦ dc.cloudSprayMinIps ≤ distinctIps rows ua

/-- How many addresses share a user agent. -/
def sharedBy (t : Traffic) (cutoff : ℚ) (ua : String) : ℕ :=
  distinctIps ((withoutReferer t cutoff).filter fun l ↦ l.userAgent ≠ "") ua

/-- How many user agents besides the fixture's are shared by at least so many addresses. -/
def rivals (dc : DetectorConf) (t : Traffic) (cutoff : ℚ) (k : ℤ) : ℕ :=
  (rankedUas dc t cutoff).countP fun ua ↦ ua ≠ sprayFixtureUa && k ≤ sharedBy t cutoff ua

section Rank

variable {dc : DetectorConf} {now : ℚ} {t t' : Traffic} {cutoff : ℚ}

theorem sprayUas_eq : sprayUas dc t cutoff =
    (OrderStatistics.largestFirst (sharedBy t cutoff) (rankedUas dc t cutoff)).take
      dc.cloudSprayTopN := rfl

theorem nodup_rankedUas : (rankedUas dc t cutoff).Nodup := (List.nodup_dedup _).filter _

variable (hp : Probed dc now t t') (hcutoff : cutoff ≤ now)

include hp hcutoff

theorem fixture_mem_rankedUas (hmin : 1 ≤ dc.cloudSprayMinIps) :
    sprayFixtureUa ∈ rankedUas dc t' cutoff := by
  have hshared := lt_distinctIps_fixture hp hcutoff
  refine List.mem_filter.2 ⟨List.mem_dedup.2 ?_, decide_eq_true (by omega)⟩
  have hrow : fixtureRow now (cloudSpraySubnetBase ++ toString (20 + 0)) sprayFixtureUa "/"
      .allowed ∈ buildCloudSprayFixture dc now :=
    List.mem_map.2 ⟨0, List.mem_range.2 (by omega), rfl⟩
  have hua : sprayFixtureUa ≠ "" := by decide
  exact List.mem_map.2 ⟨_, List.mem_filter.2
    ⟨mem_withoutReferer hp hcutoff (buildCloudSprayFixture_subset hrow), decide_eq_true hua⟩, rfl⟩

/-- **Few rivals**: the fixture is among the first. -/
theorem fixture_mem_sprayUas (hmin : 1 ≤ dc.cloudSprayMinIps)
    (hfew : rivals dc t' cutoff (dc.cloudSprayMinIps + 1) < dc.cloudSprayTopN) :
    sprayFixtureUa ∈ sprayUas dc t' cutoff := by
  rw [sprayUas_eq]
  refine OrderStatistics.mem_take_of_countP_lt nodup_rankedUas
    (fixture_mem_rankedUas hp hcutoff hmin) (lt_of_le_of_lt (List.countP_mono_left ?_) hfew)
  intro ua _ h
  have hshared := lt_distinctIps_fixture hp hcutoff
  rw [Bool.and_eq_true, decide_eq_true_eq, decide_eq_true_eq] at h ⊢
  refine ⟨h.1, hshared.trans ?_⟩
  exact_mod_cast h.2

omit hp hcutoff in
/-- **Many rivals**: it is not. -/
theorem fixture_notMem_sprayUas
    (hmany : dc.cloudSprayTopN ≤ rivals dc t' cutoff (sharedBy t' cutoff sprayFixtureUa + 1)) :
    sprayFixtureUa ∉ sprayUas dc t' cutoff := by
  rw [sprayUas_eq]
  refine OrderStatistics.notMem_take_of_le_countP nodup_rankedUas
    (hmany.trans (List.countP_mono_left ?_))
  intro ua _ h
  rw [Bool.and_eq_true, decide_eq_true_eq, decide_eq_true_eq] at h
  rw [decide_eq_true_eq]
  omega

end Rank

/-! ### What a dry run reports -/

section Dry

variable {cf : Conf} {dc : DetectorConf} {fresh : Db → Uuid} {env : Env}

/-- In a dry run every candidate that is written counts, and nothing changes. -/
theorem detectEachBy_dry {ι : Type*} (f : ι → Db → AutoRuleWrite) (is : List ι) (w : World) :
    detectEachBy (countedAutoRuleCall cf env fresh true true) (fun i w ↦ (some (f i w.db), w)) is
      w = (is.length, w) := by
  induction is with
  | nil => rfl
  | cons i is ih =>
    simp only [detectEachBy, countedAutoRuleCall_dry] at ih ⊢
    rw [ih, List.length_cons, Nat.add_comm]
    rfl

theorem detectEachBy_always_dry (as : List AutoRuleWrite) (w : World) :
    detectEachBy (countedAutoRuleCall cf env fresh true true) always as w = (as.length, w) :=
  detectEachBy_dry (fun a _ ↦ a) as w

theorem detectEachBy_unlessAllowed_dry (expiry : ℚ) (rules : List CachedAllowRule)
    (cs : List (String × List String)) (w : World) :
    (detectEachBy (countedAutoRuleCall cf env fresh true true)
      (unlessAllowed cf env dc expiry rules) cs w).1 =
        (keptCandidates cf env rules cs w.redis).length := by
  induction cs generalizing w with
  | nil => rfl
  | cons c cs ih =>
    rcases hmatch : scraperCandidateMatchesAllowRule cf env c.1 rules
      (if c.2 = [] then [""] else c.2) w.redis with ⟨- | -, redis⟩
    · have hrest := ih (w.withRedis redis)
      simp only [detectEachBy, unlessAllowed, hmatch, countedAutoRuleCall_dry, keptCandidates,
        Bool.false_eq_true, if_false, List.length_cons] at hrest ⊢
      rw [hrest, Nat.add_comm]
      rfl
    · have hrest := ih (w.withRedis redis)
      simp only [detectEachBy, unlessAllowed, hmatch, if_true, keptCandidates] at hrest ⊢
      exact hrest

/-- The candidates of `detect_scraper_404_ratio` that no allow rule excludes; without a Redis
client, and where the load raises, all are excluded. -/
def keptScrapers (cf : Conf) (env : Env) (c : Candidates) (w : World) : List String :=
  if cf.hasRedis then keptByLoad cf env w c.scraper404 else []

theorem detectScraper404RatioBy_dry (c : Candidates) (w : World) :
    (detectScraper404RatioBy cf env (countedAutoRuleCall cf env fresh true true) dc c.expiry
      c.scraper404 w).1 = (keptScrapers cf env c w).length := by
  obtain ⟨k, hk⟩ := redis_loadRuleCache env w
  rw [detectScraper404RatioBy, keptScrapers, keptByLoad]
  by_cases hredis : cf.hasRedis = true
  · rw [if_pos hredis]
    by_cases hnil : c.scraper404 = []
    · rw [if_pos (.inl hnil), hnil, keptCandidates, ite_self]
      rfl
    · rw [if_neg (not_or.2 ⟨hnil, ne_false_of_eq_true hredis⟩), tryLoadRuleCache_eq]
      rcases loadRaises cf env w with - | -
      · refine (detectEachBy_unlessAllowed_dry c.expiry (loadRuleCache env w).1.allowRules
          c.scraper404 (loadRuleCache env w).2).trans ?_
        rw [hk, keptCandidates_withRules]
        rfl
      · rfl
  · rw [if_neg hredis, if_pos (.inr (Bool.eq_false_of_not_eq_true hredis))]
    rfl

/-- The findings of a dry run of the probe. -/
def Candidates.dryFindings (cf : Conf) (env : Env) (c : Candidates) (w : World) : Findings :=
  .of c.uaRotation.length c.subnetBurst.length c.challengeFarms.length
    (c.unsolvedIps.length + c.unsolvedSubnets.length) c.cloudSpray.length
    (keptScrapers cf env c w).length

/-- **A dry run of the probe counts candidates.** -/
theorem runDetectorsBy_dry (dc : DetectorConf) (c : Candidates) (w : World) :
    (runDetectorsBy cf env (countedAutoRuleCall cf env fresh true true) dc c w).1 =
      c.dryFindings cf env w := by
  have hstage : detectEachBy (countedAutoRuleCall cf env fresh true true) (atStage c.expiry)
      c.unsolvedSubnets w = (c.unsolvedSubnets.length, w) :=
    detectEachBy_dry (fun s db ↦ s.write c.expiry db) c.unsolvedSubnets w
  simp only [runDetectorsBy, detectEachBy_always_dry, hstage, List.length_map,
    detectScraper404RatioBy_dry, Candidates.dryFindings]

/-- A candidate that no allow rule matches in any state of the reverse-DNS keys is kept. -/
theorem mem_keptCandidates {rules : List CachedAllowRule} {c : String × List String}
    {cs : List (String × List String)} (hc : c ∈ cs)
    (hfree : ∀ redis, (scraperCandidateMatchesAllowRule cf env c.1 rules
      (if c.2 = [] then [""] else c.2) redis).1 = false) (redis : Redis) :
    c.1 ∈ keptCandidates cf env rules cs redis := by
  induction cs generalizing redis with
  | nil => exact (List.not_mem_nil hc).elim
  | cons d cs ih =>
    rw [keptCandidates]
    rcases List.mem_cons.1 hc with rfl | hc
    · rcases hmatch : scraperCandidateMatchesAllowRule cf env c.1 rules
        (if c.2 = [] then [""] else c.2) redis with ⟨excluded, redis'⟩
      have hexcluded := hfree redis
      rw [hmatch] at hexcluded
      dsimp only at hexcluded ⊢
      rw [hexcluded]
      exact List.mem_cons_self
    · rcases scraperCandidateMatchesAllowRule cf env d.1 rules
        (if d.2 = [] then [""] else d.2) redis with ⟨- | -, redis'⟩
      · exact List.mem_cons_of_mem _ (ih hc redis')
      · exact ih hc redis'

end Dry

/-! ### The verdict of a dry run -/

/-- The candidates of a probe. -/
def probeCandidates (dc : DetectorConf) (env : ProbeEnv) (t : Traffic) : Candidates :=
  Candidates.ofTraffic dc t none env.now

/-- The detectors run within five minutes of the fixtures, which is the shortest window that is not
a setting, and within the window that is one. -/
structure ProbeEnv.Prompt (env : ProbeEnv) (dc : DetectorConf) : Prop where
  fiveMinutes : env.now ≤ env.builtAt + 300
  scraperWindow : env.now ≤ env.builtAt + dc.scraper404WindowMinutes * 60

/-- The start of the window of `detect_cloud_spray`. -/
def ProbeEnv.sprayCutoff (env : ProbeEnv) : ℚ := env.now - (30 : ℤ) * 60

/-- **What the detectors find of the fixtures.** -/
structure Candidates.FixturesFound (c : Candidates) : Prop where
  uaRotation : uaRotationIp ∈ c.uaRotation
  subnetBurst : "198.51.100.0/24" ∈ c.subnetBurst
  challengeFarms : challengeFarmIp ∈ c.challengeFarms
  unsolvedIps : unsolvedChallengeIp ∈ c.unsolvedIps
  scraper404 : ∀ ip, ip = scraper404Ip ∨ ip = scraper404NginxIp → (ip, [probeUa]) ∈ c.scraper404

section Verdict

variable {cf : Conf} {dc : DetectorConf} {fresh : Db → Uuid} {env : ProbeEnv} {t t' : Traffic}
  {w : World}

theorem fixturesFound (hsane : dc.Sane) (hfree : t.TestNetFree) (hprompt : env.Prompt dc)
    (hp : Probed dc env.builtAt t t') : (probeCandidates dc env t').FixturesFound where
  uaRotation := mem_uaRotationIps hsane hp (by
    have h := hprompt.fiveMinutes
    show env.now - ((5 : ℤ) : ℚ) * 60 ≤ env.builtAt
    push_cast
    linarith)
  subnetBurst := mem_burstSubnets_fixture hsane hp (by
    have h := hprompt.fiveMinutes
    show env.now - ((15 : ℤ) : ℚ) * 60 ≤ env.builtAt
    push_cast
    linarith)
  challengeFarms := mem_challengeFarmIps hp (by
    have h := hprompt.fiveMinutes
    show env.now - ((24 * 60 : ℤ) : ℚ) * 60 ≤ env.builtAt
    push_cast
    linarith)
  unsolvedIps := mem_unsolvedIps hsane hfree hp (by
    have h := hprompt.fiveMinutes
    show env.now - ((60 : ℤ) : ℚ) * 60 ≤ env.builtAt
    push_cast
    linarith) _ _
  scraper404 ip hip := fixture_mem_scraperCandidates hsane hfree hp (by
    have h := hprompt.scraperWindow
    show env.now - (dc.scraper404WindowMinutes : ℚ) * 60 ≤ env.builtAt
    linarith) hip

theorem sprayCutoff_le (hprompt : env.Prompt dc) : env.sprayCutoff ≤ env.builtAt := by
  have h := hprompt.fiveMinutes
  rw [ProbeEnv.sprayCutoff]
  push_cast
  linarith

/-- The report of a dry run. -/
theorem runDetectorProbe_dry (hbuild : buildFixtureTraffic env.stores dc env.builtAt t = some t') :
    (runDetectorProbe cf dc fresh env t true w).1 =
      some (((probeCandidates dc env t').dryFindings cf env.toEnv w).report true) := by
  rw [runDetectorProbe, hbuild]
  exact congrArg (fun f ↦ some (f.report true)) (runDetectorsBy_dry dc _ w)

/-- `detect_cloud_spray` is silent when none of the first user agents is a spray. -/
theorem spray_mem_silentDetectors_iff : "detect_cloud_spray" ∈
      (((probeCandidates dc env t').dryFindings cf env.toEnv w).report true).silentDetectors ↔
    ∀ ua ∈ sprayUas dc t' env.sprayCutoff, ¬Sprays dc t' env.sprayCutoff ua := by
  have hmem : ("detect_cloud_spray", (probeCandidates dc env t').cloudSpray.length) ∈
      ((probeCandidates dc env t').dryFindings cf env.toEnv w).byDetector :=
    .tail _ (.head _)
  have hwrites : (probeCandidates dc env t').cloudSpray ≠ [] ↔
      ∃ ua ∈ sprayUas dc t' env.sprayCutoff, Sprays dc t' env.sprayCutoff ua :=
    sprayWrites_ne_nil_iff
  rw [mem_silentDetectors_iff hmem]
  show _ < 1 ↔ _
  rw [Nat.lt_one_iff, List.length_eq_zero_iff, ← not_iff_not]
  refine hwrites.trans ?_
  simp only [not_forall, not_not, exists_prop]

/-- With the fixtures found, no more than two detectors can be silent. -/
theorem eq_of_mem_silentDetectors {c : Candidates} (hfound : c.FixturesFound) {name : String}
    (h : name ∈ ((c.dryFindings cf env.toEnv w).report true).silentDetectors) :
    name = "detect_cloud_spray" ∨ name = "detect_scraper_404_ratio" := by
  obtain ⟨n, hmem⟩ := exists_of_mem_silentDetectors h
  have hlt := (mem_silentDetectors_iff hmem).1 h
  have hua := List.length_pos_of_mem hfound.uaRotation
  have hburst := List.length_pos_of_mem hfound.subnetBurst
  have hfarm := List.length_pos_of_mem hfound.challengeFarms
  have hips := List.length_pos_of_mem hfound.unsolvedIps
  simp only [Findings.byDetector, Candidates.dryFindings, Findings.of, List.mem_cons,
    Prod.mk.injEq, List.not_mem_nil, or_false] at hmem
  obtain ⟨rfl, rfl⟩ | ⟨rfl, -⟩ | ⟨rfl, -⟩ | ⟨rfl, rfl⟩ | ⟨rfl, rfl⟩ | ⟨rfl, rfl⟩ := hmem
  · exact absurd hlt (Nat.not_lt.2 hfarm)
  · exact .inl rfl
  · exact .inr rfl
  · exact absurd hlt (Nat.not_lt.2 hburst)
  · exact absurd hlt (Nat.not_lt.2 hua)
  · exact absurd hlt (Nat.not_lt.2 (Nat.add_pos_left hips _))

/-- **The verdict of a dry run.** On any site of which no traffic comes from the documentation
ranges, whatever rules its tables hold, no detector is reported silent but two. One of them,
`detect_scraper_404_ratio`, is exactly when the allow rules leave it fewer than two candidates.
`detect_cloud_spray` is not when fewer user agents than it looks at are shared as widely as the
fixture's; when that many are shared more widely, it is silent unless one of them is itself a
spray. -/
theorem dry_probe_verdict (hsane : dc.Sane) (hfree : t.TestNetFree) (hprompt : env.Prompt dc)
    (hbuild : buildFixtureTraffic env.stores dc env.builtAt t = some t') :
    ∃ r, (runDetectorProbe cf dc fresh env t true w).1 = some r ∧
      (∀ name ∈ r.silentDetectors,
        name = "detect_cloud_spray" ∨ name = "detect_scraper_404_ratio") ∧
      (r.allAlive = true ↔ "detect_cloud_spray" ∉ r.silentDetectors ∧
        "detect_scraper_404_ratio" ∉ r.silentDetectors) ∧
      ("detect_scraper_404_ratio" ∈ r.silentDetectors ↔
        (keptScrapers cf env.toEnv (probeCandidates dc env t') w).length < 2) ∧
      (rivals dc t' env.sprayCutoff (dc.cloudSprayMinIps + 1) < dc.cloudSprayTopN →
        "detect_cloud_spray" ∉ r.silentDetectors) ∧
      (dc.cloudSprayTopN ≤
          rivals dc t' env.sprayCutoff (sharedBy t' env.sprayCutoff sprayFixtureUa + 1) →
        ("detect_cloud_spray" ∈ r.silentDetectors ↔ ∀ ua ∈ sprayUas dc t' env.sprayCutoff,
          ua ≠ sprayFixtureUa → ¬Sprays dc t' env.sprayCutoff ua)) := by
  have hp := probed_of_buildFixtureTraffic hbuild
  have hfound := fixturesFound hsane hfree hprompt hp
  refine ⟨_, runDetectorProbe_dry hbuild, fun _ ↦ eq_of_mem_silentDetectors hfound, ?_, ?_,
    fun hfew ↦ ?_, fun hmany ↦ ?_⟩
  · rw [allAlive_report, List.eq_nil_iff_forall_not_mem]
    refine ⟨fun hnone ↦ ⟨hnone _, hnone _⟩, fun ⟨hspray, hscraper⟩ name hname ↦ ?_⟩
    rcases eq_of_mem_silentDetectors hfound hname with rfl | rfl
    · exact hspray hname
    · exact hscraper hname
  · exact mem_silentDetectors_iff (.tail _ (.tail _ (.head _)))
  · rw [spray_mem_silentDetectors_iff, not_forall₂]
    have hcutoff := sprayCutoff_le hprompt
    exact ⟨sprayFixtureUa, fixture_mem_sprayUas hp hcutoff hsane.sprayMinIps hfew,
      not_not.2 (sprays_fixture hp hcutoff hsane hfree)⟩
  · rw [spray_mem_silentDetectors_iff]
    refine forall₂_congr fun ua hua ↦ ?_
    have hne : ua ≠ sprayFixtureUa := fun h ↦ fixture_notMem_sprayUas hmany (h ▸ hua)
    exact ⟨fun h _ ↦ h, fun h ↦ h hne⟩

/-- No allow rule matches a scraper of the fixture, in any state of the reverse-DNS keys. -/
def SparesScrapers (cf : Conf) (env : Env) (rules : List CachedAllowRule) : Prop :=
  ∀ ip, ip = scraper404Ip ∨ ip = scraper404NginxIp → ∀ redis,
    (scraperCandidateMatchesAllowRule cf env ip rules [probeUa] redis).1 = false

/-- Such rules leave both of them. -/
theorem two_le_keptScrapers {c : Candidates} (hfound : c.FixturesFound)
    (hredis : cf.hasRedis = true) (hload : loadRaises cf env.toEnv w = false)
    (hspares : SparesScrapers cf env.toEnv (loadRuleCache env.toEnv w).1.allowRules) :
    2 ≤ (keptScrapers cf env.toEnv c w).length := by
  have hkept : ∀ ip, ip = scraper404Ip ∨ ip = scraper404NginxIp →
      ip ∈ keptScrapers cf env.toEnv c w := by
    intro ip hip
    rw [keptScrapers, if_pos hredis, keptByLoad, hload, if_neg Bool.false_ne_true]
    exact mem_keptCandidates (hfound.scraper404 ip hip) (hspares ip hip) w.redis
  have hsubset : [scraper404Ip, scraper404NginxIp] ⊆ keptScrapers cf env.toEnv c w := by
    intro ip hip
    rcases List.mem_cons.1 hip with rfl | hip
    · exact hkept _ (.inl rfl)
    · exact hkept _ (.inr (List.mem_singleton.1 hip))
  have hnodup : [scraper404Ip, scraper404NginxIp].Nodup := by decide
  exact (hnodup.subperm hsubset).length_le

end Verdict

/-! #### A quiet site -/

/-- No traffic at all. -/
def noTraffic : Traffic where
  requestLogs := []
  ipReputations := []
  challengeTokens := []
  ipReputations_nodup := List.nodup_nil

/-- A probe that takes a minute. -/
def quietProbe : ProbeEnv := { Env.plain 1000 with builtAt := 940, stores := fun _ ↦ true }

/-- Thresholds for small fixtures: two requests are a burst, ten addresses a spray. -/
def smallFixtures : DetectorConf :=
  { twoRequests with thresholdDistinctUas := 1, cloudSprayMinIps := 10, scraper404MinRequests := 1 }

theorem sane_smallFixtures : smallFixtures.Sane := by
  constructor <;> norm_num [smallFixtures, twoRequests, DetectorConf.defaults]

theorem prompt_smallFixtures : quietProbe.Prompt smallFixtures := by
  constructor <;>
    norm_num [quietProbe, Env.plain, smallFixtures, twoRequests, DetectorConf.defaults]

/-- The tables of that probe. -/
def quietTables (dc : DetectorConf) : Traffic where
  requestLogs := fixtureLogs dc quietProbe.builtAt
  ipReputations := [buildChallengeFarmFixture quietProbe.builtAt]
  challengeTokens := []
  ipReputations_nodup := List.nodup_singleton _

theorem testNetFree_noTraffic : noTraffic.TestNetFree := by
  constructor <;> exact fun _ h ↦ (List.not_mem_nil h).elim

theorem buildFixtureTraffic_quiet (dc : DetectorConf) :
    buildFixtureTraffic quietProbe.stores dc quietProbe.builtAt noTraffic =
      some (quietTables dc) := by
  have hstores : (fixtureLogs dc quietProbe.builtAt).all
      (fun l ↦ quietProbe.stores l.ipAddress) = true := List.all_eq_true.2 fun _ _ ↦ rfl
  have hnew : (buildChallengeFarmFixture quietProbe.builtAt).ipAddress ∉
      noTraffic.ipReputations.map IpReputation.ipAddress := List.not_mem_nil
  rw [buildFixtureTraffic, dif_pos hnew, if_pos hstores]
  rfl

theorem rankedUas_quiet : rankedUas smallFixtures (quietTables smallFixtures)
    quietProbe.sprayCutoff = [sprayFixtureUa] := by decide +kernel

theorem rivals_quiet (k : ℤ) :
    rivals smallFixtures (quietTables smallFixtures) quietProbe.sprayCutoff k = 0 := by
  rw [rivals, rankedUas_quiet, List.countP_singleton, decide_eq_false (not_not.2 rfl),
    Bool.false_and, if_neg Bool.false_ne_true]

theorem sprayUas_quiet : sprayUas smallFixtures (quietTables smallFixtures)
    quietProbe.sprayCutoff = [sprayFixtureUa] := by
  rw [sprayUas_eq, rankedUas_quiet]
  rfl

/-- **On a quiet site** with those thresholds all detectors are alive. -/
theorem dry_probe_verdict_quiet :
    ∃ r, (runDetectorProbe plainConf smallFixtures nextId quietProbe noTraffic true
      (World.start ⟨[], []⟩)).1 = some r ∧ r.allAlive = true := by
  have hbuild := buildFixtureTraffic_quiet smallFixtures
  have hfound := fixturesFound sane_smallFixtures testNetFree_noTraffic prompt_smallFixtures
    (probed_of_buildFixtureTraffic hbuild)
  obtain ⟨r, hr, -, halive, hscraper, hfew, -⟩ := @dry_probe_verdict plainConf smallFixtures nextId
    quietProbe noTraffic (quietTables smallFixtures) (World.start ⟨[], []⟩) sane_smallFixtures
    testNetFree_noTraffic prompt_smallFixtures hbuild
  refine ⟨r, hr, halive.2 ⟨hfew (by rw [rivals_quiet]; decide), fun h ↦ ?_⟩⟩
  refine absurd (two_le_keptScrapers hfound (by decide) rfl ?_) (Nat.not_le.2 (hscraper.1 h))
  intro ip _ redis
  rfl

end DjangoWaf
