import DjangoWaf.Middleware
import DjangoWaf.SubnetCounts

/-!
# A subnet rule hits the clients that were counted

Three detectors count requests by subnet and write a CIDR rule for the subnet's text:
`detect_subnet_burst`, `detect_unsolved_challenges` and `detect_cloud_spray`. The text is printed by
the aggregation and read again by the matcher, which masks the client's address. Between the two
stand the truncation to a prefix, the compression of IPv6 and the choice of a family by trying.

* **The matcher's question is the aggregator's** (`matchCidr_getSubnetPrefix`): an address lies in
  the subnet of another exactly when it would be counted under the same text.
* So **the subnets partition each family**: an address lies in its own subnet and in no other.
* **Every CIDR rule of a run** has the subnet of a logged address for its pattern
  (`exists_log_of_mem_cidrWrites`), hence matches what is counted under it and nothing else
  (`subnet_rules_hit_counted`).

Addresses carry no scope: `GenericIPAddressField` stores none.
-/

namespace DjangoWaf

open IpAddress

/-! ### Reading a subnet -/

/-- An address lies in the subnet of another when the subnets are one. -/
theorem contains_subnetOf_iff (a b : Address) :
    (subnetOf a).contains b = true ↔ subnetOf b = subnetOf a := by
  rw [Network.contains, Bool.and_eq_true, decide_eq_true_eq, decide_eq_true_eq, subnetOf_eq_iff]
  show a.version = b.version ∧ maskBits a.version (subnetLength a.version) b.value =
    maskBits a.version (subnetLength a.version) a.value ↔ _
  constructor
  · rintro ⟨hv, h⟩
    exact ⟨hv.symm, hv ▸ h⟩
  · rintro ⟨hv, h⟩
    refine ⟨hv.symm, ?_⟩
    rw [← hv] at h ⊢
    exact h

/-- **The matcher's question is the aggregator's.** -/
theorem matchCidr_getSubnetPrefix {s t p : String} (hs : IsPlainAddress s) (ht : IsPlainAddress t)
    (hp : getSubnetPrefix s = some p) : matchCidr t p = true ↔ getSubnetPrefix t = some p := by
  obtain ⟨a, ha, hascope⟩ := hs
  obtain ⟨b, hb, hbscope⟩ := ht
  rw [← hp, getSubnetPrefix_eq_iff hb ha hbscope hascope, ← contains_subnetOf_iff]
  rw [getSubnetPrefix_of_plain ha hascope] at hp
  obtain rfl := Option.some.inj hp
  simp only [matchCidr, hb, ipNetwork_text (masked_subnetOf a)]

theorem exists_getSubnetPrefix {s : String} (h : IsPlainAddress s) :
    ∃ p, getSubnetPrefix s = some p := by
  obtain ⟨a, ha, hscope⟩ := h
  exact ⟨_, getSubnetPrefix_of_plain ha hscope⟩

/-- What has a subnet and no scope is an address. -/
theorem isPlainAddress_of_getSubnetPrefix {s p : String} (hscope : ScopeFree s)
    (h : getSubnetPrefix s = some p) : IsPlainAddress s := by
  rcases ha : ipAddress s with _ | a
  · rw [getSubnetPrefix_eq_none_iff.2 ha] at h
    cases h
  · exact ⟨a, ha, hscope a ha⟩

/-! ### The CIDR rules of a run -/

/-- The CIDR rules of a run: those of the three detectors that count by subnet. -/
def Candidates.cidrWrites (c : Candidates) (db : Db) : List AutoRuleWrite :=
  (c.subnetBurst.map fun s ↦ subnetBurstWrite s c.expiry) ++
    (c.cloudSpray.filter fun a ↦ a.ruleType = .cidr) ++
    c.unsolvedSubnets.map fun s ↦ s.write c.expiry db

/-- The subnet of an aggregate is that of one of the rows. -/
theorem exists_row_of_mem_aggregateSubnets {rows : List ChallengedRow} {s : SubnetAggregate}
    (hs : s ∈ aggregateSubnets rows) :
    ∃ row ∈ rows, getSubnetPrefix row.ipAddress = some s.subnet := by
  obtain ⟨row, hrow⟩ := List.exists_mem_of_ne_nil _
    (((aggregatesOf_aggregateSubnets rows).mem s.subnet).1 (List.mem_map_of_mem hs))
  obtain ⟨hrow, hsubnet⟩ := List.mem_filter.1 hrow
  exact ⟨row, hrow, of_decide_eq_true hsubnet⟩

theorem exists_ip_of_mem_subnetCounts {ips : List String} {s : SubnetAggregate}
    (hs : s ∈ subnetCounts ips) : ∃ ip ∈ ips, getSubnetPrefix ip = some s.subnet := by
  obtain ⟨row, hrow, hsubnet⟩ := exists_row_of_mem_aggregateSubnets hs
  obtain ⟨ip, hip, rfl⟩ := List.mem_map.1 hrow
  exact ⟨ip, hip, hsubnet⟩

theorem exists_log_of_mem_ipGroups {rows : List RequestLog} {ip : String} (h : ip ∈ ipGroups rows) :
    ∃ l ∈ rows, l.ipAddress = ip := List.mem_map.1 (List.mem_dedup.1 h)

theorem mem_requestLogs_of_mem_logsSince {t : Traffic} {cutoff : ℚ} {l : RequestLog}
    (h : l ∈ t.logsSince cutoff) : l ∈ t.requestLogs := (List.mem_filter.1 h).1

/-- A CIDR rule of the cloud spray is one of its subnets'. -/
theorem exists_log_of_mem_sprayWrites {dc : DetectorConf} {t : Traffic} {cutoff expiry : ℚ}
    {a : AutoRuleWrite} (ha : a ∈ sprayWrites dc t cutoff expiry) (hcidr : a.ruleType = .cidr) :
    ∃ l ∈ t.requestLogs, getSubnetPrefix l.ipAddress = some a.pattern := by
  obtain ⟨ua, -, ha⟩ := List.mem_flatMap.1 ha
  dsimp only at ha
  split at ha
  · cases ha
  · rcases List.mem_append.1 ha with ha | ha
    · -- the user-agent rule
      split at ha
      · rw [List.mem_singleton.1 ha] at hcidr
        cases hcidr
      · cases ha
    · obtain ⟨s, hs, rfl⟩ := List.mem_map.1 ha
      obtain ⟨ip, hip, hsubnet⟩ := exists_ip_of_mem_subnetCounts (List.mem_filter.1 hs).1
      obtain ⟨l, hl, rfl⟩ := exists_log_of_mem_ipGroups (List.mem_filter.1 hip).1
      have hlog := (List.mem_filter.1 (List.mem_filter.1 hl).1).1
      exact ⟨l, mem_requestLogs_of_mem_logsSince hlog, hsubnet⟩

/-- **Every CIDR rule of a run** has the subnet of a logged address for its pattern. -/
theorem exists_log_of_mem_cidrWrites {dc : DetectorConf} {t : Traffic} {window : Option ℤ} {now : ℚ}
    {db : Db} {a : AutoRuleWrite}
    (ha : a ∈ (Candidates.ofTraffic dc t window now).cidrWrites db) :
    a.ruleType = .cidr ∧ ∃ l ∈ t.requestLogs, getSubnetPrefix l.ipAddress = some a.pattern := by
  rw [Candidates.cidrWrites, List.mem_append, List.mem_append] at ha
  rcases ha with (ha | ha) | ha
  · obtain ⟨subnet, hsubnet, rfl⟩ := List.mem_map.1 ha
    obtain ⟨s, hs, rfl⟩ := List.mem_map.1 hsubnet
    obtain ⟨ip, hip, hs⟩ := exists_ip_of_mem_subnetCounts (List.mem_filter.1 hs).1
    obtain ⟨l, hl, rfl⟩ := List.mem_map.1 hip
    exact ⟨rfl, l, mem_requestLogs_of_mem_logsSince hl, hs⟩
  · obtain ⟨ha, hcidr⟩ := List.mem_filter.1 ha
    exact ⟨of_decide_eq_true hcidr, exists_log_of_mem_sprayWrites ha (of_decide_eq_true hcidr)⟩
  · obtain ⟨s, hs, rfl⟩ := List.mem_map.1 ha
    obtain ⟨row, hrow, hs⟩ := exists_row_of_mem_aggregateSubnets (List.mem_filter.1 hs).1
    obtain ⟨ip, hip, rfl⟩ := List.mem_map.1 hrow
    obtain ⟨l, hl, rfl⟩ := exists_log_of_mem_ipGroups hip
    exact ⟨rfl, l, mem_requestLogs_of_mem_logsSince (List.mem_filter.1 hl).1, hs⟩

/-! ### The theorem -/

/-- **A subnet rule hits exactly the clients that were counted.** An address lies in the subnet of
another exactly when the two are counted under one text; so every address lies in one subnet, its
own; and every CIDR rule that a run of the detectors writes matches the addresses that are counted
under its pattern, and no others. -/
theorem subnet_rules_hit_counted (cf : Conf) (dc : DetectorConf) {t : Traffic}
    (ht : ∀ l ∈ t.requestLogs, ScopeFree l.ipAddress) (window : Option ℤ) (now : ℚ) (db : Db) :
    (∀ a b, IsPlainAddress a → IsPlainAddress b → ∃ p q, getSubnetPrefix a = some p ∧
      getSubnetPrefix b = some q ∧ (matchCidr b p = true ↔ q = p)) ∧
    (∀ b, IsPlainAddress b →
      ∃! p, (∃ a, IsPlainAddress a ∧ getSubnetPrefix a = some p) ∧ matchCidr b p = true) ∧
    ∀ write ∈ (Candidates.ofTraffic dc t window now).cidrWrites db, ∀ b, IsPlainAddress b →
      ∀ userAgent, ruleMatches cf write.toCriterion b userAgent = true ↔
        getSubnetPrefix b = some write.pattern := by
  refine ⟨fun a b ha hb ↦ ?_, fun b hb ↦ ?_, fun write hwrite b hb userAgent ↦ ?_⟩
  · obtain ⟨p, hp⟩ := exists_getSubnetPrefix ha
    obtain ⟨q, hq⟩ := exists_getSubnetPrefix hb
    refine ⟨p, q, hp, hq, ?_⟩
    rw [matchCidr_getSubnetPrefix ha hb hp, hq, Option.some.injEq]
  · obtain ⟨q, hq⟩ := exists_getSubnetPrefix hb
    refine ⟨q, ⟨⟨b, hb, hq⟩, (matchCidr_getSubnetPrefix hb hb hq).2 hq⟩, ?_⟩
    rintro p ⟨⟨a, ha, hp⟩, hmatch⟩
    have hbp := (matchCidr_getSubnetPrefix ha hb hp).1 hmatch
    exact Option.some.inj (hbp.symm.trans hq)
  · obtain ⟨hcidr, l, hl, hp⟩ := exists_log_of_mem_cidrWrites hwrite
    have hlog := isPlainAddress_of_getSubnetPrefix (ht l hl) hp
    simp only [ruleMatches, hcidr]
    exact matchCidr_getSubnetPrefix hlog hb hp

/-- Two requests from one /48, which its rule has to find under the shortest spelling. -/
def sharedPrefix : Traffic where
  requestLogs := ["2001:DB8:0:7::1", "2001:db8:0:0:1::2"].map fun ip ↦
    { timestamp := 990, ipAddress := ip, userAgent := "curl/8.5", path := "/", verdict := .allowed,
      responseCode := some 200, referer := "", source := .middleware }
  ipReputations := []
  challengeTokens := []
  ipReputations_nodup := List.nodup_nil

/-- The rule for their subnet holds a third address of it, and none of the next subnet. -/
theorem subnet_rules_hit_counted_shared :
    let dc := { DetectorConf.defaults with subnetBurstMinCount := 2 }
    let db : Db := ⟨[], []⟩
    (Candidates.ofTraffic dc sharedPrefix none 1000).subnetBurst = ["2001:db8::/48"] ∧
      ∀ write ∈ (Candidates.ofTraffic dc sharedPrefix none 1000).cidrWrites db,
        ∀ b ∈ ["2001:db8:0:ffff::9", "2001:db8:1::9"], ∀ userAgent,
          ruleMatches plainConf write.toCriterion b userAgent = true ↔
            getSubnetPrefix b = some write.pattern := by
  intro dc db
  have hscope : ∀ l ∈ sharedPrefix.requestLogs, ScopeFree l.ipAddress := by decide
  have hplain : ∀ b ∈ ["2001:db8:0:ffff::9", "2001:db8:1::9"], IsPlainAddress b := by decide
  refine ⟨by decide +kernel, fun write hwrite b hb userAgent ↦ ?_⟩
  exact (subnet_rules_hit_counted plainConf dc hscope none 1000 db).2.2 write hwrite b (hplain b hb)
    userAgent

end DjangoWaf
