import DjangoWaf.Lib.IpAddress
import DjangoWaf.Services.AutoRuleTable
import DjangoWaf.Services.RuleWrites

/-!
# The detectors' writes

The writes of `services/anomaly_detector.py` that share rows: `detect_subnet_burst`,
`detect_cloud_spray` and the two halves of `detect_unsolved_challenges`. Three of them write
`CHALLENGE` rules for a subnet, so they meet on one row.

The subnet half of `detect_unsolved_challenges` is modelled from the challenged rows it is handed:
they are aggregated into subnets, the subnets that **cross** the thresholds are picked out, and each
crossing reads the table once to decide its **stage**: `BLOCK` when the subnet's active auto
`CHALLENGE` rule names this detector, `CHALLENGE` otherwise. How the other detectors pick their
subnets is left open: they write when they like. `confidence` and the evidence in `notes` are
columns nothing reads.
-/

namespace DjangoWaf

/-- `_get_subnet_prefix`, or `none` for the `ValueError` of a text that is no address. -/
def getSubnetPrefix (ip : String) : Option String := do
  let parsed ← IpAddress.ipAddress ip
  let prefixLength := match parsed.version with
    | .v4 => "24"
    | .v6 => "48"
  let network ← IpAddress.ipNetwork (ip ++ "/" ++ prefixLength)
  -- an address without host bits stays the network's address as it was written, scope included
  return network.text (if network.network = parsed.value then parsed.scope else none)

/-! ### Writes -/

/-- The name under which `detect_unsolved_challenges` writes. -/
def detectUnsolvedChallengesName : String := "detect_unsolved_challenges"

/-- The write of `detect_subnet_burst` for a subnet. -/
def subnetBurstWrite (subnet : String) (expiry : ℚ) : AutoRuleWrite where
  ruleType := .cidr
  matchType := .cidr
  pattern := subnet
  name := "Auto: subnet burst from " ++ subnet
  action := .challenge
  expiry
  detectorName := "detect_subnet_burst"

/-- The write of `detect_cloud_spray` for a subnet with some addresses of a user agent. -/
def cloudSprayWrite (subnet ua : String) (count : ℕ) (expiry : ℚ) : AutoRuleWrite where
  ruleType := .cidr
  matchType := .cidr
  pattern := subnet
  name := "Auto: cloud spray from " ++ subnet ++ " (" ++ toString count ++ " IPs, UA: " ++
    String.ofList (ua.toList.take 40) ++ ")"
  action := .challenge
  expiry
  detectorName := "detect_cloud_spray"

/-- The write of the subnet half of `detect_unsolved_challenges`, at a stage. -/
def unsolvedSubnetWrite (subnet : String) (ips : ℕ) (stage : RuleAction) (expiry : ℚ) :
    AutoRuleWrite where
  ruleType := .cidr
  matchType := .cidr
  pattern := subnet
  name := "Auto: unsolved challenges from " ++ subnet ++ " (" ++ toString ips ++ " IPs)"
  action := stage
  expiry
  detectorName := detectUnsolvedChallengesName

/-! ### Subnets that cross the thresholds -/

/-- A row of `challenged_by_ip`. -/
structure ChallengedRow where
  ipAddress : String
  challengedCount : ℕ

/-- What `subnet_totals` and `subnet_ips` hold for a subnet. -/
structure SubnetAggregate where
  subnet : String
  total : ℕ
  ips : List String

/-- The thresholds of the subnet half. -/
structure UnsolvedSubnetConf where
  /-- `DJANGO_WAF_UNSOLVED_SUBNET_MIN_CHALLENGED`. -/
  minChallenged : ℕ
  /-- `DJANGO_WAF_UNSOLVED_SUBNET_MIN_IPS`. -/
  minIps : ℕ

/-- One row, added to the aggregates of the rows before it. -/
def aggregateRow (subnets : List SubnetAggregate) (row : ChallengedRow) : List SubnetAggregate :=
  match getSubnetPrefix row.ipAddress with
  | none => subnets
  | some subnet =>
    if subnets.any fun s ↦ s.subnet = subnet then
      subnets.map fun s ↦ if s.subnet = subnet then
        { s with total := s.total + row.challengedCount, ips := s.ips.insert row.ipAddress } else s
    else subnets ++ [⟨subnet, row.challengedCount, [row.ipAddress]⟩]

/-- The subnets of the rows, in the order in which they first occur. -/
def aggregateSubnets (rows : List ChallengedRow) : List SubnetAggregate :=
  rows.foldl aggregateRow []

/-- The subnet is over both thresholds, and none of its addresses has solved a challenge lately. -/
def SubnetAggregate.crosses (uc : UnsolvedSubnetConf) (solvedIps : List String)
    (s : SubnetAggregate) : Bool :=
  uc.minChallenged ≤ s.total && uc.minIps ≤ s.ips.length && !s.ips.any solvedIps.contains

/-- The subnets a run of the subnet half writes a rule for. -/
def crossings (uc : UnsolvedSubnetConf) (rows : List ChallengedRow) (solvedIps : List String) :
    List SubnetAggregate :=
  (aggregateSubnets rows).filter (SubnetAggregate.crosses uc solvedIps)

/-! ### The two stages -/

/-- A row the existence check of a crossing looks for. -/
def isActiveChallenge (subnet : String) (r : BlockRule) : Bool :=
  r.ruleType = .cidr && r.pattern = subnet && r.source = .auto && r.action = .challenge &&
    r.isActive

/-- `already_challenged`. -/
def alreadyChallenged (subnet : String) (db : Db) : Bool :=
  -- the constraint on auto rules admits one row of the key
  match db.blockRules.find? (isActiveChallenge subnet) with
  | some r => (detectorNames r.detectors).contains detectUnsolvedChallengesName
  | none => false

/-- `stage_action`. -/
def stageAction (subnet : String) (db : Db) : RuleAction :=
  if alreadyChallenged subnet db then .block else .challenge

/-- The write of a crossing. -/
def SubnetAggregate.write (s : SubnetAggregate) (expiry : ℚ) (db : Db) : AutoRuleWrite :=
  unsolvedSubnetWrite s.subnet s.ips.length (stageAction s.subnet db) expiry

variable (cf : Conf)

/-- One crossing. -/
def crossSubnet (env : Env) (expiry : ℚ) (s : SubnetAggregate) (w : World) : World :=
  (getOrCreateAutoRule cf env (s.write expiry w.db) w).2

/-- `_detect_unsolved_challenges_by_subnet`, with what each of its writes gets from outside. -/
def detectUnsolvedChallengesBySubnet (uc : UnsolvedSubnetConf) (envs : ℕ → Env)
    (rows : List ChallengedRow) (solvedIps : List String) (expiry : ℚ) (w : World) : World :=
  (crossings uc rows solvedIps).zipIdx.foldl (fun w s ↦ crossSubnet cf (envs s.2) expiry s.1 w) w

/-! ### A run crosses a subnet once -/

theorem nodup_aggregateRow {subnets : List SubnetAggregate}
    (h : (subnets.map SubnetAggregate.subnet).Nodup) (row : ChallengedRow) :
    ((aggregateRow subnets row).map SubnetAggregate.subnet).Nodup := by
  rw [aggregateRow]
  split
  · exact h
  · rename_i subnet _
    split
    · rw [List.map_map]
      refine (List.map_congr_left fun s _ ↦ ?_).symm ▸ h
      rw [Function.comp_apply]
      split <;> rfl
    · rename_i hnew
      rw [List.map_append, List.map_singleton]
      refine List.nodup_append.2 ⟨h, List.nodup_singleton _, ?_⟩
      intro x hx y hy heq
      obtain ⟨s, hs, rfl⟩ := List.mem_map.1 hx
      rw [List.mem_singleton] at hy
      exact hnew (List.any_eq_true.2 ⟨s, hs, decide_eq_true (heq.trans hy)⟩)

theorem nodup_aggregateSubnets (rows : List ChallengedRow) :
    ((aggregateSubnets rows).map SubnetAggregate.subnet).Nodup := by
  have haggregate : ∀ (rows : List ChallengedRow) (subnets : List SubnetAggregate),
      (subnets.map SubnetAggregate.subnet).Nodup →
        ((rows.foldl aggregateRow subnets).map SubnetAggregate.subnet).Nodup := by
    intro rows
    induction rows with
    | nil => exact fun _ h ↦ h
    | cons row rows ih => exact fun subnets h ↦ ih _ (nodup_aggregateRow h row)
  exact haggregate rows [] List.nodup_nil

/-- **A run crosses a subnet at most once**: what a crossing finds of its subnet was there before
the run. -/
theorem nodup_crossings (uc : UnsolvedSubnetConf) (rows : List ChallengedRow)
    (solvedIps : List String) :
    ((crossings uc rows solvedIps).map SubnetAggregate.subnet).Nodup :=
  (List.filter_sublist.map SubnetAggregate.subnet).nodup (nodup_aggregateSubnets rows)

end DjangoWaf
