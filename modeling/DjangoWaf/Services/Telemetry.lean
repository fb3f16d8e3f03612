import DjangoWaf.Lib.IsoDatetime
import DjangoWaf.Lib.PyBytes
import DjangoWaf.Services.Detectors

/-!
# Telemetry

`build_telemetry_payload` of `services/threat_feed.py`: what an installation reports about a period.
The payload lists the user-agent rules by the digest of their pattern, the requests by the subnet of
their address, and the requests by verdict.

A query without an `order_by` comes in the order of its model: `BlockRule` by priority and then the
newest first, `RequestLog` the newest first; rows that the order does not tell apart come in the
order of the table. The order of the log shows in the payload: a subnet is listed where it first
occurs, with the verdict of its first row.

`hit_count` is read here and nowhere else in this development, so it stands beside the columns of
`BlockRule`. The install id comes from the cache, the file or a fresh UUID; that it is written back
is left out.
-/

namespace DjangoWaf

open PyBytes IsoDatetime

/-! ### What it reads -/

/-- `BlockRule` with its `hit_count`. -/
structure CountedRule extends BlockRule where
  hitCount : ℕ

/-- The tables telemetry reads. -/
structure TelemetryDb where
  blockRules : List CountedRule
  requestLogs : List RequestLog

/-- Where the install id may come from. -/
structure InstallIdSource where
  /-- What the cache holds. -/
  cached : Option String
  /-- The text of `.django_waf_install_id`, when there is such a file and it can be read. -/
  file : Option String
  /-- `uuid.uuid4()`. -/
  fresh : String

/-- `get_or_create_install_id`. An empty text in the cache or in the file counts as none. -/
def getOrCreateInstallId (src : InstallIdSource) : String :=
  match src.cached.filter (· ≠ ""), (src.file.map PyStr.stripText).filter (· ≠ "") with
  | some cached, _ => cached
  | none, some installId => installId
  | none, none => src.fresh

/-! ### The payload -/

/-- An entry of `ua_hashes`. -/
structure UaHash where
  sha256 : String
  action : RuleAction
  hits : ℕ
  deriving DecidableEq

/-- An entry of `subnets`. -/
structure SubnetHits where
  cidr : String
  action : Verdict
  hits : ℕ
  deriving DecidableEq

/-- `summary`. -/
structure TelemetrySummary where
  totalRequests : ℕ
  blocked : ℕ
  challenged : ℕ
  throttled : ℕ
  deriving DecidableEq

/-- The dictionary `build_telemetry_payload` returns. Its `anomalies` are empty. -/
structure TelemetryPayload where
  installId : String
  period : String
  uaHashes : List UaHash
  subnets : List SubnetHits
  summary : TelemetrySummary
  deriving DecidableEq

/-- A rule whose pattern is reported. -/
def CountedRule.reported (r : CountedRule) : Bool :=
  (r.source = .admin || r.source = .auto) && r.ruleType = .ua

/-- `ua_rules`. -/
def reportedRules (db : TelemetryDb) : List CountedRule :=
  (db.blockRules.filter CountedRule.reported).insertionSort fun r r' ↦
    r.priority < r'.priority ∨ r.priority = r'.priority ∧ r'.createdAt ≤ r.createdAt

/-- The entry of a rule. -/
def CountedRule.uaHash (sha256 : List UInt8 → Digest) (r : CountedRule) : UaHash where
  sha256 := String.ofList (sha256 (utf8Encode r.pattern)).hexdigest
  action := r.action
  hits := r.hitCount

/-- The instant of a `datetime`, as the rows have theirs. -/
def instantOf (d : DateTime) : ℚ := d.instant / 1000000

/-- `logs_in_period`. -/
def logsInPeriod (db : TelemetryDb) (periodStart periodEnd : DateTime) : List RequestLog :=
  (db.requestLogs.filter fun l ↦ instantOf periodStart ≤ l.timestamp &&
    l.timestamp ≤ instantOf periodEnd).insertionSort fun l l' ↦ l'.timestamp ≤ l.timestamp

/-- One row, counted in its subnet. A row whose address does not parse is passed over. -/
def countLog (subnets : List SubnetHits) (l : RequestLog) : List SubnetHits :=
  match getSubnetPrefix l.ipAddress with
  | none => subnets
  | some subnet =>
    let opened := if subnets.any fun s ↦ s.cidr = subnet then subnets
      else subnets ++ [⟨subnet, l.verdict, 0⟩]
    opened.map fun s ↦ if s.cidr = subnet then { s with hits := s.hits + 1 } else s

/-- The rows of a verdict. -/
def verdictCount (rows : List RequestLog) (v : Verdict) : ℕ := rows.countP fun l ↦ l.verdict = v

/-- `build_telemetry_payload`. -/
def buildTelemetryPayload (sha256 : List UInt8 → Digest) (src : InstallIdSource)
    (db : TelemetryDb) (periodStart periodEnd : DateTime) : TelemetryPayload :=
  let logs := logsInPeriod db periodStart periodEnd
  { installId := getOrCreateInstallId src
    period := String.ofList (periodStart.isoformat ++ '/' :: periodEnd.isoformat)
    uaHashes := (reportedRules db).map (CountedRule.uaHash sha256)
    subnets := logs.foldl countLog []
    summary :=
      { totalRequests := logs.length
        blocked := verdictCount logs .blocked
        challenged := verdictCount logs .challenged
        throttled := verdictCount logs .throttled } }

end DjangoWaf
