import DjangoWaf.Lib.RelatedLists
import DjangoWaf.MalformedTokens
import DjangoWaf.Middleware
import DjangoWaf.Services.Telemetry
import DjangoWaf.SubnetCounts

/-!
# What telemetry reveals

Two installations whose payload has to be the same, by the promise of the payload: *no full IPs, no
paths, no user identifiers*, user agents as digests. Their logs agree row by row in the timestamp,
the verdict and the subnet of the address (`RequestLog.Alike`), and in nothing else; their rules
agree in what orders and selects them, in the action and the hits, and a user-agent pattern has the
same digest in both (`CountedRule.Alike`).

Everything in the payload is a filter, a sort, a count or a fold over these rows, and none of them
looks at more of a row than that. So the payloads are equal (`telemetry_reveals_no_more`): whoever
sees one cannot tell the two installations apart.
-/

namespace DjangoWaf

open PyBytes IsoDatetime IpAddress RelatedLists

/-! ### Rows that agree in what may be told -/

/-- Two texts with one subnet: addresses of one /24 or of one /48, or both no address at all. -/
def SamePrefix (s s' : String) : Prop :=
  (ipAddress s).map subnetOf = (ipAddress s').map subnetOf ∧ ScopeFree s ∧ ScopeFree s'

instance (s s' : String) : Decidable (SamePrefix s s') :=
  inferInstanceAs (Decidable (_ ∧ ScopeFree s ∧ ScopeFree s'))

theorem SamePrefix.getSubnetPrefix_eq {s s' : String} (h : SamePrefix s s') :
    getSubnetPrefix s = getSubnetPrefix s' := by
  obtain ⟨hsubnet, hs, hs'⟩ := h
  rcases ha : ipAddress s with _ | a
  · rw [ha, Option.map_none, eq_comm, Option.map_eq_none_iff] at hsubnet
    rw [getSubnetPrefix_eq_none_iff.2 ha, getSubnetPrefix_eq_none_iff.2 hsubnet]
  · rw [ha, Option.map_some, eq_comm, Option.map_eq_some_iff] at hsubnet
    obtain ⟨a', ha', heq⟩ := hsubnet
    exact (getSubnetPrefix_eq_iff ha ha' (hs a ha) (hs' a' ha')).2 heq.symm

/-- **Log rows that agree in what telemetry may tell.** -/
structure RequestLog.Alike (l l' : RequestLog) : Prop where
  timestamp : l.timestamp = l'.timestamp
  verdict : l.verdict = l'.verdict
  address : SamePrefix l.ipAddress l'.ipAddress

/-- **Rules that agree in what telemetry may tell**: a user-agent pattern is told by its digest. -/
structure CountedRule.Alike (sha256 : List UInt8 → Digest) (r r' : CountedRule) : Prop where
  ruleType : r.ruleType = r'.ruleType
  source : r.source = r'.source
  priority : r.priority = r'.priority
  createdAt : r.createdAt = r'.createdAt
  action : r.action = r'.action
  hitCount : r.hitCount = r'.hitCount
  digest : r.ruleType = .ua → sha256 (utf8Encode r.pattern) = sha256 (utf8Encode r'.pattern)

theorem CountedRule.Alike.refl (sha256 : List UInt8 → Digest) (r : CountedRule) :
    r.Alike sha256 r := ⟨rfl, rfl, rfl, rfl, rfl, rfl, fun _ ↦ rfl⟩

/-- **Databases that agree in what telemetry may tell**, row by row. -/
structure TelemetryDb.Alike (sha256 : List UInt8 → Digest) (db db' : TelemetryDb) : Prop where
  blockRules : List.Forall₂ (CountedRule.Alike sha256) db.blockRules db'.blockRules
  requestLogs : List.Forall₂ RequestLog.Alike db.requestLogs db'.requestLogs

/-! ### What is read of them -/

variable {sha256 : List UInt8 → Digest} {db db' : TelemetryDb}

/-- The logs of the period agree, in their order. -/
theorem TelemetryDb.Alike.forall₂_logsInPeriod (h : db.Alike sha256 db')
    (periodStart periodEnd : DateTime) :
    List.Forall₂ RequestLog.Alike (logsInPeriod db periodStart periodEnd)
      (logsInPeriod db' periodStart periodEnd) := by
  refine rel_insertionSort (fun l l' l₁ l₁' hl hl₁ ↦ ?_) (forall₂_filter (fun l l' hl ↦ ?_)
    h.requestLogs)
  · rw [hl.timestamp, hl₁.timestamp]
  · rw [hl.timestamp]

/-- The user-agent rules agree, in their order. -/
theorem TelemetryDb.Alike.forall₂_reportedRules (h : db.Alike sha256 db') :
    List.Forall₂ (CountedRule.Alike sha256) (reportedRules db) (reportedRules db') := by
  refine rel_insertionSort (fun r r' r₁ r₁' hr hr₁ ↦ ?_) (forall₂_filter (fun r r' hr ↦ ?_)
    h.blockRules)
  · rw [hr.priority, hr₁.priority, hr.createdAt, hr₁.createdAt]
  · rw [CountedRule.reported, CountedRule.reported, hr.source, hr.ruleType]

theorem ruleType_of_mem_reportedRules {r : CountedRule} (h : r ∈ reportedRules db) :
    r.ruleType = .ua := by
  rw [reportedRules, List.mem_insertionSort] at h
  have hreported := (List.mem_filter.1 h).2
  rw [CountedRule.reported, Bool.and_eq_true] at hreported
  exact of_decide_eq_true hreported.2

/-- **Digest, action and hits** are what is told of a rule. -/
theorem TelemetryDb.Alike.uaHashes (h : db.Alike sha256 db') :
    (reportedRules db).map (CountedRule.uaHash sha256) =
      (reportedRules db').map (CountedRule.uaHash sha256) := by
  have hboth := (List.forall₂_and_left _ _).2
    ⟨fun r (hr : r ∈ reportedRules db) ↦ ruleType_of_mem_reportedRules hr, h.forall₂_reportedRules⟩
  refine map_eq (fun r r' ⟨hua, hr⟩ ↦ ?_) hboth
  rw [CountedRule.uaHash, CountedRule.uaHash, hr.digest hua, hr.action, hr.hitCount]

/-- One row is counted alike. -/
theorem RequestLog.Alike.countLog_eq {l l' : RequestLog} (h : l.Alike l')
    (subnets : List SubnetHits) : countLog subnets l = countLog subnets l' := by
  rw [countLog, countLog, h.address.getSubnetPrefix_eq, h.verdict]

/-! ### The theorem -/

/-- **Telemetry reveals no more than it promises.** Two databases whose rules agree up to user-agent
patterns of one digest, and whose log rows agree in order, timestamp, verdict and subnet, have one
payload: nothing else of a row is in it. -/
theorem telemetry_reveals_no_more (h : db.Alike sha256 db') (src : InstallIdSource)
    (periodStart periodEnd : DateTime) :
    buildTelemetryPayload sha256 src db periodStart periodEnd =
      buildTelemetryPayload sha256 src db' periodStart periodEnd := by
  have hlogs := h.forall₂_logsInPeriod periodStart periodEnd
  have hsubnets := foldl_eq (fun subnets l l' (hl : l.Alike l') ↦ hl.countLog_eq subnets) hlogs []
  have hverdict : ∀ v, verdictCount (logsInPeriod db periodStart periodEnd) v =
      verdictCount (logsInPeriod db' periodStart periodEnd) v := fun v ↦
    countP_eq (fun l l' hl ↦ by rw [hl.verdict]) hlogs
  simp only [buildTelemetryPayload, h.uaHashes, hsubnets, hverdict, hlogs.length_eq]

/-- A request at noon, from some address, for some page and with some user agent. -/
def noonRequest (ip path userAgent : String) (verdict : Verdict) : RequestLog where
  timestamp := leapNoon.seconds
  ipAddress := ip
  userAgent
  path
  verdict
  responseCode := none
  referer := path
  source := .middleware

/-- Three requests, and a user-agent rule that was hit three times. -/
def threeRequests (ipv4 ipv6 nobody path userAgent : String) : TelemetryDb where
  blockRules := [{ (cloudSprayUaWrite "curl/8.5" 3 0).create plainConf 1 0 with hitCount := 3 }]
  requestLogs := [noonRequest ipv4 path userAgent .blocked,
    noonRequest ipv6 path userAgent .challenged, noonRequest nobody path userAgent .allowed]

/-- Other hosts of the same subnets, other pages and other user agents, and one payload. -/
theorem telemetry_reveals_no_more_three :
    let src : InstallIdSource := ⟨none, some "", "9f1c2f0e-5d7c-4f43-9c6f-0d7d7b8f3a11"⟩
    let db := threeRequests "192.0.2.7" "2001:db8:0:1::9" "unknown" "/contact" "curl/8.5"
    let db' := threeRequests "192.0.2.250" "2001:DB8::ff" "" "/account/42" "Mozilla/5.0"
    (buildTelemetryPayload keyedConf.sha256 src db leapNoon.utc leapNoon.utc).subnets =
        [⟨"192.0.2.0/24", .blocked, 1⟩, ⟨"2001:db8::/48", .challenged, 1⟩] ∧
      buildTelemetryPayload keyedConf.sha256 src db leapNoon.utc leapNoon.utc =
        buildTelemetryPayload keyedConf.sha256 src db' leapNoon.utc leapNoon.utc := by
  intro src db db'
  refine ⟨?_, telemetry_reveals_no_more ⟨?_, ?_⟩ src _ _⟩
  · show (logsInPeriod db leapNoon.utc leapNoon.utc).foldl countLog [] = _
    decide +kernel
  · exact .cons (.refl _ _) .nil
  · refine .cons ⟨rfl, rfl, ?_⟩ (.cons ⟨rfl, rfl, ?_⟩ (.cons ⟨rfl, rfl, ?_⟩ .nil))
    · show SamePrefix "192.0.2.7" "192.0.2.250"
      decide
    · show SamePrefix "2001:db8:0:1::9" "2001:DB8::ff"
      decide
    · show SamePrefix "unknown" ""
      decide

end DjangoWaf
