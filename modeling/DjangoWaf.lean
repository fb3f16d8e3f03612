import DjangoWaf.Lib.KeySpace
import DjangoWaf.Lib.SortedSet
import DjangoWaf.Lib.SlidingWindow
import DjangoWaf.Lib.PyStr
import DjangoWaf.Services.RateLimiter
import DjangoWaf.Services.RateLimiterRuns
import DjangoWaf.Lib.IpAddress
import DjangoWaf.Conf
import DjangoWaf.Store
import DjangoWaf.Services.Fingerprint
import DjangoWaf.Services.RuleCache
import DjangoWaf.Services.RuleMatching
import DjangoWaf.Services.AutoRules
import DjangoWaf.Services.RuleEngine
import DjangoWaf.Lib.Run
import DjangoWaf.Middleware
import DjangoWaf.FailOpen
import DjangoWaf.Client
import DjangoWaf.Lib.SlidingCounter
import DjangoWaf.Escalation
import DjangoWaf.BlockedEntries
import DjangoWaf.Rejection
import DjangoWaf.Services.RuleWrites
import DjangoWaf.Invalidation
import DjangoWaf.RuleCacheCoherence
import DjangoWaf.Services.ClientIp
import DjangoWaf.AddressSpelling
import DjangoWaf.Lib.FirstMatch
import DjangoWaf.RuleOrder
import DjangoWaf.RdnsTrust
import DjangoWaf.DurableRejection
import DjangoWaf.Services.AnomalyDetector
import DjangoWaf.ObserveOnly
import DjangoWaf.Promotion
import DjangoWaf.AutoRuleRaces
import DjangoWaf.RetryAfter
import DjangoWaf.ConfirmedDecision
import DjangoWaf.Services.Detectors
import DjangoWaf.Lib.Insertions
import DjangoWaf.DryRun
import DjangoWaf.Lib.Json
import DjangoWaf.Services.PatternValidation
import DjangoWaf.Services.ThreatFeed
import DjangoWaf.FeedErrors
import DjangoWaf.Lib.KeyedTable
import DjangoWaf.FeedSync
import DjangoWaf.Lib.NginxLexer
import DjangoWaf.Services.BlocklistGenerator
import DjangoWaf.EdgeInjection
import DjangoWaf.EdgeAgreement
import DjangoWaf.EdgeDisagreement
import DjangoWaf.GuardedRegexes
import DjangoWaf.RuleTransfer
import DjangoWaf.Lib.PyDict
import DjangoWaf.Forms.Protection
import DjangoWaf.Forms.Replay
import DjangoWaf.Forms.Verdicts
import DjangoWaf.Forms.Rendering
import DjangoWaf.TokenRoundTrip
import DjangoWaf.MalformedTokens
import DjangoWaf.SignedArtefacts
import DjangoWaf.TokenBinding
import DjangoWaf.HonestVisit
import DjangoWaf.HonestBrowser
import DjangoWaf.Services.FlushProbe
import DjangoWaf.FlushProbe
import DjangoWaf.ProbeVerdict
import DjangoWaf.FormScores
import DjangoWaf.Forms.Decorators
import DjangoWaf.ChallengeReplay
import DjangoWaf.Forms.Mixin
import DjangoWaf.FailedValidation
import DjangoWaf.SpentOnce
import DjangoWaf.SignupVelocity
import DjangoWaf.Services.ChallengeService
import DjangoWaf.SolvedOnce
import DjangoWaf.CacheAgreement
import DjangoWaf.PassCookie
import DjangoWaf.Lib.JsNumber
import DjangoWaf.JsSha256
import DjangoWaf.PageSolver
import DjangoWaf.ChallengeReturn
import DjangoWaf.Services.LogIngestion
import DjangoWaf.LogBatches
import DjangoWaf.LogDedup
import DjangoWaf.HitCounts
import DjangoWaf.SitePasswordGate
import DjangoWaf.Lib.BoundedQueue
import DjangoWaf.ReplayStash
import DjangoWaf.PathLimits
import DjangoWaf.Lib.IpAddressText
import DjangoWaf.SubnetCounts
import DjangoWaf.SubnetRules
import DjangoWaf.Lib.OrderStatistics
import DjangoWaf.SubnetBurst
import DjangoWaf.DedupeMigration
import DjangoWaf.HoneypotTraps
import DjangoWaf.Lib.RelatedLists
import DjangoWaf.Services.Telemetry
import DjangoWaf.TelemetryPrivacy
import DjangoWaf.Services.ScraperDetector
import DjangoWaf.ScraperVetting
import DjangoWaf.Services.BlocklistActivation
import DjangoWaf.BlocklistRollback
import DjangoWaf.Lib.KeyFamilies
import DjangoWaf.Forms.Credentials
import DjangoWaf.LoginSecrecy
import DjangoWaf.Lib.JoinedSet
import DjangoWaf.Lib.BigEndian
import DjangoWaf.LeadingZeros
import DjangoWaf.DetectorProvenance
import DjangoWaf.Services.TrustedUser
import DjangoWaf.FrontDoor
import DjangoWaf.Views
import DjangoWaf.SiteRuns
import DjangoWaf.Admission
import DjangoWaf.Services.DetectorProbe
import DjangoWaf.DetectorProbe
import DjangoWaf.ProbeWrites
