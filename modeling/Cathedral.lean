import Cathedral.Arena.AnchorPaths
import Cathedral.Arena.BundleSound
import Cathedral.Arena.MachineDomain
import Cathedral.Arena.ScannerLedger
import Cathedral.Arena.SeasonRuns
import Cathedral.Arena.SubmittedAgents
import Cathedral.Lanes.Distillation
import Cathedral.Lanes.ValidatorRound
import Cathedral.Publisher.ArenaEval
import Cathedral.Publisher.AttestRuns
import Cathedral.Publisher.BitsetCodec
import Cathedral.Publisher.ClaimSolve
import Cathedral.Publisher.ClientIp
import Cathedral.Publisher.CnfStore
import Cathedral.Publisher.CybergymBridge
import Cathedral.Publisher.CybergymReadback
import Cathedral.Publisher.FeedPages
import Cathedral.Publisher.GraphColoring
import Cathedral.Publisher.InstanceCaches
import Cathedral.Publisher.LatinSquare
import Cathedral.Publisher.LeanIngress
import Cathedral.Publisher.ManifestQueue
import Cathedral.Publisher.MechanismIntake
import Cathedral.Publisher.PerHotkeyLimit
import Cathedral.Publisher.PrimaryIndependence
import Cathedral.Publisher.RecentFeed
import Cathedral.Publisher.Refill
import Cathedral.Publisher.ReportStatus
import Cathedral.Publisher.Retention
import Cathedral.Publisher.SatSearch
import Cathedral.Publisher.TeeGpuRows
import Cathedral.Publisher.UidCredit
import Cathedral.Publisher.VectorCache
import Cathedral.Sn39.Dedup
import Cathedral.Sn39.LaunchGate
import Cathedral.Thin.CnfGenerator
import Cathedral.Thin.Commit
import Cathedral.Thin.Miner
import Cathedral.Thin.Mirrors
import Cathedral.Thin.PolicyEvidence
import Cathedral.Thin.PolicyTotal
import Cathedral.Thin.Registrations
import Cathedral.Thin.SignedReports
