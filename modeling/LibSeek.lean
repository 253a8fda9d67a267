import LibSeek.Api.ErrorAtomicity
import LibSeek.Services.Automation
import LibSeek.ControlPlane.DecisionRuns
import LibSeek.Services.DecisionEvidence
import LibSeek.ControlPlane.ExpirySteps
import LibSeek.ControlPlane.ExecutorSteps
import LibSeek.ControlPlane.JointInvariant
import LibSeek.ControlPlane.PolicyIntegrity
import LibSeek.Workers.DownloadExecutor
import LibSeek.Services.Decisions
import LibSeek.Services.PreflightVerdicts
import LibSeek.Services.TorrentLimits
import LibSeek.Core.RuntimeSecrets
import LibSeek.Lib.Provenance
import LibSeek.Lib.Journal
import LibSeek.ControlPlane.ReservedRows
import LibSeek.Executor.Discipline
import LibSeek.Executor.Approved
import LibSeek.Executor.Fences
import LibSeek.MediaImports.Approval
import LibSeek.Adapters.NextFindPaging
import LibSeek.Adapters.GuardedHttp
import LibSeek.Services.TorrentGuarantees
import LibSeek.Services.PlanTags
import LibSeek.Services.Episodes
import LibSeek.Workflow.EpisodeCoverage
import LibSeek.Adapters.NextFindProbe
import LibSeek.Adapters.QbittorrentLookup
import LibSeek.Adapters.QbittorrentSeeding
import LibSeek.ControlPlane.ReservationReplay
import LibSeek.ControlPlane.Monitoring
import LibSeek.Workers.DownloadMonitor
import LibSeek.Adapters.Tmdb
import LibSeek.Lib.Utf8
import LibSeek.Lib.Base64
import LibSeek.Lib.JsonText
import LibSeek.Lib.JsonRoundTrip
import LibSeek.Core.Auth
import LibSeek.Core.AuthTokens
import LibSeek.Lib.Prefixes
import LibSeek.Schemas.ImportPaths
import LibSeek.Workflow.ScoreOrder
import LibSeek.Workflow.QueueRuns
import LibSeek.Workflow.StoredCandidates
import LibSeek.Lib.AsyncStore
import LibSeek.Frontend.Executions
import LibSeek.Frontend.Torrents
import LibSeek.Frontend.TorrentRuns
import LibSeek.ControlPlane.Audit
import LibSeek.ControlPlane.AuditRuns
import LibSeek.ControlPlane.PlanHistory
import LibSeek.Api.ConfirmationAnswers
import LibSeek.ControlPlane.Tampering
import LibSeek.Workflow.OutdatedReads
