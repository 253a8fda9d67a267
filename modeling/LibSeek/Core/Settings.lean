/-
The enumerations of the entities, and the settings.

The settings carry the bounds that their validation imposes, so that no settings outside them can
be built: a positive number of attempts for a job, positive lease times that exceed the renewal
interval, and limits on torrents of at least the declared minima.

Main definitions:

* `Core.ApprovalStatus`, `Core.DownloadExecutionStatus`, … — the enumerations;
* `Core.Settings` — the settings that the modelled services read.
-/

import LibSeek.Core.Runtime

set_option relaxedAutoImplicit false
set_option autoImplicit false

namespace LibSeek.Core

/-! ### Enumerations -/

inductive JobStatus where
  | pending | running | succeeded | failed | retryWait | cancelled
  deriving DecidableEq, Repr

inductive MediaType where
  | movie | tv
  deriving DecidableEq, Repr

inductive ApprovalStatus where
  | pending | approved | executing | rejected | expired | revoked | consumed
  deriving DecidableEq, Repr

/-- The text of a status in the database and in error codes. -/
def ApprovalStatus.value : ApprovalStatus → String
  | pending => "PENDING"
  | approved => "APPROVED"
  | executing => "EXECUTING"
  | rejected => "REJECTED"
  | expired => "EXPIRED"
  | revoked => "REVOKED"
  | consumed => "CONSUMED"

/-- The statuses of which a candidate can have one request only. -/
def ApprovalStatus.isActive : ApprovalStatus → Bool
  | pending | approved | executing => true
  | _ => false

inductive DownloadLaunchMode where
  | addPaused | startImmediately
  deriving DecidableEq, Repr

inductive ExecutionIntentStatus where
  | active | consumed | expired | cancelled
  deriving DecidableEq, Repr

inductive DownloadExecutionStatus where
  | pending | retryWait | validating | submitting | submitted | alreadyPresent
  | outcomeUnknown | reconciliationRequired | reconciliationPending | failed | cancelled
  deriving DecidableEq, Repr

/-- The statuses that hold a lease. -/
def DownloadExecutionStatus.isLeased : DownloadExecutionStatus → Bool
  | validating | submitting => true
  | _ => false

/-- The statuses from the reservation on, in which qBittorrent may hold the torrent. -/
def DownloadExecutionStatus.isReserved : DownloadExecutionStatus → Bool
  | submitting | submitted | alreadyPresent | outcomeUnknown | reconciliationRequired
  | reconciliationPending => true
  | _ => false

/-- The statuses in which the torrent was seen in qBittorrent. -/
def DownloadExecutionStatus.isVerified : DownloadExecutionStatus → Bool
  | submitted | alreadyPresent => true
  | _ => false

inductive DownloadJobStatus where
  | queued | downloading | paused | checking | seeding | completed | missing | error
  deriving DecidableEq, Repr

inductive HnrStatus where
  | unknown | atRisk | satisfied
  deriving DecidableEq, Repr

inductive PreflightStatus where
  | pass | warning | blocked | unknown
  deriving DecidableEq, Repr

/-- The text of a pre-flight status in the details of an error. -/
def PreflightStatus.value : PreflightStatus → String
  | pass => "PASS"
  | warning => "WARNING"
  | blocked => "BLOCKED"
  | unknown => "UNKNOWN"

inductive AutomationMode where
  | disabled | manual | autoIfEligible
  deriving DecidableEq, Repr

inductive AutomationStage where
  | identity | torrentSelection | approval | execution
  deriving DecidableEq, Repr

/-- The text of a stage in the details of an error. -/
def AutomationStage.value : AutomationStage → String
  | identity => "IDENTITY"
  | torrentSelection => "TORRENT_SELECTION"
  | approval => "APPROVAL"
  | execution => "EXECUTION"

inductive DecisionOutcome where
  | actionCreated | manualRequired | disabled | blocked | stale | noop
  deriving DecidableEq, Repr

inductive Origin where
  | manual | automation
  deriving DecidableEq, Repr

/-! ### Settings -/

/-- The defaults are within the bounds. -/
theorem defaultIntentTtl_bounds : (30 : Int) ≤ 300 ∧ (300 : Int) ≤ 900 := by decide

theorem defaultSeconds_bounds : (30 : Int) ≤ 300 ∧ (300 : Int) ≤ 3600 := by decide

theorem defaultTorrentMaxBytes_bounds :
    1024 ≤ 10 * 1024 * 1024 ∧ 10 * 1024 * 1024 ≤ 100 * 1024 * 1024 := by decide

theorem defaultTorrentMaxFiles_bounds : 1 ≤ 20000 ∧ 20000 ≤ 100000 := by decide

theorem defaultJobMaxAttempts_bounds : 1 ≤ 3 ∧ 3 ≤ 20 := by decide

/-- The settings that the modelled services read, with the bounds that their validation imposes.
`qbBaseUrlValue` is what `Settings.qb_base_url_value` returns when it is called: the secret may be
kept in a file, which is read on every call, and nothing stands for the `OSError` of that read. -/
structure Settings where
  enableDownloadExecutionControlPlane : Bool := false
  enableDownloadExecutor : Bool := false
  enableAvistazTorrentFetch : Bool := false
  enableAvistazLiveSearch : Bool := false
  enableQbReadOnly : Bool := false
  enableQbWrite : Bool := false
  enableAutomationEngine : Bool := false
  qbBaseUrlValue : Option (Option String) := some none
  qbAllowedHosts : List String := []
  qbAllowInsecureHttp : Bool := false
  qbTargetCategory : Option String := none
  qbTargetSavePath : Option String := none
  qbSavePathRef : String := "qb-default-save-path"
  qbAllowedSavePaths : List String := []
  qbPlanTags : List String := []
  qbTargetInstanceRef : String := "qb-primary"
  avistazForbiddenQbVersions : List String := []
  maxCandidateSizeBytes : Option Int := none
  approvalDefaultTtlMinutes : Int := 60
  approvalMaxTtlMinutes : Int := 7 * 24 * 60
  approvalPreflightMaxAgeSeconds : Int := 300
  executionIntentDefaultTtlSeconds : Int := 300
  executionIntentMaxTtlSeconds : Int := 900
  downloadExecutionLeaseSeconds : Int := 300
  downloadExecutionRetryBaseSeconds : Int := 30
  downloadExecutionRetryMaxSeconds : Int := 900
  downloadExecutorReadyTtlSeconds : Int := 90
  torrentMaxBytes : ℕ := 10 * 1024 * 1024
  torrentMaxFiles : ℕ := 20000
  jobMaxAttempts : ℕ := 3
  jobLeaseSeconds : Int := 300
  intentTtl_bounds : 30 ≤ executionIntentDefaultTtlSeconds ∧
    executionIntentDefaultTtlSeconds ≤ executionIntentMaxTtlSeconds := by
      first | exact LibSeek.Core.defaultIntentTtl_bounds | decide
  leaseSeconds_bounds : 30 ≤ downloadExecutionLeaseSeconds ∧
    downloadExecutionLeaseSeconds ≤ 3600 := by
      first | exact LibSeek.Core.defaultSeconds_bounds | decide
  torrentMaxBytes_bounds : 1024 ≤ torrentMaxBytes ∧ torrentMaxBytes ≤ 100 * 1024 * 1024 := by
    first | exact LibSeek.Core.defaultTorrentMaxBytes_bounds | decide
  torrentMaxFiles_bounds : 1 ≤ torrentMaxFiles ∧ torrentMaxFiles ≤ 100000 := by
    first | exact LibSeek.Core.defaultTorrentMaxFiles_bounds | decide
  jobMaxAttempts_bounds : 1 ≤ jobMaxAttempts ∧ jobMaxAttempts ≤ 20 := by
    first | exact LibSeek.Core.defaultJobMaxAttempts_bounds | decide
  jobLeaseSeconds_bounds : 30 ≤ jobLeaseSeconds ∧ jobLeaseSeconds ≤ 3600 := by
    first | exact LibSeek.Core.defaultSeconds_bounds | decide

/-- `Settings.download_executor_enabled`. -/
def Settings.downloadExecutorEnabled (s : Settings) : Bool :=
  s.enableDownloadExecutor && s.enableAvistazTorrentFetch && s.enableQbWrite

end LibSeek.Core
