/-
The tables of the workflow.

The queue holds the jobs of the workers.  A media item has matches, which a resolution brought, and
at most one confirmed review of its identity; it is searched for in runs, one for each site at a
time, which bring candidates.

Main definitions:

* `Models.JobType`, `Models.JobPayload`, `Models.Job` — the jobs;
* `Models.DiscoveryRun`, `Models.MetadataMatch`, `Models.IdentityReview`,
  `Models.TorrentSearchRun`, `Models.TorrentCandidateRecord` — the rows;
* `Models.WorkflowDb` — the database.
-/

import LibSeek.Models.Entities
import LibSeek.Schemas.Metadata

set_option relaxedAutoImplicit false
set_option autoImplicit false

namespace LibSeek.Models

open LibSeek.Core LibSeek.Lib LibSeek.Schemas

/-! ### Jobs -/

/-- The type of a job, which names what it is about: `DISCOVER_…`, `RESOLVE_METADATA:…`,
`TORRENT_SEARCH:…:…`, the form of the latter without a site, and `AUTOMATION_PREFLIGHT:…`. -/
inductive JobType where
  | discover (source : String)
  | resolveMetadata (mediaId : String)
  | torrentSearch (siteId mediaId : String)
  | legacyTorrentSearch (mediaId : String)
  | automationPreflight (approvalId : String)
  deriving DecidableEq, Repr

/-- `job_type.startswith("RESOLVE_METADATA:")`. -/
def JobType.isResolution : JobType → Bool
  | resolveMetadata _ => true
  | _ => false

/-- `job_type.startswith("TORRENT_SEARCH:")`. -/
def JobType.isTorrentSearch : JobType → Bool
  | torrentSearch _ _ | legacyTorrentSearch _ => true
  | _ => false

/-- `job_type.startswith("AUTOMATION_PREFLIGHT:")`. -/
def JobType.isAutomationPreflight : JobType → Bool
  | automationPreflight _ => true
  | _ => false

/-- The input of a resolution, whose digest is its fingerprint. -/
structure ResolutionInput where
  source : String
  sourceItemId : String
  mediaType : MediaType
  tmdbId : Option Int
  title : String
  originalTitle : Option String
  year : Option Int
  deriving DecidableEq, Repr

/-- The preferences that a search comes to. -/
structure EffectivePreferences where
  resolutions : List String
  sources : List String
  audio : List String
  subtitles : List String
  maxSizeBytes : Option Int
  deriving DecidableEq, Repr

/-- The input of a search, whose digest is its fingerprint. -/
structure SearchInput where
  mediaType : MediaType
  tmdbId : Option Int
  title : String
  year : Option Int
  missingEpisodes : Option (List String)
  identityReviewId : String
  identitySnapshot : JsonColumn MetadataRecord
  request : TorrentSearchCreateRequest
  effectivePreferences : EffectivePreferences
  deriving DecidableEq, Repr

/-- What a fingerprint is the digest of. -/
inductive JobInput where
  | resolution (input : ResolutionInput)
  | search (input : SearchInput)
  deriving DecidableEq, Repr

/-- The payload of a job: every kind of job has some of the members. -/
structure JobPayload where
  source : Option String := none
  mediaId : Option String := none
  searchRunId : Option String := none
  siteId : Option String := none
  inputFingerprint : Option (Digest JobInput) := none
  approvalId : Option String := none
  approvalSnapshotHash : Option SnapshotHash := none
  automationPolicyRevisionId : Option String := none
  automationDecisionId : Option String := none
  readOnly : Bool := true
  deriving DecidableEq

structure Job where
  id : String
  jobType : JobType
  status : JobStatus
  payload : JobPayload
  runId : Option String := none
  attempts : ℕ := 0
  maxAttempts : ℕ := 3
  nextRetryAt : Option DateTime := none
  lockedAt : Option DateTime := none
  lockedBy : Option String := none
  leaseToken : Option String := none
  errorCode : Option String := none
  errorMessage : Option String := none
  createdAt : DateTime
  deriving DecidableEq

/-- `ACTIVE_JOB_STATUSES`. -/
def isActiveJob : JobStatus → Bool
  | .pending | .running | .retryWait => true
  | .succeeded | .failed | .cancelled => false

/-! ### Discoveries and identities -/

structure DiscoveryRun where
  id : String
  source : String
  status : JobStatus
  startedAt : Option DateTime := none
  finishedAt : Option DateTime := none
  discoveredCount : ℕ := 0
  createdCount : ℕ := 0
  updatedCount : ℕ := 0
  errorCode : Option String := none
  errorMessage : Option String := none
  createdAt : DateTime
  deriving DecidableEq

structure MetadataMatch where
  id : String
  mediaId : String
  resolutionJobId : Option String
  tmdbId : Int
  rank : ℕ
  score : Rat
  matchReasons : List String
  conflicts : List String
  candidateSnapshot : JsonColumn MetadataRecord
  createdAt : DateTime
  deriving DecidableEq

structure IdentityReview where
  id : String
  mediaId : String
  metadataMatchId : String
  status : String
  confirmedBy : String
  candidateSnapshot : JsonColumn MetadataRecord
  createdAt : DateTime
  deriving DecidableEq

/-! ### Searches -/

/-- `ACTIVE_SEARCH_STATUSES`. -/
def isActiveSearch : WorkflowStatus → Bool
  | .ptSearchPending | .ptSearching => true
  | _ => false

structure TorrentSearchRun where
  id : String
  mediaId : String
  siteId : String
  status : WorkflowStatus
  strategyLog : List (String × ℕ) := []
  sanitizedRequest : JsonColumn TorrentSearchCreateRequest
  candidateCount : ℕ := 0
  errorCode : Option String := none
  errorMessage : Option String := none
  startedAt : Option DateTime := none
  finishedAt : Option DateTime := none
  createdAt : DateTime
  deriving DecidableEq

structure TorrentCandidateRecord where
  id : String
  searchRunId : String
  siteId : String
  torrentId : String
  candidateSnapshot : TorrentCandidate
  matchScore : Rat
  matchReasons : List String
  warnings : List String
  createdAt : DateTime
  deriving DecidableEq

/-- A row of the audit, without its details. -/
structure AuditEvent where
  eventType : String
  entityType : String
  entityId : String
  deriving DecidableEq, Repr

/-! ### The database -/

instance : Keyed Job String := ⟨Job.id⟩
instance : Keyed DiscoveryRun String := ⟨DiscoveryRun.id⟩
instance : Keyed MetadataMatch String := ⟨MetadataMatch.id⟩
instance : Keyed IdentityReview String := ⟨IdentityReview.id⟩
instance : Keyed TorrentSearchRun String := ⟨TorrentSearchRun.id⟩
instance : Keyed TorrentCandidateRecord String := ⟨TorrentCandidateRecord.id⟩

@[simp] theorem key_queuedJob (j : Job) : Keyed.key j = j.id := rfl
@[simp] theorem key_discoveryRun (r : DiscoveryRun) : Keyed.key r = r.id := rfl
@[simp] theorem key_metadataMatch (m : MetadataMatch) : Keyed.key m = m.id := rfl
@[simp] theorem key_identityReview (r : IdentityReview) : Keyed.key r = r.id := rfl
@[simp] theorem key_searchRun (r : TorrentSearchRun) : Keyed.key r = r.id := rfl
@[simp] theorem key_torrentCandidate (c : TorrentCandidateRecord) : Keyed.key c = c.id := rfl

/-- The database of the workflow, beside the one of the control plane. -/
structure WorkflowDb where
  control : Db := {}
  media : Table MediaItem := ∅
  queue : Table Job := ∅
  discoveryRuns : Table DiscoveryRun := ∅
  metadataMatches : Table MetadataMatch := ∅
  reviews : Table IdentityReview := ∅
  searchRuns : Table TorrentSearchRun := ∅
  candidates : Table TorrentCandidateRecord := ∅
  audit : List AuditEvent := []

end LibSeek.Models
