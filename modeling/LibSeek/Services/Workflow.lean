/-
The workflow of a media item.

A media item is resolved, its identity is confirmed, and it is searched for.  Every unit of work
first locks the row of the media item and then asks again for the rows that it decides on.  But a
session that has read a row before, without a lock, goes on with what it has read, and writes no
more than it has changed of that: this matters to the routes of an operator, and to a worker whose
job fails.

Main definitions:

* `Services.refreshMediaSearchWorkflowStatus` — the status of a media item that is searched for;
* `Services.enqueueMetadataResolution` — the jobs that resolve;
* `Services.identityFinalizationEvidence` — **what shows that an identity is final**;
* `Services.strictIdentityAutoConfirmationMatch` — the deterministic rule;
* `Services.confirmIdentity` — the confirmation;
* `Services.enqueueTorrentSearch` — the runs of a search.
-/

import LibSeek.Lib.Session
import LibSeek.Models.Workflow
import LibSeek.Services.AutomationPolicy

set_option relaxedAutoImplicit false
set_option autoImplicit false

namespace LibSeek.Services

open LibSeek.Core LibSeek.Lib LibSeek.Models LibSeek.Schemas

/-! ### Units of work -/

/-- A unit of work on the database of the workflow. -/
abbrev WorkflowTx (α : Type) := Tx WorkflowDb Exn α

/-- A unit of work on the tables of the control plane. -/
def inControl {α : Type} (m : DbTx α) : WorkflowTx α :=
  Tx.zoom WorkflowDb.control (fun db control => { db with control }) m

/-- The settings that the workflow reads besides. -/
structure WorkflowSettings extends Settings where
  enableTmdbLive : Bool := false
  tmdbConfigured : Bool := false
  preferredResolutions : List String := []
  preferredSources : List String := []
  preferredAudio : List String := []
  preferredSubtitles : List String := []

def addAudit (eventType entityType entityId : String) : WorkflowTx Unit :=
  Tx.modify fun db => { db with audit := db.audit ++ [{ eventType, entityType, entityId }] }

def saveMedia (media : Models.MediaItem) : WorkflowTx Unit :=
  Tx.modify fun db => { db with media := db.media.save media }

def saveQueuedJob (job : Job) : WorkflowTx Unit :=
  Tx.modify fun db => { db with queue := db.queue.save job }

def saveDiscoveryRun (run : DiscoveryRun) : WorkflowTx Unit :=
  Tx.modify fun db => { db with discoveryRuns := db.discoveryRuns.save run }

def saveSearchRun (run : TorrentSearchRun) : WorkflowTx Unit :=
  Tx.modify fun db => { db with searchRuns := db.searchRuns.save run }

/-- The active job of a type. -/
def activeJob (db : WorkflowDb) (jobType : JobType) : Option Job :=
  db.queue.rows.find? fun j => j.jobType = jobType ∧ isActiveJob j.status

/-- A new job: its identifier is new, and it is the only active one of its type. -/
def insertQueuedJob (job : Job) : WorkflowTx Unit := do
  let db ← Tx.get
  Tx.require (db.queue.get? job.id = none ∧ activeJob db job.jobType = none) .integrity
  saveQueuedJob job

/-- The row of a job after what a session has set on it is written: `held` is the job as the
session has read it, `job` what it has made of it, and `row` the row by now. -/
def writtenJob (held job row : Job) : Job :=
  { row with
    status := writeBack held.status job.status row.status
    nextRetryAt := writeBack held.nextRetryAt job.nextRetryAt row.nextRetryAt
    lockedAt := writeBack held.lockedAt job.lockedAt row.lockedAt
    lockedBy := writeBack held.lockedBy job.lockedBy row.lockedBy
    leaseToken := writeBack held.leaseToken job.leaseToken row.leaseToken
    errorCode := writeBack held.errorCode job.errorCode row.errorCode
    errorMessage := writeBack held.errorMessage job.errorMessage row.errorMessage }

/-- What a session has set on a job is written; a type has one active job. -/
def writeQueuedJob (held job row : Job) : WorkflowTx Unit := do
  let db ← Tx.get
  Tx.require (isActiveJob (writtenJob held job row).status = true →
    isActiveJob row.status = true ∨ activeJob db row.jobType = none) .integrity
  saveQueuedJob (writtenJob held job row)

/-- The row of a media item, which is locked. -/
def lockMedia (mediaId : String) : WorkflowTx Models.MediaItem := do
  let db ← Tx.get
  Tx.ofOption (db.media.get? mediaId)
    (.app { errorCode := "MEDIA_NOT_FOUND", message := "影视条目不存在", statusCode := 404 })

/-- The row of a media item after what a session has set on it is written: `held` is the media item
as the session has read it, `media` what it has made of it, and `row` the row by now. -/
def writtenMedia (held media row : Models.MediaItem) : Models.MediaItem :=
  { row with
    tmdbId := writeBack held.tmdbId media.tmdbId row.tmdbId
    mediaType := writeBack held.mediaType media.mediaType row.mediaType
    countryCodes := writeBack held.countryCodes media.countryCodes row.countryCodes
    missingEpisodes := writeBack held.missingEpisodes media.missingEpisodes row.missingEpisodes
    identityConfidence :=
      writeBack held.identityConfidence media.identityConfidence row.identityConfidence
    metadataStatus := writeBack held.metadataStatus media.metadataStatus row.metadataStatus
    workflowStatus := writeBack held.workflowStatus media.workflowStatus row.workflowStatus }

/-- The media item that has the place of another one in the catalogue already. -/
def occupyingMedia (db : WorkflowDb) (media : Models.MediaItem) : Option Models.MediaItem :=
  db.media.rows.find? fun m =>
    m.id ≠ media.id ∧ m.source = media.source ∧ m.mediaType = media.mediaType ∧
      m.tmdbId = media.tmdbId ∧ (media.tmdbId = none → m.sourceItemId = media.sourceItemId)

/-- What a session has set on a media item is written; no two have one place in the catalogue. -/
def writeMedia (held media row : Models.MediaItem) : WorkflowTx Unit := do
  let db ← Tx.get
  Tx.require (occupyingMedia db (writtenMedia held media row) = none) .integrity
  saveMedia (writtenMedia held media row)

/-- The newest of some rows. -/
def newest {α : Type} (createdAt : α → DateTime) (rows : List α) : Option α :=
  rows.foldl (fun best row =>
    match best with
    | none => some row
    | some b => if createdAt b < createdAt row then some row else some b) none

/-! ### Fingerprints -/

/-- `metadata_resolution_input_fingerprint`. -/
def metadataResolutionInputFingerprint (media : Models.MediaItem) : Digest JobInput :=
  .sha256 (.resolution
    { source := media.source
      sourceItemId := media.sourceItemId
      mediaType := media.mediaType
      tmdbId := media.tmdbId
      title := media.title
      originalTitle := media.originalTitle
      year := media.year })

/-- `list(requested) or list(default)`. -/
def orPreferred (requested default : List String) : List String :=
  if requested = [] then default else requested

/-- `torrent_search_input_fingerprint`. -/
def torrentSearchInputFingerprint (media : Models.MediaItem) (review : IdentityReview)
    (request : TorrentSearchCreateRequest) (settings : WorkflowSettings) : Digest JobInput :=
  .sha256 (.search
    { mediaType := media.mediaType
      tmdbId := media.tmdbId
      title := media.title
      year := media.year
      missingEpisodes := media.missingEpisodes
      identityReviewId := review.id
      identitySnapshot := review.candidateSnapshot
      request := request
      effectivePreferences :=
        { resolutions := orPreferred request.preferredResolutions settings.preferredResolutions
          sources := orPreferred request.preferredSources settings.preferredSources
          audio := orPreferred request.preferredAudio settings.preferredAudio
          subtitles := orPreferred request.preferredSubtitles settings.preferredSubtitles
          maxSizeBytes :=
            match request.maxSizeBytes with
            | some 0 | none => settings.maxCandidateSizeBytes
            | some size => some size } })

/-! ### The status of a search -/

/-- `SEARCH_STATUS_PRECEDENCE`. -/
def SEARCH_STATUS_PRECEDENCE : List WorkflowStatus :=
  [.torrentReview, .ptSearching, .ptSearchPending, .noCandidate, .searchFailed]

/-- The statuses of the runs of a media item. -/
def searchStatuses (db : WorkflowDb) (mediaId : String) : List WorkflowStatus :=
  (db.searchRuns.rows.filter fun run => run.mediaId = mediaId).map TorrentSearchRun.status

/-- The first status of the precedence that a run of a media item has. -/
def foldedSearchStatus (db : WorkflowDb) (mediaId : String) : Option WorkflowStatus :=
  SEARCH_STATUS_PRECEDENCE.find? fun status => (searchStatuses db mediaId).contains status

/-- `refresh_media_search_workflow_status`: `held` is the status of the media item as the session
has read it, if it has. -/
def refreshMediaSearchWorkflowStatus (mediaId : String) (held : Option WorkflowStatus := none) :
    WorkflowTx WorkflowStatus := do
  let media ← lockMedia mediaId
  let db ← Tx.get
  match foldedSearchStatus db media.id with
  | some status => do
      saveMedia { media with
        workflowStatus :=
          writeBack (held.getD media.workflowStatus) status media.workflowStatus }
      return status
  | none => return held.getD media.workflowStatus

/-! ### Evidence of a final identity -/

/-- The confirmed reviews of a media item. -/
def confirmedReviews (db : WorkflowDb) (mediaId : String) : List IdentityReview :=
  db.reviews.rows.filter fun review => review.mediaId = mediaId ∧ review.status = "CONFIRMED"

/-- `identity_finalization_evidence`. -/
def identityFinalizationEvidence (db : WorkflowDb) (media : Models.MediaItem) : Option String :=
  if confirmedReviews db media.id ≠ [] then some "CONFIRMED_IDENTITY_REVIEW"
  else if db.searchRuns.rows.any (fun run => run.mediaId = media.id) = true then
    some "TORRENT_SEARCH_HISTORY"
  else if media.workflowStatus = .identityConfirmed then some "IDENTITY_CONFIRMED_STATUS"
  else none

/-! ### Jobs that resolve -/

def METADATA_RESOLUTION_SUPERSEDED_ERROR_CODE : String :=
  "METADATA_RESOLUTION_SUPERSEDED"

def METADATA_RESOLUTION_SUPERSEDED_MESSAGE : String :=
  "影视身份已确认或已进入 PT 流程，元数据解析任务已取消"

/-- The row of a job that is cancelled. -/
def cancelledJob (job : Job) : Job :=
  { job with
    status := .cancelled
    errorCode := some METADATA_RESOLUTION_SUPERSEDED_ERROR_CODE
    errorMessage := some METADATA_RESOLUTION_SUPERSEDED_MESSAGE
    nextRetryAt := none
    lockedAt := none
    lockedBy := none
    leaseToken := none }

/-- `cancel_metadata_resolution_job`: `row` is the row of the job by now, which may differ from what
the session holds. -/
def cancelMetadataResolutionJob (job : Job) (row : Job := job) : WorkflowTx Bool :=
  if isActiveJob job.status = true then do
    writeQueuedJob job (cancelledJob job) row
    addAudit "METADATA_RESOLUTION_CANCELLED" "job" job.id
    return true
  else return false

/-- The active jobs that resolve a media item. -/
def activeResolutionJobs (db : WorkflowDb) (mediaId : String) : List Job :=
  db.queue.rows.filter fun j => j.jobType = .resolveMetadata mediaId ∧ isActiveJob j.status

/-- The sum over the jobs that are cancelled. -/
def cancelMetadataResolutionJobs : List Job → WorkflowTx ℕ
  | [] => return 0
  | job :: jobs => do
      let cancelled ← cancelMetadataResolutionJob job
      let count ← cancelMetadataResolutionJobs jobs
      return count + cancelled.toNat

/-- `cancel_active_metadata_resolution_jobs`. -/
def cancelActiveMetadataResolutionJobs (mediaId : String) : WorkflowTx ℕ := do
  let db ← Tx.get
  cancelMetadataResolutionJobs (activeResolutionJobs db mediaId)

/-- The job that resolves a media item. -/
def resolutionJob (media : Models.MediaItem) (maxAttempts : ℕ) (newId : Uuid) (now : DateTime) :
    Job where
  id := newId.text
  jobType := .resolveMetadata media.id
  status := .pending
  payload :=
    { mediaId := some media.id
      inputFingerprint := some (metadataResolutionInputFingerprint media) }
  maxAttempts := maxAttempts
  createdAt := now

/-- The media item that awaits its resolution. -/
def resolutionPending (media : Models.MediaItem) : Models.MediaItem :=
  { media with workflowStatus := .metadataPending, metadataStatus := .unresolved }

/-- The last part of `enqueue_metadata_resolution`: there is no such job yet. -/
def queueMetadataResolution (media row : Models.MediaItem) (maxAttempts : ℕ) (newId : Uuid)
    (now : DateTime) : WorkflowTx (Job × Bool) := do
  saveMedia (writtenMedia media (resolutionPending media) row)
  insertQueuedJob (resolutionJob media maxAttempts newId now)
  addAudit "METADATA_RESOLUTION_QUEUED" "media_item" media.id
  return (resolutionJob media maxAttempts newId now, false)

/-- `enqueue_metadata_resolution`: `held` is the media item as the session has read it, if it
has. -/
def enqueueMetadataResolution (mediaId : String) (maxAttempts : ℕ) (newId : Uuid)
    (now : DateTime) (held : Option Models.MediaItem := none) : WorkflowTx (Job × Bool) := do
  let row ← lockMedia mediaId
  let media := held.getD row
  let db ← Tx.get
  Tx.require (identityFinalizationEvidence db media = none)
    (.app (conflict "IDENTITY_ALREADY_CONFIRMED" "该影视身份已确认或已进入 PT 搜索，禁止重新解析"))
  match activeJob db (.resolveMetadata media.id) with
  | some existing => return (existing, true)
  | none => queueMetadataResolution media row maxAttempts newId now

/-! ### The deterministic rule -/

/-- `STRICT_IDENTITY_CONFIRMATION_ACTOR`. -/
def STRICT_IDENTITY_CONFIRMATION_ACTOR : String :=
  "system:strict-identity"

/-- `STRICT_IDENTITY_REQUIRED_REASONS`. -/
def STRICT_IDENTITY_REQUIRED_REASONS : List String :=
  ["TMDB_ID_EXACT", "MEDIA_TYPE_MATCH", "YEAR_MATCH", "TITLE_EXACT"]

section Titles

variable [WorkflowRuntime]

/-- The normal forms of the titles of a record. -/
def candidateTitles (candidate : MetadataRecord) : List String :=
  (([some candidate.title, candidate.chineseTitle, candidate.englishTitle,
    candidate.originalTitle] ++ candidate.aliases.map some).map normalizedIdentityTitle).filter
      (· ≠ "")

/-- The normal forms of the titles of a media item. -/
def sourceTitles (media : Models.MediaItem) : List String :=
  ([some media.title, media.originalTitle].map normalizedIdentityTitle).filter (· ≠ "")

/-- The checks of `strict_identity_auto_confirmation_match` on the one match. -/
def isStrictMatch (media : Models.MediaItem) (stored : MetadataMatch) (resolutionJobId : String) :
    Bool :=
  stored.resolutionJobId == some resolutionJobId && stored.rank == 1 && stored.conflicts == [] &&
    STRICT_IDENTITY_REQUIRED_REASONS.all (fun reason => stored.matchReasons.contains reason) &&
    match stored.candidateSnapshot.parse with
    | none => false
    | some candidate =>
        some stored.tmdbId == media.tmdbId && some candidate.tmdbId == media.tmdbId &&
          candidate.mediaType == media.mediaType && candidate.year.isSome &&
          candidate.year == media.year && !(sourceTitles media).isEmpty &&
          (sourceTitles media).all fun title => (candidateTitles candidate).contains title

/-- `strict_identity_auto_confirmation_match`. -/
def strictIdentityAutoConfirmationMatch (media : Models.MediaItem) (stored : List MetadataMatch)
    (resolutionJobId : String) : Option MetadataMatch :=
  if media.tmdbId = none ∨ media.identityConfidence ≠ .high ∨ media.year = none ∨
      strip media.title = "" then
    none
  else
    match stored with
    | [one] => if isStrictMatch media one resolutionJobId = true then some one else none
    | _ => none

end Titles

/-! ### The confirmation -/

/-- A new review: its identifier is new, and it is the only confirmed one of its media item. -/
def insertReview (review : IdentityReview) : WorkflowTx Unit := do
  let db ← Tx.get
  Tx.require (db.reviews.get? review.id = none ∧ confirmedReviews db review.mediaId = [])
    .integrity
  Tx.modify fun db => { db with reviews := db.reviews.save review }

/-- The review of a confirmation. -/
def confirmedReview (media : Models.MediaItem) (stored : MetadataMatch)
    (candidate : MetadataRecord) (actor : String) (newId : Uuid) (now : DateTime) :
    IdentityReview where
  id := newId.text
  mediaId := media.id
  metadataMatchId := stored.id
  status := "CONFIRMED"
  confirmedBy := actor
  candidateSnapshot := .dump candidate
  createdAt := now

/-- The media item that has another identity in the catalogue already. -/
def conflictingMedia (db : WorkflowDb) (media : Models.MediaItem) (candidate : MetadataRecord) :
    Option Models.MediaItem :=
  db.media.rows.find? fun m =>
    m.id ≠ media.id ∧ m.source = media.source ∧ m.mediaType = candidate.mediaType ∧
      m.tmdbId = some candidate.tmdbId

section Confirmation

variable [WorkflowRuntime]

/-- The media item with its confirmed identity. -/
def confirmedMedia (media : Models.MediaItem) (candidate : MetadataRecord) : Models.MediaItem :=
  { media with
    tmdbId := some candidate.tmdbId
    mediaType := candidate.mediaType
    countryCodes :=
      if media.tmdbId ≠ some candidate.tmdbId ∨ media.mediaType ≠ candidate.mediaType ∨
          media.countryCodes = none then candidate.countryCodes
      else media.countryCodes
    missingEpisodes :=
      if candidate.mediaType = .tv then
        deriveMissingEpisodeCodes candidate.episodeMatrix media.localEpisodeMatrix
          media.missingEpisodes
      else none
    identityConfidence := .high
    metadataStatus := .resolved
    workflowStatus := .identityConfirmed }

/-- `confirm_identity`: `held` is the media item as the session has read it, if it has.  With the
review comes the media item as the session holds it by now. -/
def confirmIdentity (mediaId metadataMatchId actor auditEventType : String) (newId : Uuid)
    (now : DateTime) (held : Option Models.MediaItem := none) :
    WorkflowTx (IdentityReview × Models.MediaItem) := do
  let row ← lockMedia mediaId
  let media := held.getD row
  let db ← Tx.get
  Tx.require (identityFinalizationEvidence db media = none)
    (.app (conflict "IDENTITY_CONFIRMATION_DUPLICATE" "该影视身份已确认或已进入 PT 搜索，禁止重复提交"))
  let stored ← Tx.ofOption
    ((db.metadataMatches.get? metadataMatchId).filter (·.mediaId = media.id))
    (.app { errorCode := "METADATA_MATCH_NOT_FOUND", message := "TMDB 候选不存在"
            statusCode := 404 })
  let candidate ← Tx.ofOption stored.candidateSnapshot.parse (.other "ValidationError")
  Tx.require (conflictingMedia db media candidate = none)
    (.app (conflict "IDENTITY_UNIQUE_CONFLICT" "同一来源中已有影视条目使用该 TMDB ID"))
  let _ ← cancelActiveMetadataResolutionJobs media.id
  writeMedia media (confirmedMedia media candidate) row
  insertReview (confirmedReview media stored candidate actor newId now)
  addAudit auditEventType "media_item" media.id
  return (confirmedReview media stored candidate actor newId now, confirmedMedia media candidate)

/-- `auto_confirm_strict_identity`. -/
def autoConfirmStrictIdentity (media : Models.MediaItem) (stored : List MetadataMatch)
    (resolutionJobId : String) (newId : Uuid) (now : DateTime) :
    WorkflowTx (Option IdentityReview) :=
  match strictIdentityAutoConfirmationMatch media stored resolutionJobId with
  | none => return none
  | some one => do
      let (review, _) ← confirmIdentity media.id one.id STRICT_IDENTITY_CONFIRMATION_ACTOR
        "IDENTITY_CONFIRMED_AUTOMATICALLY" newId now
      return some review

end Confirmation

/-! ### Searches -/

/-- The active runs of a media item on a site. -/
def activeSearchRuns (db : WorkflowDb) (mediaId siteId : String) : List TorrentSearchRun :=
  db.searchRuns.rows.filter fun run =>
    run.mediaId = mediaId ∧ run.siteId = siteId ∧ isActiveSearch run.status

/-- The types of the jobs that search for a media item on a site. -/
def searchJobTypes (mediaId siteId : String) : List JobType :=
  JobType.torrentSearch siteId mediaId ::
    if siteId = "avistaz" then [.legacyTorrentSearch mediaId] else []

/-- The active run of a media item on a site, with the active job of its search. -/
def activeSearch (db : WorkflowDb) (mediaId siteId : String) : Option (TorrentSearchRun × Job) := do
  let run ← newest TorrentSearchRun.createdAt (activeSearchRuns db mediaId siteId)
  let job ← db.queue.rows.find? fun j =>
    j.jobType ∈ searchJobTypes mediaId siteId ∧ isActiveJob j.status
  some (run, job)

/-- A new run: its identifier is new, and it is the only active one of its media item and site. -/
def insertSearchRun (run : TorrentSearchRun) : WorkflowTx Unit := do
  let db ← Tx.get
  Tx.require (db.searchRuns.get? run.id = none ∧ activeSearchRuns db run.mediaId run.siteId = [])
    .integrity
  saveSearchRun run

/-- The run of a search. -/
def newSearchRun (media : Models.MediaItem) (request : TorrentSearchCreateRequest) (newId : Uuid)
    (now : DateTime) : TorrentSearchRun where
  id := newId.text
  mediaId := media.id
  siteId := request.siteId
  status := .ptSearchPending
  sanitizedRequest := .dump request
  createdAt := now

/-- The job of a search. -/
def searchJob (media : Models.MediaItem) (review : IdentityReview)
    (request : TorrentSearchCreateRequest) (runId : String) (maxAttempts : ℕ)
    (settings : WorkflowSettings) (newId : Uuid) (now : DateTime) : Job where
  id := newId.text
  jobType := .torrentSearch request.siteId media.id
  status := .pending
  payload :=
    { mediaId := some media.id
      searchRunId := some runId
      siteId := some request.siteId
      inputFingerprint := some (torrentSearchInputFingerprint media review request settings) }
  maxAttempts := maxAttempts
  createdAt := now

/-- The last part of `enqueue_torrent_search`: there is no such search yet. -/
def queueTorrentSearch (media : Models.MediaItem) (review : IdentityReview)
    (request : TorrentSearchCreateRequest) (settings : WorkflowSettings) (newIds : Uuid × Uuid)
    (now : DateTime) : WorkflowTx (TorrentSearchRun × Job × Bool) := do
  let run := newSearchRun media request newIds.1 now
  let job := searchJob media review request run.id settings.jobMaxAttempts settings newIds.2 now
  insertSearchRun run
  insertQueuedJob job
  addAudit "TORRENT_SEARCH_QUEUED" "torrent_search_run" run.id
  let _ ← refreshMediaSearchWorkflowStatus media.id media.workflowStatus
  return (run, job, false)

/-- `enqueue_torrent_search`: `held` is the media item as the session has read it, if it has. -/
def enqueueTorrentSearch (mediaId : String) (request : TorrentSearchCreateRequest)
    (settings : WorkflowSettings) (newIds : Uuid × Uuid) (now : DateTime)
    (held : Option Models.MediaItem := none) : WorkflowTx (TorrentSearchRun × Job × Bool) := do
  let row ← lockMedia mediaId
  let media := held.getD row
  let db ← Tx.get
  let review ← Tx.ofOption (newest IdentityReview.createdAt (confirmedReviews db media.id))
    (.app (conflict "IDENTITY_CONFIRMATION_REQUIRED" "必须先确认影视身份，才能搜索 PT 候选"))
  match activeSearch db media.id request.siteId with
  | some (run, job) => return (run, job, true)
  | none => queueTorrentSearch media review request settings newIds now

end LibSeek.Services
