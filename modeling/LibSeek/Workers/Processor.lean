/-
The workers of the queue.

A worker claims the oldest job that is due, works on it outside of any transaction, and writes what
came of it in one transaction, at whose start the job is locked and the lease is compared.  Only
where a job fails is it read before it is locked, and the lease is compared with what was read.

Main definitions:

* `Workers.JobProcessor` — a worker;
* `Workers.claimJob`, `Workers.renewJobLease`, `Workers.JobProcessor.ownsLease` — claims;
* `Workers.prepareMetadataResolution`, `Workers.completeMetadataResolution` — resolutions;
* `Workers.completeTorrentSearch` — searches;
* `Workers.completeDiscovery`, `Workers.checkpointCountryCodes` — discoveries;
* `Workers.failJob` — failures and retries.
-/

import LibSeek.Services.IdentityAutomation

set_option relaxedAutoImplicit false
set_option autoImplicit false

namespace LibSeek.Workers

open LibSeek.Core LibSeek.Lib LibSeek.Models LibSeek.Schemas LibSeek.Services

/-- `JobProcessor`, with the settings that its transactions read. -/
structure JobProcessor where
  workerId : String
  leaseSeconds : Int := 300
  autoEnqueueMetadataResolution : Bool := false
  leaseSeconds_pos : 0 < leaseSeconds := by decide

/-! ### Claims -/

/-- The jobs that can be claimed. -/
def claimable (p : JobProcessor) (now : DateTime) (job : Job) : Bool :=
  (match job.status with
    | .pending => true
    | .retryWait => job.nextRetryAt.all (· ≤ now)
    | .running => job.lockedAt.any (· < now - seconds p.leaseSeconds)
    | _ => false) && job.attempts < job.maxAttempts && !job.jobType.isAutomationPreflight

/-- The oldest of some jobs. -/
def oldestJob (jobs : List Job) : Option Job :=
  jobs.foldl (fun best job =>
    match best with
    | none => some job
    | some b => if job.createdAt < b.createdAt then some job else some b) none

/-- The row of a job that is claimed. -/
def claimedJob (p : JobProcessor) (leaseToken : Uuid) (now : DateTime) (job : Job) : Job :=
  { job with
    status := .running
    attempts := job.attempts + 1
    lockedAt := some now
    lockedBy := some p.workerId
    leaseToken := some leaseToken.text
    nextRetryAt := none }

/-- The discovery of a job that is claimed, if it has one. -/
def startDiscoveryRun (job : Job) (now : DateTime) : WorkflowTx Unit := do
  let db ← Tx.get
  match job.runId.bind db.discoveryRuns.get? with
  | none => return ()
  | some run => do
      saveDiscoveryRun { run with
        status := .running
        startedAt := some (run.startedAt.getD now)
        errorCode := none
        errorMessage := none }
      addAudit "DISCOVERY_RUN_STARTED" "discovery_run" run.id

/-- The media item of a search that is claimed. -/
def searchedMedia (db : WorkflowDb) (job : Job) : Option Models.MediaItem :=
  if job.jobType.isTorrentSearch then job.payload.mediaId.bind db.media.get? else none

/-- The status of a media item, if there is one. -/
def refreshSearched : Option Models.MediaItem → WorkflowTx Unit
  | none => return ()
  | some media => do
      let _ ← refreshMediaSearchWorkflowStatus media.id
      return ()

/-- The run of a search that is claimed, if the job has one. -/
def startSearchRun (job : Job) (now : DateTime) : WorkflowTx Unit := do
  let db ← Tx.get
  match job.payload.searchRunId.bind db.searchRuns.get? with
  | none => return ()
  | some run => do
      saveSearchRun { run with
        status := .ptSearching
        startedAt := some (run.startedAt.getD now) }
      refreshSearched (searchedMedia db job)

/-- `claim_job`: `locked` are the jobs whose rows are locked, which are skipped. -/
def claimJob (p : JobProcessor) (leaseToken : Uuid) (now : DateTime) (locked : String → Bool) :
    WorkflowTx (Option Job) := do
  let db ← Tx.get
  match oldestJob (db.queue.rows.filter fun job => claimable p now job && !locked job.id) with
  | none => return none
  | some job => do
      let claimed := claimedJob p leaseToken now job
      saveQueuedJob claimed
      startDiscoveryRun claimed now
      startSearchRun claimed now
      return some claimed

/-- `_owns_lease`. -/
def JobProcessor.ownsLease (p : JobProcessor) (job : Job) (leaseToken : Option String) : Bool :=
  leaseToken.any (· ≠ "") && job.status == .running && job.lockedBy == some p.workerId &&
    job.leaseToken == leaseToken

/-- The job of a worker that still holds its lease. -/
def ownedJob (p : JobProcessor) (db : WorkflowDb) (jobId : String) (leaseToken : Option String) :
    Option Job :=
  (db.queue.get? jobId).filter fun job => p.ownsLease job leaseToken

/-- `renew_lease`. -/
def renewJobLease (p : JobProcessor) (jobId : String) (leaseToken : Option String)
    (now : DateTime) : WorkflowTx Bool := do
  let db ← Tx.get
  match ownedJob p db jobId leaseToken with
  | none => return false
  | some job => do
      saveQueuedJob { job with lockedAt := some now }
      return true

/-- The row of a job that succeeded. -/
def succeededJob (job : Job) : Job :=
  { job with
    status := .succeeded
    lockedAt := none
    lockedBy := none
    leaseToken := none
    errorCode := none
    errorMessage := none }

/-! ### Resolutions -/

/-- `MetadataResolutionInput`. -/
structure MetadataResolutionInput where
  mediaId : String
  mediaType : MediaType
  tmdbId : Option Int
  title : String
  year : Option Int

/-- `_prepare_metadata_resolution`. -/
def prepareMetadataResolution (p : JobProcessor) (jobId mediaId : String)
    (leaseToken : Option String) : WorkflowTx (Option MetadataResolutionInput) := do
  let media ← lockMedia mediaId
  let db ← Tx.get
  match ownedJob p db jobId leaseToken with
  | none => return none
  | some job =>
      if (identityFinalizationEvidence db media).isSome = true then do
        let _ ← cancelMetadataResolutionJob job
        return none
      else
        return some
          { mediaId := media.id, mediaType := media.mediaType, tmdbId := media.tmdbId
            title := media.title, year := media.year }

/-- `{candidate.tmdb_id: candidate for candidate in candidates}`: a later record takes the place of
an earlier one with its identifier. -/
def uniqueCandidates (candidates : List MetadataRecord) : List MetadataRecord :=
  candidates.foldl (fun unique candidate =>
    if unique.any (fun other => other.tmdbId = candidate.tmdbId) then
      unique.map fun other => if other.tmdbId = candidate.tmdbId then candidate else other
    else unique ++ [candidate]) []

section Resolution

variable [WorkflowRuntime]

/-- The five best candidates, the best first. -/
def rankedCandidates (media : Models.MediaItem) (candidates : List MetadataRecord) :
    List (MetadataRecord × MetadataMatchScore) :=
  (((uniqueCandidates candidates).map fun candidate =>
    (candidate, scoreMetadataMatch media candidate media.tmdbId)).insertionSort
      fun a b => b.2.score ≤ a.2.score).take 5

/-- The candidate that is the media item itself, for a series. -/
def exactTvCandidate (media : Models.MediaItem)
    (ranked : List (MetadataRecord × MetadataMatchScore)) : Option MetadataRecord :=
  (ranked.find? fun one =>
    media.tmdbId = some one.1.tmdbId ∧ media.mediaType = .tv ∧ one.1.mediaType = .tv ∧
      one.2.conflicts = []).map Prod.fst

/-- The media item whose candidates are ready for a review. -/
def reviewableMedia (media : Models.MediaItem)
    (ranked : List (MetadataRecord × MetadataMatchScore)) : Models.MediaItem :=
  { media with
    missingEpisodes :=
      match exactTvCandidate media ranked with
      | some candidate =>
          deriveMissingEpisodeCodes candidate.episodeMatrix media.localEpisodeMatrix
            media.missingEpisodes
      | none => media.missingEpisodes
    workflowStatus := .identityReview
    metadataStatus := .needsConfirmation }

omit [WorkflowRuntime] in
/-- The matches that are stored for the candidates. -/
def storedMatches (mediaId jobId : String) (newId : ℕ → Uuid) (now : DateTime)
    (ranked : List (MetadataRecord × MetadataMatchScore)) : List MetadataMatch :=
  ranked.mapIdx fun i one =>
    { id := (newId i).text
      mediaId := mediaId
      resolutionJobId := some jobId
      tmdbId := one.1.tmdbId
      rank := i + 1
      score := one.2.score
      matchReasons := one.2.reasons
      conflicts := one.2.conflicts
      candidateSnapshot := .dump one.1
      createdAt := now }

omit [WorkflowRuntime] in
/-- New matches, whose identifiers are new. -/
def insertMatches : List MetadataMatch → WorkflowTx Unit
  | [] => return ()
  | one :: others => do
      let db ← Tx.get
      Tx.require (db.metadataMatches.get? one.id = none) .integrity
      Tx.modify fun db => { db with metadataMatches := db.metadataMatches.save one }
      insertMatches others

/-- The judgement on the identity after the candidates are stored: the deterministic rule first, and
then the policy. -/
def automateIdentity (job : Job) (media : Models.MediaItem) (stored : List MetadataMatch)
    (settings : WorkflowSettings) (env : IdentityEnvironment) : WorkflowTx Unit := do
  let strictReview ← autoConfirmStrictIdentity media stored job.id (env.newId 2) (env.clock 1)
  match strictReview with
  | none => do
      let _ ← maybeAutomateIdentity job media settings env
      return ()
  | some _ => do
      let confirmed ← lockMedia media.id
      let _ ← maybeAutomateTorrentSearchAfterIdentity confirmed settings env
      return ()

/-- The last part of `_complete_metadata_resolution`: the job is owned, and what it resolves has not
changed. -/
def storeCandidates (job : Job) (media : Models.MediaItem) (candidates : List MetadataRecord)
    (settings : WorkflowSettings) (matchId : ℕ → Uuid) (env : IdentityEnvironment) :
    WorkflowTx Unit := do
  let ranked := rankedCandidates media candidates
  let stored := storedMatches media.id job.id matchId (env.clock 0) ranked
  let reviewable := reviewableMedia media ranked
  insertMatches stored
  saveQueuedJob (succeededJob job)
  saveMedia reviewable
  automateIdentity job reviewable stored settings env
  addAudit "METADATA_CANDIDATES_READY" "media_item" media.id

/-- `_complete_metadata_resolution`. -/
def completeMetadataResolution (p : JobProcessor) (jobId mediaId : String)
    (candidates : List MetadataRecord) (leaseToken : Option String) (settings : WorkflowSettings)
    (matchId : ℕ → Uuid) (env : IdentityEnvironment) : WorkflowTx Unit := do
  let db ← Tx.get
  match db.media.get? mediaId, ownedJob p db jobId leaseToken with
  | some media, some job =>
      if (identityFinalizationEvidence db media).isSome = true then do
        let _ ← cancelMetadataResolutionJob job
        return ()
      else do
        Tx.require (job.payload.inputFingerprint.all
            (· = metadataResolutionInputFingerprint media) = true)
          (.app { errorCode := "METADATA_INPUT_CHANGED"
                  message := "影视身份输入在 TMDB 查询期间发生变化，旧结果已丢弃" })
        storeCandidates job media candidates settings matchId env
  | _, _ => return ()

end Resolution

/-! ### Searches -/

/-- The row of a candidate. -/
def candidateRecord (run : TorrentSearchRun) (newId : Uuid) (now : DateTime)
    (scored : ScoredCandidate) : Models.TorrentCandidateRecord where
  id := newId.text
  searchRunId := run.id
  siteId := scored.candidate.siteId
  torrentId := scored.candidate.torrentId
  candidateSnapshot := scored.candidate
  matchScore := scored.candidate.matchScore.getD 0
  matchReasons := scored.matchReasons
  warnings := scored.warnings
  createdAt := now

/-- New candidates, none of which the run has already. -/
def insertCandidates (run : TorrentSearchRun) (now : DateTime) :
    List (ScoredCandidate × Uuid) → WorkflowTx Unit
  | [] => return ()
  | (scored, newId) :: others => do
      let record := candidateRecord run newId now scored
      let db ← Tx.get
      Tx.require (db.candidates.get? record.id = none ∧ ∀ c ∈ db.candidates.rows,
        ¬ (c.searchRunId = record.searchRunId ∧ c.siteId = record.siteId ∧
          c.torrentId = record.torrentId)) .integrity
      Tx.modify fun db => { db with candidates := db.candidates.save record }
      insertCandidates run now others

def ptMediaBindingMismatch : AppError :=
  conflict "PT_MEDIA_BINDING_MISMATCH" "PT search job, run, and media bindings do not match"

/-- The checks of `_complete_torrent_search` before it writes. -/
def checkSearchInput (db : WorkflowDb) (job : Job) (run : TorrentSearchRun)
    (media : Models.MediaItem) (settings : WorkflowSettings) : Except Exn Unit := do
  ensure (run.mediaId = media.id ∧ job.payload.mediaId = some media.id ∧
      job.payload.searchRunId = some run.id)
    (.app ptMediaBindingMismatch)
  let review ← orRaise (newest IdentityReview.createdAt (confirmedReviews db media.id))
    (.app (conflict "TORRENT_SEARCH_INPUT_STALE" "PT 搜索完成时影视身份已变化"))
  -- what is read of the request of an old run has the one site that there was
  let requested ← orRaise run.sanitizedRequest.parse
    (.app (conflict "PT_SEARCH_REQUEST_SNAPSHOT_INVALID" "PT 搜索请求快照无效"))
  ensure (requested.siteId = run.siteId ∧ job.payload.siteId.all (· = run.siteId) = true)
    (.app (conflict "PT_SITE_BINDING_MISMATCH" "PT 搜索完成时站点绑定不一致"))
  ensure ((job.payload.automationPolicyRevisionId.isSome = true →
        job.payload.inputFingerprint.isSome = true) ∧
      job.payload.inputFingerprint.all
        (· = torrentSearchInputFingerprint media review requested settings) = true)
    (.app (conflict "TORRENT_SEARCH_INPUT_STALE" "PT 搜索输入已变化，候选结果已丢弃"))

/-- The row of a run that found something, or nothing. -/
def finishedRun (run : TorrentSearchRun) (candidates : List (ScoredCandidate × Uuid))
    (strategyLog : List (String × ℕ)) (now : DateTime) : TorrentSearchRun :=
  { run with
    status := if candidates = [] then .noCandidate else .torrentReview
    strategyLog := strategyLog
    candidateCount := candidates.length
    finishedAt := some now
    errorCode := none
    errorMessage := none }

/-- The last part of `_complete_torrent_search`. -/
def storeSearch (job : Job) (run : TorrentSearchRun) (media : Models.MediaItem)
    (candidates : List (ScoredCandidate × Uuid)) (strategyLog : List (String × ℕ))
    (now : DateTime) : WorkflowTx Unit := do
  insertCandidates run now candidates
  saveSearchRun (finishedRun run candidates strategyLog now)
  let _ ← refreshMediaSearchWorkflowStatus media.id
  saveQueuedJob (succeededJob job)
  addAudit (if candidates = [] then "TORRENT_SEARCH_NO_CANDIDATE" else "TORRENT_CANDIDATES_READY")
    "torrent_search_run" run.id

/-- `_complete_torrent_search`. -/
def completeTorrentSearch (p : JobProcessor) (jobId searchRunId mediaId : String)
    (candidates : List (ScoredCandidate × Uuid)) (strategyLog : List (String × ℕ))
    (leaseToken : Option String) (settings : WorkflowSettings) (now : DateTime) :
    WorkflowTx Unit := do
  let db ← Tx.get
  match ownedJob p db jobId leaseToken, db.searchRuns.get? searchRunId, db.media.get? mediaId with
  | some job, some run, some media => do
      Tx.ofExcept (checkSearchInput db job run media settings)
      storeSearch job run media candidates strategyLog now
  | _, _, _ => return ()

/-! ### Discoveries -/

/-- The media item that an item was imported as. -/
def existingMedia (db : WorkflowDb) (item : MediaItemData) : Option Models.MediaItem :=
  db.media.rows.find? fun m =>
    m.source = item.source ∧ m.mediaType = item.mediaType ∧ m.tmdbId = item.tmdbId ∧
      (item.tmdbId = none → m.sourceItemId = item.sourceItemId)

/-- The media item of a new item. -/
def createdMedia (item : MediaItemData) (newId : Uuid) : Models.MediaItem where
  id := newId.text
  source := item.source
  sourceItemId := item.sourceItemId
  mediaType := item.mediaType
  tmdbId := item.tmdbId
  title := item.title
  originalTitle := item.originalTitle
  year := item.year
  countryCodes := item.countryCodes
  posterPath := item.posterPath
  rawType := item.rawType
  localEpisodes := item.localEpisodes
  localEpisodeMatrix := item.localEpisodeMatrix
  totalEpisodes := item.totalEpisodes
  airedEpisodes := item.airedEpisodes
  missingEpisodes := item.missingEpisodes
  identityConfidence := item.identityConfidence
  metadataStatus := item.metadataStatus
  discoveredAt := item.discoveredAt
  updatedAt := item.updatedAt

/-- The media item with the values of an item that was imported before: all but the time of its
discovery, and but the countries where there are none. -/
def updatedMedia (existing : Models.MediaItem) (item : MediaItemData) : Models.MediaItem :=
  { existing with
    source := item.source
    sourceItemId := item.sourceItemId
    mediaType := item.mediaType
    tmdbId := item.tmdbId
    title := item.title
    originalTitle := item.originalTitle
    year := item.year
    countryCodes := item.countryCodes.or existing.countryCodes
    posterPath := item.posterPath
    rawType := item.rawType
    localEpisodes := item.localEpisodes
    localEpisodeMatrix := item.localEpisodeMatrix
    totalEpisodes := item.totalEpisodes
    airedEpisodes := item.airedEpisodes
    missingEpisodes := item.missingEpisodes
    identityConfidence := item.identityConfidence
    metadataStatus := item.metadataStatus
    updatedAt := item.updatedAt }

/-- What an item was imported as: its media item, whether that is a new one, and whether what is to
be resolved has changed. -/
structure ImportedItem where
  mediaId : String
  created : Bool
  inputChanged : Bool

/-- A new media item, whose identifier is new. -/
def insertMedia (media : Models.MediaItem) : WorkflowTx Unit := do
  let db ← Tx.get
  Tx.require (db.media.get? media.id = none) .integrity
  saveMedia media

/-- The import of one item. -/
def importItem (item : MediaItemData) (newId : Uuid) : WorkflowTx ImportedItem := do
  let db ← Tx.get
  match existingMedia db item with
  | none => do
      insertMedia (createdMedia item newId)
      return { mediaId := newId.text, created := true, inputChanged := false }
  | some existing => do
      let updated := updatedMedia existing item
      saveMedia updated
      return { mediaId := existing.id, created := false
               inputChanged := metadataResolutionInputFingerprint existing ≠
                 metadataResolutionInputFingerprint updated }

/-- The import of the items, one after the other. -/
def importItems : List (MediaItemData × Uuid) → WorkflowTx (List ImportedItem)
  | [] => return []
  | (item, newId) :: rest => do
      let imported ← importItem item newId
      let others ← importItems rest
      return imported :: others

section Discovery

variable [Python]

/-- The resolution of one imported item, where one is called for. -/
def resolveImported (maxAttempts : ℕ) (now : DateTime) (imported : ImportedItem) (newId : Uuid) :
    WorkflowTx Unit := do
  let media ← lockMedia imported.mediaId
  let db ← Tx.get
  if casefold media.discoveryStatus ≠ "missing" ∨
      (identityFinalizationEvidence db media).isSome = true then
    return ()
  else do
    if imported.inputChanged = true then
      let _ ← cancelActiveMetadataResolutionJobs media.id
    let _ ← enqueueMetadataResolution media.id maxAttempts newId now
    return ()

/-- The resolutions of the imported items. -/
def resolveImports (maxAttempts : ℕ) (now : DateTime) :
    List (ImportedItem × Uuid) → WorkflowTx Unit
  | [] => return ()
  | (imported, newId) :: rest => do
      resolveImported maxAttempts now imported newId
      resolveImports maxAttempts now rest

omit [Python] in
/-- `unique_items`: a later item takes the place of an earlier one with its key. -/
def uniqueItems (items : List MediaItemData) : Table MediaItemData :=
  items.foldl Table.save ∅

/-- The end of `_complete_discovery`, after the items are imported. -/
def finishDiscovery (p : JobProcessor) (job : Job) (run : DiscoveryRun) (count : ℕ)
    (jobIds : ℕ → Uuid) (now : DateTime) (imported : List ImportedItem) : WorkflowTx Unit := do
  let candidates := imported.filter fun one => one.created || one.inputChanged
  if p.autoEnqueueMetadataResolution = true then
    resolveImports job.maxAttempts now (candidates.mapIdx fun i one => (one, jobIds i))
  saveQueuedJob (succeededJob job)
  saveDiscoveryRun { run with
    status := .succeeded
    finishedAt := some now
    discoveredCount := count
    createdCount := (imported.filter ImportedItem.created).length
    updatedCount := (imported.filter fun one => !one.created).length
    errorCode := none
    errorMessage := none }
  addAudit "DISCOVERY_RUN_SUCCEEDED" "discovery_run" run.id

/-- The last part of `_complete_discovery`: the job is owned. -/
def storeDiscovery (p : JobProcessor) (job : Job) (run : DiscoveryRun)
    (items : List MediaItemData) (mediaIds jobIds : ℕ → Uuid) (now : DateTime) :
    WorkflowTx Unit := do
  let unique := (uniqueItems items).rows
  let imported ← importItems (unique.mapIdx fun i item => (item, mediaIds i))
  finishDiscovery p job run unique.length jobIds now imported

/-- `_complete_discovery`. -/
def completeDiscovery (p : JobProcessor) (jobId runId : String) (items : List MediaItemData)
    (leaseToken : Option String) (mediaIds jobIds : ℕ → Uuid) (now : DateTime) :
    WorkflowTx Unit := do
  let db ← Tx.get
  match ownedJob p db jobId leaseToken, db.discoveryRuns.get? runId with
  | some job, some run => storeDiscovery p job run items mediaIds jobIds now
  | _, _ => return ()

end Discovery

/-- The media items without countries of a type and an identifier, with countries. -/
def withCountryCodes (mediaType : MediaType) (tmdbId : Int) (countryCodes : List String)
    (media : Models.MediaItem) : Models.MediaItem :=
  if media.mediaType = mediaType ∧ media.tmdbId = some tmdbId ∧ media.countryCodes = none then
    { media with countryCodes := some countryCodes }
  else media

/-- The update of every media item of a type and an identifier. -/
def updateCountryCodes (mediaType : MediaType) (tmdbId : Int) (countryCodes : List String) :
    List Models.MediaItem → WorkflowTx Unit
  | [] => return ()
  | media :: rest => do
      saveMedia (withCountryCodes mediaType tmdbId countryCodes media)
      updateCountryCodes mediaType tmdbId countryCodes rest

/-- The updates of a checkpoint. -/
def updateAllCountryCodes : List (MediaType × Int × List String) → WorkflowTx Unit
  | [] => return ()
  | (mediaType, tmdbId, countryCodes) :: rest => do
      let db ← Tx.get
      updateCountryCodes mediaType tmdbId countryCodes db.media.rows
      updateAllCountryCodes rest

/-- `_checkpoint_country_codes`. -/
def checkpointCountryCodes (p : JobProcessor) (jobId : String) (leaseToken : Option String)
    (values : List (MediaType × Int × List String)) : WorkflowTx Unit := do
  let db ← Tx.get
  Tx.require (values = [] ∨ (ownedJob p db jobId leaseToken).isSome = true)
    (.app { errorCode := "JOB_LEASE_LOST", message := "任务租约已失效", statusCode := 409
            retryable := true })
  updateAllCountryCodes values

/-! ### Failures -/

/-- `_retry_delay_seconds`. -/
def retryDelaySeconds (error : AppError) (attempts : ℕ) : Int :=
  let fallback : Int := min 3600 (2 ^ attempts)
  match (error.details.find? fun entry => entry.1 = "retry_after_seconds").map Prod.snd with
  | some (.int requested) => max fallback (min 3600 (max 0 requested))
  | _ => fallback

/-- Whether a job is tried again. -/
def isRetried (job : Job) (error : AppError) : Bool :=
  error.retryable && job.attempts < job.maxAttempts

/-- The row of a job that failed. -/
def failedJob (job : Job) (error : AppError) (now : DateTime) : Job :=
  { job with
    status := if isRetried job error then .retryWait else .failed
    errorCode := some error.errorCode
    errorMessage := some error.message
    lockedAt := none
    lockedBy := none
    leaseToken := none
    nextRetryAt :=
      if isRetried job error then some (now + seconds (retryDelaySeconds error job.attempts))
      else none }

/-- The discovery of a job that failed, if it has one. -/
def failDiscoveryRun (job : Job) (error : AppError) (now : DateTime) : WorkflowTx Unit := do
  let db ← Tx.get
  match job.runId.bind db.discoveryRuns.get? with
  | none => return ()
  | some run => do
      saveDiscoveryRun { run with
        status := (failedJob job error now).status
        errorCode := some error.errorCode
        errorMessage := some error.message
        finishedAt := if isRetried job error then none else some now }
      addAudit (if isRetried job error then "DISCOVERY_RUN_RETRY_SCHEDULED"
        else "DISCOVERY_RUN_FAILED") "discovery_run" run.id

/-- The media item of a resolution that failed. -/
def failResolution (job : Job) (error : AppError) (media : Models.MediaItem) :
    WorkflowTx Unit := do
  if isRetried job error = false then
    saveMedia { media with workflowStatus := .identityReview, metadataStatus := .unresolved }
  addAudit (if isRetried job error then "METADATA_RESOLUTION_RETRY_SCHEDULED"
    else "METADATA_RESOLUTION_FAILED") "media_item" media.id

/-- The row of a run whose search failed. -/
def failedRun (job : Job) (run : TorrentSearchRun) (error : AppError) (now : DateTime) :
    TorrentSearchRun :=
  { run with
    errorCode := some error.errorCode
    errorMessage := some error.message
    status := if isRetried job error then run.status else .searchFailed
    finishedAt := if isRetried job error then run.finishedAt else some now }

/-- The run of a search that failed, and the status of its media item. -/
def failSearch (job : Job) (error : AppError) (run : TorrentSearchRun)
    (media : Option Models.MediaItem) (now : DateTime) : WorkflowTx Unit := do
  saveSearchRun (failedRun job run error now)
  refreshSearched media
  addAudit (if isRetried job error then "TORRENT_SEARCH_RETRY_SCHEDULED"
    else "TORRENT_SEARCH_FAILED") "torrent_search_run" run.id

/-- What a failure does to the media item of a resolution, or to the run of a search. -/
def failSubject (job : Job) (error : AppError) (now : DateTime) : WorkflowTx Unit := do
  let db ← Tx.get
  let media := job.payload.mediaId.bind db.media.get?
  if job.jobType.isResolution = true then
    match media with
    | some media => failResolution job error media
    | none => return ()
  else if job.jobType.isTorrentSearch = true then
    match job.payload.searchRunId.bind db.searchRuns.get? with
    | some run => failSearch job error run media now
    | none => return ()
  else return ()

/-- The last part of `_fail`: the job is owned, and its identity is not final.  `row` is the row of
the job by now. -/
def storeFailure (job row : Job) (error : AppError) (now : DateTime) : WorkflowTx Unit := do
  writeQueuedJob job (failedJob job error now) row
  failDiscoveryRun job error now
  failSubject job error now

/-- The media item of a job that resolves. -/
def resolvedMedia (db : WorkflowDb) (job : Job) : Option Models.MediaItem :=
  if job.jobType.isResolution then job.payload.mediaId.bind db.media.get? else none

/-- `_fail`: `held` is the job as the session has read it before it locks the row, if it was there.
The lease is that of `held`. -/
def failJob (p : JobProcessor) (held : Option Job) (jobId : String) (error : AppError)
    (leaseToken : Option String) (now : DateTime) : WorkflowTx Unit := do
  let db ← Tx.get
  match db.queue.get? jobId with
  | none => return ()
  | some row =>
      let job := held.getD row
      if p.ownsLease job leaseToken = true then
        if (held.bind (resolvedMedia db)).any
            (fun media => (identityFinalizationEvidence db media).isSome) = true then do
          let _ ← cancelMetadataResolutionJob job row
          return ()
        else storeFailure job row error now
      else return ()

end LibSeek.Workers
