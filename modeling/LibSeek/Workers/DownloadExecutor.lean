/-
The executor of downloads.

An executor claims an execution, finds the approved torrent on its site again, fetches and validates
it, reserves the execution and asks qBittorrent to add the torrent.  It holds no lock while it talks
to the outside.  Before every request it runs the guard, a transaction that finds out whether the
execution may still go on; and where an exception leaves it, what becomes of the execution depends
on whether it has been reserved.

Main definitions:

* `Workers.ensureAllowed`, `Workers.torrentAddWriteGuard` — the guards;
* `Workers.requireExactCandidate`, `Workers.requireTorrentCandidateConsistency` — the checks of what
  the sites answer;
* `Workers.findCandidate`, `Workers.validateClaim`, `Workers.submitClaim` — the parts of the
  processing;
* `Workers.processClaim`, `Workers.runOnce` — **the processing of a claim**, and the executor.
-/

import LibSeek.Adapters.Qbittorrent

set_option relaxedAutoImplicit false
set_option autoImplicit false

namespace LibSeek.Workers

open LibSeek.Core LibSeek.Lib LibSeek.Models LibSeek.Schemas LibSeek.Services LibSeek.Adapters

variable [Python]

/-! ### Guards -/

/-- A call of the guard, on the settings as they are read at that moment; what is logged where it
returns. -/
def guardTransaction (x : DownloadExecutor) (claim : ExecutionClaim)
    (expectedStatus : DownloadExecutionStatus) (externalWriteMayHaveOccurred : Bool)
    (heard : Bool → List Event) : Work Bool :=
  transact
    (fun i => ensureExternalActionAllowed (x.reading i.qbBaseUrl) claim expectedStatus
      externalWriteMayHaveOccurred (i.newId 0) (i.clock 0, i.clock 1))
    (fun i before allowed =>
      [.guarded (x.reading i.qbBaseUrl) claim expectedStatus externalWriteMayHaveOccurred (i.newId 0)
        (i.clock 0, i.clock 1) before allowed])
    heard

/-- `_ensure_external_action_allowed`, as the worker calls it. -/
def ensureAllowed (x : DownloadExecutor) (claim : ExecutionClaim)
    (expectedStatus : DownloadExecutionStatus) (externalWriteMayHaveOccurred : Bool := false) :
    Work Bool :=
  guardTransaction x claim expectedStatus externalWriteMayHaveOccurred fun _ => []

/-- A guard that raises where the action is not allowed. -/
def requireAllowed (check : Work Bool) : Work Unit := do
  let allowed ← check
  Routine.require (allowed = true) (.app leaseLost)

/-- `pt_request_guard`. -/
def ptRequestGuard (x : DownloadExecutor) (claim : ExecutionClaim) : Work Unit :=
  requireAllowed (ensureAllowed x claim .validating)

/-- `qb_request_guard`. -/
def qbRequestGuard (x : DownloadExecutor) (claim : ExecutionClaim) : Work Unit := do
  let m ← Routine.memory
  requireAllowed (ensureAllowed x claim m.qbExpectedStatus m.torrentAddMayHaveOccurred)

/-- `category_write_guard`. -/
def categoryWriteGuard (x : DownloadExecutor) (claim : ExecutionClaim) : Work Unit := do
  requireAllowed (ensureAllowed x claim .validating)
  Routine.remember fun m => { m with categoryWriteMayHaveOccurred := true }

/-- `_write_guard`; that it has returned is logged. -/
def writeGuard (x : DownloadExecutor) (claim : ExecutionClaim) : Work Unit :=
  requireAllowed (guardTransaction x claim .submitting false fun allowed =>
    if allowed = true then [.admitted claim] else [])

/-- `torrent_add_write_guard`. -/
def torrentAddWriteGuard (x : DownloadExecutor) (claim : ExecutionClaim) : Work Unit := do
  writeGuard x claim
  Routine.remember fun m => { m with torrentAddMayHaveOccurred := true }

/-! ### The sites -/

def siteGuardFailed : AppError :=
  conflict "PT_SITE_REQUEST_GUARD_FAILED" "PT 站点请求围栏校验失败"

/-- The requests of the adapter of a site, each after the guard that is installed in it. -/
def siteRequests (x : DownloadExecutor) (claim : ExecutionClaim) : ℕ → Work Unit
  | 0 => pure ()
  | n + 1 => do
      runBeforeSendGuard siteGuardFailed (ptRequestGuard x claim)
      siteRequests x claim n

/-- `search` of the adapter of a site. -/
def searchSite (x : DownloadExecutor) (claim : ExecutionClaim) (siteId : String)
    (request : TorrentSearchRequest) : Work (List TorrentCandidate) := do
  let n ← Routine.supply (·.siteRequests)
  siteRequests x claim n
  record (·.found) fun candidates => [.searched claim siteId request candidates]

/-- `fetch_torrent` of the adapter of a site. -/
def fetchTorrent (x : DownloadExecutor) (claim : ExecutionClaim) (siteId torrentId : String) :
    Work Bytes := do
  let n ← Routine.supply (·.siteRequests)
  siteRequests x claim n
  record (·.torrent) fun payload => [.fetched claim siteId torrentId payload]

/-! ### The approved torrent, found again -/

omit [Python] in
/-- `_pt_error_code`. -/
def ptErrorCode (siteId avistaz generic : String) : String :=
  if siteId = "avistaz" then avistaz else generic

/-- `_normalized_title`. -/
def normalizedTitle (value : String) : String :=
  joinWords (casefold value)

omit [Python] in
/-- `_search_requests`. -/
def searchRequests (binding : ExecutionBinding) (searchModes : List PtSearchMode) :
    Except AppError (List TorrentSearchRequest) := do
  let byTmdb : List TorrentSearchRequest :=
    match binding.snapshot.tmdbId with
    | some tmdbId =>
        if .tmdbId ∈ searchModes then
          [{ tmdb := some tmdbId, type := some binding.snapshot.mediaType, limit := 100 }]
        else []
    | none => []
  let byText : List TorrentSearchRequest :=
    if .text ∈ searchModes then
      [{ search := some binding.plan.releaseTitle, type := some binding.snapshot.mediaType
         limit := 100 }]
    else []
  ensure (byTmdb ++ byText ≠ [])
    (conflict "PT_SITE_EXECUTION_SEARCH_UNSUPPORTED"
      "PT 站点无法使用审批快照中的标识重新绑定固定候选")
  return byTmdb ++ byText

omit [Python] in
/-- `_matching_candidates`. -/
def matchingCandidates (binding : ExecutionBinding) (candidates : List TorrentCandidate) :
    List TorrentCandidate :=
  candidates.filter fun c => c.siteId = binding.plan.siteId ∧ c.torrentId = binding.snapshot.torrentId

omit [Python] in
/-- Whether the TMDB identifier of a candidate contradicts the snapshot. -/
def tmdbBindingMismatch (binding : ExecutionBinding) (candidate : TorrentCandidate) : Prop :=
  if binding.origin = .automation then
    candidate.tmdbId = none ∨ binding.snapshot.tmdbId = none ∨
      candidate.tmdbId ≠ binding.snapshot.tmdbId
  else
    candidate.tmdbId ≠ none ∧ binding.snapshot.tmdbId ≠ none ∧
      candidate.tmdbId ≠ binding.snapshot.tmdbId

instance (binding : ExecutionBinding) (candidate : TorrentCandidate) :
    Decidable (tmdbBindingMismatch binding candidate) := by
  unfold tmdbBindingMismatch
  infer_instance

/-- Whether the rule of a candidate on hit and run contradicts the snapshot of an automatic
execution. -/
def hnrBindingDrift (binding : ExecutionBinding) (candidate : TorrentCandidate) : Prop :=
  let candidateHnr := effectiveHnrRule candidate.siteId candidate.hitAndRun
  let snapshotHnr := effectiveHnrRule binding.snapshot.siteId binding.snapshot.hitAndRun
  binding.origin = .automation ∧
    (candidateHnr.known = false ∨ snapshotHnr.known = false ∨
      candidateHnr.applies ≠ snapshotHnr.applies)

instance (binding : ExecutionBinding) (candidate : TorrentCandidate) :
    Decidable (hnrBindingDrift binding candidate) :=
  inferInstanceAs (Decidable (_ ∧ _))

/-- `_require_exact_candidate`. -/
def requireExactCandidate (binding : ExecutionBinding) (candidates : List TorrentCandidate) :
    Except AppError TorrentCandidate := do
  let siteId := binding.plan.siteId
  let candidate ← match matchingCandidates binding candidates with
    | [candidate] => .ok candidate
    | _ =>
        .error (conflict
          (ptErrorCode siteId "AVISTAZ_TORRENT_ID_NOT_UNIQUE" "PT_SITE_TORRENT_ID_NOT_UNIQUE")
          "PT 站点重新搜索未得到唯一的已批准 torrent ID")
  ensure (normalizedTitle candidate.releaseTitle = normalizedTitle binding.plan.releaseTitle)
    (conflict
      (ptErrorCode siteId "AVISTAZ_CANDIDATE_BINDING_DRIFT" "PT_SITE_CANDIDATE_BINDING_DRIFT")
      "PT 站点候选标题与不可变下载计划不一致")
  ensure (¬ tmdbBindingMismatch binding candidate)
    (conflict
      (ptErrorCode siteId "AVISTAZ_CANDIDATE_BINDING_DRIFT" "PT_SITE_CANDIDATE_BINDING_DRIFT")
      "PT 站点候选 TMDB ID 与不可变审批不一致")
  ensure (¬ hnrBindingDrift binding candidate)
    (conflict (ptErrorCode siteId "AVISTAZ_HNR_BINDING_DRIFT" "PT_SITE_HNR_BINDING_DRIFT")
      "PT 站点候选 H&R 信息与自动审批快照不一致")
  return candidate

/-- `_require_torrent_candidate_consistency`. -/
def requireTorrentCandidateConsistency (binding : ExecutionBinding) (candidate : TorrentCandidate)
    (metadata : ValidatedTorrent) : Except AppError Unit := do
  let siteId := binding.plan.siteId
  ensure (∀ infoHash ∈ candidate.infoHash, metadata.matchesHash infoHash = true)
    (conflict
      (ptErrorCode siteId "AVISTAZ_CANDIDATE_INFO_HASH_DRIFT" "PT_SITE_CANDIDATE_INFO_HASH_DRIFT")
      "PT 站点候选 info hash 与实际种子不一致")
  ensure (∀ expectedSize ∈ binding.plan.estimatedSizeBytes, metadata.totalSizeBytes = expectedSize)
    (conflict (ptErrorCode siteId "AVISTAZ_CANDIDATE_SIZE_DRIFT" "PT_SITE_CANDIDATE_SIZE_DRIFT")
      "实际种子大小与不可变下载计划不一致")
  ensure (∀ size ∈ candidate.sizeBytes, metadata.totalSizeBytes = size)
    (conflict (ptErrorCode siteId "AVISTAZ_CANDIDATE_SIZE_DRIFT" "PT_SITE_CANDIDATE_SIZE_DRIFT")
      "PT 站点候选大小与实际种子不一致")

omit [Python] in
/-- `_find_unique_observation`. -/
def findUniqueObservation (metadata : ValidatedTorrent) (observations : List QbTorrent) :
    Except AppError (Option QbTorrent) :=
  match observations.filter fun t => ∃ h ∈ t.identityHashes, h ∈ metadata.identityHashes with
  | [] => .ok none
  | [observed] => .ok (some observed)
  | _ =>
      .error
        { errorCode := "QB_INFO_HASH_AMBIGUOUS"
          message := "qBittorrent 返回多个匹配同一已校验种子的任务", statusCode := 502 }

/-- `_required_save_path`. -/
def requiredSavePath (x : DownloadExecutor) : Except AppError String :=
  match x.settings.qbTargetSavePath with
  | some value =>
      if isBlank value = false then .ok value
      else .error (conflict "EXECUTION_TARGET_NOT_CONFIGURED" "qBittorrent 保存路径尚未配置")
  | none => .error (conflict "EXECUTION_TARGET_NOT_CONFIGURED" "qBittorrent 保存路径尚未配置")

/-! ### The parts of the processing -/

/-- `AppError`s of a pure check, raised. -/
def check {α : Type} (x : Except AppError α) : Work α :=
  Routine.ofExcept (x.mapError .app)

/-- What is done only where the guard allows it; elsewhere the processing ends. -/
def whenAllowed {α : Type} (allowed : Work Bool) (next : Work (Option α)) : Work (Option α) := do
  let go ← allowed
  if go = true then next else return none

/-- The loop of `_process_claim` over the searches: the candidate, or all that were found; nothing
where the guard does not allow a search. -/
def searchCandidate (x : DownloadExecutor) (claim : ExecutionClaim) (binding : ExecutionBinding) :
    List TorrentSearchRequest → List TorrentCandidate →
      Work (Option (Except (List TorrentCandidate) TorrentCandidate))
  | [], searched => return some (.error searched)
  | request :: requests, searched =>
      whenAllowed (ensureAllowed x claim .validating) do
        let results ← searchSite x claim binding.plan.siteId request
        match matchingCandidates binding results with
        | [] => searchCandidate x claim binding requests (searched ++ results)
        | _ => do
            let candidate ← check (requireExactCandidate binding results)
            return some (.ok candidate)

/-- The approved candidate, found again on its site. -/
def findCandidate (x : DownloadExecutor) (claim : ExecutionClaim) (binding : ExecutionBinding)
    (requests : List TorrentSearchRequest) : Work (Option TorrentCandidate) := do
  let found ← searchCandidate x claim binding requests []
  match found with
  | none => return none
  | some (.ok candidate) => return some candidate
  | some (.error searched) => do
      let candidate ← check (requireExactCandidate binding searched)
      return some candidate

variable [TorrentCodec]

/-- What the processing has of an execution before it turns to the downloader. -/
structure FetchedTorrent where
  binding : ExecutionBinding
  payload : Bytes
  metadata : ValidatedTorrent

/-- The first part of `_process_claim`: the binding, the candidate, and the torrent. -/
def fetchValidated (x : DownloadExecutor) (claim : ExecutionClaim) :
    Work (Option FetchedTorrent) :=
  whenAllowed (ensureAllowed x claim .validating) do
    let binding ← transact (fun i => loadBinding (x.reading i.qbBaseUrl) claim)
      (fun i before binding => [.bound (x.reading i.qbBaseUrl) claim before binding])
    let searchModes ← record (·.searchModes) fun _ => []
    let requests ← check (searchRequests binding searchModes)
    record (·.created) fun _ => []
    let found ← findCandidate x claim binding requests
    match found with
    | none => return none
    | some candidate =>
        whenAllowed (ensureAllowed x claim .validating) do
          let payload ← fetchTorrent x claim binding.plan.siteId candidate.torrentId
          let metadata ←
            Routine.ofExcept (executorValidation x.settings payload binding.plan.expectedInfoHash)
          check (requireTorrentCandidateConsistency binding candidate metadata)
          return some { binding, payload, metadata }

/-- The adapter of the downloader, with `qb_request_guard` installed. -/
def qbAdapter (x : DownloadExecutor) (claim : ExecutionClaim) : QbittorrentAdapter where
  enableWrite := x.settings.enableQbWrite
  beforeRequest := qbRequestGuard x claim
  claim := claim

/-- The torrent of some metadata in the downloader. -/
def observe (x : DownloadExecutor) (claim : ExecutionClaim) (metadata : ValidatedTorrent) :
    Work (Option QbTorrent) := do
  let torrents ← (qbAdapter x claim).findTorrentsByHashes metadata.identityHashes
  check (findUniqueObservation metadata torrents)

/-- The category of a torrent that is not there yet. -/
def prepareCategory (x : DownloadExecutor) (claim : ExecutionClaim) (plan : DownloadPlan)
    (existing : Option QbTorrent) : Work (Option Unit) :=
  match existing with
  | some _ => return some ()
  | none =>
      whenAllowed (ensureAllowed x claim .validating) do
        let savePath ← check (requiredSavePath x)
        (qbAdapter x claim).ensureCategory plan.category savePath (categoryWriteGuard x claim)
        return some ()

/-- The second part of `_process_claim`: the session with the downloader, whether the torrent is
there already, and its category. -/
def prepareDownloader (x : DownloadExecutor) (claim : ExecutionClaim) (torrent : FetchedTorrent) :
    Work (Option (Option QbTorrent)) := do
  record (·.created) fun _ => []
  whenAllowed (ensureAllowed x claim .validating) do
    (qbAdapter x claim).authenticate
    whenAllowed (ensureAllowed x claim .validating) do
      let existing ← observe x claim torrent.metadata
      let prepared ← prepareCategory x claim torrent.binding.plan existing
      return prepared.map fun _ => existing

/-- The reservation: whether the execution was reserved, or cancelled. -/
def reserve (x : DownloadExecutor) (claim : ExecutionClaim) (metadata : ValidatedTorrent) :
    Work Bool := do
  let status ← transact
    (fun i => reserveSubmission (x.reading i.qbBaseUrl) claim metadata
      (i.clock 0, i.clock 1, i.clock 2))
    (fun i before status =>
      [.reserved (x.reading i.qbBaseUrl) claim metadata (i.clock 0, i.clock 1, i.clock 2) before
        status])
  if status = .cancelled then return false
  else do
    Routine.require (status = .submitting)
      (.app (conflict "DOWNLOAD_EXECUTION_TRANSITION_INVALID" "下载执行未进入提交预留状态"))
    Routine.remember fun m =>
      { m with reservationCommitted := true, qbExpectedStatus := .submitting }
    return true

/-- The arguments of `add_torrent`. -/
def addArguments (binding : ExecutionBinding) (payload : Bytes) (expectedInfoHash savePath : String) :
    QbittorrentAdapter.AddArguments where
  torrent := payload
  expectedInfoHash := expectedInfoHash
  savePath := savePath
  category := binding.plan.category
  tags := binding.plan.tags
  startImmediately := binding.launchMode = .startImmediately

/-- The call of `add_torrent`, and the check of its result: the outcome. -/
def addApproved (x : DownloadExecutor) (claim : ExecutionClaim) (torrent : FetchedTorrent) :
    Work DownloadExecutionStatus := do
  let expectedInfoHash ←
    check (selectedInfoHash torrent.binding.plan.expectedInfoHash torrent.metadata)
  let savePath ← check (requiredSavePath x)
  let result ← (qbAdapter x claim).addTorrent
    (addArguments torrent.binding torrent.payload expectedInfoHash savePath)
    (torrentAddWriteGuard x claim)
  Routine.require (casefold result.infoHash ∈ torrent.metadata.identityHashes)
    (.app
      { errorCode := "QB_ADD_INFO_HASH_MISMATCH"
        message := "qBittorrent 添加结果与已校验种子不一致", statusCode := 502 })
  return if result.alreadyPresent then .alreadyPresent else .submitted

omit [Python] [TorrentCodec] in
/-- The states of a torrent that was added without being started. -/
def pausedStates : List String :=
  ["pauseddl", "pausedup", "stoppeddl", "stoppedup"]

/-- The guard after the reservation. -/
def ensureSubmitting (x : DownloadExecutor) (claim : ExecutionClaim) : Work Bool := do
  let m ← Routine.memory
  ensureAllowed x claim .submitting m.torrentAddMayHaveOccurred

/-- `finalize_download_submission`, and its commit. -/
def finalizeClaim (x : DownloadExecutor) (claim : ExecutionClaim) (observed : QbTorrent)
    (outcome : DownloadExecutionStatus) : Work Unit := do
  let _ ← transact fun i =>
    finalizeDownloadSubmission claim.executionId observed outcome
      (x.reading i.qbBaseUrl).settings x.workerId claim.leaseToken (i.newId 0, i.newId 1) i.clock

/-- The last part of `_process_claim`: the torrent is seen in the downloader, and the execution is
finalised. -/
def confirmSubmission (x : DownloadExecutor) (claim : ExecutionClaim) (torrent : FetchedTorrent)
    (outcome : DownloadExecutionStatus) : Work (Option Unit) :=
  whenAllowed (ensureSubmitting x claim) do
    let found ← observe x claim torrent.metadata
    let observed ← check (orRaise found
      { errorCode := "QB_SUBMISSION_NOT_OBSERVED"
        message := "qBittorrent 提交后未观察到已校验种子", statusCode := 502 })
    check (ensure (outcome = .submitted → torrent.binding.launchMode = .addPaused →
        casefold observed.state ∈ pausedStates)
      { errorCode := "QB_ADD_PAUSED_NOT_OBSERVED"
        message := "qBittorrent 未保持添加后暂停状态，必须人工对账", statusCode := 502 })
    whenAllowed (ensureSubmitting x claim) do
      finalizeClaim x claim observed outcome
      return some ()

/-- What follows the reservation. -/
def submitClaim (x : DownloadExecutor) (claim : ExecutionClaim) (torrent : FetchedTorrent)
    (existing : Option QbTorrent) : Work (Option Unit) := do
  let outcome ← match existing with
    | some _ => pure .alreadyPresent
    | none => addApproved x claim torrent
  confirmSubmission x claim torrent outcome

/-- The body of `_process_claim`. -/
def processBody (x : DownloadExecutor) (claim : ExecutionClaim) : Work (Option Unit) := do
  let fetched ← fetchValidated x claim
  match fetched with
  | none => return none
  | some torrent => do
      let prepared ← prepareDownloader x claim torrent
      match prepared with
      | none => return none
      | some existing => do
          let reserved ← reserve x claim torrent.metadata
          if reserved = true then submitClaim x claim torrent existing else return none

omit [TorrentCodec] in
/-- The error that is recorded for an exception. -/
def recordedError : Exn → AppError
  | .app error => error
  | _ =>
      { errorCode := "DOWNLOAD_EXECUTOR_INTERNAL_ERROR"
        message := "下载执行器发生内部错误", statusCode := 500 }

omit [TorrentCodec] in
/-- The handlers of `_process_claim`: nothing where the lease was lost, and a failure before or
after the reservation elsewhere. -/
def recordFailure (x : DownloadExecutor) (claim : ExecutionClaim) (e : Exn) : Work Unit :=
  if e.errorCode? = some "DOWNLOAD_EXECUTION_LEASE_LOST" then pure ()
  else do
    let m ← Routine.memory
    if m.reservationCommitted = true then
      transact fun i =>
        markReservedFailure x claim (recordedError e) m.torrentAddMayHaveOccurred (i.clock 0)
    else
      transact fun i => markValidationFailure x claim (recordedError e) (i.clock 0)

/-- **`_process_claim`.** -/
def processClaim (x : DownloadExecutor) (claim : ExecutionClaim) : Work Unit :=
  Routine.handle
    (do
      let _ ← processBody x claim
      return ())
    (recordFailure x claim)

omit [TorrentCodec] in
/-- `require_download_executor_enabled`. -/
def requireDownloadExecutorEnabled (settings : Settings) : Except AppError Unit :=
  let missing := ([("ENABLE_DOWNLOAD_EXECUTOR", settings.enableDownloadExecutor),
    ("ENABLE_AVISTAZ_TORRENT_FETCH", settings.enableAvistazTorrentFetch),
    ("ENABLE_QB_WRITE", settings.enableQbWrite)].filter fun flag => !flag.2).map Prod.fst
  ensure (missing = [])
    { errorCode := "DOWNLOAD_EXECUTOR_DISABLED"
      message := "下载执行器默认关闭，所有执行开关必须同时启用", statusCode := 403
      details := [("missing_flags", .list missing)] }

/-- **`run_once`**, of an executor that draws a given token for its lease.  The heartbeat, which
renews the lease meanwhile, belongs to the environment. -/
def runOnce (leaseToken : Uuid) (x : DownloadExecutor) : Work Unit := do
  check (requireDownloadExecutorEnabled x.settings)
  let _ ← transact fun i => recoverStaleExecutions x (i.clock 0) i.locked
  let claim ← transact (fun i => claimNextExecution x leaseToken (i.clock 0) i.locked)
    (fun _ _ claim => claim.toList.map .claimed)
  match claim with
  | none => return ()
  | some claim => processClaim x claim

end LibSeek.Workers
