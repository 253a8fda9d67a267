/-
Media imports.

A finished download may be proposed for import into a library.  The proposal becomes a plan that
never changes; a trusted inspection of the file systems is judged against it; and an administrator
approves the plan, which authorises nothing by itself, on the strength of the latest pre-flight.
Every operation here is the body of a transaction over the database.

Main definitions:

* `Services.verifyMediaImportPlan`, `Services.verifyMediaImportPreflight` — the checks of what was
  stored;
* `Services.evaluateInspection` — judging an inspection;
* `Services.createMediaImportRequest`, `Services.recordMediaImportPreflight`,
  `Services.approveMediaImportRequest`, `Services.rejectMediaImportRequest`,
  `Services.revokeMediaImportRequest` — the operations;
* `Services.mediaImportRequestResponse` — the checks of the response of a route.
-/

import LibSeek.Models.MediaImports
import LibSeek.Services.Executions

set_option relaxedAutoImplicit false
set_option autoImplicit false

namespace LibSeek.Services

open LibSeek.Core LibSeek.Lib LibSeek.Models LibSeek.Schemas

/-! ### Transactions on the database -/

/-- A unit of work on the database. -/
abbrev ImportTx (α : Type) := Tx ImportDb Exn α

/-- The exception of a refused request. -/
abbrev refusal (errorCode message : String) : Exn :=
  .app (conflict errorCode message)

/-! ### Sets of statuses -/

/-- `_ELIGIBLE_JOB_STATUSES`. -/
def isEligibleJobStatus : DownloadJobStatus → Bool
  | .seeding | .completed | .paused => true
  | _ => false

/-- `_FINAL_EXECUTION_STATUSES`. -/
def isFinalExecutionStatus : DownloadExecutionStatus → Bool
  | .submitted | .alreadyPresent => true
  | _ => false

/-- `requires_reconciliation`. -/
def requiresReconciliation (execution : DownloadExecution) : Bool :=
  match execution.status with
  | .outcomeUnknown | .reconciliationRequired | .reconciliationPending => true
  | _ => false

/-- `_ACTIVE_REQUEST_STATUSES`. -/
def isActiveImportStatus : MediaImportStatus → Bool
  | .preflightRequired | .reviewRequired | .approvedPlanOnly => true
  | _ => false

/-- `_STATUS_SEVERITY`. -/
def statusSeverity : PreflightStatus → ℕ
  | .pass => 0
  | .warning => 1
  | .unknown => 2
  | .blocked => 3

def MEDIA_IMPORT_PREFLIGHT_CHECK_CODES : List String :=
  ["SUMMARY_BINDING", "DOWNLOAD_READY", "SOURCE_MANIFEST_BINDING", "SOURCE_FILES_SAFE",
    "SOURCE_FILES_COMPLETE", "TARGET_MAPPING_BINDING", "TARGET_COLLISION_FREE",
    "OPERATION_CAPABILITY", "SOURCE_RETENTION_POLICY", "NO_OVERWRITE_POLICY", "HNR_DISCLOSURE"]

/-! ### The configuration -/

/-- `require_media_import_enabled`. -/
def requireMediaImportEnabled (settings : MediaImportSettings) : Except Exn Unit :=
  ensure (settings.enableMediaImportControlPlane = true)
    (refusal "MEDIA_IMPORT_DISABLED" "可选媒体入库规划控制面默认关闭")

section Configuration

variable [Python]

/-- `_validated_target_roots`. -/
def validatedTargetRoots (settings : MediaImportSettings) : Except Exn (List String) := do
  let roots := settings.mediaImportTargetRootRefs
  ensure (roots ≠ []) (refusal "MEDIA_IMPORT_TARGETS_NOT_CONFIGURED" "媒体入库目标根引用白名单未配置")
  ensure (roots.all validateInternalRootRef = true)
    (refusal "MEDIA_IMPORT_TARGETS_INVALID" "媒体入库目标根引用白名单格式无效")
  ensure (roots.Nodup ∧ (roots.map casefold).Nodup)
    (refusal "MEDIA_IMPORT_TARGETS_INVALID" "媒体入库目标根引用白名单包含重复或大小写碰撞")
  return roots

/-- The document of `media_import_config_fingerprint`, for validated roots. -/
def configDocument (settings : MediaImportSettings) (roots : List String) :
    MediaImportConfigDocument :=
  { schemaVersion := 1
    planMode := MEDIA_IMPORT_PLAN_MODE
    allowedOperations := ["COPY", "HARDLINK"]
    targetRootRefs := roots.insertionSort fun a b => casefold a ≤ casefold b
    sourceRetention := true
    overwriteAllowed := false
    preflightMaxAgeSeconds := settings.mediaImportPreflightMaxAgeSeconds }

/-- `media_import_config_fingerprint`. -/
def mediaImportConfigFingerprint (settings : MediaImportSettings) :
    Except Exn (Digest MediaImportConfigDocument) := do
  let roots ← validatedTargetRoots settings
  return .sha256 (configDocument settings roots)

/-- `_validate_actor`. -/
def validateActor (value : String) : Except Exn String := do
  let actor := strip value
  ensure (actor ≠ "" ∧ actor.toList.length ≤ 120) (.other "ValueError")
  return actor

end Configuration

/-! ### Hashes -/

/-- `media_import_plan_hash`. -/
def mediaImportPlanHash (plan : MediaImportPlan) : Digest MediaImportPlanDocument :=
  .sha256 plan.toMediaImportPlanDocument

/-- `media_import_preflight_hash`. -/
def mediaImportPreflightHash (preflight : MediaImportPreflight) :
    Digest MediaImportPreflightDocument :=
  .sha256 preflight.toMediaImportPreflightDocument

/-! ### The download -/

/-- The rows that an import is bound to. -/
structure BoundEntities where
  job : DownloadJob
  media : Models.MediaItem
  execution : DownloadExecution
  approval : ApprovalRequest

/-- The error for a download whose rows do not belong together. -/
def importBindingInvalid (message : String) : Exn :=
  refusal "MEDIA_IMPORT_BINDING_INVALID" message

section Downloads

variable [Python]

/-- `_load_bound_entities`. -/
def loadBoundEntities (db : ImportDb) (downloadJobId : String) : Except Exn BoundEntities := do
  let job ← orRaise (db.tables.jobs.get? downloadJobId)
    (.app { errorCode := "DOWNLOAD_JOB_NOT_FOUND", message := "下载任务不存在", statusCode := 404 })
  let missing := importBindingInvalid "媒体入库请求缺少下载任务、媒体、审批或执行绑定"
  let media ← orRaise (db.media.get? job.mediaItemId) missing
  let execution ← orRaise (db.tables.executions.get? job.executionId) missing
  let approval ← orRaise (db.tables.approvals.get? job.approvalId) missing
  let _ ← (verifyDownloadExecution db.tables execution).mapError Exn.app
  ensure (job.mediaItemId = media.id ∧ job.executionId = execution.id ∧
      job.approvalId = execution.approvalId ∧ job.approvalId = approval.id ∧
      approval.mediaItemId = media.id)
    (importBindingInvalid "下载任务、媒体、审批与执行绑定不一致")
  ensure (job.infoHashV1 = execution.actualInfoHashV1 ∧
      job.infoHashV2 = execution.actualInfoHashV2 ∧
      some job.sizeBytes = execution.actualSizeBytes ∧
      some job.fileCount = execution.actualFileCount)
    (importBindingInvalid "下载任务与执行的 hash、大小或文件数绑定不一致")
  return { job, media, execution, approval }

/-- `_require_download_ready`. -/
def requireDownloadReady (job : DownloadJob) (execution : DownloadExecution)
    (approval : ApprovalRequest) : Except Exn Unit := do
  ensure (isEligibleJobStatus job.status = true ∧ 1 ≤ job.progress)
    (refusal "MEDIA_IMPORT_DOWNLOAD_NOT_READY"
      "只有进度为 100% 的做种、完成或暂停任务可以创建媒体入库规划")
  ensure (isFinalExecutionStatus execution.status = true ∧
      requiresReconciliation execution = false ∧ execution.verifiedAt ≠ none ∧
      approval.status = .consumed)
    (refusal "MEDIA_IMPORT_EXECUTION_NOT_FINAL" "下载执行尚未处于已核验且无需对账的终态")

/-- `_job_summary_snapshot`. -/
def jobSummarySnapshot (bound : BoundEntities) : Except Exn MediaImportJobSummarySnapshot := do
  let job := bound.job
  let execution := bound.execution
  let missing := importBindingInvalid "下载执行缺少已核验的大小、文件数或时间绑定"
  let actualSizeBytes ← orRaise execution.actualSizeBytes missing
  let actualFileCount ← orRaise execution.actualFileCount missing
  let verifiedAt ← orRaise execution.verifiedAt missing
  let summary : MediaImportJobSummarySnapshot :=
    { downloadJobId := job.id
      mediaItemId := bound.media.id
      executionId := execution.id
      approvalId := job.approvalId
      jobStatus := job.status
      progress := job.progress
      infoHashV1 := job.infoHashV1
      infoHashV2 := job.infoHashV2
      sizeBytes := job.sizeBytes
      fileCount := job.fileCount
      completedAt := job.completedAt
      hnrStatus := job.hnrStatus
      mediaType := bound.media.mediaType
      tmdbId := bound.media.tmdbId
      mediaTitle := bound.media.title
      mediaYear := bound.media.year
      executionStatus := execution.status
      actualInfoHashV1 := execution.actualInfoHashV1
      actualInfoHashV2 := execution.actualInfoHashV2
      actualSizeBytes := actualSizeBytes
      actualFileCount := actualFileCount
      verifiedAt := verifiedAt }
  ensure (summary.valid = true) (importBindingInvalid "下载任务、媒体或执行摘要格式无效")
  return summary

/-! ### The proposal -/

/-- `_validate_mapping_sources`. -/
def validateMappingSources (manifest : MediaImportSourceManifest)
    (mapping : MediaImportTargetMapping) : Except Exn Unit :=
  ensure (mapping.files.all (fun item =>
      item.sourceRelativePath ∈ manifest.files.map MediaImportManifestFile.relativePath) = true)
    (refusal "MEDIA_IMPORT_TARGET_PROPOSAL_INVALID" "目标映射引用了源清单中不存在的文件")

/-- `_validate_proposal_bindings`. -/
def validateProposalBindings (job : DownloadJob) (manifest : MediaImportSourceManifest)
    (mapping : MediaImportTargetMapping) : Except Exn Unit := do
  ensure (manifest.files.length = job.fileCount ∧
      (manifest.files.map MediaImportManifestFile.sizeBytes).sum = job.sizeBytes)
    (refusal "MEDIA_IMPORT_SOURCE_PROPOSAL_MISMATCH"
      "未受信源清单 proposal 的文件数或总大小与下载任务不一致")
  validateMappingSources manifest mapping

end Downloads

/-- The documents of a plan. -/
structure PlanDocuments where
  manifest : MediaImportSourceManifest
  mapping : MediaImportTargetMapping
  summary : MediaImportJobSummarySnapshot
  deriving DecidableEq

section Imports

variable [UnicodeData]

/-- The documents of a plan as they validate; nothing where one does not. -/
def planDocuments (plan : MediaImportPlan) : Option PlanDocuments := do
  let manifest ← plan.sourceManifest.modelValidate MediaImportSourceManifest.valid
  let mapping ← plan.targetMapping.modelValidate MediaImportTargetMapping.valid
  let summary ← plan.jobSummarySnapshot.modelValidate MediaImportJobSummarySnapshot.valid
  some { manifest, mapping, summary }

/-- `verify_media_import_plan`; the documents of the plan are returned. -/
def verifyMediaImportPlan (plan : MediaImportPlan) (request : MediaImportRequest) :
    Except Exn PlanDocuments := do
  let documents ← orRaise (planDocuments plan)
    (refusal "MEDIA_IMPORT_PLAN_CONTENT_INVALID" "媒体入库规划包含无效的未受信 proposal")
  ensure (plan.mode = MEDIA_IMPORT_PLAN_MODE ∧ plan.sourceRetention = true ∧
      plan.overwriteAllowed = false ∧
      documents.manifest.sourceRootRef ≠ documents.mapping.targetRootRef)
    (refusal "MEDIA_IMPORT_PLAN_CONTENT_INVALID" "媒体入库规划违反纯规划、源保留或禁止覆盖边界")
  ensure (plan.sourceManifestHash = .sha256 documents.manifest ∧
      plan.targetMappingHash = .sha256 documents.mapping ∧
      plan.summarySnapshotHash = .sha256 documents.summary ∧
      plan.planHash = mediaImportPlanHash plan)
    (refusal "MEDIA_IMPORT_PLAN_TAMPERED" "媒体入库规划完整性校验失败")
  ensure (plan.requestId = request.id ∧ plan.downloadJobId = request.downloadJobId ∧
      plan.mediaItemId = request.mediaItemId ∧ plan.executionId = request.executionId ∧
      documents.summary.downloadJobId = request.downloadJobId ∧
      documents.summary.mediaItemId = request.mediaItemId ∧
      documents.summary.executionId = request.executionId)
    (refusal "MEDIA_IMPORT_PLAN_BINDING_INVALID" "媒体入库规划与请求、下载任务、媒体或执行绑定不一致")
  validateMappingSources documents.manifest documents.mapping
  return documents

/-! ### The inspection -/

omit [UnicodeData] in
/-- The value of a path in a dictionary of paths and sizes: that of its last occurrence. -/
def sizeAt (sizes : List (String × ℕ)) (path : String) : Option ℕ :=
  (sizes.reverse.find? fun entry => entry.1 = path).map Prod.snd

omit [UnicodeData] in
/-- The sizes that a manifest proposes. -/
def proposedSources (manifest : MediaImportSourceManifest) : List (String × ℕ) :=
  manifest.files.map fun item => (item.relativePath, item.sizeBytes)

omit [UnicodeData] in
/-- The sizes that an inspection found. -/
def inspectedSources (inspection : MediaImportInspectionSnapshot) : List (String × ℕ) :=
  inspection.sourceFiles.map fun item => (item.relativePath, item.sizeBytes)

omit [UnicodeData] in
/-- Equality of two dictionaries of paths and sizes. -/
def sameSizes (sizes sizes' : List (String × ℕ)) : Bool :=
  ((sizes ++ sizes').map Prod.fst).all fun path => sizeAt sizes path = sizeAt sizes' path

omit [UnicodeData] in
/-- Equality of two sets of paths. -/
def samePaths (paths paths' : List String) : Bool :=
  paths.all (· ∈ paths') && paths'.all (· ∈ paths)

omit [UnicodeData] in
/-- The paths that a mapping proposes. -/
def proposedTargets (mapping : MediaImportTargetMapping) : List String :=
  mapping.files.map MediaImportTargetEntry.targetRelativePath

omit [UnicodeData] in
/-- The paths that an inspection looked at. -/
def inspectedTargets (inspection : MediaImportInspectionSnapshot) : List String :=
  inspection.targetFiles.map MediaImportInspectedTargetFile.relativePath

omit [UnicodeData] in
/-- Whether an inspection is of the source files of a manifest. -/
def sourceBinding (manifest : MediaImportSourceManifest)
    (inspection : MediaImportInspectionSnapshot) : Bool :=
  inspection.sourceRootRef = manifest.sourceRootRef &&
    sameSizes (inspectedSources inspection) (proposedSources manifest)

omit [UnicodeData] in
/-- Whether an inspection is of the target files of a mapping. -/
def targetBinding (mapping : MediaImportTargetMapping)
    (inspection : MediaImportInspectionSnapshot) : Bool :=
  inspection.targetRootRef = mapping.targetRootRef &&
    samePaths (inspectedTargets inspection) (proposedTargets mapping)

/-- `_verify_inspection_proposal_binding`. -/
def verifyInspectionProposalBinding (plan : MediaImportPlan)
    (inspection : MediaImportInspectionSnapshot) : Except Exn Unit := do
  let documents ← orRaise (planDocuments plan) (.other "ValidationError")
  ensure (inspection.downloadJobId = plan.downloadJobId ∧
      inspection.infoHashV1 = documents.summary.infoHashV1 ∧
      inspection.infoHashV2 = documents.summary.infoHashV2 ∧
      sourceBinding documents.manifest inspection = true ∧
      targetBinding documents.mapping inspection = true)
    (refusal "MEDIA_IMPORT_INSPECTION_BINDING_INVALID"
      "受信只读检查快照未与未受信 proposal 精确绑定")

omit [UnicodeData] in
/-- A check that passes under a condition and else blocks. -/
def blockUnless (code : String) (condition : Bool) (passMessage blockMessage : String) :
    MediaImportPreflightCheck :=
  if condition then { code, status := .pass, message := passMessage }
  else { code, status := .blocked, message := blockMessage }

omit [UnicodeData] in
/-- The bytes that the files of a mapping need; nothing where the manifest lacks one of them. -/
def requiredBytes (manifest : MediaImportSourceManifest) (mapping : MediaImportTargetMapping) :
    Option ℕ :=
  (mapping.files.mapM fun item => sizeAt (proposedSources manifest) item.sourceRelativePath).map
    List.sum

omit [UnicodeData] in
/-- The check of what the operation needs of the file systems. -/
def operationCapability (operation : MediaImportOperation)
    (inspection : MediaImportInspectionSnapshot) (required : ℕ) : MediaImportPreflightCheck :=
  let check (status : PreflightStatus) (message : String) : MediaImportPreflightCheck :=
    { code := "OPERATION_CAPABILITY", status, message }
  match operation with
  | .hardlink =>
      match inspection.sameFilesystem with
      | some true => check .pass "只读检查确认硬链接源和目标位于同一文件系统"
      | some false => check .blocked "硬链接源和目标不在同一文件系统"
      | none => check .unknown "无法确认硬链接源和目标是否位于同一文件系统"
  | .copy =>
      match inspection.availableBytes with
      | none => check .unknown "无法确认复制操作所需的可用空间"
      | some available =>
          if available < required then check .blocked "复制操作的目标可用空间不足"
          else check .pass "只读检查确认复制操作的目标可用空间充足"

omit [UnicodeData] in
/-- The checks of `_evaluate_inspection`. -/
def inspectionChecks (plan : MediaImportPlan) (documents : PlanDocuments)
    (inspection : MediaImportInspectionSnapshot) (current : MediaImportJobSummarySnapshot)
    (approvalStatus : ApprovalStatus) (required : ℕ) : List MediaImportPreflightCheck :=
  let summaryMatches : Bool := Digest.sha256 current = plan.summarySnapshotHash &&
    inspection.downloadJobId = plan.downloadJobId && inspection.infoHashV1 = current.infoHashV1 &&
    inspection.infoHashV2 = current.infoHashV2 && approvalStatus = .consumed
  let ready := 1 ≤ current.progress && isEligibleJobStatus current.jobStatus &&
    isFinalExecutionStatus current.executionStatus
  let sources := sourceBinding documents.manifest inspection
  let targets := targetBinding documents.mapping inspection
  [blockUnless "SUMMARY_BINDING" summaryMatches "受信检查已绑定固定下载、媒体、执行和 hash 摘要"
      "受信检查与固定下载、媒体、执行或 hash 摘要不一致",
    blockUnless "DOWNLOAD_READY" ready "下载任务已完成且处于允许的做种、完成或暂停状态"
      "下载任务尚未完成或当前状态不允许规划入库",
    blockUnless "SOURCE_MANIFEST_BINDING" sources "受信源文件观察与未受信 proposal 精确一致"
      "受信源文件观察与未受信 proposal 不一致",
    blockUnless "SOURCE_FILES_SAFE"
      (sources && inspection.sourceFiles.all fun item =>
        item.exists && item.isRegularFile && !item.isSymlink)
      "全部源文件存在、为普通文件且不是符号链接" "源文件缺失、不是普通文件或包含符号链接",
    blockUnless "SOURCE_FILES_COMPLETE" (sources && inspection.sourceFiles.all (·.complete))
      "全部源文件只读检查均已完成" "至少一个源文件尚未完成",
    blockUnless "TARGET_MAPPING_BINDING" targets "受信目标观察与未受信映射 proposal 精确一致"
      "受信目标观察与未受信映射 proposal 不一致",
    blockUnless "TARGET_COLLISION_FREE" (targets && inspection.targetFiles.all (!·.exists))
      "目标路径均不存在，禁止覆盖策略可满足" "至少一个目标路径已存在，禁止覆盖",
    operationCapability plan.proposedOperation inspection required,
    { code := "SOURCE_RETENTION_POLICY", status := .pass, message := "规划固定保留下载源文件" },
    { code := "NO_OVERWRITE_POLICY", status := .pass, message := "规划固定禁止覆盖任何目标文件" },
    if current.hnrStatus = .satisfied then
      { code := "HNR_DISCLOSURE", status := .pass, message := "H&R 状态已明确记录为 SATISFIED" }
    else
      { code := "HNR_DISCLOSURE", status := .warning
        message := "H&R 状态未确认满足，人工批准时必须另行确认" }]

omit [UnicodeData] in
/-- `_overall_status`: the status of the first check of the highest severity. -/
def importOverallStatus (checks : List MediaImportPreflightCheck) : PreflightStatus :=
  checks.foldl (fun worst check =>
    if statusSeverity worst < statusSeverity check.status then check.status else worst) .pass

/-- `_evaluate_inspection`. -/
def evaluateInspection (plan : MediaImportPlan) (inspection : MediaImportInspectionSnapshot)
    (current : MediaImportJobSummarySnapshot) (approvalStatus : ApprovalStatus)
    (checkedAt : DateTime) : Except Exn MediaImportPreflightResult := do
  let documents ← orRaise (planDocuments plan) (.other "ValidationError")
  let required ← orRaise (requiredBytes documents.manifest documents.mapping) (.other "KeyError")
  let checks := inspectionChecks plan documents inspection current approvalStatus required
  let result : MediaImportPreflightResult :=
    { overallStatus := importOverallStatus checks
      checkedAt := checkedAt
      configFingerprint := plan.configFingerprint
      checks := checks }
  ensure (result.valid = true) (.other "ValidationError")
  return result

/-- `verify_media_import_preflight`; the inspection is returned. -/
def verifyMediaImportPreflight (preflight : MediaImportPreflight) (plan : MediaImportPlan) :
    Except Exn MediaImportInspectionSnapshot := do
  let invalid := refusal "MEDIA_IMPORT_PREFLIGHT_INVALID" "媒体入库只读预检记录格式无效"
  let inspection ← orRaise
    (preflight.inspectionSnapshot.modelValidate MediaImportInspectionSnapshot.valid) invalid
  let result ← orRaise (preflight.result.modelValidate MediaImportPreflightResult.valid) invalid
  ensure (preflight.inspectionHash = .sha256 inspection ∧
      preflight.resultHash = .sha256 result ∧
      preflight.preflightHash = mediaImportPreflightHash preflight)
    (refusal "MEDIA_IMPORT_PREFLIGHT_TAMPERED" "媒体入库只读预检完整性校验失败")
  ensure (preflight.requestId = plan.requestId ∧ preflight.planId = plan.id ∧
      preflight.configFingerprint = plan.configFingerprint ∧
      result.configFingerprint = preflight.configFingerprint ∧
      result.checkedAt = preflight.checkedAt ∧ result.overallStatus = preflight.overallStatus)
    (refusal "MEDIA_IMPORT_PREFLIGHT_BINDING_INVALID" "媒体入库只读预检未绑定当前规划")
  let codes := result.checks.map MediaImportPreflightCheck.code
  ensure (codes.Nodup ∧ samePaths codes MEDIA_IMPORT_PREFLIGHT_CHECK_CODES = true)
    (refusal "MEDIA_IMPORT_PREFLIGHT_CHECKS_INVALID" "媒体入库只读预检检查项缺失或重复")
  ensure (importOverallStatus result.checks = result.overallStatus)
    (refusal "MEDIA_IMPORT_PREFLIGHT_SUMMARY_INVALID" "媒体入库只读预检汇总状态与明细不一致")
  verifyInspectionProposalBinding plan inspection
  return inspection

/-! ### Rows -/

omit [UnicodeData] in
/-- `_get_plan`. -/
def getImportPlan (db : ImportDb) (requestId : String) : Except Exn MediaImportPlan :=
  orRaise (db.plans.rows.find? fun plan => plan.requestId = requestId)
    (refusal "MEDIA_IMPORT_PLAN_NOT_FOUND" "媒体入库规划请求缺少不可变计划")

omit [UnicodeData] in
/-- Whether a pre-flight comes before another in the order of the latest first. -/
def isLater (preflight other : MediaImportPreflight) : Bool :=
  other.createdAt < preflight.createdAt ||
    (other.createdAt = preflight.createdAt && other.id < preflight.id)

omit [UnicodeData] in
/-- The first of a list of pre-flights in the order of the latest first. -/
def latestOf : List MediaImportPreflight → Option MediaImportPreflight
  | [] => none
  | preflight :: rest =>
      match latestOf rest with
      | none => some preflight
      | some latest => if isLater latest preflight then some latest else some preflight

omit [UnicodeData] in
/-- The latest pre-flight of a request. -/
def latestPreflight (db : ImportDb) (requestId : String) : Option MediaImportPreflight :=
  latestOf (db.preflights.rows.filter fun preflight => preflight.requestId = requestId)

omit [UnicodeData] in
/-- `_get_preflight`. -/
def getImportPreflight (db : ImportDb) (requestId : String) : Except Exn MediaImportPreflight :=
  orRaise (latestPreflight db requestId)
    (refusal "MEDIA_IMPORT_PREFLIGHT_NOT_FOUND" "媒体入库请求缺少受信只读预检")

omit [UnicodeData] in
/-- `get_media_import_request`, without the gate of the settings. -/
def getMediaImportRequest (db : ImportDb) (requestId : String) : Except Exn MediaImportRequest :=
  orRaise (db.requests.get? requestId)
    (.app { errorCode := "MEDIA_IMPORT_REQUEST_NOT_FOUND", message := "媒体入库规划请求不存在"
            statusCode := 404 })

omit [UnicodeData] in
/-- The active request of a download. -/
def activeImport (db : ImportDb) (downloadJobId : String) : Option MediaImportRequest :=
  db.requests.rows.find? fun r => r.downloadJobId = downloadJobId ∧ isActiveImportStatus r.status

omit [UnicodeData] in
/-- Writing a row of `media_import_requests`. -/
def saveImportRequest (request : MediaImportRequest) : ImportTx Unit :=
  Tx.modify fun db => { db with requests := db.requests.save request }

omit [UnicodeData] in
/-- Inserting a row of `media_import_requests`, under its primary key and the index of the active
requests of a download. -/
def insertImportRequest (request : MediaImportRequest) : ImportTx Unit := do
  let db ← Tx.get
  Tx.require (db.requests.get? request.id = none ∧ activeImport db request.downloadJobId = none)
    .integrity
  saveImportRequest request

omit [UnicodeData] in
/-- Inserting a row of `media_import_plans`, under its primary key, the index of its request and
that of its hash. -/
def insertImportPlan (plan : MediaImportPlan) : ImportTx Unit := do
  let db ← Tx.get
  Tx.require (db.plans.get? plan.id = none ∧
    db.plans.rows.all (fun p => p.requestId ≠ plan.requestId && p.planHash ≠ plan.planHash) = true)
    .integrity
  Tx.modify fun db => { db with plans := db.plans.save plan }

omit [UnicodeData] in
/-- Inserting a row of `media_import_preflights`, under its primary key and the index of its
hash. -/
def insertImportPreflight (preflight : MediaImportPreflight) : ImportTx Unit := do
  let db ← Tx.get
  Tx.require (db.preflights.get? preflight.id = none ∧
    db.preflights.rows.all (fun p => p.preflightHash ≠ preflight.preflightHash) = true) .integrity
  Tx.modify fun db => { db with preflights := db.preflights.save preflight }

omit [UnicodeData] in
/-- `_add_event`. -/
def addImportEvent (request : MediaImportRequest) (eventType : String)
    (fromStatus : Option MediaImportStatus) (actor : String) : ImportTx Unit :=
  Tx.modify fun db =>
    { db with
      events := db.events ++
        [{ requestId := request.id, eventType, fromStatus, toStatus := request.status, actor }] }

/-! ### Creation -/

/-- The checks of a proposal against the settings and the download. -/
def checkProposal (db : ImportDb) (request : MediaImportCreateRequest)
    (settings : MediaImportSettings) :
    Except Exn (BoundEntities × MediaImportJobSummarySnapshot × Digest MediaImportConfigDocument) := do
  let targetRoots ← validatedTargetRoots settings
  ensure (request.targetMapping.targetRootRef ∈ targetRoots)
    (refusal "MEDIA_IMPORT_TARGET_NOT_ALLOWED" "媒体入库目标根引用不在服务端白名单中")
  let bound ← loadBoundEntities db request.downloadJobId
  requireDownloadReady bound.job bound.execution bound.approval
  ensure (request.sourceManifest.sourceRootRef = bound.job.savePathRef)
    (refusal "MEDIA_IMPORT_SOURCE_REF_MISMATCH" "未受信源清单未绑定下载任务保存位置引用")
  ensure (request.targetMapping.targetRootRef ≠ bound.job.savePathRef)
    (refusal "MEDIA_IMPORT_TARGET_INVALID" "媒体库目标引用必须与下载源引用分离")
  validateProposalBindings bound.job request.sourceManifest request.targetMapping
  ensure (activeImport db bound.job.id = none)
    (refusal "MEDIA_IMPORT_REQUEST_CONFLICT" "下载任务已有有效的媒体入库规划请求")
  let summary ← jobSummarySnapshot bound
  let fingerprint ← mediaImportConfigFingerprint settings
  return (bound, summary, fingerprint)

omit [UnicodeData] in
/-- The plan of a new request. -/
def newImportPlan (importRequest : MediaImportRequest) (request : MediaImportCreateRequest)
    (summary : MediaImportJobSummarySnapshot) (fingerprint : Digest MediaImportConfigDocument)
    (actor : String) (id : Uuid) (now : DateTime) : MediaImportPlan :=
  let document : MediaImportPlanDocument :=
    { requestId := importRequest.id
      downloadJobId := importRequest.downloadJobId
      mediaItemId := importRequest.mediaItemId
      executionId := importRequest.executionId
      mode := MEDIA_IMPORT_PLAN_MODE
      proposedOperation := request.proposedOperation
      sourceManifestHash := .sha256 request.sourceManifest
      targetMappingHash := .sha256 request.targetMapping
      summarySnapshotHash := .sha256 summary
      configFingerprint := fingerprint
      sourceRetention := true
      overwriteAllowed := false }
  { document with
    id := id.text
    sourceManifest := .dump request.sourceManifest
    targetMapping := .dump request.targetMapping
    jobSummarySnapshot := .dump summary
    planHash := .sha256 document
    createdBy := actor
    createdAt := now }

/-- `create_media_import_request`. -/
def createMediaImportRequest (request : MediaImportCreateRequest) (settings : MediaImportSettings)
    (actor : String) (newIds : Uuid × Uuid) (now : DateTime) :
    ImportTx (MediaImportRequest × MediaImportPlan) := do
  Tx.ofExcept (requireMediaImportEnabled settings)
  let actor ← Tx.ofExcept (validateActor actor)
  let db ← Tx.get
  let (bound, summary, fingerprint) ← Tx.ofExcept (checkProposal db request settings)
  let importRequest : MediaImportRequest :=
    { id := newIds.1.text
      downloadJobId := bound.job.id
      mediaItemId := bound.media.id
      executionId := bound.execution.id
      status := .preflightRequired
      requestedBy := actor
      requestedAt := now
      createdAt := now
      updatedAt := now }
  insertImportRequest importRequest
  let plan := newImportPlan importRequest request summary fingerprint actor newIds.2 now
  insertImportPlan plan
  addImportEvent importRequest "MEDIA_IMPORT_PLAN_PROPOSAL_CREATED" none actor
  return (importRequest, plan)

/-! ### Pre-flight -/

/-- The checks of a pre-flight before anything is written: the plan, the configuration, the time
of the inspection, and the evaluation. -/
def checkInspection (db : ImportDb) (importRequest : MediaImportRequest)
    (inspection : MediaImportInspectionSnapshot) (settings : MediaImportSettings)
    (now : DateTime) :
    Except Exn (MediaImportPlan × Digest MediaImportConfigDocument × MediaImportPreflightResult) := do
  ensure (importRequest.status = .preflightRequired ∨ importRequest.status = .reviewRequired)
    (refusal "MEDIA_IMPORT_PREFLIGHT_STATE_INVALID" "媒体入库请求当前状态不允许记录只读预检")
  let plan ← getImportPlan db importRequest.id
  let _ ← verifyMediaImportPlan plan importRequest
  let currentFingerprint ← mediaImportConfigFingerprint settings
  ensure (plan.configFingerprint = currentFingerprint)
    (refusal "MEDIA_IMPORT_CONFIG_CHANGED" "媒体入库规划配置已变化，请创建新计划")
  ensure (inspection.inspectedAt ≤ now ∧
      now - inspection.inspectedAt ≤ seconds settings.mediaImportPreflightMaxAgeSeconds)
    (refusal "MEDIA_IMPORT_INSPECTION_STALE" "受信只读检查快照时间无效或已过期")
  let bound ← loadBoundEntities db importRequest.downloadJobId
  let currentSummary ← jobSummarySnapshot bound
  verifyInspectionProposalBinding plan inspection
  let result ← evaluateInspection plan inspection currentSummary bound.approval.status now
  return (plan, currentFingerprint, result)

omit [UnicodeData] in
/-- The row of a pre-flight. -/
def newImportPreflight (importRequest : MediaImportRequest) (plan : MediaImportPlan)
    (inspection : MediaImportInspectionSnapshot) (result : MediaImportPreflightResult)
    (fingerprint : Digest MediaImportConfigDocument) (actor : String) (id : Uuid)
    (now : DateTime) : MediaImportPreflight :=
  let document : MediaImportPreflightDocument :=
    { requestId := importRequest.id
      planId := plan.id
      overallStatus := result.overallStatus
      inspectionHash := .sha256 inspection
      resultHash := .sha256 result
      configFingerprint := fingerprint
      checkedBy := actor
      checkedAt := now }
  { document with
    id := id.text
    inspectionSnapshot := .dump inspection
    result := .dump result
    preflightHash := .sha256 document
    createdAt := now }

/-- `record_media_import_preflight`. -/
def recordMediaImportPreflight (requestId : String) (inspection : MediaImportInspectionSnapshot)
    (settings : MediaImportSettings) (actor : String) (newId : Uuid) (now : DateTime) :
    ImportTx MediaImportPreflight := do
  Tx.ofExcept (requireMediaImportEnabled settings)
  let actor ← Tx.ofExcept (validateActor actor)
  let db ← Tx.get
  let importRequest ← Tx.ofExcept (getMediaImportRequest db requestId)
  let (plan, fingerprint, result) ←
    Tx.ofExcept (checkInspection db importRequest inspection settings now)
  let preflight := newImportPreflight importRequest plan inspection result fingerprint actor newId now
  insertImportPreflight preflight
  let moved : MediaImportRequest :=
    { importRequest with
      status :=
        if preflight.overallStatus = .pass ∨ preflight.overallStatus = .warning then .reviewRequired
        else .preflightRequired
      updatedAt := now }
  saveImportRequest moved
  addImportEvent moved "MEDIA_IMPORT_TRUSTED_PREFLIGHT_RECORDED" (some importRequest.status) actor
  return preflight

/-! ### Decisions -/

/-- The checks of an approval. -/
def checkApproval (db : ImportDb) (importRequest : MediaImportRequest)
    (decision : MediaImportApproveRequest) (settings : MediaImportSettings) (now : DateTime) :
    Except Exn Unit := do
  ensure (importRequest.status = .reviewRequired)
    (refusal "MEDIA_IMPORT_APPROVAL_STATE_INVALID" "媒体入库请求尚未完成受信预检或已被处理")
  let plan ← getImportPlan db importRequest.id
  let preflight ← getImportPreflight db importRequest.id
  let _ ← verifyMediaImportPlan plan importRequest
  let inspection ← verifyMediaImportPreflight preflight plan
  let currentFingerprint ← mediaImportConfigFingerprint settings
  ensure (plan.configFingerprint = currentFingerprint ∧
      preflight.configFingerprint = currentFingerprint)
    (refusal "MEDIA_IMPORT_CONFIG_CHANGED" "媒体入库规划配置已变化，请创建新计划")
  ensure (inspection.inspectedAt ≤ preflight.checkedAt ∧ preflight.checkedAt ≤ now ∧
      now - inspection.inspectedAt ≤ seconds settings.mediaImportPreflightMaxAgeSeconds)
    (refusal "MEDIA_IMPORT_PREFLIGHT_STALE" "媒体入库只读预检结果已过期，请重新预检")
  ensure (preflight.overallStatus = .pass ∨ preflight.overallStatus = .warning)
    (refusal "MEDIA_IMPORT_PREFLIGHT_NOT_PASSABLE"
      "媒体入库只读预检包含 BLOCKED 或 UNKNOWN，禁止批准")
  ensure (decision.acknowledgesPlanOnly = true ∧ decision.acknowledgesSourceRetention = true ∧
      decision.acknowledgesNoOverwrite = true)
    (refusal "MEDIA_IMPORT_CONFIRMATIONS_REQUIRED" "必须确认仅生成计划、保留源文件且不覆盖目标")
  let bound ← loadBoundEntities db importRequest.downloadJobId
  requireDownloadReady bound.job bound.execution bound.approval
  let currentSummary ← jobSummarySnapshot bound
  ensure (Digest.sha256 currentSummary = plan.summarySnapshotHash)
    (refusal "MEDIA_IMPORT_SUMMARY_CHANGED" "下载、媒体或执行摘要已变化，请创建新计划")
  ensure (bound.job.hnrStatus = .satisfied ∨ decision.acknowledgesHnr = true)
    (refusal "MEDIA_IMPORT_HNR_CONFIRMATION_REQUIRED" "H&R 尚未确认满足，批准规划前必须显式确认")

/-- `approve_media_import_request`. -/
def approveMediaImportRequest (requestId : String) (decision : MediaImportApproveRequest)
    (settings : MediaImportSettings) (actor : String) (now : DateTime) :
    ImportTx MediaImportRequest := do
  Tx.ofExcept (requireMediaImportEnabled settings)
  let actor ← Tx.ofExcept (validateActor actor)
  let db ← Tx.get
  let importRequest ← Tx.ofExcept (getMediaImportRequest db requestId)
  Tx.ofExcept (checkApproval db importRequest decision settings now)
  let moved : MediaImportRequest :=
    { importRequest with
      status := .approvedPlanOnly
      approvedBy := some actor
      approvedAt := some now
      decisionAcknowledgements := some (.dump { acknowledgesHnr := decision.acknowledgesHnr })
      updatedAt := now }
  saveImportRequest moved
  addImportEvent moved "MEDIA_IMPORT_PLAN_ONLY_APPROVED" (some importRequest.status) actor
  return moved

/-- `_sanitize_reason`. -/
def sanitizeReason (value : Option String) : Except Exn (Option String) :=
  orRaise (normalizeMediaImportReason value)
    (.app { errorCode := "MEDIA_IMPORT_REASON_INVALID"
            message := "媒体入库决策原因包含控制字符或清理后超过存储限制", statusCode := 422 })

/-- `reject_media_import_request`. -/
def rejectMediaImportRequest (requestId : String) (reason : Option String)
    (settings : MediaImportSettings) (actor : String) (now : DateTime) :
    ImportTx MediaImportRequest := do
  Tx.ofExcept (requireMediaImportEnabled settings)
  let actor ← Tx.ofExcept (validateActor actor)
  let db ← Tx.get
  let importRequest ← Tx.ofExcept (getMediaImportRequest db requestId)
  Tx.require
    (importRequest.status = .preflightRequired ∨ importRequest.status = .reviewRequired)
    (refusal "MEDIA_IMPORT_REJECTION_STATE_INVALID" "媒体入库请求当前状态不能拒绝")
  let reason ← Tx.ofExcept (sanitizeReason reason)
  let moved : MediaImportRequest :=
    { importRequest with
      status := .rejected
      rejectedBy := some actor
      rejectedAt := some now
      rejectionReason := reason
      updatedAt := now }
  saveImportRequest moved
  addImportEvent moved "MEDIA_IMPORT_REQUEST_REJECTED" (some importRequest.status) actor
  return moved

/-- `revoke_media_import_request`. -/
def revokeMediaImportRequest (requestId : String) (reason : Option String)
    (settings : MediaImportSettings) (actor : String) (now : DateTime) :
    ImportTx MediaImportRequest := do
  Tx.ofExcept (requireMediaImportEnabled settings)
  let actor ← Tx.ofExcept (validateActor actor)
  let db ← Tx.get
  let importRequest ← Tx.ofExcept (getMediaImportRequest db requestId)
  Tx.require (importRequest.status = .approvedPlanOnly)
    (refusal "MEDIA_IMPORT_REVOCATION_STATE_INVALID" "只有已批准的纯规划请求可以撤销")
  let reason ← Tx.ofExcept (sanitizeReason reason)
  let moved : MediaImportRequest :=
    { importRequest with
      status := .revoked
      revokedBy := some actor
      revokedAt := some now
      revocationReason := reason
      updatedAt := now }
  saveImportRequest moved
  addImportEvent moved "MEDIA_IMPORT_PLAN_ONLY_REVOKED" (some importRequest.status) actor
  return moved

/-! ### Responses -/

/-- The checks of `media_import_request_response`, with which every route of a request ends: the
plan and the latest pre-flight are verified, and the acknowledgements are read. -/
def mediaImportRequestResponse (db : ImportDb) (request : MediaImportRequest) :
    Except Exn Unit := do
  let plan ← getImportPlan db request.id
  let _ ← verifyMediaImportPlan plan request
  match latestPreflight db request.id with
  | none => pure ()
  | some preflight =>
      let _ ← verifyMediaImportPreflight preflight plan
  ensure (request.decisionAcknowledgements.all (fun a => a.parse.isSome) = true)
    (.other "ValidationError")

end Imports

end LibSeek.Services
