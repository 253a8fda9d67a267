/-
Approvals.

An approval request is created for a candidate, is pre-flighted, and is approved, rejected or left
to expire; an approved one is revoked, expires, or is executed and consumed.  Approving a request
builds its download plan.  Every operation here is the body of a transaction over the database:
what it stages before it raises is kept or thrown away by its caller, and only one staging is ever
kept, that of an expiry.

Main definitions:

* `Services.verifySnapshot`, `Services.verifyDownloadPlan` — the checks of what was stored;
* `Services.buildQbPlanTags` — the tags of a plan;
* `Services.createApprovalRequest`, `Services.getOrCreatePendingApprovalRequest` — creation;
* `Services.savePreflightResult`, `Services.approveRequest`, `Services.rejectRequest`,
  `Services.revokeRequest`, `Services.consumeApproval` — the operations on a request;
* `Services.withHeld` — **a unit of work on a request that the session has read before**.
-/

import LibSeek.Lib.Session
import LibSeek.Models.Entities
import LibSeek.Services.Preflight

set_option relaxedAutoImplicit false
set_option autoImplicit false

namespace LibSeek.Services

open LibSeek.Core LibSeek.Lib LibSeek.Models LibSeek.Schemas

/-! ### Transactions on the database -/

/-- A unit of work on the database. -/
abbrev DbTx (α : Type) := Tx Db Exn α

/-- Raising an error of a service. -/
def raiseApp {α : Type} (e : AppError) : DbTx α :=
  Tx.raise (.app e)

/-- Raising an error of a service unless a condition holds. -/
def requireApp (p : Prop) [Decidable p] (e : AppError) : DbTx Unit :=
  Tx.require p (.app e)

/-- A pure check inside a unit of work. -/
def liftApp {α : Type} (x : Except AppError α) : DbTx α :=
  Tx.ofExcept (x.mapError Exn.app)

section Rules

variable {α : Type} {Q : α → Db → Prop} {E : Exn → Db → Prop} {db : Db}

@[simp] theorem wp_raiseApp (e : AppError) :
    Tx.wp (raiseApp e : DbTx α) Q E db ↔ E (.app e) db :=
  Iff.rfl

@[simp] theorem wp_requireApp (p : Prop) [Decidable p] (e : AppError) (Q : Unit → Db → Prop) :
    Tx.wp (requireApp p e) Q E db ↔ (p → Q () db) ∧ (¬ p → E (.app e) db) :=
  Tx.wp_require p (Exn.app e) Q

@[simp] theorem wp_liftApp (x : Except AppError α) :
    Tx.wp (liftApp x) Q E db ↔
      (∀ a, x = .ok a → Q a db) ∧ (∀ e, x = .error e → E (.app e) db) := by
  cases x <;> simp [liftApp, Except.mapError]

end Rules

/-! ### Checks of what was stored -/

/-- `snapshot_hash` on the snapshot of an approval. -/
def snapshotHash (snapshot : JsonColumn ApprovalCandidateSnapshot) : SnapshotHash :=
  .sha256 snapshot

variable [Python]

/-- `verify_snapshot`. -/
def verifySnapshot (approval : ApprovalRequest) : Except AppError ApprovalCandidateSnapshot := do
  ensure (snapshotHash approval.candidateSnapshot = approval.snapshotHash)
    (conflict "APPROVAL_SNAPSHOT_TAMPERED" "审批候选快照完整性校验失败")
  let snapshot ← orRaise
    (approval.candidateSnapshot.modelValidate ApprovalCandidateSnapshot.valid)
    (conflict "APPROVAL_SNAPSHOT_INVALID" "审批候选快照格式无效")
  ensure (snapshot.mediaItemId = approval.mediaItemId ∧
      snapshot.torrentCandidateId = approval.torrentCandidateId ∧
      snapshot.requestedAt = approval.requestedAt ∧ snapshot.expiresAt = approval.expiresAt)
    (conflict "APPROVAL_SNAPSHOT_BINDING_INVALID" "审批候选快照与固定审批字段不一致")
  return snapshot

omit [Python] in
/-- `validate_preflight_result`. -/
def validatePreflightResult (value : JsonColumn PreflightResult) :
    Except AppError PreflightResult :=
  orRaise value.parse
    (conflict "PREFLIGHT_RESULT_INVALID" "下载预检结果完整性校验失败")

/-- `download_plan_hash`. -/
def downloadPlanHash (plan : DownloadPlan) : Digest PlanPayload :=
  .sha256 plan.toPlanPayload

def QB_TAG_MAX_COUNT : ℕ := 20
def QB_TAG_MAX_LENGTH : ℕ := 100

/-- `media_title_qb_tag`. -/
def mediaTitleQbTag (mediaTitle : String) : Except AppError String :=
  let cleaned := String.ofList <| mediaTitle.toList.map fun c =>
    if c = ',' then '，' else if Python.isprintable c then c else ' '
  let normalized := strip (takeStr (joinWords cleaned) QB_TAG_MAX_LENGTH)
  if normalized = "" then
    .error (conflict "QB_MEDIA_TITLE_TAG_INVALID" "影视中文名无法生成有效的 qBittorrent 标签")
  else .ok normalized

/-- The loop over the configured tags: each is stripped and checked, and kept unless one with the
same case folding was kept before. -/
def configuredPlanTags : List String → List String → Except AppError (List String)
  | tags, [] => .ok tags
  | tags, rawTag :: rest =>
      let tag := strip rawTag
      if tag = "" ∨ ¬ isprintable tag ∨ containsChar tag ',' ∨
          tag.toList.length > QB_TAG_MAX_LENGTH then
        .error (conflict "QB_PLAN_TAGS_INVALID" "qBittorrent 固定标签配置无效")
      else if casefold tag ∈ tags.map casefold then configuredPlanTags tags rest
      else configuredPlanTags (tags ++ [tag]) rest

/-- `build_qb_plan_tags`. -/
def buildQbPlanTags (configuredTags : List String) (mediaTitle : String) :
    Except AppError (List String) :=
  match configuredPlanTags [] configuredTags with
  | .error e => .error e
  | .ok tags =>
      match mediaTitleQbTag mediaTitle with
      | .error e => .error e
      | .ok mediaTag =>
          let tags := if casefold mediaTag ∈ tags.map casefold then tags else tags ++ [mediaTag]
          if tags.length > QB_TAG_MAX_COUNT then
            .error (conflict "QB_PLAN_TAGS_INVALID"
              "qBittorrent 标签数量超过限制，无法加入影视中文名")
          else .ok tags

/-- `verify_download_plan`. -/
def verifyDownloadPlan (plan : DownloadPlan) (approval : ApprovalRequest) :
    Except AppError DownloadPlan := do
  let snapshot ← verifySnapshot approval
  ensure (plan.planHash = downloadPlanHash plan)
    (conflict "DOWNLOAD_PLAN_TAMPERED" "下载计划完整性校验失败")
  ensure (plan.approvalId = approval.id ∧ plan.approvalSnapshotHash = approval.snapshotHash)
    (conflict "DOWNLOAD_PLAN_BINDING_INVALID" "下载计划未绑定当前审批快照")
  ensure (validateInternalTorrentRef plan.torrentRef = true ∧
      torrentRefMatchesSite plan.torrentRef plan.siteId = true ∧
      plan.mediaDestinationPlan.parse ≠ none)
    (conflict "DOWNLOAD_PLAN_CONTENT_INVALID" "下载计划包含无效字段")
  let preflight ← validatePreflightResult plan.preflightResult
  let approvalPreflight ← orRaise approval.preflightResult
    (conflict "DOWNLOAD_PLAN_BINDING_INVALID" "下载计划缺少审批预检绑定")
  let approvalPreflight ← validatePreflightResult approvalPreflight
  ensure (preflight.policyFingerprint = plan.preflightPolicyFingerprint ∧
      preflight = approvalPreflight)
    (conflict "DOWNLOAD_PLAN_BINDING_INVALID" "下载计划预检策略绑定无效")
  let expectedMediaTag ← mediaTitleQbTag snapshot.mediaTitle
  ensure (plan.tags.any (fun tag => casefold tag = casefold expectedMediaTag) = true)
    (conflict "DOWNLOAD_PLAN_BINDING_INVALID" "下载计划缺少当前影视中文名标签")
  return plan

/-! ### Transitions -/

omit [Python] in
/-- Writing a row of `approval_requests`. -/
def saveApproval (approval : ApprovalRequest) : DbTx Unit :=
  Tx.modify fun db => { db with approvals := db.approvals.save approval }

omit [Python] in
/-- Adding a row of `approval_events`. -/
def addApprovalEvent (event : ApprovalEvent) : DbTx Unit :=
  Tx.modify fun db => { db with approvalEvents := db.approvalEvents ++ [event] }

omit [Python] in
/-- `_add_event`. -/
def addEvent (approval : ApprovalRequest) (eventType : String)
    (fromStatus : Option ApprovalStatus) (toStatus : ApprovalStatus) (actor : String)
    (reason : Option String := none) : DbTx Unit :=
  addApprovalEvent
    { approvalRequestId := approval.id, eventType, fromStatus, toStatus, actor, reason
      snapshotHash := approval.snapshotHash }

omit [Python] in
/-- `_transition`; the row written is returned. -/
def transition (approval : ApprovalRequest) (toStatus : ApprovalStatus)
    (actor eventType : String) (reason : Option String) (now : DateTime) :
    DbTx ApprovalRequest := do
  let moved : ApprovalRequest :=
    { approval with
      status := toStatus
      decidedAt := if toStatus ≠ .pending then some now else approval.decidedAt }
  saveApproval moved
  addEvent moved eventType (some approval.status) toStatus actor reason
  return moved

omit [Python] in
/-- `_is_expired`. -/
def isExpired (approval : ApprovalRequest) (now : DateTime) : Bool :=
  approval.expiresAt ≤ now

omit [Python] in
/-- `_stage_expiration_if_needed`: the row as it is afterwards, and whether it has just expired. -/
def stageExpirationIfNeeded (approval : ApprovalRequest) (now : DateTime) :
    DbTx (ApprovalRequest × Bool) :=
  if (approval.status = .pending ∨ approval.status = .approved) ∧ isExpired approval now then do
    let expired ← transition approval .expired "system" "EXPIRED" (some "审批有效期已结束") now
    return (expired, true)
  else
    return (approval, false)

/-- `_expire_or_require_pending`, which is `require_pending_approval` at a given time. -/
def requirePendingApproval (approval : ApprovalRequest) (now : DateTime) :
    DbTx ApprovalCandidateSnapshot := do
  let snapshot ← liftApp (verifySnapshot approval)
  let (_, expired) ← stageExpirationIfNeeded approval now
  requireApp (approval.status ≠ .expired ∧ expired = false)
    (conflict "APPROVAL_EXPIRED" "审批已过期")
  requireApp (approval.status = .pending)
    (conflict "APPROVAL_NOT_PENDING" "审批当前状态不是 PENDING")
  return snapshot

/-! ### Creation -/

/-- The row of a candidate that a request is created for. -/
structure TorrentCandidateRecord where
  /-- The stored candidate, or nothing where it does not validate. -/
  candidateSnapshot : Option TorrentCandidate
  matchScore : Rat
  matchReasons : List String
  warnings : List String

/-- The media that a candidate belongs to. -/
structure MediaItem where
  id : String
  title : String
  mediaType : MediaType
  tmdbId : Option Int
  year : Option Int

omit [Python] in
/-- The active request of a candidate. -/
def activeApproval (db : Tables) (candidateId : String) : Option ApprovalRequest :=
  db.approvals.rows.find? fun a => a.torrentCandidateId = candidateId ∧ a.status.isActive

omit [Python] in
/-- The hash of a candidate as the snapshot stores it; nothing where it is not valid. -/
def snapshotInfoHash : Option String → Option (Option InfoHash)
  | none => some none
  | some value => (infoHashIsValid value).map some

omit [Python] in
/-- The season of a candidate as the snapshot stores it; nothing where it is not valid. -/
def snapshotSeason : Option Int → Option (Option ℕ)
  | none => some none
  | some n => if 0 ≤ n then some (some n.toNat) else none

/-- The snapshot of a candidate; nothing where its validation fails. -/
def candidateSnapshotOf (candidateId : String) (media : MediaItem)
    (record : TorrentCandidateRecord) (candidate : TorrentCandidate) (requestedAt expiresAt : DateTime) :
    Option ApprovalCandidateSnapshot := do
  let infoHash ← snapshotInfoHash candidate.infoHash
  let season ← snapshotSeason candidate.season
  let hnrRule := effectiveHnrRule candidate.siteId candidate.hitAndRun
  let snapshot : ApprovalCandidateSnapshot :=
    { mediaItemId := media.id
      mediaTitle := media.title
      mediaType := media.mediaType
      tmdbId := media.tmdbId
      year := media.year
      torrentCandidateId := candidateId
      siteId := candidate.siteId
      torrentId := candidate.torrentId
      torrentRef := candidate.detailsRef
      releaseTitle := candidate.releaseTitle
      sizeBytes := candidate.sizeBytes
      infoHash := infoHash
      season := season
      episodes := candidate.episodes
      resolution := candidate.resolution
      source := candidate.source
      subtitles := candidate.subtitles
      seeders := candidate.seeders
      promotion :=
        { downloadFactor := candidate.downloadFactor, uploadFactor := candidate.uploadFactor }
      hitAndRun := hnrRule.applies
      matchScore := (candidate.matchScore.filter (· ≠ 0)).getD record.matchScore
      matchReasons := record.matchReasons
      warnings :=
        if hnrRule.known then record.warnings.filter (· ≠ "HNR_UNKNOWN") else record.warnings
      requestedAt := requestedAt
      expiresAt := expiresAt }
  if snapshot.valid then some snapshot else none

omit [Python] in
/-- Inserting a row of `approval_requests`, under its primary key and the index of the active
requests of a candidate. -/
def insertApproval (approval : ApprovalRequest) : DbTx Unit := do
  let db ← Tx.get
  Tx.require (db.approvals.get? approval.id = none ∧
    activeApproval db.toTables approval.torrentCandidateId = none) .integrity
  saveApproval approval

/-- The truth value of an optional integer. -/
def orDefault (value : Option Int) (default : Int) : Int :=
  match value with
  | some n => if n = 0 then default else n
  | none => default

/-- What the other tables hold of a candidate: its row, and the media of its search run. -/
structure CandidateRows where
  record : Option TorrentCandidateRecord
  media : Option MediaItem

omit [Python] in
/-- The way past an active request of the candidate: one that has expired is moved on, any other
stops the creation. -/
def expireActiveApproval (existing : Option ApprovalRequest) (now : DateTime) : DbTx Unit :=
  match existing with
  | none => pure ()
  | some existing => do
      requireApp (existing.status ≠ .executing)
        (conflict "APPROVAL_EXECUTION_IN_PROGRESS" "该固定候选已有执行中的审批")
      requireApp (isExpired existing now = true)
        (conflict "APPROVAL_REQUEST_DUPLICATE" "该固定候选已有有效审批请求")
      let _ ← transition existing .expired "system" "EXPIRED" (some "审批有效期已结束") now

/-- `create_approval_request`. -/
def createApprovalRequest (candidateId : String) (rows : CandidateRows)
    (request : ApprovalCreateRequest) (settings : Settings) (actor : String) (newId : Uuid)
    (now : DateTime) : DbTx ApprovalRequest := do
  let record ← Tx.ofOption rows.record
    (.app { errorCode := "TORRENT_CANDIDATE_NOT_FOUND", message := "PT 候选不存在", statusCode := 404 })
  let media ← Tx.ofOption rows.media
    (.app { errorCode := "TORRENT_CANDIDATE_NOT_FOUND", message := "PT 候选关联信息不存在"
            statusCode := 404 })
  let db ← Tx.get
  expireActiveApproval (activeApproval db.toTables candidateId) now
  let ttl := orDefault request.expiresInMinutes settings.approvalDefaultTtlMinutes
  requireApp (ttl ≤ settings.approvalMaxTtlMinutes)
    { errorCode := "APPROVAL_TTL_TOO_LONG", message := "审批有效期超过系统上限", statusCode := 422 }
  let expiresAt := now + minutes ttl
  let candidate ← Tx.ofOption record.candidateSnapshot (.other "ValidationError")
  let immutable ← Tx.ofOption
    (candidateSnapshotOf candidateId media record candidate now expiresAt) (.other "ValidationError")
  let approval : ApprovalRequest :=
    { id := newId.text
      mediaItemId := media.id
      torrentCandidateId := candidateId
      status := .pending
      candidateSnapshot := .dump immutable
      snapshotHash := snapshotHash (.dump immutable)
      requestedBy := actor
      requestedAt := now
      expiresAt := expiresAt
      decidedAt := none
      preflightResult := none
      preflightCheckedAt := none }
  insertApproval approval
  addEvent approval "REQUESTED" none .pending actor
  return approval

omit [Python] in
/-- `validate_approval_create_request_compatibility`. -/
def validateApprovalCreateRequestCompatibility (approval : ApprovalRequest)
    (request : ApprovalCreateRequest) : Except AppError Unit :=
  ensure (∀ m ∈ request.expiresInMinutes,
      approval.expiresAt - approval.requestedAt = minutes m)
    (conflict "APPROVAL_REQUEST_INCOMPATIBLE" "该候选已有使用其他有效期的待审批请求")

/-- `_pending_approval_is_reusable`. -/
def pendingApprovalIsReusable (approval : Option ApprovalRequest)
    (request : ApprovalCreateRequest) (now : DateTime) :
    Except AppError (Option ApprovalRequest) :=
  match approval with
  | none => .ok none
  | some approval =>
      if approval.status ≠ .pending ∨ isExpired approval now then .ok none
      else do
        let _ ← verifySnapshot approval
        validateApprovalCreateRequestCompatibility approval request
        return some approval

/-- `get_or_create_pending_approval_request`; `clock` gives the readings of the clock, in their
order. -/
def getOrCreatePendingApprovalRequest (candidateId : String) (rows : CandidateRows)
    (request : ApprovalCreateRequest) (settings : Settings) (actor : String) (newId : Uuid)
    (clock : ℕ → DateTime) : DbTx (ApprovalRequest × Bool) := do
  let db ← Tx.get
  let reusable ← liftApp
    (pendingApprovalIsReusable (activeApproval db.toTables candidateId) request (clock 0))
  match reusable with
  | some existing => return (existing, false)
  | none =>
      Tx.handle
        (do
          let approval ←
            createApprovalRequest candidateId rows request settings actor newId (clock 1)
          return (approval, true))
        fun exc => do
          Tx.require (exc.errorCode? = some "APPROVAL_REQUEST_DUPLICATE") exc
          let db ← Tx.get
          let winner := (activeApproval db.toTables candidateId).filter (·.status = .pending)
          let winner ← liftApp (pendingApprovalIsReusable winner request (clock 2))
          match winner with
          | some winner => return (winner, false)
          | none => Tx.raise exc

/-! ### Pre-flight and decision -/

/-- `save_preflight_result`. -/
def savePreflightResult (approval : ApprovalRequest) (result : PreflightResult) (actor : String)
    (now : DateTime) : DbTx ApprovalRequest := do
  let _ ← requirePendingApproval approval now
  let saved : ApprovalRequest :=
    { approval with
      preflightResult := some (.dump result)
      preflightCheckedAt := some result.checkedAt }
  saveApproval saved
  addEvent saved "PREFLIGHT_COMPLETED" (some saved.status) saved.status (strip actor)
  return saved

/-- `validate_manual_approval_acknowledgements`. -/
def validateManualApprovalAcknowledgements (snapshot : ApprovalCandidateSnapshot)
    (request : ApprovalApproveRequest) : Except AppError Unit :=
  ensure (request.acknowledgesSeeding = true ∧ request.acknowledgesPlanOnly = true ∧
      (request.acknowledgesHnr = true ∨ hnrAcknowledgementRequired snapshot.siteId = false))
    { errorCode := "APPROVAL_ACKNOWLEDGEMENTS_REQUIRED"
      message := "批准前必须完成当前站点要求的做种和计划确认"
      statusCode := 422 }

omit [Python] in
/-- `preflight_is_manually_passable`. -/
def preflightIsManuallyPassable (result : PreflightResult) : Bool :=
  result.overallStatus = .pass || result.overallStatus = .warning

omit [Python] in
/-- Whether the checks of a pre-flight are the twelve checks, once each. -/
def checksComplete (checks : List PreflightCheck) : Prop :=
  (checks.map PreflightCheck.code).length = PREFLIGHT_CHECK_CODES.length ∧
    (∀ c ∈ checks.map PreflightCheck.code, c ∈ PREFLIGHT_CHECK_CODES) ∧
    (∀ c ∈ PREFLIGHT_CHECK_CODES, c ∈ checks.map PreflightCheck.code)

instance (checks : List PreflightCheck) : Decidable (checksComplete checks) :=
  inferInstanceAs (Decidable (_ ∧ _ ∧ _))

/-- The checks of `approve_request` on the pre-flight of a pending request. -/
def requireFreshPreflight (approval : ApprovalRequest) (settings : Settings) (now : DateTime) :
    Except AppError PreflightResult := do
  let preflightRequired := conflict "PREFLIGHT_REQUIRED" "批准前必须完成下载预检"
  let stored ← orRaise approval.preflightResult preflightRequired
  let checkedAt ← orRaise approval.preflightCheckedAt preflightRequired
  let preflight ← validatePreflightResult stored
  ensure (checksComplete preflight.checks)
    (conflict "PREFLIGHT_CHECKS_INCOMPLETE" "下载预检缺少必需检查或包含重复检查")
  ensure (checkedAt = preflight.checkedAt ∧ checkedAt ≤ now)
    (conflict "PREFLIGHT_TIMESTAMP_INVALID" "下载预检时间戳无效")
  ensure (now - checkedAt ≤ seconds settings.approvalPreflightMaxAgeSeconds)
    (conflict "PREFLIGHT_STALE" "下载预检结果已过期，请重新预检")
  let current ← preflightPolicyFingerprint settings
  ensure (preflight.policyFingerprint = current)
    (conflict "PREFLIGHT_CONFIG_CHANGED" "下载预检策略配置已变化，请重新预检")
  ensure (preflightIsManuallyPassable preflight = true)
    { conflict "PREFLIGHT_NOT_PASSABLE" "预检包含 BLOCKED 或 UNKNOWN，禁止批准" with
      details := [("overall_status", .str preflight.overallStatus.value)] }
  return preflight

/-- The plan that approving a request builds. -/
def planOf (approval : ApprovalRequest) (snapshot : ApprovalCandidateSnapshot)
    (preflight : PreflightResult) (settings : Settings) (category : String) (tags : List String)
    (newId : Uuid) : DownloadPlan :=
  let hnrRule := effectiveHnrRule snapshot.siteId snapshot.hitAndRun
  let warningCodes := (preflight.checks.filter (·.status = .warning)).map PreflightCheck.code
  let payload : PlanPayload :=
    { approvalId := approval.id
      approvalSnapshotHash := approval.snapshotHash
      preflightPolicyFingerprint := preflight.policyFingerprint
      siteId := snapshot.siteId
      torrentRef := snapshot.torrentRef
      expectedInfoHash := snapshot.infoHash.map InfoHash.text
      releaseTitle := snapshot.releaseTitle
      savePathRef := settings.qbSavePathRef
      category := category
      tags := tags
      estimatedSizeBytes := snapshot.sizeBytes.map Int.ofNat
      mediaDestinationPlan := .dump
        { mediaItemId := snapshot.mediaItemId
          mediaType := snapshot.mediaType
          tmdbId := snapshot.tmdbId
          season := snapshot.season
          episodes := snapshot.episodes }
      preflightResult := .dump preflight
      warnings :=
        (snapshot.warnings.filter (fun w => !(hnrRule.known && w == "HNR_UNKNOWN")) ++
          warningCodes).eraseDups }
  { payload with id := newId.text, planHash := .sha256 payload }

omit [Python] in
/-- The plan of an approval. -/
def planOfApproval (db : Tables) (approvalId : String) : Option DownloadPlan :=
  db.plans.rows.find? fun p => p.approvalId = approvalId

omit [Python] in
/-- Inserting a row of `download_plans`, under its primary key and one plan for each approval. -/
def insertPlan (plan : DownloadPlan) : DbTx Unit := do
  let db ← Tx.get
  Tx.require (db.plans.get? plan.id = none ∧ planOfApproval db.toTables plan.approvalId = none)
    .integrity
  Tx.modify fun db => { db with plans := db.plans.save plan }

/-- `approve_request`. -/
def approveRequest (approval : ApprovalRequest) (request : ApprovalApproveRequest)
    (settings : Settings) (actor : String) (newId : Uuid) (now : DateTime) :
    DbTx (ApprovalRequest × DownloadPlan) := do
  let snapshot ← requirePendingApproval approval now
  liftApp (validateManualApprovalAcknowledgements snapshot request)
  let preflight ← liftApp (requireFreshPreflight approval settings now)
  let category ← Tx.ofOption (settings.qbTargetCategory.filter (· ≠ ""))
    (.app (conflict "DOWNLOAD_PLAN_CONFIG_MISSING" "下载计划目标分类未配置"))
  let approved ← transition approval .approved actor "APPROVED" none now
  let tags ← liftApp (buildQbPlanTags settings.qbPlanTags snapshot.mediaTitle)
  let plan := planOf approval snapshot preflight settings category tags newId
  insertPlan plan
  addEvent approved "DOWNLOAD_PLAN_CREATED" (some .approved) .approved actor
  return (approved, plan)

/-- `approve_request_automatically`. -/
def approveRequestAutomatically (approval : ApprovalRequest) (settings : Settings)
    (actor : String) (newId : Uuid) (clock : ℕ → DateTime) :
    DbTx (ApprovalRequest × DownloadPlan) := do
  let snapshot ← requirePendingApproval approval (clock 0)
  requireApp ((effectiveHnrRule snapshot.siteId snapshot.hitAndRun).known = true)
    (conflict "HNR_UNKNOWN" "H&R 信息未知，禁止自动批准")
  let stored ← Tx.ofOption approval.preflightResult
    (.app (conflict "PREFLIGHT_REQUIRED" "自动批准前必须完成下载预检"))
  let preflight ← liftApp (validatePreflightResult stored)
  requireApp (preflight.overallStatus = .pass)
    { conflict "AUTOMATION_PREFLIGHT_NOT_PASS" "自动批准只接受完整 PASS 的预检结果" with
      details := [("overall_status", .str preflight.overallStatus.value)] }
  let (approved, plan) ← approveRequest approval
    { acknowledgesHnr := hnrAcknowledgementRequired snapshot.siteId
      acknowledgesSeeding := true
      acknowledgesPlanOnly := true } settings actor newId (clock 1)
  addEvent approved "AUTOMATION_POLICY_BOUND" (some .approved) .approved actor
  return (approved, plan)

/-- `reject_request`. -/
def rejectRequest (approval : ApprovalRequest) (reason : Option String) (actor : String)
    (now : DateTime) : DbTx ApprovalRequest := do
  let _ ← requirePendingApproval approval now
  transition approval .rejected actor "REJECTED" (reason.filter (· ≠ "") |>.map strip) now

/-- `revoke_request`. -/
def revokeRequest (approval : ApprovalRequest) (reason : Option String) (actor : String)
    (now : DateTime) : DbTx ApprovalRequest := do
  let _ ← liftApp (verifySnapshot approval)
  let (_, expired) ← stageExpirationIfNeeded approval now
  requireApp (approval.status ≠ .expired ∧ expired = false)
    (conflict "APPROVAL_EXPIRED" "审批已过期")
  requireApp (approval.status ≠ .executing)
    (conflict "APPROVAL_EXECUTION_IN_PROGRESS" "审批已进入执行预留状态，禁止撤销")
  requireApp (approval.status = .approved)
    (conflict "APPROVAL_NOT_REVOCABLE" "只有已批准审批可以撤销")
  transition approval .revoked actor "REVOKED" (reason.filter (· ≠ "") |>.map strip) now

/-- `consume_approval`. -/
def consumeApproval (approvalId actor : String) (now : DateTime) : DbTx ApprovalRequest := do
  let db ← Tx.get
  let approval ← Tx.ofOption (db.approvals.get? approvalId)
    (.app { errorCode := "APPROVAL_REQUEST_NOT_FOUND", message := "审批请求不存在", statusCode := 404 })
  let _ ← liftApp (verifySnapshot approval)
  requireApp (approval.status ≠ .consumed)
    (conflict "APPROVAL_ALREADY_CONSUMED" "审批已经消费，禁止重复执行")
  let (_, expired) ← stageExpirationIfNeeded approval now
  requireApp (approval.status ≠ .expired ∧ expired = false)
    (conflict "APPROVAL_EXPIRED" "审批已过期")
  requireApp (approval.status = .executing)
    (conflict "APPROVAL_NOT_CONSUMABLE"
      "只有完成 qBittorrent 目标验证的 EXECUTING 审批可以消费")
  let plan ← Tx.ofOption (planOfApproval db.toTables approval.id)
    (.app (conflict "DOWNLOAD_PLAN_NOT_FOUND" "审批没有对应下载计划"))
  let _ ← liftApp (verifyDownloadPlan plan approval)
  transition approval .consumed (strip actor) "CONSUMED" none now

/-- `get_approval_or_404`. -/
def getApprovalOr404 (approvalId : String) : DbTx ApprovalRequest := do
  let db ← Tx.get
  let approval ← Tx.ofOption (db.approvals.get? approvalId)
    (.app { errorCode := "APPROVAL_REQUEST_NOT_FOUND", message := "审批请求不存在", statusCode := 404 })
  let _ ← liftApp (verifySnapshot approval)
  return approval

/-! ### Requests that a session has read before -/

omit [Python] in
/-- What is written of a request: the columns that the session has set. -/
def writtenApproval (held approval row : ApprovalRequest) : ApprovalRequest where
  id := row.id
  mediaItemId := writeBack held.mediaItemId approval.mediaItemId row.mediaItemId
  torrentCandidateId :=
    writeBack held.torrentCandidateId approval.torrentCandidateId row.torrentCandidateId
  status := writeBack held.status approval.status row.status
  candidateSnapshot :=
    writeBack held.candidateSnapshot approval.candidateSnapshot row.candidateSnapshot
  snapshotHash := writeBack held.snapshotHash approval.snapshotHash row.snapshotHash
  requestedBy := writeBack held.requestedBy approval.requestedBy row.requestedBy
  requestedAt := writeBack held.requestedAt approval.requestedAt row.requestedAt
  expiresAt := writeBack held.expiresAt approval.expiresAt row.expiresAt
  decidedAt := writeBack held.decidedAt approval.decidedAt row.decidedAt
  preflightResult := writeBack held.preflightResult approval.preflightResult row.preflightResult
  preflightCheckedAt :=
    writeBack held.preflightCheckedAt approval.preflightCheckedAt row.preflightCheckedAt

omit [Python] in
/-- The database as a session sees it that holds the object of a request. -/
def seenBy (held : ApprovalRequest) (db : Db) : Db :=
  { db with approvals := db.approvals.save held }

omit [Python] in
/-- What the session has made of the object is written over the row. -/
def writeHeld (held row : ApprovalRequest) (db : Db) : Db :=
  match db.approvals.get? held.id with
  | none => db
  | some approval => { db with approvals := db.approvals.save (writtenApproval held approval row) }

omit [Python] in
/-- **A unit of work on a request that the session has read before**: `session.get` with
`with_for_update` locks the row, but the object stays as it was read, so that what is decided is
decided on the object.  A candidate has one active request all the same. -/
def withHeld {α : Type} (held : ApprovalRequest) (work : DbTx α) : DbTx α := do
  let db ← Tx.get
  match db.approvals.get? held.id with
  | none => work
  | some row => do
      Tx.modify (seenBy held)
      let value ← Tx.handle work fun e => do
        Tx.modify (writeHeld held row)
        Tx.raise e
      Tx.modify (writeHeld held row)
      let written ← Tx.get
      Tx.require (row.status.isActive = false →
        (written.approvals.get? held.id).any (·.status.isActive) = true →
          activeApproval db.toTables row.torrentCandidateId = none) .integrity
      return value

end LibSeek.Services
