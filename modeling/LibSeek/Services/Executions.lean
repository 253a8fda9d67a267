/-
Executions.

An approved plan is executed in two steps: an intent binds the approval, its plan and the
downloader for a short time, and an execution consumes the intent under an idempotency key.  From
then on the execution is moved by the executor: its info hash is reserved before anything is sent
to qBittorrent, and what is known of the outcome is recorded afterwards.  Every operation verifies
the execution against its approval, plan and intent before it touches it.

Lookups by an idempotency key are made outside the lock that serialises the requests of one
approval, so that a row committed meanwhile may be missed; `seen` says whether a lookup sees the
row there is.  What such a lookup misses, the unique constraint refuses.

Main definitions:

* `Services.verifyDownloadExecution` — **the verification of an execution**;
* `Services.createExecutionIntent`, `Services.executeApprovedPlan`,
  `Services.recoverIdempotentExecution`, `Services.findIdempotentCandidateExecution` — creation;
* `Services.persistInfoHashBeforeSubmission` — **the reservation**;
* `Services.finalizeDownloadSubmission`, `Services.markOutcomeUnknown`,
  `Services.markReconciliationRequired`, `Services.requestReconciliation` — the outcome.
-/

import LibSeek.Services.AutomationPolicy
import LibSeek.Services.TorrentValidation

set_option relaxedAutoImplicit false
set_option autoImplicit false

namespace LibSeek.Services

open LibSeek.Core LibSeek.Lib LibSeek.Models LibSeek.Schemas

/-! ### Rows of the executions -/

/-- The execution of an approval. -/
def executionOfApproval (db : Tables) (approvalId : String) : Option DownloadExecution :=
  db.executions.rows.find? fun e => e.approvalId = approvalId

/-- The execution of an intent. -/
def executionOfIntent (db : Tables) (intentId : String) : Option DownloadExecution :=
  db.executions.rows.find? fun e => e.intentId = intentId

/-- The execution under an idempotency key. -/
def executionOfKey (db : Tables) (keyDigest : Digest String) : Option DownloadExecution :=
  db.executions.rows.find? fun e => e.idempotencyKeySha256 = keyDigest

/-- A lookup that may miss the row. -/
def racyLookup {α : Type} (seen : Bool) (row : Option α) : Option α :=
  if seen then row else none

/-- The active intent of an approval. -/
def activeIntent (db : Tables) (approvalId : String) : Option ExecutionIntent :=
  db.intents.rows.find? fun i => i.approvalId = approvalId ∧ i.status = .active

/-- The intent with a nonce. -/
def intentOfNonce (db : Tables) (nonceDigest : Digest String) : Option ExecutionIntent :=
  db.intents.rows.find? fun i => i.nonceSha256 = nonceDigest

/-- The job of an execution. -/
def jobOfExecution (db : Tables) (executionId : String) : Option DownloadJob :=
  db.jobs.rows.find? fun j => j.executionId = executionId

/-- Writing a row of `download_executions`. -/
def saveExecution (execution : DownloadExecution) : DbTx Unit :=
  Tx.modify fun db => { db with executions := db.executions.save execution }

/-- Writing a row of `execution_intents`. -/
def saveIntent (intent : ExecutionIntent) : DbTx Unit :=
  Tx.modify fun db => { db with intents := db.intents.save intent }

/-- `_add_execution_event`. -/
def addExecutionEvent (execution : DownloadExecution) (eventType actor : String)
    (fromStatus : Option DownloadExecutionStatus) (toStatus : DownloadExecutionStatus) :
    DbTx Unit :=
  Tx.modify fun db =>
    { db with
      executionEvents := db.executionEvents ++
        [{ downloadExecutionId := execution.id, eventType, fromStatus, toStatus, actor }] }

/-- `_add_approval_event`. -/
def addExecutionApprovalEvent (approval : ApprovalRequest) (eventType actor : String)
    (fromStatus : Option ApprovalStatus := none) : DbTx Unit :=
  addApprovalEvent
    { approvalRequestId := approval.id
      eventType
      fromStatus := some (fromStatus.getD approval.status)
      toStatus := approval.status
      actor
      reason := none
      snapshotHash := approval.snapshotHash }

/-! ### Checks -/

/-- `hash_secret`. -/
def hashSecret (value : String) : Digest String :=
  .sha256 value

/-- `^[A-Za-z0-9][A-Za-z0-9._~-]{15,199}$`. -/
def isIdempotencyKey (value : String) : Bool :=
  match value.toList with
  | [] => false
  | c :: cs =>
      c.isAlphanum && 15 ≤ cs.length && cs.length ≤ 199 &&
        cs.all fun c => c.isAlphanum || c == '.' || c == '_' || c == '~' || c == '-'

/-- `idempotency_key_digest`. -/
def idempotencyKeyDigest (value : String) : Except AppError (Digest String) := do
  ensure (isIdempotencyKey value = true)
    { errorCode := "IDEMPOTENCY_KEY_INVALID"
      message := "Idempotency-Key 必须为 16 到 200 位安全字符"
      statusCode := 422 }
  return hashSecret value

/-- `_execution_request_hash`. -/
def executionRequestHash (approvalId intentId : String)
    (nonceSha256 idempotencyKeySha256 : Digest String) (origin : Origin := .manual)
    (automationPolicyRevisionId automationDecisionId : Option String := none) :
    Digest ExecutionRequestDocument :=
  .sha256
    { approvalId := approvalId
      intentId := intentId
      nonceSha256 := nonceSha256
      idempotencyKeySha256 := idempotencyKeySha256
      automation :=
        match origin with
        | .manual => none
        | .automation =>
            some
              { policyRevisionId := automationPolicyRevisionId
                decisionId := automationDecisionId } }

/-- `require_execution_control_plane_enabled`. -/
def requireExecutionControlPlaneEnabled (settings : Settings) : Except AppError Unit :=
  ensure (settings.enableDownloadExecutionControlPlane = true)
    (conflict "DOWNLOAD_EXECUTION_CONTROL_PLANE_DISABLED" "下载执行控制面默认关闭")

/-- The truth value of an optional identifier. -/
def isSet (value : Option String) : Prop :=
  value ≠ none ∧ value ≠ some ""

instance (value : Option String) : Decidable (isSet value) :=
  inferInstanceAs (Decidable (_ ∧ _))

/-- `_require_origin_binding`. -/
def requireOriginBinding (origin : Origin) (launchMode : Option DownloadLaunchMode)
    (automationPolicyRevisionId automationDecisionId : Option String) : Except AppError Unit :=
  match origin with
  | .manual =>
      ensure (automationPolicyRevisionId = none ∧ automationDecisionId = none)
        (conflict "EXECUTION_ORIGIN_BINDING_INVALID" "人工执行不能绑定自动化策略或决策")
  | .automation =>
      ensure (launchMode = some .addPaused ∧ isSet automationPolicyRevisionId ∧
          isSet automationDecisionId)
        (conflict "AUTOMATION_EXECUTION_BINDING_INVALID"
          "自动执行必须绑定策略、决策并使用添加后暂停模式")

/-- `_require_execution_lease`. -/
def requireExecutionLease (execution : DownloadExecution) (leaseToken : String)
    (leaseSeconds : Int) (now : DateTime) : Except AppError Unit :=
  ensure (0 < leaseSeconds ∧ leaseToken ≠ "" ∧ execution.leaseToken = some leaseToken ∧
      execution.lockedBy ≠ none ∧ ∃ lockedAt ∈ execution.lockedAt,
        now < lockedAt + seconds leaseSeconds)
    (conflict "DOWNLOAD_EXECUTION_LEASE_LOST" "下载执行租约已失效，禁止提交状态变更")

/-- The error for an execution whose bindings do not hold. -/
def bindingInvalid (message : String) : AppError :=
  conflict "DOWNLOAD_EXECUTION_BINDING_INVALID" message

variable [Python]

/-- The part of `verify_download_execution` that looks at the row alone. -/
def verifyExecutionRow (execution : DownloadExecution) : Except AppError Unit := do
  ensure (execution.idempotencyKeySha256.wellShaped = true ∧
      execution.requestHash.wellShaped = true ∧
      execution.approvalSnapshotHash.wellShaped = true ∧
      execution.planHash.wellShaped = true ∧
      execution.qbTargetFingerprint.wellShaped = true)
    (bindingInvalid "下载执行记录的完整性绑定无效")
  ensure (∀ h ∈ execution.actualInfoHash, isInfoHash h = true)
    (bindingInvalid "下载执行记录包含无效 info hash")
  ensure (∀ h ∈ execution.actualInfoHash,
      casefold h ∈
        (hashSet execution.actualInfoHashV1 execution.actualInfoHashV2).map casefold)
    (bindingInvalid "下载执行记录的实际 info hash 与 v1/v2 摘要不一致")
  ensure (execution.status.isReserved = true → execution.actualInfoHash ≠ none)
    (bindingInvalid "下载执行在提交或对账状态前未持久化实际 info hash")
  ensure (execution.status.isReserved = true →
      (∃ n ∈ execution.actualSizeBytes, 0 < n) ∧ (∃ n ∈ execution.actualFileCount, 0 < n) ∧
        execution.validatedAt ≠ none ∧ execution.submittedAt ≠ none ∧
        (execution.actualInfoHashV1 ≠ none ∨ execution.actualInfoHashV2 ≠ none))
    (bindingInvalid "下载执行在提交前未持久化完整种子校验摘要")

omit [Python] in
/-- Whether an execution carries the digests and the origin of its approval, intent and plan. -/
def executionBound (execution : DownloadExecution) (approval : ApprovalRequest)
    (intent : ExecutionIntent) (plan : DownloadPlan) : Prop :=
  execution.approvalSnapshotHash = approval.snapshotHash ∧
    execution.approvalSnapshotHash = intent.approvalSnapshotHash ∧
    execution.planHash = plan.planHash ∧
    execution.planHash = intent.planHash ∧
    execution.qbTargetFingerprint = intent.qbTargetFingerprint ∧
    execution.launchMode = intent.launchMode ∧
    execution.origin = intent.origin ∧
    execution.automationPolicyRevisionId = intent.automationPolicyRevisionId ∧
    execution.automationDecisionId = intent.automationDecisionId ∧
    execution.requestHash =
      executionRequestHash execution.approvalId execution.intentId intent.nonceSha256
        execution.idempotencyKeySha256 execution.origin execution.automationPolicyRevisionId
        execution.automationDecisionId

instance (execution : DownloadExecution) (approval : ApprovalRequest) (intent : ExecutionIntent)
    (plan : DownloadPlan) : Decidable (executionBound execution approval intent plan) :=
  inferInstanceAs (Decidable (_ ∧ _ ∧ _ ∧ _ ∧ _ ∧ _ ∧ _ ∧ _ ∧ _ ∧ _))

/-- The part of `verify_download_execution` that compares the row with its approval, plan and
intent. -/
def verifyExecutionBinding (execution : DownloadExecution) (approval : ApprovalRequest)
    (intent : ExecutionIntent) (plan : DownloadPlan) : Except AppError Unit := do
  let _ ← verifySnapshot approval
  let _ ← verifyDownloadPlan plan approval
  requireOriginBinding execution.origin execution.launchMode
    execution.automationPolicyRevisionId execution.automationDecisionId
  requireOriginBinding intent.origin intent.launchMode intent.automationPolicyRevisionId
    intent.automationDecisionId
  ensure (executionBound execution approval intent plan)
    (bindingInvalid "下载执行记录与审批、意图或计划绑定不一致")

/-- The part of `verify_download_execution` for an execution of the automation. -/
def verifyExecutionAutomation (db : Tables) (execution : DownloadExecution)
    (approval : ApprovalRequest) : Except AppError Unit :=
  if execution.origin = .automation then do
    let missing := bindingInvalid "自动下载执行缺少策略或决策绑定"
    let revision ← orRaise (execution.automationPolicyRevisionId.bind db.revisions.get?) missing
    let decision ← orRaise (execution.automationDecisionId.bind db.decisions.get?) missing
    verifyPolicyRevision db revision
    verifyAutomationDecision decision
    ensure (decision.policyRevisionId = revision.id ∧ decision.stage = .execution ∧
        decision.action = "CREATE_DOWNLOAD_EXECUTION" ∧ decision.outcome = .actionCreated ∧
        decision.mediaItemId = approval.mediaItemId ∧
        decision.approvalRequestId = some approval.id ∧
        decision.downloadExecutionId = some execution.id)
      (bindingInvalid "自动下载执行与策略决策记录不一致")
  else .ok ()

/-- **`verify_download_execution`.** -/
def verifyDownloadExecution (db : Tables) (execution : DownloadExecution) :
    Except AppError DownloadExecution := do
  verifyExecutionRow execution
  let missing := bindingInvalid "下载执行记录缺少审批、意图或计划绑定"
  let approval ← orRaise (db.approvals.get? execution.approvalId) missing
  let intent ← orRaise (db.intents.get? execution.intentId) missing
  let plan ← orRaise (planOfApproval db execution.approvalId) missing
  verifyExecutionBinding execution approval intent plan
  verifyExecutionAutomation db execution approval
  return execution

/-! ### The description of the downloader -/

/-- Whether a value can be sent to the downloader: not blank, and without control characters that
end a header or a field. -/
def isTargetValue (value : String) : Bool :=
  !isBlank value && !containsChar value '\x00' && !containsChar value '\r' &&
    !containsChar value '\n'

/-- The check of `qb_target_fingerprint` on the address of the downloader. -/
def qbUrlAllowed (settings : Settings) (parsed : SplitResult) : Prop :=
  parsed.scheme ∈ allowedSchemes settings ∧ casefold (parsed.hostname.getD "") ≠ "" ∧
    casefold (parsed.hostname.getD "") ∈ settings.qbAllowedHosts ∧
    ¬ isSet parsed.username ∧ ¬ isSet parsed.password ∧ parsed.query = "" ∧
    parsed.fragment = ""

instance (settings : Settings) (parsed : SplitResult) : Decidable (qbUrlAllowed settings parsed) :=
  inferInstanceAs (Decidable (_ ∧ _ ∧ _ ∧ _ ∧ _ ∧ _ ∧ _))

/-- `qb_target_fingerprint`. -/
def qbTargetFingerprint (settings : Settings) (plan : DownloadPlan)
    (launchMode : DownloadLaunchMode) (mediaTitle : String) :
    Except Exn (Digest TargetDescriptor) := do
  let configured ← orRaise settings.qbBaseUrlValue
    (.app (conflict "EXECUTION_TARGET_NOT_CONFIGURED" "qBittorrent 执行目标配置无法读取"))
  let incomplete := Exn.app
    (conflict "EXECUTION_TARGET_NOT_CONFIGURED" "qBittorrent 执行目标尚未完整配置")
  let baseUrl ← orRaise (configured.filter (· ≠ "")) incomplete
  let savePath ← orRaise (settings.qbTargetSavePath.filter (· ≠ "")) incomplete
  let category ← orRaise (settings.qbTargetCategory.filter (· ≠ "")) incomplete
  ensure (settings.qbAllowedHosts ≠ []) incomplete
  let expectedTags ← (buildQbPlanTags settings.qbPlanTags mediaTitle).mapError Exn.app
  ensure (plan.savePathRef = settings.qbSavePathRef ∧ plan.category = category ∧
      plan.tags = expectedTags)
    (.app (conflict "EXECUTION_TARGET_CONFIG_CHANGED" "qBittorrent 目标配置与已批准下载计划不一致"))
  ensure ((savePath :: category :: settings.qbTargetInstanceRef :: plan.tags).all isTargetValue ∧
      plan.tags.length ≤ 20 ∧
      plan.tags.all fun tag => !containsChar tag ',' && tag.toList.length ≤ 100)
    (.app (conflict "EXECUTION_TARGET_INVALID" "qBittorrent 执行目标包含无效字段"))
  let normalizedBaseUrl := rstripSlash baseUrl
  let parsed ← orRaise (Python.urlsplit normalizedBaseUrl) (.other "ValueError")
  ensure (qbUrlAllowed settings parsed)
    (.app { errorCode := "QB_URL_NOT_ALLOWED", message := "qBittorrent 地址不符合安全配置" })
  return .sha256
    { targetInstanceRef := settings.qbTargetInstanceRef
      baseUrl := normalizedBaseUrl
      allowedHosts := sorted settings.qbAllowedHosts
      allowInsecureHttp := settings.qbAllowInsecureHttp
      savePath := savePath
      savePathRef := plan.savePathRef
      category := plan.category
      tags := plan.tags
      launchMode := launchMode }

/-- **What a fingerprint that could be computed fixes.** -/
theorem qbTargetFingerprint_ok {settings : Settings} {plan : DownloadPlan}
    {launchMode : DownloadLaunchMode} {mediaTitle : String} {d : Digest TargetDescriptor}
    (h : qbTargetFingerprint settings plan launchMode mediaTitle = .ok d) :
    ∃ t : TargetDescriptor, d = .sha256 t ∧ settings.qbTargetSavePath = some t.savePath ∧
      settings.qbTargetCategory = some t.category ∧ t.category = plan.category ∧
      t.tags = plan.tags ∧ t.launchMode = launchMode := by
  simp only [qbTargetFingerprint, bind_eq_ok, orRaise_eq_ok, ensure_eq_ok, pure_eq_ok,
    Option.filter_eq_some_iff] at h
  obtain ⟨_, -, _, -, savePath, ⟨hpath, -⟩, category, ⟨hcategory, -⟩, -, -, _, -, -,
    ⟨-, hcat, -⟩, -, -, _, -, -, -, rfl⟩ := h
  exact ⟨_, rfl, hpath, hcat ▸ hcategory, rfl, rfl, rfl⟩

/-! ### Intents -/

/-- `_get_locked_approval`. -/
def getLockedApproval (approvalId : String) : DbTx ApprovalRequest :=
  getApprovalOr404 approvalId

/-- `_require_approved`. -/
def requireApproved (approval : ApprovalRequest) (now : DateTime) : DbTx Unit :=
  if approval.status = .approved ∧ approval.expiresAt ≤ now then do
    let expired : ApprovalRequest := { approval with status := .expired, decidedAt := some now }
    saveApproval expired
    addExecutionApprovalEvent expired "EXPIRED" "system" (some .approved)
    raiseApp (conflict "APPROVAL_EXPIRED" "审批已过期")
  else do
    requireApp (approval.status ≠ .expired) (conflict "APPROVAL_EXPIRED" "审批已过期")
    requireApp (approval.status = .approved)
      (conflict "APPROVAL_NOT_EXECUTABLE"
        "只有 APPROVED 审批可以创建执行意图或下载执行记录")

/-- `_get_verified_plan`. -/
def getVerifiedPlan (approval : ApprovalRequest) : DbTx DownloadPlan := do
  let db ← Tx.get
  let plan ← Tx.ofOption (planOfApproval db.toTables approval.id)
    (.app (conflict "DOWNLOAD_PLAN_NOT_FOUND" "审批没有对应下载计划"))
  liftApp (verifyDownloadPlan plan approval)

/-- The way past an active intent of the approval: one that has expired is moved on, any other
stops the creation. -/
def expireActiveIntent (approval : ApprovalRequest) (active : Option ExecutionIntent)
    (now : DateTime) : DbTx Unit :=
  match active with
  | none => pure ()
  | some active => do
      requireApp (active.expiresAt ≤ now)
        (conflict "EXECUTION_INTENT_ALREADY_ACTIVE" "该审批已有仍然有效的执行意图")
      saveIntent { active with status := .expired }
      addExecutionApprovalEvent approval "EXECUTION_INTENT_EXPIRED" "system"

/-- Inserting a row of `execution_intents`, under its primary key, its nonce and the index of the
active intents of an approval. -/
def insertIntent (intent : ExecutionIntent) : DbTx Unit := do
  let db ← Tx.get
  Tx.require (db.intents.get? intent.id = none ∧
      intentOfNonce db.toTables intent.nonceSha256 = none ∧
      activeIntent db.toTables intent.approvalId = none) .integrity
  saveIntent intent

/-- Who asks for an intent or an execution: the origin, and the policy and decision it binds. -/
structure OriginBinding where
  actor : String
  origin : Origin := .manual
  automationPolicyRevisionId : Option String := none
  automationDecisionId : Option String := none

omit [Python] in
theorem noSeconds_bounds : ∀ s ∈ (none : Option Int), 30 ≤ s ∧ s ≤ 3600 := by simp

/-- `ExecutionIntentCreateRequest`. -/
structure ExecutionIntentCreateRequest where
  launchMode : DownloadLaunchMode := .addPaused
  expiresInSeconds : Option Int := none
  bounds : ∀ s ∈ expiresInSeconds, 30 ≤ s ∧ s ≤ 3600 := by
    first | exact LibSeek.Services.noSeconds_bounds | simp

/-- `create_execution_intent`; `secret` is what `secrets.token_urlsafe` draws. -/
def createExecutionIntent (approvalId : String) (request : ExecutionIntentCreateRequest)
    (settings : Settings) (binding : OriginBinding) (newId : Uuid) (secret : String)
    (now : DateTime) :
    DbTx (ExecutionIntent × String) := do
  liftApp (requireExecutionControlPlaneEnabled settings)
  liftApp (requireOriginBinding binding.origin (some request.launchMode)
    binding.automationPolicyRevisionId binding.automationDecisionId)
  let approval ← getLockedApproval approvalId
  requireApproved approval now
  let snapshot ← liftApp (verifySnapshot approval)
  let plan ← getVerifiedPlan approval
  liftApp (requirePreflightPolicyCurrent plan.preflightPolicyFingerprint settings)
  let currentTargetFingerprint ←
    Tx.ofExcept (qbTargetFingerprint settings plan request.launchMode snapshot.mediaTitle)
  let db ← Tx.get
  requireApp (executionOfApproval db.toTables approval.id = none)
    (conflict "DOWNLOAD_EXECUTION_ALREADY_EXISTS" "该审批已经创建下载执行记录")
  expireActiveIntent approval (activeIntent db.toTables approval.id) now
  let ttl := orDefault request.expiresInSeconds settings.executionIntentDefaultTtlSeconds
  requireApp (ttl ≤ settings.executionIntentMaxTtlSeconds)
    { errorCode := "EXECUTION_INTENT_TTL_TOO_LONG", message := "执行意图有效期超过系统上限"
      statusCode := 422 }
  let nonce := "ei1_" ++ secret
  let intent : ExecutionIntent :=
    { id := newId.text
      approvalId := approval.id
      nonceSha256 := hashSecret nonce
      approvalSnapshotHash := approval.snapshotHash
      planHash := plan.planHash
      qbTargetFingerprint := currentTargetFingerprint
      launchMode := request.launchMode
      origin := binding.origin
      automationPolicyRevisionId := binding.automationPolicyRevisionId
      automationDecisionId := binding.automationDecisionId
      status := .active
      createdBy := strip binding.actor
      expiresAt := now + seconds ttl
      consumedAt := none
      consumedBy := none }
  insertIntent intent
  addExecutionApprovalEvent approval "EXECUTION_INTENT_CREATED" binding.actor
  return (intent, nonce)

/-! ### Creation of an execution -/

/-- `DownloadExecutionCreateRequest`. -/
structure DownloadExecutionCreateRequest where
  intentId : String
  nonce : String

/-- `_require_same_idempotent_request`. -/
def requireSameIdempotentRequest (db : Tables) (execution : DownloadExecution)
    (approvalId intentId : String) (requestHash : Digest ExecutionRequestDocument) :
    Except AppError Unit := do
  ensure (execution.approvalId = approvalId ∧ execution.intentId = intentId ∧
      execution.requestHash = requestHash)
    (conflict "IDEMPOTENCY_KEY_REUSED" "Idempotency-Key 已被其他执行请求使用")
  let _ ← verifyDownloadExecution db execution

/-- The checks of `execute_approved_plan` on the intent of the request. -/
def requireUsableIntent (approval : ApprovalRequest) (intent : ExecutionIntent)
    (nonceDigest : Digest String) (binding : OriginBinding) (now : DateTime) : DbTx Unit :=
  if intent.status = .active ∧ intent.expiresAt ≤ now then do
    saveIntent { intent with status := .expired }
    addExecutionApprovalEvent approval "EXECUTION_INTENT_EXPIRED" "system"
    raiseApp (conflict "EXECUTION_INTENT_EXPIRED" "执行意图已过期")
  else do
    requireApp (intent.status = .active)
      (conflict "EXECUTION_INTENT_NOT_ACTIVE" "执行意图当前状态不可使用")
    requireApp (intent.nonceSha256 = nonceDigest)
      { errorCode := "EXECUTION_NONCE_INVALID", message := "执行意图 nonce 无效", statusCode := 403 }
    requireApp (intent.origin = binding.origin ∧
        intent.automationPolicyRevisionId = binding.automationPolicyRevisionId ∧
        intent.automationDecisionId = binding.automationDecisionId)
      (conflict "EXECUTION_AUTOMATION_BINDING_MISMATCH" "执行意图的自动化来源绑定不一致")

/-- Inserting a row of `download_executions`, under its primary key and one execution for each
approval, intent and key. -/
def insertExecution (execution : DownloadExecution) : DbTx Unit := do
  let db ← Tx.get
  Tx.require (db.executions.get? execution.id = none ∧
      executionOfApproval db.toTables execution.approvalId = none ∧
      executionOfIntent db.toTables execution.intentId = none ∧
      executionOfKey db.toTables execution.idempotencyKeySha256 = none) .integrity
  saveExecution execution

/-- The row of a new execution. -/
def newExecution (newId : Uuid) (approval : ApprovalRequest) (plan : DownloadPlan)
    (intent : ExecutionIntent) (keyDigest : Digest String)
    (requestHash : Digest ExecutionRequestDocument) (fingerprint : Digest TargetDescriptor)
    (binding : OriginBinding) (settings : Settings) (now : DateTime) : DownloadExecution where
  id := newId.text
  approvalId := approval.id
  intentId := intent.id
  idempotencyKeySha256 := keyDigest
  requestHash := requestHash
  approvalSnapshotHash := approval.snapshotHash
  planHash := plan.planHash
  qbTargetFingerprint := fingerprint
  launchMode := intent.launchMode
  origin := binding.origin
  automationPolicyRevisionId := binding.automationPolicyRevisionId
  automationDecisionId := binding.automationDecisionId
  status := .pending
  attempts := 0
  maxAttempts := settings.jobMaxAttempts
  nextRetryAt := none
  lockedAt := none
  lockedBy := none
  leaseToken := none
  actualInfoHash := none
  actualInfoHashV1 := none
  actualInfoHashV2 := none
  actualSizeBytes := none
  actualFileCount := none
  validatedAt := none
  submittedAt := none
  verifiedAt := none
  errorCode := none
  errorMessage := none
  requestedBy := strip binding.actor
  requestedAt := now
  reconciliationRequestedBy := none
  reconciliationRequestedAt := none
  reconciliationReason := none
  createdAt := now

/-- The last part of `execute_approved_plan`: the approval is locked and the key is not in use. -/
def createExecution (approval : ApprovalRequest) (request : DownloadExecutionCreateRequest)
    (keyDigest nonceDigest : Digest String) (requestHash : Digest ExecutionRequestDocument)
    (settings : Settings) (binding : OriginBinding) (newId : Uuid) (now : DateTime) :
    DbTx DownloadExecution := do
  requireApproved approval now
  let snapshot ← liftApp (verifySnapshot approval)
  let plan ← getVerifiedPlan approval
  liftApp (requirePreflightPolicyCurrent plan.preflightPolicyFingerprint settings)
  let db ← Tx.get
  requireApp (executionOfApproval db.toTables approval.id = none)
    (conflict "DOWNLOAD_EXECUTION_ALREADY_EXISTS" "该审批已经使用其他幂等键创建下载执行记录")
  let intent ← Tx.ofOption
    ((db.intents.get? request.intentId).filter (·.approvalId = approval.id))
    (.app
      { errorCode := "EXECUTION_INTENT_NOT_FOUND", message := "执行意图不存在或不属于当前审批"
        statusCode := 404 })
  requireApp (executionOfIntent db.toTables intent.id = none)
    (conflict "EXECUTION_INTENT_ALREADY_USED" "执行意图已经用于其他下载执行请求")
  requireUsableIntent approval intent nonceDigest binding now
  let currentTargetFingerprint ←
    Tx.ofExcept (qbTargetFingerprint settings plan intent.launchMode snapshot.mediaTitle)
  requireApp (intent.approvalSnapshotHash = approval.snapshotHash ∧
      intent.planHash = plan.planHash ∧ intent.qbTargetFingerprint = currentTargetFingerprint)
    (conflict "EXECUTION_INTENT_BINDING_MISMATCH"
      "执行意图绑定的审批、计划或 qBittorrent 目标已经变化")
  let execution := newExecution newId approval plan intent keyDigest requestHash
    currentTargetFingerprint binding settings now
  insertExecution execution
  saveIntent
    { intent with
      status := .consumed
      consumedAt := some now
      consumedBy := some (strip binding.actor) }
  addExecutionEvent execution "EXECUTION_REQUESTED" (strip binding.actor) none .pending
  addExecutionApprovalEvent approval "DOWNLOAD_EXECUTION_REQUESTED" binding.actor
  return execution

/-- The answer to a repeated request: the execution there is, if the request is the same. -/
def replayExecution (existing : DownloadExecution) (approvalId intentId : String)
    (requestHash : Digest ExecutionRequestDocument) : DbTx (DownloadExecution × Bool) := do
  let db ← Tx.get
  liftApp (requireSameIdempotentRequest db.toTables existing approvalId intentId requestHash)
  return (existing, false)

/-- `execute_approved_plan`: the execution, and whether it is a new one. -/
def executeApprovedPlan (approvalId : String) (request : DownloadExecutionCreateRequest)
    (idempotencyKey : String) (settings : Settings) (binding : OriginBinding) (newId : Uuid)
    (now : DateTime) (seen : Bool × Bool) : DbTx (DownloadExecution × Bool) := do
  liftApp (requireOriginBinding binding.origin
    (if binding.origin = .automation then some .addPaused else none)
    binding.automationPolicyRevisionId binding.automationDecisionId)
  let keyDigest ← liftApp (idempotencyKeyDigest idempotencyKey)
  let nonceDigest := hashSecret request.nonce
  let requestHash := executionRequestHash approvalId request.intentId nonceDigest keyDigest
    binding.origin binding.automationPolicyRevisionId binding.automationDecisionId
  let db ← Tx.get
  match racyLookup seen.1 (executionOfKey db.toTables keyDigest) with
  | some existing => replayExecution existing approvalId request.intentId requestHash
  | none => do
      liftApp (requireExecutionControlPlaneEnabled settings)
      let approval ← getLockedApproval approvalId
      match racyLookup seen.2 (executionOfKey db.toTables keyDigest) with
      | some existing => replayExecution existing approvalId request.intentId requestHash
      | none => do
          let execution ← createExecution approval request keyDigest nonceDigest requestHash
            settings binding newId now
          return (execution, true)

/-- `recover_idempotent_execution`. -/
def recoverIdempotentExecution (approvalId : String) (request : DownloadExecutionCreateRequest)
    (idempotencyKey : String) : DbTx DownloadExecution := do
  let keyDigest ← liftApp (idempotencyKeyDigest idempotencyKey)
  let requestHash :=
    executionRequestHash approvalId request.intentId (hashSecret request.nonce) keyDigest
  let db ← Tx.get
  match executionOfKey db.toTables keyDigest with
  | some existing => do
      liftApp (requireSameIdempotentRequest db.toTables existing approvalId request.intentId
        requestHash)
      return existing
  | none => do
      requireApp (executionOfApproval db.toTables approvalId = none)
        (conflict "DOWNLOAD_EXECUTION_ALREADY_EXISTS" "该审批已经创建下载执行记录")
      requireApp (executionOfIntent db.toTables request.intentId = none)
        (conflict "EXECUTION_INTENT_ALREADY_USED" "执行意图已经用于其他下载执行请求")
      raiseApp
        (conflict "DOWNLOAD_EXECUTION_CONFLICT"
          "下载执行请求发生并发冲突，请使用相同幂等键重试查询")

/-- `find_idempotent_candidate_execution`. -/
def findIdempotentCandidateExecution (candidateId idempotencyKey : String)
    (launchMode : DownloadLaunchMode) : DbTx (Option DownloadExecution) := do
  let keyDigest ← liftApp (idempotencyKeyDigest idempotencyKey)
  let db ← Tx.get
  match executionOfKey db.toTables keyDigest with
  | none => return none
  | some execution => do
      requireApp ((∃ approval ∈ db.approvals.get? execution.approvalId,
          approval.torrentCandidateId = candidateId) ∧ execution.launchMode = launchMode)
        (conflict "IDEMPOTENCY_KEY_REUSED" "Idempotency-Key 已被其他确认下载请求使用")
      let execution ← liftApp (verifyDownloadExecution db.toTables execution)
      return some execution

/-! ### The executor's transitions -/

/-- `get_download_execution`. -/
def getDownloadExecution (executionId : String) : DbTx DownloadExecution := do
  let db ← Tx.get
  let execution ← Tx.ofOption (db.executions.get? executionId)
    (.app
      { errorCode := "DOWNLOAD_EXECUTION_NOT_FOUND", message := "下载执行记录不存在"
        statusCode := 404 })
  liftApp (verifyDownloadExecution db.toTables execution)

/-- The row with its lease given up, and with nothing scheduled. -/
def released (e : DownloadExecution) : DownloadExecution :=
  { e with nextRetryAt := none, lockedAt := none, lockedBy := none, leaseToken := none }

/-- `request_reconciliation`. -/
def requestReconciliation (executionId : String) (reason : Option String) (actor : String)
    (now : DateTime) : DbTx DownloadExecution := do
  let execution ← getDownloadExecution executionId
  if execution.status = .reconciliationPending then
    return execution
  else
    requireApp (execution.status = .outcomeUnknown ∨ execution.status = .reconciliationRequired)
      (conflict "DOWNLOAD_EXECUTION_NOT_RECONCILABLE"
        "只有结果不确定的下载执行记录可以请求对账")
    let requested : DownloadExecution :=
      { execution with
        status := .reconciliationPending
        reconciliationRequestedBy := some (strip actor)
        reconciliationRequestedAt := some now
        reconciliationReason := (reason.filter (· ≠ "")).map strip }
    saveExecution requested
    addExecutionEvent requested "RECONCILIATION_REQUESTED" (strip actor) (some execution.status)
      .reconciliationPending
    return requested

/-- An error code and message recorded with an outcome. -/
structure RecordedError where
  code : String
  message : String

/-- The lease of an execution that is being submitted, where it is. -/
def requireLeaseIfSubmitting (execution : DownloadExecution) (leaseToken : String)
    (leaseSeconds : Int) (now : DateTime) : Except AppError Unit :=
  if execution.status = .submitting then
    requireExecutionLease execution leaseToken leaseSeconds now
  else .ok ()

/-- `mark_reconciliation_required`. -/
def markReconciliationRequired (executionId actor : String) (leaseToken : Option String)
    (leaseSeconds : Int) (error : RecordedError) (now : DateTime) : DbTx DownloadExecution := do
  let execution ← getDownloadExecution executionId
  if execution.status = .reconciliationRequired then
    return execution
  else
    requireApp (execution.status = .submitting ∨ execution.status = .outcomeUnknown)
      (conflict "DOWNLOAD_EXECUTION_TRANSITION_INVALID" "当前下载执行状态不能标记为需要对账")
    liftApp (requireLeaseIfSubmitting execution (leaseToken.getD "") leaseSeconds now)
    let marked : DownloadExecution :=
      { released execution with
        status := .reconciliationRequired
        errorCode := some error.code
        errorMessage := some error.message }
    saveExecution marked
    addExecutionEvent marked "RECONCILIATION_REQUIRED" (strip actor) (some execution.status)
      .reconciliationRequired
    return marked

/-- `mark_outcome_unknown`. -/
def markOutcomeUnknown (executionId actor leaseToken : String) (leaseSeconds : Int)
    (error : RecordedError) (now : DateTime) : DbTx DownloadExecution := do
  let execution ← getDownloadExecution executionId
  if execution.status = .outcomeUnknown then
    return execution
  else
    requireApp (execution.status = .submitting)
      (conflict "DOWNLOAD_EXECUTION_TRANSITION_INVALID" "当前下载执行状态不能标记为结果不确定")
    liftApp (requireExecutionLease execution leaseToken leaseSeconds now)
    requireApp (execution.actualInfoHash ≠ none)
      (conflict "DOWNLOAD_EXECUTION_INFO_HASH_REQUIRED"
        "进入结果不确定状态前必须持久化实际 info hash")
    let marked : DownloadExecution :=
      { released execution with
        status := .outcomeUnknown
        errorCode := some error.code
        errorMessage := some error.message }
    saveExecution marked
    addExecutionEvent marked "OUTCOME_UNKNOWN" (strip actor) (some execution.status)
      .outcomeUnknown
    return marked

/-- `_cancel_invalidated_execution`. -/
def cancelInvalidatedExecution (execution : DownloadExecution) (actor : String) :
    DbTx DownloadExecution := do
  let cancelled : DownloadExecution :=
    { released execution with
      status := .cancelled
      errorCode := some "APPROVAL_INVALIDATED"
      errorMessage := some "审批已撤销、过期或不存在，禁止继续提交" }
  saveExecution cancelled
  addExecutionEvent cancelled "APPROVAL_INVALIDATED" (strip actor) (some execution.status)
    .cancelled
  return cancelled

/-- Whether the hashes reserved for an execution are those of a torrent. -/
def sameReservation (execution : DownloadExecution) (selectedHash : String)
    (metadata : ValidatedTorrent) : Prop :=
  execution.actualInfoHash = some selectedHash ∧
    execution.actualInfoHashV1 = metadata.infoHashV1 ∧
    execution.actualInfoHashV2 = metadata.infoHashV2 ∧
    execution.actualSizeBytes = some metadata.totalSizeBytes ∧
    execution.actualFileCount = some metadata.fileCount

instance (execution : DownloadExecution) (selectedHash : String) (metadata : ValidatedTorrent) :
    Decidable (sameReservation execution selectedHash metadata) :=
  inferInstanceAs (Decidable (_ ∧ _ ∧ _ ∧ _ ∧ _))

/-- The hash under which a torrent is reserved: the one the plan expects, where it expects one. -/
def reservedHash (plan : DownloadPlan) (metadata : ValidatedTorrent) (selectedHash : String) :
    Except AppError String :=
  match plan.expectedInfoHash.filter (· ≠ "") with
  | none => .ok selectedHash
  | some expected => do
      ensure (metadata.matchesHash (casefold expected) = true)
        (conflict "TORRENT_INFO_HASH_MISMATCH" "种子文件与已批准候选的 info hash 不一致")
      return casefold expected

/-- The row of an execution whose torrent is reserved. -/
def reservedExecution (execution : DownloadExecution) (metadata : ValidatedTorrent)
    (hash : String) (now : DateTime) : DownloadExecution :=
  { execution with
    status := .submitting
    actualInfoHash := some hash
    actualInfoHashV1 := metadata.infoHashV1
    actualInfoHashV2 := metadata.infoHashV2
    actualSizeBytes := some metadata.totalSizeBytes
    actualFileCount := some metadata.fileCount
    validatedAt := some now
    submittedAt := some now
    nextRetryAt := none }

/-- The reservation of an execution whose approval is approved and has not expired. -/
def reserveApproved (execution : DownloadExecution) (approval : ApprovalRequest)
    (metadata : ValidatedTorrent) (selectedHash actor : String) (now : DateTime) :
    DbTx DownloadExecution := do
  let plan ← getVerifiedPlan approval
  let hash ← liftApp (reservedHash plan metadata selectedHash)
  let executing : ApprovalRequest := { approval with status := .executing }
  let reserved := reservedExecution execution metadata hash now
  saveApproval executing
  saveExecution reserved
  addExecutionApprovalEvent executing "EXECUTION_RESERVED" (strip actor) (some approval.status)
  addExecutionEvent reserved "SUBMISSION_STAGED" (strip actor) (some execution.status) .submitting
  return reserved

/-- The reservation of an execution that is being validated, under its lease: an approval that has
expired is moved on, and an execution whose approval is not approved is cancelled. -/
def reserveValidating (execution : DownloadExecution) (metadata : ValidatedTorrent)
    (selectedHash actor : String) (now : DateTime) : DbTx DownloadExecution := do
  let db ← Tx.get
  match db.approvals.get? execution.approvalId with
  | none => cancelInvalidatedExecution execution actor
  | some approval => do
      let _ ← liftApp (verifySnapshot approval)
      if approval.status = .approved ∧ approval.expiresAt ≤ now then
        let expired : ApprovalRequest :=
          { approval with status := .expired, decidedAt := some now }
        saveApproval expired
        addExecutionApprovalEvent expired "EXPIRED" "system" (some .approved)
        cancelInvalidatedExecution execution actor
      else if approval.status ≠ .approved then
        cancelInvalidatedExecution execution actor
      else
        reserveApproved execution approval metadata selectedHash actor now

/-- **`persist_info_hash_before_submission`.**  `clock` gives the reading of the database clock
and that of the worker's. -/
def persistInfoHashBeforeSubmission (executionId : String) (metadata : ValidatedTorrent)
    (actor leaseToken : String) (leaseSeconds : Int) (clock : DateTime × DateTime) :
    DbTx DownloadExecution := do
  let selectedHash ← Tx.ofOption metadata.selectedHash
    (.app (conflict "DOWNLOAD_EXECUTION_INFO_HASH_INVALID" "种子没有可持久化的实际 info hash"))
  let execution ← getDownloadExecution executionId
  liftApp (requireExecutionLease execution leaseToken leaseSeconds clock.1)
  if execution.status = .submitting then
    requireApp (sameReservation execution selectedHash metadata)
      (conflict "DOWNLOAD_EXECUTION_INFO_HASH_MISMATCH"
        "已持久化的实际 info hash 与当前结果不一致")
    return execution
  else
    requireApp (execution.status = .validating)
      (conflict "DOWNLOAD_EXECUTION_TRANSITION_INVALID" "只有 VALIDATING 下载执行可以进入提交阶段")
    reserveValidating execution metadata selectedHash actor clock.2

/-! ### Finalisation -/

/-- `_download_job_status`. -/
def downloadJobStatus (observed : QbTorrent) : DownloadJobStatus :=
  let state := casefold observed.state
  if state ∈ ["error", "missingfiles", "unknown"] then .error
  else if state ∈ ["checkingdl", "checkingup", "checkingresumedata", "moving"] then .checking
  else if state ∈ ["pauseddl", "pausedup", "stoppeddl", "stoppedup"] then .paused
  else if state ∈ ["queueddl", "queuedup", "allocating"] then .queued
  else if state ∈ ["downloading", "forceddl", "stalleddl", "metadl"] then .downloading
  else if state ∈ ["uploading", "forcedup", "stalledup"] then .seeding
  else if state = "completed" ∨ 1 ≤ observed.progress then .completed
  else .error

omit [Python] in
/-- `_qb_timestamp`. -/
def qbTimestamp (value : Int) : Option DateTime :=
  if value ≤ 0 then none else some (seconds value)

omit [Python] in
/-- `_completion_time`. -/
def completionTime (observed : QbTorrent) (now : DateTime) : Option DateTime :=
  (qbTimestamp observed.completionOn).or (if 1 ≤ observed.progress then some now else none)

/-- `_same_qb_save_path`. -/
def sameQbSavePath (actual expected : String) : Bool :=
  let normalized (value : String) : List Char :=
    match (strip value).toList.reverse.dropWhile fun c => c == '/' || c == '\\' with
    | [] => (strip value).toList.take 1
    | cs => cs.reverse
  normalized actual == normalized expected

/-- `_execution_identity_hashes`. -/
def executionIdentityHashes (execution : DownloadExecution) : List String :=
  ((execution.actualInfoHash.toList ++
    hashSet execution.actualInfoHashV1 execution.actualInfoHashV2).filter (· ≠ "")).map casefold

/-- The checks of `finalize_download_submission` on what was observed. -/
def requireObserved (execution : DownloadExecution) (plan : DownloadPlan) (observed : QbTorrent)
    (outcome : DownloadExecutionStatus) (settings : Settings) : Except AppError (ℕ × ℕ) := do
  ensure ((∃ path ∈ settings.qbTargetSavePath, sameQbSavePath observed.savePath path = true) ∧
      observed.category = plan.category)
    (conflict "QB_SUBMISSION_TARGET_MISMATCH" "qBittorrent 中的下载目标与已批准计划不一致")
  ensure (outcome = .submitted → execution.launchMode = .addPaused →
      casefold observed.state ∈ ["pauseddl", "pausedup", "stoppeddl", "stoppedup"])
    (conflict "QB_ADD_PAUSED_NOT_OBSERVED"
      "qBittorrent 未保持添加后暂停状态，禁止确认自动提交成功")
  ensure (∃ h ∈ executionIdentityHashes execution, h ∈ observed.identityHashes)
    (conflict "QB_SUBMISSION_INFO_HASH_MISMATCH" "qBittorrent 中的种子与已校验种子不一致")
  let sizeMismatch := conflict "QB_SUBMISSION_SIZE_MISMATCH"
    "qBittorrent 中的种子大小与已校验种子不一致"
  let size ← orRaise execution.actualSizeBytes sizeMismatch
  ensure (observed.size = size) sizeMismatch
  let count ← orRaise execution.actualFileCount (bindingInvalid "下载执行缺少已校验文件数量")
  return (size, count)

omit [Python] in
/-- `_require_final_automation_submission_cas`. -/
def requireFinalAutomationSubmissionCas (execution : DownloadExecution)
    (snapshotHitAndRun : Option Bool) (settings : Settings) (newId : Uuid) (now : DateTime) :
    DbTx Unit :=
  if execution.origin ≠ .automation then pure ()
  else do
    let (_, current) ← getCurrentPolicy newId now
    requireApp (execution.launchMode = .addPaused ∧ settings.enableAutomationEngine = true ∧
        settings.enableDownloadExecutionControlPlane = true ∧
        settings.downloadExecutorEnabled = true ∧ settings.enableAvistazLiveSearch = true ∧
        snapshotHitAndRun ≠ none ∧ execution.automationPolicyRevisionId = some current.id ∧
        current.executionMode = .autoIfEligible)
      (conflict "AUTOMATION_POLICY_CHANGED_AFTER_WRITE"
        "自动化策略在 qBittorrent 写入可能发生后变化，必须人工对账")

/-- The job of a finalised execution. -/
def newDownloadJob (newId : Uuid) (execution : DownloadExecution) (approval : ApprovalRequest)
    (plan : DownloadPlan) (observed : QbTorrent) (contents : ℕ × ℕ) (now : DateTime) :
    DownloadJob where
  id := newId.text
  executionId := execution.id
  approvalId := approval.id
  mediaItemId := approval.mediaItemId
  status := downloadJobStatus observed
  releaseTitle := plan.releaseTitle
  infoHashV1 := execution.actualInfoHashV1
  infoHashV2 := execution.actualInfoHashV2
  savePathRef := plan.savePathRef
  category := plan.category
  sizeBytes := contents.1
  fileCount := contents.2
  progress := observed.progress
  downloadSpeedBps := observed.dlspeed
  uploadSpeedBps := observed.upspeed
  downloadedBytes := observed.downloaded
  uploadedBytes := observed.uploaded
  ratio := observed.ratio
  hnrStatus := .unknown
  startedAt := ((qbTimestamp observed.addedOn).or execution.submittedAt).getD now
  completedAt := completionTime observed now
  lastSeenAt := now
  createdAt := now

omit [Python] in
/-- Inserting a row of `download_jobs`, under its constraints, its primary key and one job for each
execution. -/
def insertJob (job : DownloadJob) : DbTx Unit := do
  let db ← Tx.get
  Tx.require (job.SatisfiesChecks ∧ db.jobs.get? job.id = none ∧
    jobOfExecution db.toTables job.executionId = none) .integrity
  Tx.modify fun db => { db with jobs := db.jobs.save job }

omit [Python] in
/-- The row of an execution whose outcome was verified. -/
def finalizedExecution (execution : DownloadExecution) (outcome : DownloadExecutionStatus)
    (now : DateTime) : DownloadExecution :=
  { released execution with
    status := outcome
    verifiedAt := some now
    errorCode := none
    errorMessage := none }

omit [Python] in
/-- `_add_job_event`. -/
def addJobEvent (job : DownloadJob) (eventType actor : String)
    (fromStatus : Option DownloadJobStatus := none) : DbTx Unit :=
  Tx.modify fun db =>
    { db with
      jobEvents := db.jobEvents ++
        [{ downloadJobId := job.id, eventType, fromStatus, toStatus := job.status, actor }] }

/-- The last part of `finalize_download_submission`: the execution is being submitted, under its
lease. -/
def finalizeSubmitting (execution : DownloadExecution) (observed : QbTorrent)
    (outcome : DownloadExecutionStatus) (settings : Settings) (actor : String)
    (newIds : Uuid × Uuid) (clock : ℕ → DateTime) : DbTx DownloadJob := do
  let db ← Tx.get
  let approval ← Tx.ofOption
    ((db.approvals.get? execution.approvalId).filter (·.status = .executing))
    (.app (conflict "DOWNLOAD_EXECUTION_APPROVAL_INVALIDATED"
      "下载执行的审批不再处于 EXECUTING 状态"))
  let snapshot ← liftApp (verifySnapshot approval)
  requireFinalAutomationSubmissionCas execution
    (effectiveHnrRule snapshot.siteId snapshot.hitAndRun).applies settings newIds.1 (clock 1)
  let plan ← getVerifiedPlan approval
  let fingerprint ←
    Tx.ofExcept (qbTargetFingerprint settings plan execution.launchMode snapshot.mediaTitle)
  requireApp (fingerprint = execution.qbTargetFingerprint)
    (conflict "EXECUTION_TARGET_CONFIG_CHANGED" "qBittorrent 执行目标与预留时不一致")
  let contents ← liftApp (requireObserved execution plan observed outcome settings)
  let job := newDownloadJob newIds.2 execution approval plan observed contents (clock 2)
  insertJob job
  let consumed ← consumeApproval approval.id actor (clock 3)
  let finalized := finalizedExecution execution outcome (clock 2)
  saveExecution finalized
  addExecutionEvent finalized "SUBMISSION_VERIFIED" (strip actor) (some execution.status) outcome
  addExecutionApprovalEvent consumed "DOWNLOAD_JOB_CREATED" (strip actor)
  addJobEvent job "CREATED" (strip actor)
  return job

/-- **`finalize_download_submission`.** -/
def finalizeDownloadSubmission (executionId : String) (observed : QbTorrent)
    (outcome : DownloadExecutionStatus) (settings : Settings) (actor leaseToken : String)
    (newIds : Uuid × Uuid) (clock : ℕ → DateTime) : DbTx DownloadJob := do
  requireApp (outcome = .submitted ∨ outcome = .alreadyPresent)
    (conflict "DOWNLOAD_EXECUTION_OUTCOME_INVALID"
      "下载提交终态必须为 SUBMITTED 或 ALREADY_PRESENT")
  let execution ← getDownloadExecution executionId
  let db ← Tx.get
  let existingJob := jobOfExecution db.toTables execution.id
  if execution.status = .submitted ∨ execution.status = .alreadyPresent then
    requireApp (execution.status = outcome)
      (conflict "DOWNLOAD_EXECUTION_FINALIZATION_INVALID" "下载执行终态与监控任务不一致")
    Tx.ofOption existingJob
      (.app (conflict "DOWNLOAD_EXECUTION_FINALIZATION_INVALID" "下载执行终态与监控任务不一致"))
  else
    requireApp (existingJob = none)
      (conflict "DOWNLOAD_EXECUTION_FINALIZATION_INVALID" "非终态下载执行已经绑定监控任务")
    requireApp (execution.status = .submitting)
      (conflict "DOWNLOAD_EXECUTION_TRANSITION_INVALID"
        "只有 SUBMITTING 下载执行可以确认提交结果")
    liftApp (requireExecutionLease execution leaseToken settings.downloadExecutionLeaseSeconds
      (clock 0))
    finalizeSubmitting execution observed outcome settings actor newIds clock

end LibSeek.Services
