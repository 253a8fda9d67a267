/-
The executor's transactions.

Each of these is one transaction of the executor on the database, under a lock on the row of the
execution.  An execution is claimed for a worker under a lease, which is named by a token drawn for
the claim; every later transaction of the worker compares the token, and one that acts for the
outside also compares the age of the lease.

Main definitions:

* `Workers.DownloadExecutor`, `Workers.ExecutionClaim` — an executor, and its claim;
* `Workers.claimNextExecution`, `Workers.renewLease`, `Workers.recoverStaleExecutions` — leases;
* `Workers.ensureExternalActionAllowed` — **the guard** of every external request;
* `Workers.loadBinding`, `Workers.reserveSubmission` — what the executor reads, and the
  reservation;
* `Workers.markValidationFailure`, `Workers.markReservedFailure` — failures before and after it.
-/

import LibSeek.Services.Executions

set_option relaxedAutoImplicit false
set_option autoImplicit false

namespace LibSeek.Workers

open LibSeek.Core LibSeek.Lib LibSeek.Models LibSeek.Schemas LibSeek.Services

/-- `DownloadExecutor`; the secret address of the downloader in its settings is read again for
every transaction. -/
structure DownloadExecutor where
  workerId : String
  settings : Settings
  workerId_bounds : 1 ≤ workerId.toList.length ∧ workerId.toList.length ≤ 180

/-- `ExecutionClaim`. -/
structure ExecutionClaim where
  executionId : String
  leaseToken : String
  deriving DecidableEq, Repr

/-- The executor with the address of the downloader as it is read at some moment. -/
def DownloadExecutor.reading (x : DownloadExecutor) (baseUrl : Option (Option String)) :
    DownloadExecutor :=
  { x with settings := { x.settings with qbBaseUrlValue := baseUrl } }

/-! ### Leases -/

/-- `_lease_lost`. -/
def leaseLost : AppError :=
  conflict "DOWNLOAD_EXECUTION_LEASE_LOST"
    "下载执行租约已过期或被其他 Worker 接管，禁止外部请求"

/-- Whether a text consists of ASCII characters. -/
def isAscii (s : String) : Bool :=
  s.toList.all fun c => c.toNat < 128

/-- `hmac.compare_digest` on texts, which raises `TypeError` where one of them is not ASCII. -/
def compareDigest (a b : String) : Except Exn Bool :=
  if isAscii a && isAscii b then .ok (a == b) else .error (.other "TypeError")

/-- The part of `_owns_lease` after the comparison of the tokens. -/
def ownsLeaseAs (x : DownloadExecutor) (execution : DownloadExecution) : Except Exn Bool :=
  match execution.lockedBy with
  | none => .ok false
  | some lockedBy => (compareDigest lockedBy x.workerId).map (· && execution.lockedAt.isSome)

/-- `_owns_lease`. -/
def ownsLease (x : DownloadExecutor) (execution : DownloadExecution) (claim : ExecutionClaim) :
    Except Exn Bool :=
  match execution.leaseToken with
  | none => .ok false
  | some leaseToken => do
      let same ← compareDigest leaseToken claim.leaseToken
      if same then ownsLeaseAs x execution else .ok false

/-- `_require_matching_lease`. -/
def requireMatchingLease (x : DownloadExecutor) (execution : DownloadExecution)
    (claim : ExecutionClaim) : Except Exn Unit := do
  let owns ← ownsLease x execution claim
  ensure (owns = true) (.app leaseLost)

/-- `_require_fresh_matching_lease`. -/
def requireFreshMatchingLease (x : DownloadExecutor) (execution : DownloadExecution)
    (claim : ExecutionClaim) (expectedStatus : Option DownloadExecutionStatus) (now : DateTime) :
    Except Exn Unit := do
  requireMatchingLease x execution claim
  ensure (∀ status ∈ expectedStatus, execution.status = status) (.app leaseLost)
  ensure (execution.status.isLeased = true ∧ ∃ lockedAt ∈ execution.lockedAt,
      now < lockedAt + seconds x.settings.downloadExecutionLeaseSeconds)
    (.app leaseLost)

/-- What a lease that was found to be one's own is. -/
structure OwnLease (x : DownloadExecutor) (execution : DownloadExecution)
    (claim : ExecutionClaim) : Prop where
  leaseToken : execution.leaseToken = some claim.leaseToken
  lockedBy : execution.lockedBy = some x.workerId
  lockedAt : execution.lockedAt ≠ none

theorem compareDigest_true {a b : String} (h : compareDigest a b = .ok true) : a = b := by
  unfold compareDigest at h
  split at h
  · simpa using h
  · cases h

theorem ownsLease_true {x : DownloadExecutor} {execution : DownloadExecution}
    {claim : ExecutionClaim} (h : ownsLease x execution claim = .ok true) :
    OwnLease x execution claim := by
  unfold ownsLease at h
  cases htoken : execution.leaseToken with
  | none => simp [htoken] at h
  | some leaseToken =>
      rw [htoken] at h
      obtain ⟨same, hsame, hrest⟩ := bind_eq_ok.mp h
      cases same with
      | false => simp at hrest
      | true =>
          simp only [if_true] at hrest
          unfold ownsLeaseAs at hrest
          cases hby : execution.lockedBy with
          | none => simp [hby] at hrest
          | some lockedBy =>
              rw [hby] at hrest
              cases hcmp : compareDigest lockedBy x.workerId with
              | error e => simp [hcmp, Except.map] at hrest
              | ok b =>
                  simp only [hcmp, Except.map, Except.ok.injEq, Bool.and_eq_true,
                    Option.isSome_iff_ne_none] at hrest
                  obtain ⟨rfl, hat⟩ := hrest
                  exact ⟨by rw [htoken, compareDigest_true hsame],
                    by rw [hby, compareDigest_true hcmp], hat⟩

theorem requireMatchingLease_ok {x : DownloadExecutor} {execution : DownloadExecution}
    {claim : ExecutionClaim} (h : requireMatchingLease x execution claim = .ok ()) :
    OwnLease x execution claim := by
  obtain ⟨owns, howns, htrue⟩ := bind_eq_ok.mp h
  obtain rfl : owns = true := by simpa using htrue
  exact ownsLease_true howns

/-- What a lease that passed the check for an external action is. -/
theorem requireFreshMatchingLease_ok {x : DownloadExecutor} {execution : DownloadExecution}
    {claim : ExecutionClaim} {expectedStatus : Option DownloadExecutionStatus} {now : DateTime}
    (h : requireFreshMatchingLease x execution claim expectedStatus now = .ok ()) :
    OwnLease x execution claim ∧ (∀ status ∈ expectedStatus, execution.status = status) ∧
      execution.status.isLeased = true ∧ ∃ lockedAt ∈ execution.lockedAt,
        now < lockedAt + seconds x.settings.downloadExecutionLeaseSeconds := by
  simp only [requireFreshMatchingLease, bind_eq_ok, ensure_eq_ok] at h
  obtain ⟨_, hown, _, hstatus, hleased, hfresh⟩ := h
  exact ⟨requireMatchingLease_ok hown, hstatus, hleased, hfresh⟩

/-! ### Claims -/

/-- The executions that can be claimed. -/
def isClaimable (now : DateTime) (execution : DownloadExecution) : Bool :=
  (execution.status = .pending ||
    (execution.status = .retryWait && execution.nextRetryAt.all (· ≤ now))) &&
  execution.attempts < execution.maxAttempts

/-- The order in which executions are claimed. -/
def createdBefore (e e' : DownloadExecution) : Prop :=
  e.createdAt < e'.createdAt ∨ (e.createdAt = e'.createdAt ∧ e.id ≤ e'.id)

instance : DecidableRel createdBefore :=
  fun _ _ => inferInstanceAs (Decidable (_ ∨ _ ∧ _))

/-- The execution to be claimed next: the first that can be, of those that no other transaction
has locked. -/
def nextClaimable (db : Tables) (now : DateTime) (locked : String → Bool) :
    Option DownloadExecution :=
  ((db.executions.rows.filter fun e => isClaimable now e && !locked e.id).insertionSort
    createdBefore).head?

/-- The row of an execution that has been claimed. -/
def claimedExecution (x : DownloadExecutor) (leaseToken : Uuid) (now : DateTime)
    (execution : DownloadExecution) : DownloadExecution :=
  { execution with
    status := .validating
    attempts := execution.attempts + 1
    nextRetryAt := none
    lockedAt := some now
    lockedBy := some x.workerId
    leaseToken := some leaseToken.text
    errorCode := none
    errorMessage := none }

/-- `_claim_next_execution`. -/
def claimNextExecution (x : DownloadExecutor) (leaseToken : Uuid) (now : DateTime)
    (locked : String → Bool) : DbTx (Option ExecutionClaim) := do
  let db ← Tx.get
  match nextClaimable db.toTables now locked with
  | none => return none
  | some execution => do
      let claimed := claimedExecution x leaseToken now execution
      saveExecution claimed
      addExecutionEvent claimed "VALIDATION_CLAIMED" x.workerId (some execution.status) .validating
      return some { executionId := claimed.id, leaseToken := leaseToken.text }

/-- `_renew_lease`. -/
def renewLease (x : DownloadExecutor) (claim : ExecutionClaim) (now : DateTime) : DbTx Bool := do
  let db ← Tx.get
  match db.executions.get? claim.executionId with
  | none => return false
  | some execution =>
      match requireFreshMatchingLease x execution claim none now with
      | .ok () => do
          saveExecution { execution with lockedAt := some now }
          return true
      | .error (.app _) => return false
      | .error e => Tx.raise e

/-! ### Stale executions -/

/-- `_retry_delay`. -/
def retryDelay (x : DownloadExecutor) (attempts : ℕ) : Int :=
  min (x.settings.downloadExecutionRetryBaseSeconds * 2 ^ (attempts - 1))
    x.settings.downloadExecutionRetryMaxSeconds

/-- Whether the lease of an execution has expired. -/
def isStale (cutoff : DateTime) (execution : DownloadExecution) : Bool :=
  execution.status.isLeased && execution.lockedAt.any (· < cutoff)

/-- The order in which stale executions are recovered. -/
def lockedBefore (e e' : DownloadExecution) : Prop :=
  e.lockedAt.getD 0 < e'.lockedAt.getD 0 ∨
    (e.lockedAt.getD 0 = e'.lockedAt.getD 0 ∧ e.id ≤ e'.id)

instance : DecidableRel lockedBefore :=
  fun _ _ => inferInstanceAs (Decidable (_ ∨ _ ∧ _))

/-- The executions to be recovered: at most fifty. -/
def staleExecutions (db : Tables) (cutoff : DateTime) (locked : String → Bool) :
    List DownloadExecution :=
  ((db.executions.rows.filter fun e => isStale cutoff e && !locked e.id).insertionSort
    lockedBefore).take 50

/-- The row of an execution whose validation ends, to be tried again or not. -/
def validationEnded (x : DownloadExecutor) (now : DateTime) (retry : Bool)
    (errorCode errorMessage : String) (execution : DownloadExecution) : DownloadExecution :=
  { released execution with
    status := if retry then .retryWait else .failed
    nextRetryAt := if retry then some (now + seconds (retryDelay x execution.attempts)) else none
    errorCode := some errorCode
    errorMessage := some errorMessage }

/-- The row of an execution that has been recovered. -/
def recoveredExecution (x : DownloadExecutor) (now : DateTime) (execution : DownloadExecution) :
    DownloadExecution :=
  if execution.status = .submitting then
    { released execution with
      status := .reconciliationRequired
      errorCode := some "EXECUTOR_STALE_AFTER_RESERVATION"
      errorMessage := some "提交预留后的执行租约过期，必须人工对账，禁止自动重试" }
  else
    validationEnded x now (execution.attempts < execution.maxAttempts)
      "EXECUTOR_VALIDATION_LEASE_EXPIRED" "校验阶段执行租约过期" execution

/-- The loop of `_recover_stale_executions`. -/
def recoverExecutions (x : DownloadExecutor) (now : DateTime) : List DownloadExecution → DbTx Unit
  | [] => pure ()
  | execution :: rest => do
      let recovered := recoveredExecution x now execution
      saveExecution recovered
      addExecutionEvent recovered
        (if execution.status = .submitting then "STALE_SUBMISSION_REQUIRES_RECONCILIATION"
          else "STALE_VALIDATION_RECOVERED")
        x.workerId (some execution.status) recovered.status
      recoverExecutions x now rest

/-- `_recover_stale_executions`. -/
def recoverStaleExecutions (x : DownloadExecutor) (now : DateTime) (locked : String → Bool) :
    DbTx ℕ := do
  let db ← Tx.get
  let stale := staleExecutions db.toTables
    (now - seconds x.settings.downloadExecutionLeaseSeconds) locked
  recoverExecutions x now stale
  return stale.length

/-! ### The guard of external requests -/

variable [Python]

/-- `_automation_fence_error`. -/
def automationFenceError (x : DownloadExecutor) (execution : DownloadExecution)
    (approval : Option ApprovalRequest) (newId : Uuid) (now : DateTime) :
    DbTx (Option String) :=
  if execution.origin ≠ .automation then pure none
  else if execution.launchMode ≠ .addPaused ∨ x.settings.enableAutomationEngine = false ∨
      x.settings.enableDownloadExecutionControlPlane = false ∨
      x.settings.downloadExecutorEnabled = false then
    pure (some "AUTOMATION_EXECUTION_GATE_DISABLED")
  else
    match approval with
    | none => pure (some "AUTOMATION_APPROVAL_MISSING")
    | some approval => do
        let snapshot ← liftApp (verifySnapshot approval)
        if (effectiveHnrRule snapshot.siteId snapshot.hitAndRun).known = false then
          return some "HNR_UNKNOWN"
        else
          let (_, current) ← getCurrentPolicy newId now
          return if execution.automationPolicyRevisionId ≠ some current.id then
              some "AUTOMATION_POLICY_REVISION_CHANGED"
            else if stageMode current .execution ≠ .autoIfEligible then
              some "AUTOMATION_EXECUTION_MODE_CHANGED"
            else none

omit [Python] in
/-- The approval of an execution that is cancelled by the automation fence is revoked. -/
def revokeByFence (x : DownloadExecutor) (approval : Option ApprovalRequest) (now : DateTime) :
    DbTx Unit :=
  match approval with
  | none => pure ()
  | some approval =>
      if approval.status = .approved ∨ approval.status = .executing then do
        let revoked : ApprovalRequest :=
          { approval with status := .revoked, decidedAt := some now }
        saveApproval revoked
        addEvent revoked "AUTOMATION_EXECUTION_CANCELLED" (some approval.status) .revoked x.workerId
          (some "自动化策略或安全资格在外部写入前失效")
      else pure ()

omit [Python] in
/-- The row of an execution that is cancelled. -/
def cancelledExecution (errorCode errorMessage : String) (execution : DownloadExecution) :
    DownloadExecution :=
  { released execution with
    status := .cancelled
    errorCode := some errorCode
    errorMessage := some errorMessage }

omit [Python] in
/-- `_cancel_by_automation_fence`. -/
def cancelByAutomationFence (x : DownloadExecutor) (execution : DownloadExecution)
    (approval : Option ApprovalRequest) (errorCode : String) (now : DateTime) : DbTx Unit := do
  let cancelled := cancelledExecution errorCode "自动化策略或安全资格已变化，外部写入前取消" execution
  saveExecution cancelled
  revokeByFence x approval now
  addExecutionEvent cancelled "AUTOMATION_FENCE_CANCELLED" x.workerId (some execution.status)
    .cancelled

omit [Python] in
/-- The end of the guard of an execution that may go on: its lease is renewed. -/
def allowAction (execution : DownloadExecution) (now : DateTime) : DbTx Bool := do
  saveExecution { execution with lockedAt := some now }
  return true

omit [Python] in
/-- The guard of an execution whose approval no longer allows it. -/
def cancelUnapproved (x : DownloadExecutor) (execution : DownloadExecution) : DbTx Bool := do
  let cancelled := cancelledExecution "APPROVAL_INVALIDATED"
    "审批已撤销、过期或不存在，禁止继续提交" execution
  saveExecution cancelled
  addExecutionEvent cancelled "APPROVAL_INVALIDATED" x.workerId (some execution.status) .cancelled
  return false

/-- The last part of the guard before the reservation: the approval must be approved, and not
have expired. -/
def guardValidating (x : DownloadExecutor) (execution : DownloadExecution)
    (approval : Option ApprovalRequest) (now : DateTime) : DbTx Bool :=
  match approval with
  | none => cancelUnapproved x execution
  | some approval => do
      let _ ← liftApp (verifySnapshot approval)
      if approval.status = .approved ∧ approval.expiresAt ≤ now then do
        let expired : ApprovalRequest :=
          { approval with status := .expired, decidedAt := some now }
        saveApproval expired
        addEvent expired "EXPIRED" (some .approved) .expired "system" (some "审批有效期已结束")
        cancelUnapproved x execution
      else if approval.status ≠ .approved then cancelUnapproved x execution
      else allowAction execution now

omit [Python] in
/-- The last part of the guard after the reservation: the approval must be executing. -/
def guardSubmitting (execution : DownloadExecution) (approval : Option ApprovalRequest)
    (now : DateTime) : DbTx Bool := do
  requireApp (approval.map ApprovalRequest.status = some .executing)
    (conflict "DOWNLOAD_EXECUTION_APPROVAL_INVALIDATED" "提交预留的审批不再处于 EXECUTING 状态")
  allowAction execution now

/-- The end of the guard of an execution that the automation fence stops. -/
def fenced (x : DownloadExecutor) (execution : DownloadExecution)
    (approval : Option ApprovalRequest) (errorCode : String)
    (externalWriteMayHaveOccurred : Bool) (now : DateTime) : DbTx Bool :=
  if externalWriteMayHaveOccurred then
    raiseApp (conflict "AUTOMATION_POLICY_CHANGED_AFTER_WRITE"
      "自动化策略在 qBittorrent 写入可能发生后变化，必须人工对账")
  else do
    cancelByAutomationFence x execution approval errorCode now
    return false

/-- **`_ensure_external_action_allowed`.**  `clock` gives the reading of the database clock and
that at which a missing policy would be bootstrapped. -/
def ensureExternalActionAllowed (x : DownloadExecutor) (claim : ExecutionClaim)
    (expectedStatus : DownloadExecutionStatus) (externalWriteMayHaveOccurred : Bool)
    (newId : Uuid) (clock : DateTime × DateTime) : DbTx Bool := do
  let db ← Tx.get
  let execution ← Tx.ofOption (db.executions.get? claim.executionId)
    (.app (conflict "DOWNLOAD_EXECUTION_LEASE_LOST" "下载执行租约已失效，禁止外部请求"))
  Tx.ofExcept (requireFreshMatchingLease x execution claim (some expectedStatus) clock.1)
  let approval := db.approvals.get? execution.approvalId
  let plan ← Tx.ofOption (planOfApproval db.toTables execution.approvalId)
    (.app (conflict "DOWNLOAD_PLAN_NOT_FOUND" "审批没有对应下载计划"))
  liftApp (approval.elim (.ok ()) fun a => (verifyDownloadPlan plan a).map fun _ => ())
  liftApp (requirePreflightPolicyCurrent plan.preflightPolicyFingerprint x.settings)
  let automationError ← automationFenceError x execution approval newId clock.2
  match automationError with
  | some errorCode =>
      fenced x execution approval errorCode externalWriteMayHaveOccurred clock.1
  | none =>
      if expectedStatus = .validating then guardValidating x execution approval clock.1
      else guardSubmitting execution approval clock.1

/-! ### The binding of an execution -/

/-- `ExecutionBinding`. -/
structure ExecutionBinding where
  executionId : String
  approvalId : String
  plan : DownloadPlan
  snapshot : ApprovalCandidateSnapshot
  launchMode : DownloadLaunchMode
  origin : Origin

/-- `_load_binding`. -/
def loadBinding (x : DownloadExecutor) (claim : ExecutionClaim) : DbTx ExecutionBinding := do
  let db ← Tx.get
  let execution ← Tx.ofOption (db.executions.get? claim.executionId)
    (.app
      { errorCode := "DOWNLOAD_EXECUTION_NOT_FOUND", message := "下载执行记录不存在"
        statusCode := 404 })
  Tx.ofExcept (requireMatchingLease x execution claim)
  let _ ← liftApp (verifyDownloadExecution db.toTables execution)
  let approval ← Tx.ofOption (db.approvals.get? execution.approvalId)
    (.app
      { errorCode := "APPROVAL_REQUEST_NOT_FOUND", message := "审批请求不存在", statusCode := 404 })
  let snapshot ← liftApp (verifySnapshot approval)
  requireApp (approval.status = .approved)
    (conflict "DOWNLOAD_EXECUTION_APPROVAL_INVALIDATED" "审批不再处于可执行状态")
  let plan ← Tx.ofOption (planOfApproval db.toTables approval.id)
    (.app (conflict "DOWNLOAD_PLAN_NOT_FOUND" "审批没有对应下载计划"))
  let _ ← liftApp (verifyDownloadPlan plan approval)
  liftApp (requirePreflightPolicyCurrent plan.preflightPolicyFingerprint x.settings)
  let fingerprint ← Tx.ofExcept
    (qbTargetFingerprint x.settings plan execution.launchMode snapshot.mediaTitle)
  requireApp (fingerprint = execution.qbTargetFingerprint)
    (conflict "EXECUTION_TARGET_CONFIG_CHANGED" "qBittorrent 目标配置与执行意图不一致")
  requireApp (plan.siteId = snapshot.siteId)
    (conflict "DOWNLOAD_PLAN_BINDING_INVALID" "下载计划与审批候选的 PT 站点绑定不一致")
  requireApp (plan.torrentRef = snapshot.torrentRef)
    (conflict "DOWNLOAD_PLAN_BINDING_INVALID" "下载计划与审批候选引用不一致")
  return {
    executionId := execution.id
    approvalId := approval.id
    plan := plan
    snapshot := snapshot
    launchMode := execution.launchMode
    origin := execution.origin }

/-! ### The reservation -/

/-- `_reserve_submission`.  `clock` gives the two readings of the database clock and that of the
worker's. -/
def reserveSubmission (x : DownloadExecutor) (claim : ExecutionClaim) (metadata : ValidatedTorrent)
    (clock : DateTime × DateTime × DateTime) : DbTx DownloadExecutionStatus := do
  let db ← Tx.get
  let execution ← Tx.ofOption (db.executions.get? claim.executionId)
    (.app
      { errorCode := "DOWNLOAD_EXECUTION_NOT_FOUND", message := "下载执行记录不存在"
        statusCode := 404 })
  Tx.ofExcept (requireFreshMatchingLease x execution claim (some .validating) clock.1)
  let staged ← persistInfoHashBeforeSubmission claim.executionId metadata x.workerId
    claim.leaseToken x.settings.downloadExecutionLeaseSeconds clock.2
  return staged.status

/-! ### Failures -/

omit [Python] in
/-- `_safe_error_code`: the code of an error, where it has the shape `^[A-Z][A-Z0-9_]{0,79}$`. -/
def safeErrorCode (error : AppError) : String :=
  match error.errorCode.toList with
  | [] => "DOWNLOAD_EXECUTOR_INTERNAL_ERROR"
  | c :: cs =>
      if c.isUpper && cs.length ≤ 79 && cs.all fun c => c.isUpper || c.isDigit || c == '_' then
        error.errorCode
      else "DOWNLOAD_EXECUTOR_INTERNAL_ERROR"

omit [Python] in
/-- `_safe_upstream_status_code`. -/
def safeUpstreamStatusCode (error : AppError) : Option Int :=
  match error.details.lookup "upstream_status_code" with
  | some (.int value) => if 400 ≤ value ∧ value ≤ 599 then some value else none
  | _ => none

omit [Python] in
/-- `_validation_error_message`. -/
def validationErrorMessage (error : AppError) (attempt maxAttempts : ℕ) (retry : Bool) : String :=
  if safeUpstreamStatusCode error = some 403 ∧
      error.errorCode ∈ ["AVISTAZ_TORRENT_FETCH_FAILED", "AVISTAZ_TORRENT_FETCH_FORBIDDEN"] then
    "AvistaZ 返回 HTTP 403，" ++
      (if retry then "已安排自动重试" else "未安排自动重试或重试次数已耗尽") ++
      "（第 " ++ toString attempt ++ "/" ++ toString maxAttempts ++ " 次）"
  else "下载执行在写入前失败，请根据错误代码处理"

omit [Python] in
/-- `_mark_validation_failure`. -/
def markValidationFailure (x : DownloadExecutor) (claim : ExecutionClaim) (error : AppError)
    (now : DateTime) : DbTx Unit := do
  let db ← Tx.get
  match db.executions.get? claim.executionId with
  | none => return ()
  | some execution => do
      let owns ← Tx.ofExcept (ownsLease x execution claim)
      if owns = true ∧ execution.status = .validating then do
        let retry := error.retryable && execution.attempts < execution.maxAttempts
        let ended := validationEnded x now retry (safeErrorCode error)
          (validationErrorMessage error execution.attempts execution.maxAttempts retry) execution
        saveExecution ended
        addExecutionEvent ended
          (if retry then "VALIDATION_RETRY_SCHEDULED" else "VALIDATION_FAILED") x.workerId
          (some execution.status) ended.status
      else return ()

/-- `_mark_reserved_failure`. -/
def markReservedFailure (x : DownloadExecutor) (claim : ExecutionClaim) (error : AppError)
    (torrentAddMayHaveOccurred : Bool) (now : DateTime) : DbTx Unit := do
  let db ← Tx.get
  match db.executions.get? claim.executionId with
  | none => return ()
  | some execution => do
      let owns ← Tx.ofExcept (ownsLease x execution claim)
      if owns = true ∧ execution.status = .submitting then
        if torrentAddMayHaveOccurred then do
          let _ ← markOutcomeUnknown claim.executionId x.workerId claim.leaseToken
            x.settings.downloadExecutionLeaseSeconds
            { code := safeErrorCode error
              message := "qBittorrent 写入可能已经发生，必须人工对账，禁止自动重试" } now
        else do
          let _ ← markReconciliationRequired claim.executionId x.workerId (some claim.leaseToken)
            x.settings.downloadExecutionLeaseSeconds
            { code := safeErrorCode error
              message := "提交已预留但未完成验证，必须人工确认后续动作，禁止自动重试" } now
      else return ()

end LibSeek.Workers
