/-
The routes of an approval request.

A route serves one request of the console.  It runs the services in a session, commits, and decides
on an error whether what the services have staged is committed all the same.  The routes that ask
the downloader for a pre-flight do so between two transactions, while others may commit; in the second
one their session goes on with the request that it has read in the first one.

Main definitions:

* `Api.Route` — code that serves a request;
* `Api.onAppError`, `Api.commitExpirationOnError`, `Api.commitSafeStateOnError` — what the routes do
  on an error;
* `Api.preflightApprovalRequest`, `Api.approveApprovalRequest`,
  `Api.createApprovalExecutionIntent` — the routes.
-/

import LibSeek.ControlPlane.Operations
import LibSeek.Lib.Session

set_option relaxedAutoImplicit false
set_option autoImplicit false

namespace LibSeek.Api

open LibSeek.Core LibSeek.Lib LibSeek.Models LibSeek.Schemas LibSeek.Services

open InSession (service commit rollback outside)

/-- Code that serves a request. -/
abbrev Route (α : Type) := InSession Db Exn α

/-! ### Errors -/

/-- `try … except AppError as exc`, with a handler that ends in `raise`. -/
def onAppError {α : Type} (handler : AppError → Route Unit) (body : Route α) : Route α :=
  Tx.handle body fun e =>
    match e with
    | .app error => do
        handler error
        Tx.raise e
    | _ => Tx.raise e

/-- `_commit_expiration_on_error`. -/
def commitExpirationOnError (approval : ApprovalRequest) (error : AppError) : Route Unit := do
  let session ← Tx.get
  if ControlPlane.commitExpirationOnError approval.id (.app error) session.staged then
    commit
  else
    pure ()

/-- `_commit_safe_state_on_error`. -/
def commitSafeStateOnError (error : AppError) : Route Unit :=
  if ControlPlane.keepExpiry (.app error) then
    commit
  else
    pure ()

/-! ### Responses -/

/-- `ApprovalResponse`. -/
structure ApprovalResponse where
  id : String
  mediaItemId : String
  torrentCandidateId : String
  status : ApprovalStatus
  candidate : ApprovalCandidateSnapshot
  snapshotHash : SnapshotHash
  requestedBy : String
  requestedAt : DateTime
  expiresAt : DateTime
  decidedAt : Option DateTime
  preflightResult : Option PreflightResult
  preflightCheckedAt : Option DateTime
  events : List ApprovalEvent

/-- `effective_status`. -/
def effectiveStatus (approval : ApprovalRequest) (now : DateTime) : ApprovalStatus :=
  if (approval.status = .pending ∨ approval.status = .approved) ∧ isExpired approval now then
    .expired
  else approval.status

variable [Python] [HexDigest]

omit [HexDigest] in
/-- The pre-flight of a request, as it is shown. -/
def responsePreflight : Option (JsonColumn PreflightResult) →
    Except AppError (Option PreflightResult)
  | none => .ok none
  | some stored => (validatePreflightResult stored).map some

omit [HexDigest] in
/-- `_response`. -/
def response (approval : ApprovalRequest) (now : DateTime) : DbTx ApprovalResponse := do
  let db ← Tx.get
  let preflightResult ← liftApp (responsePreflight approval.preflightResult)
  let candidate ← Tx.ofOption
    (approval.candidateSnapshot.modelValidate ApprovalCandidateSnapshot.valid)
    (.other "ValidationError")
  return {
    id := approval.id
    mediaItemId := approval.mediaItemId
    torrentCandidateId := approval.torrentCandidateId
    status := effectiveStatus approval now
    candidate := candidate
    snapshotHash := approval.snapshotHash
    requestedBy := approval.requestedBy
    requestedAt := approval.requestedAt
    expiresAt := approval.expiresAt
    decidedAt := approval.decidedAt
    preflightResult := preflightResult
    preflightCheckedAt := approval.preflightCheckedAt
    events := db.approvalEvents.filter (·.approvalRequestId = approval.id) }

/-! ### Pre-flight -/

/-- What the outside supplies to a request of a pre-flight: who asks, the settings at the two times
they are read, the answers of the downloader, what others commit meanwhile, the readings of the
clock and the identifiers drawn. -/
structure PreflightCall where
  approvalId : String
  actor : String
  settings : Settings
  currentSettings : Settings
  replies : QbReadReplies
  evaluatedAt : DateTime
  others : List ControlPlane.Operation
  clock : ℕ → DateTime
  newId : Uuid

omit [Python] [HexDigest] in
/-- A pre-flight is saved if the snapshot is the one it was made for. -/
def requireSameSnapshot (approval : ApprovalRequest) (snapshotHash : SnapshotHash) : DbTx Unit :=
  requireApp (approval.snapshotHash = snapshotHash)
    (conflict "APPROVAL_SNAPSHOT_CHANGED" "审批快照已变化，预检结果已丢弃")

/-- The second transaction of `preflight_approval_request`, inside its `try`, on the request that the
session holds. -/
def savePreflight (call : PreflightCall) (env executionEnv : AutomationEnvironment)
    (approval : ApprovalRequest) (snapshotHash : SnapshotHash) (result : PreflightResult) :
    DbTx ApprovalRequest := do
  let _ ← withHeld approval (requirePendingApproval approval (call.clock 2))
  requireSameSnapshot approval snapshotHash
  let saved ← withHeld approval
    (savePreflightResult approval result call.actor (call.clock 3))
  withHeld saved do
    let _ ← maybeFinalizeAutomaticApproval saved call.currentSettings
      { env with
        expectedPolicyRevisionId := none
        expectedSnapshotHash := some snapshotHash
        triggerJobId := none } executionEnv
    -- an automatic approval would have changed the object
    let db ← Tx.get
    return (db.approvals.get? saved.id).getD saved

/-- `preflight_approval_request`. -/
def preflightApprovalRequest (call : PreflightCall) (env executionEnv : AutomationEnvironment) :
    Route ApprovalResponse := do
  let _ ← service (requireStageNotDisabled .approval call.newId (call.clock 0))
  let approval ← service (getApprovalOr404 call.approvalId)
  let snapshot ← onAppError (commitExpirationOnError approval)
    (service (requirePendingApproval approval (call.clock 1)))
  commit
  outside fun db => ControlPlane.runFrom db call.others
  let result ← service (liftApp
    (evaluatePreflight call.replies snapshot call.settings call.evaluatedAt))
  let current ← service (withHeld approval (getApprovalOr404 call.approvalId))
  let saved ← onAppError (commitExpirationOnError current)
    (service (savePreflight call env executionEnv current approval.snapshotHash result))
  commit
  service (response saved (call.clock 4))

/-! ### Approval -/

/-- What the outside supplies to the approval of a request. -/
structure ApproveCall extends PreflightCall where
  request : ApprovalApproveRequest
  newIds : Uuid × Uuid

omit [HexDigest] in
/-- The first transaction of `approve_approval_request`, inside its `try`. -/
def requireApprovable (call : ApproveCall) (approval : ApprovalRequest) :
    DbTx ApprovalCandidateSnapshot := do
  let snapshot ← requirePendingApproval approval (call.clock 1)
  liftApp (validateManualApprovalAcknowledgements snapshot call.request)
  return snapshot

omit [HexDigest] in
/-- The second transaction of `approve_approval_request` up to the judgement on the pre-flight,
inside its `try`. -/
def saveApprovalPreflight (call : ApproveCall) (approval : ApprovalRequest)
    (snapshotHash : SnapshotHash) (result : PreflightResult) : DbTx ApprovalRequest := do
  let _ ← withHeld approval (requirePendingApproval approval (call.clock 3))
  requireSameSnapshot approval snapshotHash
  withHeld approval (savePreflightResult approval result call.actor (call.clock 4))

/-- The rest of it, where the pre-flight may be approved. -/
def approveAndExecute (call : ApproveCall) (env : AutomationEnvironment)
    (approval : ApprovalRequest) : DbTx ApprovalRequest := do
  let (approved, _) ← withHeld approval
    (approveRequest approval call.request call.currentSettings call.actor call.newIds.2
      (call.clock 5))
  let _ ← withHeld approved (maybeCreateAutomaticExecution approved call.currentSettings env)
  return approved

/-- The second transaction of `approve_approval_request`, inside its `try`: the response, where the
pre-flight does not allow an approval, or the row approved. -/
def decideRequest (call : ApproveCall) (env : AutomationEnvironment) (approval : ApprovalRequest)
    (snapshotHash : SnapshotHash) (result : PreflightResult) :
    Route (ApprovalResponse ⊕ ApprovalRequest) := do
  let saved ← service (saveApprovalPreflight call approval snapshotHash result)
  if preflightIsManuallyPassable result = false then
    commit
    let blocked ← service (response saved (call.clock 6))
    return .inl blocked
  else
    let approved ← service (approveAndExecute call env saved)
    return .inr approved

/-- `approve_approval_request`. -/
def approveApprovalRequest (call : ApproveCall) (env : AutomationEnvironment) :
    Route ApprovalResponse := do
  let _ ← service (requireStageNotDisabled .approval call.newId (call.clock 0))
  let approval ← service (getApprovalOr404 call.approvalId)
  let snapshot ← onAppError (commitExpirationOnError approval)
    (service (requireApprovable call approval))
  commit
  outside fun db => ControlPlane.runFrom db call.others
  let result ← service (liftApp
    (evaluatePreflight call.replies snapshot call.settings call.evaluatedAt))
  let _ ← service (requireStageNotDisabled .approval call.newIds.1 (call.clock 2))
  service (liftApp (requirePreflightPolicyCurrent result.policyFingerprint call.currentSettings))
  let current ← service (withHeld approval (getApprovalOr404 call.approvalId))
  let decided ← onAppError (commitExpirationOnError current)
    (decideRequest call env current approval.snapshotHash result)
  match decided with
  | .inl blocked => return blocked
  | .inr approved => do
      commit
      service (response approved (call.clock 6))

/-! ### Execution intents -/

/-- What the outside supplies to a request of an execution intent. -/
structure IntentCall where
  approvalId : String
  request : ExecutionIntentCreateRequest
  settings : Settings
  actor : String
  newIds : Uuid × Uuid
  secret : String
  clock : ℕ → DateTime

omit [HexDigest] in
/-- `create_approval_execution_intent`. -/
def createApprovalExecutionIntent (call : IntentCall) : Route (ExecutionIntent × String) := do
  let _ ← service (requireStageNotDisabled .execution call.newIds.1 (call.clock 0))
  Tx.handle
    (do
      let created ← service (createExecutionIntent call.approvalId call.request call.settings
        { actor := call.actor } call.newIds.2 call.secret (call.clock 1))
      commit
      return created)
    fun e =>
      match e with
      | .integrity => do
          rollback
          Tx.raise (.app (conflict "EXECUTION_INTENT_CONFLICT"
            "执行意图发生并发冲突，请重新读取审批状态"))
      | .app error => do
          commitSafeStateOnError error
          Tx.raise e
      | _ => Tx.raise e

end LibSeek.Api
