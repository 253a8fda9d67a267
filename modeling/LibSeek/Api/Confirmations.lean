/-
The routes that create an execution.

A candidate is downloaded with one request: the console looks for what an earlier request under the
same key has come to, opens or reuses a request for the candidate, has it pre-flighted by the
downloader, and then approves it and creates its execution in one transaction.  An approved plan can
also be executed by a request of its own.  Where a transaction finds that another one was faster, it
is rolled back, and the request is answered with what the other one has created.

A request is served in turns.  Each turn is one transaction, so that others may commit in between.
The second transaction of a confirmation goes on with the request that its session has read in the
first one; after a rollback everything is read again.

Main definitions:

* `Api.ConfirmCall`, `Api.ExecuteCall` — the two requests;
* `Api.Stage` — how far a request has been served;
* `Api.lookConfirmation`, `Api.openConfirmation`, `Api.finishConfirmation`,
  `Api.recoverConfirmation` — the turns of `confirm_candidate_download`;
* `Api.executePlan`, `Api.recoverExecution` — the turns of `execute_approval_download_plan`;
* `Api.Server`, `Api.serveAll` — **any number of requests, served in turns**;
* `Api.Server.asRead` — what happens finds the requests as the sessions hold them.
-/

import LibSeek.Api.ApprovalRoutes
import LibSeek.ControlPlane.HeldRequests

set_option relaxedAutoImplicit false
set_option autoImplicit false

namespace LibSeek.Api

open LibSeek.Core LibSeek.Lib LibSeek.Models LibSeek.Schemas LibSeek.Services

open InSession (service commit rollback)

/-! ### Requests -/

/-- `CandidateConfirmDownloadRequest`. -/
structure CandidateConfirmDownloadRequest extends ApprovalCreateRequest where
  acknowledgesHnr : Bool := false
  acknowledgesSeeding : Bool
  acknowledgesPlanOnly : Bool
  launchMode : DownloadLaunchMode := .startImmediately

/-- The part of a confirmation that creates the request for the candidate. -/
def CandidateConfirmDownloadRequest.createRequest (request : CandidateConfirmDownloadRequest) :
    ApprovalCreateRequest :=
  request.toApprovalCreateRequest

/-- The part of a confirmation that approves it. -/
def CandidateConfirmDownloadRequest.approveRequestBody
    (request : CandidateConfirmDownloadRequest) : ApprovalApproveRequest where
  acknowledgesHnr := request.acknowledgesHnr
  acknowledgesSeeding := request.acknowledgesSeeding
  acknowledgesPlanOnly := request.acknowledgesPlanOnly

/-- A request of `confirm_candidate_download`. -/
structure ConfirmCall where
  candidateId : String
  request : CandidateConfirmDownloadRequest
  idempotencyKey : String
  actor : String

/-- A request of `execute_approval_download_plan`. -/
structure ExecuteCall where
  approvalId : String
  request : DownloadExecutionCreateRequest
  idempotencyKey : String
  actor : String

/-- A request that creates an execution. -/
inductive CreationCall where
  | confirm (call : ConfirmCall)
  | execute (call : ExecuteCall)

/-- The key of a request. -/
def CreationCall.idempotencyKey : CreationCall → String
  | .confirm call => call.idempotencyKey
  | .execute call => call.idempotencyKey

/-- What the outside supplies to one turn: the settings in force, the rows of the candidate, the
answers of the downloader, the readings of the clock, the identifiers and the secret drawn. -/
structure Turn where
  settings : Settings
  rows : CandidateRows
  replies : QbReadReplies
  evaluatedAt : DateTime
  clock : ℕ → DateTime
  newId : ℕ → Uuid
  secret : String
  seen : Bool × Bool

/-- What a request is answered: the request of the candidate, its execution unless the pre-flight
has blocked it, and what of them is new. -/
structure Answer where
  approvalId : String
  execution : Option DownloadExecution
  approvalCreated : Bool
  executionCreated : Bool

/-- How far a request has been served. -/
inductive Stage where
  | received
  /-- Nothing was found under the key. -/
  | looked
  /-- The request of the candidate is pending, and is to be pre-flighted: the session holds it. -/
  | opened (settings : Settings) (approval : ApprovalRequest) (snapshot : ApprovalCandidateSnapshot)
      (approvalCreated : Bool)
  /-- Another transaction was faster; what there is under the key is to be found, or the exception
  is to be raised. -/
  | conflicted (e : Exn)
  | ended (result : Except Exn Answer)

variable [Python] [HexDigest]

/-! ### The turns of `confirm_candidate_download` -/

omit [HexDigest] in
/-- The first part of `confirm_candidate_download`: the answer to a repeated request. -/
def lookConfirmation (call : ConfirmCall) : DbTx (Option Answer) := do
  let existingExecution ← findIdempotentCandidateExecution call.candidateId call.idempotencyKey
    call.request.launchMode
  match existingExecution with
  | none => return none
  | some execution => do
      let replayApproval ← getApprovalOr404 execution.approvalId
      let snapshot ← liftApp (verifySnapshot replayApproval)
      liftApp (validateManualApprovalAcknowledgements snapshot call.request.approveRequestBody)
      liftApp ((validateApprovalCreateRequestCompatibility replayApproval
        call.request.createRequest).mapError fun _ =>
          conflict "IDEMPOTENCY_KEY_REUSED" "Idempotency-Key 已被其他确认下载请求使用")
      return some
        { approvalId := replayApproval.id, execution := some execution
          approvalCreated := false, executionCreated := false }

omit [HexDigest] in
/-- The rest of the first transaction: the request of the candidate is created or reused. -/
def openConfirmation (call : ConfirmCall) (turn : Turn) : Route Stage := do
  let _ ← service (requireStageNotDisabled .torrentSelection (turn.newId 0) (turn.clock 0))
  let _ ← service (requireStageNotDisabled .approval (turn.newId 1) (turn.clock 1))
  let _ ← service (requireStageNotDisabled .execution (turn.newId 2) (turn.clock 2))
  service (liftApp (requireExecutionControlPlaneEnabled turn.settings))
  let (approval, approvalCreated) ← Tx.handle
    (service (getOrCreatePendingApprovalRequest call.candidateId turn.rows
      call.request.createRequest turn.settings call.actor (turn.newId 3) fun n => turn.clock (n + 3)))
    fun e =>
      match e with
      | .integrity => do
          rollback
          Tx.raise (.app (conflict "APPROVAL_REQUEST_CONFLICT"
            "确认下载时审批请求发生并发冲突，请使用相同幂等键重试"))
      | _ => Tx.raise e
  let snapshot ← onAppError (commitExpirationOnError approval) (service (do
    let snapshot ← requirePendingApproval approval (turn.clock 6)
    liftApp (validateManualApprovalAcknowledgements snapshot call.request.approveRequestBody)
    return snapshot))
  commit
  return .opened turn.settings approval snapshot approvalCreated

omit [HexDigest] in
/-- The result of the pre-flight is saved in the request that the session holds. -/
def saveConfirmationPreflight (call : ConfirmCall) (turn : Turn) (approval : ApprovalRequest)
    (snapshotHash : SnapshotHash) (result : PreflightResult) : DbTx ApprovalRequest := do
  let _ ← withHeld approval (requirePendingApproval approval (turn.clock 2))
  requireSameSnapshot approval snapshotHash
  withHeld approval (savePreflightResult approval result call.actor (turn.clock 3))

omit [HexDigest] in
/-- The request is approved, and its execution is created. -/
def createConfirmedExecution (call : ConfirmCall) (turn : Turn) (approval : ApprovalRequest) :
    DbTx (DownloadExecution × Bool) := do
  let (approved, _) ← withHeld approval
    (approveRequest approval call.request.approveRequestBody turn.settings call.actor
      (turn.newId 2) (turn.clock 4))
  let (intent, nonce) ← withHeld approved
    (createExecutionIntent approval.id { launchMode := call.request.launchMode } turn.settings
      { actor := call.actor } (turn.newId 3) turn.secret (turn.clock 5))
  withHeld approved
    (executeApprovedPlan approval.id { intentId := intent.id, nonce := nonce } call.idempotencyKey
      turn.settings { actor := call.actor } (turn.newId 4) (turn.clock 6) turn.seen)

omit [HexDigest] in
/-- The second transaction inside its `try`. -/
def decideConfirmation (call : ConfirmCall) (turn : Turn) (approval : ApprovalRequest)
    (snapshotHash : SnapshotHash) (approvalCreated : Bool) (result : PreflightResult) :
    Route Stage := do
  let saved ← service (saveConfirmationPreflight call turn approval snapshotHash result)
  if preflightIsManuallyPassable result = false then
    commit
    return .ended (.ok
      { approvalId := approval.id, execution := none, approvalCreated := approvalCreated
        executionCreated := false })
  else
    let (execution, executionCreated) ← service (createConfirmedExecution call turn saved)
    commit
    return .ended (.ok
      { approvalId := approval.id, execution := some execution
        approvalCreated := approvalCreated, executionCreated := executionCreated })

omit [HexDigest] in
/-- What the second transaction does on an exception. -/
def afterConfirmation (approval : ApprovalRequest) : Exn → Route Stage
  | .integrity => do
      rollback
      return .conflicted (.app (conflict "CONFIRM_DOWNLOAD_CONFLICT"
        "确认下载发生并发冲突，请使用相同幂等键重试"))
  | .app error =>
      if error.errorCode ≠ "APPROVAL_NOT_PENDING" then do
        commitExpirationOnError approval error
        Tx.raise (.app error)
      else do
        rollback
        return .conflicted (.app error)
  | e => Tx.raise e

omit [HexDigest] in
/-- The second transaction of `confirm_candidate_download`, with the answers of the downloader, on
the request that the session holds. -/
def finishConfirmation (call : ConfirmCall) (turn : Turn) (settings : Settings)
    (approval : ApprovalRequest) (snapshot : ApprovalCandidateSnapshot) (approvalCreated : Bool) :
    Route Stage := do
  let result ← service (liftApp
    (evaluatePreflight turn.replies snapshot settings turn.evaluatedAt))
  let _ ← service (requireStageNotDisabled .approval (turn.newId 0) (turn.clock 0))
  let _ ← service (requireStageNotDisabled .execution (turn.newId 1) (turn.clock 1))
  service (liftApp (requireExecutionControlPlaneEnabled turn.settings))
  service (liftApp (requirePreflightPolicyCurrent result.policyFingerprint turn.settings))
  let current ← service (withHeld approval (getApprovalOr404 approval.id))
  Tx.handle (decideConfirmation call turn current approval.snapshotHash approvalCreated result)
    (afterConfirmation current)

omit [HexDigest] in
/-- The answer after a rollback: what another transaction has created under the key. -/
def recoverConfirmation (call : ConfirmCall) (e : Exn) : DbTx Answer := do
  let recovered ← findIdempotentCandidateExecution call.candidateId call.idempotencyKey
    call.request.launchMode
  match recovered with
  | none => Tx.raise e
  | some execution => do
      let approval ← getApprovalOr404 execution.approvalId
      return { approvalId := approval.id, execution := some execution
               approvalCreated := false, executionCreated := false }

/-! ### The turns of `execute_approval_download_plan` -/

omit [HexDigest] in
/-- The transaction of `execute_approval_download_plan`. -/
def executePlan (call : ExecuteCall) (turn : Turn) : Route Stage := do
  let _ ← service (requireStageNotDisabled .execution (turn.newId 0) (turn.clock 0))
  Tx.handle
    (do
      let (execution, created) ← service (executeApprovedPlan call.approvalId call.request
        call.idempotencyKey turn.settings { actor := call.actor } (turn.newId 1) (turn.clock 1)
        turn.seen)
      commit
      return .ended (.ok
        { approvalId := call.approvalId, execution := some execution
          approvalCreated := false, executionCreated := created }))
    fun e =>
      match e with
      | .integrity => do
          rollback
          return .conflicted e
      | .app error => do
          commitSafeStateOnError error
          Tx.raise e
      | _ => Tx.raise e

omit [HexDigest] in
/-- The answer after a rollback. -/
def recoverExecution (call : ExecuteCall) : DbTx Answer := do
  let execution ← recoverIdempotentExecution call.approvalId call.request call.idempotencyKey
  return { approvalId := call.approvalId, execution := some execution
           approvalCreated := false, executionCreated := false }

/-! ### Any number of requests -/

omit [HexDigest] in
/-- A turn of a request that has been served so far. -/
def CreationCall.turn : CreationCall → Stage → Turn → Route Stage
  | .confirm call, .received, _ => do
      let found ← service (lookConfirmation call)
      return found.elim .looked fun answer => .ended (.ok answer)
  | .confirm call, .looked, turn => openConfirmation call turn
  | .confirm call, .opened settings approval snapshot approvalCreated, turn =>
      finishConfirmation call turn settings approval snapshot approvalCreated
  | .confirm call, .conflicted e, _ => do
      let answer ← service (recoverConfirmation call e)
      return .ended (.ok answer)
  | .execute call, .received, turn => executePlan call turn
  | .execute call, .conflicted _, _ => do
      let answer ← service (recoverExecution call)
      return .ended (.ok answer)
  | _, stage, _ => pure stage

/-- The database, the sessions of the other routes, and the requests being served: each is a place in
the list of the requests, and any of them may never get another turn. -/
structure Server extends ControlPlane.Served where
  stage : ℕ → Stage := fun _ => .received

/-- What happens: another service makes a call, or another route goes on with the request that its
session holds; or a request gets a turn. -/
inductive Action where
  | control (step : ControlPlane.Step ControlPlane.Operation)
  | serve (place : ℕ) (turn : Turn)

/-- What an action makes of the database and of the requests. -/
def Server.act (calls : ℕ → CreationCall) (s : Server) : Action → Server
  | .control step =>
      { s with toServed := s.toServed.act ControlPlane.Operation.commit step }
  | .serve place turn =>
      let served := ((calls place).turn (s.stage place) turn).serve s.db
      { s with
        db := served.2.committed
        stage := Function.update s.stage place
          (match served.1 with
          | .ok stage => stage
          | .error e => .ended (.error e)) }

/-- **Any number of requests, served in turns**, in any order, among the calls of all the other
services. -/
def serveAll (calls : ℕ → CreationCall) (actions : List Action) : Server :=
  actions.foldl (Server.act calls) {}

omit [Python] [HexDigest] in
/-- The request that a session of a confirmation holds. -/
def Stage.held? : Stage → Option ApprovalRequest
  | .opened _ approval _ _ => some approval
  | _ => none

omit [Python] [HexDigest] in
/-- **What happens finds the request as the session holds it**, where a session goes on with one. -/
def Server.asRead (s : Server) : Action → Prop
  | .control step => s.toServed.asRead step
  | .serve place _ => ∀ held ∈ (s.stage place).held?, s.db.approvals.get? held.id = some held

omit [Python] [HexDigest] in
instance (s : Server) : ∀ action : Action, Decidable (s.asRead action)
  | .control step => inferInstanceAs (Decidable (s.toServed.asRead step))
  | .serve place _ => inferInstanceAs
      (Decidable (∀ held ∈ (s.stage place).held?, s.db.approvals.get? held.id = some held))

/-- **Everything that happens finds the requests as the sessions hold them.** -/
def ActsAsRead (calls : ℕ → CreationCall) (actions : List Action) : Prop :=
  EveryStep (Server.act calls) Server.asRead {} actions

instance (calls : ℕ → CreationCall) (actions : List Action) :
    Decidable (ActsAsRead calls actions) := by
  delta ActsAsRead
  infer_instance

end LibSeek.Api
