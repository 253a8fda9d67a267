/-
The tables of the control plane.

Approvals, download plans, execution intents, executions and download jobs are rows of one
database, bound to each other by identifiers and by digests; the automation policy and its
decisions stand beside them.  A digest column holds a `Lib.Digest` of the document it is the digest
of, so that the documents are types of their own: the payload of a plan, the description of the
downloader, the request that created an execution.

Audit rows are written and never read by the operations modelled here; they are kept as lists,
without their details.

Main definitions:

* `Models.ApprovalRequest`, `Models.DownloadPlan`, `Models.ExecutionIntent`,
  `Models.DownloadExecution`, `Models.DownloadJob` — the rows;
* `Models.AutomationPolicyRevision`, `Models.AutomationPolicyHead`, `Models.AutomationDecision` —
  the rows of the automation;
* `Models.DownloadExecution.SatisfiesChecks` — **the `CHECK` constraints** of the executions;
* `Models.Tables`, `Models.Db` — the tables, and the database with its audit.
-/

import LibSeek.Core.Security
import LibSeek.Lib.Table
import LibSeek.Schemas.Qbittorrent

set_option relaxedAutoImplicit false
set_option autoImplicit false

namespace LibSeek.Models

open LibSeek.Core LibSeek.Lib LibSeek.Schemas

/-! ### Approvals and plans -/

/-- The digest of a stored snapshot. -/
abbrev SnapshotHash := Digest (JsonColumn ApprovalCandidateSnapshot)

structure ApprovalRequest where
  id : String
  mediaItemId : String
  torrentCandidateId : String
  status : ApprovalStatus
  candidateSnapshot : JsonColumn ApprovalCandidateSnapshot
  snapshotHash : SnapshotHash
  requestedBy : String
  requestedAt : DateTime
  expiresAt : DateTime
  decidedAt : Option DateTime
  preflightResult : Option (JsonColumn PreflightResult)
  preflightCheckedAt : Option DateTime
  deriving DecidableEq

/-- The payload of a download plan, whose digest is the plan hash. -/
structure PlanPayload where
  approvalId : String
  approvalSnapshotHash : SnapshotHash
  preflightPolicyFingerprint : Digest PolicyDocument
  siteId : String
  torrentRef : String
  expectedInfoHash : Option String
  releaseTitle : String
  savePathRef : String
  category : String
  tags : List String
  estimatedSizeBytes : Option Int
  mediaDestinationPlan : JsonColumn MediaDestinationPlan
  preflightResult : JsonColumn PreflightResult
  warnings : List String
  deriving DecidableEq

structure DownloadPlan extends PlanPayload where
  id : String
  planHash : Digest PlanPayload
  deriving DecidableEq

/-! ### Intents and executions -/

/-- The description of the downloader and of what is to be added to it, whose digest is the
target fingerprint. -/
structure TargetDescriptor where
  targetInstanceRef : String
  baseUrl : String
  allowedHosts : List String
  allowInsecureHttp : Bool
  savePath : String
  savePathRef : String
  category : String
  tags : List String
  launchMode : DownloadLaunchMode
  deriving DecidableEq, Repr

structure ExecutionIntent where
  id : String
  approvalId : String
  nonceSha256 : Digest String
  approvalSnapshotHash : SnapshotHash
  planHash : Digest PlanPayload
  qbTargetFingerprint : Digest TargetDescriptor
  launchMode : DownloadLaunchMode
  origin : Origin
  automationPolicyRevisionId : Option String
  automationDecisionId : Option String
  status : ExecutionIntentStatus
  createdBy : String
  expiresAt : DateTime
  consumedAt : Option DateTime
  consumedBy : Option String
  deriving DecidableEq

/-- What the second version of an execution request binds besides the first. -/
structure AutomationBinding where
  policyRevisionId : Option String
  decisionId : Option String
  deriving DecidableEq, Repr

/-- The request that creates an execution, whose digest is the request hash:
`CREATE_DOWNLOAD_EXECUTION_V1` without an automation binding, `…_V2` with one. -/
structure ExecutionRequestDocument where
  approvalId : String
  intentId : String
  nonceSha256 : Digest String
  idempotencyKeySha256 : Digest String
  automation : Option AutomationBinding
  deriving DecidableEq

structure DownloadExecution where
  id : String
  approvalId : String
  intentId : String
  idempotencyKeySha256 : Digest String
  requestHash : Digest ExecutionRequestDocument
  approvalSnapshotHash : SnapshotHash
  planHash : Digest PlanPayload
  qbTargetFingerprint : Digest TargetDescriptor
  launchMode : DownloadLaunchMode
  origin : Origin
  automationPolicyRevisionId : Option String
  automationDecisionId : Option String
  status : DownloadExecutionStatus
  attempts : ℕ
  maxAttempts : ℕ
  nextRetryAt : Option DateTime
  lockedAt : Option DateTime
  lockedBy : Option String
  leaseToken : Option String
  actualInfoHash : Option String
  actualInfoHashV1 : Option String
  actualInfoHashV2 : Option String
  actualSizeBytes : Option ℕ
  actualFileCount : Option ℕ
  validatedAt : Option DateTime
  submittedAt : Option DateTime
  verifiedAt : Option DateTime
  errorCode : Option String
  errorMessage : Option String
  requestedBy : String
  requestedAt : DateTime
  reconciliationRequestedBy : Option String
  reconciliationRequestedAt : Option DateTime
  reconciliationReason : Option String
  createdAt : DateTime
  deriving DecidableEq

/-- **The `CHECK` constraints** of `download_executions`. -/
structure DownloadExecution.SatisfiesChecks (e : DownloadExecution) : Prop where
  attempts : 1 ≤ e.maxAttempts ∧ e.attempts ≤ e.maxAttempts
  actualInfoHash_shape : portableHexCheck [40, 64] e.actualInfoHash = true
  actualInfoHashV1_shape : portableHexCheck [40] e.actualInfoHashV1 = true
  actualInfoHashV2_shape : portableHexCheck [64] e.actualInfoHashV2 = true
  actualInfoHash_binding : e.actualInfoHash = none ∨
    (e.actualInfoHashV1 ≠ none ∧ e.actualInfoHash = e.actualInfoHashV1) ∨
    (∃ v2, e.actualInfoHashV2 = some v2 ∧
      (e.actualInfoHash = some v2 ∨ e.actualInfoHash = some (takeStr v2 40)))
  lease_fields : (e.lockedAt = none ∧ e.lockedBy = none ∧ e.leaseToken = none) ∨
    (e.lockedAt ≠ none ∧ e.lockedBy ≠ none ∧ e.leaseToken ≠ none)
  lease_status : e.status.isLeased = true ↔ e.lockedAt ≠ none
  validation_bundle :
    (e.actualInfoHash = none ∧ e.actualInfoHashV1 = none ∧ e.actualInfoHashV2 = none ∧
      e.actualSizeBytes = none ∧ e.actualFileCount = none ∧ e.validatedAt = none ∧
      e.submittedAt = none) ∨
    (e.actualInfoHash ≠ none ∧ (e.actualInfoHashV1 ≠ none ∨ e.actualInfoHashV2 ≠ none) ∧
      (∃ n, e.actualSizeBytes = some n ∧ 0 < n) ∧ (∃ n, e.actualFileCount = some n ∧ 0 < n) ∧
      e.validatedAt ≠ none ∧ e.submittedAt ≠ none)
  submission_metadata : e.status = .cancelled ∨
    (e.status.isReserved = true ↔ e.actualInfoHash ≠ none)
  verified_status : e.status.isVerified = true ↔ e.verifiedAt ≠ none
  reconciliation_fields :
    e.reconciliationRequestedBy = none ↔ e.reconciliationRequestedAt = none
  reconciliation_status : e.status = .reconciliationPending →
    e.reconciliationRequestedBy ≠ none ∧ e.reconciliationRequestedAt ≠ none
  reconciliation_reason : e.reconciliationReason ≠ none →
    e.reconciliationRequestedBy ≠ none ∧ e.reconciliationRequestedAt ≠ none
  automation_binding :
    (e.origin = .manual ∧ e.automationPolicyRevisionId = none ∧ e.automationDecisionId = none) ∨
    (e.origin = .automation ∧ e.automationPolicyRevisionId ≠ none ∧
      e.automationDecisionId ≠ none ∧ e.launchMode = .addPaused)

structure DownloadJob where
  id : String
  executionId : String
  approvalId : String
  mediaItemId : String
  status : DownloadJobStatus
  releaseTitle : String
  infoHashV1 : Option String
  infoHashV2 : Option String
  savePathRef : String
  category : String
  sizeBytes : ℕ
  fileCount : ℕ
  progress : Rat
  downloadSpeedBps : ℕ
  uploadSpeedBps : ℕ
  downloadedBytes : ℕ
  uploadedBytes : ℕ
  ratio : Rat
  hnrStatus : HnrStatus
  startedAt : DateTime
  completedAt : Option DateTime
  lastSeenAt : DateTime
  errorCode : Option String := none
  errorMessage : Option String := none
  createdAt : DateTime
  deriving DecidableEq

/-- **The `CHECK` constraints** of `download_jobs`; the transfer metrics but the ratio are natural
numbers. -/
structure DownloadJob.SatisfiesChecks (j : DownloadJob) : Prop where
  infoHash_required : j.infoHashV1 ≠ none ∨ j.infoHashV2 ≠ none
  infoHashV1_shape : portableHexCheck [40] j.infoHashV1 = true
  infoHashV2_shape : portableHexCheck [64] j.infoHashV2 = true
  content_bounds : 0 < j.sizeBytes ∧ 0 < j.fileCount
  progress : 0 ≤ j.progress ∧ j.progress ≤ 1
  transfer_metrics : -1 ≤ j.ratio
  completed_at : j.status = .completed → j.completedAt ≠ none

instance (j : DownloadJob) : Decidable j.SatisfiesChecks :=
  decidable_of_iff
    ((j.infoHashV1 ≠ none ∨ j.infoHashV2 ≠ none) ∧ portableHexCheck [40] j.infoHashV1 = true ∧
      portableHexCheck [64] j.infoHashV2 = true ∧ (0 < j.sizeBytes ∧ 0 < j.fileCount) ∧
      (0 ≤ j.progress ∧ j.progress ≤ 1) ∧ -1 ≤ j.ratio ∧
      (j.status = .completed → j.completedAt ≠ none))
    ⟨fun ⟨h1, h2, h3, h4, h5, h6, h7⟩ => ⟨h1, h2, h3, h4, h5, h6, h7⟩,
      fun ⟨h1, h2, h3, h4, h5, h6, h7⟩ => ⟨h1, h2, h3, h4, h5, h6, h7⟩⟩

/-! ### Automation -/

/-- The modes, rules and acknowledgements of a policy revision. -/
structure PolicyTerms where
  revisionNo : ℕ
  identityMode : AutomationMode
  torrentSelectionMode : AutomationMode
  approvalMode : AutomationMode
  executionMode : AutomationMode
  eligibilityRules : JsonObject
  acknowledgements : JsonObject
  deriving DecidableEq, Repr

/-- The hash of a policy revision: a digest of its terms and of the hash of the revision before
it, or a text that is no such digest. -/
inductive PolicyHash where
  | first (terms : PolicyTerms)
  | next (terms : PolicyTerms) (previous : PolicyHash)
  | raw (text : String)
  deriving DecidableEq, Repr

structure AutomationPolicyRevision extends PolicyTerms where
  id : String
  policyHash : PolicyHash
  previousPolicyHash : Option PolicyHash
  effectiveFrom : DateTime
  createdBy : String
  deriving DecidableEq

structure AutomationPolicyHead where
  currentRevisionId : String
  version : ℕ
  deriving DecidableEq, Repr

/-- The subject of a decision, whose digest is the key under which it is stored once. -/
structure DecisionSubject where
  version : ℕ
  policyRevisionId : String
  stage : AutomationStage
  action : String
  outcome : DecisionOutcome
  mediaItemId : String
  metadataMatchId : Option String
  torrentCandidateId : Option String
  approvalRequestId : Option String
  deriving DecidableEq, Repr

structure AutomationDecision where
  id : String
  policyRevisionId : String
  stage : AutomationStage
  action : String
  outcome : DecisionOutcome
  mediaItemId : String
  metadataMatchId : Option String
  torrentCandidateId : Option String
  approvalRequestId : Option String
  downloadExecutionId : Option String
  reasonCodes : List String
  evidenceSnapshot : Json
  evidenceHash : Digest Json
  dedupeKey : Digest DecisionSubject
  actor : String
  deriving DecidableEq

/-! ### Audit -/

structure ApprovalEvent where
  approvalRequestId : String
  eventType : String
  fromStatus : Option ApprovalStatus
  toStatus : ApprovalStatus
  actor : String
  reason : Option String
  snapshotHash : SnapshotHash
  deriving DecidableEq

structure DownloadExecutionEvent where
  downloadExecutionId : String
  eventType : String
  fromStatus : Option DownloadExecutionStatus
  toStatus : DownloadExecutionStatus
  actor : String
  deriving DecidableEq

structure DownloadJobEvent where
  downloadJobId : String
  eventType : String
  fromStatus : Option DownloadJobStatus
  toStatus : DownloadJobStatus
  actor : String
  deriving DecidableEq

/-! ### The database -/

instance : Keyed ApprovalRequest String := ⟨ApprovalRequest.id⟩
instance : Keyed DownloadPlan String := ⟨DownloadPlan.id⟩
instance : Keyed ExecutionIntent String := ⟨ExecutionIntent.id⟩
instance : Keyed DownloadExecution String := ⟨DownloadExecution.id⟩
instance : Keyed DownloadJob String := ⟨DownloadJob.id⟩
instance : Keyed AutomationPolicyRevision String := ⟨AutomationPolicyRevision.id⟩
instance : Keyed AutomationDecision String := ⟨AutomationDecision.id⟩

@[simp] theorem key_approval (a : ApprovalRequest) : Keyed.key a = a.id := rfl
@[simp] theorem key_plan (p : DownloadPlan) : Keyed.key p = p.id := rfl
@[simp] theorem key_intent (i : ExecutionIntent) : Keyed.key i = i.id := rfl
@[simp] theorem key_execution (e : DownloadExecution) : Keyed.key e = e.id := rfl
@[simp] theorem key_job (j : DownloadJob) : Keyed.key j = j.id := rfl
@[simp] theorem key_revision (r : AutomationPolicyRevision) : Keyed.key r = r.id := rfl
@[simp] theorem key_decision (d : AutomationDecision) : Keyed.key d = d.id := rfl

/-- The tables that the operations read and write. -/
structure Tables where
  approvals : Table ApprovalRequest := ∅
  plans : Table DownloadPlan := ∅
  intents : Table ExecutionIntent := ∅
  executions : Table DownloadExecution := ∅
  jobs : Table DownloadJob := ∅
  revisions : Table AutomationPolicyRevision := ∅
  head : Option AutomationPolicyHead := none
  decisions : Table AutomationDecision := ∅

/-- The database: the tables, and the audit that is only written. -/
structure Db extends Tables where
  approvalEvents : List ApprovalEvent := []
  executionEvents : List DownloadExecutionEvent := []
  jobEvents : List DownloadJobEvent := []

end LibSeek.Models
