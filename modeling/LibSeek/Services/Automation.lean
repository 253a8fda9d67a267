/-
Automatic approval and execution.

Where the policy says so, a request whose pre-flight passed is approved without an operator, and
an approved plan is executed at once, added paused.  Each judgement is recorded as a decision; the
decision to create an execution names the execution it creates.

Main definitions:

* `Services.maybeFinalizeAutomaticApproval` — the judgement on an approval;
* `Services.maybeCreateAutomaticExecution` — the judgement on an execution.
-/

import LibSeek.Services.Executions

set_option relaxedAutoImplicit false
set_option autoImplicit false

namespace LibSeek.Services

open LibSeek.Core LibSeek.Lib LibSeek.Models LibSeek.Schemas

/-- The texts of the digests that are put into the evidence of a decision. -/
class HexDigest where
  snapshot : SnapshotHash → String
  policy : Digest PolicyDocument → String
  snapshot_isHex : ∀ d, (snapshot d).toList.all
    (fun c => ('0' ≤ c && c ≤ '9') || ('a' ≤ c && c ≤ 'f')) = true

variable [Python] [HexDigest]

/-- What the rest of the system supplies to an automatic judgement: the readings of the clock, the
identifiers and secrets drawn, and whether the executor is configured and reports itself ready. -/
structure AutomationEnvironment where
  clock : ℕ → DateTime
  newId : ℕ → Uuid
  nonceSecret : String
  keySecret : String
  qbConfigured : Bool
  executorReady : Bool
  seen : Bool × Bool
  expectedPolicyRevisionId : Option String := none
  expectedSnapshotHash : Option SnapshotHash := none
  triggerJobId : Option String := none

/-- `_automation_actor`. -/
def automationActor (revision : AutomationPolicyRevision) : String :=
  "system:automation:r" ++ toString revision.revisionNo

/-- Whether an acknowledgement of the policy was given. -/
def acknowledged (revision : AutomationPolicyRevision) (name : String) : Bool :=
  let rec get : JsonObject → Option Json
    | .nil => none
    | .cons key value members => if key = name then some value else get members
  get revision.acknowledgements == some (.bool true)

/-- The acknowledgements without which no execution is created. -/
def executionAcknowledgements (snapshot : ApprovalCandidateSnapshot) : List String :=
  ["acknowledges_seeding", "acknowledges_add_paused_only"] ++
    if hnrAcknowledgementRequired snapshot.siteId then ["acknowledges_hnr"] else []

/-- The evidence of a judgement on an execution. -/
def executionEvidence (approval : ApprovalRequest) (snapshot : ApprovalCandidateSnapshot) :
    List (String × Json) :=
  [("approval_request_id", .str approval.id),
    ("approval_snapshot_hash", .str (HexDigest.snapshot approval.snapshotHash)),
    ("launch_mode", .str "ADD_PAUSED"),
    ("hnr_known", .bool (effectiveHnrRule snapshot.siteId snapshot.hitAndRun).known)]

/-- A judgement on an execution. -/
def executionDecision (approval : ApprovalRequest) (outcome : DecisionOutcome)
    (reasonCodes : List String) (evidence : List (String × Json))
    (downloadExecutionId : Option String := none) : DecisionSpec where
  stage := .execution
  action := "CREATE_DOWNLOAD_EXECUTION"
  outcome := outcome
  approval := approval
  downloadExecutionId := downloadExecutionId
  reasonCodes := reasonCodes
  evidence := evidence

/-- The last part of `maybe_create_automatic_execution`: the decision to create the execution is
recorded, the intent is created and consumed. -/
def createAutomaticExecution (revision : AutomationPolicyRevision) (approval : ApprovalRequest)
    (evidence : List (String × Json)) (settings : Settings) (env : AutomationEnvironment) :
    DbTx (Option DownloadExecution) := do
  let executionId := env.newId 1
  let (stored, created) ← addDecisionOnce
    (buildAutomationDecision revision
      (executionDecision approval .actionCreated ["APPROVED_PLAN_ELIGIBLE"] evidence
        (some executionId.text)) (env.newId 2))
  if created = false then
    let db ← Tx.get
    let existing ← Tx.ofOption (executionOfApproval db.toTables approval.id)
      (.app (conflict "AUTOMATION_DECISION_ACTION_INCONSISTENT" "自动执行决策已存在但执行记录缺失"))
    let _ ← liftApp (verifyDownloadExecution db.toTables existing)
    return some existing
  else
    let binding : OriginBinding :=
      { actor := automationActor revision
        origin := .automation
        automationPolicyRevisionId := some revision.id
        automationDecisionId := some stored.id }
    let (intent, nonce) ← createExecutionIntent approval.id {} settings binding (env.newId 3)
      env.nonceSecret (env.clock 1)
    let (execution, _) ← executeApprovedPlan approval.id { intentId := intent.id, nonce := nonce }
      ("auto_" ++ env.keySecret) settings binding executionId (env.clock 2) env.seen
    return some execution

/-- `maybe_create_automatic_execution`. -/
def maybeCreateAutomaticExecution (approval : ApprovalRequest) (settings : Settings)
    (env : AutomationEnvironment) : DbTx (Option DownloadExecution) := do
  let (_, revision) ← getCurrentPolicy (env.newId 0) (env.clock 0)
  let snapshot ← liftApp (verifySnapshot approval)
  let evidence := executionEvidence approval snapshot
  let record (outcome : DecisionOutcome) (reasons : List String)
      (evidence : List (String × Json)) : DbTx (Option DownloadExecution) := do
    let _ ← recordStageDecision revision (executionDecision approval outcome reasons evidence)
      (env.newId 2)
    return none
  match modeOutcome revision .execution (approval.decidedAt.getD approval.requestedAt)
      settings.enableAutomationEngine with
  | some (outcome, reasons) => record outcome reasons evidence
  | none =>
      if (effectiveHnrRule snapshot.siteId snapshot.hitAndRun).known = false then
        record .manualRequired ["HNR_UNKNOWN"] evidence
      else if (executionAcknowledgements snapshot).all (acknowledged revision) = false then
        record .blocked ["AUTOMATION_EXECUTION_ACKNOWLEDGEMENTS_MISSING"] evidence
      else do
        let db ← Tx.get
        match executionOfApproval db.toTables approval.id with
        | some existing => do
            let _ ← liftApp (verifyDownloadExecution db.toTables existing)
            let _ ← recordStageDecision revision
              (executionDecision approval .noop ["DOWNLOAD_EXECUTION_ALREADY_EXISTS"] evidence
                (some existing.id)) (env.newId 2)
            return some existing
        | none => do
            let ready := settings.enableDownloadExecutionControlPlane &&
              settings.downloadExecutorEnabled && settings.enableAvistazLiveSearch &&
              env.qbConfigured && env.executorReady
            let evidence := evidence ++ [("download_executor_ready", .bool ready)]
            if ready = false then
              record .blocked ["DOWNLOAD_EXECUTOR_NOT_READY"] evidence
            else createAutomaticExecution revision approval evidence settings env

/-! ### Automatic approval -/

/-- An optional text in the evidence. -/
def optionalText (value : Option String) : Json :=
  match value with
  | some text => .str text
  | none => .null

/-- A judgement on an approval. -/
def approvalDecision (approval : ApprovalRequest) (outcome : DecisionOutcome)
    (reasonCodes : List String) (evidence : List (String × Json)) : DecisionSpec where
  stage := .approval
  action := "APPROVE_REQUEST"
  outcome := outcome
  approval := approval
  reasonCodes := reasonCodes
  evidence := evidence

/-- What `maybe_finalize_automatic_approval` comes to before it approves: the judgement to record
when it does not, and the evidence either way. -/
inductive ApprovalJudgement where
  | declined (outcome : DecisionOutcome) (reasons : List String) (evidence : List (String × Json))
  | eligible (evidence : List (String × Json))

/-- The checks of `maybe_finalize_automatic_approval`, in their order. -/
def judgeApproval (revision : AutomationPolicyRevision) (approval : ApprovalRequest)
    (settings : Settings) (env : AutomationEnvironment) : Except AppError ApprovalJudgement :=
  let evidence : List (String × Json) :=
    [("approval_request_id", .str approval.id),
      ("approval_snapshot_hash", .str (HexDigest.snapshot approval.snapshotHash)),
      ("expected_policy_revision_id", optionalText env.expectedPolicyRevisionId),
      ("trigger_job_id", optionalText env.triggerJobId)]
  if ∃ expected ∈ env.expectedPolicyRevisionId, revision.id ≠ expected then
    .ok (.declined .stale ["POLICY_REVISION_CHANGED"] evidence)
  else
    match modeOutcome revision .approval approval.requestedAt settings.enableAutomationEngine with
    | some (outcome, reasons) => .ok (.declined outcome reasons evidence)
    | none =>
        if ∃ expected ∈ env.expectedSnapshotHash, approval.snapshotHash ≠ expected then
          .ok (.declined .stale ["APPROVAL_SNAPSHOT_CHANGED"] evidence)
        else if approval.status ≠ .pending then
          .ok (.declined .noop ["APPROVAL_NOT_PENDING"]
            (evidence ++ [("approval_status", .str approval.status.value)]))
        else do
          let snapshot ← verifySnapshot approval
          if (effectiveHnrRule snapshot.siteId snapshot.hitAndRun).known = false then
            return .declined .manualRequired ["HNR_UNKNOWN"] evidence
          else
            match approval.preflightResult, approval.preflightCheckedAt with
            | some stored, some _ => do
                let preflight ← validatePreflightResult stored
                let evidence := evidence ++
                  [("preflight_checked_at", .str (Python.isoformat preflight.checkedAt)),
                    ("preflight_policy_fingerprint",
                      .str (HexDigest.policy preflight.policyFingerprint)),
                    ("preflight_status", .str preflight.overallStatus.value)]
                if preflight.overallStatus ≠ .pass then
                  return .declined .manualRequired ["AUTOMATION_PREFLIGHT_NOT_PASS"] evidence
                else return .eligible evidence
            | _, _ => return .declined .manualRequired ["PREFLIGHT_REQUIRED"] evidence

/-- The last part of `maybe_finalize_automatic_approval`: the decision is recorded, the request is
approved, and its execution is judged. -/
def approveEligible (revision : AutomationPolicyRevision) (approval : ApprovalRequest)
    (evidence : List (String × Json)) (settings : Settings) (env executionEnv : AutomationEnvironment) :
    DbTx (Option DownloadPlan) := do
  let (_, created) ← addDecisionOnce
    (buildAutomationDecision revision
      (approvalDecision approval .actionCreated ["AUTOMATION_PREFLIGHT_PASS"] evidence)
      (env.newId 1))
  if created = false then
    let db ← Tx.get
    let existing ← Tx.ofOption (planOfApproval db.toTables approval.id)
      (.app (conflict "AUTOMATION_DECISION_ACTION_INCONSISTENT" "自动批准决策已存在但下载计划缺失"))
    return some existing
  else
    let (approved, plan) ← approveRequestAutomatically approval settings
      (automationActor revision) (env.newId 2) fun n => env.clock (n + 1)
    let _ ← maybeCreateAutomaticExecution approved settings executionEnv
    return some plan

/-- `maybe_finalize_automatic_approval`; the judgement on the execution that may follow has an
environment of its own. -/
def maybeFinalizeAutomaticApproval (approval : ApprovalRequest) (settings : Settings)
    (env executionEnv : AutomationEnvironment) : DbTx (Option DownloadPlan) := do
  let (_, revision) ← getCurrentPolicy (env.newId 0) (env.clock 0)
  let judgement ← liftApp (judgeApproval revision approval settings env)
  match judgement with
  | .declined outcome reasons evidence => do
      let _ ← recordStageDecision revision (approvalDecision approval outcome reasons evidence)
        (env.newId 1)
      let db ← Tx.get
      return if outcome = .noop then planOfApproval db.toTables approval.id else none
  | .eligible evidence => approveEligible revision approval evidence settings env executionEnv

end LibSeek.Services
