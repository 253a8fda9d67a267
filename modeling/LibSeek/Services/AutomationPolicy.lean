/-
The automation policy and its decisions.

The policy is a chain of revisions: each carries the hash of the one before it, and the head
points to the last.  Whoever reads the policy verifies the chain back to its first revision.  A
decision is stored once for its subject, with evidence whose digest is checked again whenever the
decision is verified.

Main definitions:

* `Services.calculatePolicyHash`, `Services.verifyPolicyRevision` — the hash of a revision, and
  the verification of the chain below it;
* `Services.bootstrapPolicy`, `Services.bindHead`, `Services.getCurrentPolicy` — reading the chain;
* `Services.publishOn`, `Services.publishPolicyRevision` — extending it;
* `Services.decisionRow`, `Services.buildAutomationDecision`, `Services.addDecisionOnce`,
  `Services.verifyAutomationDecision` — decisions.

Main results:

* `Services.verifyPolicyRevision_newDefaultPolicy` — the bootstrapped policy verifies.
-/

import LibSeek.Services.Approvals

set_option relaxedAutoImplicit false
set_option autoImplicit false

namespace LibSeek.Services

open LibSeek.Core LibSeek.Lib LibSeek.Models LibSeek.Schemas

/-! ### The chain of revisions -/

/-- `policy_hash_payload`, as `canonical_hash` encodes it: the members of its objects in the order
of their keys. -/
def policyHashPayload (terms : PolicyTerms) : PolicyTerms :=
  { terms with
    eligibilityRules := terms.eligibilityRules.canonical
    acknowledgements := terms.acknowledgements.canonical }

/-- The hash of the terms of a revision and of the hash of the revision before it. -/
def policyHashOf (terms : PolicyTerms) : Option PolicyHash → PolicyHash
  | none => .first (policyHashPayload terms)
  | some previous => .next (policyHashPayload terms) previous

/-- `calculate_policy_hash`. -/
def calculatePolicyHash (revision : AutomationPolicyRevision) : PolicyHash :=
  policyHashOf revision.toPolicyTerms revision.previousPolicyHash

/-- The revision with a number. -/
def revisionNumbered (db : Tables) (revisionNo : ℕ) : Option AutomationPolicyRevision :=
  db.revisions.rows.find? fun r => r.revisionNo = revisionNo

def policyChainInvalid : AppError :=
  conflict "AUTOMATION_POLICY_CHAIN_INVALID" "自动化策略哈希链无效"

/-- The loop of `verify_policy_revision`; `seen` are the revisions verified so far.  A revision
seen twice ends the loop, so one turn more than there are revisions is enough. -/
def verifyPolicyRevisionLoop (db : Tables) :
    ℕ → List String → AutomationPolicyRevision → Except AppError Unit
  | 0, _, _ => .error policyChainInvalid
  | fuel + 1, seen, current =>
      if current.id ∈ seen then .error policyChainInvalid
      else if calculatePolicyHash current ≠ current.policyHash then
        .error (conflict "AUTOMATION_POLICY_TAMPERED" "自动化策略完整性校验失败")
      else if current.revisionNo = 1 then
        ensure (current.previousPolicyHash = none) policyChainInvalid
      else
        match revisionNumbered db (current.revisionNo - 1) with
        | none => .error policyChainInvalid
        | some previous =>
            if current.previousPolicyHash ≠ some previous.policyHash then
              .error policyChainInvalid
            else verifyPolicyRevisionLoop db fuel (current.id :: seen) previous

/-- `verify_policy_revision`. -/
def verifyPolicyRevision (db : Tables) (revision : AutomationPolicyRevision) :
    Except AppError Unit :=
  verifyPolicyRevisionLoop db (db.revisions.rows.length + 2) [] revision

def DEFAULT_ELIGIBILITY_RULES : JsonObject :=
  .ofList [("identity_min_score", .num (1 / 2)), ("identity_min_margin", .num (1 / 10)),
    ("torrent_min_score", .num (3 / 4)), ("torrent_min_margin", .num (1 / 10)),
    ("torrent_min_seeders", .num 1)]

def DEFAULT_ACKNOWLEDGEMENTS : JsonObject :=
  .ofList [("acknowledges_hnr", .bool false), ("acknowledges_seeding", .bool false),
    ("acknowledges_plan_only", .bool false), ("acknowledges_add_paused_only", .bool false)]

/-- A revision whose hash is the one its other fields give. -/
def hashedRevision (terms : PolicyTerms) (id : String) (previous : Option PolicyHash)
    (effectiveFrom : DateTime) (createdBy : String) : AutomationPolicyRevision :=
  { terms with
    id := id
    policyHash := policyHashOf terms previous
    previousPolicyHash := previous
    effectiveFrom := effectiveFrom
    createdBy := createdBy }

/-- The revision of `_new_default_policy`. -/
def newDefaultPolicy (newId : Uuid) (now : DateTime) : AutomationPolicyRevision :=
  hashedRevision
    { revisionNo := 1
      identityMode := .manual
      torrentSelectionMode := .manual
      approvalMode := .manual
      executionMode := .manual
      eligibilityRules := DEFAULT_ELIGIBILITY_RULES
      acknowledgements := DEFAULT_ACKNOWLEDGEMENTS } newId.text none now "system:bootstrap"

/-- The bootstrapped policy verifies in every database. -/
theorem verifyPolicyRevision_newDefaultPolicy (s : Tables) (newId : Uuid) (now : DateTime) :
    verifyPolicyRevision s (newDefaultPolicy newId now) = .ok () := by
  simp [verifyPolicyRevision, verifyPolicyRevisionLoop, newDefaultPolicy, hashedRevision,
    calculatePolicyHash]

/-- Whether a revision can be inserted: its identifier, its number and its hash are new. -/
def revisionIsNew (db : Tables) (revision : AutomationPolicyRevision) : Bool :=
  (db.revisions.get? revision.id).isNone &&
    db.revisions.rows.all fun r =>
      r.revisionNo != revision.revisionNo && r.policyHash != revision.policyHash

/-- Writing a revision together with the head that points to it. -/
def saveRevision (revision : AutomationPolicyRevision) (version : ℕ) : DbTx Unit :=
  Tx.modify fun db =>
    { db with
      revisions := db.revisions.save revision
      head := some { currentRevisionId := revision.id, version } }

/-- The part of `get_current_policy` where there is no head yet: the default policy is inserted. -/
def bootstrapPolicy (newId : Uuid) (now : DateTime) :
    DbTx (AutomationPolicyHead × AutomationPolicyRevision) := do
  let db ← Tx.get
  let revision := newDefaultPolicy newId now
  requireApp (revisionIsNew db.toTables revision = true)
    { errorCode := "AUTOMATION_POLICY_NOT_INITIALIZED"
      message := "自动化策略尚未完成初始化"
      statusCode := 503 }
  saveRevision revision 1
  return ({ currentRevisionId := revision.id, version := 1 }, revision)

/-- The part of `get_current_policy` after a head has been read. -/
def bindHead (head : AutomationPolicyHead) :
    DbTx (AutomationPolicyHead × AutomationPolicyRevision) := do
  let db ← Tx.get
  let currentRevision ← Tx.ofOption (db.revisions.get? head.currentRevisionId)
    (.app (conflict "AUTOMATION_POLICY_HEAD_INVALID" "自动化策略当前版本绑定无效"))
  liftApp (verifyPolicyRevision db.toTables currentRevision)
  requireApp (head.version = currentRevision.revisionNo)
    (conflict "AUTOMATION_POLICY_HEAD_INVALID" "自动化策略版本指针不一致")
  return (head, currentRevision)

/-- `get_current_policy`.  The constraints that stop the default policy from being inserted are those
of a concurrent initialisation, after which the head is read again. -/
def getCurrentPolicy (newId : Uuid) (now : DateTime) :
    DbTx (AutomationPolicyHead × AutomationPolicyRevision) := do
  let db ← Tx.get
  match db.head with
  | none => bootstrapPolicy newId now
  | some head => bindHead head

/-- `AutomationPolicyRevisionCreateRequest`. -/
structure PolicyRevisionRequest where
  baseRevisionNo : ℕ
  identityMode : AutomationMode
  torrentSelectionMode : AutomationMode
  approvalMode : AutomationMode
  executionMode : AutomationMode
  identityMinScore : Rat
  identityMinMargin : Rat
  torrentMinScore : Rat
  torrentMinMargin : Rat
  torrentMinSeeders : Int
  acknowledgesHnr : Bool
  acknowledgesSeeding : Bool
  acknowledgesPlanOnly : Bool
  acknowledgesAddPausedOnly : Bool

/-- The acknowledgements that a request lacks. -/
def missingAcknowledgements (r : PolicyRevisionRequest) : List String :=
  let required :=
    (if r.approvalMode = .autoIfEligible then
      [("acknowledges_hnr", r.acknowledgesHnr), ("acknowledges_seeding", r.acknowledgesSeeding),
        ("acknowledges_plan_only", r.acknowledgesPlanOnly)] else []) ++
    (if r.executionMode = .autoIfEligible then
      [("acknowledges_hnr", r.acknowledgesHnr), ("acknowledges_seeding", r.acknowledgesSeeding),
        ("acknowledges_add_paused_only", r.acknowledgesAddPausedOnly)] else [])
  ((required.filter fun a => !a.2).map Prod.fst).eraseDups

/-- The revision that a request publishes after another one. -/
def publishedRevision (request : PolicyRevisionRequest) (actor : String) (newId : Uuid)
    (now : DateTime) (current : AutomationPolicyRevision) : AutomationPolicyRevision :=
  hashedRevision
    { revisionNo := current.revisionNo + 1
      identityMode := request.identityMode
      torrentSelectionMode := request.torrentSelectionMode
      approvalMode := request.approvalMode
      executionMode := request.executionMode
      eligibilityRules := .ofList
        [("identity_min_score", .num request.identityMinScore),
          ("identity_min_margin", .num request.identityMinMargin),
          ("torrent_min_score", .num request.torrentMinScore),
          ("torrent_min_margin", .num request.torrentMinMargin),
          ("torrent_min_seeders", .num request.torrentMinSeeders)]
      acknowledgements := .ofList
        [("acknowledges_hnr", .bool request.acknowledgesHnr),
          ("acknowledges_seeding", .bool request.acknowledgesSeeding),
          ("acknowledges_plan_only", .bool request.acknowledgesPlanOnly),
          ("acknowledges_add_paused_only", .bool request.acknowledgesAddPausedOnly)] }
    newId.text (some current.policyHash) now actor

/-- The part of `publish_policy_revision` after the current policy has been read. -/
def publishOn (request : PolicyRevisionRequest) (actor : String) (newId : Uuid) (now : DateTime)
    (policy : AutomationPolicyHead × AutomationPolicyRevision) :
    DbTx (AutomationPolicyHead × AutomationPolicyRevision) := do
  let (head, current) := policy
  requireApp (request.baseRevisionNo = current.revisionNo)
    { conflict "AUTOMATION_POLICY_REVISION_CONFLICT" "自动化策略已被其他管理员更新" with
      details := [("current_revision_no", .int current.revisionNo)] }
  requireApp (missingAcknowledgements request = [])
    { conflict "AUTOMATION_ACKNOWLEDGEMENTS_REQUIRED" "启用自动审批或执行前必须确认相关责任边界" with
      details := [("missing", .list (missingAcknowledgements request))] }
  let revision := publishedRevision request actor newId now current
  let db ← Tx.get
  Tx.require (revisionIsNew db.toTables revision = true) .integrity
  saveRevision revision (head.version + 1)
  return ({ currentRevisionId := revision.id, version := head.version + 1 }, revision)

/-- `publish_policy_revision`. -/
def publishPolicyRevision (request : PolicyRevisionRequest) (actor : String)
    (newIds : Uuid × Uuid) (clock : ℕ → DateTime) :
    DbTx (AutomationPolicyHead × AutomationPolicyRevision) := do
  let policy ← getCurrentPolicy newIds.1 (clock 0)
  publishOn request actor newIds.2 (clock 1) policy

/-! ### Decisions -/

/-- `canonical_hash`: the digest of a document in its canonical form. -/
def canonicalHash (value : Json) : Digest Json :=
  .sha256 value.canonical

/-- `stage_mode`. -/
def stageMode (revision : AutomationPolicyRevision) : AutomationStage → AutomationMode
  | .identity => revision.identityMode
  | .torrentSelection => revision.torrentSelectionMode
  | .approval => revision.approvalMode
  | .execution => revision.executionMode

/-- `require_stage_not_disabled`. -/
def requireStageNotDisabled (stage : AutomationStage) (newId : Uuid) (now : DateTime) :
    DbTx AutomationPolicyRevision := do
  let (_, revision) ← getCurrentPolicy newId now
  requireApp (stageMode revision stage ≠ .disabled)
    { conflict "AUTOMATION_STAGE_DISABLED" "当前自动化策略已禁用该阶段的正向操作" with
      details := [("stage", .str stage.value), ("revision_no", .int revision.revisionNo)] }
  return revision

/-- `_mode_outcome`. -/
def modeOutcome (revision : AutomationPolicyRevision) (stage : AutomationStage)
    (subjectCreatedAt : DateTime) (engineEnabled : Bool) :
    Option (DecisionOutcome × List String) :=
  if subjectCreatedAt < revision.effectiveFrom then some (.stale, ["SUBJECT_PREDATES_POLICY"])
  else
    match stageMode revision stage with
    | .disabled => some (.disabled, ["POLICY_STAGE_DISABLED"])
    | .manual => some (.manualRequired, ["POLICY_REQUIRES_MANUAL_ACTION"])
    | .autoIfEligible =>
        if engineEnabled then none else some (.blocked, ["AUTOMATION_ENGINE_DISABLED"])

/-- `calculate_decision_dedupe_key`. -/
def calculateDecisionDedupeKey (d : AutomationDecision) : Digest DecisionSubject :=
  .sha256
    { version := 2
      policyRevisionId := d.policyRevisionId
      stage := d.stage
      action := d.action
      outcome := d.outcome
      mediaItemId := d.mediaItemId
      metadataMatchId := d.metadataMatchId
      torrentCandidateId := d.torrentCandidateId
      approvalRequestId := d.approvalRequestId }

variable [Python]

/-- `verify_automation_decision`. -/
def verifyAutomationDecision (d : AutomationDecision) : Except AppError Unit := do
  ensure (canonicalHash (sanitizeDetails d.evidenceSnapshot) = d.evidenceHash)
    (conflict "AUTOMATION_DECISION_TAMPERED" "自动化决策证据完整性校验失败")
  ensure (calculateDecisionDedupeKey d = d.dedupeKey)
    (conflict "AUTOMATION_DECISION_BINDING_INVALID" "自动化决策去重绑定完整性校验失败")

/-- The arguments of `build_automation_decision`. -/
structure DecisionArguments where
  stage : AutomationStage
  action : String
  outcome : DecisionOutcome
  mediaItemId : String
  reasonCodes : List String
  evidence : JsonObject
  metadataMatchId : Option String := none
  torrentCandidateId : Option String := none
  approvalRequestId : Option String := none
  downloadExecutionId : Option String := none

/-- The row that `build_automation_decision` constructs. -/
def decisionRow (revision : AutomationPolicyRevision) (arguments : DecisionArguments)
    (newId : Uuid) : AutomationDecision :=
  let safeEvidence := sanitizeDetails (.object arguments.evidence)
  let decision : AutomationDecision :=
    { id := newId.text
      policyRevisionId := revision.id
      stage := arguments.stage
      action := arguments.action
      outcome := arguments.outcome
      mediaItemId := arguments.mediaItemId
      metadataMatchId := arguments.metadataMatchId
      torrentCandidateId := arguments.torrentCandidateId
      approvalRequestId := arguments.approvalRequestId
      downloadExecutionId := arguments.downloadExecutionId
      reasonCodes := arguments.reasonCodes.eraseDups
      evidenceSnapshot := safeEvidence
      evidenceHash := canonicalHash safeEvidence
      dedupeKey := .raw ""
      actor := "system:automation" }
  { decision with dedupeKey := calculateDecisionDedupeKey decision }

/-- What the caller of `build_automation_decision` says of a decision on an approval. -/
structure DecisionSpec where
  stage : AutomationStage
  action : String
  outcome : DecisionOutcome
  approval : ApprovalRequest
  downloadExecutionId : Option String := none
  reasonCodes : List String
  evidence : List (String × Json)

omit [Python] in
/-- The arguments of a decision on an approval. -/
def DecisionSpec.arguments (spec : DecisionSpec) : DecisionArguments where
  stage := spec.stage
  action := spec.action
  outcome := spec.outcome
  mediaItemId := spec.approval.mediaItemId
  reasonCodes := spec.reasonCodes
  evidence := .ofList spec.evidence
  approvalRequestId := some spec.approval.id
  downloadExecutionId := spec.downloadExecutionId

/-- `build_automation_decision`, for a decision on an approval; its reason codes are fixed texts
of the required shape. -/
def buildAutomationDecision (revision : AutomationPolicyRevision) (spec : DecisionSpec)
    (newId : Uuid) : AutomationDecision :=
  decisionRow revision spec.arguments newId

omit [Python] in
/-- The decision on a subject. -/
def decisionOn (db : Tables) (dedupeKey : Digest DecisionSubject) : Option AutomationDecision :=
  db.decisions.rows.find? fun d => d.dedupeKey = dedupeKey

omit [Python] in
/-- `add_decision_once`: the stored decision on the subject, and whether it is the new one. -/
def addDecisionOnce (decision : AutomationDecision) : DbTx (AutomationDecision × Bool) := do
  let db ← Tx.get
  match decisionOn db.toTables decision.dedupeKey with
  | some existing => return (existing, false)
  | none =>
      Tx.require (db.decisions.get? decision.id = none) .integrity
      Tx.modify fun db => { db with decisions := db.decisions.save decision }
      return (decision, true)

/-- `_record_stage_decision`. -/
def recordStageDecision (revision : AutomationPolicyRevision) (spec : DecisionSpec)
    (newId : Uuid) : DbTx AutomationDecision := do
  let (stored, _) ← addDecisionOnce (buildAutomationDecision revision spec newId)
  return stored

end LibSeek.Services
