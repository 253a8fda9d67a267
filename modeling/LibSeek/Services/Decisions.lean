/-
What is recorded of a judgement.

A decision carries two digests: that of its redacted evidence, and the key of its subject, under
which it is stored once.  Between them they cover the policy, the stage, the action, the outcome,
the entities that were judged and the evidence.  The execution that a decision creates is not
covered: the row of the execution names the decision, and its own verification compares the two.

Main definitions:

* `Services.buildDecision` — `build_automation_decision`, for a decision on any entity;
* `Services.decisionSubject` — what the key of a decision is the digest of;
* `Services.DecisionAltered` — a decision in which something covered by a digest was changed.

Main results:

* `Services.buildDecision_spec` — a decision on an approval is the case of it that the other
  modules use;
* `Services.verifyAutomationDecision_iff` — **when a decision verifies**;
* `Services.verifyAutomationDecision_altered` — a decision that was altered does not verify, nor
  does an automatic execution whose decision names another execution.
-/

import LibSeek.Services.Executions
import LibSeek.Services.PreflightVerdicts

set_option relaxedAutoImplicit false
set_option autoImplicit false

namespace LibSeek.Services

open LibSeek.Core LibSeek.Lib LibSeek.Models LibSeek.Schemas

/-! ### Building a decision -/

/-- `_REASON_CODE`: `^[A-Z][A-Z0-9_]{1,79}$`. -/
def isReasonCode (reason : String) : Bool :=
  isCheckCode reason

/-- The subject of a decision. -/
def decisionSubject (d : AutomationDecision) : DecisionSubject where
  version := 2
  policyRevisionId := d.policyRevisionId
  stage := d.stage
  action := d.action
  outcome := d.outcome
  mediaItemId := d.mediaItemId
  metadataMatchId := d.metadataMatchId
  torrentCandidateId := d.torrentCandidateId
  approvalRequestId := d.approvalRequestId

section

variable [Python]

/-- `build_automation_decision`.  Redaction leaves an object an object, so that the first of its
two checks never fails. -/
def buildDecision (revision : AutomationPolicyRevision) (arguments : DecisionArguments)
    (newId : Uuid) : Except Exn AutomationDecision := do
  let uniqueReasons := arguments.reasonCodes.eraseDups
  ensure (uniqueReasons ≠ [] ∧ uniqueReasons.all isReasonCode = true) (.other "ValueError")
  return decisionRow revision arguments newId

theorem buildDecision_eq_ok {revision : AutomationPolicyRevision} {arguments : DecisionArguments}
    {newId : Uuid} {d : AutomationDecision} :
    buildDecision revision arguments newId = .ok d ↔
      (arguments.reasonCodes.eraseDups ≠ [] ∧
        arguments.reasonCodes.eraseDups.all isReasonCode = true) ∧
      decisionRow revision arguments newId = d := by
  simp only [buildDecision, bind_eq_ok, ensure_eq_ok, pure_eq_ok]
  constructor
  · rintro ⟨_, hcodes, hrow⟩
    exact ⟨hcodes, hrow⟩
  · rintro ⟨hcodes, hrow⟩
    exact ⟨(), hcodes, hrow⟩

/-- **A decision on an approval** is the row that is built for its arguments, where its reason
codes have the required shape. -/
theorem buildDecision_spec (revision : AutomationPolicyRevision) (spec : DecisionSpec)
    (newId : Uuid) (hcodes : spec.reasonCodes.eraseDups ≠ [] ∧
      spec.reasonCodes.eraseDups.all isReasonCode = true) :
    buildDecision revision spec.arguments newId =
      .ok (buildAutomationDecision revision spec newId) :=
  buildDecision_eq_ok.mpr ⟨hcodes, rfl⟩

/-! ### What the digests of a decision cover -/

omit [Python] in
theorem calculateDecisionDedupeKey_eq (d : AutomationDecision) :
    calculateDecisionDedupeKey d = .sha256 (decisionSubject d) :=
  rfl

/-- **When a decision verifies**: its two digests are those of its redacted evidence and of its
subject. -/
theorem verifyAutomationDecision_iff {d : AutomationDecision} :
    verifyAutomationDecision d = .ok () ↔
      d.evidenceHash = canonicalHash (sanitizeDetails d.evidenceSnapshot) ∧
        d.dedupeKey = .sha256 (decisionSubject d) := by
  simp only [verifyAutomationDecision, bind_eq_ok, ensure_eq_ok, calculateDecisionDedupeKey_eq]
  constructor
  · rintro ⟨_, hevidence, hkey⟩
    exact ⟨hevidence.symm, (ensure_eq_ok.mp hkey).symm⟩
  · rintro ⟨hevidence, hkey⟩
    exact ⟨(), hevidence.symm, ensure_eq_ok.mpr hkey.symm⟩

/-- A decision in which something that a digest covers is not what it was: its evidence is compared
in its redacted form, as an object. -/
inductive DecisionAltered (d d' : AutomationDecision) : Prop
  | policyRevisionId (h : d'.policyRevisionId ≠ d.policyRevisionId)
  | stage (h : d'.stage ≠ d.stage)
  | action (h : d'.action ≠ d.action)
  | outcome (h : d'.outcome ≠ d.outcome)
  | mediaItemId (h : d'.mediaItemId ≠ d.mediaItemId)
  | metadataMatchId (h : d'.metadataMatchId ≠ d.metadataMatchId)
  | torrentCandidateId (h : d'.torrentCandidateId ≠ d.torrentCandidateId)
  | approvalRequestId (h : d'.approvalRequestId ≠ d.approvalRequestId)
  | evidence (h : (sanitizeDetails d'.evidenceSnapshot).canonical ≠
      (sanitizeDetails d.evidenceSnapshot).canonical)

/-- Decisions of one subject and with one redacted evidence are not alterations of each other. -/
theorem DecisionAltered.not_same {d d' : AutomationDecision} (h : DecisionAltered d d')
    (hsubject : decisionSubject d' = decisionSubject d) :
    canonicalHash (sanitizeDetails d'.evidenceSnapshot) ≠
      canonicalHash (sanitizeDetails d.evidenceSnapshot) := by
  simp only [decisionSubject, DecisionSubject.mk.injEq] at hsubject
  obtain ⟨-, hrevision, hstage, haction, houtcome, hmedia, hmatch, hcandidate, happroval⟩ :=
    hsubject
  cases h with
  | policyRevisionId h => exact absurd hrevision h
  | stage h => exact absurd hstage h
  | action h => exact absurd haction h
  | outcome h => exact absurd houtcome h
  | mediaItemId h => exact absurd hmedia h
  | metadataMatchId h => exact absurd hmatch h
  | torrentCandidateId h => exact absurd hcandidate h
  | approvalRequestId h => exact absurd happroval h
  | evidence h => exact fun heq => h (Digest.sha256_inj.mp heq)

/-- An altered decision with the digests of the decision it was does not verify. -/
theorem DecisionAltered.not_verified {d d' : AutomationDecision} (h : DecisionAltered d d')
    (hd : verifyAutomationDecision d = .ok ()) (hevidence : d'.evidenceHash = d.evidenceHash)
    (hkey : d'.dedupeKey = d.dedupeKey) : verifyAutomationDecision d' ≠ .ok () := by
  intro hd'
  obtain ⟨hevidence₁, hkey₁⟩ := verifyAutomationDecision_iff.mp hd
  obtain ⟨hevidence₂, hkey₂⟩ := verifyAutomationDecision_iff.mp hd'
  have hsubject : decisionSubject d' = decisionSubject d :=
    Digest.sha256_inj.mp (hkey₂.symm.trans (hkey.trans hkey₁))
  exact h.not_same hsubject (hevidence₂.symm.trans (hevidence.trans hevidence₁))

omit [Python] in
/-- A computation that does not end in a value ends in an error. -/
theorem exists_error_of_ne_ok {α : Type} {x : Except AppError α} (h : ∀ a, x ≠ .ok a) :
    ∃ error, x = .error error := by
  cases x with
  | error error => exact ⟨error, rfl⟩
  | ok a => exact absurd rfl (h a)

/-- The decision of an automatic execution that verifies names the execution. -/
theorem downloadExecutionId_of_verified {s : Tables} {e x : DownloadExecution}
    {d : AutomationDecision} (h : verifyDownloadExecution s e = .ok x)
    (horigin : e.origin = .automation) (hdecision : e.automationDecisionId = some d.id)
    (hd : s.decisions.get? d.id = some d) : d.downloadExecutionId = some e.id := by
  simp only [verifyDownloadExecution, bind_eq_ok, orRaise_eq_ok] at h
  obtain ⟨_, -, approval, -, _, -, _, -, _, -, _, hautomation, -⟩ := h
  simp only [verifyExecutionAutomation, if_pos horigin, bind_eq_ok, orRaise_eq_ok,
    ensure_eq_ok, hdecision, Option.bind_some] at hautomation
  obtain ⟨_, -, d', hd', _, -, _, -, hbound⟩ := hautomation
  obtain rfl : d = d' := Option.some.inj (hd.symm.trans hd')
  exact hbound.2.2.2.2.2.2

/-- **An altered decision does not verify**, with the digests of the decision it was.  Where the
execution it names is altered, the automatic execution that is bound to it does not verify. -/
theorem verifyAutomationDecision_altered {d d' : AutomationDecision}
    (hd : verifyAutomationDecision d = .ok ()) (hevidence : d'.evidenceHash = d.evidenceHash)
    (hkey : d'.dedupeKey = d.dedupeKey) :
    (DecisionAltered d d' → ∃ error, verifyAutomationDecision d' = .error error) ∧
      ∀ (s : Tables) (e : DownloadExecution), s.decisions.get? d.id = some d →
        verifyDownloadExecution s e = .ok e → e.origin = .automation →
        e.automationDecisionId = some d.id → d'.id = d.id →
        d'.downloadExecutionId ≠ d.downloadExecutionId →
        ∃ error, verifyDownloadExecution { s with decisions := s.decisions.save d' } e =
          .error error := by
  refine ⟨fun haltered => ?_, fun s e hstored he horigin hbound hid hother => ?_⟩
  · exact exists_error_of_ne_ok fun _ => haltered.not_verified hd hevidence hkey
  · refine exists_error_of_ne_ok fun x hx => hother ?_
    have hold : d.downloadExecutionId = some e.id :=
      downloadExecutionId_of_verified he horigin hbound hstored
    have hbound' : e.automationDecisionId = some d'.id := hid ▸ hbound
    have hnew : d'.downloadExecutionId = some e.id :=
      downloadExecutionId_of_verified hx horigin hbound' (Table.get?_save_self _ _)
    rw [hold, hnew]

end

/-! ### An automatic execution -/

/-- The identifiers of the rows of one execution, by their last digit. -/
def rowId (digit : Fin 10) : Uuid where
  text := "00000000-0000-4000-8000-00000000000" ++ toString digit.val
  shape := by revert digit; decide

/-- The request of the clean candidate, after its approval on the result of a pre-flight. -/
def approvedRequest (preflight : PreflightResult) : ApprovalRequest where
  id := (rowId 0).text
  mediaItemId := cleanSnapshot.mediaItemId
  torrentCandidateId := cleanSnapshot.torrentCandidateId
  status := .approved
  candidateSnapshot := .dump cleanSnapshot
  snapshotHash := snapshotHash (.dump cleanSnapshot)
  requestedBy := "operator"
  requestedAt := cleanSnapshot.requestedAt
  expiresAt := cleanSnapshot.expiresAt
  decidedAt := some 0
  preflightResult := some (.dump preflight)
  preflightCheckedAt := some preflight.checkedAt

section

variable [Python]

/-- Its plan. -/
def approvedPlan (preflight : PreflightResult) : DownloadPlan :=
  planOf (approvedRequest preflight) cleanSnapshot preflight cleanSettings "movies" ["Media"]
    (rowId 1)

omit [Python] in
/-- The bootstrapped policy. -/
def bootstrappedPolicy : AutomationPolicyRevision :=
  newDefaultPolicy (rowId 2) 0

/-- The decision to create an execution for it. -/
def creatingDecision : AutomationDecision :=
  decisionRow bootstrappedPolicy
    { stage := .execution
      action := "CREATE_DOWNLOAD_EXECUTION"
      outcome := .actionCreated
      mediaItemId := cleanSnapshot.mediaItemId
      reasonCodes := ["APPROVED_PLAN_ELIGIBLE"]
      evidence := .ofList [("launch_mode", .str "ADD_PAUSED"), ("hnr_known", .bool true)]
      approvalRequestId := some (rowId 0).text
      downloadExecutionId := some (rowId 5).text } (rowId 3)

/-- The intent of the execution. -/
def consumedIntent (preflight : PreflightResult) : ExecutionIntent where
  id := (rowId 4).text
  approvalId := (rowId 0).text
  nonceSha256 := .sha256 "nonce"
  approvalSnapshotHash := (approvedRequest preflight).snapshotHash
  planHash := (approvedPlan preflight).planHash
  qbTargetFingerprint := .raw ("".pushn '0' 64)
  launchMode := .addPaused
  origin := .automation
  automationPolicyRevisionId := some (rowId 2).text
  automationDecisionId := some (rowId 3).text
  status := .consumed
  createdBy := "system:automation:r1"
  expiresAt := 600000000
  consumedAt := some 0
  consumedBy := some "system:automation:r1"

/-- The execution. -/
def pendingExecution (preflight : PreflightResult) : DownloadExecution where
  id := (rowId 5).text
  approvalId := (rowId 0).text
  intentId := (rowId 4).text
  idempotencyKeySha256 := .sha256 "auto_key"
  requestHash := executionRequestHash (rowId 0).text (rowId 4).text (.sha256 "nonce")
    (.sha256 "auto_key") .automation (some (rowId 2).text) (some (rowId 3).text)
  approvalSnapshotHash := (approvedRequest preflight).snapshotHash
  planHash := (approvedPlan preflight).planHash
  qbTargetFingerprint := .raw ("".pushn '0' 64)
  launchMode := .addPaused
  origin := .automation
  automationPolicyRevisionId := some (rowId 2).text
  automationDecisionId := some (rowId 3).text
  status := .pending
  attempts := 0
  maxAttempts := 3
  nextRetryAt := none
  lockedAt := none
  lockedBy := none
  leaseToken := none
  actualInfoHash := none
  actualInfoHashV1 := none
  actualInfoHashV2 := none
  actualSizeBytes := none
  actualFileCount := none
  validatedAt := none
  submittedAt := none
  verifiedAt := none
  errorCode := none
  errorMessage := none
  requestedBy := "system:automation:r1"
  requestedAt := 0
  reconciliationRequestedBy := none
  reconciliationRequestedAt := none
  reconciliationReason := none
  createdAt := 0

/-- The tables that hold these rows. -/
def executionTables (preflight : PreflightResult) : Tables where
  approvals := (∅ : Table ApprovalRequest).save (approvedRequest preflight)
  plans := (∅ : Table DownloadPlan).save (approvedPlan preflight)
  intents := (∅ : Table ExecutionIntent).save (consumedIntent preflight)
  executions := (∅ : Table DownloadExecution).save (pendingExecution preflight)
  revisions := (∅ : Table AutomationPolicyRevision).save bootstrappedPolicy
  head := some { currentRevisionId := bootstrappedPolicy.id, version := 1 }
  decisions := (∅ : Table AutomationDecision).save creatingDecision

end

theorem verifyAutomationDecision_creating :
    @verifyAutomationDecision asciiPython (@creatingDecision asciiPython) = .ok () := by
  decide +kernel

/-- The execution verifies among them. -/
theorem verifyDownloadExecution_pending (preflight : PreflightResult) :
    @verifyDownloadExecution asciiPython (@executionTables asciiPython preflight)
      (@pendingExecution asciiPython preflight) =
        .ok (@pendingExecution asciiPython preflight) := by
  let _ := asciiPython
  have hrow : verifyExecutionRow (pendingExecution preflight) = .ok () := by rfl
  have hvalid : cleanSnapshot.valid = true := by decide +kernel
  have hsnapshot : verifySnapshot (approvedRequest preflight) = .ok cleanSnapshot :=
    bind_eq_ok.mpr ⟨(), ensure_eq_ok.mpr rfl, bind_eq_ok.mpr ⟨cleanSnapshot,
      orRaise_eq_ok.mpr (JsonColumn.modelValidate_dump hvalid), bind_eq_ok.mpr ⟨(),
        ensure_eq_ok.mpr ⟨rfl, rfl, rfl, rfl⟩, rfl⟩⟩⟩
  have href : validateInternalTorrentRef cleanSnapshot.torrentRef = true := by decide +kernel
  have hsite : torrentRefMatchesSite cleanSnapshot.torrentRef cleanSnapshot.siteId = true := by
    decide +kernel
  have htags : ["Media"].any (fun tag => casefold tag = casefold "Media") = true := by
    decide +kernel
  have htag : mediaTitleQbTag cleanSnapshot.mediaTitle = .ok "Media" := by decide +kernel
  have hplan : verifyDownloadPlan (approvedPlan preflight) (approvedRequest preflight) =
      .ok (approvedPlan preflight) := by
    refine bind_eq_ok.mpr ⟨_, hsnapshot, bind_eq_ok.mpr ⟨(), ensure_eq_ok.mpr rfl,
      bind_eq_ok.mpr ⟨(), ensure_eq_ok.mpr ⟨rfl, rfl⟩, bind_eq_ok.mpr ⟨(), ensure_eq_ok.mpr ?_,
        bind_eq_ok.mpr ⟨preflight, rfl, bind_eq_ok.mpr ⟨_, rfl, bind_eq_ok.mpr ⟨preflight, rfl,
          bind_eq_ok.mpr ⟨(), ensure_eq_ok.mpr ⟨rfl, rfl⟩, bind_eq_ok.mpr ⟨_, htag,
            bind_eq_ok.mpr ⟨(), ensure_eq_ok.mpr htags, rfl⟩⟩⟩⟩⟩⟩⟩⟩⟩⟩
    exact ⟨href, hsite, by simp [approvedPlan, planOf]⟩
  have hbinding : verifyExecutionBinding (pendingExecution preflight) (approvedRequest preflight)
      (consumedIntent preflight) (approvedPlan preflight) = .ok () :=
    bind_eq_ok.mpr ⟨_, hsnapshot, bind_eq_ok.mpr ⟨_, hplan, bind_eq_ok.mpr ⟨(), rfl,
      bind_eq_ok.mpr ⟨(), rfl, ensure_eq_ok.mpr ⟨rfl, rfl, rfl, rfl, rfl, rfl, rfl, rfl, rfl,
        rfl⟩⟩⟩⟩⟩
  have hautomation : verifyExecutionAutomation (executionTables preflight)
      (pendingExecution preflight) (approvedRequest preflight) = .ok () := by
    have horigin : (pendingExecution preflight).origin = .automation := rfl
    rw [verifyExecutionAutomation, if_pos horigin]
    exact bind_eq_ok.mpr ⟨bootstrappedPolicy, rfl, bind_eq_ok.mpr ⟨creatingDecision, rfl,
      bind_eq_ok.mpr ⟨(), verifyPolicyRevision_newDefaultPolicy _ (rowId 2) 0,
        bind_eq_ok.mpr ⟨(), verifyAutomationDecision_creating,
          ensure_eq_ok.mpr ⟨rfl, rfl, rfl, rfl, rfl, rfl, rfl⟩⟩⟩⟩⟩
  exact bind_eq_ok.mpr ⟨(), hrow, bind_eq_ok.mpr ⟨_, rfl, bind_eq_ok.mpr ⟨_, rfl,
    bind_eq_ok.mpr ⟨approvedPlan preflight, rfl, bind_eq_ok.mpr ⟨(), hbinding,
      bind_eq_ok.mpr ⟨(), hautomation, rfl⟩⟩⟩⟩⟩⟩

/-- Of the decision, with another stage and with another execution: the first does not verify, and
with the second the execution does not. -/
theorem verifyAutomationDecision_altered_creating :
    (∃ error, @verifyAutomationDecision asciiPython
      { @creatingDecision asciiPython with stage := .approval } = .error error) ∧
    ∃ preflight error, @verifyDownloadExecution asciiPython
      { @executionTables asciiPython preflight with
        decisions := (@executionTables asciiPython preflight).decisions.save
          { @creatingDecision asciiPython with downloadExecutionId := some "other" } }
      (@pendingExecution asciiPython preflight) = .error error := by
  let _ := asciiPython
  obtain ⟨preflight, -⟩ := evaluatePreflight_isOk preflightPolicyFingerprint_clean cleanReplies
    cleanSnapshot 0
  have hstage : DecisionAltered creatingDecision { creatingDecision with stage := .approval } :=
    .stage (by decide)
  refine ⟨(@verifyAutomationDecision_altered asciiPython creatingDecision
    { creatingDecision with stage := .approval } verifyAutomationDecision_creating rfl rfl).1
    hstage, preflight, ?_⟩
  exact (@verifyAutomationDecision_altered asciiPython creatingDecision
    { creatingDecision with downloadExecutionId := some "other" }
    verifyAutomationDecision_creating rfl rfl).2 (executionTables preflight)
    (pendingExecution preflight) rfl (verifyDownloadExecution_pending preflight) rfl rfl rfl
    (by decide)

/-- **The decision verifies with another execution**, whose identifier neither digest covers. -/
theorem verifyAutomationDecision_otherExecution :
    @verifyAutomationDecision asciiPython (@creatingDecision asciiPython) = .ok () ∧
      @verifyAutomationDecision asciiPython
        { @creatingDecision asciiPython with downloadExecutionId := some "other" } = .ok () ∧
      (@creatingDecision asciiPython).downloadExecutionId ≠ some "other" :=
  ⟨verifyAutomationDecision_creating, verifyAutomationDecision_creating, by decide⟩

end LibSeek.Services
