/-
Rows that are changed behind the program's back.

An execution is verified before anything is done for it: its row is compared with its request, its
intent and its plan, whose rows carry digests of themselves and of each other.  This module says
which changes of one of these rows the verification lets through, after every list of steps.  The
changed row may hold any values at all, so that recomputing the digests that it carries is one of the
changes spoken of.

Main definitions:

* `ControlPlane.ApprovalIntact`, `ControlPlane.IntentIntact`, `ControlPlane.PlanIntact` — what a
  changed row must leave as it was.

Main results:

* `ControlPlane.verify_approval_iff`, `ControlPlane.verify_intent_iff`,
  `ControlPlane.verify_plan_iff` — one for each row;
* `ControlPlane.tampering_detected` — **the changes that an execution survives**, after every list of
  steps.
-/

import LibSeek.ControlPlane.AuditRuns

set_option relaxedAutoImplicit false
set_option autoImplicit false

namespace LibSeek.ControlPlane

open LibSeek.Core LibSeek.Lib LibSeek.Models LibSeek.Schemas LibSeek.Services

/-! ### What must stay -/

/-- A changed request has the candidate, the times and the pre-flight of the one before. -/
structure ApprovalIntact (a a' : ApprovalRequest) : Prop where
  mediaItemId : a'.mediaItemId = a.mediaItemId
  torrentCandidateId : a'.torrentCandidateId = a.torrentCandidateId
  candidateSnapshot : a'.candidateSnapshot = a.candidateSnapshot
  snapshotHash : a'.snapshotHash = a.snapshotHash
  requestedAt : a'.requestedAt = a.requestedAt
  expiresAt : a'.expiresAt = a.expiresAt
  preflight : a'.preflightResult.bind JsonColumn.parse = a.preflightResult.bind JsonColumn.parse

/-- A changed intent has the nonce, the bindings and the origin of the one before. -/
structure IntentIntact (i i' : ExecutionIntent) : Prop where
  nonceSha256 : i'.nonceSha256 = i.nonceSha256
  approvalSnapshotHash : i'.approvalSnapshotHash = i.approvalSnapshotHash
  planHash : i'.planHash = i.planHash
  qbTargetFingerprint : i'.qbTargetFingerprint = i.qbTargetFingerprint
  launchMode : i'.launchMode = i.launchMode
  origin : i'.origin = i.origin
  automationPolicyRevisionId : i'.automationPolicyRevisionId = i.automationPolicyRevisionId
  automationDecisionId : i'.automationDecisionId = i.automationDecisionId

/-- A changed plan has the payload and the hash of the one before. -/
structure PlanIntact (p p' : DownloadPlan) : Prop where
  payload : p'.toPlanPayload = p.toPlanPayload
  planHash : p'.planHash = p.planHash

variable [Python] {s s' : Tables} {e : DownloadExecution} {a a' : ApprovalRequest}
  {i i' : ExecutionIntent} {p p' : DownloadPlan}

/-! ### The checks on the rows -/

/-- A verification is the verification of the row, of its bindings and of its automation. -/
theorem verifyDownloadExecution_iff (hrow : verifyExecutionRow e = .ok ())
    (happroval : s.approvals.get? e.approvalId = some a)
    (hintent : s.intents.get? e.intentId = some i)
    (hplan : planOfApproval s e.approvalId = some p) :
    Services.verifyDownloadExecution s e = .ok e ↔
      verifyExecutionBinding e a i p = .ok () ∧ verifyExecutionAutomation s e a = .ok () := by
  simp only [Services.verifyDownloadExecution, bind_eq_ok, orRaise_eq_ok, pure_eq_ok, hrow,
    happroval, hintent, hplan, Option.some.injEq]
  constructor
  · rintro ⟨_, -, _, rfl, _, rfl, _, rfl, _, hbinding, _, hautomation, -⟩
    exact ⟨hbinding, hautomation⟩
  · rintro ⟨hbinding, hautomation⟩
    exact ⟨(), trivial, a, rfl, i, rfl, p, rfl, (), hbinding, (), hautomation, trivial⟩

/-- The bindings of an execution hold where each of them does. -/
theorem verifyExecutionBinding_iff :
    verifyExecutionBinding e a i p = .ok () ↔
      (∃ snapshot, verifySnapshot a = .ok snapshot) ∧ verifyDownloadPlan p a = .ok p ∧
      requireOriginBinding e.origin (some e.launchMode) e.automationPolicyRevisionId
        e.automationDecisionId = .ok () ∧
      requireOriginBinding i.origin (some i.launchMode) i.automationPolicyRevisionId
        i.automationDecisionId = .ok () ∧
      executionBound e a i p := by
  simp only [verifyExecutionBinding, bind_eq_ok, ensure_eq_ok]
  constructor
  · rintro ⟨snapshot, hsnapshot, plan, hplan, _, horigin, _, horigin', hbound⟩
    obtain rfl := verifyDownloadPlan_eq hplan
    exact ⟨⟨snapshot, hsnapshot⟩, hplan, horigin, horigin', hbound⟩
  · rintro ⟨⟨snapshot, hsnapshot⟩, hplan, horigin, horigin', hbound⟩
    exact ⟨snapshot, hsnapshot, p, hplan, (), horigin, (), horigin', hbound⟩

/-- The columns of a request that its snapshot binds are those of the snapshot. -/
theorem verifySnapshot_columns {snapshot : ApprovalCandidateSnapshot}
    (h : verifySnapshot a = .ok snapshot) :
    a.candidateSnapshot.modelValidate ApprovalCandidateSnapshot.valid = some snapshot ∧
      snapshot.mediaItemId = a.mediaItemId ∧
      snapshot.torrentCandidateId = a.torrentCandidateId ∧
      snapshot.requestedAt = a.requestedAt ∧ snapshot.expiresAt = a.expiresAt := by
  simp only [verifySnapshot, bind_eq_ok, ensure_eq_ok, orRaise_eq_ok, pure_eq_ok] at h
  obtain ⟨_, -, _, hparsed, _, hbinding, rfl⟩ := h
  exact ⟨hparsed, hbinding⟩

/-- A snapshot hash binds every column that the snapshot speaks of. -/
theorem columns_of_snapshotHash {snapshot snapshot' : ApprovalCandidateSnapshot}
    (h : verifySnapshot a = .ok snapshot) (h' : verifySnapshot a' = .ok snapshot')
    (hhash : a'.snapshotHash = a.snapshotHash) :
    a'.candidateSnapshot = a.candidateSnapshot ∧ a'.mediaItemId = a.mediaItemId ∧
      a'.torrentCandidateId = a.torrentCandidateId ∧ a'.requestedAt = a.requestedAt ∧
      a'.expiresAt = a.expiresAt := by
  have hstored : a'.candidateSnapshot = a.candidateSnapshot := by
    rw [snapshotHash_of_verifySnapshot h, snapshotHash_of_verifySnapshot h'] at hhash
    exact Digest.sha256.inj hhash
  obtain ⟨hparsed, hmedia, hcandidate, hrequested, hexpires⟩ := verifySnapshot_columns h
  obtain ⟨hparsed', hmedia', hcandidate', hrequested', hexpires'⟩ := verifySnapshot_columns h'
  rw [hstored, hparsed] at hparsed'
  obtain rfl := Option.some.inj hparsed'
  exact ⟨hstored, hmedia'.symm.trans hmedia, hcandidate'.symm.trans hcandidate,
    hrequested'.symm.trans hrequested, hexpires'.symm.trans hexpires⟩

/-- The pre-flight of a request that its plan verifies against is that of the plan. -/
theorem preflight_of_verifyDownloadPlan (h : verifyDownloadPlan p a = .ok p) :
    ∃ preflight, p.preflightResult.parse = some preflight ∧
      a.preflightResult.bind JsonColumn.parse = some preflight := by
  simp only [verifyDownloadPlan, validatePreflightResult, bind_eq_ok, ensure_eq_ok, orRaise_eq_ok]
    at h
  obtain ⟨_, -, _, -, _, -, _, -, preflight, hplan, stored, hstored, preflight', happroval, _,
    ⟨-, rfl⟩, -⟩ := h
  exact ⟨preflight, hplan, by rw [hstored]; exact happroval⟩

theorem ApprovalIntact.verifySnapshot (h : ApprovalIntact a a') :
    Services.verifySnapshot a' = Services.verifySnapshot a := by
  simp only [Services.verifySnapshot, h.candidateSnapshot, h.snapshotHash, h.mediaItemId,
    h.torrentCandidateId, h.requestedAt, h.expiresAt]

theorem ApprovalIntact.verifyDownloadPlan (h : ApprovalIntact a a') (hid : a'.id = a.id)
    (hplan : Services.verifyDownloadPlan p a = .ok p) :
    Services.verifyDownloadPlan p a' = .ok p := by
  have hpreflight : ∀ preflight, a.preflightResult.bind JsonColumn.parse = some preflight →
      ∃ stored, a'.preflightResult = some stored ∧ stored.parse = some preflight := by
    intro preflight hparse
    rw [← h.preflight] at hparse
    exact Option.bind_eq_some_iff.mp hparse
  simp only [Services.verifyDownloadPlan, validatePreflightResult, bind_eq_ok, ensure_eq_ok,
    orRaise_eq_ok, h.verifySnapshot, h.snapshotHash, hid] at hplan ⊢
  obtain ⟨snapshot, hsnapshot, _, hhash, _, hbinding, _, hcontent, preflight, hparsed, stored,
    hstored, preflight', happroval, rest⟩ := hplan
  obtain ⟨stored', hstored', hparsed'⟩ := hpreflight preflight' (by rw [hstored]; exact happroval)
  exact ⟨snapshot, hsnapshot, (), hhash, (), hbinding, (), hcontent, preflight, hparsed, stored',
    hstored', preflight', hparsed', rest⟩

theorem PlanIntact.verifyDownloadPlan (h : PlanIntact p p')
    (hplan : Services.verifyDownloadPlan p a = .ok p) :
    Services.verifyDownloadPlan p' a = .ok p' := by
  obtain ⟨payload, id, planHash⟩ := p
  obtain ⟨payload', id', planHash'⟩ := p'
  obtain ⟨rfl, rfl⟩ := h
  simp only [Services.verifyDownloadPlan, downloadPlanHash, bind_eq_ok, pure_eq_ok] at hplan ⊢
  obtain ⟨snapshot, hsnapshot, _, hhash, _, hbinding, _, hcontent, preflight, hparsed, stored,
    hstored, preflight', happroval, _, hfingerprint, tag, htag, _, hany, -⟩ := hplan
  exact ⟨snapshot, hsnapshot, (), hhash, (), hbinding, (), hcontent, preflight, hparsed, stored,
    hstored, preflight', happroval, (), hfingerprint, tag, htag, (), hany, trivial⟩

/-- The automation of an execution is judged by the policies and the decisions alone. -/
theorem verifyExecutionAutomation_same (hrevisions : s'.revisions = s.revisions)
    (hdecisions : s'.decisions = s.decisions) (h : verifyExecutionAutomation s e a = .ok ()) :
    verifyExecutionAutomation s' e a = .ok () :=
  verifyExecutionAutomation_mono (fun _ hr => hrevisions ▸ hr) (fun _ hd => hdecisions ▸ hd)
    (policies_of_revisions_eq hrevisions) h

theorem ApprovalIntact.verifyExecutionAutomation (h : ApprovalIntact a a') (hid : a'.id = a.id) :
    Services.verifyExecutionAutomation s e a' = Services.verifyExecutionAutomation s e a := by
  unfold Services.verifyExecutionAutomation
  rw [h.mediaItemId, hid]

/-! ### A changed row -/

/-- An execution of a sound database, with the rows that it is bound to. -/
structure Verified (s : Tables) (e : DownloadExecution) (a : ApprovalRequest)
    (i : ExecutionIntent) (p : DownloadPlan) : Prop where
  row : verifyExecutionRow e = .ok ()
  approval : s.approvals.get? e.approvalId = some a
  intent : s.intents.get? e.intentId = some i
  plan : planOfApproval s e.approvalId = some p
  binding : verifyExecutionBinding e a i p = .ok ()
  automation : verifyExecutionAutomation s e a = .ok ()

/-- Every execution of a sound database has its rows. -/
theorem Invariant.exists_verified (hs : Invariant s) (he : e ∈ s.executions) :
    ∃ a i p, Verified s e a i p := by
  have hverified := hs.verifyDownloadExecution he
  simp only [Services.verifyDownloadExecution, bind_eq_ok, orRaise_eq_ok, pure_eq_ok] at hverified
  obtain ⟨_, hrow, a, ha, i, hi, p, hp, _, hbinding, _, hautomation, -⟩ := hverified
  exact ⟨a, i, p, hrow, ha, hi, hp, hbinding, hautomation⟩

/-- **A changed request**: the execution verifies against it exactly where it is intact. -/
theorem verify_approval_iff (h : Verified s e a i p) (hid : a'.id = a.id) :
    Services.verifyDownloadExecution { s with approvals := s.approvals.save a' } e = .ok e ↔
      ApprovalIntact a a' := by
  obtain ⟨ha, haid⟩ := Table.get?_eq_some.mp h.approval
  obtain ⟨⟨snapshot, hsnapshot⟩, hplan, horigin, horigin', hbound⟩ :=
    verifyExecutionBinding_iff.mp h.binding
  have hget : (s.approvals.save a').get? e.approvalId = some a' := by
    rw [← haid, show Keyed.key a = Keyed.key a' from hid.symm]
    exact Table.get?_save_self _ a'
  rw [verifyDownloadExecution_iff (s := { s with approvals := s.approvals.save a' }) h.row hget
    h.intent h.plan, verifyExecutionBinding_iff]
  constructor
  · rintro ⟨⟨⟨snapshot', hsnapshot'⟩, hplan', -, -, hbound'⟩, -⟩
    have hhash : a'.snapshotHash = a.snapshotHash := hbound'.1.symm.trans hbound.1
    obtain ⟨hstored, hmedia, hcandidate, hrequested, hexpires⟩ :=
      columns_of_snapshotHash hsnapshot hsnapshot' hhash
    obtain ⟨preflight, hparsed, happroval⟩ := preflight_of_verifyDownloadPlan hplan
    obtain ⟨preflight', hparsed', happroval'⟩ := preflight_of_verifyDownloadPlan hplan'
    have hpreflight : a'.preflightResult.bind JsonColumn.parse =
        a.preflightResult.bind JsonColumn.parse := by
      rw [happroval, happroval', ← hparsed, ← hparsed']
    exact ⟨hmedia, hcandidate, hstored, hhash, hrequested, hexpires, hpreflight⟩
  · intro hintact
    refine ⟨⟨⟨snapshot, hintact.verifySnapshot.trans hsnapshot⟩,
      hintact.verifyDownloadPlan hid hplan, horigin, horigin', ?_⟩, ?_⟩
    · obtain ⟨hhash, rest⟩ := hbound
      exact ⟨hhash.trans hintact.snapshotHash.symm, rest⟩
    · rw [hintact.verifyExecutionAutomation hid]
      exact verifyExecutionAutomation_same (s := s) rfl rfl h.automation

/-- **A changed intent**: the execution verifies against it exactly where it is intact. -/
theorem verify_intent_iff (h : Verified s e a i p) (hid : i'.id = i.id) :
    Services.verifyDownloadExecution { s with intents := s.intents.save i' } e = .ok e ↔
      IntentIntact i i' := by
  obtain ⟨hi, hiid⟩ := Table.get?_eq_some.mp h.intent
  obtain ⟨hsnapshot, hplan, horigin, horigin', hbound⟩ := verifyExecutionBinding_iff.mp h.binding
  have hget : (s.intents.save i').get? e.intentId = some i' := by
    rw [← hiid, show Keyed.key i = Keyed.key i' from hid.symm]
    exact Table.get?_save_self _ i'
  rw [verifyDownloadExecution_iff (s := { s with intents := s.intents.save i' }) h.row h.approval
    hget h.plan, verifyExecutionBinding_iff]
  obtain ⟨hhash, hintentHash, hplanHash, hintentPlan, htarget, hmode, hsame, hrevision, hdecision,
    hrequest⟩ := hbound
  constructor
  · rintro ⟨⟨-, -, -, -, -, hintentHash', -, hintentPlan', htarget', hmode', hsame', hrevision',
      hdecision', hrequest'⟩, -⟩
    refine ⟨?_, hintentHash'.symm.trans hintentHash, hintentPlan'.symm.trans hintentPlan,
      htarget'.symm.trans htarget, hmode'.symm.trans hmode, hsame'.symm.trans hsame,
      hrevision'.symm.trans hrevision, hdecision'.symm.trans hdecision⟩
    have hdocument := Digest.sha256.inj (hrequest'.symm.trans hrequest)
    simp only [ExecutionRequestDocument.mk.injEq, true_and] at hdocument
    exact hdocument.1
  · intro hintact
    refine ⟨⟨hsnapshot, hplan, horigin, ?_, hhash, ?_, hplanHash, ?_, ?_, ?_, ?_, ?_, ?_, ?_⟩,
      verifyExecutionAutomation_same (s := s) rfl rfl h.automation⟩
    · rw [hintact.origin, hintact.launchMode, hintact.automationPolicyRevisionId,
        hintact.automationDecisionId]
      exact horigin'
    · exact hintentHash.trans hintact.approvalSnapshotHash.symm
    · exact hintentPlan.trans hintact.planHash.symm
    · exact htarget.trans hintact.qbTargetFingerprint.symm
    · exact hmode.trans hintact.launchMode.symm
    · exact hsame.trans hintact.origin.symm
    · exact hrevision.trans hintact.automationPolicyRevisionId.symm
    · exact hdecision.trans hintact.automationDecisionId.symm
    · rw [hintact.nonceSha256]
      exact hrequest

/-- **A changed plan**: the execution verifies against it exactly where it is intact. -/
theorem verify_plan_iff (hs : Invariant s) (h : Verified s e a i p) (hid : p'.id = p.id) :
    Services.verifyDownloadExecution { s with plans := s.plans.save p' } e = .ok e ↔
      PlanIntact p p' := by
  obtain ⟨hp, hpid⟩ := planOfApproval_some h.plan
  obtain ⟨hsnapshot, hplan, horigin, horigin', hbound⟩ := verifyExecutionBinding_iff.mp h.binding
  have hothers : ∀ q ∈ s.plans.save p', q.approvalId = e.approvalId → q = p' := by
    intro q hq hqid
    rcases Table.mem_save.mp hq with rfl | ⟨hq, hne⟩
    · rfl
    · have hsame : q = p := hs.plan_unique q hq p hp (hqid.trans hpid.symm)
      exact absurd (show Keyed.key q = Keyed.key p' by rw [hsame]; exact hid.symm) hne
  constructor
  · intro hverified
    simp only [Services.verifyDownloadExecution, bind_eq_ok, orRaise_eq_ok, pure_eq_ok] at hverified
    obtain ⟨_, -, b, hb, j, hj, q, hq, _, hbinding', -⟩ := hverified
    obtain ⟨hqmem, hqid⟩ := planOfApproval_some hq
    obtain rfl := hothers q hqmem hqid
    obtain rfl : a = b := Option.some.inj (h.approval.symm.trans hb)
    obtain ⟨-, hplan', -, -, hbound'⟩ := verifyExecutionBinding_iff.mp hbinding'
    have hhash : q.planHash = p.planHash := hbound'.2.2.1.symm.trans hbound.2.2.1
    refine ⟨?_, hhash⟩
    have hpayload := (planHash_of_verifyDownloadPlan hplan').symm.trans
      (hhash.trans (planHash_of_verifyDownloadPlan hplan))
    exact Digest.sha256.inj hpayload
  · intro hintact
    have happroval : p'.approvalId = p.approvalId := by rw [hintact.payload]
    have hget : planOfApproval { s with plans := s.plans.save p' } e.approvalId = some p' :=
      Table.find?_eq_some_of_unique (Table.mem_save_self _ _)
        (by simpa using happroval.trans hpid) fun q hq hqid => hothers q hq (by simpa using hqid)
    rw [verifyDownloadExecution_iff (s := { s with plans := s.plans.save p' }) h.row h.approval
      h.intent hget, verifyExecutionBinding_iff]
    refine ⟨⟨hsnapshot, hintact.verifyDownloadPlan hplan, horigin, horigin', ?_⟩,
      verifyExecutionAutomation_same (s := s) rfl rfl h.automation⟩
    obtain ⟨hhash, hintentHash, hplanHash, rest⟩ := hbound
    exact ⟨hhash, hintentHash, hplanHash.trans hintact.planHash.symm, rest⟩

/-! ### After every list of steps -/

variable [HexDigest]

/-- **The changes that an execution survives**: after every list of steps that find the requests as
their sessions hold them, every execution verifies, and after a change of its request, of its intent
or of its plan it does so exactly where the changed row is intact. -/
theorem tampering_detected (steps : List (Step Operation))
    (hread : HeldAsRead Operation.commit steps) (he : e ∈ (runSteps steps).executions) :
    Services.verifyDownloadExecution (runSteps steps).toTables e = .ok e ∧
      (∀ a ∈ (runSteps steps).approvals, a.id = e.approvalId → ∀ a', a'.id = a.id →
        (Services.verifyDownloadExecution
          { (runSteps steps).toTables with approvals := (runSteps steps).approvals.save a' } e =
            .ok e ↔ ApprovalIntact a a')) ∧
      (∀ i ∈ (runSteps steps).intents, i.id = e.intentId → ∀ i', i'.id = i.id →
        (Services.verifyDownloadExecution
          { (runSteps steps).toTables with intents := (runSteps steps).intents.save i' } e =
            .ok e ↔ IntentIntact i i')) ∧
      ∀ p ∈ (runSteps steps).plans, p.approvalId = e.approvalId → ∀ p', p'.id = p.id →
        (Services.verifyDownloadExecution
          { (runSteps steps).toTables with plans := (runSteps steps).plans.save p' } e = .ok e ↔
            PlanIntact p p') := by
  rw [runSteps_eq hread] at he ⊢
  have hs := invariant_run (callsOf id steps)
  obtain ⟨a, i, p, hverified⟩ := hs.exists_verified he
  refine ⟨hs.verifyDownloadExecution he, ?_, ?_, ?_⟩
  · intro b hb hbid a' hid
    obtain rfl : b = a :=
      Option.some.inj ((Table.get?_eq_some.mpr ⟨hb, hbid⟩).symm.trans hverified.approval)
    exact verify_approval_iff hverified hid
  · intro j hj hjid i' hid
    obtain rfl : j = i :=
      Option.some.inj ((Table.get?_eq_some.mpr ⟨hj, hjid⟩).symm.trans hverified.intent)
    exact verify_intent_iff hverified hid
  · intro q hq hqid p' hid
    obtain ⟨hp, hpid⟩ := planOfApproval_some hverified.plan
    obtain rfl : q = p := hs.plan_unique q hq p hp (hqid.trans hpid.symm)
    exact verify_plan_iff hs hverified hid

omit [Python] [HexDigest] in
/-- The execution of the sample does not verify once its plan names another torrent, although the
hash of the plan is that of its new payload. -/
theorem tampering_detected_sample :
    ∃ e p, e ∈ (@runSteps asciiPython zeroHexDigest confirmedSteps).executions ∧
      p ∈ (@runSteps asciiPython zeroHexDigest confirmedSteps).plans ∧
      @Services.verifyDownloadExecution asciiPython
        { (@runSteps asciiPython zeroHexDigest confirmedSteps).toTables with
          plans := (@runSteps asciiPython zeroHexDigest confirmedSteps).plans.save
            { p with
              torrentRef := "avistaz:torrent:2"
              planHash := .sha256 { p.toPlanPayload with torrentRef := "avistaz:torrent:2" } } }
        e ≠ .ok e := by
  have hany : (@runSteps asciiPython zeroHexDigest confirmedSteps).executions.rows.any (fun e =>
      (@runSteps asciiPython zeroHexDigest confirmedSteps).plans.rows.any fun p =>
        p.approvalId = e.approvalId ∧ p.torrentRef = "avistaz:torrent:1") = true := by
    decide +kernel
  obtain ⟨e, herow, hplans⟩ := List.any_eq_true.mp hany
  obtain ⟨p, hprow, hboth⟩ := List.any_eq_true.mp hplans
  obtain ⟨hid, href⟩ := of_decide_eq_true hboth
  have he := Table.mem_rows.mp herow
  have hp := Table.mem_rows.mp hprow
  refine ⟨e, p, he, hp, fun hverified => ?_⟩
  have hintact := ((@tampering_detected asciiPython e zeroHexDigest confirmedSteps (by decide +kernel)
    he).2.2.2 p hp hid
    { p with
      torrentRef := "avistaz:torrent:2"
      planHash := .sha256 { p.toPlanPayload with torrentRef := "avistaz:torrent:2" } } rfl).mp
    hverified
  have hother : "avistaz:torrent:2" = p.torrentRef := congrArg PlanPayload.torrentRef hintact.payload
  rw [href] at hother
  exact absurd hother (by decide)

end LibSeek.ControlPlane
