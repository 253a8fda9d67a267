/-
The automatic judgements are changes of the protocol.

An execution that the automation creates is bound to the decision that was recorded for it, and
that decision must verify when the execution does: its evidence is what the redaction of evidence
leaves alone.

Main definitions:

* `ControlPlane.executionSpec` — the decision to create an execution.

Main results:

* `ControlPlane.verifyAutomationDecision_execution` — the decision to create an execution verifies;
* `ControlPlane.wp_maybeCreateAutomaticExecution` — the judgement on an execution;
* `ControlPlane.wp_approveRequestAutomatically`, `ControlPlane.wp_maybeFinalizeAutomaticApproval` —
  the judgement on an approval.
-/

import LibSeek.ControlPlane.ExecutionSteps
import LibSeek.ControlPlane.Rows
import LibSeek.Services.Automation

set_option relaxedAutoImplicit false
set_option autoImplicit false

namespace LibSeek.ControlPlane

open LibSeek.Core LibSeek.Lib LibSeek.Models LibSeek.Schemas LibSeek.Services

variable [Python] {db : Db} {a : ApprovalRequest}

/-! ### Evidence -/

omit [Python] in
/-- The characters of identifiers and of digests need no redaction. -/
theorem plainChar_of_hex {c : Char}
    (h : (('0' ≤ c && c ≤ '9') || ('a' ≤ c && c ≤ 'f') || c == '-') = true) : PlainChar c := by
  refine ⟨?_, ?_, ?_, ?_⟩ <;> rintro rfl <;> revert h <;> decide

theorem sanitizePublicText_uuid (u : Uuid) : sanitizePublicText u.text = u.text :=
  sanitizePublicText_eq_self fun c hc => plainChar_of_hex (List.all_eq_true.mp u.shape.2 c hc)

variable [HexDigest]

theorem sanitizePublicText_snapshot (d : SnapshotHash) :
    sanitizePublicText (HexDigest.snapshot d) = HexDigest.snapshot d :=
  sanitizePublicText_eq_self fun c hc => plainChar_of_hex <| by
    rw [List.all_eq_true.mp (HexDigest.snapshot_isHex d) c hc, Bool.true_or]

/-- The decision to create an execution. -/
def executionSpec (approval : ApprovalRequest) (snapshot : ApprovalCandidateSnapshot)
    (ready : Bool) (executionId : Uuid) : DecisionSpec :=
  executionDecision approval .actionCreated ["APPROVED_PLAN_ELIGIBLE"]
    (executionEvidence approval snapshot ++ [("download_executor_ready", .bool ready)])
    (some executionId.text)

/-- The evidence of a judgement on an execution needs no redaction. -/
theorem sanitizeDetails_evidence {approval : ApprovalRequest} {newId : Uuid}
    (hid : approval.id = newId.text) (snapshot : ApprovalCandidateSnapshot) (ready : Bool) :
    sanitizeDetails (.object (.ofList (executionEvidence approval snapshot ++
        [("download_executor_ready", .bool ready)]))) =
      .object (.ofList (executionEvidence approval snapshot ++
        [("download_executor_ready", .bool ready)])) := by
  refine Json.mapText_eq_self _ ?_
  have htext : sanitizePublicText approval.id = approval.id := by
    rw [hid]
    exact sanitizePublicText_uuid newId
  have hplain : ("ADD_PAUSED".toList.all fun c => decide (PlainChar c)) = true := by decide
  have hmode : sanitizePublicText "ADD_PAUSED" = "ADD_PAUSED" :=
    sanitizePublicText_eq_self fun c hc => of_decide_eq_true (List.all_eq_true.mp hplain c hc)
  exact ⟨by decide, htext, by decide, sanitizePublicText_snapshot _, by decide, hmode, by decide,
    trivial, by decide, trivial, trivial⟩

/-- **The decision to create an execution verifies.** -/
theorem verifyAutomationDecision_execution {approval : ApprovalRequest} {newId : Uuid}
    (hid : approval.id = newId.text) (revision : AutomationPolicyRevision)
    (snapshot : ApprovalCandidateSnapshot) (ready : Bool) (executionId decisionId : Uuid) :
    verifyAutomationDecision (buildAutomationDecision revision
      (executionSpec approval snapshot ready executionId) decisionId) = .ok () := by
  have hevidence := sanitizeDetails_evidence hid snapshot ready
  simp only [verifyAutomationDecision, bind_eq_ok, ensure_eq_ok]
  refine ⟨(), ?_, rfl⟩
  simp only [buildAutomationDecision, decisionRow, DecisionSpec.arguments, executionSpec,
    executionDecision, hevidence]

/-! ### Executions -/

/-- The decision that has just been stored is one that an execution can be bound to. -/
theorem decidedFor_stored {s : Tables} (newId : Uuid) (ha : a ∈ s.approvals)
    (hid : a.id = newId.text) {revision : AutomationPolicyRevision} {decisionId executionId : Uuid}
    (hrevision : s.revisions.get? revision.id = some revision)
    (hpolicy : verifyPolicyRevision s revision = .ok ()) (snapshot : ApprovalCandidateSnapshot)
    (ready : Bool) (actor : String)
    (hdecision : buildAutomationDecision revision (executionSpec a snapshot ready executionId)
      decisionId ∈ s.decisions) :
    DecidedFor s
      { actor := actor, origin := .automation, automationPolicyRevisionId := some revision.id
        automationDecisionId := some decisionId.text } a.id executionId.text := by
  intro _
  have hget : s.decisions.get? decisionId.text =
      some (buildAutomationDecision revision (executionSpec a snapshot ready executionId)
        decisionId) :=
    Table.get?_eq_some.mpr ⟨hdecision, rfl⟩
  refine ⟨revision, _, hrevision, hget, hpolicy, verifyAutomationDecision_execution hid .., rfl,
    rfl, rfl, rfl, fun b hb hbid => ?_, rfl, rfl⟩
  obtain rfl := Table.eq_of_key_eq ha hb hbid.symm
  rfl

theorem wp_createAutomaticExecution (newId : Uuid) (ha : a ∈ db.approvals)
    (hid : a.id = newId.text) {revision : AutomationPolicyRevision}
    (hrevision : db.revisions.get? revision.id = some revision)
    (hpolicy : verifyPolicyRevision db.toTables revision = .ok ())
    (snapshot : ApprovalCandidateSnapshot) (ready : Bool) (settings : Settings)
    (env : AutomationEnvironment) :
    Tx.wp (createAutomaticExecution revision a
        (executionEvidence a snapshot ++ [("download_executor_ready", .bool ready)]) settings env)
      (fun _ db' => Effects .none db.toTables db'.toTables)
      (fun _ db' => Effects .none db.toTables db'.toTables) db := by
  simp only [createAutomaticExecution, Tx.wp_bind]
  refine Tx.wp_mono (wp_addDecisionOnce _) (fun r db' h => ?_) fun _ _ h => h
  obtain ⟨heff, ⟨hold, rfl⟩ | ⟨rfl, htables⟩⟩ := h
  · simp only [hold, if_true, Tx.wp_bind, Tx.wp_get, Tx.wp_ofOption, wp_liftApp, Tx.wp_pure]
    exact ⟨fun _ _ => ⟨fun _ _ => heff, fun _ _ => heff⟩, fun _ => heff⟩
  · simp only [Bool.true_eq_false, if_false, Tx.wp_bind]
    refine Tx.wp_mono (wp_createExecutionIntent ..) (fun r db'' h => ?_)
      fun _ _ h => heff.trans h
    obtain ⟨heff', -, -, -, happrovals, hrevisions, hdecisions⟩ := h
    have heff'' := heff.trans heff'
    refine Tx.wp_mono (wp_executeApprovedPlan a.id _ _ settings _ (env.newId 1) _ _
      (decidedFor_stored newId ?_ hid ?_ ?_ snapshot ready _ ?_)) (fun _ _ h => ?_)
      fun _ _ h => heff''.trans h
    · rw [happrovals, htables]
      exact ha
    · rw [hrevisions, htables]
      exact hrevision
    · exact heff''.keeps.policies revision hpolicy
    · rw [hdecisions, htables]
      exact Table.mem_save_self _ _
    · exact heff''.trans h.effects

/-- **The judgement on an execution.** -/
theorem wp_maybeCreateAutomaticExecution (newId : Uuid) (ha : a ∈ db.approvals)
    (hid : a.id = newId.text) (settings : Settings) (env : AutomationEnvironment) :
    Tx.wp (maybeCreateAutomaticExecution a settings env)
      (fun _ db' => Effects .none db.toTables db'.toTables)
      (fun _ db' => Effects .none db.toTables db'.toTables) db := by
  simp only [maybeCreateAutomaticExecution, Tx.wp_bind, wp_liftApp]
  refine Tx.wp_mono (wp_getCurrentPolicy ..) (fun r db' h => ?_) fun _ db' h => h ▸ .refl
  obtain ⟨heff, hsame, hrevision, hpolicy⟩ := h
  have hrecord : ∀ {spec : DecisionSpec} {result : Option DownloadExecution},
      Tx.wp (recordStageDecision r.2 spec (env.newId 2) >>= fun _ => pure result)
        (fun _ db'' => Effects .none db.toTables db''.toTables)
        (fun _ db'' => Effects .none db.toTables db''.toTables) db' := by
    intro spec result
    simp only [Tx.wp_bind, Tx.wp_pure]
    exact Tx.wp_mono (wp_recordStageDecision ..) (fun _ _ h => heff.trans h)
      fun _ _ h => heff.trans h
  refine ⟨fun snapshot _ => ?_, fun _ _ => heff⟩
  split
  · exact hrecord
  · refine (Tx.wp_ite _ _ _).mpr ⟨fun _ => hrecord, fun _ => (Tx.wp_ite _ _ _).mpr
      ⟨fun _ => hrecord, fun _ => ?_⟩⟩
    simp only [Tx.wp_bind, Tx.wp_get]
    split
    · simp only [Tx.wp_bind, wp_liftApp]
      exact ⟨fun _ _ => (Tx.wp_bind _ _).mp hrecord, fun _ _ => heff⟩
    · refine (Tx.wp_ite _ _ _).mpr ⟨fun _ => hrecord, fun _ => ?_⟩
      refine Tx.wp_mono (wp_createAutomaticExecution newId ?_ hid hrevision hpolicy ..)
        (fun _ _ h => heff.trans h) fun _ _ h => heff.trans h
      rw [hsame.approvals]
      exact ha

/-! ### Approvals -/

omit [HexDigest] in
/-- An automatic approval is the approval of a request, at the second reading of the clock. -/
theorem wp_approveRequestAutomatically (ha : a ∈ db.approvals) (settings : Settings)
    (actor : String) (newId : Uuid) (clock : ℕ → DateTime) :
    Tx.wp (approveRequestAutomatically a settings actor newId clock)
      (fun r db' => ∃ request,
        ApprovedBy db.toTables a settings request (clock 1) r.2 db'.toTables ∧
          r.1 = { a with status := .approved, decidedAt := some (clock 1) })
      (Kept (Effects .none db.toTables)) db := by
  simp only [approveRequestAutomatically, Tx.wp_bind]
  refine Tx.wp_mono (wp_requirePendingApproval ha (clock 0)) (fun snapshot db' h => ?_)
    fun _ _ h _ => h
  obtain ⟨rfl, -, -⟩ := h
  simp only [wp_requireApp, Tx.wp_ofOption, wp_liftApp]
  refine ⟨fun _ => ⟨fun stored _ => ⟨fun preflight _ => ⟨fun _ => ?_, fun _ _ => .refl⟩,
    fun _ _ _ => .refl⟩, fun _ _ => .refl⟩, fun _ _ => .refl⟩
  refine Tx.wp_mono (wp_approveRequest ha ..) (fun r db'' h => ?_) fun _ _ h => h
  simp only [addEvent, addApprovalEvent, Tx.wp_modify, Tx.wp_pure]
  exact ⟨_, h⟩

/-- **The judgement on an approval.** -/
theorem wp_maybeFinalizeAutomaticApproval (newId : Uuid) (ha : a ∈ db.approvals)
    (hid : a.id = newId.text) (settings : Settings) (env executionEnv : AutomationEnvironment) :
    Tx.wp (maybeFinalizeAutomaticApproval a settings env executionEnv)
      (fun _ db' => Moves .none db.toTables db'.toTables)
      (Kept (Moves .none db.toTables)) db := by
  simp only [maybeFinalizeAutomaticApproval, Tx.wp_bind, wp_liftApp]
  refine Tx.wp_mono (wp_getCurrentPolicy ..) (fun r db' h => ?_) fun _ db' h _ => h ▸ .refl
  obtain ⟨heff, hsame, -, -⟩ := h
  refine ⟨fun judgement _ => ?_, fun _ _ _ => heff.moves⟩
  cases judgement with
  | declined outcome reasons evidence =>
      simp only [Tx.wp_bind, Tx.wp_get, Tx.wp_pure]
      exact Tx.wp_mono (wp_recordStageDecision ..) (fun _ _ h => (heff.trans h).moves)
        fun _ _ h _ => (heff.trans h).moves
  | eligible evidence =>
      simp only [approveEligible, Tx.wp_bind]
      refine Tx.wp_mono (wp_addDecisionOnce _) (fun r db'' h => ?_)
        fun _ _ h _ => (heff.trans h).moves
      obtain ⟨heff', ⟨hold, rfl⟩ | ⟨rfl, htables⟩⟩ := h
      · simp only [hold, if_true, Tx.wp_bind, Tx.wp_get, Tx.wp_ofOption, Tx.wp_pure]
        exact ⟨fun _ _ => heff.moves, fun _ _ => heff.moves⟩
      · simp only [Bool.true_eq_false, if_false, Tx.wp_bind, Tx.wp_pure]
        have ha'' : a ∈ db''.approvals := by
          rw [htables, hsame.approvals]
          exact ha
        have hmoves := (heff.trans heff').moves
        refine Tx.wp_mono (wp_approveRequestAutomatically ha'' ..) (fun r' db₃ h => ?_)
          fun _ _ h => h.mono fun _ h => hmoves.trans h.moves
        obtain ⟨request, happroved, hrow⟩ := h
        have hmem : r'.1 ∈ db₃.approvals := by
          rw [happroved.tables, hrow]
          exact Table.mem_save_self _ _
        have hrid : r'.1.id = newId.text := by rw [hrow]; exact hid
        have happrove : Moves .none _ _ := happroved.approve.moves
        exact Tx.wp_mono (wp_maybeCreateAutomaticExecution newId hmem hrid ..)
          (fun _ _ h => hmoves.trans (happrove.trans h.moves))
          fun _ _ h _ => hmoves.trans (happrove.trans h.moves)

end LibSeek.ControlPlane
