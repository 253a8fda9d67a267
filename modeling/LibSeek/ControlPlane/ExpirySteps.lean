/-
Expiry inside a service.

A service that finds its request expired moves it on, and raises; everything else that it raises
leaves the request as it was.  Where no reading of the clock has reached the expiry, the services
that execute an approved request do not touch the requests at all.  This is what a route can know of
the state that a service leaves staged when it raises.

Main definitions:

* `ControlPlane.Expired` — **the audited expiry** of a request, and nothing else;
* `ControlPlane.Untouched` — nothing has changed, but for such an expiry;
* `ControlPlane.Alive` — no row of a request has a given time behind its expiry.

Main results:

* `ControlPlane.requirePendingApproval_untouched`, `ControlPlane.createExecutionIntent_untouched` —
  the services that stage nothing else before they raise;
* `ControlPlane.maybeCreateAutomaticExecution_approvals`,
  `ControlPlane.maybeFinalizeAutomaticApproval_approvals` — the automation leaves the requests
  alone.
-/

import LibSeek.ControlPlane.AutomationSteps
import LibSeek.Services.PreflightVerdicts

set_option relaxedAutoImplicit false
set_option autoImplicit false

namespace LibSeek.ControlPlane

open LibSeek.Core LibSeek.Lib LibSeek.Models LibSeek.Schemas LibSeek.Services

/-- **The audited expiry of a request**: a pending or approved request whose time has come is moved
to `EXPIRED`, and the move is recorded. -/
inductive Expired (approvalId : String) (db : Db) : Db → Prop
  | expire {a : ApprovalRequest} {now : DateTime} {event : ApprovalEvent} (ha : a ∈ db.approvals)
      (hid : a.id = approvalId) (hstatus : a.status = .pending ∨ a.status = .approved)
      (hexpires : a.expiresAt ≤ now) (hof : event.approvalRequestId = approvalId)
      (htype : event.eventType = "EXPIRED") (hactor : event.actor = "system")
      (hfrom : event.fromStatus = some a.status) (hto : event.toStatus = .expired) :
      Expired approvalId db
        { db with
          approvals := db.approvals.save { a with status := .expired, decidedAt := some now }
          approvalEvents := db.approvalEvents ++ [event] }

/-- Nothing has changed, but for the audited expiry of a request. -/
def Untouched (approvalId : String) (db db' : Db) : Prop :=
  db' = db ∨ Expired approvalId db db'

theorem Untouched.refl {approvalId : String} {db : Db} : Untouched approvalId db db :=
  Or.inl rfl

/-- The rows of a request expire after a given time. -/
def Alive (approvalId : String) (now : DateTime) (db : Db) : Prop :=
  ∀ a ∈ db.approvals, a.id = approvalId → now < a.expiresAt

theorem Alive.congr {approvalId : String} {now : DateTime} {db db' : Db}
    (h : Alive approvalId now db) (heq : db'.approvals = db.approvals) :
    Alive approvalId now db' := by
  intro a ha
  rw [heq] at ha
  exact h a ha

/-- What a service on an approved request leaves staged where it raises at a reading of the clock:
the request is untouched where its caller commits, and as it was before its expiry. -/
def Refused (approvalId : String) (now : DateTime) (db : Db) (e : Exn) (db' : Db) : Prop :=
  (keepExpiry e = true → Untouched approvalId db db') ∧
    (Alive approvalId now db → db'.approvals = db.approvals)

theorem Refused.refl {approvalId : String} {now : DateTime} {db : Db} {e : Exn} :
    Refused approvalId now db e db :=
  ⟨fun _ => .refl, fun _ => rfl⟩

/-- What a caller does not commit need only leave the requests alone. -/
theorem Refused.of_not_kept {approvalId : String} {now : DateTime} {db db' : Db} {e : Exn}
    (h : keepExpiry e = false) (heq : db'.approvals = db.approvals) :
    Refused approvalId now db e db' := by
  refine ⟨fun hkeep => ?_, fun _ => heq⟩
  rw [h] at hkeep
  cases hkeep

section

variable [Python] {db : Db} {a : ApprovalRequest}

/-! ### The policy -/

omit [Python] in
/-- Where there is a policy, reading it changes nothing. -/
theorem getCurrentPolicy_of_head (hhead : db.head ≠ none) (newId : Uuid) (now : DateTime) :
    Tx.wp (getCurrentPolicy newId now)
      (fun r db' => db' = db ∧ ∃ head, db.head = some head ∧
        db.revisions.get? head.currentRevisionId = some r.2) (fun _ db' => db' = db) db := by
  simp only [getCurrentPolicy, Tx.wp_bind, Tx.wp_get]
  cases h : db.head with
  | none => exact absurd h hhead
  | some head =>
      simp only [bindHead, Tx.wp_bind, Tx.wp_get, Tx.wp_ofOption, wp_liftApp, wp_requireApp,
        Tx.wp_pure]
      refine ⟨fun current hcurrent => ⟨fun _ _ => ⟨fun _ => ?_, fun _ => trivial⟩,
        fun _ _ => trivial⟩, fun _ => trivial⟩
      exact ⟨trivial, head, rfl, hcurrent⟩

omit [Python] in
theorem requireStageNotDisabled_of_head (hhead : db.head ≠ none) (stage : AutomationStage)
    (newId : Uuid) (now : DateTime) :
    Tx.wp (requireStageNotDisabled stage newId now) (fun _ db' => db' = db)
      (fun _ db' => db' = db) db := by
  simp only [requireStageNotDisabled, Tx.wp_bind]
  refine Tx.wp_mono (getCurrentPolicy_of_head hhead newId now) (fun _ db' h => ?_) fun _ _ h => h
  simp only [wp_requireApp, Tx.wp_pure]
  exact ⟨fun _ => h.1, fun _ => h.1⟩

omit [Python] in
/-- A decision leaves the requests alone. -/
theorem addDecisionOnce_approvals (decision : AutomationDecision) :
    Tx.wp (addDecisionOnce decision) (fun _ db' => db'.approvals = db.approvals)
      (fun _ db' => db'.approvals = db.approvals) db := by
  simp only [addDecisionOnce, Tx.wp_bind, Tx.wp_get]
  cases decisionOn db.toTables decision.dedupeKey with
  | some existing => rfl
  | none =>
      simp only [Tx.wp_bind, Tx.wp_require, Tx.wp_modify, Tx.wp_pure]
      exact ⟨fun _ => trivial, fun _ => trivial⟩

theorem recordStageDecision_approvals (revision : AutomationPolicyRevision) (spec : DecisionSpec)
    (newId : Uuid) :
    Tx.wp (recordStageDecision revision spec newId) (fun _ db' => db'.approvals = db.approvals)
      (fun _ db' => db'.approvals = db.approvals) db := by
  simp only [recordStageDecision, Tx.wp_bind, Tx.wp_pure]
  exact addDecisionOnce_approvals _

/-! ### Pending requests -/

/-- A request that is required to be pending is untouched where it is not; it expires only if the
reading of the clock has reached its expiry. -/
theorem requirePendingApproval_untouched (ha : a ∈ db.approvals) (now : DateTime) :
    Tx.wp (requirePendingApproval a now)
      (fun snapshot db' => db' = db ∧ verifySnapshot a = .ok snapshot ∧ a.status = .pending ∧
        now < a.expiresAt)
      (fun _ db' => db' = db ∨ (a.expiresAt ≤ now ∧ Expired a.id db db')) db := by
  simp only [requirePendingApproval, stageExpirationIfNeeded, transition, saveApproval, addEvent,
    addApprovalEvent, Tx.wp_bind, wp_liftApp, Tx.wp_ite, Tx.wp_modify, Tx.wp_pure, wp_requireApp]
  refine ⟨fun snapshot hsnapshot => ⟨fun hexpired => ?_, fun hnot => ?_⟩, fun _ _ => Or.inl trivial⟩
  · have hexpires : a.expiresAt ≤ now := of_decide_eq_true hexpired.2
    refine ⟨fun h => absurd h.2 (by decide), fun _ => Or.inr ⟨hexpires, ?_⟩⟩
    exact .expire ha rfl hexpired.1 hexpires rfl rfl rfl rfl rfl
  · refine ⟨fun _ => ⟨fun hpending => ⟨trivial, hsnapshot, hpending, ?_⟩, fun _ => Or.inl trivial⟩,
      fun _ => Or.inl trivial⟩
    have halive : ¬ isExpired a now = true := fun h => hnot ⟨Or.inl hpending, h⟩
    exact Int.not_le.mp fun hle => halive (decide_eq_true hle)

/-- A pre-flight is saved, or its request is untouched. -/
theorem savePreflightResult_untouched (ha : a ∈ db.approvals) (result : PreflightResult)
    (actor : String) (now : DateTime) :
    Tx.wp (savePreflightResult a result actor now)
      (fun a' db' => a' = preflighted a result ∧ a.status = .pending ∧ now < a.expiresAt ∧
        db'.approvals = db.approvals.save (preflighted a result) ∧
        db'.head = db.head ∧ db'.revisions = db.revisions)
      (fun _ db' => Untouched a.id db db') db := by
  simp only [savePreflightResult, Tx.wp_bind]
  refine Tx.wp_mono (requirePendingApproval_untouched ha now) (fun _ db' h => ?_)
    fun _ _ h => h.imp_right And.right
  obtain ⟨rfl, -, hpending, halive⟩ := h
  exact ⟨rfl, hpending, halive, rfl, rfl, rfl⟩

/-- The row of an approved request. -/
def approvedRow (a : ApprovalRequest) (now : DateTime) : ApprovalRequest :=
  { a with status := .approved, decidedAt := some now }

/-- Before its expiry a request is approved, or left with its old row or the approved one. -/
theorem approveRequest_alive (ha : a ∈ db.approvals) (request : ApprovalApproveRequest)
    (settings : Settings) (actor : String) (newId : Uuid) {now : DateTime}
    (hnow : now < a.expiresAt) :
    Tx.wp (approveRequest a request settings actor newId now)
      (fun r db' => r.1 = approvedRow a now ∧
        db'.approvals = db.approvals.save (approvedRow a now) ∧ db'.head = db.head ∧
        db'.revisions = db.revisions ∧ ∃ snapshot, verifySnapshot a = .ok snapshot)
      (fun _ db' => db'.approvals = db.approvals ∨
        db'.approvals = db.approvals.save (approvedRow a now)) db := by
  simp only [approveRequest, Tx.wp_bind]
  refine Tx.wp_mono (requirePendingApproval_untouched ha now) (fun snapshot db' h => ?_)
    fun _ db' h => ?_
  · obtain ⟨rfl, hsnapshot, -, -⟩ := h
    simp only [wp_liftApp, Tx.wp_ofOption, transition, saveApproval, addEvent, addApprovalEvent,
      insertPlan, Tx.wp_bind, Tx.wp_modify, Tx.wp_get, Tx.wp_require, Tx.wp_pure]
    refine ⟨fun _ _ => ⟨fun preflight _ => ⟨fun category _ => ⟨fun tags _ => ⟨fun _ => ?_,
      fun _ => Or.inr rfl⟩, fun _ _ => Or.inr rfl⟩, fun _ => Or.inl trivial⟩,
      fun _ _ => Or.inl trivial⟩, fun _ _ => Or.inl trivial⟩
    exact ⟨rfl, rfl, trivial, trivial, snapshot, hsnapshot⟩
  · rcases h with rfl | ⟨hexpires, -⟩
    · exact Or.inl rfl
    · exact absurd hnow (Int.not_lt.mpr hexpires)

/-! ### Execution -/

omit [Python] in
/-- An approved request that has expired is moved on, and nothing else. -/
theorem requireApproved_untouched (ha : a ∈ db.approvals) (now : DateTime) :
    Tx.wp (requireApproved a now) (fun _ db' => db' = db)
      (fun _ db' => db' = db ∨ (a.expiresAt ≤ now ∧ Expired a.id db db')) db := by
  unfold requireApproved
  simp only [Tx.wp_ite, Tx.wp_bind, saveApproval, addExecutionApprovalEvent, addApprovalEvent,
    Tx.wp_modify, wp_raiseApp, wp_requireApp]
  refine ⟨fun h => Or.inr ⟨h.2, ?_⟩, fun _ => ⟨fun _ => ⟨fun _ => trivial, fun _ => Or.inl trivial⟩,
    fun _ => Or.inl trivial⟩⟩
  exact .expire ha rfl (Or.inr h.1) h.2 rfl rfl rfl (by rw [h.1]; rfl) rfl

omit [Python] in
theorem expireActiveIntent_approvals (active : Option ExecutionIntent) (now : DateTime) :
    Tx.wp (expireActiveIntent a active now) (fun _ db' => db'.approvals = db.approvals)
      (fun _ db' => db' = db) db := by
  cases active with
  | none => rfl
  | some active =>
      simp only [expireActiveIntent, saveIntent, addExecutionApprovalEvent, addApprovalEvent,
        Tx.wp_bind, wp_requireApp, Tx.wp_modify]
      exact ⟨fun _ => trivial, fun _ => trivial⟩

/-- **An intent that is not created leaves its request untouched**, if what is staged is committed
at all.  The requests stay as they are, unless the reading of the clock has reached the expiry. -/
theorem createExecutionIntent_untouched (approvalId : String)
    (request : ExecutionIntentCreateRequest) (settings : Settings) (binding : OriginBinding)
    (newId : Uuid) (secret : String) (now : DateTime) :
    Tx.wp (createExecutionIntent approvalId request settings binding newId secret now)
      (fun _ db' => db'.approvals = db.approvals)
      (Refused approvalId now db) db := by
  simp only [createExecutionIntent, Tx.wp_bind, wp_liftApp]
  refine ⟨fun _ _ => ⟨fun _ _ => ?_, fun _ _ => .refl⟩, fun _ _ => .refl⟩
  refine Tx.wp_mono (wp_getApprovalOr404 approvalId) (fun a db' h => ?_)
    fun _ db' h => h ▸ .refl
  obtain ⟨rfl, ha, rfl, -⟩ := h
  refine Tx.wp_mono (requireApproved_untouched ha now) (fun _ db'' h => ?_) fun e db'' h => ?_
  · subst h
    refine ⟨fun snapshot _ => ?_, fun _ _ => .refl⟩
    refine Tx.wp_mono wp_getVerifiedPlan (fun plan db'' h => ?_) fun _ db'' h => h ▸ .refl
    obtain ⟨rfl, -, -⟩ := h
    simp only [Tx.wp_ofExcept, Tx.wp_get, wp_requireApp]
    refine ⟨fun _ _ => ⟨fun fingerprint _ => ⟨fun _ => ?_, fun _ => .refl⟩, fun _ _ => .refl⟩,
      fun _ _ => .refl⟩
    refine Tx.wp_mono (expireActiveIntent_approvals _ now) (fun _ db'' h => ?_)
      fun _ db'' h => h ▸ .refl
    simp only [insertIntent, saveIntent, addExecutionApprovalEvent, addApprovalEvent, Tx.wp_bind,
      Tx.wp_get, Tx.wp_require, Tx.wp_modify, Tx.wp_pure]
    -- what is raised after an old intent has expired is rolled back
    exact ⟨fun _ => ⟨fun _ => h, fun _ => .of_not_kept rfl h⟩, fun _ => .of_not_kept rfl h⟩
  · rcases h with rfl | ⟨hexpires, hexpired⟩
    · exact .refl
    · exact ⟨fun _ => Or.inr hexpired, fun halive => absurd (halive a ha rfl) (Int.not_lt.mpr hexpires)⟩

/-- Before the expiry of its request, the last part of the creation of an execution leaves the
requests alone. -/
theorem createExecution_approvals (ha : a ∈ db.approvals)
    (request : DownloadExecutionCreateRequest) (keyDigest nonceDigest : Digest String)
    (requestHash : Digest ExecutionRequestDocument) (settings : Settings)
    (binding : OriginBinding) (newId : Uuid) {now : DateTime} (hnow : now < a.expiresAt) :
    Tx.wp (createExecution a request keyDigest nonceDigest requestHash settings binding newId now)
      (fun _ db' => db'.approvals = db.approvals) (fun _ db' => db'.approvals = db.approvals)
      db := by
  simp only [createExecution, Tx.wp_bind, wp_liftApp]
  refine Tx.wp_mono (requireApproved_untouched ha now) (fun _ db' h => ?_) fun _ db' h => ?_
  · subst h
    refine ⟨fun snapshot _ => ?_, fun _ _ => rfl⟩
    refine Tx.wp_mono wp_getVerifiedPlan (fun plan db' h => ?_) fun _ db' h => h ▸ rfl
    obtain ⟨rfl, -, -⟩ := h
    simp only [Tx.wp_get, Tx.wp_ofOption, Tx.wp_ofExcept, wp_requireApp, requireUsableIntent,
      insertExecution, saveExecution, saveIntent, addExecutionEvent, addExecutionApprovalEvent,
      addApprovalEvent, wp_raiseApp, Tx.wp_ite, Tx.wp_bind, Tx.wp_require, Tx.wp_modify,
      Tx.wp_pure, implies_true, and_self]
  · rcases h with rfl | ⟨hexpires, -⟩
    · rfl
    · exact absurd hnow (Int.not_lt.mpr hexpires)

theorem replayExecution_approvals (existing : DownloadExecution) (approvalId intentId : String)
    (requestHash : Digest ExecutionRequestDocument) :
    Tx.wp (replayExecution existing approvalId intentId requestHash)
      (fun _ db' => db'.approvals = db.approvals) (fun _ db' => db'.approvals = db.approvals)
      db := by
  simp only [replayExecution, Tx.wp_bind, Tx.wp_get, wp_liftApp, Tx.wp_pure, implies_true,
    and_self]

/-- Before the expiry of its request, the creation of an execution leaves the requests alone. -/
theorem executeApprovedPlan_approvals {approvalId : String} {now : DateTime}
    (halive : Alive approvalId now db) (request : DownloadExecutionCreateRequest)
    (idempotencyKey : String) (settings : Settings) (binding : OriginBinding) (newId : Uuid)
    (seen : Bool × Bool) :
    Tx.wp (executeApprovedPlan approvalId request idempotencyKey settings binding newId now seen)
      (fun _ db' => db'.approvals = db.approvals) (fun _ db' => db'.approvals = db.approvals)
      db := by
  simp only [executeApprovedPlan, Tx.wp_bind, wp_liftApp, Tx.wp_get]
  refine ⟨fun _ _ => ⟨fun keyDigest _ => ?_, fun _ _ => trivial⟩, fun _ _ => trivial⟩
  split
  · exact replayExecution_approvals ..
  · simp only [Tx.wp_bind, wp_liftApp]
    refine ⟨fun _ _ => ?_, fun _ _ => trivial⟩
    refine Tx.wp_mono (wp_getApprovalOr404 approvalId) (fun a db' h => ?_) fun _ db' h => h ▸ rfl
    obtain ⟨rfl, ha, hid, -⟩ := h
    split
    · exact replayExecution_approvals ..
    · simp only [Tx.wp_bind, Tx.wp_pure]
      exact createExecution_approvals ha _ _ _ _ _ _ _ (halive a ha hid)

/-! ### The automation -/

variable [HexDigest]

/-- Whether the automation asks for the execution of an approved request: the checks of
`maybe_create_automatic_execution` before it records that it does. -/
def executesAutomatically (revision : AutomationPolicyRevision)
    (snapshot : ApprovalCandidateSnapshot) (settings : Settings) (env : AutomationEnvironment)
    (approvedAt : DateTime) : Bool :=
  (modeOutcome revision .execution approvedAt settings.enableAutomationEngine).isNone &&
    (effectiveHnrRule snapshot.siteId snapshot.hitAndRun).known &&
    (executionAcknowledgements snapshot).all (acknowledged revision) &&
    (settings.enableDownloadExecutionControlPlane && settings.downloadExecutorEnabled &&
      settings.enableAvistazLiveSearch && env.qbConfigured && env.executorReady)

omit [HexDigest] in
/-- The creation of the execution leaves the requests alone before the expiry of its request. -/
theorem createAutomaticExecution_approvals (revision : AutomationPolicyRevision)
    (evidence : List (String × Json)) (settings : Settings) (env : AutomationEnvironment)
    (hintent : Alive a.id (env.clock 1) db) (hexecution : Alive a.id (env.clock 2) db) :
    Tx.wp (createAutomaticExecution revision a evidence settings env)
      (fun _ db' => db'.approvals = db.approvals) (fun _ db' => db'.approvals = db.approvals)
      db := by
  simp only [createAutomaticExecution, Tx.wp_bind]
  refine Tx.wp_mono (addDecisionOnce_approvals _) (fun r db' h => ?_) fun _ _ h => h
  refine (Tx.wp_ite _ _ _).mpr ⟨fun _ => ?_, fun _ => ?_⟩
  · simp only [Tx.wp_bind, Tx.wp_get, Tx.wp_ofOption, wp_liftApp, Tx.wp_pure]
    exact ⟨fun _ _ => ⟨fun _ _ => h, fun _ _ => h⟩, fun _ => h⟩
  · simp only [Tx.wp_bind]
    refine Tx.wp_mono (createExecutionIntent_untouched ..) (fun r' db'' h' => ?_)
      fun _ _ h' => (h'.2 (hintent.congr h)).trans h
    have halive := hexecution.congr (h'.trans h)
    refine Tx.wp_mono (executeApprovedPlan_approvals halive ..) (fun _ _ h'' => ?_)
      fun _ _ h'' => h''.trans (h'.trans h)
    exact h''.trans (h'.trans h)

/-- **The judgement on an execution leaves the requests alone**, if the clock has not reached the
expiry of the request where it is read. -/
theorem maybeCreateAutomaticExecution_approvals (hhead : db.head ≠ none)
    {snapshot : ApprovalCandidateSnapshot} (hsnapshot : verifySnapshot a = .ok snapshot)
    (settings : Settings) (env : AutomationEnvironment)
    (hlate : ∀ head revision, db.head = some head →
      db.revisions.get? head.currentRevisionId = some revision →
      executesAutomatically revision snapshot settings env (a.decidedAt.getD a.requestedAt) = true →
      Alive a.id (env.clock 1) db ∧ Alive a.id (env.clock 2) db) :
    Tx.wp (maybeCreateAutomaticExecution a settings env)
      (fun _ db' => db'.approvals = db.approvals) (fun _ db' => db'.approvals = db.approvals)
      db := by
  simp only [maybeCreateAutomaticExecution, Tx.wp_bind, wp_liftApp]
  refine Tx.wp_mono (getCurrentPolicy_of_head hhead ..) (fun r db' h => ?_) fun _ db' h => h ▸ rfl
  obtain ⟨rfl, head, hcurrent, hrevision⟩ := h
  -- where nothing is executed, only a decision is recorded
  have hrecord : ∀ {spec : DecisionSpec} {result : Option DownloadExecution},
      Tx.wp (recordStageDecision r.2 spec (env.newId 2) >>= fun _ => pure result)
        (fun _ db'' => db''.approvals = db'.approvals)
        (fun _ db'' => db''.approvals = db'.approvals) db' := by
    intro spec result
    simp only [Tx.wp_bind, Tx.wp_pure]
    exact recordStageDecision_approvals ..
  refine ⟨fun snapshot' hsnapshot' => ?_, fun _ _ => rfl⟩
  obtain rfl := Except.ok.inj (hsnapshot.symm.trans hsnapshot')
  split
  · exact hrecord
  · rename_i hmode
    refine (Tx.wp_ite _ _ _).mpr ⟨fun _ => hrecord, fun hknown => (Tx.wp_ite _ _ _).mpr
      ⟨fun _ => hrecord, fun hacknowledged => ?_⟩⟩
    simp only [Tx.wp_bind, Tx.wp_get]
    split
    · simp only [Tx.wp_bind, wp_liftApp]
      exact ⟨fun _ _ => (Tx.wp_bind _ _).mp hrecord, fun _ _ => trivial⟩
    · refine (Tx.wp_ite _ _ _).mpr ⟨fun _ => hrecord, fun hready => ?_⟩
      have hexecutes : executesAutomatically r.2 snapshot settings env
          (a.decidedAt.getD a.requestedAt) = true := by
        simp only [executesAutomatically, hmode, Option.isNone_none, Bool.true_and,
          Bool.not_eq_false] at hknown hacknowledged hready ⊢
        rw [hknown, hacknowledged, hready]
        rfl
      obtain ⟨hintent, hexecution⟩ := hlate head r.2 hcurrent hrevision hexecutes
      exact createAutomaticExecution_approvals _ _ _ _ hintent hexecution

/-- **The judgement on an approval leaves the requests alone** where the pre-flight of the request
did not pass. -/
theorem maybeFinalizeAutomaticApproval_approvals {result : PreflightResult}
    (hstored : a.preflightResult = some (.dump result)) (hnotPass : result.overallStatus ≠ .pass)
    (settings : Settings) (env executionEnv : AutomationEnvironment) :
    Tx.wp (maybeFinalizeAutomaticApproval a settings env executionEnv)
      (fun _ db' => db'.approvals = db.approvals) (fun _ db' => db'.approvals = db.approvals)
      db := by
  simp only [maybeFinalizeAutomaticApproval, Tx.wp_bind, wp_liftApp]
  refine Tx.wp_mono (wp_getCurrentPolicy ..) (fun r db' h => ?_) fun _ db' h => h ▸ rfl
  obtain ⟨-, hsame, -, -⟩ := h
  refine ⟨fun judgement hjudged => ?_, fun _ _ => hsame.approvals⟩
  cases judgement with
  | declined outcome reasons evidence =>
      simp only [Tx.wp_bind, Tx.wp_get, Tx.wp_pure]
      refine Tx.wp_mono (recordStageDecision_approvals ..) (fun _ _ h => ?_)
        fun _ _ h => h.trans hsame.approvals
      exact h.trans hsame.approvals
  | eligible evidence =>
      exact absurd hjudged
        (judgeApproval_ne_eligible hstored hnotPass r.2 settings env evidence)

end

end LibSeek.ControlPlane
