/-
The operations on intents and executions are changes of the protocol.

Main definitions:

* `ControlPlane.DecidedFor` — the decision of the automation that a new execution is bound to;
* `ControlPlane.Executed` — what the execution of an approved plan comes to;
* `ControlPlane.Reserved` — a reservation.

Main results:

* `ControlPlane.wp_createExecutionIntent`, `ControlPlane.wp_executeApprovedPlan` — creation;
* `ControlPlane.wp_persistInfoHashBeforeSubmission` — the reservation;
* `ControlPlane.wp_finalizeDownloadSubmission`, `ControlPlane.wp_markOutcomeUnknown`,
  `ControlPlane.wp_markReconciliationRequired`, `ControlPlane.wp_requestReconciliation` — the
  outcome.
-/

import LibSeek.ControlPlane.PolicySteps

set_option relaxedAutoImplicit false
set_option autoImplicit false

namespace LibSeek.ControlPlane

open LibSeek.Core LibSeek.Lib LibSeek.Models LibSeek.Schemas LibSeek.Services

variable [Python] {db : Db} {a : ApprovalRequest}

/-! ### Lookups -/

omit [Python] in
theorem activeIntent_some {s : Tables} {approvalId : String} {i : ExecutionIntent}
    (h : activeIntent s approvalId = some i) :
    i ∈ s.intents ∧ i.approvalId = approvalId ∧ i.status = .active := by
  have hprop := List.find?_some h
  simp only [decide_eq_true_eq] at hprop
  exact ⟨List.mem_of_find?_eq_some h, hprop⟩

omit [Python] in
theorem executionOfKey_some {s : Tables} {keyDigest : Digest String} {e : DownloadExecution}
    (h : executionOfKey s keyDigest = some e) :
    e ∈ s.executions ∧ e.idempotencyKeySha256 = keyDigest :=
  ⟨List.mem_of_find?_eq_some h, by simpa using List.find?_some h⟩

omit [Python] in
theorem planOfApproval_some {s : Tables} {approvalId : String} {plan : DownloadPlan}
    (h : planOfApproval s approvalId = some plan) :
    plan ∈ s.plans ∧ plan.approvalId = approvalId :=
  ⟨List.mem_of_find?_eq_some h, by simpa using List.find?_some h⟩

omit [Python] in
theorem racyLookup_some {α : Type} {seen : Bool} {row : Option α} {r : α}
    (h : racyLookup seen row = some r) : row = some r := by
  cases seen with
  | false => cases h
  | true => exact h

/-- A plan that verifies is returned as it is. -/
theorem verifyDownloadPlan_eq {plan plan' : DownloadPlan}
    (h : verifyDownloadPlan plan a = .ok plan') : plan' = plan := by
  simp only [verifyDownloadPlan, bind_eq_ok, pure_eq_ok] at h
  obtain ⟨_, -, _, -, _, -, _, -, _, -, _, -, _, -, _, -, _, -, _, -, h⟩ := h
  exact h.symm

/-- An execution that verifies is returned as it is. -/
theorem verifyDownloadExecution_eq {s : Tables} {e e' : DownloadExecution}
    (h : verifyDownloadExecution s e = .ok e') : e' = e := by
  simp only [verifyDownloadExecution, bind_eq_ok, pure_eq_ok] at h
  obtain ⟨_, -, _, -, _, -, _, -, _, -, _, -, h⟩ := h
  exact h.symm

/-! ### Intents -/

theorem wp_requireApproved (ha : a ∈ db.approvals) (now : DateTime) :
    Tx.wp (requireApproved a now)
      (fun _ db' => db' = db ∧ a.status = .approved ∧ now < a.expiresAt)
      (fun _ db' => Effects .none db.toTables db'.toTables) db := by
  unfold requireApproved
  simp only [Tx.wp_ite, Tx.wp_bind, saveApproval, addExecutionApprovalEvent, addApprovalEvent,
    Tx.wp_modify, wp_raiseApp, wp_requireApp]
  refine ⟨fun h => ?_, fun h => ⟨fun _ => ⟨fun happroved => ?_, fun _ => .refl⟩, fun _ => .refl⟩⟩
  · exact (Effect.approval ha (.expire (Or.inr h.1) h.2)).single
  · exact ⟨trivial, happroved, Int.not_le.mp fun hle => h ⟨happroved, hle⟩⟩

theorem wp_getVerifiedPlan :
    Tx.wp (getVerifiedPlan a)
      (fun plan db' => db' = db ∧ planOfApproval db.toTables a.id = some plan ∧
        verifyDownloadPlan plan a = .ok plan)
      (fun _ db' => db' = db) db := by
  simp only [getVerifiedPlan, Tx.wp_bind, Tx.wp_get, Tx.wp_ofOption, wp_liftApp]
  refine ⟨fun plan hplan => ⟨fun plan' hverified => ?_, fun _ _ => trivial⟩, fun _ => trivial⟩
  obtain rfl := verifyDownloadPlan_eq hverified
  exact ⟨trivial, hplan, hverified⟩

theorem wp_expireActiveIntent (now : DateTime) :
    Tx.wp (expireActiveIntent a (activeIntent db.toTables a.id) now)
      (fun _ db' => Effects .none db.toTables db'.toTables ∧ db'.approvals = db.approvals ∧
        db'.revisions = db.revisions ∧ db'.decisions = db.decisions)
      (fun _ db' => Effects .none db.toTables db'.toTables) db := by
  cases h : activeIntent db.toTables a.id with
  | none => exact ⟨.refl, rfl, rfl, rfl⟩
  | some active =>
      obtain ⟨hmem, -, hactive⟩ := activeIntent_some h
      simp only [expireActiveIntent, saveIntent, addExecutionApprovalEvent, addApprovalEvent,
        Tx.wp_bind, wp_requireApp, Tx.wp_modify]
      exact ⟨fun _ => ⟨(Effect.expireIntent hmem hactive).single, trivial, trivial, trivial⟩,
        fun _ => .refl⟩

/-- An intent is created for an approved request; the requests and the policy stay as they are. -/
theorem wp_createExecutionIntent (approvalId : String) (request : ExecutionIntentCreateRequest)
    (settings : Settings) (binding : OriginBinding) (newId : Uuid) (secret : String)
    (now : DateTime) :
    Tx.wp (createExecutionIntent approvalId request settings binding newId secret now)
      (fun r db' => Effects .none db.toTables db'.toTables ∧ r.1 ∈ db'.intents ∧
        r.1.approvalId = approvalId ∧ r.1.nonceSha256 = hashSecret r.2 ∧
        db'.approvals = db.approvals ∧ db'.revisions = db.revisions ∧
        db'.decisions = db.decisions)
      (fun _ db' => Effects .none db.toTables db'.toTables) db := by
  simp only [createExecutionIntent, Tx.wp_bind, wp_liftApp]
  refine ⟨fun _ _ => ⟨fun _ horigin => ?_, fun _ _ => .refl⟩, fun _ _ => .refl⟩
  refine Tx.wp_mono (wp_getApprovalOr404 approvalId) (fun a db' h => ?_) fun _ db' h => h ▸ .refl
  obtain ⟨rfl, ha, hid, -⟩ := h
  refine Tx.wp_mono (wp_requireApproved ha now) (fun _ db'' h => ?_) fun _ _ h => h
  obtain ⟨rfl, -, -⟩ := h
  refine ⟨fun snapshot _ => ?_, fun _ _ => .refl⟩
  refine Tx.wp_mono wp_getVerifiedPlan (fun plan db' h => ?_) fun _ db' h => h ▸ .refl
  obtain ⟨rfl, -, -⟩ := h
  simp only [Tx.wp_ofExcept, Tx.wp_get, wp_requireApp]
  refine ⟨fun _ _ => ⟨fun fingerprint _ => ⟨fun _ => ?_, fun _ => .refl⟩, fun _ _ => .refl⟩,
    fun _ _ => .refl⟩
  refine Tx.wp_mono (wp_expireActiveIntent now) (fun _ db'' h => ?_) fun _ _ h => h
  obtain ⟨heff, happrovals, hrevisions, hdecisions⟩ := h
  simp only [insertIntent, saveIntent, addExecutionApprovalEvent, addApprovalEvent, Tx.wp_bind,
    Tx.wp_get, Tx.wp_require, Tx.wp_modify, Tx.wp_pure]
  refine ⟨fun _ => ⟨fun hnew => ?_, fun _ => heff⟩, fun _ => heff⟩
  exact ⟨heff.tail (.newIntent { status := rfl, origin := horigin } hnew.1 hnew.2.1 hnew.2.2),
    Table.mem_save_self _ _, hid, trivial, happrovals, hrevisions, hdecisions⟩

/-! ### Creation of an execution -/

/-- The decision of the automation that an execution about to be created is bound to. -/
def DecidedFor (s : Tables) (binding : OriginBinding) (approvalId executionId : String) : Prop :=
  binding.origin = .automation →
    ∃ revision decision,
      binding.automationPolicyRevisionId.bind s.revisions.get? = some revision ∧
      binding.automationDecisionId.bind s.decisions.get? = some decision ∧
      verifyPolicyRevision s revision = .ok () ∧ verifyAutomationDecision decision = .ok () ∧
      decision.policyRevisionId = revision.id ∧ decision.stage = .execution ∧
      decision.action = "CREATE_DOWNLOAD_EXECUTION" ∧ decision.outcome = .actionCreated ∧
      (∀ a ∈ s.approvals, a.id = approvalId → decision.mediaItemId = a.mediaItemId) ∧
      decision.approvalRequestId = some approvalId ∧
      decision.downloadExecutionId = some executionId

/-- An execution of an operator is bound to no decision. -/
theorem decidedFor_manual {s : Tables} {actor approvalId executionId : String} :
    DecidedFor s { actor := actor } approvalId executionId :=
  fun h => by cases h

theorem wp_requireUsableIntent {i : ExecutionIntent} (hi : i ∈ db.intents)
    (nonceDigest : Digest String) (binding : OriginBinding) (now : DateTime) :
    Tx.wp (requireUsableIntent a i nonceDigest binding now)
      (fun _ db' => db' = db ∧ i.status = .active ∧ now < i.expiresAt ∧
        i.nonceSha256 = nonceDigest ∧ i.origin = binding.origin ∧
        i.automationPolicyRevisionId = binding.automationPolicyRevisionId ∧
        i.automationDecisionId = binding.automationDecisionId)
      (fun _ db' => Effects .none db.toTables db'.toTables) db := by
  unfold requireUsableIntent
  simp only [Tx.wp_ite, Tx.wp_bind, saveIntent, addExecutionApprovalEvent, addApprovalEvent,
    Tx.wp_modify, wp_raiseApp, wp_requireApp]
  refine ⟨fun h => (Effect.expireIntent hi h.1).single, fun h => ⟨fun hactive =>
    ⟨fun hnonce => ⟨fun horigin => ?_, fun _ => .refl⟩, fun _ => .refl⟩, fun _ => .refl⟩⟩
  exact ⟨trivial, hactive, Int.not_le.mp fun hle => h ⟨hactive, hle⟩, hnonce, horigin⟩

omit [Python] in
/-- The row of a new execution is that of a new execution. -/
theorem newExecution_isNew (newId : Uuid) (a : ApprovalRequest) (plan : DownloadPlan)
    (i : ExecutionIntent) (keyDigest : Digest String)
    (requestHash : Digest ExecutionRequestDocument) (fingerprint : Digest TargetDescriptor)
    (binding : OriginBinding) (settings : Settings) (now : DateTime) [Python] :
    NewExecution
      (newExecution newId a plan i keyDigest requestHash fingerprint binding settings now) :=
  { status := rfl
    attempts := rfl
    maxAttempts := settings.jobMaxAttempts_bounds.1
    lease := ⟨rfl, rfl, rfl⟩
    bundle := ⟨rfl, rfl, rfl, rfl, rfl, rfl, rfl⟩
    verifiedAt := rfl
    reconciliation := ⟨rfl, rfl, rfl⟩ }

/-- A new execution whose digests are digests of documents verifies as a row. -/
theorem NewExecution.verifyExecutionRow {e : DownloadExecution} (h : NewExecution e)
    (hshape : e.idempotencyKeySha256.wellShaped = true ∧ e.requestHash.wellShaped = true ∧
      e.approvalSnapshotHash.wellShaped = true ∧ e.planHash.wellShaped = true ∧
      e.qbTargetFingerprint.wellShaped = true) : verifyExecutionRow e = .ok () := by
  simp [Services.verifyExecutionRow, bind_eq_ok, hshape, h.status, h.bundle.1,
    DownloadExecutionStatus.isReserved]

/-- The snapshot hash of a request that verifies is the digest of its snapshot. -/
theorem snapshotHash_of_verifySnapshot {snapshot : ApprovalCandidateSnapshot}
    (h : verifySnapshot a = .ok snapshot) : a.snapshotHash = .sha256 a.candidateSnapshot := by
  simp only [verifySnapshot, bind_eq_ok, ensure_eq_ok] at h
  exact h.choose_spec.1.symm

/-- The plan hash of a plan that verifies is the digest of its payload. -/
theorem planHash_of_verifyDownloadPlan {plan plan' : DownloadPlan}
    (h : verifyDownloadPlan plan a = .ok plan') : plan.planHash = .sha256 plan.toPlanPayload := by
  simp only [verifyDownloadPlan, bind_eq_ok, ensure_eq_ok] at h
  obtain ⟨_, -, _, hhash, -⟩ := h
  exact hhash

/-- What `execute_approved_plan` knows when it comes to its last part. -/
structure ExecutionArguments (approvalId : String) (request : DownloadExecutionCreateRequest)
    (keyDigest nonceDigest : Digest String) (requestHash : Digest ExecutionRequestDocument)
    (binding : OriginBinding) : Prop where
  keyDigest_ok : keyDigest.wellShaped = true
  requestHash_eq : requestHash = executionRequestHash approvalId request.intentId nonceDigest
    keyDigest binding.origin binding.automationPolicyRevisionId binding.automationDecisionId
  origin_ok : requireOriginBinding binding.origin
    (if binding.origin = .automation then some .addPaused else none)
    binding.automationPolicyRevisionId binding.automationDecisionId = .ok ()

theorem wp_createExecution (ha : a ∈ db.approvals) {request : DownloadExecutionCreateRequest}
    {keyDigest nonceDigest : Digest String} {requestHash : Digest ExecutionRequestDocument}
    {binding : OriginBinding}
    (hargs : ExecutionArguments a.id request keyDigest nonceDigest requestHash binding)
    (settings : Settings) (newId : Uuid) (now : DateTime)
    (hdecided : DecidedFor db.toTables binding a.id newId.text) :
    Tx.wp (createExecution a request keyDigest nonceDigest requestHash settings binding newId now)
      (fun e db' => Effects .none db.toTables db'.toTables ∧ e ∈ db'.executions ∧
        e.approvalId = a.id ∧ e.intentId = request.intentId ∧
        e.idempotencyKeySha256 = keyDigest ∧ e.requestHash = requestHash ∧
        executionOfKey db.toTables keyDigest = none)
      (fun _ db' => Effects .none db.toTables db'.toTables) db := by
  simp only [createExecution, Tx.wp_bind]
  refine Tx.wp_mono (wp_requireApproved ha now) (fun _ db' h => ?_) fun _ _ h => h
  obtain ⟨rfl, happroved, -⟩ := h
  simp only [wp_liftApp]
  refine ⟨fun snapshot hsnap => ?_, fun _ _ => .refl⟩
  refine Tx.wp_mono wp_getVerifiedPlan (fun plan db'' h => ?_) fun _ _ h => h ▸ .refl
  obtain ⟨rfl, hplan, hverified⟩ := h
  simp only [Tx.wp_get, wp_requireApp, Tx.wp_ofOption, Option.filter_eq_some_iff,
    decide_eq_true_eq]
  refine ⟨fun _ _ => ⟨fun _ => ⟨fun i hi => ⟨fun _ => ?_, fun _ => .refl⟩, fun _ => .refl⟩,
    fun _ => .refl⟩, fun _ _ => .refl⟩
  obtain ⟨hi, hia⟩ := hi
  obtain ⟨hmem, hid⟩ := Table.get?_eq_some.mp hi
  refine Tx.wp_mono (wp_requireUsableIntent hmem nonceDigest binding now)
    (fun _ db' h => ?_) fun _ _ h => h
  obtain ⟨rfl, hactive, -, hnonce, horigin, hrevision, hdecision⟩ := h
  -- what can still fail are the fingerprint of the target and the keys of the new row
  simp only [insertExecution, saveExecution, saveIntent, addExecutionEvent,
    addExecutionApprovalEvent, addApprovalEvent, Tx.wp_ofExcept, Tx.wp_bind,
    Tx.wp_get, Tx.wp_require, Tx.wp_modify, Tx.wp_pure]
  refine ⟨fun fingerprint hfp => ⟨fun hbound => ⟨fun hnew => ?_, fun _ => .refl⟩, fun _ => .refl⟩,
    fun _ _ => .refl⟩
  obtain ⟨target, rfl, -⟩ := qbTargetFingerprint_ok hfp
  obtain ⟨hsnapHash, hplanHash, hfpEq⟩ := hbound
  obtain ⟨hnewId, hnewApproval, hnewIntent, hnewKey⟩ := hnew
  have hisNew := newExecution_isNew newId a plan i keyDigest requestHash (.sha256 target) binding
    settings now
  have hkey : i.id = request.intentId := hid
  -- the new row is bound to the request, the intent and the plan as they are now
  have hrequested : Requested db'.toTables
      (newExecution newId a plan i keyDigest requestHash (.sha256 target) binding settings now)
      a i plan :=
    { new := hisNew
      approval := ha
      approval_id := rfl
      approved := happroved
      intent := hmem
      intent_id := rfl
      intent_active := hactive
      intent_approval := hia
      plan_of := hplan
      verified := hverified
      row := hisNew.verifyExecutionRow
        ⟨hargs.keyDigest_ok, by simp [newExecution, hargs.requestHash_eq, executionRequestHash],
          by simp [newExecution, snapshotHash_of_verifySnapshot hsnap],
          by simp [newExecution, planHash_of_verifyDownloadPlan hverified], rfl⟩
      origin := hargs.origin_ok
      bound := ⟨rfl, hsnapHash.symm, rfl, hplanHash.symm, hfpEq.symm, rfl, horigin.symm,
        hrevision.symm, hdecision.symm, by
          simp only [newExecution, hargs.requestHash_eq, hnonce, hkey]⟩
      automation := by
        unfold verifyExecutionAutomation
        split
        · rename_i hauto
          obtain ⟨revision, decision, hrev, hdec, hvrev, hvdec, hpolicy, hstage, haction,
            houtcome, hmedia, happrovalId, hexecutionId⟩ := hdecided hauto
          simp only [bind_eq_ok, orRaise_eq_ok, ensure_eq_ok]
          exact ⟨revision, hrev, decision, hdec, (), hvrev, (), hvdec, hpolicy, hstage, haction,
            houtcome, hmedia a ha rfl, happrovalId, hexecutionId⟩
        · rfl }
  exact ⟨(Effect.newExecution hrequested hnewId hnewApproval hnewIntent hnewKey).single,
    Table.mem_save_self _ _, rfl, hkey, rfl, rfl, hnewKey⟩

/-- A repeated request verifies the execution there is. -/
theorem requireSameIdempotentRequest_ok {s : Tables} {e : DownloadExecution}
    {approvalId intentId : String} {requestHash : Digest ExecutionRequestDocument}
    (h : requireSameIdempotentRequest s e approvalId intentId requestHash = .ok ()) :
    e.approvalId = approvalId ∧ e.intentId = intentId ∧ e.requestHash = requestHash := by
  simp only [requireSameIdempotentRequest, bind_eq_ok, ensure_eq_ok] at h
  obtain ⟨_, hsame, -⟩ := h
  exact hsame

omit [Python] in
/-- The digest of a key that is accepted. -/
theorem idempotencyKeyDigest_ok {value : String} {keyDigest : Digest String}
    (h : idempotencyKeyDigest value = .ok keyDigest) : keyDigest = hashSecret value := by
  simp only [idempotencyKeyDigest, bind_eq_ok, pure_eq_ok] at h
  obtain ⟨_, -, h⟩ := h
  exact h.symm

/-- What the execution of an approved plan comes to: an execution under the key, for the same
request; nothing is changed unless it is new, and then there was none under the key. -/
structure Executed (db : Db) (approvalId : String) (request : DownloadExecutionCreateRequest)
    (keyDigest : Digest String) (requestHash : Digest ExecutionRequestDocument)
    (r : DownloadExecution × Bool) (db' : Db) : Prop where
  effects : Effects .none db.toTables db'.toTables
  mem : r.1 ∈ db'.executions
  approvalId_eq : r.1.approvalId = approvalId
  intentId_eq : r.1.intentId = request.intentId
  key : r.1.idempotencyKeySha256 = keyDigest
  requestHash_eq : r.1.requestHash = requestHash
  replayed : r.2 = false → db' = db
  created : r.2 = true → executionOfKey db.toTables keyDigest = none

theorem wp_replayExecution {existing : DownloadExecution} {keyDigest : Digest String}
    (hexisting : executionOfKey db.toTables keyDigest = some existing) (approvalId : String)
    (request : DownloadExecutionCreateRequest) (requestHash : Digest ExecutionRequestDocument) :
    Tx.wp (replayExecution existing approvalId request.intentId requestHash)
      (Executed db approvalId request keyDigest requestHash)
      (fun _ db' => Effects .none db.toTables db'.toTables) db := by
  obtain ⟨hmem, hkey⟩ := executionOfKey_some hexisting
  simp only [replayExecution, Tx.wp_bind, Tx.wp_get, wp_liftApp, Tx.wp_pure]
  refine ⟨fun _ hsame => ?_, fun _ _ => .refl⟩
  obtain ⟨happroval, hintent, hrequest⟩ := requireSameIdempotentRequest_ok hsame
  exact
    { effects := .refl
      mem := hmem
      approvalId_eq := happroval
      intentId_eq := hintent
      key := hkey
      requestHash_eq := hrequest
      replayed := fun _ => rfl
      created := fun h => by cases h }

/-- **The execution of an approved plan**: a new execution under the key, or the one there was
for the same request. -/
theorem wp_executeApprovedPlan (approvalId : String) (request : DownloadExecutionCreateRequest)
    (idempotencyKey : String) (settings : Settings) (binding : OriginBinding) (newId : Uuid)
    (now : DateTime) (seen : Bool × Bool)
    (hdecided : DecidedFor db.toTables binding approvalId newId.text) :
    Tx.wp (executeApprovedPlan approvalId request idempotencyKey settings binding newId now seen)
      (Executed db approvalId request (hashSecret idempotencyKey)
        (executionRequestHash approvalId request.intentId (hashSecret request.nonce)
          (hashSecret idempotencyKey) binding.origin binding.automationPolicyRevisionId
          binding.automationDecisionId))
      (fun _ db' => Effects .none db.toTables db'.toTables) db := by
  simp only [executeApprovedPlan, Tx.wp_bind, wp_liftApp, Tx.wp_get]
  refine ⟨fun _ horigin => ⟨fun keyDigest hkey => ?_, fun _ _ => .refl⟩, fun _ _ => .refl⟩
  obtain rfl := idempotencyKeyDigest_ok hkey
  -- the key is looked up twice, before and after the request is locked
  cases hfirst : racyLookup seen.1
      (executionOfKey db.toTables (hashSecret idempotencyKey)) with
  | some existing => exact wp_replayExecution (racyLookup_some hfirst) _ _ _
  | none =>
      simp only [Tx.wp_bind, wp_liftApp]
      refine ⟨fun _ _ => ?_, fun _ _ => .refl⟩
      refine Tx.wp_mono (wp_getApprovalOr404 approvalId) (fun a db' h => ?_)
        fun _ db' h => h ▸ .refl
      obtain ⟨rfl, ha, rfl, -⟩ := h
      cases hsecond : racyLookup seen.2
          (executionOfKey db'.toTables (hashSecret idempotencyKey)) with
      | some existing => exact wp_replayExecution (racyLookup_some hsecond) _ _ _
      | none =>
          have hargs : ExecutionArguments a.id request (hashSecret idempotencyKey)
              (hashSecret request.nonce)
              (executionRequestHash a.id request.intentId (hashSecret request.nonce)
                (hashSecret idempotencyKey) binding.origin binding.automationPolicyRevisionId
                binding.automationDecisionId) binding :=
            ⟨rfl, rfl, horigin⟩
          have hcreate := wp_createExecution ha hargs settings newId now hdecided
          simp only [Tx.wp_bind, Tx.wp_pure]
          refine Tx.wp_mono hcreate (fun e db'' h => ?_) fun _ _ h => h
          obtain ⟨heff, hmem, happroval, hintent, hkeyEq, hrequest, hnone⟩ := h
          exact
            { effects := heff
              mem := hmem
              approvalId_eq := happroval
              intentId_eq := hintent
              key := hkeyEq
              requestHash_eq := hrequest
              replayed := fun h => by cases h
              created := fun _ => hnone }

/-! ### The reservation -/

theorem wp_getDownloadExecution (executionId : String) :
    Tx.wp (getDownloadExecution executionId)
      (fun e db' => db' = db ∧ e ∈ db.executions ∧ e.id = executionId)
      (fun _ db' => db' = db) db := by
  simp only [getDownloadExecution, Tx.wp_bind, Tx.wp_get, Tx.wp_ofOption, wp_liftApp]
  refine ⟨fun e he => ⟨fun e' hverified => ?_, fun _ _ => trivial⟩, fun _ => trivial⟩
  obtain rfl := verifyDownloadExecution_eq hverified
  obtain ⟨hmem, hid⟩ := Table.get?_eq_some.mp he
  exact ⟨trivial, hmem, hid⟩

omit [Python] in
/-- What a lease that passed its check is. -/
theorem requireExecutionLease_ok {e : DownloadExecution} {leaseToken : String}
    {leaseSeconds : Int} {now : DateTime}
    (h : requireExecutionLease e leaseToken leaseSeconds now = .ok ()) :
    e.leaseToken = some leaseToken ∧ e.lockedAt ≠ none := by
  simp only [requireExecutionLease, ensure_eq_ok] at h
  obtain ⟨-, -, htoken, -, lockedAt, hlocked, -⟩ := h
  exact ⟨htoken, by rw [Option.mem_def.mp hlocked]; simp⟩

/-- **A reservation**: the execution was being validated, its approval was approved and had not
expired, and the torrent goes with the plan. -/
inductive Reserved (s : Tables) (executionId : String) (metadata : ValidatedTorrent)
    (now : DateTime) : Tables → Prop
  | intro {e : DownloadExecution} {a : ApprovalRequest} {plan : DownloadPlan}
      {selectedHash hash : String} (he : e ∈ s.executions) (hid : e.id = executionId)
      (h : e.status = .validating) (hlocked : e.lockedAt ≠ none) (ha : a ∈ s.approvals)
      (haid : a.id = e.approvalId) (hstatus : a.status = .approved) (hexpires : now < a.expiresAt)
      (hplan : planOfApproval s a.id = some plan)
      (hselected : metadata.selectedHash = some selectedHash)
      (hhash : reservedHash plan metadata selectedHash = .ok hash) :
      Reserved s executionId metadata now
        { s with
          approvals := s.approvals.save { a with status := .executing }
          executions := s.executions.save (reservedExecution e metadata hash now) }

/-- A reservation is a change of the protocol, under the lease of the execution. -/
theorem Reserved.effect {s s' : Tables} {metadata : ValidatedTorrent} {e : DownloadExecution}
    {now : DateTime} (h : Reserved s e.id metadata now s') (he : e ∈ s.executions)
    {leaseToken : String} (hlease : e.leaseToken = some leaseToken) :
    Effect { reserves := leaseToken } s s' := by
  obtain ⟨he', hid, hvalidating, hlocked, ha, haid, hstatus, hexpires, hplan, hselected, hhash⟩ := h
  obtain rfl := Table.eq_of_key_eq he' he hid
  exact .reserve he hvalidating hlocked ha haid hstatus hexpires hplan hselected hhash
    ⟨by simp [hlease], hlease⟩

theorem wp_cancelInvalidatedExecution {e : DownloadExecution} (he : e ∈ db.executions)
    (h : e.status = .validating) (actor : String) :
    Tx.wp (cancelInvalidatedExecution e actor)
      (fun e' db' => e'.status = .cancelled ∧ Effects .none db.toTables db'.toTables)
      (fun _ _ => False) db := by
  simp only [cancelInvalidatedExecution, saveExecution, addExecutionEvent, Tx.wp_bind,
    Tx.wp_modify, Tx.wp_pure]
  exact ⟨trivial, (Effect.cancel he (Or.inl h)).single⟩

/-- The reservation of an execution that is being validated reserves it or cancels it. -/
theorem wp_reserveValidating {e : DownloadExecution} (he : e ∈ db.executions)
    (h : e.status = .validating) (hlocked : e.lockedAt ≠ none) {metadata : ValidatedTorrent}
    {selectedHash : String} (hselected : metadata.selectedHash = some selectedHash)
    (actor : String) (now : DateTime) :
    Tx.wp (reserveValidating e metadata selectedHash actor now)
      (fun e' db' => (e'.status = .cancelled ∧ Effects .none db.toTables db'.toTables) ∨
        (e'.status = .submitting ∧ Reserved db.toTables e.id metadata now db'.toTables))
      (fun _ db' => Effects .none db.toTables db'.toTables) db := by
  simp only [reserveValidating, Tx.wp_bind, Tx.wp_get]
  cases hget : db.approvals.get? e.approvalId with
  | none =>
      exact Tx.wp_mono (wp_cancelInvalidatedExecution he h actor)
        (fun _ _ h => Or.inl h) fun _ _ h => h.elim
  | some a =>
      obtain ⟨ha, haid⟩ := Table.get?_eq_some.mp hget
      simp only [Tx.wp_bind, wp_liftApp, Tx.wp_ite, saveApproval, addExecutionApprovalEvent,
        addApprovalEvent, Tx.wp_modify]
      refine ⟨fun snapshot _ => ⟨fun hexpired => ?_, fun hvalid => ⟨fun _ => ?_, fun happroved =>
        ?_⟩⟩, fun _ _ => .refl⟩
      -- an approval that is over is expired first, then the execution is cancelled
      · have hexpire : Effect .none db.toTables
            { db.toTables with
              approvals := db.approvals.save
                { a with status := .expired, decidedAt := some now } } :=
          .approval ha (.expire (Or.inr hexpired.1) hexpired.2)
        refine Tx.wp_mono (wp_cancelInvalidatedExecution (e := e) ?_ h actor)
          (fun _ _ h => Or.inl ⟨h.1, hexpire.single.trans h.2⟩) fun _ _ h => h.elim
        exact he
      · exact Tx.wp_mono (wp_cancelInvalidatedExecution he h actor)
          (fun _ _ h => Or.inl h) fun _ _ h => h.elim
      · have hstatus : a.status = .approved := not_not.mp happroved
        have hexpires : now < a.expiresAt := Int.not_le.mp fun hle => hvalid ⟨hstatus, hle⟩
        simp only [reserveApproved, saveApproval, saveExecution, addExecutionApprovalEvent,
          addApprovalEvent, addExecutionEvent, Tx.wp_bind]
        refine Tx.wp_mono wp_getVerifiedPlan (fun plan db' hplan => ?_) fun _ _ h => h ▸ .refl
        obtain ⟨rfl, hplan, -⟩ := hplan
        simp only [wp_liftApp, Tx.wp_modify, Tx.wp_pure]
        refine ⟨fun hash hhash => ?_, fun _ _ => .refl⟩
        exact Or.inr
          ⟨rfl, .intro he rfl h hlocked ha haid hstatus hexpires hplan hselected hhash⟩

/-- **The reservation**: an execution found in the state of submission was reserved just now, or
had been before, with nothing changed. -/
theorem wp_persistInfoHashBeforeSubmission (executionId : String) (metadata : ValidatedTorrent)
    (actor leaseToken : String) (leaseSeconds : Int) (clock : DateTime × DateTime) :
    Tx.wp (persistInfoHashBeforeSubmission executionId metadata actor leaseToken leaseSeconds
        clock)
      (fun e' db' => Effects { reserves := leaseToken } db.toTables db'.toTables ∧
        ((e'.status = .cancelled ∧ Effects .none db.toTables db'.toTables) ∨
          (e'.status = .submitting ∧
            (Reserved db.toTables executionId metadata clock.2 db'.toTables ∨
              ∃ e ∈ db.executions, e.id = executionId ∧ e.status = .submitting))))
      (fun _ db' => Effects .none db.toTables db'.toTables) db := by
  simp only [persistInfoHashBeforeSubmission, Tx.wp_bind, Tx.wp_ofOption]
  refine ⟨fun selectedHash hselected => ?_, fun _ => .refl⟩
  refine Tx.wp_mono (wp_getDownloadExecution executionId) (fun e db' h => ?_)
    fun _ _ h => h ▸ .refl
  obtain ⟨rfl, he, rfl⟩ := h
  simp only [wp_liftApp, Tx.wp_ite, Tx.wp_bind, wp_requireApp, Tx.wp_pure]
  refine ⟨fun _ hlease => ⟨fun hsubmitting => ⟨fun _ => ?_, fun _ => .refl⟩, fun _ =>
    ⟨fun hvalidating => ?_, fun _ => .refl⟩⟩, fun _ _ => .refl⟩
  · exact ⟨.refl, Or.inr ⟨hsubmitting, Or.inr ⟨e, he, rfl, hsubmitting⟩⟩⟩
  · obtain ⟨htoken, hlocked⟩ := requireExecutionLease_ok hlease
    refine Tx.wp_mono (wp_reserveValidating he hvalidating hlocked hselected actor clock.2)
      (fun e' db'' h => ?_) fun _ _ h => h
    rcases h with ⟨hcancelled, heff⟩ | ⟨hsubmitting, hreserved⟩
    · exact ⟨heff.weaken, Or.inl ⟨hcancelled, heff⟩⟩
    · exact ⟨(hreserved.effect he htoken).single, Or.inr ⟨hsubmitting, Or.inl hreserved⟩⟩

/-! ### The outcome -/

theorem wp_requestReconciliation (executionId : String) (reason : Option String) (actor : String)
    (now : DateTime) :
    Tx.wp (requestReconciliation executionId reason actor now)
      (fun _ db' => Effects .none db.toTables db'.toTables)
      (fun _ db' => Effects .none db.toTables db'.toTables) db := by
  simp only [requestReconciliation, Tx.wp_bind]
  refine Tx.wp_mono (wp_getDownloadExecution executionId) (fun e db' h => ?_)
    fun _ _ h => h ▸ .refl
  obtain ⟨rfl, he, -⟩ := h
  simp only [saveExecution, addExecutionEvent, Tx.wp_ite, Tx.wp_bind, wp_requireApp,
    Tx.wp_modify, Tx.wp_pure]
  exact ⟨fun _ => .refl, fun _ => ⟨fun h => (Effect.execution he (.reconcile h)).single,
    fun _ => .refl⟩⟩

theorem wp_markReconciliationRequired (executionId actor : String) (leaseToken : Option String)
    (leaseSeconds : Int) (error : RecordedError) (now : DateTime) :
    Tx.wp (markReconciliationRequired executionId actor leaseToken leaseSeconds error now)
      (fun _ db' => Effects .none db.toTables db'.toTables)
      (fun _ db' => Effects .none db.toTables db'.toTables) db := by
  simp only [markReconciliationRequired, Tx.wp_bind]
  refine Tx.wp_mono (wp_getDownloadExecution executionId) (fun e db' h => ?_)
    fun _ _ h => h ▸ .refl
  obtain ⟨rfl, he, -⟩ := h
  simp only [saveExecution, addExecutionEvent, Tx.wp_ite, Tx.wp_bind, wp_requireApp, wp_liftApp,
    Tx.wp_modify, Tx.wp_pure]
  exact ⟨fun _ => .refl, fun _ => ⟨fun h => ⟨fun _ _ =>
    (Effect.execution he (.reconciliationRequired h)).single, fun _ _ => .refl⟩, fun _ => .refl⟩⟩

theorem wp_markOutcomeUnknown (executionId actor leaseToken : String) (leaseSeconds : Int)
    (error : RecordedError) (now : DateTime) :
    Tx.wp (markOutcomeUnknown executionId actor leaseToken leaseSeconds error now)
      (fun _ db' => Effects .none db.toTables db'.toTables)
      (fun _ db' => Effects .none db.toTables db'.toTables) db := by
  simp only [markOutcomeUnknown, Tx.wp_bind]
  refine Tx.wp_mono (wp_getDownloadExecution executionId) (fun e db' h => ?_)
    fun _ _ h => h ▸ .refl
  obtain ⟨rfl, he, -⟩ := h
  simp only [saveExecution, addExecutionEvent, Tx.wp_ite, Tx.wp_bind, wp_requireApp, wp_liftApp,
    Tx.wp_modify, Tx.wp_pure]
  exact ⟨fun _ => .refl, fun _ => ⟨fun h => ⟨fun _ _ => ⟨fun _ =>
    (Effect.execution he (.outcomeUnknown h)).single, fun _ => .refl⟩, fun _ _ => .refl⟩,
    fun _ => .refl⟩⟩

/-! ### Finalisation -/

/-- Consuming an approval moves it on, and nothing else. -/
theorem wp_consumeApproval (ha : a ∈ db.approvals) (actor : String) (now : DateTime) :
    Tx.wp (consumeApproval a.id actor now)
      (fun _ db' => db'.toTables =
        { db.toTables with
          approvals := db.approvals.save { a with status := .consumed, decidedAt := some now } })
      (fun _ _ => True) db := by
  have hget : db.approvals.get? a.id = some a := Table.get?_key ha
  simp only [consumeApproval, hget, stageExpirationIfNeeded, Tx.wp_bind, Tx.wp_get,
    Tx.wp_ofOption, wp_liftApp, wp_requireApp, Tx.wp_ite, Tx.wp_pure, transition, saveApproval,
    addEvent, addApprovalEvent, Tx.wp_modify]
  simp

omit [Python] in
/-- A new job is stored, if it satisfies its constraints, under a new identifier, for an execution
that has none. -/
theorem wp_insertJob (job : DownloadJob) :
    Tx.wp (insertJob job)
      (fun _ db' => job.SatisfiesChecks ∧ db.jobs.get? job.id = none ∧
        jobOfExecution db.toTables job.executionId = none ∧
        db' = { db with jobs := db.jobs.save job })
      (fun _ _ => True) db := by
  simp only [insertJob, Tx.wp_bind, Tx.wp_get, Tx.wp_require, Tx.wp_modify]
  exact ⟨fun h => ⟨h.1, h.2.1, h.2.2, trivial⟩, fun _ => trivial⟩

theorem wp_requireFinalAutomationSubmissionCas (e : DownloadExecution)
    (snapshotHitAndRun : Option Bool) (settings : Settings) (newId : Uuid) (now : DateTime) :
    Tx.wp (requireFinalAutomationSubmissionCas e snapshotHitAndRun settings newId now)
      (fun _ db' => Effects .none db.toTables db'.toTables ∧ SameRows db.toTables db'.toTables)
      (fun _ _ => True) db := by
  unfold requireFinalAutomationSubmissionCas
  simp only [Tx.wp_ite, Tx.wp_pure, Tx.wp_bind]
  refine ⟨fun _ => ⟨.refl, .refl _⟩, fun _ => ?_⟩
  refine Tx.wp_mono (wp_getCurrentPolicy newId now) (fun r db' h => ?_) fun _ _ _ => trivial
  simp only [wp_requireApp]
  exact ⟨fun _ => ⟨h.1, h.2.1⟩, fun _ => trivial⟩

theorem wp_finalizeSubmitting {e : DownloadExecution} (he : e ∈ db.executions)
    (h : e.status = .submitting) (observed : QbTorrent) {outcome : DownloadExecutionStatus}
    (houtcome : outcome = .submitted ∨ outcome = .alreadyPresent) (settings : Settings)
    (actor : String) (newIds : Uuid × Uuid) (clock : ℕ → DateTime) :
    Tx.wp (finalizeSubmitting e observed outcome settings actor newIds clock)
      (fun _ db' => Effects .none db.toTables db'.toTables) (fun _ _ => True) db := by
  simp only [finalizeSubmitting, Tx.wp_bind, Tx.wp_get, Tx.wp_ofOption, wp_liftApp]
  refine ⟨fun a hget => ⟨fun snapshot _ => ?_, fun _ _ => trivial⟩, fun _ => trivial⟩
  obtain ⟨hget, hexecuting⟩ := Option.filter_eq_some_iff.mp hget
  obtain ⟨ha, haid⟩ := Table.get?_eq_some.mp hget
  have hexecuting : a.status = .executing := of_decide_eq_true hexecuting
  -- the last look of the fence changes no row that is read after it
  refine Tx.wp_mono (wp_requireFinalAutomationSubmissionCas ..) (fun _ db' hcas => ?_)
    fun _ _ _ => trivial
  obtain ⟨heff, hsame⟩ := hcas
  refine Tx.wp_mono wp_getVerifiedPlan (fun plan db'' hplan => ?_) fun _ _ _ => trivial
  obtain ⟨rfl, -, -⟩ := hplan
  simp only [Tx.wp_ofExcept, wp_requireApp]
  refine ⟨fun _ _ => ⟨fun _ => ⟨fun contents _ => ?_, fun _ _ => trivial⟩, fun _ => trivial⟩,
    fun _ _ => trivial⟩
  refine Tx.wp_mono (wp_insertJob _) (fun _ db' hjob => ?_) fun _ _ _ => trivial
  obtain ⟨hchecks, hid, hnone, rfl⟩ := hjob
  have ha' : a ∈ db''.approvals := by rw [hsame.approvals]; exact ha
  refine Tx.wp_mono (wp_consumeApproval (a := a) ?_ actor _)
    (fun _ db' hconsumed => ?_) fun _ _ _ => trivial
  · exact ha'
  simp only [saveExecution, addExecutionEvent, addExecutionApprovalEvent, addApprovalEvent,
    addJobEvent, Tx.wp_modify, Tx.wp_pure]
  have he' : e ∈ db''.executions := by rw [hsame.executions]; exact he
  -- one change: the job, the approval and the execution
  refine heff.tail ?_
  have hfinal : Effect .none db''.toTables
      { db''.toTables with
        jobs := db''.jobs.save (newDownloadJob newIds.2 e a plan observed contents (clock 2))
        approvals := db''.approvals.save
          { a with status := .consumed, decidedAt := some (clock 3) }
        executions := db''.executions.save (finalizedExecution e outcome (clock 2)) } :=
    .finalize he' h ha' haid hexecuting houtcome hid rfl hnone hchecks
  simpa only [hconsumed] using hfinal

/-- **Finalisation.** -/
theorem wp_finalizeDownloadSubmission (executionId : String) (observed : QbTorrent)
    (outcome : DownloadExecutionStatus) (settings : Settings) (actor leaseToken : String)
    (newIds : Uuid × Uuid) (clock : ℕ → DateTime) :
    Tx.wp (finalizeDownloadSubmission executionId observed outcome settings actor leaseToken newIds
        clock)
      (fun _ db' => Effects .none db.toTables db'.toTables) (fun _ _ => True) db := by
  simp only [finalizeDownloadSubmission, Tx.wp_bind, wp_requireApp]
  refine ⟨fun houtcome => ?_, fun _ => trivial⟩
  refine Tx.wp_mono (wp_getDownloadExecution executionId) (fun e db' h => ?_)
    fun _ _ _ => trivial
  obtain ⟨rfl, he, -⟩ := h
  simp only [Tx.wp_get, Tx.wp_ite, Tx.wp_bind, Tx.wp_ofOption, wp_requireApp, wp_liftApp]
  refine ⟨fun _ => ⟨fun _ => ⟨fun _ _ => .refl, fun _ => trivial⟩, fun _ => trivial⟩, fun _ =>
    ⟨fun _ => ⟨fun hsubmitting => ⟨fun _ _ => ?_, fun _ _ => trivial⟩, fun _ => trivial⟩,
      fun _ => trivial⟩⟩
  exact wp_finalizeSubmitting he hsubmitting observed houtcome settings actor newIds clock

end LibSeek.ControlPlane
