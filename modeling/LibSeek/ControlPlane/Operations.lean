/-
Runs of the control plane.

Everything that the program does to the control plane is a sequence of calls of its services and of
the executor's transactions, each of which commits, or raises and leaves nothing behind but an expiry.
This module names the calls, says what each of them commits, and follows the database through a list
of them.  A transaction that makes several calls is a list of them with nothing in between.

Here a call finds the rows that it goes by in the database.  A route that has committed before goes
on with a request as it was then; its calls are those of `ControlPlane.HeldRequests`.

Main definitions:

* `ControlPlane.Operation` — a call, with all that the outside supplies to it;
* `ControlPlane.Operation.body`, `ControlPlane.Operation.commit` — what it runs and commits;
* `ControlPlane.Operation.licence` — the changes that not every call makes;
* `ControlPlane.Operation.request?` — the request that a call of a route goes by;
* `ControlPlane.run` — **the database after a list of calls**.

Main results:

* `ControlPlane.Operation.effects`, `ControlPlane.Operation.approves` — every call is a sequence of
  changes of the protocol, or the approval of a request;
* `ControlPlane.invariant_run` — **the invariant holds after every list of calls**.
-/

import LibSeek.ControlPlane.AutomationSteps
import LibSeek.ControlPlane.ExecutorSteps
import LibSeek.ControlPlane.Invariant

set_option relaxedAutoImplicit false
set_option autoImplicit false

namespace LibSeek.ControlPlane

open LibSeek.Core LibSeek.Lib LibSeek.Models LibSeek.Schemas LibSeek.Services LibSeek.Workers

variable [Python] [HexDigest]

/-! ### Calls -/

/-- A call of the services or of the executor on the control plane, with all that the outside
supplies to it: the request, the settings in force, the readings of the clock, the identifiers and
secrets drawn, the answers of the downloader. -/
inductive Operation where
  | getCurrentPolicy (newId : Uuid) (now : DateTime)
  | publishPolicyRevision (request : PolicyRevisionRequest) (actor : String)
      (newIds : Uuid × Uuid) (clock : ℕ → DateTime)
  | recordStageDecision (revision : AutomationPolicyRevision) (spec : DecisionSpec) (newId : Uuid)
  | createApprovalRequest (candidateId : String) (rows : CandidateRows)
      (request : ApprovalCreateRequest) (settings : Settings) (actor : String) (newId : Uuid)
      (now : DateTime)
  | getOrCreatePendingApprovalRequest (candidateId : String) (rows : CandidateRows)
      (request : ApprovalCreateRequest) (settings : Settings) (actor : String) (newId : Uuid)
      (clock : ℕ → DateTime)
  | requirePendingApproval (approvalId : String) (now : DateTime)
  | savePreflightResult (approvalId : String) (replies : QbReadReplies) (settings : Settings)
      (actor : String) (evaluatedAt now : DateTime)
  | approveRequest (approvalId : String) (request : ApprovalApproveRequest) (settings : Settings)
      (actor : String) (newId : Uuid) (now : DateTime)
  | approveRequestAutomatically (approvalId : String) (settings : Settings) (actor : String)
      (newId : Uuid) (clock : ℕ → DateTime)
  | rejectRequest (approvalId : String) (reason : Option String) (actor : String) (now : DateTime)
  | revokeRequest (approvalId : String) (reason : Option String) (actor : String) (now : DateTime)
  | createExecutionIntent (approvalId : String) (request : ExecutionIntentCreateRequest)
      (settings : Settings) (actor : String) (newId : Uuid) (secret : String) (now : DateTime)
  | executeApprovedPlan (approvalId : String) (request : DownloadExecutionCreateRequest)
      (idempotencyKey : String) (settings : Settings) (actor : String) (newId : Uuid)
      (now : DateTime) (seen : Bool × Bool)
  | maybeCreateAutomaticExecution (approvalId : String) (settings : Settings)
      (env : AutomationEnvironment)
  | requestReconciliation (executionId : String) (reason : Option String) (actor : String)
      (now : DateTime)
  | claimNextExecution (x : DownloadExecutor) (leaseToken : Uuid) (now : DateTime)
      (locked : String → Bool)
  | renewLease (x : DownloadExecutor) (claim : ExecutionClaim) (now : DateTime)
  | recoverStaleExecutions (x : DownloadExecutor) (now : DateTime) (locked : String → Bool)
  | ensureExternalActionAllowed (x : DownloadExecutor) (claim : ExecutionClaim)
      (expectedStatus : DownloadExecutionStatus) (externalWriteMayHaveOccurred : Bool)
      (newId : Uuid) (clock : DateTime × DateTime)
  | reserveSubmission (x : DownloadExecutor) (claim : ExecutionClaim)
      (metadata : ValidatedTorrent) (clock : DateTime × DateTime × DateTime)
  | finalizeDownloadSubmission (executionId : String) (observed : QbTorrent)
      (outcome : DownloadExecutionStatus) (settings : Settings) (actor leaseToken : String)
      (newIds : Uuid × Uuid) (clock : ℕ → DateTime)
  | markValidationFailure (x : DownloadExecutor) (claim : ExecutionClaim) (error : AppError)
      (now : DateTime)
  | markReservedFailure (x : DownloadExecutor) (claim : ExecutionClaim) (error : AppError)
      (torrentAddMayHaveOccurred : Bool) (now : DateTime)

/-- A pre-flight of a request, on the request as the transaction finds it: the answers of the
downloader are judged against the snapshot of the request, and the result is saved while the request
is pending. -/
def preflightRequest (approvalId : String) (replies : QbReadReplies) (settings : Settings)
    (actor : String) (evaluatedAt now : DateTime) : DbTx PreflightResult := do
  let approval ← getApprovalOr404 approvalId
  let snapshot ← liftApp (verifySnapshot approval)
  let result ← liftApp (evaluatePreflight replies snapshot settings evaluatedAt)
  let _ ← savePreflightResult approval result actor now
  return result

/-- A call on the request of an identifier, as the transaction finds it. -/
def onApproval {α : Type} (approvalId : String) (call : ApprovalRequest → DbTx α) : DbTx Unit := do
  let approval ← getApprovalOr404 approvalId
  let _ ← call approval
  return ()

/-- A call whose value is not looked at. -/
def ignoring {α : Type} (call : DbTx α) : DbTx Unit := do
  let _ ← call
  return ()

/-- What a call runs. -/
def Operation.body : Operation → DbTx Unit
  | .getCurrentPolicy newId now => ignoring (Services.getCurrentPolicy newId now)
  | .publishPolicyRevision request actor newIds clock =>
      ignoring (Services.publishPolicyRevision request actor newIds clock)
  | .recordStageDecision revision spec newId =>
      ignoring (Services.recordStageDecision revision spec newId)
  | .createApprovalRequest candidateId rows request settings actor newId now =>
      ignoring (Services.createApprovalRequest candidateId rows request settings actor newId now)
  | .getOrCreatePendingApprovalRequest candidateId rows request settings actor newId clock =>
      ignoring (Services.getOrCreatePendingApprovalRequest candidateId rows request settings actor
        newId clock)
  | .requirePendingApproval approvalId now =>
      onApproval approvalId fun approval => Services.requirePendingApproval approval now
  | .savePreflightResult approvalId replies settings actor evaluatedAt now =>
      ignoring (preflightRequest approvalId replies settings actor evaluatedAt now)
  | .approveRequest approvalId request settings actor newId now =>
      onApproval approvalId fun approval =>
        Services.approveRequest approval request settings actor newId now
  | .approveRequestAutomatically approvalId settings actor newId clock =>
      onApproval approvalId fun approval =>
        Services.approveRequestAutomatically approval settings actor newId clock
  | .rejectRequest approvalId reason actor now =>
      onApproval approvalId fun approval => Services.rejectRequest approval reason actor now
  | .revokeRequest approvalId reason actor now =>
      onApproval approvalId fun approval => Services.revokeRequest approval reason actor now
  | .createExecutionIntent approvalId request settings actor newId secret now =>
      ignoring (Services.createExecutionIntent approvalId request settings { actor := actor } newId
        secret now)
  | .executeApprovedPlan approvalId request idempotencyKey settings actor newId now seen =>
      ignoring (Services.executeApprovedPlan approvalId request idempotencyKey settings
        { actor := actor } newId now seen)
  | .maybeCreateAutomaticExecution approvalId settings env =>
      onApproval approvalId fun approval =>
        Services.maybeCreateAutomaticExecution approval settings env
  | .requestReconciliation executionId reason actor now =>
      ignoring (Services.requestReconciliation executionId reason actor now)
  | .claimNextExecution x leaseToken now locked =>
      ignoring (Workers.claimNextExecution x leaseToken now locked)
  | .renewLease x claim now => ignoring (Workers.renewLease x claim now)
  | .recoverStaleExecutions x now locked => ignoring (Workers.recoverStaleExecutions x now locked)
  | .ensureExternalActionAllowed x claim expectedStatus flag newId clock =>
      ignoring (Workers.ensureExternalActionAllowed x claim expectedStatus flag newId clock)
  | .reserveSubmission x claim metadata clock =>
      ignoring (Workers.reserveSubmission x claim metadata clock)
  | .finalizeDownloadSubmission executionId observed outcome settings actor leaseToken newIds clock =>
      ignoring (Services.finalizeDownloadSubmission executionId observed outcome settings actor
        leaseToken newIds clock)
  | .markValidationFailure x claim error now =>
      Workers.markValidationFailure x claim error now
  | .markReservedFailure x claim error flag now =>
      Workers.markReservedFailure x claim error flag now

/-- `_commit_expiration_on_error`: whether what was staged before an exception is committed, by the
routes of the request of an identifier. -/
def commitExpirationOnError (approvalId : String) (e : Exn) (staged : Db) : Bool :=
  e.errorCode? = some "APPROVAL_EXPIRED" &&
    (staged.approvals.get? approvalId).any (·.status = .expired)

/-- `_commit_safe_state_on_error`. -/
def commitSafeStateOnError (e : Exn) (_ : Db) : Bool :=
  keepExpiry e

/-- The exceptions of a call on which its caller commits. -/
def Operation.keep : Operation → Exn → Db → Bool
  | .requirePendingApproval approvalId _ => commitExpirationOnError approvalId
  | .savePreflightResult approvalId .. => commitExpirationOnError approvalId
  | .approveRequest approvalId .. => commitExpirationOnError approvalId
  | .approveRequestAutomatically approvalId .. => commitExpirationOnError approvalId
  | .rejectRequest approvalId .. => commitExpirationOnError approvalId
  | .revokeRequest approvalId .. => commitExpirationOnError approvalId
  | .maybeCreateAutomaticExecution approvalId .. => commitExpirationOnError approvalId
  | .createExecutionIntent .. => commitSafeStateOnError
  | .executeApprovedPlan .. => commitSafeStateOnError
  | _ => fun _ _ => false

/-- The database that a call leaves behind. -/
def Operation.commit (op : Operation) (db : Db) : Db :=
  (Tx.commitIf op.keep op.body db).2

/-- The changes a call may make that not every call may: the guard of an external request cancels
under the lease it is for, a reservation reserves under it, and a pre-flight saves its result in the
row of its request. -/
def Operation.licence : Operation → Licence
  | .savePreflightResult approvalId .. => { preflight := approvalId }
  | .ensureExternalActionAllowed _ claim _ flag .. => { fencer := fencerOf claim flag }
  | .reserveSubmission _ claim .. => { reserves := claim.leaseToken }
  | _ => .none

/-- The request that a call may approve, with the acknowledgements that an operator gave, the
settings and the time. -/
def Operation.approval? :
    Operation → Option (String × Option ApprovalApproveRequest × Settings × DateTime)
  | .approveRequest approvalId request settings _ _ now =>
      some (approvalId, some request, settings, now)
  | .approveRequestAutomatically approvalId settings _ _ clock =>
      some (approvalId, none, settings, clock 1)
  | _ => none

/-- The request that a call of a route goes by: the session of the route may have read it in an
earlier transaction. -/
def Operation.request? : Operation → Option String
  | .requirePendingApproval approvalId _ => some approvalId
  | .savePreflightResult approvalId .. => some approvalId
  | .approveRequest approvalId .. => some approvalId
  | .approveRequestAutomatically approvalId .. => some approvalId
  | .createExecutionIntent approvalId .. => some approvalId
  | .executeApprovedPlan approvalId .. => some approvalId
  | .maybeCreateAutomaticExecution approvalId .. => some approvalId
  | _ => none

/-! ### What a call commits -/

section Steps

variable {db : Db}

omit [Python] [HexDigest] in
@[simp] theorem wp_ignoring {α : Type} (call : DbTx α) {Q : Unit → Db → Prop}
    {E : Exn → Db → Prop} :
    Tx.wp (ignoring call) Q E db ↔ Tx.wp call (fun _ db' => Q () db') E db := by
  simp only [ignoring, Tx.wp_bind, Tx.wp_pure]

omit [HexDigest] in
/-- A call on the request of an identifier has the specification of the call on each row of it. -/
theorem wp_onApproval {α : Type} {approvalId : String} {call : ApprovalRequest → DbTx α}
    {Q : Unit → Db → Prop} {E : Exn → Db → Prop}
    (h : ∀ a ∈ db.approvals, a.id = approvalId → Tx.wp (call a) (fun _ db' => Q () db') E db)
    (hE : ∀ e, E e db) : Tx.wp (onApproval approvalId call) Q E db := by
  simp only [onApproval, Tx.wp_bind, Tx.wp_pure]
  refine Tx.wp_mono (wp_getApprovalOr404 approvalId) (fun a db' ha => ?_) fun e db' he => ?_
  · obtain ⟨rfl, ha, hid, -⟩ := ha
    exact h a ha hid
  · rw [he]
    exact hE e

omit [Python] [HexDigest] in
theorem keepExpiry_of_commitExpiration {approvalId : String} {e : Exn}
    (h : commitExpirationOnError approvalId e db = true) : keepExpiry e = true := by
  unfold commitExpirationOnError at h
  unfold keepExpiry
  rw [(Bool.and_eq_true_iff.mp h).1, Bool.true_or]

omit [HexDigest] in
/-- **A pre-flight**: the result is that of the answers against the snapshot of the request, and it
stands in the row of the request afterwards. -/
theorem wp_preflightRequest (approvalId : String) (replies : QbReadReplies) (settings : Settings)
    (actor : String) (evaluatedAt now : DateTime) :
    Tx.wp (preflightRequest approvalId replies settings actor evaluatedAt now)
      (fun result db' => Effects { preflight := approvalId } db.toTables db'.toTables ∧
        ∃ a ∈ db.approvals, a.id = approvalId ∧
          db'.approvals = db.approvals.save (preflighted a result))
      (fun _ db' => Effects .none db.toTables db'.toTables) db := by
  simp only [preflightRequest, Tx.wp_bind, wp_liftApp, Tx.wp_pure]
  refine Tx.wp_mono (wp_getApprovalOr404 approvalId) (fun a db' h => ?_) fun _ db' h => h ▸ .refl
  obtain ⟨rfl, ha, rfl, -⟩ := h
  refine ⟨fun snapshot hsnapshot => ⟨fun result hresult => ?_, fun _ _ => .refl⟩,
    fun _ _ => .refl⟩
  refine Tx.wp_mono (wp_savePreflightResult ha hsnapshot hresult actor now) (fun a' db'' h => ?_)
    fun _ _ h => h
  exact ⟨h.1, a, ha, rfl, h.2.2.2⟩

/-- What a call stages that approves nothing is a sequence of changes under its licence, also what it
stages before an exception that its caller may commit. -/
theorem Operation.wp_effects (hs : Bindings db.toTables) (op : Operation)
    (hop : op.approval? = none) :
    Tx.wp op.body (fun _ db' => Effects op.licence db.toTables db'.toTables)
      (fun e db' => (∃ s, op.keep e s = true) → Effects op.licence db.toTables db'.toTables) db := by
  -- what a call stages before an exception counts only where its caller commits it
  cases op with
  | getCurrentPolicy =>
      exact (wp_ignoring _).mpr (Tx.wp_mono (wp_getCurrentPolicy ..) (fun _ _ h => h.1)
        fun _ _ _ hkeep => by cases hkeep.choose_spec)
  | publishPolicyRevision =>
      exact (wp_ignoring _).mpr (Tx.wp_mono (wp_publishPolicyRevision ..) (fun _ _ h => h)
        fun _ _ h _ => h)
  | recordStageDecision =>
      exact (wp_ignoring _).mpr (Tx.wp_mono (wp_recordStageDecision ..) (fun _ _ h => h)
        fun _ _ h _ => h)
  | createApprovalRequest =>
      exact (wp_ignoring _).mpr (Tx.wp_mono (wp_createApprovalRequest ..) (fun _ _ h => h.1)
        fun _ _ h _ => h)
  | getOrCreatePendingApprovalRequest =>
      exact (wp_ignoring _).mpr (Tx.wp_mono (wp_getOrCreatePendingApprovalRequest ..)
        (fun _ _ h => h.1) fun _ _ h _ => h)
  | requirePendingApproval =>
      exact wp_onApproval (fun a ha _ => Tx.wp_mono (wp_requirePendingApproval ha _)
        (fun _ _ h => h.1 ▸ .refl) fun _ _ h _ => h) fun _ _ => .refl
  | savePreflightResult =>
      exact (wp_ignoring _).mpr (Tx.wp_mono (wp_preflightRequest ..) (fun _ _ h => h.1)
        fun _ _ h _ => h.weaken)
  | approveRequest => cases hop
  | approveRequestAutomatically => cases hop
  | rejectRequest =>
      exact wp_onApproval (fun a ha _ => Tx.wp_mono (wp_rejectRequest ha ..) (fun _ _ h => h)
        fun _ _ h _ => h) fun _ _ => .refl
  | revokeRequest =>
      exact wp_onApproval (fun a ha _ => Tx.wp_mono (wp_revokeRequest ha ..) (fun _ _ h => h)
        fun _ _ h _ => h) fun _ _ => .refl
  | createExecutionIntent =>
      exact (wp_ignoring _).mpr (Tx.wp_mono (wp_createExecutionIntent ..) (fun _ _ h => h.1)
        fun _ _ h _ => h)
  | executeApprovedPlan =>
      exact (wp_ignoring _).mpr (Tx.wp_mono (wp_executeApprovedPlan _ _ _ _ _ _ _ _
        decidedFor_manual) (fun _ _ h => h.effects) fun _ _ h _ => h)
  | maybeCreateAutomaticExecution =>
      refine wp_onApproval (fun a ha _ => ?_) fun _ _ => .refl
      obtain ⟨newId, hid⟩ := hs.ids a ha
      exact Tx.wp_mono (wp_maybeCreateAutomaticExecution newId ha hid _ _) (fun _ _ h => h)
        fun _ _ h _ => h
  | requestReconciliation =>
      exact (wp_ignoring _).mpr (Tx.wp_mono (wp_requestReconciliation ..) (fun _ _ h => h)
        fun _ _ _ hkeep => by cases hkeep.choose_spec)
  | claimNextExecution x leaseToken now locked =>
      refine (wp_ignoring _).mpr (Tx.wp_mono (wp_claimNextExecution ..) (fun r db' h => ?_)
        fun _ _ h => h.elim)
      rcases h with ⟨-, rfl⟩ | ⟨e, he, hstatus, hattempts, -, htables⟩
      · exact .refl
      · rw [htables]
        exact (Effect.execution he (.claim hstatus hattempts)).single
  | renewLease =>
      exact (wp_ignoring _).mpr (Tx.wp_mono (wp_renewLease _) (fun _ _ h => h)
        fun _ _ _ hkeep => by cases hkeep.choose_spec)
  | recoverStaleExecutions =>
      exact (wp_ignoring _).mpr (Tx.wp_mono (wp_recoverStaleExecutions ..) (fun _ _ h => h)
        fun _ _ h => h.elim)
  | ensureExternalActionAllowed =>
      exact (wp_ignoring _).mpr (Tx.wp_mono (wp_ensureExternalActionAllowed ..) (fun _ _ h => h.1)
        fun _ _ _ hkeep => by cases hkeep.choose_spec)
  | reserveSubmission =>
      exact (wp_ignoring _).mpr (Tx.wp_mono (wp_reserveSubmission ..) (fun _ _ h => h.1)
        fun _ _ _ hkeep => by cases hkeep.choose_spec)
  | finalizeDownloadSubmission =>
      exact (wp_ignoring _).mpr (Tx.wp_mono (wp_finalizeDownloadSubmission ..) (fun _ _ h => h)
        fun _ _ _ hkeep => by cases hkeep.choose_spec)
  | markValidationFailure =>
      exact Tx.wp_mono (wp_markValidationFailure ..) (fun _ _ h => h)
        fun _ _ _ hkeep => by cases hkeep.choose_spec
  | markReservedFailure =>
      exact Tx.wp_mono (wp_markReservedFailure ..) (fun _ _ h => h)
        fun _ _ _ hkeep => by cases hkeep.choose_spec

/-- **What a call commits** that approves nothing is a sequence of changes under its licence. -/
theorem Operation.effects (hs : Bindings db.toTables) (op : Operation)
    (hop : op.approval? = none) :
    Effects op.licence db.toTables (op.commit db).toTables :=
  Tx.commitIf_wp (P := fun db' : Db => Effects op.licence db.toTables db'.toTables)
    (Tx.wp_mono (op.wp_effects hs hop) (fun _ _ h => h) fun _ db' h hkeep => h ⟨db', hkeep⟩) .refl

/-- What a call stages that may approve a request is a sequence of changes, or the approval of that
request. -/
theorem Operation.wp_approves {op : Operation} {approvalId : String}
    {given : Option ApprovalApproveRequest} {settings : Settings} {now : DateTime}
    (hop : op.approval? = some (approvalId, given, settings, now)) :
    Tx.wp op.body
      (fun _ db' => Effects .none db.toTables db'.toTables ∨
        ∃ a request plan, a.id = approvalId ∧ (∀ r ∈ given, request = r) ∧
          ApprovedBy db.toTables a settings request now plan db'.toTables)
      (fun e db' => (∃ s, op.keep e s = true) → Effects .none db.toTables db'.toTables) db := by
  cases op with
  | approveRequest =>
      cases hop
      refine wp_onApproval (fun a ha haid => ?_) fun _ _ => .refl
      exact Tx.wp_mono (wp_approveRequest ha ..)
        (fun r _ h => Or.inr ⟨a, _, r.2, haid, by simp, h.1⟩)
        fun _ _ h hkeep => h (keepExpiry_of_commitExpiration hkeep.choose_spec)
  | approveRequestAutomatically =>
      cases hop
      refine wp_onApproval (fun a ha haid => ?_) fun _ _ => .refl
      refine Tx.wp_mono (wp_approveRequestAutomatically ha ..) (fun r _ h => ?_)
        fun _ _ h hkeep => h (keepExpiry_of_commitExpiration hkeep.choose_spec)
      obtain ⟨request, happroved, -⟩ := h
      exact Or.inr ⟨a, request, r.2, haid, by simp, happroved⟩
  | _ => cases hop

/-- **What a call commits** that may approve a request is a sequence of changes, or the approval of
that request. -/
theorem Operation.approves (db : Db) {op : Operation} {approvalId : String}
    {given : Option ApprovalApproveRequest} {settings : Settings} {now : DateTime}
    (hop : op.approval? = some (approvalId, given, settings, now)) :
    Effects .none db.toTables (op.commit db).toTables ∨
      ∃ a request plan, a.id = approvalId ∧ (∀ r ∈ given, request = r) ∧
        ApprovedBy db.toTables a settings request now plan (op.commit db).toTables := by
  refine Tx.commitIf_wp (P := fun db' : Db => Effects .none db.toTables db'.toTables ∨
    ∃ a request plan, a.id = approvalId ∧ (∀ r ∈ given, request = r) ∧
      ApprovedBy db.toTables a settings request now plan db'.toTables) ?_ (Or.inl .refl)
  exact Tx.wp_mono (Operation.wp_approves hop) (fun _ _ h => h)
    fun _ db' h hkeep => Or.inl (h ⟨db', hkeep⟩)

/-- What a call stages is a sequence of changes of the protocol. -/
theorem Operation.wp_moves (hs : Bindings db.toTables) (op : Operation) :
    Tx.wp op.body (fun _ db' => Moves op.licence db.toTables db'.toTables)
      (fun e db' => (∃ s, op.keep e s = true) → Moves op.licence db.toTables db'.toTables) db := by
  cases h : op.approval? with
  | none =>
      exact Tx.wp_mono (op.wp_effects hs h) (fun _ _ heff => heff.moves)
        fun _ _ heff hkeep => (heff hkeep).moves
  | some decision =>
      obtain ⟨approvalId, given, settings, now⟩ := decision
      refine Tx.wp_mono (Operation.wp_approves h) (fun _ db' heff => ?_)
        fun _ _ heff hkeep => (heff hkeep).weaken.moves
      rcases heff with heff | ⟨a, request, plan, -, -, happroved⟩
      · exact heff.weaken.moves
      · exact happroved.approve.moves

/-- **Every call is a sequence of changes of the protocol.** -/
theorem Operation.moves (hs : Bindings db.toTables) (op : Operation) :
    Moves op.licence db.toTables (op.commit db).toTables :=
  Tx.commitIf_wp (P := fun db' : Db => Moves op.licence db.toTables db'.toTables)
    (Tx.wp_mono (op.wp_moves hs) (fun _ _ h => h) fun _ db' h hkeep => h ⟨db', hkeep⟩) .refl

end Steps

/-! ### Runs -/

/-- The database after a list of calls, from a database. -/
def runFrom (db : Db) (ops : List Operation) : Db :=
  ops.foldl (fun db op => op.commit db) db

/-- **The database after a list of calls**, from the empty one. -/
def run (ops : List Operation) : Db :=
  runFrom {} ops

@[simp] theorem run_nil : run [] = {} :=
  rfl

@[simp] theorem run_concat (ops : List Operation) (op : Operation) :
    run (ops ++ [op]) = op.commit (run ops) := by
  simp [run, runFrom, List.foldl_append]

theorem run_append (ops ops' : List Operation) : run (ops ++ ops') = runFrom (run ops) ops' := by
  simp [run, runFrom, List.foldl_append]

/-- **The invariant holds after every list of calls.** -/
theorem invariant_run (ops : List Operation) : Invariant (run ops).toTables := by
  induction ops using List.reverseRecOn with
  | nil => exact invariant_initial
  | append_singleton ops op ih =>
      rw [run_concat]
      exact ih.moves (op.moves ih.bindings)

end LibSeek.ControlPlane
