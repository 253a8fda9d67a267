/-
Error atomicity of the routes.

A route that answers with an error should leave nothing behind but the audited expiry of its request.
The routes commit on an error that reports an expiry, and with it everything that the services have
staged in the transaction.  For the pre-flight and for the intent nothing is staged before an expiry
can be found.  The approval reads the clock again after it has staged the result of the pre-flight;
where that reading is the first to have reached the expiry, the result stays behind.

Main definitions:

* `Api.migratedDb` — the database that the migrations leave;
* `Api.LeaveRequest` — others leave the request as a route has read it;
* `Api.ExpiresLate` — the expiry of the request falls after the first change staged by its approval.

Main results:

* `Api.preflightApprovalRequest_failsCleanly`, `Api.createApprovalExecutionIntent_failsCleanly` — the
  routes that are error atomic;
* `Api.approveApprovalRequest_failsCleanly` — the approval is, unless the request expires late;
* `Api.approvalRoutes_failCleanly` — **the routes after every run**.
-/

import LibSeek.Api.ApprovalRoutes
import LibSeek.ControlPlane.ExpirySteps
import LibSeek.ControlPlane.HeldRequests
import LibSeek.ControlPlane.PolicySessions
import LibSeek.Services.Decisions

set_option relaxedAutoImplicit false
set_option autoImplicit false

namespace LibSeek.Api

open LibSeek.Core LibSeek.Lib LibSeek.Models LibSeek.Schemas LibSeek.Services LibSeek.ControlPlane

open InSession (service commit rollback outside FailsCleanly)

section

variable [Python] [HexDigest]

/-! ### Databases with a policy -/

/-- The database that the migrations leave: a policy, and nothing else. -/
def migratedDb (migratedAt : DateTime) : Db :=
  { revisions := (∅ : Table AutomationPolicyRevision).save (PolicyWorld.migratedPolicy migratedAt)
    head := some { currentRevisionId := (PolicyWorld.migratedPolicy migratedAt).id, version := 1 } }

omit [HexDigest] in
theorem invariant_migratedDb (migratedAt : DateTime) :
    Invariant (migratedDb migratedAt).toTables where
  approvals _ h := absurd h (Table.notMem_empty _)
  planned _ h := absurd h (Table.notMem_empty _)
  decided _ h := absurd h (Table.notMem_empty _)
  plan_unique := Table.uniqueBy_empty
  origin _ h := absurd h (Table.notMem_empty _)
  nonce_unique := Table.uniqueBy_empty
  consumed _ h := absurd h (Table.notMem_empty _)
  used _ h := absurd h (Table.notMem_empty _)
  executions _ h := absurd h (Table.notMem_empty _)
  bound _ h := absurd h (Table.notMem_empty _)
  approval_unique := Table.uniqueBy_empty
  intent_unique := Table.uniqueBy_empty
  key_unique := Table.uniqueBy_empty
  agree _ h := absurd h (Table.notMem_empty _)
  verified _ h := absurd h (Table.notMem_empty _)
  jobs _ h := absurd h (Table.notMem_empty _)
  job_unique := Table.uniqueBy_empty

/-- The databases of a migrated deployment: the control plane is sound, and there is a policy. -/
structure Deployed (db : Db) : Prop where
  sound : Invariant db.toTables
  policy : db.head ≠ none

omit [HexDigest] in
/-- No change takes the policy away. -/
theorem head_ne_none_of_moves {l : Licence} {s s' : Tables} (h : Moves l s s')
    (hs : s.head ≠ none) : s'.head ≠ none := by
  refine Moves.preserve (P := fun s => s.head ≠ none) (fun s s' h hs => ?_)
    (fun s s' h hs => ?_) h hs
  · cases h with
    | newRevision => exact Option.some_ne_none _
    | _ => exact hs
  · obtain ⟨a, settings, request, now, plan, happroved⟩ := h
    rw [happroved.tables]
    exact hs

theorem Deployed.runFrom {db : Db} (h : Deployed db) (ops : List Operation) :
    Deployed (runFrom db ops) := by
  induction ops generalizing db with
  | nil => exact h
  | cons op ops ih =>
      have hmoves := op.moves h.sound.bindings
      exact ih ⟨h.sound.moves hmoves, head_ne_none_of_moves hmoves h.policy⟩

/-! ### The handlers -/

/-- The session has committed nothing but expiries of a request. -/
def Clean (approvalId : String) (t : Session Db) : Prop :=
  ∀ c ∈ t.commits, Untouched approvalId c.1 c.2

omit [Python] [HexDigest] in
/-- A commit that leaves a request untouched. -/
theorem Clean.commit {approvalId : String} {t : Session Db} (h : Clean approvalId t)
    (hstaged : Untouched approvalId t.committed t.staged) :
    Clean approvalId
      { t with committed := t.staged, commits := t.commits ++ [(t.committed, t.staged)] } := by
  intro c hc
  rcases List.mem_append.mp hc with hc | hc
  · exact h c hc
  · obtain rfl := List.mem_singleton.mp hc
    exact hstaged

section Handlers

variable {α : Type} {approvalId : String} {t : Session Db} {Q : α → Session Db → Prop}

omit [Python] [HexDigest] in
/-- A service outside of every `try`: where it raises, nothing more is committed. -/
theorem wp_service_clean {m : DbTx α} (ht : Clean approvalId t)
    (h : Tx.wp m (fun x db => Q x { t with staged := db }) (fun _ _ => True) t.staged) :
    Tx.wp (service m) Q (fun _ t' => Clean approvalId t') t :=
  (InSession.wp_service m).mpr (Tx.wp_mono h (fun _ _ h => h) fun _ _ _ => ht)

omit [Python] [HexDigest] in
/-- **The handler of the approval routes**: a body that has only committed expiries, and that stages
an expiry at most wherever the handler commits, leaves nothing else behind. -/
theorem wp_onAppError {a : ApprovalRequest} {body : Route α}
    (h : Tx.wp body Q (fun e t' => Clean approvalId t' ∧
      (ControlPlane.commitExpirationOnError a.id e t'.staged = true →
        Untouched approvalId t'.committed t'.staged)) t) :
    Tx.wp (onAppError (Api.commitExpirationOnError a) body) Q (fun _ t' => Clean approvalId t')
      t := by
  unfold onAppError
  rw [Tx.wp_handle]
  refine Tx.wp_mono h (fun _ _ h => h) fun e t' h => ?_
  cases e with
  | app error =>
      simp only [Api.commitExpirationOnError, Tx.wp_bind, Tx.wp_get, Tx.wp_ite,
        InSession.wp_commit, Tx.wp_pure, Tx.wp_raise]
      exact ⟨fun hkeep => h.1.commit (h.2 hkeep), fun _ => h.1⟩
  | integrity => exact h.1
  | other message => exact h.1

omit [Python] [HexDigest] in
/-- The handler around one service. -/
theorem wp_onAppError_service {a : ApprovalRequest} {m : DbTx α} (ht : Clean approvalId t)
    (h : Tx.wp m (fun x db => Q x { t with staged := db })
      (fun e db => ControlPlane.commitExpirationOnError a.id e db = true →
        Untouched approvalId t.committed db) t.staged) :
    Tx.wp (onAppError (Api.commitExpirationOnError a) (service m)) Q
      (fun _ t' => Clean approvalId t') t := by
  refine wp_onAppError ((InSession.wp_service m).mpr ?_)
  exact Tx.wp_mono h (fun _ _ h => h) fun _ _ h => ⟨ht, h⟩

end Handlers

section Routes

variable {db : Db} {a : ApprovalRequest}

omit [Python] [HexDigest] in
/-- The handler commits nothing while the row of its request has not expired. -/
theorem not_commitExpiration {approvalId : String} {e : Exn}
    (hrow : db.approvals.get? approvalId = some a) (hstatus : a.status ≠ .expired) :
    ¬ ControlPlane.commitExpirationOnError approvalId e db = true := by
  intro h
  unfold ControlPlane.commitExpirationOnError at h
  rw [hrow] at h
  have hexpired := (Bool.and_eq_true_iff.mp h).2
  exact hstatus (of_decide_eq_true hexpired)

omit [HexDigest] in
/-- The response to a request whose row is sound does not fail. -/
theorem wp_response {snapshot : ApprovalCandidateSnapshot}
    (hsnapshot : verifySnapshot a = .ok snapshot) {result : PreflightResult}
    (hstored : a.preflightResult = some (.dump result)) (now : DateTime) :
    Tx.wp (response a now) (fun _ _ => True) (fun _ _ => False) db := by
  have hcandidate : a.candidateSnapshot.modelValidate ApprovalCandidateSnapshot.valid =
      some snapshot := by
    simp only [verifySnapshot, bind_eq_ok, orRaise_eq_ok, pure_eq_ok] at hsnapshot
    obtain ⟨-, -, snapshot', hparsed, -, -, rfl⟩ := hsnapshot
    exact hparsed
  simp only [response, Tx.wp_bind, Tx.wp_get, wp_liftApp, Tx.wp_ofOption, Tx.wp_pure, hstored,
    hcandidate]
  refine ⟨fun _ _ => ⟨fun _ _ => trivial, fun h => by cases h⟩, fun e h => ?_⟩
  cases h

/-! ### Pre-flight -/

omit [Python] [HexDigest] in
theorem isActive_pending (h : a.status = .pending) : a.status.isActive = true := by
  rw [h]
  rfl

/-- The second transaction of the pre-flight stages an expiry at most, wherever its handler
commits. -/
theorem wp_savePreflight (ha : a ∈ db.approvals) (hpending : a.status = .pending)
    {result : PreflightResult} (hnotPass : result.overallStatus ≠ .pass) (call : PreflightCall)
    (env executionEnv : AutomationEnvironment) (snapshotHash : SnapshotHash) :
    Tx.wp (savePreflight call env executionEnv a snapshotHash result)
      (fun saved _ => saved = preflighted a result)
      (fun e db' => ControlPlane.commitExpirationOnError a.id e db' = true →
        Untouched a.id db db') db := by
  have hactive : a.status.isActive = true := isActive_pending hpending
  simp only [savePreflight, requireSameSnapshot, Tx.wp_bind, wp_requireApp]
  refine (wp_withHeld_self ha hactive).mpr (Tx.wp_mono
    (requirePendingApproval_untouched ha (call.clock 2)) (fun _ db' h => ?_)
    fun _ _ h _ => h.imp_right And.right)
  obtain ⟨rfl, -, -, -⟩ := h
  refine ⟨fun _ => ?_, fun _ _ => .refl⟩
  refine (wp_withHeld_self ha hactive).mpr (Tx.wp_mono
    (savePreflightResult_untouched ha result call.actor (call.clock 3))
    (fun saved db'' h => ?_) fun _ _ h _ => h)
  obtain ⟨rfl, -, -, hsaved, -, -⟩ := h
  -- from here on the row of the request is the pending one with its result
  have hrow : db''.approvals.get? a.id = some (preflighted a result) := by
    rw [hsaved]
    exact Table.get?_save_self _ (preflighted a result)
  have hstatus : (preflighted a result).status ≠ .expired := by
    change a.status ≠ .expired
    rw [hpending]
    decide
  have hmem := Table.mem_of_get?_eq_some hrow
  refine (wp_withHeld_self hmem hactive).mpr ((Tx.wp_bind _ _).mpr (Tx.wp_mono
    (maybeFinalizeAutomaticApproval_approvals rfl hnotPass ..) (fun _ db₃ h => ?_)
    fun e db₃ h => ?_))
  · rw [← h] at hrow
    simp only [Tx.wp_bind, Tx.wp_get, Tx.wp_pure]
    rw [show (preflighted a result).id = a.id from rfl, hrow]
    rfl
  · rw [← h] at hrow
    exact fun hkeep => absurd hkeep (not_commitExpiration hrow hstatus)

/-- What others commit between the transactions of a route leaves its request as it was read. -/
def LeaveRequest (call : PreflightCall) (db : Db) : Prop :=
  (ControlPlane.runFrom db call.others).approvals.get? call.approvalId =
    db.approvals.get? call.approvalId

theorem mem_of_leaveRequest {call : PreflightCall} (h : LeaveRequest call db)
    (ha : a ∈ db.approvals) (hid : a.id = call.approvalId) :
    a ∈ (ControlPlane.runFrom db call.others).approvals :=
  Table.mem_of_get?_eq_some (h.trans (Table.get?_eq_some.mpr ⟨ha, hid⟩))

/-- **The pre-flight of a request is error atomic**, where others leave the request as it was. -/
theorem preflightApprovalRequest_failsCleanly (hdb : Deployed db) (call : PreflightCall)
    (env executionEnv : AutomationEnvironment) (hothers : LeaveRequest call db) :
    FailsCleanly (Untouched call.approvalId) (preflightApprovalRequest call env executionEnv)
      db := by
  rw [InSession.failsCleanly_iff]
  simp only [preflightApprovalRequest, Tx.wp_bind]
  have hopened : Clean call.approvalId (Session.opened db) := fun c hc => by cases hc
  refine wp_service_clean hopened (Tx.wp_mono (requireStageNotDisabled_of_head hdb.policy ..)
    (fun _ db' h => ?_) fun _ _ _ => trivial)
  obtain rfl : db' = db := h
  refine wp_service_clean hopened (Tx.wp_mono (wp_getApprovalOr404 call.approvalId)
    (fun a db'' h => ?_) fun _ _ _ => trivial)
  obtain ⟨rfl, ha, haid, -⟩ := h
  refine wp_onAppError_service hopened (Tx.wp_mono (requirePendingApproval_untouched ha _)
    (fun snapshot db₁ h => ?_) fun _ _ h _ => haid ▸ h.imp_right And.right)
  obtain ⟨rfl, -, hpending, -⟩ := h
  simp only [InSession.wp_commit, InSession.wp_outside]
  have hclean : Clean call.approvalId _ := hopened.commit .refl
  have hkept := mem_of_leaveRequest hothers ha haid
  generalize ControlPlane.runFrom db₁ call.others = db₂ at hkept ⊢
  refine wp_service_clean hclean ((wp_liftApp _).mpr ⟨fun result hresult => ?_, fun _ _ => trivial⟩)
  refine wp_service_clean hclean ((wp_withHeld_self hkept (isActive_pending hpending)).mpr
    (Tx.wp_mono (wp_getApprovalOr404 call.approvalId) (fun b db₃ h => ?_) fun _ _ _ => trivial))
  obtain ⟨rfl, hb, hbid, snapshot', hsnapshot⟩ := h
  obtain rfl : b = a := Table.eq_of_key_eq hb hkept (hbid.trans haid.symm)
  have hnotPass := evaluatePreflight_ne_pass hresult
  refine wp_onAppError_service hclean (Tx.wp_mono (wp_savePreflight hb hpending hnotPass ..)
    (fun saved db₄ h => ?_) fun _ _ h hkeep => hbid ▸ h hkeep)
  subst h
  have hverified : verifySnapshot (preflighted b result) = .ok snapshot' := hsnapshot
  rw [InSession.wp_service]
  exact Tx.wp_mono (wp_response hverified rfl _) (fun _ _ _ => trivial) fun _ _ h => h.elim

/-! ### Execution intents -/

omit [HexDigest] in
/-- **The request of an execution intent is error atomic.** -/
theorem createApprovalExecutionIntent_failsCleanly (hdb : Deployed db) (call : IntentCall) :
    FailsCleanly (Untouched call.approvalId) (createApprovalExecutionIntent call) db := by
  rw [InSession.failsCleanly_iff]
  simp only [createApprovalExecutionIntent, Tx.wp_bind, Tx.wp_handle]
  have hopened : Clean call.approvalId (Session.opened db) := fun c hc => by cases hc
  refine wp_service_clean hopened (Tx.wp_mono (requireStageNotDisabled_of_head hdb.policy ..)
    (fun _ db' h => ?_) fun _ _ _ => trivial)
  obtain rfl : db' = db := h
  refine (InSession.wp_service _).mpr (Tx.wp_mono (createExecutionIntent_untouched ..)
    (fun _ _ _ => trivial) fun e db'' h => ?_)
  cases e with
  | integrity => exact hopened
  | app error =>
      simp only [commitSafeStateOnError, Tx.wp_bind, Tx.wp_ite, InSession.wp_commit, Tx.wp_pure,
        Tx.wp_raise]
      have hcommit := Clean.commit (t := { Session.opened db' with staged := db'' }) hopened
      exact ⟨fun hkeep => hcommit (h.1 hkeep), fun _ => hopened⟩
  | other message => exact hopened

/-! ### Approval -/

/-- The expiry of the request falls after the result of its pre-flight has been staged: a pending
request whose snapshot may be approved is found alive by the two readings of the clock before, and
expired by the reading of `approve_request`, or by one of the readings for the execution that the
automation asks for. -/
def ExpiresLate (call : ApproveCall) (env : AutomationEnvironment) (before after : Db) : Prop :=
  ∃ a ∈ before.approvals, ∃ b ∈ after.approvals, ∃ snapshot result,
    a.id = call.approvalId ∧ b.id = call.approvalId ∧ b.status = .pending ∧
    verifySnapshot a = .ok snapshot ∧ verifySnapshot b = .ok snapshot ∧
    evaluatePreflight call.replies snapshot call.settings call.evaluatedAt = .ok result ∧
    preflightIsManuallyPassable result = true ∧
    call.clock 3 < b.expiresAt ∧ call.clock 4 < b.expiresAt ∧
    (b.expiresAt ≤ call.clock 5 ∨
      ∃ head revision, after.head = some head ∧
        after.revisions.get? head.currentRevisionId = some revision ∧
        executesAutomatically revision snapshot call.currentSettings env (call.clock 5) = true ∧
        (b.expiresAt ≤ env.clock 1 ∨ b.expiresAt ≤ env.clock 2))

omit [HexDigest] in
/-- The second transaction of the approval up to the judgement on the pre-flight. -/
theorem wp_saveApprovalPreflight (ha : a ∈ db.approvals) (hpending : a.status = .pending)
    (call : ApproveCall) (snapshotHash : SnapshotHash) (result : PreflightResult) :
    Tx.wp (saveApprovalPreflight call a snapshotHash result)
      (fun saved db' => saved = preflighted a result ∧ a.snapshotHash = snapshotHash ∧
        call.clock 3 < a.expiresAt ∧ call.clock 4 < a.expiresAt ∧
        db'.approvals = db.approvals.save (preflighted a result) ∧ db'.head = db.head ∧
        db'.revisions = db.revisions)
      (fun _ db' => Untouched a.id db db') db := by
  have hactive : a.status.isActive = true := isActive_pending hpending
  simp only [saveApprovalPreflight, requireSameSnapshot, Tx.wp_bind, wp_requireApp]
  refine (wp_withHeld_self ha hactive).mpr (Tx.wp_mono
    (requirePendingApproval_untouched ha (call.clock 3)) (fun _ db' h => ?_)
    fun _ _ h => h.imp_right And.right)
  obtain ⟨rfl, -, -, hbefore⟩ := h
  refine ⟨fun hsame => ?_, fun _ => .refl⟩
  refine (wp_withHeld_self ha hactive).mpr (Tx.wp_mono
    (savePreflightResult_untouched ha result call.actor (call.clock 4))
    (fun saved db'' h => ?_) fun _ _ h => h)
  exact ⟨h.1, hsame, hbefore, h.2.2⟩

/-- Before the expiry of the request, the rest of the transaction approves it, or leaves a row
behind that has not expired. -/
theorem wp_approveAndExecute (ha : a ∈ db.approvals) (hhead : db.head ≠ none)
    {snapshot : ApprovalCandidateSnapshot} (hsnapshot : verifySnapshot a = .ok snapshot)
    (hpending : a.status = .pending) (call : ApproveCall) (env : AutomationEnvironment)
    (hnow : call.clock 5 < a.expiresAt)
    (hexecution : ∀ head revision, db.head = some head →
      db.revisions.get? head.currentRevisionId = some revision →
      executesAutomatically revision snapshot call.currentSettings env (call.clock 5) = true →
      env.clock 1 < a.expiresAt ∧ env.clock 2 < a.expiresAt) :
    Tx.wp (approveAndExecute call env a) (fun approved _ => approved = approvedRow a (call.clock 5))
      (fun e db' => ¬ ControlPlane.commitExpirationOnError a.id e db' = true) db := by
  have hrow : db.approvals.get? a.id = some a := Table.get?_key ha
  -- whatever fails after the approval, the row that is staged has not expired
  have hsaved : ∀ {db' : Db}, db'.approvals = db.approvals.save (approvedRow a (call.clock 5)) →
      db'.approvals.get? a.id = some (approvedRow a (call.clock 5)) := by
    intro db' h
    rw [h]
    exact Table.get?_save_self _ (approvedRow a (call.clock 5))
  have hstatus : (approvedRow a (call.clock 5)).status ≠ .expired := by
    intro h
    cases h
  simp only [approveAndExecute, Tx.wp_bind, Tx.wp_pure]
  refine (wp_withHeld_self ha (isActive_pending hpending)).mpr (Tx.wp_mono (approveRequest_alive ha
    call.request call.currentSettings call.actor call.newIds.2 hnow) (fun r db' h => ?_)
    fun e db' h => ?_)
  · obtain ⟨hr, happrovals, hhead', hrevisions, -⟩ := h
    have hverified : verifySnapshot r.1 = .ok snapshot := by
      rw [hr]
      exact hsnapshot
    have halive : ∀ {now : DateTime}, now < a.expiresAt → Alive r.1.id now db' := by
      intro now hlt b hb hbid
      rw [happrovals] at hb
      rcases Table.mem_save.mp hb with rfl | ⟨-, hne⟩
      · exact hlt
      · exact absurd (hbid.trans (by rw [hr]; rfl)) hne
    have hmem : r.1 ∈ db'.approvals := by
      rw [hr, happrovals]
      exact Table.mem_save_self _ _
    have hactive : r.1.status.isActive = true := by
      rw [hr]
      rfl
    refine (wp_withHeld_self hmem hactive).mpr (Tx.wp_mono
      (maybeCreateAutomaticExecution_approvals (by rw [hhead']; exact hhead)
        hverified call.currentSettings env fun head revision hcurrent hrevision hexecutes => ?_)
      (fun _ _ _ => hr) fun e db'' h => ?_)
    · rw [hhead'] at hcurrent
      rw [hrevisions] at hrevision
      rw [hr] at hexecutes
      obtain ⟨hintent, hcreated⟩ := hexecution head revision hcurrent hrevision hexecutes
      exact ⟨halive hintent, halive hcreated⟩
    · exact not_commitExpiration (hsaved (h.trans happrovals)) hstatus
  · rcases h with h | h
    · rw [← h] at hrow
      exact not_commitExpiration hrow (by rw [hpending]; decide)
    · exact not_commitExpiration (hsaved h) hstatus

/-- The second transaction of the approval stages an expiry at most, wherever its handler commits,
unless the request expires late. -/
theorem wp_decideRequest {t : Session Db} (hclean : Clean a.id t) (ht : t.staged = t.committed)
    (ha : a ∈ t.staged.approvals) (hhead : t.staged.head ≠ none)
    {snapshot : ApprovalCandidateSnapshot} (hsnapshot : verifySnapshot a = .ok snapshot)
    (hpending : a.status = .pending) (call : ApproveCall) (env : AutomationEnvironment)
    (snapshotHash : SnapshotHash) (result : PreflightResult)
    (hlate : a.snapshotHash = snapshotHash →
      preflightIsManuallyPassable result = true → call.clock 3 < a.expiresAt →
      call.clock 4 < a.expiresAt → call.clock 5 < a.expiresAt ∧
        ∀ head revision, t.staged.head = some head →
          t.staged.revisions.get? head.currentRevisionId = some revision →
          executesAutomatically revision snapshot call.currentSettings env (call.clock 5) = true →
          env.clock 1 < a.expiresAt ∧ env.clock 2 < a.expiresAt) :
    Tx.wp (decideRequest call env a snapshotHash result)
      (fun decided _ => ∀ approved, decided = .inr approved →
        approved = approvedRow (preflighted a result) (call.clock 5))
      (fun e t' => Clean a.id t' ∧ (ControlPlane.commitExpirationOnError a.id e t'.staged = true →
        Untouched a.id t'.committed t'.staged)) t := by
  simp only [decideRequest, Tx.wp_bind]
  refine (InSession.wp_service _).mpr (Tx.wp_mono (wp_saveApprovalPreflight ha hpending call
    snapshotHash result) (fun saved db' h => ?_) fun _ _ h => ⟨hclean, fun _ => ht ▸ h⟩)
  obtain ⟨rfl, hsame, hbefore, hbefore', hsaved, hhead', hrevisions⟩ := h
  have hverified : verifySnapshot (preflighted a result) = .ok snapshot := hsnapshot
  refine (Tx.wp_ite _ _ _).mpr ⟨fun _ => ?_, fun hpassable => ?_⟩
  · simp only [Tx.wp_bind, InSession.wp_commit, Tx.wp_pure, InSession.wp_service]
    refine Tx.wp_mono (wp_response hverified rfl _) (fun _ _ _ approved h => ?_)
      fun _ _ h => h.elim
    cases h
  -- the verdict lets the request pass
  · obtain ⟨hnow, hexecution⟩ := hlate hsame (eq_true_of_ne_false hpassable) hbefore hbefore'
    have hmem : preflighted a result ∈ db'.approvals := by
      rw [hsaved]
      exact Table.mem_save_self _ _
    simp only [Tx.wp_bind, Tx.wp_pure, InSession.wp_service]
    refine Tx.wp_mono (wp_approveAndExecute hmem (by rw [hhead']; exact hhead) hverified hpending
      call env hnow fun head revision hcurrent hrevision hexecutes => ?_) (fun approved _ h => ?_)
      fun _ _ h => ⟨hclean, fun hkeep => absurd hkeep h⟩
    · rw [hhead'] at hcurrent
      rw [hrevisions] at hrevision
      exact hexecution head revision hcurrent hrevision hexecutes
    · intro approved' heq
      rw [← Sum.inr.inj heq, h]

/-- **The approval of a request is error atomic**, where others leave the request as it was, unless it
expires late. -/
theorem approveApprovalRequest_failsCleanly (hdb : Deployed db) (call : ApproveCall)
    (env : AutomationEnvironment) (hleave : LeaveRequest call.toPreflightCall db)
    (hlate : ¬ ExpiresLate call env db (ControlPlane.runFrom db call.others)) :
    FailsCleanly (Untouched call.approvalId) (approveApprovalRequest call env) db := by
  rw [InSession.failsCleanly_iff]
  simp only [approveApprovalRequest, Tx.wp_bind]
  have hopened : Clean call.approvalId (Session.opened db) := fun c hc => by cases hc
  refine wp_service_clean hopened (Tx.wp_mono (requireStageNotDisabled_of_head hdb.policy ..)
    (fun _ db' h => ?_) fun _ _ _ => trivial)
  obtain rfl : db' = db := h
  refine wp_service_clean hopened (Tx.wp_mono (wp_getApprovalOr404 call.approvalId)
    (fun a db'' h => ?_) fun _ _ _ => trivial)
  obtain ⟨rfl, ha, haid, -⟩ := h
  simp only [requireApprovable]
  refine wp_onAppError_service hopened ((Tx.wp_bind _ _).mpr (Tx.wp_mono
    (requirePendingApproval_untouched ha _) (fun snapshot db₁ h => ?_)
    fun _ _ h _ => haid ▸ h.imp_right And.right))
  obtain ⟨rfl, hsnapshot, hpending, -⟩ := h
  simp only [Tx.wp_bind, wp_liftApp, Tx.wp_pure, InSession.wp_commit, InSession.wp_outside]
  refine ⟨fun _ _ => ?_, fun _ _ _ => .refl⟩
  have hclean : Clean call.approvalId _ := hopened.commit .refl
  -- what others commit while the downloader is read
  have hothers := hdb.runFrom call.others
  have hkept := mem_of_leaveRequest hleave ha haid
  generalize ControlPlane.runFrom db₁ call.others = db₂ at hothers hlate hkept ⊢
  refine wp_service_clean hclean ((wp_liftApp _).mpr ⟨fun result hresult => ?_, fun _ _ => trivial⟩)
  refine wp_service_clean hclean (Tx.wp_mono (requireStageNotDisabled_of_head hothers.policy ..)
    (fun _ db' h => ?_) fun _ _ _ => trivial)
  obtain rfl : db' = db₂ := h
  refine wp_service_clean hclean ((wp_liftApp _).mpr ⟨fun _ _ => ?_, fun _ _ => trivial⟩)
  refine wp_service_clean hclean ((wp_withHeld_self hkept (isActive_pending hpending)).mpr
    (Tx.wp_mono (wp_getApprovalOr404 call.approvalId) (fun b db₃ h => ?_) fun _ _ _ => trivial))
  obtain ⟨rfl, hb, hbid, snapshot', hsnapshot'⟩ := h
  obtain rfl : b = a := Table.eq_of_key_eq hb hkept (hbid.trans haid.symm)
  refine wp_onAppError (Tx.wp_mono (wp_decideRequest (hbid ▸ hclean) rfl hb hothers.policy
    hsnapshot' hpending call env b.snapshotHash result fun _ hpassable hbefore hbefore' => ?_)
    (fun decided t' h => ?_) fun _ _ h => hbid ▸ h)
  · -- otherwise the request would expire late
    obtain rfl := Except.ok.inj (hsnapshot'.symm.trans hsnapshot)
    refine ⟨Int.not_le.mp fun hle => hlate ?_, fun head revision hcurrent hrevision hexecutes =>
      ⟨Int.not_le.mp fun hle => hlate ?_, Int.not_le.mp fun hle => hlate ?_⟩⟩
    · exact ⟨b, ha, b, hb, snapshot', result, hbid, hbid, hpending, hsnapshot, hsnapshot', hresult,
        hpassable, hbefore, hbefore', Or.inl hle⟩
    · exact ⟨b, ha, b, hb, snapshot', result, hbid, hbid, hpending, hsnapshot, hsnapshot', hresult,
        hpassable, hbefore, hbefore',
        Or.inr ⟨head, revision, hcurrent, hrevision, hexecutes, Or.inl hle⟩⟩
    · exact ⟨b, ha, b, hb, snapshot', result, hbid, hbid, hpending, hsnapshot, hsnapshot', hresult,
        hpassable, hbefore, hbefore',
        Or.inr ⟨head, revision, hcurrent, hrevision, hexecutes, Or.inr hle⟩⟩
  · cases decided with
    | inl blocked => trivial
    | inr approved =>
        obtain rfl := h approved rfl
        have hverified : verifySnapshot (approvedRow (preflighted b result) (call.clock 5)) =
            .ok snapshot' := hsnapshot'
        simp only [Tx.wp_bind, InSession.wp_commit, InSession.wp_service]
        exact Tx.wp_mono (wp_response hverified rfl _) (fun _ _ _ => trivial) fun _ _ h => h.elim

end Routes

/-! ### Every run -/

theorem deployed_run (migratedAt : DateTime) (ops : List Operation) :
    Deployed (ControlPlane.runFrom (migratedDb migratedAt) ops) := by
  have hmigrated : Deployed (migratedDb migratedAt) :=
    ⟨invariant_migratedDb migratedAt, Option.some_ne_none _⟩
  exact hmigrated.runFrom ops

/-- **The error atomicity of the routes**, after every run of a migrated deployment, and where what
others commit between the transactions of a route leaves its request as it was read: an error of the
pre-flight or of the intent leaves nothing behind but the audited expiry of the request, and so does
an error of the approval unless the request expires late. -/
theorem approvalRoutes_failCleanly (migratedAt : DateTime) (ops : List Operation) :
    (∀ call env executionEnv, LeaveRequest call (ControlPlane.runFrom (migratedDb migratedAt) ops) →
      FailsCleanly (Untouched call.approvalId) (preflightApprovalRequest call env executionEnv)
        (ControlPlane.runFrom (migratedDb migratedAt) ops)) ∧
    (∀ (call : ApproveCall) env,
      LeaveRequest call.toPreflightCall (ControlPlane.runFrom (migratedDb migratedAt) ops) →
      ¬ ExpiresLate call env (ControlPlane.runFrom (migratedDb migratedAt) ops)
        (ControlPlane.runFrom (ControlPlane.runFrom (migratedDb migratedAt) ops) call.others) →
      FailsCleanly (Untouched call.approvalId) (approveApprovalRequest call env)
        (ControlPlane.runFrom (migratedDb migratedAt) ops)) ∧
    ∀ call, FailsCleanly (Untouched call.approvalId) (createApprovalExecutionIntent call)
      (ControlPlane.runFrom (migratedDb migratedAt) ops) := by
  have hdb := deployed_run migratedAt ops
  refine ⟨fun call env executionEnv hothers => ?_, fun call env hothers hlate => ?_, fun call => ?_⟩
  · exact preflightApprovalRequest_failsCleanly hdb call env executionEnv hothers
  · exact approveApprovalRequest_failsCleanly hdb call env hothers hlate
  · exact createApprovalExecutionIntent_failsCleanly hdb call

end

/-! ### A request that expires late -/

/-- What the other tables hold of the clean candidate. -/
def cleanRows : CandidateRows where
  record := some
    { candidateSnapshot := some
        { siteId := "avistaz"
          torrentId := "1"
          releaseTitle := "Media 2020"
          detailsRef := "avistaz:torrent:1"
          mediaType := .movie
          tmdbId := some 1
          imdbId := none
          year := none
          season := none
          episodes := none
          collectionType := none
          resolution := none
          source := none
          audio := none
          subtitles := none
          sizeBytes := some 100
          seeders := some 5
          downloadFactor := none
          uploadFactor := none
          hitAndRun := none
          infoHash := some "aaaaaaaaaaaaaaaaaaaaaaaaaaaaaaaaaaaaaaaa"
          matchScore := some 1 }
      matchScore := 1
      matchReasons := []
      warnings := [] }
  media := some
    { id := "media-1", title := "Media", mediaType := .movie, tmdbId := some 1, year := some 2020 }

/-- The database in which the clean candidate has been requested, for an hour. -/
def requestedDb : Db :=
  @ControlPlane.runFrom asciiPython zeroHexDigest (migratedDb 0)
    [.createApprovalRequest "candidate-1" cleanRows {} cleanSettings "operator" (rowId 1) 0]

/-- The approval of the clean candidate, with the reading of the clock in `approve_request`. -/
def cleanApproval (approvedAt : DateTime) : ApproveCall where
  approvalId := (rowId 1).text
  actor := "admin"
  settings := cleanSettings
  currentSettings := cleanSettings
  replies := cleanReplies
  evaluatedAt := 1
  others := []
  clock n := if n < 5 then 1 else approvedAt
  newId := rowId 2
  request :=
    { acknowledgesHnr := true, acknowledgesSeeding := true, acknowledgesPlanOnly := true }
  newIds := (rowId 3, rowId 4)

/-- An automation that reads the clock at one time. -/
def automationAt (now : DateTime) : AutomationEnvironment where
  clock _ := now
  newId _ := rowId 5
  nonceSecret := "nonce"
  keySecret := "key"
  qbConfigured := true
  executorReady := true
  seen := (true, true)

/-- In time, the approval is error atomic. -/
theorem approvalRoutes_failCleanly_inTime :
    FailsCleanly (Untouched (cleanApproval 2).approvalId)
      (@approveApprovalRequest asciiPython zeroHexDigest (cleanApproval 2) (automationAt 2))
      requestedDb := by
  refine (@approvalRoutes_failCleanly asciiPython zeroHexDigest 0 _).2.1 (cleanApproval 2)
    (automationAt 2) rfl ?_
  rintro ⟨_, _, b, hb, _, _, -, -, -, -, -, -, -, -, -, hlate⟩
  have halive : ∀ b ∈ requestedDb.approvals.rows, (2 : DateTime) < b.expiresAt := by
    decide +kernel
  have hexpires : (2 : DateTime) < b.expiresAt := halive b hb
  have hle : b.expiresAt ≤ (2 : DateTime) := by
    rcases hlate with hle | ⟨_, _, -, -, -, hle | hle⟩
    · exact hle
    · exact hle
    · exact hle
  exact absurd hexpires (Int.not_lt.mpr hle)

/-- At most one event is recorded. -/
theorem untouched_events_length {approvalId : String} {db db' : Db}
    (h : Untouched approvalId db db') :
    db'.approvalEvents.length ≤ db.approvalEvents.length + 1 := by
  rcases h with rfl | h
  · omega
  · cases h with
    | expire => rw [List.length_append, List.length_singleton]

/-- **A request that expires between the pre-flight of its approval and the approval**: the route
answers that it has expired, and leaves the result of the pre-flight behind. -/
theorem approveApprovalRequest_expiresLate :
    ¬ FailsCleanly (Untouched (cleanApproval (minutes 60)).approvalId)
      (@approveApprovalRequest asciiPython zeroHexDigest (cleanApproval (minutes 60))
        (automationAt (minutes 60))) requestedDb := by
  intro h
  have hanswer : (((@approveApprovalRequest asciiPython zeroHexDigest
      (cleanApproval (minutes 60)) (automationAt (minutes 60))).serve requestedDb).1.toOption).isNone =
        true := by
    decide +kernel
  have hevents : ((@approveApprovalRequest asciiPython zeroHexDigest
      (cleanApproval (minutes 60)) (automationAt (minutes 60))).serve requestedDb).2.commits.map
        (fun c => (c.1.approvalEvents.map (·.eventType), c.2.approvalEvents.map (·.eventType))) =
      [(["REQUESTED"], ["REQUESTED"]),
        (["REQUESTED"], ["REQUESTED", "PREFLIGHT_COMPLETED", "EXPIRED"])] := by
    decide +kernel
  rcases hserve : (@approveApprovalRequest asciiPython zeroHexDigest (cleanApproval (minutes 60))
    (automationAt (minutes 60))).serve requestedDb with ⟨e | response, t⟩
  · rw [hserve] at hevents
    obtain ⟨c, hc, heq⟩ := List.mem_map.mp (hevents ▸ List.mem_cons_of_mem _
      (List.mem_singleton_self _) : _ ∈ t.commits.map _)
    have hlength := untouched_events_length (h e t hserve c hc)
    obtain ⟨hbefore, hafter⟩ := Prod.mk.inj heq
    have hbefore := congrArg List.length hbefore
    have hafter := congrArg List.length hafter
    simp only [List.length_map, List.length_cons, List.length_nil] at hbefore hafter
    omega
  · rw [hserve] at hanswer
    cases hanswer

end LibSeek.Api
