/-
The calls keep the audit.

For each service and each transaction of the executor: what it stages is a sequence of changes that
the audit allows, also where it raises, because every status is written together with its event.

Main results:

* `ControlPlane.logged_createApprovalRequest`, `ControlPlane.logged_approveRequest`,
  `ControlPlane.logged_createExecutionIntent`, `ControlPlane.logged_executeApprovedPlan`,
  `ControlPlane.logged_persistInfoHashBeforeSubmission`,
  `ControlPlane.logged_finalizeDownloadSubmission` — and one for each other operation.
-/

import LibSeek.ControlPlane.Audit

set_option relaxedAutoImplicit false
set_option autoImplicit false

namespace LibSeek.ControlPlane

open LibSeek.Core LibSeek.Lib LibSeek.Models LibSeek.Schemas LibSeek.Services LibSeek.Workers
open Relation (ReflTransGen)

variable {db db' : Db} {a : ApprovalRequest} {e : DownloadExecution}

/-! ### Rules -/

/-- A request in hand is written with its event. -/
theorem Logged.decide (ha : a ∈ db.approvals) (before after : ApprovalStatus)
    {a' : ApprovalRequest} {event : ApprovalEvent} (hbefore : a.status = before)
    (hedge : after ∈ approvalSuccessors before) (hrow : a'.id = a.id ∧ a'.status = after)
    (hmark : approvalMark event = { key := a.id, before := some before, after := after }) :
    Logged db { db with
      approvals := db.approvals.save a', approvalEvents := db.approvalEvents ++ [event] } := by
  obtain ⟨hid, rfl⟩ := hrow
  subst hbefore
  have hstood : (db.approvals.get? a'.id).map ApprovalRequest.status = some a.status := by
    rw [hid]
    exact congrArg _ (Table.get?_key ha)
  refine .approval ?_ ?_ rfl
  · rw [hmark, hstood, hid]
  · rw [hstood]
    exact hedge

/-- An execution in hand is written with its event. -/
theorem Logged.move (he : e ∈ db.executions) (before after : DownloadExecutionStatus)
    {e' : DownloadExecution} {event : DownloadExecutionEvent} (hbefore : e.status = before)
    (hedge : after ∈ executionSuccessors before)
    (hrow : e'.id = e.id ∧ e'.status = after)
    (hattempts : e'.attempts = e.attempts + if after = .validating then 1 else 0)
    (hmark : executionMark event = { key := e.id, before := some before, after := after }) :
    Logged db { db with
      executions := db.executions.save e', executionEvents := db.executionEvents ++ [event] } := by
  obtain ⟨hid, rfl⟩ := hrow
  subst hbefore
  have hrow : db.executions.get? e'.id = some e := by
    rw [hid]
    exact Table.get?_key he
  refine .execution ?_ ?_ ?_ rfl
  · rw [hmark, hrow, hid]
    rfl
  · rw [hrow]
    exact hedge
  · rw [hrow]
    exact hattempts

/-- A lease is renewed without an event. -/
theorem Logged.renew (he : e ∈ db.executions) (now : DateTime) :
    Logged db { db with executions := db.executions.save { e with lockedAt := some now } } :=
  have hsame : ({ e with lockedAt := some now } : DownloadExecution).id = e.id ∧
      ({ e with lockedAt := some now } : DownloadExecution).status = e.status ∧
      ({ e with lockedAt := some now } : DownloadExecution).attempts = e.attempts := ⟨rfl, rfl, rfl⟩
  .renewal he hsame rfl

/-- A request and an execution in hand are written with their events. -/
theorem Logged.decide_move (ha : a ∈ db.approvals) (before after : ApprovalStatus)
    (he : e ∈ db.executions) (before' after' : DownloadExecutionStatus) {a' : ApprovalRequest}
    {e' : DownloadExecution} {event : ApprovalEvent} {event' : DownloadExecutionEvent}
    (hbefore : a.status = before ∧ e.status = before')
    (hedge : after ∈ approvalSuccessors before) (hedge' : after' ∈ executionSuccessors before')
    (hrow : a'.id = a.id ∧ a'.status = after) (hrow' : e'.id = e.id ∧ e'.status = after')
    (hattempts : e'.attempts = e.attempts + if after' = .validating then 1 else 0)
    (hmark : approvalMark event = { key := a.id, before := some before, after := after })
    (hmark' : executionMark event' =
      { key := e.id, before := some before', after := after' }) :
    Lib.Moves Logged db { db with
      approvals := db.approvals.save a', approvalEvents := db.approvalEvents ++ [event]
      executions := db.executions.save e', executionEvents := db.executionEvents ++ [event'] } := by
  refine .tail (.single (.decide ha before after hbefore.1 hedge hrow hmark)) ?_
  have he' : e ∈ ({ db with
    approvals := db.approvals.save a'
    approvalEvents := db.approvalEvents ++ [event] } : Db).executions := he
  exact .move he' before' after' hbefore.2 hedge' hrow' hattempts hmark'

theorem SameLogged.refl (db : Db) : SameLogged db db :=
  ⟨rfl, rfl, rfl, rfl, rfl, rfl⟩

/-- A body that reads. -/
theorem throughout_reading {α : Type} {m : DbTx α} {Q : α → Db → Prop}
    (h : Tx.wp m (fun r db' => db' = db ∧ Q r db') (fun _ db' => db' = db) db) :
    Throughout Logged m (fun r db' => db' = db ∧ Q r db') db :=
  Tx.wp_mono h (fun _ _ hr => ⟨hr.1 ▸ .refl, hr⟩) fun _ _ heq => heq ▸ .refl

theorem logged_requireApp {α : Type} {p : Prop} [Decidable p] {error : AppError}
    {f : Unit → DbTx α} {Q : α → Db → Prop} (h : p → Throughout Logged (f ()) Q db) :
    Throughout Logged (requireApp p error >>= f) Q db :=
  throughout_require h

theorem logged_liftApp {α β : Type} {x : Except AppError β} {f : β → DbTx α} {Q : α → Db → Prop}
    (h : ∀ b, x = .ok b → Throughout Logged (f b) Q db) :
    Throughout Logged (liftApp x >>= f) Q db := by
  refine throughout_ofExcept fun b hb => h b ?_
  cases x with
  | ok b' => exact congrArg Except.ok (Except.ok.inj hb)
  | error _ => cases hb

variable [Python]

/-! ### The policy -/

omit [Python] in
/-- Reading the policy touches no row that has a status, and no event. -/
theorem logged_getCurrentPolicy (newId : Uuid) (now : DateTime) :
    Throughout Logged (getCurrentPolicy newId now) (fun _ db' => SameLogged db db') db := by
  refine throughout_get ?_
  cases db.head with
  | none =>
      refine logged_requireApp fun _ =>
        Throughout.bind (P := fun _ db' => SameLogged db db') (throughout_modify
          (.single (.other ⟨rfl, rfl, rfl, rfl, rfl, rfl⟩)) ⟨rfl, rfl, rfl, rfl, rfl, rfl⟩) ?_
      exact fun _ _ hsame => throughout_pure hsame
  | some head =>
      exact throughout_ofOption fun _ _ => logged_liftApp fun _ _ => logged_requireApp fun _ =>
        throughout_pure (SameLogged.refl db)

omit [Python] in
theorem logged_publishPolicyRevision (request : PolicyRevisionRequest) (actor : String)
    (newIds : Uuid × Uuid) (clock : ℕ → DateTime) :
    Throughout Logged (publishPolicyRevision request actor newIds clock) (fun _ _ => True) db := by
  refine Throughout.bind (logged_getCurrentPolicy ..) fun r db' _ => ?_
  refine logged_requireApp fun _ => logged_requireApp fun _ => throughout_get <|
    throughout_require fun _ => Throughout.bind (P := fun _ _ => True) (throughout_modify
      (.single (.other ⟨rfl, rfl, rfl, rfl, rfl, rfl⟩)) trivial) ?_
  exact fun _ _ _ => throughout_pure trivial

omit [Python] in
/-- A decision touches no row that has a status, and no event. -/
theorem logged_addDecisionOnce (decision : AutomationDecision) :
    Throughout Logged (addDecisionOnce decision) (fun _ db' => SameLogged db db') db := by
  refine throughout_get ?_
  cases decisionOn db.toTables decision.dedupeKey with
  | some existing => exact throughout_pure (SameLogged.refl db)
  | none =>
      refine throughout_require fun _ =>
        Throughout.bind (P := fun _ db' => SameLogged db db') (throughout_modify
          (.single (.other ⟨rfl, rfl, rfl, rfl, rfl, rfl⟩)) ⟨rfl, rfl, rfl, rfl, rfl, rfl⟩) ?_
      exact fun _ _ hsame => throughout_pure hsame

theorem logged_recordStageDecision (revision : AutomationPolicyRevision) (spec : DecisionSpec)
    (newId : Uuid) :
    Throughout Logged (recordStageDecision revision spec newId) (fun _ db' => SameLogged db db')
      db :=
  Throughout.bind (logged_addDecisionOnce _) fun _ _ hsame => throughout_pure hsame

/-! ### Requests -/

omit [Python] in
/-- A transition writes the status and its event. -/
theorem logged_transition (ha : a ∈ db.approvals) {toStatus : ApprovalStatus}
    (actor eventType : String) (reason : Option String) (now : DateTime)
    {before : ApprovalStatus} (hbefore : a.status = before)
    (hedge : toStatus ∈ approvalSuccessors before) :
    Throughout Logged (transition a toStatus actor eventType reason now)
      (fun r db' => r.id = a.id ∧ r.status = toStatus ∧ r ∈ db'.approvals) db := by
  simp only [Throughout, transition, saveApproval, addEvent, addApprovalEvent, Tx.wp_bind,
    Tx.wp_modify, Tx.wp_pure]
  subst hbefore
  exact ⟨.single (.decide ha _ _ rfl hedge ⟨rfl, rfl⟩ rfl), trivial, trivial,
    Table.mem_save_self _ _⟩

omit [Python] in
/-- An event that notes something of a request. -/
theorem logged_addEvent (ha : a ∈ db.approvals) {status : ApprovalStatus} (hstatus : a.status = status)
    (hedge : status ∈ approvalSuccessors status) (eventType actor : String)
    (reason : Option String) :
    Throughout Logged (addEvent a eventType (some status) status actor reason)
      (fun _ db' => db'.toTables = db.toTables) db := by
  subst hstatus
  exact throughout_modify (.single (.note ha rfl hedge rfl)) rfl

omit [Python] in
theorem logged_addExecutionApprovalEvent (ha : a ∈ db.approvals)
    (hedge : a.status ∈ approvalSuccessors a.status) (eventType actor : String) :
    Throughout Logged (addExecutionApprovalEvent a eventType actor)
      (fun _ db' => db'.toTables = db.toTables) db :=
  throughout_modify (.single (.note ha rfl hedge rfl)) rfl

omit [Python] in
theorem logged_stageExpirationIfNeeded (ha : a ∈ db.approvals) (now : DateTime) :
    Throughout Logged (stageExpirationIfNeeded a now)
      (fun r db' => (r = (a, false) ∧ db' = db) ∨ r.2 = true) db := by
  refine throughout_ite (fun hdue => ?_) fun _ => throughout_pure (Or.inl ⟨rfl, rfl⟩)
  rcases hdue.1 with h | h
  · exact (logged_transition ha _ _ _ _ h (by decide)).bind fun _ _ _ => throughout_pure (Or.inr rfl)
  · exact (logged_transition ha _ _ _ _ h (by decide)).bind fun _ _ _ => throughout_pure (Or.inr rfl)

theorem logged_requirePendingApproval (ha : a ∈ db.approvals) (now : DateTime) :
    Throughout Logged (requirePendingApproval a now)
      (fun _ db' => db' = db ∧ a.status = .pending) db := by
  refine logged_liftApp fun snapshot _ => ?_
  refine Throughout.bind (logged_stageExpirationIfNeeded ha now) fun r db' hr => ?_
  refine logged_requireApp fun hlive => logged_requireApp fun hpending => throughout_pure ?_
  rcases hr with ⟨rfl, rfl⟩ | hexpired
  · exact ⟨rfl, hpending⟩
  · rw [hexpired] at hlive
    exact absurd hlive.2 Bool.false_ne_true.symm

omit [Python] in
/-- The way past an active request of a candidate. -/
theorem logged_expireActiveApproval {candidateId : String} (now : DateTime) :
    Throughout Logged (expireActiveApproval (activeApproval db.toTables candidateId) now)
      (fun _ _ => True) db := by
  cases hactive : activeApproval db.toTables candidateId with
  | none => exact throughout_pure trivial
  | some existing =>
      obtain ⟨hmem, -, hstatus⟩ := activeApproval_some hactive
      refine logged_requireApp fun hnot => logged_requireApp fun _ => ?_
      refine (logged_transition hmem _ _ _ _ rfl ?_).bind fun _ _ _ => throughout_pure trivial
      cases hs : existing.status <;> simp_all [ApprovalStatus.isActive, approvalSuccessors]

theorem logged_createApprovalRequest (candidateId : String) (rows : CandidateRows)
    (request : ApprovalCreateRequest) (settings : Settings) (actor : String) (newId : Uuid)
    (now : DateTime) :
    Throughout Logged (createApprovalRequest candidateId rows request settings actor newId now)
      (fun _ _ => True) db := by
  refine throughout_ofOption fun record _ => throughout_ofOption fun media _ => throughout_get ?_
  refine (logged_expireActiveApproval now).bind fun _ db' _ => logged_requireApp fun _ => ?_
  refine throughout_ofOption fun candidate _ => throughout_ofOption fun snapshot _ => ?_
  simp only [Throughout, insertApproval, saveApproval, addEvent, addApprovalEvent, Tx.wp_bind,
    Tx.wp_get, Tx.wp_require, Tx.wp_modify, Tx.wp_pure]
  refine ⟨fun hnew => ⟨.single (.approval ?_ ?_ rfl), trivial⟩, fun _ => .refl⟩
  · rw [hnew.1]
    rfl
  · rw [hnew.1]
    rfl

theorem logged_getOrCreatePendingApprovalRequest (candidateId : String) (rows : CandidateRows)
    (request : ApprovalCreateRequest) (settings : Settings) (actor : String) (newId : Uuid)
    (clock : ℕ → DateTime) :
    Throughout Logged
      (getOrCreatePendingApprovalRequest candidateId rows request settings actor newId clock)
      (fun _ _ => True) db := by
  refine throughout_get <| logged_liftApp fun reusable _ => ?_
  cases reusable with
  | some existing => exact throughout_pure trivial
  | none =>
      refine throughout_handle ?_ fun error db' => throughout_require fun _ => throughout_get <|
        logged_liftApp fun winner _ => ?_
      · exact (logged_createApprovalRequest ..).bind fun _ _ _ => throughout_pure trivial
      · cases winner with
        | none => exact throughout_raise
        | some winner => exact throughout_pure trivial

theorem logged_getApprovalOr404 (approvalId : String) :
    Throughout Logged (getApprovalOr404 approvalId)
      (fun a db' => db' = db ∧ a ∈ db.approvals) db :=
  throughout_reading (Tx.wp_mono (wp_getApprovalOr404 approvalId)
    (fun _ _ h => ⟨h.1, h.2.1⟩) fun _ _ => id)

/-! ### Pre-flight and decision -/

theorem logged_savePreflightResult (ha : a ∈ db.approvals) (result : PreflightResult)
    (actor : String) (now : DateTime) :
    Throughout Logged (savePreflightResult a result actor now) (fun _ _ => True) db := by
  refine (logged_requirePendingApproval ha now).bind fun _ db' h => ?_
  obtain ⟨rfl, hpending⟩ := h
  simp only [Throughout, saveApproval, addEvent, addApprovalEvent, Tx.wp_bind, Tx.wp_modify,
    Tx.wp_pure]
  refine ⟨.single (.decide ha .pending .pending hpending (by decide) ⟨rfl, hpending⟩ ?_), trivial⟩
  rw [approvalMark]
  simp only [hpending]

theorem logged_approveRequest (ha : a ∈ db.approvals) (request : ApprovalApproveRequest)
    (settings : Settings) (actor : String) (newId : Uuid) (now : DateTime) :
    Throughout Logged (approveRequest a request settings actor newId now)
      (fun r db' => r.1.status = .approved ∧ r.1 ∈ db'.approvals) db := by
  refine (logged_requirePendingApproval ha now).bind fun snapshot db' h => ?_
  obtain ⟨rfl, hpending⟩ := h
  refine logged_liftApp fun _ _ => logged_liftApp fun preflight _ => ?_
  refine throughout_ofOption fun category _ => ?_
  refine (logged_transition ha _ _ _ _ hpending (by decide)).bind fun approved db₁ h => ?_
  obtain ⟨-, hstatus, hmem⟩ := h
  refine logged_liftApp fun tags _ => ?_
  refine Throughout.bind (P := fun _ db₂ => db₂.approvals = db₁.approvals) ?_ fun _ db₂ h₂ => ?_
  · exact throughout_get <| throughout_require fun _ => throughout_modify
      (.single (.other ⟨rfl, rfl, rfl, rfl, rfl, rfl⟩)) rfl
  · refine (logged_addEvent (h₂ ▸ hmem) hstatus (by decide) _ _ _).bind fun _ db₃ h₃ => ?_
    refine throughout_pure ⟨hstatus, ?_⟩
    change approved ∈ db₃.approvals
    rw [h₃, h₂]
    exact hmem

theorem logged_approveRequestAutomatically (ha : a ∈ db.approvals) (settings : Settings)
    (actor : String) (newId : Uuid) (clock : ℕ → DateTime) :
    Throughout Logged (approveRequestAutomatically a settings actor newId clock)
      (fun _ _ => True) db := by
  refine (logged_requirePendingApproval ha _).bind fun snapshot db' h => ?_
  obtain ⟨rfl, -⟩ := h
  refine logged_requireApp fun _ => throughout_ofOption fun stored _ => logged_liftApp
    fun preflight _ => logged_requireApp fun _ => ?_
  refine (logged_approveRequest ha ..).bind fun r db₁ h => ?_
  exact (logged_addEvent h.2 h.1 (by decide) _ _ _).bind fun _ _ _ => throughout_pure trivial

theorem logged_rejectRequest (ha : a ∈ db.approvals) (reason : Option String) (actor : String)
    (now : DateTime) :
    Throughout Logged (rejectRequest a reason actor now) (fun _ _ => True) db := by
  refine (logged_requirePendingApproval ha now).bind fun snapshot db' h => ?_
  obtain ⟨rfl, hpending⟩ := h
  exact (logged_transition ha _ _ _ _ hpending (by decide)).mono fun _ _ _ => trivial

theorem logged_revokeRequest (ha : a ∈ db.approvals) (reason : Option String) (actor : String)
    (now : DateTime) :
    Throughout Logged (revokeRequest a reason actor now) (fun _ _ => True) db := by
  refine logged_liftApp fun _ _ => ?_
  refine (logged_stageExpirationIfNeeded ha now).bind fun r db' hr => ?_
  refine logged_requireApp fun hlive => logged_requireApp fun _ => logged_requireApp
    fun happroved => ?_
  rcases hr with ⟨rfl, rfl⟩ | hexpired
  · exact (logged_transition ha _ _ _ _ happroved (by decide)).mono fun _ _ _ => trivial
  · rw [hexpired] at hlive
    exact absurd hlive.2 Bool.false_ne_true.symm

/-! ### Intents and executions -/

omit [Python] in
theorem logged_requireApproved (ha : a ∈ db.approvals) (now : DateTime) :
    Throughout Logged (requireApproved a now) (fun _ db' => db' = db ∧ a.status = .approved)
      db := by
  refine throughout_ite (fun hexpired => ?_) fun _ => ?_
  · simp only [Throughout, saveApproval, addExecutionApprovalEvent, addApprovalEvent, Tx.wp_bind,
      Tx.wp_modify, wp_raiseApp]
    exact .single (.decide ha .approved .expired hexpired.1 (by decide) ⟨rfl, rfl⟩ rfl)
  · simp only [Throughout, Tx.wp_bind, wp_requireApp]
    exact ⟨fun _ => ⟨fun h => ⟨.refl, trivial, h⟩, fun _ => .refl⟩, fun _ => .refl⟩

theorem logged_getVerifiedPlan : Throughout Logged (getVerifiedPlan a) (fun _ db' => db' = db) db :=
  (throughout_reading (Q := fun _ _ => True) (Tx.wp_mono wp_getVerifiedPlan
    (fun _ _ h => ⟨h.1, trivial⟩) fun _ _ => id)).mono fun _ _ h => h.1

omit [Python] in
/-- An intent has a status, but no events. -/
theorem logged_saveIntent (intent : ExecutionIntent) :
    Throughout Logged (saveIntent intent) (fun _ db' => db'.approvals = db.approvals) db :=
  throughout_modify (.single (.other ⟨rfl, rfl, rfl, rfl, rfl, rfl⟩)) rfl

omit [Python] in
/-- The event that an intent of an approved request has expired. -/
theorem logged_noteIntentExpired (ha : a ∈ db.approvals) (happroved : a.status = .approved)
    (intent : ExecutionIntent) :
    Throughout Logged
      (saveIntent intent >>= fun _ =>
        addExecutionApprovalEvent a "EXECUTION_INTENT_EXPIRED" "system")
      (fun _ db' => db'.approvals = db.approvals) db := by
  refine (logged_saveIntent intent).bind fun _ db' h => ?_
  have hnote := logged_addExecutionApprovalEvent (h ▸ ha : a ∈ db'.approvals)
    (by rw [happroved]; decide) "EXECUTION_INTENT_EXPIRED" "system"
  exact hnote.mono fun _ db'' hsame => (congrArg Tables.approvals hsame).trans h

omit [Python] in
/-- The way past an active intent of an approved request. -/
theorem logged_expireActiveIntent (ha : a ∈ db.approvals) (happroved : a.status = .approved)
    (active : Option ExecutionIntent) (now : DateTime) :
    Throughout Logged (expireActiveIntent a active now)
      (fun _ db' => db'.approvals = db.approvals) db := by
  cases active with
  | none => exact throughout_pure rfl
  | some active =>
      exact logged_requireApp fun _ => logged_noteIntentExpired ha happroved _

theorem logged_createExecutionIntent (approvalId : String) (request : ExecutionIntentCreateRequest)
    (settings : Settings) (binding : OriginBinding) (newId : Uuid) (secret : String)
    (now : DateTime) :
    Throughout Logged
      (createExecutionIntent approvalId request settings binding newId secret now)
      (fun _ _ => True) db := by
  refine logged_liftApp fun _ _ => logged_liftApp fun _ _ => ?_
  refine (logged_getApprovalOr404 approvalId).bind fun a db' h => ?_
  obtain ⟨rfl, ha⟩ := h
  refine (logged_requireApproved ha now).bind fun _ db₁ h => ?_
  obtain ⟨rfl, happroved⟩ := h
  refine logged_liftApp fun snapshot _ => logged_getVerifiedPlan.bind fun plan db₂ h => ?_
  obtain rfl := h
  refine logged_liftApp fun _ _ => throughout_ofExcept fun fingerprint _ => throughout_get <|
    logged_requireApp fun _ => ?_
  refine (logged_expireActiveIntent ha happroved _ now).bind fun _ db₃ h₃ => ?_
  refine logged_requireApp fun _ => ?_
  refine Throughout.bind (P := fun _ db₄ => db₄.approvals = db₃.approvals) ?_ fun _ db₄ h₄ => ?_
  · exact throughout_get <| throughout_require fun _ => throughout_modify
      (.single (.other ⟨rfl, rfl, rfl, rfl, rfl, rfl⟩)) rfl
  · have hmem : a ∈ db₄.approvals := by rw [h₄, h₃]; exact ha
    refine (logged_addExecutionApprovalEvent hmem ?_ _ _).bind fun _ _ _ => throughout_pure trivial
    rw [happroved]
    decide

omit [Python] in
theorem logged_requireUsableIntent (ha : a ∈ db.approvals) (happroved : a.status = .approved)
    (intent : ExecutionIntent) (nonceDigest : Digest String) (binding : OriginBinding)
    (now : DateTime) :
    Throughout Logged (requireUsableIntent a intent nonceDigest binding now)
      (fun _ db' => db' = db) db := by
  refine throughout_ite (fun _ => ?_) fun _ => ?_
  · have hnote := logged_noteIntentExpired ha happroved { intent with status := .expired }
    have hraise := hnote.bind fun _ _ _ => throughout_raise
      (Q := fun (_ : Unit) db' => db' = db)
      (e := Exn.app (conflict "EXECUTION_INTENT_EXPIRED" "执行意图已过期"))
    rwa [Tx.bind_assoc] at hraise
  · simp only [Throughout, Tx.wp_bind, wp_requireApp]
    exact ⟨fun _ => ⟨fun _ => ⟨fun _ => ⟨.refl, trivial⟩, fun _ => .refl⟩, fun _ => .refl⟩,
      fun _ => .refl⟩

omit [Python] in
/-- A new execution is inserted, its intent is written, and its event is added. -/
theorem logged_newExecution (db : Db) (intent : ExecutionIntent) (e : DownloadExecution)
    (hstatus : e.status = .pending) (hattempts : e.attempts = 0) (eventType actor : String) :
    Throughout Logged
      (insertExecution e >>= fun _ => saveIntent intent >>= fun _ =>
        addExecutionEvent e eventType actor none .pending)
      (fun _ db' => db'.approvals = db.approvals) db := by
  simp only [Throughout, insertExecution, saveExecution, saveIntent, addExecutionEvent, Tx.wp_bind,
    Tx.wp_get, Tx.wp_require, Tx.wp_modify]
  refine ⟨fun hnew => ⟨?_, trivial⟩, fun _ => .refl⟩
  refine .tail (.single (.execution ?_ ?_ ?_ rfl))
    (.other ⟨rfl, rfl, rfl, rfl, rfl, rfl⟩)
  · rw [hnew.1, hstatus]
    rfl
  · rw [hnew.1, hstatus]
    rfl
  · rw [hnew.1, hattempts, hstatus]
    rfl

theorem logged_createExecution (ha : a ∈ db.approvals) (request : DownloadExecutionCreateRequest)
    (keyDigest nonceDigest : Digest String) (requestHash : Digest ExecutionRequestDocument)
    (settings : Settings) (binding : OriginBinding) (newId : Uuid) (now : DateTime) :
    Throughout Logged
      (createExecution a request keyDigest nonceDigest requestHash settings binding newId now)
      (fun _ _ => True) db := by
  refine (logged_requireApproved ha now).bind fun _ db' h => ?_
  obtain ⟨rfl, happroved⟩ := h
  refine logged_liftApp fun snapshot _ => logged_getVerifiedPlan.bind fun plan db₁ h => ?_
  obtain rfl := h
  refine logged_liftApp fun _ _ => throughout_get <| logged_requireApp fun _ =>
    throughout_ofOption fun intent _ => logged_requireApp fun _ => ?_
  refine (logged_requireUsableIntent ha happroved ..).bind fun _ db₂ h => ?_
  obtain rfl := h
  refine throughout_ofExcept fun fingerprint _ => logged_requireApp fun _ => ?_
  have hrequested := logged_newExecution db₂ { intent with
      status := .consumed, consumedAt := some now, consumedBy := some (strip binding.actor) }
    (newExecution newId a plan intent keyDigest requestHash fingerprint binding settings now) rfl rfl
    "EXECUTION_REQUESTED" (strip binding.actor)
  have hnoted := hrequested.bind fun _ db₃ h => (logged_addExecutionApprovalEvent
    (show a ∈ db₃.approvals from h ▸ ha) (by rw [happroved]; decide) "DOWNLOAD_EXECUTION_REQUESTED"
    binding.actor).bind fun _ _ _ => throughout_pure (a := newExecution newId a plan intent keyDigest
      requestHash fingerprint binding settings now) (Q := fun _ _ => True) trivial
  simpa only [Tx.bind_assoc] using hnoted

theorem logged_replayExecution (existing : DownloadExecution) (approvalId intentId : String)
    (requestHash : Digest ExecutionRequestDocument) :
    Throughout Logged (replayExecution existing approvalId intentId requestHash)
      (fun _ _ => True) db :=
  throughout_get <| logged_liftApp fun _ _ => throughout_pure trivial

theorem logged_executeApprovedPlan (approvalId : String)
    (request : DownloadExecutionCreateRequest) (idempotencyKey : String) (settings : Settings)
    (binding : OriginBinding) (newId : Uuid) (now : DateTime) (seen : Bool × Bool) :
    Throughout Logged
      (executeApprovedPlan approvalId request idempotencyKey settings binding newId now seen)
      (fun _ _ => True) db := by
  refine logged_liftApp fun _ _ => logged_liftApp fun keyDigest _ => throughout_get ?_
  cases racyLookup seen.1 (executionOfKey db.toTables keyDigest) with
  | some existing => exact logged_replayExecution ..
  | none =>
      refine logged_liftApp fun _ _ => (logged_getApprovalOr404 approvalId).bind fun a db' h => ?_
      obtain ⟨rfl, ha⟩ := h
      cases racyLookup seen.2 (executionOfKey db'.toTables keyDigest) with
      | some existing => exact logged_replayExecution ..
      | none => exact (logged_createExecution ha ..).bind fun _ _ _ => throughout_pure trivial

/-! ### Automation -/

theorem logged_maybeCreateAutomaticExecution [HexDigest] (settings : Settings)
    (env : AutomationEnvironment) :
    Throughout Logged (maybeCreateAutomaticExecution a settings env) (fun _ _ => True) db := by
  refine (logged_getCurrentPolicy ..).bind fun r db' _ => logged_liftApp fun snapshot _ => ?_
  have hrecord {spec : DecisionSpec} {result : Option DownloadExecution} {db₁ : Db} :
      Throughout Logged (recordStageDecision r.2 spec (env.newId 2) >>= fun _ => pure result)
        (fun _ _ => True) db₁ :=
    (logged_recordStageDecision ..).bind fun _ _ _ => throughout_pure trivial
  split
  · exact hrecord
  · refine throughout_ite (fun _ => hrecord) fun _ => throughout_ite (fun _ => hrecord) fun _ => ?_
    refine throughout_get ?_
    split
    · exact logged_liftApp fun _ _ => hrecord
    · refine throughout_ite (fun _ => hrecord) fun _ => ?_
      refine (logged_addDecisionOnce _).bind fun r' db₁ _ => ?_
      refine throughout_ite (fun _ => ?_) fun _ => ?_
      · exact throughout_get <| throughout_ofOption fun _ _ => logged_liftApp fun _ _ =>
          throughout_pure trivial
      · refine (logged_createExecutionIntent ..).bind fun _ _ _ => ?_
        exact (logged_executeApprovedPlan ..).bind fun _ _ _ => throughout_pure trivial

/-! ### The reservation and the outcome -/

theorem logged_getDownloadExecution (executionId : String) :
    Throughout Logged (getDownloadExecution executionId)
      (fun e db' => db' = db ∧ e ∈ db.executions) db :=
  throughout_reading (Tx.wp_mono (wp_getDownloadExecution executionId)
    (fun _ _ h => ⟨h.1, h.2.1⟩) fun _ _ => id)

theorem logged_requestReconciliation (executionId : String) (reason : Option String)
    (actor : String) (now : DateTime) :
    Throughout Logged (requestReconciliation executionId reason actor now) (fun _ _ => True)
      db := by
  refine (logged_getDownloadExecution executionId).bind fun e db' h => ?_
  obtain ⟨rfl, he⟩ := h
  refine throughout_ite (fun _ => throughout_pure trivial) fun _ => logged_requireApp
    fun hstatus => ?_
  simp only [Throughout, saveExecution, addExecutionEvent, Tx.wp_bind, Tx.wp_modify, Tx.wp_pure]
  refine ⟨.single (.move he _ .reconciliationPending rfl ?_ ⟨rfl, rfl⟩ rfl rfl), trivial⟩
  rcases hstatus with h | h <;> rw [h] <;> decide

theorem logged_markReconciliationRequired (executionId actor : String)
    (leaseToken : Option String) (leaseSeconds : Int) (error : RecordedError) (now : DateTime) :
    Throughout Logged
      (markReconciliationRequired executionId actor leaseToken leaseSeconds error now)
      (fun _ _ => True) db := by
  refine (logged_getDownloadExecution executionId).bind fun e db' h => ?_
  obtain ⟨rfl, he⟩ := h
  refine throughout_ite (fun _ => throughout_pure trivial) fun _ => logged_requireApp
    fun hstatus => logged_liftApp fun _ _ => ?_
  simp only [Throughout, saveExecution, addExecutionEvent, Tx.wp_bind, Tx.wp_modify, Tx.wp_pure]
  refine ⟨.single (.move he _ .reconciliationRequired rfl ?_ ⟨rfl, rfl⟩ rfl rfl), trivial⟩
  rcases hstatus with h | h <;> rw [h] <;> decide

theorem logged_markOutcomeUnknown (executionId actor leaseToken : String) (leaseSeconds : Int)
    (error : RecordedError) (now : DateTime) :
    Throughout Logged (markOutcomeUnknown executionId actor leaseToken leaseSeconds error now)
      (fun _ _ => True) db := by
  refine (logged_getDownloadExecution executionId).bind fun e db' h => ?_
  obtain ⟨rfl, he⟩ := h
  refine throughout_ite (fun _ => throughout_pure trivial) fun _ => logged_requireApp
    fun hstatus => logged_liftApp fun _ _ => logged_requireApp fun _ => ?_
  simp only [Throughout, saveExecution, addExecutionEvent, Tx.wp_bind, Tx.wp_modify, Tx.wp_pure]
  exact ⟨.single (.move he .submitting .outcomeUnknown hstatus (by decide) ⟨rfl, rfl⟩ rfl
    (by rw [← hstatus]; rfl)), trivial⟩

/-- An execution that is being validated is cancelled with its event. -/
theorem logged_cancelInvalidatedExecution (he : e ∈ db.executions) (h : e.status = .validating)
    (actor : String) :
    Throughout Logged (cancelInvalidatedExecution e actor) (fun _ _ => True) db := by
  simp only [Throughout, cancelInvalidatedExecution, saveExecution, addExecutionEvent, Tx.wp_bind,
    Tx.wp_modify, Tx.wp_pure]
  exact ⟨.single (.move he .validating .cancelled h (by decide) ⟨rfl, rfl⟩ rfl
    (by rw [← h]; rfl)), trivial⟩

/-- A reservation moves the request and the execution, each with its event. -/
theorem logged_reserveValidating (he : e ∈ db.executions) (h : e.status = .validating)
    (metadata : ValidatedTorrent) (selectedHash actor : String) (now : DateTime) :
    Throughout Logged (reserveValidating e metadata selectedHash actor now)
      (fun _ _ => True) db := by
  refine throughout_get ?_
  cases hget : db.approvals.get? e.approvalId with
  | none => exact logged_cancelInvalidatedExecution he h actor
  | some approval =>
      have ha := Table.mem_of_get?_eq_some hget
      refine logged_liftApp fun _ _ => throughout_ite (fun hexpired => ?_) fun _ =>
        throughout_ite (fun _ => logged_cancelInvalidatedExecution he h actor) fun happroved => ?_
      · simp only [Throughout, cancelInvalidatedExecution, saveApproval, addExecutionApprovalEvent,
          addApprovalEvent, saveExecution, addExecutionEvent, Tx.wp_bind, Tx.wp_modify,
          Tx.wp_pure]
        exact ⟨Logged.decide_move ha .approved .expired he .validating .cancelled ⟨hexpired.1, h⟩
          (by decide) (by decide) ⟨rfl, rfl⟩ ⟨rfl, rfl⟩ rfl rfl (by rw [← h]; rfl), trivial⟩
      · have happroved : approval.status = .approved := not_not.mp happroved
        refine logged_getVerifiedPlan.bind fun plan db' hsame => logged_liftApp fun hash _ => ?_
        subst hsame
        simp only [Throughout, saveApproval, addExecutionApprovalEvent, addApprovalEvent,
          saveExecution, addExecutionEvent, Tx.wp_bind, Tx.wp_modify, Tx.wp_pure]
        exact ⟨Logged.decide_move ha .approved .executing he .validating .submitting ⟨happroved, h⟩
          (by decide) (by decide) ⟨rfl, rfl⟩ ⟨rfl, rfl⟩ rfl (by rw [← happroved]; rfl)
          (by rw [← h]; rfl), trivial⟩

theorem logged_persistInfoHashBeforeSubmission (executionId : String)
    (metadata : ValidatedTorrent) (actor leaseToken : String) (leaseSeconds : Int)
    (clock : DateTime × DateTime) :
    Throughout Logged
      (persistInfoHashBeforeSubmission executionId metadata actor leaseToken leaseSeconds clock)
      (fun _ _ => True) db := by
  refine throughout_ofOption fun selectedHash _ => ?_
  refine (logged_getDownloadExecution executionId).bind fun e db' h => ?_
  obtain ⟨rfl, he⟩ := h
  refine logged_liftApp fun _ _ => throughout_ite (fun _ => logged_requireApp fun _ =>
    throughout_pure trivial) fun _ => logged_requireApp fun hvalidating => ?_
  exact logged_reserveValidating he hvalidating ..

/-! ### The executor -/

variable {x : DownloadExecutor} {claim : ExecutionClaim}

omit [Python] in
/-- A claim counts up the attempts with its event. -/
theorem logged_claimNextExecution (leaseToken : Uuid) (now : DateTime) (locked : String → Bool) :
    Throughout Logged (claimNextExecution x leaseToken now locked) (fun _ _ => True) db := by
  refine throughout_get ?_
  cases hnext : nextClaimable db.toTables now locked with
  | none => exact throughout_pure trivial
  | some e =>
      obtain ⟨he, hstatus, -⟩ := nextClaimable_some hnext
      simp only [Throughout, saveExecution, addExecutionEvent, Tx.wp_bind, Tx.wp_modify,
        Tx.wp_pure]
      refine ⟨.single (.move he _ .validating rfl ?_ ⟨rfl, rfl⟩ rfl rfl), trivial⟩
      rcases hstatus with h | h <;> rw [h] <;> decide

omit [Python] in
theorem logged_renewLease (now : DateTime) :
    Throughout Logged (renewLease x claim now) (fun _ _ => True) db := by
  refine throughout_get ?_
  cases hget : db.executions.get? claim.executionId with
  | none => exact throughout_pure trivial
  | some e =>
      have he := Table.mem_of_get?_eq_some hget
      dsimp only
      split
      · simp only [Throughout, saveExecution, Tx.wp_bind, Tx.wp_modify, Tx.wp_pure]
        exact ⟨.single (.renew he now), trivial⟩
      · exact throughout_pure trivial
      · exact throughout_raise

omit [Python] in
/-- What recovers a stale execution follows the lifecycle. -/
theorem recoveredExecution_succeeds (h : e.status.isLeased = true) (now : DateTime) :
    (recoveredExecution x now e).status ∈ executionSuccessors e.status ∧
      (recoveredExecution x now e).status ≠ .validating ∧
      (recoveredExecution x now e).attempts = e.attempts := by
  unfold recoveredExecution
  split
  · rename_i hsubmitting
    rw [hsubmitting]
    exact ⟨by simp [executionSuccessors], by simp, rfl⟩
  · have hvalidating : e.status = .validating := by
      cases hs : e.status <;> simp_all [DownloadExecutionStatus.isLeased]
    rw [hvalidating]
    unfold validationEnded
    refine ⟨?_, ?_, rfl⟩ <;> dsimp only <;> split <;> simp [executionSuccessors]

omit [Python] in
/-- The loop over the stale executions: the rows still to come are still there. -/
theorem logged_recoverExecutions (now : DateTime) (rows : List DownloadExecution)
    (hrows : ∀ e ∈ rows, e ∈ db.executions ∧ e.status.isLeased = true)
    (hnodup : (rows.map DownloadExecution.id).Nodup) :
    Throughout Logged (recoverExecutions x now rows) (fun _ _ => True) db := by
  induction rows generalizing db with
  | nil => exact throughout_pure trivial
  | cons e rest ih =>
      obtain ⟨he, hleased⟩ := hrows e List.mem_cons_self
      obtain ⟨hedge, hne, hattempts⟩ := recoveredExecution_succeeds (x := x) hleased now
      simp only [List.map_cons, List.nodup_cons] at hnodup
      simp only [Throughout, recoverExecutions, saveExecution, addExecutionEvent, Tx.wp_bind,
        Tx.wp_modify]
      have hmove := Logged.move he _ _ rfl hedge ⟨id_recoveredExecution e now, rfl⟩
        (by rw [hattempts, if_neg hne]; rfl)
        (show executionMark {
            downloadExecutionId := (recoveredExecution x now e).id
            eventType :=
              if e.status = .submitting then "STALE_SUBMISSION_REQUIRES_RECONCILIATION"
              else "STALE_VALIDATION_RECOVERED"
            fromStatus := some e.status
            toStatus := (recoveredExecution x now e).status
            actor := x.workerId } = _ by rw [executionMark, id_recoveredExecution])
      refine Tx.wp_mono (ih (fun e' he' => ?_) hnodup.2)
        (fun _ _ h => ⟨.head hmove h.1, trivial⟩) fun _ _ h => .head hmove h
      refine ⟨Table.mem_save_of_ne (hrows e' (List.mem_cons_of_mem e he')).1 fun hid => ?_,
        (hrows e' (List.mem_cons_of_mem e he')).2⟩
      rw [key_execution, key_execution, id_recoveredExecution] at hid
      exact hnodup.1 (hid ▸ List.mem_map_of_mem he')

omit [Python] in
theorem logged_recoverStaleExecutions (now : DateTime) (locked : String → Bool) :
    Throughout Logged (recoverStaleExecutions x now locked) (fun _ _ => True) db :=
  throughout_get <| (logged_recoverExecutions now _ (fun _ h => mem_staleExecutions h)
    (staleExecutions_nodup _ _ _)).bind fun _ _ _ => throughout_pure trivial

/-! ### The guard -/

theorem logged_automationFenceError (e : DownloadExecution) (approval : Option ApprovalRequest)
    (newId : Uuid) (now : DateTime) :
    Throughout Logged (automationFenceError x e approval newId now)
      (fun _ db' => SameLogged db db') db := by
  have hnone (code : Option String) : Throughout Logged (pure code : DbTx (Option String))
      (fun _ db' => SameLogged db db') db := throughout_pure (SameLogged.refl db)
  refine throughout_ite (fun _ => hnone _) fun _ => throughout_ite (fun _ => hnone _) fun _ => ?_
  cases approval with
  | none => exact hnone _
  | some approval =>
      refine logged_liftApp fun snapshot _ => throughout_ite (fun _ => hnone _) fun _ => ?_
      exact (logged_getCurrentPolicy ..).bind fun _ _ hsame => throughout_pure hsame

omit [Python] in
/-- The automation fence cancels the execution and revokes its request, each with its event. -/
theorem logged_fenced (he : e ∈ db.executions) (h : e.status = .validating ∨ e.status = .submitting)
    {approval : Option ApprovalRequest} (ha : ∀ a ∈ approval, a ∈ db.approvals)
    (errorCode : String) (flag : Bool) (now : DateTime) :
    Throughout Logged (fenced x e approval errorCode flag now) (fun _ _ => True) db := by
  refine throughout_ite (fun _ => throughout_raise) fun _ => ?_
  have hedge : .cancelled ∈ executionSuccessors e.status := by
    rcases h with h | h <;> rw [h] <;> decide
  have hcancel : Logged db { db with
      executions := db.executions.save (cancelledExecution errorCode
        "自动化策略或安全资格已变化，外部写入前取消" e)
      executionEvents := db.executionEvents ++ [
        { downloadExecutionId := e.id, eventType := "AUTOMATION_FENCE_CANCELLED"
          fromStatus := some e.status, toStatus := .cancelled, actor := x.workerId }] } :=
    .move he _ .cancelled rfl hedge ⟨rfl, rfl⟩ rfl rfl
  cases approval with
  | none =>
      simp only [Throughout, cancelByAutomationFence, revokeByFence, saveExecution,
        addExecutionEvent, Tx.wp_bind, Tx.wp_modify, Tx.wp_pure]
      exact ⟨.single hcancel, trivial⟩
  | some a =>
      have ha := ha a rfl
      simp only [Throughout, cancelByAutomationFence, revokeByFence, saveExecution,
        addExecutionEvent, saveApproval, addEvent, addApprovalEvent, Tx.wp_bind, Tx.wp_ite,
        Tx.wp_modify, Tx.wp_pure]
      refine ⟨fun hstatus => ⟨?_, trivial⟩, fun _ => ⟨.single hcancel, trivial⟩⟩
      refine Logged.decide_move ha _ .revoked he _ .cancelled ⟨rfl, rfl⟩ ?_ hedge ⟨rfl, rfl⟩
        ⟨rfl, rfl⟩ rfl rfl rfl
      rcases hstatus with hstatus | hstatus <;> rw [hstatus] <;> decide

omit [Python] in
theorem logged_cancelUnapproved (he : e ∈ db.executions) (h : e.status = .validating) :
    Throughout Logged (cancelUnapproved x e) (fun _ _ => True) db := by
  simp only [Throughout, cancelUnapproved, saveExecution, addExecutionEvent, Tx.wp_bind,
    Tx.wp_modify, Tx.wp_pure]
  exact ⟨.single (.move he .validating .cancelled h (by decide) ⟨rfl, rfl⟩ rfl
    (by rw [← h]; rfl)), trivial⟩

omit [Python] in
theorem logged_allowAction (he : e ∈ db.executions) (now : DateTime) :
    Throughout Logged (allowAction e now) (fun _ _ => True) db := by
  simp only [Throughout, allowAction, saveExecution, Tx.wp_bind, Tx.wp_modify, Tx.wp_pure]
  exact ⟨.single (.renew he now), trivial⟩

theorem logged_guardValidating (he : e ∈ db.executions) (h : e.status = .validating)
    {approval : Option ApprovalRequest} (ha : ∀ a ∈ approval, a ∈ db.approvals) (now : DateTime) :
    Throughout Logged (guardValidating x e approval now) (fun _ _ => True) db := by
  cases approval with
  | none => exact logged_cancelUnapproved he h
  | some a =>
      have ha := ha a rfl
      refine logged_liftApp fun _ _ => throughout_ite (fun hexpired => ?_) fun _ =>
        throughout_ite (fun _ => logged_cancelUnapproved he h) fun _ => logged_allowAction he now
      simp only [Throughout, cancelUnapproved, saveApproval, addEvent, addApprovalEvent,
        saveExecution, addExecutionEvent, Tx.wp_bind, Tx.wp_modify, Tx.wp_pure]
      exact ⟨Logged.decide_move ha .approved .expired he .validating .cancelled ⟨hexpired.1, h⟩
        (by decide) (by decide) ⟨rfl, rfl⟩ ⟨rfl, rfl⟩ rfl rfl (by rw [← h]; rfl), trivial⟩

theorem logged_ensureExternalActionAllowed (expectedStatus : DownloadExecutionStatus) (flag : Bool)
    (newId : Uuid) (clock : DateTime × DateTime) :
    Throughout Logged (ensureExternalActionAllowed x claim expectedStatus flag newId clock)
      (fun _ _ => True) db := by
  refine throughout_get <| throughout_ofOption fun e hget => throughout_ofExcept fun _ hlease => ?_
  obtain ⟨-, hexpected, hleased, -⟩ := requireFreshMatchingLease_ok hlease
  have hstatus : e.status = expectedStatus := hexpected _ rfl
  refine throughout_ofOption fun plan _ => logged_liftApp fun _ _ => logged_liftApp fun _ _ => ?_
  refine (logged_automationFenceError e _ newId clock.2).bind fun automationError db' hsame => ?_
  have he : e ∈ db'.executions := hsame.executions ▸ Table.mem_of_get?_eq_some hget
  have ha : ∀ a ∈ db.approvals.get? e.approvalId, a ∈ db'.approvals :=
    fun a ha => hsame.approvals ▸ Table.mem_of_get?_eq_some ha
  cases automationError with
  | some errorCode =>
      refine logged_fenced he ?_ ha ..
      revert hleased
      cases e.status <;> simp [DownloadExecutionStatus.isLeased]
  | none =>
      refine throughout_ite (fun hvalidating => ?_) fun _ => ?_
      · exact logged_guardValidating he (hstatus.trans hvalidating) ha _
      · exact logged_requireApp fun _ => logged_allowAction he _

theorem logged_reserveSubmission (metadata : ValidatedTorrent)
    (clock : DateTime × DateTime × DateTime) :
    Throughout Logged (reserveSubmission x claim metadata clock) (fun _ _ => True) db :=
  throughout_get <| throughout_ofOption fun _ _ => throughout_ofExcept fun _ _ =>
    (logged_persistInfoHashBeforeSubmission ..).bind fun _ _ _ => throughout_pure trivial

/-! ### Failures -/

omit [Python] in
theorem logged_markValidationFailure (error : AppError) (now : DateTime) :
    Throughout Logged (markValidationFailure x claim error now) (fun _ _ => True) db := by
  refine throughout_get ?_
  cases hget : db.executions.get? claim.executionId with
  | none => exact throughout_pure trivial
  | some e =>
      have he := Table.mem_of_get?_eq_some hget
      refine throughout_ofExcept fun owns _ => throughout_ite (fun h => ?_) fun _ =>
        throughout_pure trivial
      simp only [Throughout, saveExecution, addExecutionEvent, Tx.wp_bind, Tx.wp_modify]
      refine ⟨.single (.move he _ _ h.2 ?_ ⟨rfl, rfl⟩ ?_ (by rw [← h.2]; rfl)), trivial⟩
      · unfold validationEnded
        dsimp only
        split <;> decide
      · rw [if_neg]
        · rfl
        · unfold validationEnded
          dsimp only
          split <;> decide

theorem logged_markReservedFailure (error : AppError) (flag : Bool) (now : DateTime) :
    Throughout Logged (markReservedFailure x claim error flag now) (fun _ _ => True) db := by
  refine throughout_get ?_
  cases db.executions.get? claim.executionId with
  | none => exact throughout_pure trivial
  | some e =>
      refine throughout_ofExcept fun owns _ => throughout_ite (fun _ => throughout_ite (fun _ => ?_)
        fun _ => ?_) fun _ => throughout_pure trivial
      · exact (logged_markOutcomeUnknown ..).bind fun _ _ _ => throughout_pure trivial
      · exact (logged_markReconciliationRequired ..).bind fun _ _ _ => throughout_pure trivial

/-! ### Finalisation -/

/-- A request in hand that is executing is consumed with its event. -/
theorem wp_consumeApproval_logged (ha : a ∈ db.approvals) (hexecuting : a.status = .executing)
    (actor : String) (now : DateTime) :
    Tx.wp (consumeApproval a.id actor now)
      (fun consumed db' => consumed = { a with status := .consumed, decidedAt := some now } ∧
        ∃ event, approvalMark event =
          { key := a.id, before := some .executing, after := .consumed } ∧
        db' = { db with
          approvals := db.approvals.save consumed
          approvalEvents := db.approvalEvents ++ [event] })
      (fun _ _ => True) db := by
  have hget : db.approvals.get? a.id = some a := Table.get?_key ha
  simp only [consumeApproval, hget, stageExpirationIfNeeded, Tx.wp_bind, Tx.wp_get,
    Tx.wp_ofOption, wp_liftApp, wp_requireApp, Tx.wp_ite, Tx.wp_pure, transition, saveApproval,
    addEvent, addApprovalEvent, Tx.wp_modify]
  simp [hexecuting, approvalMark]

/-- The writes of a finalisation: the job, the request and the execution, each with its event. -/
theorem logged_finalizeSubmitting (he : e ∈ db.executions) (h : e.status = .submitting)
    (observed : QbTorrent) {outcome : DownloadExecutionStatus}
    (houtcome : outcome = .submitted ∨ outcome = .alreadyPresent) (settings : Settings)
    (actor : String) (newIds : Uuid × Uuid) (clock : ℕ → DateTime) :
    Does Logged (finalizeSubmitting e observed outcome settings actor newIds clock)
      (fun _ _ => True) db := by
  refine does_get <| does_ofOption fun a hget => ?_
  obtain ⟨hget, hexecuting⟩ := Option.filter_eq_some_iff.mp hget
  have hexecuting : a.status = .executing := of_decide_eq_true hexecuting
  refine does_ofExcept fun snapshot _ => ?_
  have hcas : Throughout Logged (requireFinalAutomationSubmissionCas e
      (effectiveHnrRule snapshot.siteId snapshot.hitAndRun).applies settings newIds.1 (clock 1))
      (fun _ db' => SameLogged db db') db :=
    throughout_ite (fun _ => throughout_pure (.refl db)) fun _ =>
      (logged_getCurrentPolicy ..).bind fun _ _ hsame => by
        simp only [Throughout, wp_requireApp]
        exact ⟨fun _ => ⟨.refl, hsame⟩, fun _ => .refl⟩
  refine hcas.does.bind fun _ db₁ _ hsame => ?_
  refine logged_getVerifiedPlan.does.bind fun plan db₂ _ heq => ?_
  subst heq
  refine does_ofExcept fun fingerprint _ => does_require fun _ => does_ofExcept fun contents _ => ?_
  refine does_of_wp ?_
  simp only [Tx.wp_bind]
  refine Tx.wp_mono (wp_insertJob _) (fun _ db₃ hjob => ?_) fun _ _ => id
  obtain ⟨-, hnew, -, rfl⟩ := hjob
  have ha : a ∈ db₂.approvals := hsame.approvals ▸ Table.mem_of_get?_eq_some hget
  have he : e ∈ db₂.executions := hsame.executions ▸ he
  refine Tx.wp_mono (wp_consumeApproval_logged (a := a) ?_ hexecuting actor _)
    (fun consumed db₄ hconsumed => ?_) fun _ _ => id
  · exact ha
  obtain ⟨rfl, event, hmark, rfl⟩ := hconsumed
  simp only [saveExecution, addExecutionEvent, addExecutionApprovalEvent, addApprovalEvent,
    addJobEvent, Tx.wp_modify, Tx.wp_pure]
  generalize newDownloadJob newIds.2 e a plan observed contents (clock 2) = job at hnew
  have hedge : outcome ∈ executionSuccessors .submitting := by
    rcases houtcome with rfl | rfl <;> decide
  have hnot : ¬ outcome = .validating := by
    rcases houtcome with rfl | rfl <;> decide
  -- the request and the execution move, the request gets a note, and the download is recorded
  have hmoved := Logged.decide_move ha .executing .consumed he .submitting outcome
    ⟨hexecuting, h⟩ (by decide) hedge
    (show ({ a with status := .consumed, decidedAt := some (clock 3) } : ApprovalRequest).id = a.id ∧
      _ from ⟨rfl, rfl⟩)
    (show (finalizedExecution e outcome (clock 2)).id = e.id ∧ _ from ⟨rfl, rfl⟩)
    (by rw [if_neg hnot]; rfl) hmark
    (show executionMark { downloadExecutionId := e.id, eventType := "SUBMISSION_VERIFIED"
                          fromStatus := some e.status, toStatus := outcome
                          actor := strip actor } = _ by rw [h]; rfl)
  refine ⟨.tail (.tail hmoved (.note (Table.mem_save_self _ _) (by rfl)
    (show ApprovalStatus.consumed ∈ approvalSuccessors .consumed by decide) rfl))
    (.job (j := job) ?_ rfl), trivial⟩
  rw [show db₂.jobs.get? job.id = none from hnew]
  rfl

theorem logged_finalizeDownloadSubmission (executionId : String) (observed : QbTorrent)
    (outcome : DownloadExecutionStatus) (settings : Settings) (actor leaseToken : String)
    (newIds : Uuid × Uuid) (clock : ℕ → DateTime) :
    Does Logged
      (finalizeDownloadSubmission executionId observed outcome settings actor leaseToken newIds
        clock)
      (fun _ _ => True) db := by
  refine does_require fun houtcome => ?_
  refine (logged_getDownloadExecution executionId).does.bind fun e db' _ h => ?_
  obtain ⟨rfl, he⟩ := h
  refine does_get <| does_ite (fun _ => ?_) fun _ => ?_
  · refine does_require fun _ => does_of_wp ((Tx.wp_ofOption _ _).mpr ?_)
    exact ⟨fun _ _ => ⟨.refl, trivial⟩, fun _ => trivial⟩
  · refine does_require fun _ => does_require fun hsubmitting => does_ofExcept fun _ _ => ?_
    exact logged_finalizeSubmitting he hsubmitting observed houtcome ..

/-! ### The monitor -/

/-- A row of a download is written back, with an event unless it stands where it stood. -/
theorem Logged.ofWithJob {job row : DownloadJob} (hjob : job ∈ db.jobs) (hid : row.id = job.id)
    (eventType actor : String) {recorded : Bool}
    (hsilent : recorded = false → row.status = job.status) :
    Logged db (withJob db job row eventType actor recorded) := by
  cases recorded with
  | true =>
      have hget : db.jobs.get? row.id = some job := by
        rw [hid]
        exact Table.get?_key hjob
      have hmark : jobMark
          { downloadJobId := row.id, eventType := eventType, fromStatus := some job.status
            toStatus := row.status, actor := strip actor } =
          { key := row.id, before := (db.jobs.get? row.id).map DownloadJob.status
            after := row.status } := by
        rw [hget]
        rfl
      exact .job hmark rfl
  | false =>
      refine .observation hjob ⟨hid, hsilent rfl⟩ ?_
      simp [withJob]

end LibSeek.ControlPlane
