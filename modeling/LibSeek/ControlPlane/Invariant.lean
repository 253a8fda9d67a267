/-
The invariant of the control plane.

The tables bind each other: an execution to its request, its intent and its plan, a job to its
execution, a plan to its request.  The invariant says what holds of every row alone, and what holds
between the rows; every change of the protocol preserves it, and so does every sequence of them.

Main definitions:

* `ControlPlane.Bound` — an execution with the rows it is bound to;
* `ControlPlane.Agree` — what the state of an execution says of its request;
* `ControlPlane.Invariant` — **the invariant**;
* `ControlPlane.Bindings` — the part of it that does not go by where a request stands.

Main results:

* `ControlPlane.Invariant.effect`, `ControlPlane.Invariant.approve`,
  `ControlPlane.Invariant.moves` — **the invariant is preserved**;
* `ControlPlane.Bindings.moves`, `ControlPlane.Bindings.rewritten` — and so are the bindings, also
  where requests are written over;
* `ControlPlane.Invariant.verifyDownloadExecution` — every execution verifies.
-/

import LibSeek.ControlPlane.ExecutionSteps
import LibSeek.ControlPlane.RowInvariants

set_option relaxedAutoImplicit false
set_option autoImplicit false

namespace LibSeek.ControlPlane

open LibSeek.Core LibSeek.Lib LibSeek.Models LibSeek.Schemas LibSeek.Services LibSeek.Workers

variable [Python]

/-! ### What the invariant says -/

/-- The statuses of a request that has a plan. -/
def hasPlan : ApprovalStatus → Bool
  | .approved | .executing | .consumed | .revoked => true
  | _ => false

/-- The digests of an execution have the shape of digests. -/
def Digested (e : DownloadExecution) : Prop :=
  e.idempotencyKeySha256.wellShaped = true ∧ e.requestHash.wellShaped = true ∧
    e.approvalSnapshotHash.wellShaped = true ∧ e.planHash.wellShaped = true ∧
    e.qbTargetFingerprint.wellShaped = true

/-- An execution with the rows it is bound to. -/
structure Bound (s : Tables) (e : DownloadExecution) (a : ApprovalRequest)
    (i : ExecutionIntent) (p : DownloadPlan) : Prop where
  approval : a ∈ s.approvals
  approval_id : a.id = e.approvalId
  intent : i ∈ s.intents
  intent_id : i.id = e.intentId
  intent_approval : i.approvalId = e.approvalId
  plan : p ∈ s.plans
  plan_approval : p.approvalId = e.approvalId
  digested : Digested e
  origin : requireOriginBinding e.origin (some e.launchMode) e.automationPolicyRevisionId
    e.automationDecisionId = .ok ()
  bound : executionBound e a i p
  automation : verifyExecutionAutomation s e a = .ok ()

/-- What the state of an execution says of its request: it is executing from the reservation on,
and consumed once the torrent was seen. -/
structure Agree (execution : DownloadExecutionStatus) (approval : ApprovalStatus) : Prop where
  executing : execution.isReserved = true → execution.isVerified = false → approval = .executing
  consumed : execution.isVerified = true → approval = .consumed

/-- The part of the invariant about requests and plans. -/
structure PlansSound (s : Tables) : Prop where
  approvals : ∀ a ∈ s.approvals, ApprovalSound a
  planned : ∀ p ∈ s.plans, ∃ a ∈ s.approvals, a.id = p.approvalId ∧ Planned a p
  decided : ∀ a ∈ s.approvals, hasPlan a.status = true → ∃ p ∈ s.plans, p.approvalId = a.id
  plan_unique : s.plans.UniqueBy fun p => p.approvalId

/-- The part of the invariant about intents. -/
structure IntentsSound (s : Tables) : Prop where
  origin : ∀ i ∈ s.intents, requireOriginBinding i.origin (some i.launchMode)
    i.automationPolicyRevisionId i.automationDecisionId = .ok ()
  nonce_unique : s.intents.UniqueBy ExecutionIntent.nonceSha256
  consumed : ∀ i ∈ s.intents, i.status = .consumed → ∃ e ∈ s.executions, e.intentId = i.id
  used : ∀ e ∈ s.executions, ∀ i ∈ s.intents, i.id = e.intentId → i.status = .consumed

/-- The part of the invariant about executions. -/
structure ExecutionsSound (s : Tables) : Prop where
  executions : ∀ e ∈ s.executions, ExecutionSound e
  bound : ∀ e ∈ s.executions, ∃ a i p, Bound s e a i p
  approval_unique : s.executions.UniqueBy DownloadExecution.approvalId
  intent_unique : s.executions.UniqueBy DownloadExecution.intentId
  key_unique : s.executions.UniqueBy DownloadExecution.idempotencyKeySha256

/-- The part of the invariant about outcomes: what the state of an execution says of its request
and of its job. -/
structure OutcomesSound (s : Tables) : Prop where
  agree : ∀ e ∈ s.executions, ∀ a ∈ s.approvals, a.id = e.approvalId → Agree e.status a.status
  verified : ∀ e ∈ s.executions, e.status.isVerified = true ↔ ∃ j ∈ s.jobs, j.executionId = e.id
  jobs : ∀ j ∈ s.jobs, ∃ e ∈ s.executions, e.id = j.executionId
  job_unique : s.jobs.UniqueBy DownloadJob.executionId

/-- **The invariant of the control plane.** -/
structure Invariant (s : Tables) : Prop
    extends PlansSound s, IntentsSound s, ExecutionsSound s, OutcomesSound s

/-- What the rows are bound to, wherever the requests stand. -/
structure Bindings (s : Tables) : Prop extends IntentsSound s where
  ids : ∀ a ∈ s.approvals, ∃ newId : Uuid, a.id = newId.text
  bound : ∀ e ∈ s.executions, ∃ a i p, Bound s e a i p
  approval_unique : s.executions.UniqueBy DownloadExecution.approvalId
  intent_unique : s.executions.UniqueBy DownloadExecution.intentId
  key_unique : s.executions.UniqueBy DownloadExecution.idempotencyKeySha256

theorem Invariant.bindings {s : Tables} (hs : Invariant s) : Bindings s :=
  { hs.toIntentsSound with
    ids := fun a ha => (hs.approvals a ha).id
    bound := hs.bound
    approval_unique := hs.approval_unique
    intent_unique := hs.intent_unique
    key_unique := hs.key_unique }

theorem invariant_initial : Invariant {} where
  approvals _ h := absurd h (Table.notMem_empty _)
  planned _ h := absurd h (Table.notMem_empty _)
  decided _ h := absurd h (Table.notMem_empty _)
  plan_unique := Table.uniqueBy_empty
  origin _ h := absurd h (Table.notMem_empty _)
  nonce_unique := Table.uniqueBy_empty
  consumed _ h := absurd h (Table.notMem_empty _)
  used _ h := absurd h (Table.notMem_empty _)
  executions _ h := absurd h (Table.notMem_empty _)
  bound _ h := absurd h (Table.notMem_empty _)
  approval_unique := Table.uniqueBy_empty
  intent_unique := Table.uniqueBy_empty
  key_unique := Table.uniqueBy_empty
  agree _ h := absurd h (Table.notMem_empty _)
  verified _ h := absurd h (Table.notMem_empty _)
  jobs _ h := absurd h (Table.notMem_empty _)
  job_unique := Table.uniqueBy_empty

variable {l : Licence} {s s' : Tables}

/-! ### Requests and plans -/

theorem ApprovalStep.hasPlan {a a' : ApprovalRequest} (h : ApprovalStep l a a')
    (ha' : hasPlan a'.status = true) : ControlPlane.hasPlan a.status = true := by
  cases h with
  | refl => exact ha'
  | move hmove =>
      cases hmove with
      | expire => cases ha'
      | reject => cases ha'
      | revoke h => rw [h]; rfl
  | preflight => exact ha'
  | reserve h => rw [h]; rfl
  | consume h => rw [h]; rfl
  | fence h => rcases h with h | h <;> rw [h] <;> rfl

omit [Python] in
theorem hasPlan_pending {a : ApprovalRequest} (h : a.status = .pending) :
    hasPlan a.status = false := by
  rw [h]
  rfl

/-- Changes leave the plans alone. -/
theorem Effect.plans_eq (h : Effect l s s') : s'.plans = s.plans := by
  cases h <;> rfl

theorem PlansSound.effect (hs : PlansSound s) (h : Effect l s s') : PlansSound s' where
  approvals a' ha' := by
    rcases h.approval_cases ha' with ⟨hnew, -⟩ | ⟨a, ha, hstep⟩
    · exact hnew.sound
    · exact hstep.sound (hs.approvals a ha)
  planned p hp := by
    rw [h.plans_eq] at hp
    obtain ⟨a, ha, hid, hplanned⟩ := hs.planned p hp
    obtain ⟨a', ha', hstep⟩ := h.approval_step ha
    exact ⟨a', ha', hstep.id_eq.trans hid, hstep.planned hplanned⟩
  decided a' ha' hstatus := by
    rw [h.plans_eq]
    rcases h.approval_cases ha' with ⟨hnew, -⟩ | ⟨a, ha, hstep⟩
    · rw [hasPlan_pending hnew.status] at hstatus
      cases hstatus
    · rw [hstep.id_eq]
      exact hs.decided a ha (hstep.hasPlan hstatus)
  plan_unique := by
    rw [h.plans_eq]
    exact hs.plan_unique

omit [Python] in
/-- No plan of a request is there where the lookup finds none. -/
theorem planOfApproval_eq_none {approvalId : String} (h : planOfApproval s approvalId = none) :
    ∀ p ∈ s.plans, p.approvalId ≠ approvalId :=
  fun p hp => by simpa using List.find?_eq_none.mp h p hp

theorem PlansSound.approve (hs : PlansSound s) (h : Approve s s') : PlansSound s' := by
  obtain ⟨a, settings, request, now, plan, ha, ⟨happroval⟩, hid, hnone, rfl⟩ := h
  have hplan : plan.approvalId = a.id := by rw [happroval.plan_eq]; rfl
  have hfresh := planOfApproval_eq_none hnone
  exact
    { approvals := by
        refine Table.forall_mem_save hs.approvals ?_
        obtain ⟨hid, hverified, hpreflight⟩ := hs.approvals a ha
        exact ⟨hid, hverified, hpreflight⟩
      planned := by
        intro p hp
        rcases Table.mem_save.mp hp with rfl | ⟨hp, -⟩
        · exact ⟨_, Table.mem_save_self _ _, hplan.symm, happroval.planned⟩
        · obtain ⟨b, hb, hbid, hplanned⟩ := hs.planned p hp
          refine ⟨b, Table.mem_save_of_ne hb ?_, hbid, hplanned⟩
          exact fun hkey => hfresh p hp (hbid.symm.trans hkey)
      decided := by
        intro b hb hstatus
        rcases Table.mem_save.mp hb with rfl | ⟨hb, -⟩
        · exact ⟨plan, Table.mem_save_self _ _, hplan⟩
        · obtain ⟨p, hp, hpid⟩ := hs.decided b hb hstatus
          exact ⟨p, mem_save_of_new hid hp, hpid⟩
      plan_unique := by
        refine hs.plan_unique.save_new fun p hp => ?_
        rw [hplan]
        exact hfresh p hp }

/-! ### Intents -/

omit [Python] in
theorem fixedIntent_id {i i' : ExecutionIntent} (h : fixedIntent i' = fixedIntent i) :
    i'.id = i.id := by
  have hid : (fixedIntent i').id = (fixedIntent i).id := by rw [h]
  exact hid

omit [Python] in
theorem fixedExecution_intentId {e e' : DownloadExecution}
    (h : fixedExecution e' = fixedExecution e) : e'.intentId = e.intentId := by
  have hid : (fixedExecution e').intentId = (fixedExecution e).intentId := by rw [h]
  exact hid

omit [Python] in
theorem fixedExecution_approvalId {e e' : DownloadExecution}
    (h : fixedExecution e' = fixedExecution e) : e'.approvalId = e.approvalId := by
  have hid : (fixedExecution e').approvalId = (fixedExecution e).approvalId := by rw [h]
  exact hid

omit [Python] in
theorem fixedExecution_key {e e' : DownloadExecution}
    (h : fixedExecution e' = fixedExecution e) :
    e'.idempotencyKeySha256 = e.idempotencyKeySha256 := by
  have hkey : (fixedExecution e').idempotencyKeySha256 = (fixedExecution e).idempotencyKeySha256 :=
    by rw [h]
  exact hkey

theorem Effect.nonce_unique (h : Effect l s s')
    (hs : s.intents.UniqueBy ExecutionIntent.nonceSha256) :
    s'.intents.UniqueBy ExecutionIntent.nonceSha256 := by
  cases h with
  | newIntent hnew hid hnonce =>
      exact hs.save_new fun i hi => by simpa using List.find?_eq_none.mp hnonce i hi
  | expireIntent hi => exact hs.save_same hi rfl rfl
  | newExecution hreq => exact hs.save_same hreq.intent rfl rfl
  | _ => exact hs

/-- The intent of a new execution has been consumed. -/
theorem Created.used {e : DownloadExecution} (h : Created s s' e) {i : ExecutionIntent}
    (hi : i ∈ s'.intents) (hid : i.id = e.intentId) : i.status = .consumed := by
  obtain ⟨a, i₀, plan, now, actor, hreq, hintents⟩ := h.requested
  rw [hintents] at hi
  rcases Table.mem_save.mp hi with rfl | ⟨-, hne⟩
  · rfl
  · exact absurd (hid.trans hreq.intent_id.symm) hne

theorem IntentsSound.effect (hs : Bindings s) (h : Effect l s s') : IntentsSound s' where
  origin i' hi' := by
    rcases h.intent_cases hi' with ⟨hnew, -⟩ | ⟨i, hi, hstep⟩
    · exact hnew.origin
    · have horigin := hs.origin i hi
      cases hstep with
      | _ => exact horigin
  nonce_unique := h.nonce_unique hs.nonce_unique
  consumed i' hi' hstatus := by
    have hkept : ∀ i ∈ s.intents, i.status = .consumed → ∃ e ∈ s'.executions, e.intentId = i.id := by
      intro i hi hconsumed
      obtain ⟨e, he, hid⟩ := hs.consumed i hi hconsumed
      obtain ⟨e', he', hstep⟩ := h.execution_step he
      exact ⟨e', he', (fixedExecution_intentId hstep.fixed).trans hid⟩
    rcases h.intent_cases hi' with ⟨hnew, -⟩ | ⟨i, hi, hstep⟩
    · rw [hnew.status] at hstatus
      cases hstatus
    · cases hstep with
      | refl => exact hkept _ hi hstatus
      | expire => cases hstatus
      | consume hactive he hid => exact ⟨_, he, hid⟩
  used e' he' i' hi' hid := by
    rcases h.execution_cases he' with hcreated | ⟨e, he, hestep⟩
    · exact hcreated.used hi' hid
    rw [fixedExecution_intentId hestep.fixed] at hid
    rcases h.intent_cases hi' with ⟨-, hfresh, -⟩ | ⟨i, hi, histep⟩
    · obtain ⟨a, i, p, hbound⟩ := hs.bound e he
      exact absurd (hbound.intent_id.trans hid.symm) (Table.get?_eq_none.mp hfresh i hbound.intent)
    · have hconsumed := hs.used e he i hi ((fixedIntent_id histep.fixed).symm.trans hid)
      cases histep with
      | refl => exact hconsumed
      | expire hactive => simp [hactive] at hconsumed
      | consume => rfl

/-! ### Executions -/

/-- The automation of an execution verifies wherever no decision and no policy has been lost. -/
theorem verifyExecutionAutomation_mono (hrevisions : ∀ r ∈ s.revisions, r ∈ s'.revisions)
    (hdecisions : ∀ d ∈ s.decisions, d ∈ s'.decisions)
    (hpolicies : ∀ r, verifyPolicyRevision s r = .ok () → verifyPolicyRevision s' r = .ok ())
    {e : DownloadExecution} {a : ApprovalRequest}
    (h : verifyExecutionAutomation s e a = .ok ()) : verifyExecutionAutomation s' e a = .ok () := by
  unfold verifyExecutionAutomation at h ⊢
  by_cases horigin : e.origin = .automation
  · rw [if_pos horigin] at h ⊢
    simp only [bind_eq_ok, orRaise_eq_ok, ensure_eq_ok, Option.bind_eq_some_iff] at h ⊢
    obtain ⟨revision, ⟨revisionId, hrid, hrevision⟩, decision, ⟨decisionId, hdid, hdecision⟩, _,
      hpolicy, rest⟩ := h
    exact ⟨revision, ⟨revisionId, hrid, Table.get?_mono hrevisions hrevision⟩, decision,
      ⟨decisionId, hdid, Table.get?_mono hdecisions hdecision⟩, (), hpolicies _ hpolicy, rest⟩
  · rw [if_neg horigin]

/-- The automation of an execution verifies wherever nothing has been lost. -/
theorem verifyExecutionAutomation_keeps (hk : Keeps s s') {e : DownloadExecution}
    {a : ApprovalRequest} (h : verifyExecutionAutomation s e a = .ok ()) :
    verifyExecutionAutomation s' e a = .ok () :=
  verifyExecutionAutomation_mono hk.revisions hk.decisions hk.policies h

/-- **An execution stays bound to its rows** wherever nothing has been lost. -/
theorem Bound.keeps {e e' : DownloadExecution} {a : ApprovalRequest} {i : ExecutionIntent}
    {p : DownloadPlan} (h : Bound s e a i p) (hk : Keeps s s')
    (hfixed : fixedExecution e' = fixedExecution e) : ∃ a' i', Bound s' e' a' i' p := by
  obtain ⟨a', ha', hfa⟩ := hk.approvals a h.approval
  obtain ⟨i', hi', hfi⟩ := hk.intents i h.intent
  have hid : (fixedApproval a').id = (fixedExecution e').approvalId := by
    rw [hfa, hfixed]
    exact h.approval_id
  have hintent : (fixedIntent i').id = (fixedExecution e').intentId := by
    rw [hfi, hfixed]
    exact h.intent_id
  have happroval : (fixedIntent i').approvalId = (fixedExecution e').approvalId := by
    rw [hfi, hfixed]
    exact h.intent_approval
  have hplan : p.approvalId = (fixedExecution e').approvalId := by
    rw [hfixed]
    exact h.plan_approval
  have hdigested : Digested (fixedExecution e') := by
    rw [hfixed]
    exact h.digested
  have horigin : requireOriginBinding (fixedExecution e').origin
      (some (fixedExecution e').launchMode) (fixedExecution e').automationPolicyRevisionId
      (fixedExecution e').automationDecisionId = .ok () := by
    rw [hfixed]
    exact h.origin
  have hbound : executionBound (fixedExecution e') (fixedApproval a') (fixedIntent i') p := by
    rw [hfa, hfi, hfixed]
    exact h.bound
  have hautomation : verifyExecutionAutomation s' (fixedExecution e') (fixedApproval a') =
      .ok () := by
    rw [hfa, hfixed]
    exact verifyExecutionAutomation_keeps hk h.automation
  exact ⟨a', i', ha', hid, hi', hintent, happroval, hk.plans p h.plan, hplan, hdigested, horigin,
    hbound, hautomation⟩

omit [Python] in
/-- The origin of an execution that carries the digests of its intent is the intent's. -/
theorem originBinding_of_bound {e : DownloadExecution} {a : ApprovalRequest}
    {i : ExecutionIntent} {p : DownloadPlan} (h : executionBound e a i p)
    (hi : requireOriginBinding i.origin (some i.launchMode) i.automationPolicyRevisionId
      i.automationDecisionId = .ok ()) :
    requireOriginBinding e.origin (some e.launchMode) e.automationPolicyRevisionId
      e.automationDecisionId = .ok () := by
  obtain ⟨-, -, -, -, -, hmode, horigin, hrevision, hdecision, -⟩ := h
  rw [hmode, horigin, hrevision, hdecision]
  exact hi

omit [Python] in
/-- The digests of a row that verifies have their shape. -/
theorem digested_of_row [Python] {e : DownloadExecution} (h : verifyExecutionRow e = .ok ()) :
    Digested e := by
  simp only [verifyExecutionRow, bind_eq_ok, ensure_eq_ok] at h
  obtain ⟨_, hdigested, -⟩ := h
  exact hdigested

/-- A new execution is bound to its rows. -/
theorem Created.bound (hs : Bindings s) (h : Effect l s s') {e : DownloadExecution}
    (hc : Created s s' e) : ∃ a i p, Bound s' e a i p := by
  obtain ⟨a, i, plan, now, actor, hreq, hintents⟩ := hc.requested
  obtain ⟨hplan, hplanId⟩ := planOfApproval_some hreq.plan_of
  exact ⟨a, { i with status := .consumed, consumedAt := some now, consumedBy := some actor }, plan,
    { approval := hc.approvals ▸ hreq.approval
      approval_id := hreq.approval_id
      intent := hintents ▸ Table.mem_save_self _ _
      intent_id := hreq.intent_id
      intent_approval := hreq.intent_approval.trans hreq.approval_id
      plan := h.plans_eq ▸ hplan
      plan_approval := hplanId
      digested := digested_of_row hreq.row
      origin := originBinding_of_bound hreq.bound (hs.origin i hreq.intent)
      bound := hreq.bound
      automation := verifyExecutionAutomation_keeps h.keeps hreq.automation }⟩

/-- The hash that a plan expects has the shape of one. -/
theorem PlansSound.expectedInfoHash (hs : PlansSound s) :
    ∀ p ∈ s.plans, ∀ expected ∈ p.expectedInfoHash, isInfoHash expected = true := by
  intro p hp
  obtain ⟨a, -, -, hplanned⟩ := hs.planned p hp
  exact hplanned.expectedInfoHash

/-- **Every change preserves the bindings.** -/
theorem Bindings.effect (hs : Bindings s) (h : Effect l s s') : Bindings s' where
  toIntentsSound := IntentsSound.effect hs h
  ids a' ha' := by
    rcases h.approval_cases ha' with ⟨hnew, -⟩ | ⟨a, ha, hstep⟩
    · exact hnew.id
    · rw [hstep.id_eq]
      exact hs.ids a ha
  bound e' he' := by
    rcases h.execution_cases he' with hcreated | ⟨e, he, hstep⟩
    · exact hcreated.bound hs h
    · obtain ⟨a, i, p, hbound⟩ := hs.bound e he
      obtain ⟨a', i', hbound'⟩ := hbound.keeps h.keeps hstep.fixed
      exact ⟨a', i', p, hbound'⟩
  approval_unique :=
    h.executions_uniqueBy (fun _ _ => fixedExecution_approvalId)
      (fun _ hnone _ _ x hx => by simpa using List.find?_eq_none.mp hnone x hx) hs.approval_unique
  intent_unique :=
    h.executions_uniqueBy (fun _ _ => fixedExecution_intentId)
      (fun _ _ hnone _ x hx => by simpa using List.find?_eq_none.mp hnone x hx) hs.intent_unique
  key_unique :=
    h.executions_uniqueBy (fun _ _ => fixedExecution_key)
      (fun _ _ _ hnone x hx => by simpa using List.find?_eq_none.mp hnone x hx) hs.key_unique

/-- **Requests that are written over stay bound**, if they keep what identifies them. -/
theorem Bindings.rewritten (hs : Bindings s) {t : Table ApprovalRequest}
    (hids : ∀ a' ∈ t, ∃ a ∈ s.approvals, a'.id = a.id)
    (hkept : Keeps s { s with approvals := t }) : Bindings { s with approvals := t } where
  toIntentsSound := { hs.toIntentsSound with }
  ids a' ha' := by
    obtain ⟨a, ha, hid⟩ := hids a' ha'
    rw [hid]
    exact hs.ids a ha
  bound e he := by
    obtain ⟨a, i, p, hbound⟩ := hs.bound e he
    obtain ⟨a', i', hbound'⟩ := hbound.keeps hkept rfl
    exact ⟨a', i', p, hbound'⟩
  approval_unique := hs.approval_unique
  intent_unique := hs.intent_unique
  key_unique := hs.key_unique

/-- **The approval of a request preserves the bindings.** -/
theorem Bindings.approve (hs : Bindings s) (h : Approve s s') : Bindings s' := by
  have hkeeps := h.keeps
  obtain ⟨a, settings, request, now, plan, ha, -, -, -, rfl⟩ := h
  exact
    { hs.toIntentsSound with
      ids := Table.forall_mem_save hs.ids (hs.ids a ha)
      bound := by
        intro e he
        obtain ⟨b, i, p, hbound⟩ := hs.bound e he
        obtain ⟨b', i', hbound'⟩ := hbound.keeps hkeeps rfl
        exact ⟨b', i', p, hbound'⟩
      approval_unique := hs.approval_unique
      intent_unique := hs.intent_unique
      key_unique := hs.key_unique }

/-- **Every sequence of changes preserves the bindings.** -/
theorem Bindings.moves (hs : Bindings s) (h : Moves l s s') : Bindings s' :=
  h.preserve (fun _ _ heffect hs => hs.effect heffect) (fun _ _ happrove hs => hs.approve happrove)
    hs

theorem ExecutionsSound.effect (hs : Invariant s) (h : Effect l s s') :
    ExecutionsSound s' where
  executions e' he' := by
    rcases h.execution_cases he' with hcreated | ⟨e, he, hstep⟩
    · obtain ⟨a, i, plan, now, actor, hreq, -⟩ := hcreated.requested
      exact hreq.new.sound (originBinding_of_bound hreq.bound (hs.origin i hreq.intent))
    · exact hstep.sound hs.expectedInfoHash (hs.executions e he)
  bound := (hs.bindings.effect h).bound
  approval_unique := (hs.bindings.effect h).approval_unique
  intent_unique := (hs.bindings.effect h).intent_unique
  key_unique := (hs.bindings.effect h).key_unique

/-! ### Outcomes -/

omit [Python] in
theorem isReserved_of_isVerified {execution : DownloadExecutionStatus}
    (h : execution.isVerified = true) : execution.isReserved = true := by
  cases execution <;> first | rfl | cases h

omit [Python] in
/-- Before the reservation the state of an execution says nothing of its request. -/
theorem agree_unreserved {execution : DownloadExecutionStatus} {approval : ApprovalStatus}
    (h : execution.isReserved = false) : Agree execution approval := by
  refine ⟨fun hreserved => ?_, fun hverified => ?_⟩
  · rw [h] at hreserved
    cases hreserved
  · rw [isReserved_of_isVerified hverified] at h
    cases h

omit [Python] in
theorem Agree.approvalMove {execution : DownloadExecutionStatus} {a a' : ApprovalRequest}
    (h : Agree execution a.status) (hmove : ApprovalMove a a') : Agree execution a'.status := by
  have hearly : a.status = .pending ∨ a.status = .approved → execution.isReserved = false := by
    intro hstatus
    by_contra hreserved
    have hreserved : execution.isReserved = true := by simpa using hreserved
    cases hverified : execution.isVerified with
    | true => rcases hstatus with hs | hs <;> simp [h.consumed hverified] at hs
    | false => rcases hstatus with hs | hs <;> simp [h.executing hreserved hverified] at hs
  refine agree_unreserved (hearly ?_)
  cases hmove with
  | expire h => exact h
  | reject h => exact Or.inl h
  | revoke h => exact Or.inr h

omit [Python] in
theorem Agree.executionMove {e e' : DownloadExecution} {approval : ApprovalStatus}
    (h : Agree e.status approval) (hmove : ExecutionMove e e') : Agree e'.status approval := by
  have hlate : e.status.isReserved = true → e.status.isVerified = false →
      ∀ {status : DownloadExecutionStatus}, status.isVerified = false → Agree status approval :=
    fun hreserved hnot _ hnot' =>
      ⟨fun _ _ => h.executing hreserved hnot, fun hv => by rw [hnot'] at hv; cases hv⟩
  cases hmove with
  | claim => exact agree_unreserved rfl
  | renew => exact h
  | @validationEnded _ _ retry => exact agree_unreserved (by cases retry <;> rfl)
  | outcomeUnknown hstatus => exact hlate (by rw [hstatus]; rfl) (by rw [hstatus]; rfl) rfl
  | reconciliationRequired hstatus =>
      rcases hstatus with hstatus | hstatus <;>
        exact hlate (by rw [hstatus]; rfl) (by rw [hstatus]; rfl) rfl
  | reconcile hstatus =>
      rcases hstatus with hstatus | hstatus <;>
        exact hlate (by rw [hstatus]; rfl) (by rw [hstatus]; rfl) rfl

omit [Python] in
theorem ExecutionMove.isVerified_eq {e e' : DownloadExecution} (hmove : ExecutionMove e e') :
    e'.status.isVerified = e.status.isVerified := by
  cases hmove with
  | claim hstatus => rcases hstatus with hstatus | hstatus <;> rw [hstatus] <;> rfl
  | renew => rfl
  | @validationEnded _ _ retry _ _ hstatus => rw [hstatus]; cases retry <;> rfl
  | outcomeUnknown hstatus => rw [hstatus]; rfl
  | reconciliationRequired hstatus =>
      rcases hstatus with hstatus | hstatus <;> rw [hstatus] <;> rfl
  | reconcile hstatus => rcases hstatus with hstatus | hstatus <;> rw [hstatus] <;> rfl

omit [Python] in
theorem MayCancel.unverified {fencer : Option String} {e : DownloadExecution}
    (h : MayCancel fencer e) :
    e.status.isVerified = false := by
  rcases h with hstatus | ⟨hstatus, -⟩ <;> rw [hstatus] <;> rfl

section Writes

variable {e e' : DownloadExecution} {a a' : ApprovalRequest}

omit [Python] in
/-- A write over one execution keeps the agreement, where it keeps that of the execution. -/
theorem agree_save_execution (hs : OutcomesSound s) (he : e ∈ s.executions)
    (hfixed : fixedExecution e' = fixedExecution e)
    (hagree : ∀ approval, Agree e.status approval → Agree e'.status approval) :
    ∀ x ∈ s.executions.save e', ∀ a ∈ s.approvals, a.id = x.approvalId →
      Agree x.status a.status := by
  intro x hx a ha hid
  rcases Table.mem_save.mp hx with rfl | ⟨hx, -⟩
  · rw [fixedExecution_approvalId hfixed] at hid
    exact hagree _ (hs.agree e he a ha hid)
  · exact hs.agree x hx a ha hid

/-- A write over an execution and its request keeps the agreement, where the two rows agree. -/
theorem agree_save_both (hs : Invariant s) (he : e ∈ s.executions)
    (hid : a.id = e.approvalId) (hfixed : fixedExecution e' = fixedExecution e)
    (hid' : a'.id = a.id) (hagree : Agree e'.status a'.status) :
    ∀ x ∈ s.executions.save e', ∀ b ∈ s.approvals.save a', b.id = x.approvalId →
      Agree x.status b.status := by
  intro x hx b hb hbid
  rcases Table.mem_save.mp hx with rfl | ⟨hx, hne⟩
  · rcases Table.mem_save.mp hb with rfl | ⟨hb, hne⟩
    · exact hagree
    · refine absurd ?_ hne
      exact hbid.trans ((fixedExecution_approvalId hfixed).trans (hid.symm.trans hid'.symm))
  · rcases Table.mem_save.mp hb with rfl | ⟨hb, -⟩
    · -- the request written is that of `e`, and `e` is the only execution of it
      have hsame : x = e :=
        hs.approval_unique x hx e he (hbid.symm.trans (hid'.trans hid))
      exact absurd (hsame ▸ (id_of_fixedExecution hfixed).symm) hne
    · exact hs.agree x hx b hb hbid

omit [Python] in
/-- The outcomes after a write over an execution that verifies nothing. -/
theorem OutcomesSound.save_execution (hs : OutcomesSound s) (he : e ∈ s.executions)
    (hfixed : fixedExecution e' = fixedExecution e)
    (hverified : e'.status.isVerified = e.status.isVerified)
    {approvals : Table ApprovalRequest}
    (hagree : ∀ x ∈ s.executions.save e', ∀ b ∈ approvals, b.id = x.approvalId →
      Agree x.status b.status) :
    OutcomesSound { s with executions := s.executions.save e', approvals := approvals } :=
  { hs with
    agree := hagree
    verified := by
      intro x hx
      rcases Table.mem_save.mp hx with rfl | ⟨hx, -⟩
      · rw [hverified, id_of_fixedExecution hfixed]
        exact hs.verified e he
      · exact hs.verified x hx
    jobs := by
      intro j hj
      obtain ⟨x, hx, hid⟩ := hs.jobs j hj
      obtain ⟨x', hx', hxid⟩ := row_to_mem_save (R := fun x y => y.id = x.id) he
        (id_of_fixedExecution hfixed) (id_of_fixedExecution hfixed) (fun _ => rfl) hx
      exact ⟨x', hx', hxid.trans hid⟩ }

/-- The outcomes after the first job of an execution, which is verified with it. -/
theorem OutcomesSound.save_job (hs : Invariant s) (he : e ∈ s.executions)
    (hfixed : fixedExecution e' = fixedExecution e) (hverified : e'.status.isVerified = true)
    {job : DownloadJob} (hjob : s.jobs.get? job.id = none) (hexecution : job.executionId = e.id)
    (hnone : jobOfExecution s e.id = none) {approvals : Table ApprovalRequest}
    (hagree : ∀ x ∈ s.executions.save e', ∀ b ∈ approvals, b.id = x.approvalId →
      Agree x.status b.status) :
    OutcomesSound
      { s with
        jobs := s.jobs.save job, executions := s.executions.save e', approvals := approvals } where
  agree := hagree
  verified x hx := by
    rcases Table.mem_save.mp hx with rfl | ⟨hx, hne⟩
    · refine ⟨fun _ => ⟨job, Table.mem_save_self _ _, ?_⟩, fun _ => hverified⟩
      exact hexecution.trans (id_of_fixedExecution hfixed).symm
    · refine (hs.verified x hx).trans ⟨?_, ?_⟩
      · rintro ⟨j, hj, hid⟩
        exact ⟨j, mem_save_of_new hjob hj, hid⟩
      · rintro ⟨j, hj, hid⟩
        rcases Table.mem_save.mp hj with rfl | ⟨hj, -⟩
        · refine absurd ?_ hne
          exact hid.symm.trans (hexecution.trans (id_of_fixedExecution hfixed).symm)
        · exact ⟨j, hj, hid⟩
  jobs j hj := by
    have hkept : ∀ x ∈ s.executions, ∃ x' ∈ s.executions.save e', x'.id = x.id := fun x hx =>
      row_to_mem_save (R := fun x y => y.id = x.id) he (id_of_fixedExecution hfixed)
        (id_of_fixedExecution hfixed) (fun _ => rfl) hx
    rcases Table.mem_save.mp hj with rfl | ⟨hj, -⟩
    · obtain ⟨x, hx, hid⟩ := hkept e he
      exact ⟨x, hx, hid.trans hexecution.symm⟩
    · obtain ⟨x, hx, hid⟩ := hs.jobs j hj
      obtain ⟨x', hx', hid'⟩ := hkept x hx
      exact ⟨x', hx', hid'.trans hid⟩
  job_unique := by
    refine hs.job_unique.save_new fun j hj => ?_
    rw [hexecution]
    simpa using List.find?_eq_none.mp hnone j hj

end Writes

/-- The request of every execution is there. -/
theorem Invariant.approval_of (hs : Invariant s) {e : DownloadExecution} (he : e ∈ s.executions) :
    ∃ a ∈ s.approvals, a.id = e.approvalId := by
  obtain ⟨a, i, p, hbound⟩ := hs.bound e he
  exact ⟨a, hbound.approval, hbound.approval_id⟩

theorem OutcomesSound.effect (hs : Invariant s) (h : Effect l s s') : OutcomesSound s' := by
  cases h with
  | newApproval hnew hid =>
      exact
        { hs with
          agree := by
            intro e he a ha haid
            -- every execution has a request already, so the new one is of none
            rcases Table.mem_save.mp ha with rfl | ⟨ha, -⟩
            · obtain ⟨b, hb, hbid⟩ := hs.approval_of he
              exact absurd (hbid.trans haid.symm) (Table.get?_eq_none.mp hid b hb)
            · exact hs.agree e he a ha haid }
  | approval ha hmove =>
      exact
        { hs with
          agree := by
            intro e he b hb hbid
            rcases Table.mem_save.mp hb with rfl | ⟨hb, -⟩
            · rw [id_of_fixedApproval hmove.fixed] at hbid
              exact (hs.agree e he _ ha hbid).approvalMove hmove
            · exact hs.agree e he b hb hbid }
  | @preflight a _ _ _ _ _ ha hpending =>
      exact
        { hs with
          agree := by
            intro e he b hb hbid
            rcases Table.mem_save.mp hb with rfl | ⟨hb, -⟩
            · exact hs.agree e he a ha hbid
            · exact hs.agree e he b hb hbid }
  | newExecution hreq hid =>
      exact
        { hs with
          agree := by
            refine Table.forall_mem_save hs.agree fun a _ _ => agree_unreserved ?_
            rw [hreq.new.status]
            rfl
          verified := by
            refine Table.forall_mem_save hs.verified ⟨fun h => ?_, ?_⟩
            · rw [hreq.new.status] at h
              cases h
            -- a job refers to an execution that was there before
            · rintro ⟨j, hj, hjid⟩
              obtain ⟨x, hx, hxid⟩ := hs.jobs j hj
              exact absurd (hxid.trans hjid) (Table.get?_eq_none.mp hid x hx)
          jobs := by
            intro j hj
            obtain ⟨x, hx, hxid⟩ := hs.jobs j hj
            exact ⟨x, mem_save_of_new hid hx, hxid⟩ }
  | execution he hmove =>
      exact hs.toOutcomesSound.save_execution he hmove.fixed hmove.isVerified_eq
        (agree_save_execution hs.toOutcomesSound he hmove.fixed fun _ h => h.executionMove hmove)
  | cancel he hmay =>
      refine hs.toOutcomesSound.save_execution he ?_ ?_ (agree_save_execution hs.toOutcomesSound he
        ?_ fun _ _ => ?_)
      · rfl
      · exact hmay.unverified.symm
      · rfl
      · exact agree_unreserved rfl
  | fence he hmay hl ha hid =>
      refine hs.toOutcomesSound.save_execution he ?_ ?_ (agree_save_both hs he hid ?_ ?_ ?_)
      · rfl
      · exact hmay.unverified.symm
      · rfl
      · rfl
      · exact agree_unreserved rfl
  | reserve he hstatus hlocked ha hid =>
      refine hs.toOutcomesSound.save_execution he ?_ ?_ (agree_save_both hs he hid ?_ ?_ ?_)
      · rfl
      · rw [hstatus]
        rfl
      · rfl
      · rfl
      · exact ⟨fun _ _ => rfl, fun h => by cases h⟩
  | finalize he hstatus ha hid happroval houtcome hjob hexecution hnone =>
      -- the job, the execution and the request are written together
      refine OutcomesSound.save_job hs he ?_ ?_ hjob hexecution hnone
        (agree_save_both hs he hid ?_ ?_ ?_)
      · rfl
      · rcases houtcome with rfl | rfl <;> rfl
      · rfl
      · rfl
      · refine ⟨fun _ h => ?_, fun _ => rfl⟩
        rcases houtcome with rfl | rfl <;> cases h
  | _ => exact { hs with }

/-! ### The invariant is preserved -/

/-- **Every change preserves the invariant.** -/
theorem Invariant.effect (hs : Invariant s) (h : Effect l s s') : Invariant s' :=
  { hs.toPlansSound.effect h, IntentsSound.effect hs.bindings h, ExecutionsSound.effect hs h,
    OutcomesSound.effect hs h with }

/-- **The approval of a request preserves the invariant.** -/
theorem Invariant.approve (hs : Invariant s) (h : Approve s s') : Invariant s' := by
  have hplans := hs.toPlansSound.approve h
  have hbindings := hs.bindings.approve h
  obtain ⟨a, settings, request, now, plan, ha, -, hid, hnone, rfl⟩ := h
  exact
    { hplans, hbindings.toIntentsSound with
      executions := hs.executions
      bound := hbindings.bound
      approval_unique := hs.approval_unique
      intent_unique := hs.intent_unique
      key_unique := hs.key_unique
      agree := by
        intro e he b hb hbid
        rcases Table.mem_save.mp hb with rfl | ⟨hb, -⟩
        · -- a pending request has no plan, so that it has no execution
          obtain ⟨c, i, p, hbound⟩ := hs.bound e he
          exact absurd (hbound.plan_approval.trans hbid.symm)
            (planOfApproval_eq_none hnone p hbound.plan)
        · exact hs.agree e he b hb hbid
      verified := hs.verified
      jobs := hs.jobs
      job_unique := hs.job_unique }

/-- **Every sequence of changes preserves the invariant.** -/
theorem Invariant.moves (hs : Invariant s) (h : Moves l s s') : Invariant s' :=
  h.preserve (fun _ _ heffect hs => hs.effect heffect) (fun _ _ happrove hs => hs.approve happrove)
    hs

theorem Invariant.effects (hs : Invariant s) (h : Effects l s s') : Invariant s' :=
  hs.moves h.moves

/-! ### Every execution verifies -/

/-- The columns that the `CHECK` constraints bind verify. -/
theorem verifyExecutionRow_ok {e : DownloadExecution} (hdigested : Digested e)
    (hsound : ExecutionSound e) : verifyExecutionRow e = .ok () := by
  have hc := hsound.checks
  have hshape : ∀ h ∈ e.actualInfoHash, isInfoHash h = true := by
    intro h hh
    have hcheck := hc.actualInfoHash_shape
    rw [Option.mem_def.mp hh] at hcheck
    simpa [portableHexCheck, isInfoHash] using hcheck
  have hbinding : ∀ h ∈ e.actualInfoHash, h ∈ hashSet e.actualInfoHashV1 e.actualInfoHashV2 := by
    intro h hh
    rw [Option.mem_def] at hh
    rcases hc.actualInfoHash_binding with hnone | ⟨-, hv1⟩ | ⟨v2, hv2, hv | hv⟩
    · rw [hnone] at hh
      cases hh
    · simp [hashSet, ← hv1, hh]
    · rw [hh] at hv
      simp [hashSet, hv2, Option.some.inj hv]
    · rw [hh] at hv
      simp [hashSet, hv2, Option.some.inj hv]
  have hbundle : e.status.isReserved = true → e.actualInfoHash ≠ none := by
    intro hreserved
    rcases hc.submission_metadata with hcancelled | hiff
    · rw [hcancelled] at hreserved
      cases hreserved
    · exact hiff.mp hreserved
  simp only [verifyExecutionRow, bind_eq_ok, ensure_eq_ok]
  refine ⟨(), hdigested, (), hshape, (), ?_, (), hbundle, ?_⟩
  · exact fun h hh => List.mem_map.mpr ⟨h, hbinding h hh, rfl⟩
  · intro hreserved
    rcases hc.validation_bundle with ⟨hnone, -⟩ | ⟨-, hv, ⟨n, hn, hpos⟩, ⟨m, hm, hpos'⟩, hat, hat'⟩
    · exact absurd hnone (hbundle hreserved)
    · exact ⟨⟨n, hn, hpos⟩, ⟨m, hm, hpos'⟩, hat, hat', hv⟩

/-- The plan of a request is the one that the lookup finds. -/
theorem PlansSound.planOfApproval_eq (hs : PlansSound s) {p : DownloadPlan} (hp : p ∈ s.plans) :
    planOfApproval s p.approvalId = some p :=
  Table.find?_eq_some_of_unique hp (by simp) fun q hq hid =>
    hs.plan_unique q hq p hp (by simpa using hid)

/-- **Every execution verifies.** -/
theorem Invariant.verifyDownloadExecution (hs : Invariant s) {e : DownloadExecution}
    (he : e ∈ s.executions) : Services.verifyDownloadExecution s e = .ok e := by
  obtain ⟨a, i, p, hbound⟩ := hs.bound e he
  obtain ⟨b, hb, hbid, hplanned⟩ := hs.planned p hbound.plan
  obtain rfl : b = a :=
    Table.eq_of_key_eq hb hbound.approval
      (hbid.trans (hbound.plan_approval.trans hbound.approval_id.symm))
  obtain ⟨snapshot, hsnapshot⟩ := (hs.approvals b hb).verified
  have happroval : s.approvals.get? e.approvalId = some b :=
    Table.get?_eq_some.mpr ⟨hb, hbound.approval_id⟩
  have hintent : s.intents.get? e.intentId = some i :=
    Table.get?_eq_some.mpr ⟨hbound.intent, hbound.intent_id⟩
  have hplan : planOfApproval s e.approvalId = some p := by
    rw [← hbound.plan_approval]
    exact hs.planOfApproval_eq hbound.plan
  simp only [Services.verifyDownloadExecution, bind_eq_ok, orRaise_eq_ok, pure_eq_ok]
  refine ⟨(), verifyExecutionRow_ok hbound.digested (hs.executions e he), b, happroval, i, hintent,
    p, hplan, (), ?_, (), hbound.automation, trivial⟩
  simp only [verifyExecutionBinding, bind_eq_ok, ensure_eq_ok]
  exact ⟨snapshot, hsnapshot, p, hplanned.verified, (), hbound.origin, (),
    hs.origin i hbound.intent, hbound.bound⟩

end LibSeek.ControlPlane
