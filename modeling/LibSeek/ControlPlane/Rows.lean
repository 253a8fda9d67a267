/-
What a change does to a row.

Seen from one row, a change of the protocol either leaves it alone, or moves it on: it never takes
a row away, and it never touches what identifies a request, an intent or an execution, which is
everything that a digest binds.  This module turns the changes of the tables into the steps of
their rows, and collects what no change loses.

Main definitions:

* `ControlPlane.ApprovalStep`, `ControlPlane.IntentStep`, `ControlPlane.ExecutionStep` — what a
  change can do to a row;
* `ControlPlane.fixedApproval`, `ControlPlane.fixedIntent`, `ControlPlane.fixedExecution` — a row
  without the columns that change;
* `ControlPlane.Keeps` — **what is never lost**.

Main results:

* `ControlPlane.Effect.approval_cases`, `ControlPlane.Effect.intent_cases`,
  `ControlPlane.Effect.execution_cases` — the rows after a change;
* `ControlPlane.Moves.keeps` — a sequence of changes loses nothing;
* `ControlPlane.verifyPolicyRevision_save` — a policy that verified verifies after every change.
-/

import LibSeek.ControlPlane.Protocol

set_option relaxedAutoImplicit false
set_option autoImplicit false

namespace LibSeek.ControlPlane

open LibSeek.Core LibSeek.Lib LibSeek.Models LibSeek.Schemas LibSeek.Services LibSeek.Workers

/-! ### Rows after a write -/

section Tables

variable {α κ : Type} [Keyed α κ] [DecidableEq κ]

/-- The rows after a write over a row: the row written comes from the old one, the others stay. -/
theorem row_of_mem_save {t : Table α} {R : α → α → Prop} {r r' x : α} (hr : r ∈ t)
    (hR : R r r') (hrefl : ∀ x, R x x) (hx : x ∈ t.save r') :
    ∃ y ∈ t, R y x := by
  rcases Table.mem_save.mp hx with rfl | ⟨hx, -⟩
  · exact ⟨r, hr, hR⟩
  · exact ⟨x, hx, hrefl x⟩

/-- The rows before a write over a row are all there after it, moved on or as they were. -/
theorem row_to_mem_save {t : Table α} {R : α → α → Prop} {r r' x : α} (hr : r ∈ t)
    (hkey : Keyed.key r' = Keyed.key r) (hR : R r r') (hrefl : ∀ x, R x x) (hx : x ∈ t) :
    ∃ y ∈ t.save r', R x y := by
  by_cases h : Keyed.key x = Keyed.key r'
  · obtain rfl : x = r := Table.eq_of_key_eq hx hr (h.trans hkey)
    exact ⟨r', Table.mem_save_self t r', hR⟩
  · exact ⟨x, Table.mem_save_of_ne hx h, hrefl x⟩

/-- The rows before a write of a new row are all there after it. -/
theorem mem_save_of_new {t : Table α} {r x : α} (hnew : t.get? (Keyed.key r) = none)
    (hx : x ∈ t) : x ∈ t.save r :=
  Table.mem_save_of_ne hx (Table.get?_eq_none.mp hnew x hx)

end Tables

/-! ### Steps of a row -/

variable [Python]

/-- What a change that is not an approval can do to a request. -/
inductive ApprovalStep (l : Licence) : ApprovalRequest → ApprovalRequest → Prop
  | refl (a : ApprovalRequest) : ApprovalStep l a a
  | move {a a' : ApprovalRequest} (h : ApprovalMove a a') : ApprovalStep l a a'
  | preflight {a : ApprovalRequest} {replies : QbReadReplies}
      {snapshot : ApprovalCandidateSnapshot} {settings : Settings} {now : DateTime}
      {result : PreflightResult} (h : a.status = .pending)
      (hl : l.preflight = some a.id) (hsnapshot : verifySnapshot a = .ok snapshot)
      (hresult : evaluatePreflight replies snapshot settings now = .ok result) :
      ApprovalStep l a (preflighted a result)
  | reserve {a : ApprovalRequest} (h : a.status = .approved) :
      ApprovalStep l a { a with status := .executing }
  | consume {a : ApprovalRequest} {now : DateTime} (h : a.status = .executing) :
      ApprovalStep l a { a with status := .consumed, decidedAt := some now }
  | fence {a : ApprovalRequest} {now : DateTime}
      (h : a.status = .approved ∨ a.status = .executing) (hl : l.fencer ≠ none) :
      ApprovalStep l a { a with status := .revoked, decidedAt := some now }

/-- What a change can do to an execution. -/
inductive ExecutionStep (fencer : Option String) (s : Tables) :
    DownloadExecution → DownloadExecution → Prop
  | refl (e : DownloadExecution) : ExecutionStep fencer s e e
  | move {e e' : DownloadExecution} (h : ExecutionMove e e') : ExecutionStep fencer s e e'
  | cancel {e : DownloadExecution} {errorCode errorMessage : String} (h : MayCancel fencer e) :
      ExecutionStep fencer s e (cancelledExecution errorCode errorMessage e)
  | reserve {e : DownloadExecution} {plan : DownloadPlan} {metadata : ValidatedTorrent}
      {selectedHash hash : String} {now : DateTime} (h : e.status = .validating)
      (hlocked : e.lockedAt ≠ none) (hplan : planOfApproval s e.approvalId = some plan)
      (hselected : metadata.selectedHash = some selectedHash)
      (hhash : reservedHash plan metadata selectedHash = .ok hash) :
      ExecutionStep fencer s e (reservedExecution e metadata hash now)
  | finalize {e : DownloadExecution} {outcome : DownloadExecutionStatus} {now : DateTime}
      (h : e.status = .submitting) (houtcome : outcome = .submitted ∨ outcome = .alreadyPresent) :
      ExecutionStep fencer s e (finalizedExecution e outcome now)

/-! ### What identifies a row -/

omit [Python] in
/-- A request without the columns that change. -/
def fixedApproval (a : ApprovalRequest) : ApprovalRequest :=
  { a with
    status := .pending, decidedAt := none, preflightResult := none, preflightCheckedAt := none }

omit [Python] in
/-- An intent without the columns that change. -/
def fixedIntent (i : ExecutionIntent) : ExecutionIntent :=
  { i with status := .active, consumedAt := none, consumedBy := none }

omit [Python] in
/-- An execution without the columns that change. -/
def fixedExecution (e : DownloadExecution) : DownloadExecution :=
  { e with
    status := .pending, attempts := 0, nextRetryAt := none, lockedAt := none, lockedBy := none
    leaseToken := none, actualInfoHash := none, actualInfoHashV1 := none, actualInfoHashV2 := none
    actualSizeBytes := none, actualFileCount := none, validatedAt := none, submittedAt := none
    verifiedAt := none, errorCode := none, errorMessage := none
    reconciliationRequestedBy := none, reconciliationRequestedAt := none
    reconciliationReason := none }

omit [Python] in
theorem ApprovalMove.fixed {a a' : ApprovalRequest} (h : ApprovalMove a a') :
    fixedApproval a' = fixedApproval a := by
  cases h <;> rfl

theorem ApprovalStep.fixed {l : Licence} {a a' : ApprovalRequest} (h : ApprovalStep l a a') :
    fixedApproval a' = fixedApproval a := by
  cases h with
  | move h => exact h.fixed
  | _ => rfl

omit [Python] in
theorem ExecutionMove.fixed {e e' : DownloadExecution} (h : ExecutionMove e e') :
    fixedExecution e' = fixedExecution e := by
  cases h <;> rfl

omit [Python] in
theorem ExecutionStep.fixed {fencer : Option String} {s : Tables} {e e' : DownloadExecution}
    [Python] (h : ExecutionStep fencer s e e') : fixedExecution e' = fixedExecution e := by
  cases h with
  | move h => exact h.fixed
  | _ => rfl

omit [Python] in
theorem id_of_fixedApproval {a a' : ApprovalRequest} (h : fixedApproval a' = fixedApproval a) :
    a'.id = a.id := by
  have hid : (fixedApproval a').id = (fixedApproval a).id := by rw [h]
  exact hid

omit [Python] in
theorem id_of_fixedExecution {e e' : DownloadExecution}
    (h : fixedExecution e' = fixedExecution e) : e'.id = e.id := by
  have hid : (fixedExecution e').id = (fixedExecution e).id := by rw [h]
  exact hid

theorem ApprovalStep.id_eq {l : Licence} {a a' : ApprovalRequest} (h : ApprovalStep l a a') :
    a'.id = a.id :=
  id_of_fixedApproval h.fixed

theorem ExecutionStep.id_eq {fencer : Option String} {s : Tables} {e e' : DownloadExecution}
    (h : ExecutionStep fencer s e e') : e'.id = e.id :=
  id_of_fixedExecution h.fixed

/-! ### Rows after a change of the tables -/

variable {l : Licence} {s s' : Tables}

/-- **The requests after a change**: a new one, or one that was there, moved on. -/
theorem Effect.approval_cases (h : Effect l s s') {a' : ApprovalRequest}
    (ha' : a' ∈ s'.approvals) :
    (NewApproval a' ∧ s.approvals.get? a'.id = none ∧ s'.plans = s.plans ∧
        s'.executions = s.executions) ∨
      ∃ a ∈ s.approvals, ApprovalStep l a a' := by
  cases h with
  | newApproval hnew hid hactive =>
      rcases Table.mem_save.mp ha' with rfl | ⟨ha', -⟩
      · exact Or.inl ⟨hnew, hid, rfl, rfl⟩
      · exact Or.inr ⟨a', ha', .refl a'⟩
  | approval ha hmove => exact Or.inr (row_of_mem_save ha (.move hmove) .refl ha')
  | preflight ha h hl hsnapshot hresult =>
      exact Or.inr (row_of_mem_save ha (.preflight h hl hsnapshot hresult) .refl ha')
  | fence he h hl ha hid hstatus => exact Or.inr (row_of_mem_save ha (.fence hstatus hl) .refl ha')
  | reserve he h hlocked ha hid hstatus =>
      exact Or.inr (row_of_mem_save ha (.reserve hstatus) .refl ha')
  | finalize he h ha hid hstatus => exact Or.inr (row_of_mem_save ha (.consume hstatus) .refl ha')
  | newIntent => exact Or.inr ⟨a', ha', .refl a'⟩
  | expireIntent => exact Or.inr ⟨a', ha', .refl a'⟩
  | newExecution => exact Or.inr ⟨a', ha', .refl a'⟩
  | execution => exact Or.inr ⟨a', ha', .refl a'⟩
  | cancel => exact Or.inr ⟨a', ha', .refl a'⟩
  | newRevision => exact Or.inr ⟨a', ha', .refl a'⟩
  | newDecision => exact Or.inr ⟨a', ha', .refl a'⟩

/-- The requests before a change are all there after it. -/
theorem Effect.approval_step (h : Effect l s s') {a : ApprovalRequest}
    (ha : a ∈ s.approvals) : ∃ a' ∈ s'.approvals, ApprovalStep l a a' := by
  cases h with
  | newApproval hnew hid hactive => exact ⟨a, mem_save_of_new hid ha, .refl a⟩
  | approval hb hmove =>
      exact row_to_mem_save hb (id_of_fixedApproval hmove.fixed) (.move hmove) .refl ha
  | preflight hb h hl hsnapshot hresult =>
      exact row_to_mem_save hb rfl (.preflight h hl hsnapshot hresult) .refl ha
  | fence he h hl hb hid hstatus => exact row_to_mem_save hb rfl (.fence hstatus hl) .refl ha
  | reserve he h hlocked hb hid hstatus =>
      exact row_to_mem_save hb rfl (.reserve hstatus) .refl ha
  | finalize he h hb hid hstatus => exact row_to_mem_save hb rfl (.consume hstatus) .refl ha
  | newIntent => exact ⟨a, ha, .refl a⟩
  | expireIntent => exact ⟨a, ha, .refl a⟩
  | newExecution => exact ⟨a, ha, .refl a⟩
  | execution => exact ⟨a, ha, .refl a⟩
  | cancel => exact ⟨a, ha, .refl a⟩
  | newRevision => exact ⟨a, ha, .refl a⟩
  | newDecision => exact ⟨a, ha, .refl a⟩

/-- An execution that has just been created, with the rows it is bound to. -/
structure Created (s s' : Tables) (e : DownloadExecution) : Prop where
  id : s.executions.get? e.id = none
  requested : ∃ a i plan now actor, Requested s e a i plan ∧
    s'.intents = s.intents.save
      { i with status := .consumed, consumedAt := some now, consumedBy := some actor }
  approvals : s'.approvals = s.approvals
  jobs : s'.jobs = s.jobs

/-- **The executions after a change**: a new one, or one that was there, moved on. -/
theorem Effect.execution_cases (h : Effect l s s') {e' : DownloadExecution}
    (he' : e' ∈ s'.executions) :
    Created s s' e' ∨ ∃ e ∈ s.executions, ExecutionStep l.fencer s e e' := by
  cases h with
  | newExecution hreq hid happroval hintent hkey =>
      rcases Table.mem_save.mp he' with rfl | ⟨he', -⟩
      · exact Or.inl ⟨hid, ⟨_, _, _, _, _, hreq, rfl⟩, rfl, rfl⟩
      · exact Or.inr ⟨e', he', .refl e'⟩
  | execution he hmove => exact Or.inr (row_of_mem_save he (.move hmove) .refl he')
  | cancel he hmay => exact Or.inr (row_of_mem_save he (.cancel hmay) .refl he')
  | fence he hmay => exact Or.inr (row_of_mem_save he (.cancel hmay) .refl he')
  | reserve he h hlocked ha hid hstatus hexpires hplan hselected hhash =>
      exact Or.inr (row_of_mem_save he (.reserve h hlocked (hid ▸ hplan) hselected hhash) .refl he')
  | finalize he h ha hid hstatus houtcome =>
      exact Or.inr (row_of_mem_save he (.finalize h houtcome) .refl he')
  | newApproval => exact Or.inr ⟨e', he', .refl e'⟩
  | approval => exact Or.inr ⟨e', he', .refl e'⟩
  | preflight => exact Or.inr ⟨e', he', .refl e'⟩
  | newIntent => exact Or.inr ⟨e', he', .refl e'⟩
  | expireIntent => exact Or.inr ⟨e', he', .refl e'⟩
  | newRevision => exact Or.inr ⟨e', he', .refl e'⟩
  | newDecision => exact Or.inr ⟨e', he', .refl e'⟩

/-- The executions before a change are all there after it. -/
theorem Effect.execution_step (h : Effect l s s') {e : DownloadExecution}
    (he : e ∈ s.executions) : ∃ e' ∈ s'.executions, ExecutionStep l.fencer s e e' := by
  cases h with
  | newExecution hreq hid happroval hintent hkey => exact ⟨e, mem_save_of_new hid he, .refl e⟩
  | execution hb hmove =>
      exact row_to_mem_save hb (id_of_fixedExecution hmove.fixed) (.move hmove) .refl he
  | cancel hb hmay => exact row_to_mem_save hb rfl (.cancel hmay) .refl he
  | fence hb hmay => exact row_to_mem_save hb rfl (.cancel hmay) .refl he
  | reserve hb h hlocked ha hid hstatus hexpires hplan hselected hhash =>
      exact row_to_mem_save hb rfl (.reserve h hlocked (hid ▸ hplan) hselected hhash) .refl he
  | finalize hb h ha hid hstatus houtcome =>
      exact row_to_mem_save hb rfl (.finalize h houtcome) .refl he
  | newApproval => exact ⟨e, he, .refl e⟩
  | approval => exact ⟨e, he, .refl e⟩
  | preflight => exact ⟨e, he, .refl e⟩
  | newIntent => exact ⟨e, he, .refl e⟩
  | expireIntent => exact ⟨e, he, .refl e⟩
  | newRevision => exact ⟨e, he, .refl e⟩
  | newDecision => exact ⟨e, he, .refl e⟩

/-- What a change can do to an intent. -/
inductive IntentStep (s' : Tables) : ExecutionIntent → ExecutionIntent → Prop
  | refl (i : ExecutionIntent) : IntentStep s' i i
  | expire {i : ExecutionIntent} (h : i.status = .active) :
      IntentStep s' i { i with status := .expired }
  | consume {i : ExecutionIntent} {e : DownloadExecution} {now : DateTime} {actor : String}
      (h : i.status = .active) (he : e ∈ s'.executions) (hid : e.intentId = i.id) :
      IntentStep s' i
        { i with status := .consumed, consumedAt := some now, consumedBy := some actor }

omit [Python] in
theorem IntentStep.fixed {i i' : ExecutionIntent} (h : IntentStep s' i i') :
    fixedIntent i' = fixedIntent i := by
  cases h <;> rfl

/-- **The intents after a change**: a new one, or one that was there, moved on. -/
theorem Effect.intent_cases (h : Effect l s s') {i' : ExecutionIntent}
    (hi' : i' ∈ s'.intents) :
    (NewIntent i' ∧ s.intents.get? i'.id = none ∧ s'.executions = s.executions) ∨
      ∃ i ∈ s.intents, IntentStep s' i i' := by
  cases h with
  | newIntent hnew hid =>
      rcases Table.mem_save.mp hi' with rfl | ⟨hi', -⟩
      · exact Or.inl ⟨hnew, hid, rfl⟩
      · exact Or.inr ⟨i', hi', .refl i'⟩
  | expireIntent hi hactive => exact Or.inr (row_of_mem_save hi (.expire hactive) .refl hi')
  | newExecution hreq =>
      exact Or.inr (row_of_mem_save hreq.intent
        (.consume hreq.intent_active (Table.mem_save_self _ _) hreq.intent_id.symm) .refl hi')
  | _ => exact Or.inr ⟨i', hi', .refl i'⟩

/-- A column of the executions that no change touches stays unique, where the new execution has a
value of its own. -/
theorem Effect.executions_uniqueBy {β : Type} {f : DownloadExecution → β}
    (h : Effect l s s')
    (hfixed : ∀ e e', fixedExecution e' = fixedExecution e → f e' = f e)
    (hnew : ∀ e, executionOfApproval s e.approvalId = none → executionOfIntent s e.intentId = none →
      executionOfKey s e.idempotencyKeySha256 = none → ∀ x ∈ s.executions, f x ≠ f e)
    (hs : s.executions.UniqueBy f) : s'.executions.UniqueBy f := by
  have hsame : ∀ {e e' : DownloadExecution}, e ∈ s.executions →
      fixedExecution e' = fixedExecution e → (s.executions.save e').UniqueBy f :=
    fun he hfix => hs.save_same he (id_of_fixedExecution hfix) (hfixed _ _ hfix)
  cases h with
  | newExecution hreq hid happroval hintent hkey =>
      exact hs.save_new (hnew _ happroval hintent hkey)
  | execution he hmove => exact hsame he hmove.fixed
  | cancel he => exact hsame he rfl
  | fence he => exact hsame he rfl
  | reserve he => exact hsame he rfl
  | finalize he => exact hsame he rfl
  | _ => exact hs

/-! ### Policies that verified -/

omit [Python] in
/-- A number under which a revision is stored keeps it when a new revision is stored. -/
theorem revisionNumbered_save {r previous : AutomationPolicyRevision} {n : ℕ} {t : Tables}
    (hnew : s.revisions.get? r.id = none) (hrevisions : t.revisions = s.revisions.save r)
    (h : revisionNumbered s n = some previous) : revisionNumbered t n = some previous := by
  unfold revisionNumbered at h ⊢
  rw [hrevisions]
  exact Table.find?_save_of_some hnew h

omit [Python] in
theorem verifyPolicyRevisionLoop_save {r : AutomationPolicyRevision} {t : Tables}
    (hnew : s.revisions.get? r.id = none) (hrevisions : t.revisions = s.revisions.save r)
    {fuel fuel' : ℕ} (hfuel : fuel ≤ fuel') {seen : List String}
    {current : AutomationPolicyRevision}
    (h : verifyPolicyRevisionLoop s fuel seen current = .ok ()) :
    verifyPolicyRevisionLoop t fuel' seen current = .ok () := by
  induction fuel generalizing fuel' seen current with
  | zero => cases h
  | succ fuel ih =>
      obtain ⟨k, rfl⟩ : ∃ k, fuel' = k + 1 := ⟨fuel' - 1, by omega⟩
      unfold verifyPolicyRevisionLoop at h ⊢
      by_cases hseen : current.id ∈ seen
      · rw [if_pos hseen] at h
        cases h
      rw [if_neg hseen] at h ⊢
      by_cases hhash : calculatePolicyHash current ≠ current.policyHash
      · rw [if_pos hhash] at h
        cases h
      rw [if_neg hhash] at h ⊢
      by_cases hfirst : current.revisionNo = 1
      · rw [if_pos hfirst] at h ⊢
        exact h
      rw [if_neg hfirst] at h ⊢
      cases hprev : revisionNumbered s (current.revisionNo - 1) with
      | none => simp [hprev] at h
      | some previous =>
          rw [revisionNumbered_save hnew hrevisions hprev]
          simp only [hprev] at h ⊢
          by_cases hlink : current.previousPolicyHash ≠ some previous.policyHash
          · rw [if_pos hlink] at h
            cases h
          · rw [if_neg hlink] at h ⊢
            exact ih (Nat.le_of_succ_le_succ hfuel) h

omit [Python] in
/-- **A policy that verified verifies after a revision has been added.** -/
theorem verifyPolicyRevision_save {r current : AutomationPolicyRevision} {t : Tables}
    (hnew : s.revisions.get? r.id = none) (hrevisions : t.revisions = s.revisions.save r)
    (h : verifyPolicyRevision s current = .ok ()) : verifyPolicyRevision t current = .ok () := by
  refine verifyPolicyRevisionLoop_save hnew hrevisions ?_ h
  have hlength : s.revisions.rows.length ≤ t.revisions.rows.length := by
    rw [hrevisions]
    unfold Table.save
    split <;> simp
  omega

/-! ### What is never lost -/

omit [Python] in
/-- **What is never lost**: every row, with what identifies it; a plan, a job and a decision as
they are; a policy as one that verifies. -/
structure Keeps (s s' : Tables) : Prop where
  approvals : ∀ a ∈ s.approvals, ∃ a' ∈ s'.approvals, fixedApproval a' = fixedApproval a
  plans : ∀ p ∈ s.plans, p ∈ s'.plans
  intents : ∀ i ∈ s.intents, ∃ i' ∈ s'.intents, fixedIntent i' = fixedIntent i
  executions : ∀ e ∈ s.executions, ∃ e' ∈ s'.executions, fixedExecution e' = fixedExecution e
  jobs : ∀ j ∈ s.jobs, j ∈ s'.jobs
  decisions : ∀ d ∈ s.decisions, d ∈ s'.decisions
  revisions : ∀ r ∈ s.revisions, r ∈ s'.revisions
  policies : ∀ r, verifyPolicyRevision s r = .ok () → verifyPolicyRevision s' r = .ok ()

omit [Python] in
theorem Keeps.refl (s : Tables) : Keeps s s :=
  { approvals := fun a ha => ⟨a, ha, rfl⟩
    plans := fun _ h => h
    intents := fun i hi => ⟨i, hi, rfl⟩
    executions := fun e he => ⟨e, he, rfl⟩
    jobs := fun _ h => h
    decisions := fun _ h => h
    revisions := fun _ h => h
    policies := fun _ h => h }

omit [Python] in
theorem Keeps.trans {s'' : Tables} (h : Keeps s s') (h' : Keeps s' s'') : Keeps s s'' where
  approvals a ha := by
    obtain ⟨a', ha', hfixed⟩ := h.approvals a ha
    obtain ⟨a'', ha'', hfixed'⟩ := h'.approvals a' ha'
    exact ⟨a'', ha'', hfixed'.trans hfixed⟩
  plans p hp := h'.plans p (h.plans p hp)
  intents i hi := by
    obtain ⟨i', hi', hfixed⟩ := h.intents i hi
    obtain ⟨i'', hi'', hfixed'⟩ := h'.intents i' hi'
    exact ⟨i'', hi'', hfixed'.trans hfixed⟩
  executions e he := by
    obtain ⟨e', he', hfixed⟩ := h.executions e he
    obtain ⟨e'', he'', hfixed'⟩ := h'.executions e' he'
    exact ⟨e'', he'', hfixed'.trans hfixed⟩
  jobs j hj := h'.jobs j (h.jobs j hj)
  decisions d hd := h'.decisions d (h.decisions d hd)
  revisions r hr := h'.revisions r (h.revisions r hr)
  policies r hr := h'.policies r (h.policies r hr)

omit [Python] in
/-- The revisions after the policy has been read, extended or left alone. -/
theorem policies_of_revisions_eq (h : s'.revisions = s.revisions) (r : AutomationPolicyRevision)
    (hr : verifyPolicyRevision s r = .ok ()) : verifyPolicyRevision s' r = .ok () := by
  have hloop : ∀ (fuel : ℕ) (seen : List String) (current : AutomationPolicyRevision),
      verifyPolicyRevisionLoop s' fuel seen current =
        verifyPolicyRevisionLoop s fuel seen current := by
    intro fuel
    induction fuel with
    | zero => exact fun _ _ => rfl
    | succ fuel ih =>
        intro seen current
        simp only [verifyPolicyRevisionLoop, revisionNumbered, h, ih]
  simpa only [verifyPolicyRevision, hloop, h] using hr

/-- The intents before a change are all there after it. -/
theorem Effect.intent_step (h : Effect l s s') {i : ExecutionIntent} (hi : i ∈ s.intents) :
    ∃ i' ∈ s'.intents, fixedIntent i' = fixedIntent i := by
  cases h with
  | newIntent hnew hid => exact ⟨i, mem_save_of_new hid hi, rfl⟩
  | expireIntent hb =>
      exact row_to_mem_save (R := fun x y => fixedIntent y = fixedIntent x) hb rfl rfl
        (fun _ => rfl) hi
  | newExecution hreq =>
      exact row_to_mem_save (R := fun x y => fixedIntent y = fixedIntent x) hreq.intent rfl rfl
        (fun _ => rfl) hi
  | _ => exact ⟨i, hi, rfl⟩

/-- **A change loses nothing.** -/
theorem Effect.keeps (h : Effect l s s') : Keeps s s' where
  approvals a ha := by
    obtain ⟨a', ha', hstep⟩ := h.approval_step ha
    exact ⟨a', ha', hstep.fixed⟩
  plans p hp := by cases h <;> exact hp
  intents i hi := h.intent_step hi
  executions e he := by
    obtain ⟨e', he', hstep⟩ := h.execution_step he
    exact ⟨e', he', hstep.fixed⟩
  jobs j hj := by
    cases h with
    | finalize he h ha hid hstatus houtcome hjob => exact mem_save_of_new hjob hj
    | _ => exact hj
  decisions d hd := by
    cases h with
    | newDecision hnew => exact mem_save_of_new hnew hd
    | _ => exact hd
  revisions r hr := by
    cases h with
    | newRevision hnew =>
        simp only [revisionIsNew, Bool.and_eq_true, Option.isNone_iff_eq_none] at hnew
        exact mem_save_of_new hnew.1 hr
    | _ => exact hr
  policies r hr := by
    cases h with
    | newRevision hnew =>
        simp only [revisionIsNew, Bool.and_eq_true, Option.isNone_iff_eq_none] at hnew
        exact verifyPolicyRevision_save hnew.1 rfl hr
    | _ => exact policies_of_revisions_eq (s := s) (by rfl) r hr

/-- **An approval loses nothing.** -/
theorem Approve.keeps (h : Approve s s') : Keeps s s' := by
  obtain ⟨a, settings, request, now, plan, ha, -, hid, -, rfl⟩ := h
  exact
    { approvals := fun b hb =>
        row_to_mem_save (R := fun x y => fixedApproval y = fixedApproval x) ha rfl rfl
          (fun _ => rfl) hb
      plans := fun p hp => mem_save_of_new hid hp
      intents := fun i hi => ⟨i, hi, rfl⟩
      executions := fun e he => ⟨e, he, rfl⟩
      jobs := fun _ h => h
      decisions := fun _ h => h
      revisions := fun _ h => h
      policies := policies_of_revisions_eq (s := s) (by rfl) }

/-- **A sequence of changes loses nothing.** -/
theorem Moves.keeps (h : Moves l s s') : Keeps s s' := by
  induction h with
  | refl => exact .refl _
  | tail _ hlast ih =>
      rcases hlast with hlast | hlast
      · exact ih.trans hlast.keeps
      · exact ih.trans hlast.keeps

theorem Effects.keeps (h : Effects l s s') : Keeps s s' :=
  h.moves.keeps

end LibSeek.ControlPlane
