/-
The executor's transactions are changes of the protocol.

The guard of an external request is the one transaction that may cancel an execution whose torrent
has been reserved: under the lease of the execution, and only where no write can have happened yet.

Main definitions:

* `ControlPlane.fencerOf` — the lease that a guard may use to cancel an execution;
* `ControlPlane.Binds` — what the binding of an execution was loaded from.

Main results:

* `ControlPlane.wp_claimNextExecution`, `ControlPlane.wp_renewLease`,
  `ControlPlane.wp_recoverStaleExecutions` — leases;
* `ControlPlane.wp_ensureExternalActionAllowed` — **the guard**;
* `ControlPlane.wp_loadBinding`, `ControlPlane.wp_reserveSubmission` — the binding and the
  reservation;
* `ControlPlane.wp_markValidationFailure`, `ControlPlane.wp_markReservedFailure` — failures.
-/

import LibSeek.ControlPlane.ExecutionSteps

set_option relaxedAutoImplicit false
set_option autoImplicit false

namespace LibSeek.ControlPlane

open LibSeek.Core LibSeek.Lib LibSeek.Models LibSeek.Schemas LibSeek.Services LibSeek.Workers

variable [Python] {db : Db} {x : DownloadExecutor} {claim : ExecutionClaim}

/-! ### Leases -/

omit [Python] in
/-- What is claimed can be claimed. -/
theorem nextClaimable_some {s : Tables} {now : DateTime} {locked : String → Bool}
    {e : DownloadExecution} (h : nextClaimable s now locked = some e) :
    e ∈ s.executions ∧ (e.status = .pending ∨ e.status = .retryWait) ∧
      e.attempts < e.maxAttempts := by
  have hmem := List.mem_of_mem_head? (Option.mem_def.mpr h)
  rw [List.mem_insertionSort, List.mem_filter] at hmem
  obtain ⟨hmem, hclaimable⟩ := hmem
  simp only [isClaimable, Bool.and_eq_true, Bool.or_eq_true, decide_eq_true_eq] at hclaimable
  exact ⟨hmem, hclaimable.1.1.imp_right And.left, hclaimable.1.2⟩

omit [Python] in
/-- A claim moves one execution that could be claimed, under the token drawn for it. -/
theorem wp_claimNextExecution (leaseToken : Uuid) (now : DateTime) (locked : String → Bool) :
    Tx.wp (claimNextExecution x leaseToken now locked)
      (fun r db' => (r = none ∧ db' = db) ∨
        ∃ e, e ∈ db.executions ∧ (e.status = .pending ∨ e.status = .retryWait) ∧
          e.attempts < e.maxAttempts ∧ r = some ⟨e.id, leaseToken.text⟩ ∧
          db'.toTables =
            { db.toTables with
              executions := db.executions.save (claimedExecution x leaseToken now e) })
      (fun _ _ => False) db := by
  simp only [claimNextExecution, Tx.wp_bind, Tx.wp_get]
  cases h : nextClaimable db.toTables now locked with
  | none => exact Or.inl ⟨rfl, rfl⟩
  | some e =>
      obtain ⟨he, hstatus, hattempts⟩ := nextClaimable_some h
      exact Or.inr ⟨e, he, hstatus, hattempts, rfl, rfl⟩

theorem wp_renewLease (now : DateTime) :
    Tx.wp (renewLease x claim now)
      (fun _ db' => Effects .none db.toTables db'.toTables) (fun _ _ => True) db := by
  simp only [renewLease, Tx.wp_bind, Tx.wp_get]
  cases hget : db.executions.get? claim.executionId with
  | none => exact Effects.refl
  | some e =>
      dsimp only
      cases hlease : requireFreshMatchingLease x e claim none now with
      | ok u =>
          obtain ⟨hown, -, hleased, -⟩ := requireFreshMatchingLease_ok hlease
          have he := Table.mem_of_get?_eq_some hget
          exact (Effect.execution he (.renew hleased hown.lockedAt)).single
      | error e =>
          cases e with
          | app e => exact Effects.refl
          | integrity => exact trivial
          | other name => exact trivial

omit [Python] in
theorem mem_staleExecutions {s : Tables} {cutoff : DateTime} {locked : String → Bool}
    {e : DownloadExecution} (h : e ∈ staleExecutions s cutoff locked) :
    e ∈ s.executions ∧ e.status.isLeased = true := by
  have hmem := List.mem_of_mem_take h
  rw [List.mem_insertionSort, List.mem_filter] at hmem
  obtain ⟨hmem, hstale⟩ := hmem
  simp only [isStale, Bool.and_eq_true] at hstale
  exact ⟨hmem, hstale.1.1⟩

omit [Python] in
theorem staleExecutions_nodup (s : Tables) (cutoff : DateTime) (locked : String → Bool) :
    ((staleExecutions s cutoff locked).map DownloadExecution.id).Nodup := by
  have hrows : (s.executions.rows.map DownloadExecution.id).Nodup := s.executions.nodup
  refine List.Nodup.sublist ((List.take_sublist _ _).map _) ?_
  rw [((List.perm_insertionSort lockedBefore _).map _).nodup_iff]
  exact hrows.sublist (List.filter_sublist.map _)

omit [Python] in
/-- A stale execution is recovered by one change of its row. -/
theorem recoveredExecution_move {e : DownloadExecution} (h : e.status.isLeased = true)
    (now : DateTime) : ExecutionMove e (recoveredExecution x now e) := by
  unfold recoveredExecution
  split
  · rename_i hsubmitting
    exact .reconciliationRequired (Or.inl hsubmitting)
  · rename_i hne
    have hvalidating : e.status = .validating := by
      cases hs : e.status <;> simp_all [DownloadExecutionStatus.isLeased]
    exact .validationEnded hvalidating of_decide_eq_true

omit [Python] in
theorem id_recoveredExecution (e : DownloadExecution) (now : DateTime) :
    (recoveredExecution x now e).id = e.id := by
  unfold recoveredExecution
  split <;> rfl

/-- The loop over the stale executions: the rows still to come are still there. -/
theorem wp_recoverExecutions (now : DateTime) (rows : List DownloadExecution)
    (hrows : ∀ e ∈ rows, e ∈ db.executions ∧ e.status.isLeased = true)
    (hnodup : (rows.map DownloadExecution.id).Nodup) :
    Tx.wp (recoverExecutions x now rows)
      (fun _ db' => Effects .none db.toTables db'.toTables) (fun _ _ => False) db := by
  induction rows generalizing db with
  | nil => exact .refl
  | cons e rest ih =>
      obtain ⟨he, hleased⟩ := hrows e List.mem_cons_self
      have hmove : Effect .none db.toTables
          { db.toTables with executions := db.executions.save (recoveredExecution x now e) } :=
        .execution he (recoveredExecution_move hleased now)
      simp only [List.map_cons, List.nodup_cons] at hnodup
      simp only [recoverExecutions, saveExecution, addExecutionEvent, Tx.wp_bind, Tx.wp_modify]
      refine Tx.wp_mono (ih (fun e' he' => ?_) hnodup.2) (fun _ _ h => hmove.single.trans h)
        fun _ _ h => h
      refine ⟨Table.mem_save_of_ne (hrows e' (List.mem_cons_of_mem e he')).1 fun hid => ?_,
        (hrows e' (List.mem_cons_of_mem e he')).2⟩
      rw [key_execution, key_execution, id_recoveredExecution] at hid
      exact hnodup.1 (hid ▸ List.mem_map_of_mem he')

theorem wp_recoverStaleExecutions (now : DateTime) (locked : String → Bool) :
    Tx.wp (recoverStaleExecutions x now locked)
      (fun _ db' => Effects .none db.toTables db'.toTables) (fun _ _ => False) db := by
  simp only [recoverStaleExecutions, Tx.wp_bind, Tx.wp_get, Tx.wp_pure]
  exact wp_recoverExecutions now _ (fun _ h => mem_staleExecutions h)
    (staleExecutions_nodup _ _ _)

/-! ### The guard of external requests -/

/-- The lease that the guard may use to cancel an execution: that of the claim, where no write can
have happened. -/
def fencerOf (claim : ExecutionClaim) (externalWriteMayHaveOccurred : Bool) : Option String :=
  if externalWriteMayHaveOccurred then none else some claim.leaseToken

theorem wp_automationFenceError (e : DownloadExecution) (approval : Option ApprovalRequest)
    (newId : Uuid) (now : DateTime) :
    Tx.wp (automationFenceError x e approval newId now)
      (fun _ db' => Effects .none db.toTables db'.toTables ∧ SameRows db.toTables db'.toTables)
      (fun _ _ => True) db := by
  unfold automationFenceError
  simp only [Tx.wp_ite, Tx.wp_pure]
  refine ⟨fun _ => ⟨.refl, .refl _⟩, fun _ => ⟨fun _ => ⟨.refl, .refl _⟩, fun _ => ?_⟩⟩
  cases approval with
  | none => exact ⟨.refl, .refl _⟩
  | some a =>
      simp only [Tx.wp_bind, wp_liftApp, Tx.wp_ite, Tx.wp_pure]
      refine ⟨fun snapshot _ => ⟨fun _ => ⟨.refl, .refl _⟩, fun _ => ?_⟩, fun _ _ => trivial⟩
      exact Tx.wp_mono (wp_getCurrentPolicy newId now) (fun r db' h => ⟨h.1, h.2.1⟩)
        fun _ _ _ => trivial

omit [Python] in
/-- The state in which an execution under a lease may be cancelled by the holder of the lease. -/
theorem mayCancel_of_ownLease {e : DownloadExecution} (hown : OwnLease x e claim)
    (hleased : e.status.isLeased = true) : MayCancel (fencerOf claim false) e := by
  have hstatus : e.status = .validating ∨ e.status = .submitting := by
    cases hs : e.status <;> simp_all [DownloadExecutionStatus.isLeased]
  rcases hstatus with hs | hs
  · exact Or.inl hs
  · exact Or.inr ⟨hs, by simp [hown.leaseToken], by simp [hown.leaseToken, fencerOf]⟩

theorem wp_fenced {e : DownloadExecution} (he : e ∈ db.executions) (hown : OwnLease x e claim)
    (hleased : e.status.isLeased = true) (errorCode : String) (flag : Bool) (now : DateTime) :
    Tx.wp (fenced x e (db.approvals.get? e.approvalId) errorCode flag now)
      (fun allowed db' => allowed = false ∧
        Effects { fencer := fencerOf claim flag } db.toTables db'.toTables) (fun _ _ => True) db := by
  cases flag with
  | true => exact trivial
  | false =>
      have hmay := mayCancel_of_ownLease hown hleased
      simp only [fenced, Bool.false_eq_true, if_false, cancelByAutomationFence, saveExecution,
        addExecutionEvent, Tx.wp_bind, Tx.wp_modify, Tx.wp_pure]
      cases hget : db.approvals.get? e.approvalId with
      | none => exact ⟨trivial, (Effect.cancel he hmay).single⟩
      | some a =>
          obtain ⟨ha, haid⟩ := Table.get?_eq_some.mp hget
          simp only [revokeByFence, saveApproval, addEvent, addApprovalEvent, Tx.wp_ite,
            Tx.wp_bind, Tx.wp_modify, Tx.wp_pure]
          have hfencer : fencerOf claim false ≠ none := Option.some_ne_none _
          exact ⟨fun hstatus => ⟨trivial, (Effect.fence he hmay hfencer ha haid hstatus).single⟩,
            fun _ => ⟨trivial, (Effect.cancel he hmay).single⟩⟩

/-- What a guard that allows an action leaves behind: the execution under its lease, in the state
it was expected in. -/
structure Allowed (claim : ExecutionClaim) (expectedStatus : DownloadExecutionStatus) (db : Db) :
    Prop where
  intro ::
  row : ∃ e ∈ db.executions, e.id = claim.executionId ∧ e.status = expectedStatus ∧
    e.leaseToken = some claim.leaseToken

theorem wp_allowAction {e : DownloadExecution} {expectedStatus : DownloadExecutionStatus}
    (he : e ∈ db.executions) (hid : e.id = claim.executionId) (hown : OwnLease x e claim)
    (hstatus : e.status = expectedStatus) (hleased : e.status.isLeased = true) (now : DateTime) :
    Tx.wp (allowAction e now)
      (fun allowed db' => Effects .none db.toTables db'.toTables ∧
        (allowed = true → Allowed claim expectedStatus db')) (fun _ _ => False) db := by
  simp only [allowAction, saveExecution, Tx.wp_bind, Tx.wp_modify, Tx.wp_pure]
  exact ⟨(Effect.execution he (.renew hleased hown.lockedAt)).single, fun _ =>
    ⟨_, Table.mem_save_self _ _, hid, hstatus, hown.leaseToken⟩⟩

theorem wp_cancelUnapproved {e : DownloadExecution} (he : e ∈ db.executions)
    (h : e.status = .validating) :
    Tx.wp (cancelUnapproved x e)
      (fun allowed db' => allowed = false ∧ Effects .none db.toTables db'.toTables)
      (fun _ _ => False) db := by
  simp only [cancelUnapproved, saveExecution, addExecutionEvent, Tx.wp_bind, Tx.wp_modify,
    Tx.wp_pure]
  exact ⟨trivial, (Effect.cancel he (Or.inl h)).single⟩

theorem wp_guardValidating {e : DownloadExecution} (he : e ∈ db.executions)
    (hid : e.id = claim.executionId) (hown : OwnLease x e claim) (h : e.status = .validating)
    (now : DateTime) :
    Tx.wp (guardValidating x e (db.approvals.get? e.approvalId) now)
      (fun allowed db' => Effects .none db.toTables db'.toTables ∧
        (allowed = true → Allowed claim .validating db')) (fun _ _ => True) db := by
  have hno : ∀ {allowed : Bool} {db' : Db}, allowed = false →
      (allowed = true → Allowed claim .validating db') := by
    rintro _ _ rfl h
    cases h
  cases hget : db.approvals.get? e.approvalId with
  | none =>
      exact Tx.wp_mono (wp_cancelUnapproved he h) (fun _ _ h => ⟨h.2, hno h.1⟩)
        fun _ _ _ => trivial
  | some a =>
      have ha := Table.mem_of_get?_eq_some hget
      simp only [guardValidating, Tx.wp_bind, wp_liftApp, Tx.wp_ite, saveApproval, addEvent,
        addApprovalEvent, Tx.wp_modify]
      refine ⟨fun _ _ => ⟨fun hexpired => ?_, fun _ => ⟨fun _ => ?_, fun _ => ?_⟩⟩,
        fun _ _ => trivial⟩
      · have hexpire : Effect .none db.toTables
            { db.toTables with
              approvals := db.approvals.save
                { a with status := .expired, decidedAt := some now } } :=
          .approval ha (.expire (Or.inr hexpired.1) hexpired.2)
        refine Tx.wp_mono (wp_cancelUnapproved (e := e) ?_ h)
          (fun _ _ h => ⟨hexpire.single.trans h.2, hno h.1⟩) fun _ _ _ => trivial
        exact he
      · exact Tx.wp_mono (wp_cancelUnapproved he h) (fun _ _ h => ⟨h.2, hno h.1⟩)
          fun _ _ _ => trivial
      · exact Tx.wp_mono (wp_allowAction he hid hown h (by simp [h, DownloadExecutionStatus.isLeased])
          now) (fun _ _ h => h) fun _ _ h => h.elim

theorem wp_guardSubmitting {e : DownloadExecution} (he : e ∈ db.executions)
    (hid : e.id = claim.executionId) (hown : OwnLease x e claim)
    {expectedStatus : DownloadExecutionStatus} (hstatus : e.status = expectedStatus)
    (hleased : e.status.isLeased = true) (approval : Option ApprovalRequest) (now : DateTime) :
    Tx.wp (guardSubmitting e approval now)
      (fun allowed db' => Effects .none db.toTables db'.toTables ∧
        (allowed = true → Allowed claim expectedStatus db')) (fun _ _ => True) db := by
  simp only [guardSubmitting, Tx.wp_bind, wp_requireApp]
  exact ⟨fun _ => Tx.wp_mono (wp_allowAction he hid hown hstatus hleased now) (fun _ _ h => h)
    fun _ _ h => h.elim, fun _ => trivial⟩

/-- **The guard of an external request.** -/
theorem wp_ensureExternalActionAllowed (expectedStatus : DownloadExecutionStatus) (flag : Bool)
    (newId : Uuid) (clock : DateTime × DateTime) :
    Tx.wp (ensureExternalActionAllowed x claim expectedStatus flag newId clock)
      (fun allowed db' => Effects { fencer := fencerOf claim flag } db.toTables db'.toTables ∧
        (allowed = true → Allowed claim expectedStatus db')) (fun _ _ => True) db := by
  simp only [ensureExternalActionAllowed, Tx.wp_bind, Tx.wp_get, Tx.wp_ofOption, Tx.wp_ofExcept,
    wp_liftApp]
  refine ⟨fun e hget => ⟨fun _ hlease => ⟨fun plan _ => ⟨fun _ _ => ⟨fun _ _ => ?_,
    fun _ _ => trivial⟩, fun _ _ => trivial⟩, fun _ => trivial⟩, fun _ _ => trivial⟩,
    fun _ => trivial⟩
  obtain ⟨he, hid⟩ := Table.get?_eq_some.mp hget
  obtain ⟨hown, hstatus, hleased, -⟩ := requireFreshMatchingLease_ok hlease
  have hstatus : e.status = expectedStatus := hstatus _ rfl
  refine Tx.wp_mono (wp_automationFenceError e _ newId clock.2) (fun automationError db' h => ?_)
    fun _ _ _ => trivial
  obtain ⟨heff, hsame⟩ := h
  have he' : e ∈ db'.executions := by rw [hsame.executions]; exact he
  rw [show db.approvals.get? e.approvalId = db'.approvals.get? e.approvalId by
    rw [hsame.approvals]]
  cases automationError with
  | some errorCode =>
      refine Tx.wp_mono (wp_fenced he' hown hleased errorCode flag clock.1) (fun allowed db'' h => ?_)
        fun _ _ h => h
      refine ⟨heff.weaken.trans h.2, fun hallowed => ?_⟩
      rw [h.1] at hallowed
      cases hallowed
  | none =>
      simp only [Tx.wp_ite]
      refine ⟨fun hvalidating => ?_, fun _ => ?_⟩
      · subst hvalidating
        exact Tx.wp_mono (wp_guardValidating he' hid hown hstatus clock.1)
          (fun _ _ h => ⟨heff.weaken.trans h.1.weaken, h.2⟩) fun _ _ h => h
      · exact Tx.wp_mono (wp_guardSubmitting he' hid hown hstatus hleased _ clock.1)
          (fun _ _ h => ⟨heff.weaken.trans h.1.weaken, h.2⟩) fun _ _ h => h

/-! ### The binding -/

/-- **What a binding was loaded from**: the execution under the lease of the claim, its approval,
which was approved, and the plan of the approval, all of which passed their checks. -/
structure Binds (x : DownloadExecutor) (claim : ExecutionClaim) (s : Tables)
    (binding : ExecutionBinding) (e : DownloadExecution) (a : ApprovalRequest) : Prop where
  execution : e ∈ s.executions
  id : e.id = claim.executionId
  own : OwnLease x e claim
  verified : verifyDownloadExecution s e = .ok e
  approval : a ∈ s.approvals
  approvalId : a.id = e.approvalId
  snapshot : verifySnapshot a = .ok binding.snapshot
  approved : a.status = .approved
  plan : planOfApproval s a.id = some binding.plan
  planVerified : verifyDownloadPlan binding.plan a = .ok binding.plan
  policy : requirePreflightPolicyCurrent binding.plan.preflightPolicyFingerprint x.settings = .ok ()
  target : qbTargetFingerprint x.settings binding.plan e.launchMode binding.snapshot.mediaTitle =
    .ok e.qbTargetFingerprint
  siteId : binding.plan.siteId = binding.snapshot.siteId
  torrentRef : binding.plan.torrentRef = binding.snapshot.torrentRef
  launchMode : binding.launchMode = e.launchMode
  origin : binding.origin = e.origin

/-- **The loading of a binding** changes nothing. -/
theorem wp_loadBinding :
    Tx.wp (loadBinding x claim)
      (fun binding db' => db' = db ∧ ∃ e a, Binds x claim db.toTables binding e a)
      (fun _ _ => True) db := by
  -- an exception promises nothing, so that what is left is the chain of the checks
  simp only [loadBinding, Tx.wp_bind, Tx.wp_get, Tx.wp_ofOption, Tx.wp_ofExcept, wp_liftApp,
    wp_requireApp, Tx.wp_pure, implies_true, and_true, true_and]
  intro e hget _ hlease e' hverified a hgetA snapshot hsnapshot happroved plan hplan plan'
    hverifiedPlan _ hpolicy fingerprint htarget hsame hsite href
  obtain ⟨he, hid⟩ := Table.get?_eq_some.mp hget
  obtain ⟨ha, haid⟩ := Table.get?_eq_some.mp hgetA
  obtain rfl := verifyDownloadExecution_eq hverified
  obtain rfl := verifyDownloadPlan_eq hverifiedPlan
  exact ⟨e', a,
    { execution := he
      id := hid
      own := requireMatchingLease_ok hlease
      verified := hverified
      approval := ha
      approvalId := haid
      snapshot := hsnapshot
      approved := happroved
      plan := hplan
      planVerified := hverifiedPlan
      policy := hpolicy
      target := hsame ▸ htarget
      siteId := hsite
      torrentRef := href
      launchMode := rfl
      origin := rfl }⟩

/-! ### The reservation and the failures -/

/-- **The reservation** of the executor: under its live lease, an execution that is being validated
is reserved or cancelled. -/
theorem wp_reserveSubmission (metadata : ValidatedTorrent)
    (clock : DateTime × DateTime × DateTime) :
    Tx.wp (reserveSubmission x claim metadata clock)
      (fun status db' => Effects { reserves := claim.leaseToken } db.toTables db'.toTables ∧
        ((status = .cancelled ∧ Effects .none db.toTables db'.toTables) ∨ status = .submitting ∧
          Reserved db.toTables claim.executionId metadata clock.2.2 db'.toTables ∧
          ∃ e ∈ db.executions, e.id = claim.executionId ∧ e.status = .validating ∧
            e.leaseToken = some claim.leaseToken ∧ ∃ lockedAt ∈ e.lockedAt,
              clock.1 < lockedAt + seconds x.settings.downloadExecutionLeaseSeconds))
      (fun _ _ => True) db := by
  simp only [reserveSubmission, Tx.wp_bind, Tx.wp_get, Tx.wp_ofOption, Tx.wp_ofExcept, Tx.wp_pure]
  refine ⟨fun e hget => ⟨fun _ hlease => ?_, fun _ _ => trivial⟩, fun _ => trivial⟩
  obtain ⟨he, hid⟩ := Table.get?_eq_some.mp hget
  obtain ⟨hown, hstatus, hleased, hfresh⟩ := requireFreshMatchingLease_ok hlease
  have hvalidating : e.status = .validating := hstatus _ rfl
  refine Tx.wp_mono (wp_persistInfoHashBeforeSubmission ..) (fun e' db' h => ⟨h.1, ?_⟩)
    fun _ _ _ => trivial
  rcases h.2 with hcancelled | ⟨hsubmitting, hreserved | ⟨e₁, he₁, hid₁, hs₁⟩⟩
  · exact Or.inl hcancelled
  · exact Or.inr ⟨hsubmitting, hreserved, e, he, hid, hvalidating, hown.leaseToken, hfresh⟩
  · -- the row found again is the one that was found to be validating
    obtain rfl : e₁ = e := Table.eq_of_key_eq he₁ he (hid₁.trans hid.symm)
    rw [hvalidating] at hs₁
    cases hs₁

theorem wp_markValidationFailure (error : AppError) (now : DateTime) :
    Tx.wp (markValidationFailure x claim error now)
      (fun _ db' => Effects .none db.toTables db'.toTables) (fun _ _ => True) db := by
  simp only [markValidationFailure, Tx.wp_bind, Tx.wp_get]
  cases hget : db.executions.get? claim.executionId with
  | none => exact Effects.refl
  | some e =>
      have he := Table.mem_of_get?_eq_some hget
      simp only [saveExecution, addExecutionEvent, Tx.wp_bind, Tx.wp_ofExcept, Tx.wp_ite,
        Tx.wp_modify, Tx.wp_pure]
      refine ⟨fun _ _ => ⟨fun h => ?_, fun _ => .refl⟩, fun _ _ => trivial⟩
      exact (Effect.execution he (.validationEnded h.2 fun hretry =>
        of_decide_eq_true (Bool.and_eq_true_iff.mp hretry).2)).single

theorem wp_markReservedFailure (error : AppError) (flag : Bool) (now : DateTime) :
    Tx.wp (markReservedFailure x claim error flag now)
      (fun _ db' => Effects .none db.toTables db'.toTables) (fun _ _ => True) db := by
  simp only [markReservedFailure, Tx.wp_bind, Tx.wp_get]
  cases hget : db.executions.get? claim.executionId with
  | none => exact Effects.refl
  | some e =>
      simp only [Tx.wp_bind, Tx.wp_ofExcept, Tx.wp_ite, Tx.wp_pure]
      refine ⟨fun _ _ => ⟨fun _ => ⟨fun _ => ?_, fun _ => ?_⟩, fun _ => .refl⟩, fun _ _ => trivial⟩
      · exact Tx.wp_mono (wp_markOutcomeUnknown ..) (fun _ _ h => h) fun _ _ _ => trivial
      · exact Tx.wp_mono (wp_markReconciliationRequired ..) (fun _ _ h => h) fun _ _ _ => trivial

end LibSeek.ControlPlane
