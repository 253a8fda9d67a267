/-
Executions that have been reserved.

Once the torrent of an execution has been reserved, its row never goes back to a status from which
it could be claimed or reserved again.  It stays reserved unless it is cancelled, which only the
holder of its lease may do, and only while it is being submitted.

Main definitions:

* `ControlPlane.isSettled` — the statuses after the reservation;
* `ControlPlane.Settles` — what becomes of a row in a sequence of changes under a lease.

Main results:

* `ControlPlane.ExecutionStep.settles`, `ControlPlane.Moves.settles` — a step of a row, and every
  sequence of changes of the tables;
* `ControlPlane.Moves.settled_row`, `ControlPlane.Moves.reserved_row` — **a settled row stays
  settled, a reserved one reserved**;
* `ControlPlane.Moves.submitting_row` — **no row enters submission** without the licence to reserve.
-/

import LibSeek.ControlPlane.Rows

set_option relaxedAutoImplicit false
set_option autoImplicit false

namespace LibSeek.ControlPlane

open LibSeek.Core LibSeek.Lib LibSeek.Models LibSeek.Schemas LibSeek.Services LibSeek.Workers

/-! ### Statuses -/

/-- The statuses after the reservation: those of a reserved execution, and the cancelled one. -/
def isSettled (status : DownloadExecutionStatus) : Bool :=
  status.isReserved || status == .cancelled

theorem isSettled_of_isReserved {status : DownloadExecutionStatus}
    (h : status.isReserved = true) : isSettled status = true := by
  rw [isSettled, h, Bool.true_or]

/-- What can be claimed, validated or reserved is not settled. -/
theorem not_settled {status : DownloadExecutionStatus}
    (h : status = .pending ∨ status = .retryWait ∨ status = .validating) :
    isSettled status = false := by
  rcases h with rfl | rfl | rfl <;> rfl

/-! ### What becomes of a row -/

/-- What becomes of a row in a sequence of changes under a lease. -/
structure Settles (fencer : Option String) (e e' : DownloadExecution) : Prop where
  fixed : fixedExecution e' = fixedExecution e
  settled : isSettled e.status = true → isSettled e'.status = true
  submitting : isSettled e.status = true → e'.status = .submitting →
    e.status = .submitting ∧ e'.leaseToken = e.leaseToken
  reserved : e.status.isReserved = true → ¬ MayCancel fencer e → e'.status.isReserved = true

variable {fencer : Option String} {e e' e'' : DownloadExecution}

theorem Settles.refl (e : DownloadExecution) : Settles fencer e e where
  fixed := rfl
  settled h := h
  submitting _ h := ⟨h, rfl⟩
  reserved h _ := h

/-- A row that moves from a status that is not settled. -/
theorem Settles.of_unsettled (hfixed : fixedExecution e' = fixedExecution e)
    (h : isSettled e.status = false) : Settles fencer e e' where
  fixed := hfixed
  settled hs := by simp [h] at hs
  submitting hs := by simp [h] at hs
  reserved hr := by simp [isSettled_of_isReserved hr] at h

/-- A row that moves to a reserved status that is not that of a submission. -/
theorem Settles.of_reserved (hfixed : fixedExecution e' = fixedExecution e)
    (h : e'.status.isReserved = true) (hne : e'.status ≠ .submitting) : Settles fencer e e' where
  fixed := hfixed
  settled _ := isSettled_of_isReserved h
  submitting _ hs := absurd hs hne
  reserved _ _ := h

theorem Settles.trans (h : Settles fencer e e') (h' : Settles fencer e' e'') :
    Settles fencer e e'' where
  fixed := h'.fixed.trans h.fixed
  settled hs := h'.settled (h.settled hs)
  submitting hs hsub := by
    obtain ⟨hsub', htoken'⟩ := h'.submitting (h.settled hs) hsub
    obtain ⟨hsub'', htoken''⟩ := h.submitting hs hsub'
    exact ⟨hsub'', htoken'.trans htoken''⟩
  reserved hr hno := by
    refine h'.reserved (h.reserved hr hno) fun hmay => ?_
    -- what may be cancelled now could have been cancelled before
    have hs := isSettled_of_isReserved hr
    rcases hmay with hvalidating | ⟨hsub, hne, hfencer⟩
    · have hs' := h.settled hs
      rw [hvalidating] at hs'
      cases hs'
    · obtain ⟨hsub', htoken⟩ := h.submitting hs hsub
      rw [htoken] at hne hfencer
      exact hno (Or.inr ⟨hsub', hne, hfencer⟩)

theorem ExecutionMove.settles (h : ExecutionMove e e') : Settles fencer e e' := by
  cases h with
  | claim h => exact .of_unsettled rfl (not_settled (h.imp_right Or.inl))
  | renew h =>
      exact
        { fixed := rfl
          settled := fun hs => hs
          submitting := fun _ hs => ⟨hs, rfl⟩
          reserved := fun hr _ => hr }
  | validationEnded h => exact .of_unsettled rfl (not_settled (Or.inr (Or.inr h)))
  | outcomeUnknown => exact .of_reserved rfl rfl (by simp)
  | reconciliationRequired => exact .of_reserved rfl rfl (by simp)
  | reconcile => exact .of_reserved rfl rfl (by simp)

variable [Python] {l : Licence} {s s' : Tables}

/-- **What a step does to a row.** -/
theorem ExecutionStep.settles (h : ExecutionStep fencer s e e') : Settles fencer e e' := by
  cases h with
  | refl => exact .refl e
  | move h => exact h.settles
  | cancel h =>
      exact
        { fixed := rfl
          settled := fun _ => rfl
          submitting := fun _ hs => by cases hs
          reserved := fun _ hno => absurd h hno }
  | reserve h => exact .of_unsettled rfl (not_settled (Or.inr (Or.inr h)))
  | finalize h houtcome =>
      rcases houtcome with rfl | rfl
      · exact .of_reserved rfl rfl (by simp [finalizedExecution])
      · exact .of_reserved rfl rfl (by simp [finalizedExecution])

/-! ### Rows after a sequence of changes -/

theorem Approve.executions_eq (h : Approve s s') : s'.executions = s.executions := by
  obtain ⟨a, settings, request, now, plan, -, -, -, -, rfl⟩ := h
  rfl

/-- **What a sequence of changes does to a row.** -/
theorem Moves.settles (h : Moves l s s') (he : e ∈ s.executions) :
    ∃ e' ∈ s'.executions, Settles l.fencer e e' := by
  induction h with
  | refl => exact ⟨e, he, .refl e⟩
  | tail _ hlast ih =>
      obtain ⟨e₁, he₁, hsettles⟩ := ih
      rcases hlast with hlast | hlast
      · obtain ⟨e₂, he₂, hstep⟩ := hlast.execution_step he₁
        exact ⟨e₂, he₂, hsettles.trans hstep.settles⟩
      · exact ⟨e₁, hlast.executions_eq ▸ he₁, hsettles⟩

/-- The row of an identifier, settled, and under a lease where it is being submitted. -/
def SettledRow (s : Tables) (executionId leaseToken : String) : Prop :=
  ∃ e ∈ s.executions, e.id = executionId ∧ isSettled e.status = true ∧
    (e.status = .submitting → e.leaseToken = some leaseToken)

/-- The row of an identifier, reserved. -/
def ReservedRow (s : Tables) (executionId : String) : Prop :=
  ∃ e ∈ s.executions, e.id = executionId ∧ e.status.isReserved = true

/-- **A settled row stays settled**, under the lease that it was reserved under. -/
theorem Moves.settled_row {executionId leaseToken : String} (h : Moves l s s')
    (hrow : SettledRow s executionId leaseToken) : SettledRow s' executionId leaseToken := by
  obtain ⟨e, he, hid, hs, htoken⟩ := hrow
  obtain ⟨e', he', hsettles⟩ := h.settles he
  refine ⟨e', he', (id_of_fixedExecution hsettles.fixed).trans hid, hsettles.settled hs,
    fun hsub => ?_⟩
  obtain ⟨hsub', htoken'⟩ := hsettles.submitting hs hsub
  rw [htoken', htoken hsub']

/-- **A reserved row stays reserved**, unless the holder of its lease cancels it. -/
theorem Moves.reserved_row {executionId leaseToken : String} (h : Moves l s s')
    (hrow : ReservedRow s executionId) (hlease : SettledRow s executionId leaseToken)
    (hl : l.fencer ≠ some leaseToken) : ReservedRow s' executionId := by
  obtain ⟨e, he, hid, hreserved⟩ := hrow
  obtain ⟨e', he', hsettles⟩ := h.settles he
  refine ⟨e', he', (id_of_fixedExecution hsettles.fixed).trans hid,
    hsettles.reserved hreserved fun hmay => ?_⟩
  obtain ⟨e₁, he₁, hid₁, hs₁, htoken⟩ := hlease
  obtain rfl : e₁ = e := Table.eq_of_key_eq he₁ he (hid₁.trans hid.symm)
  rcases hmay with hvalidating | ⟨hsub, -, hfencer⟩
  · rw [hvalidating] at hreserved
    cases hreserved
  · exact hl (hfencer.symm.trans (htoken hsub))

/-! ### Rows in submission -/

omit [Python] in
/-- A row of its own never enters submission. -/
theorem ExecutionMove.submitting (h : ExecutionMove e e') (hs : e'.status = .submitting) :
    e.status = .submitting := by
  cases h with
  | claim => cases hs
  | renew => exact hs
  | @validationEnded _ _ retry => cases retry <;> cases hs
  | outcomeUnknown => cases hs
  | reconciliationRequired => cases hs
  | reconcile => cases hs

/-- **No row enters submission** in a change without the licence to reserve. -/
theorem Effect.submitting_row (h : Effect l s s') (hl : l.reserves = none)
    (he' : e' ∈ s'.executions) (hs : e'.status = .submitting) :
    ∃ e ∈ s.executions, e.id = e'.id ∧ e.status = .submitting := by
  have hsaved : ∀ b' {b : DownloadExecution}, b ∈ s.executions → b'.id = b.id →
      (b'.status = .submitting → b.status = .submitting) → e' ∈ s.executions.save b' →
        ∃ e ∈ s.executions, e.id = e'.id ∧ e.status = .submitting := by
    intro b' b hb hid hstatus hmem
    rcases Table.mem_save.mp hmem with rfl | ⟨hmem, -⟩
    · exact ⟨b, hb, hid.symm, hstatus hs⟩
    · exact ⟨e', hmem, rfl, hs⟩
  cases h with
  | newExecution hreq =>
      rcases Table.mem_save.mp he' with rfl | ⟨he', -⟩
      · rw [hreq.new.status] at hs
        cases hs
      · exact ⟨e', he', rfl, hs⟩
  | execution he hmove =>
      exact hsaved _ he (id_of_fixedExecution hmove.fixed) hmove.submitting he'
  | cancel he => exact hsaved (cancelledExecution _ _ _) he rfl (fun h => nomatch h) he'
  | fence he => exact hsaved (cancelledExecution _ _ _) he rfl (fun h => nomatch h) he'
  | reserve he h hlocked ha hid hstatus hexpires hplan hselected hhash hlease =>
      rw [hl] at hlease
      exact absurd hlease.2 hlease.1
  | finalize he h => exact hsaved (finalizedExecution _ _ _) he rfl (fun _ => h) he'
  | _ => exact ⟨e', he', rfl, hs⟩

/-- **No row enters submission** in changes without the licence to reserve. -/
theorem Moves.submitting_row (h : Moves l s s') (hl : l.reserves = none)
    (he' : e' ∈ s'.executions) (hs : e'.status = .submitting) :
    ∃ e ∈ s.executions, e.id = e'.id ∧ e.status = .submitting := by
  induction h generalizing e' with
  | refl => exact ⟨e', he', rfl, hs⟩
  | tail _ hlast ih =>
      rcases hlast with hlast | hlast
      · obtain ⟨e₁, he₁, hid₁, hs₁⟩ := hlast.submitting_row hl he' hs
        obtain ⟨e, he, hid, hs⟩ := ih he₁ hs₁
        exact ⟨e, he, hid.trans hid₁, hs⟩
      · exact ih (hlast.executions_eq ▸ he') hs

end LibSeek.ControlPlane
