/-
What a sequence of changes does to a row.

A request that has come to its end stays as it is, whatever is done to the tables; one that is
executing can only be consumed, or revoked under the licence of the executor's guard; and its
pre-flight is what the last transaction with the licence for it has saved.

Main results:

* `ControlPlane.Effects.approval_run`, `ControlPlane.Effects.approval_origin` — the requests before
  and after a sequence of changes;
* `ControlPlane.Moves.terminal` — **a request at its end stays as it is**;
* `ControlPlane.Effects.executing` — what becomes of a request that is executing;
* `ControlPlane.ApprovalRun.preflight_eq` — the pre-flight of a request without the licence for
  it.
-/

import LibSeek.ControlPlane.Rows

set_option relaxedAutoImplicit false
set_option autoImplicit false

namespace LibSeek.ControlPlane

open LibSeek.Core LibSeek.Lib LibSeek.Models LibSeek.Schemas LibSeek.Services LibSeek.Workers
open Relation

variable [Python] {l : Licence} {s s' : Tables} {a a' : ApprovalRequest}

/-! ### Runs of a request -/

/-- What a sequence of changes does to a request. -/
def ApprovalRun (l : Licence) : ApprovalRequest → ApprovalRequest → Prop :=
  ReflTransGen (ApprovalStep l)

theorem ApprovalRun.id_eq (h : ApprovalRun l a a') : a'.id = a.id := by
  induction h with
  | refl => rfl
  | tail _ hlast ih => exact hlast.id_eq.trans ih

/-- The requests before a sequence of changes are all there after it. -/
theorem Effects.approval_run (h : Effects l s s') (ha : a ∈ s.approvals) :
    ∃ a' ∈ s'.approvals, ApprovalRun l a a' := by
  induction h with
  | refl => exact ⟨a, ha, .refl⟩
  | tail _ hlast ih =>
      obtain ⟨b, hb, hrun⟩ := ih
      obtain ⟨a', ha', hstep⟩ := hlast.approval_step hb
      exact ⟨a', ha', hrun.tail hstep⟩

/-- A request after a sequence of changes was there before it, or is new since. -/
theorem Effects.approval_origin (h : Effects l s s') (ha' : a' ∈ s'.approvals) :
    (∃ a ∈ s.approvals, ApprovalRun l a a') ∨
      s.approvals.get? a'.id = none ∧ ∃ a, NewApproval a ∧ ApprovalRun l a a' := by
  induction h generalizing a' with
  | refl => exact Or.inl ⟨a', ha', .refl⟩
  | @tail m s' hfirst hlast ih =>
      rcases hlast.approval_cases ha' with ⟨hnew, hid, -⟩ | ⟨b, hb, hstep⟩
      · refine Or.inr ⟨Table.get?_eq_none.mpr fun x hx hkey => ?_, a', hnew, .refl⟩
        obtain ⟨y, hy, hrun⟩ := Effects.approval_run hfirst hx
        exact Table.get?_eq_none.mp hid y hy (hrun.id_eq.trans hkey)
      · rcases ih hb with ⟨a, ha, hrun⟩ | ⟨hnone, a, hnew, hrun⟩
        · exact Or.inl ⟨a, ha, hrun.tail hstep⟩
        · exact Or.inr ⟨hstep.id_eq ▸ hnone, a, hnew, hrun.tail hstep⟩

/-! ### Requests at their end -/

/-- The statuses that a request never leaves. -/
def isTerminal : ApprovalStatus → Bool
  | .rejected | .expired | .revoked | .consumed => true
  | _ => false

theorem ApprovalStep.terminal (h : ApprovalStep l a a') (ha : isTerminal a.status = true) :
    a' = a := by
  have hnot : ∀ {status : ApprovalStatus}, a.status = status → isTerminal status = false → False :=
    fun hs hf => by rw [← hs, ha] at hf; cases hf
  cases h with
  | refl => rfl
  | move hmove =>
      cases hmove with
      | expire h => rcases h with h | h <;> exact (hnot h rfl).elim
      | reject h => exact (hnot h rfl).elim
      | revoke h => exact (hnot h rfl).elim
  | preflight h => exact (hnot h rfl).elim
  | reserve h => exact (hnot h rfl).elim
  | consume h => exact (hnot h rfl).elim
  | fence h => rcases h with h | h <;> exact (hnot h rfl).elim

theorem ApprovalRun.terminal (h : ApprovalRun l a a') (ha : isTerminal a.status = true) :
    a' = a := by
  induction h with
  | refl => rfl
  | tail _ hlast ih =>
      subst ih
      exact hlast.terminal ha

/-- An approval leaves every request alone but a pending one. -/
theorem ApprovedBy.mem_of_ne {b : ApprovalRequest} {settings : Settings}
    {request : ApprovalApproveRequest} {now : DateTime} {plan : DownloadPlan}
    (h : ApprovedBy s a settings request now plan s') (hb : b ∈ s.approvals)
    (hne : b.status ≠ .pending) : b ∈ s'.approvals := by
  obtain ⟨ha, ⟨happroval⟩, -, -, rfl⟩ := h
  refine Table.mem_save_of_ne hb fun hid => hne ?_
  obtain rfl := Table.eq_of_key_eq hb ha hid
  exact happroval.pending

/-- **A request at its end stays as it is.** -/
theorem Moves.terminal (h : Moves l s s') (ha : a ∈ s.approvals)
    (hend : isTerminal a.status = true) : a ∈ s'.approvals := by
  induction h with
  | refl => exact ha
  | tail _ hlast ih =>
      rcases hlast with hlast | ⟨b, settings, request, now, plan, happroved⟩
      · obtain ⟨a', ha', hstep⟩ := hlast.approval_step ih
        obtain rfl := hstep.terminal hend
        exact ha'
      · refine happroved.mem_of_ne ih fun hpending => ?_
        rw [hpending] at hend
        cases hend

/-! ### Requests that are executing -/

/-- What becomes of a request that is executing: nothing, its consumption, or its revocation under
the licence to cancel its execution. -/
def StaysExecuting (l : Licence) (a a' : ApprovalRequest) : Prop :=
  a' = a ∨ a'.status = .consumed ∨ a'.status = .revoked ∧ l.fencer ≠ none

theorem ApprovalStep.executing (h : ApprovalStep l a a') (ha : a.status = .executing) :
    StaysExecuting l a a' := by
  have hnot : ∀ {status : ApprovalStatus}, a.status = status → status ≠ .executing → False :=
    fun hs hne => hne (hs.symm.trans ha)
  cases h with
  | refl => exact Or.inl rfl
  | move hmove =>
      cases hmove with
      | expire h => rcases h with h | h <;> exact (hnot h (by decide)).elim
      | reject h => exact (hnot h (by decide)).elim
      | revoke h => exact (hnot h (by decide)).elim
  | preflight h => exact (hnot h (by decide)).elim
  | reserve h => exact (hnot h (by decide)).elim
  | consume => exact Or.inr (Or.inl rfl)
  | fence h hl => exact Or.inr (Or.inr ⟨rfl, hl⟩)

theorem ApprovalRun.executing (h : ApprovalRun l a a') (ha : a.status = .executing) :
    StaysExecuting l a a' := by
  induction h with
  | refl => exact Or.inl rfl
  | tail _ hlast ih =>
      have hend : ∀ {b c : ApprovalRequest} {status : ApprovalStatus}, ApprovalStep l b c →
          b.status = status → isTerminal status = true → c = b :=
        fun hstep hs ht => hstep.terminal (by rw [hs]; exact ht)
      rcases ih with rfl | hconsumed | ⟨hrevoked, hl⟩
      · exact hlast.executing ha
      · rw [hend hlast hconsumed rfl]
        exact Or.inr (Or.inl hconsumed)
      · rw [hend hlast hrevoked rfl]
        exact Or.inr (Or.inr ⟨hrevoked, hl⟩)

/-- **What becomes of a request that is executing.** -/
theorem Effects.executing (h : Effects l s s') (ha : a ∈ s.approvals)
    (hstatus : a.status = .executing) :
    ∃ a' ∈ s'.approvals, a'.id = a.id ∧ StaysExecuting l a a' := by
  obtain ⟨a', ha', hrun⟩ := h.approval_run ha
  exact ⟨a', ha', hrun.id_eq, hrun.executing hstatus⟩

/-! ### Pre-flights -/

theorem ApprovalStep.preflight_eq (h : ApprovalStep l a a') (hl : l.preflight ≠ some a.id) :
    a'.preflightResult = a.preflightResult ∧ a'.preflightCheckedAt = a.preflightCheckedAt := by
  cases h with
  | move hmove => cases hmove <;> exact ⟨rfl, rfl⟩
  | preflight _ hl' => exact absurd hl' hl
  | _ => exact ⟨rfl, rfl⟩

/-- **The pre-flight of a request** is not touched without the licence for it. -/
theorem ApprovalRun.preflight_eq (h : ApprovalRun l a a') (hl : l.preflight ≠ some a.id) :
    a'.preflightResult = a.preflightResult ∧ a'.preflightCheckedAt = a.preflightCheckedAt := by
  induction h with
  | refl => exact ⟨rfl, rfl⟩
  | tail hfirst hlast ih =>
      obtain ⟨hresult, hchecked⟩ := hlast.preflight_eq (by rwa [ApprovalRun.id_eq hfirst])
      exact ⟨hresult.trans ih.1, hchecked.trans ih.2⟩

end LibSeek.ControlPlane
