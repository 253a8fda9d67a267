/-
The operations on the policy and its decisions are changes of the protocol.

Reading the current policy may bootstrap it; publishing a revision extends its chain.  Neither
touches any other table, so that whatever a caller has read of them stays as it was.

Main definitions:

* `ControlPlane.SameRows` — tables that differ in the policy only.

Main results:

* `ControlPlane.wp_getCurrentPolicy`, `ControlPlane.wp_publishPolicyRevision` — the policy;
* `ControlPlane.wp_addDecisionOnce`, `ControlPlane.wp_recordStageDecision` — the decisions.
-/

import LibSeek.ControlPlane.ApprovalSteps

set_option relaxedAutoImplicit false
set_option autoImplicit false

namespace LibSeek.ControlPlane

open LibSeek.Core LibSeek.Lib LibSeek.Models LibSeek.Schemas LibSeek.Services

/-- Tables that differ in the policy only. -/
structure SameRows (s s' : Tables) : Prop where
  approvals : s'.approvals = s.approvals
  plans : s'.plans = s.plans
  intents : s'.intents = s.intents
  executions : s'.executions = s.executions
  jobs : s'.jobs = s.jobs
  decisions : s'.decisions = s.decisions

theorem SameRows.refl (s : Tables) : SameRows s s :=
  ⟨rfl, rfl, rfl, rfl, rfl, rfl⟩

section

variable [Python] {db : Db}

/-- Reading the policy leaves the other tables as they are, and ends in a revision that is stored
and verifies. -/
theorem wp_getCurrentPolicy (newId : Uuid) (now : DateTime) :
    Tx.wp (getCurrentPolicy newId now)
      (fun r db' => Effects .none db.toTables db'.toTables ∧ SameRows db.toTables db'.toTables ∧
        db'.revisions.get? r.2.id = some r.2 ∧ verifyPolicyRevision db'.toTables r.2 = .ok ())
      (fun _ db' => db' = db) db := by
  simp only [getCurrentPolicy, Tx.wp_bind, Tx.wp_get]
  cases hhead : db.head with
  | none =>
      simp only [bootstrapPolicy, saveRevision, Tx.wp_bind, Tx.wp_get, wp_requireApp, Tx.wp_modify,
        Tx.wp_pure]
      refine ⟨fun hnew => ?_, fun _ => trivial⟩
      exact ⟨(Effect.newRevision hnew).single, ⟨rfl, rfl, rfl, rfl, rfl, rfl⟩,
        Table.get?_save_self _ _, verifyPolicyRevision_newDefaultPolicy _ newId now⟩
  | some head =>
      simp only [bindHead, Tx.wp_bind, Tx.wp_get, Tx.wp_ofOption, wp_liftApp, wp_requireApp,
        Tx.wp_pure]
      refine ⟨fun current hcurrent => ⟨fun _ hverified => ⟨fun _ => ?_, fun _ => trivial⟩,
        fun _ _ => trivial⟩, fun _ => trivial⟩
      have hid := Table.key_of_get?_eq_some hcurrent
      exact ⟨.refl, .refl _, by rw [← hcurrent, ← hid]; rfl, hverified⟩

theorem wp_requireStageNotDisabled (stage : AutomationStage) (newId : Uuid) (now : DateTime) :
    Tx.wp (requireStageNotDisabled stage newId now)
      (fun _ db' => Effects .none db.toTables db'.toTables ∧ SameRows db.toTables db'.toTables)
      (fun _ db' => Effects .none db.toTables db'.toTables) db := by
  simp only [requireStageNotDisabled, Tx.wp_bind]
  refine Tx.wp_mono (wp_getCurrentPolicy newId now) (fun r db' h => ?_)
    fun _ db' h => h ▸ .refl
  simp only [wp_requireApp, Tx.wp_pure]
  exact ⟨fun _ => ⟨h.1, h.2.1⟩, fun _ => h.1⟩

theorem wp_publishPolicyRevision (request : PolicyRevisionRequest) (actor : String)
    (newIds : Uuid × Uuid) (clock : ℕ → DateTime) :
    Tx.wp (publishPolicyRevision request actor newIds clock)
      (fun _ db' => Effects .none db.toTables db'.toTables)
      (fun _ db' => Effects .none db.toTables db'.toTables) db := by
  simp only [publishPolicyRevision, publishOn, Tx.wp_bind]
  refine Tx.wp_mono (wp_getCurrentPolicy newIds.1 (clock 0)) (fun r db' h => ?_)
    fun _ db' h => h ▸ .refl
  simp only [wp_requireApp, saveRevision, Tx.wp_get, Tx.wp_require, Tx.wp_modify, Tx.wp_pure]
  exact ⟨fun _ => ⟨fun _ => ⟨fun hnew => h.1.tail (.newRevision hnew), fun _ => h.1⟩,
    fun _ => h.1⟩, fun _ => h.1⟩

omit [Python] in
theorem decisionOn_some {s : Tables} {dedupeKey : Digest DecisionSubject}
    {d : AutomationDecision} (h : decisionOn s dedupeKey = some d) :
    d ∈ s.decisions ∧ d.dedupeKey = dedupeKey :=
  ⟨List.mem_of_find?_eq_some h, by simpa using List.find?_some h⟩

/-- A decision is stored, or there was one on its subject. -/
theorem wp_addDecisionOnce (decision : AutomationDecision) :
    Tx.wp (addDecisionOnce decision)
      (fun r db' => Effects .none db.toTables db'.toTables ∧
        ((r.2 = false ∧ db' = db) ∨
          (r = (decision, true) ∧
            db'.toTables = { db.toTables with decisions := db.decisions.save decision })))
      (fun _ db' => Effects .none db.toTables db'.toTables) db := by
  simp only [addDecisionOnce, Tx.wp_bind, Tx.wp_get]
  cases h : decisionOn db.toTables decision.dedupeKey with
  | some existing => exact ⟨.refl, Or.inl ⟨rfl, rfl⟩⟩
  | none =>
      simp only [Tx.wp_bind, Tx.wp_require, Tx.wp_modify, Tx.wp_pure]
      exact ⟨fun hnew => ⟨(Effect.newDecision hnew).single, Or.inr ⟨trivial, trivial⟩⟩,
        fun _ => .refl⟩

theorem wp_recordStageDecision (revision : AutomationPolicyRevision) (spec : DecisionSpec)
    (newId : Uuid) :
    Tx.wp (recordStageDecision revision spec newId)
      (fun _ db' => Effects .none db.toTables db'.toTables)
      (fun _ db' => Effects .none db.toTables db'.toTables) db := by
  simp only [recordStageDecision, Tx.wp_bind, Tx.wp_pure]
  exact Tx.wp_mono (wp_addDecisionOnce _) (fun _ _ h => h.1) fun _ _ h => h

end

end LibSeek.ControlPlane
