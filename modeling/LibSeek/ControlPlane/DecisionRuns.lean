/-
Runs of judgements.

Every judgement of the automation ends in `add_decision_once`: where a decision on the subject is
stored already, that one is kept and the new one dropped.  The subject is the policy revision, the
stage, the action, the outcome and the entities that were judged; the reasons and the evidence are
not part of it.  What a run of judgements leaves behind is therefore one decision for each subject,
with the reasons and the evidence of the first judgement on it.

Main definitions:

* `ControlPlane.recordDecision` — `_record_stage_decision`, for a decision on any entity;
* `ControlPlane.Evaluation`, `ControlPlane.Event`, `ControlPlane.runEvents` — judgements, and what
  else is committed between them.

Main results:

* `ControlPlane.wp_recordDecision` — **what one judgement stores**;
* `ControlPlane.decisionOn_runEvents_append` — a stored decision stays the one on its subject;
* `ControlPlane.mem_decisions_runEvents` — every stored decision is that of a judgement;
* `ControlPlane.decisionOn_evaluation` — **what is stored after a judgement**, for ever after.
-/

import LibSeek.ControlPlane.PolicySteps
import LibSeek.Services.Decisions

set_option relaxedAutoImplicit false
set_option autoImplicit false

namespace LibSeek.ControlPlane

open LibSeek.Core LibSeek.Lib LibSeek.Models LibSeek.Schemas LibSeek.Services

section

variable [Python]

/-! ### Judgements -/

/-- `_record_stage_decision`, for a decision on any entity. -/
def recordDecision (revision : AutomationPolicyRevision) (arguments : DecisionArguments)
    (newId : Uuid) : DbTx AutomationDecision := do
  let decision ← Tx.ofExcept (buildDecision revision arguments newId)
  let (stored, _) ← addDecisionOnce decision
  return stored

/-- For a decision on an approval, it is the one of the approval services. -/
theorem recordDecision_spec (revision : AutomationPolicyRevision) (spec : DecisionSpec)
    (newId : Uuid) (hcodes : spec.reasonCodes.eraseDups ≠ [] ∧
      spec.reasonCodes.eraseDups.all isReasonCode = true) :
    recordDecision revision spec.arguments newId = recordStageDecision revision spec newId := by
  unfold recordDecision recordStageDecision
  rw [buildDecision_spec revision spec newId hcodes]
  rfl

omit [Python] in
/-- A judgement: the policy it was made under, what it came to, and the identifier drawn for its
decision. -/
structure Evaluation where
  revision : AutomationPolicyRevision
  arguments : DecisionArguments
  newId : Uuid

/-- The decision that a judgement computes. -/
def Evaluation.decision (x : Evaluation) : AutomationDecision :=
  decisionRow x.revision x.arguments x.newId

/-- The outcome of a judgement and the database that it leaves behind. -/
def Evaluation.commit (x : Evaluation) (db : Db) : Except Exn AutomationDecision × Db :=
  Tx.commit (recordDecision x.revision x.arguments x.newId) db

omit [Python] in
/-- What is committed: a judgement, or a change that leaves the decisions alone. -/
inductive Event where
  | evaluate (x : Evaluation)
  | other (change : Db → Db) (h : ∀ db, (change db).decisions = db.decisions)

/-- The database that an event leaves behind. -/
def Event.commit : Event → Db → Db
  | .evaluate x, db => (x.commit db).2
  | .other change _, db => change db

/-- The database after a list of events. -/
def runEvents (events : List Event) : Db :=
  events.foldl (fun db event => event.commit db) {}

theorem runEvents_concat (events : List Event) (event : Event) :
    runEvents (events ++ [event]) = event.commit (runEvents events) := by
  simp [runEvents]

/-! ### One judgement -/

variable {db : Db}

/-- **What one judgement stores**: nothing where there is a decision on its subject, and the
decision that it computed otherwise. -/
theorem wp_recordDecision (x : Evaluation) :
    Tx.wp (recordDecision x.revision x.arguments x.newId)
      (fun stored db' =>
        (decisionOn db.toTables x.decision.dedupeKey = some stored ∧ db' = db) ∨
          (decisionOn db.toTables x.decision.dedupeKey = none ∧ stored = x.decision ∧
            db.decisions.get? x.decision.id = none ∧
            db'.decisions = db.decisions.save x.decision))
      (fun _ db' => db' = db) db := by
  simp only [recordDecision, Tx.wp_bind, Tx.wp_ofExcept, Tx.wp_pure]
  refine ⟨fun d hd => ?_, fun _ _ => trivial⟩
  obtain ⟨-, rfl⟩ := buildDecision_eq_ok.mp hd
  change Tx.wp (addDecisionOnce x.decision) _ _ db
  simp only [addDecisionOnce, Tx.wp_bind, Tx.wp_get]
  cases h : decisionOn db.toTables x.decision.dedupeKey with
  | some existing => exact Or.inl ⟨rfl, rfl⟩
  | none =>
      simp only [Tx.wp_bind, Tx.wp_require, Tx.wp_modify, Tx.wp_pure]
      exact ⟨fun hnew => Or.inr ⟨trivial, trivial, hnew, trivial⟩, fun _ => trivial⟩

/-- The cases of a judgement's end. -/
theorem Evaluation.commit_cases (x : Evaluation) (db : Db) :
    (∃ stored, (x.commit db).1 = .ok stored ∧
      ((decisionOn db.toTables x.decision.dedupeKey = some stored ∧ (x.commit db).2 = db) ∨
        (decisionOn db.toTables x.decision.dedupeKey = none ∧ stored = x.decision ∧
          db.decisions.get? x.decision.id = none ∧
          (x.commit db).2.decisions = db.decisions.save x.decision))) ∨
      (∃ e, (x.commit db).1 = .error e ∧ (x.commit db).2 = db) := by
  rcases Tx.commit_wp (@wp_recordDecision _ db x) with h | ⟨e, _, herror, hsame, -⟩
  · exact Or.inl h
  · exact Or.inr ⟨e, herror, hsame⟩

/-! ### Runs -/

/-- **A stored decision stays the one on its subject**, whatever is committed after it. -/
theorem decisionOn_commit {dedupeKey : Digest DecisionSubject} {d : AutomationDecision}
    (event : Event) (h : decisionOn db.toTables dedupeKey = some d) :
    decisionOn (event.commit db).toTables dedupeKey = some d := by
  cases event with
  | evaluate x =>
      rcases x.commit_cases db with ⟨_, -, ⟨-, hsame⟩ | ⟨-, -, hnew, hsave⟩⟩ | ⟨_, -, hsame⟩
      · rw [Event.commit, hsame]
        exact h
      · unfold decisionOn at h ⊢
        rw [Event.commit, hsave]
        exact Table.find?_save_of_some hnew h
      · rw [Event.commit, hsame]
        exact h
  | other change hchange =>
      unfold decisionOn at h ⊢
      rw [Event.commit, hchange db]
      exact h

theorem decisionOn_runEvents_append {dedupeKey : Digest DecisionSubject} {d : AutomationDecision}
    {before : List Event} (h : decisionOn (runEvents before).toTables dedupeKey = some d)
    (after : List Event) : decisionOn (runEvents (before ++ after)).toTables dedupeKey = some d := by
  -- the last event of the run is committed on a run in which the decision is stored
  induction after using List.reverseRecOn with
  | nil => rwa [List.append_nil]
  | append_singleton events event ih =>
      rw [← List.append_assoc, runEvents_concat]
      exact decisionOn_commit event ih

/-- **Every stored decision is that of a judgement** of the run. -/
theorem mem_decisions_runEvents (events : List Event) :
    ∀ d ∈ (runEvents events).decisions, ∃ x, Event.evaluate x ∈ events ∧ d = x.decision := by
  induction events using List.reverseRecOn with
  | nil => exact fun d hd => absurd hd (Table.notMem_empty d)
  | append_singleton events event ih =>
      rw [runEvents_concat]
      have hold : ∀ d ∈ (runEvents events).decisions,
          ∃ x, Event.evaluate x ∈ events ++ [event] ∧ d = x.decision := by
        intro d hd
        obtain ⟨x, hx, heq⟩ := ih d hd
        exact ⟨x, List.mem_append_left _ hx, heq⟩
      cases event with
      | evaluate x =>
          rcases x.commit_cases (runEvents events) with
            ⟨_, -, ⟨-, hsame⟩ | ⟨-, -, -, hsave⟩⟩ | ⟨_, -, hsame⟩
          · rw [Event.commit, hsame]
            exact hold
          · rw [Event.commit, hsave]
            exact Table.forall_mem_save hold ⟨x, by simp, rfl⟩
          · rw [Event.commit, hsame]
            exact hold
      | other change hchange =>
          rw [Event.commit, hchange]
          exact hold

/-- No two stored decisions have one key. -/
theorem uniqueBy_dedupeKey_runEvents (events : List Event) :
    (runEvents events).decisions.UniqueBy AutomationDecision.dedupeKey := by
  induction events using List.reverseRecOn with
  | nil => exact Table.uniqueBy_empty
  | append_singleton events event ih =>
      rw [runEvents_concat]
      cases event with
      | evaluate x =>
          rcases x.commit_cases (runEvents events) with
            ⟨_, -, ⟨-, hsame⟩ | ⟨hnone, -, -, hsave⟩⟩ | ⟨_, -, hsame⟩
          · rw [Event.commit, hsame]
            exact ih
          · rw [Event.commit, hsave]
            refine ih.save_new fun d hd hkey => ?_
            have hne := List.find?_eq_none.mp hnone d hd
            simp [hkey] at hne
          · rw [Event.commit, hsame]
            exact ih
      | other change hchange =>
          rw [Event.commit, hchange]
          exact ih

/-- Judgements whose decisions have one key have one subject. -/
theorem decisionSubject_eq_of_dedupeKey {x y : Evaluation}
    (h : x.decision.dedupeKey = y.decision.dedupeKey) :
    decisionSubject x.decision = decisionSubject y.decision :=
  Digest.sha256_inj.mp h

/-- **What is stored after a judgement**, and for ever after: exactly one decision on its subject,
that is of the same policy revision, stage, action, outcome and entities.  It is the decision that the
judgement computed, with its reasons and its redacted evidence, where none was stored on the
subject before; otherwise it is the one that was, as an earlier judgement on the subject computed
it. -/
theorem decisionOn_evaluation {before : List Event} {x : Evaluation} {stored : AutomationDecision}
    (h : (x.commit (runEvents before)).1 = .ok stored) (after : List Event) :
    stored ∈ (runEvents (before ++ .evaluate x :: after)).decisions ∧
      decisionOn (runEvents (before ++ .evaluate x :: after)).toTables x.decision.dedupeKey =
        some stored ∧
      decisionSubject stored = decisionSubject x.decision ∧
      (∀ d ∈ (runEvents (before ++ .evaluate x :: after)).decisions,
        decisionSubject d = decisionSubject x.decision → d = stored) ∧
      (decisionOn (runEvents before).toTables x.decision.dedupeKey = none →
        stored = x.decision) ∧
      (∀ first, decisionOn (runEvents before).toTables x.decision.dedupeKey = some first →
        stored = first ∧ ∃ y, Event.evaluate y ∈ before ∧ first = y.decision) := by
  have hcommit : decisionOn (runEvents (before ++ [.evaluate x])).toTables x.decision.dedupeKey =
        some stored ∧
      (decisionOn (runEvents before).toTables x.decision.dedupeKey = none →
        stored = x.decision) ∧
      ∀ first, decisionOn (runEvents before).toTables x.decision.dedupeKey = some first →
        stored = first := by
    rw [runEvents_concat]
    rcases x.commit_cases (runEvents before) with
      ⟨stored', hok, ⟨hfirst, hsame⟩ | ⟨hnone, rfl, hnew, hsave⟩⟩ | ⟨e, herror, -⟩
    · obtain rfl : stored = stored' := Except.ok.inj (h.symm.trans hok)
      rw [Event.commit, hsame]
      refine ⟨hfirst, fun hnone => ?_, fun first hfirst' =>
        Option.some.inj (hfirst.symm.trans hfirst')⟩
      rw [hnone] at hfirst
      cases hfirst
    · obtain rfl : stored = x.decision := Except.ok.inj (h.symm.trans hok)
      refine ⟨?_, fun _ => rfl, fun first hfirst => ?_⟩
      · unfold decisionOn at hnone ⊢
        rw [Event.commit, hsave]
        exact Table.find?_save_of_none hnone (by simp)
      · rw [hnone] at hfirst
        cases hfirst
    · rw [h] at herror
      cases herror
  obtain ⟨hstored, hnone, hfirst⟩ := hcommit
  -- a stored decision is never replaced
  have hlater := decisionOn_runEvents_append hstored after
  rw [List.append_assoc, List.singleton_append] at hlater
  obtain ⟨hmem, hkey⟩ := decisionOn_some hlater
  refine ⟨hmem, hlater, ?_, fun d hd hsubject => ?_, hnone, fun first h => ⟨hfirst first h, ?_⟩⟩
  · -- the stored row is that of some judgement, which has the key of this one
    obtain ⟨y, -, rfl⟩ := mem_decisions_runEvents _ stored hmem
    exact decisionSubject_eq_of_dedupeKey hkey
  · obtain ⟨y, -, rfl⟩ := mem_decisions_runEvents _ d hd
    have hsame : y.decision.dedupeKey = stored.dedupeKey :=
      Eq.trans (congrArg Digest.sha256 hsubject) hkey.symm
    exact uniqueBy_dedupeKey_runEvents _ _ hd _ hmem hsame
  · exact mem_decisions_runEvents before first (decisionOn_some h).1

end

/-! ### Two judgements on one subject -/

/-- The judgement that a request is to be approved by an operator, after a pre-flight that did not
pass. -/
def manualApproval (preflightStatus : PreflightStatus) (newId : Uuid) : Evaluation where
  revision := bootstrappedPolicy
  arguments :=
    { stage := .approval
      action := "APPROVE_REQUEST"
      outcome := .manualRequired
      mediaItemId := "media-1"
      reasonCodes := ["AUTOMATION_PREFLIGHT_NOT_PASS"]
      evidence := .ofList
        [("approval_request_id", .str (rowId 0).text),
          ("preflight_status", .str preflightStatus.value)]
      approvalRequestId := some (rowId 0).text }
  newId := newId

/-- The request is judged after a pre-flight that was blocked. -/
def blockedRun : List Event :=
  [.evaluate (manualApproval .blocked (rowId 6))]

/-- The second judgement of the request succeeds, with the decision of the first. -/
theorem commit_warning :
    (@Evaluation.commit asciiPython (manualApproval .warning (rowId 7))
        (@runEvents asciiPython blockedRun)).1 =
      .ok (@Evaluation.decision asciiPython (manualApproval .blocked (rowId 6))) := by
  decide +kernel

/-- **A second judgement of the request**, after a pre-flight with a warning, is identified with
the first: it succeeds, and no stored decision has its evidence. -/
theorem evaluation_identified :
    (@Evaluation.commit asciiPython (manualApproval .warning (rowId 7))
        (@runEvents asciiPython blockedRun)).1 =
      .ok (@Evaluation.decision asciiPython (manualApproval .blocked (rowId 6))) ∧
    ∀ d ∈ (@runEvents asciiPython
        (blockedRun ++ [.evaluate (manualApproval .warning (rowId 7))])).decisions.rows,
      d.evidenceSnapshot ≠
        (@Evaluation.decision asciiPython (manualApproval .warning (rowId 7))).evidenceSnapshot :=
  ⟨commit_warning, by decide +kernel⟩

/-- The decision that is stored after it is the first. -/
theorem decisionOn_evaluation_warning :
    (@Evaluation.decision asciiPython (manualApproval .blocked (rowId 6))) ∈
      (@runEvents asciiPython
        (blockedRun ++ .evaluate (manualApproval .warning (rowId 7)) :: [])).decisions :=
  (@decisionOn_evaluation asciiPython _ _ _ commit_warning []).1

end LibSeek.ControlPlane
