/-
The protocol of the control plane.

What the services, the executor and the automation do to the tables comes down to a few kinds of
changes.  This module states them as a relation between the tables before and after: which row is
written, in which state it and the rows it depends on must be, and what is written.  It is a
description of its own, not a translation; that every transaction of the program is a sequence of
these changes is proved afterwards, operation by operation, and every invariant of the tables is
proved here once for each kind of change.

Three changes are not open to everybody: reserving the torrent of an execution, and cancelling one
whose torrent has been reserved, take the lease of the execution, and the pre-flight of a request is
saved by a pre-flight of it.  The relation carries a licence for them.

Main definitions:

* `ControlPlane.ApprovalMove`, `ControlPlane.ExecutionMove` — the changes of one row;
* `ControlPlane.Licence` — what a transaction may do that others may not;
* `ControlPlane.Effect` — **a change of the tables**, but for the approval of a request;
* `ControlPlane.ApprovedBy`, `ControlPlane.Approve` — the approval of a request, which builds its
  plan;
* `ControlPlane.Effects`, `ControlPlane.Moves` — sequences of changes.

Main results:

* `ControlPlane.Moves.preserve` — what every change preserves, every sequence of them preserves;
* `ControlPlane.Effects.weaken` — a change that needs no licence can be made under every licence.
-/

import LibSeek.Workers.ExecutorStore
import Mathlib.Logic.Relation

set_option relaxedAutoImplicit false
set_option autoImplicit false

namespace LibSeek.ControlPlane

open LibSeek.Core LibSeek.Lib LibSeek.Models LibSeek.Schemas LibSeek.Services LibSeek.Workers
open Relation

/-! ### Changes of one row -/

/-- A request that has just been created. -/
structure NewApproval [Python] (a : ApprovalRequest) : Prop where
  id : ∃ newId : Uuid, a.id = newId.text
  status : a.status = .pending
  preflightResult : a.preflightResult = none
  preflightCheckedAt : a.preflightCheckedAt = none
  verified : ∃ snapshot, verifySnapshot a = .ok snapshot

/-- The request with the result of a pre-flight. -/
def preflighted (a : ApprovalRequest) (result : PreflightResult) : ApprovalRequest :=
  { a with
    preflightResult := some (.dump result), preflightCheckedAt := some result.checkedAt }

/-- A change of the status of a request that is not its approval. -/
inductive ApprovalMove : ApprovalRequest → ApprovalRequest → Prop
  | expire {a : ApprovalRequest} {now : DateTime} (h : a.status = .pending ∨ a.status = .approved)
      (hnow : a.expiresAt ≤ now) :
      ApprovalMove a { a with status := .expired, decidedAt := some now }
  | reject {a : ApprovalRequest} {now : DateTime} (h : a.status = .pending) :
      ApprovalMove a { a with status := .rejected, decidedAt := some now }
  | revoke {a : ApprovalRequest} {now : DateTime} (h : a.status = .approved) :
      ApprovalMove a { a with status := .revoked, decidedAt := some now }

/-- An intent that has just been created. -/
structure NewIntent (i : ExecutionIntent) : Prop where
  status : i.status = .active
  origin : requireOriginBinding i.origin (some i.launchMode) i.automationPolicyRevisionId
    i.automationDecisionId = .ok ()

/-- An execution that has just been created. -/
structure NewExecution (e : DownloadExecution) : Prop where
  status : e.status = .pending
  attempts : e.attempts = 0
  maxAttempts : 1 ≤ e.maxAttempts
  lease : e.lockedAt = none ∧ e.lockedBy = none ∧ e.leaseToken = none
  bundle : e.actualInfoHash = none ∧ e.actualInfoHashV1 = none ∧ e.actualInfoHashV2 = none ∧
    e.actualSizeBytes = none ∧ e.actualFileCount = none ∧ e.validatedAt = none ∧
    e.submittedAt = none
  verifiedAt : e.verifiedAt = none
  reconciliation : e.reconciliationRequestedBy = none ∧ e.reconciliationRequestedAt = none ∧
    e.reconciliationReason = none

/-- A change of an execution that touches no other row, but for its cancellation. -/
inductive ExecutionMove : DownloadExecution → DownloadExecution → Prop
  | claim {e : DownloadExecution} {x : DownloadExecutor} {leaseToken : Uuid} {now : DateTime}
      (h : e.status = .pending ∨ e.status = .retryWait) (hattempts : e.attempts < e.maxAttempts) :
      ExecutionMove e (claimedExecution x leaseToken now e)
  | renew {e : DownloadExecution} {now : DateTime} (h : e.status.isLeased = true)
      (hlocked : e.lockedAt ≠ none) : ExecutionMove e { e with lockedAt := some now }
  | validationEnded {e : DownloadExecution} {x : DownloadExecutor} {now : DateTime} {retry : Bool}
      {errorCode errorMessage : String} (h : e.status = .validating)
      (hretry : retry = true → e.attempts < e.maxAttempts) :
      ExecutionMove e (validationEnded x now retry errorCode errorMessage e)
  | outcomeUnknown {e : DownloadExecution} {errorCode errorMessage : String}
      (h : e.status = .submitting) :
      ExecutionMove e
        { released e with
          status := .outcomeUnknown, errorCode := some errorCode
          errorMessage := some errorMessage }
  | reconciliationRequired {e : DownloadExecution} {errorCode errorMessage : String}
      (h : e.status = .submitting ∨ e.status = .outcomeUnknown) :
      ExecutionMove e
        { released e with
          status := .reconciliationRequired, errorCode := some errorCode
          errorMessage := some errorMessage }
  | reconcile {e : DownloadExecution} {actor : String} {now : DateTime} {reason : Option String}
      (h : e.status = .outcomeUnknown ∨ e.status = .reconciliationRequired) :
      ExecutionMove e
        { e with
          status := .reconciliationPending
          reconciliationRequestedBy := some actor
          reconciliationRequestedAt := some now
          reconciliationReason := reason }

/-! ### Changes of the tables -/

variable [Python]

/-- The rows that a new execution is bound to. -/
structure Requested (s : Tables) (e : DownloadExecution) (a : ApprovalRequest)
    (i : ExecutionIntent) (plan : DownloadPlan) : Prop where
  new : NewExecution e
  approval : a ∈ s.approvals
  approval_id : a.id = e.approvalId
  approved : a.status = .approved
  intent : i ∈ s.intents
  intent_id : i.id = e.intentId
  intent_active : i.status = .active
  intent_approval : i.approvalId = a.id
  plan_of : planOfApproval s e.approvalId = some plan
  verified : verifyDownloadPlan plan a = .ok plan
  row : verifyExecutionRow e = .ok ()
  origin : requireOriginBinding e.origin (if e.origin = .automation then some .addPaused else none)
    e.automationPolicyRevisionId e.automationDecisionId = .ok ()
  bound : executionBound e a i plan
  automation : verifyExecutionAutomation s e a = .ok ()

/-- Whether the holder of a lease may cancel an execution: one that is being validated may be
cancelled by anybody, one whose torrent has been reserved by the holder of its lease. -/
def MayCancel (fencer : Option String) (e : DownloadExecution) : Prop :=
  e.status = .validating ∨ (e.status = .submitting ∧ e.leaseToken ≠ none ∧ e.leaseToken = fencer)

/-- What a transaction may do that others may not. -/
structure Licence where
  /-- The lease under which it may cancel an execution whose torrent has been reserved. -/
  fencer : Option String := none
  /-- The lease under which it may reserve the torrent of an execution. -/
  reserves : Option String := none
  /-- The request whose pre-flight it may save. -/
  preflight : Option String := none

/-- The licence of most transactions. -/
def Licence.none : Licence := {}

/-- **A change of the tables**, but for the approval of a request, under a licence. -/
inductive Effect (l : Licence) : Tables → Tables → Prop
  | newApproval {s : Tables} {a : ApprovalRequest} (h : NewApproval a)
      (hid : s.approvals.get? a.id = none)
      (hactive : activeApproval s a.torrentCandidateId = none) :
      Effect l s { s with approvals := s.approvals.save a }
  | approval {s : Tables} {a a' : ApprovalRequest} (ha : a ∈ s.approvals) (h : ApprovalMove a a') :
      Effect l s { s with approvals := s.approvals.save a' }
  | preflight {s : Tables} {a : ApprovalRequest} {replies : QbReadReplies}
      {snapshot : ApprovalCandidateSnapshot} {settings : Settings} {now : DateTime}
      {result : PreflightResult} (ha : a ∈ s.approvals) (h : a.status = .pending)
      (hl : l.preflight = some a.id) (hsnapshot : verifySnapshot a = .ok snapshot)
      (hresult : evaluatePreflight replies snapshot settings now = .ok result) :
      Effect l s { s with approvals := s.approvals.save (preflighted a result) }
  | newIntent {s : Tables} {i : ExecutionIntent} (h : NewIntent i)
      (hid : s.intents.get? i.id = none) (hnonce : intentOfNonce s i.nonceSha256 = none)
      (hactive : activeIntent s i.approvalId = none) :
      Effect l s { s with intents := s.intents.save i }
  | expireIntent {s : Tables} {i : ExecutionIntent} (hi : i ∈ s.intents)
      (h : i.status = .active) :
      Effect l s { s with intents := s.intents.save { i with status := .expired } }
  | newExecution {s : Tables} {e : DownloadExecution} {a : ApprovalRequest}
      {i : ExecutionIntent} {plan : DownloadPlan} {now : DateTime} {actor : String}
      (h : Requested s e a i plan) (hid : s.executions.get? e.id = none)
      (happroval : executionOfApproval s e.approvalId = none)
      (hintent : executionOfIntent s e.intentId = none)
      (hkey : executionOfKey s e.idempotencyKeySha256 = none) :
      Effect l s
        { s with
          executions := s.executions.save e
          intents := s.intents.save
            { i with status := .consumed, consumedAt := some now, consumedBy := some actor } }
  | execution {s : Tables} {e e' : DownloadExecution} (he : e ∈ s.executions)
      (h : ExecutionMove e e') : Effect l s { s with executions := s.executions.save e' }
  | cancel {s : Tables} {e : DownloadExecution} {errorCode errorMessage : String}
      (he : e ∈ s.executions) (h : MayCancel l.fencer e) :
      Effect l s
        { s with executions := s.executions.save (cancelledExecution errorCode errorMessage e) }
  | fence {s : Tables} {e : DownloadExecution} {a : ApprovalRequest} {now : DateTime}
      {errorCode errorMessage : String} (he : e ∈ s.executions) (h : MayCancel l.fencer e)
      (hl : l.fencer ≠ .none) (ha : a ∈ s.approvals) (hid : a.id = e.approvalId)
      (hstatus : a.status = .approved ∨ a.status = .executing) :
      Effect l s
        { s with
          executions := s.executions.save (cancelledExecution errorCode errorMessage e)
          approvals := s.approvals.save { a with status := .revoked, decidedAt := some now } }
  | reserve {s : Tables} {e : DownloadExecution} {a : ApprovalRequest} {plan : DownloadPlan}
      {metadata : ValidatedTorrent} {selectedHash hash : String} {now : DateTime}
      (he : e ∈ s.executions) (h : e.status = .validating) (hlocked : e.lockedAt ≠ none)
      (ha : a ∈ s.approvals) (hid : a.id = e.approvalId) (hstatus : a.status = .approved)
      (hexpires : now < a.expiresAt) (hplan : planOfApproval s a.id = some plan)
      (hselected : metadata.selectedHash = some selectedHash)
      (hhash : reservedHash plan metadata selectedHash = .ok hash)
      (hl : e.leaseToken ≠ none ∧ e.leaseToken = l.reserves) :
      Effect l s
        { s with
          approvals := s.approvals.save { a with status := .executing }
          executions := s.executions.save (reservedExecution e metadata hash now) }
  | finalize {s : Tables} {e : DownloadExecution} {a : ApprovalRequest} {job : DownloadJob}
      {outcome : DownloadExecutionStatus} {now decidedAt : DateTime} (he : e ∈ s.executions)
      (h : e.status = .submitting) (ha : a ∈ s.approvals) (hid : a.id = e.approvalId)
      (hstatus : a.status = .executing)
      (houtcome : outcome = .submitted ∨ outcome = .alreadyPresent)
      (hjob : s.jobs.get? job.id = none) (hexecution : job.executionId = e.id)
      (hnone : jobOfExecution s e.id = none) (hchecks : job.SatisfiesChecks) :
      Effect l s
        { s with
          jobs := s.jobs.save job
          approvals := s.approvals.save { a with status := .consumed, decidedAt := some decidedAt }
          executions := s.executions.save (finalizedExecution e outcome now) }
  | newRevision {s : Tables} {r : AutomationPolicyRevision} {version : ℕ}
      (h : revisionIsNew s r = true) :
      Effect l s
        { s with
          revisions := s.revisions.save r, head := some { currentRevisionId := r.id, version } }
  | newDecision {s : Tables} {d : AutomationDecision} (h : s.decisions.get? d.id = none) :
      Effect l s { s with decisions := s.decisions.save d }

/-- What the approval of a request has checked, and the plan it has built. -/
structure Approval (settings : Settings) (request : ApprovalApproveRequest) (now : DateTime)
    (a : ApprovalRequest) (plan : DownloadPlan) where
  snapshot : ApprovalCandidateSnapshot
  preflight : PreflightResult
  category : String
  tags : List String
  newId : Uuid
  pending : a.status = .pending
  snapshot_ok : verifySnapshot a = .ok snapshot
  acknowledged : validateManualApprovalAcknowledgements snapshot request = .ok ()
  preflight_ok : requireFreshPreflight a settings now = .ok preflight
  tags_ok : buildQbPlanTags settings.qbPlanTags snapshot.mediaTitle = .ok tags
  plan_eq : plan = planOf a snapshot preflight settings category tags newId

/-- **The approval of a request**: the request and its plan, between the tables before and after. -/
structure ApprovedBy (s : Tables) (a : ApprovalRequest) (settings : Settings)
    (request : ApprovalApproveRequest) (now : DateTime) (plan : DownloadPlan) (s' : Tables) :
    Prop where
  mem : a ∈ s.approvals
  approval : Nonempty (Approval settings request now a plan)
  fresh : s.plans.get? plan.id = none
  unplanned : planOfApproval s a.id = none
  tables : s' =
    { s with
      approvals := s.approvals.save { a with status := .approved, decidedAt := some now }
      plans := s.plans.save plan }

/-- The approval of some request. -/
def Approve (s s' : Tables) : Prop :=
  ∃ a settings request now plan, ApprovedBy s a settings request now plan s'

/-- A sequence of changes without an approval. -/
def Effects (l : Licence) : Tables → Tables → Prop :=
  ReflTransGen (Effect l)

/-- A sequence of changes. -/
def Moves (l : Licence) : Tables → Tables → Prop :=
  ReflTransGen fun s s' => Effect l s s' ∨ Approve s s'

variable {l : Licence} {s s' s'' : Tables}

theorem Effects.refl : Effects l s s :=
  ReflTransGen.refl

theorem Effects.trans (h : Effects l s s') (h' : Effects l s' s'') :
    Effects l s s'' :=
  ReflTransGen.trans h h'

theorem Effect.single (h : Effect l s s') : Effects l s s' :=
  ReflTransGen.single h

theorem Effects.tail (h : Effects l s s') (h' : Effect l s' s'') :
    Effects l s s'' :=
  ReflTransGen.tail h h'

theorem Effects.moves (h : Effects l s s') : Moves l s s' :=
  ReflTransGen.mono (fun _ _ => Or.inl) _ _ h

theorem ApprovedBy.approve {a : ApprovalRequest} {settings : Settings}
    {request : ApprovalApproveRequest} {now : DateTime} {plan : DownloadPlan}
    (h : ApprovedBy s a settings request now plan s') : Approve s s' :=
  ⟨a, settings, request, now, plan, h⟩

theorem Approve.moves (h : Approve s s') : Moves l s s' :=
  ReflTransGen.single (Or.inr h)

theorem Moves.refl : Moves l s s :=
  ReflTransGen.refl

theorem Moves.trans (h : Moves l s s') (h' : Moves l s' s'') : Moves l s s'' :=
  ReflTransGen.trans h h'

/-- What every change preserves, every sequence of changes preserves. -/
theorem Moves.preserve {P : Tables → Prop}
    (heffect : ∀ s s', Effect l s s' → P s → P s') (happrove : ∀ s s', Approve s s' → P s → P s')
    (h : Moves l s s') (hs : P s) : P s' := by
  induction h with
  | refl => exact hs
  | tail _ hlast ih =>
      rcases hlast with hlast | hlast
      · exact heffect _ _ hlast ih
      · exact happrove _ _ hlast ih

omit [Python] in
/-- A change that cancels no reserved execution can be made under every lease. -/
theorem MayCancel.weaken {fencer : Option String} {e : DownloadExecution}
    (h : MayCancel none e) : MayCancel fencer e := by
  rcases h with h | ⟨-, hne, hnone⟩
  · exact Or.inl h
  · exact absurd hnone hne

theorem Effect.weaken (h : Effect .none s s') : Effect l s s' := by
  cases h with
  | newApproval h hid hactive => exact .newApproval h hid hactive
  | approval ha h => exact .approval ha h
  | preflight ha h hl => cases hl
  | newIntent h hid hnonce hactive => exact .newIntent h hid hnonce hactive
  | expireIntent hi h => exact .expireIntent hi h
  | newExecution h hid happroval hintent hkey => exact .newExecution h hid happroval hintent hkey
  | execution he h => exact .execution he h
  | cancel he h => exact .cancel he h.weaken
  | fence he h hl => exact absurd rfl hl
  | reserve he h hlocked ha hid hstatus hexpires hplan hselected hhash hl =>
      exact absurd hl.2 hl.1
  | finalize he h ha hid hstatus houtcome hjob hexecution hnone hchecks =>
      exact .finalize he h ha hid hstatus houtcome hjob hexecution hnone hchecks
  | newRevision h => exact .newRevision h
  | newDecision h => exact .newDecision h

theorem Effects.weaken (h : Effects .none s s') : Effects l s s' :=
  ReflTransGen.mono (fun _ _ => Effect.weaken) _ _ h

theorem Moves.weaken (h : Moves .none s s') : Moves l s s' :=
  ReflTransGen.mono (fun _ _ => Or.imp_left Effect.weaken) _ _ h

end LibSeek.ControlPlane
