/-
The audit of the control plane.

The events of requests, executions and downloads are written beside the rows, one with every status
that is written, and nothing reads them back to decide anything.  This module states what a
transaction can do to the rows that have a status and to their events, as a relation between the
databases before and after, and says of the relation that it keeps the audit in step with the rows.
That the calls of the program do nothing else is proved afterwards.

Main definitions:

* `ControlPlane.approvalSuccessors`, `ControlPlane.executionSuccessors` — the lifecycles;
* `ControlPlane.approvalTrail`, `ControlPlane.executionTrail`, `ControlPlane.jobTrail` — the events
  as trails;
* `ControlPlane.Audited` — **the rows stand where their events leave them**;
* `ControlPlane.Logged` — what a change can do to rows and events.

Main results:

* `ControlPlane.Logged.audited` — every change keeps the audit in step;
* `ControlPlane.Logged.prefixes` — no event is ever taken back.
-/

import LibSeek.ControlPlane.Monitoring
import LibSeek.Lib.Moving
import LibSeek.Lib.Trails

set_option relaxedAutoImplicit false
set_option autoImplicit false

namespace LibSeek.ControlPlane

open LibSeek.Core LibSeek.Lib LibSeek.Models LibSeek.Schemas LibSeek.Services LibSeek.Workers

/-! ### Lifecycles -/

/-- The statuses that an event of a request may lead to; an event that only notes something leads
back to where the request stands. -/
def approvalSuccessors : ApprovalStatus → List ApprovalStatus
  | .pending => [.pending, .approved, .rejected, .expired]
  | .approved => [.approved, .executing, .revoked, .expired]
  | .executing => [.consumed, .revoked]
  | .consumed => [.consumed]
  | .rejected | .expired | .revoked => []

/-- The statuses that an event of an execution may lead to. -/
def executionSuccessors : DownloadExecutionStatus → List DownloadExecutionStatus
  | .pending | .retryWait => [.validating]
  | .validating => [.submitting, .retryWait, .failed, .cancelled]
  | .submitting =>
      [.submitted, .alreadyPresent, .outcomeUnknown, .reconciliationRequired, .cancelled]
  | .outcomeUnknown => [.reconciliationRequired, .reconciliationPending]
  | .reconciliationRequired => [.reconciliationPending]
  | .reconciliationPending | .submitted | .alreadyPresent | .failed | .cancelled => []

/-- The edges of the requests. -/
def approvalEdge : Option ApprovalStatus → ApprovalStatus → Prop :=
  lifecycle .pending approvalSuccessors

/-- The edges of the executions. -/
def executionEdge : Option DownloadExecutionStatus → DownloadExecutionStatus → Prop :=
  lifecycle .pending executionSuccessors

/-- A download goes to wherever the downloader says it is. -/
def jobEdge (_ : Option DownloadJobStatus) (_ : DownloadJobStatus) : Prop :=
  True

/-! ### Trails -/

/-- The mark of an event of a request. -/
def approvalMark (event : ApprovalEvent) : Mark String ApprovalStatus where
  key := event.approvalRequestId
  before := event.fromStatus
  after := event.toStatus

/-- The mark of an event of an execution. -/
def executionMark (event : DownloadExecutionEvent) : Mark String DownloadExecutionStatus where
  key := event.downloadExecutionId
  before := event.fromStatus
  after := event.toStatus

/-- The mark of an event of a download. -/
def jobMark (event : DownloadJobEvent) : Mark String DownloadJobStatus where
  key := event.downloadJobId
  before := event.fromStatus
  after := event.toStatus

/-- The trail of the requests. -/
def approvalTrail (db : Db) : List (Mark String ApprovalStatus) :=
  db.approvalEvents.map approvalMark

/-- The trail of the executions. -/
def executionTrail (db : Db) : List (Mark String DownloadExecutionStatus) :=
  db.executionEvents.map executionMark

/-- The trail of the downloads. -/
def jobTrail (db : Db) : List (Mark String DownloadJobStatus) :=
  db.jobEvents.map jobMark

/-- **The rows stand where their events leave them**, the events follow the lifecycles, and the
attempts of an execution are the claims among its events. -/
structure Audited (db : Db) : Prop where
  approvals : Mirrors approvalEdge ApprovalRequest.status db.approvals (approvalTrail db)
  executions : Mirrors executionEdge DownloadExecution.status db.executions (executionTrail db)
  jobs : Mirrors jobEdge DownloadJob.status db.jobs (jobTrail db)
  attempts : Tallies .validating DownloadExecution.attempts db.executions (executionTrail db)

theorem audited_initial : Audited {} where
  approvals := mirrors_empty
  executions := mirrors_empty
  jobs := mirrors_empty
  attempts := tallies_empty

/-! ### Changes -/

/-- Databases with the same rows that have a status, and with the same events. -/
structure SameLogged (db db' : Db) : Prop where
  approvals : db'.approvals = db.approvals
  executions : db'.executions = db.executions
  jobs : db'.jobs = db.jobs
  approvalEvents : db'.approvalEvents = db.approvalEvents
  executionEvents : db'.executionEvents = db.executionEvents
  jobEvents : db'.jobEvents = db.jobEvents

/-- **What a change can do to the rows that have a status and to their events.** -/
inductive Logged : Db → Db → Prop
  | other {db db' : Db} (h : SameLogged db db') : Logged db db'
  | approval {db db' : Db} {a : ApprovalRequest} {event : ApprovalEvent}
      (hmark : approvalMark event =
        { key := a.id, before := (db.approvals.get? a.id).map ApprovalRequest.status
          after := a.status })
      (hedge : approvalEdge ((db.approvals.get? a.id).map ApprovalRequest.status) a.status)
      (hdb : db' = { db with
        approvals := db.approvals.save a, approvalEvents := db.approvalEvents ++ [event] }) :
      Logged db db'
  | note {db db' : Db} {a : ApprovalRequest} {event : ApprovalEvent} (ha : a ∈ db.approvals)
      (hmark : approvalMark event = { key := a.id, before := some a.status, after := a.status })
      (hedge : approvalEdge (some a.status) a.status)
      (hdb : db' = { db with approvalEvents := db.approvalEvents ++ [event] }) : Logged db db'
  | execution {db db' : Db} {e : DownloadExecution} {event : DownloadExecutionEvent}
      (hmark : executionMark event =
        { key := e.id, before := (db.executions.get? e.id).map DownloadExecution.status
          after := e.status })
      (hedge : executionEdge ((db.executions.get? e.id).map DownloadExecution.status) e.status)
      (hattempts : e.attempts =
        ((db.executions.get? e.id).map DownloadExecution.attempts).getD 0 +
          if e.status = .validating then 1 else 0)
      (hdb : db' = { db with
        executions := db.executions.save e, executionEvents := db.executionEvents ++ [event] }) :
      Logged db db'
  | renewal {db db' : Db} {e e' : DownloadExecution} (he : e ∈ db.executions)
      (hsame : e'.id = e.id ∧ e'.status = e.status ∧ e'.attempts = e.attempts)
      (hdb : db' = { db with executions := db.executions.save e' }) : Logged db db'
  | job {db db' : Db} {j : DownloadJob} {event : DownloadJobEvent}
      (hmark : jobMark event =
        { key := j.id, before := (db.jobs.get? j.id).map DownloadJob.status, after := j.status })
      (hdb : db' = { db with
        jobs := db.jobs.save j, jobEvents := db.jobEvents ++ [event] }) : Logged db db'
  | observation {db db' : Db} {j j' : DownloadJob} (hj : j ∈ db.jobs)
      (hsame : j'.id = j.id ∧ j'.status = j.status)
      (hdb : db' = { db with jobs := db.jobs.save j' }) : Logged db db'

/-- **Every change keeps the audit in step.** -/
theorem Logged.audited {db db' : Db} (h : Audited db) (hstep : Logged db db') : Audited db' := by
  cases hstep with
  | other hsame =>
      obtain ⟨happrovals, hexecutions, hjobs, happrovalEvents, hexecutionEvents, hjobEvents⟩ :=
        hsame
      refine ⟨?_, ?_, ?_, ?_⟩
      · simpa only [happrovals, approvalTrail, happrovalEvents] using h.approvals
      · simpa only [hexecutions, executionTrail, hexecutionEvents] using h.executions
      · simpa only [hjobs, jobTrail, hjobEvents] using h.jobs
      · simpa only [hexecutions, executionTrail, hexecutionEvents] using h.attempts
  | approval hmark hedge hdb =>
      subst hdb
      refine ⟨?_, h.executions, h.jobs, h.attempts⟩
      rw [approvalTrail, List.map_append, List.map_singleton, hmark]
      exact h.approvals.write rfl hedge
  | note ha hmark hedge hdb =>
      subst hdb
      refine ⟨?_, h.executions, h.jobs, h.attempts⟩
      rw [approvalTrail, List.map_append, List.map_singleton, hmark]
      exact h.approvals.note ha hedge
  | execution hmark hedge hattempts hdb =>
      subst hdb
      refine ⟨h.approvals, ?_, h.jobs, ?_⟩
      all_goals rw [executionTrail, List.map_append, List.map_singleton, hmark]
      · exact h.executions.write rfl hedge
      · exact h.attempts.write h.executions hattempts
  | renewal he hsame hdb =>
      subst hdb
      exact ⟨h.approvals, h.executions.touch he hsame.1 hsame.2.1, h.jobs,
        h.attempts.touch he hsame.1 hsame.2.2⟩
  | job hmark hdb =>
      subst hdb
      refine ⟨h.approvals, h.executions, ?_, h.attempts⟩
      rw [jobTrail, List.map_append, List.map_singleton, hmark]
      exact h.jobs.write rfl trivial
  | observation hj hsame hdb =>
      subst hdb
      exact ⟨h.approvals, h.executions, h.jobs.touch hj hsame.1 hsame.2, h.attempts⟩

/-- Events that are only added to: those that were there are there as they were. -/
structure Prefixes (db db' : Db) : Prop where
  approvals : db.approvalEvents <+: db'.approvalEvents
  executions : db.executionEvents <+: db'.executionEvents
  jobs : db.jobEvents <+: db'.jobEvents

theorem Prefixes.refl (db : Db) : Prefixes db db :=
  ⟨List.prefix_rfl, List.prefix_rfl, List.prefix_rfl⟩

theorem Prefixes.trans {db db' db'' : Db} (h : Prefixes db db') (h' : Prefixes db' db'') :
    Prefixes db db'' :=
  ⟨h.approvals.trans h'.approvals, h.executions.trans h'.executions, h.jobs.trans h'.jobs⟩

/-- **No event is ever taken back.** -/
theorem Logged.prefixes {db db' : Db} (hstep : Logged db db') : Prefixes db db' := by
  cases hstep with
  | other hsame =>
      exact ⟨hsame.approvalEvents ▸ List.prefix_rfl, hsame.executionEvents ▸ List.prefix_rfl,
        hsame.jobEvents ▸ List.prefix_rfl⟩
  | approval hmark hedge hdb =>
      subst hdb
      exact ⟨List.prefix_append .., List.prefix_rfl, List.prefix_rfl⟩
  | note ha hmark hedge hdb =>
      subst hdb
      exact ⟨List.prefix_append .., List.prefix_rfl, List.prefix_rfl⟩
  | execution hmark hedge hattempts hdb =>
      subst hdb
      exact ⟨List.prefix_rfl, List.prefix_append .., List.prefix_rfl⟩
  | renewal he hsame hdb =>
      subst hdb
      exact ⟨List.prefix_rfl, List.prefix_rfl, List.prefix_rfl⟩
  | job hmark hdb =>
      subst hdb
      exact ⟨List.prefix_rfl, List.prefix_rfl, List.prefix_append ..⟩
  | observation hj hsame hdb =>
      subst hdb
      exact ⟨List.prefix_rfl, List.prefix_rfl, List.prefix_rfl⟩

end LibSeek.ControlPlane
