/-
What the operations on media imports do.

Every route of the import requests is a transaction, after which the response is made from what is
stored.  This module says once, for every operation, what it writes and what it has checked before;
everything else about runs is derived from that.

Main definitions:

* `MediaImports.Operation`, `MediaImports.Operation.perform` — an operation, and its outcome;
* `MediaImports.Step` — **what one operation can do to the database**.

Main results:

* `MediaImports.wp_createMediaImportRequest`, … — the specification of each operation.
-/

import LibSeek.Services.MediaImports

set_option relaxedAutoImplicit false
set_option autoImplicit false

namespace LibSeek.MediaImports

open LibSeek.Core LibSeek.Lib LibSeek.Models LibSeek.Schemas LibSeek.Services

variable [UnicodeData]

/-! ### Operations -/

/-- An operation on the import requests with all that the outside supplies to it; other parts of
the program write the tables that the imports read. -/
inductive Operation where
  | create (request : MediaImportCreateRequest) (settings : MediaImportSettings) (actor : String)
      (newIds : Uuid × Uuid) (now : DateTime)
  | preflight (requestId : String) (inspection : MediaImportInspectionSnapshot)
      (inspection_valid : inspection.valid = true) (settings : MediaImportSettings)
      (actor : String) (newId : Uuid) (now : DateTime)
  | approve (requestId : String) (decision : MediaImportApproveRequest)
      (settings : MediaImportSettings) (actor : String) (now : DateTime)
  | reject (requestId : String) (reason : Option String) (settings : MediaImportSettings)
      (actor : String) (now : DateTime)
  | revoke (requestId : String) (reason : Option String) (settings : MediaImportSettings)
      (actor : String) (now : DateTime)
  | elsewhere (tables : Tables) (media : Table Models.MediaItem)

/-- The end of a route: the transaction commits or rolls back, and after a commit the response is
made from the stored rows. -/
def route (body : ImportTx MediaImportRequest) (db : ImportDb) : Except Exn Unit × ImportDb :=
  match Tx.commit body db with
  | (.error e, db') => (.error e, db')
  | (.ok request, db') => (mediaImportRequestResponse db' request, db')

/-- The error of a route for the violation of a database constraint. -/
def requestConflict : Exn → Exn
  | .integrity => refusal "MEDIA_IMPORT_REQUEST_CONFLICT" "媒体入库规划请求发生并发冲突，请重新读取下载任务状态"
  | e => e

/-- The outcome of an operation, and the database that it leaves. -/
def Operation.perform : Operation → ImportDb → Except Exn Unit × ImportDb
  | .create request settings actor newIds now =>
      route (Tx.mapError
        (do
          let created ← createMediaImportRequest request settings actor newIds now
          return created.1) requestConflict)
  | .preflight requestId inspection _ settings actor newId now => fun db =>
      match Tx.commit
        (recordMediaImportPreflight requestId inspection settings actor newId now) db with
      | (.error e, db') => (.error e, db')
      | (.ok _, db') => (.ok (), db')
  | .approve requestId decision settings actor now =>
      route (approveMediaImportRequest requestId decision settings actor now)
  | .reject requestId reason settings actor now =>
      route (rejectMediaImportRequest requestId reason settings actor now)
  | .revoke requestId reason settings actor now =>
      route (revokeMediaImportRequest requestId reason settings actor now)
  | .elsewhere tables media => fun db => (.ok (), { db with tables, media })

/-! ### Steps -/

/-- The row of an approved request. -/
def approvedRow (r : MediaImportRequest) (decision : MediaImportApproveRequest) (actor : String)
    (now : DateTime) : MediaImportRequest :=
  { r with
    status := .approvedPlanOnly
    approvedBy := some actor
    approvedAt := some now
    decisionAcknowledgements := some (.dump { acknowledgesHnr := decision.acknowledgesHnr })
    updatedAt := now }

/-- The row of a rejected request. -/
def rejectedRow (r : MediaImportRequest) (reason : Option String) (actor : String)
    (now : DateTime) : MediaImportRequest :=
  { r with
    status := .rejected
    rejectedBy := some actor
    rejectedAt := some now
    rejectionReason := reason
    updatedAt := now }

/-- The row of a revoked request. -/
def revokedRow (r : MediaImportRequest) (reason : Option String) (actor : String)
    (now : DateTime) : MediaImportRequest :=
  { r with
    status := .revoked
    revokedBy := some actor
    revokedAt := some now
    revocationReason := reason
    updatedAt := now }

/-- The row of a request after a pre-flight. -/
def preflightedRow (r : MediaImportRequest) (overallStatus : PreflightStatus) (now : DateTime) :
    MediaImportRequest :=
  { r with
    status :=
      if overallStatus = .pass ∨ overallStatus = .warning then .reviewRequired
      else .preflightRequired
    updatedAt := now }

/-- The row of a new request. -/
def createdRow (bound : BoundEntities) (actor : String) (id : Uuid) (now : DateTime) :
    MediaImportRequest :=
  { id := id.text
    downloadJobId := bound.job.id
    mediaItemId := bound.media.id
    executionId := bound.execution.id
    status := .preflightRequired
    requestedBy := actor
    requestedAt := now
    createdAt := now
    updatedAt := now }

/-- **What one operation can do to the database**, and what it has checked before. -/
inductive Step (db : ImportDb) : Operation → ImportDb → Prop where
  | created {request : MediaImportCreateRequest} {settings : MediaImportSettings}
      {rawActor actor : String} {newIds : Uuid × Uuid} {now : DateTime} {bound : BoundEntities}
      {summary : MediaImportJobSummarySnapshot} {fingerprint : Digest MediaImportConfigDocument}
      {events : List MediaImportEvent}
      (checked : checkProposal db request settings = .ok (bound, summary, fingerprint))
      (fresh : db.requests.get? newIds.1.text = none)
      (inactive : activeImport db bound.job.id = none)
      (unplanned : ∀ p ∈ db.plans, p.requestId ≠ newIds.1.text)
      (freshPlan : db.plans.get? newIds.2.text = none) :
      Step db (.create request settings rawActor newIds now)
        { db with
          requests := db.requests.save (createdRow bound actor newIds.1 now)
          plans := db.plans.save (newImportPlan (createdRow bound actor newIds.1 now) request
            summary fingerprint actor newIds.2 now)
          events := events }
  | preflighted {requestId : String} {inspection : MediaImportInspectionSnapshot}
      {valid : inspection.valid = true} {settings : MediaImportSettings} {rawActor actor : String}
      {newId : Uuid} {now : DateTime} {r : MediaImportRequest} {plan : MediaImportPlan}
      {fingerprint : Digest MediaImportConfigDocument} {result : MediaImportPreflightResult}
      {events : List MediaImportEvent}
      (found : db.requests.get? requestId = some r)
      (checked : checkInspection db r inspection settings now = .ok (plan, fingerprint, result))
      (fresh : db.preflights.get? newId.text = none) :
      Step db (.preflight requestId inspection valid settings rawActor newId now)
        { db with
          requests := db.requests.save (preflightedRow r result.overallStatus now)
          preflights := db.preflights.save
            (newImportPreflight r plan inspection result fingerprint actor newId now)
          events := events }
  | approved {requestId : String} {decision : MediaImportApproveRequest}
      {settings : MediaImportSettings} {rawActor actor : String} {now : DateTime}
      {r : MediaImportRequest} {events : List MediaImportEvent}
      (found : db.requests.get? requestId = some r)
      (checked : checkApproval db r decision settings now = .ok ()) :
      Step db (.approve requestId decision settings rawActor now)
        { db with
          requests := db.requests.save (approvedRow r decision actor now)
          events := events }
  | rejected {requestId : String} {rawReason reason : Option String}
      {settings : MediaImportSettings} {rawActor actor : String} {now : DateTime}
      {r : MediaImportRequest} {events : List MediaImportEvent}
      (found : db.requests.get? requestId = some r)
      (status : r.status = .preflightRequired ∨ r.status = .reviewRequired) :
      Step db (.reject requestId rawReason settings rawActor now)
        { db with
          requests := db.requests.save (rejectedRow r reason actor now)
          events := events }
  | revoked {requestId : String} {rawReason reason : Option String}
      {settings : MediaImportSettings} {rawActor actor : String} {now : DateTime}
      {r : MediaImportRequest} {events : List MediaImportEvent}
      (found : db.requests.get? requestId = some r) (status : r.status = .approvedPlanOnly) :
      Step db (.revoke requestId rawReason settings rawActor now)
        { db with
          requests := db.requests.save (revokedRow r reason actor now)
          events := events }
  | elsewhere {tables : Tables} {media : Table Models.MediaItem} :
      Step db (.elsewhere tables media) { db with tables, media }

/-! ### Specifications -/

omit [UnicodeData] in
theorem getMediaImportRequest_eq_ok {db : ImportDb} {requestId : String}
    {r : MediaImportRequest} (h : getMediaImportRequest db requestId = .ok r) :
    db.requests.get? requestId = some r :=
  orRaise_eq_ok.mp h

theorem wp_createMediaImportRequest {db : ImportDb} (request : MediaImportCreateRequest)
    (settings : MediaImportSettings) (actor : String) (newIds : Uuid × Uuid) (now : DateTime) :
    Tx.wp (createMediaImportRequest request settings actor newIds now)
      (fun created db' => Step db (.create request settings actor newIds now) db' ∧
        created.1 ∈ db'.requests) (fun _ _ => True) db := by
  simp only [createMediaImportRequest, insertImportRequest, insertImportPlan, saveImportRequest,
    addImportEvent, Tx.wp_bind, Tx.wp_ofExcept, Tx.wp_get, Tx.wp_require, Tx.wp_modify, Tx.wp_pure,
    implies_true, and_true]
  rintro - - validated - ⟨bound, summary, fingerprint⟩ hchecked ⟨hfresh, hinactive⟩ ⟨hplan, hplans⟩
  rw [List.all_eq_true] at hplans
  refine ⟨Step.created hchecked hfresh hinactive ?_ hplan, Table.mem_save_self _ _⟩
  intro p hp
  have hne := hplans p hp
  rw [Bool.and_eq_true, decide_eq_true_eq] at hne
  exact hne.1

theorem wp_recordMediaImportPreflight {db : ImportDb} (requestId : String)
    (inspection : MediaImportInspectionSnapshot) (valid : inspection.valid = true)
    (settings : MediaImportSettings) (actor : String) (newId : Uuid) (now : DateTime) :
    Tx.wp (recordMediaImportPreflight requestId inspection settings actor newId now)
      (fun _ db' => Step db (.preflight requestId inspection valid settings actor newId now) db')
      (fun _ _ => True) db := by
  simp only [recordMediaImportPreflight, insertImportPreflight, saveImportRequest, addImportEvent,
    Tx.wp_bind, Tx.wp_ofExcept, Tx.wp_get, Tx.wp_require, Tx.wp_modify, Tx.wp_pure, implies_true,
    and_true]
  rintro - - validated - r hfound ⟨plan, fingerprint, result⟩ hchecked ⟨hfresh, -⟩
  exact Step.preflighted (getMediaImportRequest_eq_ok hfound) hchecked hfresh

theorem wp_approveMediaImportRequest {db : ImportDb} (requestId : String)
    (decision : MediaImportApproveRequest) (settings : MediaImportSettings) (actor : String)
    (now : DateTime) :
    Tx.wp (approveMediaImportRequest requestId decision settings actor now)
      (fun r db' => Step db (.approve requestId decision settings actor now) db' ∧
        r ∈ db'.requests) (fun _ _ => True) db := by
  simp only [approveMediaImportRequest, saveImportRequest, addImportEvent, Tx.wp_bind,
    Tx.wp_ofExcept, Tx.wp_get, Tx.wp_modify, Tx.wp_pure, implies_true, and_true]
  rintro - - validated - r hfound ⟨⟩ hchecked
  exact ⟨Step.approved (getMediaImportRequest_eq_ok hfound) hchecked, Table.mem_save_self _ _⟩

theorem wp_rejectMediaImportRequest {db : ImportDb} (requestId : String) (reason : Option String)
    (settings : MediaImportSettings) (actor : String) (now : DateTime) :
    Tx.wp (rejectMediaImportRequest requestId reason settings actor now)
      (fun r db' => Step db (.reject requestId reason settings actor now) db' ∧ r ∈ db'.requests)
      (fun _ _ => True) db := by
  simp only [rejectMediaImportRequest, saveImportRequest, addImportEvent, Tx.wp_bind,
    Tx.wp_ofExcept, Tx.wp_get, Tx.wp_require, Tx.wp_modify, Tx.wp_pure, implies_true, and_true]
  rintro - - validated - r hfound hstatus stored -
  exact ⟨Step.rejected (getMediaImportRequest_eq_ok hfound) hstatus, Table.mem_save_self _ _⟩

theorem wp_revokeMediaImportRequest {db : ImportDb} (requestId : String) (reason : Option String)
    (settings : MediaImportSettings) (actor : String) (now : DateTime) :
    Tx.wp (revokeMediaImportRequest requestId reason settings actor now)
      (fun r db' => Step db (.revoke requestId reason settings actor now) db' ∧ r ∈ db'.requests)
      (fun _ _ => True) db := by
  simp only [revokeMediaImportRequest, saveImportRequest, addImportEvent, Tx.wp_bind,
    Tx.wp_ofExcept, Tx.wp_get, Tx.wp_require, Tx.wp_modify, Tx.wp_pure, implies_true, and_true]
  rintro - - validated - r hfound hstatus stored -
  exact ⟨Step.revoked (getMediaImportRequest_eq_ok hfound) hstatus, Table.mem_save_self _ _⟩

end LibSeek.MediaImports
