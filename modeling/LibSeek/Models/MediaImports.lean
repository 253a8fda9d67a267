/-
The tables of the media imports.

A request has one plan, which never changes, and any number of pre-flights.  The media, and the
tables of the control plane in which its download, its execution and its approval are, belong to
other parts of the program.

Main definitions:

* `Models.MediaImportRequest`, `Models.MediaImportPlan`, `Models.MediaImportPreflight` — the rows;
* `Models.MediaImportRequest.DecisionShape` — **the `CHECK` constraint** of the requests;
* `Models.ImportDb` — the database.
-/

import LibSeek.Models.Entities
import LibSeek.Models.Library
import LibSeek.Schemas.MediaImports

set_option relaxedAutoImplicit false
set_option autoImplicit false

namespace LibSeek.Models

open LibSeek.Core LibSeek.Lib LibSeek.Schemas

/-! ### Requests -/

structure MediaImportRequest where
  id : String
  downloadJobId : String
  mediaItemId : String
  executionId : String
  status : MediaImportStatus
  requestedBy : String
  requestedAt : DateTime
  approvedBy : Option String := none
  approvedAt : Option DateTime := none
  rejectedBy : Option String := none
  rejectedAt : Option DateTime := none
  rejectionReason : Option String := none
  revokedBy : Option String := none
  revokedAt : Option DateTime := none
  revocationReason : Option String := none
  decisionAcknowledgements : Option (JsonColumn MediaImportDecisionAcknowledgements) := none
  createdAt : DateTime
  updatedAt : DateTime
  deriving DecidableEq

/-- **The `CHECK` constraint** of `media_import_requests`: the columns of a decision that a status
has, and those that it has not. -/
def MediaImportRequest.DecisionShape (r : MediaImportRequest) : Prop :=
  ((r.status = .preflightRequired ∨ r.status = .reviewRequired) ∧ r.approvedBy = none ∧
      r.approvedAt = none ∧ r.rejectedBy = none ∧ r.rejectedAt = none ∧ r.rejectionReason = none ∧
      r.revokedBy = none ∧ r.revokedAt = none ∧ r.revocationReason = none ∧
      r.decisionAcknowledgements = none) ∨
    (r.status = .approvedPlanOnly ∧ r.approvedBy ≠ none ∧ r.approvedAt ≠ none ∧
      r.rejectedBy = none ∧ r.rejectedAt = none ∧ r.rejectionReason = none ∧ r.revokedBy = none ∧
      r.revokedAt = none ∧ r.revocationReason = none ∧ r.decisionAcknowledgements ≠ none) ∨
    (r.status = .rejected ∧ r.approvedBy = none ∧ r.approvedAt = none ∧ r.rejectedBy ≠ none ∧
      r.rejectedAt ≠ none ∧ r.revokedBy = none ∧ r.revokedAt = none ∧ r.revocationReason = none ∧
      r.decisionAcknowledgements = none) ∨
    (r.status = .revoked ∧ r.approvedBy ≠ none ∧ r.approvedAt ≠ none ∧ r.rejectedBy = none ∧
      r.rejectedAt = none ∧ r.rejectionReason = none ∧ r.revokedBy ≠ none ∧ r.revokedAt ≠ none ∧
      r.decisionAcknowledgements ≠ none)

/-! ### Plans and pre-flights -/

/-- The document whose digest is the hash of a plan. -/
structure MediaImportPlanDocument where
  requestId : String
  downloadJobId : String
  mediaItemId : String
  executionId : String
  mode : String
  proposedOperation : MediaImportOperation
  sourceManifestHash : Digest MediaImportSourceManifest
  targetMappingHash : Digest MediaImportTargetMapping
  summarySnapshotHash : Digest MediaImportJobSummarySnapshot
  configFingerprint : Digest MediaImportConfigDocument
  sourceRetention : Bool
  overwriteAllowed : Bool
  deriving DecidableEq

structure MediaImportPlan extends MediaImportPlanDocument where
  id : String
  sourceManifest : JsonColumn MediaImportSourceManifest
  targetMapping : JsonColumn MediaImportTargetMapping
  jobSummarySnapshot : JsonColumn MediaImportJobSummarySnapshot
  planHash : Digest MediaImportPlanDocument
  createdBy : String
  createdAt : DateTime
  deriving DecidableEq

/-- The document whose digest is the hash of a pre-flight. -/
structure MediaImportPreflightDocument where
  requestId : String
  planId : String
  overallStatus : PreflightStatus
  inspectionHash : Digest MediaImportInspectionSnapshot
  resultHash : Digest MediaImportPreflightResult
  configFingerprint : Digest MediaImportConfigDocument
  checkedBy : String
  checkedAt : DateTime
  deriving DecidableEq

structure MediaImportPreflight extends MediaImportPreflightDocument where
  id : String
  inspectionSnapshot : JsonColumn MediaImportInspectionSnapshot
  result : JsonColumn MediaImportPreflightResult
  preflightHash : Digest MediaImportPreflightDocument
  createdAt : DateTime
  deriving DecidableEq

/-- A row of the audit, without its details. -/
structure MediaImportEvent where
  requestId : String
  eventType : String
  fromStatus : Option MediaImportStatus
  toStatus : MediaImportStatus
  actor : String
  deriving DecidableEq

/-! ### The database -/

instance : Keyed MediaImportRequest String := ⟨MediaImportRequest.id⟩
instance : Keyed MediaImportPlan String := ⟨MediaImportPlan.id⟩
instance : Keyed MediaImportPreflight String := ⟨MediaImportPreflight.id⟩

@[simp] theorem key_importRequest (r : MediaImportRequest) : Keyed.key r = r.id := rfl
@[simp] theorem key_importPlan (p : MediaImportPlan) : Keyed.key p = p.id := rfl
@[simp] theorem key_importPreflight (p : MediaImportPreflight) : Keyed.key p = p.id := rfl

/-- The database of the media imports: the tables that other parts of the program write, and their
own. -/
structure ImportDb where
  tables : Tables := {}
  media : Table MediaItem := ∅
  requests : Table MediaImportRequest := ∅
  plans : Table MediaImportPlan := ∅
  preflights : Table MediaImportPreflight := ∅
  events : List MediaImportEvent := []

end LibSeek.Models
