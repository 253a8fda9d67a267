/-
What holds of the stored import requests.

Every stored request has one plan, which verifies; every stored pre-flight is the judgement of an
inspection against the plan of its request, and verifies too.  With the shape of the decisions and
the one active request of a download this is an invariant of every operation.

Main definitions:

* `MediaImports.Judged` — a pre-flight that was made by judging an inspection against a plan;
* `MediaImports.Invariant` — **the invariant**.

Main results:

* `MediaImports.verifyMediaImportPlan_new`, `MediaImports.verifyMediaImportPreflight_new` — what is
  written verifies;
* `MediaImports.Invariant.step` — every step keeps the invariant;
* `MediaImports.Invariant.response` — the response of a stored request can be made.
-/

import LibSeek.MediaImports.Steps

set_option relaxedAutoImplicit false
set_option autoImplicit false

namespace LibSeek.MediaImports

open LibSeek.Core LibSeek.Lib LibSeek.Models LibSeek.Schemas LibSeek.Services

variable [UnicodeData]

/-! ### Verified plans -/

theorem verifyMediaImportPlan_eq_ok {plan : MediaImportPlan} {r : MediaImportRequest}
    {documents : PlanDocuments} :
    verifyMediaImportPlan plan r = .ok documents ↔
      planDocuments plan = some documents ∧
      (plan.mode = MEDIA_IMPORT_PLAN_MODE ∧ plan.sourceRetention = true ∧
        plan.overwriteAllowed = false ∧
        documents.manifest.sourceRootRef ≠ documents.mapping.targetRootRef) ∧
      (plan.sourceManifestHash = .sha256 documents.manifest ∧
        plan.targetMappingHash = .sha256 documents.mapping ∧
        plan.summarySnapshotHash = .sha256 documents.summary ∧
        plan.planHash = mediaImportPlanHash plan) ∧
      (plan.requestId = r.id ∧ plan.downloadJobId = r.downloadJobId ∧
        plan.mediaItemId = r.mediaItemId ∧ plan.executionId = r.executionId ∧
        documents.summary.downloadJobId = r.downloadJobId ∧
        documents.summary.mediaItemId = r.mediaItemId ∧
        documents.summary.executionId = r.executionId) ∧
      validateMappingSources documents.manifest documents.mapping = .ok () := by
  rw [verifyMediaImportPlan]
  simp only [bind_eq_ok, orRaise_eq_ok, ensure_eq_ok, pure_eq_ok]
  constructor
  · rintro ⟨found, hfound, -, hmode, -, hhashes, -, hbound, ⟨⟩, hsources, rfl⟩
    exact ⟨hfound, hmode, hhashes, hbound, hsources⟩
  · rintro ⟨hfound, hmode, hhashes, hbound, hsources⟩
    exact ⟨documents, hfound, (), hmode, (), hhashes, (), hbound, (), hsources, rfl⟩

/-- A plan that verifies for a request verifies for it whatever was decided. -/
theorem verifyMediaImportPlan_congr {plan : MediaImportPlan} {r r' : MediaImportRequest}
    {documents : PlanDocuments} (h : verifyMediaImportPlan plan r = .ok documents)
    (hid : r'.id = r.id) (hjob : r'.downloadJobId = r.downloadJobId)
    (hmedia : r'.mediaItemId = r.mediaItemId) (hexecution : r'.executionId = r.executionId) :
    verifyMediaImportPlan plan r' = .ok documents := by
  rw [verifyMediaImportPlan_eq_ok] at h ⊢
  rw [hid, hjob, hmedia, hexecution]
  exact h

omit [UnicodeData] in
/-- What a summary says of the rows that it is about. -/
theorem jobSummarySnapshot_eq_ok {bound : BoundEntities}
    {summary : MediaImportJobSummarySnapshot} (h : jobSummarySnapshot bound = .ok summary) :
    summary.valid = true ∧ summary.downloadJobId = bound.job.id ∧
      summary.mediaItemId = bound.media.id ∧ summary.executionId = bound.execution.id ∧
      summary.hnrStatus = bound.job.hnrStatus := by
  rw [jobSummarySnapshot] at h
  simp only [bind_eq_ok, orRaise_eq_ok, ensure_eq_ok, pure_eq_ok] at h
  obtain ⟨size, -, files, -, verifiedAt, -, -, hvalid, rfl⟩ := h
  exact ⟨hvalid, rfl, rfl, rfl, rfl⟩

/-- What was checked of a proposal. -/
theorem checkProposal_eq_ok {db : ImportDb} {request : MediaImportCreateRequest}
    {settings : MediaImportSettings} {bound : BoundEntities}
    {summary : MediaImportJobSummarySnapshot} {fingerprint : Digest MediaImportConfigDocument}
    (h : checkProposal db request settings = .ok (bound, summary, fingerprint)) :
    request.sourceManifest.sourceRootRef ≠ request.targetMapping.targetRootRef ∧
      validateMappingSources request.sourceManifest request.targetMapping = .ok () ∧
      jobSummarySnapshot bound = .ok summary ∧
      mediaImportConfigFingerprint settings = .ok fingerprint := by
  rw [checkProposal] at h
  simp only [bind_eq_ok, ensure_eq_ok, pure_eq_ok] at h
  obtain ⟨roots, -, -, -, found, -, -, -, -, hsource, -, htarget, ⟨⟩, hbindings, -, -, written,
    hsummary, print, hprint, heq⟩ := h
  obtain ⟨rfl, rfl, rfl⟩ := heq
  rw [validateProposalBindings] at hbindings
  simp only [bind_eq_ok, ensure_eq_ok] at hbindings
  obtain ⟨-, -, hsources⟩ := hbindings
  refine ⟨?_, hsources, hsummary, hprint⟩
  rw [hsource]
  exact htarget.symm

/-- **The plan of a new request verifies.** -/
theorem verifyMediaImportPlan_new {db : ImportDb} {request : MediaImportCreateRequest}
    {settings : MediaImportSettings} {bound : BoundEntities}
    {summary : MediaImportJobSummarySnapshot} {fingerprint : Digest MediaImportConfigDocument}
    (h : checkProposal db request settings = .ok (bound, summary, fingerprint)) (actor : String)
    (id id' : Uuid) (now : DateTime) :
    verifyMediaImportPlan
        (newImportPlan (createdRow bound actor id now) request summary fingerprint actor id' now)
        (createdRow bound actor id now) =
      .ok ⟨request.sourceManifest, request.targetMapping, summary⟩ := by
  obtain ⟨hroots, hsources, hsummary, -⟩ := checkProposal_eq_ok h
  obtain ⟨hvalid, hjob, hmedia, hexecution, -⟩ := jobSummarySnapshot_eq_ok hsummary
  rw [verifyMediaImportPlan_eq_ok]
  refine ⟨?_, ⟨rfl, rfl, rfl, hroots⟩, ⟨rfl, rfl, rfl, rfl⟩,
    ⟨rfl, rfl, rfl, rfl, hjob, hmedia, hexecution⟩, hsources⟩
  simp only [planDocuments, newImportPlan, JsonColumn.modelValidate_dump,
    request.sourceManifest_valid, request.targetMapping_valid, hvalid, Option.bind_eq_bind,
    Option.bind_some]

/-! ### Verified pre-flights -/

theorem evaluateInspection_eq_ok {plan : MediaImportPlan}
    {inspection : MediaImportInspectionSnapshot} {current : MediaImportJobSummarySnapshot}
    {status : ApprovalStatus} {checkedAt : DateTime} {result : MediaImportPreflightResult} :
    evaluateInspection plan inspection current status checkedAt = .ok result ↔
      ∃ documents required, planDocuments plan = some documents ∧
        requiredBytes documents.manifest documents.mapping = some required ∧
        result.valid = true ∧
        result =
          { overallStatus := importOverallStatus
              (inspectionChecks plan documents inspection current status required)
            checkedAt := checkedAt
            configFingerprint := plan.configFingerprint
            checks := inspectionChecks plan documents inspection current status required } := by
  rw [evaluateInspection]
  simp only [bind_eq_ok, orRaise_eq_ok, ensure_eq_ok, pure_eq_ok]
  constructor
  · rintro ⟨documents, hdocuments, required, hrequired, -, hvalid, rfl⟩
    exact ⟨documents, required, hdocuments, hrequired, hvalid, rfl⟩
  · rintro ⟨documents, required, hdocuments, hrequired, hvalid, rfl⟩
    exact ⟨documents, hdocuments, required, hrequired, (), hvalid, rfl⟩

omit [UnicodeData] in
theorem blockUnless_code (code : String) (condition : Bool) (passMessage blockMessage : String) :
    (blockUnless code condition passMessage blockMessage).code = code := by
  cases condition <;> rfl

omit [UnicodeData] in
theorem operationCapability_code (operation : MediaImportOperation)
    (inspection : MediaImportInspectionSnapshot) (required : ℕ) :
    (operationCapability operation inspection required).code = "OPERATION_CAPABILITY" := by
  unfold operationCapability
  cases operation with
  | hardlink =>
      rcases inspection.sameFilesystem with _ | same
      · rfl
      · cases same <;> rfl
  | copy =>
      rcases inspection.availableBytes with _ | available
      · rfl
      · dsimp only
        split <;> rfl

omit [UnicodeData] in
/-- Every inspection is judged by the same checks. -/
theorem inspectionChecks_codes (plan : MediaImportPlan) (documents : PlanDocuments)
    (inspection : MediaImportInspectionSnapshot) (current : MediaImportJobSummarySnapshot)
    (status : ApprovalStatus) (required : ℕ) :
    (inspectionChecks plan documents inspection current status required).map
      MediaImportPreflightCheck.code = MEDIA_IMPORT_PREFLIGHT_CHECK_CODES := by
  simp only [inspectionChecks, List.map_cons, List.map_nil, blockUnless_code,
    operationCapability_code]
  split <;> rfl

theorem verifyMediaImportPreflight_eq_ok {p : MediaImportPreflight} {plan : MediaImportPlan}
    {inspection : MediaImportInspectionSnapshot} :
    verifyMediaImportPreflight p plan = .ok inspection ↔
      p.inspectionSnapshot.modelValidate MediaImportInspectionSnapshot.valid = some inspection ∧
      ∃ result, p.result.modelValidate MediaImportPreflightResult.valid = some result ∧
        (p.inspectionHash = .sha256 inspection ∧ p.resultHash = .sha256 result ∧
          p.preflightHash = mediaImportPreflightHash p) ∧
        (p.requestId = plan.requestId ∧ p.planId = plan.id ∧
          p.configFingerprint = plan.configFingerprint ∧
          result.configFingerprint = p.configFingerprint ∧ result.checkedAt = p.checkedAt ∧
          result.overallStatus = p.overallStatus) ∧
        ((result.checks.map MediaImportPreflightCheck.code).Nodup ∧
          samePaths (result.checks.map MediaImportPreflightCheck.code)
            MEDIA_IMPORT_PREFLIGHT_CHECK_CODES = true) ∧
        importOverallStatus result.checks = result.overallStatus ∧
        verifyInspectionProposalBinding plan inspection = .ok () := by
  rw [verifyMediaImportPreflight]
  simp only [bind_eq_ok, orRaise_eq_ok, ensure_eq_ok, pure_eq_ok]
  constructor
  · rintro ⟨found, hfound, result, hresult, -, hhashes, -, hbound, -, hcodes, -, hoverall, ⟨⟩,
      hbinding, rfl⟩
    exact ⟨hfound, result, hresult, hhashes, hbound, hcodes, hoverall, hbinding⟩
  · rintro ⟨hfound, result, hresult, hhashes, hbound, hcodes, hoverall, hbinding⟩
    exact ⟨inspection, hfound, result, hresult, (), hhashes, (), hbound, (), hcodes, (), hoverall,
      (), hbinding, rfl⟩

/-- What was checked of an inspection. -/
theorem checkInspection_eq_ok {db : ImportDb} {r : MediaImportRequest}
    {inspection : MediaImportInspectionSnapshot} {settings : MediaImportSettings}
    {now : DateTime} {plan : MediaImportPlan} {fingerprint : Digest MediaImportConfigDocument}
    {result : MediaImportPreflightResult}
    (h : checkInspection db r inspection settings now = .ok (plan, fingerprint, result)) :
    (r.status = .preflightRequired ∨ r.status = .reviewRequired) ∧
      getImportPlan db r.id = .ok plan ∧ plan.configFingerprint = fingerprint ∧
      verifyInspectionProposalBinding plan inspection = .ok () ∧
      mediaImportConfigFingerprint settings = .ok fingerprint ∧
      (∃ documents, verifyMediaImportPlan plan r = .ok documents) ∧
      ∃ bound current, loadBoundEntities db r.downloadJobId = .ok bound ∧
        jobSummarySnapshot bound = .ok current ∧
        evaluateInspection plan inspection current bound.approval.status now = .ok result := by
  rw [checkInspection] at h
  simp only [bind_eq_ok, ensure_eq_ok, pure_eq_ok] at h
  obtain ⟨-, hstatus, found, hfound, documents, hverified, print, hconfig, -, hprint, -, -, bound,
    hbound, current, hcurrent, ⟨⟩, hbinding, judged, hjudged, heq⟩ := h
  obtain ⟨rfl, rfl, rfl⟩ := heq
  exact ⟨hstatus, hfound, hprint, hbinding, hconfig, ⟨documents, hverified⟩, bound, current, hbound,
    hcurrent, hjudged⟩

/-- A pre-flight that was made by judging an inspection against a plan, and that verifies. -/
structure Judged (plan : MediaImportPlan) (p : MediaImportPreflight)
    (inspection : MediaImportInspectionSnapshot) : Prop where
  valid : inspection.valid = true
  evaluated : ∃ result current status,
    evaluateInspection plan inspection current status p.checkedAt = .ok result ∧
      p.result = .dump result ∧ p.overallStatus = result.overallStatus
  verified : verifyMediaImportPreflight p plan = .ok inspection

/-- **The row of a new pre-flight verifies.** -/
theorem verifyMediaImportPreflight_new {db : ImportDb} {r : MediaImportRequest}
    {inspection : MediaImportInspectionSnapshot} {settings : MediaImportSettings}
    {now : DateTime} {plan : MediaImportPlan} {fingerprint : Digest MediaImportConfigDocument}
    {result : MediaImportPreflightResult} (hvalid : inspection.valid = true)
    (hplan : plan.requestId = r.id)
    (h : checkInspection db r inspection settings now = .ok (plan, fingerprint, result))
    (actor : String) (id : Uuid) :
    Judged plan (newImportPreflight r plan inspection result fingerprint actor id now)
      inspection := by
  obtain ⟨-, -, hprint, hbinding, -, -, bound, current, -, -, hjudged⟩ := checkInspection_eq_ok h
  refine ⟨hvalid, ⟨result, current, bound.approval.status, hjudged, rfl, rfl⟩, ?_⟩
  obtain ⟨documents, required, -, -, hresult, heq⟩ := evaluateInspection_eq_ok.mp hjudged
  have hcodes : result.checks.map MediaImportPreflightCheck.code =
      MEDIA_IMPORT_PREFLIGHT_CHECK_CODES := by
    rw [heq]
    exact inspectionChecks_codes plan documents inspection current _ required
  rw [verifyMediaImportPreflight_eq_ok]
  refine ⟨JsonColumn.modelValidate_dump hvalid, result, JsonColumn.modelValidate_dump hresult,
    ⟨rfl, rfl, rfl⟩, ⟨hplan.symm, rfl, hprint.symm, ?_, ?_, rfl⟩, ?_, ?_, hbinding⟩
  · rw [heq]
    exact hprint
  · rw [heq]
    rfl
  · rw [hcodes]
    decide
  · rw [heq]

/-! ### The invariant -/

/-- **The invariant** of the stored import requests. -/
structure Invariant (db : ImportDb) : Prop where
  shape : ∀ r ∈ db.requests, r.DecisionShape
  acknowledged : ∀ r ∈ db.requests,
    r.decisionAcknowledgements.all (fun a => a.parse.isSome) = true
  active : ∀ r ∈ db.requests, ∀ r' ∈ db.requests, isActiveImportStatus r.status = true →
    isActiveImportStatus r'.status = true → r.downloadJobId = r'.downloadJobId → r = r'
  planned : ∀ r ∈ db.requests, ∃ plan ∈ db.plans, plan.requestId = r.id ∧
    ∃ documents, verifyMediaImportPlan plan r = .ok documents
  plan_unique : db.plans.UniqueBy fun plan => plan.requestId
  judged : ∀ p ∈ db.preflights, ∃ plan ∈ db.plans, plan.requestId = p.requestId ∧
    ∃ inspection, Judged plan p inspection

/-- The plan of a request is the one that is found. -/
theorem Invariant.getImportPlan {db : ImportDb} (h : Invariant db) {requestId : String}
    {plan : MediaImportPlan} :
    Services.getImportPlan db requestId = .ok plan ↔ plan ∈ db.plans ∧ plan.requestId = requestId := by
  rw [Services.getImportPlan, orRaise_eq_ok]
  constructor
  · intro hfound
    exact ⟨List.mem_of_find?_eq_some hfound, by simpa using List.find?_some hfound⟩
  · rintro ⟨hmem, rfl⟩
    refine Table.find?_eq_some_of_unique hmem (by simp) ?_
    intro x hx hsame
    exact h.plan_unique x hx plan hmem (by simpa using hsame)

omit [UnicodeData] in
/-- A pre-flight that is found is a stored one of the request. -/
theorem latestOf_mem {l : List MediaImportPreflight} {p : MediaImportPreflight}
    (h : latestOf l = some p) : p ∈ l := by
  induction l generalizing p with
  | nil => cases h
  | cons q l ih =>
      rw [latestOf] at h
      cases hlatest : latestOf l with
      | none =>
          rw [hlatest] at h
          cases h
          exact List.mem_cons_self
      | some latest =>
          rw [hlatest] at h
          dsimp only at h
          split at h
          · cases h
            exact List.mem_cons_of_mem _ (ih hlatest)
          · cases h
            exact List.mem_cons_self

omit [UnicodeData] in
theorem latestPreflight_mem {db : ImportDb} {requestId : String} {p : MediaImportPreflight}
    (h : latestPreflight db requestId = some p) : p ∈ db.preflights ∧ p.requestId = requestId := by
  have hmem := List.mem_filter.mp (latestOf_mem h)
  exact ⟨hmem.1, by simpa using hmem.2⟩

/-- **The response of a stored request can be made.** -/
theorem Invariant.response {db : ImportDb} (h : Invariant db) {r : MediaImportRequest}
    (hr : r ∈ db.requests) : mediaImportRequestResponse db r = .ok () := by
  obtain ⟨plan, hplan, hid, documents, hverified⟩ := h.planned r hr
  have hfound := h.getImportPlan.mpr ⟨hplan, hid⟩
  have hacknowledged := h.acknowledged r hr
  rw [mediaImportRequestResponse]
  simp only [bind_eq_ok]
  refine ⟨plan, hfound, documents, hverified, ?_⟩
  cases hlatest : latestPreflight db r.id with
  | none => exact ensure_eq_ok.mpr hacknowledged
  | some p =>
      obtain ⟨hp, hpid⟩ := latestPreflight_mem hlatest
      obtain ⟨plan', hplan', hid', inspection, hjudged⟩ := h.judged p hp
      obtain rfl := h.plan_unique plan' hplan' plan hplan (hid'.trans (hpid.trans hid.symm))
      exact bind_eq_ok.mpr ⟨inspection, hjudged.verified, ensure_eq_ok.mpr hacknowledged⟩

/-! ### Steps keep it -/

/-- A row that takes the place of a stored one without becoming active and without a change of what
it is about keeps the invariant, if it has the shape of a decision. -/
theorem Invariant.saveRequest {db : ImportDb} (h : Invariant db) {r r' : MediaImportRequest}
    {preflights : Table MediaImportPreflight} {events : List MediaImportEvent}
    (hr : r ∈ db.requests) (hid : r'.id = r.id) (hjob : r'.downloadJobId = r.downloadJobId)
    (hmedia : r'.mediaItemId = r.mediaItemId) (hexecution : r'.executionId = r.executionId)
    (hactive : isActiveImportStatus r'.status = true → isActiveImportStatus r.status = true)
    (hshape : r'.DecisionShape)
    (hacknowledged : r'.decisionAcknowledgements.all (fun a => a.parse.isSome) = true)
    (hjudged : ∀ p ∈ preflights, ∃ plan ∈ db.plans, plan.requestId = p.requestId ∧
      ∃ inspection, Judged plan p inspection) :
    Invariant { db with requests := db.requests.save r', preflights, events } := by
  -- what an active row of the new table is in the old one
  have hold : ∀ x ∈ db.requests.save r', isActiveImportStatus x.status = true →
      ∃ y ∈ db.requests, y.id = x.id ∧ isActiveImportStatus y.status = true ∧
        y.downloadJobId = x.downloadJobId := by
    intro x hx hxactive
    rcases Table.mem_save.mp hx with rfl | ⟨hx, -⟩
    · exact ⟨r, hr, hid.symm, hactive hxactive, hjob.symm⟩
    · exact ⟨x, hx, rfl, hxactive, rfl⟩
  exact
    { shape := Table.forall_mem_save h.shape hshape
      acknowledged := Table.forall_mem_save h.acknowledged hacknowledged
      active := by
        intro x hx y hy hxactive hyactive hsame
        obtain ⟨x', hx', hxid, hx'active, hxjob⟩ := hold x hx hxactive
        obtain ⟨y', hy', hyid, hy'active, hyjob⟩ := hold y hy hyactive
        obtain rfl := h.active x' hx' y' hy' hx'active hy'active
          (hxjob.trans (hsame.trans hyjob.symm))
        exact Table.eq_of_key_eq hx hy (hxid.symm.trans hyid)
      planned := by
        refine Table.forall_mem_save h.planned ?_
        obtain ⟨plan, hplan, hpid, documents, hverified⟩ := h.planned r hr
        exact ⟨plan, hplan, hpid.trans hid.symm, documents,
          verifyMediaImportPlan_congr hverified hid hjob hmedia hexecution⟩
      plan_unique := h.plan_unique
      judged := hjudged }

omit [UnicodeData] in
/-- The shape of the decision of a row that was not decided. -/
theorem undecided {r : MediaImportRequest} (h : r.DecisionShape)
    (hstatus : r.status = .preflightRequired ∨ r.status = .reviewRequired) :
    r.approvedBy = none ∧ r.approvedAt = none ∧ r.rejectedBy = none ∧ r.rejectedAt = none ∧
      r.rejectionReason = none ∧ r.revokedBy = none ∧ r.revokedAt = none ∧
      r.revocationReason = none ∧ r.decisionAcknowledgements = none := by
  rcases h with ⟨-, h⟩ | ⟨happroved, -⟩ | ⟨hrejected, -⟩ | ⟨hrevoked, -⟩
  · exact h
  · rw [happroved] at hstatus
    rcases hstatus with h | h <;> cases h
  · rw [hrejected] at hstatus
    rcases hstatus with h | h <;> cases h
  · rw [hrevoked] at hstatus
    rcases hstatus with h | h <;> cases h

/-- **Every step keeps the invariant.** -/
theorem Invariant.step {db db' : ImportDb} {op : Operation} (h : Invariant db)
    (hstep : Step db op db') : Invariant db' := by
  cases hstep with
  | @created request settings rawActor actor newIds now bound summary fingerprint events checked
      fresh inactive unplanned freshPlan =>
      have hverified := verifyMediaImportPlan_new checked actor newIds.1 newIds.2 now
      -- the service has looked for an active request of the job
      have hnoactive : ∀ x ∈ db.requests, x.downloadJobId = bound.job.id →
          ¬ isActiveImportStatus x.status = true := by
        intro x hx hjob hactive
        have hnone := List.find?_eq_none.mp inactive x hx
        exact hnone (by simp [hjob, hactive])
      have hplanned : ∀ plan ∈ db.plans,
          plan ∈ db.plans.save (newImportPlan (createdRow bound actor newIds.1 now) request summary
            fingerprint actor newIds.2 now) := by
        intro plan hplan
        exact Table.mem_save_of_ne hplan (Table.get?_eq_none.mp freshPlan plan hplan)
      exact
        { shape := by
            refine Table.forall_mem_save h.shape ?_
            exact Or.inl ⟨Or.inl rfl, rfl, rfl, rfl, rfl, rfl, rfl, rfl, rfl, rfl⟩
          acknowledged := Table.forall_mem_save h.acknowledged rfl
          active := by
            intro x hx y hy hxactive hyactive hsame
            rcases Table.mem_save.mp hx with rfl | ⟨hx, -⟩ <;>
              rcases Table.mem_save.mp hy with rfl | ⟨hy, -⟩
            · rfl
            · exact absurd hyactive (hnoactive y hy hsame.symm)
            · exact absurd hxactive (hnoactive x hx hsame)
            · exact h.active x hx y hy hxactive hyactive hsame
          planned := by
            refine Table.forall_mem_save ?_ ?_
            · intro r hr
              obtain ⟨plan, hplan, hrest⟩ := h.planned r hr
              exact ⟨plan, hplanned plan hplan, hrest⟩
            · exact ⟨_, Table.mem_save_self _ _, rfl, _, hverified⟩
          plan_unique := h.plan_unique.save_new unplanned
          judged := by
            intro p hp
            obtain ⟨plan, hplan, hrest⟩ := h.judged p hp
            exact ⟨plan, hplanned plan hplan, hrest⟩ }
  | @preflighted requestId inspection valid settings rawActor actor newId now r plan fingerprint
      result events found checked fresh =>
      have hr := Table.mem_of_get?_eq_some found
      obtain ⟨hstatus, hfound, -⟩ := checkInspection_eq_ok checked
      obtain ⟨hplan, hid⟩ := h.getImportPlan.mp hfound
      have hundecided := undecided (h.shape r hr) hstatus
      -- the verdict decides only between the two statuses that are still open
      have hmoved : (preflightedRow r result.overallStatus now).status = .preflightRequired ∨
          (preflightedRow r result.overallStatus now).status = .reviewRequired := by
        rw [preflightedRow]
        dsimp only
        split
        · exact Or.inr rfl
        · exact Or.inl rfl
      refine h.saveRequest hr rfl rfl rfl rfl ?_ (Or.inl ⟨hmoved, hundecided⟩)
        (h.acknowledged r hr) ?_
      · rcases hstatus with hstatus | hstatus <;> exact fun _ => by rw [hstatus]; rfl
      · refine Table.forall_mem_save h.judged ?_
        exact ⟨plan, hplan, hid, inspection,
          verifyMediaImportPreflight_new valid hid checked actor newId⟩
  | @approved requestId decision settings rawActor actor now r events found checked =>
      have hr := Table.mem_of_get?_eq_some found
      -- a request is approved from one status only, and nothing has been decided there
      have hstatus : r.status = .reviewRequired := by
        rw [checkApproval] at checked
        obtain ⟨⟨⟩, hstatus, -⟩ := bind_eq_ok.mp checked
        exact ensure_eq_ok.mp hstatus
      obtain ⟨-, -, h₃, h₄, h₅, h₆, h₇, h₈, -⟩ := undecided (h.shape r hr) (Or.inr hstatus)
      refine h.saveRequest hr rfl rfl rfl rfl (fun _ => by rw [hstatus]; rfl) ?_ rfl h.judged
      exact Or.inr (Or.inl ⟨rfl, nofun, nofun, h₃, h₄, h₅, h₆, h₇, h₈, nofun⟩)
  | @rejected requestId rawReason reason settings rawActor actor now r events found status =>
      have hr := Table.mem_of_get?_eq_some found
      obtain ⟨h₁, h₂, -, -, -, h₆, h₇, h₈, h₉⟩ := undecided (h.shape r hr) status
      refine h.saveRequest hr rfl rfl rfl rfl nofun ?_ (h.acknowledged r hr) h.judged
      exact Or.inr (Or.inr (Or.inl ⟨rfl, h₁, h₂, nofun, nofun, h₆, h₇, h₈, h₉⟩))
  | @revoked requestId rawReason reason settings rawActor actor now r events found status =>
      have hr := Table.mem_of_get?_eq_some found
      -- what was approved stays recorded when the approval is revoked
      have happroved : r.approvedBy ≠ none ∧ r.approvedAt ≠ none ∧ r.rejectedBy = none ∧
          r.rejectedAt = none ∧ r.rejectionReason = none ∧ r.decisionAcknowledgements ≠ none := by
        rcases h.shape r hr with ⟨hopen, -⟩ | ⟨-, h₁, h₂, h₃, h₄, h₅, -, -, -, h₉⟩ |
          ⟨hrejected, -⟩ | ⟨hrevoked, -⟩
        · rw [status] at hopen
          rcases hopen with h | h <;> cases h
        · exact ⟨h₁, h₂, h₃, h₄, h₅, h₉⟩
        · rw [status] at hrejected
          cases hrejected
        · rw [status] at hrevoked
          cases hrevoked
      obtain ⟨h₁, h₂, h₃, h₄, h₅, h₉⟩ := happroved
      refine h.saveRequest hr rfl rfl rfl rfl nofun ?_ (h.acknowledged r hr) h.judged
      exact Or.inr (Or.inr (Or.inr ⟨rfl, h₁, h₂, h₃, h₄, h₅, nofun, nofun, h₉⟩))
  | elsewhere =>
      exact
        { shape := h.shape
          acknowledged := h.acknowledged
          active := h.active
          planned := h.planned
          plan_unique := h.plan_unique
          judged := h.judged }

end LibSeek.MediaImports
