/-
What stands behind an approved import.

An approval rests on the latest pre-flight of its request.  That a verdict was good means that
every one of its checks was, so that the inspection found the proposed files, every one of them as
proposed, and none of the targets; and the checks of the approval itself tie the verdict to the
plan, the download and the configuration of the moment.

Main definitions:

* `MediaImports.Passed` — what an inspection that passes has found;
* `MediaImports.Recorded` — a pre-flight with the operation of the run that recorded it;
* `MediaImports.Evidence`, `MediaImports.Justified` — **what stands behind an approval**.

Main results:

* `MediaImports.passed_of_evaluateInspection` — a good verdict means that the inspection passed;
* `MediaImports.recorded_run` — every pre-flight of a run was recorded in it;
* `MediaImports.approvedImport_run` — **every approved request of a run is justified in it**.
-/

import LibSeek.Lib.Provenance
import LibSeek.MediaImports.Runs
import LibSeek.Services.Decisions
import Mathlib.Data.Prod.Lex

set_option relaxedAutoImplicit false
set_option autoImplicit false

namespace LibSeek.MediaImports

open LibSeek.Core LibSeek.Lib LibSeek.Models LibSeek.Schemas LibSeek.Services

/-! ### Dictionaries of sizes and sets of paths -/

/-- In a dictionary without a repeated path the value of a path is that of its one entry. -/
theorem sizeAt_eq_some {sizes : List (String × ℕ)} (h : (sizes.map Prod.fst).Nodup) {path : String}
    {size : ℕ} : sizeAt sizes path = some size ↔ (path, size) ∈ sizes := by
  rw [sizeAt, Option.map_eq_some_iff]
  constructor
  · rintro ⟨⟨path', size'⟩, hfound, rfl⟩
    obtain rfl : path' = path := by simpa using List.find?_some hfound
    exact List.mem_reverse.mp (List.mem_of_find?_eq_some hfound)
  · intro hmem
    cases hfound : sizes.reverse.find? fun entry => entry.1 = path with
    | none =>
        have hnone := List.find?_eq_none.mp hfound (path, size) (List.mem_reverse.mpr hmem)
        simp at hnone
    | some entry =>
        refine ⟨entry, rfl, ?_⟩
        have hpath : entry.1 = path := by simpa using List.find?_some hfound
        have hentry := List.mem_reverse.mp (List.mem_of_find?_eq_some hfound)
        have hsame := List.inj_on_of_nodup_map h hentry hmem hpath
        rw [hsame]

/-- Equal dictionaries without repeated paths have the same entries. -/
theorem perm_of_sameSizes {sizes sizes' : List (String × ℕ)} (h : sameSizes sizes sizes' = true)
    (hnodup : (sizes.map Prod.fst).Nodup) (hnodup' : (sizes'.map Prod.fst).Nodup) :
    sizes.Perm sizes' := by
  rw [sameSizes, List.all_eq_true] at h
  have hsame : ∀ path ∈ (sizes ++ sizes').map Prod.fst, sizeAt sizes path = sizeAt sizes' path :=
    fun path hpath => by simpa using h path hpath
  rw [List.perm_ext_iff_of_nodup (List.Nodup.of_map _ hnodup) (List.Nodup.of_map _ hnodup')]
  rintro ⟨path, size⟩
  rw [← sizeAt_eq_some hnodup, ← sizeAt_eq_some hnodup']
  constructor
  · intro hmem
    have hin := List.mem_append_left sizes' ((sizeAt_eq_some hnodup).mp hmem)
    rw [← hsame path (List.mem_map_of_mem hin), hmem]
  · intro hmem
    have hin := List.mem_append_right sizes ((sizeAt_eq_some hnodup').mp hmem)
    rw [hsame path (List.mem_map_of_mem hin), hmem]

/-- Equal sets, as lists without repetition, have the same members. -/
theorem perm_of_samePaths {paths paths' : List String} (h : samePaths paths paths' = true)
    (hnodup : paths.Nodup) (hnodup' : paths'.Nodup) : paths.Perm paths' := by
  rw [samePaths, Bool.and_eq_true, List.all_eq_true, List.all_eq_true] at h
  rw [List.perm_ext_iff_of_nodup hnodup hnodup']
  intro path
  constructor
  · intro hmem
    simpa using h.1 path hmem
  · intro hmem
    simpa using h.2 path hmem

/-! ### Verdicts -/

/-- No check is more severe than the verdict. -/
theorem statusSeverity_le_importOverallStatus {checks : List MediaImportPreflightCheck} :
    ∀ c ∈ checks, statusSeverity c.status ≤ statusSeverity (importOverallStatus checks) := by
  have hfold : ∀ (checks : List MediaImportPreflightCheck) (start : PreflightStatus),
      let worst := checks.foldl (fun worst check =>
        if statusSeverity worst < statusSeverity check.status then check.status else worst) start
      statusSeverity start ≤ statusSeverity worst ∧
        ∀ c ∈ checks, statusSeverity c.status ≤ statusSeverity worst := by
    intro checks
    induction checks with
    | nil => exact fun start => ⟨le_refl _, fun c hc => absurd hc List.not_mem_nil⟩
    | cons check checks ih =>
        intro start
        rw [List.foldl_cons]
        obtain ⟨hstart, hrest⟩ :=
          ih (if statusSeverity start < statusSeverity check.status then check.status else start)
        have hstep : statusSeverity start ≤ statusSeverity
            (if statusSeverity start < statusSeverity check.status then check.status else start) ∧
            statusSeverity check.status ≤ statusSeverity
              (if statusSeverity start < statusSeverity check.status then check.status
                else start) := by
          split <;> omega
        refine ⟨hstep.1.trans hstart, ?_⟩
        intro c hc
        rcases List.mem_cons.mp hc with rfl | hc
        · exact hstep.2.trans hstart
        · exact hrest c hc
  exact (hfold checks .pass).2

/-- A check that blocks unless a condition holds does not block a good verdict. -/
theorem condition_of_blockUnless {checks : List MediaImportPreflightCheck} {code : String}
    {condition : Bool} {passMessage blockMessage : String}
    (h : importOverallStatus checks = .pass ∨ importOverallStatus checks = .warning)
    (hmem : blockUnless code condition passMessage blockMessage ∈ checks) : condition = true := by
  have hle := statusSeverity_le_importOverallStatus _ hmem
  cases condition with
  | true => rfl
  | false =>
      have hblocked : statusSeverity .blocked ≤ statusSeverity (importOverallStatus checks) := hle
      rcases h with h | h <;> rw [h] at hblocked <;> exact absurd hblocked (by decide)

/-! ### What an inspection has found -/

/-- **What an inspection that passes has found**: the proposed files below the proposed root with
the proposed sizes, every one of them complete and a regular file and no link, none of the proposed
targets, and what the operation needs of the file systems. -/
structure Passed (plan : MediaImportPlan) (documents : PlanDocuments)
    (inspection : MediaImportInspectionSnapshot) : Prop where
  sourceRoot : inspection.sourceRootRef = documents.manifest.sourceRootRef
  sources : (inspectedSources inspection).Perm (proposedSources documents.manifest)
  targetRoot : inspection.targetRootRef = documents.mapping.targetRootRef
  targets : (inspectedTargets inspection).Perm (proposedTargets documents.mapping)
  sourceFiles : ∀ f ∈ inspection.sourceFiles,
    f.exists = true ∧ f.isRegularFile = true ∧ f.isSymlink = false ∧ f.complete = true
  targetFiles : ∀ f ∈ inspection.targetFiles, f.exists = false
  hardlink : plan.proposedOperation = .hardlink → inspection.sameFilesystem = some true
  copy : plan.proposedOperation = .copy → ∃ required available,
    requiredBytes documents.manifest documents.mapping = some required ∧
      inspection.availableBytes = some available ∧ required ≤ available

/-- A capability that does not spoil a good verdict is there. -/
theorem capability_of_overall (plan : MediaImportPlan)
    (inspection : MediaImportInspectionSnapshot) (required : ℕ)
    {checks : List MediaImportPreflightCheck}
    (h : importOverallStatus checks = .pass ∨ importOverallStatus checks = .warning)
    (hmem : operationCapability plan.proposedOperation inspection required ∈ checks) :
    (plan.proposedOperation = .hardlink → inspection.sameFilesystem = some true) ∧
      (plan.proposedOperation = .copy → ∃ available, inspection.availableBytes = some available ∧
        required ≤ available) := by
  -- the overall status is no less severe than that of any check
  have hle := statusSeverity_le_importOverallStatus _ hmem
  have hgood : statusSeverity (operationCapability plan.proposedOperation inspection
      required).status ≤ 1 := by
    refine hle.trans ?_
    rcases h with h | h <;> rw [h] <;> decide
  constructor
  · intro hoperation
    rw [hoperation, operationCapability] at hgood
    cases hsame : inspection.sameFilesystem with
    | none =>
        rw [hsame] at hgood
        exact absurd hgood (by decide)
    | some same =>
        cases same with
        | true => rfl
        | false =>
            rw [hsame] at hgood
            exact absurd hgood (by decide)
  · intro hoperation
    rw [hoperation, operationCapability] at hgood
    cases havailable : inspection.availableBytes with
    | none =>
        rw [havailable] at hgood
        have hunknown : statusSeverity .unknown ≤ 1 := hgood
        exact absurd hunknown (by decide)
    | some available =>
        rw [havailable] at hgood
        dsimp only at hgood
        by_cases hless : available < required
        · rw [if_pos hless] at hgood
          exact absurd hgood (by decide)
        · exact ⟨available, rfl, not_lt.mp hless⟩

section Imports

variable [UnicodeData]

/-- The documents of a plan are valid. -/
theorem valid_of_planDocuments {plan : MediaImportPlan} {documents : PlanDocuments}
    (h : planDocuments plan = some documents) :
    documents.manifest.valid = true ∧ documents.mapping.valid = true := by
  rw [planDocuments] at h
  simp only [Option.bind_eq_bind, Option.bind_eq_some_iff, Option.some.injEq] at h
  obtain ⟨manifest, hmanifest, mapping, hmapping, summary, -, rfl⟩ := h
  exact ⟨JsonColumn.valid_of_modelValidate hmanifest, JsonColumn.valid_of_modelValidate hmapping⟩

/-- The paths of valid documents do not repeat. -/
theorem nodup_of_valid {documents : PlanDocuments} {inspection : MediaImportInspectionSnapshot}
    (hmanifest : documents.manifest.valid = true) (hmapping : documents.mapping.valid = true)
    (hinspection : inspection.valid = true) :
    ((proposedSources documents.manifest).map Prod.fst).Nodup ∧
      (proposedTargets documents.mapping).Nodup ∧
      ((inspectedSources inspection).map Prod.fst).Nodup ∧
      (inspectedTargets inspection).Nodup := by
  rw [MediaImportSourceManifest.valid, Bool.and_eq_true] at hmanifest
  simp only [MediaImportTargetMapping.valid, uniquePaths, Bool.and_eq_true,
    decide_eq_true_eq] at hmapping
  simp only [MediaImportInspectionSnapshot.valid, Bool.and_eq_true] at hinspection
  obtain ⟨⟨⟨-, hsources⟩, htargets⟩, -⟩ := hinspection
  refine ⟨?_, hmapping.2.1.1, ?_, nodup_of_validPaths htargets⟩
  · rw [proposedSources, List.map_map]
    exact nodup_of_validPaths hmanifest.2
  · rw [inspectedSources, List.map_map]
    exact nodup_of_validPaths hsources

/-- **A good verdict means that the inspection passed**, and that the summary of the download was
still that of the plan. -/
theorem passed_of_evaluateInspection {plan : MediaImportPlan}
    {inspection : MediaImportInspectionSnapshot} {current : MediaImportJobSummarySnapshot}
    {status : ApprovalStatus} {checkedAt : DateTime} {result : MediaImportPreflightResult}
    {documents : PlanDocuments} (hvalid : inspection.valid = true)
    (hdocuments : planDocuments plan = some documents)
    (h : evaluateInspection plan inspection current status checkedAt = .ok result)
    (hgood : result.overallStatus = .pass ∨ result.overallStatus = .warning) :
    Passed plan documents inspection ∧ Digest.sha256 current = plan.summarySnapshotHash := by
  obtain ⟨found, required, hfound, hrequired, -, rfl⟩ := evaluateInspection_eq_ok.mp h
  obtain rfl : found = documents := Option.some.inj (hfound.symm.trans hdocuments)
  obtain ⟨hmanifest, hmapping⟩ := valid_of_planDocuments hdocuments
  obtain ⟨hsources, htargets, hinspected, hlooked⟩ := nodup_of_valid hmanifest hmapping hvalid
  dsimp only at hgood
  -- every condition of the checks, in their order
  have hsummary := condition_of_blockUnless hgood List.mem_cons_self
  have hsource := condition_of_blockUnless hgood (List.mem_of_getElem? (i := 2) rfl)
  have hsafe := condition_of_blockUnless hgood (List.mem_of_getElem? (i := 3) rfl)
  have hcomplete := condition_of_blockUnless hgood (List.mem_of_getElem? (i := 4) rfl)
  have htarget := condition_of_blockUnless hgood (List.mem_of_getElem? (i := 5) rfl)
  have hfree := condition_of_blockUnless hgood (List.mem_of_getElem? (i := 6) rfl)
  obtain ⟨hhardlink, hcopy⟩ := capability_of_overall plan inspection required hgood
    (List.mem_of_getElem? (i := 7) rfl)
  rw [sourceBinding, Bool.and_eq_true, decide_eq_true_eq] at hsource
  rw [targetBinding, Bool.and_eq_true, decide_eq_true_eq] at htarget
  rw [Bool.and_eq_true, List.all_eq_true] at hsafe hcomplete hfree
  simp only [Bool.and_eq_true, decide_eq_true_eq] at hsummary
  refine ⟨?_, hsummary.1.1.1.1⟩
  exact
    { sourceRoot := hsource.1
      sources := perm_of_sameSizes hsource.2 hinspected hsources
      targetRoot := htarget.1
      targets := perm_of_samePaths htarget.2 hlooked htargets
      sourceFiles := by
        intro f hf
        have hfile := hsafe.2 f hf
        simp only [Bool.and_eq_true, Bool.not_eq_true'] at hfile
        exact ⟨hfile.1.1, hfile.1.2, hfile.2, hcomplete.2 f hf⟩
      targetFiles := fun f hf => by simpa using hfree.2 f hf
      hardlink := hhardlink
      copy := by
        intro hoperation
        obtain ⟨available, havailable, hle⟩ := hcopy hoperation
        exact ⟨required, available, hrequired, havailable, hle⟩ }

/-! ### Where the rows come from -/

/-- A plan is never changed or removed. -/
theorem Step.plan_mem {db db' : ImportDb} {op : Operation} (h : Step db op db')
    {plan : MediaImportPlan} (hplan : plan ∈ db.plans) : plan ∈ db'.plans := by
  cases h with
  | created checked fresh inactive unplanned freshPlan =>
      exact Table.mem_save_of_ne hplan (Table.get?_eq_none.mp freshPlan plan hplan)
  | preflighted found checked fresh => exact hplan
  | approved found checked => exact hplan
  | rejected found status => exact hplan
  | revoked found status => exact hplan
  | elsewhere => exact hplan

theorem Invariant.plan_run {db : ImportDb} (h : Invariant db) {plan : MediaImportPlan}
    (hplan : plan ∈ db.plans) (ops : List Operation) : plan ∈ (MediaImports.run db ops).plans :=
  run_induction h hplan (fun _ _ _ _ hmem hstep => hstep.plan_mem hmem) ops

/-- **What a run has that its start had not, one of its steps brought.** -/
theorem Invariant.run_brought {start : ImportDb} (h : Invariant start) (P : ImportDb → Prop)
    {ops : List Operation} (hstart : ¬ P start) (hend : P (MediaImports.run start ops)) :
    ∃ earlier op later db', ops = earlier ++ op :: later ∧
      ¬ P (MediaImports.run start earlier) ∧ P db' ∧
      Step (MediaImports.run start earlier) op db' := by
  obtain ⟨earlier, op, later, heq, hbefore, hafter⟩ := foldl_brought _ hstart hend
  refine ⟨earlier, op, later, _, heq, hbefore, hafter, ?_⟩
  rcases (h.run earlier).perform op with ⟨e, -, hsame⟩ | ⟨-, hstep⟩
  · rw [MediaImports.run] at hsame
    rw [hsame] at hafter
    exact absurd hafter hbefore
  · exact hstep

/-- **A pre-flight with the operation of the run that recorded it**: the plan, the configuration
and the summary of the download that were checked then, and the verdict on the inspection. -/
def Recorded (start : ImportDb) (ops : List Operation) (plan : MediaImportPlan)
    (p : MediaImportPreflight) (inspection : MediaImportInspectionSnapshot)
    (current : MediaImportJobSummarySnapshot) : Prop :=
  ∃ earlier later valid settings actor newId,
    ops = earlier ++
      .preflight plan.requestId inspection valid settings actor newId p.checkedAt :: later ∧
    plan ∈ (run start earlier).plans ∧
    mediaImportConfigFingerprint settings = .ok plan.configFingerprint ∧
    ∃ bound result, loadBoundEntities (run start earlier) plan.downloadJobId = .ok bound ∧
      jobSummarySnapshot bound = .ok current ∧
      evaluateInspection plan inspection current bound.approval.status p.checkedAt = .ok result ∧
      p.result = .dump result ∧ p.overallStatus = result.overallStatus ∧
      p.inspectionSnapshot = .dump inspection

/-- **Every pre-flight of a run was recorded in it**, for the one plan of its request. -/
theorem recorded_run (tables : Tables) (media : Table Models.MediaItem) (ops : List Operation)
    {p : MediaImportPreflight} (hp : p ∈ (run (noImports tables media) ops).preflights)
    {plan : MediaImportPlan} (hplan : plan ∈ (run (noImports tables media) ops).plans)
    (hrequest : plan.requestId = p.requestId) :
    ∃ inspection current, inspection.valid = true ∧
      Recorded (noImports tables media) ops plan p inspection current := by
  obtain ⟨earlier, op, later, db', rfl, hbefore, hafter, hstep⟩ :=
    (invariant_noImports tables media).run_brought (fun db => p ∈ db.preflights)
      (Table.notMem_empty p) hp
  have hrun := invariant_run tables media earlier
  cases hstep with
  | @preflighted requestId inspection valid settings rawActor actor newId now r plan' fingerprint
      result events hr checked fresh =>
      obtain ⟨-, hfound, hprint, -, hconfig, ⟨documents, hverified⟩, bound, current, hbound,
        hcurrent, hjudged⟩ := checkInspection_eq_ok checked
      obtain ⟨hmem, hid⟩ := hrun.getImportPlan.mp hfound
      obtain ⟨-, -, -, ⟨-, hjob, -⟩, -⟩ := verifyMediaImportPlan_eq_ok.mp hverified
      rcases Table.mem_save.mp hafter with rfl | ⟨hold, -⟩
      · -- the plan of that moment is still the plan of the request
        have hkept := (invariant_run tables media _).plan_unique plan' ?_ plan hplan
          (hid.trans hrequest.symm)
        · subst hkept
          rw [← hjob] at hbound
          have hkey : r.id = requestId := Table.key_of_get?_eq_some hr
          refine ⟨inspection, current, valid, earlier, later, valid, settings, rawActor, newId, ?_,
            hmem, ?_, bound, result, hbound, hcurrent, hjudged, rfl, rfl, rfl⟩
          · rw [hid, hkey]
            rfl
          · rw [hprint]
            exact hconfig
        · rw [run_append]
          exact hrun.plan_run hmem _
      · exact absurd hold hbefore
  | created checked fresh inactive unplanned freshPlan => exact absurd hafter hbefore
  | approved found checked => exact absurd hafter hbefore
  | rejected found status => exact absurd hafter hbefore
  | revoked found status => exact absurd hafter hbefore
  | elsewhere => exact absurd hafter hbefore

/-! ### The latest pre-flight -/

omit [UnicodeData] in
/-- The order of the latest first is that of the times of creation, and of the keys among equal
times. -/
theorem isLater_iff {p q : MediaImportPreflight} :
    isLater p q = true ↔ toLex (q.createdAt, q.id) < toLex (p.createdAt, p.id) := by
  rw [Prod.Lex.toLex_lt_toLex, isLater, Bool.or_eq_true, Bool.and_eq_true, decide_eq_true_eq,
    decide_eq_true_eq, decide_eq_true_eq]

omit [UnicodeData] in
/-- **No pre-flight is later than the one that is found.** -/
theorem latestOf_max {l : List MediaImportPreflight} {p : MediaImportPreflight}
    (h : latestOf l = some p) : ∀ q ∈ l, isLater q p = false := by
  induction l generalizing p with
  | nil => exact fun q hq => absurd hq List.not_mem_nil
  | cons first rest ih =>
      intro q hq
      rw [Bool.eq_false_iff, ne_eq, isLater_iff, not_lt]
      rw [latestOf] at h
      -- the first is compared with the latest of the rest
      cases hlatest : latestOf rest with
      | none =>
          rw [hlatest] at h
          cases h
          rcases List.mem_cons.mp hq with rfl | hq
          · exact le_refl _
          · cases rest with
            | nil => exact absurd hq List.not_mem_nil
            | cons second rest =>
                rw [latestOf] at hlatest
                split at hlatest
                · cases hlatest
                · split at hlatest <;> cases hlatest
      | some latest =>
          have hmax : ∀ q ∈ rest,
              toLex (q.createdAt, q.id) ≤ toLex (latest.createdAt, latest.id) := by
            intro q hq
            have hnot := ih hlatest q hq
            rwa [Bool.eq_false_iff, ne_eq, isLater_iff, not_lt] at hnot
          rw [hlatest] at h
          dsimp only at h
          by_cases hlater : isLater latest first = true
          · rw [if_pos hlater] at h
            cases h
            rcases List.mem_cons.mp hq with rfl | hq
            · exact le_of_lt (isLater_iff.mp hlater)
            · exact hmax q hq
          · rw [if_neg hlater] at h
            cases h
            rw [isLater_iff, not_lt] at hlater
            rcases List.mem_cons.mp hq with rfl | hq
            · exact le_refl _
            · exact (hmax q hq).trans hlater

/-! ### The evidence -/

/-- **What stands behind the approval of a request**, at the database `db` which an approval at the
time `now` finds after the operations `ops`. -/
structure Evidence (start : ImportDb) (ops : List Operation) (r : MediaImportRequest)
    (decision : MediaImportApproveRequest) (settings : MediaImportSettings) (now : DateTime)
    (plan : MediaImportPlan) (documents : PlanDocuments) (p : MediaImportPreflight)
    (inspection : MediaImportInspectionSnapshot) : Prop where
  /-- The plan is the one of the request, and verifies. -/
  planned : plan ∈ (run start ops).plans ∧ verifyMediaImportPlan plan r = .ok documents
  /-- The pre-flight is the latest one of the request. -/
  latest : p ∈ (run start ops).preflights ∧ p.requestId = r.id ∧
    ∀ q ∈ (run start ops).preflights, q.requestId = r.id → isLater q p = false
  /-- It verifies, and an earlier operation recorded it, on the same plan, configuration and summary
  of the download. -/
  verified : verifyMediaImportPreflight p plan = .ok inspection
  recorded : Recorded start ops plan p inspection documents.summary
  passable : p.overallStatus = .pass ∨ p.overallStatus = .warning
  passed : Passed plan documents inspection
  /-- The configuration is that of the plan and of the pre-flight. -/
  configuration : mediaImportConfigFingerprint settings = .ok plan.configFingerprint ∧
    p.configFingerprint = plan.configFingerprint
  /-- The download is ready, and its summary is that of the plan. -/
  download : ∃ bound, loadBoundEntities (run start ops) r.downloadJobId = .ok bound ∧
    requireDownloadReady bound.job bound.execution bound.approval = .ok () ∧
    jobSummarySnapshot bound = .ok documents.summary ∧
    (bound.job.hnrStatus = .satisfied ∨ decision.acknowledgesHnr = true)
  /-- The inspection is not older than the settings allow. -/
  age : inspection.inspectedAt ≤ p.checkedAt ∧ p.checkedAt ≤ now ∧
    now - inspection.inspectedAt ≤ seconds settings.mediaImportPreflightMaxAgeSeconds
  acknowledged : decision.acknowledgesPlanOnly = true ∧
    decision.acknowledgesSourceRetention = true ∧ decision.acknowledgesNoOverwrite = true

/-- What was checked of an approval. -/
theorem checkApproval_eq_ok {db : ImportDb} {r : MediaImportRequest}
    {decision : MediaImportApproveRequest} {settings : MediaImportSettings} {now : DateTime}
    (h : checkApproval db r decision settings now = .ok ()) :
    r.status = .reviewRequired ∧ ∃ plan documents p inspection bound summary fingerprint,
      getImportPlan db r.id = .ok plan ∧ latestPreflight db r.id = some p ∧
      verifyMediaImportPlan plan r = .ok documents ∧
      verifyMediaImportPreflight p plan = .ok inspection ∧
      mediaImportConfigFingerprint settings = .ok fingerprint ∧
      (plan.configFingerprint = fingerprint ∧ p.configFingerprint = fingerprint) ∧
      (inspection.inspectedAt ≤ p.checkedAt ∧ p.checkedAt ≤ now ∧
        now - inspection.inspectedAt ≤ seconds settings.mediaImportPreflightMaxAgeSeconds) ∧
      (p.overallStatus = .pass ∨ p.overallStatus = .warning) ∧
      (decision.acknowledgesPlanOnly = true ∧ decision.acknowledgesSourceRetention = true ∧
        decision.acknowledgesNoOverwrite = true) ∧
      loadBoundEntities db r.downloadJobId = .ok bound ∧
      requireDownloadReady bound.job bound.execution bound.approval = .ok () ∧
      jobSummarySnapshot bound = .ok summary ∧
      Digest.sha256 summary = plan.summarySnapshotHash ∧
      (bound.job.hnrStatus = .satisfied ∨ decision.acknowledgesHnr = true) := by
  rw [checkApproval] at h
  simp only [bind_eq_ok, ensure_eq_ok, getImportPreflight, orRaise_eq_ok] at h
  obtain ⟨-, hstatus, plan, hplan, p, hp, documents, hverified, inspection, hpverified, fingerprint,
    hconfig, -, hprint, -, hage, -, hgood, -, hacks, bound, hbound, ⟨⟩, hready, summary, hsummary, -,
    hsame, hhnr⟩ := h
  exact ⟨hstatus, plan, documents, p, inspection, bound, summary, fingerprint, hplan, hp, hverified,
    hpverified, hconfig, hprint, hage, hgood, hacks, hbound, hready, hsummary, hsame, hhnr⟩

/-- The evidence of an approval that passed its checks in a run. -/
theorem evidence_of_checkApproval (tables : Tables) (media : Table Models.MediaItem)
    (ops : List Operation) {r : MediaImportRequest} {decision : MediaImportApproveRequest}
    {settings : MediaImportSettings} {now : DateTime}
    (h : checkApproval (run (noImports tables media) ops) r decision settings now = .ok ()) :
    ∃ plan documents p inspection,
      Evidence (noImports tables media) ops r decision settings now plan documents p
        inspection := by
  obtain ⟨-, plan, documents, p, inspection, bound, summary, fingerprint, hplan, hlatest, hverified,
    hpverified, hconfig, hprint, hage, hgood, hacks, hbound, hready, hsummary, hsame, hhnr⟩ :=
    checkApproval_eq_ok h
  have hrun := invariant_run tables media ops
  obtain ⟨hmem, hid⟩ := hrun.getImportPlan.mp hplan
  obtain ⟨hp, hpid⟩ := latestPreflight_mem hlatest
  obtain ⟨hdocuments, -, ⟨-, -, hhash, -⟩, -⟩ := verifyMediaImportPlan_eq_ok.mp hverified
  obtain ⟨found, current, hvalid, hrecorded⟩ :=
    recorded_run tables media ops hp hmem (hid.trans hpid.symm)
  obtain ⟨earlier, later, -, -, -, -, -, -, -, then', result, -, -, hjudged, -, hoverall, hdump⟩ :=
    id hrecorded
  -- the inspection that verifies now is the one that was recorded
  obtain ⟨hread, -⟩ := verifyMediaImportPreflight_eq_ok.mp hpverified
  rw [hdump, JsonColumn.modelValidate_dump hvalid, Option.some.injEq] at hread
  subst hread
  rw [hoverall] at hgood
  obtain ⟨hpassed, hthen⟩ := passed_of_evaluateInspection hvalid hdocuments hjudged hgood
  have hcurrent : current = documents.summary := Digest.sha256_inj.mp (hthen.trans hhash)
  have hnow : summary = documents.summary := Digest.sha256_inj.mp (hsame.trans hhash)
  subst hcurrent
  subst hnow
  refine ⟨plan, documents, p, found, ?_⟩
  exact
    { planned := ⟨hmem, hverified⟩
      latest := by
        refine ⟨hp, hpid, fun q hq hqid => ?_⟩
        exact latestOf_max hlatest q (List.mem_filter.mpr ⟨hq, by simpa using hqid⟩)
      verified := hpverified
      recorded := hrecorded
      passable := by
        rw [hoverall]
        exact hgood
      passed := hpassed
      configuration := by
        rw [hprint.1, hprint.2]
        exact ⟨hconfig, rfl⟩
      download := ⟨bound, hbound, hready, hsummary, hhnr⟩
      age := hage
      acknowledged := hacks }

/-- **An approved row with the operation of a run that approved it**, and with what stood behind
the approval. -/
def Justified (start : ImportDb) (ops : List Operation) (approved : MediaImportRequest) : Prop :=
  ∃ earlier later decision settings rawActor actor now r,
    ops = earlier ++ .approve approved.id decision settings rawActor now :: later ∧
    r ∈ (run start earlier).requests ∧ r.status = .reviewRequired ∧
    approved = approvedRow r decision actor now ∧
    ∃ plan documents p inspection,
      Evidence start earlier r decision settings now plan documents p inspection

/-- **Every approved request of a run is justified in it**, whatever the operations are, on whatever
requests and with whatever inspections. -/
theorem approvedImport_run (tables : Tables) (media : Table Models.MediaItem)
    (ops : List Operation) {approved : MediaImportRequest}
    (hmem : approved ∈ (run (noImports tables media) ops).requests)
    (hstatus : approved.status = .approvedPlanOnly) :
    Justified (noImports tables media) ops approved := by
  obtain ⟨earlier, op, later, db', rfl, hbefore, hafter, hstep⟩ :=
    (invariant_noImports tables media).run_brought (fun db => approved ∈ db.requests)
      (Table.notMem_empty approved) hmem
  -- only an approval brings a row of this status
  cases hstep with
  | @approved requestId decision settings rawActor actor now r events found checked =>
      have hr := Table.mem_of_get?_eq_some found
      have hkey : r.id = requestId := Table.key_of_get?_eq_some found
      rcases Table.mem_save.mp hafter with rfl | ⟨hold, -⟩
      · obtain ⟨hreview, -⟩ := checkApproval_eq_ok checked
        refine ⟨earlier, later, decision, settings, rawActor, actor, now, r, ?_, hr, hreview, rfl,
          evidence_of_checkApproval tables media earlier checked⟩
        rw [← hkey]
        rfl
      · exact absurd hold hbefore
  | created checked fresh inactive unplanned freshPlan =>
      rcases Table.mem_save.mp hafter with rfl | ⟨hold, -⟩
      · cases hstatus
      · exact absurd hold hbefore
  | preflighted found checked fresh =>
      rcases Table.mem_save.mp hafter with rfl | ⟨hold, -⟩
      · rw [preflightedRow] at hstatus
        dsimp only at hstatus
        split at hstatus <;> cases hstatus
      · exact absurd hold hbefore
  | rejected found status =>
      rcases Table.mem_save.mp hafter with rfl | ⟨hold, -⟩
      · cases hstatus
      · exact absurd hold hbefore
  | revoked found status =>
      rcases Table.mem_save.mp hafter with rfl | ⟨hold, -⟩
      · cases hstatus
      · exact absurd hold hbefore
  | elsewhere => exact absurd hafter hbefore

end Imports

/-! ### A run with an approval -/

/-- The result of the pre-flight of the download. -/
def downloadPreflight : PreflightResult where
  overallStatus := .pass
  checks := [{ code := "PATH_CHECKED", status := .pass, message := "checked", details := []
               code_valid := by decide, message_valid := by decide }]
  checkedAt := 0
  policyFingerprint := .sha256 (@policyDocument asciiPython cleanSettings "https://qb.local")
  checks_ne_nil := List.cons_ne_nil _ _
  codes_nodup := List.nodup_singleton _
  overallStatus_eq := rfl
  fingerprint_wellShaped := rfl

/-- The tables after the download: its execution is verified, and its approval is consumed. -/
def downloadedTables : Tables :=
  let hash := "aaaaaaaaaaaaaaaaaaaaaaaaaaaaaaaaaaaaaaaa"
  let execution : DownloadExecution :=
    { @pendingExecution asciiPython downloadPreflight with
      status := .submitted
      actualInfoHash := some hash
      actualInfoHashV1 := some hash
      actualSizeBytes := some 100
      actualFileCount := some 1
      validatedAt := some 0
      submittedAt := some 0
      verifiedAt := some 0 }
  let job : DownloadJob :=
    { id := (rowId 6).text
      executionId := execution.id
      approvalId := execution.approvalId
      mediaItemId := cleanSnapshot.mediaItemId
      status := .completed
      releaseTitle := "Media 2020"
      infoHashV1 := some hash
      infoHashV2 := none
      savePathRef := "downloads"
      category := "movies"
      sizeBytes := 100
      fileCount := 1
      progress := 1
      downloadSpeedBps := 0
      uploadSpeedBps := 0
      downloadedBytes := 100
      uploadedBytes := 0
      ratio := 0
      hnrStatus := .unknown
      startedAt := 0
      completedAt := some 0
      lastSeenAt := 0
      createdAt := 0 }
  { @executionTables asciiPython downloadPreflight with
    approvals := (∅ : Table ApprovalRequest).save
      { approvedRequest downloadPreflight with status := .consumed }
    executions := (∅ : Table DownloadExecution).save execution
    jobs := (∅ : Table DownloadJob).save job }

/-- The media of the download. -/
def downloadedMedia : Table Models.MediaItem :=
  (∅ : Table Models.MediaItem).save
    { id := cleanSnapshot.mediaItemId
      source := "NEXTFIND"
      sourceItemId := "1"
      mediaType := .movie
      tmdbId := some 1
      title := "Media"
      identityConfidence := .high
      metadataStatus := .resolved
      discoveredAt := 0
      updatedAt := 0 }

/-- Settings with one root of a library. -/
def librarySettings : MediaImportSettings :=
  { enableMediaImportControlPlane := true
    mediaImportTargetRootRefs := ["library"]
    maxAge_bounds := defaultSeconds_bounds }

/-- A proposal to link the one file of the download into the library, a pre-flight that finds what
it proposes, and the approval. -/
def approvingRun : List (@Operation asciiUnicode) :=
  let _ := asciiUnicode
  [ .create
      { downloadJobId := (rowId 6).text
        proposedOperation := .hardlink
        sourceManifest := { sourceRootRef := "downloads", files := [⟨"media.mkv", 100⟩] }
        targetMapping := { targetRootRef := "library", files := [⟨"media.mkv", "media.mkv"⟩] }
        downloadJobId_length := by decide +kernel
        sourceManifest_valid := by decide +kernel
        targetMapping_valid := by decide +kernel } librarySettings "operator" (rowId 7, rowId 8) 0,
    .preflight (rowId 7).text
      { downloadJobId := (rowId 6).text
        sourceRootRef := "downloads"
        targetRootRef := "library"
        infoHashV1 := some "aaaaaaaaaaaaaaaaaaaaaaaaaaaaaaaaaaaaaaaa"
        infoHashV2 := none
        sourceFiles := [⟨"media.mkv", 100, true, true, false, true⟩]
        targetFiles := [⟨"media.mkv", false⟩]
        sameFilesystem := some true
        availableBytes := none
        inspectedAt := 1 } (by decide +kernel) librarySettings "operator" (rowId 9) 2,
    .approve (rowId 7).text
      { acknowledgesPlanOnly := true
        acknowledgesSourceRetention := true
        acknowledgesNoOverwrite := true
        acknowledgesHnr := true } librarySettings "operator" 3 ]

/-- A run with an approved request, which is justified in it. -/
theorem approvedImport_run_approving :
    ∃ approved : MediaImportRequest, approved.status = .approvedPlanOnly ∧
      @Justified asciiUnicode (noImports downloadedTables downloadedMedia) approvingRun
        approved := by
  let _ := asciiUnicode
  have hany : (run (noImports downloadedTables downloadedMedia) approvingRun).requests.rows.any
      (fun r => r.status = .approvedPlanOnly) = true := by
    decide +kernel
  obtain ⟨approved, hmem, hstatus⟩ := List.any_eq_true.mp hany
  rw [decide_eq_true_eq] at hstatus
  exact ⟨approved, hstatus, approvedImport_run downloadedTables downloadedMedia approvingRun hmem
    hstatus⟩

end LibSeek.MediaImports
