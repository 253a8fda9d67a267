/-
The rows of the downloads, through every run.

The control plane inserts the row of a download when its submission is verified; from then on the
monitor writes what it has observed into it.  This module follows the rows through the runs of
both, and says which row a call hands to the database, so that one can ask whether the row
satisfies the constraints of its table.

Main definitions:

* `ControlPlane.preparedJob` — the part of a finalisation before the row of the job is written;
* `ControlPlane.Call` — a call of the control plane or of the monitor;
* `ControlPlane.Call.Flushes` — **the row that a call hands to the database**;
* `ControlPlane.Call.Dated` — the call observes no completion without a time;
* `ControlPlane.runCalls` — the database after a list of calls.

Main results:

* `ControlPlane.monitored_runCalls` — the invariant holds after every list of calls, and every row
  satisfies its constraints;
* `ControlPlane.Call.satisfiesChecks_iff` — **a row that a call hands to the database satisfies its
  constraints exactly when the call is dated**;
* `ControlPlane.JobsKept.runCalls` — a time of completion and a hit-and-run status stay.
-/

import LibSeek.ControlPlane.Operations
import LibSeek.Core.Ascii
import LibSeek.Services.DownloadMonitoring

set_option relaxedAutoImplicit false
set_option autoImplicit false

namespace LibSeek.ControlPlane

open LibSeek.Core LibSeek.Lib LibSeek.Models LibSeek.Schemas LibSeek.Services LibSeek.Workers

/-! ### The row of a finalisation -/

section Finalisation

variable [Python]

/-- The part of the finalisation of an execution that is being submitted, before the row of the
job is written: the request and the row. -/
def preparedJob (execution : DownloadExecution) (observed : QbTorrent)
    (outcome : DownloadExecutionStatus) (settings : Settings) (newIds : Uuid × Uuid)
    (clock : ℕ → DateTime) : DbTx (ApprovalRequest × DownloadJob) := do
  let db ← Tx.get
  let approval ← Tx.ofOption
    ((db.approvals.get? execution.approvalId).filter (·.status = .executing))
    (.app (conflict "DOWNLOAD_EXECUTION_APPROVAL_INVALIDATED"
      "下载执行的审批不再处于 EXECUTING 状态"))
  let snapshot ← liftApp (verifySnapshot approval)
  requireFinalAutomationSubmissionCas execution
    (effectiveHnrRule snapshot.siteId snapshot.hitAndRun).applies settings newIds.1 (clock 1)
  let plan ← getVerifiedPlan approval
  let fingerprint ←
    Tx.ofExcept (qbTargetFingerprint settings plan execution.launchMode snapshot.mediaTitle)
  requireApp (fingerprint = execution.qbTargetFingerprint)
    (conflict "EXECUTION_TARGET_CONFIG_CHANGED" "qBittorrent 执行目标与预留时不一致")
  let contents ← liftApp (requireObserved execution plan observed outcome settings)
  return (approval, newDownloadJob newIds.2 execution approval plan observed contents (clock 2))

/-- The part of the finalisation from the row of the job on. -/
def recordJob (execution : DownloadExecution) (outcome : DownloadExecutionStatus) (actor : String)
    (clock : ℕ → DateTime) (approval : ApprovalRequest) (job : DownloadJob) :
    DbTx DownloadJob := do
  insertJob job
  let consumed ← consumeApproval approval.id actor (clock 3)
  let finalized := finalizedExecution execution outcome (clock 2)
  saveExecution finalized
  addExecutionEvent finalized "SUBMISSION_VERIFIED" (strip actor) (some execution.status) outcome
  addExecutionApprovalEvent consumed "DOWNLOAD_JOB_CREATED" (strip actor)
  addJobEvent job "CREATED" (strip actor)
  return job

/-- **A finalisation hands the prepared row to the database**, and then records it. -/
theorem finalizeSubmitting_eq (execution : DownloadExecution) (observed : QbTorrent)
    (outcome : DownloadExecutionStatus) (settings : Settings) (actor : String)
    (newIds : Uuid × Uuid) (clock : ℕ → DateTime) :
    finalizeSubmitting execution observed outcome settings actor newIds clock =
      preparedJob execution observed outcome settings newIds clock >>= fun prepared =>
        recordJob execution outcome actor clock prepared.1 prepared.2 := by
  simp only [finalizeSubmitting, preparedJob, recordJob, Tx.bind_assoc]
  rfl

omit [Python] in
theorem requireObserved_contents [Python] {execution : DownloadExecution} {plan : DownloadPlan}
    {observed : QbTorrent} {outcome : DownloadExecutionStatus} {settings : Settings}
    {contents : ℕ × ℕ}
    (h : requireObserved execution plan observed outcome settings = .ok contents) :
    execution.actualSizeBytes = some contents.1 ∧ execution.actualFileCount = some contents.2 := by
  simp only [requireObserved, bind_eq_ok, orRaise_eq_ok] at h
  obtain ⟨-, -, -, -, -, -, size, hsize, -, -, count, hcount, hcontents⟩ := h
  obtain rfl := Except.ok.inj hcontents
  exact ⟨hsize, hcount⟩

/-- What a finalisation prepares is the row of a new job, of what was validated. -/
theorem wp_preparedJob (execution : DownloadExecution) (observed : QbTorrent)
    (outcome : DownloadExecutionStatus) (settings : Settings) (newIds : Uuid × Uuid)
    (clock : ℕ → DateTime) (db : Db) :
    Tx.wp (preparedJob execution observed outcome settings newIds clock)
      (fun prepared _ => ∃ plan contents,
        execution.actualSizeBytes = some contents.1 ∧ execution.actualFileCount = some contents.2 ∧
        prepared.2 =
          newDownloadJob newIds.2 execution prepared.1 plan observed contents (clock 2))
      (fun _ _ => True) db := by
  simp only [preparedJob, Tx.wp_bind, Tx.wp_get, Tx.wp_ofOption, wp_liftApp]
  refine ⟨fun approval _ => ⟨fun snapshot _ => ?_, fun _ _ => trivial⟩, fun _ => trivial⟩
  refine Tx.wp_mono (wp_requireFinalAutomationSubmissionCas ..) (fun _ db' _ => ?_)
    fun _ _ _ => trivial
  refine Tx.wp_mono wp_getVerifiedPlan (fun plan db'' _ => ?_) fun _ _ _ => trivial
  simp only [Tx.wp_ofExcept, wp_requireApp, Tx.wp_pure]
  refine ⟨fun _ _ => ⟨fun _ => ⟨fun contents hcontents => ?_, fun _ _ => trivial⟩,
    fun _ => trivial⟩, fun _ _ => trivial⟩
  obtain ⟨hsize, hcount⟩ := requireObserved_contents hcontents
  exact ⟨plan, contents, hsize, hcount, rfl⟩

end Finalisation

/-! ### Calls -/

variable [Python] [HexDigest]

/-- A call of the control plane, or of the monitor, with all that the outside supplies to it. -/
inductive Call where
  | control (op : Operation)
  | observe (jobId : String) (observed : Option QbTorrent) (expectedSavePath actor : String)
      (now : DateTime)
  | monitorError (jobId errorCode errorMessage actor : String)

/-- The database that a call leaves behind. -/
def Call.commit : Call → Db → Db
  | .control op, db => op.commit db
  | .observe jobId observed path actor now, db =>
      (Tx.commit (updateDownloadJobObservation jobId observed path actor now) db).2
  | .monitorError jobId errorCode errorMessage actor, db =>
      (Tx.commit (recordDownloadJobMonitorError jobId errorCode errorMessage actor) db).2

/-- **The row that a call hands to the database**: what a finalisation has prepared, an
observation, or an error of the monitor. -/
def Call.Flushes (db : Db) (row : DownloadJob) : Call → Prop
  | .control (.finalizeDownloadSubmission executionId observed outcome settings _ _ newIds clock) =>
      ∃ execution ∈ db.executions, execution.id = executionId ∧ execution.status = .submitting ∧
        ∃ approval db', preparedJob execution observed outcome settings newIds clock db =
          (.ok (approval, row), db')
  | .control _ => False
  | .observe jobId observed path _ now =>
      ∃ job, db.jobs.get? jobId = some job ∧ observedRow job observed path now = .ok row
  | .monitorError jobId errorCode errorMessage _ =>
      ∃ job, db.jobs.get? jobId = some job ∧ row = monitorErrorRow job errorCode errorMessage

/-- The call observes no undated completion: none at all where the row of the job is new, and none
that would complete the job where the row is there. -/
def Call.Dated (db : Db) : Call → Prop
  | .control (.finalizeDownloadSubmission _ observed _ _ _ _ _ _) => ¬ UndatedCompletion observed
  | .control _ => True
  | .observe jobId observed path _ _ => ∀ job, db.jobs.get? jobId = some job →
      ∀ torrent ∈ observed, ¬ (UndatedCompletion torrent ∧ ¬ HasDrifted job torrent path ∧
        job.completedAt = none)
  | .monitorError .. => True

/-- The database after a list of calls, from the empty one. -/
def runCalls (calls : List Call) : Db :=
  calls.foldl (fun db call => call.commit db) {}

omit [HexDigest] in
@[simp] theorem runCalls_nil [HexDigest] : runCalls [] = {} :=
  rfl

theorem runCalls_append (calls later : List Call) :
    runCalls (calls ++ later) = later.foldl (fun db call => call.commit db) (runCalls calls) := by
  simp [runCalls, List.foldl_append]

/-! ### The invariant -/

/-- The invariant of the control plane, and the constraints of the jobs. -/
structure Monitored (db : Db) : Prop extends Invariant db.toTables where
  checks : ∀ j ∈ db.jobs, j.SatisfiesChecks

variable {db db' : Db} {s s' : Tables} {l : Licence}

omit [HexDigest] in
theorem Invariant.saveJob (hs : Invariant s) {job row : DownloadJob} (hjob : job ∈ s.jobs)
    (hsame : SameBinding job row) : Invariant { s with jobs := s.jobs.save row } where
  approvals := hs.approvals
  planned := hs.planned
  decided := hs.decided
  plan_unique := hs.plan_unique
  origin := hs.origin
  nonce_unique := hs.nonce_unique
  consumed := hs.consumed
  used := hs.used
  executions := hs.executions
  bound e he := by
    obtain ⟨a, i, p, hbound⟩ := hs.bound e he
    exact ⟨a, i, p,
      { hbound with
        automation := by
          refine verifyExecutionAutomation_mono (s := s) ?_ ?_ ?_ hbound.automation
          · exact fun _ h => h
          · exact fun _ h => h
          · exact policies_of_revisions_eq rfl }⟩
  approval_unique := hs.approval_unique
  intent_unique := hs.intent_unique
  key_unique := hs.key_unique
  agree := hs.agree
  verified e he := by
    refine (hs.verified e he).trans ⟨?_, ?_⟩
    · rintro ⟨j, hj, hid⟩
      -- the row is replaced in its place
      by_cases hkey : j.id = row.id
      · obtain rfl := Table.eq_of_key_eq hj hjob (hkey.trans hsame.id)
        exact ⟨row, Table.mem_save_self _ _, hsame.executionId.trans hid⟩
      · exact ⟨j, Table.mem_save_of_ne hj hkey, hid⟩
    · rintro ⟨j, hj, hid⟩
      rcases Table.mem_save.mp hj with rfl | ⟨hj, -⟩
      · exact ⟨job, hjob, hsame.executionId.symm.trans hid⟩
      · exact ⟨j, hj, hid⟩
  jobs := by
    refine Table.forall_mem_save hs.jobs ?_
    rw [hsame.executionId]
    exact hs.jobs job hjob
  job_unique := hs.job_unique.save_same hjob hsame.id hsame.executionId

omit [HexDigest] in
/-- Every sequence of changes of the control plane keeps the rows of the jobs, and inserts only rows
that satisfy their constraints. -/
theorem Moves.checks (h : Moves l s s') (hs : ∀ j ∈ s.jobs, j.SatisfiesChecks) :
    ∀ j ∈ s'.jobs, j.SatisfiesChecks := by
  refine h.preserve (P := fun s => ∀ j ∈ s.jobs, j.SatisfiesChecks) ?_ ?_ hs
  · intro s s' heffect hs
    cases heffect with
    | finalize _ _ _ _ _ _ _ _ _ hchecks => exact Table.forall_mem_save hs hchecks
    | _ => exact hs
  · rintro s s' ⟨a, settings, request, now, plan, -, -, -, -, rfl⟩ hs
    exact hs

omit [HexDigest] in
/-- A database after a row of a job was written. -/
theorem Monitored.withJob (hdb : Monitored db) {job row : DownloadJob}
    (hjob : db.jobs.get? job.id = some job) (hsame : SameBinding job row)
    (hchecks : row.SatisfiesChecks) (eventType actor : String) (recorded : Bool) :
    Monitored (withJob db job row eventType actor recorded) :=
  { hdb.toInvariant.saveJob (Table.mem_of_get?_eq_some hjob) hsame with
    checks := Table.forall_mem_save hdb.checks hchecks }

/-- **Every call preserves the invariant, and the constraints of the jobs.** -/
theorem Monitored.commit (hdb : Monitored db) (call : Call) : Monitored (call.commit db) := by
  cases call with
  | control op =>
      have hmoves := op.moves hdb.toInvariant.bindings
      exact { hdb.toInvariant.moves hmoves with checks := hmoves.checks hdb.checks }
  | observe jobId observed path actor now =>
      rcases Tx.commit_wp_eq (wp_updateDownloadJobObservation jobId observed path actor now)
        with ⟨row, db', hcommit, job, hjob, hrow, hchecks, rfl⟩ | ⟨e, -, hcommit, -⟩
      · rw [Call.commit, hcommit]
        obtain rfl := Table.key_of_get?_eq_some hjob
        exact hdb.withJob hjob (observedRow_keeps hrow).1 hchecks _ _ _
      · rw [Call.commit, hcommit]
        exact hdb
  | monitorError jobId errorCode errorMessage actor =>
      rcases Tx.commit_wp_eq (wp_recordDownloadJobMonitorError jobId errorCode errorMessage actor)
        with ⟨row, db', hcommit, job, recorded, hjob, rfl, hchecks, rfl⟩ | ⟨e, -, hcommit, -⟩
      · rw [Call.commit, hcommit]
        obtain rfl := Table.key_of_get?_eq_some hjob
        exact hdb.withJob hjob (sameBinding_monitorErrorRow ..) hchecks _ _ _
      · rw [Call.commit, hcommit]
        exact hdb

/-- **The invariant, and the constraints of the jobs, hold after every list of calls.** -/
theorem monitored_runCalls (calls : List Call) : Monitored (runCalls calls) := by
  induction calls using List.reverseRecOn with
  | nil =>
      exact { invariant_initial with checks := fun _ h => absurd h (Table.notMem_empty _) }
  | append_singleton calls call ih =>
      rw [runCalls_append]
      exact ih.commit call

/-! ### What is handed to the database -/

omit [HexDigest] in
/-- **A row that a call hands to the database satisfies its constraints exactly when the call is
dated.** -/
theorem Call.satisfiesChecks_iff (hdb : Monitored db) (call : Call) {row : DownloadJob}
    (h : call.Flushes db row) : row.SatisfiesChecks ↔ call.Dated db := by
  cases call with
  | control op =>
      cases op with
      | finalizeDownloadSubmission executionId observed outcome settings actor token newIds clock =>
          obtain ⟨execution, hexecution, -, hsubmitting, approval, db', hprepared⟩ := h
          have hwp := wp_preparedJob execution observed outcome settings newIds clock db
          rw [Tx.wp, hprepared] at hwp
          obtain ⟨plan, contents, hsize, hcount, hrow⟩ := hwp
          change row = _ at hrow
          rw [hrow]
          have hchecks := (hdb.executions execution hexecution).checks
          refine newDownloadJob_satisfiesChecks_iff hchecks ?_ hsize hcount ..
          -- a reserved execution has the hash of its torrent
          intro hnone
          rcases hchecks.validation_bundle with ⟨-, -, -, hnosize, -⟩ | ⟨hhash, -⟩
          · rw [hsize] at hnosize
            cases hnosize
          · exact hhash hnone
      | _ => exact h.elim
  | observe jobId observed path actor now =>
      obtain ⟨job, hjob, hrow⟩ := h
      rw [observedRow_satisfiesChecks_iff (hdb.checks job (Table.mem_of_get?_eq_some hjob)) hrow]
      constructor
      · intro hdated job' hjob'
        obtain rfl := Option.some.inj (hjob.symm.trans hjob')
        exact hdated
      · exact fun hdated => hdated job hjob
  | monitorError jobId errorCode errorMessage actor =>
      obtain ⟨job, hjob, rfl⟩ := h
      have hchecks := hdb.checks job (Table.mem_of_get?_eq_some hjob)
      exact ⟨fun _ => trivial, fun _ => monitorErrorRow_satisfiesChecks hchecks _ _⟩

/-! ### What stays -/

/-- Every job stays, with what it is bound to, its hit-and-run status, and its time of completion
once there is one. -/
def JobsKept (before after : Table DownloadJob) : Prop :=
  ∀ j ∈ before, ∃ j' ∈ after, SameBinding j j' ∧
    ∀ time, j.completedAt = some time → j'.completedAt = some time

omit [Python] [HexDigest] in
theorem JobsKept.of_subset {before after : Table DownloadJob} (h : ∀ j ∈ before, j ∈ after) :
    JobsKept before after :=
  fun j hj => ⟨j, h j hj, ⟨rfl, rfl, rfl, rfl, rfl, rfl⟩, fun _ htime => htime⟩

omit [Python] [HexDigest] in
theorem JobsKept.trans {first second third : Table DownloadJob} (h : JobsKept first second)
    (h' : JobsKept second third) : JobsKept first third := by
  intro j hj
  obtain ⟨k, hk, hbinding, htime⟩ := h j hj
  obtain ⟨m, hm, hbinding', htime'⟩ := h' k hk
  exact ⟨m, hm, hbinding.trans hbinding', fun time h => htime' time (htime time h)⟩

omit [Python] [HexDigest] in
theorem JobsKept.save {jobs : Table DownloadJob} {job row : DownloadJob} (hjob : job ∈ jobs)
    (hsame : SameBinding job row)
    (htime : ∀ time, job.completedAt = some time → row.completedAt = some time) :
    JobsKept jobs (jobs.save row) := by
  intro j hj
  by_cases hkey : j.id = row.id
  · obtain rfl := Table.eq_of_key_eq hj hjob (hkey.trans hsame.id)
    exact ⟨row, Table.mem_save_self _ _, hsame, htime⟩
  · exact ⟨j, Table.mem_save_of_ne hj hkey, ⟨rfl, rfl, rfl, rfl, rfl, rfl⟩, fun _ h => h⟩

theorem Monitored.jobsKept (hdb : Monitored db) (call : Call) :
    JobsKept db.jobs (call.commit db).jobs := by
  cases call with
  | control op => exact .of_subset (op.moves hdb.toInvariant.bindings).keeps.jobs
  | observe jobId observed path actor now =>
      rcases Tx.commit_wp_eq (wp_updateDownloadJobObservation jobId observed path actor now)
        with ⟨row, db', hcommit, job, hjob, hrow, -, rfl⟩ | ⟨e, -, hcommit, -⟩
      · rw [Call.commit, hcommit]
        obtain ⟨hsame, htime⟩ := observedRow_keeps hrow
        exact .save (Table.mem_of_get?_eq_some hjob) hsame htime
      · rw [Call.commit, hcommit]
        exact .of_subset fun _ h => h
  | monitorError jobId errorCode errorMessage actor =>
      rcases Tx.commit_wp_eq (wp_recordDownloadJobMonitorError jobId errorCode errorMessage actor)
        with ⟨row, db', hcommit, job, recorded, hjob, rfl, -, rfl⟩ | ⟨e, -, hcommit, -⟩
      · rw [Call.commit, hcommit]
        exact .save (Table.mem_of_get?_eq_some hjob) (sameBinding_monitorErrorRow ..) fun _ h => h
      · rw [Call.commit, hcommit]
        exact .of_subset fun _ h => h

/-- **A time of completion and a hit-and-run status stay**, whatever calls follow. -/
theorem jobsKept_runCalls (calls later : List Call) :
    JobsKept (runCalls calls).jobs (runCalls (calls ++ later)).jobs := by
  induction later using List.reverseRecOn with
  | nil =>
      rw [List.append_nil]
      exact .of_subset fun _ h => h
  | append_singleton later call ih =>
      have hlast := (monitored_runCalls (calls ++ later)).jobsKept call
      rw [← List.append_assoc, runCalls_append (calls ++ later)]
      exact ih.trans hlast

/-- The event of a change of status. -/
def statusChange (job row : DownloadJob) (actor : String) : List DownloadJobEvent :=
  if row.status = job.status then []
  else
    [{ downloadJobId := row.id, eventType := "STATUS_CHANGED", fromStatus := some job.status
       toStatus := row.status, actor := strip actor }]

omit [HexDigest] in
/-- **An observation records a change of status exactly when the status changes**; and what it
hands to the database is there afterwards, if it satisfies the constraints. -/
theorem observe_commit [HexDigest] {jobId : String} {job : DownloadJob}
    (hjob : db.jobs.get? jobId = some job) (observed : Option QbTorrent) (path actor : String)
    (now : DateTime) :
    ∃ row, ((Call.observe jobId observed path actor now).commit db).jobs.get? jobId = some row ∧
      ((Call.observe jobId observed path actor now).commit db).jobEvents =
        db.jobEvents ++ statusChange job row actor ∧
      ∀ handed, isTargetValue path = true → observedRow job observed path now = .ok handed →
        handed.SatisfiesChecks → row = handed := by
  rcases Tx.commit_wp_eq (wp_updateDownloadJobObservation jobId observed path actor now)
    with ⟨row, db', hcommit, job', hjob', hrow, -, rfl⟩ | ⟨e, staged, hcommit, he⟩
  · rw [Call.commit, hcommit]
    obtain rfl := Option.some.inj (hjob.symm.trans hjob')
    have hid : row.id = jobId :=
      (observedRow_keeps hrow).1.id.trans (Table.key_of_get?_eq_some hjob)
    refine ⟨row, ?_, ?_, ?_⟩
    · rw [← hid]
      exact Table.get?_save_self _ _
    · simp only [withJob, statusChange]
      by_cases hstatus : row.status = job.status <;> simp [hstatus]
    · intro handed _ hhanded _
      exact Except.ok.inj (hrow.symm.trans hhanded)
  · rw [Call.commit, hcommit]
    refine ⟨job, hjob, ?_, ?_⟩
    · simp [statusChange]
    · intro handed htarget hhanded hchecks
      exact absurd hchecks (he job handed htarget hjob hhanded).2

/-- **The row of a download keeps the constraints of its table through every run, exactly as far as
the observations are dated.**  After every list of calls every row satisfies its constraints; the
row that the next call hands to the database does so exactly when the call is dated; whatever calls
follow, a time of completion and a hit-and-run status stay; and an observation records a change of
status exactly when there is one. -/
theorem observations_keep_rows (calls : List Call) :
    (∀ j ∈ (runCalls calls).jobs, j.SatisfiesChecks) ∧
      (∀ (call : Call) (row : DownloadJob), call.Flushes (runCalls calls) row →
        (row.SatisfiesChecks ↔ call.Dated (runCalls calls))) ∧
      (∀ later, JobsKept (runCalls calls).jobs (runCalls (calls ++ later)).jobs) ∧
      ∀ (jobId : String) (job : DownloadJob) (observed : Option QbTorrent) (path actor : String)
          (now : DateTime), (runCalls calls).jobs.get? jobId = some job →
        ∃ row,
          (runCalls (calls ++ [.observe jobId observed path actor now])).jobs.get? jobId =
            some row ∧
          (runCalls (calls ++ [.observe jobId observed path actor now])).jobEvents =
            (runCalls calls).jobEvents ++ statusChange job row actor ∧
          ∀ handed, isTargetValue path = true → observedRow job observed path now = .ok handed →
            handed.SatisfiesChecks → row = handed := by
  have hdb := monitored_runCalls calls
  refine ⟨hdb.checks, fun call _ => call.satisfiesChecks_iff hdb, jobsKept_runCalls calls, ?_⟩
  intro jobId job observed path actor now hjob
  rw [runCalls_append]
  exact observe_commit hjob observed path actor now

omit [Python] [HexDigest] in
/-- A valid row refuses the observation of an undated completion: the database raises an error, and
the row stays as it was. -/
theorem undated_observation_refused :
    let db : Db := { jobs := (∅ : Table DownloadJob).save downloadingJob }
    let outcome := Tx.commit (@updateDownloadJobObservation asciiPython downloadingJob.id
      (some undatedTorrent) "/downloads" "monitor" 1) db
    downloadingJob.SatisfiesChecks ∧
      (@seenRow asciiPython downloadingJob undatedTorrent "/downloads" 1).status = .completed ∧
      (@seenRow asciiPython downloadingJob undatedTorrent "/downloads" 1).completedAt = none ∧
      outcome.1 = .error .integrity ∧ outcome.2.jobs.get? downloadingJob.id = some downloadingJob := by
  decide +kernel

end LibSeek.ControlPlane
