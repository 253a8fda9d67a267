/-
What the monitor writes of a download.

The monitor reads the torrents of the downloader and writes what it has seen into the rows of the
jobs: the progress, the speeds, the status, the time of completion.  The table of the jobs has
`CHECK` constraints, of which one binds the status to the time of completion; the status and the
time are read off a torrent by two functions that do not look at each other.

Main definitions:

* `Services.observedRow` — the row of a job after an observation;
* `Services.updateDownloadJobObservation`, `Services.recordDownloadJobMonitorError` — the two
  transactions of the monitor;
* `Services.UndatedCompletion` — a torrent that is completed, but has no time of completion.

Main results:

* `Services.seenRow_satisfiesChecks_iff` — **an observation keeps the constraints of a row, unless
  it is an undated completion of a job that was not completed before**;
* `Services.newDownloadJob_satisfiesChecks_iff` — the same of the row that a finalisation inserts;
* `Services.wp_updateDownloadJobObservation` — what the transaction writes.
-/

import LibSeek.Services.Executions

set_option relaxedAutoImplicit false
set_option autoImplicit false

namespace LibSeek.Services

open LibSeek.Core LibSeek.Lib LibSeek.Models LibSeek.Schemas

variable [Python]

/-! ### The row after an observation -/

/-- `_job_identity_hashes`. -/
def jobIdentityHashes (job : DownloadJob) : List String :=
  ((job.infoHashV1.toList ++ job.infoHashV2.toList).filter (· ≠ "")).map casefold ++
    (job.infoHashV2.map fun v2 => casefold (takeStr v2 40)).toList

/-- Whether a torrent is not what was approved, or not where it was approved. -/
def HasDrifted (job : DownloadJob) (observed : QbTorrent) (expectedSavePath : String) : Prop :=
  sameQbSavePath observed.savePath expectedSavePath = false ∨ observed.category ≠ job.category ∨
    observed.size ≠ job.sizeBytes

instance (job : DownloadJob) (observed : QbTorrent) (expectedSavePath : String) :
    Decidable (HasDrifted job observed expectedSavePath) :=
  inferInstanceAs (Decidable (_ ∨ _ ∨ _))

/-- The status that an observation gives a job, with the code and the text of its error. -/
def observedStatus (job : DownloadJob) (observed : QbTorrent) (expectedSavePath : String) :
    DownloadJobStatus × Option (String × String) :=
  if HasDrifted job observed expectedSavePath then
    (.error, some ("QB_TORRENT_BINDING_DRIFT",
      "qBittorrent 种子的保存路径、分类或大小与已批准下载任务不一致"))
  else if downloadJobStatus observed = .error then
    (.error, some ("QB_TORRENT_STATE_ERROR", "qBittorrent 种子处于异常状态"))
  else
    (downloadJobStatus observed, none)

/-- The row of a job whose torrent was seen. -/
def seenRow (job : DownloadJob) (observed : QbTorrent) (expectedSavePath : String)
    (now : DateTime) : DownloadJob :=
  let verdict := observedStatus job observed expectedSavePath
  { job with
    status := verdict.1
    progress := observed.progress
    downloadSpeedBps := observed.dlspeed
    uploadSpeedBps := observed.upspeed
    downloadedBytes := observed.downloaded
    uploadedBytes := observed.uploaded
    ratio := observed.ratio
    completedAt := job.completedAt.or (completionTime observed now)
    lastSeenAt := now
    errorCode := verdict.2.map Prod.fst
    errorMessage := verdict.2.map Prod.snd }

omit [Python] in
/-- The row of a job whose torrent is not there. -/
def missingRow (job : DownloadJob) : DownloadJob :=
  { job with
    status := .missing
    errorCode := some "QB_TORRENT_MISSING"
    errorMessage := some "qBittorrent 中未找到对应种子" }

/-- The row of a job after an observation. -/
def observedRow (job : DownloadJob) (observed : Option QbTorrent) (expectedSavePath : String)
    (now : DateTime) : Except AppError DownloadJob :=
  match observed with
  | none => .ok (missingRow job)
  | some observed => do
      ensure (∃ h ∈ jobIdentityHashes job, h ∈ observed.identityHashes)
        (conflict "DOWNLOAD_JOB_INFO_HASH_MISMATCH" "qBittorrent 观察结果与下载任务不一致")
      return seenRow job observed expectedSavePath now

/-- The row of a job that could not be observed. -/
def monitorErrorRow (job : DownloadJob) (errorCode errorMessage : String) : DownloadJob :=
  { job with
    status := .error
    errorCode := some errorCode
    errorMessage := some (sanitizePublicText errorMessage) }

/-! ### The transactions of the monitor -/

omit [Python] in
/-- The row of a job, under a lock. -/
def getDownloadJob (jobId : String) : DbTx DownloadJob := do
  let db ← Tx.get
  Tx.ofOption (db.jobs.get? jobId)
    (.app { errorCode := "DOWNLOAD_JOB_NOT_FOUND", message := "下载任务不存在", statusCode := 404 })

omit [Python] in
/-- Writing a row of `download_jobs` back, under its constraints. -/
def flushJob (row : DownloadJob) : DbTx Unit := do
  Tx.require row.SatisfiesChecks .integrity
  Tx.modify fun db => { db with jobs := db.jobs.save row }

/-- The last part of both transactions: the event, if there is one, and the row. -/
def writeJob (job row : DownloadJob) (eventType actor : String) (recorded : Bool) : DbTx Unit := do
  if recorded then addJobEvent row eventType (strip actor) (some job.status) else pure ()
  flushJob row

/-- **`update_download_job_observation`.** -/
def updateDownloadJobObservation (jobId : String) (observed : Option QbTorrent)
    (expectedSavePath actor : String) (now : DateTime) : DbTx DownloadJob := do
  requireApp (isTargetValue expectedSavePath = true)
    (conflict "DOWNLOAD_MONITOR_TARGET_INVALID"
      "The approved qBittorrent monitoring target is invalid")
  let job ← getDownloadJob jobId
  let row ← liftApp (observedRow job observed expectedSavePath now)
  writeJob job row "STATUS_CHANGED" actor (row.status ≠ job.status)
  return row

/-- **`record_download_job_monitor_error`.**  The same error is recorded once. -/
def recordDownloadJobMonitorError (jobId errorCode errorMessage actor : String) :
    DbTx DownloadJob := do
  let job ← getDownloadJob jobId
  let row := monitorErrorRow job errorCode errorMessage
  writeJob job row "MONITOR_ERROR" actor
    (¬ (job.status = .error ∧ job.errorCode = some errorCode))
  return row

/-! ### The status and the time of completion -/

/-- A torrent that the downloader calls completed while it is not, without a time of completion. -/
def UndatedCompletion (observed : QbTorrent) : Prop :=
  casefold observed.state = "completed" ∧ observed.progress < 1 ∧ observed.completionOn ≤ 0

instance (observed : QbTorrent) : Decidable (UndatedCompletion observed) :=
  inferInstanceAs (Decidable (_ ∧ _ ∧ _))

theorem downloadJobStatus_of_completed {observed : QbTorrent}
    (h : casefold observed.state = "completed") : downloadJobStatus observed = .completed := by
  have hothers : "completed" ∉ ["error", "missingfiles", "unknown"] ∧
      "completed" ∉ ["checkingdl", "checkingup", "checkingresumedata", "moving"] ∧
      "completed" ∉ ["pauseddl", "pausedup", "stoppeddl", "stoppedup"] ∧
      "completed" ∉ ["queueddl", "queuedup", "allocating"] ∧
      "completed" ∉ ["downloading", "forceddl", "stalleddl", "metadl"] ∧
      "completed" ∉ ["uploading", "forcedup", "stalledup"] := by decide
  obtain ⟨herror, hchecking, hpaused, hqueued, hdownloading, hseeding⟩ := hothers
  simp only [downloadJobStatus, h]
  rw [if_neg herror, if_neg hchecking, if_neg hpaused, if_neg hqueued, if_neg hdownloading,
    if_neg hseeding, if_pos (Or.inl trivial)]

theorem of_downloadJobStatus_completed {observed : QbTorrent}
    (h : downloadJobStatus observed = .completed) :
    casefold observed.state = "completed" ∨ 1 ≤ observed.progress := by
  simp only [downloadJobStatus] at h
  split_ifs at h with _ _ _ _ _ _ hcompleted
  exact hcompleted

omit [Python] in
theorem completionTime_eq_none {observed : QbTorrent} {now : DateTime} :
    completionTime observed now = none ↔ observed.completionOn ≤ 0 ∧ observed.progress < 1 := by
  have htimestamp : qbTimestamp observed.completionOn = none ↔ observed.completionOn ≤ 0 := by
    rw [qbTimestamp]
    split_ifs with h <;> simp [h]
  rw [completionTime, Option.or_eq_none_iff, htimestamp]
  refine and_congr_right fun _ => ?_
  split_ifs with h
  · simp [Rat.not_lt.mpr h]
  · simp [Rat.not_le.mp h]

/-- **A torrent is completed without a time of completion exactly when its completion is
undated.** -/
theorem undatedCompletion_iff {observed : QbTorrent} (now : DateTime) :
    downloadJobStatus observed = .completed ∧ completionTime observed now = none ↔
      UndatedCompletion observed := by
  rw [completionTime_eq_none, UndatedCompletion]
  constructor
  · rintro ⟨hstatus, htime, hprogress⟩
    have hstate := (of_downloadJobStatus_completed hstatus).resolve_right (Rat.not_le.mpr hprogress)
    exact ⟨hstate, hprogress, htime⟩
  · rintro ⟨hstate, hprogress, htime⟩
    exact ⟨downloadJobStatus_of_completed hstate, htime, hprogress⟩

/-! ### The constraints of the rows -/

theorem observedStatus_eq_completed {job : DownloadJob} {observed : QbTorrent} {path : String} :
    (observedStatus job observed path).1 = .completed ↔
      ¬ HasDrifted job observed path ∧ downloadJobStatus observed = .completed := by
  unfold observedStatus
  split_ifs with hdrift herror
  · simp [hdrift]
  · simp [herror]
  · simp [hdrift]

/-- Two rows of one job: what the monitor writes is neither what the job is bound to nor its
hit-and-run status. -/
structure SameBinding (job row : DownloadJob) : Prop where
  id : row.id = job.id
  executionId : row.executionId = job.executionId
  createdAt : row.createdAt = job.createdAt
  infoHashV1 : row.infoHashV1 = job.infoHashV1
  infoHashV2 : row.infoHashV2 = job.infoHashV2
  hnrStatus : row.hnrStatus = job.hnrStatus

omit [Python] in
theorem SameBinding.trans {first second third : DownloadJob} (h : SameBinding first second)
    (h' : SameBinding second third) : SameBinding first third where
  id := h'.id.trans h.id
  executionId := h'.executionId.trans h.executionId
  createdAt := h'.createdAt.trans h.createdAt
  infoHashV1 := h'.infoHashV1.trans h.infoHashV1
  infoHashV2 := h'.infoHashV2.trans h.infoHashV2
  hnrStatus := h'.hnrStatus.trans h.hnrStatus

theorem sameBinding_seenRow (job : DownloadJob) (observed : QbTorrent) (path : String)
    (now : DateTime) : SameBinding job (seenRow job observed path now) := by
  rw [seenRow]
  exact ⟨rfl, rfl, rfl, rfl, rfl, rfl⟩

theorem sameBinding_monitorErrorRow (job : DownloadJob) (errorCode errorMessage : String) :
    SameBinding job (monitorErrorRow job errorCode errorMessage) :=
  ⟨rfl, rfl, rfl, rfl, rfl, rfl⟩

theorem seenRow_status (job : DownloadJob) (observed : QbTorrent) (path : String)
    (now : DateTime) :
    (seenRow job observed path now).status = (observedStatus job observed path).1 := by
  rw [seenRow]

theorem seenRow_completedAt (job : DownloadJob) (observed : QbTorrent) (path : String)
    (now : DateTime) :
    (seenRow job observed path now).completedAt =
      job.completedAt.or (completionTime observed now) := by
  rw [seenRow]

/-- A row is completed without a time of completion exactly when its torrent is, and the job was
not completed before. -/
theorem seenRow_undated_iff {job : DownloadJob} {observed : QbTorrent} {path : String}
    (now : DateTime) :
    (seenRow job observed path now).status = .completed ∧
        (seenRow job observed path now).completedAt = none ↔
      UndatedCompletion observed ∧ ¬ HasDrifted job observed path ∧ job.completedAt = none := by
  rw [seenRow_status, seenRow_completedAt, observedStatus_eq_completed, Option.or_eq_none_iff,
    ← undatedCompletion_iff now]
  constructor
  · rintro ⟨⟨hdrift, hstatus⟩, hnone, htime⟩
    exact ⟨⟨hstatus, htime⟩, hdrift, hnone⟩
  · rintro ⟨⟨hstatus, htime⟩, hdrift, hnone⟩
    exact ⟨⟨hdrift, hstatus⟩, hnone, htime⟩

/-- **An observation keeps the constraints of a row, unless it is an undated completion** of the
torrent that was approved, and the job was not completed before. -/
theorem seenRow_satisfiesChecks_iff {job : DownloadJob} (hjob : job.SatisfiesChecks)
    (observed : QbTorrent) (path : String) (now : DateTime) :
    (seenRow job observed path now).SatisfiesChecks ↔
      ¬ (UndatedCompletion observed ∧ ¬ HasDrifted job observed path ∧
        job.completedAt = none) := by
  rw [← seenRow_undated_iff now]
  constructor
  · rintro hrow ⟨hstatus, hnone⟩
    exact hrow.completed_at hstatus hnone
  · intro h
    have hcompletion : (seenRow job observed path now).status = .completed →
        (seenRow job observed path now).completedAt ≠ none :=
      fun hstatus hnone => h ⟨hstatus, hnone⟩
    rw [seenRow] at hcompletion ⊢
    exact ⟨hjob.infoHash_required, hjob.infoHashV1_shape, hjob.infoHashV2_shape,
      hjob.content_bounds, observed.progress_bounds, observed.ratio_bound, hcompletion⟩

omit [Python] in
theorem missingRow_satisfiesChecks {job : DownloadJob} (hjob : job.SatisfiesChecks) :
    (missingRow job).SatisfiesChecks where
  __ := hjob
  completed_at h := nomatch h

theorem monitorErrorRow_satisfiesChecks {job : DownloadJob} (hjob : job.SatisfiesChecks)
    (errorCode errorMessage : String) :
    (monitorErrorRow job errorCode errorMessage).SatisfiesChecks where
  __ := hjob
  completed_at h := nomatch h

/-- **The row of a new job satisfies its constraints, unless its completion is undated**, if the
execution has its validated torrent. -/
theorem newDownloadJob_satisfiesChecks_iff {execution : DownloadExecution}
    (hexecution : execution.SatisfiesChecks) (hhash : execution.actualInfoHash ≠ none)
    {contents : ℕ × ℕ} (hsize : execution.actualSizeBytes = some contents.1)
    (hcount : execution.actualFileCount = some contents.2) (newId : Uuid)
    (approval : ApprovalRequest) (plan : DownloadPlan) (observed : QbTorrent) (now : DateTime) :
    (newDownloadJob newId execution approval plan observed contents now).SatisfiesChecks ↔
      ¬ UndatedCompletion observed := by
  rw [← undatedCompletion_iff now]
  constructor
  · rintro hrow ⟨hstatus, htime⟩
    exact hrow.completed_at hstatus htime
  · intro h
    obtain ⟨-, hrequired, ⟨n, hn, hnpos⟩, ⟨m, hm, hmpos⟩, -, -⟩ :=
      hexecution.validation_bundle.resolve_left fun hnone => hhash hnone.1
    obtain rfl : contents.1 = n := Option.some.inj (hsize.symm.trans hn)
    obtain rfl : contents.2 = m := Option.some.inj (hcount.symm.trans hm)
    exact ⟨hrequired, hexecution.actualInfoHashV1_shape, hexecution.actualInfoHashV2_shape,
      ⟨hnpos, hmpos⟩, observed.progress_bounds, observed.ratio_bound,
      fun hcompleted hnone => h ⟨hcompleted, hnone⟩⟩

theorem observedRow_satisfiesChecks_iff {job row : DownloadJob} (hjob : job.SatisfiesChecks)
    {observed : Option QbTorrent} {path : String} {now : DateTime}
    (h : observedRow job observed path now = .ok row) :
    row.SatisfiesChecks ↔
      ∀ torrent ∈ observed, ¬ (UndatedCompletion torrent ∧ ¬ HasDrifted job torrent path ∧
        job.completedAt = none) := by
  match observed with
  | none =>
      obtain rfl := Except.ok.inj h
      exact ⟨fun _ _ hnone => (nomatch hnone), fun _ => missingRow_satisfiesChecks hjob⟩
  | some torrent =>
      obtain ⟨-, -, hrow⟩ := bind_eq_ok.mp h
      obtain rfl := Except.ok.inj hrow
      rw [seenRow_satisfiesChecks_iff hjob]
      exact ⟨fun hdated _ htorrent => Option.some.inj htorrent ▸ hdated,
        fun hdated => hdated torrent rfl⟩

/-- What an observation does not touch. -/
theorem observedRow_keeps {job row : DownloadJob} {observed : Option QbTorrent} {path : String}
    {now : DateTime} (h : observedRow job observed path now = .ok row) :
    SameBinding job row ∧ ∀ time, job.completedAt = some time → row.completedAt = some time := by
  match observed with
  | none =>
      obtain rfl := Except.ok.inj h
      exact ⟨⟨rfl, rfl, rfl, rfl, rfl, rfl⟩, fun _ htime => htime⟩
  | some torrent =>
      obtain ⟨-, -, hrow⟩ := bind_eq_ok.mp h
      obtain rfl := Except.ok.inj hrow
      refine ⟨sameBinding_seenRow job torrent path now, fun time htime => ?_⟩
      rw [seenRow_completedAt, htime, Option.some_or]

/-! ### What the transactions write -/

/-- The database after a row was written, with the event of its change. -/
def withJob (db : Db) (job row : DownloadJob) (eventType actor : String) (recorded : Bool) : Db :=
  { db with
    jobs := db.jobs.save row
    jobEvents := db.jobEvents ++
      if recorded then
        [{ downloadJobId := row.id, eventType, fromStatus := some job.status
           toStatus := row.status, actor := strip actor }]
      else [] }

variable {db : Db}

theorem wp_writeJob (job row : DownloadJob) (eventType actor : String) (recorded : Bool) :
    Tx.wp (writeJob job row eventType actor recorded)
      (fun _ db' => row.SatisfiesChecks ∧ db' = withJob db job row eventType actor recorded)
      (fun e _ => e = .integrity ∧ ¬ row.SatisfiesChecks) db := by
  simp only [writeJob, flushJob, addJobEvent, Tx.wp_bind, Tx.wp_ite, Tx.wp_require,
    Tx.wp_modify]
  refine ⟨fun hrecorded => ⟨fun hchecks => ⟨hchecks, ?_⟩, fun hchecks => ⟨trivial, hchecks⟩⟩,
    fun hrecorded => ⟨fun hchecks => ⟨hchecks, ?_⟩, fun hchecks => ⟨trivial, hchecks⟩⟩⟩
  · rw [withJob, if_pos hrecorded]
  · rw [withJob, if_neg hrecorded, List.append_nil]

omit [Python] in
theorem wp_getDownloadJob (jobId : String) :
    Tx.wp (getDownloadJob jobId)
      (fun job db' => db' = db ∧ db.jobs.get? jobId = some job)
      (fun _ _ => db.jobs.get? jobId = none) db := by
  simp only [getDownloadJob, Tx.wp_bind, Tx.wp_get, Tx.wp_ofOption]
  exact ⟨fun job hjob => ⟨trivial, hjob⟩, fun hnone => hnone⟩

/-- **An observation writes the row it has read off**, and an event if the status is another; it
fails on a row only where the constraints do. -/
theorem wp_updateDownloadJobObservation (jobId : String) (observed : Option QbTorrent)
    (expectedSavePath actor : String) (now : DateTime) :
    Tx.wp (updateDownloadJobObservation jobId observed expectedSavePath actor now)
      (fun row db' => ∃ job, db.jobs.get? jobId = some job ∧
        observedRow job observed expectedSavePath now = .ok row ∧ row.SatisfiesChecks ∧
        db' = withJob db job row "STATUS_CHANGED" actor (row.status ≠ job.status))
      (fun e _ => ∀ job row, isTargetValue expectedSavePath = true →
        db.jobs.get? jobId = some job → observedRow job observed expectedSavePath now = .ok row →
          e = .integrity ∧ ¬ row.SatisfiesChecks) db := by
  simp only [updateDownloadJobObservation, Tx.wp_bind, wp_requireApp, wp_liftApp, Tx.wp_pure]
  refine ⟨fun _ => ?_, fun htarget _ _ hgood => absurd hgood htarget⟩
  refine Tx.wp_mono (wp_getDownloadJob jobId) ?_ ?_
  · rintro job db' ⟨rfl, hjob⟩
    refine ⟨fun row hrow => ?_, fun e he job' row _ hjob' hrow => ?_⟩
    · refine Tx.wp_mono (wp_writeJob ..) ?_ ?_
      · rintro - db'' ⟨hchecks, rfl⟩
        exact ⟨job, hjob, hrow, hchecks, rfl⟩
      · rintro e - ⟨rfl, hchecks⟩ job' row' - hjob' hrow'
        obtain rfl := Option.some.inj (hjob.symm.trans hjob')
        obtain rfl := Except.ok.inj (hrow.symm.trans hrow')
        exact ⟨rfl, hchecks⟩
    · obtain rfl := Option.some.inj (hjob.symm.trans hjob')
      rw [he] at hrow
      cases hrow
  · intro e _ hnone job row _ hjob
    rw [hnone] at hjob
    cases hjob

/-- **An error is recorded** in a row, and once as an event; it fails on a row only where the
constraints do. -/
theorem wp_recordDownloadJobMonitorError (jobId errorCode errorMessage actor : String) :
    Tx.wp (recordDownloadJobMonitorError jobId errorCode errorMessage actor)
      (fun row db' => ∃ job recorded, db.jobs.get? jobId = some job ∧
        row = monitorErrorRow job errorCode errorMessage ∧ row.SatisfiesChecks ∧
        db' = withJob db job row "MONITOR_ERROR" actor recorded)
      (fun _ _ => ∀ job, db.jobs.get? jobId = some job →
        ¬ (monitorErrorRow job errorCode errorMessage).SatisfiesChecks) db := by
  simp only [recordDownloadJobMonitorError, Tx.wp_bind, Tx.wp_pure]
  refine Tx.wp_mono (wp_getDownloadJob jobId) ?_ ?_
  · rintro job db' ⟨rfl, hjob⟩
    refine Tx.wp_mono (wp_writeJob ..) ?_ ?_
    · rintro - db'' ⟨hchecks, rfl⟩
      exact ⟨job, _, hjob, rfl, hchecks, rfl⟩
    · rintro e - ⟨-, hchecks⟩ job' hjob'
      obtain rfl := Option.some.inj (hjob.symm.trans hjob')
      exact hchecks
  · intro e _ hnone job hjob
    rw [hnone] at hjob
    cases hjob

/-! ### A row and an observation -/

/-- A job that was being downloaded when it was last seen. -/
def downloadingJob : DownloadJob where
  id := "j-1"
  executionId := "e-1"
  approvalId := "a-1"
  mediaItemId := "m-1"
  status := .downloading
  releaseTitle := "Media 2020"
  infoHashV1 := some "aaaaaaaaaaaaaaaaaaaaaaaaaaaaaaaaaaaaaaaa"
  infoHashV2 := none
  savePathRef := "downloads"
  category := "movies"
  sizeBytes := 100
  fileCount := 1
  progress := 0
  downloadSpeedBps := 0
  uploadSpeedBps := 0
  downloadedBytes := 0
  uploadedBytes := 0
  ratio := 0
  hnrStatus := .unknown
  startedAt := 0
  completedAt := none
  lastSeenAt := 0
  createdAt := 0

/-- A torrent that the downloader calls completed at one half, without a time of completion. -/
def undatedTorrent : QbTorrent where
  hash := ⟨"aaaaaaaaaaaaaaaaaaaaaaaaaaaaaaaaaaaaaaaa", by decide⟩
  infohashV1 := some "aaaaaaaaaaaaaaaaaaaaaaaaaaaaaaaaaaaaaaaa"
  infohashV2 := none
  name := "Media 2020"
  size := 100
  progress := 1 / 2
  ratio := 0
  state := "completed"
  addedOn := 0
  completionOn := 0
  downloaded := 50
  uploaded := 0
  dlspeed := 0
  upspeed := 0
  category := "movies"
  savePath := "/downloads"
  progress_bounds := by decide +kernel
  ratio_bound := by decide +kernel
  infohashV1_isHex := by decide +kernel
  infohashV2_isHex := by decide +kernel

end LibSeek.Services
