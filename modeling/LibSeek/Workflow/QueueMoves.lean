/-
What the workflow does to its queue.

The changes of the workflow, once more, for two tables only: the jobs, and the matches that the
resolutions among them bring.  Here it matters what exactly is written in the row of a job.  The
claims are left out; they are the subject of the next module.

Main definitions:

* `Workflow.Work` — the two tables;
* `Workflow.NewJob` — a job that has just been queued;
* `Workflow.WorkStep` — **what is done to a job**;
* `Workflow.OnWork` — a change of the database, as these tables see it.

Main results:

* `Workflow.enqueueMetadataResolution_works`, … — what the services do;
* `Workflow.Operation.body_works` — what the unit of work of every operation does, claims apart.
-/

import LibSeek.Workflow.Operations

set_option relaxedAutoImplicit false
set_option autoImplicit false

namespace LibSeek.Workflow

open LibSeek.Core LibSeek.Lib LibSeek.Models LibSeek.Schemas LibSeek.Services LibSeek.Workers

/-! ### Changes -/

/-- The jobs, and the matches that they bring. -/
structure Work where
  queue : Table Job
  found : Table MetadataMatch

/-- The jobs and the matches of a database. -/
def workOf (db : WorkflowDb) : Work :=
  { queue := db.queue, found := db.metadataMatches }

/-- A job that has just been queued. -/
structure NewJob (job : Job) : Prop where
  status : job.status = .pending
  attempts : job.attempts = 0
  maxAttempts : 1 ≤ job.maxAttempts
  nextRetryAt : job.nextRetryAt = none
  lease : job.lockedAt = none ∧ job.lockedBy = none ∧ job.leaseToken = none

theorem queue_eq {db db' : WorkflowDb} (h : workOf db' = workOf db) : db'.queue = db.queue :=
  congrArg Work.queue h

@[simp] theorem workOf_refreshed (mediaId : String) (db : WorkflowDb) :
    workOf (refreshed mediaId db) = workOf db := by
  obtain ⟨media, heq⟩ := refreshed_eq mediaId db
  rw [heq]
  rfl

@[simp] theorem workOf_refreshedFor (mediaId : Option String) (db : WorkflowDb) :
    workOf (refreshedFor mediaId db) = workOf db := by
  cases mediaId with
  | none => rfl
  | some mediaId => exact workOf_refreshed mediaId db

variable [WorkflowRuntime]

/-- The matches that a resolution brings: the five best candidates, the best first. -/
def Ranking (jobId : String) (stored : List MetadataMatch) : Prop :=
  ∃ (media : Models.MediaItem) (candidates : List MetadataRecord) (newId : ℕ → Uuid)
    (now : DateTime), stored = storedMatches media.id jobId newId now
      (rankedCandidates media candidates)

/-- **What is done to a job**, claims apart. -/
inductive WorkStep (w : Work) : Work → Prop
  | queued {job : Job} (hnew : w.queue.get? job.id = none) (hjob : NewJob job) :
      WorkStep w { w with queue := w.queue.save job }
  | renewed {row : Job} {now : DateTime} (hrow : row ∈ w.queue) (hrunning : row.status = .running) :
      WorkStep w { w with queue := w.queue.save { row with lockedAt := some now } }
  | noted {row : Job} {payload : JobPayload} (hrow : row ∈ w.queue)
      (hactive : isActiveJob row.status = true) :
      WorkStep w { w with queue := w.queue.save { row with payload } }
  | succeeded {row : Job} (hrow : row ∈ w.queue) (hrunning : row.status = .running) :
      WorkStep w { w with queue := w.queue.save (succeededJob row) }
  | failed {row : Job} {error : AppError} {now : DateTime} (hrow : row ∈ w.queue)
      (hrunning : row.status = .running) :
      WorkStep w { w with queue := w.queue.save (failedJob row error now) }
  | cancelled {row : Job} (hrow : row ∈ w.queue) (hactive : isActiveJob row.status = true) :
      WorkStep w { w with queue := w.queue.save (cancelledJob row) }
  /-- A resolution that succeeds, with the matches that it brings. -/
  | resolved {row : Job} {stored : List MetadataMatch} {found : Table MetadataMatch}
      (hrow : row ∈ w.queue) (hrunning : row.status = .running) (hranking : Ranking row.id stored)
      (hfound : found.rows = w.found.rows ++ stored) :
      WorkStep w { queue := w.queue.save (succeededJob row), found }

/-- A change of the database, as the jobs and the matches see it. -/
def OnWork (db db' : WorkflowDb) : Prop :=
  workOf db' = workOf db ∨ WorkStep (workOf db) (workOf db')

/-! ### Steps of a unit of work -/

section Steps

variable {α : Type} {db : WorkflowDb} {Q : α → WorkflowDb → Prop}

/-- A unit of work that leaves the jobs and the matches alone. -/
theorem does_aside {m : WorkflowTx α}
    (h : Tx.wp m (fun _ db' => workOf db' = workOf db) (fun _ _ => True) db) :
    Does OnWork m (fun _ db' => workOf db' = workOf db) db :=
  Tx.wp_mono h (fun _ _ heq => ⟨Relation.ReflTransGen.single (Or.inl heq), heq⟩) fun _ _ => id

theorem does_modify_aside {f : WorkflowDb → WorkflowDb} (h : workOf (f db) = workOf db) :
    Does OnWork (Tx.modify f : WorkflowTx Unit) (fun _ db' => db' = f db) db :=
  does_modify (Or.inl h) rfl

theorem works_lockMedia {mediaId : String} {f : Models.MediaItem → WorkflowTx α}
    (h : ∀ media, media ∈ db.media → Does OnWork (f media) Q db) :
    Does OnWork (lockMedia mediaId >>= f) Q db := by
  refine Does.bind (P := fun media s => s = db ∧ media ∈ db.media) ?_ ?_
  · refine (Tx.wp_bind _ _).mpr ((Tx.wp_get _).mpr ((Tx.wp_ofOption _ _).mpr ⟨?_, fun _ => trivial⟩))
    intro media hmedia
    exact ⟨Relation.ReflTransGen.refl, rfl, (Table.get?_eq_some.mp hmedia).1⟩
  · rintro media s - ⟨rfl, hrow⟩
    exact h media hrow

theorem works_inControl (m : DbTx α) :
    Does OnWork (inControl m) (fun _ db' => workOf db' = workOf db) db :=
  does_aside ((Tx.wp_zoom _ _ m).mpr (Tx.wp_mono (Tx.wp_trivial m) (fun _ _ _ => rfl)
    fun _ _ => id))

theorem works_addAudit (eventType entityType entityId : String) :
    Does OnWork (addAudit eventType entityType entityId) (fun _ db' => workOf db' = workOf db) db :=
  does_aside rfl

theorem works_saveMedia (media : Models.MediaItem) :
    Does OnWork (saveMedia media) (fun _ db' => workOf db' = workOf db) db :=
  does_aside rfl

theorem works_writeMedia (held media row : Models.MediaItem) :
    Does OnWork (writeMedia held media row) (fun _ db' => workOf db' = workOf db) db :=
  does_get (does_require fun _ => works_saveMedia _)

/-- The status of a search is none of the queue. -/
theorem works_refresh (mediaId : String) (held : Option WorkflowStatus) :
    Does OnWork (refreshMediaSearchWorkflowStatus mediaId held)
      (fun _ db' => workOf db' = workOf db) db :=
  does_aside (wp_refreshMediaSearchWorkflowStatus (fun _ => workOf_refreshed mediaId db)
    fun _ _ => rfl)

/-- A new job. -/
theorem works_insertQueuedJob {job : Job} (hjob : NewJob job) :
    Does OnWork (insertQueuedJob job)
      (fun _ db' => db.queue.get? job.id = none ∧ db' = { db with queue := db.queue.save job })
      db := by
  refine does_get (does_require ?_)
  rintro ⟨hnew, -⟩
  exact does_modify (Or.inr (.queued hnew hjob)) ⟨hnew, rfl⟩

end Steps

/-! ### Services -/

section Services

variable {db : WorkflowDb}

/-- `cancel_metadata_resolution_job`, for a job that is as it was read. -/
theorem cancelMetadataResolutionJob_works {job row : Job} (hrow : row ∈ db.queue)
    (hread : AsRead job row) :
    Does OnWork (cancelMetadataResolutionJob job row)
      (fun _ db' => ∀ other ∈ db.queue, other.id ≠ row.id → other ∈ db'.queue) db := by
  refine does_ite (fun hactive => ?_) fun _ => does_pure fun _ h _ => h
  have hactive' : isActiveJob row.status = true := by
    rw [hread.1]
    exact hactive
  refine Does.bind (P := fun _ db' => db' = { db with queue := db.queue.save (cancelledJob row) })
    (does_get (does_require fun _ => ?_)) ?_
  · rw [writtenJob_cancelledJob hread]
    exact does_modify (Or.inr (.cancelled hrow hactive')) rfl
  rintro _ _ - rfl
  refine Does.bind (works_addAudit _ _ _) fun _ db' _ heq => does_pure fun other hother hne => ?_
  rw [queue_eq heq]
  exact Table.mem_save_of_ne hother hne

/-- Resolutions are cancelled one after the other. -/
theorem cancelMetadataResolutionJobs_works (jobs : List Job) {db : WorkflowDb}
    (hrows : ∀ job ∈ jobs, job ∈ db.queue) (hdistinct : (jobs.map Job.id).Nodup) :
    Does OnWork (cancelMetadataResolutionJobs jobs) (fun _ _ => True) db := by
  induction jobs generalizing db with
  | nil => exact does_pure trivial
  | cons job jobs ih =>
      rw [List.map_cons, List.nodup_cons] at hdistinct
      refine Does.bind (cancelMetadataResolutionJob_works (hrows job List.mem_cons_self)
        (AsRead.refl job)) ?_
      intro _ _ _ hothers
      refine Does.bind (ih (fun other hother => ?_) hdistinct.2) fun _ _ _ _ => does_pure trivial
      refine hothers other (hrows other (List.mem_cons_of_mem _ hother)) fun hid => hdistinct.1 ?_
      exact hid ▸ List.mem_map_of_mem hother

/-- `cancel_active_metadata_resolution_jobs`. -/
theorem cancelActiveMetadataResolutionJobs_works (mediaId : String) :
    Does OnWork (cancelActiveMetadataResolutionJobs mediaId) (fun _ _ => True) db :=
  does_get (cancelMetadataResolutionJobs_works _ (fun _ hjob => (List.mem_filter.mp hjob).1)
    (db.queue.nodup.sublist (List.filter_sublist.map _)))

/-- `enqueue_metadata_resolution`. -/
theorem enqueueMetadataResolution_works (mediaId : String) {maxAttempts : ℕ}
    (hmax : 1 ≤ maxAttempts) (newId : Uuid) (now : DateTime) (held : Option Models.MediaItem) :
    Does OnWork (enqueueMetadataResolution mediaId maxAttempts newId now held) (fun _ _ => True)
      db := by
  refine works_lockMedia fun row _ => does_get (does_require fun _ => ?_)
  generalize held.getD row = media
  cases activeJob db (.resolveMetadata media.id) with
  | some existing => exact does_pure trivial
  | none =>
      refine Does.bind (works_saveMedia _) fun _ _ _ _ => ?_
      refine Does.bind (works_insertQueuedJob ⟨rfl, rfl, hmax, rfl, rfl, rfl, rfl⟩) fun _ _ _ _ => ?_
      exact Does.bind (works_addAudit _ _ _) fun _ _ _ _ => does_pure trivial

/-- `confirm_identity`. -/
theorem confirmIdentity_works (mediaId metadataMatchId actor auditEventType : String)
    (newId : Uuid) (now : DateTime) (held : Option Models.MediaItem) :
    Does OnWork (confirmIdentity mediaId metadataMatchId actor auditEventType newId now held)
      (fun _ _ => True) db := by
  refine works_lockMedia fun row _ => does_get (does_require fun _ => ?_)
  generalize held.getD row = media
  refine does_ofOption fun stored _ => does_ofOption fun candidate _ => does_require fun _ => ?_
  refine Does.bind (cancelActiveMetadataResolutionJobs_works media.id) fun _ _ _ _ => ?_
  refine Does.bind (works_writeMedia _ _ _) fun _ _ _ _ => ?_
  refine Does.bind (P := fun _ _ => True) ?_ fun _ _ _ _ => ?_
  · exact does_get (does_require fun _ => (does_modify_aside rfl).mono fun _ _ _ => trivial)
  · exact Does.bind (works_addAudit _ _ _) fun _ _ _ _ => does_pure trivial

/-- `enqueue_torrent_search`, with the row of the job that it comes to. -/
theorem enqueueTorrentSearch_works (mediaId : String) (request : TorrentSearchCreateRequest)
    (settings : WorkflowSettings) (newIds : Uuid × Uuid) (now : DateTime)
    (held : Option Models.MediaItem) :
    Does OnWork (enqueueTorrentSearch mediaId request settings newIds now held) HasJob db := by
  refine works_lockMedia fun row _ => does_get (does_ofOption fun review _ => ?_)
  generalize held.getD row = media
  cases hactive : activeSearch db media.id request.siteId with
  | some found => exact does_pure (mem_of_activeSearch hactive)
  | none =>
      unfold queueTorrentSearch
      refine Does.bind (P := fun _ _ => True) ?_ fun _ _ _ _ => ?_
      · exact does_get (does_require fun _ => (does_modify_aside rfl).mono fun _ _ _ => trivial)
      refine Does.bind (works_insertQueuedJob
        ⟨rfl, rfl, settings.jobMaxAttempts_bounds.1, rfl, rfl, rfl, rfl⟩) ?_
      rintro _ _ - ⟨-, rfl⟩
      refine Does.bind (works_addAudit _ _ _) fun _ _ _ haudit => ?_
      refine Does.bind (works_refresh _ _) fun _ db' _ hrefresh => does_pure ⟨?_, rfl⟩
      rw [queue_eq (hrefresh.trans haudit)]
      exact Table.mem_save_self _ _

/-- `maybe_automate_torrent_search_after_identity`. -/
theorem maybeAutomateTorrentSearchAfterIdentity_works (media : Models.MediaItem)
    (settings : WorkflowSettings) (env : IdentityEnvironment) :
    Does OnWork (maybeAutomateTorrentSearchAfterIdentity media settings env) (fun _ _ => True)
      db := by
  refine Does.bind (works_inControl _) ?_
  rintro ⟨created, revision⟩ _ - -
  refine does_ite (fun _ => does_pure trivial) fun _ => ?_
  cases env.searchableSite media.mediaType with
  | none => exact does_pure trivial
  | some siteId =>
      refine Does.bind (enqueueTorrentSearch_works _ _ _ _ _ _) ?_
      rintro ⟨run, job, existed⟩ _ - ⟨hrow, hactive⟩
      exact Does.bind (P := fun _ _ => True)
        (does_modify (Or.inr (.noted hrow hactive)) trivial) fun _ _ _ _ => does_pure trivial

/-- `maybe_automate_identity`. -/
theorem maybeAutomateIdentity_works (job : Job) (media : Models.MediaItem)
    (settings : WorkflowSettings) (env : IdentityEnvironment) :
    Does OnWork (maybeAutomateIdentity job media settings env) (fun _ _ => True) db := by
  have hdecline : ∀ (revision : AutomationPolicyRevision) (spec : IdentityDecisionSpec)
      (db : WorkflowDb),
      Does OnWork (declineIdentity revision spec env) (fun _ _ => True) db :=
    fun _ _ _ => Does.bind (works_inControl _) fun _ _ _ _ => does_pure trivial
  refine Does.bind (works_inControl _) ?_
  rintro ⟨head, revision⟩ _ - -
  refine does_get ?_
  split
  · exact hdecline _ _ _
  · refine does_ofExcept fun eligibility _ => ?_
    split
    · refine Does.bind (works_inControl _) ?_
      rintro ⟨decision, created⟩ _ - -
      refine does_ite (fun _ => does_pure trivial) fun _ => ?_
      refine Does.bind (confirmIdentity_works _ _ _ _ _ _ _) fun confirmed _ _ _ => ?_
      exact Does.bind (maybeAutomateTorrentSearchAfterIdentity_works _ _ _)
        fun _ _ _ _ => does_pure trivial
    · exact hdecline _ _ _

/-- The judgement on the identity after the candidates are stored. -/
theorem automateIdentity_works (job : Job) (media : Models.MediaItem)
    (stored : List MetadataMatch) (settings : WorkflowSettings) (env : IdentityEnvironment) :
    Does OnWork (automateIdentity job media stored settings env) (fun _ _ => True) db := by
  refine Does.bind (P := fun _ _ => True) ?_ fun strictReview _ _ _ => ?_
  · unfold autoConfirmStrictIdentity
    split
    · exact does_pure trivial
    · exact Does.bind (confirmIdentity_works _ _ _ _ _ _ _) fun _ _ _ _ => does_pure trivial
  · cases strictReview with
    | none =>
        exact Does.bind (maybeAutomateIdentity_works _ _ _ _) fun _ _ _ _ => does_pure trivial
    | some review =>
        refine works_lockMedia fun confirmed _ => ?_
        exact Does.bind (maybeAutomateTorrentSearchAfterIdentity_works _ _ _)
          fun _ _ _ _ => does_pure trivial

end Services

/-! ### Workers -/

section Workers

variable {db : WorkflowDb}

/-- `renew_lease`. -/
theorem renewJobLease_works (p : JobProcessor) (jobId : String) (leaseToken : Option String)
    (now : DateTime) :
    Does OnWork (renewJobLease p jobId leaseToken now) (fun _ _ => True) db := by
  refine does_get ?_
  split
  · exact does_pure trivial
  · rename_i job hjob
    obtain ⟨hrow, -, hrunning⟩ := ownedJob_row hjob
    exact Does.bind (P := fun _ _ => True) (does_modify (Or.inr (.renewed hrow hrunning)) trivial)
      fun _ _ _ _ => does_pure trivial

/-- `_prepare_metadata_resolution`. -/
theorem prepareMetadataResolution_works (p : JobProcessor) (jobId mediaId : String)
    (leaseToken : Option String) :
    Does OnWork (prepareMetadataResolution p jobId mediaId leaseToken) (fun _ _ => True) db := by
  refine works_lockMedia fun media _ => does_get ?_
  split
  · exact does_pure trivial
  · rename_i job howned
    refine does_ite (fun _ => ?_) fun _ => does_pure trivial
    exact Does.bind (cancelMetadataResolutionJob_works (ownedJob_row howned).1 (AsRead.refl _))
      fun _ _ _ _ => does_pure trivial

omit [WorkflowRuntime] in
/-- The matches of a resolution are added at the end, one after the other. -/
theorem insertMatches_found (stored : List MetadataMatch) {db : WorkflowDb} :
    Tx.wp (insertMatches stored)
      (fun _ db' => ∃ found : Table MetadataMatch, db' = { db with metadataMatches := found } ∧
        found.rows = db.metadataMatches.rows ++ stored) (fun _ _ => True) db := by
  induction stored generalizing db with
  | nil => exact (Tx.wp_pure _).mpr ⟨_, rfl, (List.append_nil _).symm⟩
  | cons one others ih =>
      unfold insertMatches
      simp only [Tx.wp_bind, Tx.wp_get, Tx.wp_require, Tx.wp_modify, implies_true, and_true]
      intro hnew
      refine Tx.wp_mono ih ?_ fun _ _ => id
      rintro _ _ ⟨found, rfl, hrows⟩
      refine ⟨found, rfl, hrows.trans ?_⟩
      rw [Table.rows_save_of_new hnew, List.append_assoc]
      rfl

/-- The candidates of a resolution are stored, and the job succeeds, in one go. -/
theorem storeCandidates_works {job : Job} (hrow : job ∈ db.queue) (hrunning : job.status = .running)
    (media : Models.MediaItem) (candidates : List MetadataRecord) (settings : WorkflowSettings)
    (matchId : ℕ → Uuid) (env : IdentityEnvironment) :
    Does OnWork (storeCandidates job media candidates settings matchId env) (fun _ _ => True)
      db := by
  refine does_of_wp ((Tx.wp_bind _ _).mpr (Tx.wp_mono (insertMatches_found _) ?_ fun _ _ => id))
  rintro _ _ ⟨found, rfl, hrows⟩
  refine (Tx.wp_bind _ _).mpr ((Tx.wp_modify _ _).mpr ?_)
  -- the rest of the transaction, after the two tables are written
  have hrest : Does OnWork (do
      saveMedia (reviewableMedia media (rankedCandidates media candidates))
      automateIdentity job (reviewableMedia media (rankedCandidates media candidates))
        (storedMatches media.id job.id matchId (env.clock 0) (rankedCandidates media candidates))
        settings env
      addAudit "METADATA_CANDIDATES_READY" "media_item" media.id) (fun _ _ => True)
      { db with metadataMatches := found, queue := db.queue.save (succeededJob job) } := by
    refine Does.bind (works_saveMedia _) fun _ _ _ _ => ?_
    refine Does.bind (automateIdentity_works _ _ _ _ _) fun _ _ _ _ => ?_
    exact (works_addAudit _ _ _).mono fun _ _ _ => trivial
  have hstep : OnWork db { db with
      metadataMatches := found, queue := db.queue.save (succeededJob job) } :=
    Or.inr (.resolved hrow hrunning ⟨media, candidates, matchId, env.clock 0, rfl⟩ hrows)
  refine Tx.wp_mono hrest (fun _ _ hdone => ⟨?_, trivial⟩) fun _ _ => id
  exact (Relation.ReflTransGen.single hstep).trans hdone.1

/-- `_complete_metadata_resolution`. -/
theorem completeMetadataResolution_works (p : JobProcessor) (jobId mediaId : String)
    (candidates : List MetadataRecord) (leaseToken : Option String) (settings : WorkflowSettings)
    (matchId : ℕ → Uuid) (env : IdentityEnvironment) :
    Does OnWork
      (completeMetadataResolution p jobId mediaId candidates leaseToken settings matchId env)
      (fun _ _ => True) db := by
  unfold completeMetadataResolution
  refine does_get ?_
  split
  · rename_i media job hmedia howned
    obtain ⟨hrow, -, hrunning⟩ := ownedJob_row howned
    refine does_ite (fun _ => ?_) fun _ => does_require fun _ => ?_
    · exact Does.bind (cancelMetadataResolutionJob_works hrow (AsRead.refl job))
        fun _ _ _ _ => does_pure trivial
    · exact storeCandidates_works hrow hrunning _ _ _ _ _
  · exact does_pure trivial

omit [WorkflowRuntime] in
/-- The candidates of a search are none of the queue. -/
theorem insertCandidates_aside (run : TorrentSearchRun) (now : DateTime)
    (candidates : List (ScoredCandidate × Uuid)) {db : WorkflowDb} :
    Tx.wp (insertCandidates run now candidates) (fun _ db' => workOf db' = workOf db)
      (fun _ _ => True) db := by
  induction candidates generalizing db with
  | nil => exact (Tx.wp_pure _).mpr rfl
  | cons one others ih =>
      unfold insertCandidates
      simp only [Tx.wp_bind, Tx.wp_get, Tx.wp_require, Tx.wp_modify, implies_true, and_true]
      exact fun _ => ih

/-- `_complete_torrent_search`. -/
theorem completeTorrentSearch_works (p : JobProcessor) (jobId searchRunId mediaId : String)
    (candidates : List (ScoredCandidate × Uuid)) (strategyLog : List (String × ℕ))
    (leaseToken : Option String) (settings : WorkflowSettings) (now : DateTime) :
    Does OnWork (completeTorrentSearch p jobId searchRunId mediaId candidates strategyLog
      leaseToken settings now) (fun _ _ => True) db := by
  unfold completeTorrentSearch
  refine does_get ?_
  split
  · rename_i job run media howned hrun hmedia
    obtain ⟨hrow, -, hrunning⟩ := ownedJob_row howned
    refine does_ofExcept fun _ _ => ?_
    refine Does.bind (does_aside (insertCandidates_aside _ _ _)) fun _ _ _ hfound => ?_
    refine Does.bind (does_modify_aside rfl) ?_
    rintro _ _ - rfl
    refine Does.bind (works_refresh _ _) fun _ db' _ hrefresh => ?_
    have hmem : job ∈ db'.queue := by
      rw [queue_eq (hrefresh.trans hfound)]
      exact hrow
    exact Does.bind (P := fun _ _ => True) (does_modify (Or.inr (.succeeded hmem hrunning)) trivial)
      fun _ _ _ _ => (works_addAudit _ _ _).mono fun _ _ _ => trivial
  · exact does_pure trivial

omit [WorkflowRuntime] in
/-- The import of one item. -/
theorem importItem_aside (item : MediaItemData) (newId : Uuid) {db : WorkflowDb} :
    Tx.wp (importItem item newId) (fun _ db' => workOf db' = workOf db) (fun _ _ => True) db := by
  unfold importItem
  refine (Tx.wp_bind _ _).mpr ((Tx.wp_get _).mpr ?_)
  split
  · unfold insertMedia saveMedia
    simp only [Tx.wp_bind, Tx.wp_get, Tx.wp_require, Tx.wp_modify, Tx.wp_pure, implies_true,
      and_true]
    exact fun _ => rfl
  · unfold saveMedia
    simp only [Tx.wp_bind, Tx.wp_modify, Tx.wp_pure]
    rfl

omit [WorkflowRuntime] in
/-- The import of the items. -/
theorem importItems_aside (imports : List (MediaItemData × Uuid)) {db : WorkflowDb} :
    Tx.wp (importItems imports) (fun _ db' => workOf db' = workOf db) (fun _ _ => True) db := by
  induction imports generalizing db with
  | nil => exact (Tx.wp_pure _).mpr rfl
  | cons one rest ih =>
      unfold importItems
      simp only [Tx.wp_bind, Tx.wp_pure]
      refine Tx.wp_mono (importItem_aside _ _) (fun _ db' heq => ?_) fun _ _ => id
      exact Tx.wp_mono ih (fun _ _ heq' => heq'.trans heq) fun _ _ => id

/-- The resolution of one imported item. -/
theorem resolveImported_works {maxAttempts : ℕ} (hmax : 1 ≤ maxAttempts) (now : DateTime)
    (imported : ImportedItem) (newId : Uuid) :
    Does OnWork (resolveImported maxAttempts now imported newId) (fun _ _ => True) db := by
  refine works_lockMedia fun media _ => does_get ?_
  refine does_ite (fun _ => does_pure trivial) fun _ => ?_
  have henqueue : ∀ db' : WorkflowDb, Does OnWork (do
      let _ ← enqueueMetadataResolution media.id maxAttempts newId now
      return ()) (fun _ _ => True) db' :=
    fun _ => Does.bind (enqueueMetadataResolution_works _ hmax _ _ _)
      fun _ _ _ _ => does_pure trivial
  refine does_ite (fun _ => ?_) fun _ => henqueue db
  exact Does.bind (cancelActiveMetadataResolutionJobs_works media.id) fun _ db' _ _ => henqueue db'

/-- The resolutions of the imported items. -/
theorem resolveImports_works {maxAttempts : ℕ} (hmax : 1 ≤ maxAttempts) (now : DateTime)
    (imports : List (ImportedItem × Uuid)) {db : WorkflowDb} :
    Does OnWork (resolveImports maxAttempts now imports) (fun _ _ => True) db := by
  induction imports generalizing db with
  | nil => exact does_pure trivial
  | cons one rest ih =>
      exact Does.bind (resolveImported_works hmax now one.1 one.2) fun _ _ _ _ => ih

/-- `_complete_discovery`; the job is none that the imports cancel. -/
theorem completeDiscovery_works (p : JobProcessor) {jobId : String} (runId : String)
    (items : List MediaItemData) (leaseToken : Option String) (mediaIds jobIds : ℕ → Uuid)
    (now : DateTime) (hjob : ∀ job ∈ db.queue, job.id = jobId → job.jobType.isResolution = false)
    (hmax : ∀ job ∈ db.queue, 1 ≤ job.maxAttempts) :
    Does OnWork (completeDiscovery p jobId runId items leaseToken mediaIds jobIds now)
      (fun _ _ => True) db := by
  unfold completeDiscovery
  refine does_get ?_
  split
  · rename_i job run howned hrun
    obtain ⟨hrow, hid, hrunning⟩ := ownedJob_row howned
    have hother := hjob job hrow hid
    have hend : ∀ (run : DiscoveryRun) (db' : WorkflowDb), job ∈ db'.queue → Does OnWork (do
        saveQueuedJob (succeededJob job)
        saveDiscoveryRun run
        addAudit "DISCOVERY_RUN_SUCCEEDED" "discovery_run" runId) (fun _ _ => True) db' := by
      intro run db' hmem
      refine Does.bind (P := fun _ _ => True)
        (does_modify (Or.inr (.succeeded hmem hrunning)) trivial) fun _ _ _ _ => ?_
      refine Does.bind (does_modify_aside rfl) fun _ _ _ _ => ?_
      exact (works_addAudit _ _ _).mono fun _ _ _ => trivial
    obtain ⟨-, rfl⟩ := Table.get?_eq_some.mp hrun
    unfold storeDiscovery
    refine Does.bind (does_aside (importItems_aside _)) fun imported db' _ himported => ?_
    have hmem : job ∈ db'.queue := by
      rw [queue_eq himported]
      exact hrow
    refine does_ite (fun _ => ?_) fun _ => hend _ db' hmem
    -- what the imports cancel are resolutions
    refine Does.bind ((resolveImports_works (hmax job hrow) _ _).and
      (@resolveImports_does _ bystander _ _ _ _)) ?_
    exact fun _ db'' _ hkept => hend _ db'' (hkept.2 job hmem hother)
  · exact does_pure trivial

omit [WorkflowRuntime] in
/-- The countries of the media items are none of the queue. -/
theorem updateAllCountryCodes_aside (values : List (MediaType × Int × List String))
    {db : WorkflowDb} :
    Tx.wp (updateAllCountryCodes values) (fun _ db' => workOf db' = workOf db) (fun _ _ => True)
      db := by
  have hone : ∀ (mediaType : MediaType) (tmdbId : Int) (codes : List String)
      (rows : List Models.MediaItem) (db : WorkflowDb),
      Tx.wp (updateCountryCodes mediaType tmdbId codes rows)
        (fun _ db' => workOf db' = workOf db) (fun _ _ => True) db := by
    intro mediaType tmdbId codes rows
    induction rows with
    | nil => exact fun _ => (Tx.wp_pure _).mpr rfl
    | cons media rest ih =>
        intro db
        exact (Tx.wp_bind _ _).mpr ((Tx.wp_modify _ _).mpr (ih _))
  induction values generalizing db with
  | nil => exact (Tx.wp_pure _).mpr rfl
  | cons value rest ih =>
      refine (Tx.wp_bind _ _).mpr ((Tx.wp_get _).mpr ((Tx.wp_bind _ _).mpr ?_))
      refine Tx.wp_mono (hone _ _ _ _ _) (fun _ _ heq => ?_) fun _ _ => id
      exact Tx.wp_mono ih (fun _ _ heq' => heq'.trans heq) fun _ _ => id

omit [WorkflowRuntime] in
/-- The discovery of a job that failed is none of the queue. -/
theorem failDiscoveryRun_aside (job : Job) (error : AppError) (now : DateTime) :
    Tx.wp (failDiscoveryRun job error now) (fun _ db' => workOf db' = workOf db)
      (fun _ _ => True) db := by
  unfold failDiscoveryRun
  refine (Tx.wp_bind _ _).mpr ((Tx.wp_get _).mpr ?_)
  split <;> rfl

omit [WorkflowRuntime] in
/-- What a failure does beside the job. -/
theorem failSubject_aside (job : Job) (error : AppError) (now : DateTime) :
    Tx.wp (failSubject job error now) (fun _ db' => workOf db' = workOf db) (fun _ _ => True)
      db := by
  unfold failSubject
  refine (Tx.wp_bind _ _).mpr ((Tx.wp_get _).mpr ?_)
  refine (Tx.wp_ite _ _ _).mpr ⟨fun _ => ?_, fun _ => (Tx.wp_ite _ _ _).mpr ⟨fun _ => ?_, fun _ =>
    (Tx.wp_pure _).mpr rfl⟩⟩
  · split
    · exact (Tx.wp_ite _ _ _).mpr ⟨fun _ => rfl, fun _ => rfl⟩
    · exact (Tx.wp_pure _).mpr rfl
  · split
    · unfold failSearch saveSearchRun addAudit
      rw [Tx.wp_bind, Tx.wp_modify, Tx.wp_bind]
      exact wp_refreshSearched rfl (workOf_refreshedFor job.payload.mediaId _)
    · exact (Tx.wp_pure _).mpr rfl

/-- `_fail`, for a job that is as it was read. -/
theorem failJob_works (p : JobProcessor) {held : Job} {jobId : String} (error : AppError)
    {leaseToken : Option String} (now : DateTime)
    (hread : p.ownsLease held leaseToken = true →
      ∀ row ∈ db.queue.get? jobId, AsRead held row) :
    Does OnWork (failJob p held jobId error leaseToken now) (fun _ _ => True) db := by
  unfold failJob
  refine does_get ?_
  split
  · exact does_pure trivial
  rename_i row hget
  have hrow := Table.mem_of_get?_eq_some hget
  rw [Option.getD_some]
  refine does_ite (fun howns => ?_) fun _ => does_pure trivial
  have hasRead := hread howns row hget
  refine does_ite (fun _ => ?_) fun _ => ?_
  · exact Does.bind (cancelMetadataResolutionJob_works hrow hasRead)
      fun _ _ _ _ => does_pure trivial
  · have hrunning : row.status = .running := by
      rw [hasRead.1]
      exact running_of_ownsLease howns
    refine Does.bind (P := fun _ _ => True) (does_get (does_require fun _ => ?_))
      fun _ _ _ _ => ?_
    · rw [writtenJob_failedJob hasRead]
      exact does_modify (Or.inr (.failed hrow hrunning)) trivial
    refine Does.bind (does_aside (failDiscoveryRun_aside _ _ _)) fun _ _ _ _ => ?_
    exact (does_aside (failSubject_aside _ _ _)).mono fun _ _ _ => trivial

end Workers

/-! ### Routes -/

section Routes

variable {db : WorkflowDb}

/-- `start_discovery`. -/
theorem startDiscovery_works (configured : Bool) (settings : WorkflowSettings)
    (newIds : Uuid × Uuid) (now : DateTime) :
    Does OnWork (Api.startDiscovery configured settings newIds now) (fun _ _ => True) db := by
  refine does_require fun _ => ?_
  refine Does.bind (P := fun _ _ => True) ?_ fun _ _ _ _ => does_pure trivial
  unfold createDiscoveryRun
  refine does_get ?_
  split
  · exact does_pure trivial
  · refine Does.bind (P := fun _ _ => True) ?_ fun _ _ _ _ => ?_
    · exact does_get (does_require fun _ => (does_modify_aside rfl).mono fun _ _ _ => trivial)
    · refine Does.bind (works_insertQueuedJob
        ⟨rfl, rfl, settings.jobMaxAttempts_bounds.1, rfl, rfl, rfl, rfl⟩) fun _ _ _ _ => ?_
      exact Does.bind (works_addAudit _ _ _) fun _ _ _ _ => does_pure trivial

/-- `resolve_media`. -/
theorem resolveMedia_works (held : Option Models.MediaItem) (mediaId : String)
    (settings : WorkflowSettings) (newIds : Uuid × Uuid) (clock : ℕ → DateTime) :
    Does OnWork (Api.resolveMedia held mediaId settings newIds clock) (fun _ _ => True) db := by
  refine Does.bind (works_inControl _) fun _ _ _ _ => ?_
  refine does_require fun _ => does_require fun _ => does_ofOption fun media _ => ?_
  exact Does.bind (enqueueMetadataResolution_works _ settings.jobMaxAttempts_bounds.1 _ _ _)
    fun _ _ _ _ => does_pure trivial

/-- `create_identity_confirmation`. -/
theorem createIdentityConfirmation_works (held : Option Models.MediaItem)
    (mediaId metadataMatchId username : String) (settings : WorkflowSettings)
    (env : IdentityEnvironment) :
    Does OnWork (Api.createIdentityConfirmation held mediaId metadataMatchId username settings env)
      (fun _ _ => True) db := by
  refine Does.bind (works_inControl _) fun _ _ _ _ => does_ofOption fun media _ => ?_
  refine Does.bind (confirmIdentity_works _ _ _ _ _ _ _) fun confirmed _ _ _ => ?_
  exact Does.bind (maybeAutomateTorrentSearchAfterIdentity_works _ _ _)
    fun _ _ _ _ => does_pure trivial

/-- `create_torrent_search`. -/
theorem createTorrentSearch_works (held : Option Models.MediaItem) (mediaId : String)
    (request : TorrentSearchCreateRequest)
    (requireSearchable : String → Option MediaType → Except AppError Unit)
    (settings : WorkflowSettings) (newIds : Uuid × Uuid × Uuid) (clock : ℕ → DateTime) :
    Does OnWork
      (Api.createTorrentSearch held mediaId request requireSearchable settings newIds clock)
      (fun _ _ => True) db := by
  refine does_ofExcept fun _ _ => Does.bind (works_inControl _) fun _ _ _ _ => ?_
  refine does_ofOption fun media _ => does_ofExcept fun _ _ => ?_
  exact Does.bind (enqueueTorrentSearch_works _ _ _ _ _ _) fun _ _ _ _ => does_pure trivial

end Routes

/-! ### Operations -/

section Operations

variable {w : World}

/-- A unit of work that claims no job. -/
theorem works_alone {db : WorkflowDb} {body : WorkflowTx Unit}
    (h : Does OnWork body (fun _ _ => True) db) :
    Does OnWork (alone body) (fun claimed _ => claimed = none) db :=
  Does.bind h fun _ _ _ _ => does_pure rfl

/-- A unit of work on what a job is about. -/
theorem works_onSubject {db : WorkflowDb} {β : Type} {subject : Option β}
    {body : β → WorkflowTx Unit}
    (h : ∀ s, subject = some s → Does OnWork (body s) (fun _ _ => True) db) :
    Does OnWork (onSubject subject body) (fun claimed _ => claimed = none) db := by
  unfold onSubject
  split
  · exact works_alone (h _ rfl)
  · exact does_pure rfl

/-- Whether an operation claims a job. -/
def Operation.isClaim : Operation → Bool
  | .claimJob .. => true
  | _ => false

/-- **What the unit of work of an operation does to the jobs** and the matches, claims apart, where a
job that fails is as it was read. -/
theorem Operation.body_works (op : Operation) (hother : op.isClaim = false)
    (hread : op.leaseAsRead w) (h : Sound w)
    (hmax : ∀ job ∈ w.db.queue, 1 ≤ job.maxAttempts)
    (hclaim : ∀ claim, op.claim? = some claim → claim ∈ w.claims) :
    Does OnWork (op.body w) (fun claimed _ => claimed = none) w.db := by
  cases op with
  | startDiscovery => exact works_alone (startDiscovery_works _ _ _ _)
  | resolveMedia => exact works_alone (resolveMedia_works _ _ _ _ _)
  | confirmIdentity => exact works_alone (createIdentityConfirmation_works _ _ _ _ _ _)
  | createTorrentSearch => exact works_alone (createTorrentSearch_works _ _ _ _ _ _ _)
  | claimJob => cases hother
  | renewLease =>
      exact works_alone (Does.bind (renewJobLease_works _ _ _ _) fun _ _ _ _ => does_pure trivial)
  | prepareResolution p claim =>
      exact works_onSubject fun mediaId _ => Does.bind (prepareMetadataResolution_works _ _ _ _)
        fun _ _ _ _ => does_pure trivial
  | completeResolution =>
      exact works_onSubject fun mediaId _ => completeMetadataResolution_works _ _ _ _ _ _ _ _
  | completeSearch =>
      exact works_onSubject fun _ _ => completeTorrentSearch_works _ _ _ _ _ _ _ _ _
  | completeDiscovery p claim items mediaIds jobIds now =>
      refine works_onSubject fun runId hsubject => ?_
      refine completeDiscovery_works _ _ _ _ _ _ _ (fun job hjob hid => ?_) hmax
      rw [(h.remembered.row (hclaim claim rfl) hjob hid).jobType]
      unfold discoverySubject at hsubject
      split at hsubject
      · rename_i htype
        rw [htype]
        rfl
      · cases hsubject
  | checkpointCountries p claim values =>
      refine works_onSubject fun _ _ => does_get (does_require fun _ => ?_)
      exact (does_aside (updateAllCountryCodes_aside values)).mono fun _ _ _ => trivial
  | fail p claim ago error now =>
      exact works_onSubject fun held hheld => failJob_works _ _ _ (hread held hheld)
  | elsewhere control =>
      exact works_alone ((does_modify_aside rfl).mono fun _ _ _ => trivial)

end Operations

end LibSeek.Workflow
