/-
What the workflow writes.

The units of work of the routes and of the workers are long, but what they write falls into few
kinds of changes.  This module says once what each kind of change is and what has been checked
before it is made; what holds of every run is derived from that.

Main definitions:

* `Workflow.Agent` — what whoever makes a change may do;
* `Workflow.refreshed` — the database after the status of a search is refreshed;
* `Workflow.NewSearch` — what is checked of a search that is queued;
* `Workflow.Move` — **the changes**.

Main results:

* `Workflow.does_lockMedia`, … — one rule for each step of a unit of work;
* `Workflow.confirmIdentity_does`, `Workflow.enqueueTorrentSearch_does`, … — the changes that the
  services make.
-/

import LibSeek.Lib.Moving
import LibSeek.Workers.Processor
import LibSeek.Api.WorkflowRoutes

set_option relaxedAutoImplicit false
set_option autoImplicit false

namespace LibSeek.Workflow

open LibSeek.Core LibSeek.Lib LibSeek.Models LibSeek.Schemas LibSeek.Services LibSeek.Workers

/-! ### Changes -/

/-- What whoever makes a change may do: the reviews that are confirmed, the media items that are
searched for, given the reviews that there are, and the items of a discovery that are imported. -/
structure Agent where
  confirms : IdentityReview → Prop
  searches : Table IdentityReview → String → Prop
  imports : Option (List MediaItemData)
  /-- Whether it goes on with what it has read of a search, though the row has changed. -/
  outdated : Bool := false

/-- An operator who confirms an identity, which may then be searched for. -/
def confirmer : Agent where
  confirms _ := True
  searches _ _ := True
  imports := none

/-- An operator who asks for a search. -/
def searcher : Agent where
  confirms _ := False
  searches _ _ := True
  imports := none

/-- Whoever confirms nothing and searches for nothing. -/
def bystander : Agent where
  confirms _ := False
  searches _ _ := False
  imports := none

/-- A discovery that brought some items. -/
def importer (items : List MediaItemData) : Agent where
  confirms _ := False
  searches _ _ := False
  imports := some items

/-- The database after the status of the searches of a media item is refreshed. -/
def refreshed (mediaId : String) (db : WorkflowDb) : WorkflowDb :=
  match db.media.get? mediaId, foldedSearchStatus db mediaId with
  | some media, some status =>
      { db with media := db.media.save { media with workflowStatus := status } }
  | _, _ => db

/-- The same, where there may be no media item. -/
def refreshedFor (mediaId : Option String) (db : WorkflowDb) : WorkflowDb :=
  mediaId.elim db fun mediaId => refreshed mediaId db

/-- What a job is about, which is never written over. -/
structure SameJob (row row' : Job) : Prop where
  id : row'.id = row.id
  jobType : row'.jobType = row.jobType
  mediaId : row'.payload.mediaId = row.payload.mediaId
  searchRunId : row'.payload.searchRunId = row.payload.searchRunId

/-- What a search is for. -/
structure SameRun (run run' : TorrentSearchRun) : Prop where
  id : run'.id = run.id
  mediaId : run'.mediaId = run.mediaId
  siteId : run'.siteId = run.siteId

/-- What a media item was imported as. -/
structure SameItem (media media' : Models.MediaItem) : Prop where
  id : media'.id = media.id
  source : media'.source = media.source
  sourceItemId : media'.sourceItemId = media.sourceItemId
  mediaType : media'.mediaType = media.mediaType
  tmdbId : media'.tmdbId = media.tmdbId

/-- The states of a media item that has no identity yet. -/
def isUnresolved : WorkflowStatus → Bool
  | .discovered | .metadataPending | .identityReview => true
  | _ => false

/-- What has been checked where there is no evidence of a final identity. -/
theorem open_of_evidence {db : WorkflowDb} {media : Models.MediaItem}
    (h : identityFinalizationEvidence db media = none) :
    confirmedReviews db media.id = [] ∧ (∀ run ∈ db.searchRuns, run.mediaId ≠ media.id) ∧
      media.workflowStatus ≠ .identityConfirmed := by
  unfold identityFinalizationEvidence at h
  split at h
  · cases h
  · rename_i hreviews
    split at h
    · cases h
    · rename_i hruns
      split at h
      · cases h
      · rename_i hstatus
        refine ⟨not_not.mp hreviews, fun run hrun hid => hruns ?_, hstatus⟩
        exact List.any_eq_true.mpr ⟨run, hrun, decide_eq_true hid⟩

/-- What is checked of a search that is queued, and what its run and its job say. -/
structure NewSearch (db : WorkflowDb) (run : TorrentSearchRun) (job : Job) : Prop where
  media : (db.media.get? run.mediaId).isSome = true
  review : confirmedReviews db run.mediaId ≠ []
  new : db.searchRuns.get? run.id = none
  free : activeSearchRuns db run.mediaId run.siteId = []
  pending : run.status = .ptSearchPending
  jobNew : db.queue.get? job.id = none
  jobFree : activeJob db job.jobType = none
  jobType : job.jobType = .torrentSearch run.siteId run.mediaId
  jobPending : job.status = .pending
  mediaId : job.payload.mediaId = some run.mediaId
  runId : job.payload.searchRunId = some run.id

section Refreshed

variable (mediaId : String) (db : WorkflowDb)

/-- A refresh writes the row of the media item. -/
theorem refreshed_eq : ∃ media, refreshed mediaId db = { db with media } := by
  unfold refreshed
  split
  · exact ⟨_, rfl⟩
  · exact ⟨db.media, rfl⟩

@[simp] theorem refreshed_queue : (refreshed mediaId db).queue = db.queue := by
  obtain ⟨media, h⟩ := refreshed_eq mediaId db
  rw [h]

@[simp] theorem refreshed_searchRuns : (refreshed mediaId db).searchRuns = db.searchRuns := by
  obtain ⟨media, h⟩ := refreshed_eq mediaId db
  rw [h]

@[simp] theorem refreshed_reviews : (refreshed mediaId db).reviews = db.reviews := by
  obtain ⟨media, h⟩ := refreshed_eq mediaId db
  rw [h]

/-- A refresh reads nothing of the queue and of the audit. -/
theorem refreshed_with (queue : Table Job) (audit : List AuditEvent) :
    { refreshed mediaId db with queue, audit } = refreshed mediaId { db with queue, audit } := by
  have hfold : foldedSearchStatus { db with queue, audit } mediaId =
      foldedSearchStatus db mediaId := rfl
  unfold refreshed
  rw [hfold]
  cases db.media.get? mediaId with
  | none => rfl
  | some media =>
      cases foldedSearchStatus db mediaId with
      | none => rfl
      | some status => rfl

/-- The same, where there may be no media item. -/
theorem refreshedFor_with (mediaId : Option String) (audit : List AuditEvent) :
    { refreshedFor mediaId db with audit } = refreshedFor mediaId { db with audit } := by
  cases mediaId with
  | none => rfl
  | some mediaId =>
      refine (refreshed_with mediaId db (refreshed mediaId db).queue audit).trans ?_
      rw [refreshed_queue]
      rfl

@[simp] theorem refreshedFor_queue (mediaId : Option String) :
    (refreshedFor mediaId db).queue = db.queue := by
  cases mediaId with
  | none => rfl
  | some mediaId => exact refreshed_queue mediaId db

@[simp] theorem refreshedFor_searchRuns (mediaId : Option String) :
    (refreshedFor mediaId db).searchRuns = db.searchRuns := by
  cases mediaId with
  | none => rfl
  | some mediaId => exact refreshed_searchRuns mediaId db

@[simp] theorem refreshedFor_reviews (mediaId : Option String) :
    (refreshedFor mediaId db).reviews = db.reviews := by
  cases mediaId with
  | none => rfl
  | some mediaId => exact refreshed_reviews mediaId db

end Refreshed

variable [WorkflowRuntime]

/-- **What an agent changes in one go**, and what has been checked before. -/
inductive Move (agent : Agent) (db : WorkflowDb) : WorkflowDb → Prop where
  /-- Tables that no invariant of the workflow speaks of. -/
  | aside (control : Db) (discoveryRuns : Table DiscoveryRun) (audit : List AuditEvent) :
      Move agent db { db with control, discoveryRuns, audit }
  | matched {one : MetadataMatch} (hnew : db.metadataMatches.get? one.id = none) :
      Move agent db { db with metadataMatches := db.metadataMatches.save one }
  | found {candidate : Models.TorrentCandidateRecord}
      (hnew : db.candidates.get? candidate.id = none) :
      Move agent db { db with candidates := db.candidates.save candidate }
  /-- A new job that does not search. -/
  | queued {job : Job} (hnew : db.queue.get? job.id = none)
      (hfree : activeJob db job.jobType = none) (hpending : job.status = .pending)
      (hother : job.jobType.isTorrentSearch = false) (hrun : job.payload.searchRunId = none) :
      Move agent db { db with queue := db.queue.save job }
  /-- An active job, which stays as active as it was if it searches. -/
  | worked {row row' : Job} (hrow : row ∈ db.queue) (hsame : SameJob row row')
      (hactive : isActiveJob row.status = true)
      (hother : row.jobType.isTorrentSearch = false ∨ isActiveJob row'.status = true ∨
        row.payload.searchRunId.bind db.searchRuns.get? = none) :
      Move agent db { db with queue := db.queue.save row' }
  /-- A media item whose identity is not final, as the session has read it. -/
  | unsettled {held media media' : Models.MediaItem} (hrow : media ∈ db.media)
      (hheld : held.id = media.id) (hopen : identityFinalizationEvidence db held = none)
      (hsame : SameItem media media')
      (hstatus : isUnresolved media'.workflowStatus = true ∨
        media'.workflowStatus = media.workflowStatus) :
      Move agent db { db with media := db.media.save media' }
  /-- A confirmation of what the session has read. -/
  | confirmed {held media : Models.MediaItem} {review : IdentityReview}
      {candidate : MetadataRecord} (hagent : agent.confirms review) (hrow : media ∈ db.media)
      (hheld : held.id = media.id) (hopen : identityFinalizationEvidence db held = none)
      (hunique : conflictingMedia db held candidate = none)
      (hnew : db.reviews.get? review.id = none) (hreview : review.mediaId = media.id)
      (hstatus : review.status = "CONFIRMED")
      (hsnapshot : review.candidateSnapshot.parse = some candidate) :
      Move agent db { db with
        media := db.media.save (writtenMedia held (confirmedMedia held candidate) media)
        reviews := db.reviews.save review }
  | created {items : List MediaItemData} {item : MediaItemData} {newId : Uuid}
      (hagent : agent.imports = some items) (hitem : item ∈ items)
      (hnone : existingMedia db item = none) (hnew : db.media.get? newId.text = none) :
      Move agent db { db with media := db.media.save (createdMedia item newId) }
  | updated {items : List MediaItemData} {item : MediaItemData} {existing : Models.MediaItem}
      (hagent : agent.imports = some items) (hitem : item ∈ items)
      (hrow : existingMedia db item = some existing) :
      Move agent db { db with media := db.media.save (updatedMedia existing item) }
  | located {items : List MediaItemData} {media : Models.MediaItem}
      {countryCodes : Option (List String)} (hagent : agent.imports = some items)
      (hrow : media ∈ db.media) :
      Move agent db { db with media := db.media.save { media with countryCodes } }
  /-- A new search: its run, its job and the status of its media item. -/
  | searchQueued {run : TorrentSearchRun} {job : Job}
      (hagent : agent.searches db.reviews run.mediaId) (hsearch : NewSearch db run job) :
      Move agent db (refreshed run.mediaId { db with
        searchRuns := db.searchRuns.save run
        queue := db.queue.save job })
  /-- A new search whose media item keeps the status that it has by now. -/
  | searchConcealed {run : TorrentSearchRun} {job : Job} (houtdated : agent.outdated = true)
      (hagent : agent.searches db.reviews run.mediaId) (hsearch : NewSearch db run job) :
      Move agent db { db with
        searchRuns := db.searchRuns.save run
        queue := db.queue.save job }
  /-- A job that is written over, whatever has become of it. -/
  | overwritten {row row' : Job}
      (houtdated : row.jobType.isTorrentSearch = true → agent.outdated = true)
      (hrow : row ∈ db.queue) (hsame : SameJob row row')
      (hsingle : isActiveJob row'.status = true →
        isActiveJob row.status = true ∨ activeJob db row.jobType = none) :
      Move agent db { db with queue := db.queue.save row' }
  /-- A run that is written over, whatever has become of it. -/
  | runOverwritten {run run' : TorrentSearchRun} {mediaId : Option String}
      (houtdated : agent.outdated = true) (hrun : run ∈ db.searchRuns) (hkept : SameRun run run') :
      Move agent db (refreshedFor mediaId { db with searchRuns := db.searchRuns.save run' })
  /-- A step of a search: its run, its job and the status of its media item. -/
  | searched {row row' : Job} {run run' : TorrentSearchRun} (hrow : row ∈ db.queue)
      (hsame : SameJob row row') (hactive : isActiveJob row.status = true)
      (hrun : row.payload.searchRunId.bind db.searchRuns.get? = some run)
      (hkept : SameRun run run')
      (hagree : isActiveJob row'.status = isActiveSearch run'.status ∧
          run'.status ∈ SEARCH_STATUS_PRECEDENCE ∨
        isActiveJob row'.status = true ∧ run'.status = run.status) :
      Move agent db (refreshedFor row.payload.mediaId { db with
        searchRuns := db.searchRuns.save run'
        queue := db.queue.save row' })

/-! ### Steps of a unit of work -/

section Steps

variable {α : Type} {agent : Agent} {db : WorkflowDb} {Q : α → WorkflowDb → Prop}

omit [WorkflowRuntime] in
theorem mem_of_get? {mediaId : String} {media : Models.MediaItem}
    (h : db.media.get? mediaId = some media) : media ∈ db.media ∧ media.id = mediaId :=
  Table.get?_eq_some.mp h

/-- What a unit of work does once the row of a media item is locked. -/
theorem does_lockMedia {mediaId : String} {f : Models.MediaItem → WorkflowTx α}
    (h : ∀ media, media ∈ db.media → media.id = mediaId → Does (Move agent) (f media) Q db) :
    Does (Move agent) (lockMedia mediaId >>= f) Q db := by
  refine Does.bind (P := fun media s => s = db ∧ media ∈ db.media ∧ media.id = mediaId) ?_ ?_
  · refine (Tx.wp_bind _ _).mpr ((Tx.wp_get _).mpr ((Tx.wp_ofOption _ _).mpr ⟨?_, fun _ => trivial⟩))
    intro media hmedia
    exact ⟨Relation.ReflTransGen.refl, rfl, Table.get?_eq_some.mp hmedia⟩
  · rintro media s - ⟨rfl, hrow, hid⟩
    exact h media hrow hid

/-- The control plane does what it does, with what holds of its value. -/
theorem does_inControl_wp {m : DbTx α} {R : α → Prop}
    (h : Tx.wp m (fun a _ => R a) (fun _ _ => True) db.control) :
    Does (Move agent) (inControl m) (fun a db' => ∃ control, db' = { db with control } ∧ R a)
      db := by
  refine (Tx.wp_zoom _ _ m).mpr (Tx.wp_mono h ?_ fun _ _ => id)
  intro a control ha
  exact ⟨Relation.ReflTransGen.single (Move.aside control db.discoveryRuns db.audit),
    control, rfl, ha⟩

/-- The control plane does what it does. -/
theorem does_inControl (m : DbTx α) :
    Does (Move agent) (inControl m) (fun _ db' => ∃ control, db' = { db with control }) db := by
  refine Does.mono (does_inControl_wp (Tx.wp_trivial m)) ?_
  rintro _ _ ⟨control, heq, -⟩
  exact ⟨control, heq⟩

theorem does_addAudit (eventType entityType entityId : String) :
    Does (Move agent) (addAudit eventType entityType entityId)
      (fun _ db' => ∃ audit, db' = { db with audit }) db :=
  does_modify (Move.aside db.control db.discoveryRuns _) ⟨_, rfl⟩

theorem does_saveDiscoveryRun (run : DiscoveryRun) :
    Does (Move agent) (saveDiscoveryRun run)
      (fun _ db' => ∃ discoveryRuns, db' = { db with discoveryRuns }) db :=
  does_modify (Move.aside db.control _ db.audit) ⟨_, rfl⟩

omit [WorkflowRuntime] in
/-- `refresh_media_search_workflow_status`, in one piece: a status that is the one that was read is
not written. -/
theorem wp_refreshMediaSearchWorkflowStatus {mediaId : String} {held : Option WorkflowStatus}
    {R : WorkflowStatus → WorkflowDb → Prop}
    (h : ∀ status, R status (refreshed mediaId db))
    (hkept : (∃ media, db.media.get? mediaId = some media ∧ held.getD media.workflowStatus ≠
      media.workflowStatus) → ∀ status, R status db) :
    Tx.wp (refreshMediaSearchWorkflowStatus mediaId held) R (fun _ _ => True) db := by
  unfold refreshMediaSearchWorkflowStatus lockMedia
  simp only [Tx.wp_bind, Tx.wp_get, Tx.wp_ofOption, implies_true, and_true]
  intro media hmedia
  obtain ⟨-, rfl⟩ := mem_of_get? hmedia
  unfold refreshed at h
  rw [hmedia] at h
  cases hfold : foldedSearchStatus db media.id with
  | none =>
      rw [hfold] at h
      exact h _
  | some status =>
      rw [hfold] at h
      by_cases hsame : held.getD media.workflowStatus = media.workflowStatus
      · rw [hsame]
        simp only [writeBack_self]
        exact h status
      · have hdb := hkept ⟨media, hmedia, hsame⟩ status
        by_cases hread : status = held.getD media.workflowStatus
        · subst hread
          simp only [writeBack_unset]
          have hsave : db.media.save media = db.media := Table.save_self (mem_of_get? hmedia).1
          change R _ { db with media := db.media.save media }
          rw [hsave]
          exact hdb
        · simp only [writeBack_of_ne hread]
          exact h status

omit [WorkflowRuntime] in
/-- The same where nothing of the media item has been read before. -/
theorem wp_refreshMediaSearchWorkflowStatus_locked {mediaId : String}
    {R : WorkflowStatus → WorkflowDb → Prop} (h : ∀ status, R status (refreshed mediaId db)) :
    Tx.wp (refreshMediaSearchWorkflowStatus mediaId) R (fun _ _ => True) db := by
  refine wp_refreshMediaSearchWorkflowStatus h ?_
  rintro ⟨media, -, hne⟩
  exact absurd rfl hne

/-- A new job that does not search. -/
theorem does_insertQueuedJob {job : Job} (hpending : job.status = .pending)
    (hother : job.jobType.isTorrentSearch = false) (hrun : job.payload.searchRunId = none) :
    Does (Move agent) (insertQueuedJob job)
      (fun _ db' => db.queue.get? job.id = none ∧ db' = { db with queue := db.queue.save job })
      db := by
  refine does_get (does_require ?_)
  rintro ⟨hnew, hfree⟩
  exact does_modify (Move.queued hnew hfree hpending hother hrun) ⟨hnew, rfl⟩

end Steps

/-! ### Resolutions -/

section Resolutions

variable {agent : Agent} {db : WorkflowDb}

/-- Resolutions are cancelled, and nothing else is changed. -/
structure OnlyCancels (db db' : WorkflowDb) : Prop where
  same : db' = { db with queue := db'.queue, audit := db'.audit }
  kept : ∀ job ∈ db.queue, job.jobType.isResolution = false → job ∈ db'.queue

omit [WorkflowRuntime] in
theorem OnlyCancels.refl (db : WorkflowDb) : OnlyCancels db db :=
  ⟨rfl, fun _ h _ => h⟩

omit [WorkflowRuntime] in
theorem OnlyCancels.trans {db db' db'' : WorkflowDb} (h : OnlyCancels db db')
    (h' : OnlyCancels db' db'') : OnlyCancels db db'' := by
  refine ⟨?_, fun job hjob hother => h'.kept job (h.kept job hjob hother) hother⟩
  rw [h'.same, h.same]

/-- What a session has set on a job is written. -/
theorem writeQueuedJob_does {held job row : Job}
    (houtdated : row.jobType.isTorrentSearch = true → agent.outdated = true)
    (hrow : row ∈ db.queue) :
    Does (Move agent) (writeQueuedJob held job row)
      (fun _ db' => db' = { db with queue := db.queue.save (writtenJob held job row) }) db :=
  does_get (does_require fun hsingle =>
    does_modify (Move.overwritten houtdated hrow ⟨rfl, rfl, rfl, rfl⟩ hsingle) rfl)

omit [WorkflowRuntime] in
/-- A resolution does not search. -/
theorem isTorrentSearch_of_isResolution {jobType : JobType} (h : jobType.isResolution = true) :
    jobType.isTorrentSearch = false := by
  cases jobType with
  | resolveMetadata mediaId => rfl
  | _ => cases h

/-- `cancel_metadata_resolution_job`. -/
theorem cancelMetadataResolutionJob_does {job row : Job} (hrow : row ∈ db.queue)
    (hresolution : row.jobType.isResolution = true) :
    Does (Move agent) (cancelMetadataResolutionJob job row)
      (fun _ db' => OnlyCancels db db' ∧ ∀ other ∈ db.queue, other.id ≠ row.id →
        other ∈ db'.queue) db := by
  have hplain := isTorrentSearch_of_isResolution hresolution
  refine does_ite ?_ fun _ => does_pure ⟨OnlyCancels.refl db, fun _ h _ => h⟩
  intro _
  refine Does.bind (writeQueuedJob_does (fun hsearch => ?_) hrow) ?_
  · rw [hplain] at hsearch
    cases hsearch
  rintro _ _ - rfl
  refine Does.bind (does_addAudit _ _ _) ?_
  rintro _ _ - ⟨audit, rfl⟩
  have hkept : ∀ other ∈ db.queue, other.id ≠ row.id →
      other ∈ db.queue.save (writtenJob job (cancelledJob job) row) :=
    fun other hother hne => Table.mem_save_of_ne hother hne
  refine does_pure ⟨⟨rfl, fun other hother hother' => hkept other hother ?_⟩, hkept⟩
  intro hid
  rw [Table.eq_of_key_eq hother hrow hid, hresolution] at hother'
  cases hother'

/-- The resolutions in a list are cancelled one after the other. -/
theorem cancelMetadataResolutionJobs_does (jobs : List Job) {db : WorkflowDb}
    (hrows : ∀ job ∈ jobs, job ∈ db.queue ∧ job.jobType.isResolution = true)
    (hdistinct : (jobs.map Job.id).Nodup) :
    Does (Move agent) (cancelMetadataResolutionJobs jobs) (fun _ db' => OnlyCancels db db') db := by
  induction jobs generalizing db with
  | nil => exact does_pure (OnlyCancels.refl db)
  | cons job jobs ih =>
      obtain ⟨hrow, hresolution⟩ := hrows job List.mem_cons_self
      rw [List.map_cons, List.nodup_cons] at hdistinct
      refine Does.bind (cancelMetadataResolutionJob_does hrow hresolution) ?_
      rintro cancelled db' - ⟨hcancels, hothers⟩
      refine Does.bind (ih ?_ hdistinct.2) ?_
      · intro other hother
        obtain ⟨hmem, hkind⟩ := hrows other (List.mem_cons_of_mem _ hother)
        -- the identifiers are distinct, so that the others are the rows they were
        refine ⟨hothers other hmem fun hid => hdistinct.1 ?_, hkind⟩
        exact hid ▸ List.mem_map_of_mem hother
      · rintro count db'' - hrest
        exact does_pure (hcancels.trans hrest)

/-- `cancel_active_metadata_resolution_jobs`. -/
theorem cancelActiveMetadataResolutionJobs_does (mediaId : String) :
    Does (Move agent) (cancelActiveMetadataResolutionJobs mediaId)
      (fun _ db' => OnlyCancels db db') db := by
  refine does_get (cancelMetadataResolutionJobs_does _ ?_ ?_)
  · intro job hjob
    obtain ⟨hmem, hkind⟩ := List.mem_filter.mp hjob
    rw [decide_eq_true_iff] at hkind
    rw [hkind.1]
    exact ⟨hmem, rfl⟩
  · exact db.queue.nodup.sublist (List.filter_sublist.map _)

/-- The rows of the jobs that do not resolve stay. -/
def KeepsOthers (db db' : WorkflowDb) : Prop :=
  ∀ job ∈ db.queue, job.jobType.isResolution = false → job ∈ db'.queue

omit [WorkflowRuntime] in
theorem mem_queue_save {db : WorkflowDb} {job other : Job} (hnew : db.queue.get? job.id = none)
    (hother : other ∈ db.queue) : other ∈ db.queue.save job :=
  Table.mem_save_of_ne hother (Table.get?_eq_none.mp hnew other hother)

omit [WorkflowRuntime] in
/-- A media item that awaits its resolution stays what it was imported as. -/
theorem sameItem_resolutionPending (held row : Models.MediaItem) :
    SameItem row (writtenMedia held (resolutionPending held) row) where
  id := rfl
  source := rfl
  sourceItemId := rfl
  mediaType := writeBack_unset _ _
  tmdbId := writeBack_unset _ _

omit [WorkflowRuntime] in
/-- A media item that awaits its resolution has no identity, or the status that it had. -/
theorem status_resolutionPending (held row : Models.MediaItem) :
    isUnresolved (writtenMedia held (resolutionPending held) row).workflowStatus = true ∨
      (writtenMedia held (resolutionPending held) row).workflowStatus = row.workflowStatus := by
  rcases writeBack_eq_or held.workflowStatus .metadataPending row.workflowStatus with h | h
  · refine Or.inl ?_
    change isUnresolved (writeBack held.workflowStatus .metadataPending row.workflowStatus) = true
    rw [h]
    rfl
  · exact Or.inr h

omit [WorkflowRuntime] in
/-- A session that has not read a media item holds none. -/
theorem unread {mediaId : String} (media : Models.MediaItem) (h : none = some media) :
    media.id = mediaId :=
  absurd h.symm (Option.some_ne_none media)

omit [WorkflowRuntime] in
/-- What the session has read of a media item is of the row that is locked. -/
theorem id_of_held {mediaId : String} {held : Option Models.MediaItem} {row : Models.MediaItem}
    (hheld : ∀ media, held = some media → media.id = mediaId) (hid : row.id = mediaId) :
    (held.getD row).id = row.id := by
  cases held with
  | none => rfl
  | some media => exact (hheld media rfl).trans hid.symm

/-- `enqueue_metadata_resolution`: what the session has read of the media item is of the same
one. -/
theorem enqueueMetadataResolution_does {mediaId : String} {held : Option Models.MediaItem}
    (hheld : ∀ media, held = some media → media.id = mediaId) (maxAttempts : ℕ) (newId : Uuid)
    (now : DateTime) :
    Does (Move agent) (enqueueMetadataResolution mediaId maxAttempts newId now held)
      (fun _ db' => KeepsOthers db db') db := by
  refine does_lockMedia fun row hrow hid => does_get (does_require fun hopen => ?_)
  have hsame := id_of_held hheld hid
  generalize held.getD row = media at hopen hsame ⊢
  cases activeJob db (.resolveMetadata media.id) with
  | some existing => exact does_pure fun _ h _ => h
  | none =>
      have hmove : Move agent db { db with
          media := db.media.save (writtenMedia media (resolutionPending media) row) } :=
        Move.unsettled hrow hsame hopen (sameItem_resolutionPending media row)
          (status_resolutionPending media row)
      refine Does.bind (P := fun _ db' => db' = { db with
          media := db.media.save (writtenMedia media (resolutionPending media) row) })
        (does_modify hmove rfl) ?_
      rintro _ _ - rfl
      refine Does.bind (does_insertQueuedJob rfl rfl rfl) ?_
      rintro _ _ - ⟨hnew, rfl⟩
      refine Does.bind (does_addAudit _ _ _) ?_
      rintro _ _ - ⟨audit, rfl⟩
      exact does_pure fun other hother _ => mem_queue_save hnew hother

end Resolutions

/-! ### Confirmations -/

section Confirmations

variable {agent : Agent} {db : WorkflowDb}

/-- A media item whose identity is confirmed has that status. -/
theorem workflowStatus_confirmed {media : Models.MediaItem}
    (hopen : identityFinalizationEvidence db media = none) (candidate : MetadataRecord)
    (row : Models.MediaItem) :
    (writtenMedia media (confirmedMedia media candidate) row).workflowStatus =
      .identityConfirmed :=
  writeBack_of_ne (open_of_evidence hopen).2.2.symm _

/-- `confirm_identity`: what the session has read of the media item is of the same one.  After it,
the session holds the status of the row. -/
theorem confirmIdentity_does {mediaId metadataMatchId actor : String}
    (hagent : ∀ review : IdentityReview, review.mediaId = mediaId →
      review.metadataMatchId = metadataMatchId → review.confirmedBy = actor →
        agent.confirms review)
    {held : Option Models.MediaItem} (hheld : ∀ media, held = some media → media.id = mediaId)
    (auditEventType : String) (newId : Uuid) (now : DateTime) :
    Does (Move agent) (confirmIdentity mediaId metadataMatchId actor auditEventType newId now held)
      (fun confirmed db' => (confirmed.1.mediaId = mediaId ∧ confirmed.1 ∉ db.reviews ∧
        confirmed.1 ∈ db'.reviews) ∧ confirmed.2.id = mediaId ∧
          ∀ row, db'.media.get? mediaId = some row →
            confirmed.2.workflowStatus = row.workflowStatus)
      db := by
  refine does_lockMedia fun row hrow hid => does_get (does_require fun hopen => ?_)
  have hsameId := id_of_held hheld hid
  generalize held.getD row = media at hopen hsameId ⊢
  refine does_ofOption fun stored hstored => does_ofOption fun candidate hcandidate => ?_
  refine does_require fun hunique => ?_
  refine Does.bind (cancelActiveMetadataResolutionJobs_does media.id) ?_
  rintro _ db' - ⟨hsame, -⟩
  rw [hsame]
  -- the media item and its review are written in one go
  refine does_of_wp ?_
  unfold writeMedia saveMedia insertReview addAudit
  simp only [Tx.wp_bind, Tx.wp_modify, Tx.wp_get, Tx.wp_require, Tx.wp_pure, implies_true,
    and_true]
  rintro - ⟨hnew, -⟩
  have hstored' : stored.id = metadataMatchId :=
    Table.key_of_get?_eq_some (Option.filter_eq_some_iff.mp hstored).1
  have hmediaId : media.id = mediaId := hsameId.trans hid
  have hmove : Move agent { db with queue := db'.queue, audit := db'.audit } _ :=
    Move.confirmed (hagent (confirmedReview media stored candidate actor newId now) hmediaId
      hstored' rfl) hrow hsameId hopen hunique hnew hsameId rfl rfl
  refine ⟨(Relation.ReflTransGen.single hmove).tail (Move.aside _ _ _), ⟨hmediaId, ?_, ?_⟩,
    hmediaId, ?_⟩
  · exact fun hold => Table.get?_eq_none.mp hnew _ hold rfl
  · exact Table.mem_save_self _ _
  · intro written hwritten
    have hself : (db.media.save (writtenMedia media (confirmedMedia media candidate) row)).get?
        mediaId = some (writtenMedia media (confirmedMedia media candidate) row) := by
      rw [← hid]
      exact Table.get?_save_self _ _
    rw [← Option.some.inj (hself.symm.trans hwritten)]
    exact (workflowStatus_confirmed hopen candidate row).symm

end Confirmations

/-! ### Searches -/

section Searches

variable {agent : Agent} {db : WorkflowDb}

omit [WorkflowRuntime] in
/-- A choice among some rows chooses one of them. -/
theorem foldl_choice_mem {α : Type} {choose : Option α → α → Option α}
    (hchoose : ∀ best row, choose best row = some row ∨ choose best row = best)
    {rows : List α} {best : Option α} {r : α} (h : rows.foldl choose best = some r) :
    best = some r ∨ r ∈ rows := by
  induction rows generalizing best with
  | nil => exact Or.inl h
  | cons row rows ih =>
      rcases ih h with hbest | hmem
      · rcases hchoose best row with hrow | hsame
        · rw [hrow] at hbest
          exact Or.inr (List.mem_cons.mpr (Or.inl (Option.some.inj hbest).symm))
        · exact Or.inl (hsame ▸ hbest)
      · exact Or.inr (List.mem_cons_of_mem _ hmem)

omit [WorkflowRuntime] in
/-- The newest of some rows is one of them. -/
theorem newest_mem {α : Type} {createdAt : α → DateTime} {rows : List α} {r : α}
    (h : newest createdAt rows = some r) : r ∈ rows := by
  refine (foldl_choice_mem ?_ h).resolve_left nofun
  rintro (_ | b) row
  · exact Or.inl rfl
  · simp only
    split <;> simp

omit [WorkflowRuntime] in
/-- The active job of a search is an active row. -/
theorem mem_of_activeSearch {mediaId siteId : String} {run : TorrentSearchRun} {job : Job}
    (h : activeSearch db mediaId siteId = some (run, job)) :
    job ∈ db.queue ∧ isActiveJob job.status = true := by
  unfold activeSearch at h
  obtain ⟨run', -, h⟩ := Option.bind_eq_some_iff.mp h
  obtain ⟨job', hfound, h⟩ := Option.bind_eq_some_iff.mp h
  obtain ⟨-, rfl⟩ := Prod.mk.inj (Option.some.inj h)
  refine ⟨List.mem_of_find?_eq_some hfound, ?_⟩
  have hkind := List.find?_some hfound
  rw [decide_eq_true_iff] at hkind
  exact hkind.2

/-- The job that a request for a search comes to is an active row. -/
def HasJob (result : TorrentSearchRun × Job × Bool) (db : WorkflowDb) : Prop :=
  result.2.1 ∈ db.queue ∧ isActiveJob result.2.1.status = true

/-- The last part of `enqueue_torrent_search`, for a media item that may have been read before. -/
theorem queueTorrentSearch_does {media row : Models.MediaItem} {review : IdentityReview}
    {request : TorrentSearchCreateRequest} {settings : WorkflowSettings} {newIds : Uuid × Uuid}
    {now : DateTime} (hagent : agent.searches db.reviews media.id)
    (hrow : row ∈ db.media) (hid : row.id = media.id)
    (hstatus : media.workflowStatus ≠ row.workflowStatus → agent.outdated = true)
    (hreview : confirmedReviews db media.id ≠ []) :
    Does (Move agent) (queueTorrentSearch media review request settings newIds now) HasJob db := by
  have hget : db.media.get? media.id = some row := Table.get?_eq_some.mpr ⟨hrow, hid⟩
  refine does_of_wp ?_
  unfold queueTorrentSearch insertSearchRun insertQueuedJob saveSearchRun saveQueuedJob addAudit
  simp only [Tx.wp_bind, Tx.wp_modify, Tx.wp_get, Tx.wp_require, Tx.wp_pure, implies_true,
    and_true]
  rintro ⟨hrun, hfree⟩ ⟨hjob, hjobFree⟩
  -- the audit is written first, and then the search in one go
  have haudit : Move agent db { db with audit := _ } :=
    Move.aside db.control db.discoveryRuns
      (db.audit ++ [⟨"TORRENT_SEARCH_QUEUED", "torrent_search_run", newIds.1.text⟩])
  have hsearch : ∀ audit, NewSearch { db with audit } (newSearchRun media request newIds.1 now)
      (searchJob media review request newIds.1.text settings.jobMaxAttempts settings newIds.2
        now) :=
    fun _ =>
      { media := Option.isSome_iff_exists.mpr ⟨row, hget⟩
        review := hreview, new := hrun, free := hfree, pending := rfl, jobNew := hjob
        jobFree := hjobFree, jobType := rfl, jobPending := rfl, mediaId := rfl, runId := rfl }
  refine wp_refreshMediaSearchWorkflowStatus (fun _ => ⟨?_, ?_, rfl⟩) ?_
  · exact (Relation.ReflTransGen.single haudit).tail (Move.searchQueued hagent (hsearch _))
  · rw [refreshed_queue]
    exact Table.mem_save_self _ _
  · rintro ⟨other, hother, hne⟩ _
    obtain rfl : row = other := Option.some.inj (hget.symm.trans hother)
    exact ⟨(Relation.ReflTransGen.single haudit).tail
      (Move.searchConcealed (hstatus hne) hagent (hsearch _)), Table.mem_save_self _ _, rfl⟩

/-- `enqueue_torrent_search`: what the session has read of the media item is of the same one, and has
its status unless the agent may go on with another. -/
theorem enqueueTorrentSearch_does {mediaId : String}
    (hagent : agent.searches db.reviews mediaId) (request : TorrentSearchCreateRequest)
    (settings : WorkflowSettings) (newIds : Uuid × Uuid) (now : DateTime)
    {held : Option Models.MediaItem}
    (hheld : ∀ media row, held = some media → db.media.get? mediaId = some row →
      media.id = mediaId ∧
        (media.workflowStatus ≠ row.workflowStatus → agent.outdated = true)) :
    Does (Move agent) (enqueueTorrentSearch mediaId request settings newIds now held) HasJob
      db := by
  refine does_lockMedia fun row hrow hid => does_get (does_ofOption fun review hreview => ?_)
  have hmedia : (held.getD row).id = mediaId ∧
      ((held.getD row).workflowStatus ≠ row.workflowStatus → agent.outdated = true) := by
    cases held with
    | none => exact ⟨hid, fun hne => absurd rfl hne⟩
    | some media => exact hheld media row rfl (Table.get?_eq_some.mpr ⟨hrow, hid⟩)
  generalize held.getD row = media at hmedia hreview ⊢
  obtain ⟨rfl, hstatus⟩ := hmedia
  have hconfirmed : confirmedReviews db media.id ≠ [] :=
    List.ne_nil_of_mem (newest_mem hreview)
  cases hactive : activeSearch db media.id request.siteId with
  | none => exact queueTorrentSearch_does hagent hrow hid hstatus hconfirmed
  | some found => exact does_pure (mem_of_activeSearch hactive)

/-- `maybe_automate_torrent_search_after_identity`. -/
theorem maybeAutomateTorrentSearchAfterIdentity_does {media : Models.MediaItem}
    (hagent : agent.searches db.reviews media.id)
    (hstatus : ∀ row, db.media.get? media.id = some row →
      media.workflowStatus = row.workflowStatus)
    (settings : WorkflowSettings) (env : IdentityEnvironment) :
    Does (Move agent) (maybeAutomateTorrentSearchAfterIdentity media settings env)
      (fun _ _ => True) db := by
  refine Does.bind (does_inControl _) ?_
  rintro ⟨created, revision⟩ _ - ⟨control, rfl⟩
  refine does_ite (fun _ => does_pure trivial) fun _ => ?_
  cases env.searchableSite media.mediaType with
  | none => exact does_pure trivial
  | some siteId =>
      refine Does.bind (enqueueTorrentSearch_does ?_ _ _ _ _ fun held row hheld hrow => ?_) ?_
      · exact hagent
      · obtain rfl := Option.some.inj hheld
        exact ⟨rfl, fun hne => absurd (hstatus row hrow) hne⟩
      · rintro ⟨run, job, existed⟩ db' - ⟨hrow, hactive⟩
        refine Does.bind (P := fun _ _ => True)
          (does_modify (Move.worked hrow ⟨rfl, rfl, rfl, rfl⟩ hactive (Or.inr (Or.inl hactive)))
            trivial) ?_
        exact fun _ _ _ _ => does_pure trivial

/-- What is confirmed is searched for: an agent may do that. -/
def SearchesConfirmed (agent : Agent) (db : WorkflowDb) : Prop :=
  ∀ (reviews : Table IdentityReview) (review : IdentityReview), review ∉ db.reviews →
    review ∈ reviews → agent.searches reviews review.mediaId

/-- The last part of `maybe_automate_identity`. -/
theorem confirmEligible_does (hconfirms : ∀ review, agent.confirms review)
    (hsearches : SearchesConfirmed agent db) (revision : AutomationPolicyRevision)
    (mediaId matchId : String) (evidence : List (String × Json)) (settings : WorkflowSettings)
    (env : IdentityEnvironment) :
    Does (Move agent) (confirmEligible revision mediaId matchId evidence settings env)
      (fun _ _ => True) db := by
  refine Does.bind (does_inControl _) ?_
  rintro ⟨decision, created⟩ _ - ⟨control, rfl⟩
  refine does_ite (fun _ => does_pure trivial) fun _ => ?_
  refine Does.bind (confirmIdentity_does (fun review _ _ _ => hconfirms review) unread _ _ _) ?_
  rintro ⟨review, media⟩ db' - ⟨⟨hid, hnew, hmem⟩, hmedia, hstatus⟩
  have hsearch : agent.searches db'.reviews media.id := by
    rw [hmedia, ← hid]
    exact hsearches _ review hnew hmem
  rw [← hmedia] at hstatus
  exact Does.bind (maybeAutomateTorrentSearchAfterIdentity_does hsearch hstatus _ _)
    fun _ _ _ _ => does_pure trivial

/-- The mode of the identity stage in the current policy; the default policy is a manual one. -/
def identityMode (control : Db) : AutomationMode :=
  match control.head with
  | none => .manual
  | some head =>
      ((control.revisions.get? head.currentRevisionId).map fun revision =>
        stageMode revision .identity).getD .manual

/-- **Whether the policy lets a worker confirm an identity.** -/
def policyConfirms (settings : WorkflowSettings) (db : WorkflowDb) : Bool :=
  settings.enableAutomationEngine && identityMode db.control == .autoIfEligible

omit [WorkflowRuntime] in
/-- The policy that is read has the mode of the current one. -/
theorem wp_getCurrentPolicy_identityMode (newId : Uuid) (now : DateTime) (control : Db) :
    Tx.wp (getCurrentPolicy newId now)
      (fun policy _ => stageMode policy.2 .identity = identityMode control) (fun _ _ => True)
      control := by
  unfold getCurrentPolicy identityMode
  rw [Tx.wp_bind, Tx.wp_get]
  cases control.head with
  | none =>
      simp only [bootstrapPolicy, Tx.wp_bind, Tx.wp_get, wp_requireApp, implies_true, and_true]
      exact fun _ => rfl
  | some head =>
      simp only [bindHead, Tx.wp_bind, Tx.wp_get, Tx.wp_ofOption, wp_liftApp, wp_requireApp,
        Tx.wp_pure, implies_true, and_true]
      intro revision hrevision
      rw [hrevision]
      exact fun _ _ _ => rfl

omit [WorkflowRuntime] in
/-- Nothing stands against an automatic action only where the policy lets a worker act. -/
theorem policyConfirms_of_modeOutcome {revision : AutomationPolicyRevision}
    {settings : WorkflowSettings} {db : WorkflowDb} {createdAt : DateTime}
    (hmode : stageMode revision .identity = identityMode db.control)
    (h : modeOutcome revision .identity createdAt settings.enableAutomationEngine = none) :
    policyConfirms settings db = true := by
  unfold modeOutcome at h
  rw [hmode] at h
  unfold policyConfirms
  split at h
  · cases h
  · split at h
    · cases h
    · cases h
    · rename_i hauto
      split at h
      · rename_i hengine
        rw [hengine, hauto]
        rfl
      · cases h

/-- `maybe_automate_identity`. -/
theorem maybeAutomateIdentity_does {settings : WorkflowSettings}
    (hconfirms : policyConfirms settings db = true → ∀ review, agent.confirms review)
    (hsearches : SearchesConfirmed agent db) (job : Job) (media : Models.MediaItem)
    (env : IdentityEnvironment) :
    Does (Move agent) (maybeAutomateIdentity job media settings env) (fun _ _ => True) db := by
  have hdecline : ∀ (revision : AutomationPolicyRevision) (spec : IdentityDecisionSpec)
      (db : WorkflowDb),
      Does (Move agent) (declineIdentity revision spec env) (fun _ _ => True) db := by
    intro revision spec db
    exact Does.bind (does_inControl _) fun _ _ _ _ => does_pure trivial
  refine Does.bind (does_inControl_wp (wp_getCurrentPolicy_identityMode _ _ _)) ?_
  rintro ⟨head, revision⟩ _ - ⟨control, rfl, hmode⟩
  refine does_get ?_
  split
  · exact hdecline _ _ _
  · rename_i houtcome
    have hall := hconfirms (policyConfirms_of_modeOutcome hmode houtcome)
    have hsearches' : SearchesConfirmed agent { db with control } := hsearches
    refine does_ofExcept fun eligibility _ => ?_
    split
    · exact confirmEligible_does hall hsearches' _ _ _ _ _ _
    · exact hdecline _ _ _

end Searches

end LibSeek.Workflow
