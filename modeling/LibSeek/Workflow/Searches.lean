/-
Searches.

A run of a search, the job that carries it out and the status of the media item say the same thing
three times.  Every change of the workflow that writes one of them writes the others as well, so
that they agree wherever no session goes on with what it has read of them before.

Main definitions:

* `Workflow.SearchInvariant` — what the three say of each other.

Main results:

* `Workflow.Move.searchInvariant` — every change keeps it, but for those of an outdated agent.
-/

import LibSeek.Workflow.Operations

set_option relaxedAutoImplicit false
set_option autoImplicit false

namespace LibSeek.Workflow

open LibSeek.Core LibSeek.Lib LibSeek.Models LibSeek.Schemas LibSeek.Services LibSeek.Workers

/-! ### The fold of the statuses -/

section Fold

variable {db db' : WorkflowDb} {mediaId : String}

theorem mem_searchStatuses {status : WorkflowStatus} :
    status ∈ searchStatuses db mediaId ↔
      ∃ run ∈ db.searchRuns, run.mediaId = mediaId ∧ run.status = status := by
  unfold searchStatuses
  rw [List.mem_map]
  constructor
  · rintro ⟨run, hrun, rfl⟩
    obtain ⟨hmem, hid⟩ := List.mem_filter.mp hrun
    exact ⟨run, hmem, of_decide_eq_true hid, rfl⟩
  · rintro ⟨run, hmem, hid, rfl⟩
    exact ⟨run, List.mem_filter.mpr ⟨hmem, decide_eq_true hid⟩, rfl⟩

/-- The fold goes by which statuses there are. -/
theorem foldedSearchStatus_congr
    (h : ∀ status, status ∈ searchStatuses db mediaId ↔ status ∈ searchStatuses db' mediaId) :
    foldedSearchStatus db mediaId = foldedSearchStatus db' mediaId := by
  unfold foldedSearchStatus
  congr 1
  funext status
  rw [Bool.eq_iff_iff, List.contains_iff_mem, List.contains_iff_mem]
  exact h status

/-- Without a run there is no status. -/
theorem foldedSearchStatus_eq_none (h : ∀ run ∈ db.searchRuns, run.mediaId ≠ mediaId) :
    foldedSearchStatus db mediaId = none := by
  refine List.find?_eq_none.mpr fun status _ => ?_
  rw [List.contains_iff_mem, mem_searchStatuses]
  rintro ⟨run, hrun, hid, -⟩
  exact h run hrun hid

/-- A run with a status of the precedence has a status folded. -/
theorem foldedSearchStatus_isSome {run : TorrentSearchRun} (hrun : run ∈ db.searchRuns)
    (hid : run.mediaId = mediaId) (hlisted : run.status ∈ SEARCH_STATUS_PRECEDENCE) :
    (foldedSearchStatus db mediaId).isSome = true := by
  refine List.find?_isSome.mpr ⟨run.status, hlisted, ?_⟩
  rw [List.contains_iff_mem, mem_searchStatuses]
  exact ⟨run, hrun, hid, rfl⟩

/-- A write of a run leaves the statuses of the other media items alone. -/
theorem foldedSearchStatus_save {run : TorrentSearchRun}
    (hother : ∀ row ∈ db.searchRuns, row.id = run.id → row.mediaId ≠ mediaId)
    (hid : run.mediaId ≠ mediaId) (hsame : db'.searchRuns = db.searchRuns.save run) :
    foldedSearchStatus db' mediaId = foldedSearchStatus db mediaId := by
  refine foldedSearchStatus_congr fun status => ?_
  rw [mem_searchStatuses, mem_searchStatuses, hsame]
  constructor
  · rintro ⟨row, hrow, hmedia, hstatus⟩
    rcases Table.mem_save.mp hrow with rfl | ⟨hold, -⟩
    · exact absurd hmedia hid
    · exact ⟨row, hold, hmedia, hstatus⟩
  · rintro ⟨row, hrow, hmedia, hstatus⟩
    refine ⟨row, Table.mem_save_of_ne hrow fun hkey => ?_, hmedia, hstatus⟩
    exact hother row hrow hkey hmedia

end Fold

/-! ### The invariant -/

/-- The statuses of the media items are the folds of the statuses of their runs. -/
def Folded (db : WorkflowDb) : Prop :=
  ∀ media ∈ db.media, ∀ status, foldedSearchStatus db media.id = some status →
    media.workflowStatus = status

/-- What runs and jobs say of each other. -/
structure Carried (db : WorkflowDb) : Prop where
  named : Named db
  /-- A job names a run that there is, and which is active if the job is. -/
  bound : ∀ job ∈ db.queue, ∀ runId, job.payload.searchRunId = some runId →
    ∃ run ∈ db.searchRuns, run.id = runId ∧ job.jobType = .torrentSearch run.siteId run.mediaId ∧
      job.payload.mediaId = some run.mediaId ∧
      (isActiveJob job.status = true → isActiveSearch run.status = true)
  /-- An active run is named by an active job. -/
  served : ∀ run ∈ db.searchRuns, isActiveSearch run.status = true →
    ∃ job ∈ db.queue, isActiveJob job.status = true ∧ job.payload.searchRunId = some run.id
  single : ∀ job ∈ db.queue, ∀ job' ∈ db.queue, isActiveJob job.status = true →
    isActiveJob job'.status = true → job.jobType = job'.jobType → job = job'
  alone : ∀ run ∈ db.searchRuns, ∀ run' ∈ db.searchRuns, isActiveSearch run.status = true →
    isActiveSearch run'.status = true → run.mediaId = run'.mediaId → run.siteId = run'.siteId →
      run = run'
  listed : ∀ run ∈ db.searchRuns, run.status ∈ SEARCH_STATUS_PRECEDENCE
  housed : ∀ run ∈ db.searchRuns, (db.media.get? run.mediaId).isSome = true

/-- **What runs, jobs and media items say of each other.** -/
structure SearchInvariant (db : WorkflowDb) : Prop extends Carried db where
  folded : Folded db

/-- The active jobs of a type, after a job is written that is the only one, if it is active. -/
theorem single_save {db : WorkflowDb} {job : Job}
    (hsingle : ∀ job ∈ db.queue, ∀ job' ∈ db.queue, isActiveJob job.status = true →
      isActiveJob job'.status = true → job.jobType = job'.jobType → job = job')
    (hfree : isActiveJob job.status = true → activeJob db job.jobType = none) :
    ∀ one ∈ db.queue.save job, ∀ other ∈ db.queue.save job, isActiveJob one.status = true →
      isActiveJob other.status = true → one.jobType = other.jobType → one = other := by
  have hnone : ∀ row ∈ db.queue, isActiveJob job.status = true → isActiveJob row.status = true →
      row.jobType ≠ job.jobType := by
    intro row hrow hjob hactive htype
    exact List.find?_eq_none.mp (hfree hjob) row hrow (decide_eq_true ⟨htype, hactive⟩)
  intro one hone other hother hactive hactive' htype
  rcases Table.mem_save.mp hone with rfl | ⟨hold, -⟩ <;>
    rcases Table.mem_save.mp hother with rfl | ⟨hold', -⟩
  · rfl
  · exact absurd htype.symm (hnone other hold' hactive hactive')
  · exact absurd htype (hnone one hold hactive' hactive)
  · exact hsingle one hold other hold' hactive hactive' htype

/-- The active jobs of a type, after one of them is written over. -/
theorem single_replace {db : WorkflowDb} {row row' : Job}
    (hsingle : ∀ job ∈ db.queue, ∀ job' ∈ db.queue, isActiveJob job.status = true →
      isActiveJob job'.status = true → job.jobType = job'.jobType → job = job')
    (hrow : row ∈ db.queue) (hsame : SameJob row row') (hactive : isActiveJob row.status = true) :
    ∀ one ∈ db.queue.save row', ∀ other ∈ db.queue.save row', isActiveJob one.status = true →
      isActiveJob other.status = true → one.jobType = other.jobType → one = other := by
  have hcase : ∀ job ∈ db.queue.save row', isActiveJob job.status = true →
      ∃ old ∈ db.queue, isActiveJob old.status = true ∧ old.jobType = job.jobType ∧
        old.id = job.id := by
    refine Table.forall_mem_save (fun job hjob hjobActive => ?_) fun _ => ?_
    · exact ⟨job, hjob, hjobActive, rfl, rfl⟩
    · exact ⟨row, hrow, hactive, hsame.jobType.symm, hsame.id.symm⟩
  intro one hone other hother honeActive hotherActive htype
  obtain ⟨old, hold, holdActive, holdType, holdId⟩ := hcase one hone honeActive
  obtain ⟨old', hold', holdActive', holdType', holdId'⟩ := hcase other hother hotherActive
  have heq := hsingle old hold old' hold' holdActive holdActive'
    (holdType.trans (htype.trans holdType'.symm))
  exact Table.eq_of_key_eq hone hother (holdId.symm.trans (heq ▸ holdId'))

theorem searchInvariant_empty : SearchInvariant {} where
  named _ h := absurd h (Table.notMem_empty _)
  bound _ h := absurd h (Table.notMem_empty _)
  served _ h := absurd h (Table.notMem_empty _)
  single _ h := absurd h (Table.notMem_empty _)
  alone _ h := absurd h (Table.notMem_empty _)
  listed _ h := absurd h (Table.notMem_empty _)
  housed _ h := absurd h (Table.notMem_empty _)
  folded _ h := absurd h (Table.notMem_empty _)

namespace SearchInvariant

variable {db db' : WorkflowDb}

/-! ### Changes of one table -/

/-- Tables of which the invariant does not speak. -/
theorem of_same (h : SearchInvariant db) (hqueue : db'.queue = db.queue)
    (hruns : db'.searchRuns = db.searchRuns) (hmedia : db'.media = db.media) :
    SearchInvariant db' := by
  have hfold : ∀ mediaId, foldedSearchStatus db' mediaId = foldedSearchStatus db mediaId := by
    intro mediaId
    unfold foldedSearchStatus searchStatuses
    rw [hruns]
  refine ⟨⟨?_, ?_, ?_, ?_, ?_, ?_, ?_⟩, ?_⟩
  · unfold Named; rw [hqueue]; exact h.named
  · rw [hqueue, hruns]; exact h.bound
  · rw [hqueue, hruns]; exact h.served
  · rw [hqueue]; exact h.single
  · rw [hruns]; exact h.alone
  · rw [hruns]; exact h.listed
  · rw [hruns, hmedia]; exact h.housed
  · unfold Folded
    rw [hmedia]
    intro media hmem status hstatus
    exact h.folded media hmem status (hfold media.id ▸ hstatus)

/-- A write of a media item that has no run, or whose status stays. -/
theorem save_media (h : SearchInvariant db) {media : Models.MediaItem}
    (hstatus : foldedSearchStatus db media.id = none ∨
      ∃ old ∈ db.media, old.id = media.id ∧ old.workflowStatus = media.workflowStatus) :
    SearchInvariant { db with media := db.media.save media } where
  named := h.named
  bound := h.bound
  served := h.served
  single := h.single
  alone := h.alone
  listed := h.listed
  housed run hrun := Table.isSome_get?_save (h.housed run hrun)
  folded := by
    refine Table.forall_mem_save h.folded fun status hfold => ?_
    rcases hstatus with hnone | ⟨old, hold, hid, hsame⟩
    · exact absurd (hnone.symm.trans hfold).symm (Option.some_ne_none _)
    · rw [← hsame]
      exact h.folded old hold status (hid ▸ hfold)

/-- A write of a job that is as active as it was, or that names no run that there is. -/
theorem save_job (h : SearchInvariant db) {row row' : Job} (hrow : row ∈ db.queue)
    (hsame : SameJob row row') (hactive : isActiveJob row.status = true)
    (hother : row.jobType.isTorrentSearch = false ∨ isActiveJob row'.status = true ∨
      row.payload.searchRunId.bind db.searchRuns.get? = none) :
    SearchInvariant { db with queue := db.queue.save row' } where
  named := by
    refine Table.forall_mem_save h.named ?_
    rw [hsame.searchRunId, hsame.jobType]
    exact h.named row hrow
  bound := by
    refine Table.forall_mem_save h.bound fun runId hrunId => ?_
    rw [hsame.searchRunId] at hrunId
    obtain ⟨run, hrun, hid, htype, hmedia, hsearch⟩ := h.bound row hrow runId hrunId
    refine ⟨run, hrun, hid, hsame.jobType.trans htype, hsame.mediaId.trans hmedia, ?_⟩
    exact fun _ => hsearch hactive
  served run hrun hsearch := by
    obtain ⟨job, hjob, hjobActive, hnames⟩ := h.served run hrun hsearch
    by_cases hid : job.id = row.id
    · obtain rfl := Table.eq_of_key_eq hjob hrow hid
      refine ⟨row', Table.mem_save_self _ _, ?_, hsame.searchRunId.trans hnames⟩
      -- the job searches, for a run that there is
      rcases hother with hplain | hstill | hlost
      · have hname := h.named job hrow
        rw [hnames, hplain] at hname
        cases hname
      · exact hstill
      · rw [hnames, Option.bind_some] at hlost
        exact absurd (hlost.symm.trans (Table.get?_key hrun)).symm (Option.some_ne_none _)
    · exact ⟨job, Table.mem_save_of_ne hjob fun hkey => hid (hkey.trans hsame.id), hjobActive,
        hnames⟩
  single := single_replace h.single hrow hsame hactive
  alone := h.alone
  listed := h.listed
  housed := h.housed
  folded := h.folded

/-- A write of a job that does not search, whatever has become of it. -/
theorem overwrite_job (h : SearchInvariant db) {row row' : Job} (hrow : row ∈ db.queue)
    (hsame : SameJob row row') (hplain : row.jobType.isTorrentSearch = false)
    (hsingle : isActiveJob row'.status = true →
      isActiveJob row.status = true ∨ activeJob db row.jobType = none) :
    SearchInvariant { db with queue := db.queue.save row' } := by
  have hunnamed : row.payload.searchRunId = none := by
    rw [← Option.isNone_iff_eq_none, ← Option.isSome_eq_false_iff, h.named row hrow]
    exact hplain
  cases hactive : isActiveJob row.status with
  | true => exact h.save_job hrow hsame hactive (Or.inl hplain)
  | false =>
      refine ⟨⟨?_, ?_, fun run hrun hsearch => ?_, ?_, h.alone, h.listed, h.housed⟩, h.folded⟩
      · refine Table.forall_mem_save h.named ?_
        rw [hsame.searchRunId, hsame.jobType]
        exact h.named row hrow
      · refine Table.forall_mem_save h.bound fun runId hrunId => ?_
        rw [hsame.searchRunId, hunnamed] at hrunId
        cases hrunId
      · obtain ⟨job, hjob, hjobActive, hnames⟩ := h.served run hrun hsearch
        refine ⟨job, Table.mem_save_of_ne hjob fun hid => ?_, hjobActive, hnames⟩
        rw [Table.eq_of_key_eq hjob hrow (hid.trans hsame.id), hunnamed] at hnames
        cases hnames
      · refine single_save h.single fun hactive' => ?_
        rw [hsame.jobType]
        refine (hsingle hactive').resolve_left fun hrowActive => ?_
        rw [hactive] at hrowActive
        cases hrowActive

/-- A new job that does not search. -/
theorem save_newJob (h : SearchInvariant db) {job : Job} (hnew : db.queue.get? job.id = none)
    (hfree : activeJob db job.jobType = none) (hother : job.jobType.isTorrentSearch = false)
    (hrun : job.payload.searchRunId = none) :
    SearchInvariant { db with queue := db.queue.save job } where
  named := by
    refine Table.forall_mem_save h.named ?_
    rw [hrun, hother]
    rfl
  bound := by
    refine Table.forall_mem_save h.bound fun runId hrunId => ?_
    rw [hrun] at hrunId
    cases hrunId
  served run hmem hsearch := by
    obtain ⟨row, hrow, hactive, hnames⟩ := h.served run hmem hsearch
    exact ⟨row, mem_queue_save hnew hrow, hactive, hnames⟩
  single := single_save h.single fun _ => hfree
  alone := h.alone
  listed := h.listed
  housed := h.housed
  folded := h.folded

end SearchInvariant

/-! ### Changes of a search -/

section Refresh

variable {db : WorkflowDb} {mediaId : String}

/-- A refresh sets the status of its media item, and of no other. -/
theorem Carried.refreshed (h : Carried db)
    (hothers : ∀ media ∈ db.media, media.id ≠ mediaId → ∀ status,
      foldedSearchStatus db media.id = some status → media.workflowStatus = status) :
    SearchInvariant (Workflow.refreshed mediaId db) := by
  unfold Workflow.refreshed
  split
  · rename_i media status hmedia hfold
    obtain ⟨hmem, rfl⟩ := mem_of_get? hmedia
    refine ⟨⟨h.named, h.bound, h.served, h.single, h.alone, h.listed, ?_⟩, ?_⟩
    · exact fun run hrun => Table.isSome_get?_save (h.housed run hrun)
    · intro other hother status' hfold'
      rcases Table.mem_save.mp hother with rfl | ⟨hold, hne⟩
      · exact Option.some.inj (hfold.symm.trans hfold')
      · exact hothers other hold hne status' hfold'
  · rename_i hnone
    refine ⟨h, fun other hother status hfold => ?_⟩
    by_cases hid : other.id = mediaId
    · subst hid
      exact absurd hfold (hnone other status (Table.get?_key hother))
    · exact hothers other hother hid status hfold

end Refresh

section Changes

variable {db : WorkflowDb}

/-- A new search. -/
theorem SearchInvariant.queued (h : SearchInvariant db) {run : TorrentSearchRun} {job : Job}
    (hsearch : NewSearch db run job) :
    SearchInvariant (refreshed run.mediaId { db with
      searchRuns := db.searchRuns.save run
      queue := db.queue.save job }) := by
  have hactive : isActiveSearch run.status = true := by rw [hsearch.pending]; rfl
  have hnew : ∀ row ∈ db.searchRuns, row.id ≠ run.id := Table.get?_eq_none.mp hsearch.new
  have hkept : ∀ row ∈ db.searchRuns, row ∈ db.searchRuns.save run :=
    fun row hrow => Table.mem_save_of_ne hrow (hnew row hrow)
  have hself := Table.mem_save_self db.searchRuns run
  -- the search was let in because none of the item and the site was active
  have halone : ∀ row ∈ db.searchRuns, isActiveSearch row.status = true →
      row.mediaId = run.mediaId → row.siteId ≠ run.siteId := by
    intro row hrow hactive' hmediaSame hsite
    have hmem : row ∈ activeSearchRuns db run.mediaId run.siteId :=
      List.mem_filter.mpr ⟨hrow, decide_eq_true ⟨hmediaSame, hsite, hactive'⟩⟩
    rw [hsearch.free] at hmem
    cases hmem
  refine Carried.refreshed ⟨?_, ?_, ?_, ?_, ?_, ?_, ?_⟩ ?_
  · refine Table.forall_mem_save h.named ?_
    rw [hsearch.runId, hsearch.jobType]
    rfl
  · refine Table.forall_mem_save (fun row hrow runId hnames => ?_) fun runId hnames => ?_
    · obtain ⟨found, hfound, hbound⟩ := h.bound row hrow runId hnames
      exact ⟨found, hkept found hfound, hbound⟩
    · rw [hsearch.runId, Option.some.injEq] at hnames
      exact ⟨run, hself, hnames, hsearch.jobType, hsearch.mediaId, fun _ => hactive⟩
  · refine Table.forall_mem_save (fun row hrow hactive' => ?_) fun _ => ?_
    · obtain ⟨carrier, hcarrier, hcarrierActive, hnames⟩ := h.served row hrow hactive'
      exact ⟨carrier, mem_queue_save hsearch.jobNew hcarrier, hcarrierActive, hnames⟩
    · exact ⟨job, Table.mem_save_self _ _, by rw [hsearch.jobPending]; rfl, hsearch.runId⟩
  · exact single_save h.single fun _ => hsearch.jobFree
  · intro one hone other hother hactive' hactive'' hmediaSame hsite
    rcases Table.mem_save.mp hone with rfl | ⟨hold, -⟩ <;>
      rcases Table.mem_save.mp hother with rfl | ⟨hold', -⟩
    · rfl
    · exact absurd hsite.symm (halone other hold' hactive'' hmediaSame.symm)
    · exact absurd hsite (halone one hold hactive' hmediaSame)
    · exact h.alone one hold other hold' hactive' hactive'' hmediaSame hsite
  · refine Table.forall_mem_save h.listed ?_
    rw [hsearch.pending]
    simp [SEARCH_STATUS_PRECEDENCE]
  · exact Table.forall_mem_save h.housed hsearch.media
  · intro media hmem hne status hfold
    refine h.folded media hmem status ?_
    rw [← hfold]
    exact (foldedSearchStatus_save (fun row hrow hid => absurd hid (hnew row hrow)) hne.symm
      rfl).symm

/-- A step of a search. -/
theorem SearchInvariant.searched (h : SearchInvariant db) {row row' : Job}
    {run run' : TorrentSearchRun} (hrow : row ∈ db.queue) (hsame : SameJob row row')
    (hactive : isActiveJob row.status = true)
    (hrun : row.payload.searchRunId.bind db.searchRuns.get? = some run) (hkept : SameRun run run')
    (hagree : isActiveJob row'.status = isActiveSearch run'.status ∧
        run'.status ∈ SEARCH_STATUS_PRECEDENCE ∨
      isActiveJob row'.status = true ∧ run'.status = run.status) :
    SearchInvariant (refreshedFor row.payload.mediaId { db with
      searchRuns := db.searchRuns.save run'
      queue := db.queue.save row' }) := by
  obtain ⟨runId, hnames, hget⟩ := Option.bind_eq_some_iff.mp hrun
  obtain ⟨hrunMem, rfl⟩ := Table.get?_eq_some.mp hget
  -- the job is bound to the run, which is therefore active
  obtain ⟨bound, hbound, hboundId, htype, hmediaId, hboundActive⟩ := h.bound row hrow _ hnames
  obtain rfl := Table.eq_of_key_eq hbound hrunMem hboundId
  have hboundSearch := hboundActive hactive
  have hagree' : isActiveJob row'.status = isActiveSearch run'.status ∧
      run'.status ∈ SEARCH_STATUS_PRECEDENCE := by
    rcases hagree with hagree | ⟨hstill, hstatus⟩
    · exact hagree
    · rw [hstill, hstatus, hboundSearch]
      exact ⟨rfl, h.listed bound hbound⟩
  have hself := Table.mem_save_self db.searchRuns run'
  have hkeptRun : ∀ other ∈ db.searchRuns, other.id ≠ bound.id →
      other ∈ db.searchRuns.save run' :=
    fun other hother hne => Table.mem_save_of_ne hother fun hid => hne (hid.trans hkept.id)
  rw [hmediaId]
  refine Carried.refreshed ⟨?_, ?_, ?_, ?_, ?_, ?_, ?_⟩ ?_
  · refine Table.forall_mem_save h.named ?_
    rw [hsame.searchRunId, hsame.jobType]
    exact h.named row hrow
  · intro job hjob runId hjobNames
    rcases Table.mem_save.mp hjob with rfl | ⟨hold, hne⟩
    · rw [hsame.searchRunId, hnames, Option.some.injEq] at hjobNames
      refine ⟨run', hself, hkept.id.trans hjobNames, ?_, ?_, fun hstill => hagree'.1 ▸ hstill⟩
      · rw [hsame.jobType, hkept.siteId, hkept.mediaId]
        exact htype
      · rw [hsame.mediaId, hkept.mediaId]
        exact hmediaId
    · obtain ⟨found, hfound, hid, hfoundType, hfoundMedia, hfoundActive⟩ :=
        h.bound job hold runId hjobNames
      by_cases hsameRun : found.id = bound.id
      · obtain rfl := Table.eq_of_key_eq hfound hbound hsameRun
        refine ⟨run', hself, hkept.id.trans hid, ?_, ?_, fun hjobActive => ?_⟩
        · rw [hkept.siteId, hkept.mediaId]
          exact hfoundType
        · rw [hkept.mediaId]
          exact hfoundMedia
        · -- only one active job is of the type
          have heq := h.single job hold row hrow hjobActive hactive (hfoundType.trans htype.symm)
          exact absurd (heq ▸ hsame.id.symm) hne
      · exact ⟨found, hkeptRun found hfound hsameRun, hid, hfoundType, hfoundMedia,
          hfoundActive⟩
  · intro other hother hsearch
    rcases Table.mem_save.mp hother with rfl | ⟨hold, hne⟩
    · exact ⟨row', Table.mem_save_self _ _, hagree'.1.trans hsearch,
        hsame.searchRunId.trans (hnames.trans (congrArg some hkept.id.symm))⟩
    · obtain ⟨carrier, hcarrier, hcarrierActive, hcarrierNames⟩ := h.served other hold hsearch
      refine ⟨carrier, Table.mem_save_of_ne hcarrier fun hid => hne ?_, hcarrierActive,
        hcarrierNames⟩
      obtain rfl := Table.eq_of_key_eq hcarrier hrow (hid.trans hsame.id)
      exact (Option.some.inj (hcarrierNames.symm.trans hnames)).trans hkept.id.symm
  · exact single_replace h.single hrow hsame hactive
  · have hcase : ∀ one ∈ db.searchRuns.save run', isActiveSearch one.status = true →
        ∃ old ∈ db.searchRuns, isActiveSearch old.status = true ∧ old.mediaId = one.mediaId ∧
          old.siteId = one.siteId ∧ old.id = one.id := by
      refine Table.forall_mem_save (fun one hone honeActive => ?_) fun _ => ?_
      · exact ⟨one, hone, honeActive, rfl, rfl, rfl⟩
      · exact ⟨bound, hbound, hboundSearch, hkept.mediaId.symm, hkept.siteId.symm,
          hkept.id.symm⟩
    intro one hone other hother honeActive hotherActive hmediaSame hsite
    obtain ⟨old, hold, holdActive, holdMedia, holdSite, holdId⟩ := hcase one hone honeActive
    obtain ⟨old', hold', holdActive', holdMedia', holdSite', holdId'⟩ :=
      hcase other hother hotherActive
    have heq := h.alone old hold old' hold' holdActive holdActive'
      (holdMedia.trans (hmediaSame.trans holdMedia'.symm))
      (holdSite.trans (hsite.trans holdSite'.symm))
    exact Table.eq_of_key_eq hone hother (holdId.symm.trans (heq ▸ holdId'))
  · exact Table.forall_mem_save h.listed hagree'.2
  · refine Table.forall_mem_save h.housed ?_
    rw [hkept.mediaId]
    exact h.housed bound hbound
  · intro media hmem hne status hfold
    refine h.folded media hmem status ?_
    rw [← hfold]
    refine (foldedSearchStatus_save (fun other hother hid => ?_) ?_ rfl).symm
    · rw [Table.eq_of_key_eq hother hbound (hid.trans hkept.id)]
      exact hne.symm
    · rw [hkept.mediaId]
      exact hne.symm

end Changes

/-! ### Runs -/

variable [WorkflowRuntime]

omit [WorkflowRuntime] in
/-- The row that an item was imported as. -/
theorem existingMedia_row {db : WorkflowDb} {item : MediaItemData} {existing : Models.MediaItem}
    (h : existingMedia db item = some existing) :
    existing ∈ db.media ∧ existing.source = item.source ∧ existing.mediaType = item.mediaType ∧
      existing.tmdbId = item.tmdbId ∧
      (item.tmdbId = none → existing.sourceItemId = item.sourceItemId) := by
  have hkind := List.find?_some h
  rw [decide_eq_true_iff] at hkind
  exact ⟨List.mem_of_find?_eq_some h, hkind⟩

/-- **Every change keeps what runs, jobs and media items say of each other**, but those of an agent
that goes on with what it has read of a search, though the row has changed. -/
theorem Move.searchInvariant {agent : Agent} {db db' : WorkflowDb} (hmove : Move agent db db')
    (hcurrent : agent.outdated = false) (h : SearchInvariant db) : SearchInvariant db' := by
  have hnever : ¬ agent.outdated = true := by
    rw [hcurrent]
    exact Bool.false_ne_true
  cases hmove with
  | aside control discoveryRuns audit => exact h.of_same rfl rfl rfl
  | matched hnew => exact h.of_same rfl rfl rfl
  | found hnew => exact h.of_same rfl rfl rfl
  | queued hnew hfree _ hother hrun => exact h.save_newJob hnew hfree hother hrun
  | worked hrow hsame hactive hother => exact h.save_job hrow hsame hactive hother
  | unsettled hrow hheld hopen hsame hstatus =>
      refine h.save_media (Or.inl (foldedSearchStatus_eq_none ?_))
      rw [hsame.id, ← hheld]
      exact (open_of_evidence hopen).2.1
  | @confirmed held media review candidate hagent hrow hheld hopen hunique hnew hreview hstatus
      hsnapshot =>
      refine (h.save_media (Or.inl (foldedSearchStatus_eq_none ?_))).of_same rfl rfl rfl
      change ∀ run ∈ db.searchRuns, run.mediaId ≠ media.id
      rw [← hheld]
      exact (open_of_evidence hopen).2.1
  | created hagent hitem hnone hnew =>
      refine h.save_media (Or.inl (foldedSearchStatus_eq_none fun run hrun hid => ?_))
      -- a run has a media item, which the new one is not
      have hhoused := h.housed run hrun
      rw [hid] at hhoused
      exact absurd hhoused (Option.not_isSome_iff_eq_none.mpr hnew)
  | updated hagent hitem hexisting =>
      exact h.save_media (Or.inr ⟨_, (existingMedia_row hexisting).1, rfl, rfl⟩)
  | located hagent hrow => exact h.save_media (Or.inr ⟨_, hrow, rfl, rfl⟩)
  | searchQueued hagent hsearch => exact h.queued hsearch
  | searchConcealed houtdated => exact absurd houtdated hnever
  | @overwritten row row' houtdated hrow hsame hsingle =>
      cases hplain : row.jobType.isTorrentSearch with
      | true => exact absurd (houtdated hplain) hnever
      | false => exact h.overwrite_job hrow hsame hplain hsingle
  | runOverwritten houtdated => exact absurd houtdated hnever
  | searched hrow hsame hactive hrun hkept hagree =>
      exact h.searched hrow hsame hactive hrun hkept hagree

end LibSeek.Workflow
