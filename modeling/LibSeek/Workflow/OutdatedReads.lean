/-
What a session has read before.

A worker whose job fails reads the job, and only then locks its row; an operator who asks for a search
has the media item read before its row is locked.  Neither reads again what it has read: the lease
and the status that decide are those of a row that others may have written since, and what is written
is written over it.  So a worker that has lost its job may put it back into the queue after another
one has finished it, and a media item may keep the status of a search that is over.

Where what was read is still so when the row is locked, runs, jobs and media items agree.

Main definitions:

* `Workflow.SearchesAgree` — runs, jobs and media items agree;
* `Workflow.overtakenRun` — a run in which a worker fails after another one has taken its job over.

Main results:

* `Workflow.searches_agree` — **they agree wherever what was read is still so**;
* `Workflow.overtaken_failure_disagrees` — where it is not, they may not.
-/

import LibSeek.Workflow.SearchResults
import LibSeek.Workflow.Searches

set_option relaxedAutoImplicit false
set_option autoImplicit false

namespace LibSeek.Workflow

open LibSeek.Core LibSeek.Lib LibSeek.Models LibSeek.Schemas LibSeek.Services LibSeek.Workers

/-! ### Agreement -/

/-- **Runs, jobs and media items agree.** -/
structure SearchesAgree (db : WorkflowDb) : Prop where
  /-- A run is active if and only if exactly one active job names it. -/
  active : ∀ run ∈ db.searchRuns, isActiveSearch run.status = true ↔
    ∃! job, job ∈ db.queue ∧ isActiveJob job.status = true ∧
      job.payload.searchRunId = some run.id
  /-- A media item has one active run on a site at most. -/
  alone : ∀ run ∈ db.searchRuns, ∀ run' ∈ db.searchRuns, isActiveSearch run.status = true →
    isActiveSearch run'.status = true → run.mediaId = run'.mediaId → run.siteId = run'.siteId →
      run = run'
  /-- The status of a media item is the first one of the precedence that its runs have. -/
  status : ∀ media ∈ db.media, (∃ run ∈ db.searchRuns, run.mediaId = media.id) →
    SEARCH_STATUS_PRECEDENCE.find? (fun status => (searchStatuses db media.id).contains status) =
      some media.workflowStatus

section Agreement

variable [WorkflowRuntime]

/-- An operation that goes on with what is still so is no outdated agent. -/
theorem Operation.outdated_of_searchAsRead {w : World} {op : Operation} (h : op.searchAsRead w) :
    (op.agent w).outdated = false := by
  cases op <;> first | rfl | exact decide_eq_false (not_not.mpr h)

omit [WorkflowRuntime] in
/-- What runs, jobs and media items say of each other is that they agree. -/
theorem SearchInvariant.agree {db : WorkflowDb} (h : SearchInvariant db) : SearchesAgree db := by
  refine ⟨fun run hrun => ⟨fun hactive => ?_, ?_⟩, h.alone, ?_⟩
  · obtain ⟨job, hjob, hjobActive, hnames⟩ := h.served run hrun hactive
    refine ⟨job, ⟨hjob, hjobActive, hnames⟩, ?_⟩
    rintro other ⟨hother, hotherActive, hotherNames⟩
    -- two jobs that name one run are of one type
    obtain ⟨run₁, hrun₁, hid₁, htype₁, -⟩ := h.bound job hjob run.id hnames
    obtain ⟨run₂, hrun₂, hid₂, htype₂, -⟩ := h.bound other hother run.id hotherNames
    have hsame := Table.eq_of_key_eq hrun₁ hrun₂ (hid₁.trans hid₂.symm)
    refine h.single other hother job hjob hotherActive hjobActive ?_
    rw [htype₁, htype₂, hsame]
  · rintro ⟨job, ⟨hjob, hjobActive, hnames⟩, -⟩
    obtain ⟨run', hrun', hid, -, -, hactive⟩ := h.bound job hjob run.id hnames
    rw [Table.eq_of_key_eq hrun hrun' hid.symm]
    exact hactive hjobActive
  · rintro media hmedia ⟨run, hrun, hid⟩
    obtain ⟨status, hfold⟩ := Option.isSome_iff_exists.mp
      (foldedSearchStatus_isSome hrun hid (h.listed run hrun))
    rw [h.folded media hmedia status hfold]
    exact hfold

/-- **Runs, jobs and media items agree** in every state of a run in which no step goes on with what
was read of a search though the row has changed. -/
theorem searches_agree (ops : List Operation)
    (hread : EveryStep (fun w op => op.searchAsRead w) {} ops) :
    SearchesAgree (World.run ops).db := by
  refine SearchInvariant.agree (World.run_invariant_of searchInvariant_empty ?_ ops hread).1
  intro w op db db' hasRead h hmove
  exact hmove.searchInvariant (Operation.outdated_of_searchAsRead hasRead) h

end Agreement

/-! ### A failure that comes late -/

/-- The run of the search for the film is named by exactly one active job. -/
theorem searches_agree_sample :
    ∃! job, job ∈ searchedDb.queue ∧ isActiveJob job.status = true ∧
      job.payload.searchRunId = some searchedSearch.id :=
  ((@searches_agree asciiWorkflow searchedRun (by decide +kernel)).active searchedSearch
    (Table.mem_rows.mp (by decide +kernel))).mp (by decide +kernel)

/-- Another worker. -/
def otherProcessor : JobProcessor :=
  { sampleProcessor with workerId := "other" }

/-- The job of the search, as another worker claims it once the lease has expired. -/
def overtakenJob : Job :=
  claimedJob otherProcessor (sampleUuid 0) (seconds 301) searchedJob

/-- What a site is reported as that answers with an error of its own. -/
def siteUnavailable : AppError where
  errorCode := "AVISTAZ_UNAVAILABLE"
  message := "AvistaZ 服务暂时不可用"
  statusCode := 502
  retryable := true

/-- A run in which a worker fails and reads its job, another one takes the job over, finds nothing and
finishes it, and only then the first one locks the row. -/
def overtakenRun : List Operation :=
  searchedRun ++
    [.claimJob otherProcessor (sampleUuid 0) (seconds 301) fun _ => false,
      .completeSearch otherProcessor overtakenJob [] [] {} (seconds 302),
      .fail sampleProcessor searchedJob 2 siteUnavailable (seconds 303)]

/-- The database of the run. -/
def overtakenDb : WorkflowDb :=
  (@World.run asciiWorkflow overtakenRun).db

/-- The job of the search, which the failure has put back into the queue. -/
def returnedJob : Job :=
  (overtakenDb.queue.get? (sampleUuid 9).text).get (by decide +kernel)

/-- The run of the search, which is over. -/
def finishedSearch : TorrentSearchRun :=
  (overtakenDb.searchRuns.get? (sampleUuid 8).text).get (by decide +kernel)

/-- The search is over, and its job is back in the queue. -/
theorem overtaken_failure_disagrees :
    ¬ ∀ (runtime : WorkflowRuntime) (ops : List Operation),
      SearchesAgree (@World.run runtime ops).db := by
  intro h
  have hrun : finishedSearch ∈ overtakenDb.searchRuns := Table.mem_rows.mp (by decide +kernel)
  have hjob : returnedJob ∈ overtakenDb.queue ∧ isActiveJob returnedJob.status = true ∧
      returnedJob.payload.searchRunId = some finishedSearch.id :=
    ⟨Table.mem_rows.mp (by decide +kernel), by decide +kernel, by decide +kernel⟩
  have honly : ∀ other ∈ overtakenDb.queue.rows,
      other.payload.searchRunId = some finishedSearch.id → other = returnedJob := by
    decide +kernel
  have hactive := ((h asciiWorkflow overtakenRun).active finishedSearch hrun).mpr
    ⟨returnedJob, hjob, fun other hother => honly other hother.1 hother.2.2⟩
  revert hactive
  decide +kernel

end LibSeek.Workflow
