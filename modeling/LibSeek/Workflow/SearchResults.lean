/-
The results of a search.

A site is asked for torrents, and what it answers is scored, and stored in one transaction, below
which a unique index lets a run have each torrent of a site once.  Nothing looks for torrents that an
answer names twice, so that such an answer fails as a whole, and so does one with a number that the
scoring, or the database, has no room for.

Main definitions:

* `Workflow.FoundCandidate`, `Workflow.storeFound` — the end of `_run_torrent_search`;
* `Workflow.resultKey`, `Workflow.storedKeys` — what the unique index reads;
* `Workflow.Fresh` — results none of which is twice, nor stored already;
* `Workflow.Storable`, `Workflow.SearchStored` — an answer that can be stored, and a search that has
  succeeded;
* `Workflow.searchedRun` — a run in which a film is searched for.

Main results:

* `Workflow.wp_insertCandidates` — **what is stored, and when nothing is**;
* `Workflow.scoreFound_spec` — when an answer is scored;
* `Workflow.storeFound_stores_iff` — **when a search succeeds**;
* `Workflow.doubled_result_fails` — an answer that names a torrent twice.
-/

import LibSeek.Services.Matching
import LibSeek.Workflow.Discoveries

set_option relaxedAutoImplicit false
set_option autoImplicit false

namespace LibSeek.Workflow

open LibSeek.Core LibSeek.Lib LibSeek.Models LibSeek.Schemas LibSeek.Services LibSeek.Workers

/-! ### The end of `_run_torrent_search` -/

/-- The least number of which a thousandth is no float: it would be rounded to `2 ^ 1024`. -/
def seedersLimit : ℕ :=
  1000 * (2 ^ 1024 - 2 ^ 970)

/-- Whether `candidate.seeders / 1000` raises. -/
def tooManySeeders (candidate : TorrentCandidate) : Bool :=
  candidate.seeders.any (seedersLimit ≤ ·)

/-- A candidate that an adapter found, with the identifier of its row. -/
structure FoundCandidate where
  candidate : TorrentCandidate
  /-- Whether the document of the candidate is JSON: it is none where a factor, which `candidate` has
  as `none`, is infinite. -/
  isJson : Bool := true
  newId : Uuid

/-- The site and the torrent of a candidate. -/
def foundKey (one : FoundCandidate) : String × String :=
  (one.candidate.siteId, one.candidate.torrentId)

/-- What a worker has read for a search before it asks the site. -/
structure SearchInput where
  siteId : String
  metadata : MetadataRecord
  missingEpisodes : Option (List String)
  preferences : MatchPreferences
  priorTitles : List String

section Scoring

variable [WorkflowRuntime]

/-- `score_torrent_candidate`, which raises where the seeders are too many. -/
def tryScoreTorrentCandidate (metadata : MetadataRecord) (candidate : TorrentCandidate)
    (missingEpisodes : Option (List String)) (preferences : MatchPreferences) :
    Except Exn ScoredCandidate := do
  ensure (tooManySeeders candidate = false) (.other "OverflowError")
  return scoreTorrentCandidate metadata candidate missingEpisodes preferences

/-- The scores of what was found: a candidate is a possible duplicate where its title is one of
`seenTitles`, or that of a candidate before it. -/
def scoreFound (input : SearchInput) :
    List String → List FoundCandidate → Except Exn (List (ScoredCandidate × Uuid))
  | _, [] => return []
  | seenTitles, one :: others => do
      let normalizedTitle := strip (casefold one.candidate.releaseTitle)
      let scored ← tryScoreTorrentCandidate input.metadata one.candidate input.missingEpisodes
        { input.preferences with possibleDuplicate := seenTitles.contains normalizedTitle }
      let rest ← scoreFound input (normalizedTitle :: seenTitles) others
      return (scored, one.newId) :: rest

/-- The error of an adapter that found something on another site. -/
def ptSiteCandidateMismatch : AppError where
  errorCode := "PT_SITE_CANDIDATE_MISMATCH"
  message := "PT 适配器返回了其他站点的候选，结果已拒绝"
  statusCode := 502

/-- The end of `_run_torrent_search`, where the adapter has answered. -/
def storeFound (p : JobProcessor) (jobId searchRunId mediaId : String) (input : SearchInput)
    (found : List FoundCandidate) (strategyLog : List (String × ℕ)) (leaseToken : Option String)
    (settings : WorkflowSettings) (now : DateTime) : WorkflowTx Unit := do
  Tx.require (∀ one ∈ found, one.candidate.siteId = input.siteId) (.app ptSiteCandidateMismatch)
  let scored ← Tx.ofExcept (scoreFound input input.priorTitles found)
  let db ← Tx.get
  completeTorrentSearch p jobId searchRunId mediaId scored strategyLog leaseToken settings now
  match ownedJob p db jobId leaseToken, db.searchRuns.get? searchRunId, db.media.get? mediaId with
  | some _, some _, some _ =>
      -- the rows are flushed: a `json` column takes no other document
      Tx.require (∀ one ∈ found, one.isJson = true) (.other "DBAPIError")
  | _, _, _ => return ()

/-- **When an answer is scored**, and that the scores are of what was found. -/
theorem scoreFound_spec (input : SearchInput) (found : List FoundCandidate)
    (seenTitles : List String) :
    (∃ scored, scoreFound input seenTitles found = .ok scored ∧
        (∀ one ∈ found, tooManySeeders one.candidate = false) ∧
        scored.map Prod.snd = found.map FoundCandidate.newId ∧
        scored.map (fun one => (one.1.candidate.siteId, one.1.candidate.torrentId)) =
          found.map foundKey) ∨
      scoreFound input seenTitles found = .error (.other "OverflowError") ∧
        ¬ ∀ one ∈ found, tooManySeeders one.candidate = false := by
  induction found generalizing seenTitles with
  | nil => exact .inl ⟨[], rfl, fun one hone => absurd hone List.not_mem_nil, rfl, rfl⟩
  | cons one others ih =>
      unfold scoreFound tryScoreTorrentCandidate
      cases hseeders : tooManySeeders one.candidate with
      | true =>
          exact .inr ⟨rfl, fun h => absurd (h one List.mem_cons_self) (by rw [hseeders]; decide)⟩
      | false =>
          rcases ih (strip (casefold one.candidate.releaseTitle) :: seenTitles) with
            ⟨scored, hscored, hfew, hids, hkeys⟩ | ⟨herror, hmany⟩
          · left
            refine ⟨_, congrArg (fun rest : Except Exn (List (ScoredCandidate × Uuid)) => rest >>=
              fun rest => return (_, one.newId) :: rest) hscored, ?_, ?_, ?_⟩
            · exact List.forall_mem_cons.mpr ⟨hseeders, hfew⟩
            · exact congrArg (one.newId :: ·) hids
            · exact congrArg (foundKey one :: ·) hkeys
          · right
            refine ⟨congrArg (fun rest : Except Exn (List (ScoredCandidate × Uuid)) => rest >>=
              fun rest => return (_, one.newId) :: rest) herror, fun h => hmany ?_⟩
            exact (List.forall_mem_cons.mp h).2

end Scoring

/-! ### What the unique index reads -/

/-- The site and the torrent of a result. -/
def resultKey (one : ScoredCandidate × Uuid) : String × String :=
  (one.1.candidate.siteId, one.1.candidate.torrentId)

/-- The sites and torrents that a run has. -/
def storedKeys (db : WorkflowDb) (runId : String) : List (String × String) :=
  (db.candidates.rows.filter fun c => c.searchRunId = runId).map fun c => (c.siteId, c.torrentId)

/-- Results none of which is twice, nor stored for the run already. -/
structure Fresh (db : WorkflowDb) (runId : String) (candidates : List (ScoredCandidate × Uuid)) :
    Prop where
  distinct : (candidates.map resultKey).Nodup
  new : ∀ one ∈ candidates, resultKey one ∉ storedKeys db runId

section Insert

variable {run : TorrentSearchRun} {now : DateTime} {db : WorkflowDb}

theorem mem_storedKeys {runId : String} {key : String × String} :
    key ∈ storedKeys db runId ↔ ∃ c ∈ db.candidates.rows, c.searchRunId = runId ∧
      c.siteId = key.1 ∧ c.torrentId = key.2 := by
  unfold storedKeys
  rw [List.mem_map]
  constructor
  · rintro ⟨c, hc, rfl⟩
    obtain ⟨hmem, hrun⟩ := List.mem_filter.mp hc
    exact ⟨c, hmem, of_decide_eq_true hrun, rfl, rfl⟩
  · rintro ⟨c, hmem, hrun, hsite, htorrent⟩
    exact ⟨c, List.mem_filter.mpr ⟨hmem, decide_eq_true hrun⟩, Prod.ext hsite htorrent⟩

/-- The rows of some results. -/
def recordsOf (run : TorrentSearchRun) (now : DateTime)
    (candidates : List (ScoredCandidate × Uuid)) : List Models.TorrentCandidateRecord :=
  candidates.map fun one => candidateRecord run one.2 now one.1

/-- What a run has after some of its results are stored. -/
theorem storedKeys_append {db' : WorkflowDb} {candidates : List (ScoredCandidate × Uuid)}
    (h : db'.candidates.rows = db.candidates.rows ++ recordsOf run now candidates) :
    storedKeys db' run.id = storedKeys db run.id ++ candidates.map resultKey := by
  have hall : (recordsOf run now candidates).filter (fun c => decide (c.searchRunId = run.id)) =
      recordsOf run now candidates := by
    rw [List.filter_eq_self]
    intro c hc
    obtain ⟨one, -, rfl⟩ := List.mem_map.mp hc
    exact decide_eq_true rfl
  unfold storedKeys
  rw [h, List.filter_append, hall, List.map_append]
  unfold recordsOf
  rw [List.map_map]
  rfl

/-- A result, and the others once it is stored. -/
theorem fresh_cons {db' : WorkflowDb} {one : ScoredCandidate × Uuid}
    {others : List (ScoredCandidate × Uuid)} {runId : String}
    (h : storedKeys db' runId = storedKeys db runId ++ [resultKey one]) :
    Fresh db runId (one :: others) ↔
      resultKey one ∉ storedKeys db runId ∧ Fresh db' runId others := by
  constructor
  · intro hfresh
    have hdistinct := List.nodup_cons.mp hfresh.distinct
    refine ⟨hfresh.new one List.mem_cons_self, hdistinct.2, fun other hother => ?_⟩
    rw [h, List.mem_append, not_or]
    refine ⟨hfresh.new other (List.mem_cons_of_mem _ hother), fun hsame => hdistinct.1 ?_⟩
    rw [← List.mem_singleton.mp hsame]
    exact List.mem_map_of_mem hother
  · rintro ⟨hnew, hfresh⟩
    have hothers : ∀ other ∈ others, resultKey other ∉ storedKeys db runId ∧
        resultKey other ≠ resultKey one := by
      intro other hother
      have hnot := hfresh.new other hother
      rw [h, List.mem_append, not_or, List.mem_singleton] at hnot
      exact hnot
    refine ⟨List.nodup_cons.mpr ⟨fun hmem => ?_, hfresh.distinct⟩, ?_⟩
    · obtain ⟨other, hother, hsame⟩ := List.mem_map.mp hmem
      exact (hothers other hother).2 hsame
    · exact List.forall_mem_cons.mpr ⟨hnew, fun other hother => (hothers other hother).1⟩

/-- **What is stored, and when nothing is.** -/
theorem wp_insertCandidates (candidates : List (ScoredCandidate × Uuid)) {db : WorkflowDb}
    (hids : (candidates.map fun one => one.2.text).Nodup)
    (hnew : ∀ one ∈ candidates, db.candidates.get? one.2.text = none) :
    Tx.wp (insertCandidates run now candidates)
      (fun _ db' => Fresh db run.id candidates ∧ ∃ table, db' = { db with candidates := table } ∧
        table.rows = db.candidates.rows ++ recordsOf run now candidates)
      (fun e _ => e = .integrity ∧ ¬ Fresh db run.id candidates) db := by
  induction candidates generalizing db with
  | nil =>
      refine ⟨⟨List.nodup_nil, fun one hone => absurd hone List.not_mem_nil⟩, db.candidates, rfl, ?_⟩
      exact (List.append_nil _).symm
  | cons one others ih =>
      obtain ⟨scored, newId⟩ := one
      rw [List.map_cons, List.nodup_cons] at hids
      have hfree := hnew (scored, newId) List.mem_cons_self
      -- the rows once the first result is stored
      have hrows : (db.candidates.save (candidateRecord run newId now scored)).rows =
          db.candidates.rows ++ recordsOf run now [(scored, newId)] :=
        Table.rows_save_of_new hfree
      have hstored : storedKeys { db with
          candidates := db.candidates.save (candidateRecord run newId now scored) } run.id =
          storedKeys db run.id ++ [resultKey (scored, newId)] :=
        @storedKeys_append run now db _ [(scored, newId)] hrows
      have htaken : (∀ c ∈ db.candidates.rows, ¬ (c.searchRunId = run.id ∧
          c.siteId = scored.candidate.siteId ∧ c.torrentId = scored.candidate.torrentId)) ↔
          resultKey (scored, newId) ∉ storedKeys db run.id := by
        rw [mem_storedKeys, not_exists]
        exact forall_congr' fun c => not_and.symm
      unfold insertCandidates
      simp only [Tx.wp_bind, Tx.wp_get, Tx.wp_require, Tx.wp_modify]
      refine ⟨?_, fun hnot => ⟨trivial, fun hfresh => hnot ⟨hfree, ?_⟩⟩⟩
      · rintro ⟨-, hkey⟩
        have hkey' := htaken.mp hkey
        refine Tx.wp_mono (ih hids.2 fun other hother => ?_) ?_ ?_
        · have hother' := hnew other (List.mem_cons_of_mem _ hother)
          have hother'' : other.2.text ≠ newId.text := by
            intro hsame
            refine hids.1 ?_
            rw [← hsame]
            exact List.mem_map_of_mem (f := fun one : ScoredCandidate × Uuid => one.2.text) hother
          exact (Table.get?_save_of_ne _ hother'').trans hother'
        · rintro _ db' ⟨hfresh, table, rfl, htable⟩
          refine ⟨(fresh_cons hstored).mpr ⟨hkey', hfresh⟩, table, rfl, ?_⟩
          rw [htable, hrows, List.append_assoc]
          rfl
        · rintro e _ ⟨he, hnot⟩
          exact ⟨he, fun hfresh => hnot ((fresh_cons hstored).mp hfresh).2⟩
      · exact htaken.mpr ((fresh_cons hstored).mp hfresh).1

end Insert

/-! ### A search that succeeds -/

section Completion

variable {db : WorkflowDb} {p : JobProcessor}

/-- An answer that can be stored: it is of the site that was asked, names no torrent twice, nor one
that the run has already, and has no number that there is no room for. -/
structure Storable (db : WorkflowDb) (siteId runId : String) (found : List FoundCandidate) : Prop where
  site : ∀ one ∈ found, one.candidate.siteId = siteId
  distinct : (found.map foundKey).Nodup
  new : ∀ one ∈ found, foundKey one ∉ storedKeys db runId
  seeders : ∀ one ∈ found, tooManySeeders one.candidate = false
  json : ∀ one ∈ found, one.isJson = true

/-- A search that has succeeded: its job has, and the run has each torrent of the answer once. -/
def SearchStored (jobId runId : String) (found : List FoundCandidate)
    (outcome : Except Exn Unit × WorkflowDb) : Prop :=
  outcome.1 = .ok () ∧ (∃ job ∈ outcome.2.queue, job.id = jobId ∧ job.status = .succeeded) ∧
    ∀ key ∈ found.map foundKey, (storedKeys outcome.2 runId).count key = 1

/-- `refresh_media_search_workflow_status`, where the media item is there. -/
theorem wp_refresh_of_media {media : Models.MediaItem} {R : WorkflowStatus → WorkflowDb → Prop}
    {E : Exn → WorkflowDb → Prop} (hmedia : db.media.get? media.id = some media)
    (h : ∀ status table, R status { db with media := table }) :
    Tx.wp (refreshMediaSearchWorkflowStatus media.id) R E db := by
  unfold refreshMediaSearchWorkflowStatus lockMedia
  simp only [Tx.wp_bind, Tx.wp_get, hmedia, Tx.wp_ofOption, Option.some.injEq, forall_eq']
  refine ⟨?_, by rintro ⟨⟩⟩
  split
  · exact h _ _
  · exact h _ db.media

/-- The last part of a completion. -/
theorem wp_storeSearch {job : Job} {run : TorrentSearchRun} {media : Models.MediaItem}
    {candidates : List (ScoredCandidate × Uuid)} {strategyLog : List (String × ℕ)} {now : DateTime}
    (hmedia : db.media.get? media.id = some media)
    (hids : (candidates.map fun one => one.2.text).Nodup)
    (hnew : ∀ one ∈ candidates, db.candidates.get? one.2.text = none) :
    Tx.wp (storeSearch job run media candidates strategyLog now)
      (fun _ db' => Fresh db run.id candidates ∧ succeededJob job ∈ db'.queue ∧
        storedKeys db' run.id = storedKeys db run.id ++ candidates.map resultKey)
      (fun e _ => e = .integrity ∧ ¬ Fresh db run.id candidates) db := by
  unfold storeSearch saveSearchRun saveQueuedJob addAudit
  rw [Tx.wp_bind]
  refine Tx.wp_mono (wp_insertCandidates candidates hids hnew) ?_ fun _ _ h => h
  rintro _ _ ⟨hfresh, table, rfl, hrows⟩
  simp only [Tx.wp_bind, Tx.wp_modify]
  refine wp_refresh_of_media hmedia fun status table' => ⟨hfresh, Table.mem_save_self _ _, ?_⟩
  exact @storedKeys_append run now db _ candidates hrows

/-- A completion, where the job is owned and what it searches for is as it was. -/
theorem wp_completeTorrentSearch {jobId searchRunId mediaId : String} {leaseToken : Option String}
    {job : Job} {run : TorrentSearchRun} {media : Models.MediaItem}
    {candidates : List (ScoredCandidate × Uuid)} {strategyLog : List (String × ℕ)}
    {settings : WorkflowSettings} {now : DateTime}
    (hjob : ownedJob p db jobId leaseToken = some job)
    (hrun : db.searchRuns.get? searchRunId = some run) (hmedia : db.media.get? mediaId = some media)
    (hinput : checkSearchInput db job run media settings = .ok ())
    (hids : (candidates.map fun one => one.2.text).Nodup)
    (hnew : ∀ one ∈ candidates, db.candidates.get? one.2.text = none) :
    Tx.wp (completeTorrentSearch p jobId searchRunId mediaId candidates strategyLog leaseToken
        settings now)
      (fun _ db' => Fresh db searchRunId candidates ∧ succeededJob job ∈ db'.queue ∧
        storedKeys db' searchRunId = storedKeys db searchRunId ++ candidates.map resultKey)
      (fun _ _ => ¬ Fresh db searchRunId candidates) db := by
  obtain ⟨-, rfl⟩ := mem_of_get? hmedia
  obtain ⟨-, hrunId⟩ := Table.get?_eq_some.mp hrun
  have hrunId' : run.id = searchRunId := hrunId
  unfold completeTorrentSearch
  rw [Tx.wp_bind, Tx.wp_get, hjob, hrun, hmedia]
  change Tx.wp (Tx.ofExcept (checkSearchInput db job run media settings) >>= fun _ =>
    storeSearch job run media candidates strategyLog now) _ _ db
  rw [Tx.wp_bind, hinput, Tx.wp_ofExcept, ← hrunId']
  exact ⟨fun _ _ => Tx.wp_mono (wp_storeSearch hmedia hids hnew) (fun _ _ h => h)
    fun _ _ h => h.2, nofun⟩

/-- The conditions on the scores of an answer are those on the answer. -/
theorem fresh_iff {runId : String} {found : List FoundCandidate}
    {scored : List (ScoredCandidate × Uuid)}
    (hkeys : scored.map resultKey = found.map foundKey) :
    Fresh db runId scored ↔
      (found.map foundKey).Nodup ∧ ∀ one ∈ found, foundKey one ∉ storedKeys db runId := by
  have hall : (∀ one ∈ scored, resultKey one ∉ storedKeys db runId) ↔
      ∀ one ∈ found, foundKey one ∉ storedKeys db runId := by
    rw [← List.forall_mem_map (f := resultKey) (P := (· ∉ storedKeys db runId)), hkeys,
      List.forall_mem_map]
  rw [← hall, ← hkeys]
  exact ⟨fun h => ⟨h.distinct, h.new⟩, fun h => ⟨h.1, h.2⟩⟩

/-- The end of a search, where the job is owned and what it searches for is as it was. -/
theorem wp_storeFound [WorkflowRuntime] {jobId searchRunId mediaId : String}
    {leaseToken : Option String} {job : Job} {run : TorrentSearchRun} {media : Models.MediaItem}
    (input : SearchInput) {found : List FoundCandidate} (strategyLog : List (String × ℕ))
    {settings : WorkflowSettings} (now : DateTime)
    (hjob : ownedJob p db jobId leaseToken = some job)
    (hrun : db.searchRuns.get? searchRunId = some run) (hmedia : db.media.get? mediaId = some media)
    (hinput : checkSearchInput db job run media settings = .ok ())
    (hids : (found.map fun one => one.newId.text).Nodup)
    (hnew : ∀ one ∈ found, db.candidates.get? one.newId.text = none) :
    Tx.wp (storeFound p jobId searchRunId mediaId input found strategyLog leaseToken settings now)
      (fun _ db' => Storable db input.siteId searchRunId found ∧ succeededJob job ∈ db'.queue ∧
        storedKeys db' searchRunId = storedKeys db searchRunId ++ found.map foundKey)
      (fun _ _ => ¬ Storable db input.siteId searchRunId found) db := by
  unfold storeFound
  rw [Tx.wp_bind, Tx.wp_require]
  refine ⟨fun hsite => ?_, fun hsite h => hsite h.site⟩
  rw [Tx.wp_bind, Tx.wp_ofExcept]
  -- scoring raises where a number of seeders is too large to be divided
  rcases scoreFound_spec input found input.priorTitles with
    ⟨scored, hscored, hfew, hscoredIds, hkeys⟩ | ⟨herror, hmany⟩
  · rw [hscored]
    refine ⟨?_, nofun⟩
    rintro _ ⟨⟩
    have hids' : (scored.map fun one => one.2.text).Nodup := by
      have hsame := congrArg (List.map Uuid.text) hscoredIds
      rw [List.map_map, List.map_map] at hsame
      exact (congrArg List.Nodup hsame).mpr hids
    have hnew' : ∀ one ∈ scored, db.candidates.get? one.2.text = none := by
      intro one hone
      have hmem := List.mem_map_of_mem (f := Prod.snd) hone
      rw [hscoredIds] at hmem
      obtain ⟨other, hother, hsame⟩ := List.mem_map.mp hmem
      rw [← hsame]
      exact hnew other hother
    rw [Tx.wp_bind, Tx.wp_get, Tx.wp_bind, hjob, hrun, hmedia]
    refine Tx.wp_mono (wp_completeTorrentSearch hjob hrun hmedia hinput hids' hnew') ?_ ?_
    · rintro _ db' ⟨hfresh, hqueue, hstored⟩
      rw [fresh_iff hkeys] at hfresh
      simp only [Tx.wp_require]
      rw [hstored]
      exact ⟨fun hjson => ⟨⟨hsite, hfresh.1, hfresh.2, hfew, hjson⟩, hqueue,
        congrArg (storedKeys db searchRunId ++ ·) hkeys⟩, fun hjson h => hjson h.json⟩
    · intro _ _ hnot h
      exact hnot ((fresh_iff hkeys).mpr ⟨h.distinct, h.new⟩)
  · rw [herror]
    exact ⟨nofun, fun _ _ h => hmany h.seeders⟩

/-- **When a search succeeds**: for what a site answers to a job that a worker owns, and whose run,
media item and input are as they were, it does if and only if the answer can be stored. -/
theorem storeFound_stores_iff [WorkflowRuntime] {jobId searchRunId mediaId : String}
    {leaseToken : Option String} {job : Job} {run : TorrentSearchRun} {media : Models.MediaItem}
    (input : SearchInput) (found : List FoundCandidate) (strategyLog : List (String × ℕ))
    (settings : WorkflowSettings) (now : DateTime)
    (hjob : ownedJob p db jobId leaseToken = some job)
    (hrun : db.searchRuns.get? searchRunId = some run) (hmedia : db.media.get? mediaId = some media)
    (hinput : checkSearchInput db job run media settings = .ok ())
    (hids : (found.map fun one => one.newId.text).Nodup)
    (hnew : ∀ one ∈ found, db.candidates.get? one.newId.text = none) :
    SearchStored jobId searchRunId found (Tx.commit (storeFound p jobId searchRunId mediaId input
        found strategyLog leaseToken settings now) db) ↔
      Storable db input.siteId searchRunId found := by
  obtain ⟨-, hjobId, -⟩ := ownedJob_row hjob
  have hwp := wp_storeFound input strategyLog now hjob hrun hmedia hinput hids hnew
  rcases Tx.commit_wp_eq hwp with ⟨_, db', heq, hstorable, hqueue, hkeys⟩ | ⟨e, _, heq, hnot⟩
  · rw [heq]
    refine ⟨fun _ => hstorable, fun _ => ⟨rfl, ⟨_, hqueue, hjobId, rfl⟩, fun key hkey => ?_⟩⟩
    -- a key of the answer is not among those of before, and once among those of the answer
    have hold : key ∉ storedKeys db searchRunId := by
      obtain ⟨one, hone, rfl⟩ := List.mem_map.mp hkey
      exact hstorable.new one hone
    rw [hkeys, List.count_append, List.count_eq_zero_of_not_mem hold,
      List.count_eq_one_of_mem hstorable.distinct hkey]
  · rw [heq]
    exact ⟨fun hstored => absurd hstored.1 nofun, fun hstorable => absurd hstorable hnot⟩

/-! ### An answer that names a torrent twice -/

/-- A run in which a film is confirmed, and a worker searches for it. -/
def searchedRun : List Operation :=
  discoveredRun resolvedFilm ++
    [.createTorrentSearch (sampleUuid 3).text 0 { siteId := "avistaz" } (fun _ _ => .ok ()) {}
        (sampleUuid 7, sampleUuid 8, sampleUuid 9) fun _ => 5,
      .claimJob sampleProcessor (sampleUuid 1) 6 fun _ => false]

/-- The database of the run. -/
def searchedDb : WorkflowDb :=
  (@World.run asciiWorkflow searchedRun).db

/-- A torrent of a site, as its adapter finds it. -/
def sampleResult (torrentId : String) (newId : Uuid) : FoundCandidate where
  candidate :=
    { siteId := "avistaz"
      torrentId
      releaseTitle := "Strict Test Movie 2026 1080p"
      detailsRef := "details"
      mediaType := .movie
      tmdbId := some 43
      imdbId := none
      year := none
      season := none
      episodes := none
      collectionType := none
      resolution := none
      source := none
      audio := none
      subtitles := none
      sizeBytes := none
      seeders := none
      downloadFactor := none
      uploadFactor := none
      hitAndRun := none
      infoHash := none
      matchScore := none }
  newId

/-- What a worker has read of the film. -/
def sampleInput : SearchInput where
  siteId := "avistaz"
  metadata := knownRecord
  missingEpisodes := none
  preferences := {}
  priorTitles := []

/-- The job of the search, which a worker has claimed. -/
def searchedJob : Job :=
  (ownedJob sampleProcessor searchedDb (sampleUuid 9).text (some (sampleUuid 1).text)).get
    (by decide +kernel)

/-- The run of the search. -/
def searchedSearch : TorrentSearchRun :=
  (searchedDb.searchRuns.get? (sampleUuid 8).text).get (by decide +kernel)

/-- The media item of the search. -/
def searchedFilm : Models.MediaItem :=
  (searchedDb.media.get? (sampleUuid 3).text).get (by decide +kernel)

/-- Two torrents are stored, each once. -/
theorem storeFound_stores_two :
    SearchStored (sampleUuid 9).text (sampleUuid 8).text
      [sampleResult "70" (sampleUuid 5), sampleResult "71" (sampleUuid 6)]
      (Tx.commit (@storeFound asciiWorkflow sampleProcessor (sampleUuid 9).text (sampleUuid 8).text
        (sampleUuid 3).text sampleInput
        [sampleResult "70" (sampleUuid 5), sampleResult "71" (sampleUuid 6)]
        [] (some (sampleUuid 1).text) {} 7) searchedDb) := by
  have hstorable : Storable searchedDb "avistaz" (sampleUuid 8).text
      [sampleResult "70" (sampleUuid 5), sampleResult "71" (sampleUuid 6)] :=
    ⟨by decide +kernel, by decide +kernel, by decide +kernel, by decide +kernel, by decide +kernel⟩
  have hjob : ownedJob sampleProcessor searchedDb (sampleUuid 9).text
      (some (sampleUuid 1).text) = some searchedJob := by decide +kernel
  have hrun : searchedDb.searchRuns.get? (sampleUuid 8).text = some searchedSearch := by
    decide +kernel
  have hmedia : searchedDb.media.get? (sampleUuid 3).text = some searchedFilm := by
    decide +kernel
  have hinput : checkSearchInput searchedDb searchedJob searchedSearch searchedFilm {} = .ok () :=
    by decide +kernel
  exact (@storeFound_stores_iff searchedDb sampleProcessor asciiWorkflow _ _ _ _ _ _ _ sampleInput _
    [] {} 7 hjob hrun hmedia hinput (by decide +kernel) (by decide +kernel)).mpr hstorable

/-- A site answers a claimed search with one torrent twice, and the search fails. -/
theorem doubled_result_fails :
    ¬ ∀ (runtime : WorkflowRuntime) (ops : List Operation) (p : JobProcessor) (claim job : Job)
        (run : TorrentSearchRun) (media : Models.MediaItem) (input : SearchInput)
        (found : List FoundCandidate) (settings : WorkflowSettings) (now : DateTime),
      claim ∈ (@World.run runtime ops).claims →
      searchSubject claim = some (run.id, media.id) →
      ownedJob p (@World.run runtime ops).db claim.id claim.leaseToken = some job →
      (@World.run runtime ops).db.searchRuns.get? run.id = some run →
      (@World.run runtime ops).db.media.get? media.id = some media →
      checkSearchInput (@World.run runtime ops).db job run media settings = .ok () →
      input.siteId = run.siteId → (∀ one ∈ found, one.candidate.siteId = input.siteId) →
      (found.map fun one => one.newId.text).Nodup →
      (∀ one ∈ found, (@World.run runtime ops).db.candidates.get? one.newId.text = none) →
      SearchStored claim.id run.id found
        (Tx.commit (@storeFound runtime p claim.id run.id media.id input found []
          claim.leaseToken settings now) (@World.run runtime ops).db) := by
  intro h
  have hstored := h asciiWorkflow searchedRun sampleProcessor searchedJob searchedJob
    searchedSearch searchedFilm sampleInput
    [sampleResult "70" (sampleUuid 5), sampleResult "70" (sampleUuid 6)] {} 7
    (by decide +kernel) (by decide +kernel) (by decide +kernel) (by decide +kernel)
    (by decide +kernel) (by decide +kernel) (by decide +kernel) (by decide +kernel)
    (by decide +kernel) (by decide +kernel)
  obtain ⟨hok, -, -⟩ := hstored
  revert hok
  decide +kernel

end Completion

end LibSeek.Workflow
