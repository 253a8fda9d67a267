/-
The runs of the workflow.

Operators use the routes, and any number of workers claim jobs, work on them and write what came of
it.  A worker goes by the job that its claim returned, however old that is; nothing says that it is
the only one, that it finishes, or that it comes back in time.

Main definitions:

* `Workflow.World` — the database, the claims that were ever made, and what there was before;
* `Workflow.Operation`, `Workflow.Operation.perform` — an operation;
* `Workflow.World.run` — a run;
* `Workflow.AsRead`, `Workflow.Operation.searchAsRead` — what a session goes on with is as it was
  read;
* `Workflow.EveryStep` — the runs whose steps meet a condition;
* `Workflow.Remembered` — what every claim knows of its job.

Main results:

* `Workflow.claimJob_does`, … — the changes that the steps of the workers make;
* `Workflow.Operation.perform_moves` — **the changes that an operation makes**;
* `Workflow.World.run_invariant` — the invariant rule.
-/

import LibSeek.Lib.Runs
import LibSeek.Workflow.Moves

set_option relaxedAutoImplicit false
set_option autoImplicit false

namespace LibSeek.Workflow

open LibSeek.Core LibSeek.Lib LibSeek.Models LibSeek.Schemas LibSeek.Services LibSeek.Workers

variable [WorkflowRuntime]

/-! ### Claims -/

section Claims

variable {agent : Agent} {db : WorkflowDb} {p : JobProcessor}

omit [WorkflowRuntime] in
/-- The oldest of some jobs is one of them. -/
theorem oldestJob_mem {jobs : List Job} {job : Job} (h : oldestJob jobs = some job) :
    job ∈ jobs := by
  refine (foldl_choice_mem ?_ h).resolve_left nofun
  rintro (_ | b) row
  · exact Or.inl rfl
  · simp only
    split <;> simp

omit [WorkflowRuntime] in
/-- A job that can be claimed is active. -/
theorem isActiveJob_of_claimable {now : DateTime} {job : Job} (h : claimable p now job = true) :
    isActiveJob job.status = true := by
  unfold claimable at h
  rw [Bool.and_eq_true, Bool.and_eq_true] at h
  have hdue := h.1.1
  cases hstatus : job.status with
  | pending => rfl
  | running => rfl
  | retryWait => rfl
  | succeeded => rw [hstatus] at hdue; cases hdue
  | failed => rw [hstatus] at hdue; cases hdue
  | cancelled => rw [hstatus] at hdue; cases hdue

omit [WorkflowRuntime] in
/-- The job of a worker that still holds its lease is a running row. -/
theorem ownedJob_row {jobId : String} {leaseToken : Option String} {job : Job}
    (h : ownedJob p db jobId leaseToken = some job) :
    job ∈ db.queue ∧ job.id = jobId ∧ job.status = .running := by
  obtain ⟨hrow, howns⟩ := Option.filter_eq_some_iff.mp h
  obtain ⟨hmem, hid⟩ := Table.get?_eq_some.mp hrow
  unfold JobProcessor.ownsLease at howns
  rw [Bool.and_eq_true, Bool.and_eq_true, Bool.and_eq_true] at howns
  exact ⟨hmem, hid, by simpa using howns.1.1.2⟩

omit [WorkflowRuntime] in
/-- The status of the searches of a media item that may not be there. -/
theorem wp_refreshSearched {before : WorkflowDb} {mediaId : Option String}
    {R : Unit → WorkflowDb → Prop} (hsame : before.media = db.media)
    (h : R () (refreshedFor mediaId db)) :
    Tx.wp (refreshSearched (mediaId.bind before.media.get?)) R (fun _ _ => True) db := by
  rw [hsame]
  cases mediaId with
  | none => exact h
  | some mediaId =>
      rw [Option.bind_some]
      cases hmedia : db.media.get? mediaId with
      | none =>
          have hnone : refreshedFor (some mediaId) db = db := by
            unfold refreshedFor refreshed
            rw [Option.elim_some, hmedia]
          exact hnone ▸ h
      | some media =>
          obtain ⟨-, rfl⟩ := mem_of_get? hmedia
          unfold refreshSearched
          rw [Tx.wp_bind]
          exact wp_refreshMediaSearchWorkflowStatus_locked fun _ => h

omit [WorkflowRuntime] in
/-- The discovery of a job that is claimed. -/
theorem wp_startDiscoveryRun {job : Job} {now : DateTime} {R : Unit → WorkflowDb → Prop}
    {E : Exn → WorkflowDb → Prop}
    (h : ∀ discoveryRuns audit, R () { db with discoveryRuns, audit }) :
    Tx.wp (startDiscoveryRun job now) R E db := by
  unfold startDiscoveryRun saveDiscoveryRun addAudit
  rw [Tx.wp_bind, Tx.wp_get]
  split
  · exact h db.discoveryRuns db.audit
  · simp only [Tx.wp_bind, Tx.wp_modify]
    exact h _ _

/-- The jobs that name a run are those that search. -/
def Named (db : WorkflowDb) : Prop :=
  ∀ job ∈ db.queue, job.payload.searchRunId.isSome = job.jobType.isTorrentSearch

/-- A step of a search, beside which tables are written that no invariant speaks of. -/
theorem moves_searched {discoveryRuns : Table DiscoveryRun} {audit : List AuditEvent}
    {mediaId : Option String} {row row' : Job} {run run' : TorrentSearchRun}
    (hmediaId : row.payload.mediaId = mediaId) (hrow : row ∈ db.queue) (hsame : SameJob row row')
    (hactive : isActiveJob row.status = true)
    (hrun : row.payload.searchRunId.bind db.searchRuns.get? = some run) (hkept : SameRun run run')
    (hagree : isActiveJob row'.status = isActiveSearch run'.status ∧
        run'.status ∈ SEARCH_STATUS_PRECEDENCE ∨
      isActiveJob row'.status = true ∧ run'.status = run.status) :
    Moves (Move agent) db (refreshedFor mediaId { db with
      discoveryRuns, audit
      searchRuns := db.searchRuns.save run'
      queue := db.queue.save row' }) := by
  subst hmediaId
  have haside : Move agent db { db with discoveryRuns, audit } :=
    Move.aside db.control discoveryRuns audit
  refine (Relation.ReflTransGen.single haside).tail ?_
  exact Move.searched hrow hsame hactive hrun hkept hagree

/-- `claim_job`. -/
theorem claimJob_does (hnamed : Named db) (p : JobProcessor) (leaseToken : Uuid) (now : DateTime)
    (locked : String → Bool) :
    Does (Move agent) (claimJob p leaseToken now locked)
      (fun claimed db' => ∀ job, claimed = some job → job ∈ db'.queue) db := by
  unfold claimJob
  refine does_get ?_
  split
  · exact does_pure fun _ h => absurd h.symm (Option.some_ne_none _)
  · rename_i job holdest
    obtain ⟨hrow, hclaimable⟩ := List.mem_filter.mp (oldestJob_mem holdest)
    have hactive := isActiveJob_of_claimable (Bool.and_eq_true _ _ ▸ hclaimable).1
    have hsame : SameJob job (claimedJob p leaseToken now job) := ⟨rfl, rfl, rfl, rfl⟩
    have hself := Table.mem_save_self db.queue (claimedJob p leaseToken now job)
    refine does_of_wp ?_
    simp only [Tx.wp_bind, Tx.wp_pure, Option.some.injEq, forall_eq']
    unfold saveQueuedJob
    rw [Tx.wp_modify]
    refine wp_startDiscoveryRun fun discoveryRuns audit => ?_
    unfold startSearchRun
    rw [Tx.wp_bind, Tx.wp_get]
    split
    -- a job without a run leaves the searches alone
    · have haside : Move agent db { db with discoveryRuns, audit } :=
        Move.aside db.control discoveryRuns audit
      refine ⟨(Relation.ReflTransGen.single haside).tail ?_, hself⟩
      exact Move.worked hrow hsame hactive (Or.inr (Or.inl rfl))
    · rename_i run hrun
      have hsearch : job.jobType.isTorrentSearch = true := by
        obtain ⟨runId, hrunId, -⟩ := Option.bind_eq_some_iff.mp hrun
        rw [← hnamed job hrow]
        exact Option.isSome_iff_exists.mpr ⟨runId, hrunId⟩
      have hmedia : ∀ db' : WorkflowDb, searchedMedia db' (claimedJob p leaseToken now job) =
          job.payload.mediaId.bind db'.media.get? := fun db' => if_pos hsearch
      rw [Tx.wp_bind, hmedia]
      unfold saveSearchRun
      rw [Tx.wp_modify]
      refine wp_refreshSearched rfl ?_
      refine ⟨moves_searched rfl hrow hsame hactive hrun ⟨rfl, rfl, rfl⟩
        (Or.inl ⟨rfl, by simp [SEARCH_STATUS_PRECEDENCE]⟩), ?_⟩
      rw [refreshedFor_queue]
      exact hself

/-- `renew_lease`. -/
theorem renewJobLease_does (p : JobProcessor) (jobId : String) (leaseToken : Option String)
    (now : DateTime) :
    Does (Move agent) (renewJobLease p jobId leaseToken now) (fun _ _ => True) db := by
  unfold renewJobLease
  refine does_get ?_
  split
  · exact does_pure trivial
  · rename_i job hjob
    obtain ⟨hrow, -, hrunning⟩ := ownedJob_row hjob
    have hactive : isActiveJob job.status = true := by rw [hrunning]; rfl
    refine Does.bind (P := fun _ _ => True) (does_modify (Move.worked hrow ⟨rfl, rfl, rfl, rfl⟩
      hactive (Or.inr (Or.inl hactive))) trivial) fun _ _ _ _ => does_pure trivial

end Claims

/-! ### Resolutions -/

section Resolutions

variable {agent : Agent} {db : WorkflowDb} {p : JobProcessor}

/-- `_prepare_metadata_resolution`. -/
theorem prepareMetadataResolution_does (p : JobProcessor) {jobId : String} (mediaId : String)
    (leaseToken : Option String)
    (hjob : ∀ job ∈ db.queue, job.id = jobId → job.jobType.isResolution = true) :
    Does (Move agent) (prepareMetadataResolution p jobId mediaId leaseToken) (fun _ _ => True)
      db := by
  refine does_lockMedia fun media _ _ => does_get ?_
  split
  · exact does_pure trivial
  · rename_i job howned
    obtain ⟨hrow, hid, -⟩ := ownedJob_row howned
    refine does_ite (fun _ => ?_) fun _ => does_pure trivial
    exact Does.bind (cancelMetadataResolutionJob_does hrow (hjob job hrow hid))
      fun _ _ _ _ => does_pure trivial

/-- The matches of a resolution are stored. -/
theorem insertMatches_does (stored : List MetadataMatch) {db : WorkflowDb} :
    Does (Move agent) (insertMatches stored)
      (fun _ db' => ∃ metadataMatches, db' = { db with metadataMatches }) db := by
  induction stored generalizing db with
  | nil => exact does_pure ⟨db.metadataMatches, rfl⟩
  | cons one others ih =>
      refine does_get (does_require fun hnew => ?_)
      refine Does.bind (P := fun _ db' =>
        db' = { db with metadataMatches := db.metadataMatches.save one })
        (does_modify (Move.matched hnew) rfl) ?_
      rintro _ _ - rfl
      refine ih.mono ?_
      rintro _ _ ⟨metadataMatches, rfl⟩
      exact ⟨metadataMatches, rfl⟩

/-- What the deterministic rule confirms: the only match of a resolution. -/
def StrictReview (db : WorkflowDb) (jobId : String) (review : IdentityReview) : Prop :=
  ∃ media ∈ db.media, ∃ one, strictIdentityAutoConfirmationMatch media [one] jobId = some one ∧
    review.mediaId = media.id ∧ review.metadataMatchId = one.id ∧
    review.confirmedBy = STRICT_IDENTITY_CONFIRMATION_ACTOR

/-- **The completion of a resolution**: what it confirms, the deterministic rule says, or the policy
lets it; and what it searches for, it has confirmed. -/
def resolver (before : WorkflowDb) (settings : WorkflowSettings) (jobId : String) : Agent where
  confirms review := StrictReview before jobId review ∨ policyConfirms settings before = true
  searches reviews mediaId :=
    ∃ review ∈ reviews, review ∉ before.reviews ∧ review.mediaId = mediaId
  imports := none

/-- The one match that the rule is about is all that it looks at. -/
theorem eq_of_strictMatch {media : Models.MediaItem} {stored : List MetadataMatch}
    {jobId : String} {one : MetadataMatch}
    (h : strictIdentityAutoConfirmationMatch media stored jobId = some one) :
    strictIdentityAutoConfirmationMatch media [one] jobId = some one := by
  have hcopy := h
  unfold strictIdentityAutoConfirmationMatch at h
  split at h
  · cases h
  · split at h
    · rename_i only
      split at h
      · obtain rfl := Option.some.inj h
        exact hcopy
      · cases h
    · cases h

/-- The judgement on the identity, which begins before anything is confirmed. -/
theorem automateIdentity_does {before : WorkflowDb} {job : Job} {media row : Models.MediaItem}
    {ranked : List (MetadataRecord × MetadataMatchScore)} {settings : WorkflowSettings}
    (hrow : row ∈ before.media) (hmedia : media = reviewableMedia row ranked)
    (hreviews : db.reviews = before.reviews) (hcontrol : db.control = before.control)
    (stored : List MetadataMatch) (env : IdentityEnvironment) :
    Does (Move (resolver before settings job.id))
      (automateIdentity job media stored settings env) (fun _ _ => True) db := by
  have hsearches : SearchesConfirmed (resolver before settings job.id) db :=
    fun reviews review hnew hmem => ⟨review, hmem, hreviews ▸ hnew, rfl⟩
  have hstrict : Does (Move (resolver before settings job.id))
      (autoConfirmStrictIdentity media stored job.id (env.newId 2) (env.clock 1))
      (fun strictReview db' => (strictReview = none → db' = db) ∧ ∀ review,
        strictReview = some review →
          review.mediaId = media.id ∧ review ∉ db.reviews ∧ review ∈ db'.reviews) db := by
    unfold autoConfirmStrictIdentity
    split
    · exact does_pure ⟨fun _ => rfl, fun _ h => absurd h.symm (Option.some_ne_none _)⟩
    · rename_i one hone
      refine Does.bind (confirmIdentity_does ?_ unread _ _ _) ?_
      · intro review hid hmatch hactor
        have hsame : media.id = row.id := by
          rw [hmedia]
          rfl
        -- what the rule looks at is the same before the candidates are ready
        have hbefore : strictIdentityAutoConfirmationMatch row stored job.id = some one := by
          rw [hmedia] at hone
          exact hone
        exact Or.inl ⟨row, hrow, one, eq_of_strictMatch hbefore, hid.trans hsame, hmatch, hactor⟩
      · rintro ⟨review, confirmed⟩ db' _ ⟨hconfirmed, -⟩
        refine does_pure ⟨fun h => absurd h (Option.some_ne_none _), fun other hother => ?_⟩
        obtain rfl := Option.some.inj hother
        exact hconfirmed
  refine Does.bind hstrict ?_
  intro strictReview db' _ hafter
  cases strictReview with
  | none =>
      rw [hafter.1 rfl]
      refine Does.bind (maybeAutomateIdentity_does (fun hpolicy review => ?_) hsearches _ _ _)
        fun _ _ _ _ => does_pure trivial
      refine Or.inr ?_
      unfold policyConfirms at hpolicy ⊢
      rwa [hcontrol] at hpolicy
  | some review =>
      obtain ⟨hid, hnew, hmem⟩ := hafter.2 review rfl
      refine does_lockMedia fun confirmed hrow hconfirmed => ?_
      have hstatus : ∀ row, db'.media.get? confirmed.id = some row →
          confirmed.workflowStatus = row.workflowStatus := fun row hget =>
        congrArg _ (Option.some.inj ((Table.get?_eq_some.mpr ⟨hrow, rfl⟩).symm.trans hget))
      have hsearch : (resolver before settings job.id).searches db'.reviews confirmed.id :=
        ⟨review, hmem, hreviews ▸ hnew, hid.trans hconfirmed.symm⟩
      exact Does.bind (maybeAutomateTorrentSearchAfterIdentity_does hsearch hstatus _ _)
        fun _ _ _ _ => does_pure trivial

/-- `_complete_metadata_resolution`. -/
theorem completeMetadataResolution_does (p : JobProcessor) {jobId : String} (mediaId : String)
    (candidates : List MetadataRecord) (leaseToken : Option String) (settings : WorkflowSettings)
    (matchId : ℕ → Uuid) (env : IdentityEnvironment)
    (hjob : ∀ job ∈ db.queue, job.id = jobId → job.jobType.isResolution = true) :
    Does (Move (resolver db settings jobId))
      (completeMetadataResolution p jobId mediaId candidates leaseToken settings matchId env)
      (fun _ _ => True) db := by
  unfold completeMetadataResolution
  refine does_get ?_
  split
  · rename_i media job hmedia howned
    obtain ⟨hrow, rfl, hrunning⟩ := ownedJob_row howned
    have hresolution := hjob job hrow rfl
    refine does_ite (fun _ => ?_) fun hopen => does_require fun _ => ?_
    · exact Does.bind (cancelMetadataResolutionJob_does hrow hresolution)
        fun _ _ _ _ => does_pure trivial
    · rw [Bool.not_eq_true, Option.isSome_eq_false_iff, Option.isNone_iff_eq_none] at hopen
      refine Does.bind (insertMatches_does _) ?_
      rintro _ _ - ⟨metadataMatches, rfl⟩
      have hactive : isActiveJob job.status = true := by rw [hrunning]; rfl
      refine Does.bind (P := fun _ db' => db' = { db with
          metadataMatches, queue := db.queue.save (succeededJob job) })
        (does_modify (Move.worked hrow ⟨rfl, rfl, rfl, rfl⟩ hactive
          (Or.inl (isTorrentSearch_of_isResolution hresolution))) rfl) ?_
      rintro _ _ - rfl
      have hmem := (mem_of_get? hmedia).1
      refine Does.bind (P := fun _ db' => db'.reviews = db.reviews ∧ db'.control = db.control)
        (does_modify (Move.unsettled hmem rfl hopen ⟨rfl, rfl, rfl, rfl, rfl⟩ (Or.inl rfl))
          ⟨rfl, rfl⟩) ?_
      rintro _ db' - ⟨hreviews, hcontrol⟩
      refine Does.bind (automateIdentity_does hmem rfl hreviews hcontrol _ _) fun _ _ _ _ => ?_
      exact (does_addAudit _ _ _).mono fun _ _ _ => trivial
  · exact does_pure trivial

end Resolutions

/-! ### Searches -/

section Searches

variable {agent : Agent} {db : WorkflowDb}

/-- The candidates of a search are stored. -/
theorem insertCandidates_does (run : TorrentSearchRun) (now : DateTime)
    (candidates : List (ScoredCandidate × Uuid)) {db : WorkflowDb} :
    Does (Move agent) (insertCandidates run now candidates)
      (fun _ db' => ∃ candidates, db' = { db with candidates }) db := by
  induction candidates generalizing db with
  | nil => exact does_pure ⟨db.candidates, rfl⟩
  | cons one others ih =>
      refine does_get (does_require fun hnew => ?_)
      refine Does.bind (P := fun _ db' => db' = { db with
          candidates := db.candidates.save (candidateRecord run one.2 now one.1) })
        (does_modify (Move.found hnew.1) rfl) ?_
      rintro _ _ - rfl
      refine ih.mono ?_
      rintro _ _ ⟨candidates, rfl⟩
      exact ⟨candidates, rfl⟩

/-- `_complete_torrent_search`. -/
theorem completeTorrentSearch_does (p : JobProcessor) (jobId searchRunId mediaId : String)
    (candidates : List (ScoredCandidate × Uuid)) (strategyLog : List (String × ℕ))
    (leaseToken : Option String) (settings : WorkflowSettings) (now : DateTime) :
    Does (Move agent) (completeTorrentSearch p jobId searchRunId mediaId candidates strategyLog
      leaseToken settings now) (fun _ _ => True) db := by
  unfold completeTorrentSearch
  refine does_get ?_
  split
  · rename_i job run media howned hrun hmedia
    obtain ⟨hrow, -, hrunning⟩ := ownedJob_row howned
    have hactive : isActiveJob job.status = true := by rw [hrunning]; rfl
    obtain ⟨-, rfl⟩ := mem_of_get? hmedia
    obtain ⟨-, rfl⟩ := Table.get?_eq_some.mp hrun
    refine does_ofExcept fun _ hchecked => ?_
    unfold checkSearchInput at hchecked
    obtain ⟨_, hbound, -⟩ := bind_eq_ok.mp hchecked
    obtain ⟨-, hmediaId, hrunId⟩ := ensure_eq_ok.mp hbound
    refine Does.bind (insertCandidates_does _ _ _) ?_
    rintro _ _ - ⟨candidates', rfl⟩
    -- the run, the status of the media item and the job are written in one go
    refine does_of_wp ?_
    unfold saveSearchRun saveQueuedJob addAudit
    simp only [Tx.wp_bind, Tx.wp_modify, and_true]
    refine wp_refreshMediaSearchWorkflowStatus_locked fun _ => ?_
    rw [refreshed_queue, refreshed_with]
    have hfound : job.payload.searchRunId.bind db.searchRuns.get? = some run := by
      rw [hrunId, Option.bind_some]
      exact hrun
    have hagree : isActiveSearch (finishedRun run candidates strategyLog now).status = false ∧
        (finishedRun run candidates strategyLog now).status ∈ SEARCH_STATUS_PRECEDENCE := by
      unfold finishedRun
      split <;> simp [isActiveSearch, SEARCH_STATUS_PRECEDENCE]
    change Moves (Move agent) _ (refreshedFor (some media.id) _)
    exact moves_searched hmediaId hrow ⟨rfl, rfl, rfl, rfl⟩ hactive hfound ⟨rfl, rfl, rfl⟩
      (Or.inl ⟨hagree.1.symm, hagree.2⟩)
  · exact does_pure trivial

end Searches

/-! ### Discoveries -/

section Discoveries

variable {db : WorkflowDb} {items : List MediaItemData}

omit [WorkflowRuntime] in
/-- The items that are imported are items that were brought. -/
theorem mem_uniqueItems {item : MediaItemData} (h : item ∈ uniqueItems items) : item ∈ items := by
  suffices hfold : ∀ (rest : List MediaItemData) (table : Table MediaItemData),
      (∀ one ∈ table, one ∈ items) → (∀ one ∈ rest, one ∈ items) →
        ∀ one ∈ rest.foldl Table.save table, one ∈ items from
    hfold items ∅ (fun one hone => absurd hone (Table.notMem_empty one)) (fun _ hone => hone) item h
  intro rest
  induction rest with
  | nil => exact fun table htable _ => htable
  | cons one rest ih =>
      intro table htable hrest
      refine ih _ (Table.forall_mem_save htable (hrest one List.mem_cons_self)) ?_
      exact fun other hother => hrest other (List.mem_cons_of_mem _ hother)

/-- The import of one item. -/
theorem importItem_does {item : MediaItemData} (hitem : item ∈ items) (newId : Uuid) :
    Does (Move (importer items)) (importItem item newId)
      (fun _ db' => ∃ media, db' = { db with media }) db := by
  unfold importItem
  refine does_get ?_
  split
  · rename_i hnone
    refine Does.bind (P := fun _ db' => ∃ media, db' = { db with media }) ?_ ?_
    · exact does_get (does_require fun hnew =>
        does_modify (Move.created rfl hitem hnone hnew) ⟨_, rfl⟩)
    · rintro _ _ - ⟨media, rfl⟩
      exact does_pure ⟨media, rfl⟩
  · rename_i existing hexisting
    refine Does.bind (P := fun _ db' => ∃ media, db' = { db with media })
      (does_modify (Move.updated rfl hitem hexisting) ⟨_, rfl⟩) ?_
    rintro _ _ - ⟨media, rfl⟩
    exact does_pure ⟨media, rfl⟩

/-- The import of the items. -/
theorem importItems_does (imports : List (MediaItemData × Uuid)) {db : WorkflowDb}
    (himports : ∀ one ∈ imports, one.1 ∈ items) :
    Does (Move (importer items)) (importItems imports)
      (fun _ db' => ∃ media, db' = { db with media }) db := by
  induction imports generalizing db with
  | nil => exact does_pure ⟨db.media, rfl⟩
  | cons one rest ih =>
      refine Does.bind (importItem_does (himports one List.mem_cons_self) one.2) ?_
      rintro imported _ - ⟨media, rfl⟩
      refine Does.bind (ih fun other hother => himports other (List.mem_cons_of_mem _ hother)) ?_
      rintro others _ - ⟨media', rfl⟩
      exact does_pure ⟨media', rfl⟩

omit [WorkflowRuntime] in
theorem KeepsOthers.trans {db db' db'' : WorkflowDb} (h : KeepsOthers db db')
    (h' : KeepsOthers db' db'') : KeepsOthers db db'' :=
  fun job hjob hother => h' job (h job hjob hother) hother

/-- The resolution of one imported item. -/
theorem resolveImported_does {agent : Agent} (maxAttempts : ℕ) (now : DateTime)
    (imported : ImportedItem) (newId : Uuid) :
    Does (Move agent) (resolveImported maxAttempts now imported newId)
      (fun _ db' => KeepsOthers db db') db := by
  refine does_lockMedia fun media _ _ => does_get ?_
  refine does_ite (fun _ => does_pure fun _ h _ => h) fun _ => ?_
  have henqueue : ∀ db' : WorkflowDb, KeepsOthers db db' →
      Does (Move agent) (do
        let _ ← enqueueMetadataResolution media.id maxAttempts newId now
        return ()) (fun _ db'' => KeepsOthers db db'') db' := by
    intro db' hkeeps
    refine Does.bind (enqueueMetadataResolution_does unread _ _ _) ?_
    exact fun _ _ _ hkeeps' => does_pure (hkeeps.trans hkeeps')
  refine does_ite (fun _ => ?_) fun _ => henqueue db fun _ h _ => h
  refine Does.bind (cancelActiveMetadataResolutionJobs_does media.id) ?_
  exact fun _ db' _ hcancels => henqueue db' hcancels.kept

/-- The resolutions of the imported items. -/
theorem resolveImports_does {agent : Agent} (maxAttempts : ℕ) (now : DateTime)
    (imports : List (ImportedItem × Uuid)) {db : WorkflowDb} :
    Does (Move agent) (resolveImports maxAttempts now imports)
      (fun _ db' => KeepsOthers db db') db := by
  induction imports generalizing db with
  | nil => exact does_pure fun _ h _ => h
  | cons one rest ih =>
      refine Does.bind (resolveImported_does maxAttempts now one.1 one.2) ?_
      intro _ db' _ hkeeps
      exact ih.mono fun _ _ hkeeps' => hkeeps.trans hkeeps'

/-- What follows the imports imports nothing. -/
theorem finishDiscovery_does {agent : Agent} {p : JobProcessor} {job : Job} {run : DiscoveryRun}
    {count : ℕ} {jobIds : ℕ → Uuid} {now : DateTime} {imported : List ImportedItem}
    (hrow : job ∈ db.queue) (hactive : isActiveJob job.status = true)
    (hresolution : job.jobType.isResolution = false)
    (hsearch : job.jobType.isTorrentSearch = false) :
    Does (Move agent) (finishDiscovery p job run count jobIds now imported) (fun _ _ => True)
      db := by
  -- the end of the transaction, in a state in which the job is still a row
  have hend : ∀ (db' : WorkflowDb), job ∈ db'.queue → Does (Move agent) (do
      saveQueuedJob (succeededJob job)
      saveDiscoveryRun { run with
        status := .succeeded
        finishedAt := some now
        discoveredCount := count
        createdCount := (imported.filter ImportedItem.created).length
        updatedCount := (imported.filter fun one => !one.created).length
        errorCode := none
        errorMessage := none }
      addAudit "DISCOVERY_RUN_SUCCEEDED" "discovery_run" run.id) (fun _ _ => True) db' := by
    intro db' hmem
    refine Does.bind (P := fun _ _ => True) (does_modify (Move.worked hmem
      ⟨rfl, rfl, rfl, rfl⟩ hactive (Or.inl hsearch)) trivial) fun _ _ _ _ => ?_
    refine Does.bind (does_saveDiscoveryRun _) fun _ _ _ _ => ?_
    exact (does_addAudit _ _ _).mono fun _ _ _ => trivial
  refine does_ite (fun _ => ?_) fun _ => hend db hrow
  refine Does.bind (resolveImports_does _ _ _) ?_
  exact fun _ db' _ hkeeps => hend db' (hkeeps job hrow hresolution)

/-- `_complete_discovery`. -/
theorem completeDiscovery_does (p : JobProcessor) {jobId : String} (runId : String)
    (items : List MediaItemData) (leaseToken : Option String) (mediaIds jobIds : ℕ → Uuid)
    (now : DateTime)
    (hjob : ∀ job ∈ db.queue, job.id = jobId →
      job.jobType.isResolution = false ∧ job.jobType.isTorrentSearch = false) :
    Does (Move (importer items))
      (completeDiscovery p jobId runId items leaseToken mediaIds jobIds now)
      (fun _ _ => True) db := by
  unfold completeDiscovery
  refine does_get ?_
  split
  · rename_i job run howned hrun
    obtain ⟨hrow, hid, hrunning⟩ := ownedJob_row howned
    have hactive : isActiveJob job.status = true := by rw [hrunning]; rfl
    obtain ⟨hresolution, hsearch⟩ := hjob job hrow hid
    unfold storeDiscovery
    refine Does.bind (importItems_does _ ?_) ?_
    · intro one hone
      obtain ⟨i, hi, rfl⟩ := List.mem_mapIdx.mp hone
      exact mem_uniqueItems (List.getElem_mem hi)
    · rintro imported _ - ⟨media, rfl⟩
      exact finishDiscovery_does hrow hactive hresolution hsearch
  · exact does_pure trivial

omit [WorkflowRuntime] in
/-- A media item with countries differs in nothing else. -/
theorem withCountryCodes_eq (mediaType : MediaType) (tmdbId : Int) (codes : List String)
    (media : Models.MediaItem) : ∃ countryCodes,
      withCountryCodes mediaType tmdbId codes media = { media with countryCodes } := by
  unfold withCountryCodes
  split
  · exact ⟨some codes, rfl⟩
  · exact ⟨media.countryCodes, rfl⟩

/-- The update of the media items of a type and an identifier. -/
theorem updateCountryCodes_does (mediaType : MediaType) (tmdbId : Int) (codes : List String)
    (rows : List Models.MediaItem) {db : WorkflowDb} (hrows : ∀ media ∈ rows, media ∈ db.media)
    (hdistinct : (rows.map Models.MediaItem.id).Nodup) :
    Does (Move (importer items)) (updateCountryCodes mediaType tmdbId codes rows)
      (fun _ _ => True) db := by
  induction rows generalizing db with
  | nil => exact does_pure trivial
  | cons media rest ih =>
      rw [List.map_cons, List.nodup_cons] at hdistinct
      obtain ⟨countryCodes, heq⟩ := withCountryCodes_eq mediaType tmdbId codes media
      unfold updateCountryCodes
      rw [heq]
      refine Does.bind (P := fun _ db' => db' = { db with
          media := db.media.save { media with countryCodes } })
        (does_modify (Move.located rfl (hrows media List.mem_cons_self)) rfl) ?_
      rintro _ _ - rfl
      refine ih (fun other hother => ?_) hdistinct.2
      refine Table.mem_save_of_ne (hrows other (List.mem_cons_of_mem _ hother)) fun hid => ?_
      exact hdistinct.1 (List.mem_map.mpr ⟨other, hother, hid⟩)

/-- `_checkpoint_country_codes`. -/
theorem checkpointCountryCodes_does (p : JobProcessor) (jobId : String)
    (leaseToken : Option String) (values : List (MediaType × Int × List String)) :
    Does (Move (importer items)) (checkpointCountryCodes p jobId leaseToken values)
      (fun _ _ => True) db := by
  have hall : ∀ (values : List (MediaType × Int × List String)) (db : WorkflowDb),
      Does (Move (importer items)) (updateAllCountryCodes values) (fun _ _ => True) db := by
    intro values
    induction values with
    | nil => exact fun _ => does_pure trivial
    | cons value rest ih =>
        intro db
        refine does_get (Does.bind (updateCountryCodes_does _ _ _ _ (fun _ h => h)
          db.media.nodup) fun _ db' _ _ => ih db')
  exact does_get (does_require fun _ => hall values db)

end Discoveries

/-! ### Failures -/

section Failures

variable {agent : Agent} {db : WorkflowDb}

/-- **A job is as it was read**, but for the renewals of its lease. -/
def AsRead (held row : Job) : Prop :=
  row = { held with lockedAt := row.lockedAt } ∧ row.lockedAt.isSome = held.lockedAt.isSome

omit [WorkflowRuntime] in
theorem AsRead.refl (job : Job) : AsRead job job :=
  ⟨rfl, rfl⟩

instance (held row : Job) : Decidable (AsRead held row) := by
  delta AsRead
  infer_instance

/-- The discovery of a job that failed. -/
theorem failDiscoveryRun_does (job : Job) (error : AppError) (now : DateTime) :
    Does (Move agent) (failDiscoveryRun job error now)
      (fun _ db' => ∃ discoveryRuns audit, db' = { db with discoveryRuns, audit }) db := by
  unfold failDiscoveryRun
  refine does_get ?_
  split
  · exact does_pure ⟨db.discoveryRuns, db.audit, rfl⟩
  · refine Does.bind (does_saveDiscoveryRun _) ?_
    rintro _ _ - ⟨discoveryRuns, rfl⟩
    refine (does_addAudit _ _ _).mono ?_
    rintro _ _ ⟨audit, rfl⟩
    exact ⟨discoveryRuns, audit, rfl⟩

omit [WorkflowRuntime] in
/-- A job that is tried again is active, and one that is not has failed. -/
theorem isActiveJob_failedJob (job : Job) (error : AppError) (now : DateTime) :
    isActiveJob (failedJob job error now).status = isRetried job error := by
  unfold failedJob
  cases isRetried job error with
  | true => rfl
  | false => rfl

/-- What a failure does to a media item, of which nothing is known to be final. -/
theorem failSubject_does_plain {job : Job} {error : AppError} {now : DateTime}
    (hopen : ∀ media, resolvedMedia db job = some media →
      identityFinalizationEvidence db media = none)
    (hother : job.jobType.isTorrentSearch = false ∨
      job.payload.searchRunId.bind db.searchRuns.get? = none) :
    Does (Move agent) (failSubject job error now) (fun _ _ => True) db := by
  unfold failSubject
  refine does_get (does_ite (fun hresolution => ?_) fun _ => does_ite (fun hsearch => ?_) fun _ =>
    does_pure trivial)
  · split
    · rename_i media hmedia
      have hresolved : resolvedMedia db job = some media := (if_pos hresolution).trans hmedia
      obtain ⟨mediaId, -, hget⟩ := Option.bind_eq_some_iff.mp hmedia
      have haudit : ∀ db' : WorkflowDb, Does (Move agent) (addAudit
          (if isRetried job error then "METADATA_RESOLUTION_RETRY_SCHEDULED"
            else "METADATA_RESOLUTION_FAILED") "media_item" media.id) (fun _ _ => True) db' :=
        fun db' => (does_addAudit _ _ _).mono fun _ _ _ => trivial
      refine does_ite (fun _ => ?_) fun _ => haudit _
      refine Does.bind (P := fun _ _ => True) (does_modify (Move.unsettled (mem_of_get? hget).1
        rfl (hopen media hresolved) ⟨rfl, rfl, rfl, rfl, rfl⟩ (Or.inl rfl)) trivial) ?_
      exact fun _ db' _ _ => haudit db'
    · exact does_pure trivial
  · split
    · rename_i run hrun
      rcases hother with hplain | hnone
      · rw [hsearch] at hplain
        cases hplain
      · exact absurd (hnone.symm.trans hrun).symm (Option.some_ne_none _)
    · exact does_pure trivial

/-- The failure of a job, whose row is written over. -/
theorem storeFailure_does_plain {job row : Job} {error : AppError} {now : DateTime}
    (hrow : row ∈ db.queue)
    (houtdated : row.jobType.isTorrentSearch = true → agent.outdated = true)
    (hopen : ∀ media, resolvedMedia db job = some media →
      identityFinalizationEvidence db media = none)
    (hother : job.jobType.isTorrentSearch = false ∨
      job.payload.searchRunId.bind db.searchRuns.get? = none) :
    Does (Move agent) (storeFailure job row error now) (fun _ _ => True) db := by
  refine Does.bind (writeQueuedJob_does houtdated hrow) ?_
  rintro _ _ - rfl
  refine Does.bind (failDiscoveryRun_does _ _ _) ?_
  rintro _ _ - ⟨discoveryRuns, audit, rfl⟩
  exact failSubject_does_plain hopen hother

/-- A run that is written over, and the status of its media item. -/
theorem moves_runOverwritten {run run' : TorrentSearchRun} {mediaId : Option String}
    {audit : List AuditEvent} (houtdated : agent.outdated = true) (hrun : run ∈ db.searchRuns)
    (hkept : SameRun run run') :
    Moves (Move agent) db
      (refreshedFor mediaId { db with searchRuns := db.searchRuns.save run', audit }) := by
  have haside : Move agent db { db with audit } := Move.aside db.control db.discoveryRuns audit
  exact (Relation.ReflTransGen.single haside).tail (Move.runOverwritten houtdated hrun hkept)

omit [WorkflowRuntime] in
/-- A search does not resolve. -/
theorem isResolution_of_isTorrentSearch {job : Job} (h : job.jobType.isTorrentSearch = true) :
    ¬ job.jobType.isResolution = true := by
  intro hresolution
  rw [isTorrentSearch_of_isResolution hresolution] at h
  cases h

/-- The failure of a job that searches, whose row and whose run are written over. -/
theorem storeFailure_does_outdated {job row : Job} {error : AppError} {now : DateTime}
    (hrow : row ∈ db.queue) (houtdated : agent.outdated = true)
    (hsearch : job.jobType.isTorrentSearch = true) :
    Does (Move agent) (storeFailure job row error now) (fun _ _ => True) db := by
  refine Does.bind (writeQueuedJob_does (fun _ => houtdated) hrow) ?_
  rintro _ _ - rfl
  refine Does.bind (failDiscoveryRun_does _ _ _) ?_
  rintro _ _ - ⟨discoveryRuns, audit, rfl⟩
  refine does_of_wp ?_
  unfold failSubject
  rw [Tx.wp_bind, Tx.wp_get, if_neg (isResolution_of_isTorrentSearch hsearch), if_pos hsearch]
  split
  · rename_i run hrun
    obtain ⟨runId, -, hget⟩ := Option.bind_eq_some_iff.mp hrun
    unfold failSearch saveSearchRun addAudit
    simp only [Tx.wp_bind, Tx.wp_modify]
    refine wp_refreshSearched rfl ⟨?_, trivial⟩
    rw [refreshedFor_with]
    exact moves_runOverwritten houtdated (Table.mem_of_get?_eq_some hget) ⟨rfl, rfl, rfl⟩
  · exact ⟨Relation.ReflTransGen.refl, trivial⟩

omit [WorkflowRuntime] in
/-- The end of a lease is written over a job that is as it was read. -/
theorem AsRead.lockedAt_written {held row : Job} (h : AsRead held row) :
    writeBack held.lockedAt none row.lockedAt = none := by
  cases hheld : held.lockedAt with
  | none =>
      have hlocked := h.2
      rw [hheld, Option.isSome_none, Option.isSome_eq_false_iff,
        Option.isNone_iff_eq_none] at hlocked
      rw [hlocked, writeBack_self]
  | some t => exact writeBack_of_ne (Option.some_ne_none t).symm _

omit [WorkflowRuntime] in
/-- What is written of a failure, where the job is as it was read. -/
theorem writtenJob_failedJob {held row : Job} (h : AsRead held row) (error : AppError)
    (now : DateTime) :
    writtenJob held (failedJob held error now) row = failedJob row error now := by
  unfold writtenJob failedJob
  rw [h.lockedAt_written, h.1]
  simp only [writeBack_self]
  rfl

omit [WorkflowRuntime] in
/-- What is written of a cancellation, where the job is as it was read. -/
theorem writtenJob_cancelledJob {held row : Job} (h : AsRead held row) :
    writtenJob held (cancelledJob held) row = cancelledJob row := by
  unfold writtenJob cancelledJob
  rw [h.lockedAt_written, h.1]
  simp only [writeBack_self]

/-- The failure of a job that searches, and is as it was read. -/
theorem storeFailure_does_search {job row : Job} {error : AppError} {now : DateTime}
    (hrow : row ∈ db.queue) (hread : AsRead job row) (hactive : isActiveJob row.status = true)
    (hsearch : job.jobType.isTorrentSearch = true) :
    Does (Move agent) (storeFailure job row error now) (fun _ _ => True) db := by
  refine does_of_wp ?_
  unfold storeFailure writeQueuedJob saveQueuedJob
  simp only [Tx.wp_bind, Tx.wp_get, Tx.wp_require, Tx.wp_modify, implies_true, and_true]
  intro _
  rw [writtenJob_failedJob hread]
  have hdiscovery : Does (Move agent) (failDiscoveryRun job error now) _
    { db with queue := db.queue.save (failedJob row error now) } := failDiscoveryRun_does _ _ _
  refine Tx.wp_mono hdiscovery ?_ fun _ _ => id
  rintro _ _ ⟨-, discoveryRuns, audit, rfl⟩
  have hpayload : row.payload = job.payload := by rw [hread.1]
  have hstatus : isRetried row error = isRetried job error := by rw [hread.1]; rfl
  unfold failSubject
  rw [Tx.wp_bind, Tx.wp_get, if_neg (isResolution_of_isTorrentSearch hsearch), if_pos hsearch]
  -- where there is a run, it waits or ends with its job
  cases hrun : job.payload.searchRunId.bind db.searchRuns.get? with
  | none =>
      rw [← hpayload] at hrun
      have hstep : Move agent db { db with queue := db.queue.save (failedJob row error now) } :=
        Move.worked hrow ⟨rfl, rfl, rfl, rfl⟩ hactive (Or.inr (Or.inr hrun))
      exact (Relation.ReflTransGen.single hstep).tail (Move.aside db.control discoveryRuns audit)
  | some run =>
      have hagree : isActiveJob (failedJob row error now).status =
            isActiveSearch (failedRun job run error now).status ∧
            (failedRun job run error now).status ∈ SEARCH_STATUS_PRECEDENCE ∨
          isActiveJob (failedJob row error now).status = true ∧
            (failedRun job run error now).status = run.status := by
        rw [isActiveJob_failedJob, hstatus]
        unfold failedRun
        cases isRetried job error with
        | true => exact Or.inr ⟨rfl, rfl⟩
        | false => exact Or.inl ⟨rfl, by simp [SEARCH_STATUS_PRECEDENCE]⟩
      unfold failSearch saveSearchRun addAudit
      simp only [Tx.wp_bind, Tx.wp_modify]
      refine wp_refreshSearched rfl ?_
      rw [refreshedFor_with]
      rw [← hpayload] at hrun ⊢
      exact moves_searched rfl hrow ⟨rfl, rfl, rfl, rfl⟩ hactive hrun ⟨rfl, rfl, rfl⟩ hagree

omit [WorkflowRuntime] in
/-- A lease is one of a running job. -/
theorem running_of_ownsLease {p : JobProcessor} {job : Job} {leaseToken : Option String}
    (h : p.ownsLease job leaseToken = true) : job.status = .running := by
  unfold JobProcessor.ownsLease at h
  rw [Bool.and_eq_true, Bool.and_eq_true, Bool.and_eq_true] at h
  simpa using h.1.1.2

/-- `_fail`, for a job that was read before its row is locked.  Only where the job searches does it
matter whether the row is still what was read. -/
theorem failJob_does (p : JobProcessor) {held : Job} {jobId : String} (error : AppError)
    {leaseToken : Option String} (now : DateTime)
    (hsame : ∀ row ∈ db.queue, row.id = jobId → SameJob held row)
    (hread : held.jobType.isTorrentSearch = true → p.ownsLease held leaseToken = true →
      agent.outdated = true ∨ ∀ row ∈ db.queue, row.id = jobId → AsRead held row) :
    Does (Move agent) (failJob p held jobId error leaseToken now) (fun _ _ => True) db := by
  unfold failJob
  refine does_get ?_
  split
  · exact does_pure trivial
  rename_i row hget
  obtain ⟨hrow, hid⟩ := Table.get?_eq_some.mp hget
  have hjob := hsame row hrow hid
  rw [Option.getD_some, Option.bind_some]
  refine does_ite (fun howns => does_ite (fun hfinal => ?_) fun hopen => ?_) fun _ =>
    does_pure trivial
  -- a final identity cancels the resolution that has failed
  · have hresolution : row.jobType.isResolution = true := by
      rw [hjob.jobType]
      unfold resolvedMedia at hfinal
      split at hfinal
      · assumption
      · cases hfinal
    exact Does.bind (cancelMetadataResolutionJob_does hrow hresolution)
      fun _ _ _ _ => does_pure trivial
  · have hnone : ∀ media, resolvedMedia db held = some media →
        identityFinalizationEvidence db media = none := by
      intro media hmedia
      rw [hmedia, Option.any_some, Bool.not_eq_true, Option.isSome_eq_false_iff,
        Option.isNone_iff_eq_none] at hopen
      exact hopen
    cases hsearch : held.jobType.isTorrentSearch with
    | false =>
        refine storeFailure_does_plain hrow (fun hrowSearch => ?_) hnone (Or.inl hsearch)
        rw [hjob.jobType, hsearch] at hrowSearch
        cases hrowSearch
    | true =>
        rcases hread hsearch howns with houtdated | hread
        · exact storeFailure_does_outdated hrow houtdated hsearch
        -- a row that is as it was read is still running
        · have hasRead := hread row hrow hid
          refine storeFailure_does_search hrow hasRead ?_ hsearch
          rw [hasRead.1, running_of_ownsLease howns]
          rfl

end Failures

/-! ### Routes -/

section Routes

variable {agent : Agent} {db : WorkflowDb}

/-- `start_discovery`. -/
theorem startDiscovery_does (configured : Bool) (settings : WorkflowSettings)
    (newIds : Uuid × Uuid) (now : DateTime) :
    Does (Move agent) (Api.startDiscovery configured settings newIds now) (fun _ _ => True)
      db := by
  refine does_require fun _ => ?_
  refine Does.bind (P := fun _ _ => True) ?_ fun _ _ _ _ => does_pure trivial
  unfold createDiscoveryRun
  refine does_get ?_
  split
  · exact does_pure trivial
  · refine Does.bind (P := fun _ _ => True) ?_ fun _ _ _ _ => ?_
    · refine does_get (does_require fun _ => ?_)
      exact (does_saveDiscoveryRun _).mono fun _ _ _ => trivial
    · refine Does.bind (does_insertQueuedJob rfl rfl rfl) fun _ _ _ _ => ?_
      exact Does.bind (does_addAudit _ _ _) fun _ _ _ _ => does_pure trivial

/-- `resolve_media`. -/
theorem resolveMedia_does {held : Option Models.MediaItem} {mediaId : String}
    (hheld : ∀ media, held = some media → media.id = mediaId) (settings : WorkflowSettings)
    (newIds : Uuid × Uuid) (clock : ℕ → DateTime) :
    Does (Move agent) (Api.resolveMedia held mediaId settings newIds clock) (fun _ _ => True)
      db := by
  refine Does.bind (does_inControl _) fun _ _ _ _ => ?_
  refine does_require fun _ => does_require fun _ => does_ofOption fun media hmedia => ?_
  rw [hmedia] at hheld
  exact Does.bind (enqueueMetadataResolution_does hheld _ _ _) fun _ _ _ _ => does_pure trivial

/-- `create_identity_confirmation`. -/
theorem createIdentityConfirmation_does {held : Option Models.MediaItem} {mediaId : String}
    (hheld : ∀ media, held = some media → media.id = mediaId) (metadataMatchId username : String)
    (settings : WorkflowSettings) (env : IdentityEnvironment) :
    Does (Move confirmer)
      (Api.createIdentityConfirmation held mediaId metadataMatchId username settings env)
      (fun _ _ => True) db := by
  refine Does.bind (does_inControl _) fun _ _ _ _ => does_ofOption fun media hmedia => ?_
  rw [hmedia] at hheld
  refine Does.bind (confirmIdentity_does (fun _ _ _ _ => trivial) hheld _ _ _) ?_
  rintro ⟨review, confirmed⟩ db' - ⟨-, hconfirmed, hstatus⟩
  rw [← hconfirmed] at hstatus
  exact Does.bind (maybeAutomateTorrentSearchAfterIdentity_does trivial hstatus _ _)
    fun _ _ _ _ => does_pure trivial

/-- `create_torrent_search`, for a media item that was read before its row is locked. -/
theorem createTorrentSearch_does (mediaId : String) (request : TorrentSearchCreateRequest)
    (requireSearchable : String → Option MediaType → Except AppError Unit)
    (settings : WorkflowSettings) (newIds : Uuid × Uuid × Uuid) (clock : ℕ → DateTime)
    {held : Option Models.MediaItem} (hagent : ∀ reviews id, agent.searches reviews id)
    (hheld : ∀ media row, held = some media → db.media.get? mediaId = some row →
      media.id = mediaId ∧
        (media.workflowStatus ≠ row.workflowStatus → agent.outdated = true)) :
    Does (Move agent)
      (Api.createTorrentSearch held mediaId request requireSearchable settings newIds clock)
      (fun _ _ => True) db := by
  refine does_ofExcept fun _ _ => Does.bind (does_inControl _) fun _ _ _ hcontrol => ?_
  obtain ⟨control, rfl⟩ := hcontrol
  refine does_ofOption fun media hmedia => does_ofExcept fun _ _ => ?_
  subst hmedia
  exact Does.bind (enqueueTorrentSearch_does (hagent _ _) _ _ _ _ hheld) fun _ _ _ _ =>
    does_pure trivial

end Routes

/-! ### Runs -/

/-- The database, the claims that were ever made, and the databases that there were, the last one
first: a session may hold a row that it has read in one of them. -/
structure World where
  db : WorkflowDb := {}
  claims : List Job := []
  past : List WorkflowDb := []

/-- The database as it was some transactions ago. -/
def World.before (w : World) (ago : ℕ) : WorkflowDb :=
  (w.db :: w.past).getD ago w.db

/-- A transaction of the workflow, with all that the outside supplies to it.  A step of a worker
goes by a claim; the control plane does what it does.  `ago` says how many transactions ago the
session has read, without a lock, the row that it then goes on with. -/
inductive Operation where
  | startDiscovery (configured : Bool) (settings : WorkflowSettings) (newIds : Uuid × Uuid)
      (now : DateTime)
  | resolveMedia (mediaId : String) (ago : ℕ) (settings : WorkflowSettings)
      (newIds : Uuid × Uuid) (clock : ℕ → DateTime)
  | confirmIdentity (mediaId : String) (ago : ℕ) (metadataMatchId username : String)
      (settings : WorkflowSettings) (env : IdentityEnvironment)
  | createTorrentSearch (mediaId : String) (ago : ℕ) (request : TorrentSearchCreateRequest)
      (requireSearchable : String → Option MediaType → Except AppError Unit)
      (settings : WorkflowSettings) (newIds : Uuid × Uuid × Uuid) (clock : ℕ → DateTime)
  | claimJob (p : JobProcessor) (leaseToken : Uuid) (now : DateTime) (locked : String → Bool)
  | renewLease (p : JobProcessor) (claim : Job) (now : DateTime)
  | prepareResolution (p : JobProcessor) (claim : Job)
  | completeResolution (p : JobProcessor) (claim : Job) (candidates : List MetadataRecord)
      (settings : WorkflowSettings) (matchId : ℕ → Uuid) (env : IdentityEnvironment)
  | completeSearch (p : JobProcessor) (claim : Job) (candidates : List (ScoredCandidate × Uuid))
      (strategyLog : List (String × ℕ)) (settings : WorkflowSettings) (now : DateTime)
  | completeDiscovery (p : JobProcessor) (claim : Job) (items : List MediaItemData)
      (mediaIds jobIds : ℕ → Uuid) (now : DateTime)
  | checkpointCountries (p : JobProcessor) (claim : Job)
      (values : List (MediaType × Int × List String))
  | fail (p : JobProcessor) (claim : Job) (ago : ℕ) (error : AppError) (now : DateTime)
  | elsewhere (control : Db)

/-- **A worker whose job fails still holds what it has read**: where the job, as it was read, is
under the lease of the worker, the row is what was read, but for the renewals of the lease. -/
def Operation.leaseAsRead (w : World) : Operation → Prop
  | .fail p claim ago _ _ => ∀ held ∈ (w.before ago).queue.get? claim.id,
      p.ownsLease held claim.leaseToken = true →
        ∀ row ∈ w.db.queue.get? claim.id, AsRead held row
  | _ => True

/-- **A request for a search holds the status of its media item** as it is. -/
def Operation.statusAsRead (w : World) : Operation → Prop
  | .createTorrentSearch mediaId ago .. => ∀ held ∈ (w.before ago).media.get? mediaId,
      ∀ row ∈ w.db.media.get? mediaId, held.workflowStatus = row.workflowStatus
  | _ => True

/-- Whether an operation is the failure of a job that searches. -/
def Operation.failsSearch : Operation → Bool
  | .fail _ claim .. => claim.jobType.isTorrentSearch
  | _ => false

/-- **What an operation goes on with of a search is as it was read.** -/
def Operation.searchAsRead (w : World) (op : Operation) : Prop :=
  (op.failsSearch = true → op.leaseAsRead w) ∧ op.statusAsRead w

instance (w : World) : ∀ op : Operation, Decidable (op.leaseAsRead w)
  | .fail .. => by
      delta Operation.leaseAsRead
      infer_instance
  | .startDiscovery .. | .resolveMedia .. | .confirmIdentity .. | .createTorrentSearch ..
  | .claimJob .. | .renewLease .. | .prepareResolution .. | .completeResolution ..
  | .completeSearch .. | .completeDiscovery .. | .checkpointCountries .. | .elsewhere .. =>
      inferInstanceAs (Decidable True)

instance (w : World) : ∀ op : Operation, Decidable (op.statusAsRead w)
  | .createTorrentSearch .. => by
      delta Operation.statusAsRead
      infer_instance
  | .startDiscovery .. | .resolveMedia .. | .confirmIdentity .. | .fail ..
  | .claimJob .. | .renewLease .. | .prepareResolution .. | .completeResolution ..
  | .completeSearch .. | .completeDiscovery .. | .checkpointCountries .. | .elsewhere .. =>
      inferInstanceAs (Decidable True)

instance (w : World) (op : Operation) : Decidable (op.searchAsRead w) := by
  delta Operation.searchAsRead
  infer_instance

/-- What an operation may do, given the world in which it begins. -/
def Operation.agent (w : World) (op : Operation) : Agent :=
  match op with
  | .confirmIdentity .. => confirmer
  | .createTorrentSearch .. => { searcher with outdated := ¬ op.searchAsRead w }
  | .completeResolution _ claim _ settings _ _ => resolver w.db settings claim.id
  | .completeDiscovery _ _ items _ _ _ => importer items
  | .checkpointCountries .. => importer []
  | .fail .. => { bystander with outdated := ¬ op.searchAsRead w }
  | .startDiscovery .. | .resolveMedia .. | .claimJob .. | .renewLease ..
  | .prepareResolution .. | .completeSearch .. | .elsewhere .. => bystander

/-- The claim that an operation goes by. -/
def Operation.claim? : Operation → Option Job
  | .renewLease _ claim _ | .prepareResolution _ claim | .completeResolution _ claim _ _ _ _
  | .completeSearch _ claim _ _ _ _ | .completeDiscovery _ claim _ _ _ _
  | .checkpointCountries _ claim _ | .fail _ claim _ _ _ => some claim
  | _ => none

/-- The media item that a worker resolves for a job, `_run_metadata_resolution`. -/
def resolutionSubject (claim : Job) : Option String :=
  if claim.jobType.isResolution then claim.payload.mediaId else none

/-- The run and the media item that a worker searches for, `_run_torrent_search`. -/
def searchSubject (claim : Job) : Option (String × String) :=
  match claim.jobType.isTorrentSearch, claim.payload.searchRunId, claim.payload.mediaId with
  | true, some searchRunId, some mediaId => some (searchRunId, mediaId)
  | _, _, _ => none

/-- The run of a discovery that a worker makes, `_run_discovery`. -/
def discoverySubject (claim : Job) : Option String :=
  if claim.jobType = .discover "NEXTFIND" then claim.runId else none

/-- A unit of work that claims no job. -/
def alone (body : WorkflowTx Unit) : WorkflowTx (Option Job) := do
  body
  return none

/-- A unit of work on what a job is about, if it is about that. -/
def onSubject {β : Type} (subject : Option β) (body : β → WorkflowTx Unit) :
    WorkflowTx (Option Job) :=
  match subject with
  | some s => alone (body s)
  | none => return none

/-- The unit of work of an operation; a claim returns a job.  A worker whose job fails has read the
job after it has claimed it. -/
def Operation.body (w : World) : Operation → WorkflowTx (Option Job)
  | .startDiscovery configured settings newIds now =>
      alone (Api.startDiscovery configured settings newIds now)
  | .resolveMedia mediaId ago settings newIds clock =>
      alone (Api.resolveMedia ((w.before ago).media.get? mediaId) mediaId settings newIds clock)
  | .confirmIdentity mediaId ago metadataMatchId username settings env =>
      alone (Api.createIdentityConfirmation ((w.before ago).media.get? mediaId) mediaId
        metadataMatchId username settings env)
  | .createTorrentSearch mediaId ago request requireSearchable settings newIds clock =>
      alone (Api.createTorrentSearch ((w.before ago).media.get? mediaId) mediaId request
        requireSearchable settings newIds clock)
  | .claimJob p leaseToken now locked => Workers.claimJob p leaseToken now locked
  | .renewLease p claim now =>
      alone do
        let _ ← renewJobLease p claim.id claim.leaseToken now
        return ()
  | .prepareResolution p claim =>
      onSubject (resolutionSubject claim) fun mediaId => do
        let _ ← prepareMetadataResolution p claim.id mediaId claim.leaseToken
        return ()
  | .completeResolution p claim candidates settings matchId env =>
      onSubject (resolutionSubject claim) fun mediaId =>
        completeMetadataResolution p claim.id mediaId candidates claim.leaseToken settings matchId
          env
  | .completeSearch p claim candidates strategyLog settings now =>
      onSubject (searchSubject claim) fun subject =>
        completeTorrentSearch p claim.id subject.1 subject.2 candidates strategyLog
          claim.leaseToken settings now
  | .completeDiscovery p claim items mediaIds jobIds now =>
      onSubject (discoverySubject claim) fun runId =>
        Workers.completeDiscovery p claim.id runId items claim.leaseToken mediaIds jobIds now
  | .checkpointCountries p claim values =>
      onSubject (discoverySubject claim) fun _ =>
        checkpointCountryCodes p claim.id claim.leaseToken values
  | .fail p claim ago error now =>
      onSubject ((w.before ago).queue.get? claim.id) fun held =>
        failJob p held claim.id error claim.leaseToken now
  | .elsewhere control => alone (Tx.modify fun db => { db with control })

/-- **An operation**: a transaction, which a worker begins for a job that was claimed. -/
def Operation.perform (op : Operation) (w : World) : World :=
  if op.claim?.all (fun claim => claim ∈ w.claims) = true then
    let outcome := Tx.commit (op.body w) w.db
    { db := outcome.2
      claims :=
        match outcome.1 with
        | .ok (some job) => job :: w.claims
        | _ => w.claims
      past := w.db :: w.past }
  else w

/-- A run from the empty database. -/
def World.run (ops : List Operation) : World :=
  ops.foldl (fun w op => op.perform w) {}

/-- Every step of a run meets a condition. -/
abbrev EveryStep (p : World → Operation → Prop) : World → List Operation → Prop :=
  Lib.EveryStep (fun w op => op.perform w) p

/-! ### What an operation changes -/

omit [WorkflowRuntime] in
theorem SameJob.refl (job : Job) : SameJob job job :=
  ⟨rfl, rfl, rfl, rfl⟩

omit [WorkflowRuntime] in
theorem SameJob.trans {job job' job'' : Job} (h : SameJob job job') (h' : SameJob job' job'') :
    SameJob job job'' :=
  ⟨h'.id.trans h.id, h'.jobType.trans h.jobType, h'.mediaId.trans h.mediaId,
    h'.searchRunId.trans h.searchRunId⟩

/-- The rows of the queue stay what they are about. -/
theorem Move.keepsJobs {agent : Agent} {db db' : WorkflowDb} (h : Move agent db db') :
    ∀ job ∈ db.queue, ∃ job' ∈ db'.queue, SameJob job job' := by
  have hnew : ∀ {job' : Job}, db.queue.get? job'.id = none →
      ∀ job ∈ db.queue, ∃ other ∈ db.queue.save job', SameJob job other :=
    fun hnone job hjob => ⟨job, mem_queue_save hnone hjob, SameJob.refl job⟩
  have hold : ∀ {row row' : Job}, row ∈ db.queue → SameJob row row' →
      ∀ job ∈ db.queue, ∃ other ∈ db.queue.save row', SameJob job other := by
    intro row row' hrow hsame job hjob
    by_cases hid : job.id = row.id
    · rw [Table.eq_of_key_eq hjob hrow hid]
      exact ⟨row', Table.mem_save_self _ _, hsame⟩
    · exact ⟨job, Table.mem_save_of_ne hjob fun h => hid (h.trans hsame.id), SameJob.refl job⟩
  cases h with
  | queued hnone _ _ _ _ => exact hnew hnone
  | worked hrow hsame _ _ => exact hold hrow hsame
  | searchQueued _ hsearch =>
      rw [refreshed_queue]
      exact hnew hsearch.jobNew
  | searchConcealed _ _ hsearch => exact hnew hsearch.jobNew
  | overwritten _ hrow hsame _ => exact hold hrow hsame
  | runOverwritten _ _ _ =>
      rw [refreshedFor_queue]
      exact fun job hjob => ⟨job, hjob, SameJob.refl job⟩
  | searched hrow hsame _ _ _ _ =>
      rw [refreshedFor_queue]
      exact hold hrow hsame
  | _ => exact fun job hjob => ⟨job, hjob, SameJob.refl job⟩

/-- The jobs that name a run stay those that search. -/
theorem Move.named {agent : Agent} {db db' : WorkflowDb} (h : Move agent db db')
    (hnamed : Named db) : Named db' := by
  -- a row that is written again keeps its kind and its search
  have hold : ∀ {row row' : Job}, row ∈ db.queue → SameJob row row' →
      ∀ job ∈ db.queue.save row', job.payload.searchRunId.isSome = job.jobType.isTorrentSearch := by
    intro row row' hrow hsame
    refine Table.forall_mem_save hnamed ?_
    rw [hsame.searchRunId, hsame.jobType]
    exact hnamed row hrow
  have hqueued : ∀ {run : TorrentSearchRun} {job : Job}, NewSearch db run job →
      ∀ other ∈ db.queue.save job,
        other.payload.searchRunId.isSome = other.jobType.isTorrentSearch := by
    intro run job hsearch
    refine Table.forall_mem_save hnamed ?_
    rw [hsearch.runId, hsearch.jobType]
    rfl
  cases h with
  | queued _ _ _ hother hrun =>
      refine Table.forall_mem_save hnamed ?_
      rw [hrun, hother]
      rfl
  | worked hrow hsame _ _ => exact hold hrow hsame
  | searchQueued _ hsearch =>
      intro job hjob
      rw [refreshed_queue] at hjob
      exact hqueued hsearch job hjob
  | searchConcealed _ _ hsearch => exact hqueued hsearch
  | overwritten _ hrow hsame _ => exact hold hrow hsame
  | runOverwritten _ _ _ =>
      intro job hjob
      rw [refreshedFor_queue] at hjob
      exact hnamed job hjob
  | searched hrow hsame _ _ _ _ =>
      intro job hjob
      rw [refreshedFor_queue] at hjob
      exact hold hrow hsame job hjob
  | _ => exact hnamed

/-- What every claim knows of its job, and every session that has read the row. -/
structure Remembered (w : World) : Prop where
  claims : ∀ claim ∈ w.claims, ∃ row ∈ w.db.queue, SameJob claim row
  past : ∀ db ∈ w.past, ∀ job ∈ db.queue, ∃ row ∈ w.db.queue, SameJob job row

section Perform

variable {w : World}

omit [WorkflowRuntime] in
/-- The row of the job that a claim is for. -/
theorem Remembered.row {claim row : Job} (h : Remembered w) (hclaim : claim ∈ w.claims)
    (hrow : row ∈ w.db.queue) (hid : row.id = claim.id) : SameJob claim row := by
  obtain ⟨other, hother, hsame⟩ := h.claims claim hclaim
  rw [Table.eq_of_key_eq hrow hother (hid.trans hsame.id.symm)]
  exact hsame

omit [WorkflowRuntime] in
/-- The row of the job that a session has read. -/
theorem Remembered.held {ago : ℕ} {held row : Job} (h : Remembered w)
    (hheld : held ∈ (w.before ago).queue) (hrow : row ∈ w.db.queue) (hid : row.id = held.id) :
    SameJob held row := by
  have hpast : ∀ db ∈ w.db :: w.past, ∀ job ∈ db.queue, ∃ row ∈ w.db.queue, SameJob job row :=
    List.forall_mem_cons.mpr ⟨fun job hjob => ⟨job, hjob, rfl, rfl, rfl, rfl⟩, h.past⟩
  have hmem : w.before ago ∈ w.db :: w.past := by
    unfold World.before
    rw [List.getD_eq_getElem?_getD]
    cases hget : (w.db :: w.past)[ago]? with
    | none => exact List.mem_cons_self
    | some db => exact List.mem_of_getElem? hget
  obtain ⟨other, hother, hsame⟩ := hpast _ hmem held hheld
  rw [Table.eq_of_key_eq hrow hother (hid.trans hsame.id.symm)]
  exact hsame

/-- A unit of work that claims no job. -/
theorem does_alone {agent : Agent} {db : WorkflowDb} {body : WorkflowTx Unit}
    (h : Does (Move agent) body (fun _ _ => True) db) :
    Does (Move agent) (alone body)
      (fun claimed db' => ∀ job, claimed = some job → job ∈ db'.queue) db :=
  Does.bind h fun _ _ _ _ => does_pure fun _ h => absurd h.symm (Option.some_ne_none _)

/-- A unit of work on what a job is about. -/
theorem does_onSubject {agent : Agent} {db : WorkflowDb} {β : Type} {subject : Option β}
    {body : β → WorkflowTx Unit}
    (h : ∀ s, subject = some s → Does (Move agent) (body s) (fun _ _ => True) db) :
    Does (Move agent) (onSubject subject body)
      (fun claimed db' => ∀ job, claimed = some job → job ∈ db'.queue) db := by
  unfold onSubject
  split
  · exact does_alone (h _ rfl)
  · exact does_pure fun _ h => absurd h.symm (Option.some_ne_none _)

/-- The unit of work of an operation on a job that was claimed. -/
theorem Operation.body_does (op : Operation) (hnamed : Named w.db) (hremembered : Remembered w)
    (hclaim : ∀ claim, op.claim? = some claim → claim ∈ w.claims) :
    Does (Move (op.agent w)) (op.body w)
      (fun claimed db' => ∀ job, claimed = some job → job ∈ db'.queue) w.db := by
  -- a job keeps its type and its subject, whatever became of its row since the claim
  have hresolution : ∀ {claim : Job} {mediaId : String}, op.claim? = some claim →
      resolutionSubject claim = some mediaId →
        ∀ job ∈ w.db.queue, job.id = claim.id → job.jobType.isResolution = true := by
    intro claim mediaId hop hsubject job hjob hid
    rw [(hremembered.row (hclaim claim hop) hjob hid).jobType]
    unfold resolutionSubject at hsubject
    split at hsubject
    · assumption
    · cases hsubject
  have hdiscovery : ∀ {claim : Job} {runId : String}, op.claim? = some claim →
      discoverySubject claim = some runId → ∀ job ∈ w.db.queue, job.id = claim.id →
        job.jobType.isResolution = false ∧ job.jobType.isTorrentSearch = false := by
    intro claim runId hop hsubject job hjob hid
    rw [(hremembered.row (hclaim claim hop) hjob hid).jobType]
    unfold discoverySubject at hsubject
    split at hsubject
    · rename_i htype
      rw [htype]
      exact ⟨rfl, rfl⟩
    · cases hsubject
  cases op with
  | startDiscovery configured settings newIds now =>
      exact does_alone (startDiscovery_does _ _ _ _)
  | resolveMedia mediaId ago settings newIds clock =>
      exact does_alone (resolveMedia_does (fun _ hheld => (mem_of_get? hheld).2) _ _ _)
  | confirmIdentity mediaId ago metadataMatchId username settings env =>
      exact does_alone (createIdentityConfirmation_does
        (fun _ hheld => (mem_of_get? hheld).2) _ _ _ _)
  | createTorrentSearch mediaId ago request requireSearchable settings newIds clock =>
      refine does_alone (createTorrentSearch_does _ _ _ _ _ _ (fun _ _ => trivial) ?_)
      intro media row hmedia hrow
      refine ⟨(mem_of_get? hmedia).2, fun hne => decide_eq_true fun hread => ?_⟩
      exact hne (hread.2 media hmedia row hrow)
  | claimJob p leaseToken now locked => exact claimJob_does hnamed p leaseToken now locked
  | renewLease p claim now =>
      exact does_alone (Does.bind (renewJobLease_does _ _ _ _) fun _ _ _ _ => does_pure trivial)
  | prepareResolution p claim =>
      refine does_onSubject fun mediaId hsubject => ?_
      exact Does.bind (prepareMetadataResolution_does _ _ _ (hresolution rfl hsubject))
        fun _ _ _ _ => does_pure trivial
  | completeResolution p claim candidates settings matchId env =>
      exact does_onSubject fun mediaId hsubject =>
        completeMetadataResolution_does _ _ _ _ _ _ _ (hresolution rfl hsubject)
  | completeSearch p claim candidates strategyLog settings now =>
      refine does_onSubject fun _ _ => ?_
      exact completeTorrentSearch_does _ _ _ _ _ _ _ _ _
  | completeDiscovery p claim items mediaIds jobIds now =>
      exact does_onSubject fun runId hsubject =>
        completeDiscovery_does _ _ _ _ _ _ _ (hdiscovery rfl hsubject)
  | checkpointCountries p claim values =>
      refine does_onSubject fun _ _ => ?_
      exact checkpointCountryCodes_does _ _ _ _
  | fail p claim ago error now =>
      refine does_onSubject fun held hheld => ?_
      obtain ⟨hmem, hid⟩ := Table.get?_eq_some.mp hheld
      refine failJob_does _ _ _ (fun row hrow hrowId =>
        hremembered.held hmem hrow (hrowId.trans hid.symm)) fun hsearch howns => ?_
      -- a failure that is decided on an outdated row is a move of its own
      by_cases hread : (Operation.fail p claim ago error now).searchAsRead w
      · refine Or.inr fun row hrow hrowId => ?_
        have hfails : claim.jobType.isTorrentSearch = true := by
          rw [← (hremembered.row (hclaim claim rfl) hrow hrowId).jobType,
            (hremembered.held hmem hrow (hrowId.trans hid.symm)).jobType]
          exact hsearch
        exact hread.1 hfails held hheld howns row (Table.get?_eq_some.mpr ⟨hrow, hrowId⟩)
      · exact Or.inl (decide_eq_true hread)
  | elsewhere control =>
      exact does_alone (does_modify (Move.aside control w.db.discoveryRuns w.db.audit) trivial)

/-- What holds of every world that a run reaches. -/
structure Sound (w : World) : Prop where
  named : Named w.db
  remembered : Remembered w

/-- **The changes that an operation makes.** -/
theorem Operation.perform_moves (op : Operation) (h : Sound w) :
    Moves (Move (op.agent w)) w.db (op.perform w).db := by
  unfold Operation.perform
  split
  · rename_i hclaim
    refine (op.body_does h.named h.remembered fun claim hop => ?_).commit
    rw [hop, Option.all_some, decide_eq_true_iff] at hclaim
    exact hclaim
  · exact Relation.ReflTransGen.refl

/-- The rows of the queue stay what they are about. -/
theorem keepsJobs {agent : Agent} {db db' : WorkflowDb} (h : Moves (Move agent) db db') :
    ∀ job ∈ db.queue, ∃ job' ∈ db'.queue, SameJob job job' := by
  induction h with
  | refl => exact fun job hjob => ⟨job, hjob, SameJob.refl job⟩
  | tail _ hlast ih =>
      intro job hjob
      obtain ⟨job', hjob', hsame⟩ := ih job hjob
      obtain ⟨job'', hjob'', hsame'⟩ := hlast.keepsJobs job' hjob'
      exact ⟨job'', hjob'', hsame.trans hsame'⟩

/-- The claims of a world after an operation: those that were there, and the job that it claimed. -/
theorem Operation.perform_claims (op : Operation) (h : Sound w) :
    ∀ claim ∈ (op.perform w).claims, claim ∈ w.claims ∨ claim ∈ (op.perform w).db.queue := by
  unfold Operation.perform
  split
  · rename_i hclaim
    have hbody := op.body_does h.named h.remembered fun claim hop => by
      rw [hop, Option.all_some, decide_eq_true_iff] at hclaim
      exact hclaim
    rcases Tx.commit_wp_eq hbody with ⟨claimed, db', heq, -, hrow⟩ | ⟨e, staged, heq, -⟩
    · rw [heq]
      cases claimed with
      | none => exact fun claim hmem => Or.inl hmem
      | some job =>
          intro claim hmem
          rcases List.mem_cons.mp hmem with rfl | hmem
          · exact Or.inr (hrow claim rfl)
          · exact Or.inl hmem
    · rw [heq]
      exact fun claim hmem => Or.inl hmem
  · exact fun claim hmem => Or.inl hmem

/-- The databases that there were before an operation, and after it. -/
theorem Operation.perform_past (op : Operation) :
    ∀ db ∈ (op.perform w).past, db = w.db ∨ db ∈ w.past := by
  unfold Operation.perform
  split
  · exact fun db hdb => List.mem_cons.mp hdb
  · exact fun db hdb => Or.inr hdb

/-- An operation keeps a world sound. -/
theorem Operation.perform_sound (op : Operation) (h : Sound w) : Sound (op.perform w) := by
  have hmoves := op.perform_moves h
  have hkept : ∀ job row, row ∈ w.db.queue → SameJob job row →
      ∃ row' ∈ (op.perform w).db.queue, SameJob job row' := by
    intro job row hrow hsame
    obtain ⟨row', hrow', hsame'⟩ := keepsJobs hmoves row hrow
    exact ⟨row', hrow', hsame.trans hsame'⟩
  refine ⟨hmoves.invariant h.named fun _ _ hnamed hmove => hmove.named hnamed, ?_, ?_⟩
  · intro claim hclaim
    rcases op.perform_claims h claim hclaim with hold | hrow
    · obtain ⟨row, hrow, hsame⟩ := h.remembered.claims claim hold
      exact hkept claim row hrow hsame
    · exact ⟨claim, hrow, SameJob.refl claim⟩
  · intro db hdb job hjob
    rcases op.perform_past db hdb with rfl | hpast
    · exact hkept job job hjob (SameJob.refl job)
    · obtain ⟨row, hrow, hsame⟩ := h.remembered.past db hpast job hjob
      exact hkept job row hrow hsame

end Perform

omit [WorkflowRuntime] in
theorem sound_empty : Sound {} where
  named _ h := absurd h (Table.notMem_empty _)
  remembered :=
    { claims := fun _ h => absurd h List.not_mem_nil
      past := fun _ h => absurd h List.not_mem_nil }

/-- **The invariant rule**, for the runs whose steps meet a condition: what the empty database
satisfies, and every change keeps that an agent of such a step makes, holds of every state that a
run reaches. -/
theorem World.run_invariant_of {P : WorkflowDb → Prop} {p : World → Operation → Prop}
    (hempty : P {})
    (hmove : ∀ (w : World) (op : Operation) (db db' : WorkflowDb), p w op → P db →
      Move (op.agent w) db db' → P db')
    (ops : List Operation) (hops : EveryStep p {} ops) :
    P (World.run ops).db ∧ Sound (World.run ops) := by
  refine hops.invariant (P := fun w => P w.db ∧ Sound w) ⟨hempty, sound_empty⟩ fun w op hop h => ?_
  refine ⟨?_, op.perform_sound h.2⟩
  exact (op.perform_moves h.2).invariant h.1 (hmove w op · · hop)

/-- **The invariant rule**: what the empty database satisfies, and every change keeps, holds of every
state that a run reaches. -/
theorem World.run_invariant {P : WorkflowDb → Prop} (hempty : P {})
    (hmove : ∀ (agent : Agent) (db db' : WorkflowDb), P db → Move agent db db' → P db')
    (ops : List Operation) : P (World.run ops).db ∧ Sound (World.run ops) :=
  World.run_invariant_of hempty (fun w op db db' _ => hmove (op.agent w) db db') ops
    (Lib.everyStep_true ops _)

end LibSeek.Workflow
