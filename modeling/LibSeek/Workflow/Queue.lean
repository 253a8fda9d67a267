/-
The queue of the workers.

A job waits, is claimed under a lease, and is finished or waits again; a lease that has expired can
be taken over.  This module says what each of these steps does to the row of the job, and to the
matches that it brings.

Main definitions:

* `Workflow.JobSound` — what holds of the row of a job;
* `Workflow.broughtBy`, `Workflow.Brought` — the matches that a job has brought;
* `Workflow.Due` — the job that a claim takes.

Main results:

* `Workflow.WorkStep.jobs`, `Workflow.WorkStep.finished`, `Workflow.WorkStep.brought` — what is done
  to a job keeps the rows sound, leaves alone what is finished, and brings its matches once;
* `Workflow.wp_claimJob` — **a claim**, which never raises.
-/

import LibSeek.Workflow.QueueMoves

set_option relaxedAutoImplicit false
set_option autoImplicit false

namespace LibSeek.Workflow

open LibSeek.Core LibSeek.Lib LibSeek.Models LibSeek.Schemas LibSeek.Services LibSeek.Workers

/-! ### Rows -/

/-- What holds of the row of a job: it has a lease while it is running, a time to wait for while it
waits to be tried again, and an attempt left while it waits at all. -/
structure JobSound (job : Job) : Prop where
  maxAttempts : 1 ≤ job.maxAttempts
  attempts : job.attempts ≤ job.maxAttempts
  pending : job.status = .pending → job.attempts = 0
  running : job.status = .running → 1 ≤ job.attempts
  retryWait : job.status = .retryWait → 1 ≤ job.attempts ∧ job.attempts < job.maxAttempts
  nextRetryAt : job.nextRetryAt.isSome = true ↔ job.status = .retryWait
  lockedAt : job.lockedAt.isSome = true ↔ job.status = .running
  lockedBy : job.lockedBy.isSome = true ↔ job.status = .running
  leaseToken : job.leaseToken.isSome = true ↔ job.status = .running

section Rows

variable {job : Job}

theorem NewJob.sound (h : NewJob job) : JobSound job := by
  obtain ⟨hlockedAt, hlockedBy, hleaseToken⟩ := h.lease
  exact
    { maxAttempts := h.maxAttempts
      attempts := by rw [h.attempts]; exact Nat.zero_le _
      pending := fun _ => h.attempts
      running := fun hs => by rw [h.status] at hs; cases hs
      retryWait := fun hs => by rw [h.status] at hs; cases hs
      nextRetryAt := by simp [h.nextRetryAt, h.status]
      lockedAt := by simp [hlockedAt, h.status]
      lockedBy := by simp [hlockedBy, h.status]
      leaseToken := by simp [hleaseToken, h.status] }

/-- The row of a job that is claimed. -/
theorem JobSound.claimed (h : JobSound job) (p : JobProcessor) (leaseToken : Uuid) (now : DateTime)
    (hattempts : job.attempts < job.maxAttempts) :
    JobSound (claimedJob p leaseToken now job) where
  maxAttempts := h.maxAttempts
  attempts := hattempts
  pending hs := by cases hs
  running _ := Nat.le_add_left 1 job.attempts
  retryWait hs := by cases hs
  nextRetryAt := by simp [claimedJob]
  lockedAt := by simp [claimedJob]
  lockedBy := by simp [claimedJob]
  leaseToken := by simp [claimedJob]

/-- The row of a job whose lease is given up, in a state without one. -/
theorem JobSound.released (h : JobSound job) {job' : Job}
    (hmax : job'.maxAttempts = job.maxAttempts) (hattempts : job'.attempts = job.attempts)
    (hlease : job'.lockedAt = none ∧ job'.lockedBy = none ∧ job'.leaseToken = none)
    (hstatus : job'.status ≠ .pending ∧ job'.status ≠ .running)
    (hretry : job'.status = .retryWait → 1 ≤ job.attempts ∧ job.attempts < job.maxAttempts)
    (hnext : job'.nextRetryAt.isSome = true ↔ job'.status = .retryWait) : JobSound job' where
  maxAttempts := hmax ▸ h.maxAttempts
  attempts := by rw [hmax, hattempts]; exact h.attempts
  pending hs := absurd hs hstatus.1
  running hs := absurd hs hstatus.2
  retryWait hs := by rw [hmax, hattempts]; exact hretry hs
  nextRetryAt := hnext
  lockedAt := by simp [hlease.1, hstatus.2]
  lockedBy := by simp [hlease.2.1, hstatus.2]
  leaseToken := by simp [hlease.2.2, hstatus.2]

theorem JobSound.cancelled (h : JobSound job) : JobSound (cancelledJob job) :=
  h.released rfl rfl ⟨rfl, rfl, rfl⟩ (by simp [cancelledJob]) (fun hs => by cases hs)
    (by simp [cancelledJob])

theorem JobSound.succeeded (h : JobSound job) (hrunning : job.status = .running) :
    JobSound (succeededJob job) := by
  have hnone : job.nextRetryAt.isSome ≠ true := fun hsome => by
    rw [h.nextRetryAt, hrunning] at hsome
    cases hsome
  exact h.released rfl rfl ⟨rfl, rfl, rfl⟩ (by simp [succeededJob]) (fun hs => by cases hs)
    ⟨fun hsome => absurd hsome hnone, fun hs => by cases hs⟩

theorem JobSound.failed (h : JobSound job) (hrunning : job.status = .running) (error : AppError)
    (now : DateTime) : JobSound (failedJob job error now) := by
  unfold failedJob
  cases hretried : isRetried job error with
  | false =>
      exact h.released rfl rfl ⟨rfl, rfl, rfl⟩ (by simp) (fun hs => by simp at hs) (by simp)
  | true =>
      have hleft : job.attempts < job.maxAttempts := by
        unfold isRetried at hretried
        simp only [Bool.and_eq_true, decide_eq_true_iff] at hretried
        exact hretried.2
      exact h.released rfl rfl ⟨rfl, rfl, rfl⟩ (by simp) (fun _ => ⟨h.running hrunning, hleft⟩)
        (by simp)

end Rows

/-! ### What is done to a job -/

section WorkSteps

variable [WorkflowRuntime] {w w' : Work}

/-- What is done to a job keeps the rows sound. -/
theorem WorkStep.jobs (h : WorkStep w w') (hs : ∀ job ∈ w.queue, JobSound job) :
    ∀ job ∈ w'.queue, JobSound job := by
  cases h with
  | queued hnew hjob => exact Table.forall_mem_save hs hjob.sound
  | renewed hrow hrunning =>
      have hold := hs _ hrow
      exact Table.forall_mem_save hs { hold with lockedAt := by simp [hrunning] }
  | noted hrow hactive =>
      have hold := hs _ hrow
      exact Table.forall_mem_save hs { hold with }
  | succeeded hrow hrunning => exact Table.forall_mem_save hs ((hs _ hrow).succeeded hrunning)
  | failed hrow hrunning => exact Table.forall_mem_save hs ((hs _ hrow).failed hrunning _ _)
  | cancelled hrow hactive => exact Table.forall_mem_save hs (hs _ hrow).cancelled
  | resolved hrow hrunning hranking hfound =>
      exact Table.forall_mem_save hs ((hs _ hrow).succeeded hrunning)

omit [WorkflowRuntime] in
/-- A job that is finished is not one that is active. -/
theorem mem_save_of_finished {queue : Table Job} {row row' job : Job} (hrow : row ∈ queue)
    (hid : row'.id = row.id) (hactive : isActiveJob row.status = true) (hjob : job ∈ queue)
    (hfinished : isActiveJob job.status = false) : job ∈ queue.save row' := by
  refine Table.mem_save_of_ne hjob fun hkey => ?_
  rw [Table.eq_of_key_eq hjob hrow (hkey.trans hid), hactive] at hfinished
  cases hfinished

/-- **What is finished is left as it is.** -/
theorem WorkStep.finished (h : WorkStep w w') {job : Job} (hjob : job ∈ w.queue)
    (hfinished : isActiveJob job.status = false) : job ∈ w'.queue := by
  have hactive : ∀ {row : Job}, row.status = .running → isActiveJob row.status = true :=
    fun hrunning => by rw [hrunning]; rfl
  cases h with
  | queued hnew => exact Table.mem_save_of_ne hjob (Table.get?_eq_none.mp hnew job hjob)
  | renewed hrow hrunning => exact mem_save_of_finished hrow rfl (hactive hrunning) hjob hfinished
  | noted hrow hactive => exact mem_save_of_finished hrow rfl hactive hjob hfinished
  | succeeded hrow hrunning => exact mem_save_of_finished hrow rfl (hactive hrunning) hjob hfinished
  | failed hrow hrunning => exact mem_save_of_finished hrow rfl (hactive hrunning) hjob hfinished
  | cancelled hrow hactive => exact mem_save_of_finished hrow rfl hactive hjob hfinished
  | resolved hrow hrunning => exact mem_save_of_finished hrow rfl (hactive hrunning) hjob hfinished

end WorkSteps

/-! ### Matches -/

/-- The matches that a job has brought. -/
def broughtBy (found : Table MetadataMatch) (jobId : String) : List MetadataMatch :=
  found.rows.filter fun one => one.resolutionJobId = some jobId

section Matches

variable [WorkflowRuntime] {w w' : Work}

omit [WorkflowRuntime] in
/-- The matches that are stored for a job name that job. -/
theorem resolutionJobId_of_mem_storedMatches {mediaId jobId : String} {newId : ℕ → Uuid}
    {now : DateTime} {ranked : List (MetadataRecord × MetadataMatchScore)} {one : MetadataMatch}
    (h : one ∈ storedMatches mediaId jobId newId now ranked) : one.resolutionJobId = some jobId := by
  obtain ⟨i, hi, rfl⟩ := List.mem_mapIdx.mp h
  rfl

/-- The matches of a resolution name its job. -/
theorem Ranking.resolutionJobId {jobId : String} {stored : List MetadataMatch}
    (h : Ranking jobId stored) : ∀ one ∈ stored, one.resolutionJobId = some jobId := by
  obtain ⟨media, candidates, newId, now, rfl⟩ := h
  exact fun one hone => resolutionJobId_of_mem_storedMatches hone

/-- What the jobs have brought: what there is was brought by a job that succeeded, in one go. -/
structure Brought (w : Work) : Prop where
  succeeded : ∀ one ∈ w.found, ∃ row ∈ w.queue, one.resolutionJobId = some row.id ∧
    row.status = .succeeded
  ranking : ∀ jobId, broughtBy w.found jobId = [] ∨ Ranking jobId (broughtBy w.found jobId)

/-- The job that has brought something is finished. -/
theorem Brought.eq_nil (h : Brought w) {row : Job} (hrow : row ∈ w.queue)
    (hrunning : row.status ≠ .succeeded) : broughtBy w.found row.id = [] := by
  refine List.filter_eq_nil_iff.mpr fun one hone hid => ?_
  obtain ⟨other, hother, hjobId, hsucceeded⟩ := h.succeeded one hone
  rw [of_decide_eq_true hid] at hjobId
  rw [Table.eq_of_key_eq hrow hother (Option.some.inj hjobId)] at hrunning
  exact hrunning hsucceeded

omit [WorkflowRuntime] in
/-- What was brought by one job is brought by no other one. -/
theorem broughtBy_append {found found' : Table MetadataMatch} {stored : List MetadataMatch}
    {jobId jobId' : String} (hfound : found'.rows = found.rows ++ stored)
    (hstored : ∀ one ∈ stored, one.resolutionJobId = some jobId) :
    broughtBy found' jobId' =
      broughtBy found jobId' ++ if jobId' = jobId then stored else [] := by
  unfold broughtBy
  rw [hfound, List.filter_append]
  congr 1
  split
  · rename_i heq
    rw [heq]
    exact List.filter_eq_self.mpr fun one hone => decide_eq_true (hstored one hone)
  · rename_i hne
    refine List.filter_eq_nil_iff.mpr fun one hone hid => hne ?_
    exact Option.some.inj ((of_decide_eq_true hid).symm.trans (hstored one hone))

/-- What is done to a job keeps what the jobs have brought. -/
theorem WorkStep.brought (h : WorkStep w w') (hs : Brought w) : Brought w' := by
  have hkept : ∀ {queue : Table Job}, (∀ row ∈ w.queue, isActiveJob row.status = false →
      row ∈ queue) → ∀ one ∈ w.found, ∃ row ∈ queue, one.resolutionJobId = some row.id ∧
        row.status = .succeeded := by
    intro queue hqueue one hone
    obtain ⟨row, hrow, hid, hsucceeded⟩ := hs.succeeded one hone
    exact ⟨row, hqueue row hrow (by rw [hsucceeded]; rfl), hid, hsucceeded⟩
  have hfinished : ∀ row ∈ w.queue, isActiveJob row.status = false → row ∈ w'.queue :=
    fun _ hrow => h.finished hrow
  cases h with
  | @resolved row stored found hrow hrunning hranking hfound =>
      have hnames := hranking.resolutionJobId
      refine ⟨fun one hone => ?_, fun jobId => ?_⟩
      · rw [← Table.mem_rows, hfound, List.mem_append] at hone
        rcases hone with hold | hnew
        · exact hkept hfinished one hold
        · exact ⟨succeededJob row, Table.mem_save_self _ _, hnames one hnew, rfl⟩
      · change broughtBy found jobId = [] ∨ Ranking jobId (broughtBy found jobId)
        rw [broughtBy_append hfound hnames]
        split
        · rename_i heq
          rw [heq, hs.eq_nil hrow (by rw [hrunning]; decide)]
          exact Or.inr hranking
        · rw [List.append_nil]
          exact hs.ranking jobId
  | _ => exact ⟨hkept hfinished, hs.ranking⟩

/-- What a job that is finished has brought stays as it is. -/
theorem WorkStep.broughtBy_eq (h : WorkStep w w') {job : Job} (hjob : job ∈ w.queue)
    (hfinished : isActiveJob job.status = false) :
    broughtBy w'.found job.id = broughtBy w.found job.id := by
  cases h with
  | @resolved row stored found hrow hrunning hranking hfound =>
      refine (broughtBy_append hfound hranking.resolutionJobId).trans ?_
      rw [if_neg, List.append_nil]
      intro hid
      rw [Table.eq_of_key_eq hjob hrow hid, hrunning] at hfinished
      cases hfinished
  | _ => rfl

end Matches

/-! ### Claims -/

section Claims

variable {w : World} {db : WorkflowDb}

/-- The older of two jobs, if there are two; the first one where they are as old. -/
def older (best : Option Job) (job : Job) : Option Job :=
  match best with
  | none => some job
  | some b => if job.createdAt < b.createdAt then some job else some b

/-- The oldest of some jobs is the oldest of all. -/
theorem oldestJob_le {jobs : List Job} {job : Job} (h : oldestJob jobs = some job) :
    ∀ other ∈ jobs, job.createdAt ≤ other.createdAt := by
  suffices hfold : ∀ (jobs : List Job) (best : Option Job),
      jobs.foldl older best = some job →
      (∀ b, best = some b → job.createdAt ≤ b.createdAt) ∧
        ∀ other ∈ jobs, job.createdAt ≤ other.createdAt from (hfold jobs none h).2
  intro jobs
  induction jobs with
  | nil =>
      intro best hbest
      exact ⟨fun b hb => le_of_eq (congrArg Job.createdAt (Option.some.inj (hbest.symm.trans hb))),
        fun other hother => absurd hother List.not_mem_nil⟩
  | cons first rest ih =>
      intro best hbest
      obtain ⟨hfirst, hrest⟩ := ih _ hbest
      cases best with
      | none =>
          exact ⟨fun b hb => absurd hb.symm (Option.some_ne_none b),
            List.forall_mem_cons.mpr ⟨hfirst first rfl, hrest⟩⟩
      | some b =>
          simp only [older] at hfirst
          split at hfirst
          · rename_i hlt
            have hle := hfirst first rfl
            refine ⟨fun b' hb' => ?_, List.forall_mem_cons.mpr ⟨hle, hrest⟩⟩
            obtain rfl := Option.some.inj hb'
            exact hle.trans hlt.le
          · rename_i hnot
            have hle := hfirst b rfl
            refine ⟨fun b' hb' => ?_, List.forall_mem_cons.mpr ⟨hle.trans (not_lt.mp hnot), hrest⟩⟩
            obtain rfl := Option.some.inj hb'
            exact hle

/-- Among some jobs there is an oldest one. -/
theorem eq_nil_of_oldestJob {jobs : List Job} (h : oldestJob jobs = none) : jobs = [] := by
  have hsome : ∀ (jobs : List Job) (b : Job), jobs.foldl older (some b) ≠ none := by
    intro jobs
    induction jobs with
    | nil => exact fun b => Option.some_ne_none b
    | cons first rest ih =>
        intro b
        rw [List.foldl_cons]
        simp only [older]
        split
        · exact ih first
        · exact ih b
  cases jobs with
  | nil => rfl
  | cons first rest => exact absurd h (hsome rest first)

/-- The job that a claim takes: the oldest one that is due and not locked. -/
structure Due (p : JobProcessor) (now : DateTime) (locked : String → Bool) (queue : Table Job)
    (row : Job) : Prop where
  mem : row ∈ queue
  claimable : claimable p now row = true
  unlocked : locked row.id = false
  oldest : ∀ other ∈ queue, Workers.claimable p now other = true → locked other.id = false →
    row.createdAt ≤ other.createdAt

/-- The run of a search that is claimed is none of the queue. -/
theorem wp_startSearchRun (job : Job) (now : DateTime) :
    Tx.wp (startSearchRun job now) (fun _ db' => workOf db' = workOf db) (fun _ _ => False)
      db := by
  unfold startSearchRun
  refine (Tx.wp_bind _ _).mpr ((Tx.wp_get _).mpr ?_)
  split
  · exact (Tx.wp_pure _).mpr rfl
  · rename_i run _
    refine (Tx.wp_bind _ _).mpr ((Tx.wp_modify _ _).mpr ?_)
    cases hmedia : searchedMedia db job with
    | none => exact (Tx.wp_pure _).mpr rfl
    | some media =>
        -- the row of the media item that was found is still there
        have hrow : db.media.get? media.id = some media := by
          unfold searchedMedia at hmedia
          split at hmedia
          · obtain ⟨mediaId, -, hget⟩ := Option.bind_eq_some_iff.mp hmedia
            exact (mem_of_get? hget).2 ▸ hget
          · cases hmedia
        unfold refreshSearched refreshMediaSearchWorkflowStatus lockMedia
        simp only [Tx.wp_bind, Tx.wp_get, Tx.wp_ofOption, hrow, Option.some.injEq, forall_eq',
          reduceCtorEq, false_implies, and_true]
        split <;> rfl

/-- **A claim**: where nothing is due it does nothing, and it never raises. -/
theorem wp_claimJob (p : JobProcessor) (leaseToken : Uuid) (now : DateTime)
    (locked : String → Bool) :
    Tx.wp (claimJob p leaseToken now locked)
      (fun claimed db' =>
        (claimed = none ∧ db' = db ∧
          ∀ job ∈ db.queue, locked job.id = false → claimable p now job = false) ∨
        ∃ row, Due p now locked db.queue row ∧ claimed = some (claimedJob p leaseToken now row) ∧
          workOf db' = { workOf db with
            queue := db.queue.save (claimedJob p leaseToken now row) })
      (fun _ _ => False) db := by
  unfold claimJob
  refine (Tx.wp_bind _ _).mpr ((Tx.wp_get _).mpr ?_)
  cases holdest : oldestJob (db.queue.rows.filter
      fun job => claimable p now job && !locked job.id) with
  | none =>
      refine (Tx.wp_pure _).mpr (Or.inl ⟨rfl, rfl, fun job hjob hunlocked => ?_⟩)
      have hnot := List.filter_eq_nil_iff.mp (eq_nil_of_oldestJob holdest) job hjob
      rw [hunlocked, Bool.not_false, Bool.and_true] at hnot
      exact Bool.not_eq_true _ ▸ hnot
  | some row =>
      obtain ⟨hrow, hdue⟩ := List.mem_filter.mp (oldestJob_mem holdest)
      rw [Bool.and_eq_true, Bool.not_eq_true'] at hdue
      have hrow' : Due p now locked db.queue row := by
        refine ⟨hrow, hdue.1, hdue.2, fun other hother hclaimable hunlocked => ?_⟩
        refine oldestJob_le holdest other (List.mem_filter.mpr ⟨hother, ?_⟩)
        rw [hclaimable, hunlocked]
        rfl
      simp only [saveQueuedJob, Tx.wp_bind, Tx.wp_modify, Tx.wp_pure]
      refine wp_startDiscoveryRun fun discoveryRuns audit => ?_
      refine Tx.wp_mono (wp_startSearchRun _ _) (fun _ db' heq => ?_) fun _ _ => id
      exact Or.inr ⟨row, hrow', rfl, heq⟩

variable [WorkflowRuntime]

/-- What a claim does to a world. -/
theorem perform_claimJob (w : World) (p : JobProcessor) (leaseToken : Uuid) (now : DateTime)
    (locked : String → Bool) :
    (((Operation.claimJob p leaseToken now locked).perform w).claims = w.claims ∧
      ((Operation.claimJob p leaseToken now locked).perform w).db = w.db ∧
      ∀ job ∈ w.db.queue, locked job.id = false → claimable p now job = false) ∨
    ∃ row, Due p now locked w.db.queue row ∧
      ((Operation.claimJob p leaseToken now locked).perform w).claims =
        claimedJob p leaseToken now row :: w.claims ∧
      workOf ((Operation.claimJob p leaseToken now locked).perform w).db =
        { workOf w.db with queue := w.db.queue.save (claimedJob p leaseToken now row) } := by
  have hwp := @wp_claimJob w.db p leaseToken now locked
  rcases Tx.commit_wp_eq hwp with ⟨claimed, db', heq, hclaimed⟩ | ⟨_, _, _, hfalse⟩
  · unfold Operation.perform Operation.body
    rw [heq]
    rcases hclaimed with ⟨rfl, rfl, hnone⟩ | ⟨row, hrow, rfl, hwork⟩
    · exact Or.inl ⟨rfl, rfl, hnone⟩
    · exact Or.inr ⟨row, hrow, rfl, hwork⟩
  · exact hfalse.elim

end Claims

end LibSeek.Workflow
