/-
The monitor of the downloads.

The monitor reads, cycle after cycle, the next jobs after its cursor, asks the downloader for their
torrents, and writes what it has observed into the rows, each in a transaction of its own.  The
cursor is set to the last job of the batch when all of them are written, and begins again after the
last of the table.  An error of an observation is recorded in the row; an exception of a
transaction ends the cycle, with the cursor where it was.

Main definitions:

* `Workers.DownloadMonitor`, `Workers.DownloadMonitor.runOnce` — the monitor, and a cycle of it;
* `Workers.Cycle` — what a cycle leaves behind, and the jobs it has written;
* `Workers.DownloadMonitor.trace` — cycles one after another;
* `Workers.AllDated` — no cycle observes an undated completion.

Main results:

* `Workers.trace_processed` — **the cycles write the batches of the table one after another**;
* `Workers.runOnce_fair` — **the cycles of a round, wherever it begins, write every job once**.
-/

import LibSeek.Core.Ascii
import LibSeek.Lib.Rotation
import LibSeek.Services.DownloadMonitoring
import Mathlib.Data.Prod.Lex
import Mathlib.Data.String.Basic

set_option relaxedAutoImplicit false
set_option autoImplicit false

namespace LibSeek.Workers

open LibSeek.Core LibSeek.Lib LibSeek.Models LibSeek.Schemas LibSeek.Services

/-! ### The monitor -/

/-- The settings that the monitor reads. -/
structure MonitorSettings extends Settings where
  enableDownloadMonitor : Bool := false
  downloadMonitorBatchSize : ℕ := 100
  batchSize_bounds : 1 ≤ downloadMonitorBatchSize ∧ downloadMonitorBatchSize ≤ 500 := by decide

structure DownloadMonitor where
  monitorId : String
  settings : MonitorSettings
  cursor : Option (DateTime × String) := none

/-- The downloader and the clock in a cycle: whether the monitor is let in, the torrents of a list
of hashes, and the time at which a job is written. -/
structure Surroundings where
  authenticate : Except Exn Unit
  findTorrentsByHashes : List String → Except Exn (List QbTorrent)
  clock : String → DateTime

section Monitor

variable [Python]

/-- `require_download_monitor_enabled`, with the path that the rest of the cycle reads. -/
def requireDownloadMonitorEnabled (settings : MonitorSettings) : Except AppError String := do
  ensure (settings.enableDownloadMonitor = true ∧ settings.enableQbReadOnly = true)
    { errorCode := "DOWNLOAD_MONITOR_DISABLED"
      message := "下载监控默认关闭，且只允许在 qBittorrent 只读模式下启用", statusCode := 403 }
  let savePath ← orRaise (settings.qbTargetSavePath.filter isTargetValue)
    (conflict "DOWNLOAD_MONITOR_TARGET_NOT_CONFIGURED"
      "qBittorrent monitoring target is not configured")
  ensure (settings.qbAllowedSavePaths ≠ [] ∧
      isAllowedSavePath savePath settings.qbAllowedSavePaths = true)
    (conflict "DOWNLOAD_MONITOR_TARGET_NOT_ALLOWED"
      "qBittorrent monitoring target is outside the allowed save paths")
  return savePath

omit [Python] in
/-- Whether a job comes after a cursor, in the order in which the jobs are read. -/
def isAfter (cursor : DateTime × String) (job : DownloadJob) : Bool :=
  cursor.1 < job.createdAt || (job.createdAt = cursor.1 && cursor.2 < job.id)

/-- The order in which the jobs are read: by the time they were created, and by identifier. -/
def jobKey (job : DownloadJob) : DateTime ×ₗ String :=
  toLex (job.createdAt, job.id)

/-- `_next_jobs`. -/
def DownloadMonitor.nextJobs (m : DownloadMonitor) (db : Db) : List DownloadJob :=
  let jobs :=
    match m.cursor with
    | none => db.jobs.rows
    | some cursor => db.jobs.rows.filter (isAfter cursor)
  (jobs.insertionSort fun a b => jobKey a ≤ jobKey b).take m.settings.downloadMonitorBatchSize

/-- The jobs of a cycle: the next ones, or the first ones where there are none. -/
def DownloadMonitor.turn (m : DownloadMonitor) (db : Db) : DownloadMonitor × List DownloadJob :=
  match m.nextJobs db with
  | [] => ({ m with cursor := none }, { m with cursor := none }.nextJobs db)
  | job :: jobs => (m, job :: jobs)

/-- `_job_hashes`. -/
def jobHashes (job : DownloadJob) : List String :=
  (job.infoHashV1.toList ++ job.infoHashV2.toList).filter (· ≠ "") ++
    (job.infoHashV2.map (takeStr · 40)).toList

/-- `_job_observation`. -/
def jobObservation (job : DownloadJob) (observations : List QbTorrent) :
    Except AppError (Option QbTorrent) :=
  match observations.filter fun t => (jobHashes job).any (t.identityHashes.contains ·) with
  | [] => .ok none
  | [torrent] => .ok (some torrent)
  | torrents => .error
      { errorCode := "QB_INFO_HASH_AMBIGUOUS"
        message := "qBittorrent 返回多个匹配下载任务的观察结果", statusCode := 502
        details := [("match_count", .int torrents.length)] }

/-- Whether a text matches `_ERROR_CODE`. -/
def isErrorCode (code : String) : Bool :=
  match code.toList with
  | [] => false
  | c :: cs => c.isUpper && cs.all (fun d => d.isUpper || d.isDigit || d == '_') &&
      cs.length ≤ 79

/-- The transaction of a job: what was observed is written, or the error of the observation. -/
def monitorJob (monitorId expectedSavePath : String) (observations : List QbTorrent)
    (now : DateTime) (job : DownloadJob) : DbTx DownloadJob :=
  match jobObservation job observations with
  | .error e =>
      recordDownloadJobMonitorError job.id
        (if isErrorCode e.errorCode then e.errorCode else "DOWNLOAD_MONITOR_INTERNAL_ERROR")
        e.message monitorId
  | .ok observed => updateDownloadJobObservation job.id observed expectedSavePath monitorId now

/-- The loop over the jobs of a cycle: the identifiers of those that were written, and the
exception that has ended the loop, if there is one. -/
def monitorJobs (monitorId expectedSavePath : String) (observations : List QbTorrent)
    (clock : String → DateTime) :
    List DownloadJob → Db → List String × Except Exn Unit × Db
  | [], db => ([], .ok (), db)
  | job :: jobs, db =>
      match Tx.commit
          (monitorJob monitorId expectedSavePath observations (clock job.id) job) db with
      | (.error e, db') => ([], .error e, db')
      | (.ok _, db') =>
          let rest := monitorJobs monitorId expectedSavePath observations clock jobs db'
          (job.id :: rest.1, rest.2)

/-- What a cycle leaves behind: its value, the jobs it has written, the monitor and the database. -/
structure Cycle where
  result : Except Exn ℕ
  processed : List String
  monitor : DownloadMonitor
  db : Db

/-- The torrents of the jobs of a cycle. -/
def observeJobs (outside : Surroundings) (jobs : List DownloadJob) : Except Exn (List QbTorrent) := do
  outside.authenticate
  let hashes := (jobs.flatMap jobHashes).dedup.insertionSort (· ≤ ·)
  if hashes = [] then return [] else outside.findTorrentsByHashes hashes

/-- A cycle with a target. -/
def DownloadMonitor.runCycle (m : DownloadMonitor) (expectedSavePath : String)
    (outside : Surroundings) (db : Db) : Cycle :=
  let (m, jobs) := m.turn db
  match jobs.getLast? with
  | none => ⟨.ok 0, [], m, db⟩
  | some last =>
      match observeJobs outside jobs with
      | .error e => ⟨.error e, [], m, db⟩
      | .ok observations =>
          match monitorJobs m.monitorId expectedSavePath observations outside.clock jobs db with
          | (processed, .error e, db') => ⟨.error e, processed, m, db'⟩
          | (processed, .ok (), db') =>
              ⟨.ok processed.length, processed,
                { m with cursor := some (last.createdAt, last.id) }, db'⟩

/-- **`DownloadMonitor.run_once`.** -/
def DownloadMonitor.runOnce (m : DownloadMonitor) (outside : Surroundings) (db : Db) : Cycle :=
  match requireDownloadMonitorEnabled m.settings with
  | .error e => ⟨.error (.app e), [], m, db⟩
  | .ok expectedSavePath => m.runCycle expectedSavePath outside db

/-- Cycles one after another: the exception of a cycle does not end the monitor. -/
def DownloadMonitor.trace (m : DownloadMonitor) (db : Db) : List Surroundings → List Cycle
  | [] => []
  | outside :: later =>
      let cycle := m.runOnce outside db
      cycle :: cycle.monitor.trace cycle.db later

/-! ### The order of the jobs -/

variable {db db' : Db} {m : DownloadMonitor}

/-- The keys of the jobs, in the order in which they are read. -/
def jobKeys (db : Db) : List (DateTime ×ₗ String) :=
  (db.jobs.rows.map jobKey).insertionSort (· ≤ ·)

/-- The identifier of a key. -/
def keyId (key : DateTime ×ₗ String) : String :=
  (ofLex key).2

omit [Python] in
@[simp] theorem keyId_jobKey (job : DownloadJob) : keyId (jobKey job) = job.id :=
  rfl

omit [Python] in
theorem isAfter_iff {cursor : DateTime × String} {job : DownloadJob} :
    isAfter cursor job = true ↔ toLex cursor < jobKey job := by
  rw [isAfter, jobKey, Prod.Lex.toLex_lt_toLex, Bool.or_eq_true, Bool.and_eq_true,
    decide_eq_true_eq, decide_eq_true_eq, decide_eq_true_eq]
  exact or_congr_right (and_congr_left fun _ => eq_comm)

omit [Python] in
theorem perm_map_keyId_jobKeys : ((jobKeys db).map keyId).Perm (db.jobs.rows.map (·.id)) := by
  have hperm := (List.perm_insertionSort (· ≤ ·) (db.jobs.rows.map jobKey)).map keyId
  rwa [List.map_map] at hperm

omit [Python] in
/-- The keys are in strict order, since the identifiers of the rows are distinct. -/
theorem pairwise_jobKeys : (jobKeys db).Pairwise (· < ·) := by
  have hnodup : (jobKeys db).Nodup :=
    List.Nodup.of_map keyId (perm_map_keyId_jobKeys.nodup_iff.mpr db.jobs.nodup)
  exact (List.pairwise_insertionSort (· ≤ ·) _).imp₂ (fun _ _ hle hne => lt_of_le_of_ne hle hne)
    hnodup

omit [Python] in
/-- **The next jobs are those whose keys come after the cursor**, up to the size of a batch. -/
theorem map_jobKey_nextJobs (m : DownloadMonitor) (db : Db) :
    (m.nextJobs db).map jobKey =
      Rotation.window (jobKeys db) m.settings.downloadMonitorBatchSize (m.cursor.map toLex) := by
  have hsort : ∀ jobs : List DownloadJob,
      (jobs.insertionSort fun a b => jobKey a ≤ jobKey b).map jobKey =
        (jobs.map jobKey).insertionSort (· ≤ ·) :=
    fun jobs => List.map_insertionSort _ _ _ _ fun _ _ _ _ => Iff.rfl
  cases hcursor : m.cursor with
  | none =>
      simp only [DownloadMonitor.nextJobs, hcursor, Rotation.window, Rotation.after, jobKeys,
        Option.map_none, List.map_take, hsort]
  | some cursor =>
      simp only [DownloadMonitor.nextJobs, hcursor, Rotation.window, Rotation.after, jobKeys,
        Option.map_some, List.map_take, hsort]
      congr 1
      have hfilter : (db.jobs.rows.filter (isAfter cursor)).map jobKey =
          (db.jobs.rows.map jobKey).filter fun key => toLex cursor < key := by
        rw [List.filter_map]
        congr 2
        funext job
        rw [Function.comp_apply, Bool.eq_iff_iff, isAfter_iff, decide_eq_true_eq]
      rw [hfilter]
      refine List.Perm.eq_of_pairwise' (r := (· ≤ ·)) (List.pairwise_insertionSort _ _)
        ((List.pairwise_insertionSort _ _).filter _) ?_
      exact (List.perm_insertionSort _ _).trans ((List.perm_insertionSort _ _).symm.filter _)

omit [Python] in
theorem turn_spec (m : DownloadMonitor) (db : Db) :
    (m.turn db).2.map jobKey =
        Rotation.batch (jobKeys db) m.settings.downloadMonitorBatchSize (m.cursor.map toLex) ∧
      (m.turn db).1.settings = m.settings ∧
      ((m.turn db).2 = [] → (m.turn db).1.cursor = none) := by
  have hnext := map_jobKey_nextJobs m db
  have hfirst := map_jobKey_nextJobs { m with cursor := none } db
  rw [DownloadMonitor.turn, Rotation.batch, ← hnext]
  cases hjobs : m.nextJobs db with
  | nil => exact ⟨by rw [List.map_nil, if_pos rfl]; exact hfirst, rfl, fun _ => rfl⟩
  | cons job jobs =>
      refine ⟨?_, rfl, fun hnil => by cases hnil⟩
      rw [List.map_cons, if_neg (List.cons_ne_nil _ _)]

/-! ### The transaction of a job -/

/-- What is observed of a job is no undated completion that would complete it. -/
def JobDated (expectedSavePath : String) (observations : List QbTorrent) (job : DownloadJob) :
    Prop :=
  ∀ torrent, jobObservation job observations = .ok (some torrent) →
    ¬ (UndatedCompletion torrent ∧ ¬ HasDrifted job torrent expectedSavePath ∧
      job.completedAt = none)

omit [Python] in
theorem jobObservation_eq_some {job : DownloadJob} {observations : List QbTorrent}
    {torrent : QbTorrent} (h : jobObservation job observations = .ok (some torrent)) :
    ∃ hash ∈ jobHashes job, hash ∈ torrent.identityHashes := by
  unfold jobObservation at h
  split at h
  · cases h
  · next found hfound =>
      obtain rfl : found = torrent := Option.some.inj (Except.ok.inj h)
      have hmem : found ∈ observations.filter fun t =>
          (jobHashes job).any (t.identityHashes.contains ·) := by
        rw [hfound]
        exact List.mem_singleton_self found
      obtain ⟨hash, hhash, hin⟩ := List.any_eq_true.mp (List.mem_filter.mp hmem).2
      exact ⟨hash, hhash, List.contains_iff_mem.mp hin⟩
  · cases h

/-- The hashes of a row that satisfies its constraints are in lower case already. -/
theorem mem_jobIdentityHashes {job : DownloadJob} (hjob : job.SatisfiesChecks) {hash : String}
    (h : hash ∈ jobHashes job) : hash ∈ jobIdentityHashes job := by
  have hv1 : ∀ v ∈ job.infoHashV1, casefold v = v := by
    intro v hv
    have hshape := hjob.infoHashV1_shape
    rw [hv, portableHexCheck, List.any_cons, List.any_nil, Bool.or_false] at hshape
    exact casefold_of_isHex hshape
  have hv2 : ∀ v ∈ job.infoHashV2, Digest.isHex 64 v = true := by
    intro v hv
    have hshape := hjob.infoHashV2_shape
    rwa [hv, portableHexCheck, List.any_cons, List.any_nil, Bool.or_false] at hshape
  rw [jobHashes, List.mem_append] at h
  rw [jobIdentityHashes, List.mem_append]
  rcases h with h | h
  · refine Or.inl (List.mem_map.mpr ⟨hash, h, ?_⟩)
    rcases List.mem_append.mp (List.mem_filter.mp h).1 with hfirst | hsecond
    · exact hv1 hash (Option.mem_toList.mp hfirst)
    · exact casefold_of_isHex (hv2 hash (Option.mem_toList.mp hsecond))
  · obtain ⟨v, hv, rfl⟩ := Option.map_eq_some_iff.mp (Option.mem_toList.mp h)
    refine Or.inr (Option.mem_toList.mpr (Option.map_eq_some_iff.mpr ⟨v, hv, ?_⟩))
    refine casefold_eq_self fun c hc => char_of_isHex (hv2 v hv) c ?_
    rw [takeStr, String.toList_ofList] at hc
    exact List.mem_of_mem_take hc

/-- **The transaction of a job commits** if the observation of it is dated, and leaves every other
row alone. -/
theorem monitorJob_commits {expectedSavePath : String} (hpath : isTargetValue expectedSavePath = true)
    {job : DownloadJob} (hget : db.jobs.get? job.id = some job) (hjob : job.SatisfiesChecks)
    {observations : List QbTorrent} (hdated : JobDated expectedSavePath observations job)
    (monitorId : String) (now : DateTime) :
    ∃ row eventType recorded, SameBinding job row ∧ row.SatisfiesChecks ∧
      Tx.commit (monitorJob monitorId expectedSavePath observations now job) db =
        (.ok row, withJob db job row eventType monitorId recorded) := by
  cases hobserved : jobObservation job observations with
  | error e =>
      simp only [monitorJob, hobserved]
      rcases Tx.commit_wp_eq (wp_recordDownloadJobMonitorError job.id _ e.message monitorId)
        with ⟨row, db', hcommit, job', recorded, hjob', rfl, hchecks, rfl⟩ |
          ⟨e, -, -, hfailed⟩
      · obtain rfl := Option.some.inj (hget.symm.trans hjob')
        exact ⟨_, _, recorded, sameBinding_monitorErrorRow .., hchecks, hcommit⟩
      · exact absurd (monitorErrorRow_satisfiesChecks hjob _ _) (hfailed job hget)
  | ok observed =>
      simp only [monitorJob, hobserved]
      rcases Tx.commit_wp_eq
          (wp_updateDownloadJobObservation job.id observed expectedSavePath monitorId now)
        with ⟨row, db', hcommit, job', hjob', hrow, hchecks, rfl⟩ | ⟨e, -, -, hfailed⟩
      · obtain rfl := Option.some.inj (hget.symm.trans hjob')
        exact ⟨row, _, _, (observedRow_keeps hrow).1, hchecks, hcommit⟩
      · obtain ⟨row, hrow⟩ : ∃ row, observedRow job observed expectedSavePath now = .ok row := by
          cases observed with
          | none => exact ⟨_, rfl⟩
          | some torrent =>
              -- the torrent was found by a hash of the job
              obtain ⟨hash, hhash, hin⟩ := jobObservation_eq_some hobserved
              refine ⟨_, bind_eq_ok.mpr ⟨(), ensure_eq_ok.mpr ?_, rfl⟩⟩
              exact ⟨hash, mem_jobIdentityHashes hjob hhash, hin⟩
        have hchecks : row.SatisfiesChecks := by
          refine (observedRow_satisfiesChecks_iff hjob hrow).mpr fun torrent htorrent => ?_
          obtain rfl : observed = some torrent := htorrent
          exact hdated torrent hobserved
        exact absurd hchecks (hfailed job row hpath hget hrow).2

/-! ### The loop over the jobs of a cycle -/

/-- The rows of two databases have the same keys, and satisfy their constraints in the second. -/
structure Rewritten (db db' : Db) : Prop where
  keys : jobKeys db' = jobKeys db
  checks : ∀ j ∈ db'.jobs, j.SatisfiesChecks

omit [Python] in
theorem Rewritten.trans {db'' : Db} (h : Rewritten db db') (h' : Rewritten db' db'') :
    Rewritten db db'' :=
  ⟨h'.keys.trans h.keys, h'.checks⟩

theorem rewritten_withJob (hrows : ∀ j ∈ db.jobs, j.SatisfiesChecks) {job row : DownloadJob}
    (hget : db.jobs.get? job.id = some job) (hsame : SameBinding job row)
    (hchecks : row.SatisfiesChecks) (eventType actor : String) (recorded : Bool) :
    Rewritten db (withJob db job row eventType actor recorded) where
  keys := by
    have hkey : jobKey row = jobKey job := by rw [jobKey, jobKey, hsame.createdAt, hsame.id]
    rw [jobKeys, jobKeys]
    exact congrArg _ (Table.map_rows_save (Table.mem_of_get?_eq_some hget) hsame.id hkey)
  checks := Table.forall_mem_save hrows hchecks

/-- **The loop writes every job**, if the observations of them are dated. -/
theorem monitorJobs_spec {expectedSavePath : String} (hpath : isTargetValue expectedSavePath = true)
    {observations : List QbTorrent} (monitorId : String) (clock : String → DateTime)
    {jobs : List DownloadJob} (hnodup : (jobs.map (·.id)).Nodup)
    (hrows : ∀ j ∈ db.jobs, j.SatisfiesChecks) (hjobs : ∀ j ∈ jobs, db.jobs.get? j.id = some j)
    (hdated : ∀ j ∈ jobs, JobDated expectedSavePath observations j) :
    ∃ db', monitorJobs monitorId expectedSavePath observations clock jobs db =
        (jobs.map (·.id), .ok (), db') ∧ Rewritten db db' := by
  induction jobs generalizing db with
  | nil => exact ⟨db, rfl, rfl, hrows⟩
  | cons job jobs ih =>
      have hget := hjobs job List.mem_cons_self
      have hjob := hrows job (Table.mem_of_get?_eq_some hget)
      obtain ⟨row, eventType, recorded, hsame, hchecks, hcommit⟩ := monitorJob_commits hpath hget
        hjob (hdated job List.mem_cons_self) monitorId (clock job.id)
      have hwritten := rewritten_withJob hrows hget hsame hchecks eventType monitorId recorded
      rw [List.map_cons, List.nodup_cons] at hnodup
      -- the other jobs of the batch are as they were
      have hothers : ∀ j ∈ jobs,
          (withJob db job row eventType monitorId recorded).jobs.get? j.id = some j := by
        intro j hj
        have hne : j.id ≠ row.id := by
          rw [hsame.id]
          intro heq
          exact hnodup.1 (heq ▸ List.mem_map_of_mem hj)
        rw [withJob, Table.get?_save_of_ne _ hne]
        exact hjobs j (List.mem_cons_of_mem _ hj)
      obtain ⟨db', hloop, hrest⟩ := ih hnodup.2 hwritten.checks hothers
        fun j hj => hdated j (List.mem_cons_of_mem _ hj)
      refine ⟨db', ?_, hwritten.trans hrest⟩
      rw [monitorJobs, hcommit]
      simp only [hloop, List.map_cons]

/-! ### Cycles -/

theorem isTargetValue_of_enabled {settings : MonitorSettings} {expectedSavePath : String}
    (h : requireDownloadMonitorEnabled settings = .ok expectedSavePath) :
    isTargetValue expectedSavePath = true := by
  simp only [requireDownloadMonitorEnabled, bind_eq_ok, orRaise_eq_ok] at h
  obtain ⟨-, -, path, hpath, -, -, hsame⟩ := h
  obtain rfl := Except.ok.inj hsame
  exact (Option.filter_eq_some_iff.mp hpath).2

/-- The downloader answers in a cycle, and what it answers is dated for every job of it. -/
def CycleDated (expectedSavePath : String) (m : DownloadMonitor) (outside : Surroundings)
    (db : Db) : Prop :=
  ∃ observations, observeJobs outside (m.turn db).2 = .ok observations ∧
    ∀ job ∈ (m.turn db).2, JobDated expectedSavePath observations job

omit [Python] in
/-- The jobs of a cycle are rows, each of them once. -/
theorem turn_rows (m : DownloadMonitor) (db : Db) :
    ((m.turn db).2.map (·.id)).Nodup ∧ ∀ j ∈ (m.turn db).2, j ∈ db.jobs := by
  have hnext : ∀ m : DownloadMonitor,
      ((m.nextJobs db).map (·.id)).Nodup ∧ ∀ j ∈ m.nextJobs db, j ∈ db.jobs := by
    intro m
    have hselected : ∀ jobs : List DownloadJob, jobs.Sublist db.jobs.rows →
        (((jobs.insertionSort fun a b => jobKey a ≤ jobKey b).take
            m.settings.downloadMonitorBatchSize).map (·.id)).Nodup ∧
          ∀ j ∈ (jobs.insertionSort fun a b => jobKey a ≤ jobKey b).take
            m.settings.downloadMonitorBatchSize, j ∈ db.jobs := by
      intro jobs hjobs
      have hperm := List.perm_insertionSort (fun a b => jobKey a ≤ jobKey b) jobs
      constructor
      · have hids : (jobs.map (·.id)).Nodup := (hjobs.map _).nodup db.jobs.nodup
        rw [List.map_take]
        exact ((hperm.map _).nodup_iff.mpr hids).sublist (List.take_sublist _ _)
      · intro j hj
        exact hjobs.subset (hperm.mem_iff.mp (List.mem_of_mem_take hj))
    rw [DownloadMonitor.nextJobs]
    cases m.cursor with
    | none => exact hselected _ (List.Sublist.refl _)
    | some cursor => exact hselected _ List.filter_sublist
  rw [DownloadMonitor.turn]
  cases hjobs : m.nextJobs db with
  | nil => exact hnext _
  | cons job jobs =>
      have hfound := hnext m
      rwa [hjobs] at hfound

/-- **A cycle writes the batch after the cursor**, and moves the cursor to the end of it, if what
it observes is dated. -/
theorem runOnce_spec {expectedSavePath : String} {outside : Surroundings}
    (henabled : requireDownloadMonitorEnabled m.settings = .ok expectedSavePath)
    (hrows : ∀ j ∈ db.jobs, j.SatisfiesChecks)
    (hdated : CycleDated expectedSavePath m outside db) :
    (m.runOnce outside db).result = .ok (m.runOnce outside db).processed.length ∧
      (m.runOnce outside db).processed =
        (Rotation.batch (jobKeys db) m.settings.downloadMonitorBatchSize
          (m.cursor.map toLex)).map keyId ∧
      (m.runOnce outside db).monitor.settings = m.settings ∧
      (m.runOnce outside db).monitor.cursor.map toLex =
        Rotation.next (jobKeys db) m.settings.downloadMonitorBatchSize (m.cursor.map toLex) ∧
      Rewritten db (m.runOnce outside db).db := by
  obtain ⟨observations, hobserve, hjobs⟩ := hdated
  obtain ⟨hkeys, hsettings, hempty⟩ := turn_spec m db
  obtain ⟨hnodup, hmem⟩ := turn_rows m db
  rw [DownloadMonitor.runOnce, henabled]
  simp only [DownloadMonitor.runCycle]
  rw [Rotation.next, ← hkeys]
  cases hlast : (m.turn db).2.getLast? with
  | none =>
      have hnil := List.getLast?_eq_none_iff.mp hlast
      have hcursor := hempty hnil
      simp only [hnil, hsettings, hcursor]
      exact ⟨rfl, rfl, trivial, rfl, rfl, hrows⟩
  | some last =>
      obtain ⟨db', hloop, hwritten⟩ := monitorJobs_spec (isTargetValue_of_enabled henabled)
        (m.turn db).1.monitorId outside.clock hnodup hrows
        (fun j hj => Table.get?_key (hmem j hj)) hjobs
      simp only [hobserve, hloop, hsettings]
      refine ⟨trivial, ?_, trivial, ?_, hwritten⟩
      · rw [List.map_map]
        rfl
      · rw [List.getLast?_map, hlast]
        rfl

/-- No cycle of a list of them observes an undated completion. -/
def AllDated (expectedSavePath : String) : DownloadMonitor → Db → List Surroundings → Prop
  | _, _, [] => True
  | m, db, outside :: later =>
      CycleDated expectedSavePath m outside db ∧
        AllDated expectedSavePath (m.runOnce outside db).monitor (m.runOnce outside db).db later

/-- **The cycles write the batches of the table one after another.** -/
theorem trace_processed {expectedSavePath : String}
    (henabled : requireDownloadMonitorEnabled m.settings = .ok expectedSavePath)
    (hrows : ∀ j ∈ db.jobs, j.SatisfiesChecks) {t : ℕ}
    (hcursor : m.cursor.map toLex =
      Rotation.cursorAfter (jobKeys db) m.settings.downloadMonitorBatchSize t)
    {outside : List Surroundings} (hdated : AllDated expectedSavePath m db outside) :
    (m.trace db outside).map (fun cycle => (cycle.result, cycle.processed)) =
      (List.range outside.length).map fun i =>
        let batch := (Rotation.batchAt (jobKeys db) m.settings.downloadMonitorBatchSize
          (t + i)).map keyId
        (.ok batch.length, batch) := by
  induction outside generalizing m db t with
  | nil => rfl
  | cons outside later ih =>
      obtain ⟨hcycle, hlater⟩ := hdated
      obtain ⟨hresult, hprocessed, hsettings, hnext, hwritten⟩ := runOnce_spec henabled hrows hcycle
      have hcursor' : (m.runOnce outside db).monitor.cursor.map toLex =
          Rotation.cursorAfter (jobKeys (m.runOnce outside db).db)
            (m.runOnce outside db).monitor.settings.downloadMonitorBatchSize (t + 1) := by
        rw [hnext, hwritten.keys, hsettings, Rotation.cursorAfter, hcursor]
      have hrest := ih (hsettings ▸ henabled) hwritten.checks hcursor' hlater
      rw [DownloadMonitor.trace, List.map_cons, hrest, List.length_cons, List.range_succ_eq_map,
        List.map_cons, List.map_map, hwritten.keys, hsettings, hresult, hprocessed,
        Nat.add_zero, Rotation.batchAt, hcursor]
      congr 1
      refine List.map_congr_left fun i _ => ?_
      rw [Function.comp_apply, Nat.succ_eq_add_one, Nat.add_right_comm, Nat.add_assoc]

/-- **Fair and isolated monitoring.**  From the initial cursor, over a table that the monitor alone
writes, as long as no observation is an undated completion: every cycle succeeds, and the cycles of
a round, wherever it begins, write every job once, whatever else is observed. -/
theorem runOnce_fair {expectedSavePath : String} (m : DownloadMonitor) (db : Db)
    (outside : List Surroundings) (hinitial : m.cursor = none)
    (henabled : requireDownloadMonitorEnabled m.settings = .ok expectedSavePath)
    (hrows : ∀ j ∈ db.jobs, j.SatisfiesChecks) (hdated : AllDated expectedSavePath m db outside) :
    let batchSize := m.settings.downloadMonitorBatchSize
    let turns := (db.jobs.rows.length + batchSize - 1) / batchSize
    (∀ cycle ∈ m.trace db outside, cycle.result = .ok cycle.processed.length) ∧
      ∀ start, start + turns ≤ outside.length →
        ((((m.trace db outside).drop start).take turns).flatMap Cycle.processed).Perm
          (db.jobs.rows.map (·.id)) := by
  intro batchSize turns
  have hcursor : m.cursor.map toLex = Rotation.cursorAfter (jobKeys db) batchSize 0 := by
    rw [hinitial]
    rfl
  have htrace := trace_processed henabled hrows hcursor hdated
  constructor
  · intro cycle hcycle
    have hmem : (cycle.result, cycle.processed) ∈
        (m.trace db outside).map fun cycle => (cycle.result, cycle.processed) :=
      List.mem_map_of_mem hcycle
    rw [htrace] at hmem
    obtain ⟨i, -, hpair⟩ := List.mem_map.mp hmem
    obtain ⟨hresult, hprocessed⟩ := Prod.mk.inj hpair
    rw [← hresult, ← hprocessed]
  · intro start hstart
    -- the cycles of a round take the batches of the rotation in turn
    have hturns : Rotation.turns (jobKeys db) batchSize = turns := by
      rw [Rotation.turns, jobKeys, List.length_insertionSort, List.length_map]
    have hbatches : (m.trace db outside).map Cycle.processed =
        (List.range outside.length).map fun i =>
          (Rotation.batchAt (jobKeys db) batchSize i).map keyId := by
      have hsnd := congrArg (List.map Prod.snd) htrace
      rw [List.map_map, List.map_map] at hsnd
      simp only [Nat.zero_add] at hsnd
      exact hsnd
    have hrange : ((List.range outside.length).drop start).take turns =
        (List.range turns).map fun i => start + i := by
      refine List.ext_getElem ?_ fun i hi _ => ?_
      · simp only [List.length_take, List.length_drop, List.length_range, List.length_map]
        omega
      · simp
    have hround : ((((m.trace db outside).drop start).take turns).flatMap Cycle.processed) =
        ((List.range turns).flatMap fun i =>
          Rotation.batchAt (jobKeys db) batchSize (start + i)).map keyId := by
      rw [List.flatMap_def, List.map_take, List.map_drop, hbatches, ← List.map_drop,
        ← List.map_take, hrange, List.map_map, ← List.flatMap_def, List.map_flatMap]
      rfl
    rw [hround]
    have hperm := Rotation.perm_flatMap_batchAt (@pairwise_jobKeys db)
      m.settings.batchSize_bounds.1 start
    rw [hturns] at hperm
    exact (hperm.map keyId).trans perm_map_keyId_jobKeys

omit [Python] in
theorem jobObservation_mem {job : DownloadJob} {observations : List QbTorrent}
    {torrent : QbTorrent} (h : jobObservation job observations = .ok (some torrent)) :
    torrent ∈ observations := by
  unfold jobObservation at h
  split at h
  · cases h
  · next found hfound =>
      obtain rfl : found = torrent := Option.some.inj (Except.ok.inj h)
      have hmem : found ∈ observations.filter fun t =>
          (jobHashes job).any (t.identityHashes.contains ·) := by
        rw [hfound]
        exact List.mem_singleton_self found
      exact (List.mem_filter.mp hmem).1
  · cases h

/-- A downloader that answers, and calls no torrent completed without a time of completion. -/
def NamesTimes (outside : Surroundings) : Prop :=
  outside.authenticate = .ok () ∧ ∀ hashes, ∃ torrents,
    outside.findTorrentsByHashes hashes = .ok torrents ∧ ∀ t ∈ torrents, ¬ UndatedCompletion t

theorem NamesTimes.observed {outside : Surroundings} (h : NamesTimes outside)
    (jobs : List DownloadJob) :
    ∃ observations, observeJobs outside jobs = .ok observations ∧
      ∀ t ∈ observations, ¬ UndatedCompletion t := by
  obtain ⟨hauthenticate, hfind⟩ := h
  unfold observeJobs
  rw [hauthenticate]
  by_cases hhashes : (jobs.flatMap jobHashes).dedup.insertionSort (· ≤ ·) = []
  · exact ⟨[], by simp only [hhashes]; rfl, fun _ ht => absurd ht List.not_mem_nil⟩
  · obtain ⟨torrents, htorrents, hdated⟩ :=
      hfind ((jobs.flatMap jobHashes).dedup.insertionSort (· ≤ ·))
    refine ⟨torrents, ?_, hdated⟩
    simp only [bind, Except.bind, if_neg hhashes, htorrents]

/-- No cycle observes an undated completion where the downloader has none. -/
theorem allDated_of_namesTimes (expectedSavePath : String) {outside : List Surroundings}
    (h : ∀ o ∈ outside, NamesTimes o) (m : DownloadMonitor) (db : Db) :
    AllDated expectedSavePath m db outside := by
  induction outside generalizing m db with
  | nil => trivial
  | cons o later ih =>
      obtain ⟨observations, hobserve, hdated⟩ := (h o List.mem_cons_self).observed (m.turn db).2
      refine ⟨⟨observations, hobserve, fun job _ torrent htorrent hbad => ?_⟩,
        ih (fun p hp => h p (List.mem_cons_of_mem _ hp)) _ _⟩
      exact hdated torrent (jobObservation_mem htorrent) hbad.1

/-! ### A cycle that fails -/

/-- A cycle whose first job cannot be written leaves everything as it was. -/
theorem runOnce_stuck {expectedSavePath : String} {outside : Surroundings}
    (henabled : requireDownloadMonitorEnabled m.settings = .ok expectedSavePath)
    {job : DownloadJob} {jobs : List DownloadJob} (hjobs : m.nextJobs db = job :: jobs)
    {observations : List QbTorrent} (hobserve : observeJobs outside (job :: jobs) = .ok observations)
    {e : Exn} (hfails : (Tx.commit (monitorJob m.monitorId expectedSavePath observations
      (outside.clock job.id) job) db).1 = .error e) :
    m.runOnce outside db = ⟨.error e, [], m, db⟩ := by
  rcases hcommit : Tx.commit (monitorJob m.monitorId expectedSavePath observations
    (outside.clock job.id) job) db with ⟨outcome, staged⟩
  rw [hcommit] at hfails
  obtain rfl : outcome = .error e := hfails
  -- the transaction is rolled back
  have hsame : staged = db := by
    rcases Tx.commit_cases hcommit with ⟨row, hvalue, -⟩ | ⟨-, -, hsame⟩
    · cases hvalue
    · exact hsame
  rw [hsame] at hcommit
  have hturn : m.turn db = (m, job :: jobs) := by rw [DownloadMonitor.turn, hjobs]
  rw [DownloadMonitor.runOnce, henabled]
  simp only [DownloadMonitor.runCycle, hturn]
  rw [List.getLast?_cons]
  simp only [hobserve, monitorJobs, hcommit]

/-- **A cycle that leaves everything as it was is repeated for ever**, while the surroundings are
the same. -/
theorem trace_stuck {outside : Surroundings} {e : Exn}
    (h : m.runOnce outside db = ⟨.error e, [], m, db⟩) (n : ℕ) :
    m.trace db (List.replicate n outside) = List.replicate n ⟨.error e, [], m, db⟩ := by
  induction n with
  | zero => rfl
  | succ n ih => rw [List.replicate_succ, DownloadMonitor.trace, h, ih, List.replicate_succ]

end Monitor

/-! ### Two jobs, one at a time -/

/-- A monitor that reads one job in a cycle. -/
def narrowMonitor : DownloadMonitor where
  monitorId := "monitor"
  settings :=
    { enableDownloadMonitor := true
      enableQbReadOnly := true
      qbTargetSavePath := some "/downloads"
      qbAllowedSavePaths := ["/downloads"]
      downloadMonitorBatchSize := 1 }

/-- Two jobs that are being downloaded. -/
def twoJobs : Db :=
  { jobs := ((∅ : Table DownloadJob).save downloadingJob).save
      { downloadingJob with
        id := "j-2"
        executionId := "e-2"
        createdAt := 1
        infoHashV1 := some "bbbbbbbbbbbbbbbbbbbbbbbbbbbbbbbbbbbbbbbb" } }

/-- A downloader with one torrent. -/
def oneTorrent (torrent : QbTorrent) : Surroundings where
  authenticate := .ok ()
  findTorrentsByHashes _ := .ok [torrent]
  clock _ := 1

theorem runOnce_fair_two :
    let outside := [oneTorrent { undatedTorrent with state := "uploading" },
      oneTorrent { undatedTorrent with completionOn := 1 }]
    ((((@DownloadMonitor.trace asciiPython narrowMonitor twoJobs outside).drop 0).take 2).flatMap
      Cycle.processed).Perm (twoJobs.jobs.rows.map (·.id)) := by
  intro outside
  have hnames : ∀ o ∈ outside, @NamesTimes asciiPython o := by
    intro o ho
    have hone : ∀ torrent : QbTorrent, ¬ @UndatedCompletion asciiPython torrent →
        @NamesTimes asciiPython (oneTorrent torrent) := by
      refine fun torrent hdated => ⟨rfl, fun _ => ⟨[torrent], rfl, fun t ht => ?_⟩⟩
      rwa [List.mem_singleton.mp ht]
    rcases List.mem_cons.mp ho with rfl | ho
    · exact hone _ (by decide +kernel)
    · rw [List.mem_singleton.mp ho]
      exact hone _ (by decide +kernel)
  have hfair := @runOnce_fair asciiPython "/downloads" narrowMonitor twoJobs outside rfl
    (by decide +kernel) (by decide +kernel) (@allDated_of_namesTimes asciiPython _ _ hnames _ _)
  exact hfair.2 0 (by decide +kernel)

/-- One torrent that is an undated completion: its job cannot be written, and however many cycles
there are, each fails at it and neither job is ever written. -/
theorem undated_job_starves_others :
    ¬ ∃ n, ∃ cycle ∈ @DownloadMonitor.trace asciiPython narrowMonitor twoJobs
        (List.replicate n (oneTorrent undatedTorrent)),
      cycle.result ≠ .error .integrity ∨ cycle.processed ≠ [] := by
  have hstuck := @runOnce_stuck asciiPython twoJobs narrowMonitor "/downloads"
    (oneTorrent undatedTorrent) (by decide +kernel) downloadingJob [] (by decide +kernel)
    [undatedTorrent] (by decide +kernel) .integrity (by decide +kernel)
  rintro ⟨n, cycle, hcycle, hother⟩
  rw [@trace_stuck asciiPython twoJobs narrowMonitor _ .integrity hstuck n] at hcycle
  rw [List.eq_of_mem_replicate hcycle] at hother
  rcases hother with hresult | hprocessed
  · exact hresult rfl
  · exact hprocessed rfl

end LibSeek.Workers
