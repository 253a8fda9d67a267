/-
The audit, through every run.

Every call of the control plane and of the monitor keeps the audit in step with the rows.  So after
any list of calls a reader of the events alone knows where every request, every execution and every
download stands, and can read off their lifecycles what has happened to them.  A route that goes on
with a request as it no longer is writes an event that does not begin where the request stands.

Main definitions:

* `ControlPlane.runCallSteps` — the database after calls and routes that go on with their requests;
* `ControlPlane.executionCalls`, `ControlPlane.uncertainCalls`, `ControlPlane.failedCalls` — a
  request is approved and executed, and its torrent is reserved or refused;
* `ControlPlane.confirmedSteps` — the same in one route.

Main results:

* `ControlPlane.rows_follow_events` — **the rows stand where the events leave them**, and no event
  is ever taken back;
* `ControlPlane.execution_events` — what the events say of an execution;
* `ControlPlane.approval_events` — what the events say of a request;
* `ControlPlane.ended_stays` — what has come to an end stays there.
-/

import LibSeek.ControlPlane.AuditSteps
import LibSeek.ControlPlane.HeldRequests
import LibSeek.Services.DecisionEvidence
import LibSeek.Services.PreflightVerdicts
import LibSeek.Services.TorrentGuarantees

set_option relaxedAutoImplicit false
set_option autoImplicit false

namespace LibSeek.ControlPlane

open LibSeek.Core LibSeek.Lib LibSeek.Models LibSeek.Schemas LibSeek.Services LibSeek.Workers

/-! ### Calls -/

section Calls

variable [Python] [HexDigest] {db : Db}

omit [HexDigest] in
theorem logged_onApproval {α : Type} {approvalId : String} {call : ApprovalRequest → DbTx α}
    (h : ∀ a ∈ db.approvals, Throughout Logged (call a) (fun _ _ => True) db) :
    Throughout Logged (onApproval approvalId call) (fun _ _ => True) db := by
  refine (logged_getApprovalOr404 approvalId).bind fun a db' hread => ?_
  obtain ⟨rfl, ha⟩ := hread
  exact (h a ha).bind fun _ _ _ => throughout_pure trivial

omit [Python] [HexDigest] in
theorem logged_ignoring {α : Type} {call : DbTx α} {Q : α → Db → Prop}
    (h : Throughout Logged call Q db) : Throughout Logged (ignoring call) (fun _ _ => True) db :=
  h.bind fun _ _ _ => throughout_pure trivial

/-- **What a call commits** is a sequence of changes that the audit allows. -/
theorem Operation.logged (op : Operation) : Lib.Moves Logged db (op.commit db) := by
  cases op with
  | getCurrentPolicy => exact (logged_ignoring (logged_getCurrentPolicy ..)).commitIf
  | publishPolicyRevision => exact (logged_ignoring (logged_publishPolicyRevision ..)).commitIf
  | recordStageDecision => exact (logged_ignoring (logged_recordStageDecision ..)).commitIf
  | createApprovalRequest => exact (logged_ignoring (logged_createApprovalRequest ..)).commitIf
  | getOrCreatePendingApprovalRequest =>
      exact (logged_ignoring (logged_getOrCreatePendingApprovalRequest ..)).commitIf
  | requirePendingApproval =>
      exact (logged_onApproval fun a ha =>
        (logged_requirePendingApproval ha _).mono fun _ _ _ => trivial).commitIf
  | savePreflightResult approvalId =>
      refine (logged_ignoring (Q := fun _ _ => True) ?_).commitIf
      refine (logged_getApprovalOr404 approvalId).bind fun a db' hread => ?_
      obtain ⟨rfl, ha⟩ := hread
      exact logged_liftApp fun _ _ => logged_liftApp fun _ _ =>
        (logged_savePreflightResult ha ..).bind fun _ _ _ => throughout_pure trivial
  | approveRequest =>
      exact (logged_onApproval fun a ha =>
        (logged_approveRequest ha ..).mono fun _ _ _ => trivial).commitIf
  | approveRequestAutomatically =>
      exact (logged_onApproval fun a ha => logged_approveRequestAutomatically ha ..).commitIf
  | rejectRequest => exact (logged_onApproval fun a ha => logged_rejectRequest ha ..).commitIf
  | revokeRequest => exact (logged_onApproval fun a ha => logged_revokeRequest ha ..).commitIf
  | createExecutionIntent => exact (logged_ignoring (logged_createExecutionIntent ..)).commitIf
  | executeApprovedPlan => exact (logged_ignoring (logged_executeApprovedPlan ..)).commitIf
  | maybeCreateAutomaticExecution =>
      exact (logged_onApproval fun a _ => logged_maybeCreateAutomaticExecution ..).commitIf
  | requestReconciliation => exact (logged_ignoring (logged_requestReconciliation ..)).commitIf
  | claimNextExecution => exact (logged_ignoring (logged_claimNextExecution ..)).commitIf
  | renewLease => exact (logged_ignoring (logged_renewLease _)).commitIf
  | recoverStaleExecutions => exact (logged_ignoring (logged_recoverStaleExecutions ..)).commitIf
  | ensureExternalActionAllowed =>
      exact (logged_ignoring (logged_ensureExternalActionAllowed ..)).commitIf
  | reserveSubmission => exact (logged_ignoring (logged_reserveSubmission ..)).commitIf
  | finalizeDownloadSubmission =>
      -- the one call that raises between a row and its event, and it is rolled back where it does
      refine Tx.commitIf_wp ((wp_ignoring _).mpr (Tx.wp_mono
        (logged_finalizeDownloadSubmission ..) (fun _ _ h => h.1) fun _ _ _ hkeep => ?_)) .refl
      cases hkeep
  | markValidationFailure => exact (logged_markValidationFailure ..).commitIf
  | markReservedFailure => exact (logged_markReservedFailure ..).commitIf

/-- The monitor writes a row with the event of its change. -/
theorem Call.logged (call : Call) : Lib.Moves Logged db (call.commit db) := by
  cases call with
  | control op => exact op.logged
  | observe jobId observed path actor now =>
      refine Tx.commitIf_wp (P := fun db' => Lib.Moves Logged db db') ?_ .refl
      refine Tx.wp_mono (wp_updateDownloadJobObservation ..) (fun row db' h => ?_)
        fun _ _ _ hkeep => by cases hkeep
      obtain ⟨job, hget, hrow, -, rfl⟩ := h
      have hjob := Table.mem_of_get?_eq_some hget
      refine .single (.ofWithJob hjob (observedRow_keeps hrow).1.id _ _ fun hsilent => ?_)
      exact not_not.mp (of_decide_eq_false hsilent)
  | monitorError jobId errorCode errorMessage actor =>
      refine Tx.commitIf_wp (P := fun db' => Lib.Moves Logged db db') ?_ .refl
      simp only [recordDownloadJobMonitorError, Tx.wp_bind, Tx.wp_pure]
      refine Tx.wp_mono (wp_getDownloadJob jobId) (fun job db' hget => ?_)
        fun _ _ _ hkeep => by cases hkeep
      obtain ⟨rfl, hget⟩ := hget
      refine Tx.wp_mono (wp_writeJob ..) (fun _ db'' h => ?_) fun _ _ _ hkeep => by cases hkeep
      obtain ⟨-, rfl⟩ := h
      refine .single (.ofWithJob (Table.mem_of_get?_eq_some hget)
        (sameBinding_monitorErrorRow job errorCode errorMessage).id _ _ fun hsilent => ?_)
      -- the same error is silent, and the row of it stands at `ERROR` already
      exact (not_not.mp (of_decide_eq_false hsilent)).1.symm

/-- Every call keeps the audit in step. -/
theorem audited_runCalls (calls : List Call) : Audited (runCalls calls) := by
  induction calls using List.reverseRecOn with
  | nil => exact audited_initial
  | append_singleton calls call ih =>
      rw [runCalls_append]
      exact call.logged.invariant ih fun _ _ h hstep => hstep.audited h

/-- The database after a list of steps whose calls are those of the control plane and of the
monitor. -/
def runCallSteps (steps : List (Step Call)) : Db :=
  (Served.run Call.commit steps).db

theorem runCallSteps_eq {steps : List (Step Call)} (h : HeldAsRead Call.commit steps) :
    runCallSteps steps = runCalls (callsOf .control steps) := by
  have hcontrol : ∀ op, Call.commit (.control op) = op.commit := fun _ => rfl
  exact Served.run_db hcontrol h

/-- No call takes an event back. -/
theorem prefixes_runCalls (calls later : List Call) :
    Prefixes (runCalls calls) (runCalls (calls ++ later)) := by
  induction later using List.reverseRecOn with
  | nil =>
      rw [List.append_nil]
      exact .refl _
  | append_singleton later call ih =>
      rw [← List.append_assoc, runCalls_append]
      exact call.logged.invariant ih fun _ _ h hstep => h.trans hstep.prefixes

/-! ### A run -/

section Sample

/-- Settings under which an executor runs. -/
def executorSettings : Settings :=
  { cleanSettings with
    enableDownloadExecutionControlPlane := true
    enableDownloadExecutor := true
    enableAvistazTorrentFetch := true
    enableQbWrite := true }

/-- A candidate on its site. -/
def listedCandidate : TorrentCandidate where
  siteId := "avistaz"
  torrentId := "1"
  releaseTitle := "Media 2020"
  detailsRef := "avistaz:torrent:1"
  mediaType := .movie
  tmdbId := some 1
  imdbId := none
  year := none
  season := none
  episodes := none
  collectionType := none
  resolution := none
  source := none
  audio := none
  subtitles := none
  sizeBytes := some 1
  seeders := some 5
  downloadFactor := none
  uploadFactor := none
  hitAndRun := none
  infoHash := some "b7000cf73b0b3f7ad2687fa4d8141a953d543098"
  matchScore := some 1

/-- The rows that the candidate was stored in. -/
def listedRows : CandidateRows where
  record := some
    { candidateSnapshot := some listedCandidate, matchScore := 1, matchReasons := [], warnings := [] }
  media := some
    { id := "media-1", title := "Media", mediaType := .movie, tmdbId := some 1, year := some 2020 }

/-- The candidate is requested, approved and executed. -/
def executionCalls : List Operation :=
  [.createApprovalRequest "candidate-1" listedRows {} executorSettings "operator" (rowId 1) 0,
    .savePreflightResult (rowId 1).text cleanReplies executorSettings "operator" 1 1,
    .approveRequest (rowId 1).text
      { acknowledgesHnr := true, acknowledgesSeeding := true, acknowledgesPlanOnly := true }
      executorSettings "admin" (rowId 2) 2,
    .createExecutionIntent (rowId 1).text {} executorSettings "admin" (rowId 3)
      "secretsecretsecretsecretsecret" 3,
    .executeApprovedPlan (rowId 1).text
      { intentId := (rowId 3).text, nonce := "ei1_secretsecretsecretsecretsecret" }
      "keykeykeykeykeykeykey" executorSettings "admin" (rowId 4) 4 (true, true)]

/-- The same where one route makes all the calls but the first: its session holds the request, and goes
on with it after the downloader has answered. -/
def confirmedSteps : List (Step Operation) :=
  (executionCalls.take 1).map .call ++ .hold 0 (rowId 1).text ::
    (executionCalls.drop 1).map (.goOn 0)

/-- The executor. -/
def sampleExecutor : DownloadExecutor where
  workerId := "worker"
  settings := executorSettings
  workerId_bounds := by decide

/-- The claim that the executor of the sample makes. -/
def sampleClaim : ExecutionClaim :=
  { executionId := (rowId 4).text, leaseToken := (rowId 7).text }

/-- The execution is claimed, its torrent is reserved, and what became of it is unknown. -/
def uncertainCalls : List Call :=
  executionCalls.map .control ++
    [.control (.claimNextExecution sampleExecutor (rowId 7) 5 fun _ => false),
      .control (.reserveSubmission sampleExecutor sampleClaim versionMetadata (5, 5, 5)),
      .control (.markReservedFailure sampleExecutor sampleClaim
        { errorCode := "QBITTORRENT_REQUEST_FAILED", message := "" } true 6)]

/-- The execution is claimed, and its torrent is not valid. -/
def failedCalls : List Call :=
  executionCalls.map .control ++
    [.control (.claimNextExecution sampleExecutor (rowId 7) 5 fun _ => false),
      .control (.markValidationFailure sampleExecutor sampleClaim
        { errorCode := "INVALID_TORRENT", message := "" } 6)]

end Sample

/-! ### What the events say -/

/-- **The rows stand where the events leave them**, after every list of steps that find the requests
as their sessions hold them: each event begins where the earlier ones left its row and follows the
lifecycle, the last one leads to where the row stands, and the events stay what they are whatever
such steps follow. -/
theorem rows_follow_events (steps later : List (Step Call))
    (hread : HeldAsRead Call.commit (steps ++ later)) :
    Audited (runCallSteps steps) ∧
      Prefixes (runCallSteps steps) (runCallSteps (steps ++ later)) := by
  rw [runCallSteps_eq hread, runCallSteps_eq hread.left, callsOf_append]
  exact ⟨audited_runCalls _, prefixes_runCalls _ _⟩

omit [Python] [HexDigest] in
/-- The rows of the request that one route approves and executes stand where its events leave them. -/
theorem rows_follow_events_sample :
    Audited (@runCallSteps asciiPython zeroHexDigest (confirmedSteps.map (.map .control))) :=
  (@rows_follow_events asciiPython zeroHexDigest (confirmedSteps.map (.map .control)) []
    (by decide +kernel)).1

/-- **What the events say of an execution**: it was claimed as often as its attempts say, its torrent
was reserved at most once, and once exactly if it is reserved or was cancelled after that. -/
theorem execution_events (calls : List Call) {e : DownloadExecution}
    (he : e ∈ (runCalls calls).executions) :
    arrivals (executionTrail (runCalls calls)) .validating e.id = e.attempts ∧
      e.attempts ≤ e.maxAttempts ∧
      entries (executionTrail (runCalls calls)) .submitting e.id ≤ 1 ∧
      (e.status.isReserved = true →
        entries (executionTrail (runCalls calls)) .submitting e.id = 1) ∧
      (entries (executionTrail (runCalls calls)) .submitting e.id = 1 →
        e.status.isReserved = true ∨ e.status = .cancelled) := by
  have haudited := audited_runCalls calls
  have hbounds := ((monitored_runCalls calls).executions e he).checks.attempts
  have hstands := haudited.executions.standing_of_mem he
  obtain ⟨honce, hbehind⟩ := haudited.executions.unbroken.entered (s := .submitting)
    (fun s => s.isReserved = true ∨ s = .cancelled) (Or.inl rfl)
    (fun s s' => by cases s <;> cases s' <;> decide) (fun s => by cases s <;> decide) e.id
  refine ⟨haudited.attempts e he, hbounds.2, honce, fun hreserved => ?_, fun hentered => ?_⟩
  · exact Nat.le_antisymm honce (haudited.executions.unbroken.gate
      (fun s => s.isReserved = true) (by decide)
      (fun s s' => by cases s <;> cases s' <;> decide) hstands hreserved)
  · obtain ⟨s, hs, hreserved⟩ := hbehind (by rw [hentered]; exact Nat.one_pos)
    obtain rfl := Option.some.inj (hstands.symm.trans hs)
    exact hreserved

omit [Python] [HexDigest] in
/-- The execution whose outcome is unknown was claimed once, and its torrent was reserved once. -/
theorem execution_events_sample :
    ∃ e ∈ (@runCalls asciiPython zeroHexDigest uncertainCalls).executions,
      e.status = .outcomeUnknown ∧
      arrivals (executionTrail (@runCalls asciiPython zeroHexDigest uncertainCalls)) .validating
        e.id = 1 ∧
      entries (executionTrail (@runCalls asciiPython zeroHexDigest uncertainCalls)) .submitting
        e.id = 1 := by
  have hany : (@runCalls asciiPython zeroHexDigest uncertainCalls).executions.rows.any
      (fun e => e.status = .outcomeUnknown ∧ e.attempts = 1) = true := by decide +kernel
  obtain ⟨e, hrow, hstatus⟩ := List.any_eq_true.mp hany
  obtain ⟨hunknown, hattempts⟩ := of_decide_eq_true hstatus
  have he := Table.mem_rows.mp hrow
  have h := @execution_events asciiPython zeroHexDigest uncertainCalls e he
  exact ⟨e, he, hunknown, h.1.trans hattempts, h.2.2.2.1 (by rw [hunknown]; rfl)⟩

/-- **What the events say of a request**: it was approved at most once and reserved at most once, and
they say so of every request that has got so far. -/
theorem approval_events (calls : List Call) {a : ApprovalRequest}
    (ha : a ∈ (runCalls calls).approvals) :
    entries (approvalTrail (runCalls calls)) .approved a.id ≤ 1 ∧
      entries (approvalTrail (runCalls calls)) .executing a.id ≤ 1 ∧
      (hasPlan a.status = true → entries (approvalTrail (runCalls calls)) .approved a.id = 1) ∧
      (a.status = .executing ∨ a.status = .consumed →
        entries (approvalTrail (runCalls calls)) .executing a.id = 1) ∧
      (a.status = .pending ∨ a.status = .rejected →
        entries (approvalTrail (runCalls calls)) .approved a.id = 0) := by
  have hmirrors := (audited_runCalls calls).approvals
  have hstands := hmirrors.standing_of_mem ha
  obtain ⟨happroved, hbehind⟩ := hmirrors.unbroken.entered (s := .approved)
    (fun s => s ≠ .pending ∧ s ≠ .rejected) (by decide)
    (fun s s' => by cases s <;> cases s' <;> decide) (fun s => by cases s <;> decide) a.id
  obtain ⟨hexecuting, -⟩ := hmirrors.unbroken.entered (s := .executing)
    (fun s => s = .executing ∨ s = .consumed ∨ s = .revoked) (by decide)
    (fun s s' => by cases s <;> cases s' <;> decide) (fun s => by cases s <;> decide) a.id
  refine ⟨happroved, hexecuting, fun hplan => ?_, fun hgot => ?_, fun hnot => ?_⟩
  · exact Nat.le_antisymm happroved (hmirrors.unbroken.gate
      (fun s => hasPlan s = true) (by decide)
      (fun s s' => by cases s <;> cases s' <;> decide) hstands hplan)
  · exact Nat.le_antisymm hexecuting (hmirrors.unbroken.gate
      (fun s => s = .executing ∨ s = .consumed) (by decide)
      (fun s s' => by cases s <;> cases s' <;> decide) hstands hgot)
  · refine Nat.eq_zero_of_not_pos fun hpos => ?_
    obtain ⟨s, hs, hbeyond⟩ := hbehind hpos
    obtain rfl := Option.some.inj (hstands.symm.trans hs)
    rcases hnot with h | h
    · exact hbeyond.1 h
    · exact hbeyond.2 h

omit [Python] [HexDigest] in
/-- The request of that execution was approved once and reserved once. -/
theorem approval_events_sample :
    ∃ a ∈ (@runCalls asciiPython zeroHexDigest uncertainCalls).approvals,
      entries (approvalTrail (@runCalls asciiPython zeroHexDigest uncertainCalls)) .approved
        a.id = 1 ∧
      entries (approvalTrail (@runCalls asciiPython zeroHexDigest uncertainCalls)) .executing
        a.id = 1 := by
  have hany : (@runCalls asciiPython zeroHexDigest uncertainCalls).approvals.rows.any
      (fun a => a.status = .executing) = true := by decide +kernel
  obtain ⟨a, hrow, hstatus⟩ := List.any_eq_true.mp hany
  have hexecuting := of_decide_eq_true hstatus
  have ha := Table.mem_rows.mp hrow
  have h := @approval_events asciiPython zeroHexDigest uncertainCalls a ha
  exact ⟨a, ha, h.2.2.1 (by rw [hexecuting]; rfl), h.2.2.2.1 (Or.inl hexecuting)⟩

/-- **What has come to an end stays there**, whatever steps follow that find the requests as their
sessions hold them. -/
theorem ended_stays (steps later : List (Step Call))
    (hread : HeldAsRead Call.commit (steps ++ later)) :
    (∀ e ∈ (runCallSteps steps).executions, executionSuccessors e.status = [] →
      ∃ e' ∈ (runCallSteps (steps ++ later)).executions, e'.id = e.id ∧ e'.status = e.status) ∧
    (∀ a ∈ (runCallSteps steps).approvals, approvalSuccessors a.status ⊆ [a.status] →
      ∃ a' ∈ (runCallSteps (steps ++ later)).approvals, a'.id = a.id ∧ a'.status = a.status) := by
  rw [runCallSteps_eq hread, runCallSteps_eq hread.left, callsOf_append]
  have hearlier := audited_runCalls (callsOf .control steps)
  have hlater := audited_runCalls (callsOf .control steps ++ callsOf .control later)
  have hprefixes := prefixes_runCalls (callsOf .control steps) (callsOf .control later)
  refine ⟨fun e he hended => ?_, fun a ha hended => ?_⟩
  · refine hearlier.executions.stays hlater.executions (hprefixes.executions.map _) he fun s hedge => ?_
    change s ∈ executionSuccessors e.status at hedge
    rw [hended] at hedge
    cases hedge
  · exact hearlier.approvals.stays hlater.approvals (hprefixes.approvals.map _) ha fun s hedge =>
      List.mem_singleton.mp (hended hedge)

omit [Python] [HexDigest] in
/-- The execution that failed stays so, although the request is revoked. -/
theorem ended_stays_sample :
    ∃ e ∈ (@runCallSteps asciiPython zeroHexDigest (failedCalls.map .call ++
      [.call (.control (.revokeRequest (rowId 1).text none "admin" 7))])).executions,
      e.status = .failed := by
  have hany : (@runCallSteps asciiPython zeroHexDigest (failedCalls.map .call)).executions.rows.any
      (fun e => e.status = .failed) = true := by decide +kernel
  obtain ⟨e, hrow, hstatus⟩ := List.any_eq_true.mp hany
  have hfailed := of_decide_eq_true hstatus
  obtain ⟨e', he', -, hsame⟩ := (@ended_stays asciiPython zeroHexDigest (failedCalls.map .call)
    [.call (.control (.revokeRequest (rowId 1).text none "admin" 7))] (by decide +kernel)).1 e
    (Table.mem_rows.mp hrow) (by rw [hfailed]; rfl)
  exact ⟨e', he', hsame.trans hfailed⟩

end Calls

end LibSeek.ControlPlane
