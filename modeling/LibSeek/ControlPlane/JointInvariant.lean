/-
Executions, requests and jobs, over every run.

The invariant of the control plane, read off for one execution: its row satisfies the constraints of
its table, its request and its job are in the states that its own state says, its lease stands
exactly while it is being validated or submitted, and it can be claimed while it waits for a claim.

All this holds wherever the routes go on with their requests as they are.  One that goes on with what
its session has read before may let a request expire that is executing by now.

Main definitions:

* `ControlPlane.JointlySound` — what holds of an execution with its request and its job;
* `ControlPlane.overtakenSteps` — a run in which a request is executed while a route waits for the
  downloader.

Main results:

* `ControlPlane.jointlySound_run` — **it holds of every execution after every run** whose steps find
  the requests as their sessions hold them, and a request that is executing is neither revoked by its
  user nor does it expire;
* `ControlPlane.overtaken_expiry_unsound` — it does not hold after every run.
-/

import LibSeek.ControlPlane.AuditRuns
import LibSeek.ControlPlane.HeldRequests
import LibSeek.ControlPlane.RowRuns

set_option relaxedAutoImplicit false
set_option autoImplicit false

namespace LibSeek.ControlPlane

open LibSeek.Core LibSeek.Lib LibSeek.Models LibSeek.Schemas LibSeek.Services LibSeek.Workers

/-- The columns that the reservation of a torrent writes are all there. -/
structure ReservedBundle (e : DownloadExecution) : Prop where
  hash : e.actualInfoHash ≠ none
  versions : e.actualInfoHashV1 ≠ none ∨ e.actualInfoHashV2 ≠ none
  size : ∃ n, e.actualSizeBytes = some n ∧ 0 < n
  files : ∃ n, e.actualFileCount = some n ∧ 0 < n
  validated : e.validatedAt ≠ none
  submitted : e.submittedAt ≠ none

/-- The job of an execution is the only one that refers to it. -/
def HasOneJob (s : Tables) (e : DownloadExecution) : Prop :=
  ∃ j ∈ s.jobs, j.executionId = e.id ∧ ∀ j' ∈ s.jobs, j'.executionId = e.id → j' = j

/-- What holds of an execution with its request and its job. -/
structure JointlySound (s : Tables) (e : DownloadExecution) : Prop where
  checks : e.SatisfiesChecks
  /-- From the reservation on, and until the outcome is known, the request is executing. -/
  reserved : e.status = .submitting ∨ e.status = .outcomeUnknown ∨
      e.status = .reconciliationRequired ∨ e.status = .reconciliationPending →
    (∃ a ∈ s.approvals, a.id = e.approvalId ∧ a.status = .executing) ∧ ReservedBundle e
  /-- The torrent was seen exactly where one job refers to the execution. -/
  verified : e.status = .submitted ∨ e.status = .alreadyPresent ↔ HasOneJob s e
  consumed : e.status = .submitted ∨ e.status = .alreadyPresent →
    (∃ a ∈ s.approvals, a.id = e.approvalId ∧ a.status = .consumed) ∧ e.verifiedAt ≠ none
  /-- The columns of the lease are set together, in the two states that hold one. -/
  leased : if e.status = .validating ∨ e.status = .submitting then
      e.lockedAt ≠ none ∧ e.lockedBy ≠ none ∧ e.leaseToken ≠ none
    else e.lockedAt = none ∧ e.lockedBy = none ∧ e.leaseToken = none
  attempts : e.attempts ≤ e.maxAttempts
  claimable : e.status = .pending ∨ e.status = .retryWait → e.attempts < e.maxAttempts

theorem isVerified_iff {status : DownloadExecutionStatus} :
    status.isVerified = true ↔ status = .submitted ∨ status = .alreadyPresent := by
  cases status <;> simp [DownloadExecutionStatus.isVerified]

theorem isLeased_iff {status : DownloadExecutionStatus} :
    status.isLeased = true ↔ status = .validating ∨ status = .submitting := by
  cases status <;> simp [DownloadExecutionStatus.isLeased]

/-- The bundle of a reserved execution, from the constraints. -/
theorem reservedBundle {e : DownloadExecution} (h : e.SatisfiesChecks)
    (hreserved : e.status.isReserved = true) : ReservedBundle e := by
  have hhash : e.actualInfoHash ≠ none := by
    rcases h.submission_metadata with hcancelled | hiff
    · rw [hcancelled] at hreserved
      cases hreserved
    · exact hiff.mp hreserved
  rcases h.validation_bundle with ⟨hnone, -⟩ | ⟨-, hversions, hsize, hfiles, hvalidated, hsubmitted⟩
  · exact absurd hnone hhash
  · exact ⟨hhash, hversions, hsize, hfiles, hvalidated, hsubmitted⟩

/-- The columns of the lease, from the constraints. -/
theorem leaseColumns {e : DownloadExecution} (h : e.SatisfiesChecks) :
    if e.status = .validating ∨ e.status = .submitting then
      e.lockedAt ≠ none ∧ e.lockedBy ≠ none ∧ e.leaseToken ≠ none
    else e.lockedAt = none ∧ e.lockedBy = none ∧ e.leaseToken = none := by
  have hiff : e.status = .validating ∨ e.status = .submitting ↔ e.lockedAt ≠ none :=
    isLeased_iff.symm.trans h.lease_status
  split
  · rename_i hleased
    exact h.lease_fields.resolve_left fun hnone => hiff.mp hleased hnone.1
  · rename_i hnot
    exact h.lease_fields.resolve_right fun hsome => hnot (hiff.mpr hsome.1)

variable [Python]

/-- **What the invariant says of an execution** with its request and its job. -/
theorem Invariant.jointlySound {s : Tables} (hs : Invariant s) {e : DownloadExecution}
    (he : e ∈ s.executions) : JointlySound s e := by
  have hc := (hs.executions e he).checks
  obtain ⟨a, ha, hid⟩ := hs.approval_of he
  have hagree := hs.agree e he a ha hid
  exact
    { checks := hc
      reserved := by
        intro hstatus
        have hreserved : e.status.isReserved = true := by
          rcases hstatus with h | h | h | h <;> rw [h] <;> rfl
        have hunverified : e.status.isVerified = false := by
          rcases hstatus with h | h | h | h <;> rw [h] <;> rfl
        exact ⟨⟨a, ha, hid, hagree.executing hreserved hunverified⟩, reservedBundle hc hreserved⟩
      verified := by
        rw [← isVerified_iff, hs.verified e he]
        constructor
        · rintro ⟨j, hj, hjid⟩
          exact ⟨j, hj, hjid, fun j' hj' hjid' => hs.job_unique j' hj' j hj (hjid'.trans hjid.symm)⟩
        · rintro ⟨j, hj, hjid, -⟩
          exact ⟨j, hj, hjid⟩
      consumed := by
        intro hstatus
        have hverified := isVerified_iff.mpr hstatus
        exact ⟨⟨a, ha, hid, hagree.consumed hverified⟩, hc.verified_status.mp hverified⟩
      leased := leaseColumns hc
      attempts := hc.attempts.2
      claimable := (hs.executions e he).claimable }

variable [HexDigest]

/-- What a call does to a request that is executing. -/
theorem Operation.executing {db : Db} (hs : Invariant db.toTables) (op : Operation)
    {a : ApprovalRequest} (ha : a ∈ db.approvals) (hstatus : a.status = .executing) :
    ∃ a' ∈ (op.commit db).approvals, a'.id = a.id ∧ StaysExecuting op.licence a a' := by
  cases h : op.approval? with
  | none => exact (op.effects hs.bindings h).executing ha hstatus
  | some decision =>
      obtain ⟨approvalId, given, settings, now⟩ := decision
      rcases Operation.approves db h with heff | ⟨b, request, plan, -, -, happroved⟩
      · exact heff.weaken.executing ha hstatus
      · exact ⟨a, happroved.mem_of_ne ha (by rw [hstatus]; decide), rfl, Or.inl rfl⟩

/-- The licence of a step is that of its call. -/
def Step.licence (step : Step Operation) : Licence :=
  (step.call? id).elim .none Operation.licence

/-- A user's revocation leaves a request that is executing as it is. -/
theorem mem_commit_revokeRequest {db : Db} {a : ApprovalRequest} (ha : a ∈ db.approvals)
    (hstatus : a.status = .executing) (approvalId : String) (reason : Option String)
    (actor : String) (now : DateTime) :
    a ∈ ((Operation.revokeRequest approvalId reason actor now).commit db).approvals := by
  refine Tx.commitIf_wp (P := fun db' : Db => a ∈ db'.approvals) ?_ ha
  exact wp_onApproval (fun b hb _ => Tx.wp_mono
    (wp_revokeRequest_executing hb ha hstatus reason actor now) (fun _ _ h => h) fun _ _ h _ => h)
    fun _ _ => ha

/-- **Executions, requests and jobs agree after every run** whose steps find the requests as their
sessions hold them: every execution satisfies its constraints and agrees with its request and its job,
and whatever such a step follows, a request that is executing stays so, or is consumed, or is revoked
by the guard of the executor that cancels its execution; its user's revocation leaves it as it is. -/
theorem jointlySound_run (steps : List (Step Operation))
    (hread : HeldAsRead Operation.commit steps) :
    (∀ e ∈ (runSteps steps).executions, JointlySound (runSteps steps).toTables e) ∧
    ∀ step, (Served.run Operation.commit steps).asRead step →
      ∀ a ∈ (runSteps steps).approvals, a.status = .executing →
        (∃ a' ∈ ((Served.run Operation.commit steps).act Operation.commit step).db.approvals,
          a'.id = a.id ∧ StaysExecuting step.licence a a') ∧
        ∀ approvalId reason actor now, step = .call (.revokeRequest approvalId reason actor now) →
          a ∈ ((Served.run Operation.commit steps).act Operation.commit step).db.approvals := by
  have hs : Invariant (runSteps steps).toTables := by
    rw [runSteps_eq hread]
    exact invariant_run _
  refine ⟨fun e he => hs.jointlySound he, fun step hstep a ha hstatus => ⟨?_, ?_⟩⟩
  · have hact : ((Served.run Operation.commit steps).act Operation.commit step).db =
        (step.call? id).elim (runSteps steps) fun op => op.commit (runSteps steps) :=
      Served.act_db (fun _ => rfl) hstep
    rw [hact]
    unfold Step.licence
    cases step.call? id with
    | none => exact ⟨a, ha, rfl, Or.inl rfl⟩
    | some op => exact op.executing hs ha hstatus
  · rintro approvalId reason actor now rfl
    exact mem_commit_revokeRequest ha hstatus approvalId reason actor now

/-! ### An expiry that comes late -/

section Sample

/-- A request is created, and a route finds it pending and asks the downloader.  Meanwhile the request
is approved and executed, and its torrent is reserved.  When the downloader has answered, the request
of the route has expired. -/
def overtakenSteps : List (Step Operation) :=
  (executionCalls.take 1).map .call ++ [.hold 0 (rowId 1).text] ++
    (executionCalls.drop 1).map .call ++
    [.call (.claimNextExecution sampleExecutor (rowId 7) 5 fun _ => false),
      .call (.reserveSubmission sampleExecutor sampleClaim versionMetadata (5, 5, 5)),
      .goOn 0 (.requirePendingApproval (rowId 1).text (minutes 60))]

/-- The database of that run. -/
def overtakenDb : Db :=
  @runSteps asciiPython zeroHexDigest overtakenSteps

/-- The steps before the route goes on. -/
def beforehandSteps : List (Step Operation) :=
  overtakenSteps.dropLast

/-- The database then. -/
def beforehandDb : Db :=
  @runSteps asciiPython zeroHexDigest beforehandSteps

/-- What a step makes of it. -/
def afterStep (step : Step Operation) : Db :=
  (@Served.act asciiPython zeroHexDigest _ (@Operation.commit asciiPython zeroHexDigest)
    (@Served.run asciiPython zeroHexDigest _ (@Operation.commit asciiPython zeroHexDigest)
      beforehandSteps) step).db

omit [Python] [HexDigest] in
/-- Before the route goes on, the execution is being submitted, and its request is executing, which a
revocation leaves as it is. -/
theorem jointlySound_run_sample :
    (∃ e ∈ beforehandDb.executions, e.status = .submitting ∧
      JointlySound beforehandDb.toTables e) ∧
    ∃ a ∈ beforehandDb.approvals, a.status = .executing ∧
      a ∈ (afterStep (.call (.revokeRequest a.id none "operator" 6))).approvals := by
  have hsubmitting : beforehandDb.executions.rows.any (fun e => e.status = .submitting) = true := by
    decide +kernel
  have hexecuting : beforehandDb.approvals.rows.any (fun a => a.status = .executing) = true := by
    decide +kernel
  obtain ⟨e, he, hsubmitting⟩ := List.any_eq_true.mp hsubmitting
  obtain ⟨a, ha, hexecuting⟩ := List.any_eq_true.mp hexecuting
  have hrow : e ∈ beforehandDb.executions := Table.mem_rows.mp he
  have hrequest : a ∈ beforehandDb.approvals := Table.mem_rows.mp ha
  unfold beforehandDb at hrow hrequest ⊢
  unfold afterStep
  obtain ⟨hsound, hstays⟩ :=
    @jointlySound_run asciiPython zeroHexDigest beforehandSteps (by decide +kernel)
  have hrevoked := (hstays (.call (.revokeRequest a.id none "operator" 6)) trivial a hrequest
    (of_decide_eq_true hexecuting)).2 a.id none "operator" 6 rfl
  exact ⟨⟨e, hrow, of_decide_eq_true hsubmitting, hsound e hrow⟩, a, hrequest,
    of_decide_eq_true hexecuting, hrevoked⟩

omit [Python] [HexDigest] in
/-- The execution is being submitted, and its request has expired. -/
theorem overtaken_expiry_unsound :
    ¬ ∀ (python : Python) (hexDigest : HexDigest) (steps : List (Step Operation)),
      ∀ e ∈ (@runSteps python hexDigest steps).executions,
        JointlySound (@runSteps python hexDigest steps).toTables e := by
  intro h
  have hany : overtakenDb.executions.rows.any (fun e => e.status = .submitting) = true := by
    decide +kernel
  have hall : overtakenDb.approvals.rows.all (fun a => a.status = .expired) = true := by
    decide +kernel
  have hsound : ∀ e ∈ overtakenDb.executions, JointlySound overtakenDb.toTables e := by
    unfold overtakenDb
    exact h asciiPython zeroHexDigest overtakenSteps
  obtain ⟨e, hrow, hstatus⟩ := List.any_eq_true.mp hany
  obtain ⟨⟨a, ha, -, hexecuting⟩, -⟩ :=
    (hsound e (Table.mem_rows.mp hrow)).reserved (Or.inl (of_decide_eq_true hstatus))
  have hexpired := List.all_eq_true.mp hall a (Table.mem_rows.mpr ha)
  rw [hexecuting] at hexpired
  cases hexpired

end Sample

end LibSeek.ControlPlane
