/-
The fences of an automatic execution.

An automatic execution may be submitted only while the policy that it was created under is still in
force.  The guard finds this out in a transaction of its own, between the reservation and the
write; a manual execution passes it whatever the policy says.

Main definitions:

* `Executor.Gates` — what a guard has seen of an automatic execution that it let pass;
* `Executor.Passed` — what a guard has seen of an execution in submission.

Main results:

* `Executor.wp_guardOfSubmission` — the guard of an execution in submission;
* `Executor.automation_fenced` — **every request that adds a torrent comes after such a guard**;
* `Executor.manual_never_fenced` — **no guard stops a manual execution in submission**.
-/

import LibSeek.Executor.Runs

set_option relaxedAutoImplicit false
set_option autoImplicit false

namespace LibSeek.Executor

open LibSeek.Core LibSeek.Lib LibSeek.Models LibSeek.Schemas LibSeek.Services LibSeek.Workers
open LibSeek.Adapters LibSeek.ControlPlane

variable [Python] {x : DownloadExecutor} {claim : ExecutionClaim} {db : Db}

/-! ### The guard of an execution in submission -/

/-- **What a guard has seen of an automatic execution** that it let pass: the launch mode, the three
switches, a known rule on hit and run, and that the policy of the execution is the current one and
lets executions be created automatically. -/
structure Gates (x : DownloadExecutor) (s : Tables) (e : DownloadExecution) : Prop where
  launchMode : e.launchMode = .addPaused
  automation : x.settings.enableAutomationEngine = true
  controlPlane : x.settings.enableDownloadExecutionControlPlane = true
  executor : x.settings.downloadExecutorEnabled = true
  hnr : ∃ a snapshot, s.approvals.get? e.approvalId = some a ∧ verifySnapshot a = .ok snapshot ∧
    (effectiveHnrRule snapshot.siteId snapshot.hitAndRun).known = true
  policy : ∃ head revision, s.head = some head ∧
    s.revisions.get? head.currentRevisionId = some revision ∧
    e.automationPolicyRevisionId = some revision.id ∧
    stageMode revision .execution = .autoIfEligible

omit [Python] in
/-- The policy that is read is the one the head points to, or one that was just bootstrapped, which
does nothing automatically. -/
theorem wp_getCurrentPolicy_head (newId : Uuid) (now : DateTime) :
    Tx.wp (getCurrentPolicy newId now)
      (fun r _ => (∃ head, db.head = some head ∧
        db.revisions.get? head.currentRevisionId = some r.2) ∨ stageMode r.2 .execution = .manual)
      (fun _ _ => True) db := by
  simp only [getCurrentPolicy, Tx.wp_bind, Tx.wp_get]
  cases hhead : db.head with
  | none =>
      simp only [bootstrapPolicy, saveRevision, Tx.wp_bind, Tx.wp_get, wp_requireApp, Tx.wp_modify,
        Tx.wp_pure]
      exact ⟨fun _ => Or.inr rfl, fun _ => trivial⟩
  | some head =>
      simp only [bindHead, Tx.wp_bind, Tx.wp_get, Tx.wp_ofOption, wp_liftApp, wp_requireApp,
        Tx.wp_pure]
      exact ⟨fun current hcurrent => ⟨fun _ _ => ⟨fun _ => Or.inl ⟨head, rfl, hcurrent⟩,
        fun _ => trivial⟩, fun _ _ => trivial⟩, fun _ => trivial⟩

/-- **The fence of an automatic execution**: it finds nothing only where all gates are open. -/
theorem wp_automationFenceError_gates (e : DownloadExecution) (newId : Uuid) (now : DateTime) :
    Tx.wp (automationFenceError x e (db.approvals.get? e.approvalId) newId now)
      (fun r db' => SameRows db.toTables db'.toTables ∧
        (r = none → e.origin = .automation → Gates x db.toTables e) ∧
        (r ≠ none → e.origin = .automation)) (fun _ _ => True) db := by
  unfold automationFenceError
  simp only [Tx.wp_ite, Tx.wp_pure]
  refine ⟨fun horigin => ⟨.refl _, fun _ h => absurd h horigin, fun h => absurd rfl h⟩,
    fun horigin => ⟨fun _ => ⟨.refl _, by rintro ⟨⟩, fun _ => not_not.mp horigin⟩, fun hgates => ?_⟩⟩
  simp only [not_or, not_not, Bool.not_eq_false] at horigin hgates
  obtain ⟨hmode, hautomation, hcontrol, hexecutor⟩ := hgates
  cases happroval : db.approvals.get? e.approvalId with
  | none => exact ⟨.refl _, by rintro ⟨⟩, fun _ => horigin⟩
  | some a =>
      simp only [Tx.wp_bind, wp_liftApp, Tx.wp_ite, Tx.wp_pure]
      refine ⟨fun snapshot hsnapshot => ⟨fun _ => ⟨.refl _, by rintro ⟨⟩, fun _ => horigin⟩,
        fun hknown => ?_⟩, fun _ _ => trivial⟩
      -- the policy is read last, and it may be bootstrapped then
      refine Tx.wp_mono (Tx.wp_and (wp_getCurrentPolicy newId now)
        (wp_getCurrentPolicy_head newId now)) ?_ fun _ _ _ => trivial
      rintro ⟨head, current⟩ db' ⟨⟨-, hsame, -⟩, hcurrent⟩
      refine ⟨hsame, fun hnone _ => ?_, fun _ => horigin⟩
      have hid : e.automationPolicyRevisionId = some current.id := by
        by_contra hne
        simp [hne] at hnone
      have hauto : stageMode current .execution = .autoIfEligible := by
        by_contra hne
        simp [hid, hne] at hnone
      refine
        { launchMode := hmode
          automation := hautomation
          controlPlane := hcontrol
          executor := hexecutor
          hnr := ⟨a, snapshot, happroval, hsnapshot, by simpa using hknown⟩
          policy := ?_ }
      rcases hcurrent with ⟨head', hhead, hrevision⟩ | hmanual
      · exact ⟨head', current, hhead, hrevision, hid, hauto⟩
      · rw [hmanual] at hauto
        cases hauto

omit [Python] in
/-- Where the fence has found something, the guard does not let the execution pass. -/
theorem wp_fenced_stops (e : DownloadExecution) (approval : Option ApprovalRequest)
    (errorCode : String) (flag : Bool) (now : DateTime) :
    Tx.wp (fenced x e approval errorCode flag now) (fun allowed _ => allowed = false)
      (fun _ _ => True) db := by
  cases flag with
  | true => exact trivial
  | false =>
      simp only [fenced, Bool.false_eq_true, if_false, cancelByAutomationFence, saveExecution,
        addExecutionEvent, Tx.wp_bind, Tx.wp_modify, Tx.wp_pure]
      cases approval with
      | none => exact trivial
      | some a =>
          simp only [revokeByFence, saveApproval, addEvent, addApprovalEvent, Tx.wp_ite, Tx.wp_bind,
            Tx.wp_modify, Tx.wp_pure, implies_true, and_self]

/-- **What a guard has seen of an execution in submission**: the live lease of the claim; and where
it let the execution pass, an approval that is being executed, and the gates of an automatic one. -/
structure Passed (x : DownloadExecutor) (claim : ExecutionClaim) (now : DateTime) (s : Tables)
    (allowed : Bool) (e : DownloadExecution) : Prop where
  execution : e ∈ s.executions
  id : e.id = claim.executionId
  submitting : e.status = .submitting
  own : OwnLease x e claim
  live : ∃ lockedAt ∈ e.lockedAt, now < lockedAt + seconds x.settings.downloadExecutionLeaseSeconds
  executing : allowed = true →
    (s.approvals.get? e.approvalId).map ApprovalRequest.status = some .executing
  gates : allowed = true → e.origin = .automation → Gates x s e
  stopped : allowed = false → e.origin = .automation

/-- **What a guard leaves** of an execution that it lets pass: the time of its lease is written, and
nothing else of it or of any approval. -/
structure Renewed (now : DateTime) (e : DownloadExecution) (db db' : Db) : Prop where
  approvals : db'.approvals = db.approvals
  executions : db'.executions = db.executions.save { e with lockedAt := some now }

/-- **The guard of an execution in submission.** -/
theorem wp_guardOfSubmission (flag : Bool) (newId : Uuid) (clock : DateTime × DateTime) :
    Tx.wp (ensureExternalActionAllowed x claim .submitting flag newId clock)
      (fun allowed db' => ∃ e, Passed x claim clock.1 db.toTables allowed e ∧
        (allowed = true → Renewed clock.1 e db db')) (fun _ _ => True) db := by
  simp only [ensureExternalActionAllowed, Tx.wp_bind, Tx.wp_get, Tx.wp_ofOption, Tx.wp_ofExcept,
    wp_liftApp, implies_true, and_true]
  intro e hget _ hlease plan _ _ _ _ _
  obtain ⟨he, hid⟩ := Table.get?_eq_some.mp hget
  obtain ⟨hown, hstatus, -, hlive⟩ := requireFreshMatchingLease_ok hlease
  refine Tx.wp_mono (wp_automationFenceError_gates e newId clock.2) (fun found db' h => ?_)
    fun _ _ _ => trivial
  obtain ⟨hsame, hgates, horigin⟩ := h
  -- the claim was checked under the lock before the fence is asked
  have hpassed : ∀ allowed : Bool,
      (allowed = true → (db.approvals.get? e.approvalId).map ApprovalRequest.status =
        some .executing) → (allowed = true → found = none) →
      (allowed = false → e.origin = .automation) → Passed x claim clock.1 db.toTables allowed e :=
    fun allowed hexecuting hnone hstopped =>
      { execution := he
        id := hid
        submitting := hstatus _ rfl
        own := hown
        live := hlive
        executing := hexecuting
        gates := fun hallowed => hgates (hnone hallowed)
        stopped := hstopped }
  cases found with
  | some errorCode =>
      refine Tx.wp_mono (wp_fenced_stops e _ errorCode flag clock.1) (fun allowed _ hstops => ?_)
        fun _ _ h => h
      subst hstops
      exact ⟨e, hpassed false (by rintro ⟨⟩) (by rintro ⟨⟩) fun _ => horigin (by rintro ⟨⟩),
        by rintro ⟨⟩⟩
  | none =>
      simp only [reduceCtorEq, if_false, guardSubmitting, allowAction, saveExecution, Tx.wp_bind,
        wp_requireApp, Tx.wp_modify, Tx.wp_pure]
      refine ⟨fun hexecuting => ?_, fun _ => trivial⟩
      refine ⟨e, hpassed true (fun _ => hexecuting) (fun _ => rfl) (by rintro ⟨⟩), fun _ => ?_⟩
      exact ⟨hsame.approvals, congrArg (Table.save · _) hsame.executions⟩

/-! ### Runs -/

section Runs

variable [HexDigest] [TorrentCodec]

omit [HexDigest] in
/-- The order of what leads to a request that adds a torrent: the reservation, the guard that let
the execution pass, and the request. -/
theorem guarded_of_sent {log : List Workers.Event} (h : Journal Follows [] log) {form : QbAddForm}
    {torrent : Bytes} (hsent : .sent claim (.addTorrent form torrent) ∈ log) :
    ∃ r x newId clock before, reserves r = true ∧ r.claim = claim ∧
      Precedes r (.guarded x claim .submitting false newId clock before true) log ∧
      Precedes (.guarded x claim .submitting false newId clock before true)
        (.sent claim (.addTorrent form torrent)) log := by
  obtain ⟨past, after, rfl, hfollows⟩ := h.justified hsent
  rw [List.nil_append] at hfollows
  obtain ⟨earlier, later, rfl, hadmitted⟩ := h.before.justified hfollows.1
  rw [List.nil_append] at hadmitted
  obtain ⟨x, newId, clock, before, earlier', later', rfl, r, hr, hreserves, hclaim⟩ := hadmitted
  refine ⟨r, x, newId, clock, before, hreserves, hclaim, ?_, ?_⟩
  · have hfirst : Precedes r (.guarded x claim .submitting false newId clock before true)
        (earlier' ++ .guarded x claim .submitting false newId clock before true :: later') :=
      ⟨earlier', later', rfl, hr⟩
    exact hfirst.append.append
  · exact ⟨_, after, rfl, by simp⟩

/-- **The fences of an automatic execution**: every request that adds its torrent comes after a guard
that was committed after the reservation, under the live lease, and that has seen all gates open. -/
theorem automation_fenced {c : System} (h : Reachable c) {form : QbAddForm} {torrent : Bytes}
    (hsent : .sent claim (.addTorrent form torrent) ∈ c.state.log) :
    ∃ r x newId clock before e, reserves r = true ∧ r.claim = claim ∧
      Precedes r (.guarded x claim .submitting false newId clock before true) c.state.log ∧
      Precedes (.guarded x claim .submitting false newId clock before true)
        (.sent claim (.addTorrent form torrent)) c.state.log ∧
      Passed x claim clock.1 before.toTables true e := by
  have hjournal := (sound_reachable h).journal
  obtain ⟨r, x, newId, clock, before, hreserves, hclaim, hafter, hbefore⟩ :=
    guarded_of_sent hjournal hsent
  obtain ⟨_, _, -, -, hcommit⟩ := hjournal.justified hbefore.left
  obtain ⟨e, hpassed, -⟩ :=
    (wp_guardOfSubmission false newId clock).commit_ok (Prod.ext hcommit rfl)
  exact ⟨r, x, newId, clock, before, e, hreserves, hclaim, hafter, hbefore, hpassed⟩

section Automatic

/-- A request to publish a policy under which executions are created automatically. -/
def executionPolicyRequest : PolicyRevisionRequest where
  baseRevisionNo := 1
  identityMode := .manual
  torrentSelectionMode := .manual
  approvalMode := .manual
  executionMode := .autoIfEligible
  identityMinScore := 1 / 2
  identityMinMargin := 1 / 10
  torrentMinScore := 3 / 4
  torrentMinMargin := 1 / 10
  torrentMinSeeders := 1
  acknowledgesHnr := true
  acknowledgesSeeding := true
  acknowledgesPlanOnly := true
  acknowledgesAddPausedOnly := true

/-- Settings under which the automation runs. -/
def automaticSettings : Settings :=
  { executorSettings with
    enableAutomationEngine := true
    enableAvistazLiveSearch := true }

/-- What the automation draws when it creates the execution. -/
def automaticEnvironment : AutomationEnvironment where
  clock _ := 4
  newId n := if n = 1 then rowId 4 else if n = 2 then rowId 8 else rowId 3
  nonceSecret := "secretsecretsecretsecretsecret"
  keySecret := "keykeykeykeykeykeykey"
  qbConfigured := true
  executorReady := true
  seen := (true, true)

/-- The policy is published; the candidate is requested and approved, and the automation creates its
execution. -/
def automaticCalls : List Operation :=
  [.publishPolicyRevision executionPolicyRequest "admin" (rowId 5, rowId 6) fun _ => 0,
    .createApprovalRequest "candidate-1" listedRows {} automaticSettings "operator" (rowId 1) 0,
    .savePreflightResult (rowId 1).text cleanReplies automaticSettings "operator" 1 1,
    .approveRequest (rowId 1).text
      { acknowledgesHnr := true, acknowledgesSeeding := true, acknowledgesPlanOnly := true }
      automaticSettings "admin" (rowId 2) 2,
    .maybeCreateAutomaticExecution (rowId 1).text automaticSettings automaticEnvironment]

/-- The system of an executor that adds its torrent. -/
def automaticSystem : System :=
  executorSystem automaticCalls { sampleExecutor with settings := automaticSettings } sampleMoments

/-- Whether the executions that a guard has seen are automatic. -/
def guardsAutomatic : Workers.Event → Bool
  | .guarded _ _ .submitting _ _ _ before _ =>
      before.executions.rows.all fun e => e.origin = .automation
  | _ => true

omit [Python] [HexDigest] [TorrentCodec] in
/-- The executor adds the torrent of an automatic execution. -/
theorem automatic_log :
    automaticSystem.state.log.any adds = true ∧
      automaticSystem.state.log.all guardsAutomatic = true := by
  decide +kernel

omit [Python] [HexDigest] [TorrentCodec] in
/-- The request of an automatic execution comes after a guard that has seen all gates open. -/
theorem automation_fenced_sample : ∃ claim form torrent x newId clock before e,
    Precedes (.guarded x claim .submitting false newId clock before true)
        (.sent claim (.addTorrent form torrent)) automaticSystem.state.log ∧
      e.origin = .automation ∧ @Gates asciiPython x before.toTables e := by
  let _ := asciiPython
  obtain ⟨ev, hev, hadds⟩ := List.any_eq_true.mp automatic_log.1
  obtain ⟨claim, form, torrent, rfl⟩ := sent_of_adds hadds
  obtain ⟨_, x, newId, clock, before, e, -, -, -, hbefore, hpassed⟩ :=
    @automation_fenced asciiPython _ zeroHexDigest versionCodec _
      (reachable_executorSystem (by decide) _ _) _ _ hev
  have hseen := List.all_eq_true.mp automatic_log.2 _ hbefore.left
  have horigin := of_decide_eq_true
    (List.all_eq_true.mp hseen e (Table.mem_rows.mpr hpassed.execution))
  exact ⟨claim, form, torrent, x, newId, clock, before, e, hbefore, horigin,
    hpassed.gates rfl horigin⟩

end Automatic

/-- **No guard stops a manual execution in submission**, whatever the policy and the switches of the
automation say: it lets the execution pass and writes no more than the time of its lease, or it
raises. -/
theorem manual_never_fenced {c : System} (h : Reachable c) {flag allowed : Bool} {newId : Uuid}
    {clock : DateTime × DateTime} {before : Db}
    (hguarded : .guarded x claim .submitting flag newId clock before allowed ∈ c.state.log)
    {e : DownloadExecution} (he : e ∈ before.executions) (hid : e.id = claim.executionId)
    (horigin : e.origin = .manual) :
    allowed = true ∧ Renewed clock.1 e before
      (Tx.commit (ensureExternalActionAllowed x claim .submitting flag newId clock) before).2 := by
  obtain ⟨_, _, -, -, hcommit⟩ := (sound_reachable h).journal.justified hguarded
  obtain ⟨e', hpassed, hrenewed⟩ :=
    (wp_guardOfSubmission flag newId clock).commit_ok (Prod.ext hcommit rfl)
  obtain rfl := Table.eq_of_key_eq hpassed.execution he (hpassed.id.trans hid.symm)
  cases allowed with
  | true => exact ⟨rfl, hrenewed rfl⟩
  | false =>
      rw [hpassed.stopped rfl] at horigin
      cases horigin

omit [Python] [HexDigest] [TorrentCodec] in
/-- The guard of the sample lets its manual execution pass. -/
theorem manual_never_fenced_sample : ∃ x claim flag newId clock before e,
    .guarded x claim .submitting flag newId clock before true ∈
        (sampleSystem sampleMoments).state.log ∧
      e.origin = .manual ∧ Renewed clock.1 e before
        (Tx.commit (@ensureExternalActionAllowed asciiPython x claim .submitting flag newId clock)
          before).2 := by
  obtain ⟨ev, hev, hguards⟩ := List.any_eq_true.mp sample_log.2
  unfold guardsManual at hguards
  split at hguards
  · rename_i x claim flag newId clock before allowed
    obtain ⟨e, he, hmanual⟩ := List.any_eq_true.mp hguards
    obtain ⟨hid, horigin⟩ := of_decide_eq_true hmanual
    obtain ⟨rfl, hrenewed⟩ := @manual_never_fenced asciiPython _ _ zeroHexDigest versionCodec _
      (reachable_sample _) _ _ _ _ _ hev _ (Table.mem_rows.mp he) hid horigin
    exact ⟨x, claim, flag, newId, clock, before, e, hev, horigin, hrenewed⟩
  · cases hguards

end Runs

end LibSeek.Executor
