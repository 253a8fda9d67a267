/-
The turns of the requests that create executions.

Any number of confirmations and of requests to execute a plan are served at once, each in its turns,
while the other services work on the same database.  This module says what a turn relies on and what
it comes to: the database that it leaves comes after the one it found, what it hands on to the next
turn is so for good, and an execution that it creates was not there before.  The request that a
confirmation goes on with may have changed since its session has read it; where it has not, the
database is sound as well.

Main definitions:

* `Api.Stored` — an execution that a request may be answered with;
* `Api.StageSound` — what a request that has got so far relies on;
* `Api.TurnSound` — **what a turn comes to**.

Main results:

* `Api.wp_lookConfirmation`, `Api.wp_openConfirmation`, `Api.wp_finishConfirmation`,
  `Api.wp_executePlan` — one for each turn;
* `Api.wp_turn` — **every turn of every request**.
-/

import LibSeek.Api.Confirmations
import LibSeek.Api.ErrorAtomicity
import LibSeek.ControlPlane.HeldRuns

set_option relaxedAutoImplicit false
set_option autoImplicit false

namespace LibSeek.Api

open LibSeek.Core LibSeek.Lib LibSeek.Models LibSeek.Schemas LibSeek.Services LibSeek.ControlPlane

open InSession (service commit rollback Along)

variable [Python] {asRead : Prop} {db : Db} {t : Session Db}

/-! ### Sessions that lead on -/

/-- The session of a request that ends in an exception: what it has committed leads on, and what it
has staged as well, where it may yet be committed. -/
def Halted (asRead : Prop) (db : Db) (e : Exn) (t : Session Db) : Prop :=
  Advances asRead db t.committed ∧ (keepExpiry e = true → Advances asRead t.committed t.staged)

section Steps

variable {α : Type} {Q : α → Session Db → Prop}

/-- The rule of a service. -/
theorem wp_serviceAlong (ht : Along (Advances asRead) db t) {m : DbTx α} {P : α → Db → Prop}
    (h : Tx.wp m (fun a db' => Advances asRead t.staged db' ∧ P a db')
      (fun e db' => keepExpiry e = true → Advances asRead t.staged db') t.staged)
    (hQ : ∀ a db', P a db' → Along (Advances asRead) db { t with staged := db' } →
      Q a { t with staged := db' }) :
    Tx.wp (service m) Q (Halted asRead db) t :=
  ht.service (K := fun e => keepExpiry e = true) Advances.trans h hQ

/-- The rule of a check that reads nothing. -/
theorem wp_serviceCheck (ht : Along (Advances asRead) db t) {x : Except AppError α}
    (hQ : ∀ a, x = .ok a → Q a t) : Tx.wp (service (liftApp x)) Q (Halted asRead db) t := by
  refine wp_serviceAlong (P := fun a db' => x = .ok a ∧ db' = t.staged) ht ?_ ?_
  · exact (wp_liftApp x).mpr ⟨fun a ha => ⟨.refl _, ha, rfl⟩, fun _ _ _ => .refl _⟩
  · rintro a db' ⟨ha, rfl⟩ -
    exact hQ a ha

/-- The rule of the check on a stage of the automation. -/
theorem wp_serviceStage (ht : Along (Advances asRead) db t) (stage : AutomationStage) (newId : Uuid)
    (now : DateTime) {Q : AutomationPolicyRevision → Session Db → Prop}
    (hQ : ∀ r db', db'.approvals = t.staged.approvals →
      Along (Advances asRead) db { t with staged := db' } → Q r { t with staged := db' }) :
    Tx.wp (service (requireStageNotDisabled stage newId now)) Q (Halted asRead db) t := by
  refine wp_serviceAlong (P := fun _ db' => db'.approvals = t.staged.approvals) ht ?_ hQ
  exact Tx.wp_mono (wp_requireStageNotDisabled stage newId now)
    (fun _ _ h => ⟨advances_of_effects h.1, h.2.approvals⟩) fun _ _ h _ => advances_of_effects h

/-- The handler of an expiry. -/
theorem wp_onAppError_halted {a : ApprovalRequest} {body : Route α}
    (h : Tx.wp body Q (Halted asRead db) t) :
    Tx.wp (onAppError (Api.commitExpirationOnError a) body) Q (Halted asRead db) t := by
  unfold onAppError
  rw [Tx.wp_handle]
  refine Tx.wp_mono h (fun _ _ h => h) fun e t' h => ?_
  cases e with
  | app error =>
      simp only [Api.commitExpirationOnError, Tx.wp_bind, Tx.wp_get, Tx.wp_ite,
        InSession.wp_commit, Tx.wp_pure, Tx.wp_raise]
      refine ⟨fun hkeep => ⟨h.1.trans (h.2 (keepExpiry_of_commitExpiration hkeep)), fun _ => ?_⟩,
        fun _ => h⟩
      exact .refl _
  | integrity => exact h
  | other message => exact h

/-- A rollback before another exception is raised. -/
theorem halted_rollback {e e' : Exn} (h : Halted asRead db e t) :
    Halted asRead db e' { t with staged := t.committed } :=
  ⟨h.1, fun _ => .refl _⟩

end Steps

/-! ### What a request relies on -/

/-- The request of a candidate that is being pre-flighted is there, and the session holds it: it is
the candidate's, and its snapshot verifies. -/
structure Opened (db : Db) (call : ConfirmCall) (held : ApprovalRequest)
    (snapshot : ApprovalCandidateSnapshot) : Prop where
  row : ∃ row ∈ db.approvals, fixedApproval row = fixedApproval held
  candidate : held.torrentCandidateId = call.candidateId
  verified : verifySnapshot held = .ok snapshot

/-- An execution is the one that a request has asked for. -/
def Asked (db : Db) : CreationCall → DownloadExecution → Prop
  | .confirm call, e =>
      e.launchMode = call.request.launchMode ∧
        ∃ a ∈ db.approvals, a.id = e.approvalId ∧ a.torrentCandidateId = call.candidateId
  | .execute call, e =>
      e.approvalId = call.approvalId ∧ e.intentId = call.request.intentId ∧
        e.requestHash = executionRequestHash call.approvalId call.request.intentId
          (hashSecret call.request.nonce) (hashSecret call.idempotencyKey)

/-- **An execution that a request may be answered with**: its row is there, under the key of the
request, and it is the one that the request has asked for. -/
structure Stored (db : Db) (call : CreationCall) (answer : Answer) (e : DownloadExecution) :
    Prop where
  row : ∃ e' ∈ db.executions, fixedExecution e' = fixedExecution e
  key : e.idempotencyKeySha256 = hashSecret call.idempotencyKey
  approvalId_eq : e.approvalId = answer.approvalId
  asked : Asked db call e

/-- What a request that has got so far relies on. -/
structure StageSound (db : Db) (call : CreationCall) (stage : Stage) : Prop where
  opened : ∀ c settings held snapshot created, call = .confirm c →
    stage = .opened settings held snapshot created → Opened db c held snapshot
  answered : ∀ answer, stage = .ended (.ok answer) →
    (answer.executionCreated = true → answer.execution ≠ none) ∧
      ∀ e ∈ answer.execution, Stored db call answer e

omit [Python] in
/-- The columns of a request that no change touches. -/
theorem fixedApproval_columns {a a' : ApprovalRequest} (h : fixedApproval a' = fixedApproval a) :
    a'.id = a.id ∧ a'.torrentCandidateId = a.torrentCandidateId := by
  have hcandidate : (fixedApproval a').torrentCandidateId =
      (fixedApproval a).torrentCandidateId := by rw [h]
  exact ⟨id_of_fixedApproval h, hcandidate⟩

theorem Opened.advances {db' : Db} {call : ConfirmCall} {held : ApprovalRequest}
    {snapshot : ApprovalCandidateSnapshot} (h : Opened db call held snapshot)
    (hadv : Advances asRead db db') : Opened db' call held snapshot := by
  obtain ⟨row, hrow, hfixed⟩ := h.row
  obtain ⟨row', hrow', hfixed'⟩ := hadv.keeps.approvals row hrow
  exact ⟨⟨row', hrow', hfixed'.trans hfixed⟩, h.candidate, h.verified⟩

theorem Asked.advances {db' : Db} {call : CreationCall} {e : DownloadExecution}
    (h : Asked db call e) (hadv : Advances asRead db db') : Asked db' call e := by
  cases call with
  | confirm call =>
      obtain ⟨hmode, a, ha, hid, hcandidate⟩ := h
      obtain ⟨a', ha', hfixed⟩ := hadv.keeps.approvals a ha
      obtain ⟨hid', hcandidate'⟩ := fixedApproval_columns hfixed
      exact ⟨hmode, a', ha', hid'.trans hid, hcandidate'.trans hcandidate⟩
  | execute call => exact h

/-- What a request relies on stays so. -/
theorem StageSound.advances {db' : Db} {call : CreationCall} {stage : Stage}
    (h : StageSound db call stage) (hadv : Advances asRead db db') : StageSound db' call stage where
  opened c settings held snapshot created hcall hstage :=
    (h.opened c settings held snapshot created hcall hstage).advances hadv
  answered answer hstage := by
    obtain ⟨hcreated, hstored⟩ := h.answered answer hstage
    refine ⟨hcreated, fun e he => ?_⟩
    obtain ⟨⟨row, hrow, hfixed⟩, hkey, hid, hasked⟩ := hstored e he
    obtain ⟨row', hrow', hfixed'⟩ := hadv.keeps.executions row hrow
    exact ⟨⟨row', hrow', hfixed'.trans hfixed⟩, hkey, hid, hasked.advances hadv⟩

/-- Nothing is relied on by a request that has not come to a request of the candidate, nor to an
answer. -/
theorem stageSound_of_not {call : CreationCall} {stage : Stage}
    (hopened : ∀ settings held snapshot created, stage ≠ .opened settings held snapshot created)
    (hanswered : ∀ answer, stage ≠ .ended (.ok answer)) : StageSound db call stage where
  opened _ settings held snapshot created _ h := absurd h (hopened settings held snapshot created)
  answered answer h := absurd h (hanswered answer)

/-- An answer is relied on for its execution. -/
theorem stageSound_answer {call : CreationCall} {answer : Answer}
    (hcreated : answer.executionCreated = true → answer.execution ≠ none)
    (hstored : ∀ e ∈ answer.execution, Stored db call answer e) :
    StageSound db call (.ended (.ok answer)) where
  opened _ _ _ _ _ _ h := by cases h
  answered answer' h := by
    cases h
    exact ⟨hcreated, hstored⟩

/-- What a turn comes to: the database comes after the one it found, the request may rely on it, and
an execution that it has created was not there before. -/
structure TurnSound (asRead : Prop) (db : Db) (call : CreationCall) (stage stage' : Stage)
    (t : Session Db) : Prop where
  advances : Advances asRead db t.committed
  sound : StageSound t.committed call stage'
  created : ∀ answer, stage' = .ended (.ok answer) → answer.executionCreated = true →
    stage' = stage ∨ executionOfKey db.toTables (hashSecret call.idempotencyKey) = none

/-! ### Looking for what there is -/

section Turns

theorem wp_findIdempotentCandidateExecution (call : ConfirmCall) :
    Tx.wp (findIdempotentCandidateExecution call.candidateId call.idempotencyKey
        call.request.launchMode)
      (fun found db' => db' = db ∧ ∀ e ∈ found, e ∈ db.executions ∧
        e.idempotencyKeySha256 = hashSecret call.idempotencyKey ∧ Asked db (.confirm call) e)
      (fun _ db' => db' = db) db := by
  simp only [findIdempotentCandidateExecution, Tx.wp_bind, wp_liftApp, Tx.wp_get]
  refine ⟨fun keyDigest hkey => ?_, fun _ _ => trivial⟩
  obtain rfl := idempotencyKeyDigest_ok hkey
  cases hfound : executionOfKey db.toTables (hashSecret call.idempotencyKey) with
  | none => exact ⟨rfl, fun e he => by cases he⟩
  | some e =>
      obtain ⟨hmem, hdigest⟩ := executionOfKey_some hfound
      simp only [Tx.wp_bind, wp_requireApp, wp_liftApp, Tx.wp_pure]
      refine ⟨fun hsame => ⟨fun e' hverified => ⟨trivial, ?_⟩, fun _ _ => trivial⟩, fun _ => trivial⟩
      obtain rfl := verifyDownloadExecution_eq hverified
      obtain ⟨⟨a, hget, hcandidate⟩, hmode⟩ := hsame
      obtain ⟨ha, hid⟩ := Table.get?_eq_some.mp hget
      rintro _ ⟨⟩
      exact ⟨hmem, hdigest, hmode, a, ha, hid, hcandidate⟩

/-- An execution found under the key is answered as it is. -/
theorem stored_of_found {call : CreationCall} {e : DownloadExecution} {approvalId : String}
    (hmem : e ∈ db.executions) (hkey : e.idempotencyKeySha256 = hashSecret call.idempotencyKey)
    (hasked : Asked db call e) (hid : e.approvalId = approvalId) :
    StageSound db call (.ended (.ok
      { approvalId := approvalId, execution := some e
        approvalCreated := false, executionCreated := false })) := by
  refine stageSound_answer (fun h => by cases h) ?_
  rintro _ ⟨⟩
  exact ⟨⟨e, hmem, rfl⟩, hkey, hid, hasked⟩

/-- **The first look**: what is found is answered, and nothing is changed. -/
theorem wp_lookConfirmation (call : ConfirmCall) :
    Tx.wp (lookConfirmation call)
      (fun found db' => db' = db ∧ ∀ answer ∈ found, answer.executionCreated = false ∧
        StageSound db (.confirm call) (.ended (.ok answer)))
      (fun _ db' => db' = db) db := by
  simp only [lookConfirmation, Tx.wp_bind]
  refine Tx.wp_mono (wp_findIdempotentCandidateExecution call) (fun found db' h => ?_)
    fun _ _ h => h
  obtain ⟨rfl, hfound⟩ := h
  cases found with
  | none => exact ⟨rfl, fun answer h => by cases h⟩
  | some e =>
      obtain ⟨hmem, hkey, hasked⟩ := hfound e rfl
      simp only [Tx.wp_bind, wp_liftApp, Tx.wp_pure]
      refine Tx.wp_mono (wp_getApprovalOr404 e.approvalId) (fun a db'' h => ?_) fun _ _ h => h
      obtain ⟨rfl, -, hid, -⟩ := h
      refine ⟨fun _ _ => ⟨fun _ _ => ⟨fun _ _ => ⟨rfl, ?_⟩, fun _ _ => rfl⟩,
        fun _ _ => rfl⟩, fun _ _ => rfl⟩
      rintro _ ⟨⟩
      exact ⟨rfl, stored_of_found hmem hkey hasked hid.symm⟩

/-- The look after a rollback. -/
theorem wp_recoverConfirmation (call : ConfirmCall) (e : Exn) :
    Tx.wp (recoverConfirmation call e)
      (fun answer db' => db' = db ∧ answer.executionCreated = false ∧
        StageSound db (.confirm call) (.ended (.ok answer)))
      (fun _ db' => db' = db) db := by
  simp only [recoverConfirmation, Tx.wp_bind]
  refine Tx.wp_mono (wp_findIdempotentCandidateExecution call) (fun found db' h => ?_)
    fun _ _ h => h
  obtain ⟨rfl, hfound⟩ := h
  cases found with
  | none => exact rfl
  | some e =>
      obtain ⟨hmem, hkey, hasked⟩ := hfound e rfl
      simp only [Tx.wp_bind, Tx.wp_pure]
      refine Tx.wp_mono (wp_getApprovalOr404 e.approvalId) (fun a db'' h => ?_) fun _ _ h => h
      obtain ⟨rfl, -, hid, -⟩ := h
      exact ⟨rfl, trivial, stored_of_found hmem hkey hasked hid.symm⟩

/-- The look after a rollback, for a plan. -/
theorem wp_recoverExecution (call : ExecuteCall) :
    Tx.wp (recoverExecution call)
      (fun answer db' => db' = db ∧ answer.executionCreated = false ∧
        StageSound db (.execute call) (.ended (.ok answer)))
      (fun _ db' => db' = db) db := by
  simp only [recoverExecution, recoverIdempotentExecution, Tx.wp_bind, wp_liftApp, Tx.wp_get]
  refine ⟨fun keyDigest hkey => ?_, fun _ _ => trivial⟩
  obtain rfl := idempotencyKeyDigest_ok hkey
  cases hfound : executionOfKey db.toTables (hashSecret call.idempotencyKey) with
  | none =>
      simp only [Tx.wp_bind, wp_requireApp, wp_raiseApp]
      exact ⟨fun _ => ⟨fun _ => trivial, fun _ => trivial⟩, fun _ => trivial⟩
  | some e =>
      obtain ⟨hmem, hdigest⟩ := executionOfKey_some hfound
      simp only [Tx.wp_bind, wp_liftApp, Tx.wp_pure]
      refine ⟨fun _ hsame => ?_, fun _ _ => trivial⟩
      have hasked := requireSameIdempotentRequest_ok hsame
      refine ⟨trivial, trivial, ?_⟩
      exact stored_of_found hmem hdigest hasked hasked.1

/-! ### Executing a plan -/

/-- Where there is no execution under a key, there was none. -/
theorem executionOfKey_none_of_advances {db' : Db} {keyDigest : Digest String}
    (h : Advances asRead db db') (hnone : executionOfKey db'.toTables keyDigest = none) :
    executionOfKey db.toTables keyDigest = none := by
  cases hfound : executionOfKey db.toTables keyDigest with
  | none => rfl
  | some e =>
      obtain ⟨hmem, hkey⟩ := executionOfKey_some hfound
      obtain ⟨e', he', hfixed⟩ := h.keeps.executions e hmem
      have hkey' := (fixedExecution_key hfixed).trans hkey
      exact absurd hkey' (by simpa using List.find?_eq_none.mp hnone e' he')

/-- A request that ends with an execution of the database that it commits. -/
theorem turnSound_committed (ht : Along (Advances asRead) db t) {call : CreationCall} {stage : Stage}
    {answer : Answer} {e : DownloadExecution} (hanswer : answer.execution = some e)
    (hstored : Stored t.staged call answer e)
    (hcreated : answer.executionCreated = true →
      executionOfKey db.toTables (hashSecret call.idempotencyKey) = none) :
    TurnSound asRead db call stage (.ended (.ok answer))
      { t with committed := t.staged, commits := t.commits ++ [(t.committed, t.staged)] } where
  advances := ht.committed.trans ht.staged
  sound := by
    refine stageSound_answer (fun _ => by rw [hanswer]; exact Option.some_ne_none e) ?_
    rw [hanswer]
    rintro _ ⟨⟩
    exact hstored
  created := by
    rintro _ ⟨⟩ h
    exact Or.inr (hcreated h)

/-- A request that is to look for what another one has created. -/
theorem turnSound_conflicted {t' : Session Db} (h : Advances asRead db t'.committed)
    {call : CreationCall} {stage : Stage} (e : Exn) :
    TurnSound asRead db call stage (.conflicted e) t' where
  advances := h
  sound := stageSound_of_not (fun _ _ _ _ h => by cases h) fun _ h => by cases h
  created _ h := by cases h

/-- **A turn that executes a plan.** -/
theorem wp_executePlan (call : ExecuteCall) (turn : Turn) (stage : Stage) :
    Tx.wp (executePlan call turn) (TurnSound asRead db (.execute call) stage) (Halted asRead db)
      (Session.opened db) := by
  simp only [executePlan, Tx.wp_bind, Tx.wp_handle]
  refine wp_serviceStage (Along.opened Advances.refl db) _ _ _ fun _ db₁ _ h₁ => ?_
  refine Tx.wp_mono (wp_serviceAlong
    (Q := fun r t' => Along (Advances asRead) db t' ∧ Stored t'.staged (.execute call)
      { approvalId := call.approvalId, execution := some r.1
        approvalCreated := false, executionCreated := r.2 } r.1 ∧
      (r.2 = true → executionOfKey db.toTables (hashSecret call.idempotencyKey) = none)) h₁
    (Tx.wp_mono (wp_executeApprovedPlan call.approvalId call.request call.idempotencyKey
      turn.settings { actor := call.actor } (turn.newId 1) (turn.clock 1) turn.seen
      decidedFor_manual) (fun r db₂ h => ⟨advances_of_effects h.effects, h⟩)
      fun _ _ h _ => advances_of_effects h) ?_) ?_ ?_
  · intro r db₂ h h₂
    refine ⟨h₂, ⟨⟨r.1, h.mem, rfl⟩, h.key, h.approvalId_eq, h.approvalId_eq, h.intentId_eq,
      h.requestHash_eq⟩, fun hcreated => ?_⟩
    exact executionOfKey_none_of_advances (h₁.committed.trans h₁.staged) (h.created hcreated)
  · rintro r t' ⟨h₂, hstored, hcreated⟩
    simp only [InSession.wp_commit, Tx.wp_pure]
    exact turnSound_committed h₂ rfl hstored hcreated
  · intro e t' h
    cases e with
    | integrity =>
        simp only [Tx.wp_bind, InSession.wp_rollback, Tx.wp_pure]
        refine turnSound_conflicted ?_ _
        exact h.1
    | app error =>
        simp only [commitSafeStateOnError, Tx.wp_bind, Tx.wp_ite, InSession.wp_commit, Tx.wp_pure,
          Tx.wp_raise]
        exact ⟨fun hkeep => ⟨h.1.trans (h.2 hkeep), fun _ => .refl _⟩, fun _ => h⟩
    | other message => exact h

/-! ### Opening the request of a candidate -/

/-- A request created for a candidate is the candidate's. -/
theorem createApprovalRequest_candidate (candidateId : String) (rows : CandidateRows)
    (request : ApprovalCreateRequest) (settings : Settings) (actor : String) (newId : Uuid)
    (now : DateTime) :
    Tx.wp (createApprovalRequest candidateId rows request settings actor newId now)
      (fun a _ => a.torrentCandidateId = candidateId) (fun _ _ => True) db := by
  simp only [createApprovalRequest, Tx.wp_bind, Tx.wp_ofOption, Tx.wp_get]
  refine ⟨fun record _ => ⟨fun media _ => ?_, fun _ => trivial⟩, fun _ => trivial⟩
  refine Tx.wp_mono (Tx.wp_trivial _) (fun _ db' _ => ?_) fun _ _ _ => trivial
  simp only [wp_requireApp, insertApproval, saveApproval, addEvent, addApprovalEvent,
    Tx.wp_bind, Tx.wp_get, Tx.wp_require, Tx.wp_modify, Tx.wp_pure]
  exact ⟨fun _ => ⟨fun _ _ => ⟨fun _ _ => ⟨fun _ => trivial, fun _ => trivial⟩, fun _ => trivial⟩,
    fun _ => trivial⟩, fun _ => trivial⟩

/-- A request created or reused for a candidate is the candidate's. -/
theorem getOrCreatePendingApprovalRequest_candidate (candidateId : String) (rows : CandidateRows)
    (request : ApprovalCreateRequest) (settings : Settings) (actor : String) (newId : Uuid)
    (clock : ℕ → DateTime) :
    Tx.wp
      (getOrCreatePendingApprovalRequest candidateId rows request settings actor newId clock)
      (fun r _ => r.1.torrentCandidateId = candidateId) (fun _ _ => True) db := by
  simp only [getOrCreatePendingApprovalRequest, Tx.wp_bind, Tx.wp_get, wp_liftApp]
  refine ⟨fun reusable hreusable => ?_, fun _ _ => trivial⟩
  cases reusable with
  | some existing =>
      exact (activeApproval_some (pendingApprovalIsReusable_some hreusable)).2.1
  | none =>
      simp only [Tx.wp_handle, Tx.wp_bind, Tx.wp_pure]
      refine Tx.wp_mono (createApprovalRequest_candidate ..) (fun _ _ h => h) fun e db' _ => ?_
      simp only [Tx.wp_require, Tx.wp_get, wp_liftApp]
      refine ⟨fun _ => ⟨fun winner hwinner => ?_, fun _ _ => trivial⟩, fun _ => trivial⟩
      cases winner with
      | none => exact trivial
      | some winner =>
          have hactive := pendingApprovalIsReusable_some hwinner
          exact (activeApproval_some (Option.filter_eq_some_iff.mp hactive).1).2.1

/-- The request of the candidate is created or reused. -/
theorem wp_serviceOpen (ht : Along (Advances asRead) db t) (call : ConfirmCall) (turn : Turn) :
    Tx.wp (service (getOrCreatePendingApprovalRequest call.candidateId turn.rows
        call.request.createRequest turn.settings call.actor (turn.newId 3)
        fun n => turn.clock (n + 3)))
      (fun r t' => Along (Advances asRead) db t' ∧ r.1 ∈ t'.staged.approvals ∧
        r.1.torrentCandidateId = call.candidateId) (Halted asRead db) t := by
  refine wp_serviceAlong ht ?_ fun r db' h h' => ⟨h', h⟩
  exact Tx.wp_mono (Tx.wp_and (wp_getOrCreatePendingApprovalRequest ..)
      (getOrCreatePendingApprovalRequest_candidate ..))
    (fun _ _ h => ⟨advances_of_effects h.1.1, h.1.2, h.2⟩)
    fun _ _ h _ => advances_of_effects h.1

/-- The request of the candidate is pending, and its snapshot is as the operator has acknowledged
it. -/
theorem wp_serviceRequire (ht : Along (Advances asRead) db t) {a : ApprovalRequest}
    (ha : a ∈ t.staged.approvals) (now : DateTime) (request : ApprovalApproveRequest) :
    Tx.wp (service (do
        let snapshot ← requirePendingApproval a now
        liftApp (validateManualApprovalAcknowledgements snapshot request)
        return snapshot))
      (fun snapshot t' => Along (Advances asRead) db t' ∧ a ∈ t'.staged.approvals ∧
        verifySnapshot a = .ok snapshot) (Halted asRead db) t := by
  refine wp_serviceAlong ht ?_ fun r db' h h' => ⟨h', h⟩
  simp only [Tx.wp_bind, wp_liftApp, Tx.wp_pure]
  refine Tx.wp_mono (wp_requirePendingApproval ha now) (fun snapshot db' h => ?_)
    fun _ _ h _ => advances_of_effects h
  obtain ⟨rfl, hsnapshot, -⟩ := h
  exact ⟨fun _ _ => ⟨.refl _, ha, hsnapshot⟩, fun _ _ _ => .refl _⟩

/-- **A turn that opens the request of the candidate.** -/
theorem wp_openConfirmation (call : ConfirmCall) (turn : Turn) (stage : Stage) :
    Tx.wp (openConfirmation call turn) (TurnSound asRead db (.confirm call) stage) (Halted asRead db)
      (Session.opened db) := by
  simp only [openConfirmation, Tx.wp_bind, Tx.wp_handle]
  refine wp_serviceStage (Along.opened Advances.refl db) _ _ _ fun _ db₁ _ h₁ => ?_
  refine wp_serviceStage h₁ _ _ _ fun _ db₂ _ h₂ => ?_
  refine wp_serviceStage h₂ _ _ _ fun _ db₃ _ h₃ => ?_
  refine wp_serviceCheck h₃ fun _ _ => ?_
  refine Tx.wp_mono (wp_serviceOpen h₃ call turn) (fun r t' h => ?_) fun e t' h => ?_
  · obtain ⟨h₄, ha, hcandidate⟩ := h
    refine Tx.wp_mono (wp_onAppError_halted (wp_serviceRequire h₄ ha _ _))
      (fun snapshot t₅ h => ?_) fun _ _ h => h
    obtain ⟨h₅, ha', hsnapshot⟩ := h
    simp only [InSession.wp_commit, Tx.wp_pure]
    refine ⟨h₅.committed.trans h₅.staged, ⟨?_, fun _ h => by cases h⟩, fun _ h => by cases h⟩
    rintro _ _ _ _ _ ⟨⟩ ⟨⟩
    exact ⟨⟨r.1, ha', rfl⟩, hcandidate, hsnapshot⟩
  · cases e with
    | integrity =>
        simp only [Tx.wp_bind, InSession.wp_rollback, Tx.wp_raise]
        exact halted_rollback h
    | app error => exact h
    | other message => exact h

/-! ### Approving it and creating the execution -/

/-- The result of the pre-flight is saved in the request that the session holds. -/
theorem wp_saveConfirmationPreflight {held : ApprovalRequest} (hheld : Holds asRead db held)
    (call : ConfirmCall) (turn : Turn) {snapshot : ApprovalCandidateSnapshot}
    (hverified : verifySnapshot held = .ok snapshot) {settings : Settings}
    {result : PreflightResult}
    (hresult : evaluatePreflight turn.replies snapshot settings turn.evaluatedAt = .ok result) :
    Tx.wp (saveConfirmationPreflight call turn held held.snapshotHash result)
      (fun saved db' => Advances asRead db db' ∧ Holds asRead db' saved ∧ saved.id = held.id)
      (fun e db' => keepExpiry e = true → Advances asRead db db') db := by
  simp only [saveConfirmationPreflight, requireSameSnapshot, Tx.wp_bind, wp_requireApp]
  have hpending : Tx.wp (withHeld held (requirePendingApproval held (turn.clock 2)))
      (fun _ db₁ => Advances asRead db db₁ ∧ Holds asRead db₁ held)
      (fun e db₁ => keepExpiry e = true → Advances asRead db db₁) db := by
    refine Tx.wp_mono (wp_withHeld_advances (P := fun _ seen => seen = seenBy held db) hheld
      (Tx.wp_mono (wp_requirePendingApproval (Table.mem_save_self _ _) (turn.clock 2))
        (fun _ _ h => ⟨h.1 ▸ .refl _, h.1⟩) fun _ _ h _ => advances_of_effects h))
      (fun _ db₁ h => ?_) fun _ _ h => h
    obtain ⟨hadv, _, rfl, hwritten⟩ := h
    exact ⟨hadv, hwritten.holds held (Table.mem_save_self _ _) rfl⟩
  refine Tx.wp_mono hpending (fun _ db₁ h => ⟨fun _ => ?_, fun hnot => absurd trivial hnot⟩)
    fun _ _ h => h
  refine Tx.wp_mono (wp_withHeld_advances
    (P := fun saved seen => saved ∈ seen.approvals ∧ saved.id = held.id) h.2
    (Tx.wp_mono (wp_savePreflightResult (Table.mem_save_self _ _) hverified hresult call.actor
      (turn.clock 3)) (fun saved seen h => ?_) fun _ _ h _ => advances_of_effects h))
    (fun saved db₂ h' => ?_) fun _ _ h' hkeep => h.1.trans (h' hkeep)
  · obtain ⟨heff, rfl, -, hsaved⟩ := h
    refine ⟨advances_of_effects heff, ?_, rfl⟩
    rw [hsaved]
    exact Table.mem_save_self _ _
  · obtain ⟨hadv, seen, ⟨hsaved, hid⟩, hwritten⟩ := h'
    exact ⟨h.1.trans hadv, hwritten.holds saved hsaved hid, hid⟩

/-- The launch mode of a new intent is the one asked for. -/
theorem createExecutionIntent_launchMode (approvalId : String)
    (request : ExecutionIntentCreateRequest) (settings : Settings) (binding : OriginBinding)
    (newId : Uuid) (secret : String) (now : DateTime) :
    Tx.wp (createExecutionIntent approvalId request settings binding newId secret now)
      (fun r _ => r.1.launchMode = request.launchMode) (fun _ _ => True) db := by
  have hany : ∀ {α : Type} (m : DbTx α) (db : Db), Tx.wp m (fun _ _ => True) (fun _ _ => True) db :=
    fun m db => Tx.wp_trivial m
  simp only [createExecutionIntent, Tx.wp_bind, wp_liftApp, Tx.wp_ofExcept, Tx.wp_get,
    wp_requireApp]
  refine ⟨fun _ _ => ⟨fun _ _ => ?_, fun _ _ => trivial⟩, fun _ _ => trivial⟩
  refine Tx.wp_mono (hany _ _) (fun a _ _ => ?_) fun _ _ _ => trivial
  refine Tx.wp_mono (hany _ _) (fun _ _ _ => ⟨fun _ _ => ?_, fun _ _ => trivial⟩)
    fun _ _ _ => trivial
  refine Tx.wp_mono (hany _ _) (fun _ _ _ => ⟨fun _ _ => ⟨fun _ _ => ⟨fun _ => ?_,
    fun _ => trivial⟩, fun _ _ => trivial⟩, fun _ _ => trivial⟩) fun _ _ _ => trivial
  refine Tx.wp_mono (hany _ _) (fun _ _ _ => ⟨fun _ => ?_, fun _ => trivial⟩)
    fun _ _ _ => trivial
  refine Tx.wp_mono (hany _ _) (fun _ _ _ => ?_) fun _ _ _ => trivial
  exact Tx.wp_mono (hany _ _) (fun _ _ _ => rfl) fun _ _ _ => trivial

/-- The launch mode of an execution is that of its intent. -/
theorem launchMode_of_intent {s s' : Tables} (hs' : Bindings s') (hkeeps : Keeps s s')
    {i : ExecutionIntent} (hi : i ∈ s.intents) {e : DownloadExecution} (he : e ∈ s'.executions)
    (hid : e.intentId = i.id) : e.launchMode = i.launchMode := by
  obtain ⟨a, i', p, hbound⟩ := hs'.bound e he
  obtain ⟨j, hj, hfixed⟩ := hkeeps.intents i hi
  have hmode : (fixedIntent j).launchMode = (fixedIntent i).launchMode := by rw [hfixed]
  have hsame : j = i' := Table.eq_of_key_eq hj hbound.intent
    ((fixedIntent_id hfixed).trans (hid.symm.trans hbound.intent_id.symm))
  obtain ⟨-, -, -, -, -, hmode', -⟩ := hbound.bound
  rw [hmode', ← hsame]
  exact hmode

/-- What the creation of a confirmed execution comes to. -/
structure Confirmed (db : Db) (call : ConfirmCall) (approvalId : String)
    (r : DownloadExecution × Bool) (db' : Db) : Prop where
  mem : r.1 ∈ db'.executions
  key : r.1.idempotencyKeySha256 = hashSecret call.idempotencyKey
  approvalId_eq : r.1.approvalId = approvalId
  launchMode : Bindings db.toTables → r.1.launchMode = call.request.launchMode
  created : r.2 = true →
    executionOfKey db.toTables (hashSecret call.idempotencyKey) = none

/-- The request that the session holds is approved: it holds the request approved. -/
theorem wp_withHeld_approve {held : ApprovalRequest} (hheld : Holds asRead db held)
    (request : ApprovalApproveRequest) (settings : Settings) (actor : String) (newId : Uuid)
    (now : DateTime) :
    Tx.wp (withHeld held (approveRequest held request settings actor newId now))
      (fun r db' => Advances asRead db db' ∧ Holds asRead db' r.1 ∧ r.1.id = held.id)
      (fun e db' => keepExpiry e = true → Advances asRead db db') db := by
  refine Tx.wp_mono (wp_withHeld_advances
    (P := fun r seen => r.1 ∈ seen.approvals ∧ r.1.id = held.id) hheld
    (Tx.wp_mono (wp_approveRequest (Table.mem_save_self _ _) request settings actor newId now)
      (fun r seen h => ?_) fun _ _ h hkeep => advances_of_effects (h hkeep)))
    (fun r db' h => ?_) fun _ _ h => h
  · obtain ⟨happroved, hobject⟩ := h
    refine ⟨advances_of_moves (l := .none) happroved.approve.moves, ?_, ?_⟩
    · rw [show seen.approvals = _ from congrArg Tables.approvals happroved.tables, hobject]
      exact Table.mem_save_self _ _
    · rw [hobject]
  · obtain ⟨hadv, seen, ⟨hmem, hid⟩, hwritten⟩ := h
    exact ⟨hadv, hwritten.holds r.1 hmem hid, hid⟩

/-- An intent is created for the request that the session holds. -/
theorem wp_withHeld_intent {held : ApprovalRequest} (hheld : Holds asRead db held)
    (approvalId : String) (request : ExecutionIntentCreateRequest) (settings : Settings)
    (binding : OriginBinding) (newId : Uuid) (secret : String) (now : DateTime) :
    Tx.wp (withHeld held
        (createExecutionIntent approvalId request settings binding newId secret now))
      (fun r db' => (Advances asRead db db' ∧ Holds asRead db' held) ∧ r.1 ∈ db'.intents ∧
        r.1.launchMode = request.launchMode)
      (fun e db' => keepExpiry e = true → Advances asRead db db') db := by
  refine Tx.wp_mono (wp_withHeld_advances
    (P := fun r seen => seen.approvals = (seenBy held db).approvals ∧ r.1 ∈ seen.intents ∧
      r.1.launchMode = request.launchMode) hheld
    (Tx.wp_mono (Tx.wp_and
      (wp_createExecutionIntent approvalId request settings binding newId secret now)
      (createExecutionIntent_launchMode ..)) (fun r seen h => ?_)
      fun _ _ h _ => advances_of_effects h.1))
    (fun r db' h => ?_) fun _ _ h => h
  · obtain ⟨⟨heff, hintent, -, -, happrovals, -⟩, hmode⟩ := h
    exact ⟨advances_of_effects heff, happrovals, hintent, hmode⟩
  · obtain ⟨hadv, seen, ⟨happrovals, hintent, hmode⟩, hwritten⟩ := h
    have hmem : held ∈ seen.approvals := happrovals ▸ Table.mem_save_self _ _
    refine ⟨⟨hadv, hwritten.holds held hmem rfl⟩, ?_, hmode⟩
    rw [hwritten.rest]
    exact hintent

/-- The plan of the request that the session holds is executed. -/
theorem wp_withHeld_execute {held : ApprovalRequest} (hheld : Holds asRead db held)
    (call : ConfirmCall) (approvalId : String) {intent : ExecutionIntent}
    (hintent : intent ∈ db.intents) (hmode : intent.launchMode = call.request.launchMode)
    (nonce : String) (settings : Settings) (actor : String) (newId : Uuid) (now : DateTime)
    (seen : Bool × Bool) :
    Tx.wp (withHeld held (executeApprovedPlan approvalId { intentId := intent.id, nonce := nonce }
        call.idempotencyKey settings { actor := actor } newId now seen))
      (fun r db' => Advances asRead db db' ∧ Confirmed db call approvalId r db')
      (fun e db' => keepExpiry e = true → Advances asRead db db') db := by
  obtain ⟨row, hrow, hfixed⟩ := hheld.row
  refine Tx.wp_mono (wp_withHeld_advances (P := Confirmed db call approvalId) hheld
    (Tx.wp_mono (wp_executeApprovedPlan approvalId { intentId := intent.id, nonce := nonce }
      call.idempotencyKey settings { actor := actor } newId now seen decidedFor_manual)
      (fun r db' h => ?_) fun _ _ h _ => advances_of_effects h))
    (fun r db' h => ?_) fun _ _ h => h
  · refine ⟨advances_of_effects h.effects, h.mem, h.key, h.approvalId_eq, fun hs => ?_, h.created⟩
    have hseen : Bindings (seenBy held db).toTables := hs.saveApproval hrow hfixed.symm
    rw [launchMode_of_intent (hseen.moves h.effects.moves) h.effects.keeps hintent h.mem
      h.intentId_eq]
    exact hmode
  · obtain ⟨hadv, seen, hconfirmed, hwritten⟩ := h
    refine ⟨hadv, { hconfirmed with mem := ?_ }⟩
    rw [hwritten.rest]
    exact hconfirmed.mem

/-- The request is approved and its execution is created. -/
theorem wp_createConfirmedExecution {held : ApprovalRequest} (hheld : Holds asRead db held)
    (call : ConfirmCall) (turn : Turn) :
    Tx.wp (createConfirmedExecution call turn held)
      (fun r db' => Advances asRead db db' ∧ Confirmed db call held.id r db')
      (fun e db' => keepExpiry e = true → Advances asRead db db') db := by
  simp only [createConfirmedExecution, Tx.wp_bind]
  refine Tx.wp_mono (wp_withHeld_approve hheld ..) (fun r₁ db₁ h₁ => ?_) fun _ _ h => h
  obtain ⟨hadv₁, hheld₁, -⟩ := h₁
  refine Tx.wp_mono (wp_withHeld_intent hheld₁ ..) (fun r₂ db₂ h₂ => ?_)
    fun _ _ h hkeep => hadv₁.trans (h hkeep)
  obtain ⟨⟨hadv₂, hheld₂⟩, hintent, hmode⟩ := h₂
  have hadv := hadv₁.trans hadv₂
  refine Tx.wp_mono (wp_withHeld_execute hheld₂ call held.id hintent hmode ..) (fun r₃ db₃ h₃ => ?_)
    fun _ _ h hkeep => hadv.trans (h hkeep)
  refine ⟨hadv.trans h₃.1, { h₃.2 with
    launchMode := fun hs => h₃.2.launchMode (hadv.bindings hs)
    created := fun hcreated => executionOfKey_none_of_advances hadv (h₃.2.created hcreated) }⟩

/-- The exceptions of the second transaction. -/
theorem wp_afterConfirmation {e : Exn} (h : Halted asRead db e t) (a : ApprovalRequest)
    (call : CreationCall) (stage : Stage) :
    Tx.wp (afterConfirmation a e) (TurnSound asRead db call stage) (Halted asRead db) t := by
  have hconflicted : ∀ e', TurnSound asRead db call stage (.conflicted e')
      { t with staged := t.committed } := fun e' => turnSound_conflicted (by exact h.1) e'
  cases e with
  | integrity =>
      simp only [afterConfirmation, Tx.wp_bind, InSession.wp_rollback, Tx.wp_pure]
      exact hconflicted _
  | app error =>
      simp only [afterConfirmation, Tx.wp_ite, Tx.wp_bind, InSession.wp_rollback, Tx.wp_pure,
        Api.commitExpirationOnError, Tx.wp_get, InSession.wp_commit, Tx.wp_raise]
      refine ⟨fun _ => ⟨fun hkeep => ⟨?_, fun _ => .refl _⟩, fun _ => h⟩, fun _ => hconflicted _⟩
      exact h.1.trans (h.2 (keepExpiry_of_commitExpiration hkeep))
  | other message => exact h

/-- The second transaction, inside its `try`. -/
theorem wp_decideConfirmation (hdb : Bindings db.toTables)
    (ht : Along (Advances asRead) db t) {held : ApprovalRequest}
    (hheld : Holds asRead t.staged held) {call : ConfirmCall} (turn : Turn)
    {snapshot : ApprovalCandidateSnapshot} (ho : Opened db call held snapshot)
    {settings : Settings} {result : PreflightResult}
    (hresult : evaluatePreflight turn.replies snapshot settings turn.evaluatedAt = .ok result)
    (approvalCreated : Bool) (stage : Stage) :
    Tx.wp (decideConfirmation call turn held held.snapshotHash approvalCreated result)
      (TurnSound asRead db (.confirm call) stage) (Halted asRead db) t := by
  simp only [decideConfirmation, Tx.wp_bind]
  refine wp_serviceAlong ht (wp_saveConfirmationPreflight hheld call turn ho.verified hresult)
    fun saved db₁ h h₁ => ?_
  obtain ⟨hsaved, hsavedId⟩ := h
  simp only [Tx.wp_ite, Tx.wp_bind, InSession.wp_commit, Tx.wp_pure]
  refine ⟨fun _ => ⟨h₁.committed.trans h₁.staged, ?_, fun _ h => ?_⟩, fun _ => ?_⟩
  · exact stageSound_answer (fun h => by cases h) fun _ h => by cases h
  · cases h
    exact fun h => by cases h
  · refine wp_serviceAlong h₁ (wp_createConfirmedExecution hsaved call turn)
      fun r db₂ h h₂ => ?_
    have hbefore := h₁.committed.trans h₁.staged
    have hadv : Advances asRead db db₂ := h₂.committed.trans h₂.staged
    obtain ⟨⟨row, hrow, hfixed⟩, hcandidate, -⟩ := ho.advances hadv
    obtain ⟨hid, hrowCandidate⟩ := fixedApproval_columns hfixed
    have happroval := h.approvalId_eq.trans hsavedId
    refine turnSound_committed h₂ rfl ⟨⟨r.1, h.mem, rfl⟩, h.key, happroval,
      h.launchMode (hbefore.bindings hdb), row, hrow, hid.trans happroval.symm,
      hrowCandidate.trans hcandidate⟩ fun hcreated => ?_
    exact executionOfKey_none_of_advances hbefore (h.created hcreated)

/-- **A turn that approves the request and creates its execution**, on the request that the session
holds. -/
theorem wp_finishConfirmation (hdb : Bindings db.toTables) {call : ConfirmCall} (turn : Turn)
    (settings : Settings) {held : ApprovalRequest} {snapshot : ApprovalCandidateSnapshot}
    (ho : Opened db call held snapshot) (hread : asRead → held ∈ db.approvals)
    (approvalCreated : Bool) (stage : Stage) :
    Tx.wp (finishConfirmation call turn settings held snapshot approvalCreated)
      (TurnSound asRead db (.confirm call) stage) (Halted asRead db) (Session.opened db) := by
  simp only [finishConfirmation, Tx.wp_bind, Tx.wp_handle]
  refine wp_serviceCheck (Along.opened Advances.refl db) fun result hresult => ?_
  refine wp_serviceStage (Along.opened Advances.refl db) _ _ _ fun _ db₁ hrows₁ h₁ => ?_
  refine wp_serviceStage h₁ _ _ _ fun _ db₂ hrows₂ h₂ => ?_
  refine wp_serviceCheck h₂ fun _ _ => wp_serviceCheck h₂ fun _ _ => ?_
  -- the checks on the automation leave the requests alone
  have hrows : db₂.approvals = db.approvals := hrows₂.trans hrows₁
  have hheld : Holds asRead db₂ held := ⟨hrows ▸ ho.row, fun h => hrows ▸ hread h⟩
  refine wp_serviceAlong (P := fun a db' => a = held ∧ Holds asRead db' held) h₂
    (Tx.wp_mono (wp_withHeld_advances (P := fun a seen => a = held ∧ seen = seenBy held db₂) hheld
      (Tx.wp_mono (wp_getApprovalOr404 held.id) (fun a seen h => ?_) fun _ _ h _ => h ▸ .refl _))
      (fun a db₃ h => ?_) fun _ _ h => h) fun a db₃ h h₃ => ?_
  · obtain ⟨rfl, ha, hid, -⟩ := h
    exact ⟨.refl _, Table.eq_of_key_eq ha (Table.mem_save_self _ _) hid, rfl⟩
  · obtain ⟨hadv, _, ⟨rfl, rfl⟩, hwritten⟩ := h
    exact ⟨hadv, rfl, hwritten.holds a (Table.mem_save_self _ _) rfl⟩
  · obtain ⟨rfl, hheld₃⟩ := h
    exact Tx.wp_mono (wp_decideConfirmation hdb h₃ hheld₃ turn ho hresult approvalCreated stage)
      (fun _ _ h => h) fun e t' h => wp_afterConfirmation h a _ _

/-! ### A turn -/

/-- A turn that only reads, and ends with an answer or goes on. -/
theorem turnSound_read {call : CreationCall} {stage stage' : Stage}
    (hsound : StageSound db call stage')
    (hcreated : ∀ answer, stage' = .ended (.ok answer) → answer.executionCreated = false) :
    TurnSound asRead db call stage stage' (Session.opened db) where
  advances := .refl db
  sound := hsound
  created answer h hc := by
    rw [hcreated answer h] at hc
    cases hc

omit [Python] in
/-- A service that only reads. -/
theorem wp_serviceReads {α : Type} [Python] {m : DbTx α} {P : α → Prop}
    (h : Tx.wp m (fun a db' => db' = db ∧ P a) (fun _ db' => db' = db) db)
    {Q : α → Session Db → Prop} (hQ : ∀ a, P a → Q a (Session.opened db)) :
    Tx.wp (service m) Q (Halted asRead db) (Session.opened db) := by
  refine (InSession.wp_service m).mpr (Tx.wp_mono h (fun a db' h => ?_) fun e db' h => ?_)
  · obtain ⟨rfl, ha⟩ := h
    exact hQ a ha
  · obtain rfl : db' = db := h
    exact ⟨.refl _, fun _ => .refl _⟩

/-- **A turn of a request**, however far that has been served. -/
theorem wp_turn (hdb : Bindings db.toTables) {call : CreationCall} {stage : Stage}
    (hstage : StageSound db call stage)
    (hread : asRead → ∀ held ∈ stage.held?, held ∈ db.approvals) (turn : Turn) :
    Tx.wp (call.turn stage turn) (TurnSound asRead db call stage) (Halted asRead db) (Session.opened db) := by
  have hsame : TurnSound asRead db call stage stage (Session.opened db) :=
    ⟨.refl db, hstage, fun _ _ _ => Or.inl rfl⟩
  -- by the stage that the request has reached: a turn runs the next transaction of it
  cases call with
  | confirm call =>
      cases stage with
      | received =>
          simp only [CreationCall.turn, Tx.wp_bind, Tx.wp_pure]
          refine wp_serviceReads (wp_lookConfirmation call) fun found hfound => ?_
          cases found with
          | none =>
              refine turnSound_read (stageSound_of_not ?_ ?_) ?_
              · exact fun _ _ _ _ h => by cases h
              · exact fun _ h => by cases h
              · exact fun _ h => by cases h
          | some answer =>
              obtain ⟨hcreated, hsound⟩ := hfound answer rfl
              refine turnSound_read hsound ?_
              rintro _ ⟨⟩
              exact hcreated
      | looked => exact wp_openConfirmation call turn _
      | opened settings held snapshot approvalCreated =>
          exact wp_finishConfirmation hdb turn settings (hstage.opened _ _ _ _ _ rfl rfl)
            (fun h => hread h held rfl) approvalCreated _
      | conflicted e =>
          simp only [CreationCall.turn, Tx.wp_bind, Tx.wp_pure]
          refine wp_serviceReads (wp_recoverConfirmation call e) fun answer h => ?_
          refine turnSound_read h.2 ?_
          rintro _ ⟨⟩
          exact h.1
      | ended result => exact hsame
  | execute call =>
      cases stage with
      | received => exact wp_executePlan call turn _
      | conflicted e =>
          simp only [CreationCall.turn, Tx.wp_bind, Tx.wp_pure]
          refine wp_serviceReads (wp_recoverExecution call) fun answer h => ?_
          refine turnSound_read h.2 ?_
          rintro _ ⟨⟩
          exact h.1
      | looked => exact hsame
      | opened => exact hsame
      | ended result => exact hsame

end Turns

end LibSeek.Api
