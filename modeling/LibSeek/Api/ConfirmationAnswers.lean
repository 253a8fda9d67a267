/-
What the requests that create executions are answered.

Whatever the order of the turns, and wherever a request is given up, the answers go together: what is
answered is stored, it is what the request has asked for, and under one key there is one execution,
which one request at most has created.  That is so however stale the requests are that the sessions hold.
A request that is made again under a key is answered with the execution of the key, or refused, and
changes nothing, unless a session has written over where a request stands.

Main definitions:

* `Api.ServerSound` — **the invariant of the requests**;
* `Api.SameRequest`, `Api.SameConfirmation` — a request is the one that an execution stands for.

Main results:

* `Api.serverSound_serveAll` — the invariant holds after every list of actions;
* `Api.answer_stands` — **what is answered is there for good**;
* `Api.answers_agree` — **requests under one key are answered with one execution**;
* `Api.executed_again`, `Api.confirmed_again` — **a request that is made again**.
-/

import LibSeek.Api.ConfirmationRuns
import LibSeek.ControlPlane.AuditRuns

set_option relaxedAutoImplicit false
set_option autoImplicit false

namespace LibSeek.Api

open LibSeek.Core LibSeek.Lib LibSeek.Models LibSeek.Schemas LibSeek.Services LibSeek.ControlPlane

variable [Python] {db : Db}

/-! ### Every order of the turns -/

/-- **The invariant of the requests**: that of the sessions, every request may rely on what it does,
and under one key one request has created an execution at most. -/
structure ServerSound (asRead : Prop) (calls : ℕ → CreationCall) (s : Server) : Prop
    extends s.toServed.Sound asRead where
  stages : ∀ i, StageSound s.db (calls i) (s.stage i)
  once : ∀ i j answer answer', s.stage i = .ended (.ok answer) →
    s.stage j = .ended (.ok answer') → answer.executionCreated = true →
      answer'.executionCreated = true →
        (calls i).idempotencyKey = (calls j).idempotencyKey → i = j

variable {asRead : Prop} {calls : ℕ → CreationCall} {s : Server}

/-- An execution that was answered is there. -/
theorem StageSound.found {call : CreationCall} {stage : Stage} (h : StageSound db call stage)
    {answer : Answer} (hstage : stage = .ended (.ok answer))
    (hcreated : answer.executionCreated = true) :
    executionOfKey db.toTables (hashSecret call.idempotencyKey) ≠ none := by
  obtain ⟨hsome, hstored⟩ := h.answered answer hstage
  obtain ⟨e, he⟩ := Option.ne_none_iff_exists'.mp (hsome hcreated)
  obtain ⟨⟨row, hrow, hfixed⟩, hkey, -, -⟩ := hstored e he
  intro hnone
  have hkey' := (fixedExecution_key hfixed).trans hkey
  exact absurd hkey' (by simpa using List.find?_eq_none.mp hnone row hrow)

/-- The database goes on, and so does one of the requests. -/
theorem ServerSound.served (h : ServerSound asRead calls s) {db' : Db}
    (hadv : Advances asRead s.db db') (place : ℕ) {stage' : Stage} (hsound : StageSound db' (calls place) stage')
    (hcreated : ∀ answer, stage' = .ended (.ok answer) → answer.executionCreated = true →
      stage' = s.stage place ∨
        executionOfKey s.db.toTables (hashSecret (calls place).idempotencyKey) = none) :
    ServerSound asRead calls
      { s with db := db', stage := Function.update s.stage place stage' } where
  toSound := h.toSound.advances hadv
  stages i := by
    dsimp only
    by_cases hi : i = place
    · subst hi
      rw [Function.update_self]
      exact hsound
    · rw [Function.update_of_ne hi]
      exact (h.stages i).advances hadv
  once i j answer answer' hi hj hc hc' hkey := by
    dsimp only at hi hj
    -- an execution that another request has created before is found under the key
    have hclash : ∀ k answer₀ answer₁, s.stage k = .ended (.ok answer₀) →
        stage' = .ended (.ok answer₁) → answer₀.executionCreated = true →
          answer₁.executionCreated = true →
            (calls k).idempotencyKey = (calls place).idempotencyKey → k = place := by
      intro k answer₀ answer₁ hk hstage' hc₀ hc₁ hsame
      rcases hcreated answer₁ hstage' hc₁ with hold | hnone
      · exact h.once k place answer₀ answer₁ hk (hold.symm.trans hstage') hc₀ hc₁ hsame
      · rw [← hsame] at hnone
        exact absurd hnone ((h.stages k).found hk hc₀)
    by_cases hpi : i = place
    · by_cases hpj : j = place
      · exact hpi.trans hpj.symm
      · rw [hpi, Function.update_self] at hi
        rw [Function.update_of_ne hpj] at hj
        rw [hpi] at hkey ⊢
        exact (hclash j answer' answer hj hi hc' hc hkey.symm).symm
    · rw [Function.update_of_ne hpi] at hi
      by_cases hpj : j = place
      · rw [hpj, Function.update_self] at hj
        rw [hpj] at hkey ⊢
        exact hclash i answer answer' hi hj hc hc' hkey
      · rw [Function.update_of_ne hpj] at hj
        exact h.once i j answer answer' hi hj hc hc' hkey

variable [HexDigest]

/-- **Every action keeps the invariant.** -/
theorem ServerSound.act (h : ServerSound asRead calls s) {action : Action}
    (hread : asRead → s.asRead action) : ServerSound asRead calls (s.act calls action) := by
  cases action with
  | control step =>
      have hadv := h.toSound.act_advances hread
      exact { h.toSound.act hread with
        stages := fun i => (h.stages i).advances hadv
        once := h.once }
  | serve place turn =>
      have hheld : asRead → ∀ held ∈ (s.stage place).held?, held ∈ s.db.approvals :=
        fun hr held hmem => Table.mem_of_get?_eq_some (hread hr held hmem)
      have hturn := Tx.wp_iff.mp (wp_turn h.bindings (h.stages place) hheld turn)
      rcases hrun : ((calls place).turn (s.stage place) turn).run (Session.opened s.db) with
        ⟨e | stage', t⟩
      · have hhalted := hturn.2 e t hrun
        simp only [Server.act, InSession.serve, hrun]
        refine h.served hhalted.1 place (stageSound_of_not ?_ ?_) ?_
        · exact fun _ _ _ _ h => by cases h
        · exact fun _ h => by cases h
        · exact fun _ h => by cases h
      · have hsound := hturn.1 stage' t hrun
        simp only [Server.act, InSession.serve, hrun]
        exact h.served hsound.advances place hsound.sound hsound.created

/-- **The invariant holds after every list of actions**; and the database is sound if everything that
happens finds the requests as the sessions hold them. -/
theorem serverSound_serveAll {actions : List Action} (hread : asRead → ActsAsRead calls actions) :
    ServerSound asRead calls (serveAll calls actions) := by
  have hinitial : ServerSound asRead calls {} := by
    refine ⟨Served.sound_initial, fun i => stageSound_of_not ?_ ?_, fun i j _ _ h => by cases h⟩
    · exact fun _ _ _ _ h => by cases h
    · exact fun _ h => by cases h
  have hsteps : EveryStep (Server.act calls) (fun s action => asRead → s.asRead action) {} actions :=
    everyStep_imp hread
  exact hsteps.invariant hinitial fun s action hact hs => hs.act hact

/-- What is answered stands, however the sessions hold the requests. -/
theorem serverSound_any (calls : ℕ → CreationCall) (actions : List Action) :
    ServerSound False calls (serveAll calls actions) :=
  serverSound_serveAll fun h => h.elim

/-- The database is sound where everything that happens finds the requests as the sessions hold
them. -/
theorem invariant_serveAll {actions : List Action} (hread : ActsAsRead calls actions) :
    Invariant (serveAll calls actions).db.toTables :=
  (serverSound_serveAll fun _ : True => hread).sound trivial

/-- A request that was answered gets no other answer. -/
theorem act_ended {i : ℕ} {result : Except Exn Answer} (h : s.stage i = .ended result)
    (action : Action) : (s.act calls action).stage i = .ended result := by
  cases action with
  | control step => exact h
  | serve place turn =>
      by_cases hi : i = place
      · subst hi
        simp only [Server.act, Function.update_self, h]
        cases calls i <;> rfl
      · simp only [Server.act, Function.update_of_ne hi]
        exact h

/-- An answer stays the answer. -/
theorem serveAll_ended {i : ℕ} {result : Except Exn Answer} {actions : List Action}
    (h : (serveAll calls actions).stage i = .ended result) (later : List Action) :
    (serveAll calls (actions ++ later)).stage i = .ended result := by
  induction later using List.reverseRecOn with
  | nil =>
      rw [List.append_nil]
      exact h
  | append_singleton later action ih =>
      rw [← List.append_assoc, serveAll, List.foldl_append]
      exact act_ended ih action

/-! ### Two confirmations at once -/

/-- The answer of a request that has one. -/
def Stage.answer? : Stage → Option Answer
  | .ended (.ok answer) => some answer
  | _ => none

omit [Python] [HexDigest] in
theorem Stage.answer?_eq_some {stage : Stage} {answer : Answer} (h : stage.answer? = some answer) :
    stage = .ended (.ok answer) := by
  cases stage with
  | ended result =>
      cases result with
      | ok a => exact congrArg (fun a => Stage.ended (.ok a)) (Option.some.inj h)
      | error e => cases h
  | _ => cases h

section Sample

/-- The candidate is to be downloaded. -/
def confirmCall : ConfirmCall where
  candidateId := "candidate-1"
  request := { acknowledgesHnr := true, acknowledgesSeeding := true, acknowledgesPlanOnly := true }
  idempotencyKey := "keykeykeykeykeykeykey"
  actor := "admin"

/-- A turn on a downloader that raises no objection. -/
def confirmTurn : Turn where
  settings := executorSettings
  rows := listedRows
  replies := cleanReplies
  evaluatedAt := 1
  clock := fun _ => 1
  newId := fun n => rowId (Fin.ofNat 10 n)
  secret := "secretsecretsecretsecretsecret"
  seen := (true, true)

/-- Two confirmations under one key: both find nothing, both open the request, the first one creates
its execution, and the second one, whose session holds the request as it was, comes upon its plan and
looks again. -/
def confirmActions : List Action :=
  [.serve 0 confirmTurn, .serve 1 confirmTurn, .serve 0 confirmTurn, .serve 1 confirmTurn,
    .serve 0 confirmTurn, .serve 1 confirmTurn, .serve 1 confirmTurn]

omit [Python] [HexDigest] in
/-- The answers of the two confirmations. -/
theorem confirmActions_answers (i : Fin 2) :
    ∃ answer e,
      (@serveAll asciiPython zeroHexDigest (fun _ => .confirm confirmCall) confirmActions).stage
        i.val = .ended (.ok answer) ∧
      answer.execution = some e ∧ (answer.executionCreated = true ↔ i = 0) := by
  have hanswer : ((@serveAll asciiPython zeroHexDigest (fun _ => .confirm confirmCall)
      confirmActions).stage i.val).answer?.any
        (fun answer => answer.execution.isSome && (answer.executionCreated == decide (i = 0))) =
          true := by
    revert i
    decide +kernel
  obtain ⟨answer, hstage, hboth⟩ := (Option.any_eq_true _ _).mp hanswer
  obtain ⟨hsome, hcreated⟩ := Bool.and_eq_true_iff.mp hboth
  obtain ⟨e, he⟩ := Option.isSome_iff_exists.mp hsome
  refine ⟨answer, e, Stage.answer?_eq_some hstage, he, ?_⟩
  rw [eq_of_beq hcreated, decide_eq_true_iff]

end Sample

/-! ### What the answers say -/

/-- **An answer stands**: whatever happens later, the execution answered is stored, bound to the
request, the intent and the plan that it was created from, and the only one of them and of the key;
and it is the one that was asked for. -/
theorem answer_stands (calls : ℕ → CreationCall) (actions later : List Action) {i : ℕ}
    {answer : Answer} (hi : (serveAll calls actions).stage i = .ended (.ok answer))
    {e : DownloadExecution} (he : answer.execution = some e) :
    Asked (serveAll calls (actions ++ later)).db (calls i) e ∧
      ∃ row ∈ (serveAll calls (actions ++ later)).db.executions, ∃ a intent plan,
        Bound (serveAll calls (actions ++ later)).db.toTables row a intent plan ∧
        fixedExecution row = fixedExecution e ∧ a.id = answer.approvalId ∧
        intent.status = .consumed ∧
        row.idempotencyKeySha256 = hashSecret (calls i).idempotencyKey ∧
        ∀ other ∈ (serveAll calls (actions ++ later)).db.executions,
          other.approvalId = row.approvalId ∨ other.intentId = row.intentId ∨
            other.idempotencyKeySha256 = row.idempotencyKeySha256 → other = row := by
  have hserver := serverSound_any calls (actions ++ later)
  have hsound := hserver.bindings
  obtain ⟨⟨row, hrow, hfixed⟩, hkey, hid, hasked⟩ :=
    ((hserver.stages i).answered answer (serveAll_ended hi later)).2 e he
  obtain ⟨a, intent, plan, hbound⟩ := hsound.bound row hrow
  refine ⟨hasked, row, hrow, a, intent, plan, hbound, hfixed, ?_, ?_, ?_, ?_⟩
  · exact hbound.approval_id.trans ((fixedExecution_approvalId hfixed).trans hid)
  · exact hsound.used row hrow intent hbound.intent hbound.intent_id
  · exact (fixedExecution_key hfixed).trans hkey
  · rintro other hother (h | h | h)
    · exact hsound.approval_unique other hother row hrow h
    · exact hsound.intent_unique other hother row hrow h
    · exact hsound.key_unique other hother row hrow h

omit [Python] [HexDigest] in
/-- The answer of the first of the two confirmations stands, although a third one comes. -/
theorem answer_stands_sample :
    ∃ row ∈ (@serveAll asciiPython zeroHexDigest (fun _ => .confirm confirmCall)
        (confirmActions ++ [.serve 2 confirmTurn])).db.executions,
      row.idempotencyKeySha256 = hashSecret "keykeykeykeykeykeykey" := by
  obtain ⟨answer, e, hstage, he, -⟩ := confirmActions_answers 0
  obtain ⟨-, row, hrow, -, -, -, -, -, -, -, hkey, -⟩ := @answer_stands asciiPython zeroHexDigest
    (fun _ => .confirm confirmCall) confirmActions [.serve 2 confirmTurn] 0 answer hstage e he
  exact ⟨row, hrow, hkey⟩

/-- **Requests under one key are answered with one execution**, and one of them at most has created
it. -/
theorem answers_agree (calls : ℕ → CreationCall) (actions : List Action) {i j : ℕ}
    {answer answer' : Answer} (hi : (serveAll calls actions).stage i = .ended (.ok answer))
    (hj : (serveAll calls actions).stage j = .ended (.ok answer')) {e e' : DownloadExecution}
    (he : answer.execution = some e) (he' : answer'.execution = some e')
    (hkey : (calls i).idempotencyKey = (calls j).idempotencyKey) :
    fixedExecution e = fixedExecution e' ∧ answer.approvalId = answer'.approvalId ∧
      (answer.executionCreated = true → answer'.executionCreated = true → i = j) := by
  have hserver := serverSound_any calls actions
  obtain ⟨⟨row, hrow, hfixed⟩, hrowKey, hid, -⟩ := ((hserver.stages i).answered answer hi).2 e he
  obtain ⟨⟨row', hrow', hfixed'⟩, hrowKey', hid', -⟩ :=
    ((hserver.stages j).answered answer' hj).2 e' he'
  have hsame : row = row' := by
    refine hserver.bindings.key_unique row hrow row' hrow' ?_
    rw [fixedExecution_key hfixed, fixedExecution_key hfixed', hrowKey, hrowKey', hkey]
  subst hsame
  have hfixedEq := hfixed.symm.trans hfixed'
  refine ⟨hfixedEq, ?_, fun hc hc' => hserver.once i j answer answer' hi hj hc hc' hkey⟩
  rw [← hid, ← hid']
  exact fixedExecution_approvalId hfixedEq

omit [Python] [HexDigest] in
/-- The two confirmations are answered with one execution, which the first one has created. -/
theorem answers_agree_sample :
    ∃ answer answer' e e',
      (@serveAll asciiPython zeroHexDigest (fun _ => .confirm confirmCall) confirmActions).stage 0 =
        .ended (.ok answer) ∧
      (@serveAll asciiPython zeroHexDigest (fun _ => .confirm confirmCall) confirmActions).stage 1 =
        .ended (.ok answer') ∧
      answer.execution = some e ∧ answer'.execution = some e' ∧
      answer.executionCreated = true ∧ answer'.executionCreated = false ∧
      fixedExecution e = fixedExecution e' := by
  obtain ⟨answer, e, hstage, he, hcreated⟩ := confirmActions_answers 0
  obtain ⟨answer', e', hstage', he', hcreated'⟩ := confirmActions_answers 1
  have hagree := @answers_agree asciiPython zeroHexDigest (fun _ => .confirm confirmCall)
    confirmActions 0 1 answer answer' hstage hstage' e e' he he' rfl
  refine ⟨answer, answer', e, e', hstage, hstage', he, he', hcreated.mpr rfl, ?_, hagree.1⟩
  exact Bool.eq_false_iff.mpr fun h => absurd (hcreated'.mp h) (by decide)

/-! ### A request that is made again -/

section Again

variable {actions : List Action} {e : DownloadExecution} {idempotencyKey : String}

omit [HexDigest] in
/-- A request to execute a plan is the one that an execution was created for. -/
structure SameRequest (db : Db) (e : DownloadExecution) (approvalId : String)
    (request : DownloadExecutionCreateRequest) : Prop where
  approvalId_eq : e.approvalId = approvalId
  intentId_eq : e.intentId = request.intentId
  origin : e.origin = .manual
  nonce : ∃ i ∈ db.intents, i.id = e.intentId ∧ i.nonceSha256 = hashSecret request.nonce

omit [HexDigest] in
/-- The hash of a request says which request it is. -/
theorem requestHash_eq_iff {a : ApprovalRequest} {i : ExecutionIntent} {p : DownloadPlan}
    (hbound : Bound db.toTables e a i p)
    (hkey : e.idempotencyKeySha256 = hashSecret idempotencyKey) (approvalId : String)
    (request : DownloadExecutionCreateRequest) :
    (e.approvalId = approvalId ∧ e.intentId = request.intentId ∧
        e.requestHash = executionRequestHash approvalId request.intentId
          (hashSecret request.nonce) (hashSecret idempotencyKey)) ↔
      SameRequest db e approvalId request := by
  obtain ⟨-, -, -, -, -, -, -, -, -, hhash⟩ := hbound.bound
  constructor
  · rintro ⟨rfl, hintent, hsame⟩
    rw [hhash, ← hintent, hkey] at hsame
    have hdocument := Digest.sha256.inj hsame
    simp only [ExecutionRequestDocument.mk.injEq, true_and] at hdocument
    obtain ⟨hnonce, horigin⟩ := hdocument
    refine ⟨rfl, hintent, ?_, i, hbound.intent, hbound.intent_id, hnonce⟩
    cases h : e.origin with
    | manual => rfl
    | automation =>
        rw [h] at horigin
        cases horigin
  · rintro ⟨rfl, hintent, horigin, j, hj, hid, hnonce⟩
    obtain rfl : j = i := Table.eq_of_key_eq hj hbound.intent (hid.trans hbound.intent_id.symm)
    refine ⟨rfl, hintent, ?_⟩
    rw [hhash, ← hintent, hkey, hnonce, horigin]
    rfl

omit [HexDigest] in
/-- The execution under a key is found. -/
theorem executionOfKey_of_mem (hs : Invariant db.toTables) (he : e ∈ db.executions) :
    executionOfKey db.toTables e.idempotencyKeySha256 = some e :=
  Table.find?_eq_some_of_unique he (by simp) fun x hx hkey =>
    hs.key_unique x hx e he (by simpa using hkey)

omit [HexDigest] in
/-- A request to execute a plan under the key of an execution, with the first of its two lookups. -/
theorem wp_executeApprovedPlan_again (hs : Invariant db.toTables) (he : e ∈ db.executions)
    (hvalid : isIdempotencyKey idempotencyKey = true)
    (hkey : e.idempotencyKeySha256 = hashSecret idempotencyKey) (approvalId : String)
    (request : DownloadExecutionCreateRequest) (settings : Settings) (actor : String)
    (newId : Uuid) (now : DateTime) (second : Bool) :
    Tx.wp (executeApprovedPlan approvalId request idempotencyKey settings { actor := actor } newId
        now (true, second))
      (fun r db' => (r = (e, false) ∧ db' = db) ∧ SameRequest db e approvalId request)
      (fun error db' => (error = .app (conflict "IDEMPOTENCY_KEY_REUSED"
          "Idempotency-Key 已被其他执行请求使用") ∧ db' = db) ∧
        ¬ SameRequest db e approvalId request) db := by
  obtain ⟨a, i, p, hbound⟩ := hs.bound e he
  have hfound := executionOfKey_of_mem hs he
  rw [hkey] at hfound
  have hiff := requestHash_eq_iff hbound hkey approvalId request
  simp only [executeApprovedPlan, Tx.wp_bind, wp_liftApp, Tx.wp_get]
  refine ⟨fun _ _ => ⟨fun keyDigest hdigest => ?_, fun error herror => ?_⟩, fun error herror => ?_⟩
  · obtain rfl := idempotencyKeyDigest_ok hdigest
    have hlook : racyLookup true (executionOfKey db.toTables (hashSecret idempotencyKey)) = some e :=
      hfound
    rw [hlook]
    simp only [replayExecution, Tx.wp_bind, Tx.wp_get, wp_liftApp, Tx.wp_pure,
      requireSameIdempotentRequest]
    refine ⟨fun _ hsame => ?_, fun error herror => ?_⟩
    · obtain ⟨_, hrequest, -⟩ := bind_eq_ok.mp hsame
      exact ⟨⟨trivial, trivial⟩, hiff.mp (ensure_eq_ok.mp hrequest)⟩
    · rcases bind_eq_error.mp herror with hrefused | ⟨_, -, hverified⟩
      · obtain ⟨hnot, rfl⟩ := ensure_eq_error.mp hrefused
        exact ⟨⟨rfl, trivial⟩, fun h => hnot (hiff.mpr h)⟩
      · rw [hs.verifyDownloadExecution he] at hverified
        cases hverified
  · simp only [idempotencyKeyDigest] at herror
    rcases bind_eq_error.mp herror with hnot | ⟨_, -, hnot⟩
    · exact absurd hvalid (ensure_eq_error.mp hnot).1
    · cases hnot
  · cases herror

/-- **A request to execute a plan that is made again** under a key is answered with the execution of
the key if it is the same request, and it is refused otherwise; neither changes anything, whatever
the settings are, the time, and who asks. -/
theorem executed_again (calls : ℕ → CreationCall) (actions : List Action)
    (hread : ActsAsRead calls actions) (he : e ∈ (serveAll calls actions).db.executions)
    (hvalid : isIdempotencyKey idempotencyKey = true)
    (hkey : e.idempotencyKeySha256 = hashSecret idempotencyKey) (approvalId : String)
    (request : DownloadExecutionCreateRequest) (settings : Settings) (actor : String)
    (newId : Uuid) (now : DateTime) (second : Bool) :
    (SameRequest (serveAll calls actions).db e approvalId request →
      (executeApprovedPlan approvalId request idempotencyKey settings { actor := actor } newId now
        (true, second)).run (serveAll calls actions).db =
          (.ok (e, false), (serveAll calls actions).db)) ∧
    (¬ SameRequest (serveAll calls actions).db e approvalId request →
      (executeApprovedPlan approvalId request idempotencyKey settings { actor := actor } newId now
        (true, second)).run (serveAll calls actions).db =
          (.error (.app (conflict "IDEMPOTENCY_KEY_REUSED" "Idempotency-Key 已被其他执行请求使用")),
            (serveAll calls actions).db)) := by
  have hwp := wp_executeApprovedPlan_again (invariant_serveAll hread) he hvalid hkey
    approvalId request settings actor newId now second
  rcases hrun : (executeApprovedPlan approvalId request idempotencyKey settings { actor := actor }
    newId now (true, second)).run (serveAll calls actions).db with ⟨error | r, db'⟩
  · obtain ⟨⟨rfl, rfl⟩, hnot⟩ := hwp.error hrun
    exact ⟨fun h => absurd h hnot, fun _ => rfl⟩
  · obtain ⟨⟨rfl, rfl⟩, hsame⟩ := hwp.ok hrun
    exact ⟨fun _ => rfl, fun hnot => absurd hsame hnot⟩

/-- One confirmation. -/
def oneConfirmation : List Action :=
  [.serve 0 confirmTurn, .serve 0 confirmTurn, .serve 0 confirmTurn]

omit [Python] [HexDigest] in
/-- Nothing comes in between. -/
theorem oneConfirmation_asRead :
    @ActsAsRead asciiPython zeroHexDigest (fun _ => .confirm confirmCall) oneConfirmation := by
  decide +kernel

omit [Python] [HexDigest] in
/-- The execution of the sample, and its intent. -/
theorem oneConfirmation_execution :
    ∃ e ∈ (@serveAll asciiPython zeroHexDigest (fun _ => .confirm confirmCall)
        oneConfirmation).db.executions,
      e.idempotencyKeySha256 = hashSecret "keykeykeykeykeykeykey" ∧
      @SameRequest (@serveAll asciiPython zeroHexDigest (fun _ => .confirm confirmCall)
        oneConfirmation).db e e.approvalId
        { intentId := e.intentId, nonce := "ei1_secretsecretsecretsecretsecret" } := by
  have hany : (@serveAll asciiPython zeroHexDigest (fun _ => .confirm confirmCall)
      oneConfirmation).db.executions.rows.any
        (fun e => e.idempotencyKeySha256 = hashSecret "keykeykeykeykeykeykey" ∧
          e.origin = .manual ∧ (@serveAll asciiPython zeroHexDigest (fun _ => .confirm confirmCall)
            oneConfirmation).db.intents.rows.any (fun i => i.id = e.intentId ∧
              i.nonceSha256 = hashSecret "ei1_secretsecretsecretsecretsecret")) = true := by
    decide +kernel
  obtain ⟨e, hrow, hboth⟩ := List.any_eq_true.mp hany
  obtain ⟨hkey, horigin, hintents⟩ := of_decide_eq_true hboth
  obtain ⟨i, hi, hnonce⟩ := List.any_eq_true.mp hintents
  have hnonce := of_decide_eq_true hnonce
  exact ⟨e, Table.mem_rows.mp hrow, hkey, rfl, rfl, horigin, i, Table.mem_rows.mp hi, hnonce⟩

omit [Python] [HexDigest] in
/-- The nonce that the confirmation has used can be used again under its key, and it changes
nothing. -/
theorem executed_again_sample :
    ∃ e ∈ (@serveAll asciiPython zeroHexDigest (fun _ => .confirm confirmCall)
        oneConfirmation).db.executions,
      (@executeApprovedPlan asciiPython e.approvalId
        { intentId := e.intentId, nonce := "ei1_secretsecretsecretsecretsecret" }
        "keykeykeykeykeykeykey" executorSettings { actor := "admin" } (rowId 9) 9
        (true, true)).run (@serveAll asciiPython zeroHexDigest (fun _ => .confirm confirmCall)
          oneConfirmation).db =
        (.ok (e, false), (@serveAll asciiPython zeroHexDigest (fun _ => .confirm confirmCall)
          oneConfirmation).db) := by
  obtain ⟨e, he, hkey, hsame⟩ := oneConfirmation_execution
  exact ⟨e, he, (@executed_again asciiPython zeroHexDigest e "keykeykeykeykeykeykey"
    (fun _ => .confirm confirmCall) oneConfirmation oneConfirmation_asRead he (by decide) hkey
    e.approvalId
    { intentId := e.intentId, nonce := "ei1_secretsecretsecretsecretsecret" } executorSettings
    "admin" (rowId 9) 9 true).1 hsame⟩

omit [HexDigest] in
/-- A confirmation is one that an execution may be the answer to: the candidate, the launch mode and
the time that its request was to last are those of the execution, and what the site asks the operator
to acknowledge is acknowledged. -/
structure SameConfirmation (db : Db) (e : DownloadExecution) (call : ConfirmCall)
    (a : ApprovalRequest) : Prop where
  mem : a ∈ db.approvals
  id_eq : a.id = e.approvalId
  candidate : a.torrentCandidateId = call.candidateId
  launchMode : e.launchMode = call.request.launchMode
  acknowledged : ∃ snapshot, verifySnapshot a = .ok snapshot ∧
    validateManualApprovalAcknowledgements snapshot call.request.approveRequestBody = .ok ()
  lasting : ∀ m ∈ call.request.expiresInMinutes, a.expiresAt - a.requestedAt = minutes m

omit [HexDigest] in
/-- A request that is there and sound is found. -/
theorem wp_getApprovalOr404_of_mem {a : ApprovalRequest} {snapshot : ApprovalCandidateSnapshot}
    (ha : a ∈ db.approvals) (hsnapshot : verifySnapshot a = .ok snapshot) {approvalId : String}
    (hid : a.id = approvalId) :
    Tx.wp (getApprovalOr404 approvalId) (fun b db' => b = a ∧ db' = db) (fun _ _ => False) db := by
  have hget : db.approvals.get? approvalId = some a := Table.get?_eq_some.mpr ⟨ha, hid⟩
  simp only [getApprovalOr404, Tx.wp_bind, Tx.wp_get, Tx.wp_ofOption, wp_liftApp, Tx.wp_pure, hget]
  refine ⟨?_, fun h => by cases h⟩
  rintro _ ⟨⟩
  refine ⟨fun _ _ => ⟨rfl, trivial⟩, fun error herror => ?_⟩
  rw [hsnapshot] at herror
  cases herror

omit [HexDigest] in
/-- The execution under a key is found for its candidate and its launch mode. -/
theorem wp_findIdempotentCandidateExecution_again (hs : Invariant db.toTables)
    (he : e ∈ db.executions) {call : ConfirmCall}
    (hvalid : isIdempotencyKey call.idempotencyKey = true)
    (hkey : e.idempotencyKeySha256 = hashSecret call.idempotencyKey) {a : ApprovalRequest}
    (ha : a ∈ db.approvals) (hid : a.id = e.approvalId) :
    Tx.wp (findIdempotentCandidateExecution call.candidateId call.idempotencyKey
        call.request.launchMode)
      (fun found db' => found = some e ∧ db' = db ∧ a.torrentCandidateId = call.candidateId ∧
        e.launchMode = call.request.launchMode)
      (fun exn db' => exn = .app (conflict "IDEMPOTENCY_KEY_REUSED"
          "Idempotency-Key 已被其他确认下载请求使用") ∧ db' = db ∧
        ¬ (a.torrentCandidateId = call.candidateId ∧ e.launchMode = call.request.launchMode))
      db := by
  have hfound := executionOfKey_of_mem hs he
  rw [hkey] at hfound
  have hget : db.approvals.get? e.approvalId = some a := Table.get?_eq_some.mpr ⟨ha, hid⟩
  simp only [findIdempotentCandidateExecution, Tx.wp_bind, wp_liftApp, Tx.wp_get]
  refine ⟨fun keyDigest hdigest => ?_, fun error herror => ?_⟩
  · obtain rfl := idempotencyKeyDigest_ok hdigest
    rw [hfound]
    simp only [Tx.wp_bind, wp_requireApp, wp_liftApp, Tx.wp_pure, hs.verifyDownloadExecution he,
      hget, Option.mem_def, Option.some.injEq, exists_eq_left']
    refine ⟨fun hsame => ⟨fun e' he' => ?_, fun error herror => by cases herror⟩,
      fun hnot => ⟨trivial, trivial, hnot⟩⟩
    cases he'
    exact ⟨rfl, trivial, hsame⟩
  · simp only [idempotencyKeyDigest] at herror
    rcases bind_eq_error.mp herror with hnot | ⟨_, -, hnot⟩
    · exact absurd hvalid (ensure_eq_error.mp hnot).1
    · cases hnot

omit [Python] [HexDigest] in
/-- Whether a request was to last as long as it does, with an error of one's own. -/
theorem compatibility_mapError {a : ApprovalRequest} {request : ApprovalCreateRequest}
    {f : AppError → AppError} :
    ((validateApprovalCreateRequestCompatibility a request).mapError f = .ok () ↔
        ∀ m ∈ request.expiresInMinutes, a.expiresAt - a.requestedAt = minutes m) ∧
      ∀ error, (validateApprovalCreateRequestCompatibility a request).mapError f = .error error →
        (∃ error', error = f error') ∧
          ¬ ∀ m ∈ request.expiresInMinutes, a.expiresAt - a.requestedAt = minutes m := by
  unfold validateApprovalCreateRequestCompatibility ensure
  by_cases h : ∀ m ∈ request.expiresInMinutes, a.expiresAt - a.requestedAt = minutes m
  · rw [if_pos h]
    exact ⟨⟨fun _ => h, fun _ => rfl⟩, fun error herror => by cases herror⟩
  · rw [if_neg h]
    refine ⟨⟨(fun herror => by cases herror), fun hlasting => absurd hlasting h⟩, ?_⟩
    rintro error ⟨⟩
    exact ⟨⟨_, rfl⟩, h⟩

omit [HexDigest] in
/-- A look for the execution under the key of a confirmation. -/
theorem wp_lookConfirmation_again (hs : Invariant db.toTables) (he : e ∈ db.executions)
    {call : ConfirmCall} (hvalid : isIdempotencyKey call.idempotencyKey = true)
    (hkey : e.idempotencyKeySha256 = hashSecret call.idempotencyKey) :
    Tx.wp (lookConfirmation call)
      (fun found db' => (found = some
          { approvalId := e.approvalId, execution := some e
            approvalCreated := false, executionCreated := false } ∧ db' = db) ∧
        ∃ a, SameConfirmation db e call a)
      (fun exn db' => (∃ error, exn = .app error ∧
          (error.errorCode = "IDEMPOTENCY_KEY_REUSED" ∨
            error.errorCode = "APPROVAL_ACKNOWLEDGEMENTS_REQUIRED")) ∧ db' = db ∧
        ¬ ∃ a, SameConfirmation db e call a) db := by
  obtain ⟨a, i, p, hbound⟩ := hs.bound e he
  obtain ⟨snapshot, hsnapshot⟩ := (hs.approvals a hbound.approval).verified
  -- the request of the execution is the only one that the confirmation can be for
  have honly : ∀ b, SameConfirmation db e call b → b = a := fun b hb =>
    Table.eq_of_key_eq hb.mem hbound.approval (hb.id_eq.trans hbound.approval_id.symm)
  simp only [lookConfirmation, Tx.wp_bind]
  refine Tx.wp_mono (wp_findIdempotentCandidateExecution_again hs he hvalid hkey hbound.approval
    hbound.approval_id) (fun found db' h => ?_) fun exn db' h => ?_
  · obtain ⟨rfl, rfl, hcandidate, hmode⟩ := h
    simp only [Tx.wp_bind, wp_liftApp, Tx.wp_pure]
    refine Tx.wp_mono (wp_getApprovalOr404_of_mem hbound.approval hsnapshot hbound.approval_id)
      (fun b db'' h => ?_) fun _ _ h => h.elim
    obtain ⟨rfl, rfl⟩ := h
    refine ⟨fun snapshot' hsnapshot' => ⟨fun _ hack => ⟨fun _ hcompat => ?_, fun error herror => ?_⟩,
      fun error herror => ?_⟩, fun error herror => ?_⟩
    · refine ⟨⟨?_, rfl⟩, b, hbound.approval, hbound.approval_id, hcandidate, hmode,
        ⟨snapshot', hsnapshot', hack⟩, compatibility_mapError.1.mp hcompat⟩
      rw [hbound.approval_id]
    · obtain ⟨⟨error', rfl⟩, hnot⟩ := compatibility_mapError.2 error herror
      refine ⟨⟨_, rfl, Or.inl rfl⟩, rfl, ?_⟩
      rintro ⟨c, hc⟩
      obtain rfl := honly c hc
      exact hnot hc.lasting
    · obtain ⟨hnot, rfl⟩ := ensure_eq_error.mp herror
      refine ⟨⟨_, rfl, Or.inr rfl⟩, rfl, ?_⟩
      rintro ⟨c, hc⟩
      obtain rfl := honly c hc
      obtain ⟨snapshot₂, hsnapshot₂, hack⟩ := hc.acknowledged
      obtain rfl : snapshot' = snapshot₂ := Except.ok.inj (hsnapshot'.symm.trans hsnapshot₂)
      exact hnot (ensure_eq_ok.mp hack)
    · rw [hsnapshot] at herror
      cases herror
  · obtain ⟨rfl, rfl, hnot⟩ := h
    refine ⟨⟨_, rfl, Or.inl rfl⟩, rfl, ?_⟩
    rintro ⟨b, hb⟩
    obtain rfl := honly b hb
    exact hnot ⟨hb.candidate, hb.launchMode⟩

/-- **A confirmation that is made again** under a key is answered with the execution of the key if it
asks for the same, and it is refused otherwise; neither changes anything. -/
theorem confirmed_again (calls : ℕ → CreationCall) (actions : List Action)
    (hread : ActsAsRead calls actions) (he : e ∈ (serveAll calls actions).db.executions) {call : ConfirmCall}
    (hvalid : isIdempotencyKey call.idempotencyKey = true)
    (hkey : e.idempotencyKeySha256 = hashSecret call.idempotencyKey) :
    ((∃ a, SameConfirmation (serveAll calls actions).db e call a) →
      (lookConfirmation call).run (serveAll calls actions).db =
        (.ok (some { approvalId := e.approvalId, execution := some e
                     approvalCreated := false, executionCreated := false }),
          (serveAll calls actions).db)) ∧
    ((¬ ∃ a, SameConfirmation (serveAll calls actions).db e call a) →
      ∃ error : AppError,
        (lookConfirmation call).run (serveAll calls actions).db =
          (.error (.app error), (serveAll calls actions).db) ∧
        (error.errorCode = "IDEMPOTENCY_KEY_REUSED" ∨
          error.errorCode = "APPROVAL_ACKNOWLEDGEMENTS_REQUIRED")) := by
  have hwp := wp_lookConfirmation_again (invariant_serveAll hread) he hvalid hkey
  rcases hrun : (lookConfirmation call).run (serveAll calls actions).db with ⟨exn | found, db'⟩
  · obtain ⟨⟨error, rfl, hcode⟩, rfl, hnot⟩ := hwp.error hrun
    exact ⟨fun h => absurd h hnot, fun _ => ⟨error, rfl, hcode⟩⟩
  · obtain ⟨⟨rfl, rfl⟩, hsame⟩ := hwp.ok hrun
    exact ⟨fun _ => rfl, fun hnot => absurd hsame hnot⟩

omit [Python] [HexDigest] in
/-- A confirmation with another launch mode is refused under the key of the sample. -/
theorem confirmed_again_sample :
    ∃ error : AppError,
      (@lookConfirmation asciiPython
        { confirmCall with
          request := { confirmCall.request with launchMode := .addPaused } }).run
        (@serveAll asciiPython zeroHexDigest (fun _ => .confirm confirmCall) oneConfirmation).db =
        (.error (.app error), (@serveAll asciiPython zeroHexDigest (fun _ => .confirm confirmCall)
          oneConfirmation).db) := by
  obtain ⟨e, he, hkey, -⟩ := oneConfirmation_execution
  have hmode : (@serveAll asciiPython zeroHexDigest (fun _ => .confirm confirmCall)
      oneConfirmation).db.executions.rows.all (fun e => e.launchMode = .startImmediately) = true := by
    decide +kernel
  have hmode' := of_decide_eq_true (List.all_eq_true.mp hmode e (Table.mem_rows.mpr he))
  have h := @confirmed_again asciiPython zeroHexDigest e (fun _ => .confirm confirmCall)
    oneConfirmation oneConfirmation_asRead he
    { confirmCall with request := { confirmCall.request with launchMode := .addPaused } }
    (by decide) hkey
  obtain ⟨error, hrun, -⟩ := h.2 fun ⟨a, ha⟩ => by
    have hother := @SameConfirmation.launchMode asciiPython _ _ _ _ ha
    rw [hmode'] at hother
    cases hother
  exact ⟨error, hrun⟩

end Again

end LibSeek.Api
