/-
The store of the download executions.

The user interface keeps the execution that it shows in a store.  Loading an execution, loading that
of an approval, submitting an intent and asking for a reconciliation are calls that wait for the
server and then write to the same field.  Two generation counters are to keep an answer from being
written after a newer call: one for what is loaded, one for the actions; a reconciliation has none.

Main definitions:

* `Frontend.Executions.State`, `Frontend.Executions.Call`, `Frontend.Executions.Task` — the fields
  of the store, its calls, and the requests that wait;
* `Frontend.Executions.store` — the store as a system of calls and answers;
* `Frontend.Executions.Subject`, `Frontend.Executions.latest` — what a call is about, and what the
  most recent of the four calls was about;
* `Frontend.Executions.Accepted` — the answer to a task would be written;
* `Frontend.Executions.InTurn` — the condition on the events of a run.

Main results:

* `Frontend.Executions.accepted_since` — which calls were made since the one whose answer is
  accepted;
* `Frontend.Executions.selected_is_latest` — **what is shown is what the most recent call was
  about**, in every run whose events are in turn.
-/

import LibSeek.Lib.AsyncStore

set_option relaxedAutoImplicit false
set_option autoImplicit false

namespace LibSeek.Frontend

open LibSeek.Lib

/-- What a request was rejected with: the message and the name where it is an `Error`, and the
status and code of an `ApiError`. -/
structure Caught where
  message : Option String := none
  name : Option String := none
  status : Option ℕ := none
  errorCode : Option String := none
  deriving DecidableEq, Repr

/-- `caught instanceof Error ? caught.message : fallback`. -/
def Caught.text (caught : Caught) (fallback : String) : String :=
  caught.message.getD fallback

/-- `new Error(message)`. -/
def newError (message : String) : Caught := { message := some message, name := some "Error" }

/-- `isAbortError`. -/
def isAbortError (caught : Caught) : Bool := caught.name = some "AbortError"

/-- `DownloadLaunchMode`. -/
inductive DownloadLaunchMode where
  | addPaused
  | startImmediately
  deriving DecidableEq, Repr

namespace Executions

/-! ### What the server sends -/

/-- `DownloadExecution`, with the status as the server writes it. -/
structure DownloadExecution where
  id : String
  approvalId : String
  intentId : String
  status : String
  deriving DecidableEq, Repr

/-- `PublicExecutionIntent`. -/
structure PublicExecutionIntent where
  id : String
  approvalId : String
  launchMode : DownloadLaunchMode
  deriving DecidableEq, Repr

/-- `ExecutionIntent`. -/
structure ExecutionIntent extends PublicExecutionIntent where
  nonce : String
  deriving DecidableEq, Repr

/-- A page of executions. -/
structure ExecutionPage where
  items : List DownloadExecution
  page : ℕ
  pageSize : ℕ
  total : ℕ
  deriving DecidableEq, Repr

/-- `isExecutionNotFound`. -/
def isExecutionNotFound (caught : Caught) : Bool :=
  caught.status = some 404 && caught.errorCode = some "DOWNLOAD_EXECUTION_NOT_FOUND"

/-! ### The store -/

/-- `IntentSecret`. -/
structure IntentSecret where
  approvalId : String
  intentId : String
  nonce : String
  deriving DecidableEq, Repr

/-- `ApprovalExecutionLookupStatus`. -/
inductive LookupStatus where
  | idle
  | loading
  | loaded
  | notFound
  | error
  deriving DecidableEq, Repr

/-- The fields of the store, apart from those of the polling of the download job. -/
structure State where
  executions : List DownloadExecution := []
  selected : Option DownloadExecution := none
  intent : Option PublicExecutionIntent := none
  page : ℕ := 1
  pageSize : ℕ := 20
  total : ℕ := 0
  loading : Bool := false
  working : Bool := false
  error : Option String := none
  notice : Option String := none
  approvalLookupStatus : LookupStatus := .idle
  intentSecret : Option IntentSecret := none
  generation : ℕ := 0
  actionGeneration : ℕ := 0
  deriving DecidableEq, Repr

/-- The calls of the store. -/
inductive Call where
  | createIntent (approvalId : String) (launchMode : DownloadLaunchMode)
  | executeIntent (approvalId : String) (idempotencyKey : String)
  | discardIntent
  | resetControl
  | loadList (status : Option String) (requestedPage : ℕ)
  | load (executionId : String)
  | loadForApproval (approvalId : String)
  | reconcile (executionId : String) (reason : String)
  deriving DecidableEq, Repr

/-- The requests that wait, with what their calls have remembered. -/
inductive Task where
  | createIntent (approvalId : String) (launchMode : DownloadLaunchMode) (currentAction : ℕ)
  | executeIntent (approvalId : String) (secret : IntentSecret) (idempotencyKey : String)
      (currentAction : ℕ)
  | loadList (status : Option String) (requestedPage pageSize : ℕ) (current : ℕ)
  | load (executionId : String) (current : ℕ)
  | loadForApproval (approvalId : String) (current : ℕ)
  | reconcile (executionId : String) (reason : String)
  deriving DecidableEq, Repr

/-- What a request is answered with, or what it is rejected with. -/
def Answer : Task → Type
  | .createIntent .. => Except Caught ExecutionIntent
  | .loadList .. => Except Caught ExecutionPage
  | _ => Except Caught DownloadExecution

/-- What the store does in one go; nothing of it is seen from outside but its fields. -/
abbrev StoreTurn := Turn State Task Empty

/-- `discardIntent`. -/
def State.discardIntent (s : State) : State :=
  { s with intentSecret := none, intent := none }

/-- `resetControl`. -/
def State.resetControl (s : State) : State :=
  { s.discardIntent with
    generation := s.generation + 1
    actionGeneration := s.actionGeneration + 1
    selected := none
    loading := false
    working := false
    error := none
    notice := none
    approvalLookupStatus := .idle }

/-- The executions with one of them replaced, where it is among them. -/
def replaceExecution (executions : List DownloadExecution) (result : DownloadExecution) :
    List DownloadExecution :=
  match executions with
  | [] => []
  | item :: rest =>
      if item.id = result.id then result :: rest else item :: replaceExecution rest result

/-- `createIntent`, until it waits. -/
def State.createIntent (s : State) (approvalId : String) (launchMode : DownloadLaunchMode) :
    StoreTurn where
  state :=
    { s.discardIntent with
      actionGeneration := s.actionGeneration + 1
      working := true
      error := none
      notice := none }
  tasks := [.createIntent approvalId launchMode (s.actionGeneration + 1)]

/-- The `catch` and `finally` blocks of `createIntent`. -/
def State.createIntentFailed (s : State) (currentAction : ℕ) (caught : Caught) : State :=
  if currentAction = s.actionGeneration then
    { s with error := some (caught.text "创建执行意图失败"), working := false }
  else s

/-- `createIntent`, with its answer. -/
def State.intentCreated (s : State) (approvalId : String) (launchMode : DownloadLaunchMode)
    (currentAction : ℕ) : Except Caught ExecutionIntent → State
  | .error caught => s.createIntentFailed currentAction caught
  | .ok response =>
      if currentAction ≠ s.actionGeneration then s
      else if response.approvalId ≠ approvalId ∨ response.launchMode ≠ launchMode then
        { s with approvalLookupStatus := .error }.createIntentFailed currentAction
          (newError "执行意图响应与当前审批或启动模式不一致，请刷新后重试")
      else
        { s with
          intentSecret := some ⟨approvalId, response.id, response.nonce⟩
          intent := some response.toPublicExecutionIntent
          notice := some "正在准备下载执行"
          working := false }

/-- The secret that `executeIntent` may use for an approval. -/
def State.preparedSecret (s : State) (approvalId : String) : Option IntentSecret :=
  s.intentSecret.filter fun secret =>
    secret.approvalId = approvalId ∧ s.intent.map (·.id) = some secret.intentId

/-- `executeIntent`, until it waits or is refused. -/
def State.executeIntent (s : State) (approvalId idempotencyKey : String) : StoreTurn :=
  match s.preparedSecret approvalId with
  | none => { state := { s with error := some "执行意图不存在、已使用或已离开当前页面，请重新创建" } }
  | some secret =>
      { state :=
          { s.discardIntent with
            actionGeneration := s.actionGeneration + 1
            working := true
            error := none
            notice := none
            selected := none
            approvalLookupStatus := .loading }
        tasks := [.executeIntent approvalId secret idempotencyKey (s.actionGeneration + 1)] }

/-- The `catch` and `finally` blocks of `executeIntent`. -/
def State.executeIntentFailed (s : State) (currentAction : ℕ) (caught : Caught) : State :=
  if currentAction = s.actionGeneration then
    { s with
      selected := none
      approvalLookupStatus := .error
      error := some (caught.text "提交下载执行失败")
      working := false }
  else s

/-- `executeIntent`, with its answer. -/
def State.intentExecuted (s : State) (approvalId : String) (secret : IntentSecret)
    (currentAction : ℕ) : Except Caught DownloadExecution → State
  | .error caught => s.executeIntentFailed currentAction caught
  | .ok result =>
      if currentAction ≠ s.actionGeneration then s
      else if result.approvalId ≠ approvalId ∨ result.intentId ≠ secret.intentId then
        s.executeIntentFailed currentAction
          (newError "下载执行响应与当前审批或执行意图不一致，请刷新后重试")
      else
        let existing := s.executions.any fun item => item.id = result.id
        { s with
          selected := some result
          approvalLookupStatus := .loaded
          executions :=
            if existing then replaceExecution s.executions result else result :: s.executions
          total := if existing then s.total else s.total + 1
          notice := some ("下载执行记录已创建，当前状态：" ++ result.status)
          working := false }

/-- `loadList`, until it waits. -/
def State.loadList (s : State) (status : Option String) (requestedPage : ℕ) : StoreTurn where
  state :=
    { s with
      generation := s.generation + 1
      loading := true
      error := none
      executions := []
      page := requestedPage
      total := 0 }
  tasks := [.loadList status requestedPage s.pageSize (s.generation + 1)]

/-- `loadList`, with its answer. -/
def State.listLoaded (s : State) (current : ℕ) (answer : Except Caught ExecutionPage) : State :=
  if current = s.generation then
    match answer with
    | .ok result =>
        { s with
          executions := result.items
          page := result.page
          pageSize := result.pageSize
          total := result.total
          loading := false }
    | .error caught =>
        { s with
          executions := []
          total := 0
          error := some (caught.text "加载下载执行列表失败")
          loading := false }
  else s

/-- `load`, until it waits. -/
def State.load (s : State) (executionId : String) : StoreTurn where
  state :=
    { s with
      generation := s.generation + 1
      loading := true
      error := none
      notice := none
      selected := none }
  tasks := [.load executionId (s.generation + 1)]

/-- `load`, with its answer. -/
def State.loaded (s : State) (current : ℕ) (answer : Except Caught DownloadExecution) : State :=
  if current = s.generation then
    match answer with
    | .ok result => { s with selected := some result, loading := false }
    | .error caught =>
        { s with
          selected := none
          error := some (caught.text "加载下载执行详情失败")
          loading := false }
  else s

/-- `loadForApproval`, until it waits. -/
def State.loadForApproval (s : State) (approvalId : String) : StoreTurn where
  state :=
    { s.discardIntent with
      generation := s.generation + 1
      actionGeneration := s.actionGeneration + 1
      loading := true
      working := false
      error := none
      notice := none
      selected := none
      approvalLookupStatus := .loading }
  tasks := [.loadForApproval approvalId (s.generation + 1)]

/-- The `catch` and `finally` blocks of `loadForApproval`, where its answer is current. -/
def State.loadForApprovalFailed (s : State) (caught : Caught) : State :=
  if isExecutionNotFound caught then
    { s with selected := none, approvalLookupStatus := .notFound, loading := false }
  else
    { s with
      selected := none
      approvalLookupStatus := .error
      error := some (caught.text "加载审批执行记录失败")
      loading := false }

/-- `loadForApproval`, with its answer. -/
def State.approvalLoaded (s : State) (approvalId : String) (current : ℕ)
    (answer : Except Caught DownloadExecution) : State :=
  if current = s.generation then
    match answer with
    | .error caught => s.loadForApprovalFailed caught
    | .ok result =>
        if result.approvalId ≠ approvalId then
          s.loadForApprovalFailed (newError "下载执行响应与当前审批不一致，请刷新后重试")
        else { s with selected := some result, approvalLookupStatus := .loaded, loading := false }
  else s

/-- `reconcile`, until it waits. -/
def State.reconcile (s : State) (executionId reason : String) : StoreTurn where
  state := { s with working := true, error := none, notice := none }
  tasks := [.reconcile executionId reason]

/-- `reconcile`, with its answer. -/
def State.reconciled (s : State) : Except Caught DownloadExecution → State
  | .ok result =>
      { s with
        selected := some result
        executions := replaceExecution s.executions result
        notice := some "对账请求已提交，等待后台处理"
        working := false }
  | .error caught => { s with error := some (caught.text "提交对账请求失败"), working := false }

/-- A call of the store. -/
def invoke : Call → State → StoreTurn
  | .createIntent approvalId launchMode, s => s.createIntent approvalId launchMode
  | .executeIntent approvalId idempotencyKey, s => s.executeIntent approvalId idempotencyKey
  | .discardIntent, s => { state := s.discardIntent }
  | .resetControl, s => { state := s.resetControl }
  | .loadList status requestedPage, s => s.loadList status requestedPage
  | .load executionId, s => s.load executionId
  | .loadForApproval approvalId, s => s.loadForApproval approvalId
  | .reconcile executionId reason, s => s.reconcile executionId reason

/-- The fields of the store after the answer to a request. -/
def settleState : (t : Task) → Answer t → State → State
  | .createIntent approvalId launchMode currentAction, r, s =>
      s.intentCreated approvalId launchMode currentAction r
  | .executeIntent approvalId secret _ currentAction, r, s =>
      s.intentExecuted approvalId secret currentAction r
  | .loadList _ _ _ current, r, s => s.listLoaded current r
  | .load _ current, r, s => s.loaded current r
  | .loadForApproval approvalId current, r, s => s.approvalLoaded approvalId current r
  | .reconcile _ _, r, s => s.reconciled r

/-- `useExecutionStore`. -/
def store : AsyncStore State Call Task Empty Answer where
  initial := {}
  invoke := invoke
  settle t r s := { state := settleState t r s }

/-! ### What is shown -/

/-- What a call is about: an execution, or the execution of an approval. -/
inductive Subject where
  | execution (id : String)
  | approval (id : String)
  deriving DecidableEq, Repr

/-- An execution belongs to what a call is about. -/
def DownloadExecution.BelongsTo (execution : DownloadExecution) : Subject → Prop
  | .execution id => execution.id = id
  | .approval id => execution.approvalId = id

instance (execution : DownloadExecution) : DecidablePred execution.BelongsTo := fun subject =>
  match subject with
  | .execution id => inferInstanceAs (Decidable (execution.id = id))
  | .approval id => inferInstanceAs (Decidable (execution.approvalId = id))

/-- The subject of the four calls that may show an execution. -/
def Call.subject : Call → Option Subject
  | .load executionId => some (.execution executionId)
  | .loadForApproval approvalId => some (.approval approvalId)
  | .executeIntent approvalId _ => some (.approval approvalId)
  | .reconcile executionId _ => some (.execution executionId)
  | _ => none

/-- What happens to the store. -/
abbrev Event := AsyncEvent Call Task Answer

/-- The store with its requests. -/
abbrev Config := AsyncConfig State Task Empty

/-- The subject of an event. -/
def subjectOf : Event → Option Subject
  | .call operation => operation.subject
  | .settle .. => none

/-- What the most recent of the four calls was about. -/
def latest (events : List Event) : Option Subject :=
  (events.filterMap subjectOf).getLast?

/-- An event that is none of the four calls does not change what the most recent was about. -/
theorem latest_append_none {events : List Event} {e : Event} (h : subjectOf e = none) :
    latest (events ++ [e]) = latest events := by
  simp [latest, List.filterMap_append, h]

/-- One of the four calls is the most recent. -/
theorem latest_append_some {events : List Event} {e : Event} {subject : Subject}
    (h : subjectOf e = some subject) : latest (events ++ [e]) = some subject := by
  simp [latest, List.filterMap_append, h]

/-- **What is shown is what the most recent call was about**, or nothing is. -/
def Shows (selected : Option DownloadExecution) (subject : Option Subject) : Prop :=
  ∀ execution ∈ selected, ∃ about ∈ subject, execution.BelongsTo about

/-- Nothing is shown. -/
theorem shows_none (subject : Option Subject) : Shows none subject :=
  fun _ h => absurd h (by simp)

/-! ### Answers that are accepted -/

/-- The execution that the answer to a request brings, apart from those that are not shown. -/
def answered : (t : Task) → Answer t → Option DownloadExecution
  | .createIntent .., _ => none
  | .loadList .., _ => none
  | .executeIntent .., r => Except.toOption r
  | .load .., r => Except.toOption r
  | .loadForApproval .., r => Except.toOption r
  | .reconcile .., r => Except.toOption r

/-- The answer to a request would be written: its counter has not moved on.  A reconciliation has
none. -/
def Accepted (s : State) : Task → Prop
  | .createIntent _ _ currentAction => currentAction = s.actionGeneration
  | .executeIntent _ _ _ currentAction => currentAction = s.actionGeneration
  | .loadList _ _ _ current => current = s.generation
  | .load _ current => current = s.generation
  | .loadForApproval _ current => current = s.generation
  | .reconcile .. => True

/-- What a request is about. -/
def Task.subject : Task → Option Subject
  | .load executionId _ => some (.execution executionId)
  | .loadForApproval approvalId _ => some (.approval approvalId)
  | .executeIntent approvalId _ _ _ => some (.approval approvalId)
  | .reconcile executionId _ => some (.execution executionId)
  | _ => none

/-- The answer to a request for an execution is to be that execution: the two calls that ask for one
do not look. -/
def AnswersTo (t : Task) (result : DownloadExecution) : Prop :=
  match t with
  | .load executionId _ => result.id = executionId
  | .reconcile executionId _ => result.id = executionId
  | _ => True

/-- An event is in turn.  A reconciliation is asked for the execution that is shown, and an intent
that is not prepared is submitted for the approval that is shown.  An answer that is accepted is
about what the most recent call was about, and is the execution that was asked for. -/
def InTurn (events : List Event) (e : Event) (c : Config) : Prop :=
  match e with
  | .call (.executeIntent approvalId _) =>
      c.state.preparedSecret approvalId = none →
        ∀ execution ∈ c.state.selected, execution.approvalId = approvalId
  | .call (.reconcile executionId _) =>
      ∀ execution ∈ c.state.selected, execution.id = executionId
  | .settle _ t r =>
      ∀ result ∈ answered t r, Accepted c.state t →
        t.subject = latest events ∧ AnswersTo t result
  | _ => True

/-- A call in turn. -/
theorem shows_invoke {events : List Event} {operation : Call} {c : Config}
    (h : Shows c.state.selected (latest events)) (hturn : InTurn events (.call operation) c) :
    Shows (invoke operation c.state).state.selected (latest (events ++ [.call operation])) := by
  cases operation with
  | createIntent approvalId launchMode =>
      rw [latest_append_none rfl]
      exact h
  | executeIntent approvalId idempotencyKey =>
      rw [latest_append_some rfl]
      simp only [invoke, State.executeIntent]
      cases hsecret : c.state.preparedSecret approvalId with
      | none =>
          intro execution hexecution
          exact ⟨_, rfl, hturn hsecret execution hexecution⟩
      | some secret => exact shows_none _
  | discardIntent =>
      rw [latest_append_none rfl]
      exact h
  | resetControl => exact shows_none _
  | loadList status requestedPage =>
      rw [latest_append_none rfl]
      exact h
  | load executionId => exact shows_none _
  | loadForApproval approvalId => exact shows_none _
  | reconcile executionId reason =>
      rw [latest_append_some rfl]
      intro execution hexecution
      exact ⟨_, rfl, hturn execution hexecution⟩

/-- A submission that failed shows nothing, or leaves what is shown. -/
theorem selected_executeIntentFailed (s : State) (currentAction : ℕ) (caught : Caught) :
    (s.executeIntentFailed currentAction caught).selected = none ∨
      (s.executeIntentFailed currentAction caught).selected = s.selected := by
  unfold State.executeIntentFailed
  split_ifs
  · exact Or.inl rfl
  · exact Or.inr rfl

/-- A lookup that failed shows nothing. -/
theorem selected_loadForApprovalFailed (s : State) (caught : Caught) :
    (s.loadForApprovalFailed caught).selected = none := by
  unfold State.loadForApprovalFailed
  split_ifs <;> rfl

/-- What is shown after an answer: nothing, what was shown before, or the answer, which then was
accepted and is about what was asked for. -/
def Outcome (t : Task) (r : Answer t) (s : State) : Prop :=
  (settleState t r s).selected = none ∨ (settleState t r s).selected = s.selected ∨
    ∃ result ∈ answered t r, Accepted s t ∧ (settleState t r s).selected = some result ∧
      ∀ subject ∈ t.subject, AnswersTo t result → result.BelongsTo subject

theorem outcome_createIntent (s : State) (approvalId : String) (launchMode : DownloadLaunchMode)
    (currentAction : ℕ) (r : Except Caught ExecutionIntent) :
    (s.intentCreated approvalId launchMode currentAction r).selected = s.selected := by
  cases r <;>
    simp only [State.intentCreated, State.createIntentFailed, apply_ite State.selected, ite_self]

theorem outcome_executeIntent (s : State) (approvalId : String) (secret : IntentSecret)
    (idempotencyKey : String) (currentAction : ℕ) (r : Except Caught DownloadExecution) :
    Outcome (.executeIntent approvalId secret idempotencyKey currentAction) r s := by
  cases r with
  | error caught =>
      rcases selected_executeIntentFailed s currentAction caught with h | h
      · exact Or.inl h
      · exact Or.inr (Or.inl h)
  | ok result =>
      by_cases hstale : currentAction ≠ s.actionGeneration
      · have hsettle : s.intentExecuted approvalId secret currentAction (.ok result) = s :=
          if_pos hstale
        exact Or.inr (Or.inl (congrArg State.selected hsettle))
      · by_cases hwrong : result.approvalId ≠ approvalId ∨ result.intentId ≠ secret.intentId
        · have hsettle : s.intentExecuted approvalId secret currentAction (.ok result) =
              s.executeIntentFailed currentAction
                (newError "下载执行响应与当前审批或执行意图不一致，请刷新后重试") :=
            (if_neg hstale).trans (if_pos hwrong)
          rcases selected_executeIntentFailed s currentAction
            (newError "下载执行响应与当前审批或执行意图不一致，请刷新后重试") with h | h
          · exact Or.inl ((congrArg State.selected hsettle).trans h)
          · exact Or.inr (Or.inl ((congrArg State.selected hsettle).trans h))
        · right; right
          refine ⟨result, rfl, not_not.mp hstale, ?_, ?_⟩
          · simp only [settleState, State.intentExecuted, if_neg hstale, if_neg hwrong]
          · rintro subject hsubject -
            cases hsubject
            exact not_not.mp (not_or.mp hwrong).1

theorem outcome_load (s : State) (executionId : String) (current : ℕ)
    (r : Except Caught DownloadExecution) : Outcome (.load executionId current) r s := by
  by_cases hcurrent : current = s.generation
  · cases r with
    | error caught =>
        left
        simp only [settleState, State.loaded, if_pos hcurrent]
    | ok result =>
        right; right
        refine ⟨result, rfl, hcurrent, ?_, ?_⟩
        · simp only [settleState, State.loaded, if_pos hcurrent]
        · rintro subject hsubject hanswers
          cases hsubject
          exact hanswers
  · right; left
    exact congrArg State.selected (if_neg hcurrent)

theorem outcome_loadForApproval (s : State) (approvalId : String) (current : ℕ)
    (r : Except Caught DownloadExecution) : Outcome (.loadForApproval approvalId current) r s := by
  by_cases hcurrent : current = s.generation
  · cases r with
    | error caught =>
        left
        simp only [settleState, State.approvalLoaded, if_pos hcurrent]
        exact selected_loadForApprovalFailed s caught
    | ok result =>
        by_cases hwrong : result.approvalId ≠ approvalId
        · left
          simp only [settleState, State.approvalLoaded, if_pos hcurrent, if_pos hwrong]
          exact selected_loadForApprovalFailed s _
        · right; right
          refine ⟨result, rfl, hcurrent, ?_, ?_⟩
          · simp only [settleState, State.approvalLoaded, if_pos hcurrent, if_neg hwrong]
          · rintro subject hsubject -
            cases hsubject
            exact not_not.mp hwrong
  · right; left
    exact congrArg State.selected (if_neg hcurrent)

theorem outcome_reconcile (s : State) (executionId reason : String)
    (r : Except Caught DownloadExecution) : Outcome (.reconcile executionId reason) r s := by
  cases r with
  | error caught => exact Or.inr (Or.inl rfl)
  | ok result =>
      right; right
      refine ⟨result, rfl, trivial, rfl, ?_⟩
      rintro subject hsubject hanswers
      cases hsubject
      exact hanswers

/-- **What an answer may show**, whatever request it answers. -/
theorem outcome_settle (t : Task) (r : Answer t) (s : State) : Outcome t r s := by
  cases t with
  | createIntent approvalId launchMode currentAction =>
      exact Or.inr (Or.inl (outcome_createIntent s approvalId launchMode currentAction r))
  | executeIntent approvalId secret idempotencyKey currentAction =>
      exact outcome_executeIntent s approvalId secret idempotencyKey currentAction r
  | loadList status requestedPage pageSize current =>
      right; left
      simp only [settleState, State.listLoaded]
      split_ifs
      · cases r <;> rfl
      · rfl
  | load executionId current => exact outcome_load s executionId current r
  | loadForApproval approvalId current => exact outcome_loadForApproval s approvalId current r
  | reconcile executionId reason => exact outcome_reconcile s executionId reason r

/-- An answer in turn. -/
theorem shows_settle {events : List Event} {ticket : ℕ} {t : Task} {r : Answer t} {c : Config}
    (h : Shows c.state.selected (latest events))
    (hturn : InTurn events (.settle ticket t r) c) :
    Shows (settleState t r c.state).selected (latest (events ++ [.settle ticket t r])) := by
  rw [latest_append_none rfl]
  rcases outcome_settle t r c.state with
    hnone | hsame | ⟨result, hresult, haccepted, hshown, hbelongs⟩
  · rw [hnone]
    exact shows_none _
  · rw [hsame]
    exact h
  · obtain ⟨hlatest, hanswers⟩ := hturn result hresult haccepted
    rw [hshown, ← hlatest]
    intro execution hexecution
    cases hexecution
    obtain ⟨subject, hsubject⟩ : ∃ subject, t.subject = some subject := by
      cases t <;> first | exact ⟨_, rfl⟩ | cases hresult
    exact ⟨subject, hsubject, hbelongs subject hsubject hanswers⟩

/-! ### What the counters keep out -/

/-- No answer advances a counter. -/
theorem counters_settleState (t : Task) (r : Answer t) (s : State) :
    (settleState t r s).generation = s.generation ∧
      (settleState t r s).actionGeneration = s.actionGeneration := by
  cases t <;> cases r <;>
    simp only [settleState, State.intentCreated, State.createIntentFailed, State.intentExecuted,
      State.executeIntentFailed, State.listLoaded, State.loaded, State.approvalLoaded,
      State.loadForApprovalFailed, State.reconciled, apply_ite State.generation,
      apply_ite State.actionGeneration, ite_self, and_self]

/-- The calls that load advance the counter of what is loaded. -/
def Call.Loads : Call → Prop
  | .loadList .. => True
  | .load _ => True
  | .loadForApproval _ => True
  | .resetControl => True
  | _ => False

/-- The calls that always advance the counter of the actions; a submission does where an intent is
prepared. -/
def Call.Acts : Call → Prop
  | .createIntent .. => True
  | .loadForApproval _ => True
  | .resetControl => True
  | _ => False

/-- A call takes no counter back, and the requests that it leaves behind remember where it is. -/
theorem counters_invoke (operation : Call) (s : State) :
    s.generation ≤ (invoke operation s).state.generation ∧
      s.actionGeneration ≤ (invoke operation s).state.actionGeneration ∧
      ∀ t ∈ (invoke operation s).tasks, Accepted (invoke operation s).state t := by
  cases operation with
  | executeIntent approvalId idempotencyKey =>
      simp only [invoke, State.executeIntent]
      cases s.preparedSecret approvalId with
      | none => simp
      | some secret => simp [Accepted, State.discardIntent]
  | _ =>
      simp [invoke, State.createIntent, State.discardIntent, State.resetControl, State.loadList,
        State.load, State.loadForApproval, State.reconcile, Accepted]

/-- The counter of what is loaded. -/
def loadCounter : store.Counter where
  count s := s.generation
  remembered
    | .loadList _ _ _ current => some current
    | .load _ current => some current
    | .loadForApproval _ current => some current
    | _ => none
  advances := Call.Loads
  invoke_le operation s := (counters_invoke operation s).1
  invoke_lt operation s h := by
    cases operation <;> first | exact h.elim | exact Nat.lt_succ_self s.generation
  invoke_remembered operation s t ht n hn := by
    have haccepted := (counters_invoke operation s).2.2 t ht
    cases t <;> cases hn <;> exact Nat.le_of_eq haccepted
  settle_le t r s := Nat.le_of_eq (counters_settleState t r s).1.symm
  settle_remembered _ _ _ _ ht := absurd ht List.not_mem_nil

/-- The counter of the actions. -/
def actionCounter : store.Counter where
  count s := s.actionGeneration
  remembered
    | .createIntent _ _ currentAction => some currentAction
    | .executeIntent _ _ _ currentAction => some currentAction
    | _ => none
  advances := Call.Acts
  invoke_le operation s := (counters_invoke operation s).2.1
  invoke_lt operation s h := by
    cases operation <;> first | exact h.elim | exact Nat.lt_succ_self s.actionGeneration
  invoke_remembered operation s t ht n hn := by
    have haccepted := (counters_invoke operation s).2.2 t ht
    cases t <;> cases hn <;> exact Nat.le_of_eq haccepted
  settle_le t r s := Nat.le_of_eq (counters_settleState t r s).2.symm
  settle_remembered _ _ _ _ ht := absurd ht List.not_mem_nil

/-- A call keeps the answer to an earlier request from being accepted: loading that to what was
being loaded, and an action that to an action.  Nothing keeps out that to a reconciliation. -/
def Overtakes (operation : Call) : Task → Prop
  | .loadList .. => operation.Loads
  | .load .. => operation.Loads
  | .loadForApproval .. => operation.Loads
  | .createIntent .. => operation.Acts
  | .executeIntent .. => operation.Acts
  | .reconcile .. => False

/-- **Which calls were made since the one whose answer is accepted**: in every run, none that
overtakes it. -/
theorem accepted_since
    {condition : List Event → Event → Config → Prop} {events : List Event} {c : Config}
    (hreached : store.Reaches condition events c) {ticket : ℕ} {t : Task}
    (hpending : (ticket, t) ∈ c.pending) (haccepted : Accepted c.state t) {operation : Call}
    (hsince : .call operation ∈ events.drop (ticket + 1)) : ¬ Overtakes operation t := by
  intro hovertakes
  have hload := ((loadCounter.none_since hreached).2 _ hpending).2
  have haction := ((actionCounter.none_since hreached).2 _ hpending).2
  cases t with
  | createIntent approvalId launchMode currentAction =>
      exact (haction currentAction rfl).2 haccepted _ hsince ⟨operation, rfl, hovertakes⟩
  | executeIntent approvalId secret idempotencyKey currentAction =>
      exact (haction currentAction rfl).2 haccepted _ hsince ⟨operation, rfl, hovertakes⟩
  | loadList status requestedPage pageSize current =>
      exact (hload current rfl).2 haccepted _ hsince ⟨operation, rfl, hovertakes⟩
  | load executionId current =>
      exact (hload current rfl).2 haccepted _ hsince ⟨operation, rfl, hovertakes⟩
  | loadForApproval approvalId current =>
      exact (hload current rfl).2 haccepted _ hsince ⟨operation, rfl, hovertakes⟩
  | reconcile executionId reason => exact hovertakes

/-! ### Every run -/

/-- In every run whose events are in turn, what is shown is what the most recent call was about. -/
theorem shows_of_inTurn {events : List Event} {c : Config}
    (hreached : store.Reaches InTurn events c) : Shows c.state.selected (latest events) := by
  refine hreached.invariant (P := fun events c => Shows c.state.selected (latest events)) ?_ ?_
  · exact shows_none _
  · intro events e c c' hshows hturn hstep
    cases e with
    | call operation =>
        rw [AsyncStore.step_call] at hstep
        cases hstep
        exact shows_invoke hshows hturn
    | settle ticket t r =>
        obtain ⟨-, rfl⟩ := AsyncStore.step_settle hstep
        exact shows_settle hshows hturn

/-- **What is shown is what the most recent call was about**, in every run whose events are in turn;
and in every run, an answer that is accepted was overtaken only by calls of another kind: one that
loads by a submission or a reconciliation, a submission by a call that loads an execution, another
that was refused, or a reconciliation, and a reconciliation by any. -/
theorem selected_is_latest (events : List Event) (c : Config) :
    (store.Reaches InTurn events c → Shows c.state.selected (latest events)) ∧
      (store.Reaches (fun _ _ _ => True) events c →
        ∀ (ticket : ℕ) (t : Task), (ticket, t) ∈ c.pending → Accepted c.state t →
          ∀ operation, .call operation ∈ events.drop (ticket + 1) → ¬ Overtakes operation t) :=
  ⟨fun hreached => shows_of_inTurn hreached,
    fun hreached _ _ hpending haccepted _ hsince =>
      accepted_since hreached hpending haccepted hsince⟩

/-- An execution of an approval. -/
def sampleExecution (id approvalId : String) : DownloadExecution where
  id := id
  approvalId := approvalId
  intentId := "intent-" ++ id
  status := "RECONCILIATION_REQUIRED"

/-- Two executions are loaded, one after the other; the answer to the first arrives last. -/
def loadedInTurn : List Event :=
  [.call (.load "e1"), .call (.load "e2"),
    .settle 1 (.load "e2" 2) (.ok (sampleExecution "e2" "a2")),
    .settle 0 (.load "e1" 1) (.ok (sampleExecution "e1" "a1"))]

/-- The second is shown. -/
theorem selected_is_latest_loaded :
    ∃ c, store.Reaches InTurn loadedInTurn c ∧
      c.state.selected = some (sampleExecution "e2" "a2") ∧
      Shows c.state.selected (latest loadedInTurn) := by
  have hreached : ∃ c, store.Reaches InTurn loadedInTurn c ∧
      c.state.selected = some (sampleExecution "e2" "a2") := by
    refine ⟨_, .step (.step (.step (.step .start trivial rfl) trivial rfl) ?_ rfl) ?_ rfl, rfl⟩
    · rintro result hresult -
      cases hresult
      exact ⟨rfl, rfl⟩
    · intro result _ haccepted
      have hcurrent : (1 : ℕ) = 2 := haccepted
      exact absurd hcurrent (by decide)
  obtain ⟨c, hc, hselected⟩ := hreached
  exact ⟨c, hc, hselected, (selected_is_latest _ c).1 hc⟩

/-- A reconciliation is asked for, and another execution is loaded before its answer arrives. -/
def lateReconciliation : List Event :=
  [.call (.load "e1"), .settle 0 (.load "e1" 1) (.ok (sampleExecution "e1" "a1")),
    .call (.reconcile "e1" "checked"), .call (.load "e2"),
    .settle 3 (.load "e2" 2) (.ok (sampleExecution "e2" "a2")),
    .settle 2 (.reconcile "e1" "checked") (.ok (sampleExecution "e1" "a1"))]

/-- The late answer puts the first execution back in the place of the second. -/
theorem late_reconciliation_shown :
    ¬ ∀ (events : List Event) (c : Config), store.run events = some c →
      Shows c.state.selected (latest events) := by
  intro h
  have hrun : ∃ c, store.run lateReconciliation = some c ∧
      c.state.selected = some (sampleExecution "e1" "a1") := ⟨_, rfl, rfl⟩
  obtain ⟨c, hc, hselected⟩ := hrun
  obtain ⟨about, habout, hbelongs⟩ := h _ c hc _ hselected
  have hlatest : latest lateReconciliation = some (.execution "e2") := rfl
  rw [hlatest] at habout
  cases habout
  exact absurd hbelongs (by decide)

end Executions

end LibSeek.Frontend
