/-
The store of the torrent searches.

The user interface keeps a media item, the searches for it and the candidates of the search that is
shown in a store.  Loading, choosing a search, refreshing it, creating one and confirming a download
all wait for the server and write to the same fields.  Each remembers the generation counters that
it started with and looks at them again when its answers arrive.

An aborted request is rejected like any other that fails, so that the controllers that abort are not
modelled: a request may be rejected at any time.

Main definitions:

* `Frontend.Torrents.State`, `Frontend.Torrents.Call`, `Frontend.Torrents.Task` — the fields of the
  store, its calls, and what waits;
* `Frontend.Torrents.Resume` — what goes on once a search that was chosen has been loaded;
* `Frontend.Torrents.Note` — the requests of downloads that are sent, and the replies that block
  them;
* `Frontend.Torrents.store` — the store as a system of calls and answers.
-/

import LibSeek.Frontend.Executions

set_option relaxedAutoImplicit false
set_option autoImplicit false

namespace LibSeek.Frontend

open LibSeek.Lib

/-- The part of the runtime of the interface that is not modelled: `String.prototype.trim`. -/
class JsRuntime where
  trim : String → String

namespace Torrents

/-! ### What the server sends -/

/-- `MediaItem`, with the status as the server writes it. -/
structure MediaItem where
  id : String
  mediaType : String
  workflowStatus : String
  deriving DecidableEq, Repr

/-- `PtSiteCatalogItem`. -/
structure PtSiteCatalogItem where
  siteId : String
  displayName : String
  availableForSearch : Bool
  mediaTypes : List String
  deriving DecidableEq, Repr

/-- `PtSiteCatalog`. -/
structure PtSiteCatalog where
  defaultSiteId : Option String
  sites : List PtSiteCatalogItem
  deriving DecidableEq, Repr

/-- `TorrentSearchRun`. -/
structure TorrentSearchRun where
  id : String
  mediaId : String
  siteId : String
  status : String
  candidateCount : ℕ
  errorCode : Option String
  errorMessage : Option String
  deriving DecidableEq, Repr

/-- `TorrentCandidateResult`, with the site of its candidate. -/
structure TorrentCandidateResult where
  id : String
  searchRunId : String
  siteId : String
  deriving DecidableEq, Repr

/-- `TorrentSearchCreateRequest`. -/
structure TorrentSearchCreateRequest where
  siteId : String
  preferredResolutions : List String := []
  preferredSources : List String := []
  preferredAudio : List String := []
  preferredSubtitles : List String := []
  maxSizeBytes : Option ℕ := none
  deriving DecidableEq, Repr

/-- `ConfirmDownloadResponse`, with the fields that are looked at. -/
structure ConfirmDownloadResponse where
  outcome : String
  approvalId : String
  mediaItemId : String
  torrentCandidateId : String
  approvalPolicyFingerprint : Option String
  policyFingerprint : String
  executionApprovalId : Option String
  deriving DecidableEq, Repr

/-- `SEARCH_POLL_MAX_ATTEMPTS`. -/
def SEARCH_POLL_MAX_ATTEMPTS : ℕ := 80

/-- `SEARCH_TERMINAL_STATUSES.has(status)`. -/
def isTerminal (status : String) : Bool :=
  status ∈ ["TORRENT_REVIEW", "NO_CANDIDATE", "SEARCH_FAILED"]

/-- `hasConfirmedIdentityStatus`. -/
def hasConfirmedIdentityStatus (status : String) : Bool :=
  status ∈ ["IDENTITY_CONFIRMED", "PT_SEARCH_PENDING", "PT_SEARCHING", "TORRENT_REVIEW",
    "NO_CANDIDATE", "SEARCH_FAILED"]

/-! ### The store -/

/-- The fields of the store. -/
structure State where
  media : Option MediaItem := none
  sites : List PtSiteCatalogItem := []
  defaultSiteId : Option String := none
  selectedSiteId : String := ""
  runs : List TorrentSearchRun := []
  selectedRunId : Option String := none
  selectedRun : Option TorrentSearchRun := none
  candidates : List TorrentCandidateResult := []
  catalogLoading : Bool := false
  loading : Bool := false
  selecting : Bool := false
  autoRefreshing : Bool := false
  working : Bool := false
  catalogError : Option String := none
  error : Option String := none
  selectionError : Option String := none
  actionError : Option String := none
  notice : Option String := none
  downloadResult : Option ConfirmDownloadResponse := none
  downloadingCandidateId : Option String := none
  activeMediaId : Option String := none
  catalogGeneration : ℕ := 0
  generation : ℕ := 0
  selectionGeneration : ℕ := 0
  pollingGeneration : ℕ := 0
  actionGeneration : ℕ := 0
  downloadIdempotencyKeys : List (String × String) := []
  deriving DecidableEq, Repr

/-- The calls of the store; a confirmation comes with the random key that it may need. -/
inductive Call where
  | loadCatalog
  | chooseSite (siteId : String)
  | load (mediaId : String)
  | selectRun (searchId : String)
  | create (mediaId : String) (payload : TorrentSearchCreateRequest)
  | confirmDownload (candidateId : String) (launchMode : DownloadLaunchMode) (randomKey : String)
  | cancelSelection
  | cancelRunPolling
  | cancelAction
  | resetDownloadConfirmation
  deriving DecidableEq, Repr

/-- What `create` remembers while it follows the search that it has created. -/
structure Creation where
  mediaId : String
  runId : String
  displayName : String
  current : ℕ
  expectedGeneration : ℕ
  deriving DecidableEq, Repr

/-- What goes on once a search that was chosen has been loaded: `load`, or `create` with the number
of its attempt. -/
inductive Resume where
  | load (mediaId : String) (current : ℕ)
  | create (creation : Creation) (attempt : ℕ)
  deriving DecidableEq, Repr

/-- What the polling of a search remembers. -/
structure Polling where
  mediaId : String
  searchId : String
  expectedGeneration : ℕ
  current : ℕ
  attempt : ℕ
  deriving DecidableEq, Repr

/-- What the choice of a search remembers, and what goes on after it. -/
structure Selection where
  searchId : String
  expectedMediaId : String
  listedSite : String
  current : ℕ
  expectedGeneration : ℕ
  resume : Option Resume
  deriving DecidableEq, Repr

/-- What a confirmation remembers. -/
structure Confirmation where
  candidateId : String
  launchMode : DownloadLaunchMode
  idempotencyKey : String
  current : ℕ
  expectedGeneration : ℕ
  expectedMediaId : String
  expectedRunId : String
  deriving DecidableEq, Repr

/-- What waits: for an answer of the server, for a timer, or for its turn. -/
inductive Task where
  | catalog (previousSiteId : String) (current : ℕ)
  | load (mediaId : String) (current : ℕ)
  | select (selection : Selection)
  | resume (resume : Resume)
  | pollWait (polling : Polling)
  | pollFetch (polling : Polling) (listedSite : String)
  | create (mediaId : String) (payload : TorrentSearchCreateRequest) (displayName : String)
      (current expectedGeneration : ℕ)
  | createWait (creation : Creation) (attempt : ℕ)
  | confirm (confirmation : Confirmation)
  deriving DecidableEq, Repr

/-- What it is answered with, or rejected with. -/
def Answer : Task → Type
  | .catalog .. => Except Caught PtSiteCatalog
  | .load .. => Except Caught (MediaItem × List TorrentSearchRun)
  | .select .. => Except Caught (TorrentSearchRun × List TorrentCandidateResult)
  | .resume .. => Unit
  | .pollWait .. => Except Caught Unit
  | .pollFetch .. => Except Caught (TorrentSearchRun × List TorrentCandidateResult)
  | .create .. => Except Caught (TorrentSearchRun × Bool)
  | .createWait .. => Except Caught Unit
  | .confirm .. => Except Caught ConfirmDownloadResponse

/-- What is seen of the store: the request of a download is sent, with its key, or a reply that
blocks it is accepted. -/
inductive Note where
  | sent (candidateId : String) (launchMode : DownloadLaunchMode) (idempotencyKey : String)
  | blocked (candidateId : String) (launchMode : DownloadLaunchMode)
  deriving DecidableEq, Repr

/-- What the store does in one go. -/
abbrev StoreTurn := Turn State Task Note

/-- `cancelSelection`. -/
def State.cancelSelection (s : State) : State :=
  { s with selectionGeneration := s.selectionGeneration + 1, selecting := false }

/-- `cancelRunPolling`. -/
def State.cancelRunPolling (s : State) : State :=
  { s with pollingGeneration := s.pollingGeneration + 1, autoRefreshing := false }

/-- `cancelAction`. -/
def State.cancelAction (s : State) : State :=
  { s with actionGeneration := s.actionGeneration + 1, working := false, actionError := none }

/-- `resetDownloadConfirmation`. -/
def State.resetDownloadConfirmation (s : State) : State :=
  { s with downloadResult := none, downloadingCandidateId := none, actionError := none }

/-! ### The catalogue of the sites -/

/-- `validateCatalog`: what is wrong with a catalogue. -/
def catalogFault (result : PtSiteCatalog) : Option String :=
  if ¬ (result.sites.map (·.siteId)).Nodup then some "PT 站点目录响应包含重复站点，请刷新后重试"
  else if result.defaultSiteId.all fun siteId => siteId ∈ result.sites.map (·.siteId) then none
  else some "PT 站点目录默认项响应不一致，请刷新后重试"

/-- `chooseSite`. -/
def chooseSite (result : PtSiteCatalog) (previousSiteId : String) : String :=
  let previous := result.sites.find? (·.siteId = previousSiteId)
  let defaultSite := result.sites.find? fun site => some site.siteId = result.defaultSiteId
  let available := result.sites.find? (·.availableForSearch)
  match previous.filter (·.availableForSearch), defaultSite.filter (·.availableForSearch) with
  | some site, _ => site.siteId
  | none, some site => site.siteId
  | none, none =>
      ((available.map (·.siteId)).or ((defaultSite.map (·.siteId)).or
        (result.sites.head?.map (·.siteId)))).getD ""

/-- `loadCatalog`, until it waits. -/
def State.loadCatalog (s : State) : StoreTurn where
  state :=
    { s with
      catalogGeneration := s.catalogGeneration + 1
      sites := []
      defaultSiteId := none
      selectedSiteId := ""
      catalogLoading := true
      catalogError := none }
  tasks := [.catalog s.selectedSiteId (s.catalogGeneration + 1)]

/-- The `catch` and `finally` blocks of `loadCatalog`, where its answer is current. -/
def State.catalogFailed (s : State) (caught : Caught) : State :=
  { s with
    sites := []
    defaultSiteId := none
    selectedSiteId := ""
    catalogError := some (caught.text "加载 PT 站点目录失败")
    catalogLoading := false }

/-- `loadCatalog`, with its answer. -/
def State.catalogLoaded (s : State) (previousSiteId : String) (current : ℕ)
    (answer : Except Caught PtSiteCatalog) : State :=
  if current ≠ s.catalogGeneration then s
  else
    match answer with
    | .error caught => s.catalogFailed caught
    | .ok result =>
        match catalogFault result with
        | some message => s.catalogFailed (newError message)
        | none =>
            { s with
              sites := result.sites
              defaultSiteId := result.defaultSiteId
              selectedSiteId := chooseSite result previousSiteId
              catalogLoading := false }

/-! ### Choosing a search -/

/-- What is wrong with the answers of a search that is shown: it is another, or of another media
item or site, or its candidates are of another search or site. -/
def mismatched (run : TorrentSearchRun) (results : List TorrentCandidateResult)
    (searchId mediaId listedSite : String) : Bool :=
  run.id ≠ searchId || run.mediaId ≠ mediaId || run.siteId ≠ listedSite ||
    results.any fun result => result.searchRunId ≠ searchId || result.siteId ≠ run.siteId

/-- The message about it. -/
def mismatchMessage : String := "PT 搜索运行或候选响应身份不一致，请刷新后重试"

/-- A search and its candidates are shown. -/
def State.show (s : State) (run : TorrentSearchRun) (results : List TorrentCandidateResult) :
    State :=
  { s with
    selectedRun := some run
    runs := s.runs.map fun item => if item.id = run.id then run else item
    candidates := results }

/-- What goes on after a search was chosen. -/
def resumed : Option Resume → List Task
  | none => []
  | some resume => [.resume resume]

/-- `selectRun`, until it waits or returns, and what goes on after it. -/
def State.selectRun (s : State) (searchId : String) (resume : Option Resume) : StoreTurn :=
  let s := s.cancelRunPolling
  match s.activeMediaId.filter (· ≠ ""), s.runs.find? (·.id = searchId) with
  | some expectedMediaId, some listedRun =>
      { state :=
          { s with
            selectionGeneration := s.selectionGeneration + 1
            selectedRunId := some searchId
            selectedRun := none
            candidates := []
            selectionError := none
            selecting := true }
        tasks :=
          [.select
            { searchId
              expectedMediaId
              listedSite := listedRun.siteId
              current := s.selectionGeneration + 1
              expectedGeneration := s.generation
              resume }] }
  | _, _ =>
      { state :=
          { s.cancelSelection with
            selectedRunId := none
            selectedRun := none
            candidates := []
            selectionError := some "PT 搜索运行不存在或已变更，请刷新后重试" }
        tasks := resumed resume }

/-- The `catch` and `finally` blocks of `selectRun`, where its answer is current. -/
def State.selectionFailed (s : State) (caught : Caught) : State :=
  if isAbortError caught then { s with selecting := false }
  else
    { s with
      selectedRun := none
      candidates := []
      selectionError := some (caught.text "加载搜索结果失败")
      selecting := false }

/-- `selectRun`, with its answers. -/
def State.selected (s : State) (selection : Selection)
    (answer : Except Caught (TorrentSearchRun × List TorrentCandidateResult)) : State :=
  if selection.current ≠ s.selectionGeneration ∨
      selection.expectedGeneration ≠ s.generation then s
  else
    match answer with
    | .error caught => s.selectionFailed caught
    | .ok (run, results) =>
        if mismatched run results selection.searchId selection.expectedMediaId
            selection.listedSite then
          s.selectionFailed (newError mismatchMessage)
        else { s.show run results with selecting := false }

/-! ### Loading a media item -/

/-- `load`, until it waits. -/
def State.load (s : State) (mediaId : String) : StoreTurn where
  state :=
    { s.cancelRunPolling.cancelSelection.cancelAction with
      generation := s.generation + 1
      activeMediaId := some mediaId
      media := none
      runs := []
      selectedRunId := none
      selectedRun := none
      candidates := []
      loading := true
      error := none
      selectionError := none
      notice := none
      downloadResult := none
      downloadingCandidateId := none }
  tasks := [.load mediaId (s.generation + 1)]

/-- The `catch` and `finally` blocks of `load`, where its answer is current. -/
def State.loadFailed (s : State) (caught : Caught) : State :=
  { s with
    media := none
    runs := []
    selectedRunId := none
    selectedRun := none
    candidates := []
    error := some (caught.text "加载 PT 候选失败")
    loading := false }

/-- `load`, with its answers, until the first search has been chosen. -/
def State.loaded (s : State) (mediaId : String) (current : ℕ)
    (answer : Except Caught (MediaItem × List TorrentSearchRun)) : StoreTurn :=
  if current ≠ s.generation then { state := s }
  else
    match answer with
    | .error caught => { state := s.loadFailed caught }
    | .ok (mediaResponse, runResponse) =>
        if mediaResponse.id ≠ mediaId || ¬ (runResponse.map (·.id)).Nodup ||
            runResponse.any (·.mediaId ≠ mediaId) then
          { state := s.loadFailed (newError "PT 搜索列表响应身份不一致，请刷新后重试") }
        else
          let s := { s with media := some mediaResponse, runs := runResponse }
          match runResponse with
          | [] => { state := { s with loading := false } }
          | run :: _ => s.selectRun run.id (some (.load mediaId current))

/-- `startRunPolling`, until it waits. -/
def State.startRunPolling (s : State) (mediaId searchId : String) (expectedGeneration : ℕ) :
    StoreTurn where
  state :=
    { s.cancelRunPolling with
      pollingGeneration := s.pollingGeneration + 2
      autoRefreshing := true }
  tasks :=
    [.pollWait
      { mediaId, searchId, expectedGeneration, current := s.pollingGeneration + 2, attempt := 1 }]

/-- `load`, once the first search has been chosen. -/
def State.loadResumed (s : State) (mediaId : String) (current : ℕ) : StoreTurn :=
  if current ≠ s.generation then { state := s }
  else
    match s.selectedRun.filter fun run => !isTerminal run.status with
    | none => { state := { s with loading := false } }
    | some run =>
        let turn := s.startRunPolling mediaId run.id current
        { turn with state := { turn.state with loading := false } }

/-! ### Refreshing a search -/

section Messages

variable [JsRuntime]

/-- What is told of a search that has failed. -/
def failureText (run : TorrentSearchRun) : String :=
  let trimmed := (run.errorMessage.map JsRuntime.trim).getD ""
  let detail := if trimmed = "" then "PT 搜索失败" else trimmed
  match run.errorCode.filter (· ≠ "") with
  | some code => code ++ " · " ++ detail
  | none => detail

/-- The `finally` block of the polling. -/
def State.pollingEnded (s : State) (polling : Polling) : State :=
  if polling.current = s.pollingGeneration then { s with autoRefreshing := false } else s

/-- The `catch` and `finally` blocks of the polling. -/
def State.pollingFailed (s : State) (polling : Polling) (caught : Caught) : State :=
  if polling.current = s.pollingGeneration ∧ isAbortError caught = false then
    { s with selectionError := some (caught.text "刷新 PT 搜索结果失败") }.pollingEnded polling
  else s.pollingEnded polling

/-- The polling, once it has waited for the timer. -/
def State.pollWaited (s : State) (polling : Polling) (answer : Except Caught Unit) : StoreTurn :=
  match answer with
  | .error caught => { state := s.pollingFailed polling caught }
  | .ok _ =>
      match s.runs.find? (·.id = polling.searchId) with
      | none => { state := s.pollingEnded polling }
      | some listedRun =>
          if polling.current ≠ s.pollingGeneration ∨
              polling.expectedGeneration ≠ s.generation ∨
              s.activeMediaId ≠ some polling.mediaId ∨
              s.selectedRunId ≠ some polling.searchId then
            { state := s.pollingEnded polling }
          else { state := s, tasks := [.pollFetch polling listedRun.siteId] }

/-- What is told of a search that has ended. -/
def State.pollingTold (s : State) (run : TorrentSearchRun) : State :=
  if run.status = "SEARCH_FAILED" then { s with selectionError := some (failureText run) }
  else if run.status = "NO_CANDIDATE" then { s with notice := some "PT 搜索完成，未找到候选。" }
  else
    { s with
      notice := some ("PT 搜索完成，找到 " ++ toString run.candidateCount ++ " 个候选。") }

/-- The polling, with its answers. -/
def State.pollFetched (s : State) (polling : Polling) (listedSite : String)
    (answer : Except Caught (TorrentSearchRun × List TorrentCandidateResult)) : StoreTurn :=
  match answer with
  | .error caught => { state := s.pollingFailed polling caught }
  | .ok (run, results) =>
      if mismatched run results polling.searchId polling.mediaId listedSite then
        { state := s.pollingFailed polling (newError mismatchMessage) }
      else if polling.current ≠ s.pollingGeneration ∨
          polling.expectedGeneration ≠ s.generation ∨
          s.selectedRunId ≠ some polling.searchId then
        { state := s.pollingEnded polling }
      else if isTerminal run.status then
        { state := ((s.show run results).pollingTold run).pollingEnded polling }
      else if polling.attempt + 1 < SEARCH_POLL_MAX_ATTEMPTS then
        { state := s.show run results
          tasks := [.pollWait { polling with attempt := polling.attempt + 1 }] }
      else
        { state :=
            { s.show run results with
              notice := some "PT 搜索仍在后台运行，可稍后刷新结果。" }.pollingEnded polling }

/-! ### Creating a search -/

/-- `identityGatePassed`. -/
def State.identityGatePassed (s : State) : Bool :=
  s.media.any fun media => hasConfirmedIdentityStatus media.workflowStatus || s.runs ≠ []

/-- The `finally` block of an action. -/
def State.actionEnded (s : State) (current : ℕ) : State :=
  if current = s.actionGeneration then { s with working := false } else s

/-- The `catch` and `finally` blocks of an action. -/
def State.actionFailed (s : State) (current expectedGeneration : ℕ) (caught : Caught)
    (fallback : String) : State :=
  if current = s.actionGeneration ∧ expectedGeneration = s.generation ∧
      isAbortError caught = false then
    { s with actionError := some (caught.text fallback) }.actionEnded current
  else s.actionEnded current

/-- The site that a search is created for: it is chosen, available, and has media of the kind. -/
def State.searchSite (s : State) (mediaId : String) (payload : TorrentSearchCreateRequest) :
    Option PtSiteCatalogItem :=
  match s.media, s.sites.find? (·.siteId = payload.siteId) with
  | some media, some site =>
      if s.activeMediaId = some mediaId ∧ media.id = mediaId ∧
          s.selectedSiteId = payload.siteId ∧ site.availableForSearch = true ∧
          media.mediaType ∈ site.mediaTypes then
        some site
      else none
  | _, _ => none

/-- `create`, until it waits or fails. -/
def State.create (s : State) (mediaId : String) (payload : TorrentSearchCreateRequest) :
    StoreTurn :=
  let s := s.cancelRunPolling.cancelAction
  let current := s.actionGeneration + 1
  let s :=
    { s with actionGeneration := current, working := true, actionError := none, notice := none }
  if !s.identityGatePassed then
    { state := s.actionFailed current s.generation (newError "必须先确认影视身份，才能创建 PT 搜索")
        "创建 PT 搜索失败" }
  else
    match s.searchSite mediaId payload with
    | none =>
        { state := s.actionFailed current s.generation
            (newError "所选 PT 站点当前不可用于该媒体搜索，请刷新站点目录") "创建 PT 搜索失败" }
    | some site =>
        { state := s, tasks := [.create mediaId payload site.displayName current s.generation] }

/-- `create`, with its answer, until the new search has been chosen. -/
def State.created (s : State) (mediaId : String) (payload : TorrentSearchCreateRequest)
    (displayName : String) (current expectedGeneration : ℕ)
    (answer : Except Caught (TorrentSearchRun × Bool)) : StoreTurn :=
  match answer with
  | .error caught =>
      { state := s.actionFailed current expectedGeneration caught "创建 PT 搜索失败" }
  | .ok (result, deduplicated) =>
      if current ≠ s.actionGeneration ∨ expectedGeneration ≠ s.generation ∨
          s.activeMediaId ≠ some mediaId then
        { state := s.actionEnded current }
      else if result.mediaId ≠ mediaId ∨ result.siteId ≠ payload.siteId then
        { state := s.actionFailed current expectedGeneration
            (newError "新建 PT 搜索响应身份不一致，请刷新后重试") "创建 PT 搜索失败" }
      else
        let text := if deduplicated then " 已有搜索正在运行，正在等待结果。"
          else " 搜索已创建，正在等待结果。"
        { s with
          runs := result :: s.runs.filter (·.id ≠ result.id)
          notice := some (displayName ++ text) }.selectRun result.id
            (some (.create ⟨mediaId, result.id, displayName, current, expectedGeneration⟩ 0))

/-- `create`, once the new search has been chosen. -/
def State.createResumed (s : State) (creation : Creation) (attempt : ℕ) : StoreTurn :=
  let fail := fun (message : String) =>
    s.actionFailed creation.current creation.expectedGeneration (newError message) "创建 PT 搜索失败"
  if creation.current ≠ s.actionGeneration ∨ creation.expectedGeneration ≠ s.generation ∨
      s.activeMediaId ≠ some creation.mediaId then
    { state := s.actionEnded creation.current }
  else
    match s.selectionError.filter (· ≠ ""), s.selectedRun with
    | some message, _ => { state := fail message }
    | none, none => { state := fail "PT 搜索状态暂时不可用" }
    | none, some run =>
        if run.status = "SEARCH_FAILED" then
          { state :=
              { s with
                actionError := some (failureText run)
                notice := none }.actionEnded creation.current }
        else if isTerminal run.status then
          let text := if run.status = "NO_CANDIDATE" then " 搜索完成，未找到候选。"
            else " 搜索完成，找到 " ++ toString run.candidateCount ++ " 个候选。"
          { state :=
              { s with
                notice := some (creation.displayName ++ text) }.actionEnded creation.current }
        else if attempt + 1 < SEARCH_POLL_MAX_ATTEMPTS then
          { state :=
              { s with
                notice := some (creation.displayName ++ " 搜索仍在进行（" ++ toString (attempt + 1) ++
                  "/" ++ toString SEARCH_POLL_MAX_ATTEMPTS ++ "）…") }
            tasks := [.createWait creation (attempt + 1)] }
        else
          { state :=
              { s with
                notice := some (creation.displayName ++
                  " 搜索等待超时；任务可能仍在后台运行，可稍后刷新结果。") }.actionEnded
                    creation.current }

/-- `create`, once it has waited for the timer. -/
def State.createWaited (s : State) (creation : Creation) (attempt : ℕ)
    (answer : Except Caught Unit) : StoreTurn :=
  match answer with
  | .error caught =>
      { state := s.actionFailed creation.current creation.expectedGeneration caught
          "创建 PT 搜索失败" }
  | .ok _ => s.selectRun creation.runId (some (.create creation attempt))

end Messages

/-! ### Confirming a download -/

/-- The text of a launch mode. -/
def launchModeText : DownloadLaunchMode → String
  | .addPaused => "ADD_PAUSED"
  | .startImmediately => "START_IMMEDIATELY"

/-- The key of the map of the keys: the candidate and the launch mode. -/
def keyScope (candidateId : String) (launchMode : DownloadLaunchMode) : String :=
  candidateId ++ ":" ++ launchModeText launchMode

/-- `Map.get`. -/
def getKey (keys : List (String × String)) (scope : String) : Option String :=
  keys.lookup scope

/-- `Map.set`. -/
def setKey (keys : List (String × String)) (scope key : String) : List (String × String) :=
  (scope, key) :: keys.filter (·.1 ≠ scope)

/-- `Map.delete`. -/
def deleteKey (keys : List (String × String)) (scope : String) : List (String × String) :=
  keys.filter (·.1 ≠ scope)

/-- The message of a candidate that is not shown. -/
def candidateChanged : String := "所选候选已变更，请刷新后重新选择"

/-- `confirmDownload`, until it waits or fails. -/
def State.confirmDownload (s : State) (candidateId : String) (launchMode : DownloadLaunchMode)
    (randomKey : String) : StoreTurn :=
  let s := s.cancelAction
  let current := s.actionGeneration + 1
  let scope := keyScope candidateId launchMode
  let idempotencyKey := (getKey s.downloadIdempotencyKeys scope).getD randomKey
  let s :=
    { s with
      actionGeneration := current
      working := true
      actionError := none
      downloadResult := none
      downloadingCandidateId := some candidateId
      downloadIdempotencyKeys := setKey s.downloadIdempotencyKeys scope idempotencyKey }
  match s.activeMediaId.filter (· ≠ ""), s.selectedRun.filter (·.id ≠ ""),
    s.candidates.find? (·.id = candidateId) with
  | some expectedMediaId, some run, some candidate =>
      if candidate.searchRunId ≠ run.id then
        { state := s.actionFailed current s.generation (newError candidateChanged) "确认下载失败" }
      else
        { state := s
          tasks :=
            [.confirm
              { candidateId
                launchMode
                idempotencyKey
                current
                expectedGeneration := s.generation
                expectedMediaId
                expectedRunId := run.id }]
          notes := [.sent candidateId launchMode idempotencyKey] }
  | _, _, _ =>
      { state := s.actionFailed current s.generation (newError candidateChanged) "确认下载失败" }

/-- What is wrong with the reply to a confirmation: it is not about the candidate, or its execution
does not fit its outcome. -/
def confirmationFault (confirmation : Confirmation) (result : ConfirmDownloadResponse) :
    Option String :=
  if result.mediaItemId ≠ confirmation.expectedMediaId ∨
      result.torrentCandidateId ≠ confirmation.candidateId ∨
      result.approvalPolicyFingerprint ≠ some result.policyFingerprint then
    some "下载确认响应与当前候选不一致，请刷新后重试"
  else if result.outcome = "EXECUTION_CREATED" ∨ result.outcome = "EXECUTION_REPLAYED" then
    if result.executionApprovalId = some result.approvalId then none
    else some "下载执行响应绑定无效，请前往下载页面核对"
  else if result.outcome = "PREFLIGHT_BLOCKED" then
    if result.executionApprovalId.isSome then some "预检阻断响应包含异常执行记录，请刷新后重试"
    else none
  else some "下载确认返回了未知状态，请刷新后重试"

/-- `confirmDownload`, with its answer. -/
def State.downloadConfirmed (s : State) (confirmation : Confirmation)
    (answer : Except Caught ConfirmDownloadResponse) : StoreTurn :=
  match answer with
  | .error caught =>
      { state := s.actionFailed confirmation.current confirmation.expectedGeneration caught
          "确认下载失败" }
  | .ok result =>
      if confirmation.current ≠ s.actionGeneration ∨
          confirmation.expectedGeneration ≠ s.generation ∨
          s.activeMediaId ≠ some confirmation.expectedMediaId ∨
          s.selectedRun.map (·.id) ≠ some confirmation.expectedRunId then
        { state := s.actionEnded confirmation.current }
      else
        match confirmationFault confirmation result with
        | some message =>
            { state := s.actionFailed confirmation.current confirmation.expectedGeneration
                (newError message) "确认下载失败" }
        | none =>
            if result.outcome = "PREFLIGHT_BLOCKED" then
              { state :=
                  { s with
                    downloadIdempotencyKeys := deleteKey s.downloadIdempotencyKeys
                      (keyScope confirmation.candidateId confirmation.launchMode)
                    notice := none
                    downloadResult := some result }.actionEnded confirmation.current
                notes := [.blocked confirmation.candidateId confirmation.launchMode] }
            else
              { state :=
                  { s with
                    notice := some "已通过预检并加入下载队列。"
                    downloadResult := some result }.actionEnded confirmation.current }

/-! ### The system -/

section System

variable [JsRuntime]

/-- A call of the store. -/
def invoke : Call → State → StoreTurn
  | .loadCatalog, s => s.loadCatalog
  | .chooseSite siteId, s => { state := { s with selectedSiteId := siteId } }
  | .load mediaId, s => s.load mediaId
  | .selectRun searchId, s => s.selectRun searchId none
  | .create mediaId payload, s => s.create mediaId payload
  | .confirmDownload candidateId launchMode randomKey, s =>
      s.confirmDownload candidateId launchMode randomKey
  | .cancelSelection, s => { state := s.cancelSelection }
  | .cancelRunPolling, s => { state := s.cancelRunPolling }
  | .cancelAction, s => { state := s.cancelAction }
  | .resetDownloadConfirmation, s => { state := s.resetDownloadConfirmation }

/-- What goes on with an answer. -/
def settle : (t : Task) → Answer t → State → StoreTurn
  | .catalog previousSiteId current, r, s => { state := s.catalogLoaded previousSiteId current r }
  | .load mediaId current, r, s => s.loaded mediaId current r
  | .select selection, r, s =>
      { state := s.selected selection r, tasks := resumed selection.resume }
  | .resume (.load mediaId current), _, s => s.loadResumed mediaId current
  | .resume (.create creation attempt), _, s => s.createResumed creation attempt
  | .pollWait polling, r, s => s.pollWaited polling r
  | .pollFetch polling listedSite, r, s => s.pollFetched polling listedSite r
  | .create mediaId payload displayName current expectedGeneration, r, s =>
      s.created mediaId payload displayName current expectedGeneration r
  | .createWait creation attempt, r, s => s.createWaited creation attempt r
  | .confirm confirmation, r, s => s.downloadConfirmed confirmation r

/-- `useTorrentStore`. -/
def store : AsyncStore State Call Task Note Answer where
  initial := {}
  invoke := invoke
  settle := settle

end System

end Torrents

end LibSeek.Frontend
